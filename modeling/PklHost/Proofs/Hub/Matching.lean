import PklHost.Proofs.Hub.Replies

/-!
# Answers reach the calls they are for

`MatchesAnswers` says of a run that no call is answered for another.  A call returns once; what it returns
of the server is the first answer to its own request, by evaluator id and request id, that the loop brought
to its end while the request waited; any other frame leaves the call and its request as they are, and a
frame for nobody leaves everything but the log; and nothing of a call that has returned waits any more.

A call is deaf once nothing can be delivered to it: it has an answer, or its session is lost.  It is deaf
after the first answer that it waited for, whether that reached it or was dropped, and it stays so.
-/

namespace PklHost.Hub

open Message (CreateOutcome EvaluateOutcome Incoming)

variable {h : Hub}

/-! ## Replies -/

/-- The request of a call waits in the session of its evaluator. -/
def EvaluateWaits (i : Nat) (evaluatorId requestId : Int64) (h : Hub) : Prop :=
  ∃ call session, h.evaluates[i]? = some call ∧ h.sessions[call.session]? = some session ∧
    session.evaluatorId = evaluatorId ∧ (requestId, i) ∈ session.pending.waiting

/-- The request of a call that creates waits. -/
def CreateWaits (i : Nat) (requestId : Int64) (h : Hub) : Prop :=
  (requestId, i) ∈ h.connection.creates.waiting

/-- The next step of the loop is done with an answer for which the call waits: one with its evaluator id
and its request id. -/
def EvaluateReply (i : Nat) (m : EvaluateOutcome) (h : Hub) : Prop :=
  h.handled? = some (.evaluateResponse m) ∧ EvaluateWaits i m.evaluatorId m.requestId h

/-- The next step of the loop is done with an answer for which the call waits: one with its request id. -/
def CreateReply (i : Nat) (m : CreateOutcome) (h : Hub) : Prop :=
  h.handled? = some (.createEvaluatorResponse m) ∧ CreateWaits i m.requestId h

def evaluateOutcome? (i : Nat) (h : Hub) : Option (Except EvaluatorError Bytes) :=
  h.evaluates[i]?.bind fun call => call.stage.outcome?

def createOutcome? (i : Nat) (h : Hub) : Option (Except EvaluatorError Nat) :=
  h.creates[i]?.bind fun call => call.stage.outcome?

/-- What a message tells a call that evaluates: an error text wins over a result, and a message with
neither is not an answer that was expected. -/
inductive EvaluateTells (m : EvaluateOutcome) : Except EvaluatorError Bytes → Prop
  | error {text : String} (herror : m.error = some text) :
      EvaluateTells m (.error (.evaluation text))
  | result {octets : Bytes} (herror : m.error = none) (hresult : m.result = some octets) :
      EvaluateTells m (.ok octets)
  | neither (herror : m.error = none) (hresult : m.result = none) :
      EvaluateTells m (.error (.unexpectedResult "result bytes" "empty evaluate response"))

/-- What a message tells a call that creates: an error text wins over an evaluator id, and the session
that the call returns is one of that evaluator. -/
inductive CreateTells (m : CreateOutcome) (h : Hub) : Except EvaluatorError Nat → Prop
  | error {text : String} (herror : m.error = some text) :
      CreateTells m h (.error (.createFailed text))
  | entered {evaluatorId : Int64} {s : Nat} (herror : m.error = none)
      (hid : m.evaluatorId = some evaluatorId) (hat : h.evaluatorIds[s]? = some evaluatorId) :
      CreateTells m h (.ok s)
  | neither (herror : m.error = none) (hid : m.evaluatorId = none) :
      CreateTells m h
        (.error (.createFailed "response carried neither an evaluator id nor an error"))

/-- No call of a run is answered for another. -/
structure MatchesAnswers (h : Hub) (actions : List Action) : Prop where
  /-- A call that evaluates returns at most once. -/
  evaluate_once : ∀ i before before' o o', Returns (evaluateOutcome? i) h actions before o →
    Returns (evaluateOutcome? i) h actions before' o' → before = before'
  /-- What it returns of the server is what the first reply to it tells. -/
  evaluate_reply : ∀ i before o, Returns (evaluateOutcome? i) h actions before o → FromServer o →
    ∃ m, FirstReply (EvaluateReply i) h before m ∧ EvaluateTells m o
  /-- Any frame that is no reply to it leaves it alone. -/
  evaluate_frame : ∀ i before after, actions = before ++ .loop :: after →
    (∀ m, ¬ EvaluateReply i m (h.run before)) →
    (h.run (before ++ [.loop])).evaluates[i]? = (h.run before).evaluates[i]? ∧
      ∀ evaluatorId requestId, EvaluateWaits i evaluatorId requestId (h.run (before ++ [.loop])) ↔
        EvaluateWaits i evaluatorId requestId (h.run before)
  /-- Once it has returned, no session keeps a request of it. -/
  evaluate_gone : ∀ i before past after o, Returns (evaluateOutcome? i) h actions before o →
    actions = past ++ after → before.length < past.length →
    ∀ session ∈ (h.run past).sessions, ∀ requestId, (requestId, i) ∉ session.pending.waiting
  /-- A call that creates returns at most once. -/
  create_once : ∀ i before before' o o', Returns (createOutcome? i) h actions before o →
    Returns (createOutcome? i) h actions before' o' → before = before'
  /-- What it returns of the server is what the first reply to it tells. -/
  create_reply : ∀ i before o, Returns (createOutcome? i) h actions before o → FromServer o →
    ∃ m, FirstReply (CreateReply i) h before m ∧ CreateTells m (h.run actions) o
  /-- Any frame that is no reply to it leaves it alone. -/
  create_frame : ∀ i before after, actions = before ++ .loop :: after →
    (∀ m, ¬ CreateReply i m (h.run before)) →
    (h.run (before ++ [.loop])).creates[i]? = (h.run before).creates[i]? ∧
      ∀ requestId, CreateWaits i requestId (h.run (before ++ [.loop])) ↔
        CreateWaits i requestId (h.run before)
  /-- Once it has returned, the connection keeps no request of it. -/
  create_gone : ∀ i before past after o, Returns (createOutcome? i) h actions before o →
    actions = past ++ after → before.length < past.length →
    ∀ requestId, ¬ CreateWaits i requestId (h.run past)
  /-- Of a frame that is no reply to any call, be it for an unknown evaluator or request or no message at
  all, only the log tells afterwards, unless the server asks for something; and the loop goes on. -/
  stray : ∀ before after, actions = before ++ .loop :: after → (h.run before).TakesFrame →
    (∀ i m, ¬ EvaluateReply i m (h.run before)) → (∀ i m, ¬ CreateReply i m (h.run before)) →
    OnlyNotes (h.run before) (h.run (before ++ [.loop]))

/-! ## Calls that evaluate -/

theorem evaluateTells_evaluateAnswer (m : EvaluateOutcome) : EvaluateTells m (evaluateAnswer m) := by
  unfold evaluateAnswer
  split
  · next text herror => exact .error herror
  · next octets hresult herror => exact .result herror hresult
  · next hresult herror => exact .neither herror hresult

/-- The session at a place in the list of evaluator ids. -/
theorem session_of_evaluatorId {s : Nat} {evaluatorId : Int64}
    (hat : h.evaluatorIds[s]? = some evaluatorId) :
    ∃ session, h.sessions[s]? = some session ∧ session.evaluatorId = evaluatorId := by
  unfold evaluatorIds at hat
  rw [List.getElem?_map] at hat
  exact Option.map_eq_some_iff.1 hat

theorem evaluateWaits_iff (hsound : h.Sound) {i : Nat} {evaluatorId requestId : Int64} :
    EvaluateWaits i evaluatorId requestId h ↔
      ∃ s, h.evaluateDesk.Waits s requestId i ∧ h.evaluatorIds[s]? = some evaluatorId := by
  constructor
  · rintro ⟨call, session, hcall, hsession, rfl, hmem⟩
    exact ⟨call.session, evaluateDesk_waits.2 ⟨session, hsession, hmem⟩,
      evaluatorIds_getElem? hsession⟩
  · rintro ⟨s, hw, hat⟩
    -- whoever waits in a session has a call there
    obtain ⟨slip, hslip, hs, -⟩ := hsound.evaluateTidy.waits hw
    obtain ⟨call, hcall, rfl⟩ := evaluate_of_slip hslip
    obtain rfl : call.session = s := hs
    obtain ⟨session, hsession, hmem⟩ := evaluateDesk_waits.1 hw
    obtain ⟨session', hsession', hid⟩ := session_of_evaluatorId hat
    obtain rfl : session = session' := Option.some.inj (hsession.symm.trans hsession')
    exact ⟨call, session, hcall, hsession, hid, hmem⟩

def evaluateCounter : Counter Bytes EvaluateStage (Except EvaluatorError Bytes) where
  course := evaluateCourse
  desk := evaluateDesk
  Source := EvaluateSource
  tidy hsound := hsound.evaluateTidy
  steps _ a := evaluateDesk_step _ a

theorem evaluateOutcome?_eq (i : Nat) : evaluateOutcome? i = evaluateCounter.outcome? i := by
  funext h
  show h.evaluates[i]?.bind _ = (h.evaluates.map EvaluateCall.slip)[i]?.bind _
  rw [List.getElem?_map, Option.bind_map]
  rfl

/-- An answer for which a call waits in the session that the loop gives it to. -/
theorem evaluateReply_of_routed (hsound : h.Sound) {s i : Nat} {m : EvaluateOutcome}
    (hloop : h.loop = .routed s (.evaluateResponse m)) (hw : h.evaluateDesk.Waits s m.requestId i) :
    EvaluateReply i m h := by
  obtain ⟨id, hm, hat⟩ := hsound.routes.routed hloop
  obtain rfl : m.evaluatorId = id := Option.some.inj hm
  exact ⟨handled?_of_routed hloop, (evaluateWaits_iff hsound).2 ⟨s, hw, hat⟩⟩

/-- Nothing can be delivered to the call any more. -/
def EvaluateDeaf (i : Nat) (h : Hub) : Prop :=
  ∃ slip, h.evaluateDesk.slips[i]? = some slip ∧ ((∃ x, slip.answer = some x) ∨ Lost slip.tray h)

theorem evaluateDeaf_step (hsound : h.Sound) {i : Nat} (hdeaf : EvaluateDeaf i h) (a : Action) :
    EvaluateDeaf i (h.step a) := by
  obtain ⟨slip, hslip, hwhy⟩ := hdeaf
  obtain ⟨slip', hslip', htray, hkeeps, -⟩ :=
    (evaluateDesk_step h a).keeps hsound.evaluateTidy hslip
  refine ⟨slip', hslip', ?_⟩
  rcases hwhy with ⟨x, hx⟩ | hlost
  · exact .inl ⟨x, hkeeps x hx⟩
  · rw [htray]
    exact .inr (hlost.step a)

/-- A message that was handled on its way to a session, or because its evaluator has none. -/
theorem handled?_evaluate {m : EvaluateOutcome}
    (hhandled : h.handled? = some (.evaluateResponse m)) :
    (∃ s, h.loop = .routed s (.evaluateResponse m)) ∨
      (h.loop = .reading ∧ h.connection.session? m.evaluatorId = none) := by
  unfold handled? at hhandled
  cases hloop : h.loop with
  | routed s m' =>
      rw [hloop] at hhandled
      obtain rfl : m' = .evaluateResponse m := Option.some.inj hhandled
      exact .inl ⟨s, rfl⟩
  | reading =>
      rw [hloop] at hhandled
      dsimp only at hhandled
      split at hhandled
      · split at hhandled
        · next id hid =>
            split at hhandled
            · cases hhandled
            · next hnone =>
                obtain rfl := Option.some.inj hhandled
                obtain rfl := Option.some.inj hid
                exact .inr ⟨rfl, by simpa using hnone⟩
        · next hid =>
            obtain rfl := Option.some.inj hhandled
            cases hid
      · cases hhandled
      · cases hhandled
      · cases hhandled
  | _ =>
      rw [hloop] at hhandled
      cases hhandled

/-- After the first reply the call is deaf: it has it, or the reply was dropped because no message leads to
its session any more. -/
theorem evaluateDeaf_of_reply (hsound : h.Sound) (hdistinct : h.DistinctSessions) {i : Nat}
    {m : EvaluateOutcome} (hreply : EvaluateReply i m h) : EvaluateDeaf i (h.step .loop) := by
  obtain ⟨hhandled, hwaits⟩ := hreply
  obtain ⟨s, hw, hat⟩ := (evaluateWaits_iff hsound).1 hwaits
  rcases handled?_evaluate hhandled with ⟨s', hloop⟩ | ⟨hloop, hnone⟩
  · -- the message was routed to the session of its evaluator id, of which there is one
    obtain ⟨id, hm, hat'⟩ := hsound.routes.routed hloop
    obtain rfl : m.evaluatorId = id := Option.some.inj hm
    obtain rfl : s' = s := hdistinct s' s m.evaluatorId hat' hat
    rcases h.evaluateDesk_stepLoop with ⟨-, hnobody⟩ | ⟨s', m', hloop', hdelivers⟩
    · exact absurd hw (hnobody _ m i hloop)
    · obtain ⟨rfl, hm'⟩ := Loop.routed.inj (hloop.symm.trans hloop')
      obtain rfl : m = m' := Incoming.evaluateResponse.inj hm'
      obtain ⟨slip, hslip, hanswer⟩ :=
        Desk.answer?_eq_some.1 (hdelivers.answer hsound.evaluateTidy hw)
      exact ⟨slip, hslip, .inl ⟨_, hanswer⟩⟩
  · -- the session is registered under no id, and new entries lead to new sessions
    obtain ⟨slip, hslip, hs, -⟩ := hsound.evaluateTidy.waits hw
    have hlost : Lost s h := by
      constructor
      · rw [← length_evaluatorIds]
        exact (List.getElem?_eq_some_iff.1 hat).1
      · intro id hmem
        have hreg := hsound.routes.registered hmem
        obtain rfl : m.evaluatorId = id := Option.some.inj (hat.symm.trans hreg)
        exact not_mem_registry_of_session? hnone _ hmem
      · intro m' hrouted
        rw [hloop] at hrouted
        cases hrouted
    exact evaluateDeaf_step hsound ⟨slip, hslip, .inr (hs ▸ hlost)⟩ .loop

/-- An answer of the server comes by a reply, and only to a call that is not deaf. -/
theorem evaluate_answered (hsound : h.Sound) {i : Nat} {a : Action}
    {x : Except EvaluatorError Bytes} (hserver : FromServer x)
    (hx : (h.step a).evaluateDesk.answer? i = some x) :
    h.evaluateDesk.answer? i = some x ∨
      (a = .loop ∧ ¬ EvaluateDeaf i h ∧ ∃ m, EvaluateReply i m h ∧ x = evaluateAnswer m) := by
  rcases (evaluateDesk_step h a).answered hsound.evaluateTidy hx hserver with
    hold | ⟨s, id, hsource, hw, hnone⟩
  · exact .inl hold
  · cases hsource with
    | @routed s m hloop =>
        refine .inr ⟨rfl, ?_, m, evaluateReply_of_routed hsound hloop hw, rfl⟩
        -- it waited without an answer, and the loop had a message for its session
        rintro ⟨slip, hslip, ⟨y, hy⟩ | hlost⟩
        · have hsome := Desk.answer?_eq_some.2 ⟨slip, hslip, hy⟩
          rw [hnone] at hsome
          cases hsome
        · obtain ⟨other, hother, rfl, -⟩ := hsound.evaluateTidy.waits hw
          obtain rfl : slip = other := Option.some.inj (hslip.symm.trans hother)
          exact hlost.unrouted _ hloop

/-- What a call returns of the server is the answer that it had. -/
theorem evaluate_answer_of_return (hsound : h.Sound) {i : Nat} {a : Action}
    {o : Except EvaluatorError Bytes} (hnone : h.evaluateDesk.outcome? evaluateCourse i = none)
    (ho : (h.step a).evaluateDesk.outcome? evaluateCourse i = some o) (hserver : FromServer o) :
    h.evaluateDesk.answer? i = some o := by
  obtain ⟨slip, hslip, hstage⟩ := Desk.outcome?_eq_some.1 ho
  have hearned : slip.stage.Earned slip.answer := (hsound.step a).evaluateEarned hslip
  rw [EvaluateStage.outcome?_eq_some.1 hstage] at hearned
  exact (evaluateDesk_step h a).answer_of_return hsound.evaluateTidy hnone ho
    (Desk.answer?_eq_some.2 ⟨slip, hslip, hearned hserver⟩) hserver

/-- A step of the loop that is done with no reply to a call leaves it alone. -/
theorem evaluates_stepLoop (hsound : h.Sound) {i : Nat} (hno : ∀ m, ¬ EvaluateReply i m h) :
    h.stepLoop.evaluates[i]? = h.evaluates[i]? := by
  obtain ⟨h₁, heffect, hquiet⟩ := h.stepLoop_effect
  rw [hquiet.evaluates]
  cases heffect with
  | passed loop _ _ _ => rfl
  | routed _ _ _ _ => rfl
  | @create m j creates _ _ =>
      rw [answerCreate_eq]
  | @evaluate s m session j pending hloop hsession htake =>
      obtain ⟨hfound, -⟩ := Pending.take_eq_some_iff.1 htake
      have hj : j ≠ i := by
        rintro rfl
        have hw := evaluateDesk_waits.2 ⟨session, hsession, Pending.mem_of_find? hfound⟩
        exact hno m (evaluateReply_of_routed hsound hloop hw)
      rw [answerEvaluate_eq]
      exact List.getElem?_modify_ne _ _ hj

/-- It leaves the requests of the call alone, too. -/
theorem evaluateWaits_stepLoop (hsound : h.Sound) {i : Nat} (hno : ∀ m, ¬ EvaluateReply i m h)
    {evaluatorId requestId : Int64} :
    EvaluateWaits i evaluatorId requestId h.stepLoop ↔ EvaluateWaits i evaluatorId requestId h := by
  have hsound' : h.stepLoop.Sound := hsound.step .loop
  rw [evaluateWaits_iff hsound', evaluateWaits_iff hsound, evaluatorIds_stepLoop h]
  rcases h.evaluateDesk_stepLoop with ⟨hsame, -⟩ | ⟨s, m, hloop, hdelivers⟩
  · rw [hsame]
  · have hnot : ¬ h.evaluateDesk.Waits s m.requestId i :=
      fun hw => hno m (evaluateReply_of_routed hsound hloop hw)
    simp only [hdelivers.waits_iff hnot]

/-! ## Calls that create -/

theorem createWaits_iff {i : Nat} {requestId : Int64} :
    CreateWaits i requestId h ↔ h.createDesk.Waits 0 requestId i := by
  rw [createDesk_waits]
  exact ⟨fun hmem => ⟨rfl, hmem⟩, And.right⟩

def createCounter : Counter Int64 CreateStage (Except EvaluatorError Nat) where
  course := createCourse
  desk := createDesk
  Source := CreateSource
  tidy hsound := hsound.createTidy
  steps hsound a := createDesk_step hsound.launcher a

theorem createOutcome?_eq (i : Nat) : createOutcome? i = createCounter.outcome? i := by
  funext h
  show h.creates[i]?.bind _ = (h.creates.map CreateCall.slip)[i]?.bind _
  rw [List.getElem?_map, Option.bind_map]
  rfl

/-- Answers to create requests are handled where they are read, for they concern no evaluator. -/
theorem reading_of_handled? (hsound : h.Sound) {m : CreateOutcome}
    (hhandled : h.handled? = some (.createEvaluatorResponse m)) : h.loop = .reading := by
  unfold handled? at hhandled
  cases hloop : h.loop with
  | reading => rfl
  | routed s m' =>
      rw [hloop] at hhandled
      obtain rfl : m' = .createEvaluatorResponse m := Option.some.inj hhandled
      obtain ⟨id, hid, -⟩ := hsound.routes.routed hloop
      cases hid
  | _ =>
      rw [hloop] at hhandled
      cases hhandled

/-- A reply is delivered to the call that waits for it. -/
theorem create_answer_of_reply (hsound : h.Sound) {i : Nat} {m : CreateOutcome}
    (hreply : CreateReply i m h) :
    (h.step .loop).createDesk.answer? i = some (createAnswer m) := by
  obtain ⟨hhandled, hwaits⟩ := hreply
  have hw := createWaits_iff.1 hwaits
  rcases h.createDesk_stepLoop with ⟨-, hnobody⟩ | ⟨m', hhandled', hdelivers⟩
  · exact absurd hw (hnobody m i (reading_of_handled? hsound hhandled) hhandled)
  · obtain rfl : m = m' :=
      Incoming.createEvaluatorResponse.inj (Option.some.inj (hhandled.symm.trans hhandled'))
    exact hdelivers.answer hsound.createTidy hw

/-- An answer of the server comes by a reply, and only to a call that has none. -/
theorem create_answered (hsound : h.Sound) {i : Nat} {a : Action}
    {x : Except EvaluatorError Int64} (hserver : FromServer x)
    (hx : (h.step a).createDesk.answer? i = some x) :
    h.createDesk.answer? i = some x ∨ (a = .loop ∧ ¬ (∃ y, h.createDesk.answer? i = some y) ∧
      ∃ m, CreateReply i m h ∧ x = createAnswer m) := by
  rcases (createDesk_step hsound.launcher a).answered hsound.createTidy hx hserver with
    hold | ⟨s, id, hsource, hw, hnone⟩
  · exact .inl hold
  · cases hsource with
    | @handled m hhandled =>
        refine .inr ⟨rfl, ?_, m, ⟨hhandled, createWaits_iff.2 hw⟩, rfl⟩
        rintro ⟨y, hy⟩
        rw [hnone] at hy
        cases hy

/-- What a call that creates returns is what it was answered with: a session of that evaluator id, or that
fault. -/
def Carries (h : Hub) : Except EvaluatorError Nat → Except EvaluatorError Int64 → Prop
  | .ok s, .ok evaluatorId => h.evaluatorIds[s]? = some evaluatorId
  | .error fault, .error fault' => fault = fault'
  | .ok _, .error _ | .error _, .ok _ => False

/-- What a call returns of the server carries the answer that it had. -/
theorem create_answer_of_return (hsound : h.Sound) {i : Nat} {a : Action}
    {o : Except EvaluatorError Nat} (hnone : h.createDesk.outcome? createCourse i = none)
    (ho : (h.step a).createDesk.outcome? createCourse i = some o) (hserver : FromServer o) :
    ∃ x, FromServer x ∧ h.createDesk.answer? i = some x ∧ Carries (h.step a) o x := by
  have hsound' := hsound.step a
  obtain ⟨slip, hslip, hstage⟩ := Desk.outcome?_eq_some.1 ho
  obtain ⟨call, hcall, rfl⟩ := create_of_slip hslip
  have hfinished : call.stage = .finished o := CreateStage.outcome?_eq_some.1 hstage
  -- a session was entered for the id in the answer, and a fault of the server is the answer
  have hanswer : ∃ x, FromServer x ∧ call.answer = some x ∧ Carries (h.step a) o x := by
    cases o with
    | ok s =>
        obtain ⟨evaluatorId, hx, hat⟩ := hsound'.enrolled i s call hcall hfinished
        exact ⟨.ok evaluatorId, trivial, hx, hat⟩
    | error fault =>
        have hearned : call.stage.Earned call.answer := hsound'.createEarned hslip
        rw [hfinished] at hearned
        exact ⟨.error fault, hserver, hearned hserver, rfl⟩
  obtain ⟨x, hserver, hx, hcarries⟩ := hanswer
  refine ⟨x, hserver, ?_, hcarries⟩
  exact (createDesk_step hsound.launcher a).answer_of_return hsound.createTidy hnone ho
    (Desk.answer?_eq_some.2 ⟨call.slip, hslip, hx⟩) hserver

theorem Carries.tells {m : CreateOutcome} {o : Except EvaluatorError Nat}
    (hcarries : Carries h o (createAnswer m)) : CreateTells m h o := by
  have hfault : ∀ {fault : EvaluatorError}, Carries h o (.error fault) → o = .error fault := by
    intro fault h
    cases o with
    | ok s => exact h.elim
    | error fault' => rw [show fault' = fault from h]
  unfold createAnswer at hcarries
  split at hcarries
  · next text herror =>
      rw [hfault hcarries]
      exact .error herror
  · next evaluatorId hid herror =>
      cases o with
      | ok s => exact .entered herror hid hcarries
      | error fault => exact hcarries.elim
  · next hid herror =>
      rw [hfault hcarries]
      exact .neither herror hid

/-- Sessions keep their evaluator ids. -/
theorem Carries.step {o : Except EvaluatorError Nat} {x : Except EvaluatorError Int64}
    (hcarries : Carries h o x) (a : Action) : Carries (h.step a) o x := by
  cases o with
  | ok s =>
      cases x with
      | ok evaluatorId => exact evaluatorIds_step h a hcarries
      | error fault => exact hcarries
  | error fault =>
      cases x with
      | ok evaluatorId => exact hcarries
      | error fault' => exact hcarries

theorem Carries.run {o : Except EvaluatorError Nat} {x : Except EvaluatorError Int64}
    (hcarries : Carries h o x) (actions : List Action) : Carries (h.run actions) o x :=
  run_keeps (P := fun h => Carries h o x) (fun hcarries a => hcarries.step a) hcarries actions

/-- A step of the loop that is done with no reply to a call leaves it alone. -/
theorem creates_stepLoop {i : Nat} (hno : ∀ m, ¬ CreateReply i m h) :
    h.stepLoop.creates[i]? = h.creates[i]? := by
  obtain ⟨h₁, heffect, hquiet⟩ := h.stepLoop_effect
  rw [hquiet.creates]
  cases heffect with
  | passed loop _ _ _ => rfl
  | routed _ _ _ _ => rfl
  | @create m j creates hhandled htake =>
      obtain ⟨hfound, -⟩ := Pending.take_eq_some_iff.1 htake
      have hj : j ≠ i := by
        rintro rfl
        exact hno m ⟨hhandled, Pending.mem_of_find? hfound⟩
      rw [answerCreate_eq]
      exact List.getElem?_modify_ne _ _ hj
  | @evaluate s m session j pending _ _ _ =>
      rw [answerEvaluate_eq]
      rfl

theorem createWaits_stepLoop {i : Nat} (hno : ∀ m, ¬ CreateReply i m h) {requestId : Int64} :
    CreateWaits i requestId h.stepLoop ↔ CreateWaits i requestId h := by
  rw [createWaits_iff, createWaits_iff]
  rcases h.createDesk_stepLoop with ⟨hsame, -⟩ | ⟨m, hhandled, hdelivers⟩
  · rw [hsame]
  · have hnot : ¬ h.createDesk.Waits 0 m.requestId i :=
      fun hw => hno m ⟨hhandled, createWaits_iff.2 hw⟩
    exact hdelivers.waits_iff hnot

/-! ## Whole runs -/

/-- What is known of a hub along a run in which evaluator ids do not repeat. -/
structure Settled (h : Hub) : Prop where
  sound : h.Sound
  distinct : h.DistinctSessions

theorem Fresh.settled (hfresh : h.Fresh) {actions : List Action}
    (honce : (h.run actions).HandsOutOnce) (before after : List Action)
    (hactions : actions = before ++ after) : (h.run before).Settled := by
  have hsound := hfresh.sound.run before
  rw [hactions, run_append] at honce
  refine ⟨hsound, distinctSessions_run hfresh.sound (handsOutOnce_of_run hsound honce) ?_⟩
  intro s s' evaluatorId hat
  rw [hfresh.evaluatorIds] at hat
  cases hat

/-- What a call that evaluates returns of the server is what the first reply to it tells. -/
theorem Fresh.evaluate_reply (hfresh : h.Fresh) {actions : List Action}
    (honce : (h.run actions).HandsOutOnce) {i : Nat} {before : List Action}
    {o : Except EvaluatorError Bytes} (hreturns : Returns (evaluateOutcome? i) h actions before o)
    (hserver : FromServer o) :
    ∃ m, FirstReply (EvaluateReply i) h before m ∧ EvaluateTells m o := by
  obtain ⟨a, after, hactions, hnone, ho⟩ := hreturns
  have hsettled : ∀ past rest, before = past ++ rest → (h.run past).Settled := by
    rintro past rest rfl
    exact hfresh.settled honce past (rest ++ a :: after) (by rw [hactions, List.append_assoc])
  rw [evaluateOutcome?_eq] at hnone ho
  rw [run_snoc] at ho
  have hanswer := evaluate_answer_of_return (hfresh.sound.run before) hnone ho hserver
  have hstart : h.evaluateDesk.answer? i = none := by
    unfold Desk.answer?
    rw [hfresh.evaluateDesk_slips]
    rfl
  obtain ⟨m, hfirst, rfl⟩ := first_reply (fun h => h.evaluateDesk.answer? i) (EvaluateDeaf i)
    hsettled hstart (fun hs hdeaf => evaluateDeaf_step hs.sound hdeaf)
    (fun hs => evaluateDeaf_of_reply hs.sound hs.distinct)
    (fun hs hserver => evaluate_answered hs.sound hserver) hanswer hserver
  exact ⟨m, hfirst, evaluateTells_evaluateAnswer m⟩

/-- What a call that creates returns of the server is what the first reply to it tells. -/
theorem Fresh.create_reply (hfresh : h.Fresh) {actions : List Action} {i : Nat}
    {before : List Action} {o : Except EvaluatorError Nat}
    (hreturns : Returns (createOutcome? i) h actions before o) (hserver : FromServer o) :
    ∃ m, FirstReply (CreateReply i) h before m ∧ CreateTells m (h.run actions) o := by
  obtain ⟨a, after, hactions, hnone, ho⟩ := hreturns
  have hsound : ∀ past rest, before = past ++ rest → (h.run past).Sound :=
    fun past _ _ => hfresh.sound.run past
  rw [createOutcome?_eq] at hnone ho
  rw [run_snoc] at ho
  obtain ⟨x, hx, hanswer, hcarries⟩ :=
    create_answer_of_return (hfresh.sound.run before) hnone ho hserver
  have hstart : h.createDesk.answer? i = none := by
    unfold Desk.answer?
    rw [hfresh.createDesk_slips]
    rfl
  -- a call is deaf once it has an answer
  obtain ⟨m, hfirst, rfl⟩ := first_reply (fun h => h.createDesk.answer? i)
    (fun h => ∃ y, h.createDesk.answer? i = some y) hsound hstart
    (fun hs hdeaf a => hdeaf.imp fun _ =>
      (createDesk_step hs.launcher a).keeps_answer hs.createTidy)
    (fun hs hreply => ⟨_, create_answer_of_reply hs hreply⟩)
    (fun hs hserver => create_answered hs hserver) hanswer hx
  refine ⟨m, hfirst, ?_⟩
  -- what it returned keeps its evaluator id to the end of the run
  have hsplit : actions = (before ++ [a]) ++ after := by simp [hactions]
  rw [hsplit, run_append, run_snoc]
  exact (hcarries.run after).tells

/-- A frame for which no call waits. -/
theorem stepLoop_onlyNotes_of_no_reply (hsound : h.Sound) (hframe : h.TakesFrame)
    (hevaluate : ∀ i m, ¬ EvaluateReply i m h) (hcreate : ∀ i m, ¬ CreateReply i m h) :
    OnlyNotes h h.stepLoop := by
  apply stepLoop_onlyNotes hframe
  · intro m hhandled
    cases hfound : h.connection.creates.find? m.requestId with
    | none => rfl
    | some i => exact absurd ⟨hhandled, Pending.mem_of_find? hfound⟩ (hcreate i m)
  · intro s m session hloop hsession
    cases hfound : session.pending.find? m.requestId with
    | none => rfl
    | some i =>
        have hw := evaluateDesk_waits.2 ⟨session, hsession, Pending.mem_of_find? hfound⟩
        exact absurd (evaluateReply_of_routed hsound hloop hw) (hevaluate i m)

/-- In every run of a fresh hub in which the server hands out no evaluator id twice, no call is answered
for another. -/
theorem matchesAnswers_of_fresh (hfresh : h.Fresh) {actions : List Action}
    (honce : (h.run actions).HandsOutOnce) : h.MatchesAnswers actions where
  evaluate_once := by
    intro i before before' o o' hreturns hreturns'
    rw [evaluateOutcome?_eq] at hreturns hreturns'
    exact Counter.returns_once hfresh.sound hreturns hreturns'
  evaluate_reply i before o := hfresh.evaluate_reply honce
  evaluate_frame := by
    intro i before after hactions hno
    have hsound := hfresh.sound.run before
    rw [run_snoc]
    exact ⟨evaluates_stepLoop hsound hno, fun _ _ => evaluateWaits_stepLoop hsound hno⟩
  evaluate_gone := by
    intro i before past after o hreturns hactions hlt session hmem requestId hwaits
    rw [evaluateOutcome?_eq] at hreturns
    obtain ⟨-, -, hnot⟩ := Counter.through_of_returns hfresh.sound hreturns hactions hlt
    obtain ⟨s, hsession⟩ := List.getElem?_of_mem hmem
    exact hnot s requestId (evaluateDesk_waits.2 ⟨session, hsession, hwaits⟩)
  create_once := by
    intro i before before' o o' hreturns hreturns'
    rw [createOutcome?_eq] at hreturns hreturns'
    exact Counter.returns_once hfresh.sound hreturns hreturns'
  create_reply i before o := hfresh.create_reply
  create_frame := by
    intro i before after hactions hno
    rw [run_snoc]
    exact ⟨creates_stepLoop hno, fun _ => createWaits_stepLoop hno⟩
  create_gone := by
    intro i before past after o hreturns hactions hlt requestId hwaits
    rw [createOutcome?_eq] at hreturns
    obtain ⟨-, -, hnot⟩ := Counter.through_of_returns hfresh.sound hreturns hactions hlt
    exact hnot 0 requestId (createWaits_iff.1 hwaits)
  stray := by
    intro before after hactions hframe hevaluate hcreate
    rw [run_snoc]
    exact stepLoop_onlyNotes_of_no_reply (hfresh.sound.run before) hframe hevaluate hcreate

/-- One evaluator is created and evaluates once.  The server first sends a result for an evaluator that
there is not, and sends another one after the result. -/
def exchange : List Action :=
  let create : Action := .advance (.create 0)
  let evaluate : Action := .advance (.evaluate 0)
  let created : CreateOutcome :=
    { requestId := 0x6220a8397b1dcdaf, evaluatorId := some 5, error := none }
  let result (evaluatorId : Int64) (octets : Bytes) : EvaluateOutcome :=
    { requestId := 0x63033b0ca389c35a, evaluatorId, result := some octets, error := none }
  [.create {}, create, create, .endLaunch none, create, create, create, create, create, create,
    .arrive (Incoming.createEvaluatorResponse created).encode, .loop, create, create,
    .evaluate 0 ⟨"repl:text", some "a = 1"⟩ "", evaluate, evaluate, evaluate, evaluate, evaluate,
    .arrive (Incoming.evaluateResponse (result 6 [0])).encode,
    .arrive (Incoming.evaluateResponse (result 5 [1])).encode,
    .arrive (Incoming.evaluateResponse (result 5 [2])).encode,
    .loop, .loop, .loop, .loop, .loop, evaluate]

/-- The call of that run returns the result that is for it, and no other. -/
theorem exchange_matchesAnswers :
    let h : Hub := { workingDir := [] }
    h.Fresh ∧ (h.run exchange).HandsOutOnce ∧
      ((evaluateOutcome? 0 (h.run exchange)).bind Except.toOption = some [1]) ∧
      h.MatchesAnswers exchange := by
  intro h
  have hfresh : h.Fresh := fresh_init []
  have honce : (h.run exchange).HandsOutOnce := handsOutOnce_of_length_le_one (by decide +kernel)
  exact ⟨hfresh, honce, by decide +kernel, matchesAnswers_of_fresh hfresh honce⟩

end PklHost.Hub
