import PklHost.Proofs.Hub.Closing
import PklHost.Proofs.Hub.Matching

/-!
# Nobody is missed by a shutdown

A shutdown closes the connection first, and then one thing after the other, while calls go on beside it.
`MissesNobody` says of a run that whatever was entered or registered in between is not left behind: each
request that the shutdown finds is failed with its reason, and once it is over everything is closed and
empty, and stays so.

What carries this along a run is that a session is closed, registered or listed at every point of the
shutdown (`New.covered`), and that whoever has filed and has no answer is in a tray that is open
(`Watched.createsAttended`, `Watched.createsEmpty`).
-/

namespace PklHost.Hub

open Message (CreateOutcome Incoming)

variable {h : Hub} {reason : CloseReason}

/-! ## What is known along a run -/

/-- A hub with an open connection, to which nothing has happened yet. -/
structure New (h : Hub) : Prop extends h.Fresh where
  isOpen : h.connection.phase = .isOpen
  errands : h.errands = []

theorem new_init (workingDir : FilePath) : New { workingDir } :=
  ⟨fresh_init workingDir, rfl, rfl⟩

/-- What holds of a hub in every run that began with an open connection. -/
structure Watched (h : Hub) : Prop where
  sound : h.Sound
  guarded : h.doors.Guarded
  leaving : h.ClosedBeforeLeaving
  createsEmpty : h.createDesk.ClosedEmpty
  evaluatesEmpty : h.evaluateDesk.ClosedEmpty
  createsAttended : h.createDesk.Attended createCourse
  evaluatesAttended : h.evaluateDesk.Attended evaluateCourse

theorem New.guarded (hnew : h.New) : h.doors.Guarded := by
  have hphase : h.doors.phase = .isOpen := hnew.isOpen
  have hregistry : h.doors.registry = [] := hnew.registry
  constructor
  · intro hpast
    rw [hphase] at hpast
    exact hpast.elim
  · exact fun _ => hregistry
  · intro id s hmem
    rw [hregistry] at hmem
    cases hmem

theorem New.watched (hnew : h.New) : h.Watched where
  sound := hnew.sound
  guarded := hnew.guarded
  leaving := by
    rintro s ⟨e, he, -⟩
    rw [hnew.errands] at he
    cases he
  createsEmpty := by
    intro s tray htray _
    obtain rfl : tray = h.connection.creates := List.mem_singleton.1 (List.mem_of_getElem? htray)
    exact hnew.waiting
  evaluatesEmpty := by
    intro s tray htray _
    obtain ⟨session, hsession, -⟩ := session_of_tray htray
    rw [hnew.sessions] at hsession
    cases hsession
  createsAttended := Desk.attended_of_empty hnew.createDesk_slips
  evaluatesAttended := Desk.attended_of_empty hnew.evaluateDesk_slips

theorem Watched.step (hw : h.Watched) (a : Action) : (h.step a).Watched where
  sound := hw.sound.step a
  guarded := (h.doors_step a).guarded hw.guarded
  leaving := closedBeforeLeaving_step hw.leaving a
  createsEmpty := (createDesk_step hw.sound.launcher a).closedEmpty hw.createsEmpty
  evaluatesEmpty := (evaluateDesk_step h a).closedEmpty hw.evaluatesEmpty
  createsAttended := (createDesk_step hw.sound.launcher a).attended hw.sound.createTidy
    hw.createsAttended
  evaluatesAttended := (evaluateDesk_step h a).attended hw.sound.evaluateTidy hw.evaluatesAttended

theorem Watched.run (hw : h.Watched) (actions : List Action) : (h.run actions).Watched :=
  run_keeps (fun hw a => hw.step a) hw actions

theorem length_doors_sessions (h : Hub) : h.doors.sessions.length = h.sessions.length :=
  List.length_map _

/-- In a run, a session is closed, registered or still to be failed as long as no other one shares its
evaluator id. -/
theorem New.covered (hnew : h.New) {actions : List Action} {s : Nat}
    (halone : (h.run actions).doors.Alone s) (hs : s < (h.run actions).sessions.length) :
    (h.run actions).doors.Covered s := by
  -- induction on the run from its end, since a session that is alone then was so all along
  induction actions using List.reverseRecOn with
  | nil =>
      have hs : s < h.sessions.length := hs
      rw [hnew.sessions] at hs
      cases hs
  | append_singleton actions a ih =>
      have hwatched := hnew.watched.run actions
      have hmoves := (h.run actions).doors_step a
      rw [run_snoc] at halone hs ⊢
      rw [← length_doors_sessions] at hs
      refine hmoves.covered hwatched.guarded hwatched.leaving halone hs fun hold => ?_
      exact ih (hmoves.alone halone) (by rwa [length_doors_sessions] at hold)

theorem DistinctSessions.alone (hdistinct : h.DistinctSessions) (s : Nat) : h.doors.Alone s := by
  intro s' id hid hid'
  rw [doors_ids] at hid hid'
  exact hdistinct s' s id hid' hid

/-! ## The reason -/

theorem isClosed_of_reason? (hreason : h.connection.phase.reason? = some reason) :
    h.connection.isClosed = true := by
  unfold Connection.isClosed
  cases hphase : h.connection.phase with
  | isOpen =>
      rw [hphase] at hreason
      cases hreason
  | closing reason progress => rfl
  | closed reason => rfl

theorem reason?_of_isClosed (hclosed : h.connection.isClosed = true) :
    ∃ reason, h.connection.phase.reason? = some reason := by
  unfold Connection.isClosed at hclosed
  split at hclosed
  · cases hclosed
  · next hphase => exact ⟨_, by rw [hphase]; rfl⟩
  · next hphase => exact ⟨_, by rw [hphase]; rfl⟩

theorem isClosed_step (hclosed : h.connection.isClosed = true) (a : Action) :
    (h.step a).connection.isClosed = true := by
  obtain ⟨reason, hreason⟩ := reason?_of_isClosed hclosed
  exact isClosed_of_reason? ((h.doors_step a).reason hreason)

/-- The reason of the first shutdown stands. -/
theorem reason?_run (hreason : h.connection.phase.reason? = some reason) (actions : List Action) :
    (h.run actions).connection.phase.reason? = some reason :=
  run_keeps (P := fun h => h.connection.phase.reason? = some reason)
    (fun {h} hreason a => (h.doors_step a).reason hreason) hreason actions

theorem beginShutdown_of_reason? (hreason : h.connection.phase.reason? = some reason)
    (other : CloseReason) : h.beginShutdown other = (false, h) := by
  unfold beginShutdown
  rw [if_pos (isClosed_of_reason? hreason)]

/-! ## Requests that the shutdown finds -/

/-- The answer that a call that creates was given. -/
def createAnswer? (i : Nat) (h : Hub) : Option (Except EvaluatorError Int64) :=
  h.creates[i]?.bind CreateCall.answer

/-- The answer that a call that evaluates was given. -/
def evaluateAnswer? (i : Nat) (h : Hub) : Option (Except EvaluatorError Bytes) :=
  h.evaluates[i]?.bind EvaluateCall.answer

theorem createAnswer?_eq (i : Nat) (h : Hub) : createAnswer? i h = h.createDesk.answer? i := by
  show h.creates[i]?.bind _ = (h.creates.map CreateCall.slip)[i]?.bind _
  rw [List.getElem?_map, Option.bind_map]
  rfl

theorem evaluateAnswer?_eq (i : Nat) (h : Hub) : evaluateAnswer? i h = h.evaluateDesk.answer? i := by
  show h.evaluates[i]?.bind _ = (h.evaluates.map EvaluateCall.slip)[i]?.bind _
  rw [List.getElem?_map, Option.bind_map]
  rfl

theorem createAnswer?_run (hsound : h.Sound) {i : Nat} {x : Except EvaluatorError Int64}
    (hx : createAnswer? i h = some x) (actions : List Action) :
    createAnswer? i (h.run actions) = some x := by
  have hkeeps : ∀ {h : Hub}, h.Sound ∧ createAnswer? i h = some x → ∀ a,
      (h.step a).Sound ∧ createAnswer? i (h.step a) = some x := by
    rintro h ⟨hsound, hx⟩ a
    rw [createAnswer?_eq] at hx ⊢
    exact ⟨hsound.step a, (createDesk_step hsound.launcher a).keeps_answer hsound.createTidy hx⟩
  exact (run_keeps (P := fun h => h.Sound ∧ createAnswer? i h = some x) hkeeps ⟨hsound, hx⟩ actions).2

theorem evaluateAnswer?_run (hsound : h.Sound) {i : Nat} {x : Except EvaluatorError Bytes}
    (hx : evaluateAnswer? i h = some x) (actions : List Action) :
    evaluateAnswer? i (h.run actions) = some x := by
  have hkeeps : ∀ {h : Hub}, h.Sound ∧ evaluateAnswer? i h = some x → ∀ a,
      (h.step a).Sound ∧ evaluateAnswer? i (h.step a) = some x := by
    rintro h ⟨hsound, hx⟩ a
    rw [evaluateAnswer?_eq] at hx ⊢
    exact ⟨hsound.step a, (evaluateDesk_step h a).keeps_answer hsound.evaluateTidy hx⟩
  exact (run_keeps (P := fun h => h.Sound ∧ evaluateAnswer? i h = some x) hkeeps ⟨hsound, hx⟩ actions).2

theorem createAnswer?_shutdown (hsound : h.Sound) {i : Nat} {requestId : Int64}
    (hphase : h.connection.phase = .closing reason .failingCreates) (hw : CreateWaits i requestId h) :
    createAnswer? i (h.step .shutdown) = some (.error (.connectionClosed reason)) := by
  have hstep : h.step .shutdown =
      (h.failCreates (.connectionClosed reason)).setPhase (.closing reason .drainingRegistry) := by
    show h.stepShutdown = _
    unfold stepShutdown
    rw [hphase]
  rw [createAnswer?_eq, hstep]
  show (h.failCreates (.connectionClosed reason)).createDesk.answer? i = _
  unfold failCreates
  dsimp only [Pending.close]
  rw [createDesk_answerAll]
  exact Desk.answer?_of_failed hsound.createTidy (createWaits_iff.1 hw) rfl _

theorem evaluateAnswer?_failSession (hsound : h.Sound) {i s : Nat} {requestId : Int64}
    (hw : h.evaluateDesk.Waits s requestId i) (fault : EvaluatorError) :
    evaluateAnswer? i (h.failSession s fault) = some (.error fault) := by
  obtain ⟨session, hsession, -⟩ := evaluateDesk_waits.1 hw
  rw [evaluateAnswer?_eq]
  unfold failSession
  rw [hsession]
  dsimp only [Pending.close]
  rw [evaluateDesk_answerAll, evaluateDesk_setSession]
  exact Desk.answer?_of_failed hsound.evaluateTidy hw (tray_of_session hsession) _

theorem evaluateAnswer?_shutdown (hsound : h.Sound) {i s : Nat} {left : List Nat} {requestId : Int64}
    (hphase : h.connection.phase = .closing reason (.failingSessions (s :: left)))
    (hw : h.evaluateDesk.Waits s requestId i) :
    evaluateAnswer? i (h.step .shutdown) = some (.error (.connectionClosed reason)) := by
  have hstep : h.step .shutdown = (h.failSession s (.connectionClosed reason)).setPhase
      (.closing reason (.failingSessions left)) := by
    show h.stepShutdown = _
    unfold stepShutdown
    rw [hphase]
  rw [hstep]
  exact evaluateAnswer?_failSession hsound hw (.connectionClosed reason)

/-- A call that creates was given a fault and nothing before, and waits no longer. -/
structure CreateFailed (i : Nat) (fault : EvaluatorError) (before after : Hub) : Prop where
  unanswered : createAnswer? i before = none
  answered : createAnswer? i after = some (.error fault)
  gone : ∀ requestId, ¬ CreateWaits i requestId after

/-- A call that evaluates was given a fault and nothing before, and waits no longer. -/
structure EvaluateFailed (i : Nat) (fault : EvaluatorError) (before after : Hub) : Prop where
  unanswered : evaluateAnswer? i before = none
  answered : evaluateAnswer? i after = some (.error fault)
  gone : ∀ session ∈ after.sessions, ∀ requestId, (requestId, i) ∉ session.pending.waiting

/-- Whoever waits for an evaluator when the shutdown comes to these requests is given its reason, for the
rest of the run. -/
theorem createFailed_run (hsound : h.Sound) {i : Nat} {requestId : Int64}
    (hphase : h.connection.phase = .closing reason .failingCreates) (hw : CreateWaits i requestId h)
    (past : List Action) :
    CreateFailed i (.connectionClosed reason) h ((h.step .shutdown).run past) := by
  have hafter := (hsound.step .shutdown).run past
  have hanswer :=
    createAnswer?_run (hsound.step .shutdown) (createAnswer?_shutdown hsound hphase hw) past
  refine ⟨?_, hanswer, fun other hother => ?_⟩
  · rw [createAnswer?_eq]
    exact hsound.createTidy.answer?_of_waits (createWaits_iff.1 hw)
  · rw [createAnswer?_eq] at hanswer
    exact hafter.createTidy.not_waits_of_answer hanswer (createWaits_iff.1 hother)

/-- Whoever waits and is given a fault by an action has it for the rest of the run. -/
theorem evaluateFailed_of_answer (hsound : h.Sound) {i s : Nat} {requestId : Int64}
    {fault : EvaluatorError} (hw : h.evaluateDesk.Waits s requestId i) {a : Action}
    (hgiven : evaluateAnswer? i (h.step a) = some (.error fault)) (past : List Action) :
    EvaluateFailed i fault h ((h.step a).run past) := by
  have hafter := (hsound.step a).run past
  have hanswer := evaluateAnswer?_run (hsound.step a) hgiven past
  refine ⟨?_, hanswer, fun other hother requestId hwaits => ?_⟩
  · rw [evaluateAnswer?_eq]
    exact hsound.evaluateTidy.answer?_of_waits hw
  · rw [evaluateAnswer?_eq] at hanswer
    obtain ⟨s', hs'⟩ := List.getElem?_of_mem hother
    exact hafter.evaluateTidy.not_waits_of_answer hanswer (evaluateDesk_waits.2 ⟨other, hs', hwaits⟩)

/-- Whoever waits in a session when the shutdown comes to it is given its reason, for the rest of the
run. -/
theorem evaluateFailed_run (hsound : h.Sound) {i s : Nat} {left : List Nat} {session : Session}
    {requestId : Int64} (hphase : h.connection.phase = .closing reason (.failingSessions (s :: left)))
    (hsession : h.sessions[s]? = some session) (hmem : (requestId, i) ∈ session.pending.waiting)
    (past : List Action) :
    EvaluateFailed i (.connectionClosed reason) h ((h.step .shutdown).run past) := by
  have hw : h.evaluateDesk.Waits s requestId i := evaluateDesk_waits.2 ⟨session, hsession, hmem⟩
  exact evaluateFailed_of_answer hsound hw (evaluateAnswer?_shutdown hsound hphase hw) past

/-! ## The end of a shutdown -/

/-- A session is closed and nothing waits in it. -/
def Session.Over (session : Session) : Prop :=
  session.pending.isClosed = true ∧ session.pending.waiting = []

/-- Everything is closed and nothing waits. -/
structure Down (h : Hub) : Prop where
  creates : h.connection.creates.isClosed = true ∧ h.connection.creates.waiting = []
  sessions : ∀ session ∈ h.sessions, session.Over
  registry : h.connection.registry = []

/-- Once the shutdown is over, a session that was covered is closed, and nothing waits in it. -/
theorem Watched.session_over (hw : h.Watched) (hphase : h.connection.phase = .closed reason) {s : Nat}
    {session : Session} (hcovered : h.doors.Covered s) (hsession : h.sessions[s]? = some session) :
    session.Over := by
  obtain ⟨other, hother, hclosed⟩ := closed_doors.1 (hcovered.closed_of_down hw.guarded hphase)
  obtain rfl : session = other := Option.some.inj (hsession.symm.trans hother)
  exact ⟨hclosed, hw.evaluatesEmpty (tray_of_session hsession) hclosed⟩

theorem Watched.down (hw : h.Watched) (hphase : h.connection.phase = .closed reason)
    (hcovered : ∀ s < h.sessions.length, h.doors.Covered s) : h.Down where
  creates := by
    have hclosed : h.connection.creates.isClosed = true :=
      hw.guarded.creates (by rw [show h.doors.phase = _ from hphase]; trivial)
    exact ⟨hclosed, hw.createsEmpty (s := 0) rfl hclosed⟩
  sessions := by
    intro session hmem
    obtain ⟨s, hsession⟩ := List.getElem?_of_mem hmem
    exact hw.session_over hphase (hcovered s (List.getElem?_eq_some_iff.1 hsession).1) hsession
  registry := hw.guarded.registry (by rw [show h.doors.phase = _ from hphase]; trivial)

/-- Whoever waits for an evaluator has been answered if nothing waits. -/
theorem Watched.create_heard (hw : h.Watched) {i : Nat} {call : CreateCall}
    (hcall : h.creates[i]? = some call) (hstage : call.stage = .waiting)
    (hempty : h.connection.creates.waiting = []) : call.answer ≠ none := by
  intro hnone
  have hfiled : createCourse.standing call.stage = .filed none := by
    rw [hstage]
    rfl
  obtain ⟨id, hwaits⟩ := hw.createsAttended (slip_of_create hcall) hfiled hnone
  have hmem := (createDesk_waits.1 hwaits).2
  rw [hempty] at hmem
  cases hmem

/-- Whoever waits for a result has been answered if nothing waits in the session. -/
theorem Watched.evaluate_heard (hw : h.Watched) {i : Nat} {call : EvaluateCall}
    (hcall : h.evaluates[i]? = some call) (hstage : call.stage = .waiting)
    (hempty : ∀ session, h.sessions[call.session]? = some session → session.pending.waiting = []) :
    call.answer ≠ none := by
  intro hnone
  have hfiled : evaluateCourse.standing call.stage = .filed none := by
    rw [hstage]
    rfl
  obtain ⟨id, hwaits⟩ := hw.evaluatesAttended (slip_of_evaluate hcall) hfiled hnone
  obtain ⟨session, hsession, hmem⟩ := evaluateDesk_waits.1 hwaits
  rw [hempty session hsession] at hmem
  cases hmem

/-- A connection that is closed stays so. -/
theorem closed_run (hphase : h.connection.phase = .closed reason) (actions : List Action) :
    (h.run actions).connection.phase = .closed reason :=
  run_keeps (P := fun h => h.connection.phase = .closed reason)
    (fun {h} hphase a => ((h.doors_step a).of_closed hphase).1) hphase actions

/-- A shutdown that is gone on with comes to its end. -/
theorem shutdown_ends {progress : Shutdown} (hphase : h.connection.phase = .closing reason progress) :
    ∃ n, (h.run (List.replicate n .shutdown)).connection.phase = .closed reason := by
  have hsessions : ∀ (left : List Nat) {h : Hub},
      h.connection.phase = .closing reason (.failingSessions left) →
      ∃ n, (h.run (List.replicate n .shutdown)).connection.phase = .closed reason := by
    intro left
    induction left with
    | nil =>
        intro h hphase
        refine ⟨1, ?_⟩
        show h.stepShutdown.connection.phase = _
        unfold stepShutdown
        rw [hphase]
        rfl
    | cons s left ih =>
        intro h hphase
        have hnext : (h.step .shutdown).connection.phase = .closing reason (.failingSessions left) := by
          show h.stepShutdown.connection.phase = _
          unfold stepShutdown
          rw [hphase]
          rfl
        obtain ⟨n, hn⟩ := ih hnext
        exact ⟨n + 1, hn⟩
  have hregistry : ∀ {h : Hub}, h.connection.phase = .closing reason .drainingRegistry →
      ∃ n, (h.run (List.replicate n .shutdown)).connection.phase = .closed reason := by
    intro h hphase
    have hnext : (h.step .shutdown).connection.phase =
        .closing reason (.failingSessions (h.connection.registry.map Prod.snd)) := by
      show h.stepShutdown.connection.phase = _
      unfold stepShutdown
      rw [hphase]
    obtain ⟨n, hn⟩ := hsessions _ hnext
    exact ⟨n + 1, hn⟩
  cases progress with
  | failingCreates =>
      have hnext : (h.step .shutdown).connection.phase = .closing reason .drainingRegistry := by
        show h.stepShutdown.connection.phase = _
        unfold stepShutdown
        rw [hphase]
        rfl
      obtain ⟨n, hn⟩ := hregistry hnext
      exact ⟨n + 1, hn⟩
  | drainingRegistry => exact hregistry hphase
  | failingSessions left => exact hsessions left hphase

/-! ## What is refused -/

theorem createOutcome?_advance {i : Nat} {call : CreateCall} (hcall : h.creates[i]? = some call)
    {outcome : Except EvaluatorError Nat} (hstep : h.stepCreate i call = (.finished outcome, h)) :
    createOutcome? i (h.step (.advance (.create i))) = some outcome := by
  have hadvance : h.step (.advance (.create i)) = h.moveCreate i (.finished outcome) := by
    show h.advance (.create i) = _
    rw [advance_create hcall, hstep]
  rw [hadvance, moveCreate_eq]
  unfold createOutcome?
  dsimp only
  rw [List.getElem?_modify_eq, hcall]
  rfl

theorem insertSession_of_reason? (hreason : h.connection.phase.reason? = some reason)
    (evaluatorId : Int64) (o : EvaluatorOptions) :
    h.insertSession evaluatorId o = .error (.connectionClosed .shutDown) := by
  unfold insertSession
  rw [if_pos (isClosed_of_reason? hreason)]

/-- Once the shutdown has begun, a call that was answered with an evaluator id enters no session. -/
theorem inserting_refused (hreason : h.connection.phase.reason? = some reason) {i : Nat}
    {call : CreateCall} {evaluatorId : Int64} (hcall : h.creates[i]? = some call)
    (hstage : call.stage = .inserting evaluatorId) :
    createOutcome? i (h.step (.advance (.create i))) = some (.error (.connectionClosed .shutDown)) := by
  apply createOutcome?_advance hcall
  unfold stepCreate
  rw [hstage]
  dsimp only
  rw [insertSession_of_reason? hreason]

/-- Once the requests to create are closed, a call registers none. -/
theorem registering_refused (hclosed : h.connection.creates.isClosed = true) {i : Nat}
    {call : CreateCall} {request : Message.CreateEvaluator} (hcall : h.creates[i]? = some call)
    (hstage : call.stage = .registering request) :
    createOutcome? i (h.step (.advance (.create i))) = some (.error (.connectionClosed .shutDown)) := by
  apply createOutcome?_advance hcall
  have hregister : h.connection.creates.register request.requestId i = .error .closed := by
    unfold Pending.register
    rw [if_pos hclosed]
  unfold stepCreate
  rw [hstage]
  dsimp only
  rw [hregister]

/-- Once the shutdown has begun, no session is entered. -/
theorem evaluatorIds_run_of_reason? (hreason : h.connection.phase.reason? = some reason)
    (actions : List Action) : (h.run actions).evaluatorIds = h.evaluatorIds := by
  induction actions generalizing h with
  | nil => rfl
  | cons a actions ih =>
      have hmoves := h.doors_step a
      have hids : (h.step a).evaluatorIds = h.evaluatorIds := by
        rw [← doors_ids, ← doors_ids]
        refine hmoves.ids.resolve_right fun hentered => ?_
        rw [show h.connection.phase = .isOpen from hentered.1] at hreason
        cases hreason
      exact (ih (hmoves.reason hreason)).trans hids

/-! ## Whole runs -/

/-- The shutdowns of a run miss no request and no session. -/
structure MissesNobody (h : Hub) (actions : List Action) : Prop where
  /-- The first shutdown gives the reason, and any further one changes nothing. -/
  first : ∀ before after reason, actions = before ++ after →
    (h.run before).connection.phase.reason? = some reason →
    (h.run actions).connection.phase.reason? = some reason ∧
      ∀ other, (h.run before).beginShutdown other = (false, h.run before)
  /-- Whoever waits for an evaluator when the shutdown comes to these requests is given its reason, and
  nothing before and nothing after that. -/
  create_failed : ∀ before past after reason i requestId,
    actions = before ++ .shutdown :: past ++ after →
    (h.run before).connection.phase = .closing reason .failingCreates →
    CreateWaits i requestId (h.run before) →
    CreateFailed i (.connectionClosed reason) (h.run before) (h.run (before ++ .shutdown :: past))
  /-- Whoever waits in a session when the shutdown comes to it is given its reason, and nothing before and
  nothing after that. -/
  evaluate_failed : ∀ before past after reason s left session i requestId,
    actions = before ++ .shutdown :: past ++ after →
    (h.run before).connection.phase = .closing reason (.failingSessions (s :: left)) →
    (h.run before).sessions[s]? = some session → (requestId, i) ∈ session.pending.waiting →
    EvaluateFailed i (.connectionClosed reason) (h.run before) (h.run (before ++ .shutdown :: past))
  /-- A shutdown that is gone on with comes to its end. -/
  ends : ∀ before after reason progress, actions = before ++ after →
    (h.run before).connection.phase = .closing reason progress →
    ∃ n, (h.run (before ++ List.replicate n .shutdown)).connection.phase = .closed reason
  /-- Once the shutdown is over everything is closed and empty, and stays so. -/
  down : ∀ before past after reason, actions = before ++ past ++ after →
    (h.run before).connection.phase = .closed reason →
    (h.run (before ++ past)).connection.phase = .closed reason ∧ (h.run (before ++ past)).Down
  /-- Nobody is left to wait without an answer. -/
  heard : ∀ before after reason, actions = before ++ after →
    (h.run before).connection.phase = .closed reason →
    (∀ (i : Nat) (call : CreateCall), (h.run before).creates[i]? = some call →
      call.stage = .waiting → call.answer ≠ none) ∧
      ∀ (i : Nat) (call : EvaluateCall), (h.run before).evaluates[i]? = some call →
        call.stage = .waiting → call.answer ≠ none
  /-- Once the shutdown has begun no session is entered, and who would enter one learns of it. -/
  insert_refused : ∀ before after reason, actions = before ++ after →
    (h.run before).connection.phase.reason? = some reason →
    (h.run actions).evaluatorIds = (h.run before).evaluatorIds ∧
      (∀ evaluatorId o,
        (h.run before).insertSession evaluatorId o = .error (.connectionClosed .shutDown)) ∧
      ∀ (i : Nat) (call : CreateCall) (evaluatorId : Int64), (h.run before).creates[i]? = some call →
        call.stage = .inserting evaluatorId →
        createOutcome? i (h.run (before ++ [.advance (.create i)])) =
          some (.error (.connectionClosed .shutDown))
  /-- Once it is over no request to create is registered, and who would register one learns of it. -/
  create_refused : ∀ before after reason i call request, actions = before ++ after →
    (h.run before).connection.phase = .closed reason → (h.run before).creates[i]? = some call →
    call.stage = .registering request →
    createOutcome? i (h.run (before ++ [.advance (.create i)])) =
      some (.error (.connectionClosed .shutDown))

/-- In a run in which no two sessions have one evaluator id, everything is down once the shutdown is
over. -/
theorem New.down_of_distinct (hnew : h.New) {actions : List Action}
    (hdistinct : (h.run actions).DistinctSessions)
    (hphase : (h.run actions).connection.phase = .closed reason) : (h.run actions).Down :=
  (hnew.watched.run actions).down hphase fun s => hnew.covered (hdistinct.alone s)

/-- In a run in which evaluator ids do not repeat, everything is down once the shutdown is over. -/
theorem New.down (hnew : h.New) {actions before after : List Action}
    (honce : (h.run actions).HandsOutOnce) (hactions : actions = before ++ after)
    (hphase : (h.run before).connection.phase = .closed reason) : (h.run before).Down :=
  hnew.down_of_distinct (hnew.settled honce before after hactions).distinct hphase

/-- In every run of a new hub in which the server hands out no evaluator id twice, the shutdowns miss
nobody. -/
theorem missesNobody_of_new (hnew : h.New) {actions : List Action}
    (honce : (h.run actions).HandsOutOnce) : h.MissesNobody actions where
  first := by
    intro before after reason hactions hreason
    rw [hactions, run_append]
    exact ⟨reason?_run hreason after, beginShutdown_of_reason? hreason⟩
  create_failed := by
    intro before past after reason i requestId _ hphase hw
    rw [run_append h before (.shutdown :: past)]
    exact createFailed_run (hnew.sound.run before) hphase hw past
  evaluate_failed := by
    intro before past after reason s left session i requestId _ hphase hsession hmem
    rw [run_append h before (.shutdown :: past)]
    exact evaluateFailed_run (hnew.sound.run before) hphase hsession hmem past
  ends := by
    intro before after reason progress _ hphase
    obtain ⟨n, hn⟩ := shutdown_ends hphase
    exact ⟨n, by rw [run_append, hn]⟩
  down := by
    intro before past after reason hactions hphase
    have hstays : (h.run (before ++ past)).connection.phase = .closed reason := by
      rw [run_append]
      exact closed_run hphase past
    exact ⟨hstays, hnew.down honce hactions hstays⟩
  heard := by
    intro before after reason hactions hphase
    have hdown := hnew.down honce hactions hphase
    have hwatched := hnew.watched.run before
    refine ⟨fun i call hcall hstage => hwatched.create_heard hcall hstage hdown.creates.2, ?_⟩
    intro i call hcall hstage
    refine hwatched.evaluate_heard hcall hstage fun session hsession => ?_
    exact (hdown.sessions session (List.mem_of_getElem? hsession)).2
  insert_refused := by
    intro before after reason hactions hreason
    refine ⟨?_, insertSession_of_reason? hreason, fun i call evaluatorId hcall hstage => ?_⟩
    · rw [hactions, run_append]
      exact evaluatorIds_run_of_reason? hreason after
    · rw [run_snoc]
      exact inserting_refused hreason hcall hstage
  create_refused := by
    intro before after reason i call request hactions hphase hcall hstage
    rw [run_snoc]
    exact registering_refused (hnew.down honce hactions hphase).creates.1 hcall hstage

/-- One evaluator evaluates and another one is being created when the server closes its output.  The
manager is closed while the shutdown is under way. -/
def outage : List Action :=
  let first : Action := .advance (.create 0)
  let second : Action := .advance (.create 1)
  let evaluate : Action := .advance (.evaluate 0)
  let created : CreateOutcome :=
    { requestId := 0x6220a8397b1dcdaf, evaluatorId := some 5, error := none }
  [.create {}, first, first, .endLaunch none, first, first, first, first, first,
    .arrive (Incoming.createEvaluatorResponse created).encode, .loop, first, first,
    .create {}, second, second, second, second, second, second, second,
    .evaluate 0 ⟨"repl:text", some "a = 1"⟩ "", evaluate, evaluate, evaluate, evaluate, evaluate,
    .closeManager, .endInput, .loop, .loop, .shutdown, .advance (.errand 0), .shutdown, .shutdown,
    .shutdown, .loop, second, evaluate]

/-- Both calls of that run learn why the connection was lost. -/
theorem outage_missesNobody :
    let h : Hub := { workingDir := [] }
    h.New ∧ (h.run outage).HandsOutOnce ∧
      (createOutcome? 1 (h.run outage)).map (Except.mapError EvaluatorError.message) =
        some (.error "connection closed: pkl server closed its output") ∧
      (evaluateOutcome? 0 (h.run outage)).map (Except.mapError EvaluatorError.message) =
        some (.error "connection closed: pkl server closed its output") ∧
      h.MissesNobody outage := by
  intro h
  have hnew : h.New := new_init []
  have honce : (h.run outage).HandsOutOnce := handsOutOnce_of_pairwise (by decide +kernel)
  exact ⟨hnew, honce, by decide +kernel, by decide +kernel, missesNobody_of_new hnew honce⟩

end PklHost.Hub
