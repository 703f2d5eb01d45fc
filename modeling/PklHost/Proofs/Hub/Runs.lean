import PklHost.Proofs.Hub.Routes

/-!
# What holds in every run

A fresh hub has no calls and no sessions.  Whatever happens to it after that, its desks stay tidy, its
routes sound, and each call's outcome is one that it may have (`Sound`): an outcome that the server gives
is the answer that the call was given, and a session is one that the call entered for its evaluator id.

Evaluator ids may repeat, as the server pleases.  Where no two calls were answered with one id
(`HandsOutOnce`), no two sessions have one.
-/

namespace PklHost.Hub

variable {h h' : Hub}

/-! ## Outcomes -/

/-- What an answer allows a call that evaluates. -/
def EvaluateStage.Earned (a : Option (Except EvaluatorError Bytes)) : EvaluateStage → Prop
  | .withdrawing _ fault => ¬ fault.OfAnswer
  | .finished outcome => FromServer outcome → a = some outcome
  | .opening | .numbering | .registering _ | .sending .. | .waiting | .abandoned => True

/-- What an answer allows a call that creates. -/
def CreateStage.Earned (a : Option (Except EvaluatorError Int64)) : CreateStage → Prop
  | .withdrawing _ fault => ¬ fault.OfAnswer
  | .inserting evaluatorId => a = some (.ok evaluatorId)
  | .finished (.ok _) => ∃ evaluatorId, a = some (.ok evaluatorId)
  | .finished (.error fault) => fault.OfAnswer → a = some (.error fault)
  | .connecting | .entering | .launching | .confirming | .shuttingDown | .numbering | .registering _
  | .sending .. | .waiting | .abandoned => True

theorem kept_earned_evaluate : Desk.Kept evaluateCourse EvaluateStage.Earned where
  first := trivial
  abandoned _ := trivial
  goes := by
    intro a stage stage' hearned hgoes
    cases hgoes with
    | stays => exact hearned
    | refusedAtOnce hfault => exact fun hserver => absurd hserver hfault
    | refused _ hfault => exact fun hserver => absurd hserver hfault
    | unsent _ _ hfault => exact hfault
    | answered hanswer => exact fun _ => hanswer
    | _ => trivial
  files := by
    rintro a stage stage' id - ⟨⟩
    trivial
  withdraws := by
    rintro a stage stage' id hfault ⟨fault⟩
    exact fun hserver => absurd hserver hfault
  answered := by
    intro x stage hearned
    cases stage with
    | withdrawing requestId fault => exact hearned
    | finished outcome =>
        intro hserver
        cases hearned hserver
    | _ => trivial

theorem kept_earned_create : Desk.Kept createCourse CreateStage.Earned where
  first := trivial
  abandoned _ := trivial
  goes := by
    intro a stage stage' hearned hgoes
    cases hgoes with
    | stays => exact hearned
    | refused _ hfault => exact fun hserver => absurd hserver hfault
    | unsent _ _ hfault => exact hfault
    | accepted hanswer => exact hanswer
    | answered hanswer => exact fun _ => hanswer
    | inserted evaluatorId session => exact ⟨evaluatorId, hearned⟩
    | shutOut _ hfault => exact fun hserver => absurd hserver hfault
    | _ => trivial
  files := by
    rintro a stage stage' id - ⟨request, -⟩
    trivial
  withdraws := by
    rintro a stage stage' id hfault ⟨fault⟩
    exact fun hserver => absurd hserver hfault
  answered := by
    intro x stage hearned
    cases stage with
    | withdrawing requestId fault => exact hearned
    | inserting evaluatorId => cases hearned
    | finished outcome =>
        cases outcome with
        | ok s =>
            obtain ⟨evaluatorId, hnone⟩ := hearned
            cases hnone
        | error fault =>
            intro hserver
            cases hearned hserver
    | _ => trivial

/-! ## The invariant -/

/-- A call that returned a session entered it for the evaluator id that it was answered with. -/
def Enrolled (h : Hub) : Prop :=
  ∀ (i s : Nat) (call : CreateCall), h.creates[i]? = some call → call.stage = .finished (.ok s) →
    ∃ evaluatorId, call.answer = some (.ok evaluatorId) ∧ h.evaluatorIds[s]? = some evaluatorId

/-- The evaluator id of each session was the answer to a call that is over. -/
def Claimed (h : Hub) : Prop :=
  ∀ (s : Nat) (evaluatorId : Int64), h.evaluatorIds[s]? = some evaluatorId →
    ∃ (i : Nat) (call : CreateCall), h.creates[i]? = some call ∧
      call.answer = some (.ok evaluatorId) ∧ createCourse.Over call.stage

/-- What holds of a hub in every run. -/
structure Sound (h : Hub) : Prop where
  launcher : h.OneLauncher
  createTidy : h.createDesk.Tidy createCourse
  evaluateTidy : h.evaluateDesk.Tidy evaluateCourse
  createEarned : Desk.Everywhere CreateStage.Earned h.createDesk
  evaluateEarned : Desk.Everywhere EvaluateStage.Earned h.evaluateDesk
  routes : h.RoutesSound
  enrolled : h.Enrolled
  claimed : h.Claimed

/-- A hub to which nothing has happened yet. -/
structure Fresh (h : Hub) : Prop where
  creates : h.creates = []
  evaluates : h.evaluates = []
  sessions : h.sessions = []
  waiting : h.connection.creates.waiting = []
  registry : h.connection.registry = []
  launch : ∀ i, h.launch ≠ .underway i
  loop : ∀ s m, h.loop ≠ .routed s m

theorem fresh_init (workingDir : FilePath) : Fresh { workingDir } where
  creates := rfl
  evaluates := rfl
  sessions := rfl
  waiting := rfl
  registry := rfl
  launch _ := Launch.noConfusion
  loop _ _ := Loop.noConfusion

theorem Fresh.createDesk_slips (hfresh : h.Fresh) : h.createDesk.slips = [] := by
  unfold createDesk
  rw [hfresh.creates]
  rfl

theorem Fresh.evaluateDesk_slips (hfresh : h.Fresh) : h.evaluateDesk.slips = [] := by
  unfold evaluateDesk
  rw [hfresh.evaluates]
  rfl

theorem Fresh.evaluatorIds (hfresh : h.Fresh) : h.evaluatorIds = [] := by
  unfold Hub.evaluatorIds
  rw [hfresh.sessions]
  rfl

theorem Fresh.sound (hfresh : h.Fresh) : h.Sound where
  launcher := fun i hi => absurd hi (hfresh.launch i)
  createTidy := by
    refine Desk.tidy_of_empty hfresh.createDesk_slips ?_
    intro tray htray
    obtain rfl : tray = h.connection.creates := by simpa [createDesk] using htray
    exact hfresh.waiting
  evaluateTidy := by
    refine Desk.tidy_of_empty hfresh.evaluateDesk_slips ?_
    intro tray htray
    unfold evaluateDesk at htray
    rw [hfresh.sessions] at htray
    cases htray
  createEarned := Desk.everywhere_of_empty hfresh.createDesk_slips
  evaluateEarned := Desk.everywhere_of_empty hfresh.evaluateDesk_slips
  routes := by
    constructor
    · intro id s hmem
      rw [hfresh.registry] at hmem
      cases hmem
    · intro s m hloop
      exact absurd hloop (hfresh.loop s m)
  enrolled := by
    intro i s call hcall
    rw [hfresh.creates] at hcall
    cases hcall
  claimed := by
    intro s evaluatorId hat
    rw [hfresh.evaluatorIds] at hat
    cases hat

/-! ## One step -/

/-- A call that creates stays, keeps an answer that it has, and stays over once it is over. -/
theorem create_step (hsound : h.Sound) (a : Action) {i : Nat} {call : CreateCall}
    (hcall : h.creates[i]? = some call) :
    ∃ call', (h.step a).creates[i]? = some call' ∧
      (∀ x, call.answer = some x → call'.answer = some x) ∧
      (createCourse.Over call.stage → createCourse.Over call'.stage) := by
  obtain ⟨slip', hslip', -, hkeeps, hturns⟩ :=
    (createDesk_step hsound.launcher a).keeps hsound.createTidy (slip_of_create hcall)
  obtain ⟨call', hcall', rfl⟩ := create_of_slip hslip'
  exact ⟨call', hcall', hkeeps, Desk.over_of_turns hturns⟩

theorem enrolled_step (hsound : h.Sound) (a : Action) : (h.step a).Enrolled := by
  intro i s call' hcall' hstage'
  rcases step_finished_ok hcall' hstage' with
    ⟨call, hcall, hstage⟩ | ⟨call, evaluatorId, hcall, hstage, rfl, hids⟩
  · obtain ⟨evaluatorId, hanswer, hat⟩ := hsound.enrolled i s call hcall hstage
    obtain ⟨other, hother, hkeeps, -⟩ := create_step hsound a hcall
    obtain rfl : other = call' := Option.some.inj (hother.symm.trans hcall')
    exact ⟨evaluatorId, hkeeps _ hanswer, evaluatorIds_step h a hat⟩
  · have hearned := hsound.createEarned (slip_of_create hcall)
    -- the call had its answer when it came to enter the session
    have hanswer : call.answer = some (.ok evaluatorId) := by
      have : CreateStage.Earned call.answer call.stage := hearned
      rwa [hstage] at this
    obtain ⟨other, hother, hkeeps, -⟩ := create_step hsound a hcall
    obtain rfl : other = call' := Option.some.inj (hother.symm.trans hcall')
    refine ⟨evaluatorId, hkeeps _ hanswer, ?_⟩
    rw [hids, ← length_evaluatorIds]
    simp

/-- A session is entered for an id that a call was answered with, and that call is then over. -/
theorem entered_step (hsound : h.Sound) {a : Action} {s : Nat} {evaluatorId : Int64}
    (hat : (h.step a).evaluatorIds[s]? = some evaluatorId) :
    h.evaluatorIds[s]? = some evaluatorId ∨
      ∃ (i : Nat) (call call' : CreateCall), h.creates[i]? = some call ∧
        call.stage = .inserting evaluatorId ∧ call.answer = some (.ok evaluatorId) ∧
        (h.step a).creates[i]? = some call' ∧ createCourse.Over call'.stage ∧
        s = h.sessions.length ∧
        (h.step a).evaluatorIds = h.evaluatorIds ++ [evaluatorId] := by
  cases routes_step h a with
  | kept hids _ _ => exact .inl (hids ▸ hat)
  | @entered i call id hcall hstage hover hids _ _ _ =>
      rw [hids] at hat
      rcases getElem?_of_append hat with hold | ⟨rfl, rfl⟩
      · exact .inl hold
      -- a place that is new is that of the session which the call entered
      · have hearned : CreateStage.Earned call.answer call.stage :=
          hsound.createEarned (slip_of_create hcall)
        rw [hstage] at hearned
        obtain ⟨call', hcall', hstage'⟩ := createStages_getElem?.1 hover
        exact .inr ⟨i, call, call', hcall, hstage, hearned, hcall',
          .inl ⟨_, by rw [hstage']; rfl⟩, h.length_evaluatorIds, hids⟩
  | routed _ _ hids _ _ _ => exact .inl (hids ▸ hat)
  | passed hids _ _ _ => exact .inl (hids ▸ hat)

theorem claimed_step (hsound : h.Sound) (a : Action) : (h.step a).Claimed := by
  intro s evaluatorId hat
  rcases entered_step hsound hat with hold | ⟨i, call, call', hcall, -, hanswer, hcall', hover, -, -⟩
  · obtain ⟨i, call, hcall, hanswer, hover⟩ := hsound.claimed s evaluatorId hold
    obtain ⟨call', hcall', hkeeps, hstays⟩ := create_step hsound a hcall
    exact ⟨i, call', hcall', hkeeps _ hanswer, hstays hover⟩
  · obtain ⟨other, hother, hkeeps, -⟩ := create_step hsound a hcall
    obtain rfl : other = call' := Option.some.inj (hother.symm.trans hcall')
    exact ⟨i, other, hcall', hkeeps _ hanswer, hover⟩

theorem Sound.step (hsound : h.Sound) (a : Action) : (h.step a).Sound where
  launcher := oneLauncher_step hsound.launcher a
  createTidy := (createDesk_step hsound.launcher a).tidy hsound.createTidy
  evaluateTidy := (evaluateDesk_step h a).tidy hsound.evaluateTidy
  createEarned := (createDesk_step hsound.launcher a).everywhere kept_earned_create
    hsound.createTidy hsound.createEarned
  evaluateEarned := (evaluateDesk_step h a).everywhere kept_earned_evaluate hsound.evaluateTidy
    hsound.evaluateEarned
  routes := routesSound_step hsound.routes a
  enrolled := enrolled_step hsound a
  claimed := claimed_step hsound a

/-! ## Runs -/

theorem run_append (h : Hub) (actions more : List Action) :
    h.run (actions ++ more) = (h.run actions).run more :=
  List.foldl_append

theorem run_snoc (h : Hub) (actions : List Action) (a : Action) :
    h.run (actions ++ [a]) = (h.run actions).step a :=
  run_append h actions [a]

/-- What every step keeps holds at the end of a run. -/
theorem run_keeps {P : Hub → Prop} (hstep : ∀ {h : Hub}, P h → ∀ a, P (h.step a)) (hstart : P h)
    (actions : List Action) : P (h.run actions) := by
  induction actions generalizing h with
  | nil => exact hstart
  | cons a actions ih => exact ih (hstep hstart a)

theorem Sound.run (hsound : h.Sound) (actions : List Action) : (h.run actions).Sound :=
  run_keeps (fun hsound a => hsound.step a) hsound actions

/-! ## Evaluator ids that do not repeat -/

/-- No two calls were answered with one evaluator id.  A call keeps its answer, so that this speaks of all
that has happened so far. -/
def HandsOutOnce (h : Hub) : Prop :=
  ∀ (i j : Nat) (call call' : CreateCall) (evaluatorId : Int64), h.creates[i]? = some call →
    h.creates[j]? = some call' → call.answer = some (.ok evaluatorId) →
    call'.answer = some (.ok evaluatorId) → i = j

/-- No two sessions have one evaluator id. -/
def DistinctSessions (h : Hub) : Prop :=
  ∀ (s s' : Nat) (evaluatorId : Int64), h.evaluatorIds[s]? = some evaluatorId →
    h.evaluatorIds[s']? = some evaluatorId → s = s'

/-- One call alone is answered with one id. -/
theorem handsOutOnce_of_length_le_one (hlength : h.creates.length ≤ 1) : h.HandsOutOnce := by
  intro i j call call' evaluatorId hcall hcall' _ _
  have hi := (List.getElem?_eq_some_iff.1 hcall).1
  have hj := (List.getElem?_eq_some_iff.1 hcall').1
  omega

/-- The evaluator id that a call was answered with. -/
def CreateCall.evaluatorId? (call : CreateCall) : Option Int64 := call.answer.bind Except.toOption

/-- No call was answered with the id of a later one. -/
theorem handsOutOnce_of_pairwise (hapart : (h.creates.map CreateCall.evaluatorId?).Pairwise
    fun id id' => id = none ∨ id ≠ id') : h.HandsOutOnce := by
  have hearlier : ∀ (i j : Nat) (call call' : CreateCall) (id : Int64), h.creates[i]? = some call →
      h.creates[j]? = some call' → call.answer = some (.ok id) → call'.answer = some (.ok id) →
      ¬ i < j := by
    intro i j call call' id hcall hcall' hanswer hanswer' hlt
    obtain ⟨hi, rfl⟩ := List.getElem?_eq_some_iff.1 hcall
    obtain ⟨hj, rfl⟩ := List.getElem?_eq_some_iff.1 hcall'
    have := List.pairwise_iff_getElem.1 hapart i j (by simpa using hi) (by simpa using hj) hlt
    simp [CreateCall.evaluatorId?, hanswer, hanswer', Except.toOption] at this
  intro i j call call' id hcall hcall' hanswer hanswer'
  have := hearlier i j call call' id hcall hcall' hanswer hanswer'
  have := hearlier j i call' call id hcall' hcall hanswer' hanswer
  omega

theorem handsOutOnce_of_step (hsound : h.Sound) {a : Action} (honce : (h.step a).HandsOutOnce) :
    h.HandsOutOnce := by
  intro i j call call' evaluatorId hcall hcall' hanswer hanswer'
  obtain ⟨next, hnext, hkeeps, -⟩ := create_step hsound a hcall
  obtain ⟨next', hnext', hkeeps', -⟩ := create_step hsound a hcall'
  exact honce i j next next' evaluatorId hnext hnext' (hkeeps _ hanswer) (hkeeps' _ hanswer')

theorem handsOutOnce_of_run (hsound : h.Sound) {actions : List Action}
    (honce : (h.run actions).HandsOutOnce) : h.HandsOutOnce := by
  induction actions generalizing h with
  | nil => exact honce
  | cons a actions ih => exact handsOutOnce_of_step hsound (ih (hsound.step a) honce)

/-- The id of a session was the answer to a call that is over, so that no call enters another session for
it. -/
theorem not_inserting_of_known (hsound : h.Sound) (honce : h.HandsOutOnce) {s i : Nat}
    {evaluatorId : Int64} {call : CreateCall} (hat : h.evaluatorIds[s]? = some evaluatorId)
    (hcall : h.creates[i]? = some call) (hanswer : call.answer = some (.ok evaluatorId)) :
    call.stage ≠ .inserting evaluatorId := by
  intro hstage
  obtain ⟨j, other, hother, hanswer', hover⟩ := hsound.claimed s evaluatorId hat
  obtain rfl : i = j := honce i j call other evaluatorId hcall hother hanswer hanswer'
  obtain rfl : call = other := Option.some.inj (hcall.symm.trans hother)
  -- the one call that was answered with the id is over, and thus enters nothing
  rw [hstage] at hover
  rcases hover with ⟨o, ho⟩ | habandoned
  · cases ho
  · cases habandoned

theorem distinctSessions_step (hsound : h.Sound) {a : Action} (honce : (h.step a).HandsOutOnce)
    (hdistinct : h.DistinctSessions) : (h.step a).DistinctSessions := by
  have hbefore := handsOutOnce_of_step hsound honce
  intro s s' evaluatorId hat hat'
  rcases entered_step hsound hat with hold | ⟨i, call, -, hcall, hstage, hanswer, -, -, hs, -⟩
  · rcases entered_step hsound hat' with hold' | ⟨i, call, -, hcall, hstage, hanswer, -, -, -, -⟩
    · exact hdistinct s s' evaluatorId hold hold'
    · exact absurd hstage (not_inserting_of_known hsound hbefore hold hcall hanswer)
  -- sessions that are new are the one that this step entered
  · rcases entered_step hsound hat' with hold' | ⟨-, -, -, -, -, -, -, -, hs', -⟩
    · exact absurd hstage (not_inserting_of_known hsound hbefore hold' hcall hanswer)
    · rw [hs, hs']

theorem distinctSessions_run (hsound : h.Sound) {actions : List Action}
    (honce : (h.run actions).HandsOutOnce) (hdistinct : h.DistinctSessions) :
    (h.run actions).DistinctSessions := by
  induction actions generalizing h with
  | nil => exact hdistinct
  | cons a actions ih =>
      have hfirst : (h.step a).HandsOutOnce := handsOutOnce_of_run (hsound.step a) honce
      exact ih (hsound.step a) honce (distinctSessions_step hsound hfirst hdistinct)

end PklHost.Hub
