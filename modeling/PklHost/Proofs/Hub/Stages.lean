import PklHost.Proofs.Hub.Calls

/-!
# The stages of the calls

A call that creates changes its stage by its own steps, when it is given up, and when the server that it
starts has started (`stages_step`).  So the call that starts the server stays at that until the start ends,
and a call that returns a session has entered it under the evaluator id that it was answered with.

A call that evaluates changes its stage by its own steps and when it is given up (`evaluateStages_step`).
-/

namespace PklHost.Hub

variable {h h' : Hub}

def createStages (h : Hub) : List CreateStage := h.creates.map CreateCall.stage

theorem length_createStages (h : Hub) : h.createStages.length = h.creates.length :=
  List.length_map _

theorem createStages_eq (h : Hub) : h.createStages = h.createDesk.slips.map Slip.stage := by
  unfold createStages createDesk
  rw [List.map_map]
  rfl

theorem Quiet.createStages (q : Quiet h h') : h'.createStages = h.createStages := by
  unfold Hub.createStages
  rw [q.creates]

/-- Answers change no stage. -/
theorem stages_giveAll {α σ : Type} (tickets : List Nat) (a : Except EvaluatorError α)
    (slips : List (Slip α σ)) : (giveAll tickets a slips).map Slip.stage = slips.map Slip.stage := by
  apply List.ext_getElem?
  intro i
  rw [List.getElem?_map, List.getElem?_map, getElem?_giveAll]
  cases slips[i]? with
  | none => rfl
  | some slip => by_cases hi : i ∈ tickets <;> simp [hi, Slip.give]

theorem createStages_answerCreate (i : Nat) (a : Except EvaluatorError Int64) (h : Hub) :
    (h.answerCreate i a).createStages = h.createStages := by
  rw [createStages_eq, createStages_eq, createDesk_answerCreate]
  exact stages_giveAll [i] a h.createDesk.slips

theorem createStages_failCreates (fault : EvaluatorError) (h : Hub) :
    (h.failCreates fault).createStages = h.createStages := by
  unfold failCreates
  rw [createStages_eq, createStages_eq]
  dsimp only [Pending.close]
  rw [createDesk_answerAll, stages_giveAll]
  rfl

theorem createStages_withdrawCreate (requestId : Int64) (own : Nat) (h : Hub) :
    (h.withdrawCreate requestId own).createStages = h.createStages := by
  rw [createStages_eq, createStages_eq, createDesk_withdrawCreate]
  exact stages_giveAll _ _ h.createDesk.slips

theorem createStages_moveCreate (i : Nat) (stage : CreateStage) (h : Hub) :
    (h.moveCreate i stage).createStages = h.createStages.modify i fun _ => stage := by
  rw [moveCreate_eq]
  apply map_modify
  intro call
  rfl

theorem createStages_failSession (s : Nat) (fault : EvaluatorError) (h : Hub) :
    (h.failSession s fault).createStages = h.createStages := by
  obtain ⟨evaluates, heq⟩ := h.failSession_eq s fault
  rw [heq]
  rfl

theorem createStages_moveEvaluate (i : Nat) (stage : EvaluateStage) (h : Hub) :
    (h.moveEvaluate i stage).createStages = h.createStages := by
  rw [moveEvaluate_eq]
  rfl

theorem EvaluateStep.createStages {i : Nat} {call : EvaluateCall} {session : Session}
    {stage : EvaluateStage} (hsession : h.sessions[call.session]? = some session)
    (hstep : EvaluateStep h i call session stage h') : h'.createStages = h.createStages := by
  obtain ⟨evaluates, sessions, -, hquiet⟩ := hstep.touches hsession
  rw [hquiet.createStages]
  rfl

theorem CreateStep.createStages {i : Nat} {call : CreateCall} {stage : CreateStage}
    (hstep : CreateStep h i call stage h') : h'.createStages = h.createStages := by
  cases hstep with
  | goes _ _ _ hquiet => exact hquiet.createStages
  | launches _ _ => rfl
  | files _ _ _ => rfl
  | withdraws _ => exact createStages_withdrawCreate _ i h
  | inserts _ hinsert =>
      rw [insertSession_eq_ok hinsert]
      rfl

theorem LoopEffect.createStages (heffect : LoopEffect h h') : h'.createStages = h.createStages := by
  cases heffect with
  | passed loop _ _ _ => rfl
  | routed _ _ _ _ => rfl
  | create _ _ =>
      rw [createStages_answerCreate]
      rfl
  | @evaluate s m session i pending _ _ _ =>
      rw [answerEvaluate_eq]
      rfl

/-! ## The start of the server -/

theorem launch_moveCreate (i : Nat) (stage : CreateStage) (h : Hub) :
    (h.moveCreate i stage).launch = h.launch := by
  rw [moveCreate_eq]

theorem launch_moveEvaluate (i : Nat) (stage : EvaluateStage) (h : Hub) :
    (h.moveEvaluate i stage).launch = h.launch := by
  rw [moveEvaluate_eq]

theorem EvaluateStep.launch {i : Nat} {call : EvaluateCall} {session : Session}
    {stage : EvaluateStage} (hsession : h.sessions[call.session]? = some session)
    (hstep : EvaluateStep h i call session stage h') : h'.launch = h.launch := by
  obtain ⟨evaluates, sessions, -, hquiet⟩ := hstep.touches hsession
  exact hquiet.launch

theorem launch_failSession (s : Nat) (fault : EvaluatorError) (h : Hub) :
    (h.failSession s fault).launch = h.launch := by
  obtain ⟨evaluates, heq⟩ := h.failSession_eq s fault
  rw [heq]

theorem launch_failCreates (fault : EvaluatorError) (h : Hub) :
    (h.failCreates fault).launch = h.launch := by
  obtain ⟨creates, waiting, -, heq⟩ := h.failCreates_eq fault
  rw [heq]

theorem LoopEffect.launch (heffect : LoopEffect h h') : h'.launch = h.launch := by
  cases heffect with
  | passed loop _ _ _ => rfl
  | routed _ _ _ _ => rfl
  | @create m i creates _ _ =>
      rw [answerCreate_eq]
  | @evaluate s m session i pending _ _ _ =>
      rw [answerEvaluate_eq]
      rfl

/-! ## What an action does -/

/-- What an action does to the stages of the calls that create, and to the start of the server. -/
inductive StagesEffect (h : Hub) (a : Action) (h' : Hub) : Prop
  | kept (hstages : h'.createStages = h.createStages) (hlaunch : h'.launch = h.launch)
  | begun (hstages : h'.createStages = h.createStages ++ [.connecting])
      (hlaunch : h'.launch = h.launch)
  | advanced {i : Nat} {call : CreateCall} {stage : CreateStage} {h₁ : Hub}
      (ha : a = .advance (.create i)) (hcall : h.creates[i]? = some call)
      (hturn : CreateTurn h i call stage h₁) (heq : h' = h₁.moveCreate i stage)
      (hstages : h'.createStages = h.createStages.modify i fun _ => stage)
  | abandoned {i : Nat} {call : CreateCall} (ha : a = .abandon (.create i))
      (hcall : h.creates[i]? = some call) (hpauses : call.stage.pauses = true)
      (hstages : h'.createStages = h.createStages.modify i fun _ => .abandoned)
      (hlaunch : h'.launch = h.launch)
  | ended {i : Nat} {stage : CreateStage} (hunderway : h.launch = .underway i)
      (hstages : h'.createStages = h.createStages.modify i fun _ => stage)
      (hends : LaunchEnds stage h'.launch)

theorem stages_step (h : Hub) (a : Action) : StagesEffect h a (h.step a) := by
  obtain ⟨h₁, heffect, hquiet⟩ := h.step_effect a
  have hstages := hquiet.createStages
  have hlaunch := hquiet.launch
  cases heffect with
  | none => exact .kept hstages hlaunch
  | begunCreate o =>
      unfold beginCreate createStages at hstages
      rw [List.map_append] at hstages
      exact .begun hstages hlaunch
  | begunEvaluate s source expr => exact .kept hstages hlaunch
  | create hcall hturn heq =>
      rw [createStages_moveCreate, hturn.step.createStages] at hstages
      exact .advanced rfl hcall hturn heq hstages
  | evaluate _ hsession hturn _ =>
      rw [createStages_moveEvaluate, hturn.step.createStages hsession] at hstages
      rw [launch_moveEvaluate, hturn.step.launch hsession] at hlaunch
      exact .kept hstages hlaunch
  | failedSession s _ =>
      rw [createStages_failSession] at hstages
      rw [launch_failSession] at hlaunch
      exact .kept hstages hlaunch
  | failedCreates _ =>
      rw [createStages_failCreates] at hstages
      rw [launch_failCreates] at hlaunch
      exact .kept hstages hlaunch
  | unregistered _ => exact .kept hstages hlaunch
  | abandonedCreate hcall hpauses =>
      rw [createStages_moveCreate] at hstages
      rw [launch_moveCreate] at hlaunch
      exact .abandoned rfl hcall hpauses hstages hlaunch
  | abandonedEvaluate _ _ =>
      rw [createStages_moveEvaluate] at hstages
      rw [launch_moveEvaluate] at hlaunch
      exact .kept hstages hlaunch
  | launched hunderway hends =>
      rw [createStages_moveCreate] at hstages
      rw [launch_moveCreate] at hlaunch
      exact .ended hunderway hstages (hlaunch ▸ hends)
  | loop heffect => exact .kept (hstages.trans heffect.createStages) (hlaunch.trans heffect.launch)
  | halted _ => exact .kept hstages hlaunch

/-! ## What follows for one call -/

theorem createStages_getElem? {i : Nat} {stage : CreateStage} :
    h.createStages[i]? = some stage ↔ ∃ call, h.creates[i]? = some call ∧ call.stage = stage := by
  unfold createStages
  rw [List.getElem?_map, Option.map_eq_some_iff]

/-- What stands in a list in which one entry was replaced. -/
theorem getElem?_modify_const {β : Type} {l : List β} {i j : Nat} {x y : β}
    (h : (l.modify j fun _ => x)[i]? = some y) : (j = i ∧ x = y) ∨ l[i]? = some y := by
  rw [List.getElem?_modify] at h
  by_cases hj : j = i
  · cases hget : l[i]? with
    | none => simp [hget] at h
    | some z => exact .inl ⟨hj, by simpa [hget, hj] using h⟩
  · exact .inr (by simpa [hj] using h)

/-- Where a call that creates is after an action, and how it came there. -/
inductive CreateOrigin (h : Hub) (a : Action) (i : Nat) (stage : CreateStage) : Prop
  | kept (hat : h.createStages[i]? = some stage)
  | begun (hnone : h.creates[i]? = none) (hstage : stage = .connecting)
  | turned {call : CreateCall} {h₁ : Hub} (ha : a = .advance (.create i))
      (hcall : h.creates[i]? = some call) (hturn : CreateTurn h i call stage h₁)
      (heq : h.step a = h₁.moveCreate i stage)
  | abandoned (hstage : stage = .abandoned)
  | launched (hunderway : h.launch = .underway i) (hends : LaunchEnds stage (h.step a).launch)

theorem createOrigin {a : Action} {i : Nat} {stage : CreateStage}
    (hat : (h.step a).createStages[i]? = some stage) : CreateOrigin h a i stage := by
  cases stages_step h a with
  | kept hstages _ => exact .kept (hstages ▸ hat)
  | begun hstages _ =>
      rw [hstages] at hat
      rcases getElem?_of_append hat with hold | ⟨rfl, hstage⟩
      · exact .kept hold
      · exact .begun (List.getElem?_eq_none (Nat.le_of_eq h.length_createStages.symm)) hstage
  | advanced ha hcall hturn heq hstages =>
      rw [hstages] at hat
      rcases getElem?_modify_const hat with ⟨rfl, rfl⟩ | hold
      · exact .turned ha hcall hturn heq
      · exact .kept hold
  | abandoned _ _ _ hstages _ =>
      rw [hstages] at hat
      rcases getElem?_modify_const hat with ⟨-, rfl⟩ | hold
      · exact .abandoned rfl
      · exact .kept hold
  | ended hunderway hstages hends =>
      rw [hstages] at hat
      rcases getElem?_modify_const hat with ⟨rfl, rfl⟩ | hold
      · exact .launched hunderway hends
      · exact .kept hold

/-- A call that creates waits at its stage for its next turn, unless it is given up there or is starting
the server. -/
theorem createStages_keeps {a : Action} {i : Nat} {stage : CreateStage}
    (hat : h.createStages[i]? = some stage) (ha : a ≠ .advance (.create i))
    (hpauses : a = .abandon (.create i) → stage.pauses = false) (hlaunching : h.OneLauncher)
    (hstage : stage ≠ .launching) :
    (h.step a).createStages[i]? = some stage := by
  have hother : ∀ {j : Nat} {moved : CreateStage}, j ≠ i →
      (h.createStages.modify j fun _ => moved)[i]? = some stage := by
    intro j moved hj
    rw [List.getElem?_modify_ne _ _ hj, hat]
  cases stages_step h a with
  | kept hstages _ => rw [hstages, hat]
  | begun hstages _ =>
      rw [hstages, getElem?_append_of_some hat]
  | advanced hadvance _ _ _ hstages =>
      rw [hstages]
      apply hother
      rintro rfl
      exact ha hadvance
  | @abandoned j call habandon hcall hcan hstages _ =>
      rw [hstages]
      apply hother
      rintro rfl
      have hstays := hpauses habandon
      rw [← Option.some.inj ((createStages_getElem?.2 ⟨call, hcall, rfl⟩).symm.trans hat)] at hstays
      rw [hstays] at hcan
      cases hcan
  | @ended j moved hunderway hstages _ =>
      rw [hstages]
      apply hother
      rintro rfl
      have hstart := createStages_getElem?.2 (hlaunching j hunderway)
      exact hstage (Option.some.inj (hat.symm.trans hstart))

/-- A step of a call that creates starts the server, or leaves the start to the call that is at it. -/
theorem CreateStep.launch {i : Nat} {call : CreateCall} {stage : CreateStage}
    (hstep : CreateStep h i call stage h') :
    (h.launch = .idle ∧ h'.launch = .underway i ∧ stage = .launching) ∨
      (h'.launch = h.launch ∧ (call.stage = .launching → stage = .launching)) := by
  -- who does anything else than start the server is not at that
  have helse : ∀ {before : CreateStage}, call.stage = before → before ≠ .launching →
      (call.stage = .launching → stage = .launching) := by
    rintro before rfl hnot hlaunching
    exact absurd hlaunching hnot
  cases hstep with
  | goes _ hlaunching _ hquiet => exact .inr ⟨hquiet.launch, hlaunching⟩
  | launches _ hidle => exact .inl ⟨hidle, rfl, rfl⟩
  | files hstage _ _ => exact .inr ⟨rfl, helse hstage CreateStage.noConfusion⟩
  | @withdraws requestId _ hstage =>
      obtain ⟨creates, waiting, -, heq⟩ := h.withdrawCreate_eq requestId i
      rw [heq]
      exact .inr ⟨rfl, helse hstage CreateStage.noConfusion⟩
  | inserts hstage hinsert =>
      rw [insertSession_eq_ok hinsert]
      exact .inr ⟨rfl, helse hstage CreateStage.noConfusion⟩

/-- The call that starts the server does so until the start is over. -/
theorem oneLauncher_step (hlauncher : h.OneLauncher) (a : Action) : (h.step a).OneLauncher := by
  intro i hi
  rw [← createStages_getElem?]
  cases stages_step h a with
  | kept hstages hlaunch =>
      rw [hstages, createStages_getElem?]
      exact hlauncher i (hlaunch ▸ hi)
  | begun hstages hlaunch =>
      have hold := createStages_getElem?.2 (hlauncher i (hlaunch ▸ hi))
      rw [hstages, getElem?_append_of_some hold]
  | @advanced j call stage h₁ _ hcall hturn heq hstages =>
      rw [heq, launch_moveCreate] at hi
      rw [hstages, List.getElem?_modify]
      rcases hturn.step.launch with ⟨-, hunderway, rfl⟩ | ⟨hsame, hlaunching⟩
      · -- the call has just begun to start the server
        obtain rfl : j = i := Launch.underway.inj (hunderway.symm.trans hi)
        rw [createStages_getElem?.2 ⟨call, hcall, rfl⟩]
        simp
      -- the call at the start is the one that steps, and stays there, or another one
      · have hat := createStages_getElem?.2 (hlauncher i (hsame ▸ hi))
        rw [hat]
        by_cases hj : j = i
        · subst hj
          have hown := createStages_getElem?.2 ⟨call, hcall, rfl⟩
          have hstage : call.stage = .launching := Option.some.inj (hown.symm.trans hat)
          simp [hlaunching hstage]
        · simp [hj]
  | @abandoned j call _ hcall hpauses hstages hlaunch =>
      rw [hlaunch] at hi
      -- the call that starts the server waits for nothing
      have hj : j ≠ i := by
        rintro rfl
        obtain ⟨other, hother, hlaunching⟩ := hlauncher j hi
        obtain rfl : call = other := Option.some.inj (hcall.symm.trans hother)
        rw [hlaunching] at hpauses
        cases hpauses
      rw [hstages, List.getElem?_modify, createStages_getElem?.2 (hlauncher i hi)]
      simp [hj]
  | ended _ _ hends => exact absurd hi (hends.over i)

/-- A call that takes a step comes to return a session by entering it. -/
theorem CreateStep.finished_ok {i s : Nat} {call : CreateCall} {stage : CreateStage}
    (hstep : CreateStep h i call stage h') (hstage : stage = .finished (.ok s)) :
    call.stage = .finished (.ok s) ∨
      ∃ evaluatorId, call.stage = .inserting evaluatorId ∧ s = h.sessions.length ∧
        h'.evaluatorIds = h.evaluatorIds ++ [evaluatorId] := by
  cases hstep with
  | goes _ _ hfinished _ => exact .inl ((hfinished s hstage).trans hstage)
  | launches _ _ => cases hstage
  | files _ _ _ => cases hstage
  | withdraws _ => cases hstage
  | @inserts evaluatorId h' hinserting hinsert =>
      have hs : h.sessions.length = s := Except.ok.inj (CreateStage.finished.inj hstage)
      refine .inr ⟨evaluatorId, hinserting, hs.symm, ?_⟩
      rw [insertSession_eq_ok hinsert]
      unfold evaluatorIds
      rw [List.map_append]
      rfl

/-- A call returns a session when it has entered it. -/
theorem step_finished_ok {a : Action} {i s : Nat} {call' : CreateCall}
    (hcall' : (h.step a).creates[i]? = some call') (hstage' : call'.stage = .finished (.ok s)) :
    (∃ call, h.creates[i]? = some call ∧ call.stage = .finished (.ok s)) ∨
      ∃ call evaluatorId, h.creates[i]? = some call ∧ call.stage = .inserting evaluatorId ∧
        s = h.sessions.length ∧ (h.step a).evaluatorIds = h.evaluatorIds ++ [evaluatorId] := by
  cases createOrigin (createStages_getElem?.2 ⟨call', hcall', hstage'⟩) with
  | kept hat => exact .inl (createStages_getElem?.1 hat)
  | begun _ hstage | abandoned hstage => cases hstage
  | @turned call h₁ _ hcall hturn heq =>
      rcases hturn.step.finished_ok rfl with hbefore | ⟨evaluatorId, hinserting, hs, hentered⟩
      · exact .inl ⟨call, hcall, hbefore⟩
      · refine .inr ⟨call, evaluatorId, hcall, hinserting, hs, ?_⟩
        rw [heq, evaluatorIds_moveCreate, hentered]
  | launched _ hends => cases hends

/-! ## Calls that evaluate -/

def evaluateStages (h : Hub) : List EvaluateStage := h.evaluates.map EvaluateCall.stage

theorem length_evaluateStages (h : Hub) : h.evaluateStages.length = h.evaluates.length :=
  List.length_map _

theorem evaluateStages_eq (h : Hub) : h.evaluateStages = h.evaluateDesk.slips.map Slip.stage := by
  unfold evaluateStages evaluateDesk
  rw [List.map_map]
  rfl

theorem evaluateStages_getElem? {i : Nat} {stage : EvaluateStage} :
    h.evaluateStages[i]? = some stage ↔ ∃ call, h.evaluates[i]? = some call ∧ call.stage = stage := by
  unfold evaluateStages
  rw [List.getElem?_map, Option.map_eq_some_iff]

theorem Quiet.evaluateStages (q : Quiet h h') : h'.evaluateStages = h.evaluateStages := by
  unfold Hub.evaluateStages
  rw [q.evaluates]

theorem evaluateStages_answerEvaluate (i : Nat) (a : Except EvaluatorError Bytes) (h : Hub) :
    (h.answerEvaluate i a).evaluateStages = h.evaluateStages := by
  rw [evaluateStages_eq, evaluateStages_eq, evaluateDesk_answerEvaluate]
  exact stages_giveAll [i] a h.evaluateDesk.slips

theorem evaluateStages_moveEvaluate (i : Nat) (stage : EvaluateStage) (h : Hub) :
    (h.moveEvaluate i stage).evaluateStages = h.evaluateStages.modify i fun _ => stage := by
  rw [moveEvaluate_eq]
  apply map_modify
  intro call
  rfl

theorem evaluateStages_moveCreate (i : Nat) (stage : CreateStage) (h : Hub) :
    (h.moveCreate i stage).evaluateStages = h.evaluateStages := by
  rw [moveCreate_eq]
  rfl

theorem evaluateStages_failSession (s : Nat) (fault : EvaluatorError) (h : Hub) :
    (h.failSession s fault).evaluateStages = h.evaluateStages := by
  unfold failSession
  split
  · rw [evaluateStages_eq, evaluateStages_eq]
    dsimp only [Pending.close]
    rw [evaluateDesk_answerAll, stages_giveAll]
    rfl
  · rfl

theorem evaluateStages_failCreates (fault : EvaluatorError) (h : Hub) :
    (h.failCreates fault).evaluateStages = h.evaluateStages := by
  obtain ⟨creates, waiting, -, heq⟩ := h.failCreates_eq fault
  rw [heq]
  rfl

theorem CreateStep.evaluateStages {i : Nat} {call : CreateCall} {stage : CreateStage}
    (hstep : CreateStep h i call stage h') : h'.evaluateStages = h.evaluateStages := by
  cases hstep with
  | goes _ _ _ hquiet => exact hquiet.evaluateStages
  | launches _ _ => rfl
  | files _ _ _ => rfl
  | withdraws _ =>
      obtain ⟨creates, waiting, -, heq⟩ := h.withdrawCreate_eq _ i
      rw [heq]
      rfl
  | inserts _ hinsert =>
      rw [insertSession_eq_ok hinsert]
      rfl

theorem EvaluateStep.evaluateStages {i : Nat} {call : EvaluateCall} {session : Session}
    {stage : EvaluateStage} (hsession : h.sessions[call.session]? = some session)
    (hstep : EvaluateStep h i call session stage h') : h'.evaluateStages = h.evaluateStages := by
  cases hstep with
  | goes _ hquiet => exact hquiet.evaluateStages
  | numbers _ _ _ => rfl
  | files _ _ _ => rfl
  | withdraws _ =>
      rw [evaluateStages_eq, evaluateStages_eq, evaluateDesk_withdrawEvaluate hsession, stages_giveAll]

theorem LoopEffect.evaluateStages (heffect : LoopEffect h h') :
    h'.evaluateStages = h.evaluateStages := by
  cases heffect with
  | passed loop _ _ _ => rfl
  | routed _ _ _ _ => rfl
  | create _ _ =>
      rw [answerCreate_eq]
      rfl
  | evaluate _ _ _ =>
      rw [evaluateStages_answerEvaluate]
      rfl

/-- What an action does to the stages of the calls that evaluate. -/
inductive EvaluateStagesEffect (h : Hub) (a : Action) (h' : Hub) : Prop
  | kept (hstages : h'.evaluateStages = h.evaluateStages)
  | begun (hstages : h'.evaluateStages = h.evaluateStages ++ [.opening])
  | advanced {i : Nat} {call : EvaluateCall} {session : Session} {stage : EvaluateStage} {h₁ : Hub}
      (ha : a = .advance (.evaluate i)) (hcall : h.evaluates[i]? = some call)
      (hsession : h.sessions[call.session]? = some session)
      (hturn : EvaluateTurn h i call session stage h₁) (heq : h' = h₁.moveEvaluate i stage)
      (hstages : h'.evaluateStages = h.evaluateStages.modify i fun _ => stage)
  | abandoned {i : Nat} {call : EvaluateCall} (ha : a = .abandon (.evaluate i))
      (hcall : h.evaluates[i]? = some call) (hpauses : call.stage.pauses = true)
      (hstages : h'.evaluateStages = h.evaluateStages.modify i fun _ => .abandoned)

theorem evaluateStages_step (h : Hub) (a : Action) : EvaluateStagesEffect h a (h.step a) := by
  obtain ⟨h₁, heffect, hquiet⟩ := h.step_effect a
  have hstages := hquiet.evaluateStages
  cases heffect with
  | none | begunCreate _ | unregistered _ | halted _ => exact .kept hstages
  | begunEvaluate s source expr =>
      unfold beginEvaluate evaluateStages at hstages
      rw [List.map_append] at hstages
      exact .begun hstages
  | create _ hturn _ =>
      rw [evaluateStages_moveCreate, hturn.step.evaluateStages] at hstages
      exact .kept hstages
  | evaluate hcall hsession hturn heq =>
      rw [evaluateStages_moveEvaluate, hturn.step.evaluateStages hsession] at hstages
      exact .advanced rfl hcall hsession hturn heq hstages
  | failedSession s _ =>
      rw [evaluateStages_failSession] at hstages
      exact .kept hstages
  | failedCreates _ =>
      rw [evaluateStages_failCreates] at hstages
      exact .kept hstages
  | abandonedCreate _ _ | launched _ _ =>
      rw [evaluateStages_moveCreate] at hstages
      exact .kept hstages
  | abandonedEvaluate hcall hpauses =>
      rw [evaluateStages_moveEvaluate] at hstages
      exact .abandoned rfl hcall hpauses hstages
  | loop heffect => exact .kept (hstages.trans heffect.evaluateStages)

/-- Where a call that evaluates is after an action, and how it came there. -/
inductive EvaluateOrigin (h : Hub) (a : Action) (i : Nat) (stage : EvaluateStage) : Prop
  | kept (hat : h.evaluateStages[i]? = some stage)
  | begun (hnone : h.evaluates[i]? = none) (hstage : stage = .opening)
  | turned {call : EvaluateCall} {session : Session} {h₁ : Hub} (ha : a = .advance (.evaluate i))
      (hcall : h.evaluates[i]? = some call) (hsession : h.sessions[call.session]? = some session)
      (hturn : EvaluateTurn h i call session stage h₁) (heq : h.step a = h₁.moveEvaluate i stage)
  | abandoned (hstage : stage = .abandoned)

theorem evaluateOrigin {a : Action} {i : Nat} {stage : EvaluateStage}
    (hat : (h.step a).evaluateStages[i]? = some stage) : EvaluateOrigin h a i stage := by
  cases evaluateStages_step h a with
  | kept hstages => exact .kept (hstages ▸ hat)
  | begun hstages =>
      rw [hstages] at hat
      rcases getElem?_of_append hat with hold | ⟨rfl, hstage⟩
      · exact .kept hold
      · exact .begun (List.getElem?_eq_none (Nat.le_of_eq h.length_evaluateStages.symm)) hstage
  | advanced ha hcall hsession hturn heq hstages =>
      rw [hstages] at hat
      rcases getElem?_modify_const hat with ⟨rfl, rfl⟩ | hold
      · exact .turned ha hcall hsession hturn heq
      · exact .kept hold
  | abandoned _ _ _ hstages =>
      rw [hstages] at hat
      rcases getElem?_modify_const hat with ⟨-, rfl⟩ | hold
      · exact .abandoned rfl
      · exact .kept hold

/-- A call that evaluates waits at its stage for its next turn, unless it is given up there. -/
theorem evaluateStages_keeps {a : Action} {i : Nat} {stage : EvaluateStage}
    (hat : h.evaluateStages[i]? = some stage) (ha : a ≠ .advance (.evaluate i))
    (hpauses : a = .abandon (.evaluate i) → stage.pauses = false) :
    (h.step a).evaluateStages[i]? = some stage := by
  cases evaluateStages_step h a with
  | kept hstages => rw [hstages, hat]
  | begun hstages =>
      rw [hstages, getElem?_append_of_some hat]
  | @advanced j _ _ _ _ hadvance _ _ _ _ hstages =>
      have hj : j ≠ i := by
        rintro rfl
        exact ha hadvance
      rw [hstages, List.getElem?_modify_ne _ _ hj, hat]
  | @abandoned j call habandon hcall hcan hstages =>
      have hj : j ≠ i := by
        rintro rfl
        have hstays := hpauses habandon
        rw [← Option.some.inj ((evaluateStages_getElem?.2 ⟨call, hcall, rfl⟩).symm.trans hat)]
          at hstays
        rw [hstays] at hcan
        cases hcan
      rw [hstages, List.getElem?_modify_ne _ _ hj, hat]

end PklHost.Hub
