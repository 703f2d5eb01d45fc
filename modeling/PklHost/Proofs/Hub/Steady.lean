import PklHost.Proofs.Hub.Intake
import PklHost.Proofs.Hub.Manager
import PklHost.Proofs.Hub.Performers

/-!
# What keeps a hub going

`Steady` says of a hub that nothing in it waits for what cannot come: whoever is at a shutdown finds the
connection closed, whoever is at the start of the server is the one that the manager has there, and whoever
evaluates does so in a session that there is.  All of that holds of a new hub and in every run from it in
which evaluations begin in sessions that there are (`Steady.step`).
-/

namespace PklHost.Hub

open Message (Incoming Outgoing)

variable {h h' : Hub}

/-! ## Whoever shuts the connection down -/

theorem isClosed_of_going {m : Outgoing} {progress progress' : Sending}
    (hsending : h.stepSending m progress = (.going progress', h')) (hshuts : progress'.shuts = true)
    (hbefore : progress.shuts = true → h.connection.isClosed = true) :
    h'.connection.isClosed = true := by
  generalize hsent : Sent.going progress' = sent at hsending
  cases sendingTurn hsending with
  | passes hopen =>
      obtain rfl := Sent.going.inj hsent
      cases hshuts
  | breaks hunread hopen => rfl
  | waits fault => exact hbefore rfl
  | _ => cases hsent

theorem isClosed_beginShutdown (reason : CloseReason) (h : Hub) :
    (h.beginShutdown reason).2.connection.isClosed = true := by
  unfold beginShutdown
  split
  · assumption
  · rfl

theorem CreateTurn.isClosed {i : Nat} {call : CreateCall} {stage : CreateStage}
    (hturn : CreateTurn h i call stage h') (hshuts : stage.shuts = true)
    (hbefore : call.stage.shuts = true → h.connection.isClosed = true) :
    h'.connection.isClosed = true := by
  cases hturn with
  | stays => exact hbefore hshuts
  | closes _ _ => exact h.isClosed_beginShutdown _
  | sends hstage hsending =>
      refine isClosed_of_going hsending hshuts fun hprogress => hbefore ?_
      rw [hstage]
      exact hprogress
  | _ => cases hshuts

theorem EvaluateTurn.isClosed {i : Nat} {call : EvaluateCall} {session : Session}
    {stage : EvaluateStage} (hturn : EvaluateTurn h i call session stage h')
    (hshuts : stage.shuts = true) (hbefore : call.stage.shuts = true → h.connection.isClosed = true) :
    h'.connection.isClosed = true := by
  cases hturn with
  | stays => exact hbefore hshuts
  | sends hstage hsending =>
      refine isClosed_of_going hsending hshuts fun hprogress => hbefore ?_
      rw [hstage]
      exact hprogress
  | _ => cases hshuts

theorem ErrandTurn.isClosed {e e' : Errand} (hturn : ErrandTurn h e e' h') (hshuts : e'.shuts = true)
    (hbefore : e.shuts = true → h.connection.isClosed = true) : h'.connection.isClosed = true := by
  cases hturn with
  | @passes _ _ ownsManager _ | @told _ _ ownsManager _ _ _ _ _ _ =>
      cases ownsManager <;> cases hshuts
  | tells hsending _ | notices hsending | replies hsending => exact isClosed_of_going hsending hshuts hbefore
  | closes _ _ => exact h.isClosed_beginShutdown _
  | waits => exact hbefore rfl
  | @releases _ _ ownsManager _ => cases ownsManager <;> cases hshuts
  | _ => cases hshuts

/-- Whoever is at a shutdown finds the connection closed. -/
def Shut (h : Hub) : Prop :=
  ∀ p, h.Performs p → h.connection.isClosed = true

/-- A loop that has just begun a shutdown, or is at it, finds the connection closed. -/
theorem isClosed_stepLoop (hafter : h.stepLoop.loop = .shuttingDown)
    (hbefore : h.loop = .shuttingDown → h.connection.isClosed = true) :
    h.stepLoop.connection.isClosed = true := by
  cases hloop : h.loop with
  | reading =>
      rw [stepLoop_of_reading hloop] at hafter
      exact absurd hafter (loop_readNext hloop)
  | routed s m =>
      rw [stepLoop_of_routed hloop, loop_receive] at hafter
      cases hafter
  | losing reason =>
      unfold stepLoop at hafter ⊢
      rw [hloop] at hafter ⊢
      dsimp only at hafter ⊢
      split at hafter
      · next heq =>
          have hclosed := (h.note (.connectionLost reason)).isClosed_beginShutdown reason
          rw [heq] at hclosed
          exact hclosed
      · cases hafter
  | shuttingDown =>
      have hclosed := hbefore hloop
      unfold stepLoop
      rw [hloop]
      dsimp only
      split <;> exact hclosed
  | ended =>
      unfold stepLoop at hafter
      rw [hloop] at hafter
      dsimp only at hafter
      rw [hloop] at hafter
      cases hafter

theorem createStages_shuts (hshut : h.Shut) {i : Nat} {stage : CreateStage}
    (hat : h.createStages[i]? = some stage) (hshuts : stage.shuts = true) :
    h.connection.isClosed = true :=
  hshut (.caller (.create i)) ⟨stage, hat, hshuts⟩

theorem evaluateStages_shuts (hshut : h.Shut) {i : Nat} {stage : EvaluateStage}
    (hat : h.evaluateStages[i]? = some stage) (hshuts : stage.shuts = true) :
    h.connection.isClosed = true :=
  hshut (.caller (.evaluate i)) ⟨stage, hat, hshuts⟩

theorem errands_shuts (hshut : h.Shut) {e : Errand} (he : e ∈ h.errands) (hshuts : e.shuts = true) :
    h.connection.isClosed = true := by
  obtain ⟨i, hi⟩ := List.getElem?_of_mem he
  exact hshut (.caller (.errand i)) ⟨e, hi, hshuts⟩

/-! ### One step -/

theorem isClosed_of_create (hshut : h.Shut) {a : Action} {i : Nat} {stage : CreateStage}
    (hat : (h.step a).createStages[i]? = some stage) (hshuts : stage.shuts = true) :
    (h.step a).connection.isClosed = true := by
  cases createOrigin hat with
  | kept hat => exact isClosed_step (createStages_shuts hshut hat hshuts) a
  | begun _ hstage | abandoned hstage =>
      rw [hstage] at hshuts
      cases hshuts
  | turned _ hcall hturn heq =>
      have hclosed := hturn.isClosed hshuts fun hbefore =>
        createStages_shuts hshut (createStages_getElem?.2 ⟨_, hcall, rfl⟩) hbefore
      rw [heq, moveCreate_eq]
      exact hclosed
  | launched _ hends =>
      revert hends
      generalize (h.step a).launch = launch
      intro hends
      cases hends <;> cases hshuts

theorem isClosed_of_evaluate (hshut : h.Shut) {a : Action} {i : Nat} {stage : EvaluateStage}
    (hat : (h.step a).evaluateStages[i]? = some stage) (hshuts : stage.shuts = true) :
    (h.step a).connection.isClosed = true := by
  cases evaluateOrigin hat with
  | kept hat => exact isClosed_step (evaluateStages_shuts hshut hat hshuts) a
  | begun _ hstage | abandoned hstage =>
      rw [hstage] at hshuts
      cases hshuts
  | turned _ hcall _ hturn heq =>
      have hclosed := hturn.isClosed hshuts fun hbefore =>
        evaluateStages_shuts hshut (evaluateStages_getElem?.2 ⟨_, hcall, rfl⟩) hbefore
      rw [heq, moveEvaluate_eq]
      exact hclosed

theorem isClosed_of_errand (hshut : h.Shut) {a : Action} {e : Errand} (he : e ∈ (h.step a).errands)
    (hshuts : e.shuts = true) : (h.step a).connection.isClosed = true := by
  cases errandOrigin he with
  | kept he => exact isClosed_step (errands_shuts hshut he hshuts) a
  | begun he =>
      cases a with
      | close | release | closeManager =>
          obtain rfl := Option.some.inj he
          cases hshuts
      | _ => cases he
  | notified _ he | called _ he =>
      rw [he] at hshuts
      cases hshuts
  | turned hbefore hturn heq =>
      have hclosed := hturn.isClosed hshuts fun hshuts => errands_shuts hshut hbefore hshuts
      rw [heq]
      exact hclosed

/-- Halting the loop does not take it to the shutdown. -/
theorem loop_of_haltLoop (hloop : h.haltLoop.loop = .shuttingDown) : h.loop = .shuttingDown := by
  unfold haltLoop at hloop
  split at hloop
  · split at hloop
    · cases hloop
    · exact hloop
  · exact hloop
  · exact hloop
  · exact hloop
  · exact hloop

/-- Nobody but the loop takes the loop to the shutdown. -/
theorem isClosed_of_loop (hshut : h.Shut) {a : Action} (hloop : (h.step a).loop = .shuttingDown) :
    (h.step a).connection.isClosed = true := by
  by_cases ha : a = .loop
  · subst ha
    exact isClosed_stepLoop hloop (hshut .loop)
  · refine isClosed_step (hshut .loop ?_) a
    by_cases hhalts : a = .haltLoop
    · subst hhalts
      exact loop_of_haltLoop hloop
    · exact (loop_step ha hhalts).symm.trans hloop

theorem shut_step (hshut : h.Shut) (a : Action) : (h.step a).Shut := by
  intro p hp
  cases p with
  | loop => exact isClosed_of_loop hshut hp
  | caller who =>
      cases who with
      | create i =>
          obtain ⟨stage, hat, hshuts⟩ := hp
          exact isClosed_of_create hshut hat hshuts
      | evaluate i =>
          obtain ⟨stage, hat, hshuts⟩ := hp
          exact isClosed_of_evaluate hshut hat hshuts
      | errand i =>
          obtain ⟨e, he, hshuts⟩ := hp
          exact isClosed_of_errand hshut (List.mem_of_getElem? he) hshuts

/-! ## The start of the server -/

/-- Whoever is at the start of the server is the one that the manager has there. -/
def Launched (h : Hub) : Prop :=
  ∀ i, h.createStages[i]? = some .launching → h.launch = .underway i

/-- A call that is at the start of the server after a turn has just begun it, or was at it. -/
theorem CreateTurn.launched {i : Nat} {call : CreateCall} {stage : CreateStage}
    (hturn : CreateTurn h i call stage h') (hstage : stage = .launching)
    (hbefore : call.stage = .launching → h.launch = .underway i) : h'.launch = .underway i := by
  cases hturn with
  | stays => exact hbefore hstage
  | launches _ _ => rfl
  | _ => cases hstage

theorem launched_step (hlaunched : h.Launched) (a : Action) : (h.step a).Launched := by
  intro i hat
  cases stages_step h a with
  | kept hstages hlaunch =>
      rw [hlaunch]
      exact hlaunched i (hstages ▸ hat)
  | begun hstages hlaunch =>
      rw [hstages] at hat
      rcases getElem?_of_append hat with hold | ⟨-, hstage⟩
      · rw [hlaunch]
        exact hlaunched i hold
      · cases hstage
  | @advanced j call stage h₁ _ hcall hturn heq hstages =>
      rw [hstages] at hat
      rw [heq, launch_moveCreate]
      rcases getElem?_modify_const hat with ⟨rfl, hstage⟩ | hold
      · refine hturn.launched hstage fun hbefore => hlaunched j ?_
        exact createStages_getElem?.2 ⟨call, hcall, hbefore⟩
      · have hunderway := hlaunched i hold
        rcases hturn.step.launch with ⟨hidle, -, -⟩ | ⟨hsame, -⟩
        · rw [hidle] at hunderway
          cases hunderway
        · rw [hsame, hunderway]
  | abandoned _ _ _ hstages hlaunch =>
      rw [hstages] at hat
      rcases getElem?_modify_const hat with ⟨-, hstage⟩ | hold
      · cases hstage
      · rw [hlaunch]
        exact hlaunched i hold
  | @ended j stage hunderway hstages hends =>
      have hover : stage ≠ .launching := by
        generalize (h.step a).launch = launch at hends
        cases hends <;> exact CreateStage.noConfusion
      rw [hstages, List.getElem?_modify] at hat
      by_cases hj : j = i
      · subst hj
        cases hold : h.createStages[j]? with
        | none => simp [hold] at hat
        | some before => exact absurd (by simpa [hold] using hat) hover
      · have hold : h.createStages[i]? = some .launching := by simpa [hj] using hat
        have hother := hlaunched i hold
        rw [hunderway] at hother
        exact absurd (Launch.underway.inj hother) hj

/-! ## How many there are -/

theorem Effect.createStages {a : Action} (heffect : Effect h a h') (ha : ∀ o, a ≠ .create o) :
    h'.createStages.length = h.createStages.length := by
  cases heffect with
  | none | begunEvaluate _ _ _ | unregistered _ | halted _ => rfl
  | begunCreate o => exact absurd rfl (ha o)
  | create _ hturn _ =>
      rw [createStages_moveCreate, List.length_modify, hturn.step.createStages]
  | evaluate _ hsession hturn _ =>
      rw [createStages_moveEvaluate, hturn.step.createStages hsession]
  | failedSession s _ => rw [createStages_failSession]
  | failedCreates _ => rw [createStages_failCreates]
  | abandonedCreate _ _ => rw [createStages_moveCreate, List.length_modify]
  | abandonedEvaluate _ _ => rw [createStages_moveEvaluate]
  | launched _ _ =>
      rw [createStages_moveCreate, List.length_modify]
      rfl
  | loop heffect => rw [heffect.createStages]

theorem Effect.evaluateStages {a : Action} (heffect : Effect h a h')
    (ha : ∀ s source expr, a ≠ .evaluate s source expr) :
    h'.evaluateStages.length = h.evaluateStages.length := by
  cases heffect with
  | none | begunCreate _ | unregistered _ | halted _ => rfl
  | begunEvaluate s source expr => exact absurd rfl (ha s source expr)
  | create _ hturn _ => rw [evaluateStages_moveCreate, hturn.step.evaluateStages]
  | evaluate _ hsession hturn _ =>
      rw [evaluateStages_moveEvaluate, List.length_modify, hturn.step.evaluateStages hsession]
  | failedSession s _ => rw [evaluateStages_failSession]
  | failedCreates _ => rw [evaluateStages_failCreates]
  | abandonedCreate _ _ => rw [evaluateStages_moveCreate]
  | launched _ _ =>
      rw [evaluateStages_moveCreate]
      rfl
  | abandonedEvaluate _ _ => rw [evaluateStages_moveEvaluate, List.length_modify]
  | loop heffect => rw [heffect.evaluateStages]

/-- No other action begins a call that creates. -/
theorem length_creates_step {a : Action} (ha : ∀ o, a ≠ .create o) :
    (h.step a).creates.length = h.creates.length := by
  obtain ⟨h₁, heffect, hquiet⟩ := h.step_effect a
  rw [hquiet.creates, ← length_createStages, ← length_createStages, heffect.createStages ha]

/-- No other action begins a call that evaluates. -/
theorem length_evaluates_step {a : Action} (ha : ∀ s source expr, a ≠ .evaluate s source expr) :
    (h.step a).evaluates.length = h.evaluates.length := by
  obtain ⟨h₁, heffect, hquiet⟩ := h.step_effect a
  rw [hquiet.evaluates, ← length_evaluateStages, ← length_evaluateStages, heffect.evaluateStages ha]

/-! ## Calls keep their answers -/

/-- A call that creates keeps the answer that it has. -/
theorem create_keeps (hsound : h.Sound) (a : Action) {i : Nat} {call : CreateCall}
    (hcall : h.creates[i]? = some call) : ∃ call', (h.step a).creates[i]? = some call' ∧
      ∀ x, call.answer = some x → call'.answer = some x := by
  obtain ⟨slip, hslip, -, hkeeps, -⟩ :=
    (createDesk_step hsound.launcher a).keeps hsound.createTidy (slip_of_create hcall)
  obtain ⟨call', hcall', rfl⟩ := create_of_slip hslip
  exact ⟨call', hcall', hkeeps⟩

/-- A call that evaluates keeps its session, and the answer that it has. -/
theorem evaluate_keeps (hsound : h.Sound) (a : Action) {i : Nat} {call : EvaluateCall}
    (hcall : h.evaluates[i]? = some call) : ∃ call', (h.step a).evaluates[i]? = some call' ∧
      call'.session = call.session ∧ ∀ x, call.answer = some x → call'.answer = some x := by
  obtain ⟨slip, hslip, htray, hkeeps, -⟩ :=
    (evaluateDesk_step h a).keeps hsound.evaluateTidy (slip_of_evaluate hcall)
  obtain ⟨call', hcall', rfl⟩ := evaluate_of_slip hslip
  exact ⟨call', hcall', htray, hkeeps⟩

theorem length_creates_le (h : Hub) (a : Action) : h.creates.length ≤ (h.step a).creates.length := by
  by_cases ha : ∃ o, a = .create o
  · obtain ⟨o, rfl⟩ := ha
    show _ ≤ (h.creates ++ [_]).length
    rw [List.length_append]
    exact Nat.le_add_right _ _
  · exact Nat.le_of_eq (length_creates_step fun o heq => ha ⟨o, heq⟩).symm

theorem length_evaluates_le (h : Hub) (a : Action) :
    h.evaluates.length ≤ (h.step a).evaluates.length := by
  by_cases ha : ∃ s source expr, a = .evaluate s source expr
  · obtain ⟨s, source, expr, rfl⟩ := ha
    show _ ≤ (h.evaluates ++ [_]).length
    rw [List.length_append]
    exact Nat.le_add_right _ _
  · exact Nat.le_of_eq (length_evaluates_step fun s source expr heq => ha ⟨s, source, expr, heq⟩).symm

theorem length_errands_le (h : Hub) (a : Action) : h.errands.length ≤ (h.step a).errands.length := by
  refine Nat.le_of_not_lt fun hlt => ?_
  have hlast := List.getElem?_eq_getElem hlt
  have hsome : (h.step a).errands[(h.step a).errands.length]? ≠ none := by
    rcases errands_step hlast a with ⟨-, hstays⟩ | ⟨-, e, h₁, -, -, hmoved⟩
    · rw [hstays]
      exact Option.some_ne_none _
    · rw [hmoved]
      exact Option.some_ne_none _
  exact hsome (List.getElem?_eq_none (Nat.le_refl _))

/-! ## Sessions -/

/-- Every call that evaluates does so in a session that there is. -/
def Housed (h : Hub) : Prop :=
  ∀ (i : Nat) (call : EvaluateCall), h.evaluates[i]? = some call → call.session < h.sessions.length

theorem housed_step (hsound : h.Sound) (hhoused : h.Housed) {a : Action}
    (ha : ∀ s source expr, a = .evaluate s source expr → s < h.sessions.length) :
    (h.step a).Housed := by
  intro i call' hcall'
  refine Nat.lt_of_lt_of_le ?_ (h.length_sessions_step a)
  cases hcall : h.evaluates[i]? with
  | some call =>
      obtain ⟨other, hother, hsession, -⟩ := evaluate_keeps hsound a hcall
      obtain rfl : other = call' := Option.some.inj (hother.symm.trans hcall')
      rw [hsession]
      exact hhoused i call hcall
  | none =>
      by_cases hevaluates : ∃ s source expr, a = .evaluate s source expr
      · obtain ⟨s, source, expr, rfl⟩ := hevaluates
        have hmem := List.mem_of_getElem? hcall'
        rcases List.mem_append.1 hmem with hold | hnew
        · obtain ⟨j, hj⟩ := List.getElem?_of_mem hold
          exact hhoused j call' hj
        · rw [List.mem_singleton.1 hnew]
          exact ha s source expr rfl
      · have hlength := length_evaluates_step (h := h) (a := a) fun s source expr heq =>
          hevaluates ⟨s, source, expr, heq⟩
        have hi := (List.getElem?_eq_some_iff.1 hcall').1
        rw [hlength] at hi
        rw [List.getElem?_eq_getElem hi] at hcall
        cases hcall

/-- What is registered or still to be failed is no more than there are sessions. -/
def Doors.Roomy (d : Doors) : Prop :=
  d.registry.length + d.phase.left.length ≤ d.sessions.length

theorem Doors.Moves.roomy {Leaves : Nat → Prop} {d d' : Doors} (hmoves : d.Moves Leaves d')
    (hroomy : d.Roomy) : d'.Roomy := by
  unfold Doors.Roomy at hroomy ⊢
  cases hmoves with
  | stays => exact hroomy
  | enters id _ =>
      have hle : (d.unregister id).registry.length ≤ d.registry.length := List.length_filter_le _ _
      simp only [List.length_append, List.length_singleton]
      omega
  | closes s => simpa [Doors.closeSession] using hroomy
  | @unregisters s id _ _ =>
      have hle : (d.unregister id).registry.length ≤ d.registry.length := List.length_filter_le _ _
      show (d.unregister id).registry.length + d.phase.left.length ≤ d.sessions.length
      omega
  | begins reason hphase | failsCreates hphase | ends hphase =>
      show d.registry.length + 0 ≤ d.sessions.length
      omega
  | drains hphase =>
      show 0 + (d.registry.map Prod.snd).length ≤ d.sessions.length
      rw [List.length_map]
      omega
  | failsSession hphase =>
      rw [hphase] at hroomy
      simp only [Phase.left, Doors.closeSession, List.length_modify, List.length_cons] at hroomy ⊢
      omega

/-! ## All of it -/

/-- Nothing waits for what cannot come. -/
structure Steady (h : Hub) : Prop where
  watched : h.Watched
  shut : h.Shut
  launched : h.Launched
  housed : h.Housed
  roomy : h.doors.Roomy

theorem Steady.sound (hsteady : h.Steady) : h.Sound := hsteady.watched.sound

theorem New.steady (hnew : h.New) (hloop : h.loop = .reading) : h.Steady where
  watched := hnew.watched
  shut := by
    intro p hp
    cases p with
    | caller who =>
        cases who with
        | create i =>
            obtain ⟨stage, hat, -⟩ := hp
            rw [createStages, hnew.creates] at hat
            cases hat
        | evaluate i =>
            obtain ⟨stage, hat, -⟩ := hp
            rw [evaluateStages, hnew.evaluates] at hat
            cases hat
        | errand i =>
            obtain ⟨e, he, -⟩ := hp
            rw [hnew.errands] at he
            cases he
    | loop =>
        rw [show h.loop = .shuttingDown from hp] at hloop
        cases hloop
  launched := by
    intro i hat
    rw [createStages, hnew.creates] at hat
    cases hat
  housed := by
    intro i call hcall
    rw [hnew.evaluates] at hcall
    cases hcall
  roomy := by
    show h.connection.registry.length + h.connection.phase.left.length ≤ _
    rw [hnew.registry, hnew.isOpen]
    exact Nat.zero_le _

theorem Steady.step (hsteady : h.Steady) {a : Action}
    (ha : ∀ s source expr, a = .evaluate s source expr → s < h.sessions.length) :
    (h.step a).Steady where
  watched := hsteady.watched.step a
  shut := shut_step hsteady.shut a
  launched := launched_step hsteady.launched a
  housed := housed_step hsteady.sound hsteady.housed ha
  roomy := (h.doors_step a).roomy hsteady.roomy

end PklHost.Hub
