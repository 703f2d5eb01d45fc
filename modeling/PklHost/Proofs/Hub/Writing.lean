import PklHost.Proofs.Hub.Mail
import PklHost.Proofs.Hub.Teardown

/-!
# Who writes once the connection is closed

Whoever sends asks first whether the connection is open and writes in a later step.  What the server receives
is written by somebody who was about to (`wrote_step`), and once the connection is closed nobody comes to that
any more (`writes_step`).  So a call that begins to send after the connection was closed writes nothing
(`written_before`).
-/

namespace PklHost.Hub

open Message (Outgoing)

variable {h h' : Hub}

/-! ## One step of a sending -/

/-- Nobody comes to write on a connection that is closed. -/
theorem open_of_going {m : Outgoing} {progress progress' : Sending}
    (hsending : h.stepSending m progress = (.going progress', h')) (hwrites : progress'.writes = true) :
    h.connection.isClosed = false := by
  cases sendingTurn hsending with
  | passes hopen => exact hopen
  | breaks _ _ | waits _ => cases hwrites

theorem CreateTurn.writes {i : Nat} {call : CreateCall} {stage : CreateStage}
    (hturn : CreateTurn h i call stage h') (hwrites : stage.writes = true) :
    call.stage.writes = true ∨ h.connection.isClosed = false := by
  cases hturn with
  | stays => exact .inl hwrites
  | sends _ hsending => exact .inr (open_of_going hsending hwrites)
  | _ => cases hwrites

theorem EvaluateTurn.writes {i : Nat} {call : EvaluateCall} {session : Session} {stage : EvaluateStage}
    (hturn : EvaluateTurn h i call session stage h') (hwrites : stage.writes = true) :
    call.stage.writes = true ∨ h.connection.isClosed = false := by
  cases hturn with
  | stays => exact .inl hwrites
  | sends _ hsending => exact .inr (open_of_going hsending hwrites)
  | _ => cases hwrites

theorem writes_afterClose (ownsManager : Bool) : (afterClose ownsManager).writes = false := by
  cases ownsManager <;> rfl

theorem ErrandTurn.writes {e e' : Errand} (hturn : ErrandTurn h e e' h') (hwrites : e'.writes = true) :
    h.connection.isClosed = false := by
  cases hturn with
  | tells hsending _ | notices hsending | replies hsending => exact open_of_going hsending hwrites
  | passes _ | told _ _ _ =>
      rw [writes_afterClose] at hwrites
      cases hwrites
  | @releases s session ownsManager _ => cases ownsManager <;> cases hwrites
  | _ => cases hwrites

/-! ## Any action -/

/-- An errand that has just begun does not write yet. -/
theorem not_writes_of_begun {a : Action} {i : Nat} {e : Errand} (hnone : h.errands[i]? = none)
    (he : (h.step a).errands[i]? = some e) : e.writes = false := by
  cases h.mail_step a with
  | kept hposts _ | posted _ hposts _ =>
      rw [hposts.errands, hnone] at he
      cases he
  | begun hbegun herrands _ _ _ =>
      rw [herrands] at he
      rw [List.mem_singleton.1 (mem_of_getElem?_append hnone he)]
      cases a with
      | close _ _ | release _ _ | closeManager =>
          rw [← Option.some.inj hbegun]
          rfl
      | _ => cases hbegun
  | called _ herrands _ _ =>
      rw [herrands] at he
      rw [List.mem_singleton.1 (mem_of_getElem?_append hnone he)]
      rfl
  | @errand j before after h₁ _ hbefore hturn heq _ =>
      have hother : j ≠ i := by
        rintro rfl
        rw [hnone] at hbefore
        cases hbefore
      rw [heq] at he
      have he : h₁.errands[i]? = some e := (List.getElem?_set_ne hother).symm.trans he
      rcases hturn.errands with hsame | ⟨evaluatorId, hmore⟩
      · rw [hsame, hnone] at he
        cases he
      · rw [hmore] at he
        rw [List.mem_singleton.1 (mem_of_getElem?_append hnone he)]
        rfl

theorem CreateStage.writes_of_step (hclosed : h.connection.isClosed = true) {a : Action} {i : Nat}
    {stage : CreateStage} (hat : (h.step a).createStages[i]? = some stage)
    (hwrites : stage.writes = true) : h.Writes (.create i) := by
  cases createOrigin hat with
  | kept hbefore =>
      obtain ⟨call, hcall, hsame⟩ := createStages_getElem?.1 hbefore
      exact ⟨call, hcall, hsame ▸ hwrites⟩
  | begun _ hstage | abandoned hstage =>
      rw [hstage] at hwrites
      cases hwrites
  | @turned call _ _ hcall hturn _ =>
      refine ⟨call, hcall, (hturn.writes hwrites).resolve_right fun hopen => ?_⟩
      rw [hclosed] at hopen
      cases hopen
  | launched _ hends =>
      generalize (h.step a).launch = launch at hends
      cases hends <;> cases hwrites

theorem EvaluateStage.writes_of_step (hclosed : h.connection.isClosed = true) {a : Action} {i : Nat}
    {stage : EvaluateStage} (hat : (h.step a).evaluateStages[i]? = some stage)
    (hwrites : stage.writes = true) : h.Writes (.evaluate i) := by
  cases evaluateOrigin hat with
  | kept hbefore =>
      obtain ⟨call, hcall, hsame⟩ := evaluateStages_getElem?.1 hbefore
      exact ⟨call, hcall, hsame ▸ hwrites⟩
  | begun _ hstage | abandoned hstage =>
      rw [hstage] at hwrites
      cases hwrites
  | @turned call _ _ _ hcall _ hturn _ =>
      refine ⟨call, hcall, (hturn.writes hwrites).resolve_right fun hopen => ?_⟩
      rw [hclosed] at hopen
      cases hopen

theorem Errand.writes_of_step (hclosed : h.connection.isClosed = true) {a : Action} {i : Nat}
    {e : Errand} (he : (h.step a).errands[i]? = some e) (hwrites : e.writes = true) :
    h.Writes (.errand i) := by
  cases hbefore : h.errands[i]? with
  | none =>
      rw [not_writes_of_begun hbefore he] at hwrites
      cases hwrites
  | some before =>
      rcases errands_step hbefore a with ⟨-, hstays⟩ | ⟨-, e', h₁, hturn, -, hmoves⟩
      · obtain rfl := Option.some.inj (he.symm.trans hstays)
        exact ⟨e, hbefore, hwrites⟩
      · obtain rfl := Option.some.inj (he.symm.trans hmoves)
        have hopen := hturn.writes hwrites
        rw [hclosed] at hopen
        cases hopen

/-- Once the connection is closed, nobody comes to write. -/
theorem writes_step (hclosed : h.connection.isClosed = true) {a : Action} {who : Caller}
    (hwrites : (h.step a).Writes who) : h.Writes who := by
  cases who with
  | create i =>
      obtain ⟨call, hcall, hwriting⟩ := hwrites
      exact CreateStage.writes_of_step hclosed (createStages_getElem?.2 ⟨call, hcall, rfl⟩) hwriting
  | evaluate i =>
      obtain ⟨call, hcall, hwriting⟩ := hwrites
      exact EvaluateStage.writes_of_step hclosed (evaluateStages_getElem?.2 ⟨call, hcall, rfl⟩) hwriting
  | errand i =>
      obtain ⟨e, he, hwriting⟩ := hwrites
      exact Errand.writes_of_step hclosed he hwriting

/-- What the server receives was about to be written. -/
theorem wrote_step (h : Hub) (a : Action) :
    (h.step a).sent = h.sent ∨ ∃ who, a = .advance who ∧ h.Writes who := by
  cases h.mail_step a with
  | kept hposts _ => exact .inl (hposts.sent.trans (List.append_nil _))
  | posted _ _ _ hwriter => exact .inr hwriter
  | begun _ _ hsent _ _ | called _ _ hsent _ => exact .inl hsent
  | @errand i e e' h₁ ha he hturn heq _ =>
      obtain ⟨posted, hsent, hwrites, -⟩ := hturn.sent
      cases posted with
      | none =>
          left
          rw [heq]
          exact hsent.trans (List.append_nil _)
      | some m => exact .inr ⟨.errand i, ha, e, he, hwrites (Option.some_ne_none m)⟩

/-! ## Whole runs -/

theorem writes_run (hclosed : h.connection.isClosed = true) {actions : List Action} {who : Caller}
    (hwrites : (h.run actions).Writes who) : h.Writes who := by
  have hkept : (h.run actions).connection.isClosed = true ∧
      ∀ who, (h.run actions).Writes who → h.Writes who := by
    refine run_keeps (P := fun later => later.connection.isClosed = true ∧
      ∀ who, later.Writes who → h.Writes who) ?_ ⟨hclosed, fun _ hwrites => hwrites⟩ actions
    rintro later ⟨hlater, hbefore⟩ a
    exact ⟨isClosed_step hlater a, fun who hwrites => hbefore who (writes_step hlater hwrites)⟩
  exact hkept.2 who hwrites

/-- Whatever the server receives once the connection is closed is written by somebody who was about to when it
was closed. -/
theorem written_before (hclosed : h.connection.isClosed = true) (past : List Action) (a : Action) :
    ((h.run past).step a).sent = (h.run past).sent ∨ ∃ who, a = .advance who ∧ h.Writes who := by
  rcases wrote_step (h.run past) a with hsame | ⟨who, ha, hwrites⟩
  · exact .inl hsame
  · exact .inr ⟨who, ha, writes_run hclosed hwrites⟩

end PklHost.Hub
