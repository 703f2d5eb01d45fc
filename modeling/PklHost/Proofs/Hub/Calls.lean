import PklHost.Proofs.Hub.Effects

/-!
# Steps of the hub at the desks

Whatever happens to a hub is a step of each of its desks: a frame that answers a request is delivered at
one of them, and everything else proceeds (`evaluateDesk_step`, `createDesk_step`).
-/

namespace PklHost.Hub

open Message (CreateOutcome EvaluateOutcome)

variable {h h' h₁ : Hub}

theorem handled?_of_routed {s : Nat} {m : Message.Incoming} (hloop : h.loop = .routed s m) :
    h.handled? = some m := by
  unfold handled?
  rw [hloop]

/-! ## Calls that evaluate -/

theorem evaluateDesk_moveCreate (i : Nat) (stage : CreateStage) (h : Hub) :
    (h.moveCreate i stage).evaluateDesk = h.evaluateDesk := by
  rw [moveCreate_eq]
  rfl

theorem evaluateDesk_failCreates (fault : EvaluatorError) (h : Hub) :
    (h.failCreates fault).evaluateDesk = h.evaluateDesk := by
  obtain ⟨creates, waiting, -, heq⟩ := h.failCreates_eq fault
  rw [heq]
  rfl

/-- A call that creates opens a tray for the session that it enters, and else leaves the desk alone. -/
theorem CreateStep.evaluateDesk {i : Nat} {call : CreateCall} {stage : CreateStage}
    (hstep : CreateStep h i call stage h') :
    h.evaluateDesk.Proceeds evaluateCourse h'.evaluateDesk := by
  cases hstep with
  | goes _ _ _ hquiet =>
      rw [hquiet.evaluateDesk]
      exact .kept
  | launches _ _ => exact .kept
  | files _ _ _ => exact .kept
  | @withdraws requestId fault _ =>
      obtain ⟨creates, waiting, -, heq⟩ := h.withdrawCreate_eq requestId i
      rw [heq]
      exact .kept
  | inserts _ hinsert =>
      rw [insertSession_eq_ok hinsert]
      unfold Hub.evaluateDesk
      rw [List.map_append]
      exact .opened

/-- The loop delivers the answer that it holds, or nobody waits for that and the desk stays as it is. -/
theorem LoopEffect.evaluateDesk (heffect : LoopEffect h h₁) :
    (h₁.evaluateDesk = h.evaluateDesk ∧ ∀ s m i, h.loop = .routed s (.evaluateResponse m) →
      ¬ h.evaluateDesk.Waits s m.requestId i) ∨
      ∃ s m, h.loop = .routed s (.evaluateResponse m) ∧
        h.evaluateDesk.Delivers s m.requestId (evaluateAnswer m) h₁.evaluateDesk := by
  cases heffect with
  | passed loop _ _ hevaluate =>
      refine .inl ⟨rfl, ?_⟩
      rintro s m i hrouted ⟨tray, htray, hmem⟩
      obtain ⟨session, hsession, rfl⟩ := session_of_tray htray
      exact Pending.find?_eq_none_iff.1 (hevaluate s m session hrouted hsession) _ hmem rfl
  | routed hloop _ _ _ =>
      refine .inl ⟨rfl, ?_⟩
      intro s m i hrouted
      rw [hloop] at hrouted
      cases hrouted
  | @create m i creates hhandled _ =>
      -- an answer to a create request is read, whereas the loop holds one for a session
      rw [answerCreate_eq]
      refine .inl ⟨rfl, ?_⟩
      intro s r j hrouted
      rw [handled?_of_routed hrouted] at hhandled
      cases Option.some.inj hhandled
  | @evaluate s m session i pending hloop hsession htake =>
      obtain ⟨hfound, rfl⟩ := Pending.take_eq_some_iff.1 htake
      refine .inr ⟨s, m, hloop, ⟨session.pending, i, tray_of_session hsession, hfound, ?_⟩⟩
      rw [evaluateDesk_answerEvaluate, evaluateDesk_setSession]
      rfl

theorem evaluateDesk_stepLoop (h : Hub) :
    (h.stepLoop.evaluateDesk = h.evaluateDesk ∧ ∀ s m i, h.loop = .routed s (.evaluateResponse m) →
      ¬ h.evaluateDesk.Waits s m.requestId i) ∨
      ∃ s m, h.loop = .routed s (.evaluateResponse m) ∧
        h.evaluateDesk.Delivers s m.requestId (evaluateAnswer m) h.stepLoop.evaluateDesk := by
  obtain ⟨h₁, heffect, hquiet⟩ := h.stepLoop_effect
  rw [hquiet.evaluateDesk]
  exact heffect.evaluateDesk

/-- An answer that the loop holds for a session is delivered there. -/
inductive EvaluateSource (h : Hub) : Action → Nat → Int64 → Except EvaluatorError Bytes → Prop
  | routed {s : Nat} {m : EvaluateOutcome} (hloop : h.loop = .routed s (.evaluateResponse m)) :
      EvaluateSource h .loop s m.requestId (evaluateAnswer m)

/-- What an action does at the desk of the calls that evaluate. -/
theorem evaluateDesk_step (h : Hub) (a : Action) :
    h.evaluateDesk.Steps evaluateCourse (h.EvaluateSource a) (h.step a).evaluateDesk := by
  obtain ⟨h₁, heffect, hquiet⟩ := h.step_effect a
  rw [hquiet.evaluateDesk]
  cases heffect with
  | none => exact .proceeds .kept
  | begunCreate o => exact .proceeds .kept
  | begunEvaluate s source expr =>
      unfold beginEvaluate Hub.evaluateDesk
      rw [List.map_append]
      exact .proceeds (.begun s)
  | create _ hturn _ =>
      rw [evaluateDesk_moveCreate]
      exact .proceeds hturn.step.evaluateDesk
  | evaluate hcall hsession hturn _ =>
      exact .proceeds (evaluateDesk_stepEvaluate hcall hsession hturn.step)
  | failedSession s hfault => exact .proceeds (evaluateDesk_failSession s hfault h)
  | failedCreates _ =>
      rw [evaluateDesk_failCreates]
      exact .proceeds .kept
  | unregistered _ => exact .proceeds .kept
  | abandonedCreate _ _ =>
      rw [evaluateDesk_moveCreate]
      exact .proceeds .kept
  | @abandonedEvaluate i _ _ _ =>
      rw [evaluateDesk_moveEvaluate]
      exact .proceeds (.abandoned i)
  | launched _ _ =>
      rw [evaluateDesk_moveCreate]
      exact .proceeds .kept
  | loop heffect =>
      rcases heffect.evaluateDesk with ⟨hsame, -⟩ | ⟨s, m, hloop, hdelivers⟩
      · rw [hsame]
        exact .proceeds .kept
      · exact .delivers (.routed hloop) hdelivers
  | halted _ => exact .proceeds .kept

/-! ## Calls that create -/

theorem createDesk_failSession (s : Nat) (fault : EvaluatorError) (h : Hub) :
    (h.failSession s fault).createDesk = h.createDesk := by
  obtain ⟨evaluates, heq⟩ := h.failSession_eq s fault
  rw [heq]
  rfl

theorem createDesk_moveEvaluate (i : Nat) (stage : EvaluateStage) (h : Hub) :
    (h.moveEvaluate i stage).createDesk = h.createDesk := by
  rw [moveEvaluate_eq]
  rfl

theorem EvaluateStep.createDesk {i : Nat} {call : EvaluateCall} {session : Session}
    {stage : EvaluateStage} (hsession : h.sessions[call.session]? = some session)
    (hstep : EvaluateStep h i call session stage h') : h'.createDesk = h.createDesk := by
  obtain ⟨evaluates, sessions, -, hquiet⟩ := hstep.touches hsession
  rw [hquiet.createDesk]
  rfl

theorem LoopEffect.createDesk (heffect : LoopEffect h h₁) :
    (h₁.createDesk = h.createDesk ∧ ∀ m i, h.loop = .reading →
      h.handled? = some (.createEvaluatorResponse m) → ¬ h.createDesk.Waits 0 m.requestId i) ∨
      ∃ m, h.handled? = some (.createEvaluatorResponse m) ∧
        h.createDesk.Delivers 0 m.requestId (createAnswer m) h₁.createDesk := by
  cases heffect with
  | passed loop _ hcreate _ =>
      refine .inl ⟨rfl, ?_⟩
      intro m i hreading hhandled hw
      have hmem := (createDesk_waits.1 hw).2
      exact Pending.find?_eq_none_iff.1 (hcreate m hreading hhandled) _ hmem rfl
  | routed _ _ _ hunhandled =>
      refine .inl ⟨rfl, ?_⟩
      intro m i _ hhandled
      rw [hunhandled] at hhandled
      cases hhandled
  | @create m i creates hhandled htake =>
      obtain ⟨hfound, rfl⟩ := Pending.take_eq_some_iff.1 htake
      refine .inr ⟨m, hhandled, ⟨h.connection.creates, i, rfl, hfound, ?_⟩⟩
      rw [createDesk_answerCreate]
      rfl
  | @evaluate s m session i pending hloop _ _ =>
      -- the answer comes from the loop, which then reads nothing
      rw [answerEvaluate_eq]
      refine .inl ⟨rfl, ?_⟩
      intro r j hreading
      rw [hloop] at hreading
      cases hreading

theorem createDesk_stepLoop (h : Hub) :
    (h.stepLoop.createDesk = h.createDesk ∧ ∀ m i, h.loop = .reading →
      h.handled? = some (.createEvaluatorResponse m) → ¬ h.createDesk.Waits 0 m.requestId i) ∨
      ∃ m, h.handled? = some (.createEvaluatorResponse m) ∧
        h.createDesk.Delivers 0 m.requestId (createAnswer m) h.stepLoop.createDesk := by
  obtain ⟨h₁, heffect, hquiet⟩ := h.stepLoop_effect
  rw [hquiet.createDesk]
  exact heffect.createDesk

/-- An answer that the loop reads is delivered to the one tray that there is. -/
inductive CreateSource (h : Hub) : Action → Nat → Int64 → Except EvaluatorError Int64 → Prop
  | handled {m : CreateOutcome} (hhandled : h.handled? = some (.createEvaluatorResponse m)) :
      CreateSource h .loop 0 m.requestId (createAnswer m)

/-- What an action does at the desk of the calls that create. -/
theorem createDesk_step (hlauncher : h.OneLauncher) (a : Action) :
    h.createDesk.Steps createCourse (h.CreateSource a) (h.step a).createDesk := by
  obtain ⟨h₁, heffect, hquiet⟩ := h.step_effect a
  rw [hquiet.createDesk]
  cases heffect with
  | none => exact .proceeds .kept
  | begunCreate o =>
      unfold beginCreate Hub.createDesk
      rw [List.map_append]
      exact .proceeds (.begun 0)
  | begunEvaluate s source expr => exact .proceeds .kept
  | create hcall hturn _ => exact .proceeds (createDesk_stepCreate hcall hturn.step)
  | evaluate _ hsession hturn _ =>
      rw [createDesk_moveEvaluate, hturn.step.createDesk hsession]
      exact .proceeds .kept
  | failedSession s _ =>
      rw [createDesk_failSession]
      exact .proceeds .kept
  | failedCreates hfault => exact .proceeds (createDesk_failCreates hfault h)
  | unregistered _ => exact .proceeds .kept
  | @abandonedCreate i _ _ _ =>
      rw [createDesk_moveCreate]
      exact .proceeds (.abandoned i)
  | abandonedEvaluate _ _ =>
      rw [createDesk_moveEvaluate]
      exact .proceeds .kept
  | launched hlaunch hends =>
      exact .proceeds (createDesk_launched hlauncher hlaunch hends.goes _)
  | loop heffect =>
      rcases heffect.createDesk with ⟨hsame, -⟩ | ⟨m, hhandled, hdelivers⟩
      · rw [hsame]
        exact .proceeds .kept
      · exact .delivers (.handled hhandled) hdelivers
  | halted _ => exact .proceeds .kept

end PklHost.Hub
