import PklHost.Proofs.Hub.Turns

/-!
# What an action does

Every action does one thing to a hub and is quiet beyond it (`step_effect`).  Whatever is proved about all
actions is proved of these things, one by one.
-/

namespace PklHost.Hub

variable {h h' : Hub}

/-- How the start of the server ends, and where the call goes that started it. -/
inductive LaunchEnds : CreateStage → Launch → Prop
  | started : LaunchEnds .confirming .started
  | failed (e : TransportError) : LaunchEnds (.finished (.error (.transport e))) .idle

theorem LaunchEnds.over {stage : CreateStage} {launch : Launch} (hends : LaunchEnds stage launch)
    (i : Nat) : launch ≠ .underway i := by
  cases hends <;> exact Launch.noConfusion

theorem LaunchEnds.goes {stage : CreateStage} {launch : Launch} (hends : LaunchEnds stage launch)
    (answer : Option (Except EvaluatorError Int64)) : CreateStage.Goes answer .launching stage := by
  cases hends with
  | started => exact .launched
  -- the start has failed with a fault of the host, which no server sent
  | failed e => exact .refused rfl fun h => nomatch h

/-- The one thing that an action does to a hub. -/
inductive Effect (h : Hub) : Action → Hub → Prop
  | none {a : Action} : Effect h a h
  | begunCreate (o : EvaluatorOptions) : Effect h (.create o) (h.beginCreate o)
  | begunEvaluate (s : Nat) (source : ModuleSource) (expr : String) :
      Effect h (.evaluate s source expr) (h.beginEvaluate s source expr)
  | create {i : Nat} {call : CreateCall} {stage : CreateStage} {h' : Hub}
      (hcall : h.creates[i]? = some call) (hturn : CreateTurn h i call stage h')
      (heq : h.advance (.create i) = h'.moveCreate i stage) :
      Effect h (.advance (.create i)) (h'.moveCreate i stage)
  | evaluate {i : Nat} {call : EvaluateCall} {session : Session} {stage : EvaluateStage} {h' : Hub}
      (hcall : h.evaluates[i]? = some call) (hsession : h.sessions[call.session]? = some session)
      (hturn : EvaluateTurn h i call session stage h')
      (heq : h.advance (.evaluate i) = h'.moveEvaluate i stage) :
      Effect h (.advance (.evaluate i)) (h'.moveEvaluate i stage)
  | failedSession {a : Action} (s : Nat) {fault : EvaluatorError} (hfault : fault.OfClosing) :
      Effect h a (h.failSession s fault)
  | failedCreates {a : Action} {fault : EvaluatorError} (hfault : fault.OfClosing) :
      Effect h a (h.failCreates fault)
  /-- Evaluator ids are taken off the registry. -/
  | unregistered {a : Action} {registry : List (Int64 × Nat)}
      (hregistry : registry ⊆ h.connection.registry) :
      Effect h a { h with connection := { h.connection with registry } }
  | abandonedCreate {i : Nat} {call : CreateCall} (hcall : h.creates[i]? = some call)
      (hpauses : call.stage.pauses = true) :
      Effect h (.abandon (.create i)) (h.moveCreate i .abandoned)
  | abandonedEvaluate {i : Nat} {call : EvaluateCall} (hcall : h.evaluates[i]? = some call)
      (hpauses : call.stage.pauses = true) :
      Effect h (.abandon (.evaluate i)) (h.moveEvaluate i .abandoned)
  /-- The start of the server has ended, and the call that started it goes on. -/
  | launched {a : Action} {i : Nat} {stage : CreateStage} {launch : Launch}
      (hlaunch : h.launch = .underway i) (hends : LaunchEnds stage launch) :
      Effect h a (moveCreate i stage { h with launch })
  | loop {h' : Hub} (heffect : LoopEffect h h') : Effect h .loop h'
  | halted (hloop : h.loop = .reading) : Effect h .haltLoop { h with loop := .ended }

theorem advance_effect (who : Caller) (h : Hub) :
    ∃ h₁, Effect h (.advance who) h₁ ∧ Quiet h₁ (h.advance who) := by
  generalize heq : h.advance who = h'
  have hturn := h.advance_turn who
  rw [heq] at hturn
  cases hturn with
  | none => exact ⟨h, .none, .refl h⟩
  | create hcall hturn => exact ⟨_, .create hcall hturn heq, .refl _⟩
  | evaluate hcall hsession hturn => exact ⟨_, .evaluate hcall hsession hturn heq, .refl _⟩
  | @errand i e e' h₂ he hturn =>
      obtain ⟨h₁, heffect, hquiet⟩ := hturn.effect
      have hquiet : Quiet h₁ (h₂.setErrand i e') := hquiet.trans ⟨rfl, rfl, rfl, rfl, rfl, rfl, rfl⟩
      refine ⟨h₁, ?_, hquiet⟩
      cases heffect with
      | none => exact .none
      | failed s => exact .failedSession s .closed
      | unregistered evaluatorId => exact .unregistered fun _ hr => (List.mem_filter.1 hr).1

theorem abandon_effect (who : Caller) (h : Hub) :
    ∃ h₁, Effect h (.abandon who) h₁ ∧ Quiet h₁ (h.abandon who) := by
  have hnone : ∃ h₁, Effect h (.abandon who) h₁ ∧ Quiet h₁ h := ⟨h, .none, .refl h⟩
  unfold abandon
  split
  · split
    · next hcall =>
        split
        · next hpauses => exact ⟨_, .abandonedCreate hcall hpauses, .refl _⟩
        · exact hnone
    · exact hnone
  · split
    · next hcall =>
        split
        · next hpauses => exact ⟨_, .abandonedEvaluate hcall hpauses, .refl _⟩
        · exact hnone
    · exact hnone
  · exact hnone

theorem endLaunch_effect (fault : Option TransportError) (h : Hub) :
    ∃ h₁, Effect h (.endLaunch fault) h₁ ∧ Quiet h₁ (h.endLaunch fault) := by
  unfold endLaunch
  split
  · next hlaunch =>
      split
      · exact ⟨_, .launched hlaunch .started, .refl _⟩
      · exact ⟨_, .launched hlaunch (.failed _), .refl _⟩
  · exact ⟨h, .none, .refl h⟩
  · exact ⟨h, .none, .refl h⟩

theorem shutdown_effect (h : Hub) : ∃ h₁, Effect h .shutdown h₁ ∧ Quiet h₁ h.stepShutdown := by
  obtain ⟨h₁, heffect, hquiet⟩ := h.stepShutdown_effect
  refine ⟨h₁, ?_, hquiet⟩
  cases heffect with
  | none => exact .none
  | failedCreates reason => exact .failedCreates (.connectionClosed reason)
  | drained => exact .unregistered (List.nil_subset _)
  | failedSession s reason => exact .failedSession s (.connectionClosed reason)

/-- Every action has one effect, and is quiet beyond it. -/
theorem step_effect (h : Hub) (a : Action) : ∃ h₁, Effect h a h₁ ∧ Quiet h₁ (h.step a) := by
  have hnone : ∀ {h' : Hub}, Quiet h h' → ∃ h₁, Effect h a h₁ ∧ Quiet h₁ h' :=
    fun hquiet => ⟨h, .none, hquiet⟩
  cases a with
  | create o => exact ⟨_, .begunCreate o, .refl _⟩
  | evaluate s source expr => exact ⟨_, .begunEvaluate s source expr, .refl _⟩
  | close s ownsManager => exact hnone ⟨rfl, rfl, rfl, rfl, rfl, rfl, rfl⟩
  | release s ownsManager => exact hnone ⟨rfl, rfl, rfl, rfl, rfl, rfl, rfl⟩
  | closeManager => exact hnone ⟨rfl, rfl, rfl, rfl, rfl, rfl, rfl⟩
  | advance who => exact h.advance_effect who
  | abandon who => exact h.abandon_effect who
  | endLaunch fault => exact h.endLaunch_effect fault
  | shutdown => exact h.shutdown_effect
  | loop =>
      obtain ⟨h₁, heffect, hquiet⟩ := h.stepLoop_effect
      exact ⟨h₁, .loop heffect, hquiet⟩
  | haltLoop =>
      show ∃ h₁, Effect h _ h₁ ∧ Quiet h₁ h.haltLoop
      unfold haltLoop
      split
      · next hloop =>
        split
        · exact ⟨_, .halted hloop, .refl _⟩
        · exact hnone (.refl h)
      · exact hnone (.refl h)
      · exact hnone (.refl h)
      · exact hnone (.refl h)
      · exact hnone (.refl h)
  | arrive octets => exact hnone ⟨rfl, rfl, rfl, rfl, rfl, rfl, rfl⟩
  | endInput => exact hnone ⟨rfl, rfl, rfl, rfl, rfl, rfl, rfl⟩
  | endOutput => exact hnone ⟨rfl, rfl, rfl, rfl, rfl, rfl, rfl⟩

end PklHost.Hub
