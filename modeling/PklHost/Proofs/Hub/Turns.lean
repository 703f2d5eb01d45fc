import PklHost.Proofs.Hub.Creating
import PklHost.Proofs.Hub.Errands
import PklHost.Proofs.Hub.Evaluating

/-!
# Turns

Taking a call one step further is a turn of that call and moves it to its next stage, or changes nothing
where there is no such call (`advance_turn`).
-/

namespace PklHost.Hub

variable {h : Hub}

theorem advance_create {i : Nat} {call : CreateCall} (hcall : h.creates[i]? = some call) :
    h.advance (.create i) = (h.stepCreate i call).2.moveCreate i (h.stepCreate i call).1 := by
  unfold advance
  simp only [hcall]

theorem advance_evaluate {i : Nat} {call : EvaluateCall} {session : Session}
    (hcall : h.evaluates[i]? = some call) (hsession : h.sessions[call.session]? = some session) :
    h.advance (.evaluate i) =
      (h.stepEvaluate i call session).2.moveEvaluate i (h.stepEvaluate i call session).1 := by
  unfold advance
  simp only [hcall, hsession]

theorem advance_errand {i : Nat} {e : Errand} (he : h.errands[i]? = some e) :
    h.advance (.errand i) = (h.stepErrand e).2.setErrand i (h.stepErrand e).1 := by
  unfold advance
  simp only [he]

/-- A call is taken one step further. -/
inductive Turn (h : Hub) : Caller → Hub → Prop
  | none (who : Caller) : Turn h who h
  | create {i : Nat} {call : CreateCall} {stage : CreateStage} {h' : Hub}
      (hcall : h.creates[i]? = some call) (hturn : CreateTurn h i call stage h') :
      Turn h (.create i) (h'.moveCreate i stage)
  | evaluate {i : Nat} {call : EvaluateCall} {session : Session} {stage : EvaluateStage} {h' : Hub}
      (hcall : h.evaluates[i]? = some call) (hsession : h.sessions[call.session]? = some session)
      (hturn : EvaluateTurn h i call session stage h') :
      Turn h (.evaluate i) (h'.moveEvaluate i stage)
  | errand {i : Nat} {e e' : Errand} {h' : Hub} (he : h.errands[i]? = some e)
      (hturn : ErrandTurn h e e' h') : Turn h (.errand i) (h'.setErrand i e')

theorem advance_turn (who : Caller) (h : Hub) : Turn h who (h.advance who) := by
  cases who with
  | create i =>
      unfold advance
      dsimp only
      split
      · next call hcall => exact .create hcall (h.stepCreate_turn i call)
      · exact .none _
  | evaluate i =>
      unfold advance
      dsimp only
      split
      · next call hcall =>
          split
          · next session hsession => exact .evaluate hcall hsession (h.stepEvaluate_turn i call session)
          · exact .none _
      · exact .none _
  | errand i =>
      unfold advance
      dsimp only
      split
      · next e he => exact .errand he (h.stepErrand_turn e)
      · exact .none _

end PklHost.Hub
