import PklHost.Proofs.Hub.Routes
import PklHost.Proofs.Message.Limit

/-!
# What the loop reads

The loop and the server alone change the stream that the loop reads, and how far the loop is
(`intake_step`).  An attempt to take a message off the stream takes octets, or leaves the buffer as it is
(`buffer_decode`), and whoever waits after it has fewer octets than it waits for
(`not_isReady_of_waiting`).
-/

namespace PklHost.Hub

open Message (Incoming Outgoing StreamDecoder)

variable {h h' : Hub}

/-! ## Attempts -/

/-- A decoder has as many octets as it waits for, and has some. -/
def isReady (d : StreamDecoder) : Bool :=
  !d.buffer.isEmpty && d.needed ≤ d.buffer.length

/-- The next attempt of the loop to take a message off the stream. -/
def attempt (h : Hub) : Message.Decoded × StreamDecoder :=
  if h.inputEnded then h.input.decodeEnd else h.input.decode

theorem attempt_snd (h : Hub) : h.attempt.2 = h.input.decode.2 := by
  unfold attempt
  split
  · exact h.input.decodeEnd_snd
  · rfl

/-- An attempt that gives an item takes octets, and any other one leaves the buffer as it is. -/
theorem buffer_decode (d : StreamDecoder) :
    (∃ x, d.decode.1 = .item x ∧ d.decode.2.buffer.length < d.buffer.length) ∨
      (∀ x, d.decode.1 ≠ .item x) ∧ d.decode.2.buffer = d.buffer := by
  unfold StreamDecoder.decode
  split
  · exact .inr ⟨fun _ => Message.Decoded.noConfusion, rfl⟩
  · split
    · exact .inr ⟨fun _ => Message.Decoded.noConfusion, rfl⟩
    · exact .inr ⟨fun _ => Message.Decoded.noConfusion, rfl⟩
    · next hfirst => exact .inl ⟨_, rfl, Message.length_lt_of_firstItem hfirst⟩

/-- Whoever waits after an attempt is not ready. -/
theorem not_isReady_of_waiting {d : StreamDecoder} (hwaits : d.decode.1 = .waiting) :
    isReady d.decode.2 = false := by
  unfold StreamDecoder.decode at hwaits ⊢
  split
  · next hshort =>
      unfold isReady
      rcases Bool.or_eq_true_iff.1 hshort with hempty | hshort
      · rw [hempty]
        rfl
      · have hnot : ¬ d.needed ≤ d.buffer.length := Nat.not_le.2 (of_decide_eq_true hshort)
        rw [decide_eq_false hnot, Bool.and_false]
  · next hlong =>
      rw [if_neg hlong] at hwaits
      split at hwaits
      · cases hwaits
      · next need hfirst =>
          have hlacks := ((Message.limited d.limit d.buffer).waits need hfirst).1
          have hnot : ¬ need ≤ d.buffer.length := Nat.not_le.2 hlacks
          show (_ && decide (need ≤ d.buffer.length)) = false
          rw [decide_eq_false hnot, Bool.and_false]
      · cases hwaits

theorem item_of_attempt {x : Message.StreamItem} (hitem : h.attempt.1 = .item x) :
    h.input.decode.1 = .item x := by
  unfold attempt at hitem
  split at hitem
  · unfold StreamDecoder.decodeEnd at hitem
    split at hitem
    · split at hitem <;> cases hitem
    · exact hitem
  · exact hitem

theorem waiting_of_attempt (hwaits : h.attempt.1 = .waiting) : h.input.decode.1 = .waiting := by
  unfold attempt at hwaits
  split at hwaits
  · unfold StreamDecoder.decodeEnd at hwaits
    split at hwaits
    · next hdecode => rw [hdecode]
    · exact hwaits
  · exact hwaits

theorem input_dispatch (m : Incoming) (h : Hub) : (dispatch m h).input = h.input := by
  unfold dispatch
  split
  · next r =>
      unfold deliverCreate
      cases h.connection.creates.take r.requestId with
      | none => rfl
      | some found =>
          show (answerCreate found.1 _ _).input = _
          rw [answerCreate_eq]
  · split
    · rfl
    · split <;> rfl

/-! ## Steps of the loop -/

theorem loop_dispatch (m : Incoming) (h : Hub) :
    (dispatch m h).loop = h.loop ∨ ∃ s, (dispatch m h).loop = .routed s m := by
  unfold dispatch
  split
  · next r =>
      unfold deliverCreate
      cases h.connection.creates.take r.requestId with
      | none => exact .inl rfl
      | some found =>
          refine .inl ?_
          show (answerCreate found.1 _ _).loop = _
          rw [answerCreate_eq]
  · split
    · exact .inl rfl
    · split
      · exact .inr ⟨_, rfl⟩
      · exact .inl rfl

theorem loop_receive (s : Nat) (m : Incoming) (h : Hub) : (receive s m h).loop = h.loop := by
  unfold receive
  split
  · rfl
  · next session _ =>
      split
      · next r =>
          unfold deliverEvaluate
          cases session.pending.take r.requestId with
          | none => rfl
          | some found =>
              show (answerEvaluate found.1 _ _).loop = _
              rw [answerEvaluate_eq]
              rfl
      all_goals rfl

/-- Reading begins no shutdown. -/
theorem loop_readNext (hloop : h.loop = .reading) : h.readNext.loop ≠ .shuttingDown := by
  unfold readNext
  split
  · dsimp only
    split <;> exact Loop.noConfusion
  · exact Loop.noConfusion
  · next m input _ =>
      rcases loop_dispatch m { h with input } with hsame | ⟨s, hrouted⟩
      · rw [hsame, show ({ h with input } : Hub).loop = .reading from hloop]
        exact Loop.noConfusion
      · rw [hrouted]
        exact Loop.noConfusion
  · next e input _ =>
      rw [show (note (.malformed e) { h with input }).loop = .reading from hloop]
      exact Loop.noConfusion

/-! ## What others leave alone -/

/-- What the loop and the server alone change. -/
def intake (h : Hub) : Loop × StreamDecoder × Bool := (h.loop, h.input, h.inputEnded)

theorem intake_moveCreate (i : Nat) (stage : CreateStage) (h : Hub) :
    (h.moveCreate i stage).intake = h.intake := by
  rw [moveCreate_eq]
  rfl

theorem intake_moveEvaluate (i : Nat) (stage : EvaluateStage) (h : Hub) :
    (h.moveEvaluate i stage).intake = h.intake := by
  rw [moveEvaluate_eq]
  rfl

theorem intake_beginShutdown (reason : CloseReason) (h : Hub) :
    (h.beginShutdown reason).2.intake = h.intake := by
  unfold beginShutdown
  split <;> rfl

theorem intake_of_stepSending {m : Outgoing} {progress : Sending} {sent : Sent}
    (hsending : h.stepSending m progress = (sent, h')) : h'.intake = h.intake := by
  cases sendingTurn hsending <;> rfl

theorem intake_failSession (s : Nat) (fault : EvaluatorError) (h : Hub) :
    (h.failSession s fault).intake = h.intake := by
  obtain ⟨evaluates, heq⟩ := h.failSession_eq s fault
  rw [heq]
  rfl

theorem CreateTurn.intake {i : Nat} {call : CreateCall} {stage : CreateStage}
    (hturn : CreateTurn h i call stage h') : h'.intake = h.intake := by
  cases hturn with
  | closes _ _ => exact h.intake_beginShutdown _
  | sends _ hsending | sent _ hsending | unsent _ hsending => exact intake_of_stepSending hsending
  | @withdraws requestId _ _ =>
      obtain ⟨creates, waiting, -, heq⟩ := h.withdrawCreate_eq requestId i
      rw [heq]
      rfl
  | inserts _ hinsert =>
      rw [insertSession_eq_ok hinsert]
      rfl
  | _ => rfl

theorem EvaluateTurn.intake {i : Nat} {call : EvaluateCall} {session : Session} {stage : EvaluateStage}
    (hsession : h.sessions[call.session]? = some session)
    (hturn : EvaluateTurn h i call session stage h') : h'.intake = h.intake := by
  cases hturn with
  | sends _ hsending | sent _ hsending | unsent _ hsending => exact intake_of_stepSending hsending
  | @withdraws requestId _ _ =>
      obtain ⟨evaluates, sessions, -, heq⟩ := withdrawEvaluate_eq hsession requestId i
      rw [heq]
      rfl
  | _ => rfl

theorem ErrandTurn.intake {e e' : Errand} (hturn : ErrandTurn h e e' h') : h'.intake = h.intake := by
  cases hturn with
  | fails _ | releases _ => exact h.intake_failSession _ _
  | tells hsending _ | told hsending _ _ | notices hsending | noticed hsending _ | replies hsending
  | replied hsending => exact intake_of_stepSending hsending
  | unreplied hsending =>
      have hsame := intake_of_stepSending hsending
      exact hsame
  | closes _ _ => exact h.intake_beginShutdown _
  | _ => rfl

theorem intake_advance (who : Caller) (h : Hub) : (h.advance who).intake = h.intake := by
  generalize heq : h.advance who = h'
  have hturn := h.advance_turn who
  rw [heq] at hturn
  cases hturn with
  | none => rfl
  | create _ hturn => exact (intake_moveCreate _ _ _).trans hturn.intake
  | evaluate _ hsession hturn => exact (intake_moveEvaluate _ _ _).trans (hturn.intake hsession)
  | errand _ hturn => exact hturn.intake

theorem intake_abandon (who : Caller) (h : Hub) : (h.abandon who).intake = h.intake := by
  unfold abandon
  split
  · split
    · split
      · exact intake_moveCreate _ _ _
      · rfl
    · rfl
  · split
    · split
      · exact intake_moveEvaluate _ _ _
      · rfl
    · rfl
  · rfl

theorem intake_endLaunch (fault : Option TransportError) (h : Hub) :
    (h.endLaunch fault).intake = h.intake := by
  unfold endLaunch
  split
  · split <;> exact intake_moveCreate _ _ _
  · rfl
  · rfl

theorem intake_stepShutdown (h : Hub) : h.stepShutdown.intake = h.intake := by
  unfold stepShutdown
  split
  · rfl
  · rfl
  · next reason _ =>
      obtain ⟨creates, waiting, -, heq⟩ := h.failCreates_eq (.connectionClosed reason)
      rw [heq]
      rfl
  · rfl
  · rfl
  · exact h.intake_failSession _ _

/-- The actions of the loop, and those of the server on its output. -/
def Action.reads : Action → Bool
  | .loop | .haltLoop | .arrive _ | .endInput => true
  | .create _ | .evaluate .. | .close .. | .release .. | .closeManager | .advance _ | .abandon _
  | .endLaunch _ | .shutdown | .endOutput => false

theorem intake_step {a : Action} (ha : a.reads = false) : (h.step a).intake = h.intake := by
  cases a with
  | loop | haltLoop | arrive | endInput => cases ha
  | advance who => exact h.intake_advance who
  | abandon who => exact h.intake_abandon who
  | endLaunch fault => exact h.intake_endLaunch fault
  | shutdown => exact h.intake_stepShutdown
  | _ => rfl

theorem loop_step {a : Action} (ha : a ≠ .loop) (hhalts : a ≠ .haltLoop) :
    (h.step a).loop = h.loop := by
  cases a with
  | loop => exact absurd rfl ha
  | haltLoop => exact absurd rfl hhalts
  | arrive | endInput => rfl
  | _ => exact (Prod.mk.inj (intake_step rfl)).1

end PklHost.Hub
