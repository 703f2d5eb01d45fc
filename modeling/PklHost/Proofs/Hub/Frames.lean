import PklHost.Proofs.Hub.Quiet

/-!
# What becomes of a frame

The loop takes a message off the stream and, unless it answers a create request, hands it in a step of its
own to the session of its evaluator.  `handled?` is the message that the next step of the loop brings to
its end: delivered, passed on to a session's readers or its log, or dropped.  A step of the loop delivers
that message to whoever waits for it, and otherwise touches no call (`stepLoop_effect`).
-/

namespace PklHost.Hub

open Message (CreateOutcome EvaluateOutcome Incoming)

/-- The message with which the loop is done after its next step. -/
def handled? (h : Hub) : Option Incoming :=
  match h.loop with
  | .routed _ m => some m
  | .reading =>
    match (if h.inputEnded then h.input.decodeEnd else h.input.decode).1 with
    | .item (.ok m) =>
      match m.evaluatorId? with
      | some id => if (h.connection.session? id).isSome then none else some m
      | none => some m
    | .item (.error _) | .waiting | .failed _ => none
  | .losing _ | .shuttingDown | .ended => none

/-- What a step of the loop does beyond what is quiet. -/
inductive LoopEffect (h : Hub) : Hub → Prop
  /-- No call is touched, and there is none for which a handled answer could have been. -/
  | passed (loop : Loop) (hloop : ∀ s m, loop ≠ .routed s m)
      (hcreate : ∀ m, h.loop = .reading → h.handled? = some (.createEvaluatorResponse m) →
        h.connection.creates.find? m.requestId = none)
      (hevaluate : ∀ s m session, h.loop = .routed s (.evaluateResponse m) →
        h.sessions[s]? = some session → session.pending.find? m.requestId = none) :
      LoopEffect h { h with loop }
  /-- A message is on its way to the session that is registered for its evaluator. -/
  | routed {s : Nat} {m : Incoming} {id : Int64} (hloop : h.loop = .reading)
      (hid : m.evaluatorId? = some id) (hregistered : (id, s) ∈ h.connection.registry)
      (hunhandled : h.handled? = none) : LoopEffect h { h with loop := .routed s m }
  | create {m : CreateOutcome} {i : Nat} {creates : Pending Nat}
      (hhandled : h.handled? = some (.createEvaluatorResponse m))
      (htake : h.connection.creates.take m.requestId = some (i, creates)) :
      LoopEffect h
        (answerCreate i (createAnswer m) { h with connection := { h.connection with creates } })
  | evaluate {s : Nat} {m : EvaluateOutcome} {session : Session} {i : Nat} {pending : Pending Nat}
      (hloop : h.loop = .routed s (.evaluateResponse m)) (hsession : h.sessions[s]? = some session)
      (htake : session.pending.take m.requestId = some (i, pending)) :
      LoopEffect h (answerEvaluate i (evaluateAnswer m)
        (setSession s { session with pending } { h with loop := .reading }))

theorem mem_registry_of_session? {c : Connection} {id : Int64} {s : Nat}
    (h : c.session? id = some s) : (id, s) ∈ c.registry := by
  obtain ⟨r, hr, rfl⟩ := Option.map_eq_some_iff.1 h
  have hid : r.1 = id := by simpa using List.find?_some hr
  have hmem := List.mem_of_find?_eq_some hr
  rwa [← hid]

theorem not_mem_registry_of_session? {c : Connection} {id : Int64} (h : c.session? id = none)
    (s : Nat) : (id, s) ∉ c.registry := by
  intro hmem
  have hnone := Option.map_eq_none_iff.1 h
  rw [List.find?_eq_none] at hnone
  exact hnone _ hmem (by simp)

/-- Answering a call that creates depends on the calls alone. -/
theorem answerCreate_quiet {h h' : Hub} (q : Quiet h h') (i : Nat) (a : Except EvaluatorError Int64) :
    Quiet (answerCreate i a h) (answerCreate i a h') := by
  unfold answerCreate setCreate
  rw [q.creates]
  split
  · exact ⟨rfl, q.evaluates, q.sessions, q.waiting, q.registry, q.launch, q.loop⟩
  · exact q

/-- A message that concerns an evaluator is handed to the session that is registered for it. -/
theorem dispatch_of_evaluatorId? {h : Hub} {m : Incoming} {id : Int64}
    (hid : m.evaluatorId? = some id) :
    dispatch m h = match h.connection.session? id with
      | some s => { h with loop := .routed s m }
      | none => h.note (.unknownEvaluator id m.kind) := by
  cases m with
  | createEvaluatorResponse r => cases hid
  | _ =>
      obtain rfl := Option.some.inj hid
      rfl

/-! ## Messages that are read -/

section

variable {h : Hub} {m : Incoming}

theorem stepLoop_of_reading (hloop : h.loop = .reading) : h.stepLoop = h.readNext := by
  unfold stepLoop
  rw [hloop]

theorem stepLoop_of_routed {s : Nat} (hloop : h.loop = .routed s m) :
    h.stepLoop = receive s m { h with loop := .reading } := by
  unfold stepLoop
  rw [hloop]

/-- The next step of the loop takes a message off the stream. -/
def Reads (h : Hub) (m : Incoming) : Prop :=
  h.loop = .reading ∧ (if h.inputEnded then h.input.decodeEnd else h.input.decode).1 = .item (.ok m)

/-- A message is routed to the session that is found under its evaluator id. -/
theorem loop_of_reads {m : Incoming} {id : Int64} {s : Nat} (hreads : h.Reads m)
    (hid : m.evaluatorId? = some id) (hfound : h.connection.session? id = some s) :
    (h.step .loop).loop = .routed s m := by
  obtain ⟨hloop, hattempt⟩ := hreads
  show h.stepLoop.loop = _
  rw [stepLoop_of_reading hloop]
  unfold readNext
  generalize (if h.inputEnded then h.input.decodeEnd else h.input.decode) = attempt at hattempt
  obtain ⟨taken, input⟩ := attempt
  obtain rfl : taken = .item (.ok m) := hattempt
  dsimp only
  rw [dispatch_of_evaluatorId? hid]
  dsimp only
  rw [hfound]

/-- A message that concerns an evaluator is handled where it is read if no session is registered. -/
theorem handled?_of_evaluatorId? {id : Int64} (hloop : h.loop = .reading)
    (hattempt : (if h.inputEnded then h.input.decodeEnd else h.input.decode).1 = .item (.ok m))
    (hid : m.evaluatorId? = some id) :
    h.handled? = if (h.connection.session? id).isSome then none else some m := by
  unfold handled?
  rw [hloop]
  dsimp only
  rw [hattempt]
  dsimp only
  rw [hid]

/-- An answer to a create request is handled where it is read. -/
theorem handled?_of_create {r : CreateOutcome} (hloop : h.loop = .reading)
    (hattempt : (if h.inputEnded then h.input.decodeEnd else h.input.decode).1 =
      .item (.ok (.createEvaluatorResponse r))) :
    h.handled? = some (.createEvaluatorResponse r) := by
  unfold handled?
  rw [hloop]
  dsimp only
  rw [hattempt]
  rfl

/-- While the loop reads, it holds no answer for a session. -/
theorem LoopEffect.passed_of_reading (hreading : h.loop = .reading) {loop : Loop}
    (hloop : ∀ s m, loop ≠ .routed s m)
    (hcreate : ∀ r, h.handled? = some (.createEvaluatorResponse r) →
      h.connection.creates.find? r.requestId = none) : LoopEffect h { h with loop } := by
  refine .passed loop hloop (fun r _ => hcreate r) ?_
  intro s m session hrouted
  rw [hreading] at hrouted
  cases hrouted

/-- A message for an evaluator is routed, or noted where no session is registered for it. -/
theorem dispatch_effect_of_evaluatorId? {id : Int64} (hloop : h.loop = .reading)
    (hattempt : (if h.inputEnded then h.input.decodeEnd else h.input.decode).1 = .item (.ok m))
    (hid : m.evaluatorId? = some id) (input : Message.StreamDecoder) :
    ∃ h₁, LoopEffect h h₁ ∧ Quiet h₁ (dispatch m { h with input }) := by
  have hhandled := handled?_of_evaluatorId? hloop hattempt hid
  rw [dispatch_of_evaluatorId? hid]
  dsimp only
  cases hsession : h.connection.session? id with
  | some s =>
      rw [hsession] at hhandled
      exact ⟨_, .routed hloop hid (mem_registry_of_session? hsession) hhandled,
        ⟨rfl, rfl, rfl, rfl, rfl, rfl, rfl⟩⟩
  | none =>
      refine ⟨_, .passed_of_reading hloop (fun _ _ => Loop.noConfusion) ?_,
        ⟨rfl, rfl, rfl, rfl, rfl, rfl, hloop⟩⟩
      intro r hr
      rw [hsession] at hhandled
      obtain rfl : m = .createEvaluatorResponse r := Option.some.inj (hhandled.symm.trans hr)
      cases hid

/-- An answer to a create request is given to the call that waits for it, or noted where none does. -/
theorem dispatch_effect_of_create {r : CreateOutcome} (hloop : h.loop = .reading)
    (hhandled : h.handled? = some (.createEvaluatorResponse r)) (input : Message.StreamDecoder) :
    ∃ h₁, LoopEffect h h₁ ∧ Quiet h₁ (dispatch (.createEvaluatorResponse r) { h with input }) := by
  unfold dispatch deliverCreate
  dsimp only
  cases htake : h.connection.creates.take r.requestId with
  | none =>
      refine ⟨_, .passed_of_reading hloop (fun _ _ => Loop.noConfusion) ?_,
        ⟨rfl, rfl, rfl, rfl, rfl, rfl, hloop⟩⟩
      intro m hm
      rw [hhandled] at hm
      obtain rfl : r = m := Incoming.createEvaluatorResponse.inj (Option.some.inj hm)
      exact Pending.take_eq_none_iff.1 htake
  | some found =>
      obtain ⟨i, creates⟩ := found
      refine ⟨_, .create hhandled htake, ?_⟩
      rw [Option.map_some, Option.getD_some]
      refine answerCreate_quiet ?_ i _
      exact ⟨rfl, rfl, rfl, rfl, rfl, rfl, rfl⟩

/-- Taking a message off the stream. -/
theorem dispatch_effect (hloop : h.loop = .reading)
    (hattempt : (if h.inputEnded then h.input.decodeEnd else h.input.decode).1 = .item (.ok m))
    (input : Message.StreamDecoder) :
    ∃ h₁, LoopEffect h h₁ ∧ Quiet h₁ (dispatch m { h with input }) := by
  cases hid : m.evaluatorId? with
  | some id => exact dispatch_effect_of_evaluatorId? hloop hattempt hid input
  | none =>
      cases m with
      | createEvaluatorResponse r =>
          exact dispatch_effect_of_create hloop (handled?_of_create hloop hattempt) input
      | _ => cases hid

end

theorem readNext_effect {h : Hub} (hloop : h.loop = .reading) :
    ∃ h₁, LoopEffect h h₁ ∧ Quiet h₁ h.readNext := by
  unfold readNext
  generalize hattempt : (if h.inputEnded then h.input.decodeEnd else h.input.decode) = attempt
  have hhandled : (∀ m, attempt.1 ≠ .item (.ok m)) → h.handled? = none := by
    intro hno
    unfold handled?
    rw [hloop]
    dsimp only
    rw [hattempt]
    split
    · next m hm => exact absurd hm (hno m)
    · rfl
    · rfl
    · rfl
  -- nothing is handled unless a message was decoded
  have hpassed : (∀ m, attempt.1 ≠ .item (.ok m)) → ∀ loop : Loop, (∀ s m, loop ≠ .routed s m) →
      LoopEffect h { h with loop } := by
    intro hno loop hnotRouted
    refine .passed_of_reading hloop hnotRouted ?_
    intro m hm
    rw [hhandled hno] at hm
    cases hm
  obtain ⟨decoded, input⟩ := attempt
  cases decoded with
  | waiting =>
      refine ⟨_, hpassed (fun _ => Message.Decoded.noConfusion)
        (if h.inputEnded then .losing .serverClosedOutput else .reading) ?_, ?_⟩
      · intro s m
        split <;> exact Loop.noConfusion
      · exact ⟨rfl, rfl, rfl, rfl, rfl, rfl, rfl⟩
  | failed e =>
      exact ⟨_, hpassed (fun _ => Message.Decoded.noConfusion) (.losing (.readFailed e))
        (fun _ _ => Loop.noConfusion), ⟨rfl, rfl, rfl, rfl, rfl, rfl, rfl⟩⟩
  | item x =>
      cases x with
      | ok m => exact dispatch_effect hloop (by rw [hattempt]) input
      | error e =>
          have hno : ∀ m, Message.Decoded.item (Except.error e) ≠ .item (.ok m) := by
            intro m hm
            cases Message.Decoded.item.inj hm
          exact ⟨_, hpassed hno .reading (fun _ _ => Loop.noConfusion),
            ⟨rfl, rfl, rfl, rfl, rfl, rfl, hloop⟩⟩

/-- Giving a message to a session. -/
theorem receive_effect {h : Hub} {s : Nat} {m : Incoming} (hloop : h.loop = .routed s m) :
    ∃ h₁, LoopEffect h h₁ ∧ Quiet h₁ (receive s m { h with loop := .reading }) := by
  -- a message by which no request of the session is answered
  have hpassed : (∀ r session, m = .evaluateResponse r → h.sessions[s]? = some session →
      session.pending.find? r.requestId = none) → LoopEffect h { h with loop := .reading } := by
    intro hevaluate
    refine .passed _ (fun _ _ => Loop.noConfusion) ?_ ?_
    · intro r hreading
      rw [hloop] at hreading
      cases hreading
    · intro s' r session hrouted hsession
      obtain ⟨rfl, rfl⟩ := Loop.routed.inj (hloop.symm.trans hrouted)
      exact hevaluate r session rfl hsession
  unfold receive
  cases hsession : h.sessions[s]? with
  | none =>
      refine ⟨_, hpassed ?_, .refl _⟩
      intro r session _ hsome
      rw [hsession] at hsome
      cases hsome
  | some session =>
      cases m with
      | evaluateResponse r =>
          cases htake : session.pending.take r.requestId with
          | none =>
              refine ⟨_, hpassed ?_, ?_⟩
              · intro r' session' hr hsome
                obtain rfl := Incoming.evaluateResponse.inj hr
                obtain rfl : session = session' := Option.some.inj (hsession.symm.trans hsome)
                exact Pending.take_eq_none_iff.1 htake
              · dsimp only
                unfold deliverEvaluate
                rw [htake]
                exact ⟨rfl, rfl, rfl, rfl, rfl, rfl, rfl⟩
          | some found =>
              obtain ⟨i, pending⟩ := found
              refine ⟨_, .evaluate hloop hsession htake, ?_⟩
              dsimp only
              unfold deliverEvaluate
              rw [htake]
              exact .refl _
      | _ =>
          refine ⟨_, hpassed (fun _ _ hm => by cases hm), ?_⟩
          exact ⟨rfl, rfl, rfl, rfl, rfl, rfl, rfl⟩

theorem stepLoop_effect (h : Hub) : ∃ h₁, LoopEffect h h₁ ∧ Quiet h₁ h.stepLoop := by
  -- once the loop reads no more, nothing is handled
  have hpassed : (∀ s m, h.loop ≠ .routed s m) → h.loop ≠ .reading →
      ∀ loop : Loop, (∀ s m, loop ≠ .routed s m) → LoopEffect h { h with loop } := by
    intro hnotRouted hnotReading loop hloop
    refine .passed loop hloop ?_ ?_
    · intro m hreading
      exact absurd hreading hnotReading
    · intro s m session hrouted
      exact absurd hrouted (hnotRouted s _)
  cases hloop : h.loop with
  | reading =>
      rw [stepLoop_of_reading hloop]
      exact readNext_effect hloop
  | routed s m =>
      rw [stepLoop_of_routed hloop]
      exact receive_effect hloop
  | losing reason =>
      rw [hloop] at hpassed
      have hshutdown := (h.note (.connectionLost reason)).beginShutdown_quiet reason
      have hkept := hpassed (fun _ _ => Loop.noConfusion) Loop.noConfusion
      unfold stepLoop
      rw [hloop]
      dsimp only
      split
      · next heq =>
          rw [heq] at hshutdown
          exact ⟨_, hkept .shuttingDown (fun _ _ => Loop.noConfusion),
            ⟨hshutdown.creates, hshutdown.evaluates, hshutdown.sessions, hshutdown.waiting,
              hshutdown.registry, hshutdown.launch, rfl⟩⟩
      · next heq =>
          rw [heq] at hshutdown
          exact ⟨_, hkept .ended (fun _ _ => Loop.noConfusion),
            ⟨hshutdown.creates, hshutdown.evaluates, hshutdown.sessions, hshutdown.waiting,
              hshutdown.registry, hshutdown.launch, rfl⟩⟩
  | shuttingDown =>
      rw [hloop] at hpassed
      have hkept := hpassed (fun _ _ => Loop.noConfusion) Loop.noConfusion
      unfold stepLoop
      rw [hloop]
      dsimp only
      split
      · exact ⟨_, hkept .ended (fun _ _ => Loop.noConfusion), .refl _⟩
      · exact ⟨_, hkept .shuttingDown (fun _ _ => Loop.noConfusion),
          ⟨rfl, rfl, rfl, rfl, rfl, rfl, hloop⟩⟩
  | ended =>
      rw [hloop] at hpassed
      unfold stepLoop
      rw [hloop]
      exact ⟨_, hpassed (fun _ _ => Loop.noConfusion) Loop.noConfusion .ended
        (fun _ _ => Loop.noConfusion), ⟨rfl, rfl, rfl, rfl, rfl, rfl, hloop⟩⟩

/-! ## Frames for nobody -/

/-- The next step of the loop takes a record off the stream, be it a message or none, or gives the message
that it has to a session. -/
def TakesFrame (h : Hub) : Prop :=
  (∃ s m, h.loop = .routed s m) ∨ h.loop = .reading ∧
    ∃ x, (if h.inputEnded then h.input.decodeEnd else h.input.decode).1 = .item x

def Loop.GoesOn : Loop → Prop
  | .reading | .routed .. => True
  | .losing _ | .shuttingDown | .ended => False

/-- What may come of a frame for nobody: nothing that a call depends on changes, and the loop goes on. -/
def OnlyNotes (h h' : Hub) : Prop :=
  ∃ input loop errands log, h' = { h with input, loop, errands, log } ∧ loop.GoesOn

theorem dispatch_onlyNotes {h : Hub} {m : Incoming} (hloop : h.loop = .reading)
    (hattempt : (if h.inputEnded then h.input.decodeEnd else h.input.decode).1 = .item (.ok m))
    (hcreate : ∀ m, h.handled? = some (.createEvaluatorResponse m) →
      h.connection.creates.find? m.requestId = none) (input : Message.StreamDecoder) :
    OnlyNotes h (dispatch m { h with input }) := by
  have hgoesOn : h.loop.GoesOn := by
    rw [hloop]
    trivial
  cases hid : m.evaluatorId? with
  | some id =>
      rw [dispatch_of_evaluatorId? hid]
      dsimp only
      split
      · exact ⟨input, _, h.errands, h.log, rfl, trivial⟩
      · exact ⟨input, h.loop, h.errands, _, rfl, hgoesOn⟩
  | none =>
      cases m with
      | createEvaluatorResponse r =>
          have hhandled := handled?_of_create hloop hattempt
          have htake := Pending.take_eq_none_iff.2 (hcreate r hhandled)
          unfold dispatch deliverCreate
          dsimp only
          rw [htake]
          exact ⟨input, h.loop, h.errands, _, rfl, hgoesOn⟩
      | _ => cases hid

theorem receive_onlyNotes {h : Hub} {s : Nat} {m : Incoming}
    (hevaluate : ∀ r session, m = .evaluateResponse r → h.sessions[s]? = some session →
      session.pending.find? r.requestId = none) :
    OnlyNotes h (receive s m { h with loop := .reading }) := by
  unfold receive
  cases hsession : h.sessions[s]? with
  | none => exact ⟨h.input, .reading, h.errands, h.log, rfl, trivial⟩
  | some session =>
      cases m with
      | evaluateResponse r =>
          have htake := Pending.take_eq_none_iff.2 (hevaluate r session rfl hsession)
          dsimp only
          unfold deliverEvaluate
          rw [htake]
          exact ⟨h.input, .reading, h.errands, _, rfl, trivial⟩
      | _ => exact ⟨h.input, .reading, _, _, rfl, trivial⟩

/-- A frame for which no call waits is noted or passed on, and changes nothing that a call depends on. -/
theorem stepLoop_onlyNotes {h : Hub} (hframe : h.TakesFrame)
    (hcreate : ∀ m, h.handled? = some (.createEvaluatorResponse m) →
      h.connection.creates.find? m.requestId = none)
    (hevaluate : ∀ s m session, h.loop = .routed s (.evaluateResponse m) →
      h.sessions[s]? = some session → session.pending.find? m.requestId = none) :
    OnlyNotes h h.stepLoop := by
  rcases hframe with ⟨s, m, hloop⟩ | ⟨hloop, x, hattempt⟩
  · rw [stepLoop_of_routed hloop]
    apply receive_onlyNotes
    rintro r session rfl hsession
    exact hevaluate s r session hloop hsession
  · rw [stepLoop_of_reading hloop]
    unfold readNext
    have hdispatch := @dispatch_onlyNotes h
    generalize (if h.inputEnded then h.input.decodeEnd else h.input.decode) = attempt
      at hattempt hdispatch
    obtain ⟨decoded, input⟩ := attempt
    obtain rfl : decoded = .item x := hattempt
    cases x with
    | ok m => exact hdispatch hloop rfl hcreate input
    | error e =>
        refine ⟨input, h.loop, h.errands, _, rfl, ?_⟩
        rw [hloop]
        trivial

end PklHost.Hub
