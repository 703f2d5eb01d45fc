import PklHost.Hub.Step
import PklHost.Proofs.Hub.DeskSteps

/-!
# What a step leaves alone

Most of what happens to a hub touches neither its calls nor what waits for them nor where messages are
routed.  `Quiet` says so of two hubs, and the steps of the parts (of sending, of errands, of the shutdown
and of the loop) are each described by the one thing they do beyond it.
-/

namespace PklHost.Hub

open Message (Outgoing)

/-- Two hubs with the same calls and sessions, the same requests to create, the same registry and the
same loop. -/
structure Quiet (h h' : Hub) : Prop where
  creates : h'.creates = h.creates
  evaluates : h'.evaluates = h.evaluates
  sessions : h'.sessions = h.sessions
  waiting : h'.connection.creates = h.connection.creates
  registry : h'.connection.registry = h.connection.registry
  launch : h'.launch = h.launch
  loop : h'.loop = h.loop

namespace Quiet

theorem refl (h : Hub) : Quiet h h :=
  ⟨rfl, rfl, rfl, rfl, rfl, rfl, rfl⟩

theorem trans {h h' h'' : Hub} (q : Quiet h h') (q' : Quiet h' h'') : Quiet h h'' where
  creates := q'.creates.trans q.creates
  evaluates := q'.evaluates.trans q.evaluates
  sessions := q'.sessions.trans q.sessions
  waiting := q'.waiting.trans q.waiting
  registry := q'.registry.trans q.registry
  launch := q'.launch.trans q.launch
  loop := q'.loop.trans q.loop

end Quiet

/-! ## Which parts are touched -/

theorem answerCreate_eq (i : Nat) (a : Except EvaluatorError Int64) (h : Hub) :
    h.answerCreate i a = { h with
      creates := h.creates.modify i fun call => { call with answer := call.answer <|> some a } } := by
  unfold answerCreate
  split
  · next call hcall => rw [setCreate, set_eq_modify hcall fun call => { call with answer := call.answer <|> some a }]
  · next hnone => rw [List.modify_eq_self (List.getElem?_eq_none_iff.1 hnone)]

theorem moveCreate_eq (i : Nat) (stage : CreateStage) (h : Hub) :
    h.moveCreate i stage = { h with
      creates := h.creates.modify i fun call => { call with stage } } := by
  unfold moveCreate
  split
  · next call hcall => rw [setCreate, set_eq_modify hcall fun call => { call with stage }]
  · next hnone => rw [List.modify_eq_self (List.getElem?_eq_none_iff.1 hnone)]

theorem answerEvaluate_eq (i : Nat) (a : Except EvaluatorError Bytes) (h : Hub) :
    h.answerEvaluate i a = { h with
      evaluates := h.evaluates.modify i fun call => { call with answer := call.answer <|> some a } } := by
  unfold answerEvaluate
  split
  · next call hcall => rw [setEvaluate, set_eq_modify hcall fun call => { call with answer := call.answer <|> some a }]
  · next hnone => rw [List.modify_eq_self (List.getElem?_eq_none_iff.1 hnone)]

theorem moveEvaluate_eq (i : Nat) (stage : EvaluateStage) (h : Hub) :
    h.moveEvaluate i stage = { h with
      evaluates := h.evaluates.modify i fun call => { call with stage } } := by
  unfold moveEvaluate
  split
  · next call hcall => rw [setEvaluate, set_eq_modify hcall fun call => { call with stage }]
  · next hnone => rw [List.modify_eq_self (List.getElem?_eq_none_iff.1 hnone)]

/-- The options of the calls that create. -/
def orders (h : Hub) : List EvaluatorOptions := h.creates.map CreateCall.options

/-- Changing one call leaves the options of all. -/
theorem map_modify_options {f : CreateCall → CreateCall} (hf : ∀ call, (f call).options = call.options)
    (i : Nat) (h : Hub) : (h.creates.modify i f).map CreateCall.options = h.orders := by
  have hsame : (h.creates.modify i f).map CreateCall.options = h.orders.modify i id := by
    apply map_modify
    exact hf
  rw [hsame, List.modify_id]

theorem orders_answerCreate (i : Nat) (a : Except EvaluatorError Int64) (h : Hub) :
    (h.answerCreate i a).orders = h.orders := by
  rw [answerCreate_eq]
  apply map_modify_options
  intro call
  rfl

theorem orders_moveCreate (i : Nat) (stage : CreateStage) (h : Hub) :
    (h.moveCreate i stage).orders = h.orders := by
  rw [moveCreate_eq]
  apply map_modify_options
  intro call
  rfl

theorem answerCreates_eq (tickets : List Nat) (a : Except EvaluatorError Int64) (h : Hub) :
    ∃ creates, creates.map CreateCall.options = h.orders ∧
      tickets.foldl (fun h i => h.answerCreate i a) h = { h with creates } := by
  induction tickets generalizing h with
  | nil => exact ⟨h.creates, rfl, rfl⟩
  | cons i tickets ih =>
      obtain ⟨creates, horders, hall⟩ := ih (h.answerCreate i a)
      refine ⟨creates, horders.trans (h.orders_answerCreate i a), ?_⟩
      rw [List.foldl_cons, hall, answerCreate_eq]

theorem answerEvaluates_eq (tickets : List Nat) (a : Except EvaluatorError Bytes) (h : Hub) :
    ∃ evaluates, tickets.foldl (fun h i => h.answerEvaluate i a) h = { h with evaluates } := by
  induction tickets generalizing h with
  | nil => exact ⟨h.evaluates, rfl⟩
  | cons i tickets ih =>
      rw [List.foldl_cons, answerEvaluate_eq]
      exact ih _

/-- Failing the requests to create touches the calls that create, and their tray. -/
theorem failCreates_eq (fault : EvaluatorError) (h : Hub) : ∃ creates waiting,
    creates.map CreateCall.options = h.orders ∧ h.failCreates fault =
      { h with creates, connection := { h.connection with creates := waiting } } := by
  obtain ⟨creates, horders, hall⟩ := answerCreates_eq h.connection.creates.close.1 (.error fault)
    { h with connection := { h.connection with creates := h.connection.creates.close.2 } }
  exact ⟨creates, _, horders, hall⟩

theorem withdrawCreate_eq (requestId : Int64) (own : Nat) (h : Hub) : ∃ creates waiting,
    creates.map CreateCall.options = h.orders ∧ h.withdrawCreate requestId own =
      { h with creates, connection := { h.connection with creates := waiting } } := by
  unfold withdrawCreate
  split
  · next i waiting htake =>
      dsimp only
      split
      · exact ⟨h.creates, waiting, rfl, rfl⟩
      · refine ⟨_, waiting, ?_, answerCreate_eq i (.error createDropped) _⟩
        apply map_modify_options
        intro call
        rfl
  · exact ⟨h.creates, h.connection.creates, rfl, rfl⟩

/-- Failing a session touches the calls that evaluate, and the requests of the session. -/
theorem failSession_eq (s : Nat) (fault : EvaluatorError) (h : Hub) : ∃ evaluates,
    h.failSession s fault = { h with
      evaluates, sessions := h.sessions.modify s fun session =>
        { session with pending := session.pending.close.2 } } := by
  unfold failSession
  split
  · next session hsession =>
      obtain ⟨evaluates, hall⟩ := answerEvaluates_eq session.pending.close.1 (.error fault)
        (h.setSession s { session with pending := session.pending.close.2 })
      -- the session is replaced where it stands, which is what modifying that place does
      refine ⟨evaluates, ?_⟩
      rw [← set_eq_modify hsession fun session =>
        { session with pending := session.pending.close.2 }]
      exact hall
  · next hnone =>
      refine ⟨h.evaluates, ?_⟩
      rw [List.modify_eq_self (List.getElem?_eq_none_iff.1 hnone)]

/-- Entering a session adds it to the sessions and to the registry. -/
theorem insertSession_eq_ok {h h' : Hub} {evaluatorId : Int64} {o : EvaluatorOptions}
    (hinsert : h.insertSession evaluatorId o = .ok h') : h' = { h with
      sessions := h.sessions ++ [{ evaluatorId, readers := o.readers, ids := .ofSeed evaluatorId }]
      connection := h.connection.enroll evaluatorId h.sessions.length } := by
  unfold insertSession at hinsert
  split at hinsert
  · cases hinsert
  · exact (Except.ok.inj hinsert).symm

/-- A session is refused with a fault of the connection. -/
theorem insertSession_fault {h : Hub} {evaluatorId : Int64} {o : EvaluatorOptions}
    {fault : EvaluatorError} (hinsert : h.insertSession evaluatorId o = .error fault) :
    ¬ fault.OfAnswer := by
  unfold insertSession at hinsert
  split at hinsert
  · rw [← Except.error.inj hinsert]
    exact fun h => nomatch h
  · cases hinsert

/-- The evaluator ids of the sessions. -/
def evaluatorIds (h : Hub) : List Int64 := h.sessions.map Session.evaluatorId

/-- What a session has from the start and never changes. -/
def Session.face (session : Session) : Int64 × Readers :=
  (session.evaluatorId, session.readers)

def faces (h : Hub) : List (Int64 × Readers) := h.sessions.map Session.face

theorem evaluatorIds_eq_faces (h : Hub) : h.evaluatorIds = h.faces.map Prod.fst := by
  unfold evaluatorIds faces
  rw [List.map_map]
  rfl

/-- Sessions with the faces of a hub have its evaluator ids. -/
theorem map_evaluatorId_of_faces {h : Hub} {sessions : List Session}
    (hfaces : sessions.map Session.face = h.faces) :
    sessions.map Session.evaluatorId = h.evaluatorIds := by
  rw [evaluatorIds_eq_faces, ← hfaces, List.map_map]
  rfl

/-- Replacing a session by one of the same evaluator. -/
theorem map_set_face {h : Hub} {s : Nat} {session changed : Session}
    (hsession : h.sessions[s]? = some session) (hface : changed.face = session.face) :
    (h.sessions.set s changed).map Session.face = h.faces := by
  have hat : h.faces[s]? = some session.face := by
    unfold faces
    rw [List.getElem?_map, hsession]
    rfl
  rw [List.map_set, hface]
  exact set_self_of_getElem? hat

theorem Quiet.faces {h h' : Hub} (q : Quiet h h') : h'.faces = h.faces := by
  unfold Hub.faces
  rw [q.sessions]

theorem Quiet.evaluatorIds {h h' : Hub} (q : Quiet h h') : h'.evaluatorIds = h.evaluatorIds := by
  unfold Hub.evaluatorIds
  rw [q.sessions]

theorem faces_failSession (s : Nat) (fault : EvaluatorError) (h : Hub) :
    (h.failSession s fault).faces = h.faces := by
  obtain ⟨evaluates, heq⟩ := h.failSession_eq s fault
  rw [heq, ← List.modify_id s h.faces]
  apply map_modify
  intro session
  rfl

theorem evaluatorIds_failSession (s : Nat) (fault : EvaluatorError) (h : Hub) :
    (h.failSession s fault).evaluatorIds = h.evaluatorIds :=
  map_evaluatorId_of_faces (h.faces_failSession s fault)

theorem evaluatorIds_moveCreate (i : Nat) (stage : CreateStage) (h : Hub) :
    (h.moveCreate i stage).evaluatorIds = h.evaluatorIds := by
  rw [moveCreate_eq]
  rfl

theorem withdrawEvaluate_eq {s : Nat} {session : Session} {h : Hub}
    (hsession : h.sessions[s]? = some session) (requestId : Int64) (own : Nat) :
    ∃ evaluates sessions, sessions.map Session.face = h.faces ∧
      h.withdrawEvaluate s session requestId own = { h with evaluates, sessions } := by
  unfold withdrawEvaluate
  split
  · next i pending htake =>
      have hfaces := map_set_face hsession
        (show ({ session with pending } : Session).face = session.face from rfl)
      dsimp only
      split
      · exact ⟨h.evaluates, _, hfaces, rfl⟩
      · exact ⟨_, _, hfaces, answerEvaluate_eq i (.error evaluateDropped) _⟩
  · exact ⟨h.evaluates, h.sessions, rfl, rfl⟩

/-! ## Sending -/

theorem beginShutdown_quiet (reason : CloseReason) (h : Hub) : Quiet h (h.beginShutdown reason).2 := by
  unfold beginShutdown
  split
  · exact .refl h
  · exact ⟨rfl, rfl, rfl, rfl, rfl, rfl, rfl⟩

theorem beginShutdown_of_isClosed {h : Hub} (hclosed : h.connection.isClosed = true)
    (reason : CloseReason) : h.beginShutdown reason = (false, h) := by
  unfold beginShutdown
  rw [if_pos hclosed]

theorem beginShutdown_of_open {h : Hub} (hopen : h.connection.isClosed = false)
    (reason : CloseReason) :
    h.beginShutdown reason = (true, h.setPhase (.closing reason .failingCreates)) := by
  unfold beginShutdown
  rw [hopen]
  rfl

/-- One step of a sending, case by case: how far it is before, where the step leads, and the hub. -/
inductive SendingTurn (h : Hub) (m : Outgoing) : Sending → Sent → Hub → Prop
  | refused (hclosed : h.connection.isClosed = true) :
      SendingTurn h m .checking (.failed (.connectionClosed .shutDown)) h
  | passes (hopen : h.connection.isClosed = false) : SendingTurn h m .checking (.going .writing) h
  | writes : SendingTurn h m .writing .done { h with sent := h.sent ++ [m] }
  | breaks (hunread : h.serverReads = false) (hopen : h.connection.isClosed = false) :
      SendingTurn h m .writing (.going (.shuttingDown writeFault))
        (h.setPhase (.closing (.writeFailed writeFault) .failingCreates))
  | fails (hclosed : h.connection.isClosed = true) :
      SendingTurn h m .writing (.failed (.frame writeFault)) h
  | waits (fault : Message.FrameError) :
      SendingTurn h m (.shuttingDown fault) (.going (.shuttingDown fault)) h
  | ends (fault : Message.FrameError) (hdown : h.connection.isDown = true) :
      SendingTurn h m (.shuttingDown fault) (.failed (.frame fault)) h

theorem stepSending_turn (m : Outgoing) (progress : Sending) (h : Hub) :
    SendingTurn h m progress (h.stepSending m progress).1 (h.stepSending m progress).2 := by
  unfold stepSending
  cases progress with
  | checking =>
      dsimp only
      split
      · next hclosed => exact .refused hclosed
      · next hopen => exact .passes (Bool.eq_false_iff.2 hopen)
  | writing =>
      dsimp only
      split
      · exact .writes
      · next hunread =>
          cases hclosed : h.connection.isClosed with
          | true =>
              rw [beginShutdown_of_isClosed hclosed]
              exact .fails hclosed
          | false =>
              rw [beginShutdown_of_open hclosed]
              exact .breaks (Bool.eq_false_iff.2 hunread) hclosed
  | shuttingDown fault =>
      dsimp only
      split
      · next hdown => exact .ends fault hdown
      · exact .waits fault

/-- Every step of a sending is one of those. -/
theorem sendingTurn {m : Outgoing} {progress : Sending} {sent : Sent} {h h' : Hub}
    (hsending : h.stepSending m progress = (sent, h')) : SendingTurn h m progress sent h' := by
  have hturn := h.stepSending_turn m progress
  rwa [hsending] at hturn

theorem quiet_of_stepSending {m : Outgoing} {progress : Sending} {sent : Sent} {h h' : Hub}
    (hsending : h.stepSending m progress = (sent, h')) : Quiet h h' := by
  cases sendingTurn hsending with
  | writes | breaks _ _ => exact ⟨rfl, rfl, rfl, rfl, rfl, rfl, rfl⟩
  | _ => exact .refl h

/-- A sending fails with a fault of the connection, never with one that the server sent. -/
theorem stepSending_fault {m : Outgoing} {progress : Sending} {h h' : Hub} {fault : EvaluatorError}
    (hsent : h.stepSending m progress = (.failed fault, h')) : ¬ fault.OfAnswer := by
  cases sendingTurn hsent with
  | refused _ | fails _ | ends _ _ => exact fun h => nomatch h

/-! ## Shutdown -/

/-- What a step of the shutdown does beyond what is quiet. -/
inductive ShutdownEffect (h : Hub) : Hub → Prop
  | none : ShutdownEffect h h
  | failedCreates (reason : CloseReason) :
      ShutdownEffect h (h.failCreates (.connectionClosed reason))
  | drained : ShutdownEffect h { h with connection := { h.connection with registry := [] } }
  | failedSession (s : Nat) (reason : CloseReason) :
      ShutdownEffect h (h.failSession s (.connectionClosed reason))

theorem stepShutdown_effect (h : Hub) : ∃ h₁, ShutdownEffect h h₁ ∧ Quiet h₁ h.stepShutdown := by
  unfold stepShutdown
  split
  · exact ⟨h, .none, .refl h⟩
  · exact ⟨h, .none, .refl h⟩
  · exact ⟨_, .failedCreates _, ⟨rfl, rfl, rfl, rfl, rfl, rfl, rfl⟩⟩
  · exact ⟨_, .drained, ⟨rfl, rfl, rfl, rfl, rfl, rfl, rfl⟩⟩
  · exact ⟨h, .none, ⟨rfl, rfl, rfl, rfl, rfl, rfl, rfl⟩⟩
  · exact ⟨_, .failedSession _ _, ⟨rfl, rfl, rfl, rfl, rfl, rfl, rfl⟩⟩

end PklHost.Hub
