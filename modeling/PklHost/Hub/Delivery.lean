import PklHost.Hub.State

/-!
# Delivery of answers

An answer is delivered to the call that waits for it under a request id, and the id is free again.
Closing delivers one fault to all that wait. Each call keeps the first answer that it is given.
-/

namespace PklHost.Hub

/-- Gives an answer to a call that creates. -/
def answerCreate (i : Nat) (a : Except EvaluatorError Int64) (h : Hub) : Hub :=
  match h.creates[i]? with
  | some call => h.setCreate i { call with answer := call.answer <|> some a }
  | none => h

/-- Gives an answer to a call that evaluates. -/
def answerEvaluate (i : Nat) (a : Except EvaluatorError Bytes) (h : Hub) : Hub :=
  match h.evaluates[i]? with
  | some call => h.setEvaluate i { call with answer := call.answer <|> some a }
  | none => h

/-- Delivers the answer to a create request; `none` if none waits under the id. -/
def deliverCreate (requestId : Int64) (a : Except EvaluatorError Int64) (h : Hub) : Option Hub :=
  (h.connection.creates.take requestId).map fun (i, creates) =>
    answerCreate i a { h with connection := { h.connection with creates } }

/-- Delivers the answer to an evaluate request of a session; `none` if none waits under the id. -/
def deliverEvaluate (s : Nat) (session : Session) (requestId : Int64)
    (a : Except EvaluatorError Bytes) (h : Hub) : Option Hub :=
  (session.pending.take requestId).map fun (i, pending) =>
    (h.setSession s { session with pending }).answerEvaluate i a

/-- Closes the requests to create, and fails those that wait. -/
def failCreates (e : EvaluatorError) (h : Hub) : Hub :=
  let (waiting, creates) := h.connection.creates.close
  waiting.foldl (fun h i => h.answerCreate i (.error e))
    { h with connection := { h.connection with creates } }

/-- Closes a session, and fails its requests that wait. -/
def failSession (s : Nat) (e : EvaluatorError) (h : Hub) : Hub :=
  match h.sessions[s]? with
  | some session =>
    let (waiting, pending) := session.pending.close
    waiting.foldl (fun h i => h.answerEvaluate i (.error e)) (h.setSession s { session with pending })
  | none => h

end PklHost.Hub
