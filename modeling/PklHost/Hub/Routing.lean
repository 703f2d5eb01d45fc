import PklHost.Hub.Shutdown

/-!
# The loop that reads the server's messages

An answer to a create request goes to the call that waits for it, every other message to the session of
its evaluator. Messages for nobody, and records that are no messages, are logged and dropped. A stream
that cannot be read any further shuts the connection down.
-/

namespace PklHost.Hub

open Message (CreateOutcome EvaluateOutcome Incoming)

/-- The answer to a create request: an error text wins over an evaluator id. -/
def createAnswer (m : CreateOutcome) : Except EvaluatorError Int64 :=
  match m.evaluatorId, m.error with
  | _, some text => .error (.createFailed text)
  | some id, none => .ok id
  | none, none =>
    .error (.createFailed "response carried neither an evaluator id nor an error")

/-- The answer to an evaluate request: an error text wins over a result. -/
def evaluateAnswer (m : EvaluateOutcome) : Except EvaluatorError Bytes :=
  match m.result, m.error with
  | _, some text => .error (.evaluation text)
  | some octets, none => .ok octets
  | none, none => .error (.unexpectedResult "result bytes" "empty evaluate response")

/-- Takes a message off the stream: an answer to a create request is delivered, any other message is
given to the session that is registered for its evaluator. -/
def dispatch (m : Incoming) (h : Hub) : Hub :=
  match m with
  | .createEvaluatorResponse r =>
    (h.deliverCreate r.requestId (createAnswer r)).getD (h.note (.unknownCreate r.requestId))
  | m =>
    match m.evaluatorId? with
    | none => h
    | some id =>
      match h.connection.session? id with
      | some s => { h with loop := .routed s m }
      | none => h.note (.unknownEvaluator id m.kind)

/-- Gives a message to a session. -/
def receive (s : Nat) (m : Incoming) (h : Hub) : Hub :=
  match h.sessions[s]? with
  | none => h
  | some session =>
    match m with
    | .evaluateResponse r =>
      (h.deliverEvaluate s session r.requestId (evaluateAnswer r)).getD
        (h.note (.unknownRequest session.evaluatorId r.requestId))
    | .log line => h.note (.pkl line)
    | .createEvaluatorResponse _ => h
    | .readResource _ | .readModule _ | .listResources _ | .listModules _ =>
      h.beginErrand (.read s m)

/-- One attempt to take a message off the stream. -/
def readNext (h : Hub) : Hub :=
  match if h.inputEnded then h.input.decodeEnd else h.input.decode with
  | (.waiting, input) =>
    { h with input, loop := if h.inputEnded then .losing .serverClosedOutput else .reading }
  | (.failed e, input) => { h with input, loop := .losing (.readFailed e) }
  | (.item (.ok m), input) => dispatch m { h with input }
  | (.item (.error e), input) => note (.malformed e) { h with input }

/-- One step of the loop. -/
def stepLoop (h : Hub) : Hub :=
  match h.loop with
  | .reading => h.readNext
  | .routed s m => receive s m { h with loop := .reading }
  | .losing reason =>
    match (h.note (.connectionLost reason)).beginShutdown reason with
    | (true, h) => { h with loop := .shuttingDown }
    | (false, h) => { h with loop := .ended }
  | .shuttingDown => if h.connection.isDown then { h with loop := .ended } else h
  | .ended => h

/-- Ends a loop that waits for the next message once the connection is down. -/
def haltLoop (h : Hub) : Hub :=
  match h.loop with
  | .reading => if h.connection.isDown then { h with loop := .ended } else h
  | .routed .. | .losing _ | .shuttingDown | .ended => h

end PklHost.Hub
