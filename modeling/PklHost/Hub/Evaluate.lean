import PklHost.Hub.Shutdown

/-!
# Calls that evaluate

The call registers a request with its evaluator's session under a fresh number, sends it, and waits
for the result. A session that is closed refuses it before anything is sent.
-/

namespace PklHost.Hub

/-- The fault of a request that was given up. -/
def evaluateDropped : EvaluatorError := .connectionClosed .evaluateDropped

/-- Takes the request under an id back; a call that waits there learns that it was given up. -/
def withdrawEvaluate (s : Nat) (session : Session) (requestId : Int64) (own : Nat) (h : Hub) : Hub :=
  match session.pending.take requestId with
  | some (i, pending) =>
    let h := h.setSession s { session with pending }
    if i = own then h else h.answerEvaluate i (.error evaluateDropped)
  | none => h

/-- The request of a call. An empty text is left out, as is an empty expression. -/
def EvaluateCall.request (call : EvaluateCall) (evaluatorId requestId : Int64) : Message.Evaluate where
  requestId
  evaluatorId
  moduleUri := call.source.uri
  moduleText := call.source.contents.filter fun text => !text.isEmpty
  expr := if call.expr.isEmpty then none else some call.expr

/-- One step of a call that evaluates in a session: its next stage, and the hub. -/
def stepEvaluate (i : Nat) (call : EvaluateCall) (session : Session) (h : Hub) : EvaluateStage × Hub :=
  match call.stage with
  | .opening =>
    if session.pending.isClosed then (.finished (.error .closed), h) else (.numbering, h)
  | .numbering =>
    let (id, ids) := session.ids.next
    (.registering id, h.setSession call.session { session with ids })
  | .registering id =>
    match session.pending.register id i with
    | .ok pending => (.sending id .checking, h.setSession call.session { session with pending })
    | .error .closed => (.finished (.error .closed), h)
    | .error .duplicate => (.finished (.error (.duplicateRequestId id)), h)
  | .sending id progress =>
    match h.stepSending (.evaluate (call.request session.evaluatorId id)) progress with
    | (.going progress, h) => (.sending id progress, h)
    | (.done, h) => (.waiting, h)
    | (.failed e, h) => (.withdrawing id e, h)
  | .withdrawing id e => (.finished (.error e), h.withdrawEvaluate call.session session id i)
  | .waiting =>
    match call.answer with
    | some outcome => (.finished outcome, h)
    | none => (.waiting, h)
  | .finished outcome => (.finished outcome, h)
  | .abandoned => (.abandoned, h)

/-- Moves a call that evaluates to a stage. -/
def moveEvaluate (i : Nat) (stage : EvaluateStage) (h : Hub) : Hub :=
  match h.evaluates[i]? with
  | some call => h.setEvaluate i { call with stage }
  | none => h

end PklHost.Hub
