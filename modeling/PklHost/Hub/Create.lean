import PklHost.Hub.Shutdown

/-!
# Calls that create evaluators

The call starts the server if nobody has, registers a request under a fresh number, sends it, waits
for the evaluator id and enters a session under it. Whoever closes the manager while the server starts
does not see the connection yet, so the call asks the manager once more when the connection is there.
-/

namespace PklHost.Hub

/-- The fault of a request that was given up. -/
def createDropped : EvaluatorError := .connectionClosed .createDropped

/-- Takes the request under an id back; a call that waits there learns that it was given up. -/
def withdrawCreate (requestId : Int64) (own : Nat) (h : Hub) : Hub :=
  match h.connection.creates.take requestId with
  | some (i, creates) =>
    let h := { h with connection := { h.connection with creates } }
    if i = own then h else h.answerCreate i (.error createDropped)
  | none => h

/-- Enters a session for an evaluator id, with the readers of its options. -/
def insertSession (evaluatorId : Int64) (o : EvaluatorOptions) (h : Hub) : Except EvaluatorError Hub :=
  if h.connection.isClosed then .error (.connectionClosed .shutDown)
  else .ok { h with
    sessions := h.sessions ++ [{ evaluatorId, readers := o.readers, ids := .ofSeed evaluatorId }]
    connection := h.connection.enroll evaluatorId h.sessions.length }

/-- One step of a call that creates: its next stage, and the hub. -/
def stepCreate (i : Nat) (call : CreateCall) (h : Hub) : CreateStage × Hub :=
  match call.stage with
  | .connecting =>
    if h.managerClosed then (.finished (.error (.connectionClosed .managerIsClosed)), h)
    else (.entering, h)
  | .entering =>
    match h.launch with
    | .idle => (.launching, { h with launch := .underway i })
    | .underway _ => (.entering, h)
    | .started => (.confirming, h)
  | .launching => (.launching, h)
  | .confirming =>
    if h.managerClosed then
      match h.beginShutdown .managerClosed with
      | (true, h) => (.shuttingDown, h)
      | (false, h) => (.finished (.error (.connectionClosed .managerIsClosed)), h)
    else (.numbering, h)
  | .shuttingDown =>
    if h.connection.isDown then (.finished (.error (.connectionClosed .managerIsClosed)), h)
    else (.shuttingDown, h)
  | .numbering =>
    let (id, ids) := h.connection.ids.next
    let h := { h with connection := { h.connection with ids } }
    match call.options.createRequest h.workingDir id with
    | .ok request => (.registering request, h)
    | .error e => (.finished (.error e), h)
  | .registering request =>
    match h.connection.creates.register request.requestId i with
    | .ok creates =>
      (.sending request .checking, { h with connection := { h.connection with creates } })
    | .error .closed => (.finished (.error (.connectionClosed .shutDown)), h)
    | .error .duplicate => (.finished (.error (.duplicateRequestId request.requestId)), h)
  | .sending request progress =>
    match h.stepSending (.createEvaluator request) progress with
    | (.going progress, h) => (.sending request progress, h)
    | (.done, h) => (.waiting, h)
    | (.failed e, h) => (.withdrawing request.requestId e, h)
  | .withdrawing requestId e => (.finished (.error e), h.withdrawCreate requestId i)
  | .waiting =>
    match call.answer with
    | some (.ok evaluatorId) => (.inserting evaluatorId, h)
    | some (.error e) => (.finished (.error e), h)
    | none => (.waiting, h)
  | .inserting evaluatorId =>
    match h.insertSession evaluatorId call.options with
    | .ok h' => (.finished (.ok h.sessions.length), h')
    | .error e => (.finished (.error e), h)
  | .finished outcome => (.finished outcome, h)
  | .abandoned => (.abandoned, h)

/-- Moves a call that creates to a stage. -/
def moveCreate (i : Nat) (stage : CreateStage) (h : Hub) : Hub :=
  match h.creates[i]? with
  | some call => h.setCreate i { call with stage }
  | none => h

/-- The end of the start of the server. -/
def endLaunch (fault : Option TransportError) (h : Hub) : Hub :=
  match h.launch with
  | .underway i =>
    match fault with
    | none => moveCreate i .confirming { h with launch := .started }
    | some e => moveCreate i (.finished (.error (.transport e))) { h with launch := .idle }
  | .idle | .started => h

end PklHost.Hub
