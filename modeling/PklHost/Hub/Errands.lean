import PklHost.Hub.Shutdown

/-!
# Closing and replying

Closing an evaluator fails its requests first, takes it off the registry and tells the server only if
it was there. An evaluator whose last holder has gone is closed the same way, by a message of its own;
one that owns its manager closes the manager instead. Closing the manager marks it as closed first and
then shuts the connection down, which may have come to be in between.

A request of the server to read or list is answered by the readers of the session, always with one
reply of the kind of the request.
-/

namespace PklHost

open Message (Incoming Outgoing Reply)

/-- The reply to a request to read or list; `none` for a message that is no such request. -/
def Readers.reply? (readers : Readers) (evaluatorId : Int64) : Incoming → Option Outgoing
  | .readResource r =>
    some (.readResourceResponse ⟨r.requestId, evaluatorId, readers.viaResources ResourceReader.read r.uri⟩)
  | .readModule r =>
    some (.readModuleResponse ⟨r.requestId, evaluatorId, readers.viaModules ModuleReader.read r.uri⟩)
  | .listResources r =>
    some (.listResourcesResponse ⟨r.requestId, evaluatorId, readers.viaResources ResourceReader.list r.uri⟩)
  | .listModules r =>
    some (.listModulesResponse ⟨r.requestId, evaluatorId, readers.viaModules ModuleReader.list r.uri⟩)
  | .createEvaluatorResponse _ | .evaluateResponse _ | .log _ => none

namespace Hub

/-- The last stage of closing an evaluator. -/
def afterClose (ownsManager : Bool) : Errand :=
  if ownsManager then .closeManager else .finished

/-- Closes the manager, unless it is closed. -/
def flagManager (h : Hub) : Errand × Hub :=
  if h.managerClosed then (.finished, h) else (.disconnect, { h with managerClosed := true })

/-- Shuts the connection of the manager down, if it is there by now. -/
def disconnect (h : Hub) : Errand × Hub :=
  if h.launch = .started then
    match h.beginShutdown .managerClosed with
    | (true, h) => (.shuttingDown, h)
    | (false, h) => (.finished, h)
  else (.finished, h)

/-- One step of the sending of the message that closes an evaluator. Its failure is passed over. -/
def stepClosing (evaluatorId : Int64) (again : Sending → Errand) (after : Errand) (progress : Sending)
    (h : Hub) : Errand × Hub :=
  match h.stepSending (.closeEvaluator evaluatorId) progress with
  | (.going progress, h) => (again progress, h)
  | (.done, h) | (.failed _, h) => (after, h)

/-- One step of the closing of an evaluator. -/
def stepClose (s : Nat) (session : Session) (ownsManager : Bool) (stage : CloseStage) (h : Hub) :
    Errand × Hub :=
  match stage with
  | .failing => (.close s ownsManager .unregistering, h.failSession s .closed)
  | .unregistering =>
    match h.connection.session? session.evaluatorId with
    | some _ =>
      (.close s ownsManager (.sending .checking),
        { h with connection := h.connection.unregister session.evaluatorId })
    | none => (afterClose ownsManager, h)
  | .sending progress =>
    h.stepClosing session.evaluatorId (fun p => .close s ownsManager (.sending p))
      (afterClose ownsManager) progress

/-- Takes an evaluator that was let go off the registry. The server is told if it was there. -/
def leave (session : Session) (h : Hub) : Hub :=
  match h.connection.session? session.evaluatorId with
  | some _ =>
    beginErrand (.notice session.evaluatorId .checking)
      { h with connection := h.connection.unregister session.evaluatorId }
  | none => h

/-- One step of a reply. A reply that cannot be sent is worth a line in the log. -/
def stepReply (evaluatorId : Int64) (m : Outgoing) (progress : Sending) (h : Hub) : Errand × Hub :=
  match h.stepSending m progress with
  | (.going progress, h) => (.reply evaluatorId m progress, h)
  | (.done, h) => (.finished, h)
  | (.failed e, h) => (.finished, h.note (.replyNotSent evaluatorId e))

/-- One step of an errand: its next stage, and the hub. -/
def stepErrand (e : Errand) (h : Hub) : Errand × Hub :=
  match e with
  | .close s ownsManager stage =>
    match h.sessions[s]? with
    | some session => h.stepClose s session ownsManager stage
    | none => (.finished, h)
  | .release s ownsManager =>
    match h.sessions[s]? with
    | some _ => (if ownsManager then .closeManager else .leave s, h.failSession s .closed)
    | none => (.finished, h)
  | .leave s =>
    match h.sessions[s]? with
    | some session => (.finished, h.leave session)
    | none => (.finished, h)
  | .notice evaluatorId progress => h.stepClosing evaluatorId (.notice evaluatorId) .finished progress
  | .read s request =>
    match h.sessions[s]? with
    | some session =>
      match session.readers.reply? session.evaluatorId request with
      | some m => (.reply session.evaluatorId m .checking, h)
      | none => (.finished, h)
    | none => (.finished, h)
  | .reply evaluatorId m progress => h.stepReply evaluatorId m progress
  | .closeManager => h.flagManager
  | .disconnect => h.disconnect
  | .shuttingDown => (if h.connection.isDown then .finished else .shuttingDown, h)
  | .finished => (.finished, h)

end Hub

end PklHost
