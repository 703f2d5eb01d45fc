import PklHost.Host.Basic

/-!
# Turns of a host

What can go on goes on until nothing can. The loop takes every message that is there before any call
goes on; then the calls have their turns in order, each until it waits or is over. A call that is over
lets its job go on at once. A shutdown that has begun runs to its end before anything else, and a
reader runs aside, so its reply goes behind the calls that have turns already.
-/

namespace PklHost.Host

open Hub (Action Caller)
open Message (Incoming)

/-- Whether a connection is being shut down. -/
def isClosing (h : Hub) : Bool :=
  h.connection.isClosed && !h.connection.isDown

/-- What the loop does next, if it can do anything. -/
def loopAction? (h : Hub) : Option Action :=
  match h.loop with
  | .reading =>
    if h.connection.isDown then some .haltLoop
    else if h.inputEnded || (!h.input.buffer.isEmpty && h.input.needed ≤ h.input.buffer.length) then
      some .loop
    else none
  | .routed .. | .losing _ | .shuttingDown => some .loop
  | .ended => none

/-- What a call does next, if it can do anything. -/
def callAction? (host : Host) (who : Caller) : Option Action :=
  match who with
  | .create i =>
    host.hub.creates[i]?.bind fun call =>
      match call.stage with
      | .launching => some (.endLaunch host.startFault)
      | .waiting => if call.answer.isSome then some (.advance who) else none
      | .finished _ | .abandoned => none
      | _ => some (.advance who)
  | .evaluate i =>
    host.hub.evaluates[i]?.bind fun call =>
      match call.stage with
      | .waiting => if call.answer.isSome then some (.advance who) else none
      | .finished _ | .abandoned => none
      | _ => some (.advance who)
  | .errand i =>
    host.hub.errands[i]?.bind fun e =>
      match e with
      | .finished => none
      | _ => some (.advance who)

/-- The URI of a request to read or list, with the schemes of its family's readers. -/
def asked? (readers : Readers) : Incoming → Option (String × List String)
  | .readResource r | .listResources r => some (r.uri, readers.resources.map fun x => x.spec.scheme)
  | .readModule r | .listModules r => some (r.uri, readers.modules.map fun x => x.spec.scheme)
  | .createEvaluatorResponse _ | .evaluateResponse _ | .log _ => none

/-- Whether a reader runs for a request. -/
def runsReader (readers : Readers) (request : Incoming) : Bool :=
  match asked? readers request with
  | some (uri, schemes) =>
    match Url.parse uri with
    | .ok url => (findReader id schemes url).isSome
    | .error _ => false
  | none => false

/-- Whether a call is about to run a reader. -/
def readsAside (host : Host) (who : Caller) : Bool :=
  match who with
  | .create _ | .evaluate _ => false
  | .errand i =>
    match host.hub.errands[i]? with
    | some (.read s request) =>
      match host.hub.sessions[s]? with
      | some session => runsReader session.readers request
      | none => false
    | _ => false

/-- A handle gets the evaluator that its job made. -/
def fill (job : Job) (after : Job) (host : Host) : Host :=
  match job, after with
  | .creating handle _, .finished (.ok (.evaluator s)) =>
    match host.handles[handle]? with
    | some held => { host with handles := host.handles.set handle { held with session := some s } }
    | none => host
  | _, _ => host

/-- Lets the job go on that waits for a call which is over. -/
def resume (who : Caller) (host : Host) : Host :=
  match host.jobs.findIdx? fun job => job.awaits? == some who with
  | none => host
  | some n =>
    match host.jobs[n]? with
    | none => host
    | some job =>
      match job.resume? host.hub with
      | none => host
      | some (after, actions) =>
        releaseStrays (acts (fill job after { host with jobs := host.jobs.set n after }) actions)

/-- The first call's turn goes on, or ends. -/
def takeTurn (who : Caller) (rest : List Caller) (host : Host) : Host :=
  match host.callAction? who with
  | none => resume who { host with queue := rest }
  | some a =>
    if host.readsAside who then act { host with queue := rest ++ [who] } a else host.act a

/-- The host one step further; `none` if nothing can go on. -/
def step? (host : Host) : Option Host :=
  if isClosing host.hub then some (host.act .shutdown)
  else
    match loopAction? host.hub with
    | some a => some (host.act a)
    | none =>
      match host.queue with
      | [] => none
      | who :: rest => some (host.takeTurn who rest)

/-- At most `count` steps. -/
def steps : (count : Nat) → Host → Host
  | 0, host => host
  | count + 1, host =>
    match host.step? with
    | none => host
    | some host => steps count host

/-- More steps than can be taken before nothing can go on: every octet of input is at most one message,
and every message and every call takes a bounded number of steps. -/
def patience (host : Host) : Nat :=
  let h := host.hub
  100 * (16 + host.jobs.length + h.creates.length + h.evaluates.length + h.errands.length +
    h.sessions.length + h.input.buffer.length)

/-- Everything that can go on goes on. -/
def settle (host : Host) : Host :=
  host.steps host.patience

end PklHost.Host
