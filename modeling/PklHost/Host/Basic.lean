import PklHost.Host.Job

/-!
# Hosts

A host is a hub with its users: the jobs they started, and the handles of the evaluators they hold. It
changes its hub by actions of the hub alone. A handle has no evaluator until the job that makes it
succeeds. An evaluator that is let go stays until the last evaluation on it is over.
-/

namespace PklHost

open Hub (Action Caller)

/-- A user's hold on an evaluator, by the place of its session. -/
structure Handle where
  session : Option Nat := none
  ownsManager : Bool := false
  /-- The user has let go. -/
  dropped : Bool := false
  /-- The evaluator has been let go. -/
  released : Bool := false
  deriving Repr

/-- A hub with its users. -/
structure Host where
  environment : Environment
  command : Command
  /-- What is wrong with starting the command, if anything is. -/
  startFault : Option TransportError := none
  hub : Hub
  jobs : List Job := []
  handles : List Handle := []
  /-- The calls that have something to go on with, in the order of their turns. -/
  queue : List Caller := []

namespace Host

/-- A host that starts its server when it is first needed. -/
def ofCommand (environment : Environment) (command : Command) (startFault : Option TransportError) :
    Host where
  environment
  command
  startFault
  hub := { workingDir := environment.workingDir }

/-- A host whose server runs already. -/
def ofStreams (environment : Environment) (command : Command) : Host where
  environment
  command
  hub := { workingDir := environment.workingDir, launch := .started }

/-! ## Turns -/

/-- The places in a list at which something came to be, from one list to a longer one. -/
def newPlaces {α : Type} (given : α → Bool) (before after : List α) : List Nat :=
  (List.range after.length).filter fun i =>
    match before[i]?, after[i]? with
    | some a, some b => !given a && given b
    | none, some _ => true
    | _, none => false

/-- The calls that an action began or answered. -/
def awakened (before after : Hub) : List Caller :=
  (newPlaces (fun call => call.answer.isSome) before.creates after.creates).map .create ++
  (newPlaces (fun call => call.answer.isSome) before.evaluates after.evaluates).map .evaluate ++
  (newPlaces (fun _ => false) before.errands after.errands).map .errand

/-- Whether an action begins a call of a user, which goes on at once. -/
def begins : Action → Bool
  | .create _ | .evaluate .. | .close .. | .release .. | .closeManager => true
  | .advance _ | .abandon _ | .endLaunch _ | .shutdown | .loop | .haltLoop | .arrive _ | .endInput
  | .endOutput => false

/-- The host after an action of its hub. -/
def act (host : Host) (a : Action) : Host :=
  let hub := host.hub.step a
  let turns := awakened host.hub hub
  { host with hub, queue := if begins a then turns ++ host.queue else host.queue ++ turns }

def acts (host : Host) (actions : List Action) : Host :=
  actions.foldl act host

/-! ## Users -/

/-- The session of a handle that is held. -/
def session? (handle : Nat) (host : Host) : Option Nat :=
  host.handles[handle]?.bind fun held => if held.dropped then none else held.session

/-- Adds a job. -/
def addJob (job : Job) (host : Host) : Host :=
  { host with jobs := host.jobs ++ [job] }

def addHandle (host : Host) : Host :=
  { host with handles := host.handles ++ [{}] }

/-- Starts to create an evaluator, which gets the next handle. -/
def create (o : EvaluatorOptions) (host : Host) : Host :=
  ((host.addJob (.creating host.handles.length host.hub.creates.length)).addHandle).act (.create o)

/-- Starts to read the project in a directory. -/
def load (purpose : Purpose) (dir : FilePath) (host : Host) : Host :=
  match ModuleSource.ofFile host.environment.workingDir (EvaluatorOptions.projectFile dir) with
  | .error e => host.addJob (.finished (.error e))
  | .ok source =>
    (host.addJob (.makingLoader purpose source host.hub.creates.length)).act
      (.create (.preconfigured host.environment))

def loadProject (dir : FilePath) (host : Host) : Host :=
  host.load .project dir

/-- Starts to create an evaluator with the options of the project in a directory, under others. -/
def createForProject (dir : FilePath) (upper : EvaluatorOptions) (host : Host) : Host :=
  (host.load (.evaluator host.handles.length upper) dir).addHandle

/-- Starts to ask a module; `none` if the handle has no evaluator. -/
def evaluate? (handle : Nat) (source : Except EvaluatorError ModuleSource) (query : Query)
    (host : Host) : Option Host :=
  (host.session? handle).map fun s =>
    match source with
    | .error e => host.addJob (.finished (.error e))
    | .ok source =>
      (host.addJob (.evaluating s query host.hub.evaluates.length)).act
        (.evaluate s source query.expr)

/-- Starts to close an evaluator; `none` if the handle has none. -/
def close? (handle : Nat) (host : Host) : Option Host :=
  (host.session? handle).bind fun s =>
    host.handles[handle]?.map fun held => host.act (.close s held.ownsManager)

/-- Closes the manager. It is closed at once; the shutdown of its connection follows. -/
def closeManager (host : Host) : Host :=
  let close : Action := .advance (.errand host.hub.errands.length)
  host.acts [.closeManager, close, close]

/-- The first evaluator that nobody holds and nothing uses, and that is still there. -/
def stray? (host : Host) : Option (Nat × Handle × Nat) :=
  (List.range host.handles.length).findSome? fun i =>
    match host.handles[i]? with
    | some held =>
      match held.session with
      | some s =>
        if held.dropped && !held.released && !(host.jobs.any fun job => job.uses? == some s) then
          some (i, held, s)
        else none
      | none => none
    | none => none

/-- Lets the evaluators go that nobody holds and nothing uses. -/
def releaseStrays (host : Host) : Host :=
  (List.range host.handles.length).foldl (fun host _ =>
    match host.stray? with
    | some (i, held, s) =>
      act { host with handles := host.handles.set i { held with released := true } }
        (.release s held.ownsManager)
    | none => host) host

/-- Drops a handle; `none` if it has no evaluator. -/
def drop? (handle : Nat) (host : Host) : Option Host :=
  (host.session? handle).bind fun _ =>
    host.handles[handle]?.map fun held =>
      releaseStrays { host with handles := host.handles.set handle { held with dropped := true } }

/-- Gives a job up. -/
def cancel (job : Nat) (host : Host) : Host :=
  match host.jobs[job]? with
  | some j =>
    let (j, actions) := j.cancel
    releaseStrays (acts { host with jobs := host.jobs.set job j } actions)
  | none => host

/-! ## The server -/

/-- Whether anyone reads what the server writes. -/
def listens (host : Host) : Bool :=
  !host.hub.inputEnded &&
    match host.hub.loop with
    | .ended => false
    | .reading | .routed .. | .losing _ | .shuttingDown => true

/-- The server writes octets, which fails once nobody reads them. -/
def receive (octets : Bytes) (host : Host) : Except IoError Host :=
  if octets.isEmpty then .ok host
  else if host.listens then .ok (host.act (.arrive octets))
  else .error .brokenPipe

/-- The server closes its output. -/
def endInput (host : Host) : Host := host.act .endInput

/-- The server takes no more messages. -/
def endOutput (host : Host) : Host := host.act .endOutput

/-! ## Views -/

/-- The outcome of a job that is finished. -/
def outcome? (job : Nat) (host : Host) : Option (Except EvaluatorError JobResult) :=
  match host.jobs[job]? with
  | some (.finished outcome) => some outcome
  | _ => none

/-- The jobs that finished since an earlier time, with their outcomes. -/
def outcomesSince (host earlier : Host) : List (Nat × Except EvaluatorError JobResult) :=
  (List.range host.jobs.length).filterMap fun n =>
    if (earlier.outcome? n).isSome then none else (host.outcome? n).map fun r => (n, r)

/-- The jobs that are neither finished nor given up. -/
def unfinished (host : Host) : List Nat :=
  (List.range host.jobs.length).filter fun n => (host.jobs[n]?.bind Job.awaits?).isSome

/-- Whether the evaluator of each handle is closed; `none` for a handle without an evaluator. -/
def closedHandles (host : Host) : List (Option Bool) :=
  host.handles.mapIdx fun handle _ =>
    (host.session? handle).bind fun s =>
      host.hub.sessions[s]?.map fun session => session.pending.isClosed

/-- A truth value as diagnostics show it. -/
def shownBool (b : Bool) : String := if b then "true" else "false"

/-- The manager as diagnostics show it. -/
def shownManager (host : Host) : String :=
  "EvaluatorManager \x7b command: PklCommand \x7b program: " ++ Text.quoted host.command.program ++
    ", args: " ++ EvaluatorOptions.shownTexts host.command.args ++ " \x7d, started: " ++
    shownBool (host.hub.launch = .started) ++ ", closed: " ++ shownBool host.hub.managerClosed ++ " \x7d"

/-- The evaluators as diagnostics show them; `none` for a handle without one. -/
def shownEvaluators (host : Host) : List (Option String) :=
  host.handles.mapIdx fun handle held =>
    (host.session? handle).bind fun s =>
      host.hub.sessions[s]?.map fun session =>
        "Evaluator \x7b id: " ++ toString session.evaluatorId.toInt ++ ", closed: " ++
          shownBool session.pending.isClosed ++ ", owns_manager: " ++ shownBool held.ownsManager ++ " \x7d"

end Host

end PklHost
