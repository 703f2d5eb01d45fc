import PklHost.Evaluator.Options
import PklHost.Evaluator.Pending
import PklHost.Evaluator.RequestIds
import PklHost.Message.Stream

/-!
# The state of a hub

A hub is what the callers of one Pkl server share: the manager that starts the server, the connection
to it, the sessions of its evaluators, the two streams, and every call that was ever begun. A call
goes through its stages one at a time, and between two stages of one call any other call may run; each
stage reads and writes what the code between two locks would.

Sessions and calls are known by their places in their lists, which only grow. Nothing here says who
goes next.
-/

namespace PklHost

open Message (CreateEvaluator FrameError Incoming Kind LogLine Outgoing StreamDecoder)

namespace Hub

/-! ## The connection -/

/-- How far a shutdown is. -/
inductive Shutdown where
  | failingCreates
  | drainingRegistry
  /-- These sessions are still to be failed. -/
  | failingSessions (left : List Nat)
  deriving DecidableEq, Repr

/-- Whether a connection is open. It is closed to callers as soon as a shutdown begins, and the first
shutdown gives the reason. -/
inductive Phase where
  | isOpen
  | closing (reason : CloseReason) (progress : Shutdown)
  | closed (reason : CloseReason)

/-- What the callers of a server share on the host's side. The registry gives each evaluator id its
session. -/
structure Connection where
  phase : Phase := .isOpen
  ids : RequestIds := .ofSeed 0
  creates : Pending Nat := {}
  registry : List (Int64 × Nat) := []

/-- The host's side of an evaluator. -/
structure Session where
  evaluatorId : Int64
  readers : Readers
  ids : RequestIds
  pending : Pending Nat := {}

/-- The manager's one start of the server. -/
inductive Launch where
  | idle
  /-- A create call is starting the server. -/
  | underway (create : Nat)
  | started
  deriving DecidableEq, Repr

/-! ## Calls -/

/-- How far the sending of a message is. -/
inductive Sending where
  | checking
  | writing
  /-- The write failed; this call shuts the connection down. -/
  | shuttingDown (fault : FrameError)

/-- How far a call that creates an evaluator is. -/
inductive CreateStage where
  | connecting
  /-- The server is to be started unless it is. -/
  | entering
  | launching
  /-- The manager may have been closed while the server started. -/
  | confirming
  | shuttingDown
  | numbering
  | registering (request : CreateEvaluator)
  | sending (request : CreateEvaluator) (progress : Sending)
  | withdrawing (requestId : Int64) (fault : EvaluatorError)
  | waiting
  | inserting (evaluatorId : Int64)
  /-- Over, with the place of the new session. -/
  | finished (outcome : Except EvaluatorError Nat)
  | abandoned

/-- A call that creates an evaluator. The answer that was delivered to it stays with it. -/
structure CreateCall where
  options : EvaluatorOptions
  answer : Option (Except EvaluatorError Int64) := none
  stage : CreateStage := .connecting

/-- How far a call that evaluates is. -/
inductive EvaluateStage where
  | opening
  | numbering
  | registering (requestId : Int64)
  | sending (requestId : Int64) (progress : Sending)
  | withdrawing (requestId : Int64) (fault : EvaluatorError)
  | waiting
  | finished (outcome : Except EvaluatorError Bytes)
  | abandoned

/-- A call that evaluates an expression in a module; an empty expression is the module itself. -/
structure EvaluateCall where
  session : Nat
  source : ModuleSource
  expr : String
  answer : Option (Except EvaluatorError Bytes) := none
  stage : EvaluateStage := .opening

/-- How far the closing of an evaluator is. -/
inductive CloseStage where
  | failing
  | unregistering
  | sending (progress : Sending)

/-- What gives its caller no outcome: the ways of closing, and the replies to the server. -/
inductive Errand where
  /-- Closes an evaluator, and then the manager that it owns, if it does. -/
  | close (session : Nat) (ownsManager : Bool) (stage : CloseStage)
  /-- Lets an evaluator go whose last holder has gone. -/
  | release (session : Nat) (ownsManager : Bool)
  /-- Takes an evaluator that was let go off the registry. -/
  | leave (session : Nat)
  /-- Tells the server that an evaluator was let go. -/
  | notice (evaluatorId : Int64) (progress : Sending)
  /-- Reads or lists for the server. -/
  | read (session : Nat) (request : Incoming)
  | reply (evaluatorId : Int64) (message : Outgoing) (progress : Sending)
  | closeManager
  /-- Shuts the connection of a manager down that was closed. -/
  | disconnect
  | shuttingDown
  | finished

/-- One of the calls. -/
inductive Caller where
  | create (i : Nat)
  | evaluate (i : Nat)
  | errand (i : Nat)
  deriving DecidableEq, Repr

/-- A call that creates waits here for something, and can be given up. -/
def CreateStage.pauses : CreateStage → Bool
  | .connecting | .entering | .sending _ .writing | .waiting => true
  | .launching | .confirming | .shuttingDown | .numbering | .registering _ | .sending _ .checking
  | .sending _ (.shuttingDown _) | .withdrawing .. | .inserting _ | .finished _ | .abandoned => false

/-- A call that evaluates waits here for something, and can be given up. -/
def EvaluateStage.pauses : EvaluateStage → Bool
  | .opening | .sending _ .writing | .waiting => true
  | .numbering | .registering _ | .sending _ .checking | .sending _ (.shuttingDown _)
  | .withdrawing .. | .finished _ | .abandoned => false

/-! ## The streams -/

/-- How far the loop that reads the server's messages is. -/
inductive Loop where
  | reading
  /-- A message on its way to the session of its evaluator. -/
  | routed (session : Nat) (message : Incoming)
  | losing (reason : CloseReason)
  | shuttingDown
  | ended

/-- What is worth a line in the log. -/
inductive LogEvent where
  | unknownCreate (requestId : Int64)
  | unknownEvaluator (evaluatorId : Int64) (kind : Kind)
  | unknownRequest (evaluatorId requestId : Int64)
  | malformed (fault : FrameError)
  | connectionLost (reason : CloseReason)
  | replyNotSent (evaluatorId : Int64) (fault : EvaluatorError)
  /-- A line of Pkl's own log. -/
  | pkl (line : LogLine)

end Hub

open Hub in
/-- The state that the callers of one server share. -/
structure Hub where
  workingDir : FilePath
  managerClosed : Bool := false
  launch : Launch := .idle
  connection : Connection := {}
  sessions : List Session := []
  creates : List CreateCall := []
  evaluates : List EvaluateCall := []
  errands : List Errand := []
  /-- The octets that the server wrote, and that no message has used. -/
  input : StreamDecoder := {}
  inputEnded : Bool := false
  loop : Loop := .reading
  /-- The messages that the server received. -/
  sent : List Outgoing := []
  /-- Whether the server still takes messages. -/
  serverReads : Bool := true
  log : List LogEvent := []

namespace Hub

/-- Whether the connection is closed to callers. -/
def Connection.isClosed (c : Connection) : Bool :=
  match c.phase with
  | .isOpen => false
  | .closing .. | .closed _ => true

/-- Whether the connection's shutdown is over. -/
def Connection.isDown (c : Connection) : Bool :=
  match c.phase with
  | .closed _ => true
  | .isOpen | .closing .. => false

/-- The session of an evaluator id. -/
def Connection.session? (id : Int64) (c : Connection) : Option Nat :=
  (c.registry.find? fun r => r.1 == id).map Prod.snd

/-- The connection without an evaluator id. -/
def Connection.unregister (id : Int64) (c : Connection) : Connection :=
  { c with registry := c.registry.filter fun r => r.1 != id }

/-- The connection with a session under an evaluator id, in place of any that is there. -/
def Connection.enroll (id : Int64) (session : Nat) (c : Connection) : Connection :=
  { c with registry := (c.unregister id).registry ++ [(id, session)] }

/-! ## Changes -/

def setCreate (i : Nat) (call : CreateCall) (h : Hub) : Hub :=
  { h with creates := h.creates.set i call }

def setEvaluate (i : Nat) (call : EvaluateCall) (h : Hub) : Hub :=
  { h with evaluates := h.evaluates.set i call }

def setErrand (i : Nat) (e : Errand) (h : Hub) : Hub :=
  { h with errands := h.errands.set i e }

def setSession (s : Nat) (session : Session) (h : Hub) : Hub :=
  { h with sessions := h.sessions.set s session }

def note (event : LogEvent) (h : Hub) : Hub :=
  { h with log := h.log ++ [event] }

/-- Begins a call that creates an evaluator. -/
def beginCreate (o : EvaluatorOptions) (h : Hub) : Hub :=
  { h with creates := h.creates ++ [{ options := o }] }

/-- Begins a call that evaluates. -/
def beginEvaluate (session : Nat) (source : ModuleSource) (expr : String) (h : Hub) : Hub :=
  { h with evaluates := h.evaluates ++ [{ session, source, expr }] }

/-- Begins an errand. -/
def beginErrand (e : Errand) (h : Hub) : Hub :=
  { h with errands := h.errands ++ [e] }

end Hub

end PklHost
