import PklHost.MessagePack.Writer
import PklHost.Message.Fields

/-!
# Messages from the server to the host

The server answers requests, logs, and asks for resources and modules that the host's readers offer.
An empty error text in an answer is no error.
-/

namespace PklHost.Message

open MessagePack (Item)

/-- A request to read or list what is at a URI. -/
structure ReadRequest where
  requestId : Int64
  evaluatorId : Int64
  uri : String
  deriving DecidableEq, Repr

/-- The answer to a request to create an evaluator. -/
structure CreateOutcome where
  requestId : Int64
  evaluatorId : Option Int64
  error : Option String
  deriving DecidableEq, Repr

/-- The answer to a request to evaluate. -/
structure EvaluateOutcome where
  requestId : Int64
  evaluatorId : Int64
  result : Option Bytes
  error : Option String
  deriving DecidableEq, Repr

/-- A line of an evaluator's log. -/
structure LogLine where
  evaluatorId : Int64
  level : Int64
  message : String
  frameUri : String
  deriving DecidableEq, Repr

/-- A message from the server to the host. -/
inductive Incoming where
  | createEvaluatorResponse (m : CreateOutcome)
  | evaluateResponse (m : EvaluateOutcome)
  | log (line : LogLine)
  | readResource (r : ReadRequest)
  | readModule (r : ReadRequest)
  | listResources (r : ReadRequest)
  | listModules (r : ReadRequest)
  deriving DecidableEq, Repr

/-! ## Writing -/

def ReadRequest.pairs (r : ReadRequest) : List (Item × Item) :=
  put "requestId" (.ofInt64 r.requestId) ++ put "evaluatorId" (.ofInt64 r.evaluatorId) ++
    put "uri" (.text r.uri)

def CreateOutcome.pairs (m : CreateOutcome) : List (Item × Item) :=
  put "requestId" (.ofInt64 m.requestId) ++ put? "evaluatorId" (m.evaluatorId.map .ofInt64) ++
    put? "error" (m.error.map .text)

def EvaluateOutcome.pairs (m : EvaluateOutcome) : List (Item × Item) :=
  put "requestId" (.ofInt64 m.requestId) ++ put "evaluatorId" (.ofInt64 m.evaluatorId) ++
    put? "result" (m.result.map .bin) ++ put? "error" (m.error.map .text)

def LogLine.pairs (m : LogLine) : List (Item × Item) :=
  put "evaluatorId" (.ofInt64 m.evaluatorId) ++ put "level" (.ofInt64 m.level) ++
    put "message" (.text m.message) ++ put "frameUri" (.text m.frameUri)

namespace Incoming

/-- The kind of a message. -/
def kind : Incoming → Kind
  | .createEvaluatorResponse _ => .createEvaluatorResponse
  | .evaluateResponse _ => .evaluateResponse
  | .log _ => .log
  | .readResource _ => .readResource
  | .readModule _ => .readModule
  | .listResources _ => .listResources
  | .listModules _ => .listModules

/-- The evaluator that a message concerns; an answer to a create request concerns none yet. -/
def evaluatorId? : Incoming → Option Int64
  | .createEvaluatorResponse _ => none
  | .evaluateResponse m => some m.evaluatorId
  | .log line => some line.evaluatorId
  | .readResource r | .readModule r | .listResources r | .listModules r => some r.evaluatorId

/-- The fields of a message, in the order in which they are written. -/
def pairs : Incoming → List (Item × Item)
  | .createEvaluatorResponse m => m.pairs
  | .evaluateResponse m => m.pairs
  | .log line => line.pairs
  | .readResource r | .readModule r | .listResources r | .listModules r => r.pairs

/-- The record of a message. -/
def toItem (m : Incoming) : Item :=
  recordItem m.kind m.pairs

/-- The octets of a message. -/
def encode (m : Incoming) : Bytes :=
  m.toItem.write

end Incoming

/-! ## Reading -/

/-- An error text; an empty one is none. -/
def readError : FieldReader (Option String) := do
  match ← FieldReader.text? "error" with
  | some e => return if e.isEmpty then none else some e
  | none => return none

def ReadRequest.read : FieldReader ReadRequest := do
  let requestId ← FieldReader.int64 "requestId"
  let evaluatorId ← FieldReader.int64 "evaluatorId"
  let uri ← FieldReader.text "uri"
  return { requestId, evaluatorId, uri }

def CreateOutcome.read : FieldReader CreateOutcome := do
  let requestId ← FieldReader.int64 "requestId"
  let evaluatorId ← FieldReader.int64? "evaluatorId"
  let error ← readError
  return { requestId, evaluatorId, error }

def EvaluateOutcome.read : FieldReader EvaluateOutcome := do
  let requestId ← FieldReader.int64 "requestId"
  let evaluatorId ← FieldReader.int64 "evaluatorId"
  let result ← FieldReader.binary? "result"
  let error ← readError
  return { requestId, evaluatorId, result, error }

/-- A log line; without a frame its frame is empty. -/
def LogLine.read : FieldReader LogLine := do
  let evaluatorId ← FieldReader.int64 "evaluatorId"
  let level ← FieldReader.int64 "level"
  let message ← FieldReader.text "message"
  let frameUri ← FieldReader.text? "frameUri"
  return { evaluatorId, level, message, frameUri := frameUri.getD "" }

namespace Incoming

/-- The reader of a kind's fields; `none` for kinds that no server sends. -/
def reader? : Kind → Option (FieldReader Incoming)
  | .createEvaluatorResponse => some (.createEvaluatorResponse <$> CreateOutcome.read)
  | .evaluateResponse => some (.evaluateResponse <$> EvaluateOutcome.read)
  | .log => some (.log <$> LogLine.read)
  | .readResource => some (.readResource <$> ReadRequest.read)
  | .readModule => some (.readModule <$> ReadRequest.read)
  | .listResources => some (.listResources <$> ReadRequest.read)
  | .listModules => some (.listModules <$> ReadRequest.read)
  | _ => none

/-- The message of a record. -/
def ofItem (item : Item) : Except FrameError Incoming := do
  let (code, pairs) ← recordOf item
  readKind reader? code pairs

end Incoming

end PklHost.Message
