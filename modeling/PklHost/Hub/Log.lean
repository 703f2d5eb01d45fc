import PklHost.Hub.State

/-!
# Records of the log

Each event of a hub is a record: a level, a message and named fields. A line of Pkl's own log keeps
its text; its level is Pkl's number, of which 0 is trace and anything else a warning, and a number that
is neither of Pkl's two is kept as a field.
-/

namespace PklHost.Hub

inductive LogLevel where
  | trace
  | warning
  deriving DecidableEq, Repr

def LogLevel.text : LogLevel → String
  | .trace => "TRACE"
  | .warning => "WARN"

/-- The value of a field. -/
inductive LogField where
  | number (n : Int64)
  | text (s : String)
  deriving DecidableEq, Repr

/-- A record of the log. -/
structure LogRecord where
  level : LogLevel
  message : String
  fields : List (String × LogField)
  deriving DecidableEq, Repr

/-- The record of a line of Pkl's log. -/
def pklRecord (line : Message.LogLine) : LogRecord :=
  let fields := [("evaluator_id", .number line.evaluatorId), ("frame_uri", .text line.frameUri)]
  if line.level = 0 then ⟨.trace, line.message, fields⟩
  else if line.level = 1 then ⟨.warning, line.message, fields⟩
  else ⟨.warning, line.message, fields ++ [("level", .number line.level)]⟩

/-- The record of an event. -/
def LogEvent.record : LogEvent → LogRecord
  | .unknownCreate requestId =>
    ⟨.warning, "create evaluator response for unknown request id",
      [("request_id", .number requestId)]⟩
  | .unknownEvaluator evaluatorId kind =>
    ⟨.warning, "message for unknown evaluator; dropping",
      [("evaluator_id", .number evaluatorId), ("code", .text kind.name)]⟩
  | .unknownRequest evaluatorId requestId =>
    ⟨.warning, "evaluate response for unknown request id",
      [("evaluator_id", .number evaluatorId), ("request_id", .number requestId)]⟩
  | .malformed fault => ⟨.warning, "dropping malformed message", [("error", .text fault.message)]⟩
  | .connectionLost reason => ⟨.warning, "pkl connection lost", [("reason", .text reason.text)]⟩
  | .replyNotSent evaluatorId fault =>
    ⟨.warning, "failed to send reader reply",
      [("evaluator_id", .number evaluatorId), ("error", .text fault.message)]⟩
  | .pkl line => pklRecord line

end PklHost.Hub
