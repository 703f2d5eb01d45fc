import PklHost.Evaluator.Error

/-!
# Exit codes

A command ends with a code and, unless it succeeds, a message. The code tells scripts what kind of
fault it was: a failed evaluation or a lost connection, a fault of the process that runs Pkl, data
that is not what it should be, wrong usage, or anything else.
-/

namespace PklHost.Cli

open Message (FrameError)

/-- How a command ends. -/
inductive ExitCode where
  | success
  | failure
  | usageSyntax
  | transport
  | invalidData
  | usage
  | internal
  deriving DecidableEq, Repr

/-- The number of a code. -/
def ExitCode.number : ExitCode → Nat
  | .success => 0
  | .failure => 1
  | .usageSyntax => 2
  | .transport => 3
  | .invalidData => 60
  | .usage => 64
  | .internal => 125

/-- A code and the message that goes with it. -/
structure Failure where
  code : ExitCode
  message : String
  deriving DecidableEq, Repr

namespace Failure

/-- What was being done, and what went wrong. -/
def inContext (context : String) (code : ExitCode) (message : String) : Failure :=
  ⟨code, context ++ ": " ++ message⟩

def ofIo (context : String) (e : IoError) : Failure :=
  let code := match e.kind with
    | .notFound | .invalidInput => .usage
    | .brokenPipe | .unexpectedEof => .failure
    | .other => .internal
  inContext context code e.text

def ofTransport (context : String) (e : TransportError) : Failure :=
  inContext context .transport e.message

def ofFrame (context : String) (e : FrameError) : Failure :=
  match e with
  | .io cause => inContext context .transport cause.text
  | .connectionClosed => inContext context .failure e.message
  | .tooLarge .. | .msgpack _ => inContext context .invalidData e.message
  | .unknownKind _ | .missingField .. | .invalidField .. | .notARecord _ =>
    inContext context .internal e.message

/-- A failed evaluation is reported in Pkl's own words alone, every other fault in its context. -/
def ofEvaluator (context : String) (e : EvaluatorError) : Failure :=
  match e with
  | .transport cause => ofTransport context cause
  | .frame cause => ofFrame context cause
  | .io cause => ofIo context cause
  | .evaluation text => ⟨.failure, text⟩
  | .closed | .connectionClosed _ | .createFailed _ => inContext context .failure e.message
  | .decode _ | .unexpectedResult .. | .project _ => inContext context .invalidData e.message
  | .invalidUri _ | .invalidPath _ => inContext context .usage e.message
  | .duplicateRequestId _ => inContext context .internal e.message

end Failure

end PklHost.Cli
