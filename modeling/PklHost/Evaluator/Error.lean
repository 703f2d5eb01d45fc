import PklHost.Message.Error
import PklHost.Project.Basic
import PklHost.Transport
import PklHost.Url.FilePath
import PklHost.Value.DecodeError

/-!
# Faults of evaluators

What can go wrong between a call and its answer, each fault with its wording. A fault of a lower layer
is kept whole inside the one that reports it.
-/

namespace PklHost

open Message (FrameError)

/-- Why a connection is closed to a call. -/
inductive CloseReason where
  /-- The connection was shut down before the call reached it. -/
  | shutDown
  /-- The manager was closed before the call reached it. -/
  | managerIsClosed
  /-- The create request was given up. -/
  | createDropped
  /-- The evaluate request was given up. -/
  | evaluateDropped
  | readFailed (cause : FrameError)
  | writeFailed (cause : FrameError)
  | serverClosedOutput
  /-- The manager was closed during the call. -/
  | managerClosed
  /-- Any other reason, in words. -/
  | other (text : String)

def CloseReason.text : CloseReason → String
  | .shutDown => "connection is shut down"
  | .managerIsClosed => "evaluator manager is closed"
  | .createDropped => "create request was dropped"
  | .evaluateDropped => "evaluate request was dropped"
  | .readFailed cause => "read failed: " ++ cause.message
  | .writeFailed cause => "write failed: " ++ cause.message
  | .serverClosedOutput => "pkl server closed its output"
  | .managerClosed => "evaluator manager closed"
  | .other text => text

/-- A fault of a call to an evaluator or a manager. -/
inductive EvaluatorError where
  | transport (cause : TransportError)
  | frame (cause : FrameError)
  | decode (cause : DecodeError)
  /-- The evaluation failed; the text is Pkl's own report. -/
  | evaluation (text : String)
  | closed
  | connectionClosed (reason : CloseReason)
  | createFailed (text : String)
  | duplicateRequestId (id : Int64)
  | unexpectedResult (expected found : String)
  | invalidUri (cause : Url.Fault)
  | invalidPath (path : FilePath)
  | project (fault : ProjectFault)
  | io (cause : IoError)

def EvaluatorError.message : EvaluatorError → String
  | .transport cause => "transport error: " ++ cause.message
  | .frame cause => "frame error: " ++ cause.message
  | .decode cause => "decode error: " ++ cause.message
  | .evaluation text => text
  | .closed => "evaluator is closed"
  | .connectionClosed reason => "connection closed: " ++ reason.text
  | .createFailed text => "failed to create evaluator: " ++ text
  | .duplicateRequestId id => "request id " ++ toString id.toInt ++ " is already pending"
  | .unexpectedResult expected found =>
    "unexpected result: expected " ++ expected ++ ", got " ++ found
  | .invalidUri cause => "invalid module uri: " ++ cause.message
  | .invalidPath path => "invalid module path: " ++ Utf8.lossyText path
  | .project fault => "invalid project: " ++ fault.message
  | .io cause => "I/O error: " ++ cause.text

end PklHost
