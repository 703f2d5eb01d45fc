import PklHost.Command
import PklHost.IoError
import PklHost.Text.Quoted

/-!
# Faults of the process that runs Pkl

The process may fail to start, lack a stream, break a stream, or answer the question for its version
with an error or with nothing that is one.
-/

namespace PklHost

/-- A fault of starting, probing or talking to the process. -/
inductive TransportError where
  | spawn (program : String) (cause : IoError)
  /-- The process has no stream of this name. -/
  | missingStream (name : String)
  | io (cause : IoError)
  | probeFailed (program : String) (status : Nat) (errorText : String)
  | noVersion (output : String)
  deriving DecidableEq, Repr

def TransportError.message : TransportError → String
  | .spawn program cause => "failed to spawn " ++ program ++ ": " ++ cause.text
  | .missingStream name => "child process has no " ++ name ++ " handle"
  | .io cause => "transport I/O error: " ++ cause.text
  | .probeFailed program status errorText =>
    program ++ " --version failed (exit status: " ++ toString status ++ "): " ++ errorText
  | .noVersion output => "no Pkl version found in output: " ++ Text.quoted output

end PklHost
