/-!
# Input and output errors

An error of the operating system, or of a stream, is known by its class and the words it comes with.
Only the classes that callers tell apart have names.
-/

namespace PklHost

/-- Classes of input and output errors. -/
inductive IoErrorKind where
  | notFound
  | invalidInput
  | brokenPipe
  | unexpectedEof
  | other
  deriving DecidableEq, Repr

/-- An input or output error. -/
structure IoError where
  kind : IoErrorKind
  text : String
  deriving DecidableEq, Repr

namespace IoError

/-- Writing to a stream whose reader has gone. -/
def brokenPipe : IoError := ⟨.brokenPipe, "broken pipe"⟩

end IoError

end PklHost
