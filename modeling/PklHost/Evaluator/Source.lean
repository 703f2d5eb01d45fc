import PklHost.Evaluator.Error

/-!
# Module sources

What is evaluated: a module by its URI, or a module whose text is given, which then has a URI that
names no place. A file is known by its file URL.
-/

namespace PklHost

/-- A module to evaluate. -/
structure ModuleSource where
  uri : String
  contents : Option String
  deriving DecidableEq, Repr

namespace ModuleSource

/-- The URI of a module that is given as text. -/
def textUri : String := "repl:text"

def ofText (text : String) : ModuleSource := ⟨textUri, some text⟩

/-- A module at an absolute URI. -/
def ofUri (uri : String) : Except EvaluatorError ModuleSource :=
  match Url.parse uri with
  | .ok url => .ok ⟨url.text, none⟩
  | .error fault => .error (.invalidUri fault)

/-- The fault of an empty path. -/
def emptyPath : EvaluatorError :=
  .io ⟨.invalidInput, "cannot make an empty path absolute"⟩

/-- The file URL of a path taken from the working directory. -/
def fileUrl (workingDir path : FilePath) : Except EvaluatorError Url :=
  match Url.ofFilePath? workingDir path with
  | some url => .ok url
  | none => .error emptyPath

/-- A module in a file. -/
def ofFile (workingDir path : FilePath) : Except EvaluatorError ModuleSource :=
  match fileUrl workingDir path with
  | .ok url => .ok ⟨url.text, none⟩
  | .error e => .error e

end ModuleSource

end PklHost
