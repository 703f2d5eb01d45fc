import PklHost.Text.Blank

/-!
# Commands

The command that runs Pkl is a program with its first arguments. It is given as words, or as a line
that is cut into words at white space; without one it is `pkl`. The text of a command joins its words
by single blanks. A program or an argument that holds white space cannot be told from two words in
that text.
-/

namespace PklHost

/-- A program and its first arguments. -/
structure Command where
  program : String
  args : List String := []
  deriving DecidableEq, Repr

namespace Command

/-- The command that is run unless another one is given. -/
def default : Command := ⟨"pkl", []⟩

/-- The command of words, the program first. -/
def ofWords? : List String → Option Command
  | [] => none
  | program :: args => some ⟨program, args⟩

/-- The command that was given, else the one of the line, else the default. -/
def resolve (given : Option Command) (line : Option String) : Command :=
  match given with
  | some c => c
  | none => (line.bind fun l => ofWords? (Text.words l)).getD default

def text (c : Command) : String :=
  " ".intercalate (c.program :: c.args)

end Command

end PklHost
