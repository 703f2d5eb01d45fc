/-!
# Options on a command line

A level of a command line has options and flags, then positional arguments or the name of a lower
level. An option is written with its long name or its letter, its value behind an equals sign, behind
the letter itself, or as the next word. A word that begins with a hyphen is never a value, unless it is
nothing but a hyphen, and behind two hyphens all words are positional. Anything else is wrong usage, as
is an option that is given twice and may not be.
-/

namespace PklHost.Cli

/-- Why a command line is not carried out. -/
inductive Halt where
  | wrongUsage
  | help
  | version
  deriving DecidableEq, Repr

/-- What an option is for. -/
inductive OptionKind where
  | flag
  | value
  /-- A value that may be given again. -/
  | values
  /-- Ends the reading of the command line. -/
  | halt (why : Halt)
  deriving DecidableEq, Repr

/-- An option by its long name and, if it has one, its letter. -/
structure OptionSpec where
  name : String
  letter : Option Char := none
  kind : OptionKind := .value
  deriving DecidableEq, Repr

/-- A level of a command line. -/
structure Level where
  options : List OptionSpec
  /-- Whether a value is one of an option's. -/
  accepts : String → String → Bool
  /-- The names of the lower levels. -/
  levels : List String := []
  /-- How many positional arguments there may be. -/
  positionals : Nat := 0

/-- What was read on a level: options with their values, positional arguments, and the lower level with
the words left for it. -/
structure Given where
  options : List (String × String) := []
  positionals : List String := []
  lower : Option (String × List String) := none
  deriving DecidableEq, Repr

namespace Given

/-- The value of an option. -/
def value? (name : String) (g : Given) : Option String :=
  (g.options.find? fun o => o.1 == name).map Prod.snd

/-- The values of an option, in order. -/
def values (name : String) (g : Given) : List String :=
  (g.options.filter fun o => o.1 == name).map Prod.snd

/-- Whether an option was given. -/
def has (name : String) (g : Given) : Bool :=
  (g.value? name).isSome

end Given

namespace Level

/-- Takes note of an option. -/
def give (l : Level) (spec : OptionSpec) (value : String) (g : Given) : Except Halt Given :=
  if spec.kind ≠ .values && g.has spec.name then .error .wrongUsage
  else if l.accepts spec.name value then .ok { g with options := g.options ++ [(spec.name, value)] }
  else .error .wrongUsage

/-- Takes note of a positional argument. -/
def giveWord (l : Level) (word : String) (g : Given) : Except Halt Given :=
  if g.positionals.length < l.positionals then .ok { g with positionals := g.positionals ++ [word] }
  else .error .wrongUsage

/-- What an option's word leads to: it is all there, or its value is the next word. -/
inductive Reading where
  | whole (g : Given)
  | needsValue (spec : OptionSpec) (g : Given)

/-- Reads an option with the value that is attached to it, if one is. -/
def giveAttached (l : Level) (spec : OptionSpec) (attached : Option String) (g : Given) :
    Except Halt Reading :=
  match spec.kind, attached with
  | .flag, none => .whole <$> l.give spec "" g
  | .halt why, none => .error why
  | .value, some v | .values, some v => .whole <$> l.give spec v g
  | .value, none | .values, none => .ok (.needsValue spec g)
  | .flag, some _ | .halt _, some _ => .error .wrongUsage

/-- A word cut at its first equals sign. -/
def cutAtEquals (cs : List Char) : String × Option String :=
  let name := String.ofList (cs.takeWhile (· != '='))
  match cs.dropWhile (· != '=') with
  | [] => (name, none)
  | _ :: value => (name, some (String.ofList value))

/-- Reads a long option, without its hyphens. -/
def readLong (l : Level) (cs : List Char) (g : Given) : Except Halt Reading :=
  let (name, attached) := cutAtEquals cs
  match l.options.find? fun spec => spec.name == name with
  | some spec => l.giveAttached spec attached g
  | none => .error .wrongUsage

/-- Reads letters, of which only the last may take a value: what stands behind it, without an equals
sign in front. -/
def readLetters (l : Level) : List Char → Given → Except Halt Reading
  | [], g => .ok (.whole g)
  | c :: cs, g =>
    match l.options.find? fun spec => spec.letter == some c with
    | none => .error .wrongUsage
    | some spec =>
      match spec.kind with
      | .value | .values =>
        let attached := match cs with
          | [] => none
          | '=' :: value => some (String.ofList value)
          | value => some (String.ofList value)
        l.giveAttached spec attached g
      | .flag | .halt _ => do
        match ← l.giveAttached spec none g with
        | .whole g => l.readLetters cs g
        | .needsValue spec g => return .needsValue spec g

/-- Whether a word can be the value of the option before it. -/
def isValueWord (word : String) : Bool :=
  match word.toList with
  | '-' :: _ :: _ => false
  | _ => true

/-- Reads words behind two hyphens. -/
def readPositionals (l : Level) (words : List String) (g : Given) : Except Halt Given :=
  words.foldlM (fun g word => l.giveWord word g) g

/-- Reads a word that is an option; `none` for any other word. -/
def readOption? (l : Level) (word : String) (g : Given) : Option (Except Halt Reading) :=
  match word.toList with
  | '-' :: '-' :: cs => some (l.readLong cs g)
  | '-' :: c :: cs => some (l.readLetters (c :: cs) g)
  | _ => none

/-- Reads a level. -/
def read (l : Level) : List String → Given → Except Halt Given
  | [], g => .ok g
  | word :: words, g =>
    if l.levels.contains word then .ok { g with lower := some (word, words) }
    else if word = "--" then l.readPositionals words g
    else
      match l.readOption? word g, words with
      | none, words => do l.read words (← l.giveWord word g)
      | some (.error why), _ => .error why
      | some (.ok (.whole g)), words => l.read words g
      | some (.ok (.needsValue _ _)), [] => .error .wrongUsage
      | some (.ok (.needsValue spec g)), value :: words =>
        if isValueWord value then do l.read words (← l.give spec value g) else .error .wrongUsage

end Level

end PklHost.Cli
