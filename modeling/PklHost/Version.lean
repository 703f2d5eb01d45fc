import PklHost.Text.Digit
import PklHost.Transport

/-!
# Versions

A version is three numbers separated by points, then perhaps a pre-release after a hyphen and a build
after a plus sign. `Version.find?` takes the first one that stands behind the name `Pkl` and a blank,
as long as it can be. Digits of every script count; the two suffixes are ASCII and each needs at least
one character.
-/

namespace PklHost.Version

/-- A character of a pre-release or a build. -/
def isSuffixChar (c : Char) : Bool :=
  c.isAlphanum || c == '.' || c == '-'

/-- Digits at the front, if there are any, and the rest. -/
def number? (cs : List Char) : Option (List Char × List Char) :=
  let digits := cs.takeWhile Text.isDigit
  if digits.isEmpty then none else some (digits, cs.dropWhile Text.isDigit)

/-- A point, and the rest after it. -/
def point? : List Char → Option (List Char)
  | '.' :: cs => some cs
  | _ => none

/-- A suffix behind its sign, or nothing, and the rest. -/
def suffix (sign : Char) : List Char → List Char × List Char
  | [] => ([], [])
  | c :: cs =>
    let body := cs.takeWhile isSuffixChar
    if c = sign && !body.isEmpty then (c :: body, cs.dropWhile isSuffixChar) else ([], c :: cs)

/-- The longest version at the front. -/
def atFront? (cs : List Char) : Option (List Char) := do
  let (a, cs) ← number? cs
  let cs ← point? cs
  let (b, cs) ← number? cs
  let cs ← point? cs
  let (c, cs) ← number? cs
  let (preRelease, cs) := suffix '-' cs
  let (build, _) := suffix '+' cs
  return a ++ '.' :: (b ++ '.' :: c) ++ preRelease ++ build

/-- The first version behind the name. -/
def search? : List Char → Option (List Char)
  | [] => none
  | c :: cs =>
    let here := match c :: cs with
      | 'P' :: 'k' :: 'l' :: ' ' :: rest => atFront? rest
      | _ => none
    here <|> search? cs

/-- The first version in a text. -/
def find? (s : String) : Option String :=
  (search? s.toList).map String.ofList

/-- How running a program for its version ended. -/
inductive ProgramRun where
  | notStarted (cause : IoError)
  | finished (status : Nat) (output errors : Bytes)
  deriving DecidableEq, Repr

/-- The version that a program reports about itself. -/
def ofRun (command : Command) : ProgramRun → Except TransportError String
  | .notStarted cause => .error (.spawn command.text cause)
  | .finished 0 output _ =>
    let output := Utf8.lossyText output
    match find? output with
    | some version => .ok version
    | none => .error (.noVersion (Text.trim output))
  | .finished status _ errors =>
    .error (.probeFailed command.text status (Text.trim (Utf8.lossyText errors)))

end PklHost.Version
