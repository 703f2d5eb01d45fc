import PklHost.Double.Text
import PklHost.Text.Quoted

/-!
# JSON text

A document is a tree whose objects keep their members in order and may repeat a name. It is written
on one line, or over several with two blanks of indentation per level. Only the quote, the backslash
and control characters are escaped.
-/

namespace PklHost

/-- A JSON document. -/
inductive Json where
  | null
  | bool (b : Bool)
  | int (n : Int)
  | float (x : Double)
  | string (s : String)
  | array (items : List Json)
  | object (members : List (String × Json))

namespace Json

/-- Four hexadecimal digits. -/
def fourHex (n : Nat) : String :=
  let digits := Nat.toDigits 16 n
  String.ofList (List.replicate (4 - digits.length) '0' ++ digits)

/-- One character inside a JSON string. -/
def escapeChar (c : Char) : String :=
  if c = '"' then "\\\""
  else if c = '\\' then "\\\\"
  else if c = '\n' then "\\n"
  else if c = '\r' then "\\r"
  else if c = '\t' then "\\t"
  else if c = '\x08' then "\\b"
  else if c = '\x0c' then "\\f"
  else if c.toNat < 0x20 then "\\u" ++ fourHex c.toNat
  else String.ofList [c]

/-- A JSON string. -/
def stringText (s : String) : String :=
  "\"" ++ String.join (s.toList.map escapeChar) ++ "\""

/-- A JSON number; what is no number is null. -/
def floatText (x : Double) : String :=
  if x.isFinite then x.text .json else "null"

mutual

/-- The document on one line. -/
def compact : Json → String
  | .null => "null"
  | .bool b => if b then "true" else "false"
  | .int n => toString n
  | .float x => floatText x
  | .string s => stringText s
  | .array items => "[" ++ ",".intercalate (compactItems items) ++ "]"
  | .object members => "\x7b" ++ ",".intercalate (compactMembers members) ++ "\x7d"

def compactItems : List Json → List String
  | [] => []
  | x :: xs => x.compact :: compactItems xs

def compactMembers : List (String × Json) → List String
  | [] => []
  | (name, x) :: ms => (stringText name ++ ":" ++ x.compact) :: compactMembers ms

end

/-- A new line at a level of nesting. -/
def newLine (level : Nat) : String :=
  "\n" ++ String.ofList (List.replicate (2 * level) ' ')

/-- Parts between brackets, each on a line of its own. -/
def bracketed (level : Nat) (left right : String) (parts : List String) : String :=
  if parts.isEmpty then left ++ right
  else
    left ++ newLine (level + 1) ++ ("," ++ newLine (level + 1)).intercalate parts ++
      newLine level ++ right

mutual

/-- The document over several lines, at a level of nesting. -/
def indented (level : Nat) : Json → String
  | .null => "null"
  | .bool b => if b then "true" else "false"
  | .int n => toString n
  | .float x => floatText x
  | .string s => stringText s
  | .array items => bracketed level "[" "]" (indentedItems (level + 1) items)
  | .object members => bracketed level "\x7b" "\x7d" (indentedMembers (level + 1) members)

def indentedItems (level : Nat) : List Json → List String
  | [] => []
  | x :: xs => x.indented level :: indentedItems level xs

def indentedMembers (level : Nat) : List (String × Json) → List String
  | [] => []
  | (name, x) :: ms => (stringText name ++ ": " ++ x.indented level) :: indentedMembers level ms

end

/-- The document over several lines. -/
def pretty (x : Json) : String :=
  x.indented 0

end Json

end PklHost
