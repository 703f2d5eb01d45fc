import PklHost.Double.Text
import PklHost.MessagePack.Item
import PklHost.Text.Quoted

/-!
# Items in error texts

Error texts show an offending item in one of two notations. The plain one shows contents: numbers,
quoted text, octets as a list of numbers, arrays in brackets and maps in braces. The typed one also
names the kind of every item.
-/

namespace PklHost.MessagePack

open Text (commaSeparated quoted)

/-- Octets as a list of numbers. -/
def octetList (octets : Bytes) : String :=
  "[" ++ commaSeparated (octets.map fun b => toString b.toNat) ++ "]"

mutual

/-- The plain notation. -/
def Item.plain : Item → String
  | .nil => "nil"
  | .bool b => if b then "true" else "false"
  | .int n => toString n.val
  | .single x => x.text .plain
  | .double x => x.text .plain
  | .text s => quoted s
  | .brokenText t => octetList t.octets
  | .bin octets => octetList octets
  | .array items => "[" ++ commaSeparated (plainItems items) ++ "]"
  | .map pairs => "\x7b" ++ commaSeparated (plainPairs pairs) ++ "\x7d"
  | .ext kind octets => "[" ++ toString kind.toInt ++ ", " ++ octetList octets ++ "]"

def plainItems : List Item → List String
  | [] => []
  | x :: xs => x.plain :: plainItems xs

def plainPairs : List (Item × Item) → List String
  | [] => []
  | (k, v) :: ps => (k.plain ++ ": " ++ v.plain) :: plainPairs ps

end

/-- A wire integer with its sign class. -/
def WireInt.typed (n : WireInt) : String :=
  (if 0 ≤ n.val then "PosInt(" else "NegInt(") ++ toString n.val ++ ")"

/-- The first fault of a string that is not UTF-8. -/
def faultText (fault : Utf8.Fault) : String :=
  "Utf8Error \x7b valid_up_to: " ++ toString fault.position ++ ", error_len: " ++
    (match fault.length with
      | some n => "Some(" ++ toString n ++ ")"
      | none => "None") ++ " \x7d"

/-- A string that is not UTF-8, with its octets and its first fault. -/
def BrokenText.typed (t : BrokenText) : String :=
  let fault := (Utf8.fault? t.octets).getD ⟨0, none⟩
  "Err((" ++ octetList t.octets ++ ", " ++ faultText fault ++ "))"

/-- A string behind the name of its kind. -/
def typedString (contents : String) : String :=
  "String(Utf8String \x7b s: " ++ contents ++ " \x7d)"

mutual

/-- The typed notation. -/
def Item.typed : Item → String
  | .nil => "Nil"
  | .bool b => "Boolean(" ++ (if b then "true" else "false") ++ ")"
  | .int n => "Integer(" ++ n.typed ++ ")"
  | .single x => "F32(" ++ x.text .tagged ++ ")"
  | .double x => "F64(" ++ x.text .tagged ++ ")"
  | .text s => typedString ("Ok(" ++ quoted s ++ ")")
  | .brokenText t => typedString t.typed
  | .bin octets => "Binary(" ++ octetList octets ++ ")"
  | .array items => "Array([" ++ commaSeparated (typedItems items) ++ "])"
  | .map pairs => "Map([" ++ commaSeparated (typedPairs pairs) ++ "])"
  | .ext kind octets => "Ext(" ++ toString kind.toInt ++ ", " ++ octetList octets ++ ")"

def typedItems : List Item → List String
  | [] => []
  | x :: xs => x.typed :: typedItems xs

def typedPairs : List (Item × Item) → List String
  | [] => []
  | (k, v) :: ps => ("(" ++ k.typed ++ ", " ++ v.typed ++ ")") :: typedPairs ps

end

end PklHost.MessagePack
