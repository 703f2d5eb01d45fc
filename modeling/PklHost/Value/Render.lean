import PklHost.Json
import PklHost.Value.Basic

/-!
# Values as JSON

Objects become JSON objects of their properties. A dynamic object with elements alone becomes an
array; otherwise its entries and its elements, by index, follow its properties. A quantity and an
integer sequence are objects of their parts, a regular expression is its pattern, octets are an array
of numbers, and what has no value is null. Only a text, a number or a boolean can name a member, so
rendering fails at the first key of another kind.
-/

namespace PklHost

/-- Why a value has no JSON form. -/
inductive RenderError where
  | keyNotText
  | keyNotFinite
  deriving DecidableEq, Repr

def RenderError.message : RenderError → String
  | .keyNotText => "key must be a string"
  | .keyNotFinite => "float key must be finite"

namespace Value

/-- The member name of a key. -/
def memberName : Value → Except RenderError String
  | .string s => .ok s
  | .regex pattern => .ok pattern
  | .int n => .ok (toString n.toInt)
  | .bool b => .ok (if b then "true" else "false")
  | .float x => if x.isFinite then .ok (x.text .json) else .error .keyNotFinite
  | _ => .error .keyNotText

/-- A quantity as its number and unit. -/
def quantityJson (value : Double) (unit : String) : Json :=
  .object [("value", .float value), ("unit", .string unit)]

mutual

/-- The JSON form of a value. -/
def toJson : Value → Except RenderError Json
  | .null => .ok .null
  | .bool b => .ok (.bool b)
  | .int n => .ok (.int n.toInt)
  | .float x => .ok (.float x)
  | .string s => .ok (.string s)
  | .bytes octets => .ok (.array (octets.map fun b => .int b.toNat))
  | .list items => return .array (← jsonItems items)
  | .set items => return .array (← jsonItems items)
  | .map entries => return .object (← jsonEntries entries)
  | .dynamic [] [] (x :: xs) => do
    let x ← x.toJson
    return .array (x :: (← jsonItems xs))
  | .dynamic properties entries elements => do
    let ps ← jsonProperties properties
    let es ← jsonEntries entries
    let ls ← jsonElements 0 elements
    return .object (ps ++ (es ++ ls))
  | .object _ _ properties => return .object (← jsonProperties properties)
  | .duration d => .ok (quantityJson d.value d.unit.symbol)
  | .dataSize d => .ok (quantityJson d.value d.unit.symbol)
  | .intSeq s =>
    .ok (.object [("start", .int s.start.toInt), ("end", .int s.stop.toInt),
      ("step", .int s.step.toInt)])
  | .regex pattern => .ok (.string pattern)
  | .pair first second => return .array [← first.toJson, ← second.toJson]
  | .placeholder => .ok .null

def jsonItems : List Value → Except RenderError (List Json)
  | [] => .ok []
  | v :: vs => return (← v.toJson) :: (← jsonItems vs)

def jsonEntries : List (Value × Value) → Except RenderError (List (String × Json))
  | [] => .ok []
  | (k, v) :: ps => do
    let name ← memberName k
    let x ← v.toJson
    return (name, x) :: (← jsonEntries ps)

def jsonProperties : List (String × Value) → Except RenderError (List (String × Json))
  | [] => .ok []
  | (name, v) :: ps => do
    let x ← v.toJson
    return (name, x) :: (← jsonProperties ps)

/-- Elements under their indices, the first of which is `index`. -/
def jsonElements (index : Nat) : List Value → Except RenderError (List (String × Json))
  | [] => .ok []
  | v :: vs => do
    let x ← v.toJson
    return (toString index, x) :: (← jsonElements (index + 1) vs)

end

end Value

end PklHost
