import PklHost.Assoc
import PklHost.Bytes
import PklHost.Value.Quantity

/-!
# Pkl values

A Pkl value as a host sees it after evaluation. Maps and the entries of dynamic objects have values
of any kind as keys and keep the order of insertion; properties are keyed by name. `Value.equal` is
the equality by which keys are found: it compares numbers numerically, so it is symmetric and
transitive, and reflexive exactly on values without a NaN.
-/

namespace PklHost

/-- A sequence of integers by its bounds and step. -/
structure IntSeq where
  start : Int64
  stop : Int64
  step : Int64
  deriving DecidableEq, Repr

/-- A Pkl value. -/
inductive Value where
  | null
  | bool (b : Bool)
  | int (n : Int64)
  | float (x : Double)
  | string (s : String)
  | bytes (octets : Bytes)
  | list (items : List Value)
  | set (items : List Value)
  | map (entries : List (Value × Value))
  /-- An open object: properties, entries and elements, each axis filled on its own. -/
  | dynamic (properties : List (String × Value)) (entries : List (Value × Value))
      (elements : List Value)
  /-- An instance of a declared class. -/
  | object (className moduleUri : String) (properties : List (String × Value))
  | duration (d : Duration)
  | dataSize (d : DataSize)
  | intSeq (s : IntSeq)
  | regex (pattern : String)
  | pair (first second : Value)
  /-- A class or type alias, of which nothing is kept. -/
  | placeholder

instance : Inhabited Value := ⟨.null⟩

/-- The entries of a map or dynamic object. -/
abbrev Entries := List (Value × Value)

/-- The properties of an object. -/
abbrev Properties := List (String × Value)

/-! ## Equality -/

mutual

/-- Equality of values: same kind, same parts in the same order, numbers compared numerically. -/
def Value.equal : Value → Value → Bool
  | .null, .null => true
  | .bool a, .bool b => a == b
  | .int a, .int b => a == b
  | .float a, .float b => a.eq b
  | .string a, .string b => a == b
  | .bytes a, .bytes b => a == b
  | .list a, .list b => equalItems a b
  | .set a, .set b => equalItems a b
  | .map a, .map b => equalEntries a b
  | .dynamic p e l, .dynamic p' e' l' =>
    equalProperties p p' && equalEntries e e' && equalItems l l'
  | .object c m p, .object c' m' p' => c == c' && m == m' && equalProperties p p'
  | .duration a, .duration b => a.eq b
  | .dataSize a, .dataSize b => a.eq b
  | .intSeq a, .intSeq b => decide (a = b)
  | .regex a, .regex b => a == b
  | .pair a b, .pair a' b' => a.equal a' && b.equal b'
  | .placeholder, .placeholder => true
  | _, _ => false

def equalItems : List Value → List Value → Bool
  | [], [] => true
  | x :: xs, y :: ys => x.equal y && equalItems xs ys
  | _, _ => false

def equalEntries : List (Value × Value) → List (Value × Value) → Bool
  | [], [] => true
  | (k, v) :: ps, (k', v') :: ps' => k.equal k' && v.equal v' && equalEntries ps ps'
  | _, _ => false

def equalProperties : List (String × Value) → List (String × Value) → Bool
  | [], [] => true
  | (k, v) :: ps, (k', v') :: ps' => k == k' && v.equal v' && equalProperties ps ps'
  | _, _ => false

end

/-! ## Keyed access -/

namespace Entries

/-- Inserts a pair, replacing the value of an equal key in place. -/
def insert (k v : Value) (entries : Entries) : Entries :=
  Assoc.insert Value.equal k v entries

/-- Inserts a pair, and gives the value that it replaced. -/
def exchange (k v : Value) (entries : Entries) : Option Value × Entries :=
  Assoc.exchange Value.equal k v entries

/-- The value of the first key equal to `k`. -/
def get? (k : Value) (entries : Entries) : Option Value :=
  Assoc.get? (fun a b => Value.equal a b) k entries

/-- Entries built by inserting pairs one after another. -/
def ofPairs (pairs : List (Value × Value)) : Entries :=
  Assoc.ofPairs Value.equal pairs

/-- The value of the first string key that reads `name`. -/
def getText? (name : String) : Entries → Option Value
  | [] => none
  | (.string s, v) :: rest => if s == name then some v else getText? name rest
  | _ :: rest => getText? name rest

end Entries

namespace Properties

/-- Inserts a property, replacing the value of the same name in place. -/
def insert (name : String) (v : Value) (properties : Properties) : Properties :=
  Assoc.insert (· == ·) name v properties

/-- Inserts a property, and gives the value that it replaced. -/
def exchange (name : String) (v : Value) (properties : Properties) : Option Value × Properties :=
  Assoc.exchange (· == ·) name v properties

/-- The property of a name. -/
def get? (name : String) (properties : Properties) : Option Value :=
  Assoc.get? (· == ·) name properties

def contains (name : String) (properties : Properties) : Bool :=
  (properties.get? name).isSome

/-- The names, in order. -/
def names (properties : Properties) : List String := Assoc.keys properties

/-- Properties built by inserting pairs one after another. -/
def ofPairs (pairs : List (String × Value)) : Properties :=
  Assoc.ofPairs (· == ·) pairs

end Properties

/-! ## Views -/

namespace Value

/-- The name of a value's kind, for diagnostics. -/
def kind : Value → String
  | .null => "null"
  | .bool _ => "bool"
  | .int _ => "int"
  | .float _ => "float"
  | .string _ => "string"
  | .bytes _ => "bytes"
  | .list _ => "list"
  | .set _ => "set"
  | .map _ => "map"
  | .dynamic .. => "dynamic"
  | .object .. => "object"
  | .duration _ => "duration"
  | .dataSize _ => "data size"
  | .intSeq _ => "int seq"
  | .regex _ => "regex"
  | .pair .. => "pair"
  | .placeholder => "placeholder"

def isNull : Value → Bool
  | .null => true
  | _ => false

def text? : Value → Option String
  | .string s => some s
  | _ => none

def int? : Value → Option Int64
  | .int n => some n
  | _ => none

/-- The number of a float or, rounded, of an integer. -/
def number? : Value → Option Double
  | .float x => some x
  | .int n => some (.ofInt n.toInt)
  | _ => none

def bool? : Value → Option Bool
  | .bool b => some b
  | _ => none

/-- The items of a list or set. -/
def items? : Value → Option (List Value)
  | .list items | .set items => some items
  | _ => none

def entries? : Value → Option Entries
  | .map entries => some entries
  | _ => none

/-- An instance of a declared class. -/
def isTyped : Value → Bool
  | .object .. => true
  | _ => false

/-- An open object. -/
def isDynamic : Value → Bool
  | .dynamic .. => true
  | _ => false

/-- An entry of a dynamic object. -/
def entry? : (v key : Value) → Option Value
  | .dynamic _ entries _, key => Entries.get? key entries
  | _, _ => none

/-- An element of a dynamic object. -/
def element? (index : Nat) : Value → Option Value
  | .dynamic _ _ elements => elements[index]?
  | _ => none

/-- A property of a typed or dynamic object. -/
def property? (name : String) : Value → Option Value
  | .object _ _ properties => Properties.get? name properties
  | .dynamic properties _ _ => Properties.get? name properties
  | _ => none

end Value

end PklHost
