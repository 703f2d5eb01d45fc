import PklHost.Value.DecodeError
import PklHost.Value.Tag

/-!
# Decoding values

`Value.ofItem` reads a value from a MessagePack item, `Value.decode` from octets that must hold
exactly one item. Primitives stand for themselves. Everything else is a tagged array, whose fields
are read from left to right; the first fault decides the error, and fields past the ones a tag
needs are ignored. Only the open class has entries and elements, and its elements arrive in order.
-/

namespace PklHost

open MessagePack (Item WireInt)

namespace Value

/-! ## Single fields -/

/-- The next field of a tagged array. -/
def nextField (what : String) : List Item → Except DecodeError (Item × List Item)
  | [] => .error (.malformed what .tooFewFields)
  | x :: rest => .ok (x, rest)

/-- An integer in the signed range. -/
def readInt (n : WireInt) : Except DecodeError Int64 :=
  match n.toInt64? with
  | some n => .ok n
  | none => .error (.outOfRange (UInt64.ofNat n.val.toNat))

/-- A string field. -/
def readString (what : String) : Item → Except DecodeError String
  | .text s => .ok s
  | .brokenText _ => .error (.malformed what .notUtf8)
  | got => .error (.malformed what (.expected "string" got))

/-- An integer field. -/
def readIntField (what : String) : Item → Except DecodeError Int64
  | .int n => readInt n
  | got => .error (.malformed what (.expected "integer" got))

/-- A number field: a float, or an integer rounded to one. -/
def readNumber (what : String) : Item → Except DecodeError Double
  | .double x => .ok x
  | .single x => .ok x.toDouble
  | .int n =>
    match readInt n with
    | .ok n => .ok (.ofInt n.toInt)
    | .error e => .error e
  | got => .error (.malformed what (.expected "number" got))

/-! ## Tagged arrays without values inside -/

/-- A number and a unit symbol. -/
def readQuantity (what : String) (fields : List Item) : Except DecodeError (Double × String) := do
  let (x, fields) ← nextField what fields
  let x ← readNumber what x
  let (u, _) ← nextField what fields
  let u ← readString what u
  return (x, u)

def readDuration (what : String) (fields : List Item) : Except DecodeError Value := do
  let (x, symbol) ← readQuantity what fields
  match DurationUnit.ofSymbol? symbol with
  | some u => return .duration ⟨x, u⟩
  | none => throw (.unknownUnit .duration symbol)

def readDataSize (what : String) (fields : List Item) : Except DecodeError Value := do
  let (x, symbol) ← readQuantity what fields
  match SizeUnit.ofSymbol? symbol with
  | some u => return .dataSize ⟨x, u⟩
  | none => throw (.unknownUnit .dataSize symbol)

def readIntSeq (what : String) (fields : List Item) : Except DecodeError Value := do
  let (a, fields) ← nextField what fields
  let start ← readIntField what a
  let (b, fields) ← nextField what fields
  let stop ← readIntField what b
  let (c, _) ← nextField what fields
  let step ← readIntField what c
  return .intSeq ⟨start, stop, step⟩

def readRegex (what : String) (fields : List Item) : Except DecodeError Value := do
  let (x, _) ← nextField what fields
  let pattern ← readString what x
  return .regex pattern

/-! ## Objects -/

/-- The members of an object read so far. -/
structure Members where
  properties : Properties := []
  entries : Entries := []
  elements : List Value := []

/-- The object of a class with these members. -/
def ofMembers (isDynamic : Bool) (className moduleUri : String) (m : Members) : Value :=
  if isDynamic then .dynamic m.properties m.entries m.elements
  else .object className moduleUri m.properties

/-- The index of an element member, which must be the number of elements before it. -/
def readIndex (expected : Nat) : Item → Except DecodeError Unit
  | .int n =>
    match n.toUInt64? with
    | none => .error (.malformed (Tag.name Tag.element) .negativeIndex)
    | some index =>
      if index.toNat = expected then .ok () else .error (.elementOrder index expected)
  | got => .error (.malformed (Tag.name Tag.element) (.indexNotInteger got))

/-- A class with entries and elements. -/
def isDynamicClass (className moduleUri : String) : Bool :=
  className == Tag.dynamicClass && moduleUri == Tag.baseModule

/-- A member tag; a negative one is read as the largest tag, which is unknown. -/
def memberTag (n : WireInt) : UInt64 :=
  n.toUInt64?.getD 0xffffffffffffffff

/-- The class and module of an object. -/
def readClass (what : String) (c m : Item) : Except DecodeError (String × String) := do
  let className ← readString what c
  let moduleUri ← readString what m
  return (className, moduleUri)

/-- The fault of an object whose fields are not a class, a module and an array. -/
def objectFault (what : String) (fields : List Item) : DecodeError :=
  let fault : Except DecodeError DecodeError := do
    let (c, fields) ← nextField what fields
    let _ ← readString what c
    let (m, fields) ← nextField what fields
    let _ ← readString what m
    let (got, _) ← nextField what fields
    return .malformed (Tag.name Tag.object) (.membersNotArray got)
  match fault with
  | .ok e | .error e => e

/-- The fault of a map or sequence whose first field is not of the `noun` it should be. -/
def containerFault (what container noun : String) : List Item → DecodeError
  | [] => .malformed what .tooFewFields
  | got :: _ => .malformed container (.expected noun got)

/-- The fault of a member that lacks fields. -/
def tooFew {α : Type} (what : String) : Except DecodeError α :=
  .error (.malformed what .tooFewFields)

/-! ## Values -/

mutual

/-- The value of an item. -/
def ofItem : Item → Except DecodeError Value
  | .nil => .ok .null
  | .bool b => .ok (.bool b)
  | .int n => return .int (← readInt n)
  | .single x => .ok (.float x.toDouble)
  | .double x => .ok (.float x)
  | .text s => .ok (.string s)
  | .brokenText _ => .error (.malformed "string" .notUtf8)
  | .bin octets => .ok (.bytes octets)
  | .array [] => .error (.malformed "value" .emptyArray)
  | .array (.int n :: fields) =>
    match n.toUInt64? with
    | none => .error (.malformed "value" .negativeTag)
    | some tag => ofTagged tag (Tag.kind tag) fields
  | .array (got :: _) => .error (.malformed "value" (.noTag got))
  | .map _ => .error (.malformed "value" .bareMap)
  | .ext kind _ => .error (.malformed "value" (.extension kind))

/-- The value of a tagged array, by its tag and fields. -/
def ofTagged (tag : UInt64) : Tag.Kind → List Item → Except DecodeError Value
  | .object, c :: m :: .array members :: _ => do
    let (className, moduleUri) ← readClass (Tag.name tag) c m
    let isDynamic := isDynamicClass className moduleUri
    return ofMembers isDynamic className moduleUri (← readMembers isDynamic className {} members)
  | .object, fields => .error (objectFault (Tag.name tag) fields)
  | .map, .map pairs :: _ => return .map (Entries.ofPairs (← ofPairs pairs))
  | .map, fields => .error (containerFault (Tag.name tag) (Tag.name Tag.map) "map" fields)
  | .list, .array items :: _ => return .list (← ofItems items)
  | .set, .array items :: _ => return .set (← ofItems items)
  | .list, fields | .set, fields =>
    .error (containerFault (Tag.name tag) (Tag.name Tag.list) "array" fields)
  | .duration, fields => readDuration (Tag.name tag) fields
  | .dataSize, fields => readDataSize (Tag.name tag) fields
  | .pair, [] => tooFew (Tag.name tag)
  | .pair, [a] => do
    let _ ← ofItem a
    tooFew (Tag.name tag)
  | .pair, a :: b :: _ => return .pair (← ofItem a) (← ofItem b)
  | .intSeq, fields => readIntSeq (Tag.name tag) fields
  | .regex, fields => readRegex (Tag.name tag) fields
  | .declaration, _ => .ok .placeholder
  | .member, _ => .error (.malformed "value" (.memberOutsideObject tag))
  | .unknown, _ => .error (.unknownTag tag)

/-- The values of items, in order. -/
def ofItems : List Item → Except DecodeError (List Value)
  | [] => .ok []
  | x :: xs => return (← ofItem x) :: (← ofItems xs)

/-- The values of keys and values, in order. -/
def ofPairs : List (Item × Item) → Except DecodeError (List (Value × Value))
  | [] => .ok []
  | (k, v) :: ps => return (← ofItem k, ← ofItem v) :: (← ofPairs ps)

/-- The members of an object, added to those already read. -/
def readMembers (isDynamic : Bool) (className : String) (acc : Members) :
    List Item → Except DecodeError Members
  | [] => .ok acc
  | .array (.int n :: fields) :: rest => do
    let tag := memberTag n
    let acc ← readMember isDynamic className acc tag (Tag.memberKind tag) fields
    readMembers isDynamic className acc rest
  | .array _ :: _ => .error (.malformed "object member" .missingMemberTag)
  | got :: _ => .error (.malformed "object member" (.expected "array" got))

/-- One member by its tag and fields. -/
def readMember (isDynamic : Bool) (className : String) (acc : Members) (tag : UInt64) :
    Tag.MemberKind → List Item → Except DecodeError Members
  | .property, [] => tooFew (Tag.name tag)
  | .property, [x] => do
    let _ ← readString (Tag.name tag) x
    tooFew (Tag.name tag)
  | .property, x :: v :: _ => do
    let name ← readString (Tag.name tag) x
    let v ← ofItem v
    return { acc with properties := acc.properties.insert name v }
  | .entry, fields =>
    if isDynamic then
      match fields with
      | [] => tooFew (Tag.name tag)
      | [k] => do
        let _ ← ofItem k
        tooFew (Tag.name tag)
      | k :: v :: _ => do
        let k ← ofItem k
        let v ← ofItem v
        return { acc with entries := acc.entries.insert k v }
    else .error (.unexpectedMember tag className)
  | .element, fields =>
    if isDynamic then
      match fields with
      | [] => tooFew (Tag.name tag)
      | [index] => do
        readIndex acc.elements.length index
        tooFew (Tag.name tag)
      | index :: v :: _ => do
        readIndex acc.elements.length index
        let v ← ofItem v
        return { acc with elements := acc.elements ++ [v] }
    else .error (.unexpectedMember tag className)
  | .unknown, _ => .error (.unknownMember tag)

end

end Value

/-- The value of a payload, which must hold one item and nothing after it. -/
def Value.decode (payload : Bytes) : Except DecodeError Value :=
  match Item.read MessagePack.depthLimit payload with
  | .error e => .error (.unreadable e)
  | .ok (item, []) => Value.ofItem item
  | .ok (_, rest@(_ :: _)) => .error (.trailing rest.length)

end PklHost
