import PklHost.MessagePack.Writer
import PklHost.Value.Basic
import PklHost.Value.Tag

/-!
# Encoding values

`Value.toItem` writes a value as the item from which it is decoded. Where two tags read alike, one is
written: a list is a listing and a map a mapping. Quantities are written as floats, members in the
order properties, entries, elements, and a placeholder as a bare class tag.
-/

namespace PklHost

open MessagePack (Item WireInt)

/-- A tagged array. -/
def taggedItem (tag : UInt64) (fields : List Item) : Item :=
  .array (.ofUInt64 tag :: fields)

/-- An object of a class with encoded members. -/
def objectItem (className moduleUri : String) (members : List Item) : Item :=
  taggedItem Tag.object [.text className, .text moduleUri, .array members]

namespace Value

mutual

/-- The item of a value. -/
def toItem : Value → Item
  | .null => .nil
  | .bool b => .bool b
  | .int n => .ofInt64 n
  | .float x => .double x
  | .string s => .text s
  | .bytes octets => .bin octets
  | .list items => taggedItem Tag.listing [.array (toItems items)]
  | .set items => taggedItem Tag.set [.array (toItems items)]
  | .map entries => taggedItem Tag.mapping [.map (toPairs entries)]
  | .dynamic properties entries elements =>
    objectItem Tag.dynamicClass Tag.baseModule
      (propertyItems properties ++ (entryItems entries ++ elementItems 0 elements))
  | .object className moduleUri properties =>
    objectItem className moduleUri (propertyItems properties)
  | .duration d => taggedItem Tag.duration [.double d.value, .text d.unit.symbol]
  | .dataSize d => taggedItem Tag.dataSize [.double d.value, .text d.unit.symbol]
  | .intSeq s => taggedItem Tag.intSeq [.ofInt64 s.start, .ofInt64 s.stop, .ofInt64 s.step]
  | .regex pattern => taggedItem Tag.regex [.text pattern]
  | .pair first second => taggedItem Tag.pair [first.toItem, second.toItem]
  | .placeholder => taggedItem Tag.declaration []

def toItems : List Value → List Item
  | [] => []
  | v :: vs => v.toItem :: toItems vs

def toPairs : List (Value × Value) → List (Item × Item)
  | [] => []
  | (k, v) :: ps => (k.toItem, v.toItem) :: toPairs ps

def propertyItems : List (String × Value) → List Item
  | [] => []
  | (name, v) :: ps => taggedItem Tag.property [.text name, v.toItem] :: propertyItems ps

def entryItems : List (Value × Value) → List Item
  | [] => []
  | (k, v) :: ps => taggedItem Tag.entry [k.toItem, v.toItem] :: entryItems ps

/-- Elements with their indices, the first of which is `index`. -/
def elementItems (index : Nat) : List Value → List Item
  | [] => []
  | v :: vs =>
    taggedItem Tag.element [.ofUInt64 (UInt64.ofNat index), v.toItem] ::
      elementItems (index + 1) vs

end

/-- The octets of a value. -/
def encode (v : Value) : Bytes :=
  v.toItem.write

end Value

end PklHost
