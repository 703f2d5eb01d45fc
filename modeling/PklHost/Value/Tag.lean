/-!
# Tags of encoded values

Every value but a primitive is encoded as an array that starts with a tag. The members of an object
carry tags of their own, from a separate range.
-/

namespace PklHost.Tag

/-- What a tag announces. -/
inductive Kind where
  | object
  | map
  | list
  | set
  | duration
  | dataSize
  | pair
  | intSeq
  | regex
  /-- A class or a type alias. -/
  | declaration
  /-- A member of an object. -/
  | member
  | unknown
  deriving DecidableEq, Repr

/-- What a member tag announces. -/
inductive MemberKind where
  | property
  | entry
  | element
  | unknown
  deriving DecidableEq, Repr

/-! ## The tags that are written -/

def object : UInt64 := 0x01
def map : UInt64 := 0x02
def mapping : UInt64 := 0x03
def list : UInt64 := 0x04
def listing : UInt64 := 0x05
def set : UInt64 := 0x06
def duration : UInt64 := 0x07
def dataSize : UInt64 := 0x08
def pair : UInt64 := 0x09
def intSeq : UInt64 := 0x0a
def regex : UInt64 := 0x0b
def declaration : UInt64 := 0x0c
def property : UInt64 := 0x10
def entry : UInt64 := 0x11
def element : UInt64 := 0x12

/-- The kind of a tag. Two tags each stand for a map, for a list and for a declaration. -/
def kind (tag : UInt64) : Kind :=
  match tag.toNat with
  | 0x01 => .object
  | 0x02 | 0x03 => .map
  | 0x04 | 0x05 => .list
  | 0x06 => .set
  | 0x07 => .duration
  | 0x08 => .dataSize
  | 0x09 => .pair
  | 0x0a => .intSeq
  | 0x0b => .regex
  | 0x0c | 0x0d => .declaration
  | 0x10 | 0x11 | 0x12 => .member
  | _ => .unknown

/-- The kind of a member tag. -/
def memberKind (tag : UInt64) : MemberKind :=
  match tag.toNat with
  | 0x10 => .property
  | 0x11 => .entry
  | 0x12 => .element
  | _ => .unknown

/-- A tag of an object member. -/
def isMember (tag : UInt64) : Bool :=
  decide (kind tag = .member)

/-- The name of a tag in diagnostics. -/
def name (tag : UInt64) : String :=
  match tag.toNat with
  | 0x01 => "Object"
  | 0x02 => "Map"
  | 0x03 => "Mapping"
  | 0x04 => "List"
  | 0x05 => "Listing"
  | 0x06 => "Set"
  | 0x07 => "Duration"
  | 0x08 => "DataSize"
  | 0x09 => "Pair"
  | 0x0a => "IntSeq"
  | 0x0b => "Regex"
  | 0x0c => "Class"
  | 0x0d => "TypeAlias"
  | 0x10 => "ObjectMemberProperty"
  | 0x11 => "ObjectMemberEntry"
  | 0x12 => "ObjectMemberElement"
  | _ => "unknown"

/-- The class of open objects, and the module that declares it. -/
def dynamicClass : String := "Dynamic"

def baseModule : String := "pkl:base"

end PklHost.Tag
