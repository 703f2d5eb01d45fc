import PklHost.MessagePack.Notation
import PklHost.MessagePack.Reader
import PklHost.Value.Basic

/-!
# Why a payload is no value

The causes of a refusal, and the wording of each. `DecodeError.malformed` names the encoded kind at
fault and says in what way its array is wrong.
-/

namespace PklHost

open MessagePack (Item ReadError)

/-- What is wrong with the array or primitive of a named kind. -/
inductive Malformation where
  | notUtf8
  | bareMap
  | extension (kind : Int8)
  | emptyArray
  | negativeTag
  | noTag (got : Item)
  | memberOutsideObject (tag : UInt64)
  | tooFewFields
  | expected (noun : String) (got : Item)
  | membersNotArray (got : Item)
  | missingMemberTag
  | negativeIndex
  | indexNotInteger (got : Item)

/-- The quantities that carry a unit. -/
inductive UnitKind where
  | duration
  | dataSize
  deriving DecidableEq, Repr

/-- Why a payload is no value. -/
inductive DecodeError where
  | unreadable (cause : ReadError)
  | trailing (octets : Nat)
  | unknownTag (tag : UInt64)
  | unexpectedMember (tag : UInt64) (className : String)
  | unknownMember (tag : UInt64)
  | malformed (what : String) (fault : Malformation)
  | unknownUnit (kind : UnitKind) (unit : String)
  | outOfRange (n : UInt64)
  | elementOrder (index : UInt64) (expected : Nat)

/-- A tag in hexadecimal. -/
def tagText (tag : UInt64) : String :=
  "0x" ++ Text.hex tag.toNat

def Malformation.message : Malformation → String
  | .notUtf8 => "invalid UTF-8"
  | .bareMap => "bare map outside a Map or Mapping tag"
  | .extension kind => "unsupported extension type " ++ toString kind.toInt
  | .emptyArray => "empty array"
  | .negativeTag => "negative type tag"
  | .noTag got => "array does not start with a type tag: " ++ got.plain
  | .memberOutsideObject tag => "object member " ++ tagText tag ++ " outside an object"
  | .tooFewFields => "too few fields"
  | .expected noun got => "expected " ++ noun ++ ", got " ++ got.plain
  | .membersNotArray got => "members must be an array, got " ++ got.plain
  | .missingMemberTag => "missing member tag"
  | .negativeIndex => "negative index"
  | .indexNotInteger got => "index must be an integer, got " ++ got.plain

def UnitKind.name : UnitKind → String
  | .duration => "duration"
  | .dataSize => "data size"

def DecodeError.message : DecodeError → String
  | .unreadable cause => "invalid msgpack payload: " ++ cause.message
  | .trailing octets => toString octets ++ " trailing bytes after value"
  | .unknownTag tag => "encountered unknown object code: " ++ tagText tag
  | .unexpectedMember tag className =>
    "unexpected object member " ++ tagText tag ++ " in non-Dynamic object " ++ className
  | .unknownMember tag => "unknown object member code: " ++ tagText tag
  | .malformed what fault => "malformed " ++ what ++ ": " ++ fault.message
  | .unknownUnit kind unit => "unknown " ++ kind.name ++ " unit: " ++ Text.quoted unit
  | .outOfRange n => "integer out of range: " ++ toString n.toNat
  | .elementOrder index expected =>
    "element index " ++ toString index.toNat ++ " out of order (next expected " ++
      toString expected ++ ")"

end PklHost
