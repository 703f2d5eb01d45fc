import PklHost.Bytes

/-!
# Markers

The first octet of every MessagePack value says what the value is and, if its size varies, either
the size itself or how many octets after the marker hold the size. All 256 octets are markers; one
of them is reserved.
-/

namespace PklHost.MessagePack

/-- Where a size is found. -/
inductive SizeField where
  /-- In the marker. -/
  | inMarker (size : Nat)
  /-- In the next `width` octets, big-endian. -/
  | octets (width : Nat)
  deriving DecidableEq, Repr

/-- What a marker announces. -/
inductive Marker where
  | nil
  | reserved
  | bool (b : Bool)
  /-- A small integer, complete in its marker. -/
  | small (n : Int8)
  | unsigned (width : Nat)
  | signed (width : Nat)
  | single
  | double
  | text (size : SizeField)
  | bin (size : SizeField)
  | array (size : SizeField)
  | map (size : SizeField)
  | ext (size : SizeField)
  deriving DecidableEq, Repr

/-- The marker of an octet. -/
def Marker.ofOctet (b : UInt8) : Marker :=
  let n := b.toNat
  if n < 0x80 then .small (Int8.ofNat n)
  else if n < 0x90 then .map (.inMarker (n - 0x80))
  else if n < 0xa0 then .array (.inMarker (n - 0x90))
  else if n < 0xc0 then .text (.inMarker (n - 0xa0))
  else if 0xe0 ≤ n then .small (Int8.ofInt (n - 256))
  else match n with
    | 0xc0 => .nil
    | 0xc1 => .reserved
    | 0xc2 => .bool false
    | 0xc3 => .bool true
    | 0xc4 => .bin (.octets 1)
    | 0xc5 => .bin (.octets 2)
    | 0xc6 => .bin (.octets 4)
    | 0xc7 => .ext (.octets 1)
    | 0xc8 => .ext (.octets 2)
    | 0xc9 => .ext (.octets 4)
    | 0xca => .single
    | 0xcb => .double
    | 0xcc => .unsigned 1
    | 0xcd => .unsigned 2
    | 0xce => .unsigned 4
    | 0xcf => .unsigned 8
    | 0xd0 => .signed 1
    | 0xd1 => .signed 2
    | 0xd2 => .signed 4
    | 0xd3 => .signed 8
    | 0xd4 => .ext (.inMarker 1)
    | 0xd5 => .ext (.inMarker 2)
    | 0xd6 => .ext (.inMarker 4)
    | 0xd7 => .ext (.inMarker 8)
    | 0xd8 => .ext (.inMarker 16)
    | 0xd9 => .text (.octets 1)
    | 0xda => .text (.octets 2)
    | 0xdb => .text (.octets 4)
    | 0xdc => .array (.octets 2)
    | 0xdd => .array (.octets 4)
    | 0xde => .map (.octets 2)
    | _ => .map (.octets 4)

end PklHost.MessagePack
