import PklHost.MessagePack.Item

/-!
# Writing items

Every item is written in its shortest form: integers and sizes take the narrowest marker that holds
them, and an extension of 1, 2, 4, 8 or 16 octets has its size in the marker. A string that is not
UTF-8 cannot be written as one and becomes a binary of the same octets. Sizes are written modulo
2 ^ 32; a collection of that many elements is beyond the format.
-/

namespace PklHost.MessagePack

/-- An integer behind the narrowest marker. -/
def writeInt (n : Int) : Bytes :=
  if 0 ≤ n then
    let k := n.toNat
    if k < 0x80 then [UInt8.ofNat k]
    else if k < 0x100 then 0xcc :: Bytes.ofNat 1 k
    else if k < 0x10000 then 0xcd :: Bytes.ofNat 2 k
    else if k < 0x100000000 then 0xce :: Bytes.ofNat 4 k
    else 0xcf :: Bytes.ofNat 8 k
  else if -32 ≤ n then [UInt8.ofNat (n + 256).toNat]
  else if -0x80 ≤ n then 0xd0 :: Bytes.ofNat 1 (n + 0x100).toNat
  else if -0x8000 ≤ n then 0xd1 :: Bytes.ofNat 2 (n + 0x10000).toNat
  else if -0x80000000 ≤ n then 0xd2 :: Bytes.ofNat 4 (n + 0x100000000).toNat
  else 0xd3 :: Bytes.ofNat 8 (n + 0x10000000000000000).toNat

/-- The head of a string of `size` octets. -/
def textHead (size : Nat) : Bytes :=
  if size < 32 then [UInt8.ofNat (0xa0 + size)]
  else if size < 0x100 then 0xd9 :: Bytes.ofNat 1 size
  else if size < 0x10000 then 0xda :: Bytes.ofNat 2 size
  else 0xdb :: Bytes.ofNat 4 size

/-- The head of a binary of `size` octets. -/
def binHead (size : Nat) : Bytes :=
  if size < 0x100 then 0xc4 :: Bytes.ofNat 1 size
  else if size < 0x10000 then 0xc5 :: Bytes.ofNat 2 size
  else 0xc6 :: Bytes.ofNat 4 size

/-- The head of an array of `size` items. -/
def arrayHead (size : Nat) : Bytes :=
  if size < 16 then [UInt8.ofNat (0x90 + size)]
  else if size < 0x10000 then 0xdc :: Bytes.ofNat 2 size
  else 0xdd :: Bytes.ofNat 4 size

/-- The head of a map of `size` pairs. -/
def mapHead (size : Nat) : Bytes :=
  if size < 16 then [UInt8.ofNat (0x80 + size)]
  else if size < 0x10000 then 0xde :: Bytes.ofNat 2 size
  else 0xdf :: Bytes.ofNat 4 size

/-- The head of an extension of `size` octets, its kind included. -/
def extHead (kind : Int8) (size : Nat) : Bytes :=
  let head : Bytes :=
    if size = 1 then [0xd4]
    else if size = 2 then [0xd5]
    else if size = 4 then [0xd6]
    else if size = 8 then [0xd7]
    else if size = 16 then [0xd8]
    else if size < 0x100 then 0xc7 :: Bytes.ofNat 1 size
    else if size < 0x10000 then 0xc8 :: Bytes.ofNat 2 size
    else 0xc9 :: Bytes.ofNat 4 size
  head ++ [kind.toUInt8]

/-- A binary. -/
def writeBin (octets : Bytes) : Bytes :=
  binHead octets.length ++ octets

/-- A string. -/
def writeText (s : String) : Bytes :=
  let octets := Bytes.ofText s
  textHead octets.length ++ octets

mutual

/-- The octets of an item. -/
def Item.write : Item → Bytes
  | .nil => [0xc0]
  | .bool false => [0xc2]
  | .bool true => [0xc3]
  | .int n => writeInt n.val
  | .single x => 0xca :: Bytes.ofNat 4 x.bits.toNat
  | .double x => 0xcb :: Bytes.ofNat 8 x.bits.toNat
  | .text s => writeText s
  | .brokenText t => writeBin t.octets
  | .bin octets => writeBin octets
  | .array items => arrayHead items.length ++ writeItems items
  | .map pairs => mapHead pairs.length ++ writePairs pairs
  | .ext kind octets => extHead kind octets.length ++ octets

/-- Items one after another. -/
def writeItems : List Item → Bytes
  | [] => []
  | x :: xs => x.write ++ writeItems xs

/-- Pairs one after another. -/
def writePairs : List (Item × Item) → Bytes
  | [] => []
  | (k, v) :: ps => k.write ++ v.write ++ writePairs ps

end

end PklHost.MessagePack
