import PklHost.MessagePack.Item
import PklHost.MessagePack.Marker

/-!
# The format as a relation

`x.SpelledBy octets` says that the octets are one MessagePack value whose item is `x`.  It is read off
the format's table of markers and goes through no reader, writer or walk, so that each of them can be
held against it.  An item has many spellings, since integers and sizes may be wider than they need to
be.  The reserved marker spells nothing.

`x.depth` is the depth budget that the item takes of a reader.  It depends on the item alone, not on
its spelling.
-/

namespace PklHost.MessagePack

/-! ## Sizes -/

/-- How one kind of item says its size: markers that hold it, and markers behind which it stands in so
many octets. -/
structure HeadForm where
  fixed : List (UInt8 × Nat)
  sized : List (UInt8 × Nat)

namespace HeadForm

/-- The markers from a first one on, for the sizes from zero on. -/
def counting (first count : Nat) : List (UInt8 × Nat) :=
  (List.range count).map fun n => (UInt8.ofNat (first + n), n)

def text : HeadForm := ⟨counting 0xa0 32, [(0xd9, 1), (0xda, 2), (0xdb, 4)]⟩

def bin : HeadForm := ⟨[], [(0xc4, 1), (0xc5, 2), (0xc6, 4)]⟩

def array : HeadForm := ⟨counting 0x90 16, [(0xdc, 2), (0xdd, 4)]⟩

def map : HeadForm := ⟨counting 0x80 16, [(0xde, 2), (0xdf, 4)]⟩

def ext : HeadForm :=
  ⟨[(0xd4, 1), (0xd5, 2), (0xd6, 4), (0xd7, 8), (0xd8, 16)], [(0xc7, 1), (0xc8, 2), (0xc9, 4)]⟩

/-- The octets say a size in this form. -/
inductive Says (form : HeadForm) : Nat → Bytes → Prop
  | inMarker {marker : UInt8} {n : Nat} (h : (marker, n) ∈ form.fixed) : Says form n [marker]
  | inOctets {marker : UInt8} {width n : Nat} (h : (marker, width) ∈ form.sized)
      (hn : n < Nat.pow 256 width) : Says form n (marker :: Bytes.ofNat width n)

end HeadForm

/-! ## Integers -/

/-- The markers of integers without a sign, with their widths. -/
def unsignedMarkers : List (UInt8 × Nat) := [(0xcc, 1), (0xcd, 2), (0xce, 4), (0xcf, 8)]

/-- The markers of integers in two's complement, with their widths. -/
def signedMarkers : List (UInt8 × Nat) := [(0xd0, 1), (0xd1, 2), (0xd2, 4), (0xd3, 8)]

/-- The octets are an integer. -/
inductive SpellsInt : Int → Bytes → Prop
  | positive {n : Nat} (hn : n < 0x80) : SpellsInt n [UInt8.ofNat n]
  | negative {n : Nat} (hn : n < 0x20) : SpellsInt ((n : Int) - 0x20) [UInt8.ofNat (0xe0 + n)]
  | unsigned {marker : UInt8} {width n : Nat} (h : (marker, width) ∈ unsignedMarkers)
      (hn : n < Nat.pow 256 width) : SpellsInt n (marker :: Bytes.ofNat width n)
  | signed {marker : UInt8} {width n : Nat} (h : (marker, width) ∈ signedMarkers)
      (hn : n < Nat.pow 256 width) :
      SpellsInt (Bytes.signed width n) (marker :: Bytes.ofNat width n)

/-! ## Items -/

mutual

/-- The octets are one value, and this is its item. -/
def Item.SpelledBy : Item → Bytes → Prop
  | .nil, octets => octets = [0xc0]
  | .bool b, octets => octets = [if b then 0xc3 else 0xc2]
  | .int n, octets => SpellsInt n.val octets
  | .single x, octets => octets = 0xca :: Bytes.ofNat 4 x.bits.toNat
  | .double x, octets => octets = 0xcb :: Bytes.ofNat 8 x.bits.toNat
  | .text s, octets =>
    ∃ head, HeadForm.text.Says (Bytes.ofText s).length head ∧ octets = head ++ Bytes.ofText s
  | .brokenText t, octets =>
    ∃ head, HeadForm.text.Says t.octets.length head ∧ octets = head ++ t.octets
  | .bin body, octets => ∃ head, HeadForm.bin.Says body.length head ∧ octets = head ++ body
  | .array items, octets =>
    ∃ head body, HeadForm.array.Says items.length head ∧ SpelledItems items body ∧
      octets = head ++ body
  | .map pairs, octets =>
    ∃ head body, HeadForm.map.Says pairs.length head ∧ SpelledPairs pairs body ∧
      octets = head ++ body
  | .ext kind body, octets =>
    ∃ head, HeadForm.ext.Says body.length head ∧ octets = head ++ kind.toUInt8 :: body

/-- The octets are these items, one after another. -/
def SpelledItems : List Item → Bytes → Prop
  | [], octets => octets = []
  | x :: xs, octets =>
    ∃ first more, x.SpelledBy first ∧ SpelledItems xs more ∧ octets = first ++ more

/-- The octets are these pairs, each key before its value. -/
def SpelledPairs : List (Item × Item) → Bytes → Prop
  | [], octets => octets = []
  | (k, v) :: ps, octets =>
    ∃ key value more, k.SpelledBy key ∧ v.SpelledBy value ∧ SpelledPairs ps more ∧
      octets = key ++ (value ++ more)

end

/-! ## Depth -/

mutual

/-- The depth budget that an item takes: one unit for its marker, one more for the contents of a
binary, two more for those of a string or an extension, and one more for those of an array or a map on
top of what the deepest of them takes. -/
def Item.depth : Item → Nat
  | .nil | .bool _ | .int _ | .single _ | .double _ => 1
  | .bin _ => 2
  | .text _ | .brokenText _ | .ext .. => 3
  | .array items => 2 + depthItems items
  | .map pairs => 2 + depthPairs pairs

/-- The depth of the deepest item. -/
def depthItems : List Item → Nat
  | [] => 0
  | x :: xs => max x.depth (depthItems xs)

/-- The depth of the deepest key or value. -/
def depthPairs : List (Item × Item) → Nat
  | [] => 0
  | (k, v) :: ps => max (max k.depth v.depth) (depthPairs ps)

end

/-! ## Heads and markers -/

/-- The markers of a form are those of one kind of item. -/
def HeadForm.Announces (form : HeadForm) (kind : SizeField → Marker) : Prop :=
  (∀ p ∈ form.fixed, Marker.ofOctet p.1 = kind (.inMarker p.2)) ∧
    ∀ p ∈ form.sized, Marker.ofOctet p.1 = kind (.octets p.2)

theorem HeadForm.text_announces : HeadForm.text.Announces .text := by
  unfold Announces
  decide

theorem HeadForm.bin_announces : HeadForm.bin.Announces .bin := by
  unfold Announces
  decide

theorem HeadForm.array_announces : HeadForm.array.Announces .array := by
  unfold Announces
  decide

theorem HeadForm.map_announces : HeadForm.map.Announces .map := by
  unfold Announces
  decide

theorem HeadForm.ext_announces : HeadForm.ext.Announces .ext := by
  unfold Announces
  decide

end PklHost.MessagePack
