import PklHost.MessagePack.Item
import PklHost.MessagePack.Marker

/-!
# Reading items

`Item.read` takes one item off the front of the octets. Any width of an integer or size is
accepted, and the reserved marker reads as nil. Nesting is bounded by a depth budget: an item takes
one unit before its marker is read, and its contents take more once their size is known: one for
an array, a map or a binary, two for a string or an extension.
-/

namespace PklHost.MessagePack

/-- Why octets are not one item. -/
inductive ReadError where
  /-- The octets end where a marker is due. -/
  | noMarker
  /-- The octets end inside a number, a size or the kind of an extension. -/
  | noData
  /-- The octets end inside a string, a binary or an extension. -/
  | shortBody (wanted got : Nat)
  /-- The depth budget is spent. -/
  | tooDeep
  deriving DecidableEq, Repr

/-- The depth budget of a whole message. -/
def depthLimit : Nat := 1024

namespace ReadError

def message : ReadError → String
  | .noMarker => "I/O error while reading marker byte: failed to fill whole buffer"
  | .noData => "I/O error while reading non-marker bytes: failed to fill whole buffer"
  | .shortBody wanted got =>
    s!"I/O error while reading non-marker bytes: Expected {wanted} bytes, read {got} bytes"
  | .tooDeep => "depth limit exceeded"

end ReadError

/-- What a reading gives: a result and the octets after it, or an error. -/
abbrev Reading (α : Type) := Except ReadError (α × Bytes)

/-- A big-endian number of `width` octets. -/
def readNat (width : Nat) (bs : Bytes) : Reading Nat :=
  match bs.split? width with
  | some (digits, rest) => .ok (digits.toNat, rest)
  | none => .error .noData

/-- A size, from the marker or the octets after it. -/
def SizeField.read : SizeField → Bytes → Reading Nat
  | .inMarker size, bs => .ok (size, bs)
  | .octets width, bs => readNat width bs

/-- The next `size` octets, as the contents of an item. -/
def readBody (size : Nat) (bs : Bytes) : Reading Bytes :=
  match bs.split? size with
  | some (body, rest) => .ok (body, rest)
  | none => .error (.shortBody size bs.length)

/-- Spends `n` units of a depth budget. -/
def spend (n budget : Nat) : Except ReadError Unit :=
  if n ≤ budget then .ok () else .error .tooDeep

/-- `count` results of one reader, one after another. -/
def readMany {α : Type} (read : Bytes → Reading α) : Nat → Bytes → Reading (List α)
  | 0, bs => .ok ([], bs)
  | count + 1, bs =>
    match read bs with
    | .error e => .error e
    | .ok (x, bs) =>
      match readMany read count bs with
      | .error e => .error e
      | .ok (xs, bs) => .ok (x :: xs, bs)

/-- Two results of one reader. -/
def readPair {α : Type} (read : Bytes → Reading α) (bs : Bytes) : Reading (α × α) :=
  match read bs with
  | .error e => .error e
  | .ok (k, bs) =>
    match read bs with
    | .error e => .error e
    | .ok (v, bs) => .ok ((k, v), bs)

/-- The kind and contents of an extension of `size` octets. -/
def readExt (budget size : Nat) (bs : Bytes) : Except ReadError (Item × Bytes) := do
  spend 1 budget
  let (kind, bs) ← readNat 1 bs
  spend 2 budget
  let (body, bs) ← readBody size bs
  return (.ext (Int8.ofInt (Bytes.signed 1 kind)) body, bs)

/-- One item of a given kind, its marker already taken. `inner` reads an item nested in it, if the
budget allows one. -/
def readAfter (budget : Nat) (inner : Option (Bytes → Reading Item)) :
    Marker → Bytes → Except ReadError (Item × Bytes)
  | .nil, bs => .ok (.nil, bs)
  | .reserved, bs => .ok (.nil, bs)
  | .bool b, bs => .ok (.bool b, bs)
  | .small n, bs => .ok (.ofInt64 n.toInt64, bs)
  | .unsigned width, bs => do
    let (n, bs) ← readNat width bs
    return (.ofUInt64 (UInt64.ofNat n), bs)
  | .signed width, bs => do
    let (n, bs) ← readNat width bs
    return (.ofInt64 (Int64.ofInt (Bytes.signed width n)), bs)
  | .single, bs => do
    let (n, bs) ← readNat 4 bs
    return (.single ⟨UInt32.ofNat n⟩, bs)
  | .double, bs => do
    let (n, bs) ← readNat 8 bs
    return (.double ⟨UInt64.ofNat n⟩, bs)
  | .text size, bs => do
    let (size, bs) ← size.read bs
    spend 2 budget
    let (body, bs) ← readBody size bs
    return (.ofStringOctets body, bs)
  | .bin size, bs => do
    let (size, bs) ← size.read bs
    spend 1 budget
    let (body, bs) ← readBody size bs
    return (.bin body, bs)
  | .ext size, bs => do
    let (size, bs) ← size.read bs
    readExt budget size bs
  | .array size, bs => do
    let (count, bs) ← size.read bs
    match inner with
    | none => .error .tooDeep
    | some read => do
      let (items, bs) ← readMany read count bs
      return (.array items, bs)
  | .map size, bs => do
    let (count, bs) ← size.read bs
    match inner with
    | none => .error .tooDeep
    | some read => do
      let (pairs, bs) ← readMany (readPair read) count bs
      return (.map pairs, bs)

/-- One item off the front of the octets, within a depth budget. -/
def Item.read : (budget : Nat) → Bytes → Reading Item
  | 0, _ => .error .tooDeep
  | _ + 1, [] => .error .noMarker
  | 1, b :: bs => readAfter 0 none (Marker.ofOctet b) bs
  | budget + 2, b :: bs =>
    readAfter (budget + 1) (some (Item.read budget)) (Marker.ofOctet b) bs

end PklHost.MessagePack
