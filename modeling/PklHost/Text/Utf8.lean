import PklHost.Bytes

/-!
# Octets that may not be UTF-8

`Utf8.pieces` cuts any octets into characters and broken pieces. A broken piece is as long as an
unfinished character can be: it ends before the first octet that cannot continue it, or at the end
of the octets. Where the octets are well formed there is no broken piece.
-/

namespace PklHost.Utf8

/-- A character with the number of its octets, or octets that spell none. A piece is `cut` when the
octets end before its character does. -/
inductive Piece where
  | char (c : Char) (size : Nat)
  | broken (octets : Bytes) (cut : Bool)
  deriving DecidableEq, Repr

/-- A character whose first octets were read: the octets in reverse, the bits so far, how many
octets it still lacks and the bounds of the next one. -/
structure Unfinished where
  octets : Bytes
  bits : Nat
  lacks : Nat
  low : Nat
  high : Nat
  deriving DecidableEq, Repr

/-- What a first octet begins: a character of one octet, a longer one, or nothing. -/
inductive Start where
  | whole (c : Char)
  | longer (u : Unfinished)
  | wrong
  deriving DecidableEq, Repr

/-- Overlong forms, surrogates and numbers past the last code point are ruled out by the bounds of
the second octet. -/
def start (b : UInt8) : Start :=
  let n := b.toNat
  if n < 0x80 then .whole (Char.ofNat n)
  else if n < 0xc2 then .wrong
  else if n < 0xe0 then .longer ⟨[b], n % 0x20, 1, 0x80, 0xbf⟩
  else if n < 0xf0 then
    .longer ⟨[b], n % 0x10, 2, if n = 0xe0 then 0xa0 else 0x80, if n = 0xed then 0x9f else 0xbf⟩
  else if n < 0xf5 then
    .longer ⟨[b], n % 0x08, 3, if n = 0xf0 then 0x90 else 0x80, if n = 0xf4 then 0x8f else 0xbf⟩
  else .wrong

/-- The pieces of the octets after an unfinished character, or from a fresh start. -/
def piecesFrom : Option Unfinished → Bytes → List Piece
  | none, [] => []
  | some u, [] => [.broken u.octets.reverse true]
  | none, b :: rest =>
    match start b with
    | .whole c => .char c 1 :: piecesFrom none rest
    | .longer u => piecesFrom (some u) rest
    | .wrong => .broken [b] false :: piecesFrom none rest
  | some u, b :: rest =>
    if u.low ≤ b.toNat ∧ b.toNat ≤ u.high then
      let bits := u.bits * 0x40 + b.toNat % 0x40
      if u.lacks = 1 then
        .char (Char.ofNat bits) (u.octets.length + 1) :: piecesFrom none rest
      else piecesFrom (some ⟨b :: u.octets, bits, u.lacks - 1, 0x80, 0xbf⟩) rest
    else
      .broken u.octets.reverse false ::
        match start b with
        | .whole c => .char c 1 :: piecesFrom none rest
        | .longer v => piecesFrom (some v) rest
        | .wrong => .broken [b] false :: piecesFrom none rest

/-- The characters and broken pieces of the octets, in order. -/
def pieces (bs : Bytes) : List Piece :=
  piecesFrom none bs

/-- Where the first broken piece starts, and its length unless the octets end inside it. -/
structure Fault where
  position : Nat
  length : Option Nat
  deriving DecidableEq, Repr

/-- The first fault in a list of pieces that starts at `position`. -/
def faultFrom (position : Nat) : List Piece → Option Fault
  | [] => none
  | .char _ size :: rest => faultFrom (position + size) rest
  | .broken octets cut :: _ => some ⟨position, if cut then none else some octets.length⟩

/-- The first fault of octets that are not UTF-8. -/
def fault? (bs : Bytes) : Option Fault :=
  faultFrom 0 (pieces bs)

/-- The text of the octets, with the replacement character for each broken piece. -/
def lossyText (bs : Bytes) : String :=
  String.ofList ((pieces bs).map fun
    | .char c _ => c
    | .broken _ _ => Char.ofNat 0xfffd)

end PklHost.Utf8
