import PklHost.Bytes
import PklHost.Proofs.Except

/-!
# Arithmetic on machine words

The operations on words of 64 bits with their limits spelled out: a sum, a difference or a product that does
not fit is a fault, and so is a sum that would be clamped.  Where none occurs, the words are the numbers
that they stand for (`Word.gives_add`, `Word.gives_sub`, `Word.gives_mul`, `Word.toNat_ofOctets`).
-/

namespace PklHost

/-- What would become of a number that is too large for its word. -/
inductive WordFault where
  /-- It would be reduced. -/
  | overflow
  /-- The greatest word would stand for it. -/
  | saturation
  deriving DecidableEq, Repr

namespace Word

variable {a b : UInt64}

/-- The sum, if it fits. -/
def add (outgrown : WordFault) (a b : UInt64) : Except WordFault UInt64 :=
  if a.toNat + b.toNat < 0x10000000000000000 then .ok (a + b) else .error outgrown

/-- The difference, if there is one. -/
def sub (a b : UInt64) : Except WordFault UInt64 :=
  if b.toNat ≤ a.toNat then .ok (a - b) else .error .overflow

/-- The product, if it fits. -/
def mul (a b : UInt64) : Except WordFault UInt64 :=
  if a.toNat * b.toNat < 0x10000000000000000 then .ok (a * b) else .error .overflow

/-- An octet behind those of a word. -/
def shiftIn (acc : UInt64) (b : UInt8) : UInt64 := (acc <<< 8) ||| b.toUInt64

/-- Octets shifted into a word one after another. -/
def ofOctets (bs : Bytes) : UInt64 := bs.foldl shiftIn 0

theorem gives_add (outgrown : WordFault) (h : a.toNat + b.toNat < 0x10000000000000000) :
    Gives (add outgrown a b) fun c => c.toNat = a.toNat + b.toNat := by
  rw [add, if_pos h]
  exact gives_ok ((UInt64.toNat_add a b).trans (Nat.mod_eq_of_lt h))

theorem gives_sub (h : b.toNat ≤ a.toNat) :
    Gives (sub a b) fun c => c.toNat = a.toNat - b.toNat := by
  rw [sub, if_pos h]
  exact gives_ok (UInt64.toNat_sub_of_le a b (UInt64.le_iff_toNat_le.2 h))

theorem gives_mul (h : a.toNat * b.toNat < 0x10000000000000000) :
    Gives (mul a b) fun c => c.toNat = a.toNat * b.toNat := by
  rw [mul, if_pos h]
  exact gives_ok ((UInt64.toNat_mul a b).trans (Nat.mod_eq_of_lt h))

/-- Shifting in an octet multiplies by 256 as long as nothing is shifted out. -/
theorem toNat_shiftIn (acc : UInt64) (b : UInt8) (h : (acc.toNat + 1) * 256 ≤ 0x10000000000000000) :
    (shiftIn acc b).toNat = acc.toNat * 256 + b.toNat := by
  have hb : b.toNat < 256 := b.toNat_lt
  have hfits : acc.toNat * 256 < 0x10000000000000000 := by omega
  have hshift : (acc <<< 8).toNat = acc.toNat <<< 8 := by
    rw [UInt64.toNat_shiftLeft]
    show acc.toNat <<< 8 % 0x10000000000000000 = acc.toNat <<< 8
    rw [Nat.shiftLeft_eq]
    exact Nat.mod_eq_of_lt hfits
  rw [shiftIn, UInt64.toNat_or, hshift, UInt8.toNat_toUInt64, ← Nat.shiftLeft_add_eq_or_of_lt hb,
    Nat.shiftLeft_eq]

theorem toNat_foldl_shiftIn (bs : Bytes) (acc : UInt64)
    (h : (acc.toNat + 1) * Nat.pow 256 bs.length ≤ 0x10000000000000000) :
    (bs.foldl shiftIn acc).toNat =
      bs.foldl (fun acc b => acc * 256 + b.toNat) acc.toNat := by
  induction bs generalizing acc with
  | nil => rfl
  | cons b bs ih =>
      have hb : b.toNat < 256 := b.toNat_lt
      have hpow : 1 ≤ Nat.pow 256 bs.length := Nat.pow_pos (by decide)
      have hall : (acc.toNat + 1) * 256 * Nat.pow 256 bs.length ≤ 0x10000000000000000 := by
        rw [List.length_cons] at h
        calc (acc.toNat + 1) * 256 * Nat.pow 256 bs.length
            = (acc.toNat + 1) * (Nat.pow 256 bs.length * 256) := by
              rw [Nat.mul_assoc, Nat.mul_comm 256]
          _ ≤ 0x10000000000000000 := h
      have hone : (acc.toNat + 1) * 256 ≤ 0x10000000000000000 := by
        calc (acc.toNat + 1) * 256 = (acc.toNat + 1) * 256 * 1 := (Nat.mul_one _).symm
          _ ≤ (acc.toNat + 1) * 256 * Nat.pow 256 bs.length := Nat.mul_le_mul_left _ hpow
          _ ≤ 0x10000000000000000 := hall
      have hshift := toNat_shiftIn acc b hone
      rw [List.foldl_cons, List.foldl_cons, ← hshift]
      refine ih _ (Nat.le_trans (Nat.mul_le_mul_right _ ?_) hall)
      rw [hshift]
      omega

/-- Eight octets are shifted into a word without loss. -/
theorem toNat_ofOctets {bs : Bytes} (h : bs.length ≤ 8) : (ofOctets bs).toNat = Bytes.toNat bs := by
  refine toNat_foldl_shiftIn bs 0 ?_
  show (0 + 1) * Nat.pow 256 bs.length ≤ Nat.pow 256 8
  rw [Nat.zero_add, Nat.one_mul]
  exact Nat.pow_le_pow_right (by decide) h

end Word

end PklHost
