/-!
# Byte strings

A byte string is a list of octets. This module holds the three things every format above it needs:
numbers in big-endian order, the split of a fixed number of octets from the front, and the passage
between text and its UTF-8 octets. Reading text is partial: octets that are not UTF-8 are no text.
-/

namespace PklHost

/-- A finite string of octets. -/
abbrev Bytes := List UInt8

namespace Bytes

/-! ## Big-endian numbers -/

/-- The number whose base-256 digits, most significant first, are the octets. -/
def toNat (bs : Bytes) : Nat :=
  bs.foldl (fun acc b => acc * 256 + b.toNat) 0

/-- The last `width` base-256 digits of a number, most significant first. -/
def ofNat : (width : Nat) → Nat → Bytes
  | 0, _ => []
  | width + 1, n => UInt8.ofNat (n / Nat.pow 256 width) :: ofNat width n

/-- The two's complement reading of a big-endian number of `width` octets. -/
def signed (width n : Nat) : Int :=
  let range := Nat.pow 256 width
  if n < range / 2 then n else (n : Int) - (range : Int)

@[simp] theorem length_ofNat (width n : Nat) : (ofNat width n).length = width := by
  induction width with
  | zero => rfl
  | succ width ih => simp [ofNat, ih]

theorem foldl_toNat (acc : Nat) (bs : Bytes) :
    bs.foldl (fun acc b => acc * 256 + b.toNat) acc = acc * Nat.pow 256 bs.length + toNat bs := by
  induction bs generalizing acc with
  | nil => simp [toNat]
  | cons b bs ih =>
      have hb : toNat (b :: bs) = b.toNat * Nat.pow 256 bs.length + toNat bs := by
        show bs.foldl (fun acc b => acc * 256 + b.toNat) (0 * 256 + b.toNat) = _
        rw [ih, Nat.zero_mul, Nat.zero_add]
      rw [List.foldl_cons, ih, hb, List.length_cons]
      show _ = acc * (Nat.pow 256 bs.length * 256) + _
      rw [Nat.add_mul, Nat.add_assoc, Nat.mul_assoc, Nat.mul_comm 256]

theorem toNat_cons (b : UInt8) (bs : Bytes) :
    toNat (b :: bs) = b.toNat * Nat.pow 256 bs.length + toNat bs := by
  show bs.foldl (fun acc b => acc * 256 + b.toNat) (0 * 256 + b.toNat) = _
  rw [foldl_toNat, Nat.zero_mul, Nat.zero_add]

/-- Writing a number keeps the digits that fit. -/
theorem toNat_ofNat_mod (width n : Nat) : toNat (ofNat width n) = n % Nat.pow 256 width := by
  induction width generalizing n with
  | zero =>
      show 0 = n % 1
      rw [Nat.mod_one]
  | succ width ih =>
      rw [ofNat, toNat_cons, ih, length_ofNat, UInt8.toNat_ofNat']
      show n / Nat.pow 256 width % 2 ^ 8 * Nat.pow 256 width + n % Nat.pow 256 width =
        n % (Nat.pow 256 width * 256)
      rw [Nat.mod_mul, Nat.mul_comm, Nat.add_comm]

theorem toNat_ofNat {width n : Nat} (h : n < Nat.pow 256 width) : toNat (ofNat width n) = n := by
  rw [toNat_ofNat_mod, Nat.mod_eq_of_lt h]

theorem toNat_lt (bs : Bytes) : toNat bs < Nat.pow 256 bs.length := by
  induction bs with
  | nil => exact Nat.one_pos
  | cons b bs ih =>
      rw [toNat_cons, List.length_cons]
      show b.toNat * Nat.pow 256 bs.length + toNat bs < Nat.pow 256 bs.length * 256
      have hb : b.toNat < 256 := b.toNat_lt
      have hle : b.toNat * Nat.pow 256 bs.length ≤ 255 * Nat.pow 256 bs.length :=
        Nat.mul_le_mul_right _ (by omega)
      omega

/-- Digits are told by their number. -/
theorem eq_of_toNat_eq {bs cs : Bytes} (hlength : bs.length = cs.length) (h : toNat bs = toNat cs) :
    bs = cs := by
  induction bs generalizing cs with
  | nil => exact (List.eq_nil_of_length_eq_zero hlength.symm).symm
  | cons b bs ih =>
      cases cs with
      | nil => simp at hlength
      | cons c cs =>
          have hlength : bs.length = cs.length := by simpa using hlength
          rw [toNat_cons, toNat_cons, ← hlength] at h
          have hbs := toNat_lt bs
          have hcs := toNat_lt cs
          rw [← hlength] at hcs
          -- the first digit is a quotient, and the number of the others its remainder
          have hdigit : ∀ d m, m < Nat.pow 256 bs.length →
              (d * Nat.pow 256 bs.length + m) / Nat.pow 256 bs.length = d ∧
                (d * Nat.pow 256 bs.length + m) % Nat.pow 256 bs.length = m := fun d m hm =>
            (Nat.div_mod_unique (Nat.zero_lt_of_lt hm)).2 ⟨by rw [Nat.add_comm, Nat.mul_comm], hm⟩
          have hfirst := hdigit b.toNat (toNat bs) hbs
          rw [h] at hfirst
          have hfirst' := hdigit c.toNat (toNat cs) hcs
          rw [UInt8.toNat_inj.1 (hfirst.1.symm.trans hfirst'.1),
            ih hlength (hfirst.2.symm.trans hfirst'.2)]

/-- Reading digits as a number and writing it gives the digits back. -/
theorem ofNat_toNat (bs : Bytes) : ofNat bs.length (toNat bs) = bs :=
  eq_of_toNat_eq (length_ofNat _ _) (toNat_ofNat (toNat_lt bs))

/-! ## Splitting -/

/-- There are at least `n` octets. Only those are looked at. -/
def reaches : (n : Nat) → Bytes → Bool
  | 0, _ => true
  | _ + 1, [] => false
  | n + 1, _ :: bs => reaches n bs

@[simp] theorem reaches_iff {n : Nat} {bs : Bytes} : reaches n bs = true ↔ n ≤ bs.length := by
  induction bs generalizing n with
  | nil => cases n <;> simp [reaches]
  | cons b bs ih => cases n <;> simp [reaches, ih]

/-- The first `n` octets and the rest, when there are that many. -/
def split? (n : Nat) (bs : Bytes) : Option (Bytes × Bytes) :=
  if reaches n bs then some (bs.take n, bs.drop n) else none

theorem split?_append (xs rest : Bytes) : split? xs.length (xs ++ rest) = some (xs, rest) := by
  simp [split?]

theorem append_of_split? {n : Nat} {bs xs rest : Bytes} (h : split? n bs = some (xs, rest)) :
    bs = xs ++ rest ∧ xs.length = n := by
  unfold split? at h
  split at h
  · next hn =>
    simp only [Option.some.injEq, Prod.mk.injEq] at h
    obtain ⟨rfl, rfl⟩ := h
    simp [reaches_iff.1 hn]
  · simp at h

theorem split?_eq_none_iff {n : Nat} {bs : Bytes} : split? n bs = none ↔ bs.length < n := by
  unfold split?
  split
  · next h =>
      have := reaches_iff.1 h
      simp
      omega
  · next h =>
      have : ¬ n ≤ bs.length := fun hn => h (reaches_iff.2 hn)
      simp
      omega

theorem split?_append_of_some {n : Nat} {bs xs rest : Bytes} (more : Bytes)
    (h : split? n bs = some (xs, rest)) : split? n (bs ++ more) = some (xs, rest ++ more) := by
  obtain ⟨rfl, rfl⟩ := append_of_split? h
  rw [List.append_assoc]
  exact split?_append xs (rest ++ more)

/-! ## Text -/

/-- The UTF-8 octets of a text. -/
def ofText (s : String) : Bytes :=
  s.toByteArray.data.toList

/-- The text whose UTF-8 octets these are, if there is one. -/
def text? (bs : Bytes) : Option String :=
  String.fromUTF8? ⟨bs.toArray⟩

theorem text?_ofText (s : String) : text? (ofText s) = some s := by
  simp [text?, ofText, String.fromUTF8?, s.isValidUTF8, String.fromUTF8]

theorem ofText_of_text? {bs : Bytes} {s : String} (h : text? bs = some s) : ofText s = bs := by
  unfold text? String.fromUTF8? at h
  split at h
  · simp only [Option.some.injEq] at h
    subst h
    simp [ofText, String.fromUTF8]
  · simp at h

end Bytes

end PklHost
