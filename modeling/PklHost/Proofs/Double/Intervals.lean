import Mathlib.Algebra.Order.Field.Power
import Mathlib.Algebra.Order.Ring.Rat
import Mathlib.Order.Monotone.Basic
import Mathlib.Tactic.FieldSimp
import Mathlib.Tactic.Linarith
import Mathlib.Tactic.NormNum
import Mathlib.Tactic.Positivity
import Mathlib.Tactic.Ring
import PklHost.Double.Digits

/-!
# The intervals of the magnitudes

The rationals that read back as a magnitude form an interval around it.  The intervals of the magnitudes
in the order of their words lie side by side: each begins where the one before it ends
(`low_ofWord_succ`), also where the exponent changes.  An end belongs to the interval whose mantissa is
even, and of two neighbours exactly one is; so that no rational reads back as two magnitudes
(`reads_unique`).
-/

namespace PklHost

namespace Magnitude

/-- The lower end of the interval, in rationals. -/
def low (m : Magnitude) : ℚ := m.quarters.1 * (2 : ℚ) ^ (m.exponent - 2)

/-- The magnitude itself. -/
def value (m : Magnitude) : ℚ := m.quarters.2.1 * (2 : ℚ) ^ (m.exponent - 2)

/-- The upper end of the interval. -/
def high (m : Magnitude) : ℚ := m.quarters.2.2 * (2 : ℚ) ^ (m.exponent - 2)

/-- A rational reads back as a magnitude: it lies in its interval, of which the ends count exactly if the
mantissa is even. -/
def Reads (m : Magnitude) (q : ℚ) : Prop :=
  if m.mantissa % 2 = 0 then m.low ≤ q ∧ q ≤ m.high else m.low < q ∧ q < m.high

theorem unit_pos (m : Magnitude) : (0 : ℚ) < 2 ^ (m.exponent - 2) := by positivity

theorem Reads.bounds {m : Magnitude} {q : ℚ} (h : m.Reads q) : m.low ≤ q ∧ q ≤ m.high := by
  unfold Reads at h
  split at h
  · exact h
  · exact ⟨h.1.le, h.2.le⟩

/-- Only an even mantissa has an end of its interval for its own. -/
theorem Reads.even_of_end {m : Magnitude} {q : ℚ} (h : m.Reads q) (hend : q = m.low ∨ q = m.high) :
    m.mantissa % 2 = 0 := by
  by_contra hodd
  rw [Reads, if_neg hodd] at h
  rcases hend with rfl | rfl
  · exact lt_irrefl _ h.1
  · exact lt_irrefl _ h.2

theorem low_lt_high (m : Magnitude) : m.low < m.high := by
  have hquarters : m.quarters.1 < m.quarters.2.2 := by
    show (if m.edge then 4 * m.mantissa - 1 else 4 * m.mantissa - 2) < 4 * m.mantissa + 2
    split <;> omega
  exact mul_lt_mul_of_pos_right (by exact_mod_cast hquarters) m.unit_pos

/-- What reads back as a magnitude that is not zero is not zero. -/
theorem Reads.pos {m : Magnitude} {q : ℚ} (h : m.Reads q) (hm : m.mantissa ≠ 0) : 0 < q := by
  have hquarter : 0 < m.quarters.1 := by
    show 0 < (if m.edge then 4 * m.mantissa - 1 else 4 * m.mantissa - 2)
    split <;> omega
  have hlow : 0 < m.low := mul_pos (by exact_mod_cast hquarter) m.unit_pos
  exact hlow.trans_le h.bounds.1

/-! ## The magnitudes in order -/

/-- The magnitude of a word without a sign bit. -/
def ofWord (word : Nat) : Magnitude :=
  let field : Nat := word / 0x10000000000000
  let fraction : Nat := word % 0x10000000000000
  if field = 0 then ⟨fraction, -1074, false⟩
  else ⟨fraction + 0x10000000000000, (field : Int) - 1075, decide (fraction = 0) && decide (1 < field)⟩

theorem mantissa_ofWord_mod_two (word : Nat) : (ofWord word).mantissa % 2 = word % 2 := by
  unfold ofWord
  dsimp only
  split
  · show word % 0x10000000000000 % 2 = word % 2
    omega
  · show (word % 0x10000000000000 + 0x10000000000000) % 2 = word % 2
    omega

theorem mantissa_ofWord_eq_zero_iff {word : Nat} : (ofWord word).mantissa = 0 ↔ word = 0 := by
  unfold ofWord
  dsimp only
  split
  · show word % 0x10000000000000 = 0 ↔ word = 0
    omega
  · show word % 0x10000000000000 + 0x10000000000000 = 0 ↔ word = 0
    omega

theorem ofWord_of_field_eq_zero {word : Nat} (h : word / 0x10000000000000 = 0) :
    ofWord word = ⟨word % 0x10000000000000, -1074, false⟩ :=
  if_pos h

theorem ofWord_of_field_pos {word : Nat} (h : word / 0x10000000000000 ≠ 0) :
    ofWord word = ⟨word % 0x10000000000000 + 0x10000000000000,
      ((word / 0x10000000000000 : Nat) : Int) - 1075,
      decide (word % 0x10000000000000 = 0) && decide (1 < word / 0x10000000000000)⟩ :=
  if_neg h

/-- An interval whose lower half is as long as the upper one. -/
theorem low_of_not_edge {mantissa : Nat} {exponent : Int} :
    (⟨mantissa + 1, exponent, false⟩ : Magnitude).low =
      (4 * mantissa + 2) * (2 : ℚ) ^ (exponent - 2) := by
  have hquarter : 4 * (mantissa + 1) - 2 = 4 * mantissa + 2 := by omega
  show ((4 * (mantissa + 1) - 2 : Nat) : ℚ) * _ = _
  rw [hquarter]
  push_cast
  rfl

theorem high_eq {mantissa : Nat} {exponent : Int} {edge : Bool} :
    (⟨mantissa, exponent, edge⟩ : Magnitude).high =
      (4 * mantissa + 2) * (2 : ℚ) ^ (exponent - 2) := by
  show ((4 * mantissa + 2 : Nat) : ℚ) * _ = _
  push_cast
  rfl

/-- An interval begins where the one before it ends. -/
theorem low_ofWord_succ (word : Nat) : (ofWord (word + 1)).low = (ofWord word).high := by
  by_cases hcarry : word % 0x10000000000000 = 0xfffffffffffff
  · have hfield : (word + 1) / 0x10000000000000 = word / 0x10000000000000 + 1 := by omega
    have hfraction : (word + 1) % 0x10000000000000 = 0 := by omega
    have hnonzero : (word + 1) / 0x10000000000000 ≠ 0 := by omega
    rw [ofWord_of_field_pos hnonzero, hfield, hfraction]
    rcases Nat.eq_zero_or_pos (word / 0x10000000000000) with hzero | hpos
    · -- The first number with a leading one has the exponent of the small ones.
      rw [ofWord_of_field_eq_zero hzero, hzero, hcarry, high_eq]
      exact low_of_not_edge
    · -- The exponent grows by one, and the lower quarter is half as long.
      have hedge : 1 < word / 0x10000000000000 + 1 := by omega
      rw [ofWord_of_field_pos hpos.ne', hcarry, high_eq, decide_eq_true hedge]
      have hexponent : ((word / 0x10000000000000 + 1 : Nat) : Int) - 1075 - 2 =
          ((word / 0x10000000000000 : Nat) : Int) - 1075 - 2 + 1 := by omega
      show ((4 * (0 + 0x10000000000000) - 1 : Nat) : ℚ) * _ = _
      rw [hexponent, zpow_add_one₀ two_ne_zero]
      push_cast
      ring
  · have hfield : (word + 1) / 0x10000000000000 = word / 0x10000000000000 := by omega
    have hfraction : (word + 1) % 0x10000000000000 = word % 0x10000000000000 + 1 := by omega
    rcases Nat.eq_zero_or_pos (word / 0x10000000000000) with hzero | hpos
    · rw [ofWord_of_field_eq_zero hzero, ofWord_of_field_eq_zero (hfield.trans hzero), hfraction,
        high_eq]
      exact low_of_not_edge
    · rw [ofWord_of_field_pos hpos.ne', ofWord_of_field_pos (hfield.trans_ne hpos.ne'), hfield,
        hfraction, high_eq, decide_eq_false (Nat.succ_ne_zero _), Bool.false_and, Nat.add_right_comm]
      exact low_of_not_edge

theorem high_ofWord_strictMono : StrictMono fun word => (ofWord word).high :=
  strictMono_nat_of_lt_succ fun word => by
    rw [← low_ofWord_succ]
    exact low_lt_high _

/-- A rational reads back as one magnitude only. -/
theorem reads_unique {a b : Nat} {q : ℚ} (ha : (ofWord a).Reads q) (hb : (ofWord b).Reads q) :
    a = b := by
  wlog h : a < b generalizing a b with hwlog
  · rcases Nat.lt_or_eq_of_le (Nat.le_of_not_lt h) with hlt | heq
    · exact (hwlog hb ha hlt).symm
    · exact heq.symm
  exfalso
  obtain ⟨c, rfl⟩ : ∃ c, b = c + 1 := ⟨b - 1, by omega⟩
  have hmono : (ofWord a).high ≤ (ofWord c).high := high_ofWord_strictMono.monotone (by omega)
  have hupper := ha.bounds.2
  have hlower := hb.bounds.1
  rw [low_ofWord_succ] at hlower
  -- The ends meet in `q`, so the words are neighbours, and both would be even.
  have hends : (ofWord a).high = (ofWord c).high := le_antisymm hmono (hlower.trans hupper)
  have hneighbours : a = c := high_ofWord_strictMono.injective hends
  subst hneighbours
  have hq : q = (ofWord a).high := le_antisymm hupper hlower
  have heven := ha.even_of_end (.inr hq)
  have heven' := hb.even_of_end (.inl (by rw [low_ofWord_succ, hq]))
  rw [mantissa_ofWord_mod_two] at heven heven'
  omega

end Magnitude

end PklHost
