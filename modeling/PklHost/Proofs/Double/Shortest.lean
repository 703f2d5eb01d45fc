import PklHost.Proofs.Double.Intervals

/-!
# Shortest digits read back

The search for the shortest decimal of a number ends with a decimal that reads back as that number
(`reads_shortest`).  Whatever it takes from a grid lies in the interval (`reads_of_onGrid`); and on the
grid of seventeen digits the point nearest to the number does, since that grid is finer than half of
the interval on either side.  What the grid is comes from the width of the number, of which only an upper
bound is estimated, and that estimate never exceeds the width by more than one (`pow_decimalWidth_le`).
-/

namespace PklHost

/-- The rational that a decimal is. -/
def Decimal.value (d : Decimal) : ℚ := d.digits * (10 : ℚ) ^ d.exponent

/-! ## Rounding to an integer -/

/-- A rounded quotient is at most half away. -/
theorem roundDiv_bounds (tie : Tie) (num : Nat) {den : Nat} (hden : 0 < den) :
    2 * num ≤ 2 * (roundDiv tie num den * den) + den ∧
      2 * (roundDiv tie num den * den) ≤ 2 * num + den := by
  have hdivision : num / den * den + num % den = num := by
    rw [Nat.mul_comm]
    exact Nat.div_add_mod num den
  have hrest : num % den < den := Nat.mod_lt num hden
  unfold roundDiv
  dsimp only
  split
  · rw [Nat.add_mul, Nat.one_mul]
    omega
  · omega

/-! ## Powers of ten by logarithms -/

/-- The digits of a power of two, estimated from above by the decimal logarithm of two. -/
theorem ten_pow_floor_le : ∀ n < 1200, Nat.pow 10 (n * 30103 / 100000) ≤ 10 * Nat.pow 2 n := by
  decide +kernel

theorem two_pow_le_ten_pow : ∀ n < 1200, Nat.pow 2 n ≤ 10 * Nat.pow 10 ((n * 30103 + 99999) / 100000) := by
  decide +kernel

/-- The estimate exceeds the logarithm by one at most. -/
theorem ten_zpow_estimate_le {t : Int} (hlower : -1200 < t) (hupper : t < 1200) :
    (10 : ℚ) ^ (Int.fdiv (t * 30103) 100000 - 1) ≤ 2 ^ t := by
  rcases lt_or_ge t 0 with hneg | hnonneg
  · obtain ⟨n, rfl⟩ : ∃ n : Nat, t = -(n : Int) := ⟨t.natAbs, by omega⟩
    have hdiv : Int.fdiv (-(n : Int) * 30103) 100000 = -(((n * 30103 + 99999) / 100000 : Nat) : Int) := by
      rw [Int.fdiv_eq_ediv_of_nonneg _ (by decide)]
      omega
    have hnat := two_pow_le_ten_pow n (by omega)
    have hrat : (2 : ℚ) ^ n ≤ 10 * 10 ^ ((n * 30103 + 99999) / 100000) := by exact_mod_cast hnat
    rw [hdiv, ← neg_add', zpow_neg, zpow_neg, zpow_natCast]
    refine inv_anti₀ (by positivity) (hrat.trans_eq ?_)
    rw [zpow_add_one₀ (by norm_num), zpow_natCast, mul_comm]
  · obtain ⟨n, rfl⟩ : ∃ n : Nat, t = (n : Int) := ⟨t.toNat, by omega⟩
    have hdiv : Int.fdiv ((n : Int) * 30103) 100000 = ((n * 30103 / 100000 : Nat) : Int) := by
      rw [Int.fdiv_eq_ediv_of_nonneg _ (by decide)]
      omega
    have hnat := ten_pow_floor_le n (by omega)
    have hrat : (10 : ℚ) ^ (n * 30103 / 100000) ≤ 10 * 2 ^ n := by exact_mod_cast hnat
    rw [hdiv, zpow_sub_one₀ (by norm_num), zpow_natCast, zpow_natCast]
    linarith

/-! ## The width of a number -/

namespace Magnitude

/-- The first guess at the width of a ratio. -/
def widthGuess (num den : Nat) : Int :=
  Int.fdiv (((num.log2 : Int) - den.log2 - 1) * 30103) 100000

/-- A ratio is below a power of ten. -/
def isBelow (num den : Nat) (p : Int) : Bool :=
  if 0 ≤ p then decide (num < den * Nat.pow 10 p.toNat) else decide (num * Nat.pow 10 (-p).toNat < den)

theorem decimalWidth_eq (num den : Nat) :
    decimalWidth num den =
      if isBelow num den (widthGuess num den) then widthGuess num den
      else if isBelow num den (widthGuess num den + 1) then widthGuess num den + 1
      else if isBelow num den (widthGuess num den + 2) then widthGuess num den + 2
      else widthGuess num den + 3 := rfl

theorem isBelow_iff {num den : Nat} (hden : 0 < den) (p : Int) :
    isBelow num den p = true ↔ (num : ℚ) / den < 10 ^ p := by
  have hpos : (0 : ℚ) < den := by exact_mod_cast hden
  unfold isBelow
  split
  · next hp =>
      obtain ⟨n, rfl⟩ := Int.eq_ofNat_of_zero_le hp
      rw [decide_eq_true_iff, div_lt_iff₀ hpos, zpow_natCast, mul_comm]
      exact_mod_cast Iff.rfl
  · next hp =>
      obtain ⟨n, rfl⟩ : ∃ n : Nat, p = -(n : Int) := ⟨(-p).toNat, by omega⟩
      rw [decide_eq_true_iff, div_lt_iff₀ hpos, zpow_neg, zpow_natCast, inv_mul_eq_div,
        lt_div_iff₀ (by positivity), neg_neg]
      exact_mod_cast Iff.rfl

/-- A ratio is above the power of two that the lengths of its parts give. -/
theorem two_zpow_log2_le {num den : Nat} (hnum : 0 < num) (hden : 0 < den) :
    (2 : ℚ) ^ ((num.log2 : Int) - den.log2 - 1) ≤ num / den := by
  have hlower : (2 : ℚ) ^ num.log2 ≤ num := by exact_mod_cast Nat.log2_self_le hnum.ne'
  have hupper : (den : ℚ) ≤ 2 ^ (den.log2 + 1) := by exact_mod_cast Nat.lt_log2_self.le
  have hpos : (0 : ℚ) < den := by exact_mod_cast hden
  have hexponent : (num.log2 : Int) - den.log2 - 1 = (num.log2 : Int) - ((den.log2 + 1 : Nat) : Int) := by
    omega
  rw [hexponent, zpow_sub₀ two_ne_zero, zpow_natCast, zpow_natCast]
  exact div_le_div₀ (by positivity) hlower hpos hupper

/-- The width is not too great. -/
theorem pow_decimalWidth_le {num den : Nat} (hnum : 0 < num) (hden : 0 < den)
    (hlower : -1200 < (num.log2 : Int) - den.log2 - 1)
    (hupper : (num.log2 : Int) - den.log2 - 1 < 1200) :
    (10 : ℚ) ^ (decimalWidth num den - 1) ≤ num / den := by
  rw [decimalWidth_eq]
  split
  · exact (ten_zpow_estimate_le hlower hupper).trans (two_zpow_log2_le hnum hden)
  · next hzero =>
      rw [isBelow_iff hden, not_lt] at hzero
      split
      · rwa [add_sub_cancel_right]
      · next hone =>
          rw [isBelow_iff hden, not_lt] at hone
          split
          · rwa [← add_sub]
          · next htwo =>
              rw [isBelow_iff hden, not_lt] at htwo
              rwa [← add_sub]

/-! ## The points of a grid -/

/-- A quarter of the last binary place, over the denominator that it shares with a step of a grid. -/
def gridUnit (e k : Int) : Nat :=
  (if 0 ≤ e then Nat.pow 2 e.toNat else 1) * (if 0 ≤ k then 1 else Nat.pow 10 (-k).toNat)

/-- A step of a grid over that denominator. -/
def gridStep (e k : Int) : Nat :=
  (if 0 ≤ e then 1 else Nat.pow 2 (-e).toNat) * (if 0 ≤ k then Nat.pow 10 k.toNat else 1)

/-- The parts of a power above and below the line. -/
theorem zpow_eq_div {b : Nat} (hb : 0 < b) (e : Int) :
    (((if 0 ≤ e then Nat.pow b e.toNat else 1 : Nat) : ℚ)) =
      (b : ℚ) ^ e * ((if 0 ≤ e then 1 else Nat.pow b (-e).toNat : Nat) : ℚ) := by
  have hpos : (0 : ℚ) < b := by exact_mod_cast hb
  split
  · next he =>
      obtain ⟨n, rfl⟩ := Int.eq_ofNat_of_zero_le he
      rw [zpow_natCast, Nat.cast_one, mul_one]
      exact Nat.cast_pow b n
  · next he =>
      obtain ⟨n, rfl⟩ : ∃ n : Nat, e = -(n : Int) := ⟨(-e).toNat, by omega⟩
      have hcast : ((Nat.pow b n : Nat) : ℚ) = (b : ℚ) ^ n := Nat.cast_pow b n
      rw [neg_neg, Int.toNat_natCast, zpow_neg, zpow_natCast, Nat.cast_one, hcast,
        inv_mul_cancel₀ (pow_pos hpos n).ne']

theorem grid_scale (e k : Int) :
    ∃ scale : ℚ, 0 < scale ∧ (gridUnit e k : ℚ) = 2 ^ e * scale ∧ (gridStep e k : ℚ) = 10 ^ k * scale := by
  have htwo := zpow_eq_div (b := 2) (by decide) e
  have hten := zpow_eq_div (b := 10) (by decide) k
  refine ⟨((if 0 ≤ e then 1 else Nat.pow 2 (-e).toNat : Nat) : ℚ) *
    ((if 0 ≤ k then 1 else Nat.pow 10 (-k).toNat : Nat) : ℚ), ?_, ?_, ?_⟩
  · have hp : 0 < (if 0 ≤ e then 1 else Nat.pow 2 (-e).toNat) := by
      split
      · exact Nat.one_pos
      · exact Nat.pow_pos (by decide)
    have hq : 0 < (if 0 ≤ k then 1 else Nat.pow 10 (-k).toNat) := by
      split
      · exact Nat.one_pos
      · exact Nat.pow_pos (by decide)
    exact mul_pos (by exact_mod_cast hp) (by exact_mod_cast hq)
  · rw [gridUnit, Nat.cast_mul, htwo, mul_assoc]
    rfl
  · rw [gridStep, Nat.cast_mul, hten]
    push_cast
    ring

/-- A multiple of a quarter compared with a point of a grid. -/
theorem gridUnit_le_gridStep_iff (e k : Int) (a c : Nat) :
    a * gridUnit e k ≤ c * gridStep e k ↔ (a : ℚ) * 2 ^ e ≤ c * 10 ^ k := by
  obtain ⟨scale, hscale, hunit, hstep⟩ := grid_scale e k
  rw [← mul_le_mul_iff_of_pos_right hscale, mul_assoc, mul_assoc, ← hunit, ← hstep]
  exact_mod_cast Iff.rfl

theorem gridStep_le_gridUnit_iff (e k : Int) (a c : Nat) :
    c * gridStep e k ≤ a * gridUnit e k ↔ (c : ℚ) * 10 ^ k ≤ a * 2 ^ e := by
  obtain ⟨scale, hscale, hunit, hstep⟩ := grid_scale e k
  rw [← mul_le_mul_iff_of_pos_right hscale, mul_assoc, mul_assoc, ← hunit, ← hstep]
  exact_mod_cast Iff.rfl

/-- A point of a grid is in the interval, as the search tests it. -/
def inside (m : Magnitude) (k : Int) (c : Nat) : Bool :=
  if m.mantissa % 2 = 0 then
    decide (m.quarters.1 * gridUnit (m.exponent - 2) k ≤ c * gridStep (m.exponent - 2) k) &&
      decide (c * gridStep (m.exponent - 2) k ≤ m.quarters.2.2 * gridUnit (m.exponent - 2) k)
  else
    decide (m.quarters.1 * gridUnit (m.exponent - 2) k < c * gridStep (m.exponent - 2) k) &&
      decide (c * gridStep (m.exponent - 2) k < m.quarters.2.2 * gridUnit (m.exponent - 2) k)

theorem inside_iff (m : Magnitude) (k : Int) (c : Nat) :
    m.inside k c = true ↔ m.Reads (c * (10 : ℚ) ^ k) := by
  unfold inside Reads low high
  split
  · rw [Bool.and_eq_true, decide_eq_true_iff, decide_eq_true_iff, gridUnit_le_gridStep_iff,
      gridStep_le_gridUnit_iff]
  · rw [Bool.and_eq_true, decide_eq_true_iff, decide_eq_true_iff, ← not_le, ← not_le,
      gridUnit_le_gridStep_iff, gridStep_le_gridUnit_iff, not_le, not_le]

/-- The point of a grid nearest to the number. -/
def nearest (tie : Tie) (m : Magnitude) (k : Int) : Nat :=
  roundDiv tie (m.quarters.2.1 * gridUnit (m.exponent - 2) k) (gridStep (m.exponent - 2) k)

/-- The number's other neighbour on the grid. -/
def secondNearest (tie : Tie) (m : Magnitude) (k : Int) : Nat :=
  let floor := m.quarters.2.1 * gridUnit (m.exponent - 2) k / gridStep (m.exponent - 2) k
  if m.nearest tie k = floor then floor + 1 else floor

/-- A point of the grid of `n` digits as a decimal. -/
def gridDecimal (width : Int) (n c : Nat) : Decimal :=
  if c = Nat.pow 10 n then ⟨1, width⟩ else ⟨c, width - n⟩

theorem value_gridDecimal (width : Int) (n c : Nat) :
    (gridDecimal width n c).value = c * (10 : ℚ) ^ (width - n) := by
  unfold gridDecimal
  split
  · next hc =>
      have hcast : (c : ℚ) = 10 ^ (n : Int) := by
        rw [hc, zpow_natCast]
        exact Nat.cast_pow 10 n
      rw [hcast, ← zpow_add₀ (by norm_num), add_sub_cancel]
      exact (congrArg (· * _) Nat.cast_one).trans (one_mul _)
  · rfl

theorem onGrid_eq (tie : Tie) (m : Magnitude) (width : Int) (n : Nat) :
    m.onGrid tie width n =
      if m.inside (width - n) (m.nearest tie (width - n)) then
        some (gridDecimal width n (m.nearest tie (width - n)))
      else if m.inside (width - n) (m.secondNearest tie (width - n)) then
        some (gridDecimal width n (m.secondNearest tie (width - n)))
      else none := rfl

/-- What is taken from a grid reads back. -/
theorem reads_of_onGrid {tie : Tie} {m : Magnitude} {width : Int} {n : Nat} {d : Decimal}
    (h : m.onGrid tie width n = some d) : m.Reads d.value := by
  have htaken (c : Nat) (hinside : m.inside (width - n) c = true)
      (hd : some (gridDecimal width n c) = some d) : m.Reads d.value := by
    rw [← Option.some.inj hd, value_gridDecimal]
    exact (inside_iff _ _ _).1 hinside
  rw [onGrid_eq] at h
  split at h
  · next hinside => exact htaken _ hinside h
  · split at h
    · next hinside => exact htaken _ hinside h
    · cases h

/-- A grid gives a decimal if its point nearest to the number reads back. -/
theorem onGrid_isSome {tie : Tie} {m : Magnitude} {width : Int} {n : Nat}
    (h : m.Reads (m.nearest tie (width - n) * (10 : ℚ) ^ (width - n))) :
    (m.onGrid tie width n).isSome = true := by
  rw [onGrid_eq, if_pos ((inside_iff _ _ _).2 h)]
  rfl

/-- The nearest point is at most half a step away. -/
theorem nearest_bounds (tie : Tie) (m : Magnitude) (k : Int) :
    2 * m.value ≤ 2 * (m.nearest tie k * (10 : ℚ) ^ k) + 10 ^ k ∧
      2 * (m.nearest tie k * (10 : ℚ) ^ k) ≤ 2 * m.value + 10 ^ k := by
  obtain ⟨scale, hscale, hunit, hstep⟩ := grid_scale (m.exponent - 2) k
  have hpos : 0 < gridStep (m.exponent - 2) k := by
    have hcast : (0 : ℚ) < gridStep (m.exponent - 2) k := by
      rw [hstep]
      positivity
    exact_mod_cast hcast
  obtain ⟨hupper, hlower⟩ := roundDiv_bounds tie
    (m.quarters.2.1 * gridUnit (m.exponent - 2) k) hpos
  -- Both bounds over the common denominator, of which the rationals are free.
  have hvalue : (m.quarters.2.1 : ℚ) * gridUnit (m.exponent - 2) k = m.value * scale := by
    rw [hunit, value, mul_assoc]
  have hnearest : (m.nearest tie k : ℚ) * gridStep (m.exponent - 2) k =
      m.nearest tie k * (10 : ℚ) ^ k * scale := by
    rw [hstep, mul_assoc]
  have hupperCast : (2 : ℚ) * (m.quarters.2.1 * gridUnit (m.exponent - 2) k) ≤
      2 * (m.nearest tie k * gridStep (m.exponent - 2) k) + gridStep (m.exponent - 2) k := by
    exact_mod_cast hupper
  have hlowerCast : (2 : ℚ) * (m.nearest tie k * gridStep (m.exponent - 2) k) ≤
      2 * (m.quarters.2.1 * gridUnit (m.exponent - 2) k) + gridStep (m.exponent - 2) k := by
    exact_mod_cast hlower
  rw [hvalue, hnearest, hstep] at hupperCast hlowerCast
  constructor
  · exact le_of_mul_le_mul_right (by linarith) hscale
  · exact le_of_mul_le_mul_right (by linarith) hscale

/-! ## Seventeen digits -/

/-- The width by which the grids are chosen. -/
def width (m : Magnitude) : Int :=
  decimalWidth (Double.Magnitude.ratio m).1 (Double.Magnitude.ratio m).2

/-- The search through the grids, coarsest first. -/
def search (tie : Tie) (m : Magnitude) : Option Decimal :=
  (List.range 18).findSome? fun n => if n = 0 then none else m.onGrid tie m.width n

theorem shortest_eq_search {tie : Tie} {m : Magnitude} (h : m.mantissa ≠ 0) :
    m.shortest tie = (m.search tie).getD ⟨0, 0⟩ := by
  rw [shortest, if_neg h]
  unfold search width
  dsimp only
  cases List.findSome? _ (List.range 18) <;> rfl

/-- A magnitude of the format: its mantissa is below `2 ^ 53`, and exactly `2 ^ 52` where the next number
below is nearer. -/
structure Fits (m : Magnitude) : Prop where
  pos : 0 < m.mantissa
  bound : m.mantissa < 0x20000000000000
  edge : m.edge = true → m.mantissa = 0x10000000000000
  least : -1074 ≤ m.exponent
  greatest : m.exponent ≤ 971

theorem fits_ofWord {word : Nat} (hpos : 0 < word) (hfinite : word < Double.infinityMagnitude) :
    (ofWord word).Fits := by
  have hword : word < 0x7ff0000000000000 := hfinite
  by_cases hfield : word / 0x10000000000000 = 0
  · rw [ofWord_of_field_eq_zero hfield]
    refine ⟨?_, ?_, nofun, le_refl (-1074 : Int), ?_⟩
    · show 0 < word % 0x10000000000000
      omega
    · show word % 0x10000000000000 < 0x20000000000000
      omega
    · show (-1074 : Int) ≤ 971
      decide
  · rw [ofWord_of_field_pos hfield]
    refine ⟨Nat.add_pos_right _ (by decide), ?_, fun hedge => ?_, ?_, ?_⟩
    · show word % 0x10000000000000 + 0x10000000000000 < 0x20000000000000
      omega
    · show word % 0x10000000000000 + 0x10000000000000 = 0x10000000000000
      rw [Bool.and_eq_true, decide_eq_true_iff] at hedge
      omega
    · show (-1074 : Int) ≤ ((word / 0x10000000000000 : Nat) : Int) - 1075
      omega
    · show ((word / 0x10000000000000 : Nat) : Int) - 1075 ≤ 971
      omega

namespace Fits

variable {m : Magnitude}

/-- A sixteenth digit is worth less than half of the interval on either side. -/
theorem reads_of_near (h : m.Fits) {q step : ℚ} (hstep : step * 10 ^ 16 ≤ m.value)
    (hupper : 2 * m.value ≤ 2 * q + step) (hlower : 2 * q ≤ 2 * m.value + step) : m.Reads q := by
  have hunit := m.unit_pos
  have hbound : (m.mantissa : ℚ) < 0x20000000000000 := by exact_mod_cast h.bound
  have hvalue : m.value = 4 * m.mantissa * (2 : ℚ) ^ (m.exponent - 2) := by
    show ((4 * m.mantissa : Nat) : ℚ) * _ = _
    push_cast
    rfl
  have hhigh : m.high = m.value + 2 * (2 : ℚ) ^ (m.exponent - 2) := by
    show ((4 * m.mantissa + 2 : Nat) : ℚ) * _ = ((4 * m.mantissa : Nat) : ℚ) * _ + _
    push_cast
    ring
  have hwide : step < 4 * (2 : ℚ) ^ (m.exponent - 2) := by
    nlinarith
  have hlow : 2 * m.low < 2 * m.value - step := by
    cases hedge : m.edge with
    | false =>
        have hquarter : m.quarters.1 + 2 = 4 * m.mantissa := by
          have hpos := h.pos
          rw [quarters, hedge]
          show 4 * m.mantissa - 2 + 2 = 4 * m.mantissa
          omega
        have hdistance : m.low + 2 * (2 : ℚ) ^ (m.exponent - 2) = m.value := by
          rw [low, ← add_mul, hvalue]
          congr 1
          exact_mod_cast hquarter
        linarith
    | true =>
        -- The distance below is half of that above, but the mantissa is the least one.
        have hquarter : m.quarters.1 + 1 = 4 * m.mantissa := by
          have hpos := h.pos
          rw [quarters, hedge]
          show 4 * m.mantissa - 1 + 1 = 4 * m.mantissa
          omega
        have hdistance : m.low + (2 : ℚ) ^ (m.exponent - 2) = m.value := by
          rw [low, ← add_one_mul, hvalue]
          congr 1
          exact_mod_cast hquarter
        have hmantissa : (m.mantissa : ℚ) = 0x10000000000000 := by exact_mod_cast h.edge hedge
        rw [hvalue, hmantissa] at hstep
        linarith
  have hstrict : m.low < q ∧ q < m.high := by
    constructor
    · linarith
    · linarith
  unfold Reads
  split
  · exact ⟨hstrict.1.le, hstrict.2.le⟩
  · exact hstrict

theorem ratio_of_nonneg (h : 0 ≤ m.exponent) :
    Double.Magnitude.ratio m = (m.mantissa * 2 ^ m.exponent.toNat, 1) :=
  if_pos h

theorem ratio_of_neg (h : ¬ 0 ≤ m.exponent) :
    Double.Magnitude.ratio m = (m.mantissa, 2 ^ (-m.exponent).toNat) := by
  refine (if_neg h).trans ?_
  rw [Nat.one_mul]
  rfl

theorem ratio_pos (h : m.Fits) :
    0 < (Double.Magnitude.ratio m).1 ∧ 0 < (Double.Magnitude.ratio m).2 := by
  by_cases he : 0 ≤ m.exponent
  · rw [ratio_of_nonneg he]
    exact ⟨Nat.mul_pos h.pos (Nat.pow_pos (by decide)), Nat.one_pos⟩
  · rw [ratio_of_neg he]
    exact ⟨h.pos, Nat.pow_pos (by decide)⟩

theorem ratio_value (m : Magnitude) :
    ((Double.Magnitude.ratio m).1 : ℚ) / (Double.Magnitude.ratio m).2 = m.value := by
  have hvalue : m.value = m.mantissa * (2 : ℚ) ^ m.exponent := by
    show ((4 * m.mantissa : Nat) : ℚ) * _ = _
    rw [zpow_sub₀ two_ne_zero]
    push_cast
    ring
  rw [hvalue]
  by_cases he : 0 ≤ m.exponent
  · rw [ratio_of_nonneg he]
    obtain ⟨n, hn⟩ := Int.eq_ofNat_of_zero_le he
    rw [hn, zpow_natCast]
    push_cast
    exact div_one _
  · rw [ratio_of_neg he]
    obtain ⟨n, hn⟩ : ∃ n : Nat, m.exponent = -(n : Int) := ⟨(-m.exponent).toNat, by omega⟩
    rw [hn, neg_neg, zpow_neg, zpow_natCast, ← div_eq_mul_inv]
    push_cast
    rfl

/-- The lengths of both parts stay within the range of the estimate. -/
theorem ratio_log2_bounds (h : m.Fits) :
    -1200 < ((Double.Magnitude.ratio m).1.log2 : Int) - (Double.Magnitude.ratio m).2.log2 - 1 ∧
      ((Double.Magnitude.ratio m).1.log2 : Int) - (Double.Magnitude.ratio m).2.log2 - 1 < 1200 := by
  have hleast := h.least
  have hgreatest := h.greatest
  by_cases he : 0 ≤ m.exponent
  · have hnum : (m.mantissa * 2 ^ m.exponent.toNat).log2 < 53 + m.exponent.toNat := by
      rw [Nat.log2_lt (Nat.mul_pos h.pos (Nat.pow_pos (by decide))).ne', Nat.pow_add]
      exact Nat.mul_lt_mul_of_pos_right h.bound (Nat.pow_pos (by decide))
    have hden : Nat.log2 1 = 0 := by decide
    rw [ratio_of_nonneg he, hden]
    dsimp only
    omega
  · have hnum : m.mantissa.log2 < 53 := (Nat.log2_lt h.pos.ne').2 h.bound
    have hden : (2 ^ (-m.exponent).toNat).log2 = (-m.exponent).toNat := Nat.log2_two_pow
    rw [ratio_of_neg he, hden]
    dsimp only
    omega

/-- On the grid of seventeen digits there is always a decimal. -/
theorem onGrid_seventeen (h : m.Fits) (tie : Tie) : (m.onGrid tie m.width 17).isSome = true := by
  obtain ⟨hnum, hden⟩ := h.ratio_pos
  have hwidth : (10 : ℚ) ^ (m.width - 1) ≤ m.value := by
    rw [← ratio_value]
    exact pow_decimalWidth_le hnum hden h.ratio_log2_bounds.1 h.ratio_log2_bounds.2
  have hstep : (10 : ℚ) ^ (m.width - (17 : Nat)) * 10 ^ 16 ≤ m.value := by
    refine le_of_eq_of_le ?_ hwidth
    rw [← zpow_natCast, ← zpow_add₀ (by norm_num)]
    congr 1
    omega
  exact onGrid_isSome (h.reads_of_near hstep (nearest_bounds tie m _).1 (nearest_bounds tie m _).2)

/-- The shortest decimal reads back. -/
theorem reads_shortest (h : m.Fits) (tie : Tie) : m.Reads (m.shortest tie).value := by
  rw [shortest_eq_search h.pos.ne']
  cases hsearch : m.search tie with
  | some d =>
      obtain ⟨n, -, hn⟩ := List.exists_of_findSome?_eq_some hsearch
      split at hn
      · cases hn
      · exact reads_of_onGrid hn
  | none =>
      have hfailed := List.findSome?_eq_none_iff.1 hsearch 17 (List.mem_range.2 (by decide))
      have hsome := h.onGrid_seventeen tie
      rw [if_neg (by decide)] at hfailed
      rw [hfailed] at hsome
      cases hsome

end Fits

end Magnitude

end PklHost
