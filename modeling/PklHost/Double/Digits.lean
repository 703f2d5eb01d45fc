import PklHost.Double.Rounding

/-!
# The fewest decimal digits that read back

Every real number nearer to `x` than to any other number of the format reads as `x`; the ends of
that interval do so exactly if the mantissa is even. `Magnitude.shortest` finds the decimal with
the fewest digits inside the interval and, among those, the one nearest to `x`; where `x` is halfway
between two of them, the notation says which is taken. It tests the two neighbours of `x` on each
decimal grid, coarsest grid first: if a grid has a point in the interval, then one of those two is in it.
-/

namespace PklHost

/-- The decimal `digits * 10 ^ exponent`. -/
structure Decimal where
  digits : Nat
  exponent : Int
  deriving DecidableEq, Repr

namespace Magnitude

/-- The number of decimal digits left of the point of `num / den` (zero or less for a value below
one); `num` and `den` are positive. -/
def decimalWidth (num den : Nat) : Int :=
  let guess : Int := Int.fdiv (((num.log2 : Int) - den.log2 - 1) * 30103) 100000
  let below (p : Int) : Bool :=
    if 0 ≤ p then decide (num < den * Nat.pow 10 p.toNat) else decide (num * Nat.pow 10 (-p).toNat < den)
  if below guess then guess
  else if below (guess + 1) then guess + 1
  else if below (guess + 2) then guess + 2
  else guess + 3

/-- The interval of values that read as `m`, and `m` itself, in quarters of its last binary place:
lower end, value, upper end. -/
def quarters (m : Magnitude) : Nat × Nat × Nat :=
  let v := 4 * m.mantissa
  (if m.edge then v - 1 else v - 2, v, v + 2)

/-- The decimal of `n` digits nearest to `m`, if it lies in the interval of `m`. -/
def onGrid (tie : Tie) (m : Magnitude) (width : Int) (n : Nat) : Option Decimal :=
  let k := width - n
  let (low, v, high) := m.quarters
  let e := m.exponent - 2
  -- One quarter is `unit / step` grid steps.
  let unit := (if 0 ≤ e then Nat.pow 2 e.toNat else 1) * (if 0 ≤ k then 1 else Nat.pow 10 (-k).toNat)
  let step := (if 0 ≤ e then 1 else Nat.pow 2 (-e).toNat) * (if 0 ≤ k then Nat.pow 10 k.toNat else 1)
  let inside (c : Nat) : Bool :=
    if m.mantissa % 2 = 0 then decide (low * unit ≤ c * step) && decide (c * step ≤ high * unit)
    else decide (low * unit < c * step) && decide (c * step < high * unit)
  let floor := v * unit / step
  let nearest := roundDiv tie (v * unit) step
  let other := if nearest = floor then floor + 1 else floor
  -- Rounding up to a power of ten leaves a single digit.
  let decimal (c : Nat) : Decimal := if c = Nat.pow 10 n then ⟨1, width⟩ else ⟨c, k⟩
  if inside nearest then some (decimal nearest)
  else if inside other then some (decimal other)
  else none

/-- The shortest decimal that reads back as `m`. Seventeen digits always do. -/
def shortest (tie : Tie) (m : Magnitude) : Decimal :=
  if m.mantissa = 0 then ⟨0, 0⟩
  else
    let (num, den) := Double.Magnitude.ratio m
    let width := decimalWidth num den
    match (List.range 18).findSome? (fun n => if n = 0 then none else m.onGrid tie width n) with
    | some d => d
    | none => ⟨0, 0⟩

end Magnitude

end PklHost
