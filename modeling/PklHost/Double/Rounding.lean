import PklHost.Double.Basic

/-!
# Rounding to the nearest double

Every arithmetic result here is first an exact ratio of natural numbers with a sign, and is rounded
once, to the nearest double, a tie going to the even mantissa. Products and quotients of finite
numbers, integers, and widened singles are all instances.
-/

namespace PklHost

/-- Where a quotient halfway between two integers goes. -/
inductive Tie where
  /-- To the even one. -/
  | toEven
  /-- To the greater one. -/
  | upward
  deriving DecidableEq, Repr

/-- The quotient to the nearest integer. -/
def roundDiv (tie : Tie) (num den : Nat) : Nat :=
  let q := num / den
  let r := num % den
  if den < 2 * r ∨ (den = 2 * r ∧ (tie = .upward ∨ q % 2 = 1)) then q + 1 else q

/-- The two ties part at an even floor and agree at an odd one. -/
example : roundDiv .toEven 5 2 = 2 ∧ roundDiv .upward 5 2 = 3 ∧ roundDiv .toEven 7 2 = 4 ∧
    roundDiv .upward 7 2 = 4 := by decide

/-- `num / den * 2 ^ k` as a ratio of natural numbers. -/
def scaleRatio (num den : Nat) (k : Int) : Nat × Nat :=
  if 0 ≤ k then (num * Nat.pow 2 k.toNat, den) else (num, den * Nat.pow 2 (-k).toNat)

namespace Double

/-- The double nearest to `num / den`, with the given sign; `den` is positive. A ratio too large
for the format gives an infinity. -/
def ofRatio (negative : Bool) (num den : Nat) : Double :=
  if num = 0 then ofFields negative 0
  else
    let guess : Int := max ((num.log2 : Int) - den.log2 - 53) (-1074)
    let (n, d) := scaleRatio num den (-guess)
    let q : Int := if n / d < 0x20000000000000 then guess else guess + 1
    let (n, d) := scaleRatio num den (-q)
    let m := roundDiv .toEven n d
    let word := if m < 0x10000000000000 then m else (q + 1074).toNat * 0x10000000000000 + m
    ofFields negative (min word infinityMagnitude)

/-- The double nearest to an integer. -/
def ofInt (n : Int) : Double :=
  ofRatio (decide (n < 0)) n.natAbs 1

/-- `m * 2 ^ e` as a ratio. -/
def Magnitude.ratio (m : Magnitude) : Nat × Nat :=
  scaleRatio m.mantissa 1 m.exponent

/-- The rounded product. -/
def mul (x y : Double) : Double :=
  let sign := x.negative ^^ y.negative
  if x.isNaN || y.isNaN then nan
  else if x.isInfinite || y.isInfinite then
    if x.isZero || y.isZero then nan else ofFields sign infinityMagnitude
  else
    let (n, d) := Magnitude.ratio x.magnitude
    let (n', d') := Magnitude.ratio y.magnitude
    ofRatio sign (n * n') (d * d')

/-- The rounded quotient. -/
def div (x y : Double) : Double :=
  let sign := x.negative ^^ y.negative
  if x.isNaN || y.isNaN then nan
  else if x.isInfinite then
    if y.isInfinite then nan else ofFields sign infinityMagnitude
  else if y.isInfinite then ofFields sign 0
  else if y.isZero then
    if x.isZero then nan else ofFields sign infinityMagnitude
  else
    let (n, d) := Magnitude.ratio x.magnitude
    let (n', d') := Magnitude.ratio y.magnitude
    ofRatio sign (n * d') (d * n')

end Double

/-- The double of the same value. A NaN keeps its sign and payload and becomes quiet. -/
def Single.toDouble (x : Single) : Double :=
  if x.isNaN then
    let fraction := x.magnitudeBits % 0x400000
    Double.ofFields x.negative (0x7ff8000000000000 + fraction * 0x20000000)
  else if x.isInfinite then Double.ofFields x.negative Double.infinityMagnitude
  else
    let (n, d) := Double.Magnitude.ratio x.magnitude
    Double.ofRatio x.negative n d

end PklHost
