import PklHost.Double.Digits

/-!
# Decimal text of binary numbers

All texts start from the shortest digits that read back; what differs is the notation. A
`NumberStyle` says which of two equally near digits is taken, which magnitudes are written without an
exponent, and how whole numbers and positive exponents look.
-/

namespace PklHost

/-- How the digits of a number are laid out. -/
structure NumberStyle where
  /-- The last digit, where two are equally near. -/
  tie : Tie
  /-- The numbers of digits left of the point that are written without an exponent; all if absent. -/
  positional : Option (Int × Int)
  /-- A whole number is written with a point and a zero. -/
  keepsPoint : Bool
  /-- A positive exponent has a sign. -/
  signsExponent : Bool

namespace NumberStyle

/-- Never an exponent, and no point in a whole number. -/
def plain : NumberStyle := ⟨.upward, none, false, false⟩

/-- A point or an exponent always; an exponent outside `1e-4 ≤ |x| < 1e16`. -/
def tagged : NumberStyle := ⟨.upward, some (-3, 16), true, false⟩

/-- A point or an exponent always; a signed exponent outside `1e-5 ≤ |x| < 1e16`. -/
def json : NumberStyle := ⟨.toEven, some (-4, 16), true, true⟩

/-- Digits with the point after the first `width` of them, filled up with zeros. -/
def positionalText (style : NumberStyle) (digits : String) (width : Int) : String :=
  let n := digits.length
  let zeros (k : Nat) : String := String.ofList (List.replicate k '0')
  if width ≤ 0 then "0." ++ zeros (-width).toNat ++ digits
  else if width.toNat < n then
    String.ofList (digits.toList.take width.toNat) ++ "." ++
      String.ofList (digits.toList.drop width.toNat)
  else digits ++ zeros (width.toNat - n) ++ (if style.keepsPoint then ".0" else "")

/-- Digits with the point after the first one, and an exponent. -/
def exponentText (style : NumberStyle) (digits : String) (width : Int) : String :=
  let tail := String.ofList (digits.toList.drop 1)
  let e := width - 1
  String.ofList (digits.toList.take 1) ++ (if tail.isEmpty then "" else "." ++ tail) ++ "e" ++
    (if 0 ≤ e ∧ style.signsExponent then "+" else "") ++ toString e

/-- A positive decimal. -/
def decimalText (style : NumberStyle) (d : Decimal) : String :=
  let digits := toString d.digits
  let width : Int := digits.length + d.exponent
  match style.positional with
  | none => style.positionalText digits width
  | some (low, high) =>
    if low ≤ width ∧ width ≤ high then style.positionalText digits width
    else style.exponentText digits width

/-- A finite number. -/
def magnitudeText (style : NumberStyle) (m : Magnitude) : String :=
  if m.mantissa = 0 then (if style.keepsPoint then "0.0" else "0")
  else style.decimalText (m.shortest style.tie)

/-- A number given by its parts. -/
def text (style : NumberStyle) (nan infinite negative : Bool) (m : Magnitude) : String :=
  if nan then "NaN"
  else (if negative then "-" else "") ++ if infinite then "inf" else style.magnitudeText m

end NumberStyle

/-- A double in the given style. -/
def Double.text (style : NumberStyle) (x : Double) : String :=
  style.text x.isNaN x.isInfinite x.negative x.magnitude

/-- A single in the given style. -/
def Single.text (style : NumberStyle) (x : Single) : String :=
  style.text x.isNaN x.isInfinite x.negative x.magnitude

end PklHost
