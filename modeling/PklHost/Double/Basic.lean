/-!
# Binary floating-point numbers by their bits

`Double` and `Single` are the 64- and 32-bit interchange formats, held as words, so that every
question about them is a question about natural numbers. Equality of words (`=`) and numeric
equality (`Double.eq`) differ in exactly two places: a NaN equals nothing, itself included, and the
two zeros equal each other.
-/

namespace PklHost

/-- A 64-bit binary floating-point number. -/
structure Double where
  bits : UInt64
  deriving DecidableEq, Repr, Inhabited

/-- A 32-bit binary floating-point number. -/
structure Single where
  bits : UInt32
  deriving DecidableEq, Repr, Inhabited

/-- A finite number apart from its sign: `mantissa * 2 ^ exponent`. `edge` holds where the next
number below is only half as far away as the next one above. -/
structure Magnitude where
  mantissa : Nat
  exponent : Int
  edge : Bool
  deriving DecidableEq, Repr

namespace Double

/-! ## Fields -/

/-- The word of an infinity, less its sign. -/
def infinityMagnitude : Nat := 0x7ff0000000000000

/-- The word less its sign bit. -/
def magnitudeBits (x : Double) : Nat := x.bits.toNat % 0x8000000000000000

/-- The sign bit. -/
def negative (x : Double) : Bool := decide (0x8000000000000000 ≤ x.bits.toNat)

def isNaN (x : Double) : Bool := decide (infinityMagnitude < x.magnitudeBits)

def isInfinite (x : Double) : Bool := decide (x.magnitudeBits = infinityMagnitude)

def isFinite (x : Double) : Bool := decide (x.magnitudeBits < infinityMagnitude)

def isZero (x : Double) : Bool := decide (x.magnitudeBits = 0)

/-- The number of a word given by sign and magnitude. -/
def ofFields (negative : Bool) (magnitude : Nat) : Double :=
  ⟨UInt64.ofNat ((if negative then 0x8000000000000000 else 0) + magnitude)⟩

/-- The quiet NaN without payload. -/
def nan : Double := ⟨0x7ff8000000000000⟩

/-- The mantissa and exponent of a finite number. -/
def magnitude (x : Double) : Magnitude :=
  let field : Nat := x.magnitudeBits / 0x10000000000000
  let fraction : Nat := x.magnitudeBits % 0x10000000000000
  if field = 0 then ⟨fraction, -1074, false⟩
  else ⟨fraction + 0x10000000000000, (field : Int) - 1075, decide (fraction = 0) && decide (1 < field)⟩

/-! ## Numeric equality -/

/-- Numeric equality: no NaN equals anything, and the two zeros are equal. -/
def eq (x y : Double) : Bool :=
  !x.isNaN && !y.isNaN && (decide (x = y) || (x.isZero && y.isZero))

theorem eq_self_iff {x : Double} : x.eq x = true ↔ x.isNaN = false := by
  simp [eq]

end Double

namespace Single

/-- The word less its sign bit. -/
def magnitudeBits (x : Single) : Nat := x.bits.toNat % 0x80000000

/-- The sign bit. -/
def negative (x : Single) : Bool := decide (0x80000000 ≤ x.bits.toNat)

def isNaN (x : Single) : Bool := decide (0x7f800000 < x.magnitudeBits)

def isInfinite (x : Single) : Bool := decide (x.magnitudeBits = 0x7f800000)

/-- The mantissa and exponent of a finite number. -/
def magnitude (x : Single) : Magnitude :=
  let field : Nat := x.magnitudeBits / 0x800000
  let fraction : Nat := x.magnitudeBits % 0x800000
  if field = 0 then ⟨fraction, -149, false⟩
  else ⟨fraction + 0x800000, (field : Int) - 150, decide (fraction = 0) && decide (1 < field)⟩

end Single

end PklHost
