import PklHost.Double.Text

/-!
# Durations and data sizes

A quantity is a number with a unit. Conversion to a common base is done in floating point with one
rounding per operation, in the order product then quotient, so that results are the same wherever
they are computed. The span of a duration is exact from there on: whole nanoseconds, nearest first,
a tie going to the even one.
-/

namespace PklHost

/-- Units of a duration. -/
inductive DurationUnit where
  | ns | us | ms | s | min | h | d
  deriving DecidableEq, Repr

namespace DurationUnit

def all : List DurationUnit := [.ns, .us, .ms, .s, .min, .h, .d]

def symbol : DurationUnit → String
  | .ns => "ns"
  | .us => "us"
  | .ms => "ms"
  | .s => "s"
  | .min => "min"
  | .h => "h"
  | .d => "d"

/-- The unit with a symbol. -/
def ofSymbol? (symbol : String) : Option DurationUnit :=
  all.find? fun u => u.symbol == symbol

/-- Nanoseconds in one unit. -/
def nanoseconds : DurationUnit → Nat
  | .ns => 1
  | .us => 1_000
  | .ms => 1_000_000
  | .s => 1_000_000_000
  | .min => 60 * 1_000_000_000
  | .h => 3600 * 1_000_000_000
  | .d => 86400 * 1_000_000_000

theorem ofSymbol?_symbol (u : DurationUnit) : ofSymbol? u.symbol = some u := by
  cases u <;> rfl

end DurationUnit

/-- Units of a data size. -/
inductive SizeUnit where
  | b | kb | kib | mb | mib | gb | gib | tb | tib | pb | pib
  deriving DecidableEq, Repr

namespace SizeUnit

def all : List SizeUnit := [.b, .kb, .kib, .mb, .mib, .gb, .gib, .tb, .tib, .pb, .pib]

def symbol : SizeUnit → String
  | .b => "b"
  | .kb => "kb"
  | .kib => "kib"
  | .mb => "mb"
  | .mib => "mib"
  | .gb => "gb"
  | .gib => "gib"
  | .tb => "tb"
  | .tib => "tib"
  | .pb => "pb"
  | .pib => "pib"

/-- The unit with a symbol. -/
def ofSymbol? (symbol : String) : Option SizeUnit :=
  all.find? fun u => u.symbol == symbol

/-- Bytes in one unit. -/
def bytes : SizeUnit → Nat
  | .b => 1
  | .kb => 1000
  | .kib => 1024
  | .mb => 1000 * 1000
  | .mib => 1024 * 1024
  | .gb => 1000 * 1000 * 1000
  | .gib => 1024 * 1024 * 1024
  | .tb => 1000 * 1000 * 1000 * 1000
  | .tib => 1024 * 1024 * 1024 * 1024
  | .pb => 1000 * 1000 * 1000 * 1000 * 1000
  | .pib => 1024 * 1024 * 1024 * 1024 * 1024

theorem ofSymbol?_symbol (u : SizeUnit) : ofSymbol? u.symbol = some u := by
  cases u <;> rfl

end SizeUnit

/-- A duration, such as `30.5.s`. -/
structure Duration where
  value : Double
  unit : DurationUnit
  deriving DecidableEq, Repr

/-- A data size, such as `30.5.mb`. -/
structure DataSize where
  value : Double
  unit : SizeUnit
  deriving DecidableEq, Repr

/-- A span of time without sign. -/
structure Span where
  seconds : Nat
  nanoseconds : Nat
  deriving DecidableEq, Repr

namespace Duration

def text (d : Duration) : String :=
  d.value.text .plain ++ "." ++ d.unit.symbol

/-- The duration in seconds. -/
def seconds (d : Duration) : Double :=
  (d.value.mul (.ofInt d.unit.nanoseconds)).div (.ofInt 1_000_000_000)

/-- The span of a duration. There is none for a negative or non-finite number of seconds, nor for
one past 64 bits. -/
def span? (d : Duration) : Option Span :=
  let x := d.seconds
  if !x.isFinite || (x.negative && !x.isZero) then none
  else
    let (num, den) := Double.Magnitude.ratio x.magnitude
    let total := roundDiv .toEven (num * 1_000_000_000) den
    let span : Span := ⟨total / 1_000_000_000, total % 1_000_000_000⟩
    if span.seconds < 0x10000000000000000 then some span else none

/-- Equality of number and unit. -/
def eq (a b : Duration) : Bool :=
  a.value.eq b.value && decide (a.unit = b.unit)

end Duration

namespace DataSize

def text (d : DataSize) : String :=
  d.value.text .plain ++ "." ++ d.unit.symbol

/-- The data size in bytes. -/
def bytes (d : DataSize) : Double :=
  d.value.mul (.ofInt d.unit.bytes)

/-- Equality of number and unit. -/
def eq (a b : DataSize) : Bool :=
  a.value.eq b.value && decide (a.unit = b.unit)

end DataSize

end PklHost
