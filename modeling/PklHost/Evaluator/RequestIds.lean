/-!
# Request ids

Each connection and each evaluator numbers its requests with a generator of its own. The state steps
through all 64-bit words by a fixed odd amount, an invertible mix makes a word of each state, and the
top bit is cleared, so that ids are never negative.
-/

namespace PklHost

/-- A generator of request ids. -/
structure RequestIds where
  state : UInt64
  deriving DecidableEq, Repr

namespace RequestIds

/-- A generator that starts from a number. -/
def ofSeed (seed : Int64) : RequestIds := ⟨seed.toUInt64⟩

/-- The distance between two states. -/
def increment : UInt64 := 0x9e3779b97f4a7c15

/-- The word of a state. -/
def mix (s : UInt64) : UInt64 :=
  let z := (s ^^^ (s >>> 30)) * 0xbf58476d1ce4e5b9
  let z := (z ^^^ (z >>> 27)) * 0x94d049bb133111eb
  z ^^^ (z >>> 31)

/-- The id of a word: its low 63 bits. -/
def idOf (word : UInt64) : Int64 :=
  (word &&& 0x7fffffffffffffff).toInt64

/-- The next id, and the generator after it. -/
def next (g : RequestIds) : Int64 × RequestIds :=
  let state := g.state + increment
  (idOf (mix state), ⟨state⟩)

/-- The next `count` ids. -/
def take : Nat → RequestIds → List Int64
  | 0, _ => []
  | count + 1, g => g.next.1 :: take count g.next.2

end RequestIds

end PklHost
