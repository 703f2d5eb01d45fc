/-!
# Sets of code points

A set of code points is a list of closed ranges in ascending order. The tables of character
properties are such lists; membership is all that is asked of them.
-/

namespace PklHost.Text

/-- Closed ranges of code points, in ascending order. -/
abbrev CodePointRanges := List (Nat × Nat)

/-- A code point is in some range. -/
def CodePointRanges.contains (ranges : CodePointRanges) (c : Nat) : Bool :=
  ranges.any fun r => decide (r.1 ≤ c) && decide (c ≤ r.2)

theorem CodePointRanges.contains_iff {ranges : CodePointRanges} {c : Nat} :
    ranges.contains c = true ↔ ∃ r ∈ ranges, r.1 ≤ c ∧ c ≤ r.2 := by
  simp [contains]

end PklHost.Text
