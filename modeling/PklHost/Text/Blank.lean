import PklHost.Text.CodePoint

/-!
# White space

The characters with the Unicode property White_Space: what separates the words of a command line
and what is trimmed from the ends of a text.
-/

namespace PklHost.Text

/-- The property White_Space. -/
def blankRanges : CodePointRanges := [
  (0x9, 0xd), (0x20, 0x20), (0x85, 0x85), (0xa0, 0xa0), (0x1680, 0x1680), (0x2000, 0x200a),
  (0x2028, 0x2029), (0x202f, 0x202f), (0x205f, 0x205f), (0x3000, 0x3000)]

/-- A character that separates words. -/
def isBlank (c : Char) : Bool :=
  blankRanges.contains c.toNat

theorem isBlank_of_isWhitespace {c : Char} (h : c.isWhitespace = true) : isBlank c = true := by
  simp only [Char.isWhitespace, Bool.or_eq_true, decide_eq_true_eq] at h
  rcases h with ((rfl | rfl) | rfl) | rfl <;> decide

/-- The words of a text: its maximal runs of characters that are not blank. -/
def splitBlank (cs : List Char) : List (List Char) :=
  go [] cs
where
  /-- Splits with the letters of the word at hand kept in reverse. -/
  go : List Char → List Char → List (List Char)
    | [], [] => []
    | acc, [] => [acc.reverse]
    | acc, c :: rest =>
      if isBlank c then
        match acc with
        | [] => go [] rest
        | _ :: _ => acc.reverse :: go [] rest
      else go (c :: acc) rest

/-- The words of a text, as texts. -/
def words (s : String) : List String :=
  (splitBlank s.toList).map String.ofList

/-- A text without the blanks at its ends. -/
def trim (s : String) : String :=
  String.ofList ((s.toList.dropWhile isBlank).reverse.dropWhile isBlank).reverse

end PklHost.Text
