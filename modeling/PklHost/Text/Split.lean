/-!
# Text cut at a character

`splitAll` cuts a text at every occurrence of a character. The parts and the cuts between them are all
there was: `intercalate_splitAll`.
-/

namespace PklHost.Text

/-- The parts of a text between the occurrences of `sep`; there is always one more part than there are
occurrences. -/
def splitAll (sep : Char) : List Char → List (List Char)
  | [] => [[]]
  | c :: cs =>
    if c = sep then [] :: splitAll sep cs
    else
      match splitAll sep cs with
      | [] => [[c]]
      | part :: parts => (c :: part) :: parts

theorem splitAll_ne_nil (sep : Char) (cs : List Char) : splitAll sep cs ≠ [] := by
  cases cs with
  | nil => simp [splitAll]
  | cons c cs => simp only [splitAll]; split <;> (try split) <;> simp

theorem intercalate_splitAll (sep : Char) (cs : List Char) :
    [sep].intercalate (splitAll sep cs) = cs := by
  induction cs with
  | nil => simp [splitAll, List.intercalate]
  | cons c cs ih =>
    have hne := splitAll_ne_nil sep cs
    simp only [splitAll]
    cases h : splitAll sep cs with
    | nil => exact absurd h hne
    | cons part parts =>
      rw [h] at ih
      by_cases hc : c = sep
      · simp [hc, List.intercalate] at ih ⊢
        exact ih
      · cases parts <;> simp_all [List.intercalate, List.intersperse]

end PklHost.Text
