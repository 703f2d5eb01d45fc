import PklHost.Command
import PklHost.Proofs.Text.Runs

/-!
# Commands and their lines

A line names the command whose program and arguments are the runs of the line, or the default command if the
line has none.  So no word of such a command is empty or holds a blank, and the text of the command, which is
what error messages name it by, names the same command as the line did.

A command that was given as words need not come back from its text: a word may hold blanks.
-/

namespace PklHost.Command

open Text (IsWord ListsRuns isBlank splitBlank)

/-- The program and its arguments. -/
def words (c : Command) : List String := c.program :: c.args

theorem ofWords?_words (c : Command) : ofWords? c.words = some c := rfl

theorem words_of_ofWords? {ws : List String} {c : Command} (h : ofWords? ws = some c) : c.words = ws := by
  cases ws with
  | nil => cases h
  | cons program args =>
      obtain rfl := Option.some.inj h
      rfl

/-- The command of a line without words is the default, any other has the words of the line. -/
theorem resolve_line_cases (line : String) :
    Text.words line = [] ∧ resolve none (some line) = default ∨
      (resolve none (some line)).words = Text.words line := by
  cases hwords : ofWords? (Text.words line) with
  | none =>
      refine .inl ⟨?_, by simp [resolve, hwords]⟩
      cases hline : Text.words line with
      | nil => rfl
      | cons program args => simp [hline, ofWords?] at hwords
  | some c =>
      have hresolve : resolve none (some line) = c := by simp [resolve, hwords]
      exact .inr (by rw [hresolve, words_of_ofWords? hwords])

/-- The text of a command whose words are words is split into them again. -/
theorem resolve_text {c : Command} (h : ∀ w ∈ c.words, IsWord w.toList) :
    resolve none (some c.text) = c := by
  have hsplit : Text.words c.text = c.words := by
    have htext : c.text.toList = [' '].intercalate (c.words.map String.toList) :=
      String.toList_intercalate
    rw [Text.words, htext, Text.splitBlank_intercalate (List.forall_mem_map.2 h), List.map_map]
    simp [Function.comp_def]
  simp [resolve, hsplit, ofWords?_words]

theorem isWord_of_mem_words_resolve {line w : String} (h : w ∈ (resolve none (some line)).words) :
    IsWord w.toList := by
  obtain ⟨-, hdefault⟩ | hwords := resolve_line_cases line
  · rw [hdefault] at h
    obtain rfl : w = "pkl" := List.mem_singleton.1 h
    decide
  · rw [hwords] at h
    obtain ⟨cs, hcs, rfl⟩ := List.mem_map.1 h
    rw [String.toList_ofList]
    exact Text.isWord_of_mem_splitBlank hcs

/-- A line names the command of its runs, and the text of that command names it again. -/
theorem line_names_runs (line : String) :
    (∃ runs, ListsRuns line.toList runs ∧
      if runs = [] then resolve none (some line) = default
      else (resolve none (some line)).words.map String.toList = runs.map Prod.snd) ∧
    (∀ w ∈ (resolve none (some line)).words, w ≠ "" ∧ ∀ c ∈ w.toList, isBlank c = false) ∧
    resolve none (some (resolve none (some line)).text) = resolve none (some line) := by
  refine ⟨?_, fun w hw => ?_, resolve_text fun w => isWord_of_mem_words_resolve⟩
  · obtain ⟨runs, hruns, hsplit⟩ := Text.exists_listsRuns line.toList
    have hlines : (Text.words line).map String.toList = runs.map Prod.snd := by
      rw [Text.words, List.map_map, hsplit, List.map_map]
      simp [Function.comp_def]
    refine ⟨runs, hruns, ?_⟩
    obtain ⟨hnone, hdefault⟩ | hwords := resolve_line_cases line
    · rw [hnone] at hlines
      rw [if_pos (List.map_eq_nil_iff.1 hlines.symm), hdefault]
    · have hsome : runs ≠ [] := by
        rintro rfl
        rw [← hwords] at hlines
        cases hlines
      rw [if_neg hsome, hwords, hlines]
  · obtain ⟨hne, hunbroken⟩ := isWord_of_mem_words_resolve hw
    exact ⟨fun h => hne (String.toList_eq_nil_iff.2 h), hunbroken⟩

/-- A line with blanks of four kinds, at both ends and in rows. -/
theorem line_names_runs_spaced :
    let line := "\u3000 java\t\u00a0-jar\n pkl.jar\u2028"
    let c : Command := ⟨"java", ["-jar", "pkl.jar"]⟩
    resolve none (some line) = c ∧ "-jar" ∈ (resolve none (some line)).words ∧
      ("-jar" ≠ "" ∧ ∀ c ∈ "-jar".toList, isBlank c = false) ∧
      resolve none (some "java -jar pkl.jar") = c := by
  intro line c
  have hline : resolve none (some line) = c := by decide
  have hmem : "-jar" ∈ (resolve none (some line)).words := by
    rw [hline]
    decide
  obtain ⟨-, hwords, htext⟩ := line_names_runs line
  rw [hline] at htext
  exact ⟨hline, hmem, hwords "-jar" hmem, htext⟩

/-- A word that holds a blank is two words in the text of its command. -/
example : resolve none (some (text ⟨"my pkl", []⟩)) = ⟨"my", ["pkl"]⟩ := by decide

end PklHost.Command
