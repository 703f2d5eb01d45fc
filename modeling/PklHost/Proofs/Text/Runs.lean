import Mathlib.Data.List.Basic
import PklHost.Text.Blank

/-!
# Words are runs

A run of a text is a stretch of characters none of which is blank, as long as it can be: what stands before
it is nothing or ends in a blank, and what stands behind it is nothing or begins with one.  Splitting a text
at its blanks gives its runs and nothing else, from left to right (`exists_listsRuns`), however many blanks
there are before, between and behind them and whichever they are.  Words that are joined by single blanks
are split again into the same words (`splitBlank_intercalate`).

Both go by `run_induction`: a text is empty, or it begins with a blank, or with a whole run.
-/

namespace PklHost.Text

variable {cs before word after w rest : List Char} {c : Char}

/-- The characters of a word: there is one, and none is blank. -/
structure IsWord (w : List Char) : Prop where
  nonempty : w ≠ []
  unbroken : ∀ c ∈ w, isBlank c = false

theorem isWord_iff : IsWord w ↔ w ≠ [] ∧ w.all (fun c => !isBlank c) = true := by
  rw [List.all_eq_true]
  exact ⟨fun h => ⟨h.nonempty, fun c hc => by rw [h.unbroken c hc]; rfl⟩,
    fun h => ⟨h.1, fun c hc => by simpa using h.2 c hc⟩⟩

instance : Decidable (IsWord w) := decidable_of_iff' _ isWord_iff

/-- A maximal run of characters that are not blank, with what stands before and behind it. -/
structure IsRun (cs before word after : List Char) : Prop where
  parts : cs = before ++ (word ++ after)
  word : IsWord word
  opens : ∀ c ∈ before.getLast?, isBlank c = true
  closes : ∀ c ∈ after.head?, isBlank c = true

/-- All runs of a text from left to right, each with what stands before it. -/
structure ListsRuns (cs : List Char) (runs : List (List Char × List Char)) : Prop where
  complete : ∀ before word, (before, word) ∈ runs ↔ ∃ after, IsRun cs before word after
  ordered : runs.Pairwise fun p q => p.1.length < q.1.length

/-! ## Splitting -/

@[simp] theorem splitBlank_nil : splitBlank [] = [] := rfl

theorem splitBlank_cons (hc : isBlank c = true) : splitBlank (c :: cs) = splitBlank cs := by
  rw [splitBlank, splitBlank.go, if_pos hc, splitBlank]

/-- The letters of a word are kept in reverse until it ends. -/
theorem splitBlank.go_append (acc : List Char) (hw : ∀ c ∈ w, isBlank c = false) :
    splitBlank.go acc (w ++ rest) = splitBlank.go (w.reverse ++ acc) rest := by
  induction w generalizing acc with
  | nil => rfl
  | cons c w ih =>
      obtain ⟨hc, hw⟩ := List.forall_mem_cons.1 hw
      have hkept : go acc (c :: (w ++ rest)) = go (c :: acc) (w ++ rest) := by
        cases acc <;> simp [go, hc]
      rw [List.cons_append, hkept, ih (c :: acc) hw, List.reverse_cons, List.append_assoc]
      rfl

/-- The end of a text closes a word, as a blank does. -/
theorem closes_nil : ∀ c ∈ ([] : List Char).head?, isBlank c = true := fun _ h => by cases h

/-- A word that is closed is the first one. -/
theorem splitBlank_append (hw : IsWord w) (hcloses : ∀ c ∈ rest.head?, isBlank c = true) :
    splitBlank (w ++ rest) = w :: splitBlank rest := by
  obtain ⟨last, front, hreverse⟩ := List.exists_cons_of_ne_nil (mt List.reverse_eq_nil_iff.1 hw.nonempty)
  have hback : (last :: front).reverse = w := by rw [← hreverse, List.reverse_reverse]
  rw [splitBlank, splitBlank.go_append [] hw.unbroken, List.append_nil, hreverse]
  cases rest with
  | nil => exact congrArg (· :: []) hback
  | cons c cs =>
      have hc : isBlank c = true := hcloses c rfl
      simp only [splitBlank.go, if_pos hc]
      rw [hback, splitBlank_cons hc, splitBlank]

/-! ## Texts, run by run -/

/-- What stands at the front of a text up to the first blank, and what is left. -/
theorem exists_word_append (hc : isBlank c = false) (cs : List Char) :
    ∃ w rest, IsWord w ∧ (∀ c ∈ rest.head?, isBlank c = true) ∧ c :: cs = w ++ rest := by
  induction cs generalizing c with
  | nil => exact ⟨[c], [], ⟨List.cons_ne_nil _ _, by simpa using hc⟩, closes_nil, rfl⟩
  | cons d cs ih =>
      cases hd : isBlank d with
      | true =>
          refine ⟨[c], d :: cs, ⟨List.cons_ne_nil _ _, by simpa using hc⟩, fun e he => ?_, rfl⟩
          rwa [← Option.some.inj he]
      | false =>
          obtain ⟨w, rest, hw, hcloses, hcs⟩ := ih hd
          exact ⟨c :: w, rest, ⟨List.cons_ne_nil _ _, List.forall_mem_cons.2 ⟨hc, hw.unbroken⟩⟩, hcloses,
            by rw [hcs, List.cons_append]⟩

/-- Induction on a text by its blanks and runs. -/
theorem run_induction {motive : List Char → Prop} (nil : motive [])
    (blank : ∀ c cs, isBlank c = true → motive cs → motive (c :: cs))
    (word : ∀ w rest, IsWord w → (∀ c ∈ rest.head?, isBlank c = true) → motive rest → motive (w ++ rest))
    (cs : List Char) : motive cs := by
  induction hlength : cs.length using Nat.strongRecOn generalizing cs with
  | ind n ih =>
      subst hlength
      cases cs with
      | nil => exact nil
      | cons c cs =>
          cases hc : isBlank c with
          | true => exact blank c cs hc (ih _ (Nat.lt_succ_self _) cs rfl)
          | false =>
              obtain ⟨w, rest, hw, hcloses, hcs⟩ := exists_word_append hc cs
              rw [hcs] at ih ⊢
              have hshorter : rest.length < (w ++ rest).length := by
                rw [List.length_append]
                have := List.length_pos_iff.2 hw.nonempty
                omega
              exact word w rest hw hcloses (ih _ hshorter rest rfl)

/-! ## Runs -/

/-- The word at the front of a text reaches to the first blank. -/
theorem IsWord.takeWhile_append (hw : IsWord w) (hcloses : ∀ c ∈ rest.head?, isBlank c = true) :
    (w ++ rest).takeWhile (fun c => !isBlank c) = w := by
  rw [List.takeWhile_append_of_pos fun c hc => by rw [hw.unbroken c hc]; rfl]
  cases rest with
  | nil => exact List.append_nil w
  | cons c cs => rw [List.takeWhile_cons_of_neg (by simpa using hcloses c rfl), List.append_nil]

theorem not_isRun_nil : ¬ IsRun [] before word after := fun h => by
  have hparts := List.append_eq_nil_iff.1 h.parts.symm
  exact h.word.nonempty (List.append_eq_nil_iff.1 hparts.2).1

/-- No run begins at a blank. -/
theorem IsRun.before_ne_nil (h : IsRun cs before word after) (hcs : ∀ c ∈ cs.head?, isBlank c = true) :
    before ≠ [] := by
  rintro rfl
  obtain ⟨c, w, rfl⟩ := List.exists_cons_of_ne_nil h.word.nonempty
  have hblank := hcs c (by rw [h.parts]; rfl)
  rw [h.word.unbroken c List.mem_cons_self] at hblank
  cases hblank

/-- The runs of a text that begins with a blank are those behind it. -/
theorem isRun_cons_iff (hc : isBlank c = true) :
    IsRun (c :: cs) before word after ↔ ∃ b, before = c :: b ∧ IsRun cs b word after := by
  have hopens : ∀ b : List Char, (∀ d ∈ (c :: b).getLast?, isBlank d = true) ↔
      ∀ d ∈ b.getLast?, isBlank d = true := fun b => by
    cases hlast : b.getLast? <;> simp [List.getLast?_cons, hlast, hc]
  constructor
  · intro h
    obtain ⟨d, b, rfl⟩ := List.exists_cons_of_ne_nil
      (h.before_ne_nil fun e he => by rwa [← Option.some.inj he])
    obtain ⟨rfl, hcs⟩ := List.cons.inj h.parts
    exact ⟨b, rfl, hcs, h.word, (hopens b).1 h.opens, h.closes⟩
  · rintro ⟨b, rfl, h⟩
    exact ⟨congrArg (c :: ·) h.parts, h.word, (hopens b).2 h.opens, h.closes⟩

/-- The runs of a text that begins with a closed word are that word and those behind it. -/
theorem isRun_append_iff (hw : IsWord w) (hcloses : ∀ c ∈ rest.head?, isBlank c = true) :
    IsRun (w ++ rest) before word after ↔
      before = [] ∧ word = w ∧ after = rest ∨ ∃ b, before = w ++ b ∧ IsRun rest b word after := by
  have hopens : ∀ b : List Char, b ≠ [] → (w ++ b).getLast? = b.getLast? := fun b hb => by
    rw [List.getLast?_append, Option.or_of_isSome (List.getLast?_isSome.2 hb)]
  constructor
  · intro h
    cases before with
    | nil =>
        -- both words reach to the first blank
        have hword : word = w := by
          rw [← h.word.takeWhile_append h.closes, ← hw.takeWhile_append hcloses, h.parts]
          rfl
        subst hword
        exact .inl ⟨rfl, rfl, (List.append_cancel_left h.parts).symm⟩
    | cons d before =>
        -- what stands before the run ends in a blank, so it does not end in the first word
        have hends : ∀ more, w ≠ (d :: before) ++ more := fun more hmore => by
          have hlast := (d :: before).getLast_mem (List.cons_ne_nil d before)
          have hblank := h.opens _ (List.getLast?_eq_some_getLast (List.cons_ne_nil d before))
          rw [hw.unbroken _ (hmore ▸ List.mem_append_left more hlast)] at hblank
          cases hblank
        obtain ⟨b, hbefore, hrest⟩ | ⟨more, hmore, -⟩ := List.append_eq_append_iff.1 h.parts
        · have hb : b ≠ [] := by
            rintro rfl
            exact hends [] (by rw [hbefore, List.append_nil, List.append_nil])
          rw [hbefore] at h ⊢
          exact .inr ⟨b, rfl, hrest, h.word, hopens b hb ▸ h.opens, h.closes⟩
        · exact absurd hmore (hends more)
  · rintro (⟨rfl, rfl, rfl⟩ | ⟨b, rfl, h⟩)
    · exact ⟨rfl, hw, closes_nil, hcloses⟩
    · refine ⟨by rw [h.parts, List.append_assoc], h.word, ?_, h.closes⟩
      rw [hopens b (h.before_ne_nil hcloses)]
      exact h.opens

/-! ## All runs -/

theorem listsRuns_nil : ListsRuns [] [] where
  complete before word := by simp [not_isRun_nil]
  ordered := .nil

/-- What stands before a run, behind more of the text. -/
theorem ListsRuns.behind {runs : List (List Char × List Char)} (h : ListsRuns rest runs)
    (front : List Char) :
    (runs.map fun p => (front ++ p.1, p.2)).Pairwise fun p q => p.1.length < q.1.length := by
  rw [List.pairwise_map]
  refine h.ordered.imp fun hpq => ?_
  rw [List.length_append, List.length_append]
  omega

theorem ListsRuns.cons {runs : List (List Char × List Char)} (h : ListsRuns cs runs)
    (hc : isBlank c = true) : ListsRuns (c :: cs) (runs.map fun p => ([c] ++ p.1, p.2)) where
  complete before word := by
    simp only [List.mem_map, Prod.exists, Prod.mk.injEq, h.complete, isRun_cons_iff hc]
    constructor
    · rintro ⟨b, w, ⟨after, hrun⟩, rfl, rfl⟩
      exact ⟨after, b, rfl, hrun⟩
    · rintro ⟨after, b, rfl, hrun⟩
      exact ⟨b, word, ⟨after, hrun⟩, rfl, rfl⟩
  ordered := h.behind [c]

theorem ListsRuns.append {runs : List (List Char × List Char)} (h : ListsRuns rest runs)
    (hw : IsWord w) (hcloses : ∀ c ∈ rest.head?, isBlank c = true) :
    ListsRuns (w ++ rest) (([], w) :: runs.map fun p => (w ++ p.1, p.2)) where
  complete before word := by
    simp only [List.mem_cons, List.mem_map, Prod.exists, Prod.mk.injEq, h.complete,
      isRun_append_iff hw hcloses]
    constructor
    · rintro (⟨rfl, rfl⟩ | ⟨b, v, ⟨after, hrun⟩, rfl, rfl⟩)
      · exact ⟨rest, .inl ⟨rfl, rfl, rfl⟩⟩
      · exact ⟨after, .inr ⟨b, rfl, hrun⟩⟩
    · rintro ⟨after, ⟨rfl, rfl, rfl⟩ | ⟨b, rfl, hrun⟩⟩
      · exact .inl ⟨rfl, rfl⟩
      · exact .inr ⟨b, word, ⟨after, hrun⟩, rfl, rfl⟩
  ordered := by
    refine List.pairwise_cons.2 ⟨fun p hp => ?_, h.behind w⟩
    obtain ⟨q, -, rfl⟩ := List.mem_map.1 hp
    rw [List.length_append]
    exact Nat.lt_of_lt_of_le (List.length_pos_iff.2 hw.nonempty) (Nat.le_add_right _ _)

/-- The words of a text are its runs. -/
theorem exists_listsRuns (cs : List Char) :
    ∃ runs, ListsRuns cs runs ∧ splitBlank cs = runs.map Prod.snd := by
  induction cs using run_induction with
  | nil => exact ⟨[], listsRuns_nil, rfl⟩
  | blank c cs hc ih =>
      obtain ⟨runs, hruns, hsplit⟩ := ih
      exact ⟨_, hruns.cons hc, by rw [splitBlank_cons hc, hsplit, List.map_map]; rfl⟩
  | word w rest hw hcloses ih =>
      obtain ⟨runs, hruns, hsplit⟩ := ih
      exact ⟨_, hruns.append hw hcloses, by
        rw [splitBlank_append hw hcloses, hsplit, List.map_cons, List.map_map]; rfl⟩

theorem isWord_of_mem_splitBlank (h : w ∈ splitBlank cs) : IsWord w := by
  obtain ⟨runs, hruns, hsplit⟩ := exists_listsRuns cs
  rw [hsplit] at h
  obtain ⟨⟨before, w⟩, hmem, rfl⟩ := List.mem_map.1 h
  obtain ⟨after, hrun⟩ := (hruns.complete before w).1 hmem
  exact hrun.word

/-! ## Joining -/

/-- Words that are joined by single blanks are split again into the same words. -/
theorem splitBlank_intercalate {ws : List (List Char)} (h : ∀ w ∈ ws, IsWord w) :
    splitBlank ([' '].intercalate ws) = ws := by
  induction ws with
  | nil => rfl
  | cons w ws ih =>
      obtain ⟨hw, hws⟩ := List.forall_mem_cons.1 h
      cases ws with
      | nil =>
          rw [List.intercalate_singleton]
          simpa using splitBlank_append hw closes_nil
      | cons v ws =>
          have hblank : isBlank ' ' = true := by decide
          rw [List.intercalate_cons_cons, List.append_assoc, splitBlank_append hw, List.singleton_append,
            splitBlank_cons hblank, ih hws]
          intro c hc
          rwa [← Option.some.inj hc]

end PklHost.Text
