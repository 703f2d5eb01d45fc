import PklHost.Proofs.Text.Pattern
import PklHost.Version

/-!
# The version in a text

A release is three numbers with points between them, a version a release with perhaps two suffixes.  What
`Version.find?` gives is what a search for the pattern of a version gives, which goes back wherever a part of
the pattern does not fit (`search_eq`), and it is the longest version behind the first name that a release
follows (`find?_leftmost_longest`).

Both rest on the same fact: the pattern settles (`settles_pattern`).  A number that is taken short is followed
by a digit, a suffix that is taken short or left out by one of its own characters, and what comes next in the
pattern begins with none of these.
-/

namespace PklHost.Version

open Text (Pattern)

variable {cs w : List Char} {sign : Char}

/-! ## The grammar -/

/-- A number: decimal digits, at least one. -/
def IsNumber (w : List Char) : Prop :=
  w ≠ [] ∧ ∀ c ∈ w, Text.isDigit c = true

/-- Three numbers with points between them. -/
inductive IsRelease : List Char → Prop
  | numbers {a b c : List Char} (ha : IsNumber a) (hb : IsNumber b) (hc : IsNumber c) :
    IsRelease (a ++ '.' :: (b ++ '.' :: c))

/-- A sign with characters behind it, at least one, or nothing. -/
inductive IsSuffix (sign : Char) : List Char → Prop
  | absent : IsSuffix sign []
  | present {body : List Char} (hne : body ≠ []) (hbody : ∀ c ∈ body, isSuffixChar c = true) :
    IsSuffix sign (sign :: body)

/-- A release, then perhaps a pre-release, then perhaps a build. -/
inductive IsVersion : List Char → Prop
  | parts {release preRelease build : List Char} (hrelease : IsRelease release)
    (hpre : IsSuffix '-' preRelease) (hbuild : IsSuffix '+' build) :
    IsVersion (release ++ preRelease ++ build)

/-- What a version stands behind. -/
def label : List Char := ['P', 'k', 'l', ' ']

/-- At a place of a text stands the label, and a release behind it. -/
def StandsAt (t : List Char) (i : Nat) : Prop :=
  ∃ release, IsRelease release ∧ label ++ release <+: t.drop i

/-- A word is the longest of its kind at the front of a text. -/
structure Longest (Kind : List Char → Prop) (cs w : List Char) : Prop where
  kind : Kind w
  front : w <+: cs
  longest : ∀ v, Kind v → v <+: cs → v.length ≤ w.length

/-- The pattern of a suffix. -/
def suffixPattern (sign : Char) : Pattern :=
  .optional ((Pattern.one (· == sign)).andThen (.run isSuffixChar))

/-- The pattern of both suffixes. -/
def suffixesPattern : Pattern :=
  (suffixPattern '-').andThen (suffixPattern '+')

/-- The pattern of a version. -/
def pattern : Pattern :=
  (Pattern.run Text.isDigit).andThen <| (Pattern.one (· == '.')).andThen <|
    (Pattern.run Text.isDigit).andThen <| (Pattern.one (· == '.')).andThen <|
      (Pattern.run Text.isDigit).andThen suffixesPattern

/-! ## The words of the pattern -/

theorem takes_one_iff {c : Char} : (Pattern.one (· == c)).Takes w ↔ w = [c] := by
  simp [Pattern.Takes]

theorem takes_suffix_iff : (suffixPattern sign).Takes w ↔ IsSuffix sign w := by
  unfold suffixPattern
  rw [Pattern.Takes, Pattern.Takes]
  constructor
  · rintro (rfl | ⟨u, body, hsign, ⟨hne, hbody⟩, rfl⟩)
    · exact .absent
    · obtain rfl := takes_one_iff.1 hsign
      exact .present hne hbody
  · rintro (_ | ⟨hne, hbody⟩)
    · exact .inl rfl
    · exact .inr ⟨[sign], _, takes_one_iff.2 rfl, ⟨hne, hbody⟩, rfl⟩

theorem takes_pattern_iff : pattern.Takes w ↔ IsVersion w := by
  unfold pattern suffixesPattern
  simp only [Pattern.takes_andThen, takes_one_iff, takes_suffix_iff]
  constructor
  · rintro ⟨a, -, ha, ⟨-, -, rfl, ⟨b, -, hb, ⟨-, -, rfl, ⟨c, -, hc, ⟨preRelease, build, hpre, hbuild, rfl⟩,
      rfl⟩, rfl⟩, rfl⟩, rfl⟩, rfl⟩
    have hversion := IsVersion.parts (.numbers ha hb hc) hpre hbuild
    simpa using hversion
  · rintro ⟨⟨ha, hb, hc⟩, hpre, hbuild⟩
    refine ⟨_, _, ha, ⟨_, _, rfl, ⟨_, _, hb, ⟨_, _, rfl, ⟨_, _, hc, ⟨_, _, hpre, hbuild, rfl⟩, rfl⟩, rfl⟩,
      rfl⟩, rfl⟩, ?_⟩
    simp

/-- A version stands at the front exactly if a release does. -/
theorem exists_version_iff :
    (∃ v, IsVersion v ∧ v <+: cs) ↔ ∃ release, IsRelease release ∧ release <+: cs := by
  constructor
  · rintro ⟨-, ⟨hrelease, -, -⟩, hfront⟩
    rw [List.append_assoc] at hfront
    exact ⟨_, hrelease, (List.prefix_append _ _).trans hfront⟩
  · rintro ⟨release, hrelease, hfront⟩
    refine ⟨release, ?_, hfront⟩
    simpa using IsVersion.parts hrelease .absent .absent

/-! ## The pattern settles -/

theorem avoids_point (next : Pattern) :
    ((Pattern.one (· == '.')).andThen next).Avoids (fun c => Text.isDigit c = true) := by
  rintro c w ⟨u, v, hu, -, heq⟩ hc
  obtain rfl := takes_one_iff.1 hu
  obtain rfl := (List.cons.inj heq).1
  revert hc
  decide

theorem eq_sign_of_takes {c : Char} (htakes : (suffixPattern sign).Takes (c :: w)) : c = sign := by
  cases takes_suffix_iff.1 htakes
  rfl

theorem avoids_suffixes : suffixesPattern.Avoids (fun c => Text.isDigit c = true) := by
  rintro c w ⟨u, v, hu, hv, heq⟩ hc
  have hsign : c = '-' ∨ c = '+' := by
    cases u with
    | nil =>
        obtain rfl : c :: w = v := heq
        exact .inr (eq_sign_of_takes hv)
    | cons c' u =>
        obtain ⟨rfl, -⟩ := List.cons.inj heq
        exact .inl (eq_sign_of_takes hu)
  rcases hsign with rfl | rfl <;> revert hc <;> decide

theorem avoids_build : (suffixPattern '+').Avoids (fun c => isSuffixChar c = true ∨ c = '-') := by
  intro c w htakes
  obtain rfl := eq_sign_of_takes htakes
  decide

theorem settles_suffix (sign : Char) :
    (suffixPattern sign).Settles (fun c => isSuffixChar c = true ∨ c = sign) := by
  have hbody : ((Pattern.one (· == sign)).andThen (.run isSuffixChar)).Settles
      (fun c => False ∨ isSuffixChar c = true) :=
    (Pattern.settles_one _).andThen (Pattern.settles_run _) fun _ _ _ => not_false
  refine Pattern.settles_optional (hbody.mono fun c hc => .inl (hc.resolve_left not_false)) ?_ ?_
  · rintro ⟨u, v, hu, -, heq⟩
    obtain rfl := takes_one_iff.1 hu
    cases heq
  · rintro c w ⟨u, v, hu, -, heq⟩
    obtain rfl := takes_one_iff.1 hu
    exact .inr (List.cons.inj heq).1

/-- A number with a point behind it settles if what comes then does. -/
theorem settles_number_point {next : Pattern} {class' : Char → Prop} (hnext : next.Settles class') :
    ((Pattern.run Text.isDigit).andThen ((Pattern.one (· == '.')).andThen next)).Settles
      (fun c => Text.isDigit c = true ∨ False ∨ class' c) :=
  (Pattern.settles_run _).andThen
    ((Pattern.settles_one _).andThen hnext fun _ _ _ => not_false) (avoids_point next)

theorem settles_pattern : ∃ next, pattern.Settles next := by
  have hsuffixes := (settles_suffix '-').andThen (settles_suffix '+') avoids_build
  have hlast := (Pattern.settles_run Text.isDigit).andThen hsuffixes avoids_suffixes
  exact ⟨_, settles_number_point (settles_number_point hlast)⟩

/-! ## The best way of the pattern -/

theorem best_number (cs : List Char) : (Pattern.run Text.isDigit).best cs = number? cs := by
  rw [Pattern.best_run]
  unfold number?
  simp only [List.isEmpty_iff]

theorem best_point (cs : List Char) :
    (Pattern.one (· == '.')).best cs = (point? cs).map fun rest => (['.'], rest) := by
  rw [Pattern.best_one]
  cases cs with
  | nil => rfl
  | cons c cs =>
      by_cases hc : c = '.'
      · subst hc
        rfl
      · have hnone : point? (c :: cs) = none := by
          unfold point?
          split
          · next heq => exact absurd (List.cons.inj heq).1 hc
          · rfl
        simp [hnone, hc]

theorem best_suffix (sign : Char) (cs : List Char) :
    (suffixPattern sign).best cs = some (suffix sign cs) := by
  unfold suffixPattern
  rw [Pattern.best_optional, Pattern.best_one_andThen, Pattern.best_one]
  cases cs with
  | nil => rfl
  | cons c cs =>
      rw [suffix]
      by_cases hc : c = sign
      · by_cases hbody : cs.takeWhile isSuffixChar = []
        · rw [List.head?_cons, Option.bind_some, if_pos (beq_iff_eq.2 hc), Option.bind_some,
            List.tail_cons, Pattern.best_run, if_pos hbody, hbody]
          simp
        · rw [List.head?_cons, Option.bind_some, if_pos (beq_iff_eq.2 hc), Option.bind_some,
            List.tail_cons, Pattern.best_run, if_neg hbody, if_pos]
          · simp
          · rw [List.isEmpty_eq_false_iff.2 hbody]
            simpa using hc
      · simp [hc]

theorem best_number_point (next : Pattern) (cs : List Char) :
    ((Pattern.run Text.isDigit).andThen ((Pattern.one (· == '.')).andThen next)).best cs =
      (number? cs).bind fun a => (point? a.2).bind fun cs => (next.best cs).map fun w =>
        (a.1 ++ '.' :: w.1, w.2) := by
  rw [(Pattern.settles_run _).best_andThen (avoids_point next), best_number]
  congr 1
  funext a
  rw [Pattern.best_one_andThen, best_point]
  cases point? a.2 with
  | none => rfl
  | some cs =>
      cases hnext : next.best cs <;> simp [hnext]

theorem best_suffixes (cs : List Char) : suffixesPattern.best cs =
    some ((suffix '-' cs).1 ++ (suffix '+' (suffix '-' cs).2).1, (suffix '+' (suffix '-' cs).2).2) := by
  unfold suffixesPattern
  rw [(settles_suffix '-').best_andThen avoids_build, best_suffix, Option.bind_some, best_suffix,
    Option.map_some]

/-- No part of a version has to be taken shorter than it can be. -/
theorem best_pattern (cs : List Char) : (pattern.best cs).map Prod.fst = atFront? cs := by
  unfold pattern atFront?
  rw [best_number_point]
  cases number? cs with
  | none => rfl
  | some a =>
      simp only [Option.bind_some, Option.bind_eq_bind]
      cases point? a.2 with
      | none => rfl
      | some cs =>
          simp only [Option.bind_some]
          rw [best_number_point]
          cases number? cs with
          | none => rfl
          | some b =>
              simp only [Option.bind_some]
              cases point? b.2 with
              | none => rfl
              | some cs =>
                  simp only [Option.bind_some]
                  rw [(Pattern.settles_run _).best_andThen avoids_suffixes, best_number]
                  cases number? cs with
                  | none => rfl
                  | some c => simp [best_suffixes]

theorem behind_label (rest : List Char) :
    (Pattern.behind? label pattern (label ++ rest)).map Prod.fst = atFront? rest := by
  unfold Pattern.behind?
  rw [if_pos (List.prefix_append label rest), List.drop_left, best_pattern]

theorem search?_cons (c : Char) (cs : List Char) :
    search? (c :: cs) =
      ((Pattern.behind? label pattern (c :: cs)).map Prod.fst).or (search? cs) := by
  rw [search?, Option.or_eq_orElse]
  by_cases hlabel : label <+: c :: cs
  · obtain ⟨rest, heq⟩ := hlabel
    rw [← heq, behind_label]
    obtain ⟨rfl, rfl⟩ := List.cons.inj heq
    rfl
  · have hnone : Pattern.behind? label pattern (c :: cs) = none := if_neg hlabel
    rw [hnone]
    split
    · next rest heq => exact absurd ⟨rest, heq.symm⟩ hlabel
    · rfl

theorem search_eq (cs : List Char) : Pattern.search label pattern cs = search? cs := by
  induction cs with
  | nil => rfl
  | cons c cs ih => rw [Pattern.search, ih, search?_cons]

/-! ## The first place -/

theorem behind_eq_none_iff {t : List Char} {i : Nat} :
    Pattern.behind? label pattern (t.drop i) = none ↔ ¬ StandsAt t i := by
  unfold Pattern.behind? StandsAt
  constructor
  · rintro hnone ⟨release, hrelease, hfront⟩
    have hlabel : label <+: t.drop i := (List.prefix_append _ _).trans hfront
    rw [if_pos hlabel, Pattern.best_eq_none_iff] at hnone
    obtain ⟨rest, heq⟩ := hlabel
    rw [← heq, List.prefix_append_right_inj] at hfront
    obtain ⟨v, hv, hprefix⟩ := exists_version_iff.2 ⟨release, hrelease, hfront⟩
    exact hnone v (takes_pattern_iff.2 hv) (by rwa [← heq, List.drop_left])
  · intro hnone
    split
    · next hlabel =>
        obtain ⟨rest, heq⟩ := hlabel
        rw [← heq, List.drop_left, Pattern.best_eq_none_iff]
        intro v hv hprefix
        obtain ⟨release, hrelease, hfront⟩ := exists_version_iff.1 ⟨v, takes_pattern_iff.1 hv, hprefix⟩
        exact hnone ⟨release, hrelease, by rwa [← heq, List.prefix_append_right_inj]⟩
    · rfl

/-- Behind the label stands the longest version. -/
theorem behind_eq_some_iff {t v : List Char} {i : Nat} :
    (∃ rest, Pattern.behind? label pattern (t.drop i) = some (v, rest)) ↔
      StandsAt t i ∧ Longest IsVersion (t.drop (i + label.length)) v := by
  obtain ⟨next, hsettles⟩ := settles_pattern
  rw [← List.drop_drop]
  have hlongest : ∀ {w rest}, Pattern.behind? label pattern (t.drop i) = some (w, rest) →
      Longest IsVersion ((t.drop i).drop label.length) w := by
    intro w rest hbest
    unfold Pattern.behind? at hbest
    split at hbest
    · obtain ⟨hw, heq, hall⟩ := hsettles.longest hbest
      exact ⟨takes_pattern_iff.1 hw, ⟨rest, heq.symm⟩,
        fun u hu hfront => hall u (takes_pattern_iff.2 hu) hfront⟩
    · cases hbest
  constructor
  · rintro ⟨rest, hbest⟩
    refine ⟨?_, hlongest hbest⟩
    by_contra hnone
    rw [behind_eq_none_iff.2 hnone] at hbest
    cases hbest
  · rintro ⟨hstands, hv⟩
    cases hbest : Pattern.behind? label pattern (t.drop i) with
    | none => exact absurd hstands (behind_eq_none_iff.1 hbest)
    | some w =>
        -- both are the longest
        obtain ⟨w, rest⟩ := w
        have hw := hlongest hbest
        have hlength := Nat.le_antisymm (hw.longest v hv.kind hv.front) (hv.longest w hw.kind hw.front)
        have hsame : v = w := by
          rw [List.prefix_iff_eq_take.1 hv.front, List.prefix_iff_eq_take.1 hw.front, hlength]
        exact ⟨rest, by rw [hsame]⟩

/-- A text has no version exactly if nowhere in it a release stands behind the label.  Else its version is the
longest one behind the first label that a release follows.  That is what a search gives which tries the
places from left to right and at each one all the ways in which the pattern fits. -/
theorem find?_leftmost_longest (t : String) :
    (find? t = none ↔ ∀ i, ¬ StandsAt t.toList i) ∧
    (∀ v, find? t = some v ↔ ∃ i, StandsAt t.toList i ∧ (∀ j < i, ¬ StandsAt t.toList j) ∧
      Longest IsVersion (t.toList.drop (i + label.length)) v.toList) ∧
    find? t = (Pattern.search label pattern t.toList).map String.ofList := by
  unfold find?
  rw [← search_eq]
  refine ⟨?_, fun v => ?_, rfl⟩
  · rw [Option.map_eq_none_iff, Pattern.search_eq_none_iff]
    simp only [behind_eq_none_iff]
  · calc (Pattern.search label pattern t.toList).map String.ofList = some v
      _ ↔ Pattern.search label pattern t.toList = some v.toList := by
          rw [Option.map_eq_some_iff]
          constructor
          · rintro ⟨w, hw, rfl⟩
            rw [hw, String.toList_ofList]
          · exact fun hw => ⟨v.toList, hw, String.ofList_toList⟩
      _ ↔ ∃ i, (∃ rest, Pattern.behind? label pattern (t.toList.drop i) = some (v.toList, rest)) ∧
            ∀ j < i, ¬ StandsAt t.toList j := by
          rw [Pattern.search_eq_some_iff]
          simp only [behind_eq_none_iff, exists_and_right]
      _ ↔ _ := by
          simp only [behind_eq_some_iff]
          exact exists_congr fun i => and_right_comm.trans and_assoc

/-- The first label has no release behind it, and the hyphen begins no suffix. -/
example : find? "Pkl 1.2 Pkl ٣.4.5-+b" = some "٣.4.5" := by decide +kernel

end PklHost.Version
