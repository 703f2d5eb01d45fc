import Mathlib.Data.List.Basic

/-!
# Patterns that take as much as they can

A pattern is tried at the front of a text.  `ways` lists all the ways in which it fits there, each with what
is taken and what is left, in the order of preference: a run of characters is taken whole before it is taken
shorter, and what may be left out is left out last.  A search tries the places of a text from left to right
and takes the best way at the first place where there is one.

In general the first way in that order need not be the longest, and a worse way of one part may be what lets
the next part fit.  Neither happens to a pattern that settles (`Settles`): behind whatever it takes short of
its best there stands a character of a class, and no part that comes next begins with one of those
(`Settles.andThen`).  Then the best way takes the longest of all words (`Settles.longest`), and the best way
of a sequence is made of the best ways of its parts (`Settles.best_andThen`).
-/

namespace PklHost.Text

inductive Pattern where
  /-- One character of a class. -/
  | one (p : Char → Bool)
  /-- One character of a class or more. -/
  | run (p : Char → Bool)
  | optional (body : Pattern)
  | andThen (first second : Pattern)

namespace Pattern

variable {p : Char → Bool} {pattern body first second : Pattern} {cs w rest : List Char}
  {next nextFirst nextSecond : Char → Prop}

/-- The words of a pattern. -/
def Takes : Pattern → List Char → Prop
  | one p, w => ∃ c, p c = true ∧ w = [c]
  | run p, w => w ≠ [] ∧ ∀ c ∈ w, p c = true
  | optional body, w => w = [] ∨ body.Takes w
  | andThen first second, w => ∃ u v, first.Takes u ∧ second.Takes v ∧ w = u ++ v

theorem takes_andThen :
    (first.andThen second).Takes w ↔ ∃ u v, first.Takes u ∧ second.Takes v ∧ w = u ++ v := Iff.rfl

/-- The runs at the front, longer ones first. -/
def runWays (p : Char → Bool) : List Char → List (List Char × List Char)
  | [] => []
  | c :: cs =>
    if p c then (runWays p cs).map (fun w => (c :: w.1, w.2)) ++ [([c], cs)] else []

/-- The ways in which a pattern fits at the front. -/
def ways : Pattern → List Char → List (List Char × List Char)
  | one _, [] => []
  | one p, c :: cs => if p c then [([c], cs)] else []
  | run p, cs => runWays p cs
  | optional body, cs => body.ways cs ++ [([], cs)]
  | andThen first second, cs =>
    (first.ways cs).flatMap fun w => (second.ways w.2).map fun v => (w.1 ++ v.1, v.2)

/-- The way that is preferred to all others. -/
def best (pattern : Pattern) (cs : List Char) : Option (List Char × List Char) :=
  (pattern.ways cs).head?

/-- The best way behind a label at the front. -/
def behind? (label : List Char) (body : Pattern) (cs : List Char) : Option (List Char × List Char) :=
  if label <+: cs then body.best (cs.drop label.length) else none

/-- What a pattern takes behind a label, at the first place of a text where both fit. -/
def search (label : List Char) (body : Pattern) : List Char → Option (List Char)
  | [] => (behind? label body []).map Prod.fst
  | c :: cs => ((behind? label body (c :: cs)).map Prod.fst).or (search label body cs)

/-! ## All ways -/

theorem mem_runWays_iff :
    (w, rest) ∈ runWays p cs ↔ (w ≠ [] ∧ ∀ c ∈ w, p c = true) ∧ cs = w ++ rest := by
  induction cs generalizing w with
  | nil =>
      simp only [runWays, List.not_mem_nil, false_iff]
      rintro ⟨⟨hne, -⟩, heq⟩
      exact hne (List.append_eq_nil_iff.1 heq.symm).1
  | cons c cs ih =>
      rw [runWays]
      split
      · next hc =>
          rw [List.mem_append, List.mem_map, List.mem_singleton]
          constructor
          · rintro (⟨⟨u, r⟩, hu, heq⟩ | heq)
            · obtain ⟨rfl, rfl⟩ := Prod.mk.inj heq
              obtain ⟨⟨-, hall⟩, rfl⟩ := ih.1 hu
              exact ⟨⟨List.cons_ne_nil _ _, List.forall_mem_cons.2 ⟨hc, hall⟩⟩, rfl⟩
            · obtain ⟨rfl, rfl⟩ := Prod.mk.inj heq
              exact ⟨⟨List.cons_ne_nil _ _, by simpa using hc⟩, rfl⟩
          · rintro ⟨⟨hne, hall⟩, heq⟩
            cases w with
            | nil => exact absurd rfl hne
            | cons c' u =>
                obtain ⟨rfl, hcs⟩ := List.cons.inj heq
                by_cases hu : u = []
                · exact .inr (by simp [hu, hcs])
                · exact .inl ⟨(u, rest), ih.2 ⟨⟨hu, (List.forall_mem_cons.1 hall).2⟩, hcs⟩, rfl⟩
      · next hc =>
          simp only [List.not_mem_nil, false_iff]
          rintro ⟨⟨hne, hall⟩, heq⟩
          cases w with
          | nil => exact hne rfl
          | cons c' u =>
              obtain ⟨rfl, -⟩ := List.cons.inj heq
              exact hc (hall _ List.mem_cons_self)

/-- The ways are the words at the front. -/
theorem mem_ways_iff : (w, rest) ∈ pattern.ways cs ↔ pattern.Takes w ∧ cs = w ++ rest := by
  induction pattern generalizing cs w rest with
  | one p =>
      cases cs with
      | nil =>
          simp only [ways, List.not_mem_nil, false_iff, Takes]
          rintro ⟨⟨c, -, rfl⟩, heq⟩
          cases heq
      | cons c cs =>
          by_cases hc : p c = true
          · simp only [ways, hc, if_true, List.mem_singleton, Prod.mk.injEq, Takes]
            constructor
            · rintro ⟨rfl, rfl⟩
              exact ⟨⟨c, hc, rfl⟩, rfl⟩
            · rintro ⟨⟨c', -, rfl⟩, heq⟩
              obtain ⟨rfl, rfl⟩ := List.cons.inj heq
              exact ⟨rfl, rfl⟩
          · simp only [ways, hc, Bool.false_eq_true, if_false, List.not_mem_nil, false_iff, Takes]
            rintro ⟨⟨c', hc', rfl⟩, heq⟩
            exact hc ((List.cons.inj heq).1 ▸ hc')
  | run p => exact mem_runWays_iff
  | optional body ih =>
      rw [ways, List.mem_append, List.mem_singleton, ih, Takes, or_and_right, or_comm, Prod.mk.injEq]
      refine or_congr (and_congr_right ?_) Iff.rfl
      rintro rfl
      exact eq_comm
  | andThen first second ihFirst ihSecond =>
      rw [ways, List.mem_flatMap, Takes]
      constructor
      · rintro ⟨⟨u, mid⟩, hu, hmem⟩
        obtain ⟨⟨v, rest'⟩, hv, heq⟩ := List.mem_map.1 hmem
        obtain ⟨rfl, rfl⟩ := Prod.mk.inj heq
        obtain ⟨hfirst, rfl⟩ := ihFirst.1 hu
        obtain ⟨hsecond, rfl⟩ := ihSecond.1 hv
        exact ⟨⟨u, v, hfirst, hsecond, rfl⟩, (List.append_assoc u v rest').symm⟩
      · rintro ⟨⟨u, v, hfirst, hsecond, rfl⟩, rfl⟩
        exact ⟨(u, v ++ rest), ihFirst.2 ⟨hfirst, List.append_assoc u v rest⟩,
          List.mem_map.2 ⟨(v, rest), ihSecond.2 ⟨hsecond, rfl⟩, rfl⟩⟩

theorem best_eq_none_iff : pattern.best cs = none ↔ ∀ w, pattern.Takes w → ¬ w <+: cs := by
  rw [best, List.head?_eq_none_iff, List.eq_nil_iff_forall_not_mem]
  constructor
  · rintro hnone w hw ⟨rest, rfl⟩
    exact hnone (w, rest) (mem_ways_iff.2 ⟨hw, rfl⟩)
  · rintro hnone ⟨w, rest⟩ hmem
    obtain ⟨hw, rfl⟩ := mem_ways_iff.1 hmem
    exact hnone w hw (List.prefix_append w rest)

/-! ## Patterns that settle -/

/-- All ways but the best one take less, and leave off before a character of a class. -/
def Settles (pattern : Pattern) (next : Char → Prop) : Prop :=
  ∀ cs w others, pattern.ways cs = w :: others →
    ∀ v ∈ others, v.1.length < w.1.length ∧ ∃ c rest, v.2 = c :: rest ∧ next c

/-- Whatever a pattern takes begins with no character of a class. -/
def Avoids (pattern : Pattern) (next : Char → Prop) : Prop :=
  ∀ c w, pattern.Takes (c :: w) → ¬ next c

theorem Settles.mono (hsettles : pattern.Settles next) (hnext : ∀ c, next c → nextFirst c) :
    pattern.Settles nextFirst := by
  intro cs w others hways v hv
  obtain ⟨hlt, c, rest, heq, hc⟩ := hsettles cs w others hways v hv
  exact ⟨hlt, c, rest, heq, hnext c hc⟩

theorem settles_one (p : Char → Bool) : (one p).Settles next := by
  intro cs w others hways v hv
  have hlength : ((one p).ways cs).length ≤ 1 := by
    unfold ways
    split
    · simp
    · split <;> simp
    all_goals simp_all
  rw [hways, List.length_cons] at hlength
  cases others with
  | nil => cases hv
  | cons other others => simp at hlength

theorem settles_run (p : Char → Bool) : (run p).Settles (fun c => p c = true) := by
  intro cs
  rw [ways]
  induction cs with
  | nil => simp [runWays]
  | cons c cs ih =>
      rw [runWays]
      split
      · cases hways : runWays p cs with
        | nil => simp
        | cons u us =>
            intro w others heq v hv
            obtain ⟨rfl, rfl⟩ := List.cons.inj heq
            rcases List.mem_append.1 hv with hlonger | hlast
            · obtain ⟨v', hv', rfl⟩ := List.mem_map.1 hlonger
              obtain ⟨hlt, hnext⟩ := ih u us hways v' hv'
              exact ⟨Nat.succ_lt_succ hlt, hnext⟩
            · -- the run is taken of length one, although `u` could have come with it
              rw [List.mem_singleton.1 hlast]
              obtain ⟨⟨hne, hall⟩, heq⟩ := mem_runWays_iff.1 (hways ▸ List.mem_cons_self : u ∈ runWays p cs)
              obtain ⟨c', u', hu⟩ := List.exists_cons_of_ne_nil hne
              refine ⟨by simp [hu], c', u' ++ u.2, by simp [heq, hu], hall c' (by simp [hu])⟩
      · simp

theorem settles_optional (hbody : body.Settles next) (hne : ¬ body.Takes [])
    (hbegins : ∀ c w, body.Takes (c :: w) → next c) : (optional body).Settles next := by
  intro cs w others hways v hv
  rw [ways] at hways
  cases hall : body.ways cs with
  | nil =>
      rw [hall] at hways
      obtain ⟨rfl, rfl⟩ := List.cons.inj hways
      cases hv
  | cons u us =>
      rw [hall] at hways
      obtain ⟨rfl, rfl⟩ := List.cons.inj hways
      rcases List.mem_append.1 hv with hbetter | hlast
      · exact hbody cs u us hall v hbetter
      · rw [List.mem_singleton.1 hlast]
        obtain ⟨u, rest⟩ := u
        obtain ⟨hu, rfl⟩ := mem_ways_iff.1 (hall ▸ List.mem_cons_self : (u, rest) ∈ body.ways cs)
        cases u with
        | nil => exact absurd hu hne
        | cons c u => exact ⟨Nat.succ_pos _, c, u ++ rest, rfl, hbegins c u hu⟩

/-- What fits behind a way of the first part that is not its best takes nothing. -/
theorem eq_nil_of_avoids (havoids : second.Avoids nextFirst) {v rest : List Char} {c : Char}
    (hc : nextFirst c) (hv : (v, rest) ∈ second.ways (c :: cs)) : v = [] := by
  obtain ⟨htakes, heq⟩ := mem_ways_iff.1 hv
  cases v with
  | nil => rfl
  | cons c' v =>
      obtain ⟨rfl, -⟩ := List.cons.inj heq
      exact absurd hc (havoids c v htakes)

/-- Where the second part does not fit behind the best way of the first, it fits behind no other. -/
theorem ways_eq_nil_of_avoids (hfirst : first.Settles nextFirst) (havoids : second.Avoids nextFirst)
    {w : List Char × List Char} {ws : List (List Char × List Char)} (hways : first.ways cs = w :: ws)
    (hnone : second.ways w.2 = []) : ∀ u ∈ ws, second.ways u.2 = [] := by
  intro u hu
  obtain ⟨-, c, rest, heq, hc⟩ := hfirst cs w ws hways u hu
  refine List.eq_nil_iff_forall_not_mem.2 fun ⟨v, rest'⟩ hv => ?_
  rw [heq] at hv
  obtain rfl := eq_nil_of_avoids havoids hc hv
  -- the empty word fits everywhere
  have hempty : ([], w.2) ∈ second.ways w.2 := mem_ways_iff.2 ⟨(mem_ways_iff.1 hv).1, rfl⟩
  rw [hnone] at hempty
  cases hempty

theorem Settles.andThen (hfirst : first.Settles nextFirst) (hsecond : second.Settles nextSecond)
    (havoids : second.Avoids nextFirst) :
    (first.andThen second).Settles (fun c => nextFirst c ∨ nextSecond c) := by
  intro cs w others hways v hv
  rw [ways] at hways
  cases hw : first.ways cs with
  | nil =>
      rw [hw] at hways
      cases hways
  | cons u us =>
      rw [hw, List.flatMap_cons] at hways
      cases hu : second.ways u.2 with
      | nil =>
          have hnone := ways_eq_nil_of_avoids hfirst havoids hw hu
          have hrest : (us.flatMap fun w => (second.ways w.2).map fun v => (w.1 ++ v.1, v.2)) = [] :=
            List.flatMap_eq_nil_iff.2 fun u' hu' => by rw [hnone u' hu', List.map_nil]
          rw [hu, hrest] at hways
          cases hways
      | cons t ts =>
          rw [hu] at hways
          obtain ⟨rfl, rfl⟩ := List.cons.inj hways
          rcases List.mem_append.1 hv with hsame | hother
          · obtain ⟨t', ht', rfl⟩ := List.mem_map.1 hsame
            obtain ⟨hlt, c, rest, heq, hc⟩ := hsecond u.2 t ts hu t' ht'
            exact ⟨by simpa using hlt, c, rest, heq, .inr hc⟩
          · obtain ⟨u', hu', hmem⟩ := List.mem_flatMap.1 hother
            obtain ⟨⟨t', rest'⟩, ht', rfl⟩ := List.mem_map.1 hmem
            obtain ⟨hlt, c, rest, heq, hc⟩ := hfirst cs u us hw u' hu'
            rw [heq] at ht'
            obtain rfl := eq_nil_of_avoids havoids hc ht'
            obtain ⟨-, rfl⟩ := mem_ways_iff.1 ht'
            refine ⟨?_, c, rest, rfl, .inl hc⟩
            rw [List.append_nil, List.length_append]
            exact Nat.lt_add_right _ hlt

/-- The best way takes the longest word. -/
theorem Settles.longest (hsettles : pattern.Settles next) (hbest : pattern.best cs = some (w, rest)) :
    pattern.Takes w ∧ cs = w ++ rest ∧ ∀ v, pattern.Takes v → v <+: cs → v.length ≤ w.length := by
  obtain ⟨others, hways⟩ : ∃ others, pattern.ways cs = (w, rest) :: others :=
    List.head?_eq_some_iff.1 hbest
  obtain ⟨hw, heq⟩ := mem_ways_iff.1 (hways ▸ List.mem_cons_self : (w, rest) ∈ pattern.ways cs)
  refine ⟨hw, heq, fun v hv => ?_⟩
  rintro ⟨rest', rfl⟩
  have hmem : (v, rest') ∈ pattern.ways (v ++ rest') := mem_ways_iff.2 ⟨hv, rfl⟩
  rw [hways] at hmem
  rcases List.mem_cons.1 hmem with hsame | hother
  · exact Nat.le_of_eq (congrArg List.length (Prod.mk.inj hsame).1)
  · exact Nat.le_of_lt (hsettles _ _ _ hways _ hother).1

/-- The best way of a sequence is made of the best ways of its parts. -/
theorem Settles.best_andThen (hfirst : first.Settles nextFirst) (havoids : second.Avoids nextFirst) :
    (first.andThen second).best cs =
      (first.best cs).bind fun w => (second.best w.2).map fun v => (w.1 ++ v.1, v.2) := by
  unfold best
  rw [ways]
  cases hw : first.ways cs with
  | nil => rfl
  | cons u us =>
      rw [List.flatMap_cons, List.head?_cons, Option.bind_some, ← List.head?_map]
      cases hu : second.ways u.2 with
      | nil =>
          have hnone := ways_eq_nil_of_avoids hfirst havoids hw hu
          rw [List.map_nil, List.nil_append,
            List.flatMap_eq_nil_iff.2 fun u' hu' => by rw [hnone u' hu', List.map_nil]]
      | cons t ts => rfl

/-- One character has one way, whatever comes next. -/
theorem best_one_andThen (p : Char → Bool) (second : Pattern) (cs : List Char) :
    ((one p).andThen second).best cs =
      ((one p).best cs).bind fun w => (second.best w.2).map fun v => (w.1 ++ v.1, v.2) :=
  (@settles_one (fun _ => False) p).best_andThen fun _ _ _ => not_false

/-! ## The best way of each pattern -/

theorem best_one (p : Char → Bool) (cs : List Char) :
    (one p).best cs = cs.head?.bind fun c => if p c then some ([c], cs.tail) else none := by
  cases cs with
  | nil => rfl
  | cons c cs =>
      unfold best ways
      rw [List.head?_cons, Option.bind_some]
      split <;> rfl

theorem best_run (p : Char → Bool) (cs : List Char) :
    (run p).best cs =
      if cs.takeWhile p = [] then none else some (cs.takeWhile p, cs.dropWhile p) := by
  unfold best ways
  induction cs with
  | nil => rfl
  | cons c cs ih =>
      by_cases hc : p c = true
      · rw [runWays, if_pos hc, List.head?_append, List.head?_map, ih, List.takeWhile_cons_of_pos hc,
          List.dropWhile_cons_of_pos hc]
        by_cases hempty : cs.takeWhile p = []
        · -- the run is `c` alone
          have hrest : cs.dropWhile p = cs := by
            simpa [hempty] using List.takeWhile_append_dropWhile (p := p) (l := cs)
          simp [hempty, hrest]
        · simp [hempty]
      · simp [runWays, hc]

theorem best_optional (body : Pattern) (cs : List Char) :
    (optional body).best cs = some ((body.best cs).getD ([], cs)) := by
  unfold best
  rw [ways]
  cases body.ways cs <;> rfl

/-! ## Searching -/

theorem search_eq_none_iff {label : List Char} {t : List Char} :
    search label body t = none ↔ ∀ i, behind? label body (t.drop i) = none := by
  induction t with
  | nil => simp [search]
  | cons c cs ih =>
      rw [search, Option.or_eq_none_iff, Option.map_eq_none_iff, ih]
      constructor
      · rintro ⟨hhere, hlater⟩ i
        cases i with
        | zero => exact hhere
        | succ i => exact hlater i
      · exact fun hnone => ⟨hnone 0, fun i => hnone (i + 1)⟩

/-- A search finds what fits at the first place where something does. -/
theorem search_eq_some_iff {label : List Char} {t v : List Char} :
    search label body t = some v ↔ ∃ i rest, behind? label body (t.drop i) = some (v, rest) ∧
      ∀ j < i, behind? label body (t.drop j) = none := by
  induction t with
  | nil =>
      simp only [search, List.drop_nil, Option.map_eq_some_iff]
      constructor
      · rintro ⟨⟨_, rest⟩, hbest, rfl⟩
        exact ⟨0, rest, hbest, fun j hj => absurd hj (Nat.not_lt_zero j)⟩
      · rintro ⟨-, rest, hbest, -⟩
        exact ⟨(v, rest), hbest, rfl⟩
  | cons c cs ih =>
      rw [search]
      cases hhere : behind? label body (c :: cs) with
      | some w =>
          rw [Option.map_some, Option.some_or, Option.some.injEq]
          constructor
          · rintro rfl
            exact ⟨0, w.2, hhere, fun j hj => absurd hj (Nat.not_lt_zero j)⟩
          · rintro ⟨i, rest, hbest, hfirst⟩
            cases i with
            | zero =>
                rw [List.drop_zero, hhere] at hbest
                rw [Option.some.inj hbest]
            | succ i =>
                have hnone := hfirst 0 (Nat.succ_pos i)
                rw [List.drop_zero, hhere] at hnone
                cases hnone
      | none =>
          rw [Option.map_none, Option.none_or, ih]
          constructor
          · rintro ⟨i, rest, hbest, hfirst⟩
            refine ⟨i + 1, rest, hbest, fun j hj => ?_⟩
            cases j with
            | zero => exact hhere
            | succ j => exact hfirst j (Nat.lt_of_succ_lt_succ hj)
          · rintro ⟨i, rest, hbest, hfirst⟩
            cases i with
            | zero =>
                rw [List.drop_zero, hhere] at hbest
                cases hbest
            | succ i => exact ⟨i, rest, hbest, fun j hj => hfirst (j + 1) (Nat.succ_lt_succ hj)⟩

end Pattern

end PklHost.Text
