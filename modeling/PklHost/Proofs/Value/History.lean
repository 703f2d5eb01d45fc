import Mathlib.Data.List.Induction
import PklHost.Proofs.Value.Equality
import PklHost.Proofs.Value.Insertion

/-!
# What a keyed list keeps of its history

A list into which pairs are inserted one after another keeps of its history the keys that came first, in
their order, each with the value that came last under it (`Keeps`).  A step is one insertion (`keys_insert`,
`get?_insert`, `strays_insert`), a run is a sequence of them, taken from its end (`keys_ofPairs`,
`get?_ofPairs`, `strays_ofPairs`).  It takes an equality of keys that is symmetric and transitive; a key that
does not equal itself equals no other key either, and is kept as often as it is inserted.

What such a list answers follows from its keys being distinct (`answers_of_distinct`).  Entries, whose keys
are values of any kind, and properties, whose keys are names, are lists of this kind (`keyed_by_history`).
-/

namespace PklHost

namespace Assoc

/-- An equality that need not be reflexive. -/
structure PartialEquality {κ : Type u} (same : κ → κ → Bool) : Prop where
  symm : ∀ {a b}, same a b = true → same b a = true
  trans : ∀ {a b c}, same a b = true → same b c = true → same a c = true

theorem PartialEquality.comm {κ : Type u} {same : κ → κ → Bool} (h : PartialEquality same) (a b : κ) :
    same a b = same b a :=
  Bool.eq_iff_iff.2 ⟨h.symm, h.symm⟩

variable {κ : Type u} {α : Type v} {same : κ → κ → Bool}

/-! ## The keys that came first -/

/-- One more element is a duplicate if one of those that are left is the same. -/
theorem eraseDupsBy_concat (r : κ → κ → Bool) (l : List κ) (x : κ) :
    (l ++ [x]).eraseDupsBy r =
      if (l.eraseDupsBy r).any (r x) then l.eraseDupsBy r else l.eraseDupsBy r ++ [x] := by
  match l with
  | [] => simp [List.eraseDupsBy_cons]
  | a :: l =>
      rw [List.cons_append, List.eraseDupsBy_cons, List.eraseDupsBy_cons, List.filter_append, List.any_cons]
      cases hx : r x a with
      | true => simp [hx]
      | false =>
          have hlast : [x].filter (fun b => decide (r b a = false)) = [x] := by simp [hx]
          rw [hlast, eraseDupsBy_concat r (l.filter fun b => decide (r b a = false)) x, Bool.false_or]
          split <;> rfl
termination_by l.length
decreasing_by
  exact Nat.lt_succ_of_le (List.length_filter_le _ _)

/-! ## One insertion -/

/-- A key that is found stands at one place, behind keys that are others. -/
theorem exists_of_get?_eq_some {k : κ} {v : α} {l : List (κ × α)} (h : get? same k l = some v) :
    ∃ front k' back, l = front ++ (k', v) :: back ∧ same k' k = true ∧
      ∀ p ∈ front, same p.1 k = false := by
  induction l with
  | nil => cases h
  | cons p rest ih =>
      obtain ⟨k', v'⟩ := p
      rw [get?] at h
      cases hk : same k' k with
      | true =>
          rw [if_pos hk] at h
          obtain rfl := Option.some.inj h
          exact ⟨[], k', rest, rfl, hk, fun p hp => by cases hp⟩
      | false =>
          rw [if_neg (by simp [hk])] at h
          obtain ⟨front, k'', back, rfl, hk'', hfront⟩ := ih h
          exact ⟨(k', v') :: front, k'', back, rfl, hk'', List.forall_mem_cons.2 ⟨hk, hfront⟩⟩

/-- The value at the place of a key is replaced, and nothing else is changed. -/
theorem insert_at {k k' : κ} {v v' : α} {front back : List (κ × α)} (hk : same k' k = true)
    (hfront : ∀ p ∈ front, same p.1 k = false) :
    insert same k v (front ++ (k', v') :: back) = front ++ (k', v) :: back := by
  induction front with
  | nil => rw [List.nil_append, insert, if_pos hk, List.nil_append]
  | cons p front ih =>
      obtain ⟨hp, hfront⟩ := List.forall_mem_cons.1 hfront
      rw [List.cons_append, insert, if_neg (by simp [hp]), ih hfront, List.cons_append]

/-- What is found after an insertion. -/
theorem get?_insert (hsame : PartialEquality same) (k k' : κ) (v : α) (l : List (κ × α)) :
    get? same k (insert same k' v l) = if same k k' then some v else get? same k l := by
  induction l with
  | nil =>
      rw [insert, hsame.comm k k']
      rfl
  | cons p rest ih =>
      obtain ⟨k'', v''⟩ := p
      rw [insert]
      split
      · next hplace =>
          have hiff : same k'' k = same k k' :=
            Bool.eq_iff_iff.2 ⟨fun h => hsame.trans (hsame.symm h) hplace,
              fun h => hsame.trans hplace (hsame.symm h)⟩
          rw [get?, get?, hiff]
          split <;> rfl
      · next hplace =>
          rw [get?, get?, ih]
          split
          · next hk =>
              rw [if_neg fun hk' => hplace (hsame.trans hk hk')]
          · rfl

/-- The keys after an insertion. -/
theorem keys_insert (hsame : PartialEquality same) (k : κ) (v : α) (l : List (κ × α)) :
    keys (insert same k v l) = if (keys l).any (same k) then keys l else keys l ++ [k] := by
  cases hget : get? same k l with
  | none =>
      have hnew : ¬ (keys l).any (same k) = true := by
        rw [keys, List.any_map, List.any_eq_true]
        rintro ⟨p, hp, hk⟩
        exact absurd (hsame.symm hk) (by simp [get?_eq_none_iff.1 hget p hp])
      rw [if_neg hnew, insert_of_get?_eq_none hget]
      simp [keys]
  | some v' =>
      have hkeys : keys (insert same k v l) = keys l := keys_insert_of_get?_isSome (by simp [hget])
      obtain ⟨front, k', back, rfl, hk, -⟩ := exists_of_get?_eq_some hget
      rw [hkeys, if_pos]
      exact List.any_eq_true.2 ⟨k', by simp [keys], hsame.symm hk⟩

/-- The pairs whose keys do not equal themselves, after an insertion. -/
theorem strays_insert (hsame : PartialEquality same) (k : κ) (v : α) (l : List (κ × α)) :
    ((insert same k v l).filter fun p => !same p.1 p.1) =
      (l ++ [(k, v)]).filter fun p => !same p.1 p.1 := by
  cases hget : get? same k l with
  | none => rw [insert_of_get?_eq_none hget]
  | some v' =>
      obtain ⟨front, k', back, rfl, hk, hfront⟩ := exists_of_get?_eq_some hget
      -- neither the key that is there nor the one that is inserted is such a key
      have hold : same k' k' = true := hsame.trans hk (hsame.symm hk)
      have hnew : same k k = true := hsame.trans (hsame.symm hk) hk
      rw [insert_at hk hfront]
      simp [List.filter_append, hold, hnew]

/-! ## Histories -/

theorem ofPairs_concat (history : List (κ × α)) (p : κ × α) :
    ofPairs same (history ++ [p]) = insert same p.1 p.2 (ofPairs same history) := by
  simp [ofPairs, insertAll]

theorem keys_ofPairs (hsame : PartialEquality same) (history : List (κ × α)) :
    keys (ofPairs same history) = (keys history).eraseDupsBy same := by
  induction history using List.reverseRecOn with
  | nil => rfl
  | append_singleton history p ih =>
      have hkeys : keys (history ++ [p]) = keys history ++ [p.1] := by simp [keys]
      rw [ofPairs_concat, keys_insert hsame, ih, hkeys, eraseDupsBy_concat]

theorem strays_ofPairs (hsame : PartialEquality same) (history : List (κ × α)) :
    ((ofPairs same history).filter fun p => !same p.1 p.1) = history.filter fun p => !same p.1 p.1 := by
  induction history using List.reverseRecOn with
  | nil => rfl
  | append_singleton history p ih =>
      rw [ofPairs_concat, strays_insert hsame, List.filter_append, List.filter_append, ih]

/-- What is found under a key came last under it or another key that is the same. -/
theorem get?_ofPairs (hsame : PartialEquality same) (k : κ) (history : List (κ × α)) :
    get? same k (ofPairs same history) =
      (history.filter fun p => same k p.1).getLast?.map Prod.snd := by
  induction history using List.reverseRecOn with
  | nil => rfl
  | append_singleton history p ih =>
      rw [ofPairs_concat, get?_insert hsame, ih, List.filter_append]
      cases hp : same k p.1 with
      | true => simp [hp]
      | false => simp [hp]

/-! ## Answers -/

/-- What a list answers, and how it is changed by an insertion. -/
structure Answers (same : κ → κ → Bool) (stored : List (κ × α)) : Prop where
  /-- Of the keys that are stored, one at most is the same as a given one. -/
  once : ∀ k, stored.countP (fun p => same p.1 k) ≤ 1
  /-- What is found is what stands under that key. -/
  found : ∀ k v, get? same k stored = some v ↔ ∃ k', (k', v) ∈ stored ∧ same k' k = true
  /-- An insertion gives what it replaces, in its place and under the key that is there. -/
  replaces : ∀ k v old, (exchange same k v stored).1 = some old → ∃ front k' back,
    same k' k = true ∧ stored = front ++ (k', old) :: back ∧
      (exchange same k v stored).2 = front ++ (k', v) :: back
  /-- An insertion that replaces nothing appends its pair. -/
  appends : ∀ k v, (exchange same k v stored).1 = none →
    (∀ p ∈ stored, same p.1 k = false) ∧ (exchange same k v stored).2 = stored ++ [(k, v)]
  /-- What an insertion gives is what was found, and its list is the one after the insertion. -/
  exchanged : ∀ k v, exchange same k v stored = (get? same k stored, insert same k v stored)
  /-- The pairs make the list again. -/
  rebuilt : ofPairs same stored = stored

theorem countP_le_one_of_distinct (hsame : PartialEquality same) {l : List (κ × α)}
    (h : Distinct same l) (k : κ) : l.countP (fun p => same p.1 k) ≤ 1 := by
  induction l with
  | nil => exact Nat.zero_le _
  | cons p rest ih =>
      obtain ⟨hfirst, hrest⟩ := List.pairwise_cons.1 h
      rw [List.countP_cons]
      split
      · next hp =>
          have hnone : rest.countP (fun q => same q.1 k) = 0 := by
            rw [List.countP_eq_zero]
            intro q hq hqk
            have hpq := hfirst q.1 (List.mem_map_of_mem hq)
            rw [hsame.trans hp (hsame.symm hqk)] at hpq
            cases hpq
          omega
      · exact ih hrest

theorem get?_eq_some_iff (hsame : PartialEquality same) {l : List (κ × α)} (h : Distinct same l)
    {k : κ} {v : α} : get? same k l = some v ↔ ∃ k', (k', v) ∈ l ∧ same k' k = true := by
  constructor
  · intro hget
    obtain ⟨front, k', back, rfl, hk, -⟩ := exists_of_get?_eq_some hget
    exact ⟨k', List.mem_append_right _ List.mem_cons_self, hk⟩
  · rintro ⟨k', hmem, hk⟩
    obtain ⟨front, back, rfl⟩ := List.append_of_mem hmem
    induction front with
    | nil => rw [List.nil_append, get?, if_pos hk]
    | cons p front ih =>
        obtain ⟨hfirst, hrest⟩ := List.pairwise_cons.1 h
        have hp : ¬ same p.1 k = true := by
          intro hp
          have hpk := hfirst k' (by simp)
          rw [hsame.trans hp (hsame.symm hk)] at hpk
          cases hpk
        rw [List.cons_append, get?, if_neg hp]
        exact ih hrest (List.mem_append_right _ List.mem_cons_self)

theorem answers_of_distinct (hsame : PartialEquality same) {l : List (κ × α)} (h : Distinct same l) :
    Answers same l where
  once := countP_le_one_of_distinct hsame h
  found _ _ := get?_eq_some_iff hsame h
  replaces k v old hold := by
    rw [exchange_eq] at hold ⊢
    obtain ⟨front, k', back, rfl, hk, hfront⟩ := exists_of_get?_eq_some hold
    exact ⟨front, k', back, hk, rfl, insert_at hk hfront⟩
  appends k v hnone := by
    rw [exchange_eq] at hnone ⊢
    exact ⟨get?_eq_none_iff.1 hnone, insert_of_get?_eq_none hnone⟩
  exchanged k v := exchange_eq same k v l
  rebuilt := ofPairs_of_distinct h

/-! ## What is kept -/

/-- What a list keeps of the pairs that were inserted into it. -/
structure Keeps (same : κ → κ → Bool) (history stored : List (κ × α)) : Prop where
  /-- No two keys are the same. -/
  distinct : Distinct same stored
  /-- The keys are those that came before all others of the same, in their order. -/
  firsts : keys stored = (keys history).eraseDupsBy same
  /-- A key has the value that came last under it or another key that is the same. -/
  lasts : ∀ p ∈ stored, same p.1 p.1 = true →
    (history.filter fun q => same p.1 q.1).getLast?.map Prod.snd = some p.2
  /-- Keys that do not equal themselves are kept as often as they came, each with its value. -/
  strays : (stored.filter fun p => !same p.1 p.1) = history.filter fun p => !same p.1 p.1

/-- A list keeps of its history the first keys with the last values. -/
theorem keeps_ofPairs (hsame : PartialEquality same) (history : List (κ × α)) :
    Keeps same history (ofPairs same history) where
  distinct := distinct_ofPairs history
  firsts := keys_ofPairs hsame history
  lasts p hp hself := by
    rw [← get?_ofPairs hsame]
    exact (get?_eq_some_iff hsame (distinct_ofPairs history)).2 ⟨p.1, hp, hself⟩
  strays := strays_ofPairs hsame history

end Assoc

/-! ## Entries -/

theorem Value.partialEquality : Assoc.PartialEquality Value.equal where
  symm := Value.equal_symm
  trans := Value.equal_trans

namespace Entries

/-- Finding a text is finding the value that is the text. -/
theorem getText?_eq (name : String) (entries : Entries) :
    entries.getText? name = entries.get? (.string name) := by
  induction entries with
  | nil => rfl
  | cons p rest ih =>
      obtain ⟨k, v⟩ := p
      cases k with
      | string s => simp only [getText?, get?, Assoc.get?, Value.equal, ih]
      | _ => simpa only [getText?, get?, Assoc.get?, Value.equal, Bool.false_eq_true, if_false] using ih

/-- Entries after their history. -/
structure Keyed (history : List (Value × Value)) (entries : Entries) : Prop where
  keeps : Assoc.Keeps Value.equal history entries
  answers : Assoc.Answers Value.equal entries
  /-- What is found under a key was inserted last under an equal one. -/
  latest : ∀ k, entries.get? k = (history.filter fun p => k.equal p.1).getLast?.map Prod.snd
  /-- Under a key with a NaN in it nothing is found, and what is inserted is appended. -/
  strays : ∀ k, k.HasNaN →
    entries.get? k = none ∧ ∀ v, entries.exchange k v = (none, entries ++ [(k, v)])
  /-- A text is found as the value that it is. -/
  texts : ∀ name, entries.getText? name = entries.get? (.string name)

theorem keyed_ofPairs (history : List (Value × Value)) : Keyed history (ofPairs history) := by
  have hkeeps := Assoc.keeps_ofPairs Value.partialEquality history
  refine ⟨hkeeps, Assoc.answers_of_distinct Value.partialEquality hkeeps.distinct,
    fun k => Assoc.get?_ofPairs Value.partialEquality k history, ?_, ?_⟩
  · intro k hk
    have hnone : Assoc.get? Value.equal k (ofPairs history) = none :=
      Assoc.get?_eq_none_iff.2 fun p _ => (Value.equal_of_hasNaN hk).2
    refine ⟨hnone, fun v => ?_⟩
    show Assoc.exchange Value.equal k v (ofPairs history) = _
    rw [Assoc.exchange_eq, hnone, Assoc.insert_of_get?_eq_none hnone]
  · exact fun name => getText?_eq name _

end Entries

/-! ## Properties -/

theorem partialEquality_beq : Assoc.PartialEquality fun a b : String => a == b where
  symm h := by
    rw [eq_of_beq h]
    exact beq_self_eq_true _
  trans h h' := by
    rw [eq_of_beq h]
    exact h'

namespace Properties

/-- Properties after their history. -/
structure Keyed (history : List (String × Value)) (properties : Properties) : Prop where
  keeps : Assoc.Keeps (· == ·) history properties
  answers : Assoc.Answers (· == ·) properties
  /-- What is found under a name was inserted last under it. -/
  latest : ∀ name, properties.get? name = (history.filter fun p => name == p.1).getLast?.map Prod.snd
  /-- The names are those of the history, in the order in which they came first. -/
  names : properties.names = (history.map Prod.fst).eraseDups
  /-- The names that it contains are its own, and those of the history. -/
  contains : ∀ name, properties.contains name = true ↔ name ∈ properties.names
  came : ∀ name, name ∈ properties.names ↔ name ∈ history.map Prod.fst

theorem contains_iff {name : String} {properties : Properties} :
    properties.contains name = true ↔ name ∈ properties.names := by
  rw [contains, ← Option.ne_none_iff_isSome, get?, Ne, Assoc.get?_eq_none_iff]
  simp [names, Assoc.keys]

theorem keyed_ofPairs (history : List (String × Value)) : Keyed history (ofPairs history) := by
  have hkeeps := Assoc.keeps_ofPairs partialEquality_beq history
  have hnames : (ofPairs history).names = (history.map Prod.fst).eraseDups := hkeeps.firsts
  refine ⟨hkeeps, Assoc.answers_of_distinct partialEquality_beq hkeeps.distinct,
    fun name => Assoc.get?_ofPairs partialEquality_beq name history, hnames, fun _ => contains_iff, ?_⟩
  intro name
  rw [hnames, List.mem_eraseDups]

end Properties

/-- Entries and properties are what their histories make of them.  Two values are one key where there is no
NaN in them and they differ in the signs of zeros only, as the two zeros do. -/
theorem keyed_by_history :
    (∀ history, Entries.Keyed history (Entries.ofPairs history)) ∧
      (∀ history, Properties.Keyed history (Properties.ofPairs history)) ∧
      (∀ k k' : Value, k.equal k' = true ↔
        k.NaNFree ∧ k'.NaNFree ∧ k.unsignedZeros = k'.unsignedZeros) ∧
      Value.equal (.float ⟨0⟩) (.float ⟨0x8000000000000000⟩) = true :=
  ⟨Entries.keyed_ofPairs, Properties.keyed_ofPairs, Value.equal_iff, by rw [Value.equal]; decide⟩

end PklHost
