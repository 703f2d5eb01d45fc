import Mathlib.Data.List.Perm.Subperm
import PklHost.Project.Value
import PklHost.Proofs.Value.Clashes
import PklHost.Proofs.Value.History

/-!
# What a property is read as

Each reader of a property is told by what it gives, and of what: `Holds R o x` says that a property that is
absent or null gives nothing, and that one that is there has a value of the kind that `R` asks for, and gives
what `R` says of it.  So a reader that is told in this way ignores nothing.

A mapping is read pair by pair into a dictionary in the order of names.  Since it has no key twice, nothing
is lost: the dictionary has its keys and no others, and under each of them what its value is read as
(`Lists`, `lists_iff`).
-/

namespace PklHost

variable {α : Type}

/-! ## Dictionaries that are built of pairs -/

namespace Ordered

/-- The order of names leaves no choice. -/
theorem Ascending.eq_of_perm {l l' : List (String × α)} (h : Ascending l) (h' : Ascending l')
    (hperm : l.Perm l') : l = l' :=
  hperm.eq_of_pairwise
    (fun _ _ _ _ hlt hgt => absurd (String.lt_trans hlt hgt) (String.lt_irrefl _)) h h'

/-- An inserted pair comes to all pairs of other names. -/
theorem insert_perm {name : String} {v : α} {l : List (String × α)} (h : Ascending l) :
    (insert name v l).Perm ((name, v) :: l.filter fun p => p.1 ≠ name) := by
  induction l with
  | nil => exact .refl _
  | cons q rest ih =>
      obtain ⟨hfirst, hrest⟩ := List.pairwise_cons.1 h
      -- the names after one that is not less are other names
      have hothers : ¬ q.1 < name → rest.filter (fun p => p.1 ≠ name) = rest := fun hle => by
        refine List.filter_eq_self.2 fun p hp => decide_eq_true fun heq => hle ?_
        exact heq ▸ hfirst p hp
      rw [insert]
      split
      · next hlt =>
          have hne : q.1 ≠ name := fun heq => String.lt_irrefl _ (heq ▸ hlt)
          have hle : ¬ q.1 < name := fun hgt => String.lt_irrefl _ (String.lt_trans hlt hgt)
          rw [List.filter_cons_of_pos (by simpa using hne), hothers hle]
      · split
        · next heq =>
            rw [List.filter_cons_of_neg (by simp [heq]),
              hothers (heq ▸ String.lt_irrefl name)]
        · next hne =>
            rw [List.filter_cons_of_pos (by simpa using Ne.symm hne)]
            exact ((ih hrest).cons q).trans (.swap ..)

/-- Pairs of different names, inserted one after another, come to all pairs of other names. -/
theorem foldl_insert_perm {pairs acc : List (String × α)} (hnames : (pairs.map Prod.fst).Nodup)
    (h : Ascending acc) :
    (pairs.foldl (fun acc p => insert p.1 p.2 acc) acc).Perm
      (acc.filter (fun p => p.1 ∉ pairs.map Prod.fst) ++ pairs) := by
  induction pairs generalizing acc with
  | nil => simp
  | cons q rest ih =>
      obtain ⟨hnew, hnames⟩ := List.nodup_cons.1 hnames
      rw [List.foldl_cons]
      refine (ih hnames (ascending_insert q.1 q.2 h)).trans ?_
      refine (((insert_perm h).filter _).append_right rest).trans ?_
      rw [List.filter_cons_of_pos (by simpa using hnew), List.filter_filter]
      have hboth : (fun p : String × α => decide (p.1 ∉ rest.map Prod.fst) && decide (p.1 ≠ q.1)) =
          fun p => decide (p.1 ∉ (q :: rest).map Prod.fst) := by
        funext p
        rw [← Bool.decide_and, decide_eq_decide, List.map_cons, List.mem_cons, not_or, and_comm]
      rw [hboth]
      exact List.perm_middle.symm

theorem ofPairs_perm {pairs : List (String × α)} (hnames : (pairs.map Prod.fst).Nodup) :
    (ofPairs pairs).Perm pairs := by
  have hempty : Ascending ([] : List (String × α)) := .nil
  simpa [ofPairs] using foldl_insert_perm hnames hempty

end Ordered

theorem Dict.ofPairs_eq_iff {pairs : List (String × α)} {d : Dict α} :
    Dict.ofPairs pairs = d ↔ Ordered.ofPairs pairs = d.pairs :=
  ⟨fun h => h ▸ rfl, fun h => Dict.ext_pairs h⟩

/-! ## Values that hold each name and each key once -/

namespace Value

theorem keysDistinct_string (s : String) : (string s).KeysDistinct :=
  keysDistinct_of_parts trivial fun part hpart => by cases hpart

theorem keysDistinct_object_iff {className moduleUri : String} {properties : Properties} :
    (object className moduleUri properties).KeysDistinct ↔
      (properties.map Prod.fst).Nodup ∧ ∀ p ∈ properties, p.2.KeysDistinct := by
  rw [KeysDistinct, throughout_iff, parts, List.forall_mem_map]
  refine and_congr_left fun _ => ?_
  simp [KeysOnce, Assoc.Distinct, Assoc.keys, List.Nodup]

theorem keysDistinct_map_iff {entries : Entries} :
    (map entries).KeysDistinct ↔
      Assoc.Distinct equal entries ∧ ∀ e ∈ entries, e.1.KeysDistinct ∧ e.2.KeysDistinct := by
  rw [KeysDistinct, throughout_iff, parts, List.forall_mem_append, List.forall_mem_map,
    List.forall_mem_map]
  exact and_congr_right fun _ => (forall₂_and ..).symm

end Value

namespace ProjectReader

theorem keysDistinct_property {v w : Value} {name : String} (h : v.KeysDistinct)
    (hw : v.property? name = some w) : w.KeysDistinct := by
  have hparts := (throughout_iff.1 h).2
  cases v with
  | object className moduleUri properties =>
      obtain ⟨front, name', back, rfl, -⟩ := Assoc.exists_of_get?_eq_some hw
      exact hparts w (by simp [Value.parts])
  | dynamic properties entries elements =>
      obtain ⟨front, name', back, rfl, -⟩ := Assoc.exists_of_get?_eq_some hw
      exact hparts w (by simp [Value.parts])
  | _ => cases hw

/-- The pairs of a map, or of the entries of an open object. -/
def mapping? : Value → Option Entries
  | .map entries | .dynamic _ entries _ => some entries
  | _ => none

theorem distinct_of_mapping {v : Value} {entries : Entries} (h : v.KeysDistinct)
    (hentries : mapping? v = some entries) : Assoc.Distinct Value.equal entries := by
  have hkeys := (throughout_iff.1 h).1
  cases v with
  | map entries' =>
      obtain rfl := Option.some.inj hentries
      exact hkeys
  | dynamic properties entries' elements =>
      obtain rfl := Option.some.inj hentries
      exact hkeys.2
  | _ => cases hentries

theorem keysDistinct_mapping {v k w : Value} {entries : Entries} (h : v.KeysDistinct)
    (hentries : mapping? v = some entries) (hmem : (k, w) ∈ entries) : w.KeysDistinct := by
  have hparts := (throughout_iff.1 h).2
  have hw : w ∈ entries.map Prod.snd := List.mem_map.2 ⟨_, hmem, rfl⟩
  cases v with
  | map entries' =>
      obtain rfl := Option.some.inj hentries
      exact hparts w (List.mem_append_right _ hw)
  | dynamic properties entries' elements =>
      obtain rfl := Option.some.inj hentries
      exact hparts w (List.mem_append_left _ (List.mem_append_right _ (List.mem_append_right _ hw)))
  | _ => cases hentries

/-! ## One property -/

/-- A property that is absent or null holds nothing, and any other what its value is read as. -/
def Holds (R : Value → α → Prop) (o : Option Value) : Option α → Prop
  | none => present o = none
  | some a => ∃ v, present o = some v ∧ R v a

/-- A property that is absent or null stands for a default, and any other for what its value is read as. -/
def Given (R : Value → α → Prop) (default : α) (o : Option Value) (a : α) : Prop :=
  Holds R o (some a) ∨ present o = none ∧ a = default

theorem holds_iff_of_absent {R : Value → α → Prop} {o : Option Value} {x : Option α}
    (h : present o = none) : Holds R o x ↔ none = x := by
  cases x <;> simp [Holds, h]

theorem holds_iff_of_present {R : Value → α → Prop} {o : Option Value} {v : Value} {x : Option α}
    (h : present o = some v) : Holds R o x ↔ ∃ a, R v a ∧ some a = x := by
  cases x <;> simp [Holds, h]

theorem given_iff_of_absent {R : Value → α → Prop} {default : α} {o : Option Value} {a : α}
    (h : present o = none) : Given R default o a ↔ default = a := by
  simp [Given, Holds, h, eq_comm]

theorem given_iff_of_present {R : Value → α → Prop} {default : α} {o : Option Value} {v : Value}
    {a : α} (h : present o = some v) : Given R default o a ↔ R v a := by
  simp [Given, Holds, h]

/-- A reader of properties that may be absent. -/
def whenPresent (read : Value → Except ProjectFault α) (o : Option Value) :
    Except ProjectFault (Option α) :=
  match present o with
  | none => pure none
  | some v => some <$> read v

theorem whenPresent_eq_ok_iff {read : Value → Except ProjectFault α} {R : Value → α → Prop}
    {o : Option Value} (hread : ∀ v, present o = some v → ∀ a, read v = .ok a ↔ R v a)
    {x : Option α} : whenPresent read o = .ok x ↔ Holds R o x := by
  unfold whenPresent
  cases hpresent : present o with
  | none => rw [holds_iff_of_absent hpresent, pure_eq_ok_iff]
  | some v => simp only [holds_iff_of_present hpresent, map_eq_ok_iff, hread v hpresent]

/-- A reader of properties for which there is a default. -/
def withDefault (read : Value → Except ProjectFault α) (default : α) (o : Option Value) :
    Except ProjectFault α :=
  match present o with
  | none => pure default
  | some v => read v

theorem withDefault_eq_ok_iff {read : Value → Except ProjectFault α} {R : Value → α → Prop}
    {default : α} {o : Option Value}
    (hread : ∀ v, present o = some v → ∀ a, read v = .ok a ↔ R v a) {a : α} :
    withDefault read default o = .ok a ↔ Given R default o a := by
  unfold withDefault
  cases hpresent : present o with
  | none => rw [given_iff_of_absent hpresent, pure_eq_ok_iff]
  | some v => rw [given_iff_of_present hpresent, hread v hpresent]

/-- A value of the kind of strings, and the string. -/
def IsText (v : Value) (s : String) : Prop := v = .string s

/-- A list or set of strings, and the strings. -/
def IsTexts (v : Value) (texts : List String) : Prop := v.items? = some (texts.map .string)

theorem text?_eq_ok_iff {name : String} {v : Value} {x : Option String} :
    text? name v = .ok x ↔ Holds IsText (v.property? name) x := by
  unfold text?
  cases hpresent : present (v.property? name) with
  | none => simp [holds_iff_of_absent hpresent]
  | some w => cases w <;> simp [holds_iff_of_present hpresent, IsText]

theorem text_eq_ok_iff {name : String} {v : Value} {s : String} :
    text name v = .ok s ↔ Holds IsText (v.property? name) (some s) := by
  rw [← text?_eq_ok_iff, text]
  split
  · next h => simp [h]
  · next h => simp [h]
  · next h => simp [h]

theorem textItem_eq_ok_iff {v : Value} {s : String} : textItem v = .ok s ↔ IsText v s := by
  cases v <;> simp [textItem, IsText]

theorem forall₂_isText_iff {items : List Value} {texts : List String} :
    List.Forall₂ IsText items texts ↔ items = texts.map .string := by
  rw [← List.forall₂_eq_eq_eq, List.forall₂_map_right_iff]
  rfl

theorem texts?_eq_ok_iff {o : Option Value} {x : Option (List String)} :
    texts? o = .ok x ↔ Holds IsTexts o x := by
  unfold texts?
  cases hpresent : present o with
  | none => cases x <;> simp [Holds, hpresent]
  | some v =>
      cases hitems : v.items? with
      | none => cases x <;> simp [Holds, hpresent, IsTexts, hitems]
      | some items =>
          have hread : ∀ texts, items.mapM textItem = .ok texts ↔ items = texts.map .string := by
            intro texts
            rw [mapM_eq_ok_iff, ← forall₂_isText_iff]
            simp only [textItem_eq_ok_iff]
          cases x <;> simp [Holds, hpresent, IsTexts, hitems, map_eq_ok_iff, hread]

theorem texts_eq_ok_iff {o : Option Value} {texts : List String} :
    ProjectReader.texts o = .ok texts ↔ Given IsTexts [] o texts := by
  rw [ProjectReader.texts, bind_eq_ok_iff]
  simp only [texts?_eq_ok_iff, pure_eq_ok_iff]
  constructor
  · rintro ⟨x, hx, rfl⟩
    cases x with
    | none => exact .inr ⟨hx, rfl⟩
    | some texts => exact .inl hx
  · rintro (h | ⟨hnone, rfl⟩)
    · exact ⟨some texts, h, rfl⟩
    · exact ⟨none, hnone, rfl⟩

/-! ## Mappings -/

/-- The pairs of a property that is a mapping; a property that is absent or null is an empty one. -/
def declared? (o : Option Value) : Option Entries :=
  match present o with
  | none => some []
  | some v => mapping? v

/-- Pairs under keys that are strings. -/
def underTexts (found : List (String × Value)) : Entries := found.map fun p => (.string p.1, p.2)

theorem mem_underTexts {f : String × Value} {found : List (String × Value)} (h : f ∈ found) :
    (.string f.1, f.2) ∈ underTexts found :=
  List.mem_map_of_mem (f := fun p : String × Value => (Value.string p.1, p.2)) h

theorem keys_underTexts (found : List (String × Value)) :
    (underTexts found).map Prod.fst = (found.map Prod.fst).map .string := by
  rw [underTexts, List.map_map, List.map_map]
  rfl

theorem named_eq_ok_iff {entries : Entries} {found : List (String × Value)} :
    named entries = .ok found ↔ entries = underTexts found := by
  constructor
  · intro h
    induction entries generalizing found with
    | nil =>
        obtain rfl := Except.ok.inj h
        rfl
    | cons e rest ih =>
        obtain ⟨k, v⟩ := e
        cases k with
        | string name =>
            rw [named] at h
            cases hrest : named rest with
            | error e => simp [hrest] at h
            | ok pairs =>
                rw [hrest] at h
                obtain rfl := Except.ok.inj h
                rw [ih hrest]
                rfl
        | _ => simp [named] at h
  · rintro rfl
    induction found with
    | nil => rfl
    | cons p found ih =>
        show named ((.string p.1, p.2) :: underTexts found) = _
        rw [named, ih]

theorem pairs_eq_ok_iff {o : Option Value} {found : List (String × Value)} :
    pairs o = .ok found ↔ declared? o = some (underTexts found) := by
  unfold pairs declared?
  cases hpresent : present o with
  | none => cases found <;> simp [underTexts]
  | some v => cases v <;> simp [mapping?, named_eq_ok_iff]

/-- A dictionary of what the values of some pairs are read as, under the same names. -/
structure Lists (R : Value → α → Prop) (entries : Entries) (l : List (String × α)) : Prop where
  ascending : Ordered.Ascending l
  /-- All keys are strings, and they are the names. -/
  keys : (entries.map Prod.fst).Perm ((l.map Prod.fst).map .string)
  values : ∀ p ∈ l, ∀ w, (.string p.1, w) ∈ entries → R w p.2

/-- Nothing is lost of a mapping, and nothing added. -/
theorem Lists.names {R : Value → α → Prop} {found : List (String × Value)} {l : List (String × α)}
    (h : Lists R (underTexts found) l) : (found.map Prod.fst).Perm (l.map Prod.fst) := by
  have hkeys := h.keys
  rw [keys_underTexts] at hkeys
  exact (List.map_perm_map_iff fun _ _ h => Value.string.inj h).1 hkeys

theorem nodup_names {found : List (String × Value)}
    (h : Assoc.Distinct Value.equal (underTexts found)) : (found.map Prod.fst).Nodup := by
  rw [Assoc.Distinct, Assoc.keys, underTexts, List.pairwise_map, List.pairwise_map] at h
  refine List.pairwise_map.2 (h.imp fun hne heq => ?_)
  rw [Value.equal, heq] at hne
  simp at hne

/-- Pairs and what they are read as, one after another. -/
def Reads (R : Value → α → Prop) (found : List (String × Value)) (pairs : List (String × α)) : Prop :=
  List.Forall₂ (fun f p => f.1 = p.1 ∧ R f.2 p.2) found pairs

theorem Reads.names {R : Value → α → Prop} {found : List (String × Value)}
    {pairs : List (String × α)} (h : Reads R found pairs) : found.map Prod.fst = pairs.map Prod.fst := by
  rw [← List.forall₂_eq_eq_eq, List.forall₂_map_left_iff, List.forall₂_map_right_iff]
  exact h.imp fun _ _ h => h.1

theorem Reads.exists_of_mem {R : Value → α → Prop} {found : List (String × Value)}
    {pairs : List (String × α)} (h : Reads R found pairs) {f : String × Value} (hf : f ∈ found) :
    ∃ p ∈ pairs, f.1 = p.1 ∧ R f.2 p.2 := by
  induction h with
  | nil => cases hf
  | cons hread _ ih =>
      rcases List.mem_cons.1 hf with rfl | hf
      · exact ⟨_, List.mem_cons_self, hread⟩
      · obtain ⟨p, hp, hread⟩ := ih hf
        exact ⟨p, List.mem_cons_of_mem _ hp, hread⟩

/-- Each of some pairs that can be read is read as something. -/
theorem exists_reads {R : Value → α → Prop} {found : List (String × Value)} {l : List (String × α)}
    (h : ∀ f ∈ found, ∃ p ∈ l, f.1 = p.1 ∧ R f.2 p.2) : ∃ pairs, Reads R found pairs ∧ pairs ⊆ l := by
  induction found with
  | nil => exact ⟨[], .nil, List.nil_subset _⟩
  | cons f found ih =>
      obtain ⟨hf, hfound⟩ := List.forall_mem_cons.1 h
      obtain ⟨p, hp, hread⟩ := hf
      obtain ⟨pairs, hreads, hsub⟩ := ih hfound
      exact ⟨p :: pairs, .cons hread hreads, List.cons_subset.2 ⟨hp, hsub⟩⟩

/-- Reading the pairs of a mapping one after another comes to its dictionary. -/
theorem lists_iff {R : Value → α → Prop} {found : List (String × Value)} {l : List (String × α)}
    (hdistinct : Assoc.Distinct Value.equal (underTexts found)) :
    Lists R (underTexts found) l ↔ ∃ pairs, Reads R found pairs ∧ Ordered.ofPairs pairs = l := by
  have hnodup := nodup_names hdistinct
  constructor
  · intro h
    have hnames := h.names
    have hread : ∀ f ∈ found, ∃ p ∈ l, f.1 = p.1 ∧ R f.2 p.2 := by
      intro f hf
      obtain ⟨p, hp, hname⟩ := List.mem_map.1 (hnames.mem_iff.1 (List.mem_map_of_mem hf))
      exact ⟨p, hp, hname.symm, h.values p hp f.2 (hname ▸ mem_underTexts hf)⟩
    obtain ⟨pairs, hreads, hsub⟩ := exists_reads hread
    have hpairs : (pairs.map Prod.fst).Nodup := hreads.names ▸ hnodup
    have hperm : pairs.Perm l := by
      refine (hpairs.of_map.subperm hsub).perm_of_length_le ?_
      have hlength := hnames.length_eq
      rw [hreads.names, List.length_map, List.length_map] at hlength
      exact hlength.ge
    exact ⟨pairs, hreads, (Ordered.ascending_ofPairs pairs).eq_of_perm h.ascending
      ((Ordered.ofPairs_perm hpairs).trans hperm)⟩
  · rintro ⟨pairs, hreads, rfl⟩
    have hpairs : (pairs.map Prod.fst).Nodup := hreads.names ▸ hnodup
    have hperm := Ordered.ofPairs_perm hpairs
    refine ⟨Ordered.ascending_ofPairs pairs, ?_, fun p hp w hw => ?_⟩
    · rw [keys_underTexts, hreads.names]
      exact ((hperm.map Prod.fst).map Value.string).symm
    · -- what is read of the pair has its name, and there is no other pair of that name
      obtain ⟨f, hf, hfw⟩ := List.mem_map.1 hw
      obtain ⟨hname, rfl⟩ := Prod.mk.inj hfw
      obtain ⟨q, hq, hfq, hvalue⟩ := hreads.exists_of_mem hf
      have hsame : q = p := List.inj_on_of_nodup_map hpairs hq (hperm.mem_iff.1 hp)
        (hfq.symm.trans (Value.string.inj hname))
      exact hsame ▸ hvalue

/-- A dictionary is listed of pairs under strings. -/
theorem Lists.exists_underTexts {R : Value → α → Prop} {entries : Entries} {l : List (String × α)}
    (h : Lists R entries l) : ∃ found, entries = underTexts found := by
  have hkeys : ∀ e ∈ entries, ∃ name, e.1 = .string name := fun e he => by
    obtain ⟨name, -, hname⟩ := List.mem_map.1 (h.keys.mem_iff.1 (List.mem_map_of_mem he))
    exact ⟨name, hname.symm⟩
  clear h
  induction entries with
  | nil => exact ⟨[], rfl⟩
  | cons e rest ih =>
      obtain ⟨⟨name, hname⟩, hrest⟩ := List.forall_mem_cons.1 hkeys
      obtain ⟨found, rfl⟩ := ih hrest
      obtain ⟨k, v⟩ := e
      obtain rfl : k = .string name := hname
      exact ⟨(name, v) :: found, rfl⟩

/-- What the mapping under a property lists. -/
def Declares (R : Value → α → Prop) (o : Option Value) (l : List (String × α)) : Prop :=
  ∃ entries, declared? o = some entries ∧ Lists R entries l

theorem distinct_of_declared {o : Option Value} {entries : Entries}
    (hkeys : ∀ v, present o = some v → v.KeysDistinct) (h : declared? o = some entries) :
    Assoc.Distinct Value.equal entries := by
  unfold declared? at h
  split at h
  · obtain rfl := Option.some.inj h
    exact .nil
  · next v hpresent => exact distinct_of_mapping (hkeys v hpresent) h

theorem declares_iff {R : Value → α → Prop} {o : Option Value} {l : List (String × α)}
    (hkeys : ∀ v, present o = some v → v.KeysDistinct) :
    Declares R o l ↔ ∃ found, declared? o = some (underTexts found) ∧
      ∃ pairs, Reads R found pairs ∧ Ordered.ofPairs pairs = l := by
  constructor
  · rintro ⟨entries, hentries, hlists⟩
    obtain ⟨found, rfl⟩ := hlists.exists_underTexts
    exact ⟨found, hentries, (lists_iff (distinct_of_declared hkeys hentries)).1 hlists⟩
  · rintro ⟨found, hentries, hreads⟩
    exact ⟨_, hentries, (lists_iff (distinct_of_declared hkeys hentries)).2 hreads⟩

theorem forall₂_congr_left {β γ : Type} {S T : β → γ → Prop} {xs : List β} {ys : List γ}
    (h : ∀ x ∈ xs, ∀ y, S x y ↔ T x y) : List.Forall₂ S xs ys ↔ List.Forall₂ T xs ys := by
  induction xs generalizing ys with
  | nil => rw [List.forall₂_nil_left_iff, List.forall₂_nil_left_iff]
  | cons x xs ih =>
      obtain ⟨hx, hxs⟩ := List.forall_mem_cons.1 h
      simp only [List.forall₂_cons_left_iff, hx, ih hxs]

/-- Reading a mapping, by any reader of its values. -/
theorem read_eq_ok_iff {o : Option Value} (hkeys : ∀ v, present o = some v → v.KeysDistinct)
    {read : String × Value → Except ProjectFault (String × α)} {R : Value → α → Prop}
    (hread : ∀ entries, declared? o = some entries → ∀ f, (.string f.1, f.2) ∈ entries → ∀ p,
      read f = .ok p ↔ f.1 = p.1 ∧ R f.2 p.2) {l : List (String × α)} :
    (∃ found, pairs o = .ok found ∧ ∃ ps, found.mapM read = .ok ps ∧ Ordered.ofPairs ps = l) ↔
      Declares R o l := by
  rw [declares_iff hkeys]
  simp only [pairs_eq_ok_iff, mapM_eq_ok_iff]
  refine exists_congr fun found => and_congr_right fun hfound => exists_congr fun ps => ?_
  refine and_congr_left fun _ => forall₂_congr_left fun f hf p => hread _ hfound f ?_ p
  exact mem_underTexts hf

/-! ### Mappings of strings -/

/-- A mapping from strings to strings, and its dictionary. -/
def IsTextMap (v : Value) (d : Dict String) : Prop :=
  ∃ entries, mapping? v = some entries ∧ Lists IsText entries d.pairs

theorem textPair_eq_ok_iff {f : String × Value} {p : String × String} :
    textPair f = .ok p ↔ f.1 = p.1 ∧ IsText f.2 p.2 := by
  obtain ⟨name, v⟩ := f
  obtain ⟨name', s⟩ := p
  cases v <;> simp [textPair, IsText]

theorem textMap?_eq_ok_iff {o : Option Value} (hkeys : ∀ v, present o = some v → v.KeysDistinct)
    {x : Option (Dict String)} : textMap? o = .ok x ↔ Holds IsTextMap o x := by
  unfold textMap?
  cases hpresent : present o with
  | none => cases x <;> simp [Holds, hpresent]
  | some v =>
      obtain rfl := eq_of_present hpresent
      have hdeclared : declared? (some v) = mapping? v := by simp [declared?, hpresent]
      simp only [bind_eq_ok_iff, pure_eq_ok_iff]
      cases x with
      | none => simp [Holds, hpresent]
      | some d =>
          have hread := read_eq_ok_iff (R := IsText) (l := d.pairs) hkeys fun _ _ f _ p =>
            @textPair_eq_ok_iff f p
          simp only [Option.some.injEq, Dict.ofPairs_eq_iff, hread]
          simp [Declares, Holds, hpresent, IsTextMap, hdeclared]

end ProjectReader

end PklHost
