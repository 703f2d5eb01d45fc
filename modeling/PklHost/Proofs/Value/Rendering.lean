import PklHost.Proofs.Except
import PklHost.Proofs.Parts
import PklHost.Value.Render

/-!
# When a value renders

A value has a JSON form exactly if every key in it does, at any depth: that of a text, of an expression,
of an integer, of a truth value or of a finite number names a member, that of any other kind names none
(`succeeds_toJson_iff`).  Nothing but keys can fail, so that a value without maps and without entries
always renders.

The induction follows the mutual recursion of the rendering; each list of members contributes what its
own keys and its values ask for.
-/

namespace PklHost.Value

/-- The keys of a map, and those of the entries of an open object. -/
def keys : Value → List Value
  | .map entries | .dynamic _ entries _ => entries.map Prod.fst
  | _ => []

/-- A key that can name a member of a JSON object. -/
def NamesMember : Value → Prop
  | .string _ | .regex _ | .int _ | .bool _ => True
  | .float x => x.isFinite = true
  | _ => False

/-- Every key in a value, at any depth, can name a member. -/
def KeysNameMembers (v : Value) : Prop :=
  Throughout parts (fun w => ∀ k ∈ w.keys, k.NamesMember) v

theorem succeeds_memberName_iff {k : Value} : Succeeds k.memberName ↔ k.NamesMember := by
  cases k with
  | string | regex | int | bool => exact iff_of_true (succeeds_ok _) trivial
  | float x =>
      show Succeeds (if x.isFinite then _ else _) ↔ x.isFinite = true
      split
      · next hfinite => exact iff_of_true (succeeds_ok _) hfinite
      · next hfinite => exact iff_of_false (not_succeeds_error _) hfinite
  | _ => exact iff_of_false (not_succeeds_error _) id

/-- A key that can name a member has no keys in it. -/
theorem NamesMember.keysNameMembers {k : Value} (h : k.NamesMember) : k.KeysNameMembers := by
  refine throughout_iff.2 ?_
  cases k with
  | string | regex | int | bool | float => exact ⟨fun _ hk => (nomatch hk), fun _ hpart => (nomatch hpart)⟩
  | _ => exact h.elim

theorem keysNameMembers_iff {v : Value} :
    v.KeysNameMembers ↔ (∀ k ∈ v.keys, k.NamesMember) ∧ ∀ part ∈ v.parts, part.KeysNameMembers :=
  throughout_iff

/-- What holds of the keys and of the values of pairs. -/
theorem forall_mem_pairs_iff {P : Value → Prop} {entries : List (Value × Value)} :
    (∀ v ∈ entries.map Prod.fst ++ entries.map Prod.snd, P v) ↔ ∀ p ∈ entries, P p.1 ∧ P p.2 := by
  rw [List.forall_mem_append, List.forall_mem_map, List.forall_mem_map]
  exact ⟨fun h p hp => ⟨h.1 p hp, h.2 p hp⟩, fun h => ⟨fun p hp => (h p hp).1, fun p hp => (h p hp).2⟩⟩

/-- Pairs of which all keys can name a member. -/
theorem forall_entries_iff {entries : List (Value × Value)} :
    ((∀ k ∈ entries.map Prod.fst, k.NamesMember) ∧
        ∀ part ∈ entries.map Prod.fst ++ entries.map Prod.snd, part.KeysNameMembers) ↔
      ∀ p ∈ entries, p.1.NamesMember ∧ p.2.KeysNameMembers := by
  rw [forall_mem_pairs_iff, List.forall_mem_map]
  constructor
  · exact fun h p hp => ⟨h.1 p hp, (h.2 p hp).2⟩
  · exact fun h => ⟨fun p hp => (h p hp).1, fun p hp => ⟨(h p hp).1.keysNameMembers, (h p hp).2⟩⟩

/-- A value without keys of its own. -/
theorem keysNameMembers_iff_of_keys {v : Value} (h : v.keys = []) :
    v.KeysNameMembers ↔ ∀ part ∈ v.parts, part.KeysNameMembers := by
  rw [keysNameMembers_iff, h, and_iff_right fun k hk => by cases hk]

theorem keysNameMembers_of_parts {v : Value} (hkeys : v.keys = []) (hparts : v.parts = []) :
    v.KeysNameMembers := by
  rw [keysNameMembers_iff_of_keys hkeys, hparts]
  intro part hpart
  cases hpart

theorem keysNameMembers_dynamic_iff {properties : List (String × Value)}
    {entries : List (Value × Value)} {elements : List Value} :
    (dynamic properties entries elements).KeysNameMembers ↔
      (∀ p ∈ properties, p.2.KeysNameMembers) ∧
        (∀ p ∈ entries, p.1.NamesMember ∧ p.2.KeysNameMembers) ∧
        ∀ v ∈ elements, v.KeysNameMembers := by
  have hparts : (∀ part ∈ (dynamic properties entries elements).parts, part.KeysNameMembers) ↔
      ((∀ p ∈ properties, p.2.KeysNameMembers) ∧
          ∀ part ∈ entries.map Prod.fst ++ entries.map Prod.snd, part.KeysNameMembers) ∧
        ∀ v ∈ elements, v.KeysNameMembers := by
    rw [parts, List.forall_mem_append, List.forall_mem_append, List.forall_mem_map]
  rw [keysNameMembers_iff, hparts, ← forall_entries_iff, keys]
  constructor
  · exact fun ⟨hkeys, ⟨hproperties, hentries⟩, helements⟩ => ⟨hproperties, ⟨hkeys, hentries⟩, helements⟩
  · exact fun ⟨hproperties, ⟨hkeys, hentries⟩, helements⟩ => ⟨hkeys, ⟨hproperties, hentries⟩, helements⟩

/-- An open object that is rendered as an array. -/
def elementsOnly (properties : List (String × Value)) (entries : List (Value × Value))
    (elements : List Value) : Bool :=
  properties.isEmpty && entries.isEmpty && !elements.isEmpty

theorem toJson_dynamic (properties : List (String × Value)) (entries : List (Value × Value))
    (elements : List Value) :
    (dynamic properties entries elements).toJson =
      if elementsOnly properties entries elements then do
        return .array (← jsonItems elements)
      else do
        let ps ← jsonProperties properties
        let es ← jsonEntries entries
        let ls ← jsonElements 0 elements
        return .object (ps ++ (es ++ ls)) := by
  rcases properties with _ | ⟨p, ps⟩ <;> rcases entries with _ | ⟨e, es⟩ <;>
    rcases elements with _ | ⟨v, vs⟩
  case nil.nil.cons =>
    rw [toJson, jsonItems]
    cases v.toJson with
    | error e => rfl
    | ok x => cases jsonItems vs <;> rfl
  all_goals rw [toJson] <;> first | rfl | nofun

theorem elementsOnly_eq_true {properties : List (String × Value)} {entries : List (Value × Value)}
    {elements : List Value} (h : elementsOnly properties entries elements = true) :
    properties = [] ∧ entries = [] := by
  rw [elementsOnly, Bool.and_eq_true, Bool.and_eq_true, List.isEmpty_iff, List.isEmpty_iff] at h
  exact h.1

mutual

/-- A value renders exactly if every key in it names a member. -/
theorem succeeds_toJson_iff (v : Value) : Succeeds v.toJson ↔ v.KeysNameMembers := by
  cases v with
  | list items | set items =>
      rw [toJson, succeeds_bind_pure_iff, succeeds_jsonItems_iff, keysNameMembers_iff_of_keys rfl]
      rfl
  | map entries =>
      rw [toJson, succeeds_bind_pure_iff, succeeds_jsonEntries_iff, ← forall_entries_iff,
        keysNameMembers_iff]
      rfl
  | dynamic properties entries elements =>
      rw [keysNameMembers_dynamic_iff, ← succeeds_jsonProperties_iff, ← succeeds_jsonEntries_iff]
      rw [toJson_dynamic]
      split
      · next helements =>
          obtain ⟨rfl, rfl⟩ := elementsOnly_eq_true helements
          rw [succeeds_bind_pure_iff, succeeds_jsonItems_iff, jsonProperties, jsonEntries,
            and_iff_right (succeeds_ok _), and_iff_right (succeeds_ok _)]
      · rw [← succeeds_jsonElements_iff 0]
        exact succeeds_bind_iff fun _ => succeeds_bind_iff fun _ => succeeds_bind_pure_iff
  | object className moduleUri properties =>
      rw [toJson, succeeds_bind_pure_iff, succeeds_jsonProperties_iff, keysNameMembers_iff_of_keys rfl]
      exact List.forall_mem_map.symm
  | pair first second =>
      rw [toJson, keysNameMembers_iff_of_keys rfl, parts, List.forall_mem_cons, List.forall_mem_singleton,
        ← succeeds_toJson_iff first, ← succeeds_toJson_iff second]
      exact succeeds_bind_iff fun _ => succeeds_bind_pure_iff
  | _ => exact iff_of_true (succeeds_ok _) (keysNameMembers_of_parts rfl rfl)

theorem succeeds_jsonItems_iff (items : List Value) :
    Succeeds (jsonItems items) ↔ ∀ v ∈ items, v.KeysNameMembers := by
  cases items with
  | nil => exact iff_of_true (succeeds_ok _) fun v hv => by cases hv
  | cons v vs =>
      rw [jsonItems, List.forall_mem_cons, ← succeeds_toJson_iff v, ← succeeds_jsonItems_iff vs]
      exact succeeds_bind_iff fun _ => succeeds_bind_pure_iff

theorem succeeds_jsonEntries_iff (entries : List (Value × Value)) :
    Succeeds (jsonEntries entries) ↔ ∀ p ∈ entries, p.1.NamesMember ∧ p.2.KeysNameMembers := by
  cases entries with
  | nil => exact iff_of_true (succeeds_ok _) fun p hp => by cases hp
  | cons p ps =>
      obtain ⟨k, v⟩ := p
      rw [jsonEntries, List.forall_mem_cons, ← succeeds_jsonEntries_iff ps, ← succeeds_memberName_iff,
        ← succeeds_toJson_iff v, and_assoc]
      exact succeeds_bind_iff fun _ => succeeds_bind_iff fun _ => succeeds_bind_pure_iff

theorem succeeds_jsonProperties_iff (properties : List (String × Value)) :
    Succeeds (jsonProperties properties) ↔ ∀ p ∈ properties, p.2.KeysNameMembers := by
  cases properties with
  | nil => exact iff_of_true (succeeds_ok _) fun p hp => by cases hp
  | cons p ps =>
      obtain ⟨name, v⟩ := p
      rw [jsonProperties, List.forall_mem_cons, ← succeeds_jsonProperties_iff ps,
        ← succeeds_toJson_iff v]
      exact succeeds_bind_iff fun _ => succeeds_bind_pure_iff

/-- The index under which an element stands makes no difference. -/
theorem succeeds_jsonElements_iff (index : Nat) (elements : List Value) :
    Succeeds (jsonElements index elements) ↔ ∀ v ∈ elements, v.KeysNameMembers := by
  cases elements with
  | nil => exact iff_of_true (succeeds_ok _) fun v hv => by cases hv
  | cons v vs =>
      rw [jsonElements, List.forall_mem_cons, ← succeeds_jsonElements_iff (index + 1) vs,
        ← succeeds_toJson_iff v]
      exact succeeds_bind_iff fun _ => succeeds_bind_pure_iff

end

end PklHost.Value
