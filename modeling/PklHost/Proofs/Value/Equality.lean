import PklHost.Proofs.Parts
import PklHost.Proofs.Value.Rendering

/-!
# Equality of values

Two values are equal exactly if there is no NaN in either of them and they are the same but for the signs
of zeros (`equal_iff`).  Everything else follows from that form: equality is symmetric and transitive, and a
value equals itself exactly if there is no NaN in it, at any depth and in keys as well.
-/

namespace PklHost

namespace Double

/-- The number, or zero without its sign. -/
def unsignedZero (x : Double) : Double := if x.isZero then ⟨0⟩ else x

theorem isZero_unsignedZero (x : Double) : x.unsignedZero.isZero = x.isZero := by
  unfold unsignedZero
  split
  · next hzero => rw [hzero]; rfl
  · rfl

theorem eq_iff {x y : Double} :
    x.eq y = true ↔ x.isNaN = false ∧ y.isNaN = false ∧ x.unsignedZero = y.unsignedZero := by
  have hsame : x.unsignedZero = y.unsignedZero ↔ x = y ∨ x.isZero = true ∧ y.isZero = true := by
    constructor
    · intro h
      have hzero : x.isZero = y.isZero := by rw [← isZero_unsignedZero x, h, isZero_unsignedZero]
      unfold unsignedZero at h
      rw [← hzero] at h
      split at h
      · next hx => exact .inr ⟨hx, hzero ▸ hx⟩
      · exact .inl h
    · rintro (rfl | ⟨hx, hy⟩)
      · rfl
      · rw [unsignedZero, unsignedZero, if_pos hx, if_pos hy]
  rw [hsame]
  simp [eq, and_assoc]

end Double

namespace Value

/-! ## Values with a NaN -/

/-- A value that is a NaN, or a quantity of one. -/
def IsNaN : Value → Prop
  | .float x => x.isNaN = true
  | .duration d => d.value.isNaN = true
  | .dataSize d => d.value.isNaN = true
  | _ => False

/-- A NaN stands in a value, at some depth. -/
def HasNaN (v : Value) : Prop := ∃ w, Occurs parts w v ∧ w.IsNaN

/-- No NaN stands in a value. -/
def NaNFree (v : Value) : Prop := Throughout parts (fun w => ¬ w.IsNaN) v

theorem not_nanFree_iff {v : Value} : ¬ v.NaNFree ↔ v.HasNaN := by
  simp [NaNFree, Throughout, HasNaN, Classical.not_forall]

theorem nanFree_of_parts {v : Value} (hself : ¬ v.IsNaN) :
    v.NaNFree ↔ ∀ part ∈ v.parts, part.NaNFree := by
  rw [NaNFree, throughout_iff, and_iff_right hself]
  rfl

theorem nanFree_leaf_iff {v : Value} (hparts : v.parts = []) : v.NaNFree ↔ ¬ v.IsNaN := by
  rw [NaNFree, throughout_iff, hparts, and_iff_left fun part hpart => by cases hpart]

@[simp] theorem nanFree_null : null.NaNFree := (nanFree_leaf_iff rfl).2 id

@[simp] theorem nanFree_bool (b : Bool) : (bool b).NaNFree := (nanFree_leaf_iff rfl).2 id

@[simp] theorem nanFree_int (n : Int64) : (int n).NaNFree := (nanFree_leaf_iff rfl).2 id

@[simp] theorem nanFree_string (s : String) : (string s).NaNFree := (nanFree_leaf_iff rfl).2 id

@[simp] theorem nanFree_bytes (octets : Bytes) : (bytes octets).NaNFree := (nanFree_leaf_iff rfl).2 id

@[simp] theorem nanFree_intSeq (s : IntSeq) : (intSeq s).NaNFree := (nanFree_leaf_iff rfl).2 id

@[simp] theorem nanFree_regex (pattern : String) : (regex pattern).NaNFree := (nanFree_leaf_iff rfl).2 id

@[simp] theorem nanFree_placeholder : placeholder.NaNFree := (nanFree_leaf_iff rfl).2 id

@[simp] theorem nanFree_float_iff {x : Double} : (float x).NaNFree ↔ x.isNaN = false :=
  (nanFree_leaf_iff rfl).trans (Bool.not_eq_true _).to_iff

@[simp] theorem nanFree_duration_iff {d : Duration} : (duration d).NaNFree ↔ d.value.isNaN = false :=
  (nanFree_leaf_iff rfl).trans (Bool.not_eq_true _).to_iff

@[simp] theorem nanFree_dataSize_iff {d : DataSize} : (dataSize d).NaNFree ↔ d.value.isNaN = false :=
  (nanFree_leaf_iff rfl).trans (Bool.not_eq_true _).to_iff

@[simp] theorem nanFree_list_iff {items : List Value} :
    (list items).NaNFree ↔ ∀ v ∈ items, v.NaNFree :=
  nanFree_of_parts id

@[simp] theorem nanFree_set_iff {items : List Value} :
    (set items).NaNFree ↔ ∀ v ∈ items, v.NaNFree :=
  nanFree_of_parts id

@[simp] theorem nanFree_map_iff {entries : List (Value × Value)} :
    (map entries).NaNFree ↔ ∀ p ∈ entries, p.1.NaNFree ∧ p.2.NaNFree :=
  (nanFree_of_parts id).trans forall_mem_pairs_iff

@[simp] theorem nanFree_object_iff {className moduleUri : String} {properties : List (String × Value)} :
    (object className moduleUri properties).NaNFree ↔ ∀ p ∈ properties, p.2.NaNFree :=
  (nanFree_of_parts id).trans List.forall_mem_map

@[simp] theorem nanFree_dynamic_iff {properties : List (String × Value)}
    {entries : List (Value × Value)} {elements : List Value} :
    (dynamic properties entries elements).NaNFree ↔ (∀ p ∈ properties, p.2.NaNFree) ∧
      (∀ p ∈ entries, p.1.NaNFree ∧ p.2.NaNFree) ∧ ∀ v ∈ elements, v.NaNFree := by
  have hparts := @nanFree_of_parts (dynamic properties entries elements) id
  rw [hparts, parts, List.forall_mem_append, List.forall_mem_append, List.forall_mem_map,
    forall_mem_pairs_iff, and_assoc]

@[simp] theorem nanFree_pair_iff {first second : Value} :
    (pair first second).NaNFree ↔ first.NaNFree ∧ second.NaNFree := by
  have hparts := @nanFree_of_parts (pair first second) id
  rw [hparts, parts, List.forall_mem_cons, List.forall_mem_singleton]

/-! ## Values without signs of zeros -/

mutual

/-- The value with every zero in it unsigned. -/
def unsignedZeros : Value → Value
  | .float x => .float x.unsignedZero
  | .duration d => .duration { d with value := d.value.unsignedZero }
  | .dataSize d => .dataSize { d with value := d.value.unsignedZero }
  | .list items => .list (unsignedItems items)
  | .set items => .set (unsignedItems items)
  | .map entries => .map (unsignedEntries entries)
  | .dynamic properties entries elements =>
    .dynamic (unsignedProperties properties) (unsignedEntries entries) (unsignedItems elements)
  | .object className moduleUri properties =>
    .object className moduleUri (unsignedProperties properties)
  | .pair first second => .pair first.unsignedZeros second.unsignedZeros
  | .null => .null
  | .bool b => .bool b
  | .int n => .int n
  | .string s => .string s
  | .bytes octets => .bytes octets
  | .intSeq s => .intSeq s
  | .regex pattern => .regex pattern
  | .placeholder => .placeholder

def unsignedItems : List Value → List Value
  | [] => []
  | v :: vs => v.unsignedZeros :: unsignedItems vs

def unsignedEntries : List (Value × Value) → List (Value × Value)
  | [] => []
  | (k, v) :: ps => (k.unsignedZeros, v.unsignedZeros) :: unsignedEntries ps

def unsignedProperties : List (String × Value) → List (String × Value)
  | [] => []
  | (name, v) :: ps => (name, v.unsignedZeros) :: unsignedProperties ps

end

/-! ## Equality -/

mutual

/-- Equal values have no NaN in them and are the same but for the signs of zeros. -/
theorem equal_iff (a b : Value) :
    a.equal b = true ↔ a.NaNFree ∧ b.NaNFree ∧ a.unsignedZeros = b.unsignedZeros := by
  cases a with
  | float x => cases b <;> simp [equal, unsignedZeros, Double.eq_iff]
  | duration d => cases b <;> simp [equal, unsignedZeros, Duration.eq, Double.eq_iff, and_assoc]
  | dataSize d => cases b <;> simp [equal, unsignedZeros, DataSize.eq, Double.eq_iff, and_assoc]
  | list items =>
      cases b with
      | list items' => simp [equal, unsignedZeros, equalItems_iff items items']
      | _ => simp [equal, unsignedZeros]
  | set items =>
      cases b with
      | set items' => simp [equal, unsignedZeros, equalItems_iff items items']
      | _ => simp [equal, unsignedZeros]
  | map entries =>
      cases b with
      | map entries' => simp [equal, unsignedZeros, equalEntries_iff entries entries']
      | _ => simp [equal, unsignedZeros]
  | dynamic properties entries elements =>
      cases b with
      | dynamic properties' entries' elements' =>
          rw [equal, Bool.and_eq_true, Bool.and_eq_true, equalProperties_iff properties properties',
            equalEntries_iff entries entries', equalItems_iff elements elements', nanFree_dynamic_iff,
            nanFree_dynamic_iff, unsignedZeros, unsignedZeros, dynamic.injEq]
          constructor
          · rintro ⟨⟨⟨hp, hp', hps⟩, he, he', hes⟩, hl, hl', hls⟩
            exact ⟨⟨hp, he, hl⟩, ⟨hp', he', hl'⟩, hps, hes, hls⟩
          · rintro ⟨⟨hp, he, hl⟩, ⟨hp', he', hl'⟩, hps, hes, hls⟩
            exact ⟨⟨⟨hp, hp', hps⟩, he, he', hes⟩, hl, hl', hls⟩
      | _ => simp [equal, unsignedZeros]
  | object className moduleUri properties =>
      cases b with
      | object className' moduleUri' properties' =>
          rw [equal, Bool.and_eq_true, Bool.and_eq_true, beq_iff_eq, beq_iff_eq,
            equalProperties_iff properties properties', nanFree_object_iff, nanFree_object_iff,
            unsignedZeros, unsignedZeros, object.injEq]
          constructor
          · rintro ⟨⟨hc, hm⟩, hp, hp', hps⟩
            exact ⟨hp, hp', hc, hm, hps⟩
          · rintro ⟨hp, hp', hc, hm, hps⟩
            exact ⟨⟨hc, hm⟩, hp, hp', hps⟩
      | _ => simp [equal, unsignedZeros]
  | pair first second =>
      cases b with
      | pair first' second' =>
          rw [equal, Bool.and_eq_true, equal_iff first first', equal_iff second second', nanFree_pair_iff,
            nanFree_pair_iff, unsignedZeros, unsignedZeros, pair.injEq]
          constructor
          · rintro ⟨⟨ha, ha', has⟩, hb, hb', hbs⟩
            exact ⟨⟨ha, hb⟩, ⟨ha', hb'⟩, has, hbs⟩
          · rintro ⟨⟨ha, hb⟩, ⟨ha', hb'⟩, has, hbs⟩
            exact ⟨⟨ha, ha', has⟩, hb, hb', hbs⟩
      | _ => simp [equal, unsignedZeros]
  | _ => cases b <;> simp [equal, unsignedZeros]

theorem equalItems_iff (xs ys : List Value) :
    equalItems xs ys = true ↔
      (∀ x ∈ xs, x.NaNFree) ∧ (∀ y ∈ ys, y.NaNFree) ∧ unsignedItems xs = unsignedItems ys := by
  cases xs with
  | nil => cases ys <;> simp [equalItems, unsignedItems]
  | cons x xs =>
      cases ys with
      | nil => simp [equalItems, unsignedItems]
      | cons y ys =>
          rw [equalItems, Bool.and_eq_true, equal_iff x y, equalItems_iff xs ys, List.forall_mem_cons,
            List.forall_mem_cons, unsignedItems, unsignedItems, List.cons.injEq]
          constructor
          · rintro ⟨⟨hx, hy, hxy⟩, hxs, hys, hrest⟩
            exact ⟨⟨hx, hxs⟩, ⟨hy, hys⟩, hxy, hrest⟩
          · rintro ⟨⟨hx, hxs⟩, ⟨hy, hys⟩, hxy, hrest⟩
            exact ⟨⟨hx, hy, hxy⟩, hxs, hys, hrest⟩

theorem equalEntries_iff (ps qs : List (Value × Value)) :
    equalEntries ps qs = true ↔ (∀ p ∈ ps, p.1.NaNFree ∧ p.2.NaNFree) ∧
      (∀ q ∈ qs, q.1.NaNFree ∧ q.2.NaNFree) ∧ unsignedEntries ps = unsignedEntries qs := by
  cases ps with
  | nil => cases qs <;> simp [equalEntries, unsignedEntries]
  | cons p ps =>
      cases qs with
      | nil => simp [equalEntries, unsignedEntries]
      | cons q qs =>
          obtain ⟨k, v⟩ := p
          obtain ⟨k', v'⟩ := q
          rw [equalEntries, Bool.and_eq_true, Bool.and_eq_true, equal_iff k k', equal_iff v v',
            equalEntries_iff ps qs, List.forall_mem_cons, List.forall_mem_cons, unsignedEntries,
            unsignedEntries, List.cons.injEq, Prod.mk.injEq]
          constructor
          · rintro ⟨⟨⟨hk, hk', hks⟩, hv, hv', hvs⟩, hps, hqs, hrest⟩
            exact ⟨⟨⟨hk, hv⟩, hps⟩, ⟨⟨hk', hv'⟩, hqs⟩, ⟨hks, hvs⟩, hrest⟩
          · rintro ⟨⟨⟨hk, hv⟩, hps⟩, ⟨⟨hk', hv'⟩, hqs⟩, ⟨hks, hvs⟩, hrest⟩
            exact ⟨⟨⟨hk, hk', hks⟩, hv, hv', hvs⟩, hps, hqs, hrest⟩

theorem equalProperties_iff (ps qs : List (String × Value)) :
    equalProperties ps qs = true ↔ (∀ p ∈ ps, p.2.NaNFree) ∧ (∀ q ∈ qs, q.2.NaNFree) ∧
      unsignedProperties ps = unsignedProperties qs := by
  cases ps with
  | nil => cases qs <;> simp [equalProperties, unsignedProperties]
  | cons p ps =>
      cases qs with
      | nil => simp [equalProperties, unsignedProperties]
      | cons q qs =>
          obtain ⟨name, v⟩ := p
          obtain ⟨name', v'⟩ := q
          rw [equalProperties, Bool.and_eq_true, Bool.and_eq_true, beq_iff_eq, equal_iff v v',
            equalProperties_iff ps qs, List.forall_mem_cons, List.forall_mem_cons, unsignedProperties,
            unsignedProperties, List.cons.injEq, Prod.mk.injEq]
          constructor
          · rintro ⟨⟨hname, hv, hv', hvs⟩, hps, hqs, hrest⟩
            exact ⟨⟨hv, hps⟩, ⟨hv', hqs⟩, ⟨hname, hvs⟩, hrest⟩
          · rintro ⟨⟨hv, hps⟩, ⟨hv', hqs⟩, ⟨hname, hvs⟩, hrest⟩
            exact ⟨⟨hname, hv, hv', hvs⟩, hps, hqs, hrest⟩

end

theorem equal_symm {a b : Value} (h : a.equal b = true) : b.equal a = true := by
  obtain ⟨ha, hb, hsame⟩ := (equal_iff a b).1 h
  exact (equal_iff b a).2 ⟨hb, ha, hsame.symm⟩

theorem equal_trans {a b c : Value} (h : a.equal b = true) (h' : b.equal c = true) :
    a.equal c = true := by
  obtain ⟨ha, -, hab⟩ := (equal_iff a b).1 h
  obtain ⟨-, hc, hbc⟩ := (equal_iff b c).1 h'
  exact (equal_iff a c).2 ⟨ha, hc, hab.trans hbc⟩

theorem equal_self_iff {v : Value} : v.equal v = true ↔ v.NaNFree := by
  simp [equal_iff]

/-- A value with a NaN in it equals nothing. -/
theorem equal_of_hasNaN {a b : Value} (h : a.HasNaN) : a.equal b = false ∧ b.equal a = false := by
  have hnot : ¬ a.NaNFree := not_nanFree_iff.2 h
  refine ⟨Bool.eq_false_iff.2 fun hab => ?_, Bool.eq_false_iff.2 fun hba => ?_⟩
  · exact hnot ((equal_iff a b).1 hab).1
  · exact hnot ((equal_iff b a).1 hba).2.1

end Value

end PklHost
