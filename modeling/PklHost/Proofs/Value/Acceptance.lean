import PklHost.Proofs.Value.Grammar
import PklHost.Proofs.Value.RoundTrip

/-!
# The decoder accepts the grammar

The decoder gives a value for an item exactly if the item is written for the value.

* `denotes_of_ofItem`: what it gives is denoted.  The induction is on the size of the item; each tag has a
  lemma of its own that says which fields it was read from.
* `ofItem_of_denotes`: what is denoted, it gives.  The induction is on the derivation.
* `ofTagged_append`, `readMembers_append`: fields past the ones that are needed are not looked at.

The members of an object are read with what was read before them.  `readMembers_eq_ok_iff` says what comes
of that: the three axes are filled as if each were alone (`Members.extend`).
-/

namespace PklHost

open MessagePack (Item WireInt eq_ofUInt64_of_toUInt64?)

/-! ## Tags -/

/-- The tags of each kind. -/
def Tag.Means (tag : UInt64) : Tag.Kind → Prop
  | .object => tag = 0x01
  | .map => tag = 0x02 ∨ tag = 0x03
  | .list => tag = 0x04 ∨ tag = 0x05
  | .set => tag = 0x06
  | .duration => tag = 0x07
  | .dataSize => tag = 0x08
  | .pair => tag = 0x09
  | .intSeq => tag = 0x0a
  | .regex => tag = 0x0b
  | .declaration => tag = 0x0c ∨ tag = 0x0d
  | .member => tag = 0x10 ∨ tag = 0x11 ∨ tag = 0x12
  | .unknown => tag = 0x00 ∨ tag = 0x0e ∨ tag = 0x0f ∨ 0x12 < tag.toNat

theorem Tag.means_kind (tag : UInt64) : Tag.Means tag (Tag.kind tag) := by
  unfold Tag.kind
  split <;> simp_all [Tag.Means, ← UInt64.toNat_inj]
  omega

/-- The fields that a tagged array needs. -/
def Tag.Kind.arity : Tag.Kind → Nat
  | .object | .intSeq => 3
  | .duration | .dataSize | .pair => 2
  | .map | .list | .set | .regex => 1
  | .declaration | .member | .unknown => 0

/-- The tag of each kind of member. -/
def Tag.MeansMember (tag : UInt64) : Tag.MemberKind → Prop
  | .property => tag = 0x10
  | .entry => tag = 0x11
  | .element => tag = 0x12
  | .unknown => tag ≠ 0x10 ∧ tag ≠ 0x11 ∧ tag ≠ 0x12

theorem Tag.meansMember_memberKind (tag : UInt64) : Tag.MeansMember tag (Tag.memberKind tag) := by
  unfold Tag.memberKind
  split <;> simp_all [Tag.MeansMember, ← UInt64.toNat_inj]

namespace Value

/-! ## Lists -/

theorem ofItems_eq_ok_iff {xs : List Item} {vs : List Value} :
    ofItems xs = .ok vs ↔ ∃ parts : List (Item × Value), xs = parts.map Prod.fst ∧
      vs = parts.map Prod.snd ∧ ∀ p ∈ parts, ofItem p.1 = .ok p.2 := by
  induction xs generalizing vs with
  | nil => simp [ofItems]
  | cons x xs ih =>
      simp only [ofItems, bind_eq_ok_iff, pure_eq_ok_iff, ih]
      constructor
      · rintro ⟨v, hv, _, ⟨parts, rfl, rfl, hparts⟩, rfl⟩
        exact ⟨(x, v) :: parts, rfl, rfl, List.forall_mem_cons.2 ⟨hv, hparts⟩⟩
      · rintro ⟨parts, hxs, rfl, hparts⟩
        cases parts with
        | nil => simp at hxs
        | cons p parts =>
            obtain ⟨rfl, rfl⟩ := List.cons_eq_cons.1 hxs
            obtain ⟨hp, hparts⟩ := List.forall_mem_cons.1 hparts
            exact ⟨p.2, hp, _, ⟨parts, rfl, rfl, hparts⟩, rfl⟩

theorem ofPairs_eq_ok_iff {ps : List (Item × Item)} {vs : List (Value × Value)} :
    ofPairs ps = .ok vs ↔ ∃ pairs : List ((Item × Value) × (Item × Value)),
      ps = (pairs.map fun p => (p.1.1, p.2.1)) ∧ vs = (pairs.map fun p => (p.1.2, p.2.2)) ∧
        ∀ p ∈ pairs, ofItem p.1.1 = .ok p.1.2 ∧ ofItem p.2.1 = .ok p.2.2 := by
  induction ps generalizing vs with
  | nil => simp [ofPairs]
  | cons kv ps ih =>
      obtain ⟨k, v⟩ := kv
      simp only [ofPairs, bind_eq_ok_iff, pure_eq_ok_iff, ih]
      constructor
      · rintro ⟨key, hkey, value, hvalue, _, ⟨pairs, rfl, rfl, hpairs⟩, rfl⟩
        exact ⟨((k, key), (v, value)) :: pairs, rfl, rfl,
          List.forall_mem_cons.2 ⟨⟨hkey, hvalue⟩, hpairs⟩⟩
      · rintro ⟨pairs, hps, rfl, hpairs⟩
        cases pairs with
        | nil => simp at hps
        | cons p pairs =>
            obtain ⟨hkv, rfl⟩ := List.cons_eq_cons.1 hps
            obtain ⟨rfl, rfl⟩ := Prod.mk.inj hkv
            obtain ⟨⟨hkey, hvalue⟩, hpairs⟩ := List.forall_mem_cons.1 hpairs
            exact ⟨p.1.2, hkey, p.2.2, hvalue, _, ⟨pairs, rfl, rfl, hpairs⟩, rfl⟩

/-! ## Members -/

/-- What was read of an object, with more members after it. -/
def Members.extend (acc : Members) (members : List Member) : Members where
  properties := Assoc.insertAll (· == ·) acc.properties (members.flatMap Member.properties)
  entries := Assoc.insertAll Value.equal acc.entries (members.flatMap Member.entries)
  elements := acc.elements ++ members.flatMap Member.elements

theorem Members.extend_nil (acc : Members) : acc.extend [] = acc := by
  simp [Members.extend, Assoc.insertAll]

theorem Members.extend_cons (acc : Members) (m : Member) (members : List Member) :
    acc.extend (m :: members) = (acc.extend [m]).extend members := by
  simp [Members.extend, Assoc.insertAll, List.foldl_append]

theorem Members.extend_property (acc : Members) (name : String) (value : Item × Value)
    (surplus : List Item) :
    acc.extend [.property name value surplus] =
      { acc with properties := acc.properties.insert name value.2 } := by
  simp [Members.extend, Member.properties, Member.entries, Member.elements, Assoc.insertAll,
    Properties.insert]

theorem Members.extend_entry (acc : Members) (key value : Item × Value) (surplus : List Item) :
    acc.extend [.entry key value surplus] =
      { acc with entries := acc.entries.insert key.2 value.2 } := by
  simp [Members.extend, Member.properties, Member.entries, Member.elements, Assoc.insertAll,
    Entries.insert]

theorem Members.extend_element (acc : Members) (index : UInt64) (value : Item × Value)
    (surplus : List Item) :
    acc.extend [.element index value surplus] =
      { acc with elements := acc.elements ++ [value.2] } := by
  simp [Members.extend, Member.properties, Member.entries, Member.elements, Assoc.insertAll]

/-- A member is read at its place in an object that may have it. -/
def Member.Reads (isDynamic : Bool) (before : Nat) (m : Member) : Prop :=
  (∀ p ∈ m.parts, ofItem p.1 = .ok p.2) ∧ (isDynamic = true ∨ m.IsProperty) ∧ m.At before

theorem readIndex_eq_ok_iff {expected : Nat} {x : Item} {u : Unit} :
    readIndex expected x = .ok u ↔ ∃ index, x = .ofUInt64 index ∧ index.toNat = expected := by
  constructor
  · intro h
    cases x with
    | int n =>
        rw [readIndex] at h
        cases hword : n.toUInt64? with
        | none => simp [hword] at h
        | some index =>
            rw [hword] at h
            obtain rfl := eq_ofUInt64_of_toUInt64? hword
            refine ⟨index, rfl, ?_⟩
            simpa using h
    | _ => simp [readIndex] at h
  · rintro ⟨index, rfl, rfl⟩
    simp [Item.ofUInt64, readIndex]

theorem tooFew_ne_ok {what : String} {acc : Members} : tooFew what ≠ .ok acc := by
  simp [tooFew]

/-- An object of a declared class has properties only. -/
theorem readMember_declared {className : String} {acc acc' : Members} {tag : UInt64}
    {kind : Tag.MemberKind} {fields : List Item} (hkind : kind = .entry ∨ kind = .element) :
    readMember false className acc tag kind fields ≠ .ok acc' := by
  rcases hkind with rfl | rfl
  · rcases fields with _ | ⟨k, _ | ⟨v, surplus⟩⟩ <;> simp [readMember]
  · rcases fields with _ | ⟨i, _ | ⟨v, surplus⟩⟩ <;> simp [readMember]

/-- A member that was read is one of the three that are written. -/
theorem exists_member_of_readMember {isDynamic : Bool} {className : String} {acc acc' : Members}
    {tag : UInt64} {fields : List Item}
    (h : readMember isDynamic className acc tag (Tag.memberKind tag) fields = .ok acc') :
    ∃ m : Member, taggedItem tag fields = m.item ∧ m.Reads isDynamic acc.elements.length ∧
      acc' = acc.extend [m] := by
  have htag := Tag.meansMember_memberKind tag
  generalize Tag.memberKind tag = kind at h htag
  cases kind with
  | unknown => simp [readMember] at h
  | property =>
      obtain rfl : tag = 0x10 := htag
      rcases fields with _ | ⟨x, _ | ⟨v, surplus⟩⟩
      · simp [readMember, tooFew_ne_ok] at h
      · simp [readMember, bind_eq_ok_iff, tooFew_ne_ok] at h
      · simp only [readMember, bind_eq_ok_iff, readString_eq_ok_iff, pure_eq_ok_iff] at h
        obtain ⟨name, rfl, value, hvalue, rfl⟩ := h
        refine ⟨.property name (v, value) surplus, rfl, ⟨?_, .inr trivial, trivial⟩, ?_⟩
        · simpa [Member.parts] using hvalue
        · rw [Members.extend_property]
  | entry =>
      obtain rfl : tag = 0x11 := htag
      cases isDynamic with
      | false => exact absurd h (readMember_declared (.inl rfl))
      | true =>
          rcases fields with _ | ⟨k, _ | ⟨v, surplus⟩⟩
          · simp [readMember, tooFew_ne_ok] at h
          · simp [readMember, bind_eq_ok_iff, tooFew_ne_ok] at h
          · simp only [readMember, if_true, bind_eq_ok_iff, pure_eq_ok_iff] at h
            obtain ⟨key, hkey, value, hvalue, rfl⟩ := h
            refine ⟨.entry (k, key) (v, value) surplus, rfl, ⟨?_, .inl rfl, trivial⟩, ?_⟩
            · simpa [Member.parts] using ⟨hkey, hvalue⟩
            · rw [Members.extend_entry]
  | element =>
      obtain rfl : tag = 0x12 := htag
      cases isDynamic with
      | false => exact absurd h (readMember_declared (.inr rfl))
      | true =>
          rcases fields with _ | ⟨i, _ | ⟨v, surplus⟩⟩
          · simp [readMember, tooFew_ne_ok] at h
          · simp [readMember, bind_eq_ok_iff, tooFew_ne_ok] at h
          · simp only [readMember, if_true, bind_eq_ok_iff, readIndex_eq_ok_iff,
              pure_eq_ok_iff] at h
            obtain ⟨-, ⟨index, rfl, hindex⟩, value, hvalue, rfl⟩ := h
            refine ⟨.element index (v, value) surplus, rfl, ⟨?_, .inl rfl, hindex⟩, ?_⟩
            · simpa [Member.parts] using hvalue
            · rw [Members.extend_element]

/-- A member that is written is read. -/
theorem readMembers_item {isDynamic : Bool} {acc : Members} {m : Member} (className : String)
    (h : m.Reads isDynamic acc.elements.length) (rest : List Item) :
    readMembers isDynamic className acc (m.item :: rest) =
      readMembers isDynamic className (acc.extend [m]) rest := by
  obtain ⟨hparts, hopen, hat⟩ := h
  cases m with
  | property name value surplus =>
      have hvalue : ofItem value.1 = .ok value.2 := hparts value (by simp [Member.parts])
      have hkind : Tag.memberKind 0x10 = .property := rfl
      rw [Member.item, readMembers_tagged, hkind, Members.extend_property]
      simp only [readMember, readString, hvalue, bind, Except.bind, pure, Except.pure]
  | entry key value surplus =>
      have hkey : ofItem key.1 = .ok key.2 := hparts key (by simp [Member.parts])
      have hvalue : ofItem value.1 = .ok value.2 := hparts value (by simp [Member.parts])
      have hkind : Tag.memberKind 0x11 = .entry := rfl
      obtain rfl : isDynamic = true := hopen.resolve_right id
      rw [Member.item, readMembers_tagged, hkind, Members.extend_entry]
      simp only [readMember, if_true, hkey, hvalue, bind, Except.bind, pure, Except.pure]
  | element index value surplus =>
      have hvalue : ofItem value.1 = .ok value.2 := hparts value (by simp [Member.parts])
      have hkind : Tag.memberKind 0x12 = .element := rfl
      have hindex : readIndex acc.elements.length (.ofUInt64 index) = .ok () :=
        readIndex_eq_ok_iff.2 ⟨index, rfl, hat⟩
      obtain rfl : isDynamic = true := hopen.resolve_right id
      rw [Member.item, readMembers_tagged, hkind, Members.extend_element]
      simp only [readMember, if_true, hindex, hvalue, bind, Except.bind, pure, Except.pure]

/-- A member that was read is an array with a tag. -/
theorem exists_tag_of_readMembers {isDynamic : Bool} {className : String} {acc acc' : Members}
    {x : Item} {rest : List Item} (h : readMembers isDynamic className acc (x :: rest) = .ok acc') :
    ∃ tag fields between, x = taggedItem tag fields ∧
      readMember isDynamic className acc tag (Tag.memberKind tag) fields = .ok between ∧
      readMembers isDynamic className between rest = .ok acc' := by
  cases x with
  | array parts =>
      cases parts with
      | nil => simp [readMembers] at h
      | cons head fields =>
          cases head with
          | int n =>
              simp only [readMembers, bind_eq_ok_iff] at h
              obtain ⟨between, hmember, hrest⟩ := h
              cases hword : n.toUInt64? with
              | none =>
                  -- a negative tag is read as one that no member has
                  have hkind : Tag.memberKind (memberTag n) = .unknown := by
                    rw [memberTag, hword]
                    rfl
                  rw [hkind] at hmember
                  simp [readMember] at hmember
              | some tag =>
                  obtain rfl := eq_ofUInt64_of_toUInt64? hword
                  rw [memberTag, hword] at hmember
                  exact ⟨tag, fields, between, rfl, hmember, hrest⟩
          | _ => simp [readMembers] at h
  | _ => simp [readMembers] at h

/-- The members of an object are read as they are written, one after another. -/
theorem readMembers_eq_ok_iff {isDynamic : Bool} {className : String} {acc acc' : Members}
    {items : List Item} :
    readMembers isDynamic className acc items = .ok acc' ↔ ∃ members : List Member,
      items = members.map Member.item ∧ (∀ m ∈ members, ∀ p ∈ m.parts, ofItem p.1 = .ok p.2) ∧
        (∀ m ∈ members, isDynamic = true ∨ m.IsProperty) ∧ InOrder acc.elements.length members ∧
        acc' = acc.extend members := by
  constructor
  · intro h
    induction items generalizing acc with
    | nil =>
        obtain rfl : acc = acc' := by simpa [readMembers] using h
        exact ⟨[], rfl, by simp, by simp, trivial, acc.extend_nil.symm⟩
    | cons x rest ih =>
        obtain ⟨tag, fields, between, rfl, hmember, hrest⟩ := exists_tag_of_readMembers h
        obtain ⟨m, hm, ⟨hparts, hopen, hat⟩, rfl⟩ := exists_member_of_readMember hmember
        obtain ⟨members, rfl, hmembers, hopens, horder, rfl⟩ := ih hrest
        refine ⟨m :: members, congrArg (· :: _) hm, List.forall_mem_cons.2 ⟨hparts, hmembers⟩,
          List.forall_mem_cons.2 ⟨hopen, hopens⟩, ⟨hat, ?_⟩, (acc.extend_cons m members).symm⟩
        simpa [Members.extend] using horder
  · rintro ⟨members, rfl, hparts, hopen, horder, rfl⟩
    induction members generalizing acc with
    | nil => rw [acc.extend_nil, List.map_nil, readMembers]
    | cons m members ih =>
        obtain ⟨hm, hparts⟩ := List.forall_mem_cons.1 hparts
        obtain ⟨hmopen, hopen⟩ := List.forall_mem_cons.1 hopen
        obtain ⟨hat, horder⟩ := horder
        rw [List.map_cons, readMembers_item className ⟨hm, hmopen, hat⟩,
          acc.extend_cons m members]
        refine ih hparts hopen ?_
        simpa [Members.extend] using horder

/-! ## Tagged arrays with values in them -/

theorem readClass_eq_ok_iff {what className moduleUri : String} {c m : Item} :
    readClass what c m = .ok (className, moduleUri) ↔ c = .text className ∧ m = .text moduleUri := by
  simp only [readClass, bind_eq_ok_iff, readString_eq_ok_iff, pure_eq_ok_iff, Prod.mk.injEq]
  constructor
  · rintro ⟨_, rfl, _, rfl, rfl, rfl⟩
    exact ⟨rfl, rfl⟩
  · rintro ⟨rfl, rfl⟩
    exact ⟨_, rfl, _, rfl, rfl, rfl⟩

theorem ofTagged_object_eq_ok_iff {tag : UInt64} {fields : List Item} {v : Value} :
    ofTagged tag .object fields = .ok v ↔ ∃ className moduleUri items surplus acc,
      fields = .text className :: .text moduleUri :: .array items :: surplus ∧
        readMembers (isDynamicClass className moduleUri) className {} items = .ok acc ∧
        v = ofMembers (isDynamicClass className moduleUri) className moduleUri acc := by
  constructor
  · intro h
    rcases fields with _ | ⟨c, _ | ⟨m, _ | ⟨got, surplus⟩⟩⟩
    · simp [ofTagged] at h
    · simp [ofTagged] at h
    · simp [ofTagged] at h
    · cases got with
      | array items =>
          simp only [ofTagged, bind_eq_ok_iff, Prod.exists, readClass_eq_ok_iff, pure_eq_ok_iff] at h
          obtain ⟨className, moduleUri, ⟨rfl, rfl⟩, acc, hacc, rfl⟩ := h
          exact ⟨className, moduleUri, items, surplus, acc, rfl, hacc, rfl⟩
      | _ => simp [ofTagged] at h
  · rintro ⟨className, moduleUri, items, surplus, acc, rfl, hacc, rfl⟩
    simp only [ofTagged, bind_eq_ok_iff, Prod.exists, readClass_eq_ok_iff, pure_eq_ok_iff]
    exact ⟨className, moduleUri, ⟨rfl, rfl⟩, acc, hacc, rfl⟩

theorem ofTagged_map_eq_ok_iff {tag : UInt64} {fields : List Item} {v : Value} :
    ofTagged tag .map fields = .ok v ↔ ∃ ps surplus pairs, fields = .map ps :: surplus ∧
      ofPairs ps = .ok pairs ∧ v = .map (Entries.ofPairs pairs) := by
  constructor
  · intro h
    cases fields with
    | nil => simp [ofTagged] at h
    | cons x surplus =>
        cases x with
        | map ps =>
            simp only [ofTagged, bind_eq_ok_iff, pure_eq_ok_iff] at h
            obtain ⟨pairs, hpairs, rfl⟩ := h
            exact ⟨ps, surplus, pairs, rfl, hpairs, rfl⟩
        | _ => simp [ofTagged] at h
  · rintro ⟨ps, surplus, pairs, rfl, hpairs, rfl⟩
    simp only [ofTagged, bind_eq_ok_iff, pure_eq_ok_iff]
    exact ⟨pairs, hpairs, rfl⟩

/-- Lists and sets are read alike. -/
theorem ofTagged_seq_eq_ok_iff {tag : UInt64} {kind : Tag.Kind} {build : List Value → Value}
    {fields : List Item} {v : Value}
    (hkind : kind = .list ∧ build = .list ∨ kind = .set ∧ build = .set) :
    ofTagged tag kind fields = .ok v ↔ ∃ xs surplus items, fields = .array xs :: surplus ∧
      ofItems xs = .ok items ∧ v = build items := by
  have harray : ∀ xs surplus, ofTagged tag kind (.array xs :: surplus) = .ok v ↔
      ∃ items, ofItems xs = .ok items ∧ build items = v := by
    intro xs surplus
    rcases hkind with ⟨rfl, rfl⟩ | ⟨rfl, rfl⟩
      <;> simp only [ofTagged, bind_eq_ok_iff, pure_eq_ok_iff]
  constructor
  · intro h
    cases fields with
    | nil => rcases hkind with ⟨rfl, -⟩ | ⟨rfl, -⟩ <;> simp [ofTagged] at h
    | cons x surplus =>
        cases x with
        | array xs =>
            obtain ⟨items, hitems, rfl⟩ := (harray xs surplus).1 h
            exact ⟨xs, surplus, items, rfl, hitems, rfl⟩
        | _ => rcases hkind with ⟨rfl, -⟩ | ⟨rfl, -⟩ <;> simp [ofTagged] at h
  · rintro ⟨xs, surplus, items, rfl, hitems, rfl⟩
    exact (harray xs surplus).2 ⟨items, hitems, rfl⟩

theorem ofTagged_pair_eq_ok_iff {tag : UInt64} {fields : List Item} {v : Value} :
    ofTagged tag .pair fields = .ok v ↔ ∃ a b surplus first second, fields = a :: b :: surplus ∧
      ofItem a = .ok first ∧ ofItem b = .ok second ∧ v = .pair first second := by
  constructor
  · intro h
    rcases fields with _ | ⟨a, _ | ⟨b, surplus⟩⟩
    · simp [ofTagged, tooFew] at h
    · simp [ofTagged, bind_eq_ok_iff, tooFew] at h
    · simp only [ofTagged, bind_eq_ok_iff, pure_eq_ok_iff] at h
      obtain ⟨first, hfirst, second, hsecond, rfl⟩ := h
      exact ⟨a, b, surplus, first, second, rfl, hfirst, hsecond, rfl⟩
  · rintro ⟨a, b, surplus, first, second, rfl, hfirst, hsecond, rfl⟩
    simp only [ofTagged, bind_eq_ok_iff, pure_eq_ok_iff]
    exact ⟨first, hfirst, second, hsecond, rfl⟩

/-! ## Soundness -/

/-- What is decoded of the items inside fields is what they are written for. -/
def SoundBelow (bound : Nat) : Prop :=
  ∀ (x : Item) (v : Value), sizeOf x < bound → ofItem x = .ok v → Denotes x v

theorem isDynamicClass_iff {className moduleUri : String} :
    isDynamicClass className moduleUri = true ↔ className = "Dynamic" ∧ moduleUri = "pkl:base" := by
  simp [isDynamicClass, Tag.dynamicClass, Tag.baseModule]

theorem Member.sizeOf_parts {m : Member} {p : Item × Value} (hp : p ∈ m.parts) :
    sizeOf p.1 < sizeOf m.item := by
  cases m with
  | property name value surplus =>
      obtain rfl : p = value := by simpa [parts] using hp
      simp only [item, taggedItem, Item.array.sizeOf_spec, List.cons.sizeOf_spec]
      omega
  | entry key value surplus =>
      obtain rfl | rfl : p = key ∨ p = value := by simpa [parts] using hp
      all_goals
        simp only [item, taggedItem, Item.array.sizeOf_spec, List.cons.sizeOf_spec]
        omega
  | element index value surplus =>
      obtain rfl : p = value := by simpa [parts] using hp
      simp only [item, taggedItem, Item.array.sizeOf_spec, List.cons.sizeOf_spec]
      omega

/-- The values in the members of an object that was read. -/
theorem denotes_of_members {bound : Nat} {members : List Member} (hsound : SoundBelow bound)
    (hbound : sizeOf (members.map Member.item) < bound)
    (h : ∀ m ∈ members, ∀ p ∈ m.parts, ofItem p.1 = .ok p.2) :
    ∀ m ∈ members, ∀ p ∈ m.parts, Denotes p.1 p.2 := by
  intro m hm p hp
  have hitem := List.sizeOf_lt_of_mem (List.mem_map_of_mem (f := Member.item) hm)
  have hpart := Member.sizeOf_parts hp
  exact hsound p.1 p.2 (by omega) (h m hm p hp)

theorem denotes_of_items {bound : Nat} {parts : List (Item × Value)} (hsound : SoundBelow bound)
    (hbound : sizeOf (parts.map Prod.fst) < bound) (h : ∀ p ∈ parts, ofItem p.1 = .ok p.2) :
    ∀ p ∈ parts, Denotes p.1 p.2 := by
  intro p hp
  have hitem := List.sizeOf_lt_of_mem (List.mem_map_of_mem (f := Prod.fst) hp)
  exact hsound p.1 p.2 (by omega) (h p hp)

theorem denotes_of_pairs {bound : Nat} {pairs : List ((Item × Value) × (Item × Value))}
    (hsound : SoundBelow bound) (hbound : sizeOf (pairs.map fun p => (p.1.1, p.2.1)) < bound)
    (h : ∀ p ∈ pairs, ofItem p.1.1 = .ok p.1.2 ∧ ofItem p.2.1 = .ok p.2.2) :
    ∀ p ∈ pairs, Denotes p.1.1 p.1.2 ∧ Denotes p.2.1 p.2.2 := by
  intro p hp
  have hitem := List.sizeOf_lt_of_mem
    (List.mem_map_of_mem (f := fun p : (Item × Value) × (Item × Value) => (p.1.1, p.2.1)) hp)
  simp only [Prod.mk.sizeOf_spec] at hitem
  exact ⟨hsound _ _ (by omega) (h p hp).1, hsound _ _ (by omega) (h p hp).2⟩

theorem denotes_of_ofTagged {tag : UInt64} {fields : List Item} {v : Value}
    (hsound : SoundBelow (sizeOf fields)) (h : ofTagged tag (Tag.kind tag) fields = .ok v) :
    Denotes (taggedItem tag fields) v := by
  have htag := Tag.means_kind tag
  generalize Tag.kind tag = kind at h htag
  cases kind with
  | object =>
      obtain rfl : tag = 0x01 := htag
      obtain ⟨className, moduleUri, items, surplus, acc, rfl, hmembers, rfl⟩ :=
        ofTagged_object_eq_ok_iff.1 h
      obtain ⟨members, rfl, hparts, hopen, horder, rfl⟩ := readMembers_eq_ok_iff.1 hmembers
      have hparts := denotes_of_members hsound (by
        simp only [List.cons.sizeOf_spec, Item.array.sizeOf_spec]
        omega) hparts
      -- only the open class may have had anything but properties
      by_cases hclass : className = "Dynamic" ∧ moduleUri = "pkl:base"
      · rw [isDynamicClass_iff.2 hclass]
        obtain ⟨rfl, rfl⟩ := hclass
        exact .dynamic hparts horder surplus
      · have hdeclared : isDynamicClass className moduleUri = false := by
          rw [← Bool.not_eq_true, isDynamicClass_iff]
          exact hclass
        rw [hdeclared] at hopen ⊢
        exact .object hclass hparts (fun m hm => (hopen m hm).resolve_left (by simp)) surplus
  | map =>
      obtain ⟨ps, surplus, _, rfl, hread, rfl⟩ := ofTagged_map_eq_ok_iff.1 h
      obtain ⟨pairs, rfl, rfl, hpairs⟩ := ofPairs_eq_ok_iff.1 hread
      have hpairs := denotes_of_pairs hsound (by
        simp only [List.cons.sizeOf_spec, Item.map.sizeOf_spec]
        omega) hpairs
      exact .map htag (fun p hp => (hpairs p hp).1) (fun p hp => (hpairs p hp).2) surplus
  | list =>
      obtain ⟨xs, surplus, _, rfl, hitems, rfl⟩ :=
        (ofTagged_seq_eq_ok_iff (.inl ⟨rfl, rfl⟩)).1 h
      obtain ⟨parts, rfl, rfl, hparts⟩ := ofItems_eq_ok_iff.1 hitems
      refine .list htag (denotes_of_items hsound ?_ hparts) surplus
      simp only [List.cons.sizeOf_spec, Item.array.sizeOf_spec]
      omega
  | set =>
      obtain rfl : tag = 0x06 := htag
      obtain ⟨xs, surplus, _, rfl, hitems, rfl⟩ :=
        (ofTagged_seq_eq_ok_iff (.inr ⟨rfl, rfl⟩)).1 h
      obtain ⟨parts, rfl, rfl, hparts⟩ := ofItems_eq_ok_iff.1 hitems
      refine .set (denotes_of_items hsound ?_ hparts) surplus
      simp only [List.cons.sizeOf_spec, Item.array.sizeOf_spec]
      omega
  | duration =>
      obtain rfl : tag = 0x07 := htag
      simp only [ofTagged] at h
      obtain ⟨x, number, u, surplus, rfl, hx, rfl⟩ := readDuration_eq_ok_iff.1 h
      exact .duration hx u surplus
  | dataSize =>
      obtain rfl : tag = 0x08 := htag
      simp only [ofTagged] at h
      obtain ⟨x, number, u, surplus, rfl, hx, rfl⟩ := readDataSize_eq_ok_iff.1 h
      exact .dataSize hx u surplus
  | pair =>
      obtain rfl : tag = 0x09 := htag
      obtain ⟨a, b, surplus, first, second, rfl, hfirst, hsecond, rfl⟩ :=
        ofTagged_pair_eq_ok_iff.1 h
      simp only [List.cons.sizeOf_spec] at hsound
      exact .pair (hsound a first (by omega) hfirst) (hsound b second (by omega) hsecond) surplus
  | intSeq =>
      obtain rfl : tag = 0x0a := htag
      simp only [ofTagged] at h
      obtain ⟨start, stop, step, surplus, rfl, rfl⟩ := readIntSeq_eq_ok_iff.1 h
      exact .intSeq start stop step surplus
  | regex =>
      obtain rfl : tag = 0x0b := htag
      simp only [ofTagged] at h
      obtain ⟨pattern, surplus, rfl, rfl⟩ := readRegex_eq_ok_iff.1 h
      exact .regex pattern surplus
  | declaration =>
      obtain rfl : Value.placeholder = v := by simpa [ofTagged] using h
      exact .declaration htag fields
  | member | unknown => simp [ofTagged] at h

/-- Every value that is decoded is one that the item is written for. -/
theorem denotes_of_ofItem (x : Item) (v : Value) (h : ofItem x = .ok v) : Denotes x v := by
  match x, h with
  | .nil, h =>
      obtain rfl : Value.null = v := by simpa [ofItem] using h
      exact .nil
  | .bool b, h =>
      obtain rfl : Value.bool b = v := by simpa [ofItem] using h
      exact .bool b
  | .int n, h =>
      simp only [ofItem, bind_eq_ok_iff, readInt_eq_ok_iff, pure_eq_ok_iff] at h
      obtain ⟨k, rfl, rfl⟩ := h
      exact .int k
  | .single x, h =>
      obtain rfl : Value.float x.toDouble = v := by simpa [ofItem] using h
      exact .single x
  | .double x, h =>
      obtain rfl : Value.float x = v := by simpa [ofItem] using h
      exact .double x
  | .text s, h =>
      obtain rfl : Value.string s = v := by simpa [ofItem] using h
      exact .text s
  | .bin octets, h =>
      obtain rfl : Value.bytes octets = v := by simpa [ofItem] using h
      exact .bin octets
  | .array (.int n :: fields), h =>
      rw [ofItem] at h
      cases hword : n.toUInt64? with
      | none => simp [hword] at h
      | some tag =>
          rw [hword] at h
          obtain rfl := eq_ofUInt64_of_toUInt64? hword
          exact denotes_of_ofTagged (fun y w hy hw => denotes_of_ofItem y w hw) h
  | .array [], h => simp [ofItem] at h
  | .brokenText _, h | .map _, h | .ext _ _, h => simp [ofItem] at h
termination_by sizeOf x

/-! ## Completeness -/

/-- Properties are in order, wherever they stand. -/
theorem inOrder_of_properties {members : List Member} {before : Nat}
    (h : ∀ m ∈ members, m.IsProperty) : InOrder before members := by
  induction members generalizing before with
  | nil => trivial
  | cons m members ih =>
      obtain ⟨hm, hmembers⟩ := List.forall_mem_cons.1 h
      refine ⟨?_, ih hmembers⟩
      cases m with
      | property => trivial
      | entry | element => exact hm.elim

/-- Every value that an item is written for is decoded of it. -/
theorem ofItem_of_denotes {x : Item} {v : Value} (h : Denotes x v) : ofItem x = .ok v := by
  induction h with
  | nil => rfl
  | bool b => rfl
  | int n => exact ofItem_ofInt64 n
  | single x => rfl
  | double x => rfl
  | text s => rfl
  | bin octets => rfl
  | @dynamic members _ horder surplus hparts =>
      rw [ofItem_taggedItem]
      refine ofTagged_object_eq_ok_iff.2 ⟨_, _, _, surplus, _, rfl,
        readMembers_eq_ok_iff.2 ⟨members, rfl, hparts, fun _ _ => .inl rfl, horder, rfl⟩, rfl⟩
  | @object className moduleUri hclass members _ hproperties surplus hparts =>
      have hdeclared : isDynamicClass className moduleUri = false := by
        rw [← Bool.not_eq_true, isDynamicClass_iff]
        exact hclass
      rw [ofItem_taggedItem]
      refine ofTagged_object_eq_ok_iff.2 ⟨className, moduleUri, _, surplus, _, rfl,
        readMembers_eq_ok_iff.2 ⟨members, rfl, hparts, fun m hm => .inr (hproperties m hm), ?_, rfl⟩, ?_⟩
      · exact inOrder_of_properties hproperties
      · rw [hdeclared]
        rfl
  | @map tag htag pairs _ _ surplus hkeys hvalues =>
      have hkind : Tag.kind tag = .map := by rcases htag with rfl | rfl <;> rfl
      rw [ofItem_taggedItem, hkind]
      exact ofTagged_map_eq_ok_iff.2 ⟨_, surplus, _, rfl,
        ofPairs_eq_ok_iff.2 ⟨pairs, rfl, rfl, fun p hp => ⟨hkeys p hp, hvalues p hp⟩⟩, rfl⟩
  | @list tag htag items _ surplus hitems =>
      have hkind : Tag.kind tag = .list := by rcases htag with rfl | rfl <;> rfl
      rw [ofItem_taggedItem, hkind]
      exact (ofTagged_seq_eq_ok_iff (.inl ⟨rfl, rfl⟩)).2 ⟨_, surplus, _, rfl,
        ofItems_eq_ok_iff.2 ⟨items, rfl, rfl, hitems⟩, rfl⟩
  | @set items _ surplus hitems =>
      have hkind : Tag.kind 0x06 = .set := rfl
      rw [ofItem_taggedItem, hkind]
      exact (ofTagged_seq_eq_ok_iff (.inr ⟨rfl, rfl⟩)).2 ⟨_, surplus, _, rfl,
        ofItems_eq_ok_iff.2 ⟨items, rfl, rfl, hitems⟩, rfl⟩
  | duration hnumber u surplus =>
      have hkind : Tag.kind 0x07 = .duration := rfl
      rw [ofItem_taggedItem, hkind, ofTagged]
      exact readDuration_eq_ok_iff.2 ⟨_, _, u, surplus, rfl, hnumber, rfl⟩
  | dataSize hnumber u surplus =>
      have hkind : Tag.kind 0x08 = .dataSize := rfl
      rw [ofItem_taggedItem, hkind, ofTagged]
      exact readDataSize_eq_ok_iff.2 ⟨_, _, u, surplus, rfl, hnumber, rfl⟩
  | pair _ _ surplus hfirst hsecond =>
      have hkind : Tag.kind 0x09 = .pair := rfl
      rw [ofItem_taggedItem, hkind]
      exact ofTagged_pair_eq_ok_iff.2 ⟨_, _, surplus, _, _, rfl, hfirst, hsecond, rfl⟩
  | intSeq start stop step surplus =>
      have hkind : Tag.kind 0x0a = .intSeq := rfl
      rw [ofItem_taggedItem, hkind, ofTagged]
      exact readIntSeq_eq_ok_iff.2 ⟨start, stop, step, surplus, rfl, rfl⟩
  | regex pattern surplus =>
      have hkind : Tag.kind 0x0b = .regex := rfl
      rw [ofItem_taggedItem, hkind, ofTagged]
      exact readRegex_eq_ok_iff.2 ⟨pattern, surplus, rfl, rfl⟩
  | @declaration tag htag fields =>
      have hkind : Tag.kind tag = .declaration := by rcases htag with rfl | rfl <;> rfl
      rw [ofItem_taggedItem, hkind, ofTagged]

theorem ofItem_eq_ok_iff {x : Item} {v : Value} : ofItem x = .ok v ↔ Denotes x v :=
  ⟨denotes_of_ofItem x v, ofItem_of_denotes⟩

theorem ofItem_eq_error_iff {x : Item} : (∃ e, ofItem x = .error e) ↔ ∀ v, ¬ Denotes x v := by
  constructor
  · rintro ⟨e, he⟩ v hv
    rw [ofItem_of_denotes hv] at he
    simp at he
  · intro h
    cases hx : ofItem x with
    | error e => exact ⟨e, rfl⟩
    | ok v => exact absurd (denotes_of_ofItem x v hx) (h v)

/-- No value has a tag that is not listed. -/
theorem ofItem_unlisted {n : WireInt} {fields : List Item} (hn : n.val < 0x01 ∨ 0x0d < n.val) :
    ∃ e, ofItem (.array (.int n :: fields)) = .error e := by
  rw [ofItem]
  cases hword : n.toUInt64? with
  | none => exact ⟨_, rfl⟩
  | some tag =>
      obtain rfl := eq_ofUInt64_of_toUInt64? hword
      have hval : (tag.toNat : Int) < 0x01 ∨ 0x0d < (tag.toNat : Int) := hn
      have htag := Tag.means_kind tag
      dsimp only
      generalize Tag.kind tag = kind at htag
      cases kind with
      | member | unknown => exact ⟨_, by rw [ofTagged]⟩
      | object | set | duration | dataSize | pair | intSeq | regex =>
          obtain rfl := htag
          simp at hval
      | map | list | declaration =>
          obtain rfl | rfl := htag <;> simp at hval

/-! ## Surplus fields -/

theorem ofTagged_append {tag : UInt64} {kind : Tag.Kind} {fields : List Item}
    (h : kind.arity ≤ fields.length) (surplus : List Item) :
    ofTagged tag kind (fields ++ surplus) = ofTagged tag kind fields := by
  cases kind with
  | declaration | member | unknown => simp only [ofTagged]
  | map | list | set =>
      rcases fields with _ | ⟨x, rest⟩
      · simp [Tag.Kind.arity] at h
      · cases x <;> simp [ofTagged, containerFault]
  | regex =>
      rcases fields with _ | ⟨x, rest⟩
      · simp [Tag.Kind.arity] at h
      · simp only [ofTagged, readRegex, nextField, ok_bind, List.cons_append]
  | duration | dataSize | pair =>
      rcases fields with _ | ⟨a, _ | ⟨b, rest⟩⟩
      · simp [Tag.Kind.arity] at h
      · simp [Tag.Kind.arity] at h
      · simp only [ofTagged, readDuration, readDataSize, readQuantity, nextField, ok_bind,
          List.cons_append]
  | intSeq =>
      rcases fields with _ | ⟨a, _ | ⟨b, _ | ⟨c, rest⟩⟩⟩
      · simp [Tag.Kind.arity] at h
      · simp [Tag.Kind.arity] at h
      · simp [Tag.Kind.arity] at h
      · simp only [ofTagged, readIntSeq, nextField, ok_bind, List.cons_append]
  | object =>
      rcases fields with _ | ⟨a, _ | ⟨b, _ | ⟨c, rest⟩⟩⟩
      · simp [Tag.Kind.arity] at h
      · simp [Tag.Kind.arity] at h
      · simp [Tag.Kind.arity] at h
      · cases c <;> simp only [ofTagged, objectFault, nextField, ok_bind, List.cons_append]

theorem readMember_append {isDynamic : Bool} {className : String} {acc : Members} {tag : UInt64}
    {kind : Tag.MemberKind} {fields : List Item} (h : 2 ≤ fields.length) (surplus : List Item) :
    readMember isDynamic className acc tag kind (fields ++ surplus) =
      readMember isDynamic className acc tag kind fields := by
  rcases fields with _ | ⟨a, _ | ⟨b, rest⟩⟩
  · simp at h
  · simp at h
  · cases kind <;> simp [readMember]

/-- What stands behind a member is read when the member is. -/
theorem readMembers_congr {isDynamic : Bool} {className : String} {rest rest' : List Item}
    (h : ∀ acc, readMembers isDynamic className acc rest = readMembers isDynamic className acc rest')
    (acc : Members) (x : Item) :
    readMembers isDynamic className acc (x :: rest) =
      readMembers isDynamic className acc (x :: rest') := by
  cases x with
  | array parts =>
      cases parts with
      | nil => simp only [readMembers]
      | cons head fields => cases head <;> simp only [readMembers, h]
  | _ => simp only [readMembers]

theorem readMembers_append {isDynamic : Bool} {className : String} {tag : UInt64} {fields : List Item}
    (h : 2 ≤ fields.length) (surplus before after : List Item) (acc : Members) :
    readMembers isDynamic className acc (before ++ taggedItem tag (fields ++ surplus) :: after) =
      readMembers isDynamic className acc (before ++ taggedItem tag fields :: after) := by
  induction before generalizing acc with
  | nil => rw [List.nil_append, List.nil_append, readMembers_tagged, readMembers_tagged, readMember_append h]
  | cons x before ih => exact readMembers_congr ih acc x

/-! ## The grammar -/

/-- The decoder accepts the grammar and nothing else.  In a tagged array, and in a member of an object,
what follows the fields that are needed changes neither the value nor the error. -/
theorem decodes_grammar :
    (∀ x v, ofItem x = .ok v ↔ Denotes x v) ∧
    (∀ x, (∃ e, ofItem x = .error e) ↔ ∀ v, ¬ Denotes x v) ∧
    (∀ (n : WireInt) (fields : List Item), n.val < 0x01 ∨ 0x0d < n.val →
      ∃ e, ofItem (.array (.int n :: fields)) = .error e) ∧
    (∀ tag fields surplus, (Tag.kind tag).arity ≤ fields.length →
      ofItem (taggedItem tag (fields ++ surplus)) = ofItem (taggedItem tag fields)) ∧
    (∀ c m before tag fields surplus after more, 2 ≤ fields.length →
      ofItem (taggedItem 0x01
        (c :: m :: .array (before ++ taggedItem tag (fields ++ surplus) :: after) :: more)) =
      ofItem (taggedItem 0x01
        (c :: m :: .array (before ++ taggedItem tag fields :: after) :: more))) := by
  refine ⟨fun x v => ofItem_eq_ok_iff, fun x => ofItem_eq_error_iff, fun n fields => ofItem_unlisted,
    fun tag fields surplus h => ?_, fun c m before tag fields surplus after more h => ?_⟩
  · rw [ofItem_taggedItem, ofItem_taggedItem, ofTagged_append h]
  · have hkind : Tag.kind 0x01 = .object := rfl
    rw [ofItem_taggedItem, ofItem_taggedItem, hkind]
    simp only [ofTagged, readMembers_append h]

end Value

end PklHost
