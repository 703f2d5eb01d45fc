import PklHost.Proofs.MessagePack.Limits
import PklHost.Proofs.Value.Acceptance

/-!
# Encoding what was decoded

One value is written in many ways: integers and lengths may be wider than they need to be, floats
narrower, a list may have the tag of a listing, a key may come twice, fields may be too many, and the
members of an open object may come in any order.  The encoder knows one way, and it is a safe one
(`Canonical`): whatever a payload looked like, the value that was decoded of it is encoded within the depth
budget that the payload was read with, and decodes to itself.

Both follow from what the grammar admits: a value that something denotes is one that the constructors make
(`Denotes.built`), and it is written no deeper and no longer than what denotes it (`Denotes.within`).
-/

namespace PklHost

open MessagePack (HeadForm Item SpelledItems SpelledPairs SpellsInt WireInt depthLimit)

namespace Value

/-! ## The values in members -/

/-- What holds of the values in all members holds of the values on each axis. -/
theorem Member.forall_values {P : Value → Prop} {members : List Member}
    (h : ∀ m ∈ members, ∀ p ∈ m.parts, P p.2) :
    (∀ p ∈ members.flatMap Member.properties, P p.2) ∧
      (∀ p ∈ members.flatMap Member.entries, P p.1 ∧ P p.2) ∧
      ∀ v ∈ members.flatMap Member.elements, P v := by
  induction members with
  | nil => simp
  | cons m members ih =>
      obtain ⟨hm, hmembers⟩ := List.forall_mem_cons.1 h
      obtain ⟨hproperties, hentries, helements⟩ := ih hmembers
      simp only [List.flatMap_cons, List.forall_mem_append]
      cases m with
      | property name value surplus =>
          have hvalue : P value.2 := hm value (by simp [parts])
          exact ⟨⟨by simpa [properties] using hvalue, hproperties⟩, ⟨by simp [entries], hentries⟩,
            by simp [elements], helements⟩
      | entry key value surplus =>
          have hkey : P key.2 := hm key (by simp [parts])
          have hvalue : P value.2 := hm value (by simp [parts])
          exact ⟨⟨by simp [properties], hproperties⟩,
            ⟨by simpa [entries] using ⟨hkey, hvalue⟩, hentries⟩, by simp [elements], helements⟩
      | element index value surplus =>
          have hvalue : P value.2 := hm value (by simp [parts])
          exact ⟨⟨by simp [properties], hproperties⟩, ⟨by simp [entries], hentries⟩,
            by simpa [elements] using hvalue, helements⟩

/-- A member has its value, or its key and value, on one axis. -/
theorem Member.length_axes (members : List Member) :
    (members.flatMap Member.properties).length + ((members.flatMap Member.entries).length +
      (members.flatMap Member.elements).length) = members.length := by
  induction members with
  | nil => rfl
  | cons m members ih =>
      simp only [List.flatMap_cons, List.length_append, List.length_cons]
      cases m <;> simp only [properties, entries, elements, List.length_nil, List.length_singleton]
        <;> omega

/-- The last element has an index, which is a word. -/
theorem length_elements_of_inOrder {members : List Member} {before : Nat}
    (h : InOrder before members) (hbefore : before ≤ 0x10000000000000000) :
    before + (members.flatMap Member.elements).length ≤ 0x10000000000000000 := by
  induction members generalizing before with
  | nil => simpa using hbefore
  | cons m members ih =>
      obtain ⟨hat, horder⟩ := h
      rw [List.flatMap_cons, List.length_append, ← Nat.add_assoc]
      refine ih horder ?_
      cases m with
      | property | entry => exact hbefore
      | element index value surplus =>
          have hindex : index.toNat = before := hat
          have hword := index.toNat_lt
          show before + 1 ≤ 0x10000000000000000
          omega

/-! ## What is denoted is built -/

/-- A value that an item is written for is one that the constructors make. -/
theorem Denotes.built {x : Item} {v : Value} (h : Denotes x v) : v.Built := by
  induction h with
  | nil => exact .null
  | bool b => exact .bool b
  | int n => exact .int n
  | single x => exact .float x.toDouble
  | double x => exact .float x
  | text s => exact .string s
  | bin octets => exact .bytes octets
  | @dynamic members _ horder surplus hparts =>
      obtain ⟨hproperties, hentries, helements⟩ := Member.forall_values hparts
      have hcount := length_elements_of_inOrder horder (Nat.zero_le _)
      rw [Nat.zero_add] at hcount
      exact .dynamic hproperties (fun p hp => (hentries p hp).1) (fun p hp => (hentries p hp).2)
        helements hcount
  | object hclass _ _ surplus hparts => exact .object hclass (Member.forall_values hparts).1
  | map _ _ _ surplus hkeys hvalues =>
      exact .map (List.forall_mem_map.2 hkeys) (List.forall_mem_map.2 hvalues)
  | list _ _ surplus hitems => exact .list (List.forall_mem_map.2 hitems)
  | set _ surplus hitems => exact .set (List.forall_mem_map.2 hitems)
  | duration _ u surplus => exact .duration _
  | dataSize _ u surplus => exact .dataSize _
  | pair _ _ surplus hfirst hsecond => exact .pair hfirst hsecond
  | intSeq start stop step surplus => exact .intSeq _
  | regex pattern surplus => exact .regex pattern
  | declaration _ fields => exact .placeholder

/-! ## What is denoted is written within the same budget -/

theorem within_taggedItem_iff {tag : UInt64} {fields : List Item} {budget : Nat} :
    (taggedItem tag fields).Within budget ↔ fields.length + 1 < 0x100000000 ∧ 3 ≤ budget ∧
      ∀ x ∈ fields, x.Within (budget - 2) := by
  have htag : (Item.ofUInt64 tag).Within (budget - 2) ↔ 1 ≤ budget - 2 := by
    simp [Item.Within, Item.ofUInt64, Item.LengthsFit, Item.depth]
  rw [taggedItem, Item.within_array_iff, List.length_cons, List.forall_mem_cons, htag]
  constructor
  · rintro ⟨hlength, -, hbudget, hfields⟩
    exact ⟨hlength, by omega, hfields⟩
  · rintro ⟨hlength, hbudget, hfields⟩
    exact ⟨hlength, by omega, by omega, hfields⟩

theorem propertyItems_eq_map (properties : List (String × Value)) :
    propertyItems properties =
      properties.map fun p => taggedItem Tag.property [.text p.1, p.2.toItem] := by
  induction properties with
  | nil => rfl
  | cons p ps ih => rw [propertyItems, ih, List.map_cons]

theorem entryItems_eq_map (entries : List (Value × Value)) :
    entryItems entries = entries.map fun p => taggedItem Tag.entry [p.1.toItem, p.2.toItem] := by
  induction entries with
  | nil => rfl
  | cons p ps ih => rw [entryItems, ih, List.map_cons]

theorem toItems_eq_map (items : List Value) : toItems items = items.map toItem := by
  induction items with
  | nil => rfl
  | cons v vs ih => rw [toItems, ih, List.map_cons]

theorem toPairs_eq_map (entries : List (Value × Value)) :
    toPairs entries = entries.map fun p => (p.1.toItem, p.2.toItem) := by
  induction entries with
  | nil => rfl
  | cons p ps ih => rw [toPairs, ih, List.map_cons]

theorem length_elementItems (index : Nat) (elements : List Value) :
    (elementItems index elements).length = elements.length := by
  induction elements generalizing index with
  | nil => rfl
  | cons v vs ih => rw [elementItems, List.length_cons, ih, List.length_cons]

theorem within_elementItems {elements : List Value} {budget index : Nat}
    (h : ∀ v ∈ elements, v.toItem.Within (budget - 2)) :
    ∀ x ∈ elementItems index elements, x.Within budget := by
  induction elements generalizing index with
  | nil => simp [elementItems]
  | cons v vs ih =>
      obtain ⟨hv, hvs⟩ := List.forall_mem_cons.1 h
      have hbudget := hv.one_le
      refine List.forall_mem_cons.2 ⟨within_taggedItem_iff.2 ⟨by simp, by omega, ?_⟩, ih hvs⟩
      simpa [Item.Within, Item.ofUInt64, Item.LengthsFit, Item.depth, hbudget] using hv

theorem within_propertyItems {properties : List (String × Value)} {budget : Nat}
    (h : ∀ p ∈ properties,
      (Item.text p.1).Within (budget - 2) ∧ p.2.toItem.Within (budget - 2)) :
    ∀ x ∈ propertyItems properties, x.Within budget := by
  rw [propertyItems_eq_map, List.forall_mem_map]
  intro p hp
  obtain ⟨hname, hvalue⟩ := h p hp
  have hbudget := hname.one_le
  exact within_taggedItem_iff.2 ⟨by simp, by omega, by simpa using ⟨hname, hvalue⟩⟩

theorem within_entryItems {entries : List (Value × Value)} {budget : Nat}
    (h : ∀ p ∈ entries, p.1.toItem.Within (budget - 2) ∧ p.2.toItem.Within (budget - 2)) :
    ∀ x ∈ entryItems entries, x.Within budget := by
  rw [entryItems_eq_map, List.forall_mem_map]
  intro p hp
  obtain ⟨hkey, hvalue⟩ := h p hp
  have hbudget := hkey.one_le
  exact within_taggedItem_iff.2 ⟨by simp, by omega, by simpa using ⟨hkey, hvalue⟩⟩

/-! ### Members -/

theorem Member.within_parts {m : Member} {budget : Nat} (h : m.item.Within budget) :
    ∀ p ∈ m.parts, p.1.Within (budget - 2) := by
  cases m with
  | property name value surplus | element index value surplus =>
      obtain ⟨-, -, hfields⟩ := within_taggedItem_iff.1 h
      simpa [parts] using hfields value.1 (by simp)
  | entry key value surplus =>
      obtain ⟨-, -, hfields⟩ := within_taggedItem_iff.1 h
      simpa [parts] using ⟨hfields key.1 (by simp), hfields value.1 (by simp)⟩

theorem Member.within_names {members : List Member} {budget : Nat}
    (h : ∀ m ∈ members, m.item.Within budget) :
    ∀ p ∈ members.flatMap Member.properties, (Item.text p.1).Within (budget - 2) := by
  intro p hp
  obtain ⟨m, hm, hp⟩ := List.mem_flatMap.1 hp
  cases m with
  | property name value surplus =>
      obtain rfl : p = (name, value.2) := by simpa [properties] using hp
      obtain ⟨-, -, hfields⟩ := within_taggedItem_iff.1 (h _ hm)
      exact hfields (.text name) (by simp)
  | entry | element => simp [properties] at hp

/-- Members that are sorted by their axes, and have no key twice, take no more than they took. -/
theorem within_members {members : List Member} {budget : Nat}
    (h : (Item.array (members.map Member.item)).Within budget)
    (hvalues : ∀ m ∈ members, ∀ p ∈ m.parts, ∀ budget, p.1.Within budget → p.2.toItem.Within budget) :
    (Item.array (propertyItems (Properties.ofPairs (members.flatMap Member.properties)) ++
      (entryItems (Entries.ofPairs (members.flatMap Member.entries)) ++
        elementItems 0 (members.flatMap Member.elements)))).Within budget := by
  obtain ⟨hlength, hbudget, hitems⟩ := Item.within_array_iff.1 h
  rw [List.length_map] at hlength
  rw [List.forall_mem_map] at hitems
  obtain ⟨hproperties, hentries, helements⟩ :=
    Member.forall_values (P := fun v => (toItem v).Within (budget - 2 - 2)) fun m hm p hp =>
      hvalues m hm p hp _ (Member.within_parts (hitems m hm) p hp)
  refine Item.within_array_iff.2 ⟨?_, hbudget, ?_⟩
  · -- each member fills one axis, and an axis keeps no more than it is given
    have haxes := Member.length_axes members
    have hnames := @Assoc.length_ofPairs_le _ _ (· == ·) (members.flatMap Member.properties)
    have hkeys := @Assoc.length_ofPairs_le _ _ Value.equal (members.flatMap Member.entries)
    rw [propertyItems_eq_map, entryItems_eq_map, List.length_append, List.length_append,
      List.length_map, List.length_map, length_elementItems]
    unfold Properties.ofPairs Entries.ofPairs
    omega
  · rw [List.forall_mem_append, List.forall_mem_append]
    refine ⟨within_propertyItems ?_, within_entryItems ?_, within_elementItems helements⟩
    · exact Assoc.forall_ofPairs (P := fun name => (Item.text name).Within (budget - 2 - 2))
        (Q := fun v => (toItem v).Within (budget - 2 - 2))
        fun p hp => ⟨Member.within_names hitems p hp, hproperties p hp⟩
    · exact Assoc.forall_ofPairs (P := fun v => (toItem v).Within (budget - 2 - 2))
        (Q := fun v => (toItem v).Within (budget - 2 - 2)) hentries

theorem Member.axes_of_properties {members : List Member} (h : ∀ m ∈ members, m.IsProperty) :
    members.flatMap Member.entries = [] ∧ members.flatMap Member.elements = [] := by
  constructor
  · rw [List.flatMap_eq_nil_iff]
    intro m hm
    cases m with
    | property => rfl
    | entry | element => exact (h _ hm).elim
  · rw [List.flatMap_eq_nil_iff]
    intro m hm
    cases m with
    | property => rfl
    | entry | element => exact (h _ hm).elim

theorem within_objectItem {className moduleUri : String} {items : List Item} {budget : Nat}
    (hclass : (Item.text className).Within (budget - 2))
    (hmodule : (Item.text moduleUri).Within (budget - 2))
    (hitems : (Item.array items).Within (budget - 2)) :
    (objectItem className moduleUri items).Within budget := by
  have hbudget := hclass.one_le
  exact within_taggedItem_iff.2 ⟨by simp, by omega, by simpa using ⟨hclass, hmodule, hitems⟩⟩

/-! ### Values -/

theorem within_items {items : List (Item × Value)} {budget : Nat}
    (h : (Item.array (items.map Prod.fst)).Within budget)
    (hitems : ∀ p ∈ items, ∀ budget, p.1.Within budget → p.2.toItem.Within budget) :
    (Item.array (toItems (items.map Prod.snd))).Within budget := by
  obtain ⟨hlength, hbudget, hwithin⟩ := Item.within_array_iff.1 h
  rw [List.forall_mem_map] at hwithin
  rw [toItems_eq_map, List.map_map]
  refine Item.within_array_iff.2 ⟨by simpa using hlength, hbudget, ?_⟩
  rw [List.forall_mem_map]
  exact fun p hp => hitems p hp _ (hwithin p hp)

/-- A map takes no more without the pairs whose keys came before. -/
theorem within_pairs {pairs : List ((Item × Value) × (Item × Value))} {budget : Nat}
    (h : (Item.map (pairs.map fun p => (p.1.1, p.2.1))).Within budget)
    (hkeys : ∀ p ∈ pairs, ∀ budget, p.1.1.Within budget → p.1.2.toItem.Within budget)
    (hvalues : ∀ p ∈ pairs, ∀ budget, p.2.1.Within budget → p.2.2.toItem.Within budget) :
    (Item.map (toPairs (Entries.ofPairs (pairs.map fun p => (p.1.2, p.2.2))))).Within budget := by
  obtain ⟨hlength, hbudget, hwithin⟩ := Item.within_map_iff.1 h
  rw [List.length_map] at hlength
  rw [List.forall_mem_map] at hwithin
  rw [toPairs_eq_map]
  refine Item.within_map_iff.2 ⟨?_, hbudget, ?_⟩
  · have hstored := @Assoc.length_ofPairs_le _ _ Value.equal (pairs.map fun p => (p.1.2, p.2.2))
    rw [List.length_map] at hstored ⊢
    exact Nat.lt_of_le_of_lt hstored hlength
  · rw [List.forall_mem_map]
    refine Assoc.forall_ofPairs (P := fun v => (toItem v).Within (budget - 2))
      (Q := fun v => (toItem v).Within (budget - 2)) ?_
    rw [List.forall_mem_map]
    exact fun p hp => ⟨hkeys p hp _ (hwithin p hp).1, hvalues p hp _ (hwithin p hp).2⟩

theorem within_quantity {tag tag' : UInt64} {x : Item} {number : Double} {symbol : String}
    {surplus : List Item} {budget : Nat}
    (h : (taggedItem tag (x :: .text symbol :: surplus)).Within budget) :
    (taggedItem tag' [.double number, .text symbol]).Within budget := by
  obtain ⟨-, hbudget, hfields⟩ := within_taggedItem_iff.1 h
  have hnumber : (Item.double number).Within (budget - 2) :=
    ⟨trivial, show 1 ≤ budget - 2 by omega⟩
  have hsymbol := hfields (.text symbol) (by simp)
  exact within_taggedItem_iff.2 ⟨by simp, hbudget, by simpa using ⟨hnumber, hsymbol⟩⟩

/-- A value is written within the budget of every item that it is written for. -/
theorem Denotes.within {x : Item} {v : Value} (h : Denotes x v) :
    ∀ budget, x.Within budget → v.toItem.Within budget := by
  -- for all budgets at once, since what is nested is within what is left of one
  induction h with
  | nil | bool b | int n | double x | text s | bin octets => exact fun _ hx => hx
  | single x => exact fun _ hx => ⟨trivial, hx.2⟩
  | @dynamic members _ horder surplus hvalues =>
      intro budget hx
      obtain ⟨-, -, hfields⟩ := within_taggedItem_iff.1 hx
      simp only [List.forall_mem_cons] at hfields
      exact within_objectItem hfields.1 hfields.2.1 (within_members hfields.2.2.1 hvalues)
  | @object className moduleUri hclass members _ hproperties surplus hvalues =>
      intro budget hx
      obtain ⟨-, -, hfields⟩ := within_taggedItem_iff.1 hx
      simp only [List.forall_mem_cons] at hfields
      have hmembers := within_members hfields.2.2.1 hvalues
      obtain ⟨hentries, helements⟩ := Member.axes_of_properties hproperties
      have hnone : entryItems (Entries.ofPairs []) = [] := rfl
      rw [hentries, helements, hnone, elementItems, List.append_nil, List.append_nil] at hmembers
      exact within_objectItem hfields.1 hfields.2.1 hmembers
  | map htag _ _ surplus hkeys hvalues =>
      intro budget hx
      obtain ⟨-, hbudget, hfields⟩ := within_taggedItem_iff.1 hx
      have hpairs := within_pairs (List.forall_mem_cons.1 hfields).1 hkeys hvalues
      exact within_taggedItem_iff.2 ⟨by simp, hbudget, by simpa using hpairs⟩
  | list _ _ surplus hitems | set _ surplus hitems =>
      intro budget hx
      obtain ⟨-, hbudget, hfields⟩ := within_taggedItem_iff.1 hx
      have hwritten := within_items (List.forall_mem_cons.1 hfields).1 hitems
      exact within_taggedItem_iff.2 ⟨by simp, hbudget, by simpa using hwritten⟩
  | duration _ u surplus | dataSize _ u surplus => exact fun _ hx => within_quantity hx
  | pair _ _ surplus hfirst hsecond =>
      intro budget hx
      obtain ⟨-, hbudget, hfields⟩ := within_taggedItem_iff.1 hx
      simp only [List.forall_mem_cons] at hfields
      have hfirst := hfirst _ hfields.1
      have hsecond := hsecond _ hfields.2.1
      exact within_taggedItem_iff.2 ⟨by simp, hbudget, by simpa using ⟨hfirst, hsecond⟩⟩
  | intSeq start stop step surplus =>
      intro budget hx
      obtain ⟨-, hbudget, hfields⟩ := within_taggedItem_iff.1 hx
      simp only [List.forall_mem_cons] at hfields
      obtain ⟨hstart, hstop, hstep, -⟩ := hfields
      exact within_taggedItem_iff.2 ⟨by simp, hbudget, by simpa using ⟨hstart, hstop, hstep⟩⟩
  | regex pattern surplus =>
      intro budget hx
      obtain ⟨-, hbudget, hfields⟩ := within_taggedItem_iff.1 hx
      have hpattern := (List.forall_mem_cons.1 hfields).1
      exact within_taggedItem_iff.2 ⟨by simp, hbudget, by simpa using hpattern⟩
  | declaration _ fields =>
      -- what the fields were is lost, and nothing is written for them
      intro budget hx
      obtain ⟨-, hbudget, -⟩ := within_taggedItem_iff.1 hx
      exact within_taggedItem_iff.2 ⟨by simp, hbudget, by simp⟩

/-! ## Payloads -/

/-- A payload that decodes was read whole. -/
theorem exists_item_of_decode {b : Bytes} {v : Value} (h : decode b = .ok v) :
    ∃ x, Item.read depthLimit b = .ok (x, []) ∧ ofItem x = .ok v := by
  unfold decode at h
  split at h
  · simp at h
  · next x hread => exact ⟨x, hread, h⟩
  · simp at h

/-- What the encoder makes of a value that a payload was decoded to. -/
structure Canonical (b : Bytes) (v : Value) : Prop where
  /-- The value decodes to itself. -/
  back : decode v.encode = .ok v
  /-- Encoding it again changes no octet. -/
  again : (decode v.encode).map encode = .ok v.encode
  /-- No reader that has the budget for the payload lacks the budget for what is encoded. -/
  shallow : ∀ budget x, Item.read budget b = .ok (x, []) → ofItem x = .ok v →
    v.toItem.depth ≤ x.depth ∧ Item.read budget v.encode = .ok (v.toItem, [])

/-- Every payload that is accepted has a canonical form, which is accepted as the same value. -/
theorem canonical_of_decode {b : Bytes} {v : Value} (h : decode b = .ok v) : Canonical b v := by
  obtain ⟨x, hread, hvalue⟩ := exists_item_of_decode h
  have hdenotes := denotes_of_ofItem x v hvalue
  obtain ⟨hlengths, hdepth⟩ := hdenotes.within _ (Item.within_of_read hread)
  have hback : decode v.encode = .ok v := by
    rw [encode, decode_write hlengths v.toItem_allText hdepth]
    exact hdenotes.built.returns
  refine ⟨hback, by rw [hback]; rfl, fun budget x hread hvalue => ?_⟩
  -- another budget may have read another item
  have hdenotes := denotes_of_ofItem x v hvalue
  have hwithin := Item.within_of_read hread
  obtain ⟨hlengths, hdepth⟩ := hdenotes.within _ hwithin
  refine ⟨(hdenotes.within x.depth ⟨hwithin.1, Nat.le_refl _⟩).2, ?_⟩
  have hwritten := Item.read_write [] hlengths v.toItem_allText hdepth
  rwa [List.append_nil] at hwritten

/-- A map in wide spellings, under the tag that is not written, with a key that comes twice and a field
that is too many. -/
def wideMap : Bytes :=
  [0xdd, 0, 0, 0, 3, 0xcd, 0, 2, 0xde, 0, 2, 0xcc, 1, 0xc2, 0xd0, 1, 0xca, 0x3f, 0x80, 0, 0, 0xc0]

/-- The item that the wide map spells. -/
def wideMapItem : Item :=
  taggedItem 0x02 [.map [(.ofInt64 1, .bool false), (.ofInt64 1, .single ⟨0x3f800000⟩)], .nil]

/-- The value of the wide map: the key that came first with the value that came last. -/
def narrowMap : Value := .map [(.int 1, .float ⟨0x3ff0000000000000⟩)]

theorem spelledBy_wideMap : wideMapItem.SpelledBy wideMap := by
  have hfields : HeadForm.array.Says 3 [0xdd, 0, 0, 0, 3] :=
    @HeadForm.Says.inOctets .array 0xdd 4 3 (by decide) (by decide)
  have htag : SpellsInt 2 [0xcd, 0, 2] := @SpellsInt.unsigned 0xcd 2 2 (by decide) (by decide)
  have hpairs : HeadForm.map.Says 2 [0xde, 0, 2] :=
    @HeadForm.Says.inOctets .map 0xde 2 2 (by decide) (by decide)
  have hfirst : SpellsInt 1 [0xcc, 1] := @SpellsInt.unsigned 0xcc 1 1 (by decide) (by decide)
  have hsecond : SpellsInt 1 [0xd0, 1] := @SpellsInt.signed 0xd0 1 1 (by decide) (by decide)
  have hmap : SpelledPairs [(.ofInt64 1, .bool false), (.ofInt64 1, .single ⟨0x3f800000⟩)]
      [0xcc, 1, 0xc2, 0xd0, 1, 0xca, 0x3f, 0x80, 0, 0] :=
    ⟨_, [0xc2], _, hfirst, rfl, ⟨_, [0xca, 0x3f, 0x80, 0, 0], [], hsecond, rfl, rfl, rfl⟩, rfl⟩
  have hitems : SpelledItems
      [.map [(.ofInt64 1, .bool false), (.ofInt64 1, .single ⟨0x3f800000⟩)], .nil]
      [0xde, 0, 2, 0xcc, 1, 0xc2, 0xd0, 1, 0xca, 0x3f, 0x80, 0, 0, 0xc0] :=
    ⟨_, [0xc0], ⟨_, _, hpairs, hmap, rfl⟩, ⟨_, [], rfl, rfl, rfl⟩, rfl⟩
  exact ⟨_, _, hfields, ⟨_, _, htag, hitems, rfl⟩, rfl⟩

theorem decode_wideMap : decode wideMap = .ok narrowMap := by
  have hread := Item.read_of_spelledBy wideMapItem spelledBy_wideMap depthLimit []
  rw [List.append_nil, if_pos (by decide)] at hread
  have hfloat : Single.toDouble ⟨0x3f800000⟩ = ⟨0x3ff0000000000000⟩ := by decide
  have hdenotes : Denotes wideMapItem (.map (Entries.ofPairs
      [(.int 1, .bool false), (.int 1, .float (Single.toDouble ⟨0x3f800000⟩))])) :=
    @Denotes.map 0x02 (.inl rfl)
      [((.ofInt64 1, .int 1), (.bool false, .bool false)),
        ((.ofInt64 1, .int 1), (.single ⟨0x3f800000⟩, _))]
      (by simp [Denotes.int]) (by simp [Denotes.bool, Denotes.single]) [.nil]
  have hsame : Value.equal (.int 1) (.int 1) = true := by
    rw [Value.equal]
    decide
  rw [decode, hread]
  dsimp only
  rw [ofItem_of_denotes hdenotes]
  simp [narrowMap, Entries.ofPairs, Assoc.ofPairs, Assoc.insertAll, Assoc.insert, hsame, hfloat]

theorem canonical_wideMap : decode wideMap = .ok narrowMap ∧ Canonical wideMap narrowMap :=
  ⟨decode_wideMap, canonical_of_decode decode_wideMap⟩

/-- The canonical form is shorter by nine octets. -/
example : narrowMap.encode = [0x92, 3, 0x81, 1, 0xcb, 0x3f, 0xf0, 0, 0, 0, 0, 0, 0] := by
  rfl

end Value

end PklHost
