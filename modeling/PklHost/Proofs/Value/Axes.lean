import Mathlib.Data.List.Forall2
import PklHost.Proofs.MessagePack.Limits
import PklHost.Proofs.Value.Acceptance
import PklHost.Proofs.Value.History

/-!
# The axes of an open object

The members of an open object are read in one loop, whatever their kind.  What comes of it is told by each
axis alone (`Axes`): its members in their order, past those of the other two.  The induction is on the
members and goes along one equivalence, which says what the first of them adds to its own axis
(`axes_cons_iff`).

So it does not matter how the axes are mixed (`Rearranges`), neither to the value nor to whether there is
one (`axes_independent`).
-/

namespace PklHost

open MessagePack (Item depthItems depthItems_le_iff depthLimit)

namespace Value

/-! ## Which axis a member is on -/

/-- The kind of a member, by its tag.  What has no tag is of no kind. -/
def memberAxis : Item → Tag.MemberKind
  | .array (.int n :: _) => Tag.memberKind (memberTag n)
  | _ => .unknown

/-- The members of one kind, in their order. -/
def onAxis (kind : Tag.MemberKind) (items : List Item) : List Item :=
  items.filter fun x => decide (memberAxis x = kind)

theorem memberAxis_taggedItem (tag : UInt64) (fields : List Item) :
    memberAxis (taggedItem tag fields) = Tag.memberKind tag := by
  simp [taggedItem, Item.ofUInt64, memberAxis, memberTag]

theorem onAxis_cons (kind : Tag.MemberKind) (x : Item) (items : List Item) :
    onAxis kind (x :: items) = if memberAxis x = kind then x :: onAxis kind items else onAxis kind items := by
  simp [onAxis, List.filter_cons]

/-! ## What is read on each axis -/

/-- A property, with its name and its value. -/
def CarriesProperty (x : Item) (p : String × Value) : Prop :=
  ∃ value surplus, x = taggedItem 0x10 (.text p.1 :: value :: surplus) ∧ ofItem value = .ok p.2

/-- An entry, with its key and its value. -/
def CarriesEntry (x : Item) (p : Value × Value) : Prop :=
  ∃ key value surplus, x = taggedItem 0x11 (key :: value :: surplus) ∧ ofItem key = .ok p.1 ∧
    ofItem value = .ok p.2

/-- An element, with its value and its index. -/
def CarriesElement (x : Item) (p : Value × Nat) : Prop :=
  ∃ index value surplus, x = taggedItem 0x12 (.ofUInt64 index :: value :: surplus) ∧
    index.toNat = p.2 ∧ ofItem value = .ok p.1

theorem CarriesProperty.axis {x : Item} {p : String × Value} (h : CarriesProperty x p) :
    memberAxis x = .property := by
  obtain ⟨value, surplus, rfl, -⟩ := h
  exact memberAxis_taggedItem _ _

theorem CarriesEntry.axis {x : Item} {p : Value × Value} (h : CarriesEntry x p) :
    memberAxis x = .entry := by
  obtain ⟨key, value, surplus, rfl, -⟩ := h
  exact memberAxis_taggedItem _ _

theorem CarriesElement.axis {x : Item} {p : Value × Nat} (h : CarriesElement x p) :
    memberAxis x = .element := by
  obtain ⟨index, value, surplus, rfl, -⟩ := h
  exact memberAxis_taggedItem _ _

/-- What the members behind `before` elements carry, each axis in its own order.  The elements are counted
without a gap. -/
structure Axes (before : Nat) (items : List Item) (properties : List (String × Value))
    (entries : List (Value × Value)) (elements : List Value) : Prop where
  members : ∀ x ∈ items, memberAxis x ≠ .unknown
  ofProperties : List.Forall₂ CarriesProperty (onAxis .property items) properties
  ofEntries : List.Forall₂ CarriesEntry (onAxis .entry items) entries
  ofElements : List.Forall₂ CarriesElement (onAxis .element items) (elements.zipIdx before)

variable {before : Nat} {x : Item} {items items' : List Item} {properties : List (String × Value)}
  {entries : List (Value × Value)} {elements : List Value}

theorem axes_nil_iff :
    Axes before [] properties entries elements ↔ properties = [] ∧ entries = [] ∧ elements = [] := by
  constructor
  · rintro ⟨-, hproperties, hentries, helements⟩
    refine ⟨List.forall₂_nil_left_iff.1 hproperties, List.forall₂_nil_left_iff.1 hentries, ?_⟩
    exact List.zipIdx_eq_nil_iff.1 (List.forall₂_nil_left_iff.1 helements)
  · rintro ⟨rfl, rfl, rfl⟩
    exact ⟨fun x hx => (List.not_mem_nil hx).elim, .nil, .nil, .nil⟩

/-- The first member adds to its own axis, and the others are as they are without it. -/
theorem axes_cons_iff :
    Axes before (x :: items) properties entries elements ↔
      (∃ p more, CarriesProperty x p ∧ properties = p :: more ∧
        Axes before items more entries elements) ∨
      (∃ p more, CarriesEntry x p ∧ entries = p :: more ∧
        Axes before items properties more elements) ∨
      ∃ v more, CarriesElement x (v, before) ∧ elements = v :: more ∧
        Axes (before + 1) items properties entries more := by
  constructor
  · rintro ⟨hmembers, hproperties, hentries, helements⟩
    obtain ⟨hx, hmembers⟩ := List.forall_mem_cons.1 hmembers
    rw [onAxis_cons] at hproperties hentries helements
    cases haxis : memberAxis x with
    | unknown => exact absurd haxis hx
    | property =>
        simp only [haxis, reduceCtorEq, if_true, if_false] at hproperties hentries helements
        obtain ⟨p, more, hp, hmore, rfl⟩ := List.forall₂_cons_left_iff.1 hproperties
        exact .inl ⟨p, more, hp, rfl, hmembers, hmore, hentries, helements⟩
    | entry =>
        simp only [haxis, reduceCtorEq, if_true, if_false] at hproperties hentries helements
        obtain ⟨p, more, hp, hmore, rfl⟩ := List.forall₂_cons_left_iff.1 hentries
        exact .inr (.inl ⟨p, more, hp, rfl, hmembers, hproperties, hmore, helements⟩)
    | element =>
        simp only [haxis, reduceCtorEq, if_true, if_false] at hproperties hentries helements
        cases elements with
        | nil => cases helements
        | cons v more =>
            rw [List.zipIdx_cons] at helements
            obtain ⟨hv, hmore⟩ := List.forall₂_cons.1 helements
            exact .inr (.inr ⟨v, more, hv, rfl, hmembers, hproperties, hentries, hmore⟩)
  · rintro (⟨p, more, hp, rfl, hmore⟩ | ⟨p, more, hp, rfl, hmore⟩ | ⟨v, more, hv, rfl, hmore⟩)
    · refine ⟨List.forall_mem_cons.2 ⟨by simp [hp.axis], hmore.members⟩, ?_, ?_, ?_⟩
      · simpa [onAxis_cons, hp.axis] using ⟨hp, hmore.ofProperties⟩
      · simpa [onAxis_cons, hp.axis] using hmore.ofEntries
      · simpa [onAxis_cons, hp.axis] using hmore.ofElements
    · refine ⟨List.forall_mem_cons.2 ⟨by simp [hp.axis], hmore.members⟩, ?_, ?_, ?_⟩
      · simpa [onAxis_cons, hp.axis] using hmore.ofProperties
      · simpa [onAxis_cons, hp.axis] using ⟨hp, hmore.ofEntries⟩
      · simpa [onAxis_cons, hp.axis] using hmore.ofElements
    · refine ⟨List.forall_mem_cons.2 ⟨by simp [hv.axis], hmore.members⟩, ?_, ?_, ?_⟩
      · simpa [onAxis_cons, hv.axis] using hmore.ofProperties
      · simpa [onAxis_cons, hv.axis] using hmore.ofEntries
      · simpa [onAxis_cons, hv.axis, List.zipIdx_cons] using ⟨hv, hmore.ofElements⟩

/-! ## The loop fills each axis alone -/

theorem axes_of_members {members : List Member}
    (hparts : ∀ m ∈ members, ∀ p ∈ m.parts, ofItem p.1 = .ok p.2) (horder : InOrder before members) :
    Axes before (members.map Member.item) (members.flatMap Member.properties)
      (members.flatMap Member.entries) (members.flatMap Member.elements) := by
  induction members generalizing before with
  | nil => exact axes_nil_iff.2 ⟨rfl, rfl, rfl⟩
  | cons m members ih =>
      obtain ⟨hm, hparts⟩ := List.forall_mem_cons.1 hparts
      obtain ⟨hat, horder⟩ := horder
      have hmore := ih hparts horder
      rw [List.map_cons, axes_cons_iff]
      cases m with
      | property name value surplus =>
          exact .inl ⟨(name, value.2), _, ⟨value.1, surplus, rfl,
            hm value (by simp [Member.parts])⟩, rfl, hmore⟩
      | entry key value surplus =>
          exact .inr (.inl ⟨(key.2, value.2), _, ⟨key.1, value.1, surplus, rfl,
            hm key (by simp [Member.parts]), hm value (by simp [Member.parts])⟩, rfl, hmore⟩)
      | element index value surplus =>
          exact .inr (.inr ⟨value.2, _, ⟨index, value.1, surplus, rfl, hat,
            hm value (by simp [Member.parts])⟩, rfl, hmore⟩)

theorem exists_members_of_axes (h : Axes before items properties entries elements) :
    ∃ members : List Member, items = members.map Member.item ∧
      (∀ m ∈ members, ∀ p ∈ m.parts, ofItem p.1 = .ok p.2) ∧ InOrder before members ∧
      properties = members.flatMap Member.properties ∧ entries = members.flatMap Member.entries ∧
      elements = members.flatMap Member.elements := by
  induction items generalizing before properties entries elements with
  | nil =>
      obtain ⟨rfl, rfl, rfl⟩ := axes_nil_iff.1 h
      exact ⟨[], rfl, fun m hm => (List.not_mem_nil hm).elim, trivial, rfl, rfl, rfl⟩
  | cons x items ih =>
      rcases axes_cons_iff.1 h with ⟨p, more, ⟨value, surplus, rfl, hvalue⟩, rfl, hmore⟩ |
        ⟨p, more, ⟨key, value, surplus, rfl, hkey, hvalue⟩, rfl, hmore⟩ |
        ⟨v, more, ⟨index, value, surplus, rfl, hindex, hvalue⟩, rfl, hmore⟩
      · obtain ⟨members, rfl, hparts, horder, rfl, rfl, rfl⟩ := ih hmore
        refine ⟨.property p.1 (value, p.2) surplus :: members, rfl, List.forall_mem_cons.2 ⟨?_, hparts⟩,
          ⟨trivial, horder⟩, rfl, rfl, rfl⟩
        simpa [Member.parts] using hvalue
      · obtain ⟨members, rfl, hparts, horder, rfl, rfl, rfl⟩ := ih hmore
        refine ⟨.entry (key, p.1) (value, p.2) surplus :: members, rfl,
          List.forall_mem_cons.2 ⟨?_, hparts⟩, ⟨trivial, horder⟩, rfl, rfl, rfl⟩
        simpa [Member.parts] using ⟨hkey, hvalue⟩
      · obtain ⟨members, rfl, hparts, horder, rfl, rfl, rfl⟩ := ih hmore
        refine ⟨.element index (value, v) surplus :: members, rfl,
          List.forall_mem_cons.2 ⟨?_, hparts⟩, ⟨hindex, horder⟩, rfl, rfl, rfl⟩
        simpa [Member.parts] using hvalue

/-- An open object with these members. -/
def dynamicItem (items surplus : List Item) : Item :=
  taggedItem 0x01 (.text "Dynamic" :: .text "pkl:base" :: .array items :: surplus)

theorem ofItem_dynamicItem_eq_ok_iff {surplus : List Item} {v : Value} :
    ofItem (dynamicItem items surplus) = .ok v ↔ ∃ properties entries elements,
      Axes 0 items properties entries elements ∧
        v = .dynamic (Properties.ofPairs properties) (Entries.ofPairs entries) elements := by
  have hopen : isDynamicClass "Dynamic" "pkl:base" = true := isDynamicClass_iff.2 ⟨rfl, rfl⟩
  have hkind : Tag.kind 0x01 = .object := rfl
  rw [dynamicItem, ofItem_taggedItem, hkind]
  constructor
  · intro h
    obtain ⟨className, moduleUri, items', surplus', acc, hfields, hmembers, rfl⟩ :=
      ofTagged_object_eq_ok_iff.1 h
    simp only [List.cons.injEq, Item.text.injEq, Item.array.injEq] at hfields
    obtain ⟨rfl, rfl, rfl, rfl⟩ := hfields
    rw [hopen] at hmembers ⊢
    obtain ⟨members, rfl, hparts, -, horder, rfl⟩ := readMembers_eq_ok_iff.1 hmembers
    exact ⟨_, _, _, axes_of_members hparts horder, rfl⟩
  · rintro ⟨properties, entries, elements, haxes, rfl⟩
    obtain ⟨members, rfl, hparts, horder, rfl, rfl, rfl⟩ := exists_members_of_axes haxes
    refine ofTagged_object_eq_ok_iff.2 ⟨_, _, _, surplus, _, rfl, readMembers_eq_ok_iff.2
      ⟨members, rfl, hparts, fun _ _ => .inl hopen, horder, rfl⟩, ?_⟩
    rw [hopen]
    rfl

/-! ## Members in another order -/

/-- The same members, mixed in another way: those of one axis stay in their order. -/
structure Rearranges (items items' : List Item) : Prop where
  perm : items.Perm items'
  kept : ∀ kind, kind ≠ .unknown → onAxis kind items = onAxis kind items'

theorem Rearranges.symm (h : Rearranges items items') : Rearranges items' items where
  perm := h.perm.symm
  kept kind hkind := (h.kept kind hkind).symm

theorem Axes.rearrange (hitems : Rearranges items items')
    (h : Axes before items properties entries elements) :
    Axes before items' properties entries elements where
  members x hx := h.members x (hitems.perm.mem_iff.2 hx)
  ofProperties := hitems.kept .property (by simp) ▸ h.ofProperties
  ofEntries := hitems.kept .entry (by simp) ▸ h.ofEntries
  ofElements := hitems.kept .element (by simp) ▸ h.ofElements

theorem ofItem_of_rearranges (h : Rearranges items items') {surplus : List Item} {v : Value}
    (hv : ofItem (dynamicItem items surplus) = .ok v) :
    ofItem (dynamicItem items' surplus) = .ok v := by
  obtain ⟨properties, entries, elements, haxes, rfl⟩ := ofItem_dynamicItem_eq_ok_iff.1 hv
  exact ofItem_dynamicItem_eq_ok_iff.2 ⟨properties, entries, elements, haxes.rearrange h, rfl⟩

theorem depthItems_eq_of_perm (h : items.Perm items') : depthItems items = depthItems items' :=
  Nat.le_antisymm
    (depthItems_le_iff.2 fun x hx => depthItems_le_iff.1 (Nat.le_refl _) x (h.mem_iff.1 hx))
    (depthItems_le_iff.2 fun x hx => depthItems_le_iff.1 (Nat.le_refl _) x (h.mem_iff.2 hx))

theorem depth_dynamicItem_eq_of_perm (h : items.Perm items') (surplus : List Item) :
    (dynamicItem items surplus).depth = (dynamicItem items' surplus).depth := by
  simp only [dynamicItem, taggedItem, Item.depth, depthItems, depthItems_eq_of_perm h]

/-- However an item is spelled, it is decoded unless it is too deep. -/
theorem decode_of_spelledBy {payload : Bytes} (h : x.SpelledBy payload) :
    decode payload = if x.depth ≤ depthLimit then ofItem x else .error (.unreadable .tooDeep) := by
  have hread := MessagePack.Item.read_of_spelledBy x h depthLimit []
  rw [List.append_nil] at hread
  rw [decode, hread]
  by_cases hdepth : x.depth ≤ depthLimit
  · rw [if_pos hdepth, if_pos hdepth]
  · rw [if_neg hdepth, if_neg hdepth]

/-- The axes of an open object are independent.  Its members may be mixed in any way that keeps the order of
each axis, on items and on octets: the one is accepted if the other is, and for the same value.  An object is
accepted if each of its axes can be read alone.  It has then the values of its element members in their
order, counted from zero, and of the property and entry members the names and keys that came first, each
with the value that came last. -/
theorem axes_independent (h : Rearranges items items') (surplus : List Item) :
    (∀ v, ofItem (dynamicItem items surplus) = .ok v ↔ ofItem (dynamicItem items' surplus) = .ok v) ∧
    (∀ payload payload', (dynamicItem items surplus).SpelledBy payload →
      (dynamicItem items' surplus).SpelledBy payload' →
      ∀ v, decode payload = .ok v ↔ decode payload' = .ok v) ∧
    (∀ named keyed elements, Axes 0 items named keyed elements →
      ∃ v, ofItem (dynamicItem items surplus) = .ok v) ∧
    ∀ v, ofItem (dynamicItem items surplus) = .ok v →
      ∃ named properties keyed entries elements, v = .dynamic properties entries elements ∧
        Axes 0 items named keyed elements ∧ Assoc.Keeps (· == ·) named properties ∧
        Assoc.Keeps Value.equal keyed entries := by
  have hitem : ∀ v, ofItem (dynamicItem items surplus) = .ok v ↔
      ofItem (dynamicItem items' surplus) = .ok v :=
    fun v => ⟨ofItem_of_rearranges h, ofItem_of_rearranges h.symm⟩
  refine ⟨hitem, ?_, ?_, ?_⟩
  · intro payload payload' hpayload hpayload' v
    rw [decode_of_spelledBy hpayload, decode_of_spelledBy hpayload',
      depth_dynamicItem_eq_of_perm h.perm surplus]
    split
    · exact hitem v
    · rfl
  · intro named keyed elements haxes
    exact ⟨_, ofItem_dynamicItem_eq_ok_iff.2 ⟨named, keyed, elements, haxes, rfl⟩⟩
  · intro v hv
    obtain ⟨named, keyed, elements, haxes, rfl⟩ := ofItem_dynamicItem_eq_ok_iff.1 hv
    exact ⟨named, _, keyed, _, elements, rfl, haxes, Assoc.keeps_ofPairs partialEquality_beq named,
      Assoc.keeps_ofPairs partialEquality keyed⟩

/-- An element moves ahead of a property, and an entry stays behind both. -/
theorem axes_independent_element_first :
    let property := taggedItem 0x10 [.text "p", .nil]
    let entry := taggedItem 0x11 [.bool true, .bool false]
    let element := taggedItem 0x12 [.ofUInt64 0, .text "e"]
    Rearranges [property, element, entry] [element, property, entry] ∧
      ofItem (dynamicItem [element, property, entry] []) =
        .ok (.dynamic [("p", .null)] [(.bool true, .bool false)] [.string "e"]) := by
  intro property entry element
  have hitems : Rearranges [property, element, entry] [element, property, entry] := by
    refine ⟨.swap element property [entry], fun kind hkind => ?_⟩
    cases kind with
    | unknown => exact absurd rfl hkind
    | property | entry | element => rfl
  exact ⟨hitems, ((axes_independent hitems []).1 _).1 rfl⟩

end Value

end PklHost
