import PklHost.Proofs.MessagePack.Writing
import PklHost.Proofs.Value.Insertion
import PklHost.Value.Decode
import PklHost.Value.Encode

/-!
# Values come back

`Value.Built` says how values are made: maps and properties by insertion, everything else by its
constructor.  What is encoded of such a value decodes to the same value: the same bits of every float,
the same order of entries and of properties, and each axis of an open object as it was
(`Built.returns`).  On octets there is one condition more, that lengths and nesting are such as
the format and its reader can hold.

The round trip needs no law of the equality of keys, so that a NaN among them does no harm: decoding
inserts the pairs again, and pairs whose keys are distinct stay as they are.
-/

namespace PklHost

open MessagePack (AllTextItems AllTextPairs Item WireInt allTextItems_append depthLimit)

namespace Value

/-! ## Tagged arrays -/

/-- A tagged array is read by what its tag announces. -/
theorem ofItem_taggedItem (tag : UInt64) (fields : List Item) :
    ofItem (taggedItem tag fields) = ofTagged tag (Tag.kind tag) fields := by
  simp only [taggedItem, Item.ofUInt64, ofItem, WireInt.toUInt64?_ofUInt64]

theorem ofItem_objectItem (className moduleUri : String) (members : List Item) :
    ofItem (objectItem className moduleUri members) =
      (readMembers (isDynamicClass className moduleUri) className {} members).map
        (ofMembers (isDynamicClass className moduleUri) className moduleUri) := by
  have hkind : Tag.kind Tag.object = .object := rfl
  rw [objectItem, ofItem_taggedItem, hkind]
  simp only [ofTagged, readClass, readString, bind, Except.bind, pure, Except.pure, Except.map]

theorem ofItem_ofInt64 (n : Int64) : ofItem (.ofInt64 n) = .ok (.int n) := by
  simp only [Item.ofInt64, ofItem, readInt, WireInt.toInt64?_ofInt64, bind, Except.bind, pure,
    Except.pure]

/-- The members of an object after one more. -/
theorem readMembers_tagged (isDynamic : Bool) (className : String) (acc : Members) (tag : UInt64)
    (fields rest : List Item) :
    readMembers isDynamic className acc (taggedItem tag fields :: rest) =
      (readMember isDynamic className acc tag (Tag.memberKind tag) fields).bind fun acc =>
        readMembers isDynamic className acc rest := by
  simp only [taggedItem, Item.ofUInt64, readMembers, memberTag, WireInt.toUInt64?_ofUInt64,
    Option.getD_some, bind]

/-! ## How values are made -/

/-- Values made by the constructors of the model.  No declared class is the open class, and an open
object has no more elements than a word can index. -/
inductive Built : Value → Prop
  | null : Built .null
  | bool (b : Bool) : Built (.bool b)
  | int (n : Int64) : Built (.int n)
  | float (x : Double) : Built (.float x)
  | string (s : String) : Built (.string s)
  | bytes (octets : Bytes) : Built (.bytes octets)
  | list {items : List Value} (h : ∀ v ∈ items, Built v) : Built (.list items)
  | set {items : List Value} (h : ∀ v ∈ items, Built v) : Built (.set items)
  | map {pairs : List (Value × Value)} (hkeys : ∀ p ∈ pairs, Built p.1)
      (hvalues : ∀ p ∈ pairs, Built p.2) : Built (.map (Entries.ofPairs pairs))
  | dynamic {properties : List (String × Value)} {entries : List (Value × Value)}
      {elements : List Value} (hproperties : ∀ p ∈ properties, Built p.2)
      (hkeys : ∀ p ∈ entries, Built p.1) (hvalues : ∀ p ∈ entries, Built p.2)
      (helements : ∀ v ∈ elements, Built v) (hcount : elements.length ≤ 0x10000000000000000) :
      Built (.dynamic (Properties.ofPairs properties) (Entries.ofPairs entries) elements)
  | object {className moduleUri : String} {properties : List (String × Value)}
      (hclass : ¬ (className = Tag.dynamicClass ∧ moduleUri = Tag.baseModule))
      (hproperties : ∀ p ∈ properties, Built p.2) :
      Built (.object className moduleUri (Properties.ofPairs properties))
  | duration (d : Duration) : Built (.duration d)
  | dataSize (d : DataSize) : Built (.dataSize d)
  | intSeq (s : IntSeq) : Built (.intSeq s)
  | regex (pattern : String) : Built (.regex pattern)
  | pair {first second : Value} (hfirst : Built first) (hsecond : Built second) :
      Built (.pair first second)
  | placeholder : Built .placeholder

/-- The value comes back from its item. -/
def Returns (v : Value) : Prop := ofItem v.toItem = .ok v

/-! ## Lists -/

theorem ofItems_toItems {items : List Value} (h : ∀ v ∈ items, v.Returns) :
    ofItems (toItems items) = .ok items := by
  induction items with
  | nil => rfl
  | cons v vs ih =>
      obtain ⟨hv, hvs⟩ := List.forall_mem_cons.1 h
      have hv : ofItem v.toItem = .ok v := hv
      simp only [toItems, ofItems, hv, ih hvs, bind, Except.bind, pure, Except.pure]

theorem ofPairs_toPairs {entries : List (Value × Value)}
    (h : ∀ p ∈ entries, p.1.Returns ∧ p.2.Returns) : ofPairs (toPairs entries) = .ok entries := by
  induction entries with
  | nil => rfl
  | cons p ps ih =>
      obtain ⟨k, v⟩ := p
      obtain ⟨⟨hk, hv⟩, hps⟩ := List.forall_mem_cons.1 h
      have hk : ofItem k.toItem = .ok k := hk
      have hv : ofItem v.toItem = .ok v := hv
      simp only [toPairs, ofPairs, hk, hv, ih hps, bind, Except.bind, pure, Except.pure]

/-! ## Members -/

theorem readMembers_propertyItems (isDynamic : Bool) (className : String)
    {properties : List (String × Value)} (h : ∀ p ∈ properties, p.2.Returns) (acc : Members)
    (rest : List Item) :
    readMembers isDynamic className acc (propertyItems properties ++ rest) =
      readMembers isDynamic className
        { acc with properties := Assoc.insertAll (· == ·) acc.properties properties } rest := by
  induction properties generalizing acc with
  | nil => rfl
  | cons p ps ih =>
      obtain ⟨name, v⟩ := p
      obtain ⟨hv, hps⟩ := List.forall_mem_cons.1 h
      have hmember : readMember isDynamic className acc Tag.property (Tag.memberKind Tag.property)
          [.text name, v.toItem] =
            .ok { acc with properties := acc.properties.insert name v } := by
        have hkind : Tag.memberKind Tag.property = .property := rfl
        have hv : ofItem v.toItem = .ok v := hv
        simp only [hkind, readMember, readString, hv, bind, Except.bind, pure, Except.pure]
      rw [propertyItems, List.cons_append, readMembers_tagged, hmember]
      exact ih hps _

theorem readMembers_entryItems (className : String) {entries : List (Value × Value)}
    (h : ∀ p ∈ entries, p.1.Returns ∧ p.2.Returns) (acc : Members) (rest : List Item) :
    readMembers true className acc (entryItems entries ++ rest) =
      readMembers true className
        { acc with entries := Assoc.insertAll Value.equal acc.entries entries } rest := by
  induction entries generalizing acc with
  | nil => rfl
  | cons p ps ih =>
      obtain ⟨k, v⟩ := p
      obtain ⟨⟨hk, hv⟩, hps⟩ := List.forall_mem_cons.1 h
      have hmember : readMember true className acc Tag.entry (Tag.memberKind Tag.entry)
          [k.toItem, v.toItem] = .ok { acc with entries := acc.entries.insert k v } := by
        have hkind : Tag.memberKind Tag.entry = .entry := rfl
        have hk : ofItem k.toItem = .ok k := hk
        have hv : ofItem v.toItem = .ok v := hv
        simp only [hkind, readMember, if_true, hk, hv, bind, Except.bind, pure, Except.pure]
      rw [entryItems, List.cons_append, readMembers_tagged, hmember]
      exact ih hps _

/-- Elements are read at the index at which they were written. -/
theorem readMembers_elementItems (className : String) {elements : List Value}
    (h : ∀ v ∈ elements, v.Returns) (acc : Members) (rest : List Item)
    (hcount : acc.elements.length + elements.length ≤ 0x10000000000000000) :
    readMembers true className acc (elementItems acc.elements.length elements ++ rest) =
      readMembers true className { acc with elements := acc.elements ++ elements } rest := by
  induction elements generalizing acc with
  | nil =>
      rw [List.append_nil]
      rfl
  | cons v vs ih =>
      obtain ⟨hv, hvs⟩ := List.forall_mem_cons.1 h
      rw [List.length_cons] at hcount
      -- the index is written in a word, which holds it
      have hindex : (UInt64.ofNat acc.elements.length).toNat = acc.elements.length := by
        rw [UInt64.toNat_ofNat']
        omega
      have hmember : readMember true className acc Tag.element (Tag.memberKind Tag.element)
          [.ofUInt64 (UInt64.ofNat acc.elements.length), v.toItem] =
            .ok { acc with elements := acc.elements ++ [v] } := by
        have hkind : Tag.memberKind Tag.element = .element := rfl
        have hv : ofItem v.toItem = .ok v := hv
        simp only [hkind, readMember, if_true, readIndex, Item.ofUInt64,
          WireInt.toUInt64?_ofUInt64, hindex, hv, bind, Except.bind, pure, Except.pure]
      rw [elementItems, List.cons_append, readMembers_tagged, hmember]
      -- the next element is written with the next index, which is where it goes
      have hlength : (acc.elements ++ [v]).length = acc.elements.length + 1 := by simp
      have := ih hvs { acc with elements := acc.elements ++ [v] } (by
        show (acc.elements ++ [v]).length + vs.length ≤ _
        omega)
      rw [hlength] at this
      show readMembers true className { acc with elements := acc.elements ++ [v] }
        (elementItems (acc.elements.length + 1) vs ++ rest) = _
      rw [this, List.append_assoc]
      rfl

/-! ## Values -/

theorem returns_list {items : List Value} (h : ∀ v ∈ items, v.Returns) :
    (Value.list items).Returns := by
  have hkind : Tag.kind Tag.listing = .list := rfl
  show ofItem (taggedItem Tag.listing [.array (toItems items)]) = .ok (.list items)
  rw [ofItem_taggedItem, hkind]
  simp only [ofTagged, ofItems_toItems h, bind, Except.bind, pure, Except.pure]

theorem returns_set {items : List Value} (h : ∀ v ∈ items, v.Returns) :
    (Value.set items).Returns := by
  have hkind : Tag.kind Tag.set = .set := rfl
  show ofItem (taggedItem Tag.set [.array (toItems items)]) = .ok (.set items)
  rw [ofItem_taggedItem, hkind]
  simp only [ofTagged, ofItems_toItems h, bind, Except.bind, pure, Except.pure]

/-- A map comes back pair by pair, and inserting its pairs again changes nothing. -/
theorem returns_map {entries : Entries} (hdistinct : Assoc.Distinct Value.equal entries)
    (h : ∀ p ∈ entries, p.1.Returns ∧ p.2.Returns) : (Value.map entries).Returns := by
  have hkind : Tag.kind Tag.mapping = .map := rfl
  have hinserted : Entries.ofPairs entries = entries := Assoc.ofPairs_of_distinct hdistinct
  show ofItem (taggedItem Tag.mapping [.map (toPairs entries)]) = .ok (.map entries)
  rw [ofItem_taggedItem, hkind]
  simp only [ofTagged, ofPairs_toPairs h, hinserted, bind, Except.bind, pure, Except.pure]

theorem returns_object {className moduleUri : String} {properties : Properties}
    (hclass : ¬ (className = Tag.dynamicClass ∧ moduleUri = Tag.baseModule))
    (hdistinct : Assoc.Distinct (· == ·) properties) (h : ∀ p ∈ properties, p.2.Returns) :
    (Value.object className moduleUri properties).Returns := by
  have hdeclared : isDynamicClass className moduleUri = false := by
    simpa [isDynamicClass] using hclass
  have hinserted : Assoc.insertAll (· == ·) [] properties = properties :=
    Assoc.ofPairs_of_distinct hdistinct
  have hmembers := readMembers_propertyItems false className h {} []
  rw [List.append_nil] at hmembers
  show ofItem (objectItem className moduleUri (propertyItems properties)) =
    .ok (.object className moduleUri properties)
  rw [ofItem_objectItem, hdeclared, hmembers]
  show Except.ok (Value.object className moduleUri (Assoc.insertAll (· == ·) [] properties)) = _
  rw [hinserted]

/-- An open object is filled again axis by axis, in the order in which the axes are written. -/
theorem returns_dynamic {properties : Properties} {entries : Entries} {elements : List Value}
    (hnames : Assoc.Distinct (· == ·) properties) (hkeys : Assoc.Distinct Value.equal entries)
    (hproperties : ∀ p ∈ properties, p.2.Returns)
    (hentries : ∀ p ∈ entries, p.1.Returns ∧ p.2.Returns)
    (helements : ∀ v ∈ elements, v.Returns) (hcount : elements.length ≤ 0x10000000000000000) :
    (Value.dynamic properties entries elements).Returns := by
  have hopen : isDynamicClass Tag.dynamicClass Tag.baseModule = true := rfl
  have hinsertedNames : Assoc.insertAll (· == ·) [] properties = properties :=
    Assoc.ofPairs_of_distinct hnames
  have hinsertedKeys : Assoc.insertAll Value.equal [] entries = entries :=
    Assoc.ofPairs_of_distinct hkeys
  show ofItem (objectItem Tag.dynamicClass Tag.baseModule
    (propertyItems properties ++ (entryItems entries ++ elementItems 0 elements))) =
      .ok (.dynamic properties entries elements)
  rw [ofItem_objectItem, hopen, readMembers_propertyItems _ _ hproperties,
    readMembers_entryItems _ hentries]
  have hlast := readMembers_elementItems Tag.dynamicClass helements
    { properties := properties, entries := entries } [] (by simpa using hcount)
  rw [List.append_nil] at hlast
  show Except.map _ (readMembers true Tag.dynamicClass
    { properties := Assoc.insertAll (· == ·) [] properties,
      entries := Assoc.insertAll Value.equal [] entries } (elementItems 0 elements)) = _
  rw [hinsertedNames, hinsertedKeys]
  exact congrArg (Except.map _) hlast

theorem returns_pair {first second : Value} (hfirst : first.Returns) (hsecond : second.Returns) :
    (Value.pair first second).Returns := by
  have hkind : Tag.kind Tag.pair = .pair := rfl
  have hfirst : ofItem first.toItem = .ok first := hfirst
  have hsecond : ofItem second.toItem = .ok second := hsecond
  show ofItem (taggedItem Tag.pair [first.toItem, second.toItem]) = .ok (.pair first second)
  rw [ofItem_taggedItem, hkind]
  simp only [ofTagged, hfirst, hsecond, bind, Except.bind, pure, Except.pure]

theorem returns_duration (d : Duration) : (Value.duration d).Returns := by
  have hkind : Tag.kind Tag.duration = .duration := rfl
  show ofItem (taggedItem Tag.duration [.double d.value, .text d.unit.symbol]) = .ok (.duration d)
  rw [ofItem_taggedItem, hkind]
  simp only [ofTagged, readDuration, readQuantity, nextField, readNumber, readString,
    DurationUnit.ofSymbol?_symbol, bind, Except.bind, pure, Except.pure]

theorem returns_dataSize (d : DataSize) : (Value.dataSize d).Returns := by
  have hkind : Tag.kind Tag.dataSize = .dataSize := rfl
  show ofItem (taggedItem Tag.dataSize [.double d.value, .text d.unit.symbol]) = .ok (.dataSize d)
  rw [ofItem_taggedItem, hkind]
  simp only [ofTagged, readDataSize, readQuantity, nextField, readNumber, readString,
    SizeUnit.ofSymbol?_symbol, bind, Except.bind, pure, Except.pure]

theorem returns_intSeq (s : IntSeq) : (Value.intSeq s).Returns := by
  have hkind : Tag.kind Tag.intSeq = .intSeq := rfl
  show ofItem (taggedItem Tag.intSeq [.ofInt64 s.start, .ofInt64 s.stop, .ofInt64 s.step]) =
    .ok (.intSeq s)
  rw [ofItem_taggedItem, hkind]
  simp only [ofTagged, readIntSeq, nextField, readIntField, Item.ofInt64, readInt,
    WireInt.toInt64?_ofInt64, bind, Except.bind, pure, Except.pure]

/-- Every value made by the constructors comes back from its item. -/
theorem Built.returns {v : Value} (h : v.Built) : v.Returns := by
  induction h with
  | null => rfl
  | bool b => rfl
  | int n => exact ofItem_ofInt64 n
  | float x => rfl
  | string s => rfl
  | bytes octets => rfl
  | list _ ih => exact returns_list ih
  | set _ ih => exact returns_set ih
  | map _ _ ihkeys ihvalues =>
      -- what is stored are keys and values that were inserted
      exact returns_map (Assoc.distinct_ofPairs _)
        (Assoc.forall_ofPairs fun p hp => ⟨ihkeys p hp, ihvalues p hp⟩)
  | dynamic _ _ _ _ hcount ihproperties ihkeys ihvalues ihelements =>
      refine returns_dynamic (Assoc.distinct_ofPairs _) (Assoc.distinct_ofPairs _) ?_ ?_ ihelements
        hcount
      · exact fun p hp =>
          (Assoc.forall_ofPairs (P := fun _ => True) (fun q hq => ⟨trivial, ihproperties q hq⟩)
            p hp).2
      · exact Assoc.forall_ofPairs fun p hp => ⟨ihkeys p hp, ihvalues p hp⟩
  | object hclass _ ih =>
      refine returns_object hclass (Assoc.distinct_ofPairs _) ?_
      exact fun p hp =>
        (Assoc.forall_ofPairs (P := fun _ => True) (fun q hq => ⟨trivial, ih q hq⟩) p hp).2
  | duration d => exact returns_duration d
  | dataSize d => exact returns_dataSize d
  | intSeq s => exact returns_intSeq s
  | regex pattern => rfl
  | pair _ _ ihfirst ihsecond => exact returns_pair ihfirst ihsecond
  | placeholder => rfl

/-! ## On octets -/

mutual

/-- Values are written with text only. -/
theorem toItem_allText : (v : Value) → v.toItem.AllText
  | .null | .bool _ | .int _ | .float _ | .string _ | .bytes _ => trivial
  | .list items | .set items => ⟨trivial, toItems_allText items, trivial⟩
  | .map entries => ⟨trivial, toPairs_allText entries, trivial⟩
  | .dynamic properties entries elements =>
      ⟨trivial, trivial, trivial, allTextItems_append (propertyItems_allText properties)
        (allTextItems_append (entryItems_allText entries) (elementItems_allText 0 elements)),
        trivial⟩
  | .object _ _ properties =>
      ⟨trivial, trivial, trivial, propertyItems_allText properties, trivial⟩
  | .duration _ | .dataSize _ => ⟨trivial, trivial, trivial, trivial⟩
  | .intSeq _ => ⟨trivial, trivial, trivial, trivial, trivial⟩
  | .regex _ => ⟨trivial, trivial, trivial⟩
  | .pair first second => ⟨trivial, first.toItem_allText, second.toItem_allText, trivial⟩
  | .placeholder => ⟨trivial, trivial⟩

theorem toItems_allText : (items : List Value) → AllTextItems (toItems items)
  | [] => trivial
  | v :: vs => ⟨v.toItem_allText, toItems_allText vs⟩

theorem toPairs_allText : (entries : List (Value × Value)) → AllTextPairs (toPairs entries)
  | [] => trivial
  | (k, v) :: ps => ⟨⟨k.toItem_allText, v.toItem_allText⟩, toPairs_allText ps⟩

theorem propertyItems_allText : (properties : List (String × Value)) →
    AllTextItems (propertyItems properties)
  | [] => trivial
  | (_, v) :: ps => ⟨⟨trivial, trivial, v.toItem_allText, trivial⟩, propertyItems_allText ps⟩

theorem entryItems_allText : (entries : List (Value × Value)) → AllTextItems (entryItems entries)
  | [] => trivial
  | (k, v) :: ps =>
      ⟨⟨trivial, k.toItem_allText, v.toItem_allText, trivial⟩, entryItems_allText ps⟩

theorem elementItems_allText (index : Nat) : (elements : List Value) →
    AllTextItems (elementItems index elements)
  | [] => trivial
  | v :: vs =>
      ⟨⟨trivial, trivial, v.toItem_allText, trivial⟩, elementItems_allText (index + 1) vs⟩

end

/-- What is written for an item is decoded as the item is. -/
theorem decode_write {x : Item} (hlen : x.LengthsFit) (htext : x.AllText)
    (hdepth : x.depth ≤ depthLimit) : decode x.write = ofItem x := by
  have hread := Item.read_write [] hlen htext hdepth
  rw [List.append_nil] at hread
  rw [decode, hread]

/-- The round trip, on items and on octets. -/
theorem comes_back {v : Value} (h : v.Built) :
    ofItem v.toItem = .ok v ∧
      (v.toItem.LengthsFit → v.toItem.depth ≤ depthLimit → decode v.encode = .ok v) := by
  have hitem : ofItem v.toItem = .ok v := h.returns
  refine ⟨hitem, ?_⟩
  intro hlen hdepth
  rw [encode, decode_write hlen v.toItem_allText hdepth, hitem]

/-- A map with one NaN twice among its keys, and an open object with all its axes as a value. -/
def nanKeys : Value :=
  .map (Entries.ofPairs
    [(.float .nan,
        .dynamic (Properties.ofPairs [("p", .null)]) (Entries.ofPairs [(.float .nan, .null)])
          [.bool true]),
      (.float .nan, .placeholder)])

theorem nanKeys_comes_back :
    nanKeys.Built ∧ ofItem nanKeys.toItem = .ok nanKeys ∧ decode nanKeys.encode = .ok nanKeys := by
  have hbuilt : nanKeys.Built := by
    refine .map ?_ ?_
    · simp [Built.float]
    · have hopen := @Built.dynamic [("p", .null)] [(.float .nan, .null)] [.bool true]
        (by simp [Built.null]) (by simp [Built.float]) (by simp [Built.null])
        (by simp [Built.bool]) (by decide)
      simp [hopen, Built.placeholder]
  -- a NaN equals no key, so that each of the two pairs is stored
  have hnan : Value.equal (.float .nan) (.float .nan) = false := by
    rw [Value.equal]
    decide
  have hstored : nanKeys = .map
      [(.float .nan, .dynamic [("p", .null)] [(.float .nan, .null)] [.bool true]),
        (.float .nan, .placeholder)] := by
    simp [nanKeys, Entries.ofPairs, Properties.ofPairs, Assoc.ofPairs, Assoc.insertAll,
      Assoc.insert, hnan]
  have hlen : nanKeys.toItem.LengthsFit := by
    have hclass : (Bytes.ofText Tag.dynamicClass).length < 0x100000000 := by decide
    have hmodule : (Bytes.ofText Tag.baseModule).length < 0x100000000 := by decide
    have hname : (Bytes.ofText "p").length < 0x100000000 := by decide
    rw [hstored]
    simp [toItem, toPairs, objectItem, taggedItem, propertyItems, entryItems, elementItems,
      Item.ofUInt64, Item.LengthsFit, MessagePack.LengthsFitItems, MessagePack.LengthsFitPairs,
      hclass, hmodule, hname]
  have hdepth : nanKeys.toItem.depth ≤ depthLimit := by
    rw [hstored]
    decide
  exact ⟨hbuilt, (comes_back hbuilt).1, (comes_back hbuilt).2 hlen hdepth⟩

end Value

end PklHost
