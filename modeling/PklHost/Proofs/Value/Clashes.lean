import PklHost.Proofs.Value.Insertion
import PklHost.Proofs.Value.MemberNames
import PklHost.Proofs.Value.Rendering

/-!
# Objects whose members keep their names

An object of a document may repeat a name.  Objects and maps hold each property and each key once, but
the members of a map or of an open object come from keys of several kinds, and two of different kinds may
get one name.  A document repeats no name, at any depth, exactly if no two members of one value clash
(`distinctNames_toJson_iff`): keys of one kind never do, nor do integers, truth values and numbers among
each other.
-/

namespace PklHost

/-- No object in a document, at any depth, repeats a name. -/
def Json.DistinctNames (x : Json) : Prop :=
  ∀ members, Occurs Json.parts (.object members) x → (members.map Prod.fst).Nodup

namespace Value

/-- The members of the object that a value is rendered as. -/
def members : Value → List Member
  | .map entries => entries.map fun p => .entry p.1
  | .dynamic properties entries elements =>
    if elementsOnly properties entries elements then []
    else
      properties.map (fun p => .property p.1) ++
        (entries.map (fun p => .entry p.1) ++ (List.range elements.length).map .element)
  | .object _ _ properties => properties.map fun p => .property p.1
  | _ => []

/-- Each property and each key of a value is there once. -/
def KeysOnce : Value → Prop
  | .map entries => Assoc.Distinct Value.equal entries
  | .dynamic properties entries _ =>
    Assoc.Distinct (· == ·) properties ∧ Assoc.Distinct Value.equal entries
  | .object _ _ properties => Assoc.Distinct (· == ·) properties
  | _ => True

/-- No two members of a value get the same name. -/
def NamesOnce (v : Value) : Prop := v.members.Pairwise fun a b => a.name ≠ b.name

/-- No two members of a value clash. -/
def ClashFree (v : Value) : Prop := v.members.Pairwise fun a b => ¬ a.Clash b

end Value

/-! ## Documents -/

namespace Json

/-- The names of an object. -/
def names : Json → List String
  | .object members => members.map Prod.fst
  | _ => []

theorem distinctNames_iff_throughout {x : Json} :
    x.DistinctNames ↔ Throughout parts (fun y => y.names.Nodup) x := by
  constructor
  · intro h y hy
    cases y with
    | object members => exact h members hy
    | _ => exact List.nodup_nil
  · exact fun h members hmembers => h _ hmembers

theorem distinctNames_iff {x : Json} :
    x.DistinctNames ↔ x.names.Nodup ∧ ∀ part ∈ x.parts, part.DistinctNames := by
  simp only [distinctNames_iff_throughout]
  exact throughout_iff

theorem distinctNames_of_parts {x : Json} (hnames : x.names.Nodup) (hparts : x.parts = []) :
    x.DistinctNames := by
  rw [distinctNames_iff, hparts]
  exact ⟨hnames, fun part hpart => by cases hpart⟩

theorem distinctNames_array_iff {items : List Json} :
    (array items).DistinctNames ↔ ∀ x ∈ items, x.DistinctNames := by
  rw [distinctNames_iff]
  exact and_iff_right List.nodup_nil

theorem distinctNames_object_iff {members : List (String × Json)} :
    (object members).DistinctNames ↔
      (members.map Prod.fst).Nodup ∧ ∀ m ∈ members, m.2.DistinctNames := by
  rw [distinctNames_iff, ← List.forall_mem_map (f := Prod.snd)]
  rfl

end Json

namespace Value

/-! ## Members of one object -/

theorem properties_apart {properties : List (String × Value)}
    (h : Assoc.Distinct (· == ·) properties) :
    (properties.map fun p => Member.property p.1).Pairwise Member.Apart := by
  rw [Assoc.Distinct, Assoc.keys, List.pairwise_map] at h
  rw [List.pairwise_map]
  exact h.imp fun hne => beq_eq_false_iff_ne.1 hne

theorem entries_apart {entries : List (Value × Value)} (h : Assoc.Distinct Value.equal entries) :
    (entries.map fun p => Member.entry p.1).Pairwise Member.Apart := by
  rw [Assoc.Distinct, Assoc.keys, List.pairwise_map] at h
  rw [List.pairwise_map]
  exact h

theorem elements_apart (n : Nat) : ((List.range n).map Member.element).Pairwise Member.Apart := by
  rw [List.pairwise_map]
  exact List.nodup_range

/-- The members of a value differ within each kind. -/
theorem members_apart {v : Value} (h : v.KeysOnce) : v.members.Pairwise Member.Apart := by
  cases v with
  | map entries => exact entries_apart h
  | object className moduleUri properties => exact properties_apart h
  | dynamic properties entries elements =>
      rw [members]
      split
      · exact .nil
      · refine List.pairwise_append.2 ⟨properties_apart h.1,
          List.pairwise_append.2 ⟨entries_apart h.2, elements_apart _, ?_⟩, ?_⟩
        · intro a ha b hb
          obtain ⟨p, -, rfl⟩ := List.mem_map.1 ha
          obtain ⟨i, -, rfl⟩ := List.mem_map.1 hb
          trivial
        · intro a ha b hb
          obtain ⟨p, -, rfl⟩ := List.mem_map.1 ha
          rcases List.mem_append.1 hb with hentry | helement
          · obtain ⟨q, -, rfl⟩ := List.mem_map.1 hentry
            trivial
          · obtain ⟨i, -, rfl⟩ := List.mem_map.1 helement
            trivial
  | _ => exact .nil

theorem succeeds_name_of_mem {v : Value} (h : ∀ k ∈ v.keys, k.NamesMember) :
    ∀ a ∈ v.members, Succeeds a.name := by
  have hkeys {entries : List (Value × Value)} (hentries : ∀ k ∈ entries.map Prod.fst, k.NamesMember) :
      ∀ a ∈ entries.map (fun p => Member.entry p.1), Succeeds a.name := by
    intro a ha
    obtain ⟨p, hp, rfl⟩ := List.mem_map.1 ha
    exact succeeds_memberName_iff.2 (hentries p.1 (List.mem_map_of_mem hp))
  cases v with
  | map entries => exact hkeys h
  | object className moduleUri properties =>
      intro a ha
      obtain ⟨p, -, rfl⟩ := List.mem_map.1 ha
      exact succeeds_ok _
  | dynamic properties entries elements =>
      rw [members]
      split
      · exact fun a ha => by cases ha
      · intro a ha
        rcases List.mem_append.1 ha with hproperty | hrest
        · obtain ⟨p, -, rfl⟩ := List.mem_map.1 hproperty
          exact succeeds_ok _
        · rcases List.mem_append.1 hrest with hentry | helement
          · exact hkeys h a hentry
          · obtain ⟨i, -, rfl⟩ := List.mem_map.1 helement
            exact succeeds_ok _
  | _ => exact fun a ha => by cases ha

/-- Where each key is there once and can name a member, a name repeats only in a clash. -/
theorem namesOnce_iff_clashFree {v : Value} (hkeys : v.KeysOnce) (hnames : ∀ k ∈ v.keys, k.NamesMember) :
    v.NamesOnce ↔ v.ClashFree := by
  have hnamed := succeeds_name_of_mem hnames
  have hapart := members_apart hkeys
  unfold NamesOnce ClashFree
  constructor
  · intro h
    refine (hapart.and h).imp_of_mem fun {a b} ha hb hboth => ?_
    exact fun hclash => hboth.2 ((Member.name_eq_iff hboth.1 (hnamed a ha) (hnamed b hb)).2 hclash)
  · intro h
    refine (hapart.and h).imp_of_mem fun {a b} ha hb hboth => ?_
    exact fun hname => hboth.2 ((Member.name_eq_iff hboth.1 (hnamed a ha) (hnamed b hb)).1 hname)

/-! ## The names of a rendered object -/

/-- The names of the members, where all of them have one. -/
theorem namesOnce_iff_nodup {v : Value} {names : List String}
    (h : v.members.map Member.name = names.map Except.ok) : v.NamesOnce ↔ names.Nodup := by
  unfold NamesOnce List.Nodup
  rw [← List.pairwise_map (f := Member.name) (R := (· ≠ ·)), h, List.pairwise_map]
  exact ⟨fun hpairs => hpairs.imp fun hne heq => hne (congrArg _ heq),
    fun hpairs => hpairs.imp fun hne heq => hne (Except.ok.inj heq)⟩

theorem names_jsonProperties {properties : List (String × Value)} {ms : List (String × Json)}
    (h : jsonProperties properties = .ok ms) :
    properties.map (fun p => (Member.property p.1).name) = (ms.map Prod.fst).map Except.ok := by
  induction properties generalizing ms with
  | nil =>
      cases h
      rfl
  | cons p ps ih =>
      obtain ⟨name, v⟩ := p
      rw [jsonProperties] at h
      obtain ⟨x, -, h⟩ := bind_eq_ok_iff.1 h
      obtain ⟨xs, hxs, h⟩ := bind_eq_ok_iff.1 h
      cases h
      rw [List.map_cons, ih hxs]
      rfl

theorem names_jsonEntries {entries : List (Value × Value)} {ms : List (String × Json)}
    (h : jsonEntries entries = .ok ms) :
    entries.map (fun p => (Member.entry p.1).name) = (ms.map Prod.fst).map Except.ok := by
  induction entries generalizing ms with
  | nil =>
      cases h
      rfl
  | cons p ps ih =>
      obtain ⟨k, v⟩ := p
      rw [jsonEntries] at h
      obtain ⟨name, hname, h⟩ := bind_eq_ok_iff.1 h
      obtain ⟨x, -, h⟩ := bind_eq_ok_iff.1 h
      obtain ⟨xs, hxs, h⟩ := bind_eq_ok_iff.1 h
      cases h
      rw [List.map_cons, ih hxs, Member.name, hname]
      rfl

theorem names_jsonElements {index : Nat} {elements : List Value} {ms : List (String × Json)}
    (h : jsonElements index elements = .ok ms) :
    (List.range' index elements.length).map (fun i => (Member.element i).name) =
      (ms.map Prod.fst).map Except.ok := by
  induction elements generalizing index ms with
  | nil =>
      cases h
      rfl
  | cons v vs ih =>
      rw [jsonElements] at h
      obtain ⟨x, -, h⟩ := bind_eq_ok_iff.1 h
      obtain ⟨xs, hxs, h⟩ := bind_eq_ok_iff.1 h
      cases h
      rw [List.length_cons, List.range'_succ, List.map_cons, ih hxs]
      rfl

/-! ## Every depth -/

/-- No value in a value, at any depth, gives two members one name. -/
abbrev NamesDistinct (v : Value) : Prop := Throughout parts NamesOnce v

theorem namesDistinct_of_parts {v : Value} (hmembers : v.members = []) (hparts : v.parts = []) :
    v.NamesDistinct := by
  rw [NamesDistinct, throughout_iff, NamesOnce, hmembers, hparts]
  exact ⟨.nil, fun part hpart => by cases hpart⟩

theorem namesDistinct_iff_of_members {v : Value} (hmembers : v.members = []) :
    v.NamesDistinct ↔ ∀ part ∈ v.parts, part.NamesDistinct := by
  rw [NamesDistinct, throughout_iff, NamesOnce, hmembers]
  exact and_iff_right .nil

theorem namesDistinct_of_memberName {k : Value} {name : String} (h : k.memberName = .ok name) :
    k.NamesDistinct := by
  cases k with
  | string | regex | int | bool | float => exact namesDistinct_of_parts rfl rfl
  | _ => cases h

/-- An object that names the members of a value and holds the documents of its parts repeats no name exactly
if the value gives no name twice. -/
theorem distinctNames_object_iff_namesDistinct {v : Value} {ms : List (String × Json)}
    (hnames : v.members.map Member.name = (ms.map Prod.fst).map Except.ok)
    (hparts : (∀ m ∈ ms, m.2.DistinctNames) ↔ ∀ part ∈ v.parts, part.NamesDistinct) :
    (Json.object ms).DistinctNames ↔ v.NamesDistinct := by
  rw [Json.distinctNames_object_iff, ← namesOnce_iff_nodup hnames, hparts, NamesDistinct, throughout_iff]

theorem distinctNames_quantityJson (x : Double) (unit : String) : (quantityJson x unit).DistinctNames := by
  have hnames : ["value", "unit"].Nodup := by decide
  refine Json.distinctNames_object_iff.2 ⟨hnames, ?_⟩
  rw [List.forall_mem_cons, List.forall_mem_singleton]
  exact ⟨Json.distinctNames_of_parts .nil rfl, Json.distinctNames_of_parts .nil rfl⟩

mutual

/-- A document repeats no name exactly if the value it is rendered from gives no name twice. -/
theorem distinctNames_iff_namesDistinct (v : Value) {x : Json} (h : v.toJson = .ok x) :
    x.DistinctNames ↔ v.NamesDistinct := by
  cases v with
  | list items | set items =>
      rw [toJson] at h
      obtain ⟨xs, hxs, h⟩ := bind_eq_ok_iff.1 h
      cases h
      rw [Json.distinctNames_array_iff, distinctNames_jsonItems_iff items hxs,
        namesDistinct_iff_of_members rfl]
      rfl
  | map entries =>
      rw [toJson] at h
      obtain ⟨ms, hms, h⟩ := bind_eq_ok_iff.1 h
      cases h
      have hnames : (map entries).members.map Member.name = (ms.map Prod.fst).map Except.ok := by
        rw [← names_jsonEntries hms, members, List.map_map]
        rfl
      exact distinctNames_object_iff_namesDistinct hnames (distinctNames_jsonEntries_iff entries hms)
  | dynamic properties entries elements =>
      rw [toJson_dynamic] at h
      split at h
      · next helements =>
          obtain ⟨xs, hxs, h⟩ := bind_eq_ok_iff.1 h
          cases h
          obtain ⟨rfl, rfl⟩ := elementsOnly_eq_true helements
          rw [Json.distinctNames_array_iff, distinctNames_jsonItems_iff elements hxs,
            namesDistinct_iff_of_members (v := dynamic [] [] elements) (if_pos helements)]
          rfl
      · next helements =>
          obtain ⟨ps, hps, h⟩ := bind_eq_ok_iff.1 h
          obtain ⟨es, hes, h⟩ := bind_eq_ok_iff.1 h
          obtain ⟨ls, hls, h⟩ := bind_eq_ok_iff.1 h
          cases h
          have hnames : (dynamic properties entries elements).members.map Member.name =
              ((ps ++ (es ++ ls)).map Prod.fst).map Except.ok := by
            rw [members, if_neg helements, List.range_eq_range']
            simp only [List.map_append]
            rw [← names_jsonProperties hps, ← names_jsonEntries hes, ← names_jsonElements hls]
            simp only [List.map_map]
            rfl
          have hparts : (∀ m ∈ ps ++ (es ++ ls), m.2.DistinctNames) ↔
              ∀ part ∈ (dynamic properties entries elements).parts, part.NamesDistinct := by
            rw [parts, List.forall_mem_append, List.forall_mem_append, List.forall_mem_append,
              List.forall_mem_append, and_assoc, distinctNames_jsonProperties_iff properties hps,
              distinctNames_jsonEntries_iff entries hes, distinctNames_jsonElements_iff elements hls]
          exact distinctNames_object_iff_namesDistinct hnames hparts
  | object className moduleUri properties =>
      rw [toJson] at h
      obtain ⟨ms, hms, h⟩ := bind_eq_ok_iff.1 h
      cases h
      have hnames : (object className moduleUri properties).members.map Member.name =
          (ms.map Prod.fst).map Except.ok := by
        rw [← names_jsonProperties hms, members, List.map_map]
        rfl
      exact distinctNames_object_iff_namesDistinct hnames
        (distinctNames_jsonProperties_iff properties hms)
  | pair first second =>
      rw [toJson] at h
      obtain ⟨x, hx, h⟩ := bind_eq_ok_iff.1 h
      obtain ⟨y, hy, h⟩ := bind_eq_ok_iff.1 h
      cases h
      rw [Json.distinctNames_array_iff, namesDistinct_iff_of_members rfl, parts, List.forall_mem_cons,
        List.forall_mem_singleton, List.forall_mem_cons, List.forall_mem_singleton,
        distinctNames_iff_namesDistinct first hx, distinctNames_iff_namesDistinct second hy]
  | bytes octets =>
      cases h
      refine iff_of_true (Json.distinctNames_array_iff.2 fun y hy => ?_) (namesDistinct_of_parts rfl rfl)
      obtain ⟨b, -, rfl⟩ := List.mem_map.1 hy
      exact Json.distinctNames_of_parts .nil rfl
  | duration | dataSize =>
      cases h
      exact iff_of_true (distinctNames_quantityJson _ _) (namesDistinct_of_parts rfl rfl)
  | intSeq s =>
      cases h
      have hnames : ["start", "end", "step"].Nodup := by decide
      refine iff_of_true (Json.distinctNames_object_iff.2 ⟨hnames, ?_⟩) (namesDistinct_of_parts rfl rfl)
      rw [List.forall_mem_cons, List.forall_mem_cons, List.forall_mem_singleton]
      exact ⟨Json.distinctNames_of_parts .nil rfl, Json.distinctNames_of_parts .nil rfl,
        Json.distinctNames_of_parts .nil rfl⟩
  | _ =>
      cases h
      exact iff_of_true (Json.distinctNames_of_parts .nil rfl) (namesDistinct_of_parts rfl rfl)

theorem distinctNames_jsonItems_iff (items : List Value) {xs : List Json} (h : jsonItems items = .ok xs) :
    (∀ x ∈ xs, x.DistinctNames) ↔ ∀ v ∈ items, v.NamesDistinct := by
  cases items with
  | nil =>
      cases h
      exact iff_of_true (fun x hx => by cases hx) (fun v hv => by cases hv)
  | cons v vs =>
      rw [jsonItems] at h
      obtain ⟨x, hx, h⟩ := bind_eq_ok_iff.1 h
      obtain ⟨xs, hxs, h⟩ := bind_eq_ok_iff.1 h
      cases h
      rw [List.forall_mem_cons, List.forall_mem_cons, distinctNames_iff_namesDistinct v hx,
        distinctNames_jsonItems_iff vs hxs]

theorem distinctNames_jsonEntries_iff (entries : List (Value × Value)) {ms : List (String × Json)}
    (h : jsonEntries entries = .ok ms) :
    (∀ m ∈ ms, m.2.DistinctNames) ↔
      ∀ part ∈ entries.map Prod.fst ++ entries.map Prod.snd, part.NamesDistinct := by
  rw [forall_mem_pairs_iff]
  cases entries with
  | nil =>
      cases h
      exact iff_of_true (fun m hm => by cases hm) (fun p hp => by cases hp)
  | cons p ps =>
      obtain ⟨k, v⟩ := p
      rw [jsonEntries] at h
      obtain ⟨name, hname, h⟩ := bind_eq_ok_iff.1 h
      obtain ⟨x, hx, h⟩ := bind_eq_ok_iff.1 h
      obtain ⟨xs, hxs, h⟩ := bind_eq_ok_iff.1 h
      cases h
      rw [List.forall_mem_cons, List.forall_mem_cons, distinctNames_jsonEntries_iff ps hxs,
        forall_mem_pairs_iff]
      show x.DistinctNames ∧ _ ↔ (k.NamesDistinct ∧ v.NamesDistinct) ∧ _
      rw [distinctNames_iff_namesDistinct v hx, and_iff_right (namesDistinct_of_memberName hname)]

theorem distinctNames_jsonProperties_iff (properties : List (String × Value)) {ms : List (String × Json)}
    (h : jsonProperties properties = .ok ms) :
    (∀ m ∈ ms, m.2.DistinctNames) ↔ ∀ part ∈ properties.map Prod.snd, part.NamesDistinct := by
  cases properties with
  | nil =>
      cases h
      exact iff_of_true (fun m hm => by cases hm) (fun p hp => by cases hp)
  | cons p ps =>
      obtain ⟨name, v⟩ := p
      rw [jsonProperties] at h
      obtain ⟨x, hx, h⟩ := bind_eq_ok_iff.1 h
      obtain ⟨xs, hxs, h⟩ := bind_eq_ok_iff.1 h
      cases h
      rw [List.map_cons, List.forall_mem_cons, List.forall_mem_cons,
        distinctNames_jsonProperties_iff ps hxs, distinctNames_iff_namesDistinct v hx]

theorem distinctNames_jsonElements_iff {index : Nat} (elements : List Value) {ms : List (String × Json)}
    (h : jsonElements index elements = .ok ms) :
    (∀ m ∈ ms, m.2.DistinctNames) ↔ ∀ v ∈ elements, v.NamesDistinct := by
  cases elements with
  | nil =>
      cases h
      exact iff_of_true (fun m hm => by cases hm) (fun v hv => by cases hv)
  | cons v vs =>
      rw [jsonElements] at h
      obtain ⟨x, hx, h⟩ := bind_eq_ok_iff.1 h
      obtain ⟨xs, hxs, h⟩ := bind_eq_ok_iff.1 h
      cases h
      rw [List.forall_mem_cons, List.forall_mem_cons, distinctNames_jsonElements_iff vs hxs,
        distinctNames_iff_namesDistinct v hx]

end

/-- Each map and each object in a value, at any depth, has each key and each property once. -/
def KeysDistinct (v : Value) : Prop := Throughout parts KeysOnce v

/-- A value whose keys are distinct renders to a document that repeats no name, at any depth, exactly if
nowhere in the value two members of one map or open object clash. -/
theorem distinctNames_toJson_iff {v : Value} {x : Json} (hkeys : v.KeysDistinct)
    (hjson : v.toJson = .ok x) : x.DistinctNames ↔ Throughout parts ClashFree v := by
  have hnames : v.KeysNameMembers := (succeeds_toJson_iff v).1 ⟨x, hjson⟩
  have hboth : Throughout parts (fun w => w.KeysOnce ∧ ∀ k ∈ w.keys, k.NamesMember) v :=
    fun w hw => ⟨hkeys w hw, hnames w hw⟩
  rw [distinctNames_iff_namesDistinct v hjson]
  exact throughout_congr (fun w hw => namesOnce_iff_clashFree hw.1 hw.2) hboth

theorem keysDistinct_of_parts {v : Value} (hkeys : v.KeysOnce) (hparts : ∀ part ∈ v.parts, part.KeysDistinct) :
    v.KeysDistinct :=
  throughout_iff.2 ⟨hkeys, hparts⟩

theorem keysDistinct_bool (b : Bool) : (bool b).KeysDistinct :=
  keysDistinct_of_parts trivial fun part hpart => by cases hpart

/-- A text key and an integer key of the same digits, in a map in an open object. -/
theorem distinctNames_toJson_nested :
    let v := dynamic [("a", map [(string "1", bool true), (int 1, bool false)])] [] []
    let x := Json.object [("a", .object [("1", .bool true), ("1", .bool false)])]
    v.KeysDistinct ∧ v.toJson = .ok x ∧ (x.DistinctNames ↔ Throughout parts ClashFree v) := by
  intro v x
  have hmap : (map [(string "1", bool true), (int 1, bool false)]).KeysDistinct := by
    refine keysDistinct_of_parts (List.pairwise_pair.2 (by simp [Value.equal])) ?_
    rintro part (_ | ⟨_, _ | ⟨_, _ | ⟨_, _ | ⟨_, ⟨⟩⟩⟩⟩⟩)
    · exact keysDistinct_of_parts trivial fun part hpart => by cases hpart
    · exact keysDistinct_of_parts trivial fun part hpart => by cases hpart
    · exact keysDistinct_bool true
    · exact keysDistinct_bool false
  have hkeys : v.KeysDistinct := by
    refine keysDistinct_of_parts ⟨List.pairwise_singleton _ _, .nil⟩ ?_
    rintro part (_ | ⟨_, ⟨⟩⟩)
    exact hmap
  exact ⟨hkeys, rfl, distinctNames_toJson_iff hkeys rfl⟩

/-- A property may be named like the index of an element, and then the document repeats the name. -/
theorem property_repeats_index :
    ¬ ∀ (v : Value) (x : Json), v.KeysDistinct → v.toJson = .ok x → x.DistinctNames := by
  intro h
  have hkeys : (dynamic [("0", bool true)] [] [bool false]).KeysDistinct := by
    refine keysDistinct_of_parts ⟨List.pairwise_singleton _ _, .nil⟩ ?_
    rintro part (_ | ⟨_, _ | ⟨_, ⟨⟩⟩⟩)
    · exact keysDistinct_bool true
    · exact keysDistinct_bool false
  have hdistinct := h _ (.object [("0", .bool true), ("0", .bool false)]) hkeys rfl
  have hnodup : ["0", "0"].Nodup := (Json.distinctNames_object_iff.1 hdistinct).1
  exact absurd hnodup (by decide)

end Value

end PklHost
