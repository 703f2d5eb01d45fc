import Mathlib.Data.List.Nodup
import PklHost.Proofs.Message.Normal
import PklHost.Proofs.Parts

/-!
# The shape of the records that are written

A server does not take a field that is nil for one that is absent, as the readers here do, and which of two
fields of one name it takes is its own affair.  So neither is ever written: no item of a record is nil, at any
depth, and no map in it has a key twice (`Clean`).  A field that may be absent has its name in the record
exactly if it is there (`Presents`).

Both come from the layouts of the messages.  What a layout contains is clean if its contents are
(`Layout.allClean`), and a layout knows which of its fields are there (`Layout.presents`).  The one
induction is on the dependencies of a project (`Dependency.allClean_toItem`).
-/

namespace PklHost

open MessagePack (Item)

theorem Ordered.Ascending.nodup {α : Type} {l : List (String × α)} (h : Ascending l) :
    (l.map Prod.fst).Nodup := by
  refine List.pairwise_map.2 (h.imp fun hlt heq => ?_)
  rw [heq] at hlt
  exact String.lt_irrefl _ hlt

namespace Message

/-! ## Items without nil and without a key twice -/

/-- An item that is not nil and, if it is a map, has no key twice. -/
def Clean : Item → Prop
  | .nil => False
  | .map pairs => (pairs.map Prod.fst).Nodup
  | _ => True

/-- An item is clean at every depth. -/
abbrev AllClean (x : Item) : Prop := Throughout Item.parts Clean x

@[simp] theorem allClean_text (s : String) : AllClean (.text s) :=
  throughout_iff.2 ⟨trivial, fun _ h => (List.not_mem_nil h).elim⟩

@[simp] theorem allClean_bool (b : Bool) : AllClean (.bool b) :=
  throughout_iff.2 ⟨trivial, fun _ h => (List.not_mem_nil h).elim⟩

@[simp] theorem allClean_bin (octets : Bytes) : AllClean (.bin octets) :=
  throughout_iff.2 ⟨trivial, fun _ h => (List.not_mem_nil h).elim⟩

@[simp] theorem allClean_int (n : MessagePack.WireInt) : AllClean (.int n) :=
  throughout_iff.2 ⟨trivial, fun _ h => (List.not_mem_nil h).elim⟩

@[simp] theorem allClean_ofInt64 (n : Int64) : AllClean (.ofInt64 n) :=
  allClean_int _

theorem allClean_array_iff {xs : List Item} : AllClean (.array xs) ↔ ∀ x ∈ xs, AllClean x := by
  rw [AllClean, throughout_iff]
  exact and_iff_right trivial

theorem allClean_map_iff {ps : List (Item × Item)} :
    AllClean (.map ps) ↔ (ps.map Prod.fst).Nodup ∧ ∀ p ∈ ps, AllClean p.1 ∧ AllClean p.2 := by
  rw [AllClean, throughout_iff]
  refine and_congr_right fun _ => ?_
  simp only [Item.parts, List.forall_mem_append, List.forall_mem_map]
  exact ⟨fun h p hp => ⟨h.1 p hp, h.2 p hp⟩, fun h => ⟨fun p hp => (h p hp).1, fun p hp => (h p hp).2⟩⟩

theorem allClean_map_array {α : Type} {write : α → Item} (h : ∀ x, AllClean (write x)) (xs : List α) :
    AllClean (.array (xs.map write)) :=
  allClean_array_iff.2 (List.forall_mem_map.2 fun x _ => h x)

/-- A map from names that differ. -/
theorem allClean_named {α : Type} {write : α → Item} {l : List (String × α)}
    (hnames : (l.map Prod.fst).Nodup) (h : ∀ p ∈ l, AllClean (write p.2)) :
    AllClean (.map (l.map fun p => (.text p.1, write p.2))) := by
  refine allClean_map_iff.2 ⟨?_, List.forall_mem_map.2 fun p hp => ⟨allClean_text _, h p hp⟩⟩
  have hkeys : (l.map fun p => (Item.text p.1, write p.2)).map Prod.fst =
      (l.map Prod.fst).map Item.text := by simp
  rw [hkeys]
  exact hnames.map fun _ _ h => Item.text.inj h

theorem allClean_textsItem (texts : List String) : AllClean (textsItem texts) :=
  allClean_map_array allClean_text texts

theorem allClean_textMapItem (d : Dict String) : AllClean (textMapItem d) :=
  allClean_named d.ascending.nodup fun _ _ => allClean_text _

/-! ## Which fields are there -/

/-- The keys of a map are the names of the fields that are there. -/
structure Presents (fields : List (String × Bool)) (pairs : List (Item × Item)) : Prop where
  present : ∀ field ∈ fields, .text field.1 ∈ pairs.map Prod.fst ↔ field.2 = true
  only : ∀ k ∈ pairs.map Prod.fst, ∃ field ∈ fields, k = .text field.1

namespace Layout

variable {layout : Layout} {pairs : List (Item × Item)}

theorem mem_keys_iff {k : Item} :
    k ∈ layout.pairs.map Prod.fst ↔ ∃ field ∈ layout, field.2.isSome = true ∧ k = .text field.1 := by
  constructor
  · intro hk
    obtain ⟨p, hp, rfl⟩ := List.mem_map.1 hk
    obtain ⟨⟨name, v⟩, hfield, hput⟩ := List.mem_flatMap.1 hp
    cases v with
    | none => cases hput
    | some v =>
        obtain rfl := List.mem_singleton.1 hput
        exact ⟨_, hfield, rfl, rfl⟩
  · rintro ⟨⟨name, v⟩, hfield, hsome, rfl⟩
    obtain ⟨v, rfl⟩ := Option.isSome_iff_exists.1 hsome
    exact List.mem_map.2 ⟨(.text name, v), List.mem_flatMap.2 ⟨_, hfield, List.mem_singleton_self _⟩, rfl⟩

theorem nodup_keys (hdistinct : (layout.map Prod.fst).Nodup) : (layout.pairs.map Prod.fst).Nodup := by
  induction layout with
  | nil => exact .nil
  | cons field rest ih =>
      obtain ⟨name, v⟩ := field
      obtain ⟨hname, hrest⟩ := List.nodup_cons.1 hdistinct
      rw [Layout.pairs_cons, List.map_append]
      cases v with
      | none => exact ih hrest
      | some v =>
          refine List.nodup_cons.2 ⟨fun hmem => ?_, ih hrest⟩
          obtain ⟨⟨k, w⟩, hp, rfl⟩ := List.mem_map.1 hmem
          exact hname (Layout.mem_names hp)

/-- A layout knows which of its fields are there. -/
theorem presents (hdistinct : (layout.map Prod.fst).Nodup) (hpairs : pairs.Perm layout.pairs) :
    Presents (layout.map fun field => (field.1, field.2.isSome)) pairs where
  present := by
    refine List.forall_mem_map.2 fun field hfield => ?_
    rw [(hpairs.map Prod.fst).mem_iff, mem_keys_iff]
    constructor
    · rintro ⟨other, hother, hsome, hname⟩
      -- no two fields have one name
      obtain rfl : field = other :=
        List.inj_on_of_nodup_map hdistinct hfield hother (Item.text.inj hname)
      exact hsome
    · exact fun hsome => ⟨field, hfield, hsome, rfl⟩
  only k hk := by
    obtain ⟨field, hfield, -, rfl⟩ := mem_keys_iff.1 ((hpairs.map Prod.fst).mem_iff.1 hk)
    exact ⟨_, List.mem_map_of_mem hfield, rfl⟩

/-- Fields with clean contents make a clean map. -/
theorem allClean (hdistinct : (layout.map Prod.fst).Nodup)
    (hclean : ∀ field ∈ layout, ∀ v ∈ field.2, AllClean v) (hpairs : pairs.Perm layout.pairs) :
    AllClean (.map pairs) := by
  refine allClean_map_iff.2 ⟨(hpairs.map Prod.fst).nodup_iff.2 (nodup_keys hdistinct), fun p hp => ?_⟩
  obtain ⟨⟨name, v⟩, hfield, hput⟩ := List.mem_flatMap.1 (hpairs.mem_iff.1 hp)
  cases v with
  | none => cases hput
  | some v =>
      obtain rfl := List.mem_singleton.1 hput
      exact ⟨allClean_text name, hclean _ hfield v rfl⟩

end Layout

/-! ## Dependencies -/

namespace Dependency

/-- The dependencies of a project or of a dependency. -/
def parts : Dependency → List Dependency
  | .mk _ _ _ _ dependencies => (dependencies.getD []).map Prod.snd

/-- The fields of a description, and which of them are there. -/
def fields : Dependency → List (String × Bool)
  | .mk _ packageUri projectFileUri checksum dependencies =>
    [("type", true), ("checksums", checksum.isSome), ("dependencies", dependencies.isSome),
      ("packageUri", packageUri.isSome), ("projectFileUri", projectFileUri.isSome)]

theorem toPairs_eq_map (dependencies : List (String × Dependency)) :
    toPairs dependencies = dependencies.map fun p => (.text p.1, p.2.toItem) := by
  induction dependencies with
  | nil => rfl
  | cons p rest ih => rw [toPairs, ih, List.map_cons]

theorem toItem_mk (kind : DependencyKind) (packageUri projectFileUri checksum : Option String)
    (dependencies : Option (List (String × Dependency))) :
    (mk kind packageUri projectFileUri checksum dependencies).toItem =
      fieldsItem kind packageUri projectFileUri checksum
        (dependencies.map fun ds => .map (ds.map fun p => (.text p.1, p.2.toItem))) := by
  cases dependencies with
  | none => rfl
  | some ds => rw [toItem, toPairs_eq_map, Option.map_some]

theorem presents_toItem (d : Dependency) : ∃ pairs, d.toItem = .map pairs ∧ Presents d.fields pairs := by
  obtain ⟨kind, packageUri, projectFileUri, checksum, dependencies⟩ := d
  obtain ⟨pairs, hpairs, hholds⟩ := fieldsItem_eq kind packageUri projectFileUri checksum
    (dependencies.map fun ds => .map (ds.map fun p => (.text p.1, p.2.toItem)))
  have hpresents := Layout.presents hholds.distinct hholds.pairs
  exact ⟨pairs, by rw [toItem_mk, hpairs], by simpa [layout, tailLayout, fields] using hpresents⟩

theorem allClean_fieldsItem (kind : DependencyKind) (packageUri projectFileUri checksum : Option String)
    {dependencies : Option Item} (h : ∀ v ∈ dependencies, AllClean v) :
    AllClean (fieldsItem kind packageUri projectFileUri checksum dependencies) := by
  obtain ⟨pairs, hpairs, hholds⟩ := fieldsItem_eq kind packageUri projectFileUri checksum dependencies
  rw [hpairs]
  refine Layout.allClean hholds.distinct ?_ hholds.pairs
  simpa [layout, tailLayout, put, allClean_map_iff] using h

mutual

theorem allClean_toItem : (d : Dependency) → d.NamesAscend → AllClean d.toItem
  | .mk kind packageUri projectFileUri checksum none, _ => by
      rw [toItem]
      exact allClean_fieldsItem kind packageUri projectFileUri checksum fun _ h => by cases h
  | .mk kind packageUri projectFileUri checksum (some dependencies), ⟨hascending, hnames⟩ => by
      rw [toItem, toPairs_eq_map]
      refine allClean_fieldsItem kind packageUri projectFileUri checksum fun v hv => ?_
      obtain rfl := Option.some.inj hv
      exact allClean_named hascending.nodup (allClean_toItems dependencies hnames)

theorem allClean_toItems : (dependencies : List (String × Dependency)) →
    NamesAscendIn dependencies → ∀ p ∈ dependencies, AllClean p.2.toItem
  | [], _ => fun _ h => (List.not_mem_nil h).elim
  | (_, d) :: rest, ⟨hd, hrest⟩ =>
      List.forall_mem_cons.2 ⟨allClean_toItem d hd, allClean_toItems rest hrest⟩

end

/-- What stands in the item of a dependency stands in the item of whatever has that dependency. -/
theorem occurs_of_part {d part : Dependency} {x : Item} (hpart : part ∈ d.parts)
    (h : Occurs Item.parts x part.toItem) : Occurs Item.parts x d.toItem := by
  obtain ⟨kind, packageUri, projectFileUri, checksum, dependencies⟩ := d
  cases dependencies with
  | none => cases hpart
  | some ds =>
      obtain ⟨p, hp, rfl⟩ := List.mem_map.1 hpart
      have hinner : Occurs Item.parts x (.map (ds.map fun p => (.text p.1, p.2.toItem))) :=
        .inside (List.mem_append_right _ (List.mem_map.2 ⟨_, List.mem_map_of_mem hp, rfl⟩)) h
      rw [toItem_mk]
      refine .inside (List.mem_append_right _ (List.mem_map.2 ⟨(.text "dependencies", _), ?_, rfl⟩)) hinner
      simp [put, put?]

theorem occurs_toItem {d project : Dependency} (h : Occurs parts d project) :
    Occurs Item.parts d.toItem project.toItem := by
  induction h with
  | here => exact .here
  | inside hpart _ ih => exact occurs_of_part hpart ih

end Dependency

/-! ## Messages -/

/-- A record of a kind with those of its fields that are there.  Nothing in it is nil, and no map in it has a
key twice. -/
structure Shaped (item : Item) (kind : Kind) (fields : List (String × Bool)) : Prop where
  record : ∃ pairs, item = .array [.ofUInt64 kind.code, .map pairs] ∧ Presents fields pairs
  noNil : Throughout Item.parts (fun x => x ≠ .nil) item
  keysDiffer : ∀ pairs, Occurs Item.parts (.map pairs) item → (pairs.map Prod.fst).Nodup

theorem shaped_of_layout (kind : Kind) {layout : Layout} (hdistinct : (layout.map Prod.fst).Nodup)
    (hclean : ∀ field ∈ layout, ∀ v ∈ field.2, AllClean v) :
    Shaped (recordItem kind layout.pairs) kind (layout.map fun field => (field.1, field.2.isSome)) := by
  have hitem : AllClean (recordItem kind layout.pairs) :=
    allClean_array_iff.2 <| List.forall_mem_cons.2 ⟨allClean_int _,
      List.forall_mem_singleton.2 (Layout.allClean hdistinct hclean (.refl _))⟩
  refine ⟨⟨_, rfl, Layout.presents hdistinct (.refl _)⟩, ?_, fun pairs hpairs => hitem _ hpairs⟩
  rintro x hx rfl
  exact hitem _ hx

/-- The fields of a request to create an evaluator, and which of them are there. -/
def CreateEvaluator.fields (m : CreateEvaluator) : List (String × Bool) :=
  [("requestId", true), ("clientResourceReaders", m.clientResourceReaders.isSome),
    ("clientModuleReaders", m.clientModuleReaders.isSome), ("modulePaths", m.modulePaths.isSome),
    ("env", m.env.isSome), ("properties", m.properties.isSome), ("outputFormat", m.outputFormat.isSome),
    ("allowedModules", m.allowedModules.isSome), ("allowedResources", m.allowedResources.isSome),
    ("rootDir", m.rootDir.isSome), ("cacheDir", m.cacheDir.isSome), ("project", m.project.isSome)]

def Evaluate.fields (m : Evaluate) : List (String × Bool) :=
  [("requestId", true), ("evaluatorId", true), ("moduleUri", true), ("moduleText", m.moduleText.isSome),
    ("expr", m.expr.isSome)]

/-- A reply has an error text exactly if it has no contents. -/
def Reply.fields {α : Type} (contents : String) (r : Reply α) : List (String × Bool) :=
  [("requestId", true), ("evaluatorId", true), ("error", !r.result.isOk), (contents, r.result.isOk)]

namespace Outgoing

def fields : Outgoing → List (String × Bool)
  | .createEvaluator m => m.fields
  | .closeEvaluator _ => [("evaluatorId", true)]
  | .evaluate m => m.fields
  | .readResourceResponse r => r.fields "contents"
  | .readModuleResponse r => r.fields "contents"
  | .listResourcesResponse r | .listModulesResponse r => r.fields "pathElements"

/-- The project that a message describes. -/
def project? : Outgoing → Option Dependency
  | .createEvaluator m => m.project
  | .closeEvaluator _ | .evaluate _ | .readResourceResponse _ | .readModuleResponse _
  | .listResourcesResponse _ | .listModulesResponse _ => none

/-- The name under which a reply has its contents. -/
def contentsName? : Outgoing → Option String
  | .readResourceResponse _ | .readModuleResponse _ => some "contents"
  | .listResourcesResponse _ | .listModulesResponse _ => some "pathElements"
  | .createEvaluator _ | .closeEvaluator _ | .evaluate _ => none

/-- What is written of a message of a host. -/
structure WellShaped (m : Outgoing) : Prop where
  shaped : Shaped m.toItem m.kind m.fields
  /-- Every description in a project has those of its fields that are there. -/
  projects : ∀ project, m.project? = some project → ∀ d, Occurs Dependency.parts d project →
    ∃ pairs, d.toItem = .map pairs ∧ Occurs Item.parts (.map pairs) m.toItem ∧ Presents d.fields pairs
  /-- A reply has its contents or an error text, and not both. -/
  replies : ∀ contents, m.contentsName? = some contents →
    (.text contents ∈ m.pairs.map Prod.fst ↔ ¬ .text "error" ∈ m.pairs.map Prod.fst)

theorem fields_eq (m : Outgoing) : m.fields = m.layout.map fun field => (field.1, field.2.isSome) := by
  have hreply : ∀ {α : Type} (contents : String) (item : α → Item) (r : Reply α),
      r.fields contents = (r.layout contents item).map fun field => (field.1, field.2.isSome) := by
    intro α contents item r
    obtain ⟨requestId, evaluatorId, result⟩ := r
    cases result <;> rfl
  cases m with
  | createEvaluator m => simp [fields, layout, CreateEvaluator.fields, CreateEvaluator.layout]
  | closeEvaluator evaluatorId => rfl
  | evaluate m => simp [fields, layout, Evaluate.fields, Evaluate.layout]
  | readResourceResponse r | readModuleResponse r | listResourcesResponse r | listModulesResponse r =>
      exact hreply _ _ r

theorem layout_allClean (m : Outgoing) (h : m.NamesAscend) :
    ∀ field ∈ m.layout, ∀ v ∈ field.2, AllClean v := by
  have hreader (r : ReaderSpec) : AllClean r.toItem := by
    simp [ReaderSpec.toItem, put, allClean_map_iff]
  have hmoduleReader (r : ModuleReaderSpec) : AllClean r.toItem := by
    simp [ModuleReaderSpec.toItem, put, allClean_map_iff]
  have helement (e : PathElement) : AllClean e.toItem := by
    simp [PathElement.toItem, put, allClean_map_iff]
  cases m with
  | createEvaluator m =>
      have hproject : ∀ d, m.project = some d → AllClean d.toItem :=
        fun d hd => d.allClean_toItem (h d hd)
      simpa [layout, CreateEvaluator.layout, allClean_map_array hreader, allClean_map_array hmoduleReader,
        allClean_textsItem, allClean_textMapItem] using hproject
  | closeEvaluator evaluatorId => simp [layout]
  | evaluate m => simp [layout, Evaluate.layout]
  | readResourceResponse r | readModuleResponse r => simp [layout, Reply.layout]
  | listResourcesResponse r | listModulesResponse r =>
      simp [layout, Reply.layout, listingItem, allClean_map_array helement]

theorem shaped (m : Outgoing) (h : m.NamesAscend) : Shaped m.toItem m.kind m.fields := by
  rw [toItem, pairs_eq, fields_eq]
  exact shaped_of_layout m.kind m.nodup_layout (m.layout_allClean h)

theorem presents_pairs (m : Outgoing) : Presents m.fields m.pairs := by
  rw [pairs_eq, fields_eq]
  exact Layout.presents m.nodup_layout (.refl _)

theorem wellShaped (m : Outgoing) (h : m.NamesAscend) : m.WellShaped where
  shaped := m.shaped h
  projects project hproject d hd := by
    obtain ⟨pairs, hpairs, hpresents⟩ := d.presents_toItem
    refine ⟨pairs, hpairs, ?_, hpresents⟩
    cases m with
    | createEvaluator m =>
        have hmem : (.text "project", project.toItem) ∈ m.pairs := by
          simp [CreateEvaluator.pairs, put, put?, show m.project = some project from hproject]
        rw [← hpairs]
        refine .inside (List.mem_cons_of_mem _ List.mem_cons_self) (.inside ?_ (Dependency.occurs_toItem hd))
        exact List.mem_append_right _ (List.mem_map.2 ⟨_, hmem, rfl⟩)
    | _ => cases hproject
  replies contents hcontents := by
    have hreply : ∀ ok : Bool, ("error", !ok) ∈ m.fields → (contents, ok) ∈ m.fields →
        (.text contents ∈ m.pairs.map Prod.fst ↔ ¬ .text "error" ∈ m.pairs.map Prod.fst) := by
      intro ok herror hok
      rw [m.presents_pairs.present _ herror, m.presents_pairs.present _ hok]
      cases ok <;> simp
    cases m with
    | createEvaluator | closeEvaluator | evaluate => cases hcontents
    | readResourceResponse r | readModuleResponse r | listResourcesResponse r | listModulesResponse r =>
        obtain rfl := Option.some.inj hcontents
        exact hreply r.result.isOk (by simp [fields, Reply.fields]) (by simp [fields, Reply.fields])

end Outgoing

namespace Incoming

/-- The fields of a message of a server, and which of them are there. -/
def fields : Incoming → List (String × Bool)
  | .createEvaluatorResponse m =>
    [("requestId", true), ("evaluatorId", m.evaluatorId.isSome), ("error", m.error.isSome)]
  | .evaluateResponse m =>
    [("requestId", true), ("evaluatorId", true), ("result", m.result.isSome), ("error", m.error.isSome)]
  | .log _ => [("evaluatorId", true), ("level", true), ("message", true), ("frameUri", true)]
  | .readResource _ | .readModule _ | .listResources _ | .listModules _ =>
    [("requestId", true), ("evaluatorId", true), ("uri", true)]

theorem fields_eq (m : Incoming) : m.fields = m.layout.map fun field => (field.1, field.2.isSome) := by
  cases m <;>
    simp [fields, layout, CreateOutcome.layout, EvaluateOutcome.layout, LogLine.layout, ReadRequest.layout]

theorem shaped (m : Incoming) : Shaped m.toItem m.kind m.fields := by
  rw [toItem, pairs_eq, fields_eq]
  refine shaped_of_layout m.kind m.nodup_layout ?_
  cases m <;>
    simp [layout, CreateOutcome.layout, EvaluateOutcome.layout, LogLine.layout, ReadRequest.layout]

end Incoming

/-- Every message is written as a record of two items in which nothing is nil and no map has a key twice, at
any depth.  Of the fields that may be absent those are named that are there, in a project as well, and a
reply has one of its contents and its error text.  The dependencies of a project are taken to be in the order
of their names, as a project has them. -/
theorem records_shaped :
    (∀ m : Outgoing, m.NamesAscend → m.WellShaped) ∧ ∀ m : Incoming, Shaped m.toItem m.kind m.fields :=
  ⟨Outgoing.wellShaped, Incoming.shaped⟩

/-- A project with a local dependency, which has no dependencies, and a remote one. -/
theorem records_shaped_project :
    let outer : Dependency := .mk .local none (some "") none (some [])
    let remote : Dependency := .mk .remote (some "package://b") none (some "00") none
    let project : Dependency := .mk .local none none none (some [("a", outer), ("b", remote)])
    let m : Outgoing := .createEvaluator { requestId := 1, env := some .empty, project }
    m.NamesAscend ∧ m.WellShaped := by
  intro outer remote project m
  have hnames : m.NamesAscend := by
    rintro _ hproject
    obtain rfl := Option.some.inj hproject
    exact ⟨List.pairwise_pair.2 (by decide), ⟨List.Pairwise.nil, trivial⟩, trivial, trivial⟩
  exact ⟨hnames, records_shaped.1 m hnames⟩

end Message

end PklHost
