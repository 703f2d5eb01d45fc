import PklHost.Evaluator.Options
import PklHost.Proofs.Message.Agreement
import PklHost.Proofs.Message.Fields
import PklHost.Proofs.MessagePack.Limits

/-!
# Messages of the host come back

A message that a host writes is read back as the same message (`Outgoing.ofItem_toItem`), whatever is left
out of it and however deep the dependencies of its project go.  Its octets start a buffer like any other
record, so that what follows them is left and messages that are written one after another are read one
after another (`Outgoing.readBack`).

A message is known to its reader by a layout: its fields in the order in which they are taken, which for
most messages is the order in which they are written.  The dependencies of a project are held in the order
of their names.  A reader puts them in that order, and all that a host writes has them so
(`EvaluatorOptions.namesAscend_of_createRequest`).
-/

namespace PklHost.Message

open MessagePack (AllTextItems AllTextPairs Item allTextItems_iff allTextPairs_iff depthLimit)

/-! ## Records within messages -/

/-- A record whose fields stand in the order in which they are taken. -/
theorem ofMap_pairs {α : Type} {read : FieldReader α} {layout rest : Layout} {x : α}
    (record : RecordName) (h : Consumes read layout rest x)
    (hdistinct : (layout.map Prod.fst).Nodup) :
    FieldReader.ofMap record read (.map layout.pairs) = .ok x :=
  h.readPairs rfl hdistinct

theorem ReaderSpec.ofMap_toItem (r : ReaderSpec) :
    FieldReader.ofMap .readerSpec ReaderSpec.read r.toItem = .ok r :=
  @ofMap_pairs _ _ [("scheme", some (.text r.scheme)),
      ("hasHierarchicalUris", some (.bool r.hierarchical)),
      ("isGlobbable", some (.bool r.globbable))] [] _ _
    (.bind (consumes_text _) <| .bind (consumes_bool _) <| .bind (consumes_bool _) <| .pure _ _)
    (by simp)

theorem ModuleReaderSpec.ofMap_toItem (r : ModuleReaderSpec) :
    FieldReader.ofMap .moduleReaderSpec ModuleReaderSpec.read r.toItem = .ok r :=
  @ofMap_pairs _ _ [("scheme", some (.text r.scheme)),
      ("hasHierarchicalUris", some (.bool r.hierarchical)),
      ("isGlobbable", some (.bool r.globbable)), ("isLocal", some (.bool r.isLocal))] [] _ _
    (.bind (consumes_text _) <| .bind (consumes_bool _) <| .bind (consumes_bool _) <|
      .bind (consumes_bool _) <| .pure _ _)
    (by simp)

theorem PathElement.ofMap_toItem (e : PathElement) :
    FieldReader.ofMap .pathElement PathElement.read e.toItem = .ok e :=
  @ofMap_pairs _ _ [("name", some (.text e.name)), ("isDirectory", some (.bool e.isDirectory))] [] _ _
    (.bind (consumes_text _) <| .bind (consumes_bool _) <| .pure _ _) (by simp)

/-! ## Dependencies -/

theorem DependencyKind.ofText?_text (kind : DependencyKind) : ofText? kind.text = some kind := by
  cases kind <;> rfl

namespace Dependency

mutual

/-- The dependencies on every level are in the order of their names, as those of a project are. -/
def NamesAscend : Dependency → Prop
  | .mk _ _ _ _ none => True
  | .mk _ _ _ _ (some dependencies) =>
    Ordered.Ascending dependencies ∧ NamesAscendIn dependencies

def NamesAscendIn : List (String × Dependency) → Prop
  | [] => True
  | (_, d) :: rest => d.NamesAscend ∧ NamesAscendIn rest

end

section

variable (kind : DependencyKind) (packageUri projectFileUri checksum : Option String)

/-- What is left of a description once its head is read. -/
def tailLayout : Layout :=
  [("packageUri", packageUri.map .text), ("projectFileUri", projectFileUri.map .text)]

/-- The fields of a description in the order in which they are taken. -/
def layout (dependencies : Option Item) : Layout :=
  [("type", some (.text kind.text)),
    ("checksums", checksum.map fun sum => .map (put "sha256" (.text sum))),
    ("dependencies", dependencies)] ++ tailLayout packageUri projectFileUri

/-- The fields are written in another order than they are taken in. -/
theorem fieldsItem_eq (dependencies : Option Item) : ∃ pairs,
    fieldsItem kind packageUri projectFileUri checksum dependencies = .map pairs ∧
      Holds (layout kind packageUri projectFileUri checksum dependencies) ⟨.dependency, pairs⟩ := by
  refine ⟨_, rfl, ?_, by simp [layout, tailLayout]⟩
  simp only [layout, tailLayout, Layout.pairs, List.cons_append, List.nil_append, List.flatMap_cons,
    List.flatMap_nil, List.append_nil, List.append_assoc]
  -- the two addresses, written before and after the kind, are taken last
  have haddresses := @List.perm_append_comm _
    (put? "packageUri" (packageUri.map .text) ++ put? "projectFileUri" (projectFileUri.map .text))
    (put? "checksums" (checksum.map fun sum => .map (put "sha256" (.text sum))) ++
      put? "dependencies" dependencies)
  simp only [List.append_assoc] at haddresses
  exact (List.perm_append_comm_assoc _ _ _).trans (haddresses.append_left _)

theorem checksumOf_map (sum : String) : checksumOf (.map (put "sha256" (.text sum))) = .ok sum :=
  @ofMap_pairs _ _ [("sha256", some (.text sum))] [] _ _ (consumes_text _) (by simp)

theorem consumes_readHead {dependencies : Option Item} (hnil : dependencies ≠ some .nil) :
    Consumes readHead (layout kind packageUri projectFileUri checksum dependencies)
      (tailLayout packageUri projectFileUri) ⟨kind, checksum, dependencies⟩ := by
  have hkind : ∀ rest, Consumes readKind (("type", some (.text kind.text)) :: rest) rest kind := by
    intro rest
    refine .bind (consumes_text _) ?_
    rw [DependencyKind.ofText?_text]
    exact .pure kind rest
  have hchecksum : ∀ rest, Consumes readChecksum
      (("checksums", checksum.map fun sum => .map (put "sha256" (.text sum))) :: rest) rest checksum := by
    intro rest
    refine consumes_optional (fun _ _ => Item.noConfusion) fun sum _ => ?_
    rw [checksumOf_map]
    rfl
  exact .bind (hkind _) <| .bind (hchecksum _) <| .bind (consumes_take hnil) <| .pure _ _

theorem consumes_readTail (head : Head) (ds : Option (List (String × Dependency))) :
    Consumes (readTail head ds) (tailLayout packageUri projectFileUri) []
      (.mk head.kind packageUri projectFileUri head.checksum ds) :=
  .bind (consumes_text? _) <| .bind (consumes_text? _) <| .pure _ _

end

theorem ofItem_of_head {pairs : List (Item × Item)} {head : Head} {fields : Fields}
    (hhead : readHead ⟨.dependency, pairs⟩ = .ok (head, fields)) :
    (head.dependencies = none → ofItem (.map pairs) = (readTail head none).run' fields) ∧
      ∀ inner dependencies, head.dependencies = some (.map inner) →
        ofPairs inner = .ok dependencies →
        ofItem (.map pairs) = (readTail head (some (Ordered.ofPairs dependencies))).run' fields := by
  have hitem : ofItem (.map pairs) = ofHead head fields := by rw [ofItem_map, hhead]
  constructor
  · intro hnone
    rw [hitem, ofHead, hnone]
  · intro inner dependencies hinner hdependencies
    rw [hitem, ofHead, hinner]
    dsimp only
    rw [hdependencies]

mutual

/-- A description comes back. -/
theorem ofItem_toItem : (d : Dependency) → d.NamesAscend → ofItem d.toItem = .ok d
  | .mk kind packageUri projectFileUri checksum none, _ => by
      obtain ⟨pairs, hpairs, hholds⟩ :=
        fieldsItem_eq kind packageUri projectFileUri checksum none
      obtain ⟨fields, hhead, hfields⟩ :=
        consumes_readHead kind packageUri projectFileUri checksum (by simp) _ hholds
      rw [toItem, hpairs, (ofItem_of_head hhead).1 rfl]
      exact (consumes_readTail packageUri projectFileUri _ none).run' hfields
  | .mk kind packageUri projectFileUri checksum (some dependencies), ⟨hascending, hnames⟩ => by
      obtain ⟨pairs, hpairs, hholds⟩ := fieldsItem_eq kind packageUri projectFileUri checksum
        (some (.map (toPairs dependencies)))
      obtain ⟨fields, hhead, hfields⟩ :=
        consumes_readHead kind packageUri projectFileUri checksum (by simp) _ hholds
      have hinner := ofPairs_toPairs dependencies hnames
      rw [toItem, hpairs, (ofItem_of_head hhead).2 _ _ rfl hinner,
        Ordered.ofPairs_of_ascending hascending]
      exact (consumes_readTail packageUri projectFileUri _ (some dependencies)).run' hfields

theorem ofPairs_toPairs : (dependencies : List (String × Dependency)) →
    NamesAscendIn dependencies → ofPairs (toPairs dependencies) = .ok dependencies
  | [], _ => by rw [toPairs, ofPairs]
  | (name, d) :: rest, ⟨hd, hrest⟩ => by
      rw [toPairs, ofPairs, ofItem_toItem d hd]
      dsimp only
      rw [ofPairs_toPairs rest hrest]

end

end Dependency

/-! ## Messages -/

/-- The dependencies of the project that a message describes, if it does, are in the order of their
names. -/
def Outgoing.NamesAscend : Outgoing → Prop
  | .createEvaluator m => ∀ project ∈ m.project, project.NamesAscend
  | _ => True

def CreateEvaluator.layout (m : CreateEvaluator) : Layout :=
  [("requestId", some (.ofInt64 m.requestId)),
    ("clientResourceReaders", m.clientResourceReaders.map fun rs => .array (rs.map ReaderSpec.toItem)),
    ("clientModuleReaders", m.clientModuleReaders.map fun rs => .array (rs.map ModuleReaderSpec.toItem)),
    ("modulePaths", m.modulePaths.map textsItem), ("env", m.env.map textMapItem),
    ("properties", m.properties.map textMapItem), ("outputFormat", m.outputFormat.map .text),
    ("allowedModules", m.allowedModules.map textsItem),
    ("allowedResources", m.allowedResources.map textsItem), ("rootDir", m.rootDir.map .text),
    ("cacheDir", m.cacheDir.map .text), ("project", m.project.map Dependency.toItem)]

def Evaluate.layout (m : Evaluate) : Layout :=
  [("requestId", some (.ofInt64 m.requestId)), ("evaluatorId", some (.ofInt64 m.evaluatorId)),
    ("moduleUri", some (.text m.moduleUri)), ("moduleText", m.moduleText.map .text),
    ("expr", m.expr.map .text)]

/-- What a result is, without its error text. -/
def contentsOf {α : Type} : Except String α → Option α
  | .ok x => some x
  | .error _ => none

/-- What a result is, if it is an error text. -/
def errorOf {α : Type} : Except String α → Option String
  | .ok _ => none
  | .error e => some e

def Reply.layout {α : Type} (contents : String) (item : α → Item) (r : Reply α) : Layout :=
  [("requestId", some (.ofInt64 r.requestId)), ("evaluatorId", some (.ofInt64 r.evaluatorId)),
    ("error", (errorOf r.result).map .text), (contents, (contentsOf r.result).map item)]

/-- The fields of a message in the order in which they are taken. -/
def Outgoing.layout : Outgoing → Layout
  | .createEvaluator m => m.layout
  | .closeEvaluator evaluatorId => [("evaluatorId", some (.ofInt64 evaluatorId))]
  | .evaluate m => m.layout
  | .readResourceResponse r => r.layout "contents" .bin
  | .readModuleResponse r => r.layout "contents" .text
  | .listResourcesResponse r => r.layout "pathElements" listingItem
  | .listModulesResponse r => r.layout "pathElements" listingItem

theorem Reply.pairs_eq {α : Type} (contents : String) (item : α → Item) (r : Reply α) :
    r.pairs contents item = (r.layout contents item).pairs := by
  obtain ⟨requestId, evaluatorId, result⟩ := r
  cases result <;> rfl

/-- The fields are written in the order in which they are taken. -/
theorem Outgoing.pairs_eq (m : Outgoing) : m.pairs = m.layout.pairs := by
  cases m with
  | createEvaluator m =>
      simp [pairs, layout, CreateEvaluator.pairs, CreateEvaluator.layout, Layout.pairs, put?]
  | closeEvaluator evaluatorId => rfl
  | evaluate m => simp [pairs, layout, Evaluate.pairs, Evaluate.layout, Layout.pairs, put?, idPairs]
  | readResourceResponse r | readModuleResponse r | listResourcesResponse r
  | listModulesResponse r => exact r.pairs_eq _ _

theorem Outgoing.nodup_layout (m : Outgoing) : (m.layout.map Prod.fst).Nodup := by
  cases m <;> simp [layout, CreateEvaluator.layout, Evaluate.layout, Reply.layout]

/-! ### Reading -/

theorem Dependency.toItem_ne_nil (d : Dependency) : d.toItem ≠ .nil := by
  cases d with
  | mk kind packageUri projectFileUri checksum dependencies =>
      cases dependencies <;> exact Item.noConfusion

theorem CreateEvaluator.consumes_read (m : CreateEvaluator)
    (hproject : ∀ project ∈ m.project, project.NamesAscend) :
    Consumes CreateEvaluator.read m.layout [] m := by
  have hdependency : Consumes
      (FieldReader.optional "project" fun v => StateT.lift (Dependency.ofItem v))
      [("project", m.project.map Dependency.toItem)] [] m.project := by
    refine consumes_optional (fun d _ => d.toItem_ne_nil) fun d hd => ?_
    rw [d.ofItem_toItem (hproject d hd)]
    rfl
  exact .bind (consumes_int64 _) <| .bind (consumes_records? ReaderSpec.ofMap_toItem _) <|
    .bind (consumes_records? ModuleReaderSpec.ofMap_toItem _) <| .bind (consumes_texts? _) <|
    .bind (consumes_textMap? _) <| .bind (consumes_textMap? _) <| .bind (consumes_text? _) <|
    .bind (consumes_texts? _) <| .bind (consumes_texts? _) <| .bind (consumes_text? _) <|
    .bind (consumes_text? _) <| .bind hdependency <| .pure _ _

theorem Evaluate.consumes_read (m : Evaluate) : Consumes Evaluate.read m.layout [] m :=
  .bind (consumes_int64 _) <| .bind (consumes_int64 _) <| .bind (consumes_text _) <|
    .bind (consumes_text? _) <| .bind (consumes_text? _) <| .pure _ _

/-- A reply that has an error text is read without its contents. -/
theorem Reply.consumes_read {α : Type} {contents : String} {item : α → Item}
    {reader : FieldReader (Option α)} (empty : α)
    (hcontents : ∀ o, Consumes reader [(contents, o.map item)] [] o) (r : Reply α) :
    ∃ rest, Consumes (Reply.read reader empty) (r.layout contents item) rest r := by
  obtain ⟨requestId, evaluatorId, result⟩ := r
  cases result with
  | error e =>
      exact ⟨_, .bind (consumes_int64 _) <| .bind (consumes_int64 _) <|
        .bind (consumes_text? (some e)) <| .pure _ _⟩
  | ok x =>
      exact ⟨_, .bind (consumes_int64 _) <| .bind (consumes_int64 _) <| .bind (consumes_text? none) <|
        .bind (hcontents (some x)) <| .pure _ _⟩

theorem consumes_readListing (o : Option (List PathElement)) :
    Consumes readListing [("pathElements", o.map listingItem)] [] o :=
  consumes_records? PathElement.ofMap_toItem o

/-- The reader of a message's kind makes the message of its fields. -/
theorem Outgoing.consumes_reader (m : Outgoing) (h : m.NamesAscend) :
    ∃ reader rest, reader? m.kind = some reader ∧ Consumes reader m.layout rest m := by
  cases m with
  | createEvaluator m => exact ⟨_, _, rfl, (m.consumes_read h).map _⟩
  | closeEvaluator evaluatorId => exact ⟨_, _, rfl, (consumes_int64 evaluatorId).map _⟩
  | evaluate m => exact ⟨_, _, rfl, m.consumes_read.map _⟩
  | readResourceResponse r =>
      obtain ⟨rest, hread⟩ := r.consumes_read [] consumes_binary?
      exact ⟨_, rest, rfl, hread.map _⟩
  | readModuleResponse r =>
      obtain ⟨rest, hread⟩ := r.consumes_read "" consumes_text?
      exact ⟨_, rest, rfl, hread.map _⟩
  | listResourcesResponse r | listModulesResponse r =>
      obtain ⟨rest, hread⟩ := r.consumes_read [] consumes_readListing
      exact ⟨_, rest, rfl, hread.map _⟩

/-- A message comes back from its record. -/
theorem Outgoing.ofItem_toItem (m : Outgoing) (h : m.NamesAscend) : ofItem m.toItem = .ok m := by
  obtain ⟨reader, rest, hreader, hconsumes⟩ := m.consumes_reader h
  rw [ofItem, toItem, recordOf_recordItem]
  exact hconsumes.readKind hreader m.pairs_eq m.nodup_layout

/-! ### Writing -/

/-- What the fields of a layout contain has no string that is not text. -/
def Layout.AllText (layout : Layout) : Prop :=
  ∀ field ∈ layout, ∀ v ∈ field.2, v.AllText

theorem Layout.AllText.pairs {layout : Layout} (h : layout.AllText) : AllTextPairs layout.pairs := by
  rw [allTextPairs_iff]
  intro p hp
  obtain ⟨⟨name, v⟩, hmem, hput⟩ := List.mem_flatMap.1 hp
  cases v with
  | none => cases hput
  | some v =>
      obtain rfl := List.mem_singleton.1 hput
      exact ⟨trivial, h _ hmem v rfl⟩

theorem allTextItems_map {α : Type} {write : α → Item} (h : ∀ x, (write x).AllText) (xs : List α) :
    AllTextItems (xs.map write) :=
  allTextItems_iff.2 (List.forall_mem_map.2 fun x _ => h x)

theorem allText_textsItem (texts : List String) : (textsItem texts).AllText :=
  allTextItems_map (fun s => show (Item.text s).AllText from trivial) texts

theorem allText_textMapItem (d : Dict String) : (textMapItem d).AllText :=
  allTextPairs_iff.2 (List.forall_mem_map.2 fun _ _ => ⟨trivial, trivial⟩)

theorem ReaderSpec.allText (r : ReaderSpec) : r.toItem.AllText := by
  simp [toItem, put, Item.AllText, AllTextPairs]

theorem ModuleReaderSpec.allText (r : ModuleReaderSpec) : r.toItem.AllText := by
  simp [toItem, put, Item.AllText, AllTextPairs]

theorem PathElement.allText (e : PathElement) : e.toItem.AllText := by
  simp [toItem, put, Item.AllText, AllTextPairs]

namespace Dependency

theorem fieldsItem_allText (kind : DependencyKind)
    (packageUri projectFileUri checksum : Option String) {dependencies : Option Item}
    (h : ∀ v ∈ dependencies, v.AllText) :
    (fieldsItem kind packageUri projectFileUri checksum dependencies).AllText := by
  obtain ⟨pairs, hpairs, hholds⟩ :=
    fieldsItem_eq kind packageUri projectFileUri checksum dependencies
  have hlayout : (layout kind packageUri projectFileUri checksum dependencies).AllText := by
    simpa [layout, tailLayout, Layout.AllText, put, Item.AllText, AllTextPairs] using h
  rw [hpairs]
  exact allTextPairs_iff.2 fun p hp =>
    allTextPairs_iff.1 hlayout.pairs p (hholds.pairs.mem_iff.1 hp)

mutual

theorem toItem_allText : (d : Dependency) → d.toItem.AllText
  | .mk kind packageUri projectFileUri checksum none => by
      rw [toItem]
      exact fieldsItem_allText kind packageUri projectFileUri checksum fun _ h => by cases h
  | .mk kind packageUri projectFileUri checksum (some dependencies) => by
      rw [toItem]
      refine fieldsItem_allText kind packageUri projectFileUri checksum fun v hv => ?_
      obtain rfl := Option.some.inj hv
      exact toPairs_allText dependencies

theorem toPairs_allText : (dependencies : List (String × Dependency)) →
    AllTextPairs (toPairs dependencies)
  | [] => trivial
  | (_, d) :: rest => ⟨⟨trivial, d.toItem_allText⟩, toPairs_allText rest⟩

end

end Dependency

theorem Outgoing.layout_allText (m : Outgoing) : m.layout.AllText := by
  cases m with
  | createEvaluator m =>
      simp [layout, CreateEvaluator.layout, Layout.AllText, Item.ofInt64, Item.AllText,
        allTextItems_map ReaderSpec.allText, allTextItems_map ModuleReaderSpec.allText, allText_textsItem,
        allText_textMapItem, Dependency.toItem_allText]
  | closeEvaluator evaluatorId => simp [layout, Layout.AllText, Item.ofInt64, Item.AllText]
  | evaluate m => simp [layout, Evaluate.layout, Layout.AllText, Item.ofInt64, Item.AllText]
  | readResourceResponse r | readModuleResponse r =>
      simp [layout, Reply.layout, Layout.AllText, Item.ofInt64, Item.AllText]
  | listResourcesResponse r | listModulesResponse r =>
      simp [layout, Reply.layout, Layout.AllText, Item.ofInt64, Item.AllText, listingItem,
        allTextItems_map PathElement.allText]

/-! ## Octets -/

namespace Outgoing

/-- A message that can be written and read: 32 bits count its octets, a limit holds them, and the reader
goes as deep as the message does. -/
structure Within (limit : Nat) (m : Outgoing) : Prop where
  counts : m.encode.length < 0x100000000
  size : m.encode.length ≤ limit
  depth : m.toItem.depth ≤ depthLimit

theorem fits_encode {limit : Nat} {m : Outgoing} (h : m.Within limit) :
    Fits limit (m.toItem, m.encode) := by
  have hpairs := m.layout_allText.pairs
  rw [← pairs_eq] at hpairs
  have htext : m.toItem.AllText := ⟨trivial, hpairs, trivial⟩
  exact ⟨m.toItem.spelledBy_write (m.toItem.lengthsFit_of_write h.counts) htext, h.size, h.depth⟩

/-- The messages at the front of a buffer, read one after another until no record is whole or one cannot be
read, and the octets that are left then. -/
def readAll (limit : Nat) (buffer : Bytes) : List (Except FrameError Outgoing) × Bytes :=
  match _h : firstItem limit buffer with
  | .ok (.whole item rest) => (ofItem item :: (readAll limit rest).1, (readAll limit rest).2)
  | .ok (.needs _) | .error _ => ([], buffer)
termination_by buffer.length
decreasing_by all_goals exact length_lt_of_firstItem _h

theorem readAll_of_firstItem {limit : Nat} {buffer rest : Bytes} {item : Item}
    (h : firstItem limit buffer = .ok (.whole item rest)) :
    readAll limit buffer = (ofItem item :: (readAll limit rest).1, (readAll limit rest).2) := by
  rw [readAll]
  split
  · next item' rest' h' =>
      rw [h] at h'
      obtain ⟨rfl, rfl⟩ := FirstItem.whole.inj (Except.ok.inj h')
      rfl
  · next need h' =>
      rw [h] at h'
      cases h'
  · next e h' =>
      rw [h] at h'
      cases h'

/-- A written message is the first thing in the buffer that it starts, and what stands behind it is
left. -/
theorem firstItem_encode {limit : Nat} {m : Outgoing} (h : m.Within limit) (rest : Bytes) :
    firstItem limit (m.encode ++ rest) = .ok (.whole m.toItem rest) :=
  firstItem_of_fits (fits_encode h) rest

theorem readAll_encode {limit : Nat} {ms : List Outgoing} (hnames : ∀ m ∈ ms, m.NamesAscend)
    (hwithin : ∀ m ∈ ms, m.Within limit) (rest : Bytes) :
    readAll limit ((ms.map encode).flatten ++ rest) =
      (ms.map .ok ++ (readAll limit rest).1, (readAll limit rest).2) := by
  induction ms with
  | nil => rfl
  | cons m ms ih =>
      obtain ⟨hm, hms⟩ := List.forall_mem_cons.1 hwithin
      obtain ⟨hname, hnames⟩ := List.forall_mem_cons.1 hnames
      rw [List.map_cons, List.flatten_cons, List.append_assoc,
        readAll_of_firstItem (firstItem_encode hm _), m.ofItem_toItem hname, ih hnames hms]
      rfl

/-- What a host writes is read back: every message from its record, every message from its octets with
whatever follows them, and every sequence of messages as the same sequence. -/
structure ReadBack (ms : List Outgoing) : Prop where
  record : ∀ m ∈ ms, ofItem m.toItem = .ok m
  octets : ∀ limit, ∀ m ∈ ms, m.Within limit → ∀ rest,
    firstItem limit (m.encode ++ rest) = .ok (.whole m.toItem rest)
  sequence : ∀ limit, (∀ m ∈ ms, m.Within limit) → ∀ rest,
    readAll limit ((ms.map encode).flatten ++ rest) =
      (ms.map .ok ++ (readAll limit rest).1, (readAll limit rest).2)

/-- Messages are read back if the dependencies in them are in the order of their names. -/
theorem readBack (ms : List Outgoing) (hnames : ∀ m ∈ ms, m.NamesAscend) : ReadBack ms where
  record m hm := m.ofItem_toItem (hnames m hm)
  octets _ _ _ hwithin rest := firstItem_encode hwithin rest
  sequence _ hwithin rest := readAll_encode hnames hwithin rest

/-- A project with a local dependency that has dependencies of its own, one of them remote, and a reply
with an empty listing. -/
theorem readBack_nested :
    let inner : Dependency := .mk .remote (some "package://b") none (some "00") none
    let outer : Dependency :=
      .mk .local none (some "") none (some [("b", inner), ("c", .mk .local none none none (some []))])
    let project : Dependency := .mk .local none none none (some [("a", outer)])
    let ms : List Outgoing :=
      [.createEvaluator { requestId := 1, modulePaths := some [], env := some .empty, project },
        .listModulesResponse ⟨2, 3, .ok []⟩]
    (∀ m ∈ ms, m.NamesAscend) ∧ (∀ m ∈ ms, m.Within 200) ∧ ReadBack ms := by
  intro inner outer project ms
  have houter : outer.NamesAscend :=
    ⟨List.pairwise_pair.2 (by decide), trivial, ⟨List.Pairwise.nil, trivial⟩, trivial⟩
  have hnames : ∀ m ∈ ms, m.NamesAscend := by
    refine List.forall_mem_cons.2 ⟨?_, List.forall_mem_singleton.2 trivial⟩
    rintro _ hproject
    obtain rfl := Option.some.inj hproject
    exact ⟨List.pairwise_singleton _ _, houter, trivial⟩
  have hwithin : ∀ m ∈ ms, m.Within 200 :=
    List.forall_mem_cons.2 ⟨⟨by decide +kernel, by decide +kernel, by decide +kernel⟩,
      List.forall_mem_singleton.2 ⟨by decide +kernel, by decide +kernel, by decide +kernel⟩⟩
  exact ⟨hnames, hwithin, readBack ms hnames⟩

end Outgoing

/-! ### Projects -/

theorem Dependency.namesAscendIn_iff {dependencies : List (String × Dependency)} :
    NamesAscendIn dependencies ↔ ∀ p ∈ dependencies, p.2.NamesAscend := by
  induction dependencies with
  | nil => simp [NamesAscendIn]
  | cons p rest ih =>
      obtain ⟨name, d⟩ := p
      rw [NamesAscendIn, ih, List.forall_mem_cons]

end PklHost.Message

namespace PklHost

open Message (Dependency Outgoing)

namespace Dependencies

mutual

theorem encode_namesAscend : (d : Dependencies) →
    Ordered.Ascending d.encode ∧ Dependency.NamesAscendIn d.encode
  | .mk locals remotes => by
      rw [encode]
      refine ⟨Ordered.ascending_ofPairs _, Dependency.namesAscendIn_iff.2 fun p hp => ?_⟩
      rcases List.mem_append.1 (Ordered.mem_of_mem_ofPairs hp) with hlocal | hremote
      · exact encodeLocals_namesAscend locals p hlocal
      · obtain ⟨r, -, rfl⟩ := List.mem_map.1 hremote
        exact trivial

theorem encodeLocals_namesAscend : (locals : List (String × LocalDependency)) →
    ∀ p ∈ encodeLocals locals, p.2.NamesAscend
  | [] => fun _ h => by cases h
  | (_, d) :: rest => by
      rw [encodeLocals]
      exact List.forall_mem_cons.2 ⟨encodeLocal_namesAscend d, encodeLocals_namesAscend rest⟩

theorem encodeLocal_namesAscend : (d : LocalDependency) → (encodeLocal d).NamesAscend
  | .mk _ _ dependencies => by
      rw [encodeLocal]
      exact encode_namesAscend dependencies

end

end Dependencies

namespace EvaluatorOptions

theorem namesAscend_of_projectItem {workingDir dir : FilePath} {dependencies : Option Dependencies}
    {project : Dependency} (h : projectItem workingDir dir dependencies = .ok project) :
    project.NamesAscend := by
  unfold projectItem at h
  split at h
  · cases h
  · obtain rfl := Except.ok.inj h
    cases dependencies with
    | none => exact trivial
    | some d => exact d.encode_namesAscend

/-- A request to create an evaluator has the dependencies of its project in the order of their names. -/
theorem namesAscend_of_createRequest {workingDir : FilePath} {requestId : Int64}
    {o : EvaluatorOptions} {request : Message.CreateEvaluator}
    (h : o.createRequest workingDir requestId = .ok request) :
    (Outgoing.createEvaluator request).NamesAscend := by
  rintro project hproject
  unfold createRequest at h
  cases hdir : o.projectDir with
  | none =>
      rw [hdir] at h
      obtain rfl := pure_eq_ok_iff.1 h
      cases hproject
  | some dir =>
      rw [hdir] at h
      obtain ⟨described, hdescribed, hrequest⟩ := bind_eq_ok_iff.1 h
      obtain rfl := pure_eq_ok_iff.1 hrequest
      obtain rfl : described = some project := hproject
      cases hitem : projectItem workingDir dir o.dependencies with
      | error e =>
          rw [hitem] at hdescribed
          cases hdescribed
      | ok d =>
          rw [hitem] at hdescribed
          obtain rfl : d = project := Option.some.inj (Except.ok.inj hdescribed)
          exact namesAscend_of_projectItem hitem

end EvaluatorOptions

end PklHost
