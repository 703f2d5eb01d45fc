import Mathlib.Data.List.Nodup
import PklHost.Message.Incoming
import PklHost.Message.Outgoing
import PklHost.Proofs.Message.Fields

/-!
# Readers in lockstep

A record is read as its fields are found: two records that hold the same under each of their names are
read alike, however their pairs are arranged and whatever else they hold (`alike_of_abreast`).  A field
may hold records itself, and it is enough that these are read alike.

`RecordName.fields` says which names a record has and where records stand in it.  Two states of a reader
are `Abreast` if each name finds contents in one that are read like those that it finds in the other.
Taking a field keeps them abreast, although what is left is in another order in each of them, and so do
the readers that are made of such steps (`InStep`).
-/

namespace PklHost.Message

open MessagePack (Item)

/-! ## The fields of the records -/

/-- What stands in a field: contents without records, a record, a list of records, or a map from names
to records. -/
inductive Contents where
  | plain
  | record (r : RecordName)
  | records (r : RecordName)
  | named (r : RecordName)
  deriving DecidableEq, Repr

/-- The fields of a request of the server. -/
def requestFields : List (String × Contents) :=
  [("requestId", .plain), ("evaluatorId", .plain), ("uri", .plain)]

/-- The fields of a reply of the host, the last one given. -/
def replyFields (contents : String × Contents) : List (String × Contents) :=
  [("requestId", .plain), ("evaluatorId", .plain), ("error", .plain), contents]

/-- The fields of a record. -/
def RecordName.fields : RecordName → List (String × Contents)
  | .message .createEvaluator =>
    [("requestId", .plain), ("clientResourceReaders", .records .readerSpec),
      ("clientModuleReaders", .records .moduleReaderSpec), ("modulePaths", .plain), ("env", .plain),
      ("properties", .plain), ("outputFormat", .plain), ("allowedModules", .plain),
      ("allowedResources", .plain), ("rootDir", .plain), ("cacheDir", .plain),
      ("project", .record .dependency)]
  | .message .createEvaluatorResponse =>
    [("requestId", .plain), ("evaluatorId", .plain), ("error", .plain)]
  | .message .closeEvaluator => [("evaluatorId", .plain)]
  | .message .evaluate =>
    [("requestId", .plain), ("evaluatorId", .plain), ("moduleUri", .plain), ("moduleText", .plain),
      ("expr", .plain)]
  | .message .evaluateResponse =>
    [("requestId", .plain), ("evaluatorId", .plain), ("result", .plain), ("error", .plain)]
  | .message .log =>
    [("evaluatorId", .plain), ("level", .plain), ("message", .plain), ("frameUri", .plain)]
  | .message .readResource | .message .readModule | .message .listResources | .message .listModules =>
    requestFields
  | .message .readResourceResponse | .message .readModuleResponse => replyFields ("contents", .plain)
  | .message .listResourcesResponse | .message .listModulesResponse =>
    replyFields ("pathElements", .records .pathElement)
  | .readerSpec => [("scheme", .plain), ("hasHierarchicalUris", .plain), ("isGlobbable", .plain)]
  | .moduleReaderSpec =>
    [("scheme", .plain), ("hasHierarchicalUris", .plain), ("isGlobbable", .plain), ("isLocal", .plain)]
  | .pathElement => [("name", .plain), ("isDirectory", .plain)]
  | .dependency =>
    [("type", .plain), ("checksums", .record .checksums), ("dependencies", .named .dependency),
      ("packageUri", .plain), ("projectFileUri", .plain)]
  | .checksums => [("sha256", .plain)]

/-- A name stands for one field of a record. -/
theorem RecordName.nodup_fields (r : RecordName) : (r.fields.map Prod.fst).Nodup := by
  cases r with
  | message kind => cases kind <;> simp [fields, requestFields, replyFields]
  | _ => simp [fields]

theorem RecordName.contents_unique {r : RecordName} {name : String} {c c' : Contents}
    (h : (name, c) ∈ r.fields) (h' : (name, c') ∈ r.fields) : c = c' :=
  (Prod.mk.inj (List.inj_on_of_nodup_map r.nodup_fields h h' rfl)).2

/-- No name of a record's fields stands twice. -/
def NamesOnce (r : RecordName) (pairs : List (Item × Item)) : Prop :=
  ∀ field ∈ r.fields, pairs.countP (fun p => isName field.1 p.1) ≤ 1

/-! ## Finding a field -/

/-- The contents of a field; nil are none. -/
def found (name : String) (pairs : List (Item × Item)) : Option Item :=
  match takePair name pairs with
  | none | some (.nil, _) => none
  | some (v, _) => some v

/-- What is left after a field was taken. -/
def leftover (name : String) (pairs : List (Item × Item)) : List (Item × Item) :=
  match takePair name pairs with
  | none => pairs
  | some (_, rest) => rest

theorem take_eq (name : String) (f : Fields) :
    FieldReader.take name f = .ok (found name f.pairs, { f with pairs := leftover name f.pairs }) := by
  unfold FieldReader.take found leftover
  cases takePair name f.pairs with
  | none => rfl
  | some taken =>
      obtain ⟨v, rest⟩ := taken
      cases v <;> rfl

section

variable {name : String} {pairs : List (Item × Item)}

/-- What is left, if the name is there and if it is not. -/
theorem leftover_cases (name : String) (pairs : List (Item × Item)) :
    (∃ v, pairs.Perm ((.text name, v) :: leftover name pairs)) ∨
      (leftover name pairs = pairs ∧ ∀ v, (.text name, v) ∉ pairs) := by
  unfold leftover
  cases htake : takePair name pairs with
  | none => exact .inr ⟨rfl, takePair_eq_none_iff.1 htake⟩
  | some taken => exact .inl ⟨taken.1, perm_of_takePair htake⟩

theorem countP_cons_self (v : Item) (rest : List (Item × Item)) :
    ((.text name, v) :: rest).countP (fun p => isName name p.1) =
      rest.countP (fun p => isName name p.1) + 1 :=
  List.countP_cons_of_pos (isName_iff.2 rfl)

/-- A name that does not stand in pairs is the key of none. -/
theorem countP_eq_zero_iff :
    pairs.countP (fun p => isName name p.1) = 0 ↔ ∀ v, (.text name, v) ∉ pairs := by
  rw [List.countP_eq_zero]
  constructor
  · intro h v hmem
    exact h _ hmem (isName_iff.2 rfl)
  · rintro h ⟨k, v⟩ hmem hname
    rw [isName_iff] at hname
    obtain rfl : k = .text name := hname
    exact h v hmem

theorem found_eq_some_iff (honce : pairs.countP (fun p => isName name p.1) ≤ 1) {v : Item} :
    found name pairs = some v ↔ (.text name, v) ∈ pairs ∧ v ≠ .nil := by
  unfold found
  cases htake : takePair name pairs with
  | none => exact iff_of_false nofun fun h => takePair_eq_none_iff.1 htake v h.1
  | some taken =>
      obtain ⟨w, rest⟩ := taken
      have hperm := perm_of_takePair htake
      -- the name is taken, and stands nowhere in the rest
      have hrest : ∀ v, (.text name, v) ∉ rest := by
        rw [hperm.countP_eq, countP_cons_self] at honce
        exact countP_eq_zero_iff.1 (by omega)
      have hmem : (.text name, v) ∈ pairs ↔ v = w := by
        rw [hperm.mem_iff, List.mem_cons, or_iff_left (hrest v)]
        simp
      rw [hmem]
      cases w with
      | nil => exact iff_of_false nofun fun h => h.2 h.1
      | _ =>
          simp only [Option.some.injEq]
          constructor
          · rintro rfl
            exact ⟨rfl, Item.noConfusion⟩
          · rintro ⟨rfl, -⟩
            rfl

/-- A field is found where its pairs are. -/
theorem found_congr {pairs' : List (Item × Item)}
    (honce : pairs.countP (fun p => isName name p.1) ≤ 1)
    (honce' : pairs'.countP (fun p => isName name p.1) ≤ 1)
    (h : ∀ v, v ≠ .nil → ((.text name, v) ∈ pairs ↔ (.text name, v) ∈ pairs')) :
    found name pairs = found name pairs' := by
  ext v
  show found name pairs = some v ↔ found name pairs' = some v
  rw [found_eq_some_iff honce, found_eq_some_iff honce', and_congr_left (h v)]

/-- Taking a field leaves no name more often than it was. -/
theorem countP_leftover_le (name other : String) (pairs : List (Item × Item)) :
    (leftover name pairs).countP (fun p => isName other p.1) ≤
      pairs.countP (fun p => isName other p.1) := by
  rcases leftover_cases name pairs with ⟨v, hperm⟩ | ⟨hsame, -⟩
  · rw [hperm.countP_eq]
    exact (List.sublist_cons_self _ _).countP_le
  · exact Nat.le_of_eq (by rw [hsame])

/-- A field that was taken is found no more. -/
theorem found_leftover_self (honce : pairs.countP (fun p => isName name p.1) ≤ 1) :
    found name (leftover name pairs) = none := by
  have hgone : ∀ v, (.text name, v) ∉ leftover name pairs := by
    rcases leftover_cases name pairs with ⟨v, hperm⟩ | ⟨hsame, habsent⟩
    · rw [hperm.countP_eq, countP_cons_self] at honce
      exact countP_eq_zero_iff.1 (by omega)
    · rwa [hsame]
  unfold found
  rw [takePair_eq_none_iff.2 hgone]

/-- Taking a field changes no other one. -/
theorem found_leftover_of_ne {other : String} (hne : other ≠ name)
    (honce : pairs.countP (fun p => isName other p.1) ≤ 1) :
    found other (leftover name pairs) = found other pairs := by
  refine found_congr (Nat.le_trans (countP_leftover_le name other pairs) honce) honce fun v _ => ?_
  rcases leftover_cases name pairs with ⟨w, hperm⟩ | ⟨hsame, -⟩
  · rw [hperm.mem_iff, List.mem_cons, or_iff_right]
    simp [hne]
  · rw [hsame]

end

/-! ## Records that are read alike -/

/-- Two items are read alike where a record is expected. -/
def RecordName.Alike : RecordName → Item → Item → Prop
  | .message kind, v, v' =>
    (∀ read ∈ Incoming.reader? kind,
      FieldReader.ofMap (.message kind) read v = FieldReader.ofMap (.message kind) read v') ∧
    ∀ read ∈ Outgoing.reader? kind,
      FieldReader.ofMap (.message kind) read v = FieldReader.ofMap (.message kind) read v'
  | .readerSpec, v, v' =>
    FieldReader.ofMap .readerSpec ReaderSpec.read v = FieldReader.ofMap .readerSpec ReaderSpec.read v'
  | .moduleReaderSpec, v, v' =>
    FieldReader.ofMap .moduleReaderSpec ModuleReaderSpec.read v =
      FieldReader.ofMap .moduleReaderSpec ModuleReaderSpec.read v'
  | .pathElement, v, v' =>
    FieldReader.ofMap .pathElement PathElement.read v = FieldReader.ofMap .pathElement PathElement.read v'
  | .dependency, v, v' => Dependency.ofItem v = Dependency.ofItem v'
  | .checksums, v, v' => Dependency.checksumOf v = Dependency.checksumOf v'

/-- Two items are read alike where these contents are expected. -/
def Contents.Alike : Contents → Item → Item → Prop
  | .plain, v, v' => v = v'
  | .record r, v, v' => r.Alike v v'
  | .records r, v, v' =>
    v = v' ∨ ∃ xs xs', v = .array xs ∧ v' = .array xs' ∧ List.Forall₂ r.Alike xs xs'
  | .named r, v, v' =>
    v = v' ∨ ∃ ps ps', v = .map ps ∧ v' = .map ps' ∧
      List.Forall₂ (fun p p' => p.1 = p'.1 ∧ r.Alike p.2 p'.2) ps ps'

theorem RecordName.Alike.refl (r : RecordName) (v : Item) : r.Alike v v := by
  cases r with
  | message kind => exact ⟨fun _ _ => rfl, fun _ _ => rfl⟩
  | _ => exact rfl

theorem RecordName.Alike.trans {r : RecordName} {v v' v'' : Item} (h : r.Alike v v')
    (h' : r.Alike v' v'') : r.Alike v v'' := by
  cases r with
  | message kind =>
      exact ⟨fun read hread => (h.1 read hread).trans (h'.1 read hread),
        fun read hread => (h.2 read hread).trans (h'.2 read hread)⟩
  | _ => exact Eq.trans h h'

theorem Contents.Alike.refl (c : Contents) (v : Item) : c.Alike v v := by
  cases c with
  | plain => exact rfl
  | record r => exact RecordName.Alike.refl r v
  | records r | named r => exact .inl rfl

/-! ## Lockstep -/

/-- Two records of one name, in each of which the fields are found that are found in the other. -/
structure Abreast (r : RecordName) (f f' : Fields) : Prop where
  record : f.record = r
  record' : f'.record = r
  once : NamesOnce r f.pairs
  once' : NamesOnce r f'.pairs
  fields : ∀ name c, (name, c) ∈ r.fields →
    Option.Rel c.Alike (found name f.pairs) (found name f'.pairs)

variable {α β : Type} {r : RecordName}

/-- Two readers of records that are abreast fail for the same reason, or make related values and leave
records that are abreast. -/
def InStep (r : RecordName) (R : α → α → Prop) (read read' : FieldReader α) : Prop :=
  ∀ f f', Abreast r f f' → (∃ e, read f = .error e ∧ read' f' = .error e) ∨
    ∃ x x' g g', read f = .ok (x, g) ∧ read' f' = .ok (x', g') ∧ R x x' ∧ Abreast r g g'

/-- A reader that takes no field: all that it knows of a record is its name. -/
def Steady (read : FieldReader α) : Prop :=
  ∀ record, (∃ e, ∀ f, f.record = record → read f = .error e) ∨
    ∃ x, ∀ f, f.record = record → read f = .ok (x, f)

namespace Steady

theorem pure (x : α) : Steady (Pure.pure x) := fun _ => .inr ⟨x, fun _ _ => rfl⟩

theorem fails (e : RecordName → FrameError) :
    Steady (fun f => .error (e f.record) : FieldReader α) :=
  fun record => .inl ⟨e record, fun _ hf => congrArg (fun record => Except.error (e record)) hf⟩

theorem lift (x : Except FrameError α) : Steady (StateT.lift x) := by
  intro record
  cases x with
  | error e => exact .inl ⟨e, fun _ _ => rfl⟩
  | ok x => exact .inr ⟨x, fun _ _ => rfl⟩

theorem bind {read : FieldReader α} {next : α → FieldReader β} (h : Steady read)
    (hnext : ∀ x, Steady (next x)) : Steady (read >>= next) := by
  intro record
  have hrun : ∀ f, (read >>= next) f = (read f >>= fun p => next p.1 p.2) := fun _ => rfl
  rcases h record with ⟨e, hfails⟩ | ⟨x, hreads⟩
  · exact .inl ⟨e, fun f hf => by rw [hrun, hfails f hf]; rfl⟩
  · have hthen : ∀ f, f.record = record → (read >>= next) f = next x f := fun f hf => by
      rw [hrun, hreads f hf]
      rfl
    rcases hnext x record with ⟨e, hfails⟩ | ⟨y, hreads'⟩
    · exact .inl ⟨e, fun f hf => (hthen f hf).trans (hfails f hf)⟩
    · exact .inr ⟨y, fun f hf => (hthen f hf).trans (hreads' f hf)⟩

theorem mapM {γ : Type} {read : γ → FieldReader α} (h : ∀ x, Steady (read x)) (xs : List γ) :
    Steady (xs.mapM read) := by
  induction xs with
  | nil => exact pure []
  | cons x xs ih =>
      rw [List.mapM_cons]
      exact (h x).bind fun _ => ih.bind fun _ => pure _

theorem invalid (field : String) (expected : Expectation) :
    Steady (FieldReader.invalid field expected : FieldReader α) :=
  fails fun record => .invalidField record field expected

theorem textOf (field : String) (v : Item) : Steady (FieldReader.textOf field v) := by
  cases v with
  | text s => exact pure s
  | _ => exact invalid field _

theorem int64Of (field : String) (v : Item) : Steady (FieldReader.int64Of field v) := by
  cases v with
  | int n =>
      unfold FieldReader.int64Of
      dsimp only
      cases n.toInt64? with
      | none => exact invalid field _
      | some n => exact pure n
  | _ => exact invalid field _

theorem inStep {read : FieldReader α} (h : Steady read) : InStep r Eq read read := by
  intro f f' hf
  rcases h r with ⟨e, hfails⟩ | ⟨x, hreads⟩
  · exact .inl ⟨e, hfails f hf.record, hfails f' hf.record'⟩
  · exact .inr ⟨x, x, f, f', hreads f hf.record, hreads f' hf.record', rfl, hf⟩

end Steady

namespace InStep

theorem bind {R : α → α → Prop} {S : β → β → Prop} {read read' : FieldReader α}
    {next next' : α → FieldReader β} (h : InStep r R read read')
    (hnext : ∀ x x', R x x' → InStep r S (next x) (next' x')) :
    InStep r S (read >>= next) (read' >>= next') := by
  intro f f' hf
  have hrun : ∀ (read : FieldReader α) (next : α → FieldReader β) f,
      (read >>= next) f = (read f >>= fun p => next p.1 p.2) := fun _ _ _ => rfl
  rw [hrun, hrun]
  rcases h f f' hf with ⟨e, hfails, hfails'⟩ | ⟨x, x', g, g', hreads, hreads', hx, hg⟩
  · rw [hfails, hfails']
    exact .inl ⟨e, rfl, rfl⟩
  · rw [hreads, hreads']
    exact hnext x x' hx g g' hg

/-- What follows a reader whose value is the same in both records. -/
theorem next {S : β → β → Prop} {read read' : FieldReader α} {next next' : α → FieldReader β}
    (h : InStep r Eq read read') (hnext : ∀ x, InStep r S (next x) (next' x)) :
    InStep r S (read >>= next) (read' >>= next') :=
  h.bind fun x _ hx => hx ▸ hnext x

theorem map {read : FieldReader α} (g : α → β) (h : InStep r Eq read read) :
    InStep r Eq (g <$> read) (g <$> read) := by
  rw [map_eq_pure_bind]
  exact h.next fun _ => (Steady.pure _).inStep

/-- Taking one field of records that are abreast. -/
theorem take {name : String} {c : Contents} (hfield : (name, c) ∈ r.fields) :
    InStep r (Option.Rel c.Alike) (FieldReader.take name) (FieldReader.take name) := by
  intro f f' hf
  refine .inr ⟨_, _, _, _, take_eq name f, take_eq name f', hf.fields name c hfield, ?_⟩
  refine ⟨hf.record, hf.record', fun field hmem => ?_, fun field hmem => ?_, fun other c' hother => ?_⟩
  · exact Nat.le_trans (countP_leftover_le name field.1 f.pairs) (hf.once field hmem)
  · exact Nat.le_trans (countP_leftover_le name field.1 f'.pairs) (hf.once' field hmem)
  · by_cases hname : other = name
    · subst hname
      dsimp only
      rw [found_leftover_self (hf.once _ hother), found_leftover_self (hf.once' _ hother)]
      exact .none
    · dsimp only
      rw [found_leftover_of_ne hname (hf.once _ hother), found_leftover_of_ne hname (hf.once' _ hother)]
      exact hf.fields other c' hother

variable {field : String}

/-- A field with contents that hold no record. -/
theorem takePlain (hfield : (field, .plain) ∈ r.fields) :
    InStep r Eq (FieldReader.take field) (FieldReader.take field) := by
  intro f f' hf
  rcases take hfield f f' hf with hfails | ⟨x, x', g, g', hreads, hreads', hx, hg⟩
  · exact .inl hfails
  · refine .inr ⟨x, x', g, g', hreads, hreads', ?_, hg⟩
    cases hx with
    | none => rfl
    | some hx => exact congrArg some hx

/-- A field that may be absent, whose contents are read to the same value if they are alike. -/
theorem optional {c : Contents} {read : Item → FieldReader α} (hfield : (field, c) ∈ r.fields)
    (hread : ∀ v v', c.Alike v v' → InStep r Eq (read v) (read v')) :
    InStep r Eq (FieldReader.optional field read) (FieldReader.optional field read) := by
  refine (take hfield).bind fun o o' ho => ?_
  cases ho with
  | none => exact (Steady.pure _).inStep
  | some hv => exact (hread _ _ hv).next fun _ => (Steady.pure _).inStep

theorem optionalPlain {read : Item → FieldReader α} (hfield : (field, .plain) ∈ r.fields)
    (hread : ∀ v, Steady (read v)) :
    InStep r Eq (FieldReader.optional field read) (FieldReader.optional field read) :=
  optional hfield fun v _ hv => hv ▸ (hread v).inStep

/-- A record in a field, which is read as its counterpart is. -/
theorem record? {s : RecordName} {read : Item → Except FrameError α} (hfield : (field, .record s) ∈ r.fields)
    (hread : ∀ v v', s.Alike v v' → read v = read v') :
    InStep r Eq (FieldReader.optional field fun v => StateT.lift (read v))
      (FieldReader.optional field fun v => StateT.lift (read v)) := by
  refine optional hfield fun v v' hv => ?_
  rw [hread v v' hv]
  exact (Steady.lift _).inStep

theorem need (hfield : (field, .plain) ∈ r.fields) :
    InStep r Eq (FieldReader.need field) (FieldReader.need field) := by
  refine (takePlain hfield).next fun o => ?_
  cases o with
  | none => exact (Steady.fails fun record => .missingField record field).inStep
  | some v => exact (Steady.pure v).inStep

theorem int64 (hfield : (field, .plain) ∈ r.fields) :
    InStep r Eq (FieldReader.int64 field) (FieldReader.int64 field) :=
  (need hfield).next fun v => (Steady.int64Of field v).inStep

theorem int64? (hfield : (field, .plain) ∈ r.fields) :
    InStep r Eq (FieldReader.int64? field) (FieldReader.int64? field) :=
  optionalPlain hfield (Steady.int64Of field)

theorem text (hfield : (field, .plain) ∈ r.fields) :
    InStep r Eq (FieldReader.text field) (FieldReader.text field) :=
  (need hfield).next fun v => (Steady.textOf field v).inStep

theorem text? (hfield : (field, .plain) ∈ r.fields) :
    InStep r Eq (FieldReader.text? field) (FieldReader.text? field) :=
  optionalPlain hfield (Steady.textOf field)

theorem bool (hfield : (field, .plain) ∈ r.fields) :
    InStep r Eq (FieldReader.bool field) (FieldReader.bool field) := by
  refine (takePlain hfield).next fun o => Steady.inStep ?_
  cases o with
  | none => exact .pure false
  | some v =>
      cases v with
      | bool b => exact .pure b
      | _ => exact .invalid field _

theorem binary? (hfield : (field, .plain) ∈ r.fields) :
    InStep r Eq (FieldReader.binary? field) (FieldReader.binary? field) := by
  refine optionalPlain hfield fun v => ?_
  cases v with
  | bin octets => exact .pure octets
  | _ => exact .invalid field _

theorem texts? (hfield : (field, .plain) ∈ r.fields) :
    InStep r Eq (FieldReader.texts? field) (FieldReader.texts? field) := by
  refine (optionalPlain hfield fun v => ?_).next fun o => Steady.inStep ?_
  · cases v with
    | array items => exact .pure items
    | _ => exact .invalid field _
  · cases o with
    | none => exact .pure none
    | some items => exact (Steady.mapM (Steady.textOf field) items).bind fun _ => .pure _

theorem textMap? (hfield : (field, .plain) ∈ r.fields) :
    InStep r Eq (FieldReader.textMap? field) (FieldReader.textMap? field) := by
  refine optionalPlain hfield fun v => ?_
  cases v with
  | map pairs =>
      refine (Steady.mapM (fun p => ?_) pairs).bind fun _ => .pure _
      exact (Steady.textOf field p.1).bind fun _ => (Steady.textOf field p.2).bind fun _ => .pure _
  | _ => exact .invalid field _

/-- A list of records, each of which is read as its counterpart is. -/
theorem records? {s : RecordName} {read : Item → Except FrameError α}
    (hfield : (field, .records s) ∈ r.fields)
    (hread : ∀ v v', s.Alike v v' → read v = read v') :
    InStep r Eq (FieldReader.records? field read) (FieldReader.records? field read) := by
  have hitems : ∀ xs xs', List.Forall₂ s.Alike xs xs' → xs.mapM read = xs'.mapM read := by
    intro xs xs' h
    induction h with
    | nil => rfl
    | cons hx _ ih => rw [List.mapM_cons, List.mapM_cons, hread _ _ hx, ih]
  -- the two lists need not be the same, only what is read of them
  refine bind (R := fun o o' => Option.map (List.mapM read) o = Option.map (List.mapM read) o') ?_
    fun o o' ho => ?_
  · refine (take hfield).bind fun o o' ho => ?_
    cases ho with
    | none => exact fun f f' hf => .inr ⟨none, none, f, f', rfl, rfl, rfl, hf⟩
    | @some v v' hv =>
        rcases hv with rfl | ⟨xs, xs', rfl, rfl, hxs⟩
        · cases v with
          | array items => exact fun f f' hf => .inr ⟨some items, some items, f, f', rfl, rfl, rfl, hf⟩
          | _ =>
              exact fun f f' hf => .inl ⟨.invalidField r field .array, by rw [← hf.record]; rfl,
                by rw [← hf.record']; rfl⟩
        · exact fun f f' hf => .inr ⟨some xs, some xs', f, f', rfl, rfl,
            congrArg some (hitems xs xs' hxs), hf⟩
  · cases o with
    | none =>
        cases o' with
        | none => exact (Steady.pure none).inStep
        | some items' => cases ho
    | some items =>
        cases o' with
        | none => cases ho
        | some items' =>
            have hread : items.mapM read = items'.mapM read := Option.some.inj ho
            show InStep r Eq (StateT.lift (items.mapM read) >>= _) (StateT.lift (items'.mapM read) >>= _)
            rw [hread]
            exact ((Steady.lift _).bind fun _ => .pure _).inStep

/-- Whole records that are abreast. -/
theorem ofMap {read : FieldReader α} {pairs pairs' : List (Item × Item)} (h : InStep r Eq read read)
    (hpairs : Abreast r ⟨r, pairs⟩ ⟨r, pairs'⟩) :
    FieldReader.ofMap r read (.map pairs) = FieldReader.ofMap r read (.map pairs') := by
  unfold FieldReader.ofMap FieldReader.readPairs StateT.run
  dsimp only
  rcases h _ _ hpairs with ⟨e, hfails, hfails'⟩ | ⟨x, x', g, g', hreads, hreads', rfl, -⟩
  · rw [hfails, hfails']
  · rw [hreads, hreads']

end InStep

/-! ## The readers -/

theorem ReaderSpec.inStep_read : InStep .readerSpec Eq ReaderSpec.read ReaderSpec.read :=
  .next (.text (by decide)) fun _ => .next (.bool (by decide)) fun _ =>
    .next (.bool (by decide)) fun _ => (Steady.pure _).inStep

theorem ModuleReaderSpec.inStep_read :
    InStep .moduleReaderSpec Eq ModuleReaderSpec.read ModuleReaderSpec.read :=
  .next (.text (by decide)) fun _ => .next (.bool (by decide)) fun _ =>
    .next (.bool (by decide)) fun _ =>
    .next (.bool (by decide)) fun _ => (Steady.pure _).inStep

theorem PathElement.inStep_read : InStep .pathElement Eq PathElement.read PathElement.read :=
  .next (.text (by decide)) fun _ => .next (.bool (by decide)) fun _ =>
    (Steady.pure _).inStep

namespace Dependency

/-- Heads whose dependencies are not read yet. -/
structure Head.Alike (head head' : Head) : Prop where
  kind : head.kind = head'.kind
  checksum : head.checksum = head'.checksum
  dependencies : Option.Rel (Contents.named .dependency).Alike head.dependencies head'.dependencies

theorem inStep_readHead : InStep .dependency Head.Alike readHead readHead := by
  have hkind : InStep .dependency Eq readKind readKind := by
    refine .next (.text (by decide)) fun text => Steady.inStep ?_
    cases DependencyKind.ofText? text with
    | none => exact .invalid "type" _
    | some kind => exact .pure kind
  have hchecksum : InStep .dependency Eq readChecksum readChecksum :=
    .record? (s := .checksums) (by decide) fun _ _ hv => hv
  exact .next hkind fun kind => .next hchecksum fun checksum =>
    .bind (.take (c := .named .dependency) (by decide)) fun o o' ho f f' hf =>
      .inr ⟨_, _, f, f', rfl, rfl, ⟨rfl, rfl, ho⟩, hf⟩

theorem ofPairs_congr {pairs pairs' : List (Item × Item)}
    (h : List.Forall₂ (fun p p' => p.1 = p'.1 ∧ RecordName.dependency.Alike p.2 p'.2) pairs pairs') :
    ofPairs pairs = ofPairs pairs' := by
  induction h with
  | nil => rfl
  | @cons p p' rest rest' hp _ ih =>
      obtain ⟨k, v⟩ := p
      obtain ⟨k', v'⟩ := p'
      obtain ⟨rfl, hv⟩ : k = k' ∧ ofItem v = ofItem v' := hp
      cases k with
      | text name => rw [ofPairs, ofPairs, hv, ih]
      | _ => simp only [ofPairs]

/-- The remaining fields of a description whose head was read. -/
theorem ofHead_congr {head head' : Head} {f f' : Fields} (hhead : head.Alike head')
    (hf : Abreast .dependency f f') : ofHead head f = ofHead head' f' := by
  have htail : ∀ ds, (readTail head ds).run' f = (readTail head' ds).run' f' := by
    intro ds
    have hread : InStep .dependency Eq (readTail head ds) (readTail head' ds) := by
      unfold readTail
      rw [hhead.kind, hhead.checksum]
      exact .next (.text? (by decide)) fun _ =>
        .next (.text? (by decide)) fun _ => (Steady.pure _).inStep
    show Prod.fst <$> readTail head ds f = Prod.fst <$> readTail head' ds f'
    rcases hread f f' hf with ⟨e, hfails, hfails'⟩ | ⟨x, x', g, g', hreads, hreads', rfl, -⟩
    · rw [hfails, hfails']
    · rw [hreads, hreads']
      rfl
  have hdependencies := hhead.dependencies
  unfold ofHead
  generalize head.dependencies = o, head'.dependencies = o' at hdependencies
  cases hdependencies with
  | none => exact htail none
  | @some v v' hv =>
      rcases hv with rfl | ⟨inner, inner', rfl, rfl, hinner⟩
      · cases v with
        | map inner =>
            dsimp only
            cases ofPairs inner with
            | error e => rfl
            | ok ds => exact htail _
        | _ => rfl
      · dsimp only
        rw [ofPairs_congr hinner]
        cases ofPairs inner' with
        | error e => rfl
        | ok ds => exact htail _

theorem ofItem_congr {pairs pairs' : List (Item × Item)}
    (h : Abreast .dependency ⟨.dependency, pairs⟩ ⟨.dependency, pairs'⟩) :
    ofItem (.map pairs) = ofItem (.map pairs') := by
  rw [ofItem_map, ofItem_map]
  rcases inStep_readHead _ _ h with ⟨e, hfails, hfails'⟩ | ⟨head, head', f, f', hreads, hreads', hhead, hf⟩
  · rw [hfails, hfails']
  · rw [hreads, hreads']
    exact ofHead_congr hhead hf

end Dependency

theorem ReadRequest.inStep_read (h : r.fields = requestFields) :
    InStep r Eq ReadRequest.read ReadRequest.read :=
  .next (.int64 (h ▸ by decide)) fun _ => .next (.int64 (h ▸ by decide)) fun _ =>
    .next (.text (h ▸ by decide)) fun _ => (Steady.pure _).inStep

theorem inStep_readError (h : ("error", .plain) ∈ r.fields) : InStep r Eq readError readError := by
  refine .next (.text? h) fun o => Steady.inStep ?_
  cases o with
  | none => exact .pure none
  | some e => exact .pure _

theorem CreateOutcome.inStep_read :
    InStep (.message .createEvaluatorResponse) Eq CreateOutcome.read CreateOutcome.read :=
  .next (.int64 (by decide)) fun _ => .next (.int64? (by decide)) fun _ =>
    .next (inStep_readError (by decide)) fun _ => (Steady.pure _).inStep

theorem EvaluateOutcome.inStep_read :
    InStep (.message .evaluateResponse) Eq EvaluateOutcome.read EvaluateOutcome.read :=
  .next (.int64 (by decide)) fun _ => .next (.int64 (by decide)) fun _ =>
    .next (.binary? (by decide)) fun _ =>
    .next (inStep_readError (by decide)) fun _ => (Steady.pure _).inStep

theorem LogLine.inStep_read : InStep (.message .log) Eq LogLine.read LogLine.read :=
  .next (.int64 (by decide)) fun _ => .next (.int64 (by decide)) fun _ =>
    .next (.text (by decide)) fun _ => .next (.text? (by decide)) fun _ =>
    (Steady.pure _).inStep

theorem Evaluate.inStep_read : InStep (.message .evaluate) Eq Evaluate.read Evaluate.read :=
  .next (.int64 (by decide)) fun _ => .next (.int64 (by decide)) fun _ =>
    .next (.text (by decide)) fun _ => .next (.text? (by decide)) fun _ =>
    .next (.text? (by decide)) fun _ => (Steady.pure _).inStep

theorem CreateEvaluator.inStep_read :
    InStep (.message .createEvaluator) Eq CreateEvaluator.read CreateEvaluator.read :=
  .next (.int64 (by decide)) fun _ =>
    .next (.records? (s := .readerSpec) (by decide) fun _ _ hv => hv) fun _ =>
    .next (.records? (s := .moduleReaderSpec) (by decide) fun _ _ hv => hv) fun _ =>
    .next (.texts? (by decide)) fun _ => .next (.textMap? (by decide)) fun _ =>
    .next (.textMap? (by decide)) fun _ => .next (.text? (by decide)) fun _ =>
    .next (.texts? (by decide)) fun _ => .next (.texts? (by decide)) fun _ =>
    .next (.text? (by decide)) fun _ => .next (.text? (by decide)) fun _ =>
    .next (.record? (s := .dependency) (by decide) fun _ _ hv => hv) fun _ => (Steady.pure _).inStep

/-- A reply whose contents are read in step; they are not read at all behind an error text. -/
theorem Reply.inStep_read {field : String × Contents} {contents : FieldReader (Option α)} (empty : α)
    (h : r.fields = replyFields field) (hcontents : field ∈ r.fields → InStep r Eq contents contents) :
    InStep r Eq (Reply.read contents empty) (Reply.read contents empty) := by
  have hmem : ∀ field' ∈ replyFields field, field' ∈ r.fields := fun _ hfield => h ▸ hfield
  refine .next (.int64 (hmem _ (by simp [replyFields]))) fun _ =>
    .next (.int64 (hmem _ (by simp [replyFields]))) fun _ =>
    .next (.text? (hmem _ (by simp [replyFields]))) fun error => ?_
  cases error with
  | some e => exact (Steady.pure _).inStep
  | none => exact (hcontents (hmem _ (by simp [replyFields]))).next fun _ => (Steady.pure _).inStep

theorem inStep_readListing (h : ("pathElements", .records .pathElement) ∈ r.fields) :
    InStep r Eq readListing readListing :=
  .records? h fun _ _ hv => hv

/-- A message is read in step by whoever reads it. -/
theorem Incoming.inStep_reader {kind : Kind} {read : FieldReader Incoming} (h : read ∈ reader? kind) :
    InStep (.message kind) Eq read read := by
  cases kind with
  | createEvaluatorResponse =>
      obtain rfl := Option.some.inj h
      exact CreateOutcome.inStep_read.map _
  | evaluateResponse =>
      obtain rfl := Option.some.inj h
      exact EvaluateOutcome.inStep_read.map _
  | log =>
      obtain rfl := Option.some.inj h
      exact LogLine.inStep_read.map _
  | readResource | readModule | listResources | listModules =>
      obtain rfl := Option.some.inj h
      exact .map _ (ReadRequest.inStep_read rfl)
  | _ => cases h

theorem Outgoing.inStep_reader {kind : Kind} {read : FieldReader Outgoing} (h : read ∈ reader? kind) :
    InStep (.message kind) Eq read read := by
  cases kind with
  | createEvaluator =>
      obtain rfl := Option.some.inj h
      exact CreateEvaluator.inStep_read.map _
  | closeEvaluator =>
      obtain rfl := Option.some.inj h
      exact InStep.map _ (.int64 (by decide))
  | evaluate =>
      obtain rfl := Option.some.inj h
      exact Evaluate.inStep_read.map _
  | readResourceResponse =>
      obtain rfl := Option.some.inj h
      exact .map _ (Reply.inStep_read [] rfl .binary?)
  | readModuleResponse =>
      obtain rfl := Option.some.inj h
      exact .map _ (Reply.inStep_read "" rfl .text?)
  | listResourcesResponse | listModulesResponse =>
      obtain rfl := Option.some.inj h
      exact .map _ (Reply.inStep_read [] rfl inStep_readListing)
  | _ => cases h

/-- Records that are abreast are read alike. -/
theorem alike_of_abreast {pairs pairs' : List (Item × Item)}
    (h : Abreast r ⟨r, pairs⟩ ⟨r, pairs'⟩) : r.Alike (.map pairs) (.map pairs') := by
  cases r with
  | message kind =>
      exact ⟨fun _ hread => (Incoming.inStep_reader hread).ofMap h,
        fun _ hread => (Outgoing.inStep_reader hread).ofMap h⟩
  | readerSpec => exact ReaderSpec.inStep_read.ofMap h
  | moduleReaderSpec => exact ModuleReaderSpec.inStep_read.ofMap h
  | pathElement => exact PathElement.inStep_read.ofMap h
  | dependency => exact Dependency.ofItem_congr h
  | checksums => exact InStep.ofMap (.text (by decide)) h

end PklHost.Message
