import PklHost.Message.Incoming
import PklHost.Proofs.Message.RoundTrip

/-!
# Messages of the server come back

An error text that is empty is read as none, so that not every message of a server comes back as it is: what
is read back of it is its normal form (`Incoming.ofItem_toItem`).  A message that was read is in normal form,
whatever its record looked like, and comes back as it is (`Incoming.normal_of_ofItem`).

`FieldReader.Gives` follows the readers to what they give.  It has a rule for each way in which readers are
put together; the only field whose contents matter is the error text.
-/

namespace PklHost.Message

open MessagePack (Item depthItems depthPairs depthPairs_le_iff depthLimit)

variable {α β : Type} {P : β → Prop} {Q : α → Prop}

/-! ## What a reader gives -/

/-- All that a reader gives, of whatever fields. -/
def FieldReader.Gives (read : FieldReader α) (Q : α → Prop) : Prop :=
  ∀ f x f', read f = .ok (x, f') → Q x

namespace FieldReader.Gives

theorem any (read : FieldReader α) : read.Gives fun _ => True :=
  fun _ _ _ _ => trivial

theorem pure {x : α} (h : Q x) : FieldReader.Gives (Pure.pure x) Q := by
  intro f y f' hread
  have hread : (Except.ok (x, f) : Except FrameError (α × Fields)) = .ok (y, f') := hread
  obtain ⟨rfl, -⟩ := Prod.mk.inj (Except.ok.inj hread)
  exact h

theorem bind {read : FieldReader α} {next : α → FieldReader β} (h : read.Gives Q)
    (hnext : ∀ x, Q x → (next x).Gives P) : FieldReader.Gives (read >>= next) P := by
  intro f y f' hrun
  obtain ⟨⟨x, mid⟩, hread, hrest⟩ := bind_eq_ok_iff.1 hrun
  exact hnext x (h f x mid hread) mid y f' hrest

theorem map {read : FieldReader α} {g : α → β} (h : read.Gives fun x => P (g x)) :
    FieldReader.Gives (g <$> read) P := by
  rw [map_eq_pure_bind]
  exact h.bind fun _ hx => pure hx

theorem readPairs {read : FieldReader α} (h : read.Gives Q) {record : RecordName}
    {pairs : List (Item × Item)} {x : α} (hx : FieldReader.readPairs record read pairs = .ok x) :
    Q x := by
  unfold FieldReader.readPairs at hx
  split at hx
  · next y f' hrun =>
      obtain rfl := Except.ok.inj hx
      exact h _ _ _ hrun
  · cases hx

end FieldReader.Gives

/-! ## Error texts -/

/-- An error text, unless it is empty. -/
def presentError (error : Option String) : Option String :=
  error.filter fun e => !e.isEmpty

theorem presentError_presentError (error : Option String) :
    presentError (presentError error) = presentError error := by
  simp [presentError]

theorem readError_eq : readError = presentError <$> FieldReader.text? "error" := by
  rw [map_eq_pure_bind, readError]
  refine congrArg _ (funext fun o => ?_)
  cases o with
  | none => rfl
  | some e => cases h : e.isEmpty <;> simp [presentError, Option.filter, h]

theorem consumes_readError {layout : Layout} (error : Option String) :
    Consumes readError (("error", error.map .text) :: layout) layout (presentError error) := by
  rw [readError_eq]
  exact (consumes_text? error).map presentError

theorem gives_readError : readError.Gives fun error => presentError error = error := by
  rw [readError_eq]
  exact .map fun _ error _ _ => presentError_presentError error

theorem consumes_int64? {field : String} {layout : Layout} (o : Option Int64) :
    Consumes (FieldReader.int64? field) ((field, o.map .ofInt64) :: layout) layout o :=
  consumes_optional (fun _ _ => Item.noConfusion) fun n _ => by
    simp [FieldReader.int64Of, Item.ofInt64]

/-! ## Layouts -/

def CreateOutcome.layout (m : CreateOutcome) : Layout :=
  [("requestId", some (.ofInt64 m.requestId)), ("evaluatorId", m.evaluatorId.map .ofInt64),
    ("error", m.error.map .text)]

def EvaluateOutcome.layout (m : EvaluateOutcome) : Layout :=
  [("requestId", some (.ofInt64 m.requestId)), ("evaluatorId", some (.ofInt64 m.evaluatorId)),
    ("result", m.result.map .bin), ("error", m.error.map .text)]

def LogLine.layout (line : LogLine) : Layout :=
  [("evaluatorId", some (.ofInt64 line.evaluatorId)), ("level", some (.ofInt64 line.level)),
    ("message", some (.text line.message)), ("frameUri", some (.text line.frameUri))]

def ReadRequest.layout (r : ReadRequest) : Layout :=
  [("requestId", some (.ofInt64 r.requestId)), ("evaluatorId", some (.ofInt64 r.evaluatorId)),
    ("uri", some (.text r.uri))]

namespace Incoming

/-- The fields of a message in the order in which they are taken, which is the one in which they are
written. -/
def layout : Incoming → Layout
  | .createEvaluatorResponse m => m.layout
  | .evaluateResponse m => m.layout
  | .log line => line.layout
  | .readResource r | .readModule r | .listResources r | .listModules r => r.layout

theorem pairs_eq (m : Incoming) : m.pairs = m.layout.pairs := by
  cases m <;>
    simp [pairs, layout, CreateOutcome.pairs, CreateOutcome.layout, EvaluateOutcome.pairs,
      EvaluateOutcome.layout, LogLine.pairs, LogLine.layout, ReadRequest.pairs, ReadRequest.layout,
      Layout.pairs, put?]

theorem nodup_layout (m : Incoming) : (m.layout.map Prod.fst).Nodup := by
  cases m <;>
    simp [layout, CreateOutcome.layout, EvaluateOutcome.layout, LogLine.layout, ReadRequest.layout]

/-! ## Reading back -/

/-- A message without an empty error text; nothing else of it is changed. -/
def normal : Incoming → Incoming
  | .createEvaluatorResponse m => .createEvaluatorResponse { m with error := presentError m.error }
  | .evaluateResponse m => .evaluateResponse { m with error := presentError m.error }
  | .log line => .log line
  | .readResource r => .readResource r
  | .readModule r => .readModule r
  | .listResources r => .listResources r
  | .listModules r => .listModules r

end Incoming

theorem ReadRequest.consumes_read (r : ReadRequest) : Consumes ReadRequest.read r.layout [] r :=
  .bind (consumes_int64 _) <| .bind (consumes_int64 _) <| .bind (consumes_text _) <| .pure _ _

theorem LogLine.consumes_read (line : LogLine) : Consumes LogLine.read line.layout [] line :=
  .bind (consumes_int64 _) <| .bind (consumes_int64 _) <| .bind (consumes_text _) <|
    .bind (consumes_text? (some line.frameUri)) <| .pure _ _

theorem CreateOutcome.consumes_read (m : CreateOutcome) :
    Consumes CreateOutcome.read m.layout [] { m with error := presentError m.error } :=
  .bind (consumes_int64 _) <| .bind (consumes_int64? _) <| .bind (consumes_readError _) <| .pure _ _

theorem EvaluateOutcome.consumes_read (m : EvaluateOutcome) :
    Consumes EvaluateOutcome.read m.layout [] { m with error := presentError m.error } :=
  .bind (consumes_int64 _) <| .bind (consumes_int64 _) <| .bind (consumes_binary? _) <|
    .bind (consumes_readError _) <| .pure _ _

namespace Incoming

theorem consumes_reader (m : Incoming) :
    ∃ reader, reader? m.kind = some reader ∧ Consumes reader m.layout [] m.normal := by
  cases m with
  | createEvaluatorResponse m => exact ⟨_, rfl, m.consumes_read.map _⟩
  | evaluateResponse m => exact ⟨_, rfl, m.consumes_read.map _⟩
  | log line => exact ⟨_, rfl, line.consumes_read.map _⟩
  | readResource r | readModule r | listResources r | listModules r =>
      exact ⟨_, rfl, r.consumes_read.map _⟩

/-- A message comes back in normal form. -/
theorem ofItem_toItem (m : Incoming) : ofItem m.toItem = .ok m.normal := by
  obtain ⟨reader, hreader, hconsumes⟩ := m.consumes_reader
  rw [ofItem, toItem, recordOf_recordItem]
  exact hconsumes.readKind hreader m.pairs_eq m.nodup_layout

/-! ## What was read -/

/-- The reader of a kind gives messages of that kind, and in normal form. -/
theorem gives_reader {kind : Kind} {reader : FieldReader Incoming} (h : reader? kind = some reader) :
    reader.Gives fun m => m.kind = kind ∧ m.normal = m := by
  cases kind with
  | createEvaluatorResponse =>
      obtain rfl := Option.some.inj h
      refine .map (.bind (.any _) fun _ _ => .bind (.any _) fun _ _ => gives_readError.bind ?_)
      intro error herror
      exact .pure ⟨rfl, by simp only [normal, herror]⟩
  | evaluateResponse =>
      obtain rfl := Option.some.inj h
      refine .map (.bind (.any _) fun _ _ => .bind (.any _) fun _ _ => .bind (.any _) fun _ _ =>
        gives_readError.bind ?_)
      intro error herror
      exact .pure ⟨rfl, by simp only [normal, herror]⟩
  | log | readResource | readModule | listResources | listModules =>
      obtain rfl := Option.some.inj h
      exact .map fun _ _ _ _ => ⟨rfl, rfl⟩
  | _ => cases h

/-- A message that was read is in normal form, and its kind is the one that its record announces. -/
theorem normal_of_ofItem {item : Item} {m : Incoming} (h : ofItem item = .ok m) :
    m.normal = m ∧ ∃ pairs, item = .array [.ofUInt64 m.kind.code, .map pairs] := by
  obtain ⟨⟨code, pairs⟩, hrecord, hkind⟩ := bind_eq_ok_iff.1 h
  obtain ⟨kind, reader, rfl, hreader, hpairs⟩ := readKind_eq_ok hkind
  obtain ⟨rfl, hnormal⟩ := (gives_reader hreader).readPairs hpairs
  exact ⟨hnormal, pairs, recordOf_eq_ok hrecord⟩

/-! ## Octets -/

theorem layout_allText (m : Incoming) : m.layout.AllText := by
  cases m <;>
    simp [layout, CreateOutcome.layout, EvaluateOutcome.layout, LogLine.layout, ReadRequest.layout,
      Layout.AllText, Item.ofInt64, Item.AllText]

/-- The contents of a field are a number, a text or octets, so that no budget is too small for them. -/
theorem depth_le (m : Incoming) : m.toItem.depth ≤ depthLimit := by
  have hfields : ∀ field ∈ m.layout, ∀ v ∈ field.2, v.depth ≤ 3 := by
    cases m <;>
      simp [layout, CreateOutcome.layout, EvaluateOutcome.layout, LogLine.layout, ReadRequest.layout,
        Item.ofInt64, Item.depth]
  have hpairs : depthPairs m.pairs ≤ 3 := by
    rw [m.pairs_eq, depthPairs_le_iff]
    intro p hp
    obtain ⟨⟨name, v⟩, hfield, hput⟩ := List.mem_flatMap.1 hp
    cases v with
    | none => cases hput
    | some v =>
        obtain rfl := List.mem_singleton.1 hput
        exact ⟨by simp [Item.depth], hfields _ hfield v rfl⟩
  simp only [toItem, recordItem, Item.ofUInt64, Item.depth, depthItems, depthLimit]
  omega

/-- What is written of a message is read again as its record, and what follows is left. -/
theorem firstItem_encode {limit : Nat} (m : Incoming) (hsize : m.encode.length ≤ limit)
    (hlengths : limit < 0x100000000 ∨ m.toItem.LengthsFit) (rest : Bytes) :
    firstItem limit (m.encode ++ rest) = .ok (.whole m.toItem rest) := by
  have hfit : m.toItem.LengthsFit :=
    hlengths.elim (fun hlimit => m.toItem.lengthsFit_of_write (Nat.lt_of_le_of_lt hsize hlimit)) id
  have hpairs := m.layout_allText.pairs
  rw [← pairs_eq] at hpairs
  have hfits : Fits limit (m.toItem, m.encode) :=
    ⟨m.toItem.spelledBy_write hfit ⟨trivial, hpairs, trivial⟩, hsize, m.depth_le⟩
  exact firstItem_of_fits hfits rest

/-- Every message of a server comes back without an empty error text, and else as it was.  A message that
was read from any record comes back as it is, and its kind is that of the record.  Octets make no difference,
if they are within the limit and no length in them is beyond 32 bits; the depth always is. -/
theorem reads_normal :
    (∀ m : Incoming, ofItem m.toItem = .ok m.normal) ∧
    (∀ item m, ofItem item = .ok m →
      ofItem m.toItem = .ok m ∧ ∃ pairs, item = .array [.ofUInt64 m.kind.code, .map pairs]) ∧
    ∀ (m : Incoming) (limit : Nat) (rest : Bytes), m.encode.length ≤ limit →
      limit < 0x100000000 ∨ m.toItem.LengthsFit →
      firstItem limit (m.encode ++ rest) = .ok (.whole m.toItem rest) := by
  refine ⟨ofItem_toItem, ?_, fun m limit rest hsize hlengths => m.firstItem_encode hsize hlengths rest⟩
  intro item m h
  obtain ⟨hnormal, hrecord⟩ := normal_of_ofItem h
  exact ⟨by rw [ofItem_toItem, hnormal], hrecord⟩

/-- An empty error text does not come back. -/
theorem reads_normal_empty_error :
    let m : Incoming := .createEvaluatorResponse ⟨1, some 2, some ""⟩
    ofItem m.toItem = .ok (.createEvaluatorResponse ⟨1, some 2, none⟩) ∧
      ∀ rest, firstItem 50 (m.encode ++ rest) = .ok (.whole m.toItem rest) := by
  intro m
  exact ⟨reads_normal.1 m, fun rest => reads_normal.2.2 m 50 rest (by decide +kernel) (.inl (by decide))⟩

end Incoming

end PklHost.Message
