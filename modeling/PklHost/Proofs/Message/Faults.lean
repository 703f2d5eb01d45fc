import PklHost.Message.Outgoing
import PklHost.Message.Stream
import PklHost.Proofs.Message.Agreement

/-!
# Faults of records and faults of the stream

A record that cannot be read costs itself and nothing else, and octets that cannot be read are never
taken for such a record.  `FaultsApart` says so of everything that reads: whoever reads a record reports
faults that are not fatal, at any depth (`Spares`), whoever reads the stream reports fatal ones, and a
buffer from which no item was taken is as it was.

`Spares` follows the readers of records, with one rule for each way in which they are put together.  Of
the stream it is said for one attempt first, and then for all attempts until one gives no item.
-/

namespace PklHost.Message

open MessagePack (Item)

variable {α β : Type}

/-! ## Readings that spare the stream -/

/-- A result that is no fatal fault. -/
def Spares (r : Except FrameError α) : Prop :=
  ∀ e, r = .error e → e.isFatal = false

/-- A reading of fields that reports no fatal fault. -/
def FieldReader.Spares (read : FieldReader α) : Prop :=
  ∀ f, Message.Spares (read f)

namespace Spares

theorem ok (x : α) : Spares (.ok x) := fun _ h => by cases h

theorem error {e : FrameError} (h : e.isFatal = false) : Spares (.error e : Except FrameError α) := by
  intro e' he
  cases he
  exact h

theorem bind {r : Except FrameError α} {next : α → Except FrameError β} (h : Spares r)
    (hnext : ∀ x, Spares (next x)) : Spares (r >>= next) := by
  cases r with
  | error e => exact error (h e rfl)
  | ok x => exact hnext x

theorem mapM {γ : Type} {read : γ → Except FrameError α} {xs : List γ}
    (h : ∀ x ∈ xs, Spares (read x)) : Spares (xs.mapM read) := by
  induction xs with
  | nil => exact ok []
  | cons x xs ih =>
      rw [List.mapM_cons]
      have hrest := ih fun y hy => h y (List.mem_cons_of_mem x hy)
      exact (h x List.mem_cons_self).bind fun _ => hrest.bind fun _ => ok _

end Spares

namespace FieldReader.Spares

theorem pure (x : α) : FieldReader.Spares (Pure.pure x) := fun _ => .ok _

theorem bind {read : FieldReader α} {next : α → FieldReader β} (h : read.Spares)
    (hnext : ∀ x, (next x).Spares) : FieldReader.Spares (read >>= next) :=
  fun f => (h f).bind fun p => hnext p.1 p.2

theorem map {read : FieldReader α} (g : α → β) (h : read.Spares) :
    FieldReader.Spares (g <$> read) := by
  rw [map_eq_pure_bind]
  exact h.bind fun _ => pure _

theorem lift {r : Except FrameError α} (h : Message.Spares r) :
    FieldReader.Spares (StateT.lift r) :=
  fun _ => h.bind fun _ => .ok _

theorem mapM {γ : Type} {read : γ → FieldReader α} (h : ∀ x, (read x).Spares) (xs : List γ) :
    FieldReader.Spares (xs.mapM read) := by
  induction xs with
  | nil => exact pure []
  | cons x xs ih =>
      rw [List.mapM_cons]
      exact (h x).bind fun _ => ih.bind fun _ => pure _

theorem invalid (field : String) (expected : Expectation) :
    (FieldReader.invalid field expected : FieldReader α).Spares :=
  fun _ => .error rfl

theorem take (field : String) : (FieldReader.take field).Spares := by
  intro f
  unfold FieldReader.take
  split <;> exact .ok _

theorem need (field : String) : (FieldReader.need field).Spares :=
  (take field).bind fun
    | none => fun _ => .error rfl
    | some v => pure v

theorem textOf (field : String) (v : Item) : (FieldReader.textOf field v).Spares := by
  unfold FieldReader.textOf
  split
  · exact pure _
  · exact invalid field _
  · exact invalid field _

theorem int64Of (field : String) (v : Item) : (FieldReader.int64Of field v).Spares := by
  unfold FieldReader.int64Of
  split
  · split
    · exact pure _
    · exact invalid field _
  · exact invalid field _

theorem optional (field : String) {read : Item → FieldReader α} (h : ∀ v, (read v).Spares) :
    (FieldReader.optional field read).Spares :=
  (take field).bind fun
    | none => pure none
    | some v => (h v).bind fun _ => pure _

theorem int64 (field : String) : (FieldReader.int64 field).Spares :=
  (need field).bind (int64Of field)

theorem int64? (field : String) : (FieldReader.int64? field).Spares :=
  optional field (int64Of field)

theorem text (field : String) : (FieldReader.text field).Spares :=
  (need field).bind (textOf field)

theorem text? (field : String) : (FieldReader.text? field).Spares :=
  optional field (textOf field)

theorem bool (field : String) : (FieldReader.bool field).Spares := by
  refine (take field).bind fun o => ?_
  split
  · exact pure _
  · exact pure _
  · exact invalid field _

theorem binary? (field : String) : (FieldReader.binary? field).Spares := by
  refine optional field fun v => ?_
  split
  · exact pure _
  · exact invalid field _

theorem array? (field : String) : (FieldReader.array? field).Spares := by
  refine optional field fun v => ?_
  split
  · exact pure _
  · exact invalid field _

theorem texts? (field : String) : (FieldReader.texts? field).Spares :=
  (array? field).bind fun
    | none => pure none
    | some items => (mapM (textOf field) items).bind fun _ => pure _

theorem textMap? (field : String) : (FieldReader.textMap? field).Spares := by
  refine optional field fun v => ?_
  split
  · refine (mapM (fun p => ?_) _).bind fun _ => pure _
    exact (textOf field p.1).bind fun _ => (textOf field p.2).bind fun _ => pure _
  · exact invalid field _

theorem records? (field : String) {read : Item → Except FrameError α}
    (h : ∀ v, Message.Spares (read v)) : (FieldReader.records? field read).Spares :=
  (array? field).bind fun
    | none => pure none
    | some _ => (lift (.mapM fun v _ => h v)).bind fun _ => pure _

theorem readPairs {read : FieldReader α} (h : read.Spares) (record : RecordName)
    (pairs : List (Item × Item)) : Message.Spares (FieldReader.readPairs record read pairs) := by
  unfold FieldReader.readPairs
  split
  · exact .ok _
  · next e hread => exact .error (h _ e hread)

theorem ofMap {read : FieldReader α} (h : read.Spares) (record : RecordName) (v : Item) :
    Message.Spares (FieldReader.ofMap record read v) := by
  unfold FieldReader.ofMap
  split
  · exact h.readPairs record _
  · exact .error rfl

end FieldReader.Spares

/-! ## The readers of records -/

theorem ReaderSpec.spares_read : ReaderSpec.read.Spares :=
  .bind (.text _) fun _ => .bind (.bool _) fun _ => .bind (.bool _) fun _ => .pure _

theorem ModuleReaderSpec.spares_read : ModuleReaderSpec.read.Spares :=
  .bind (.text _) fun _ => .bind (.bool _) fun _ => .bind (.bool _) fun _ =>
    .bind (.bool _) fun _ => .pure _

theorem PathElement.spares_read : PathElement.read.Spares :=
  .bind (.text _) fun _ => .bind (.bool _) fun _ => .pure _

namespace Dependency

theorem spares_checksumOf (v : Item) : Spares (checksumOf v) :=
  (FieldReader.Spares.text _).ofMap _ v

theorem spares_readHead : readHead.Spares := by
  have hkind : readKind.Spares := by
    refine .bind (.text _) fun text => ?_
    split
    · exact .pure _
    · exact .invalid _ _
  have hchecksum : readChecksum.Spares := .optional _ fun v => .lift (spares_checksumOf v)
  exact .bind hkind fun _ => .bind hchecksum fun _ => .bind (.take _) fun _ => .pure _

theorem spares_readTail (head : Head) (ds : Option (List (String × Dependency))) (f : Fields) :
    Spares ((readTail head ds).run' f) := by
  have hread : (readTail head ds).Spares :=
    .bind (.text? _) fun _ => .bind (.text? _) fun _ => .pure _
  show Spares (Prod.fst <$> readTail head ds f)
  rw [map_eq_pure_bind]
  exact (hread f).bind fun _ => .ok _

mutual

/-- A description is read without a fatal fault, and so are those inside it, however deep. -/
theorem spares_ofItem (item : Item) : Spares (ofItem item) := by
  cases item with
  | map pairs =>
      rw [ofItem_map]
      split
      · next e hhead => exact .error (spares_readHead _ e hhead)
      · next head fields hhead =>
          unfold ofHead
          split
          · exact spares_readTail head none fields
          · next inner hinner =>
              have := sizeOf_lt_of_readHead hhead hinner
              split
              · next e hpairs => exact .error (spares_ofPairs inner e hpairs)
              · exact spares_readTail head _ fields
          · exact .error rfl
  | _ =>
      unfold ofItem
      exact .error rfl
termination_by sizeOf item
decreasing_by
  simp only [Item.map.sizeOf_spec] at this ⊢
  omega

theorem spares_ofPairs (pairs : List (Item × Item)) : Spares (ofPairs pairs) := by
  unfold ofPairs
  split
  · exact .ok _
  · next name v rest =>
      split
      · next e hitem => exact .error (spares_ofItem v e hitem)
      · split
        · next e hrest => exact .error (spares_ofPairs rest e hrest)
        · exact .ok _
  · exact .error rfl
termination_by sizeOf pairs

end

end Dependency

theorem ReadRequest.spares_read : ReadRequest.read.Spares :=
  .bind (.int64 _) fun _ => .bind (.int64 _) fun _ => .bind (.text _) fun _ => .pure _

theorem spares_readError : readError.Spares := by
  refine .bind (.text? _) fun o => ?_
  split
  · exact .pure _
  · exact .pure none

theorem CreateOutcome.spares_read : CreateOutcome.read.Spares :=
  .bind (.int64 _) fun _ => .bind (.int64? _) fun _ => .bind spares_readError fun _ => .pure _

theorem EvaluateOutcome.spares_read : EvaluateOutcome.read.Spares :=
  .bind (.int64 _) fun _ => .bind (.int64 _) fun _ => .bind (.binary? _) fun _ =>
    .bind spares_readError fun _ => .pure _

theorem LogLine.spares_read : LogLine.read.Spares :=
  .bind (.int64 _) fun _ => .bind (.int64 _) fun _ => .bind (.text _) fun _ =>
    .bind (.text? _) fun _ => .pure _

theorem Evaluate.spares_read : Evaluate.read.Spares :=
  .bind (.int64 _) fun _ => .bind (.int64 _) fun _ => .bind (.text _) fun _ =>
    .bind (.text? _) fun _ => .bind (.text? _) fun _ => .pure _

theorem CreateEvaluator.spares_read : CreateEvaluator.read.Spares :=
  .bind (.int64 _) fun _ =>
    .bind (.records? _ (ReaderSpec.spares_read.ofMap _)) fun _ =>
    .bind (.records? _ (ModuleReaderSpec.spares_read.ofMap _)) fun _ =>
    .bind (.texts? _) fun _ => .bind (.textMap? _) fun _ => .bind (.textMap? _) fun _ =>
    .bind (.text? _) fun _ => .bind (.texts? _) fun _ => .bind (.texts? _) fun _ =>
    .bind (.text? _) fun _ => .bind (.text? _) fun _ =>
    .bind (.optional _ fun v => .lift (Dependency.spares_ofItem v)) fun _ => .pure _

theorem Reply.spares_read {contents : FieldReader (Option α)} (h : contents.Spares) (empty : α) :
    (Reply.read contents empty).Spares :=
  .bind (.int64 _) fun _ => .bind (.int64 _) fun _ => .bind (.text? _) fun
    | some _ => .pure _
    | none => .bind h fun _ => .pure _

theorem spares_readListing : readListing.Spares :=
  .records? _ (PathElement.spares_read.ofMap _)

theorem spares_recordOf (item : Item) : Spares (recordOf item) := by
  unfold recordOf
  split
  · split
    · exact .error rfl
    · exact .ok _
    · exact .error rfl
  · exact .error rfl
  · exact .error rfl

theorem spares_readKind {reader? : Kind → Option (FieldReader α)}
    (h : ∀ kind read, reader? kind = some read → read.Spares) (code : UInt64)
    (pairs : List (Item × Item)) : Spares (readKind reader? code pairs) := by
  unfold readKind
  split
  · exact .error rfl
  · split
    · exact .error rfl
    · next read hread => exact (h _ read hread).readPairs _ pairs

theorem Incoming.spares_ofItem (item : Item) : Spares (Incoming.ofItem item) := by
  refine (spares_recordOf item).bind fun record => spares_readKind (fun kind read hread => ?_) _ _
  cases kind with
  | createEvaluatorResponse =>
      obtain rfl := Option.some.inj hread
      exact CreateOutcome.spares_read.map _
  | evaluateResponse =>
      obtain rfl := Option.some.inj hread
      exact EvaluateOutcome.spares_read.map _
  | log =>
      obtain rfl := Option.some.inj hread
      exact LogLine.spares_read.map _
  | readResource | readModule | listResources | listModules =>
      obtain rfl := Option.some.inj hread
      exact ReadRequest.spares_read.map _
  | _ => cases hread

theorem Outgoing.spares_ofItem (item : Item) : Spares (Outgoing.ofItem item) := by
  refine (spares_recordOf item).bind fun record => spares_readKind (fun kind read hread => ?_) _ _
  cases kind with
  | createEvaluator =>
      obtain rfl := Option.some.inj hread
      exact CreateEvaluator.spares_read.map _
  | closeEvaluator =>
      obtain rfl := Option.some.inj hread
      exact (FieldReader.Spares.int64 _).map _
  | evaluate =>
      obtain rfl := Option.some.inj hread
      exact Evaluate.spares_read.map _
  | readResourceResponse =>
      obtain rfl := Option.some.inj hread
      exact (Reply.spares_read (.binary? _) _).map _
  | readModuleResponse =>
      obtain rfl := Option.some.inj hread
      exact (Reply.spares_read (.text? _) _).map _
  | listResourcesResponse | listModulesResponse =>
      obtain rfl := Option.some.inj hread
      exact (Reply.spares_read spares_readListing _).map _
  | _ => cases hread

/-! ## The stream -/

theorem isFatal_of_firstItem {limit : Nat} {buffer : Bytes} {e : FrameError}
    (h : firstItem limit buffer = .error e) : e.isFatal = true := by
  unfold firstItem at h
  split at h
  · cases h
    rfl
  · split at h
    · cases h
    · cases h
      rfl
  · split at h
    · cases h
      rfl
    · split at h
      · cases h
      · cases h
        rfl

theorem takeItem_eq (limit : Nat) (buffer : Bytes) :
    (takeItem limit).run.run buffer =
      match firstItem limit buffer with
      | .ok (.whole item rest) => (.ok (some item), rest)
      | .ok (.needs _) => (.ok none, buffer)
      | .error e => (.error e, buffer) := by
  show (match firstItem limit buffer with
    | .ok (.whole item rest) => do set rest; return some item
    | .ok (.needs _) => return none
    | .error e => throw e : ExceptT FrameError (StateM Bytes) (Option Item)).run.run buffer = _
  cases firstItem limit buffer with
  | error e => rfl
  | ok found => cases found <;> rfl

/-- What an attempt hands out: records whose faults are not fatal, and faults of the stream that are. -/
def Decoded.Apart : Decoded → Prop
  | .item x => Spares x
  | .waiting => True
  | .failed e => e.isFatal = true

/-- An attempt that takes no item off the buffer. -/
def Decoded.TakesNothing : Decoded → Prop
  | .item _ => False
  | .waiting | .failed _ => True

namespace StreamDecoder

theorem decode_apart (d : StreamDecoder) :
    d.decode.1.Apart ∧ (d.decode.1.TakesNothing → d.decode.2.buffer = d.buffer) := by
  unfold decode
  split
  · exact ⟨trivial, fun _ => rfl⟩
  · split
    · next e hfirst => exact ⟨isFatal_of_firstItem hfirst, fun _ => rfl⟩
    · exact ⟨trivial, fun _ => rfl⟩
    · next item rest _ => exact ⟨Incoming.spares_ofItem item, False.elim⟩

theorem decodeEnd_apart (d : StreamDecoder) :
    d.decodeEnd.1.Apart ∧ (d.decodeEnd.1.TakesNothing → d.decodeEnd.2.buffer = d.buffer) := by
  have happart := d.decode_apart
  unfold decodeEnd
  split
  · next d' hdecode =>
      rw [hdecode] at happart
      have hbuffer : d'.buffer = d.buffer := happart.2 trivial
      -- what is left over at the end of the stream is a fault of the stream
      split
      · exact ⟨trivial, fun _ => hbuffer⟩
      · exact ⟨rfl, fun _ => hbuffer⟩
  · exact happart

/-- All attempts until one gives no item, if each of them hands out what it may. -/
theorem drainUpTo_apart {attempt : StreamDecoder → Decoded × StreamDecoder}
    (h : ∀ d, (attempt d).1.Apart) (count : Nat) (d : StreamDecoder) :
    (∀ x ∈ (drainUpTo attempt count d).items, Spares x) ∧
      ∀ e, (drainUpTo attempt count d).fault = some e → e.isFatal = true := by
  induction count generalizing d with
  | zero =>
      refine ⟨fun x hx => ?_, fun e he => ?_⟩
      · cases hx
      · cases he
  | succ count ih =>
      have happart := h d
      rw [drainUpTo]
      split
      · refine ⟨fun x hx => ?_, fun e he => ?_⟩
        · cases hx
        · cases he
      · next e d' hfails =>
          rw [hfails] at happart
          refine ⟨fun x hx => ?_, fun e' he => ?_⟩
          · cases hx
          · obtain rfl := Option.some.inj he
            exact happart
      · next x d' htakes =>
          rw [htakes] at happart
          refine ⟨fun y hy => ?_, (ih d').2⟩
          rcases List.mem_cons.1 hy with rfl | hrest
          · exact happart
          · exact (ih d').1 y hrest

end StreamDecoder

/-! ## Faults are kept apart -/

/-- Faults of records and faults of the stream are kept apart, and faults of the stream take nothing. -/
structure FaultsApart : Prop where
  /-- Whatever an item holds, and however deep the fault is, its record alone is lost. -/
  incoming : ∀ item e, Incoming.ofItem item = .error e → e.isFatal = false
  outgoing : ∀ item e, Outgoing.ofItem item = .error e → e.isFatal = false
  /-- A buffer that cannot be read is at its end, and stays as it is. -/
  refused : ∀ limit buffer left e, (takeItem limit).run.run buffer = (.error e, left) →
    e.isFatal = true ∧ left = buffer
  /-- A buffer that lacks octets stays as it is. -/
  lacking : ∀ limit buffer left, (takeItem limit).run.run buffer = (.ok none, left) → left = buffer
  /-- An item that is taken takes the octets with it that spell it, and no more. -/
  taken : ∀ limit buffer left item, (takeItem limit).run.run buffer = (.ok (some item), left) →
    ∃ octets, octets ≠ [] ∧ buffer = octets ++ left ∧ Fits limit (item, octets)
  /-- An attempt to decode a message, before the end of the stream and at it. -/
  attempts : ∀ d : StreamDecoder, d.decode.1.Apart ∧ d.decodeEnd.1.Apart
  unmoved : ∀ d : StreamDecoder, (d.decode.1.TakesNothing → d.decode.2.buffer = d.buffer) ∧
    (d.decodeEnd.1.TakesNothing → d.decodeEnd.2.buffer = d.buffer)
  /-- All attempts until one gives no item. -/
  drained : ∀ d : StreamDecoder, ∀ r ∈ [d.drain, d.drainEnd],
    (∀ e, .error e ∈ r.items → e.isFatal = false) ∧ ∀ e, r.fault = some e → e.isFatal = true

theorem faults_apart : FaultsApart where
  incoming item e h := Incoming.spares_ofItem item e h
  outgoing item e h := Outgoing.spares_ofItem item e h
  refused limit buffer left e h := by
    rw [takeItem_eq] at h
    split at h
    · cases h
    · cases h
    · next e' hfirst =>
        cases h
        exact ⟨isFatal_of_firstItem hfirst, rfl⟩
  lacking limit buffer left h := by
    rw [takeItem_eq] at h
    split at h
    · cases h
    · cases h
      rfl
    · cases h
  taken limit buffer left item h := by
    rw [takeItem_eq] at h
    split at h
    · next x rest hfirst =>
        cases h
        obtain ⟨octets, hbuffer, hfits⟩ := fits_of_firstItem hfirst
        refine ⟨octets, ?_, hbuffer, hfits⟩
        rintro rfl
        have hlength := length_lt_of_firstItem hfirst
        rw [hbuffer] at hlength
        exact absurd hlength (Nat.lt_irrefl _)
    · cases h
    · cases h
  attempts d := ⟨d.decode_apart.1, d.decodeEnd_apart.1⟩
  unmoved d := ⟨d.decode_apart.2, d.decodeEnd_apart.2⟩
  drained d := by
    have hdrained : ∀ {attempt : StreamDecoder → Decoded × StreamDecoder},
        (∀ d, (attempt d).1.Apart) → ∀ count,
        (∀ e, .error e ∈ (StreamDecoder.drainUpTo attempt count d).items → e.isFatal = false) ∧
          ∀ e, (StreamDecoder.drainUpTo attempt count d).fault = some e → e.isFatal = true := by
      intro attempt hattempt count
      obtain ⟨hitems, hfault⟩ := StreamDecoder.drainUpTo_apart hattempt count d
      exact ⟨fun e he => hitems _ he e rfl, hfault⟩
    intro r hr
    rcases List.mem_cons.1 hr with rfl | hr
    · exact hdrained (fun d => d.decode_apart.1) _
    · obtain rfl := List.mem_singleton.1 hr
      exact hdrained (fun d => d.decodeEnd_apart.1) _

/-- A truth value in the place of a checksum, two records deep in a request: the request alone is
lost. -/
example :
    let checksums : Item := .map [(.text "sha256", .bool true)]
    let project : Item := .map [(.text "type", .text "local"), (.text "checksums", checksums)]
    let request := recordItem .createEvaluator [(.text "requestId", .ofInt64 1), (.text "project", project)]
    (match Outgoing.ofItem request with
      | .error e => some (e.message, e.isFatal)
      | .ok _ => none) =
      some ("Checksums: invalid field \"sha256\": expected string", false) := by
  decide +kernel

end PklHost.Message
