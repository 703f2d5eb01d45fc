import Mathlib.Data.List.Perm.Basic
import PklHost.Message.Fields
import PklHost.Proofs.Except
import PklHost.Proofs.MessagePack.Reading

/-!
# Taking the fields of a record

A reader takes fields by name, and whatever it leaves is in another order than before.  So the fields of a
record are known by their names alone: `Holds layout f` says that what is left to be taken are the fields of
a layout, in any order.  `Consumes read layout rest x` says of a reader what it makes of such a record, and
readers that follow one another compose (`Consumes.bind`).

A layout lists the fields in the order in which they are taken, so that every step of a reader takes the
first one; the names of a layout differ.
-/

namespace PklHost.Message

open MessagePack (Item eq_ofUInt64_of_toUInt64?)

/-! ## Pairs -/

theorem perm_fillGap (pairs : List (Item × Item)) : (fillGap pairs).Perm pairs := by
  unfold fillGap
  split
  · next h =>
      rw [List.getLast?_eq_none_iff.1 h]
  · next last h =>
      obtain ⟨init, rfl⟩ := List.getLast?_eq_some_iff.1 h
      rw [List.dropLast_concat]
      exact (List.perm_append_singleton last init).symm

theorem isName_iff {name : String} {k : Item} : isName name k = true ↔ k = .text name := by
  cases k <;> simp [isName]

/-- What is taken and what is left are the pairs, in some order. -/
theorem perm_of_takePair {name : String} {pairs rest : List (Item × Item)} {v : Item}
    (h : takePair name pairs = some (v, rest)) : pairs.Perm ((.text name, v) :: rest) := by
  induction pairs generalizing rest with
  | nil => cases h
  | cons p tail ih =>
      obtain ⟨k, v'⟩ := p
      rw [takePair] at h
      split at h
      · next hname =>
          obtain ⟨rfl, rfl⟩ := Prod.mk.inj (Option.some.inj h)
          rw [isName_iff.1 hname]
          exact (perm_fillGap tail).symm.cons _
      · split at h
        · next v'' rest' htake =>
            obtain ⟨rfl, rfl⟩ := Prod.mk.inj (Option.some.inj h)
            exact ((ih htake).cons _).trans (List.Perm.swap _ _ _)
        · cases h

theorem takePair_eq_none_iff {name : String} {pairs : List (Item × Item)} :
    takePair name pairs = none ↔ ∀ v, (.text name, v) ∉ pairs := by
  induction pairs with
  | nil => simp [takePair]
  | cons p tail ih =>
      obtain ⟨k, v'⟩ := p
      rw [takePair]
      split
      · next hname =>
          rw [isName_iff.1 hname]
          exact iff_of_false (Option.some_ne_none _) fun hno => hno v' List.mem_cons_self
      · next hname =>
          have hk : ∀ v, (Item.text name, v) ≠ (k, v') := by
            rintro v heq
            exact hname (isName_iff.2 (Prod.mk.inj heq).1.symm)
          split
          · next v'' rest' htake =>
              have hmem : (Item.text name, v'') ∈ tail :=
                (perm_of_takePair htake).mem_iff.2 List.mem_cons_self
              exact iff_of_false (Option.some_ne_none _) fun hno =>
                hno v'' (List.mem_cons_of_mem _ hmem)
          · next hnone =>
              simp only [true_iff, List.mem_cons, not_or]
              exact fun v => ⟨hk v, ih.1 hnone v⟩

/-! ## Layouts -/

/-- Fields by name, in the order in which they are taken; a field without contents is left out. -/
abbrev Layout := List (String × Option Item)

/-- The pairs of a record that has these fields. -/
def Layout.pairs (layout : Layout) : List (Item × Item) :=
  layout.flatMap fun field => put? field.1 field.2

theorem Layout.pairs_cons (name : String) (v : Option Item) (layout : Layout) :
    Layout.pairs ((name, v) :: layout) = put? name v ++ layout.pairs := rfl

theorem Layout.mem_names {layout : Layout} {name : String} {v : Item}
    (h : (.text name, v) ∈ layout.pairs) : name ∈ layout.map Prod.fst := by
  obtain ⟨⟨name', v'⟩, hmem, hput⟩ := List.mem_flatMap.1 h
  cases v' with
  | none => cases hput
  | some v' =>
      have heq : (Item.text name, v) = (.text name', v') := by simpa [put?, put] using hput
      rw [Item.text.inj (Prod.mk.inj heq).1]
      exact List.mem_map_of_mem hmem

/-- What is left of a record are the fields of a layout, in any order. -/
structure Holds (layout : Layout) (f : Fields) : Prop where
  pairs : f.pairs.Perm layout.pairs
  distinct : (layout.map Prod.fst).Nodup

variable {α β : Type} {layout mid rest : Layout} {x : α} {y : β}

/-- Of the fields of a layout, a reader makes `x` and leaves those of another one. -/
def Consumes (read : FieldReader α) (layout rest : Layout) (x : α) : Prop :=
  ∀ f, Holds layout f → ∃ f', read f = .ok (x, f') ∧ Holds rest f'

namespace Consumes

theorem pure (x : α) (layout : Layout) : Consumes (Pure.pure x) layout layout x :=
  fun f hf => ⟨f, rfl, hf⟩

theorem bind {read : FieldReader α} {next : α → FieldReader β} (h : Consumes read layout mid x)
    (hnext : Consumes (next x) mid rest y) : Consumes (read >>= next) layout rest y := by
  intro f hf
  obtain ⟨f', hread, hf'⟩ := h f hf
  obtain ⟨f'', hrun, hf''⟩ := hnext f' hf'
  refine ⟨f'', ?_, hf''⟩
  show (read f >>= fun p => next p.1 p.2) = _
  rw [hread]
  exact hrun

theorem map {read : FieldReader α} (g : α → β) (h : Consumes read layout rest x) :
    Consumes (g <$> read) layout rest (g x) := by
  rw [map_eq_pure_bind]
  exact h.bind (.pure (g x) rest)

theorem lift {r : Except FrameError α} (h : r = .ok x) (layout : Layout) :
    Consumes (StateT.lift r) layout layout x := by
  intro f hf
  subst h
  exact ⟨f, rfl, hf⟩

theorem run' {read : FieldReader α} {f : Fields} (h : Consumes read layout rest x)
    (hf : Holds layout f) : StateT.run' read f = .ok x := by
  obtain ⟨f', hread, -⟩ := h f hf
  show Prod.fst <$> read f = _
  rw [hread]
  rfl

/-- The contents of a record that a reader consumes. -/
theorem readPairs {read : FieldReader α} {record : RecordName} {pairs : List (Item × Item)}
    (h : Consumes read layout rest x) (hpairs : pairs = layout.pairs)
    (hdistinct : (layout.map Prod.fst).Nodup) : FieldReader.readPairs record read pairs = .ok x := by
  obtain ⟨f', hread, -⟩ := h ⟨record, pairs⟩ ⟨hpairs ▸ List.Perm.refl _, hdistinct⟩
  have hrun : read.run ⟨record, pairs⟩ = .ok (x, f') := hread
  unfold FieldReader.readPairs
  rw [hrun]

end Consumes

/-! ## Single fields -/

variable {field : String}

/-- Taking the first field of a layout.  Contents that are nil would be taken for none. -/
theorem consumes_take {v : Option Item} (hv : v ≠ some .nil) :
    Consumes (FieldReader.take field) ((field, v) :: layout) layout v := by
  rintro f ⟨hpairs, hdistinct⟩
  obtain ⟨hfield, hrest⟩ := List.nodup_cons.1 hdistinct
  have hother : ∀ w, (.text field, w) ∉ layout.pairs := fun w hw => hfield (Layout.mem_names hw)
  rw [Layout.pairs_cons] at hpairs
  cases v with
  | none =>
      have hnone : takePair field f.pairs = none := by
        rw [takePair_eq_none_iff]
        exact fun w hw => hother w (hpairs.mem_iff.1 hw)
      refine ⟨f, ?_, hpairs, hrest⟩
      unfold FieldReader.take
      rw [hnone]
  | some v =>
      cases htake : takePair field f.pairs with
      | none =>
          exact absurd (hpairs.mem_iff.2 List.mem_cons_self) (takePair_eq_none_iff.1 htake v)
      | some taken =>
          obtain ⟨w, left⟩ := taken
          have hperm := (perm_of_takePair htake).symm.trans hpairs
          -- the name stands in the layout once, so that what was taken is its contents
          have hw : w = v := by
            rcases List.mem_cons.1 (hperm.mem_iff.1 List.mem_cons_self) with heq | hmem
            · exact (Prod.mk.inj heq).2
            · exact absurd hmem (hother w)
          subst hw
          refine ⟨{ f with pairs := left }, ?_, hperm.cons_inv, hrest⟩
          unfold FieldReader.take
          rw [htake]
          cases w with
          | nil => exact absurd rfl hv
          | _ => rfl

theorem consumes_need {v : Item} (hv : v ≠ .nil) :
    Consumes (FieldReader.need field) ((field, some v) :: layout) layout v :=
  (consumes_take fun h => hv (Option.some.inj h)).bind (.pure v layout)

theorem consumes_optional {read : Item → FieldReader α} {write : α → Item} {o : Option α}
    (hwrite : ∀ x ∈ o, write x ≠ .nil) (hread : ∀ x ∈ o, read (write x) = pure x) :
    Consumes (FieldReader.optional field read) ((field, o.map write) :: layout) layout o := by
  refine (consumes_take ?_).bind ?_
  · intro h
    obtain ⟨x, hx, hnil⟩ := Option.map_eq_some_iff.1 h
    exact hwrite x hx hnil
  · cases o with
    | none => exact .pure none layout
    | some x =>
        show Consumes (read (write x) >>= _) _ _ _
        rw [hread x rfl]
        exact Consumes.bind (.pure x layout) (.pure (some x) layout)

theorem consumes_int64 (n : Int64) :
    Consumes (FieldReader.int64 field) ((field, some (.ofInt64 n)) :: layout) layout n := by
  refine (consumes_need Item.noConfusion).bind ?_
  have hread : FieldReader.int64Of field (.ofInt64 n) = pure n := by
    simp [FieldReader.int64Of, Item.ofInt64]
  rw [hread]
  exact .pure n layout

theorem consumes_text (s : String) :
    Consumes (FieldReader.text field) ((field, some (.text s)) :: layout) layout s :=
  (consumes_need Item.noConfusion).bind (.pure s layout)

theorem consumes_text? (o : Option String) :
    Consumes (FieldReader.text? field) ((field, o.map .text) :: layout) layout o :=
  consumes_optional (fun _ _ => Item.noConfusion) fun _ _ => rfl

theorem consumes_bool (b : Bool) :
    Consumes (FieldReader.bool field) ((field, some (.bool b)) :: layout) layout b :=
  (consumes_take fun h => Item.noConfusion (Option.some.inj h)).bind (.pure b layout)

theorem consumes_binary? (o : Option Bytes) :
    Consumes (FieldReader.binary? field) ((field, o.map .bin) :: layout) layout o :=
  consumes_optional (fun _ _ => Item.noConfusion) fun _ _ => rfl

theorem consumes_array? (o : Option (List Item)) :
    Consumes (FieldReader.array? field) ((field, o.map .array) :: layout) layout o :=
  consumes_optional (fun _ _ => Item.noConfusion) fun _ _ => rfl

/-! ## Lists of fields -/

/-- Reading back one by one what was written one by one. -/
theorem mapM_eq_pure {m : Type → Type} [Monad m] [LawfulMonad m] {γ : Type} {write : α → γ}
    {read : γ → m α} {xs : List α} (h : ∀ x ∈ xs, read (write x) = pure x) :
    (xs.map write).mapM read = pure xs := by
  induction xs with
  | nil => simp
  | cons x xs ih =>
      rw [List.map_cons, List.mapM_cons, h x List.mem_cons_self,
        ih fun x hx => h x (List.mem_cons_of_mem _ hx)]
      simp

theorem consumes_texts? (o : Option (List String)) :
    Consumes (FieldReader.texts? field) ((field, o.map textsItem) :: layout) layout o := by
  have htake : Consumes (FieldReader.array? field)
      ((field, (o.map (List.map Item.text)).map .array) :: layout) layout _ := consumes_array? _
  rw [Option.map_map] at htake
  refine htake.bind ?_
  cases o with
  | none => exact .pure none layout
  | some texts =>
      have hread : (texts.map Item.text).mapM (FieldReader.textOf field) = pure texts :=
        mapM_eq_pure fun _ _ => rfl
      show Consumes ((texts.map Item.text).mapM (FieldReader.textOf field) >>= _) _ _ _
      rw [hread]
      exact Consumes.bind (.pure texts layout) (.pure (some texts) layout)

theorem consumes_textMap? (o : Option (Dict String)) :
    Consumes (FieldReader.textMap? field) ((field, o.map textMapItem) :: layout) layout o := by
  refine consumes_optional (fun _ _ => Item.noConfusion) fun d _ => ?_
  show (List.mapM _ (d.pairs.map _) >>= fun pairs => pure (Dict.ofPairs pairs)) = _
  rw [mapM_eq_pure, pure_bind, Dict.ofPairs_pairs]
  exact fun _ _ => rfl

theorem consumes_records? {record : RecordName} {read : FieldReader α} {write : α → Item}
    (hread : ∀ x, FieldReader.ofMap record read (write x) = .ok x) (o : Option (List α)) :
    Consumes (FieldReader.records? field (FieldReader.ofMap record read))
      ((field, o.map fun xs => .array (xs.map write)) :: layout) layout o := by
  have htake : Consumes (FieldReader.array? field)
      ((field, (o.map (List.map write)).map .array) :: layout) layout _ := consumes_array? _
  rw [Option.map_map] at htake
  refine htake.bind ?_
  cases o with
  | none => exact .pure none layout
  | some xs =>
      have hall : (xs.map write).mapM (FieldReader.ofMap record read) = .ok xs :=
        mapM_eq_pure fun x _ => hread x
      exact (Consumes.lift hall layout).bind (.pure (some xs) layout)

/-! ## Whole records -/

theorem recordOf_recordItem (kind : Kind) (pairs : List (Item × Item)) :
    recordOf (recordItem kind pairs) = .ok (kind.code, pairs) := by
  simp [recordItem, recordOf, Item.ofUInt64]

theorem Kind.eq_code_of_ofCode? {code : UInt64} {kind : Kind} (h : ofCode? code = some kind) :
    code = kind.code := by
  unfold ofCode? at h
  split at h <;> cases h
  all_goals exact UInt64.toNat_inj.1 ‹_›

theorem recordOf_eq_ok {item : Item} {code : UInt64} {pairs : List (Item × Item)}
    (h : recordOf item = .ok (code, pairs)) : item = .array [.ofUInt64 code, .map pairs] := by
  unfold recordOf at h
  split at h
  · next n fields =>
      cases hword : n.toUInt64? with
      | none => simp [hword] at h
      | some word =>
          obtain rfl := eq_ofUInt64_of_toUInt64? hword
          cases fields <;> simp_all [Item.ofUInt64]
  · cases h
  · cases h

theorem readKind_eq_ok {reader? : Kind → Option (FieldReader α)} {code : UInt64}
    {pairs : List (Item × Item)} {x : α} (h : readKind reader? code pairs = .ok x) :
    ∃ kind reader, code = kind.code ∧ reader? kind = some reader ∧
      FieldReader.readPairs (.message kind) reader pairs = .ok x := by
  unfold readKind at h
  cases hcode : Kind.ofCode? code with
  | none => simp [hcode] at h
  | some kind =>
      rw [hcode] at h
      dsimp only at h
      cases hreader : reader? kind with
      | none => simp [hreader] at h
      | some reader =>
          rw [hreader] at h
          exact ⟨kind, reader, Kind.eq_code_of_ofCode? hcode, hreader, h⟩

/-- A record of a kind whose reader consumes it. -/
theorem Consumes.readKind {reader? : Kind → Option (FieldReader α)} {kind : Kind}
    {reader : FieldReader α} {pairs : List (Item × Item)} (h : Consumes reader layout rest x)
    (hreader : reader? kind = some reader) (hpairs : pairs = layout.pairs)
    (hdistinct : (layout.map Prod.fst).Nodup) : Message.readKind reader? kind.code pairs = .ok x := by
  unfold Message.readKind
  rw [Kind.ofCode?_code]
  dsimp only
  rw [hreader]
  exact h.readPairs hpairs hdistinct

end PklHost.Message
