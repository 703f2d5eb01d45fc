import PklHost.Dict
import PklHost.Message.Error

/-!
# Fields of a record

A record holds named fields as the pairs of a map. `FieldReader` takes them out one after another;
taking the fields in a fixed order fixes which of two faults is reported. A field that is nil counts
as absent, fields that nobody asks for are ignored, and keys that are not text name no field.

Where a name repeats, its first pair is taken, and the last pair of the record moves into the gap.
With names that do not repeat, the order of the pairs makes no difference.
-/

namespace PklHost.Message

open MessagePack (Item)

/-- The fields of a record that have not been taken. -/
structure Fields where
  record : RecordName
  pairs : List (Item × Item)

/-- A reading that takes fields one after another. -/
abbrev FieldReader (α : Type) := StateT Fields (Except FrameError) α

/-- An item is the text `name`. -/
def isName (name : String) : Item → Bool
  | .text s => s == name
  | _ => false

/-- Pairs after a gap in front of them is filled by the last one. -/
def fillGap (pairs : List (Item × Item)) : List (Item × Item) :=
  match pairs.getLast? with
  | none => []
  | some last => last :: pairs.dropLast

/-- The value of the first pair of a name, and the pairs that remain. -/
def takePair (name : String) : List (Item × Item) → Option (Item × List (Item × Item))
  | [] => none
  | (k, v) :: rest =>
    if isName name k then some (v, fillGap rest)
    else
      match takePair name rest with
      | some (v', rest') => some (v', (k, v) :: rest')
      | none => none

theorem sizeOf_append_singleton {α : Type} [SizeOf α] (l : List α) (x : α) :
    sizeOf (l ++ [x]) = sizeOf l + sizeOf x + 1 := by
  induction l with
  | nil => simp
  | cons y l ih => simp [ih]; omega

theorem sizeOf_fillGap (pairs : List (Item × Item)) : sizeOf (fillGap pairs) = sizeOf pairs := by
  unfold fillGap
  split
  · next h => simp_all
  · next last h =>
    obtain ⟨init, rfl⟩ := List.getLast?_eq_some_iff.mp h
    simp only [List.dropLast_concat, sizeOf_append_singleton, List.cons.sizeOf_spec]
    omega

/-- What is taken and what remains are together no larger than the pairs. -/
theorem sizeOf_takePair {name : String} {pairs rest : List (Item × Item)} {v : Item}
    (h : takePair name pairs = some (v, rest)) : sizeOf v + sizeOf rest ≤ sizeOf pairs := by
  induction pairs generalizing rest with
  | nil => simp [takePair] at h
  | cons p tail ih =>
    obtain ⟨k, v'⟩ := p
    rw [takePair] at h
    split at h
    · simp only [Option.some.injEq, Prod.mk.injEq] at h
      obtain ⟨rfl, rfl⟩ := h
      simp [sizeOf_fillGap]
      omega
    · split at h
      · next hTake =>
        simp only [Option.some.injEq, Prod.mk.injEq] at h
        obtain ⟨rfl, rfl⟩ := h
        have := ih hTake
        simp
        omega
      · simp at h

namespace FieldReader

/-- The field of a name; a nil field is absent. -/
def take (field : String) : FieldReader (Option Item) := fun f =>
  match takePair field f.pairs with
  | none => .ok (none, f)
  | some (.nil, rest) => .ok (none, { f with pairs := rest })
  | some (v, rest) => .ok (some v, { f with pairs := rest })

def invalid {α : Type} (field : String) (expected : Expectation) : FieldReader α := fun f =>
  .error (.invalidField f.record field expected)

/-- A field that must be there. -/
def need (field : String) : FieldReader Item := do
  match ← take field with
  | some v => return v
  | none => fun f => .error (.missingField f.record field)

/-- The text of a field's contents. -/
def textOf (field : String) : Item → FieldReader String
  | .text s => return s
  | .brokenText _ => invalid field .utf8
  | _ => invalid field .string

/-- The number of a field's contents. -/
def int64Of (field : String) : Item → FieldReader Int64
  | .int n =>
    match n.toInt64? with
    | some n => return n
    | none => invalid field .int64
  | _ => invalid field .int64

/-- Reads the contents of a field that may be absent. -/
def optional {α : Type} (field : String) (read : Item → FieldReader α) :
    FieldReader (Option α) := do
  match ← take field with
  | none => return none
  | some v => return some (← read v)

def int64 (field : String) : FieldReader Int64 := do
  int64Of field (← need field)

def int64? (field : String) : FieldReader (Option Int64) :=
  optional field (int64Of field)

def text (field : String) : FieldReader String := do
  textOf field (← need field)

def text? (field : String) : FieldReader (Option String) :=
  optional field (textOf field)

/-- A boolean; an absent one is false. -/
def bool (field : String) : FieldReader Bool := do
  match ← take field with
  | none => return false
  | some (.bool b) => return b
  | some _ => invalid field .bool

def binary? (field : String) : FieldReader (Option Bytes) :=
  optional field fun
    | .bin octets => return octets
    | _ => invalid field .binary

def array? (field : String) : FieldReader (Option (List Item)) :=
  optional field fun
    | .array items => return items
    | _ => invalid field .array

/-- A list of texts. -/
def texts? (field : String) : FieldReader (Option (List String)) := do
  match ← array? field with
  | none => return none
  | some items => return some (← items.mapM (textOf field))

/-- A map from texts to texts; the last pair of a key wins. -/
def textMap? (field : String) : FieldReader (Option (Dict String)) :=
  optional field fun
    | .map pairs => do
      let pairs ← pairs.mapM fun (k, v) => do
        let k ← textOf field k
        let v ← textOf field v
        return (k, v)
      return Dict.ofPairs pairs
    | _ => invalid field .map

/-- The reading of a record's fields. -/
def readPairs {α : Type} (record : RecordName) (read : FieldReader α)
    (pairs : List (Item × Item)) : Except FrameError α :=
  match read.run ⟨record, pairs⟩ with
  | .ok (x, _) => .ok x
  | .error e => .error e

/-- A record nested in another one. -/
def ofMap {α : Type} (record : RecordName) (read : FieldReader α) : Item → Except FrameError α
  | .map pairs => readPairs record read pairs
  | _ => .error (.notARecord (.notMap record))

/-- A list of nested records, read in order. -/
def records? {α : Type} (field : String) (read : Item → Except FrameError α) :
    FieldReader (Option (List α)) := do
  match ← array? field with
  | none => return none
  | some items => return some (← StateT.lift (items.mapM read))

end FieldReader

/-! ## Whole records -/

/-- The code and the fields of a record: an array of two items, an integer and a map. -/
def recordOf : Item → Except FrameError (UInt64 × List (Item × Item))
  | .array [.int n, fields] =>
    match n.toUInt64?, fields with
    | none, _ => .error (.notARecord (.negativeKind n))
    | some code, .map pairs => .ok (code, pairs)
    | some _, got => .error (.notARecord (.fieldsNotMap got))
  | .array [got, _] => .error (.notARecord (.kindNotInteger got))
  | got => .error (.notARecord (.notPair got))

/-- The contents of a record by the reader of its kind; a code without a reader is unknown. -/
def readKind {α : Type} (reader? : Kind → Option (FieldReader α)) (code : UInt64)
    (pairs : List (Item × Item)) : Except FrameError α :=
  match Kind.ofCode? code with
  | none => .error (.unknownKind code)
  | some kind =>
    match reader? kind with
    | none => .error (.unknownKind code)
    | some read => FieldReader.readPairs (.message kind) read pairs

/-! ## Writing fields -/

/-- A field that is written. -/
def put (field : String) (v : Item) : List (Item × Item) := [(.text field, v)]

/-- A field that is written if it is there. -/
def put? (field : String) : Option Item → List (Item × Item)
  | some v => put field v
  | none => []

/-- The record of a kind with these fields. -/
def recordItem (kind : Kind) (pairs : List (Item × Item)) : Item :=
  .array [.ofUInt64 kind.code, .map pairs]

/-- A list of texts. -/
def textsItem (texts : List String) : Item := .array (texts.map .text)

/-- A map from texts to texts. -/
def textMapItem (d : Dict String) : Item :=
  .map (d.pairs.map fun p => (.text p.1, .text p.2))

end PklHost.Message
