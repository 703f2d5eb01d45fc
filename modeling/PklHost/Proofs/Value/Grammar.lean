import PklHost.Proofs.Except
import PklHost.Proofs.MessagePack.Reading
import PklHost.Value.Decode
import PklHost.Value.Encode

/-!
# The grammar of encoded values

`Denotes x v` says that the item `x` is written for the value `v`: by the evaluator, which has several
ways to write a value, not only by the encoder here, which has one.  It goes through no decoder.  A
tagged array may carry more fields than its tag needs; the relation takes no notice of them.

An object is written as a list of `Member`s, each of which carries the items in it together with the
values that they stand for.  Only the open class has entries and elements (`IsProperty`), and an element
says how many elements stand before it (`InOrder`).
-/

namespace PklHost

open MessagePack (Item WireInt)

/-! ## Units -/

theorem DurationUnit.ofSymbol?_eq_some_iff {symbol : String} {u : DurationUnit} :
    DurationUnit.ofSymbol? symbol = some u ↔ symbol = u.symbol := by
  constructor
  · intro h
    have hfound := List.find?_some (p := fun u => DurationUnit.symbol u == symbol) h
    exact (eq_of_beq hfound).symm
  · rintro rfl
    exact DurationUnit.ofSymbol?_symbol u

theorem SizeUnit.ofSymbol?_eq_some_iff {symbol : String} {u : SizeUnit} :
    SizeUnit.ofSymbol? symbol = some u ↔ symbol = u.symbol := by
  constructor
  · intro h
    have hfound := List.find?_some (p := fun u => SizeUnit.symbol u == symbol) h
    exact (eq_of_beq hfound).symm
  · rintro rfl
    exact SizeUnit.ofSymbol?_symbol u

namespace Value

/-! ## Members -/

/-- A member of an object as it is written, each item in it with the value that it stands for. -/
inductive Member where
  | property (name : String) (value : Item × Value) (surplus : List Item)
  | entry (key value : Item × Value) (surplus : List Item)
  | element (index : UInt64) (value : Item × Value) (surplus : List Item)

namespace Member

/-- The member on the wire. -/
def item : Member → Item
  | property name value surplus => taggedItem 0x10 (.text name :: value.1 :: surplus)
  | entry key value surplus => taggedItem 0x11 (key.1 :: value.1 :: surplus)
  | element index value surplus => taggedItem 0x12 (.ofUInt64 index :: value.1 :: surplus)

/-- The items that stand for values. -/
def parts : Member → List (Item × Value)
  | property _ value _ | element _ value _ => [value]
  | entry key value _ => [key, value]

def properties : Member → List (String × Value)
  | property name value _ => [(name, value.2)]
  | entry .. | element .. => []

def entries : Member → List (Value × Value)
  | entry key value _ => [(key.2, value.2)]
  | property .. | element .. => []

def elements : Member → List Value
  | element _ value _ => [value.2]
  | property .. | entry .. => []

def IsProperty : Member → Prop
  | property .. => True
  | entry .. | element .. => False

/-- The index of an element is the number of elements before it. -/
def At (before : Nat) : Member → Prop
  | element index _ _ => index.toNat = before
  | property .. | entry .. => True

end Member

/-- Elements behind as many others say in their order how many stand before them. -/
def InOrder (before : Nat) : List Member → Prop
  | [] => True
  | m :: members => m.At before ∧ InOrder (before + m.elements.length) members

/-! ## Values -/

/-- An item is a number. -/
inductive IsNumber : Item → Double → Prop
  | double (x : Double) : IsNumber (.double x) x
  | single (x : Single) : IsNumber (.single x) x.toDouble
  | int (n : Int64) : IsNumber (.ofInt64 n) (.ofInt n.toInt)

/-- An item is written for a value. -/
inductive Denotes : Item → Value → Prop
  | nil : Denotes .nil .null
  | bool (b : Bool) : Denotes (.bool b) (.bool b)
  | int (n : Int64) : Denotes (.ofInt64 n) (.int n)
  | single (x : Single) : Denotes (.single x) (.float x.toDouble)
  | double (x : Double) : Denotes (.double x) (.float x)
  | text (s : String) : Denotes (.text s) (.string s)
  | bin (octets : Bytes) : Denotes (.bin octets) (.bytes octets)
  | dynamic {members : List Member} (hparts : ∀ m ∈ members, ∀ p ∈ m.parts, Denotes p.1 p.2)
      (horder : InOrder 0 members) (surplus : List Item) :
      Denotes
        (taggedItem 0x01 (.text "Dynamic" :: .text "pkl:base" :: .array (members.map Member.item) ::
          surplus))
        (.dynamic (Properties.ofPairs (members.flatMap Member.properties))
          (Entries.ofPairs (members.flatMap Member.entries)) (members.flatMap Member.elements))
  | object {className moduleUri : String}
      (hclass : ¬ (className = "Dynamic" ∧ moduleUri = "pkl:base")) {members : List Member}
      (hparts : ∀ m ∈ members, ∀ p ∈ m.parts, Denotes p.1 p.2)
      (hproperties : ∀ m ∈ members, m.IsProperty) (surplus : List Item) :
      Denotes
        (taggedItem 0x01 (.text className :: .text moduleUri :: .array (members.map Member.item) ::
          surplus))
        (.object className moduleUri (Properties.ofPairs (members.flatMap Member.properties)))
  | map {tag : UInt64} (htag : tag = 0x02 ∨ tag = 0x03) {pairs : List ((Item × Value) × (Item × Value))}
      (hkeys : ∀ p ∈ pairs, Denotes p.1.1 p.1.2) (hvalues : ∀ p ∈ pairs, Denotes p.2.1 p.2.2)
      (surplus : List Item) :
      Denotes (taggedItem tag (.map (pairs.map fun p => (p.1.1, p.2.1)) :: surplus))
        (.map (Entries.ofPairs (pairs.map fun p => (p.1.2, p.2.2))))
  | list {tag : UInt64} (htag : tag = 0x04 ∨ tag = 0x05) {items : List (Item × Value)}
      (hitems : ∀ p ∈ items, Denotes p.1 p.2) (surplus : List Item) :
      Denotes (taggedItem tag (.array (items.map Prod.fst) :: surplus)) (.list (items.map Prod.snd))
  | set {items : List (Item × Value)} (hitems : ∀ p ∈ items, Denotes p.1 p.2) (surplus : List Item) :
      Denotes (taggedItem 0x06 (.array (items.map Prod.fst) :: surplus)) (.set (items.map Prod.snd))
  | duration {x : Item} {number : Double} (hnumber : IsNumber x number) (u : DurationUnit)
      (surplus : List Item) :
      Denotes (taggedItem 0x07 (x :: .text u.symbol :: surplus)) (.duration ⟨number, u⟩)
  | dataSize {x : Item} {number : Double} (hnumber : IsNumber x number) (u : SizeUnit)
      (surplus : List Item) :
      Denotes (taggedItem 0x08 (x :: .text u.symbol :: surplus)) (.dataSize ⟨number, u⟩)
  | pair {a b : Item} {first second : Value} (hfirst : Denotes a first) (hsecond : Denotes b second)
      (surplus : List Item) :
      Denotes (taggedItem 0x09 (a :: b :: surplus)) (.pair first second)
  | intSeq (start stop step : Int64) (surplus : List Item) :
      Denotes (taggedItem 0x0a (.ofInt64 start :: .ofInt64 stop :: .ofInt64 step :: surplus))
        (.intSeq ⟨start, stop, step⟩)
  | regex (pattern : String) (surplus : List Item) :
      Denotes (taggedItem 0x0b (.text pattern :: surplus)) (.regex pattern)
  | declaration {tag : UInt64} (htag : tag = 0x0c ∨ tag = 0x0d) (fields : List Item) :
      Denotes (taggedItem tag fields) .placeholder

/-! ## Single fields -/

theorem nextField_eq_ok_iff {what : String} {fields rest : List Item} {x : Item} :
    nextField what fields = .ok (x, rest) ↔ fields = x :: rest := by
  cases fields <;> simp [nextField]

theorem readInt_eq_ok_iff {n : WireInt} {k : Int64} : readInt n = .ok k ↔ n = .ofInt64 k := by
  constructor
  · intro h
    unfold readInt WireInt.toInt64? at h
    by_cases hn : n.val < 0x8000000000000000
    · rw [if_pos hn] at h
      obtain rfl : Int64.ofInt n.val = k := by simpa using h
      apply MessagePack.WireInt.ext
      exact (Int64.toInt_ofInt_of_le n.lower hn).symm
    · rw [if_neg hn] at h
      simp at h
  · rintro rfl
    rw [readInt, WireInt.toInt64?_ofInt64]

theorem readString_eq_ok_iff {what s : String} {x : Item} :
    readString what x = .ok s ↔ x = .text s := by
  cases x <;> simp [readString]

theorem readIntField_eq_ok_iff {what : String} {x : Item} {k : Int64} :
    readIntField what x = .ok k ↔ x = .ofInt64 k := by
  cases x with
  | int n => rw [readIntField, readInt_eq_ok_iff, Item.ofInt64, Item.int.injEq]
  | _ => simp [readIntField, Item.ofInt64]

theorem readNumber_eq_ok_iff {what : String} {x : Item} {number : Double} :
    readNumber what x = .ok number ↔ IsNumber x number := by
  constructor
  · intro h
    cases x with
    | double x =>
        obtain rfl : x = number := by simpa [readNumber] using h
        exact .double x
    | single x =>
        obtain rfl : x.toDouble = number := by simpa [readNumber] using h
        exact .single x
    | int n =>
        rw [readNumber] at h
        cases hint : readInt n with
        | error e => simp [hint] at h
        | ok k =>
            rw [hint] at h
            obtain rfl : Double.ofInt k.toInt = number := by simpa using h
            obtain rfl := readInt_eq_ok_iff.1 hint
            exact .int k
    | _ => simp [readNumber] at h
  · intro h
    cases h with
    | double x => rfl
    | single x => rfl
    | int n => rw [Item.ofInt64, readNumber, readInt_eq_ok_iff.2 rfl]

/-! ## Fields without values in them -/

theorem readQuantity_eq_ok_iff {what symbol : String} {fields : List Item} {number : Double} :
    readQuantity what fields = .ok (number, symbol) ↔
      ∃ x surplus, fields = x :: .text symbol :: surplus ∧ IsNumber x number := by
  simp only [readQuantity, bind_eq_ok_iff, pure_eq_ok_iff, Prod.exists, nextField_eq_ok_iff,
    readNumber_eq_ok_iff, readString_eq_ok_iff, Prod.mk.injEq]
  constructor
  · rintro ⟨x, _, rfl, _, hx, _, surplus, rfl, _, rfl, rfl, rfl⟩
    exact ⟨x, surplus, rfl, hx⟩
  · rintro ⟨x, surplus, rfl, hx⟩
    exact ⟨x, _, rfl, number, hx, _, surplus, rfl, symbol, rfl, rfl, rfl⟩

theorem readIntSeq_eq_ok_iff {what : String} {fields : List Item} {v : Value} :
    readIntSeq what fields = .ok v ↔ ∃ start stop step surplus,
      fields = .ofInt64 start :: .ofInt64 stop :: .ofInt64 step :: surplus ∧
        v = .intSeq ⟨start, stop, step⟩ := by
  simp only [readIntSeq, bind_eq_ok_iff, pure_eq_ok_iff, Prod.exists, nextField_eq_ok_iff,
    readIntField_eq_ok_iff]
  constructor
  · rintro ⟨_, _, rfl, start, rfl, _, _, rfl, stop, rfl, _, surplus, rfl, step, rfl, rfl⟩
    exact ⟨start, stop, step, surplus, rfl, rfl⟩
  · rintro ⟨start, stop, step, surplus, rfl, rfl⟩
    exact ⟨_, _, rfl, start, rfl, _, _, rfl, stop, rfl, _, surplus, rfl, step, rfl, rfl⟩

theorem readRegex_eq_ok_iff {what : String} {fields : List Item} {v : Value} :
    readRegex what fields = .ok v ↔
      ∃ pattern surplus, fields = .text pattern :: surplus ∧ v = .regex pattern := by
  simp only [readRegex, bind_eq_ok_iff, pure_eq_ok_iff, Prod.exists, nextField_eq_ok_iff,
    readString_eq_ok_iff]
  constructor
  · rintro ⟨_, surplus, rfl, pattern, rfl, rfl⟩
    exact ⟨pattern, surplus, rfl, rfl⟩
  · rintro ⟨pattern, surplus, rfl, rfl⟩
    exact ⟨_, surplus, rfl, pattern, rfl, rfl⟩

theorem readDuration_eq_ok_iff {what : String} {fields : List Item} {v : Value} :
    readDuration what fields = .ok v ↔ ∃ x number u surplus,
      fields = x :: .text (DurationUnit.symbol u) :: surplus ∧ IsNumber x number ∧
        v = .duration ⟨number, u⟩ := by
  simp only [readDuration, bind_eq_ok_iff, Prod.exists, readQuantity_eq_ok_iff]
  constructor
  · rintro ⟨number, symbol, ⟨x, surplus, rfl, hx⟩, h⟩
    cases hunit : DurationUnit.ofSymbol? symbol with
    | none =>
        rw [hunit] at h
        cases h
    | some u =>
        rw [hunit] at h
        obtain rfl := DurationUnit.ofSymbol?_eq_some_iff.1 hunit
        exact ⟨x, number, u, surplus, rfl, hx, (pure_eq_ok_iff.1 h).symm⟩
  · rintro ⟨x, number, u, surplus, rfl, hx, rfl⟩
    refine ⟨number, u.symbol, ⟨x, surplus, rfl, hx⟩, ?_⟩
    rw [DurationUnit.ofSymbol?_symbol]
    rfl

theorem readDataSize_eq_ok_iff {what : String} {fields : List Item} {v : Value} :
    readDataSize what fields = .ok v ↔ ∃ x number u surplus,
      fields = x :: .text (SizeUnit.symbol u) :: surplus ∧ IsNumber x number ∧
        v = .dataSize ⟨number, u⟩ := by
  simp only [readDataSize, bind_eq_ok_iff, Prod.exists, readQuantity_eq_ok_iff]
  constructor
  · rintro ⟨number, symbol, ⟨x, surplus, rfl, hx⟩, h⟩
    cases hunit : SizeUnit.ofSymbol? symbol with
    | none =>
        rw [hunit] at h
        cases h
    | some u =>
        rw [hunit] at h
        obtain rfl := SizeUnit.ofSymbol?_eq_some_iff.1 hunit
        exact ⟨x, number, u, surplus, rfl, hx, (pure_eq_ok_iff.1 h).symm⟩
  · rintro ⟨x, number, u, surplus, rfl, hx, rfl⟩
    refine ⟨number, u.symbol, ⟨x, surplus, rfl, hx⟩, ?_⟩
    rw [SizeUnit.ofSymbol?_symbol]
    rfl

end Value

end PklHost
