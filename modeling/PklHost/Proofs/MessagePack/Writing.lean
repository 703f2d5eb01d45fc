import PklHost.MessagePack.Writer
import PklHost.Proofs.MessagePack.Reading

/-!
# Writing is spelling

`Item.spelledBy_write`: what is written for an item spells it.  Two things have to hold of the item.
Its lengths must be such that 32 bits hold them, or a written size is that of something shorter; and its
strings must be text, since a string that is none is written as a binary.

With the reader, this is the round trip on octets (`Item.read_write`).
-/

namespace PklHost.MessagePack

/-! ## What can be written -/

mutual

/-- Every length in an item fits 32 bits: of strings, binaries and extensions in octets, of arrays in
items, of maps in pairs. -/
def Item.LengthsFit : Item → Prop
  | .nil | .bool _ | .int _ | .single _ | .double _ => True
  | .text s => (Bytes.ofText s).length < 0x100000000
  | .brokenText t => t.octets.length < 0x100000000
  | .bin octets | .ext _ octets => octets.length < 0x100000000
  | .array items => items.length < 0x100000000 ∧ LengthsFitItems items
  | .map pairs => pairs.length < 0x100000000 ∧ LengthsFitPairs pairs

def LengthsFitItems : List Item → Prop
  | [] => True
  | x :: xs => x.LengthsFit ∧ LengthsFitItems xs

def LengthsFitPairs : List (Item × Item) → Prop
  | [] => True
  | (k, v) :: ps => (k.LengthsFit ∧ v.LengthsFit) ∧ LengthsFitPairs ps

end

mutual

/-- Every string in an item is text. -/
def Item.AllText : Item → Prop
  | .brokenText _ => False
  | .array items => AllTextItems items
  | .map pairs => AllTextPairs pairs
  | .nil | .bool _ | .int _ | .single _ | .double _ | .text _ | .bin _ | .ext .. => True

def AllTextItems : List Item → Prop
  | [] => True
  | x :: xs => x.AllText ∧ AllTextItems xs

def AllTextPairs : List (Item × Item) → Prop
  | [] => True
  | (k, v) :: ps => (k.AllText ∧ v.AllText) ∧ AllTextPairs ps

end

theorem allTextItems_append {xs ys : List Item} (hxs : AllTextItems xs) (hys : AllTextItems ys) :
    AllTextItems (xs ++ ys) := by
  induction xs with
  | nil => exact hys
  | cons x xs ih => exact ⟨hxs.1, ih hxs.2⟩

theorem allTextItems_iff {xs : List Item} : AllTextItems xs ↔ ∀ x ∈ xs, x.AllText := by
  induction xs with
  | nil => simp [AllTextItems]
  | cons x xs ih => rw [AllTextItems, ih, List.forall_mem_cons]

theorem allTextPairs_iff {ps : List (Item × Item)} :
    AllTextPairs ps ↔ ∀ p ∈ ps, p.1.AllText ∧ p.2.AllText := by
  induction ps with
  | nil => simp [AllTextPairs]
  | cons p ps ih =>
      obtain ⟨k, v⟩ := p
      rw [AllTextPairs, ih, List.forall_mem_cons]

/-! ## Heads -/

/-- The markers of a form that count sizes from zero on. -/
theorem HeadForm.says_counting {form : HeadForm} {first count n : Nat}
    (hform : form.fixed = counting first count) (hn : n < count) :
    form.Says n [UInt8.ofNat (first + n)] := by
  apply Says.inMarker
  rw [hform, counting, List.mem_map]
  exact ⟨n, List.mem_range.2 hn, rfl⟩

theorem says_textHead {n : Nat} (hn : n < 0x100000000) : HeadForm.text.Says n (textHead n) := by
  unfold textHead
  split
  · next h => exact HeadForm.says_counting rfl h
  · split
    · next h => exact .inOctets (by decide) h
    · split
      · next h => exact .inOctets (by decide) h
      · exact .inOctets (by decide) hn

theorem says_binHead {n : Nat} (hn : n < 0x100000000) : HeadForm.bin.Says n (binHead n) := by
  unfold binHead
  split
  · next h => exact .inOctets (by decide) h
  · split
    · next h => exact .inOctets (by decide) h
    · exact .inOctets (by decide) hn

theorem says_arrayHead {n : Nat} (hn : n < 0x100000000) : HeadForm.array.Says n (arrayHead n) := by
  unfold arrayHead
  split
  · next h => exact HeadForm.says_counting rfl h
  · split
    · next h => exact .inOctets (by decide) h
    · exact .inOctets (by decide) hn

theorem says_mapHead {n : Nat} (hn : n < 0x100000000) : HeadForm.map.Says n (mapHead n) := by
  unfold mapHead
  split
  · next h => exact HeadForm.says_counting rfl h
  · split
    · next h => exact .inOctets (by decide) h
    · exact .inOctets (by decide) hn

/-- The head of an extension says its size before its kind. -/
theorem says_extHead (kind : Int8) {n : Nat} (hn : n < 0x100000000) :
    ∃ head, HeadForm.ext.Says n head ∧ extHead kind n = head ++ [kind.toUInt8] := by
  unfold extHead
  dsimp only
  refine ⟨_, ?_, rfl⟩
  split
  · next h => exact h ▸ .inMarker (by decide)
  · split
    · next h => exact h ▸ .inMarker (by decide)
    · split
      · next h => exact h ▸ .inMarker (by decide)
      · split
        · next h => exact h ▸ .inMarker (by decide)
        · split
          · next h => exact h ▸ .inMarker (by decide)
          · split
            · next h => exact .inOctets (by decide) h
            · split
              · next h => exact .inOctets (by decide) h
              · exact .inOctets (by decide) hn

/-! ## Integers -/

/-- A negative number of a width comes back from two's complement. -/
theorem spellsInt_signed {marker : UInt8} {width : Nat} {n : Int}
    (hmarker : (marker, width) ∈ signedMarkers) (hlow : -((Nat.pow 256 width : Nat) : Int) ≤ 2 * n)
    (hneg : n < 0) :
    SpellsInt n (marker :: Bytes.ofNat width (n + (Nat.pow 256 width : Nat)).toNat) := by
  have hrange : (n + (Nat.pow 256 width : Nat)).toNat < Nat.pow 256 width := by omega
  have hsigned : Bytes.signed width (n + (Nat.pow 256 width : Nat)).toNat = n := by
    unfold Bytes.signed
    dsimp only
    split <;> omega
  have := SpellsInt.signed hmarker hrange
  rwa [hsigned] at this

theorem spellsInt_writeInt {n : Int} (hlow : -0x8000000000000000 ≤ n)
    (hhigh : n < 0x10000000000000000) : SpellsInt n (writeInt n) := by
  unfold writeInt
  split
  · next hpos =>
      -- without a sign: the narrowest width that holds the number
      obtain ⟨k, rfl⟩ := Int.eq_ofNat_of_zero_le hpos
      dsimp only
      rw [Int.toNat_natCast]
      split
      · next h => exact .positive h
      · split
        · next h => exact .unsigned (by decide) h
        · split
          · next h => exact .unsigned (by decide) h
          · split
            · next h => exact .unsigned (by decide) h
            · exact .unsigned (by decide) (show k < 0x10000000000000000 by omega)
  · next hneg =>
      have hneg : n < 0 := by omega
      split
      · next h =>
          obtain ⟨k, hk⟩ := Int.eq_ofNat_of_zero_le (show 0 ≤ n + 0x20 by omega)
          obtain rfl : n = (k : Int) - 0x20 := by omega
          rw [show ((k : Int) - 0x20 + 256).toNat = 0xe0 + k by omega]
          exact .negative (by omega)
      · split
        · next h =>
            exact @spellsInt_signed 0xd0 1 n (by decide) (show -(0x100 : Int) ≤ 2 * n by omega) hneg
        · split
          · next h =>
              exact @spellsInt_signed 0xd1 2 n (by decide) (show -(0x10000 : Int) ≤ 2 * n by omega) hneg
          · split
            · next h =>
                exact @spellsInt_signed 0xd2 4 n (by decide)
                  (show -(0x100000000 : Int) ≤ 2 * n by omega) hneg
            · exact @spellsInt_signed 0xd3 8 n (by decide)
                (show -(0x10000000000000000 : Int) ≤ 2 * n by omega) hneg

/-! ## Items -/

mutual

theorem Item.spelledBy_write : (x : Item) → x.LengthsFit → x.AllText → x.SpelledBy x.write
  | .nil, _, _ => rfl
  | .bool b, _, _ => by cases b <;> rfl
  | .int n, _, _ => spellsInt_writeInt n.lower n.upper
  | .single _, _, _ => rfl
  | .double _, _, _ => rfl
  | .text _, hlen, _ => ⟨_, says_textHead hlen, rfl⟩
  | .brokenText _, _, htext => htext.elim
  | .bin _, hlen, _ => ⟨_, says_binHead hlen, rfl⟩
  | .array items, hlen, htext =>
      ⟨_, _, says_arrayHead hlen.1, spelledItems_write items hlen.2 htext, rfl⟩
  | .map pairs, hlen, htext =>
      ⟨_, _, says_mapHead hlen.1, spelledPairs_write pairs hlen.2 htext, rfl⟩
  | .ext kind octets, hlen, _ => by
      obtain ⟨head, hhead, hkind⟩ := says_extHead kind hlen
      refine ⟨head, hhead, ?_⟩
      rw [Item.write, hkind, List.append_assoc]
      rfl

theorem spelledItems_write : (xs : List Item) → LengthsFitItems xs → AllTextItems xs →
    SpelledItems xs (writeItems xs)
  | [], _, _ => rfl
  | x :: xs, hlen, htext =>
      ⟨_, _, x.spelledBy_write hlen.1 htext.1, spelledItems_write xs hlen.2 htext.2, rfl⟩

theorem spelledPairs_write : (ps : List (Item × Item)) → LengthsFitPairs ps → AllTextPairs ps →
    SpelledPairs ps (writePairs ps)
  | [], _, _ => rfl
  | (k, v) :: ps, hlen, htext => by
      refine ⟨_, _, _, k.spelledBy_write hlen.1.1 htext.1.1, v.spelledBy_write hlen.1.2 htext.1.2,
        spelledPairs_write ps hlen.2 htext.2, ?_⟩
      rw [writePairs, List.append_assoc]

end

/-- What is written reads back as the item, and nothing else is read. -/
theorem Item.read_write {x : Item} {budget : Nat} (rest : Bytes) (hlen : x.LengthsFit)
    (htext : x.AllText) (hdepth : x.depth ≤ budget) :
    Item.read budget (x.write ++ rest) = .ok (x, rest) := by
  rw [Item.read_of_spelledBy x (x.spelledBy_write hlen htext) budget rest, if_pos hdepth]

end PklHost.MessagePack
