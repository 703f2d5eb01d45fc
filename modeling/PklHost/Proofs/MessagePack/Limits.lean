import PklHost.Proofs.MessagePack.Finding
import PklHost.Proofs.MessagePack.Writing

/-!
# What a budget holds

`x.Within budget` says that an item can be written and read: its lengths fit the format, and its depth
fits a reader's budget.  What a reader gives is within its budget (`Item.within_of_read`).  An array or a
map is within a budget if its contents are within what two units less leave of it
(`Item.within_array_iff`, `Item.within_map_iff`), so that an item which is put together from parts of
another, with no more of them, is within the budget that the other is in.

A message of fewer octets than 32 bits can count has no length that they could not
(`Item.lengthsFit_of_write`).
-/

namespace PklHost.MessagePack

/-- The lengths of an item fit the format, and its depth fits the budget. -/
def Item.Within (budget : Nat) (x : Item) : Prop :=
  x.LengthsFit ∧ x.depth ≤ budget

theorem Item.depth_pos (x : Item) : 1 ≤ x.depth := by
  cases x <;> simp only [Item.depth] <;> omega

theorem Item.Within.one_le {x : Item} {budget : Nat} (h : x.Within budget) : 1 ≤ budget :=
  Nat.le_trans x.depth_pos h.2

/-! ## Contents -/

theorem lengthsFitItems_iff {xs : List Item} : LengthsFitItems xs ↔ ∀ x ∈ xs, x.LengthsFit := by
  induction xs with
  | nil => simp [LengthsFitItems]
  | cons x xs ih => simp [LengthsFitItems, ih]

theorem lengthsFitPairs_iff {ps : List (Item × Item)} :
    LengthsFitPairs ps ↔ ∀ p ∈ ps, p.1.LengthsFit ∧ p.2.LengthsFit := by
  induction ps with
  | nil => simp [LengthsFitPairs]
  | cons p ps ih =>
      obtain ⟨k, v⟩ := p
      rw [LengthsFitPairs, ih, List.forall_mem_cons]

theorem depthItems_le_iff {xs : List Item} {budget : Nat} :
    depthItems xs ≤ budget ↔ ∀ x ∈ xs, x.depth ≤ budget := by
  induction xs with
  | nil => simp [depthItems]
  | cons x xs ih => rw [depthItems, Nat.max_le, ih, List.forall_mem_cons]

theorem depthPairs_le_iff {ps : List (Item × Item)} {budget : Nat} :
    depthPairs ps ≤ budget ↔ ∀ p ∈ ps, p.1.depth ≤ budget ∧ p.2.depth ≤ budget := by
  induction ps with
  | nil => simp [depthPairs]
  | cons p ps ih =>
      obtain ⟨k, v⟩ := p
      rw [depthPairs, Nat.max_le, Nat.max_le, ih, List.forall_mem_cons]

namespace Item

theorem within_array_iff {xs : List Item} {budget : Nat} :
    (Item.array xs).Within budget ↔
      xs.length < 0x100000000 ∧ 2 ≤ budget ∧ ∀ x ∈ xs, x.Within (budget - 2) := by
  have hdepth : (Item.array xs).depth ≤ budget ↔ 2 ≤ budget ∧ depthItems xs ≤ budget - 2 := by
    show 2 + depthItems xs ≤ budget ↔ _
    omega
  rw [Within, hdepth, depthItems_le_iff, LengthsFit, lengthsFitItems_iff]
  constructor
  · rintro ⟨⟨hlength, hfit⟩, hbudget, hdepth⟩
    exact ⟨hlength, hbudget, fun x hx => ⟨hfit x hx, hdepth x hx⟩⟩
  · rintro ⟨hlength, hbudget, hwithin⟩
    exact ⟨⟨hlength, fun x hx => (hwithin x hx).1⟩, hbudget, fun x hx => (hwithin x hx).2⟩

theorem within_map_iff {ps : List (Item × Item)} {budget : Nat} :
    (Item.map ps).Within budget ↔ ps.length < 0x100000000 ∧ 2 ≤ budget ∧
      ∀ p ∈ ps, p.1.Within (budget - 2) ∧ p.2.Within (budget - 2) := by
  have hdepth : (Item.map ps).depth ≤ budget ↔ 2 ≤ budget ∧ depthPairs ps ≤ budget - 2 := by
    show 2 + depthPairs ps ≤ budget ↔ _
    omega
  rw [Within, hdepth, depthPairs_le_iff, LengthsFit, lengthsFitPairs_iff]
  constructor
  · rintro ⟨⟨hlength, hfit⟩, hbudget, hdepth⟩
    exact ⟨hlength, hbudget, fun p hp =>
      ⟨⟨(hfit p hp).1, (hdepth p hp).1⟩, ⟨(hfit p hp).2, (hdepth p hp).2⟩⟩⟩
  · rintro ⟨hlength, hbudget, hwithin⟩
    exact ⟨⟨hlength, fun p hp => ⟨(hwithin p hp).1.1, (hwithin p hp).2.1⟩⟩, hbudget,
      fun p hp => ⟨(hwithin p hp).1.2, (hwithin p hp).2.2⟩⟩

end Item

/-! ## What is written -/

/-- Every item takes an octet at least. -/
theorem Item.length_write_pos (x : Item) : 0 < x.write.length := by
  have hhead : ∀ {head : Bytes} (more : Bytes), 0 < head.length → 0 < (head ++ more).length := by
    intro head more h
    rw [List.length_append]
    omega
  cases x with
  | nil => exact Nat.one_pos
  | bool b => cases b <;> exact Nat.one_pos
  | int n =>
      rw [write]
      unfold writeInt
      dsimp only
      repeat' split
      all_goals exact Nat.succ_pos _
  | single x | double x => exact Nat.succ_pos _
  | text s =>
      refine hhead _ ?_
      unfold textHead
      repeat' split
      all_goals exact Nat.succ_pos _
  | brokenText t | bin octets =>
      refine hhead _ ?_
      unfold binHead
      repeat' split
      all_goals exact Nat.succ_pos _
  | array items =>
      refine hhead _ ?_
      unfold arrayHead
      repeat' split
      all_goals exact Nat.succ_pos _
  | map pairs =>
      refine hhead _ ?_
      unfold mapHead
      repeat' split
      all_goals exact Nat.succ_pos _
  | ext kind octets =>
      refine hhead _ ?_
      unfold extHead
      rw [List.length_append]
      exact Nat.succ_pos _

theorem length_le_writeItems (xs : List Item) : xs.length ≤ (writeItems xs).length := by
  induction xs with
  | nil => exact Nat.zero_le _
  | cons x xs ih =>
      have := x.length_write_pos
      rw [writeItems, List.length_append, List.length_cons]
      omega

theorem length_le_writePairs (ps : List (Item × Item)) : ps.length ≤ (writePairs ps).length := by
  induction ps with
  | nil => exact Nat.zero_le _
  | cons p ps ih =>
      have := p.1.length_write_pos
      rw [writePairs, List.length_append, List.length_append, List.length_cons]
      omega

mutual

/-- What takes fewer octets than 32 bits can count has no length that they could not. -/
theorem Item.lengthsFit_of_write : (x : Item) → x.write.length < 0x100000000 → x.LengthsFit
  | .nil, _ | .bool _, _ | .int _, _ | .single _, _ | .double _, _ => trivial
  | .text _, h | .brokenText _, h | .bin _, h | .ext .., h => by
      have h : (_ ++ _ : Bytes).length < 0x100000000 := h
      rw [List.length_append] at h
      exact Nat.lt_of_le_of_lt (Nat.le_add_left _ _) h
  | .array items, h => by
      rw [Item.write, List.length_append] at h
      have hitems : (writeItems items).length < 0x100000000 := by omega
      exact ⟨Nat.lt_of_le_of_lt (length_le_writeItems items) hitems,
        lengthsFitItems_of_write items hitems⟩
  | .map pairs, h => by
      rw [Item.write, List.length_append] at h
      have hpairs : (writePairs pairs).length < 0x100000000 := by omega
      exact ⟨Nat.lt_of_le_of_lt (length_le_writePairs pairs) hpairs,
        lengthsFitPairs_of_write pairs hpairs⟩

theorem lengthsFitItems_of_write : (xs : List Item) → (writeItems xs).length < 0x100000000 →
    LengthsFitItems xs
  | [], _ => trivial
  | x :: xs, h => by
      rw [writeItems, List.length_append] at h
      exact ⟨x.lengthsFit_of_write (by omega), lengthsFitItems_of_write xs (by omega)⟩

theorem lengthsFitPairs_of_write : (ps : List (Item × Item)) →
    (writePairs ps).length < 0x100000000 → LengthsFitPairs ps
  | [], _ => trivial
  | (k, v) :: ps, h => by
      rw [writePairs, List.length_append, List.length_append] at h
      exact ⟨⟨k.lengthsFit_of_write (by omega), v.lengthsFit_of_write (by omega)⟩,
        lengthsFitPairs_of_write ps (by omega)⟩

end

/-! ## What is read -/

/-- The sizes that a form can say fit 32 bits. -/
def HeadForm.Fits (form : HeadForm) : Prop :=
  (∀ p ∈ form.fixed, p.2 < 0x100000000) ∧ ∀ p ∈ form.sized, p.2 ≤ 4

theorem HeadForm.fits : HeadForm.text.Fits ∧ HeadForm.bin.Fits ∧ HeadForm.array.Fits ∧
    HeadForm.map.Fits ∧ HeadForm.ext.Fits := by
  unfold Fits
  decide

theorem HeadForm.Says.lt {form : HeadForm} {n : Nat} {head : Bytes} (h : form.Says n head)
    (hfits : form.Fits) : n < 0x100000000 := by
  cases h with
  | inMarker hfixed => exact hfits.1 _ hfixed
  | inOctets hsized hn =>
      exact Nat.lt_of_lt_of_le hn (Nat.pow_le_pow_right (by omega) (hfits.2 _ hsized))

mutual

/-- What is spelled has no length that the format could not say. -/
theorem Item.lengthsFit_of_spelledBy : (x : Item) → {octets : Bytes} → x.SpelledBy octets →
    x.LengthsFit
  | .nil, _, _ | .bool _, _, _ | .int _, _, _ | .single _, _, _ | .double _, _, _ => trivial
  | .text _, _, ⟨_, hhead, _⟩ | .brokenText _, _, ⟨_, hhead, _⟩ => hhead.lt HeadForm.fits.1
  | .bin _, _, ⟨_, hhead, _⟩ => hhead.lt HeadForm.fits.2.1
  | .ext _ _, _, ⟨_, hhead, _⟩ => hhead.lt HeadForm.fits.2.2.2.2
  | .array items, _, ⟨_, _, hhead, hitems, _⟩ =>
      ⟨hhead.lt HeadForm.fits.2.2.1, lengthsFitItems_of_spelledItems items hitems⟩
  | .map pairs, _, ⟨_, _, hhead, hpairs, _⟩ =>
      ⟨hhead.lt HeadForm.fits.2.2.2.1, lengthsFitPairs_of_spelledPairs pairs hpairs⟩

theorem lengthsFitItems_of_spelledItems : (xs : List Item) → {octets : Bytes} →
    SpelledItems xs octets → LengthsFitItems xs
  | [], _, _ => trivial
  | x :: xs, _, ⟨_, _, hx, hxs, _⟩ =>
      ⟨x.lengthsFit_of_spelledBy hx, lengthsFitItems_of_spelledItems xs hxs⟩

theorem lengthsFitPairs_of_spelledPairs : (ps : List (Item × Item)) → {octets : Bytes} →
    SpelledPairs ps octets → LengthsFitPairs ps
  | [], _, _ => trivial
  | (k, v) :: ps, _, ⟨_, _, _, hk, hv, hps, _⟩ =>
      ⟨⟨k.lengthsFit_of_spelledBy hk, v.lengthsFit_of_spelledBy hv⟩,
        lengthsFitPairs_of_spelledPairs ps hps⟩

end

/-- What a reader gives is within its budget. -/
theorem Item.within_of_read {budget : Nat} {bs rest : Bytes} {x : Item}
    (h : Item.read budget bs = .ok (x, rest)) : x.Within budget := by
  obtain ⟨octets, hx, hdepth, -⟩ := Item.spells_read budget _ _ _ h
  exact ⟨x.lengthsFit_of_spelledBy hx, hdepth⟩

end PklHost.MessagePack
