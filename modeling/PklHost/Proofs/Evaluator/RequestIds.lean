import Mathlib.Data.Fintype.EquivFin
import Mathlib.Data.List.Nodup
import Mathlib.Data.List.Perm.Basic
import Mathlib.Logic.Function.Iterate
import PklHost.Evaluator.RequestIds

/-!
# How often request ids repeat

An id is a word without its top bit, and a word is the mixture of a state.  The mixture is a bijection of
the 64-bit words (`mix_bijective`): an odd factor has an inverse, and a word is determined by its sum with
its own shift.  The states, at an odd distance from each other, pass through all words before one comes
again.  So no generator repeats a word within a period, and each id has the two words that differ in the
top bit (`spreads_of_seed`).
-/

namespace PklHost.RequestIds

/-! ## The mixture -/

/-- An odd factor is told by its inverse, and can be cancelled. -/
theorem cancel_factor {a b factor : UInt64} (inverse : UInt64) (hinverse : factor * inverse = 1)
    (h : a * factor = b * factor) : a = b := by
  calc a = a * factor * inverse := by rw [UInt64.mul_assoc, hinverse, UInt64.mul_one]
    _ = b * factor * inverse := by rw [h]
    _ = b := by rw [UInt64.mul_assoc, hinverse, UInt64.mul_one]

/-- Only zero is left as it is by a shift. -/
theorem eq_zero_of_shiftRight {z k : UInt64} (hk : k.toNat % 64 ≠ 0) (h : z >>> k = z) : z = 0 := by
  have hnat : z.toNat / Nat.pow 2 (k.toNat % 64) = z.toNat := by
    have hshift := UInt64.toNat_shiftRight z k
    rw [h, Nat.shiftRight_eq_div_pow] at hshift
    exact hshift.symm
  have hrange : 1 < Nat.pow 2 (k.toNat % 64) := Nat.one_lt_two_pow hk
  have hzero : z.toNat = 0 := by
    by_contra hpos
    have hlt := Nat.div_lt_self (Nat.pos_of_ne_zero hpos) hrange
    omega
  exact UInt64.toNat_inj.1 hzero

/-- A word is told by its sum with its own shift. -/
theorem cancel_shift {z w k : UInt64} (hk : k.toNat % 64 ≠ 0) (h : z ^^^ (z >>> k) = w ^^^ (w >>> k)) :
    z = w := by
  refine UInt64.xor_eq_zero_iff.1 (eq_zero_of_shiftRight hk ?_)
  have hsum : (z ^^^ w) ^^^ ((z ^^^ w) >>> k) = 0 := by
    calc (z ^^^ w) ^^^ ((z ^^^ w) >>> k) = (z ^^^ (z >>> k)) ^^^ (w ^^^ (w >>> k)) := by
          rw [UInt64.shiftRight_xor]
          ac_rfl
      _ = 0 := by rw [h, UInt64.xor_self]
  exact (UInt64.xor_eq_zero_iff.1 hsum).symm

theorem mix_injective : Function.Injective mix := by
  intro a b h
  have houter := cancel_shift (by decide) h
  have hsecond := cancel_shift (by decide) (cancel_factor 0x319642b2d24d8ec3 (by decide) houter)
  exact cancel_shift (by decide) (cancel_factor 0x96de1b173f119089 (by decide) hsecond)

/-- There are finitely many words. -/
theorem surjective_of_injective {f : UInt64 → UInt64} (h : Function.Injective f) :
    Function.Surjective f := by
  have : Finite UInt64 := Finite.of_injective UInt64.toFin fun _ _ => UInt64.toFin_inj.1
  exact Finite.injective_iff_surjective.1 h

theorem mix_bijective : Function.Bijective mix :=
  ⟨mix_injective, surjective_of_injective mix_injective⟩

/-! ## The states -/

/-- The generator after some calls. -/
def after (n : Nat) (g : RequestIds) : RequestIds :=
  Nat.iterate (fun g => g.next.2) n g

/-- The word of the next call, with its top bit. -/
def word (g : RequestIds) : UInt64 := mix (g.state + increment)

theorem next_eq (g : RequestIds) : g.next = (idOf g.word, ⟨g.state + increment⟩) := rfl

theorem after_zero (g : RequestIds) : g.after 0 = g := rfl

theorem after_succ (n : Nat) (g : RequestIds) : g.after (n + 1) = (g.after n).next.2 :=
  Function.iterate_succ_apply' _ n g

theorem after_next (n : Nat) (g : RequestIds) : g.next.2.after n = g.after (n + 1) :=
  (Function.iterate_succ_apply _ n g).symm

theorem state_after (n : Nat) (g : RequestIds) :
    (g.after n).state = g.state + UInt64.ofNat n * increment := by
  induction n with
  | zero => simp [after_zero]
  | succ n ih =>
      rw [after_succ, next_eq]
      dsimp only
      rw [ih, UInt64.ofNat_add]
      grind

/-- The distance between states is odd. -/
theorem increment_inverse : increment * 0xf1de83e19937733d = 1 := by decide

/-- Each state is passed within a period. -/
theorem exists_after (g : RequestIds) (s : UInt64) :
    ∃ n < UInt64.size, (g.after n).state = s := by
  refine ⟨((s - g.state) * 0xf1de83e19937733d).toNat, UInt64.toNat_lt_size _, ?_⟩
  rw [state_after, UInt64.ofNat_toNat]
  have hinverse := increment_inverse
  grind

/-- No word comes twice within a period. -/
theorem eq_of_word_after {g : RequestIds} {i j : Nat} (hi : i < UInt64.size) (hj : j < UInt64.size)
    (h : (g.after i).word = (g.after j).word) : i = j := by
  have hstate := mix_injective h
  rw [state_after, state_after, UInt64.add_left_inj, UInt64.add_right_inj] at hstate
  have hcount := congrArg UInt64.toNat (cancel_factor _ increment_inverse hstate)
  rwa [UInt64.toNat_ofNat_of_lt' hi, UInt64.toNat_ofNat_of_lt' hj] at hcount

/-- Each word comes within a period. -/
theorem exists_word_after (g : RequestIds) (w : UInt64) : ∃ n < UInt64.size, (g.after n).word = w := by
  obtain ⟨s, rfl⟩ := mix_bijective.2 w
  obtain ⟨n, hn, hstate⟩ := g.exists_after (s - increment)
  refine ⟨n, hn, ?_⟩
  rw [word, hstate, UInt64.sub_add_cancel]

/-! ## The ids of words -/

theorem toInt_idOf (w : UInt64) : (idOf w).toInt = (w.toNat % 0x8000000000000000 : Nat) := by
  have hmask : (w &&& 0x7fffffffffffffff).toNat = w.toNat % 0x8000000000000000 := by
    rw [UInt64.toNat_and]
    exact Nat.and_two_pow_sub_one_eq_mod w.toNat 63
  have hword : (idOf w).toInt = ((w &&& 0x7fffffffffffffff).toNat : Int).bmod 0x10000000000000000 := by
    show (w &&& 0x7fffffffffffffff).toBitVec.toInt = _
    rw [BitVec.toInt_eq_toNat_bmod]
    rfl
  rw [hword, hmask]
  have hlt : w.toNat % 0x8000000000000000 < 0x8000000000000000 := Nat.mod_lt _ (by decide)
  generalize w.toNat % 0x8000000000000000 = n at hlt
  dsimp only [Int.bmod]
  omega

/-- The two words of an id, which differ in the top bit. -/
def wordsOf (id : Int64) : List UInt64 :=
  [UInt64.ofNat id.toInt.toNat, UInt64.ofNat (id.toInt.toNat + 0x8000000000000000)]

theorem mem_wordsOf_iff {id : Int64} (hid : 0 ≤ id.toInt) {w : UInt64} :
    w ∈ wordsOf id ↔ idOf w = id := by
  have hlt : id.toInt < 0x8000000000000000 := id.toInt_lt
  have hw : w.toNat < 0x10000000000000000 := w.toNat_lt
  have hlow : id.toInt.toNat < UInt64.size := by
    unfold UInt64.size
    omega
  have hhigh : id.toInt.toNat + 0x8000000000000000 < UInt64.size := by
    unfold UInt64.size
    omega
  rw [← Int64.toInt_inj, toInt_idOf, wordsOf, List.mem_pair, ← UInt64.toNat_inj, ← UInt64.toNat_inj,
    UInt64.toNat_ofNat_of_lt' hlow, UInt64.toNat_ofNat_of_lt' hhigh]
  omega

theorem nodup_wordsOf {id : Int64} : (wordsOf id).Nodup := by
  simp [wordsOf]

/-! ## A period of ids -/

theorem take_eq_map (n : Nat) (g : RequestIds) :
    g.take n = ((List.range n).map fun i => (g.after i).word).map idOf := by
  induction n generalizing g with
  | zero => rfl
  | succ n ih =>
      rw [take, ih, List.range_succ_eq_map]
      simp only [after_next, List.map_cons, List.map_map, Function.comp_def]
      rw [after_zero, next_eq]

/-- Within a period, each id comes exactly twice. -/
theorem count_take_size {id : Int64} (hid : 0 ≤ id.toInt) (g : RequestIds) :
    (g.take UInt64.size).count id = 2 := by
  have hnodup : ((List.range UInt64.size).map fun i => (g.after i).word).Nodup := by
    refine List.Nodup.map_on ?_ List.nodup_range
    intro i hi j hj
    exact eq_of_word_after (List.mem_range.1 hi) (List.mem_range.1 hj)
  have hall : ∀ w, w ∈ (List.range UInt64.size).map fun i => (g.after i).word := by
    intro w
    obtain ⟨n, hn, hword⟩ := g.exists_word_after w
    exact List.mem_map.2 ⟨n, List.mem_range.2 hn, hword⟩
  rw [take_eq_map, List.count, List.countP_map, List.countP_eq_length_filter]
  generalize (List.range UInt64.size).map (fun i => (g.after i).word) = words at hnodup hall
  have hperm : (words.filter ((· == id) ∘ idOf)).Perm (wordsOf id) := by
    refine (List.perm_ext_iff_of_nodup (hnodup.filter _) nodup_wordsOf).2 fun w => ?_
    rw [List.mem_filter, mem_wordsOf_iff hid]
    simp [hall]
  rw [hperm.length_eq]
  rfl

/-! ## Every generator -/

/-- The ids of a generator repeat as rarely as their 63 bits allow. -/
structure Spreads (g : RequestIds) : Prop where
  /-- All states are passed within a period. -/
  passes : ∀ s, ∃ n < UInt64.size, (g.after n).state = s
  /-- No word comes twice within a period. -/
  apart : ∀ i j, i < j → j < UInt64.size → (g.after i).word ≠ (g.after j).word
  /-- An id is its word without the top bit. -/
  masked : ∀ i, (g.after i).next.1.toInt = ((g.after i).word.toNat % 0x8000000000000000 : Nat)
  /-- No id is negative. -/
  bounded : ∀ i, 0 ≤ (g.after i).next.1.toInt ∧ (g.after i).next.1.toInt < 0x8000000000000000
  /-- In as many calls in a row as there are words, whichever call is the first, each id comes twice. -/
  twice : ∀ start (id : Int64), 0 ≤ id.toInt → ((g.after start).take UInt64.size).count id = 2

/-- A generator mixes its states one to one, and spreads its ids whatever number it starts from. -/
theorem spreads_of_seed (seed : Int64) : Function.Bijective mix ∧ (ofSeed seed).Spreads := by
  refine ⟨mix_bijective, exists_after _, ?_, fun i => toInt_idOf _, fun i => ?_, ?_⟩
  · intro i j hij hj h
    exact Nat.ne_of_lt hij (eq_of_word_after (Nat.lt_trans hij hj) hj h)
  · have hid : (((ofSeed seed).after i).next.1).toInt = _ := toInt_idOf _
    rw [hid]
    omega
  · intro start id hid
    exact count_take_size hid _

end PklHost.RequestIds
