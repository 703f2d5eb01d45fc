import Mathlib.Data.List.Forall2
import PklHost.Proofs.Value.Clashes
import PklHost.Proofs.Value.Equality

/-!
# Equality is a partial equivalence

Equality of values is symmetric and transitive, and it is reflexive exactly on the values without a NaN.
The order of what is keyed counts: members that are told apart by their keys are equal, place by place, to no
other arrangement of themselves (`eq_of_rearranged`), although a lookup by key would find the same in both.
-/

namespace PklHost

/-- Pairs whose keys are told apart, and that match a rearrangement of themselves key by key, are not
rearranged. -/
theorem Assoc.eq_of_perm {κ : Type u} {α : Type v} {same : κ → κ → Bool} {ps qs : List (κ × α)}
    (hdistinct : Distinct same ps) (hperm : ps.Perm qs)
    (hkeys : List.Forall₂ (fun p q => same p.1 q.1 = true) ps qs) : ps = qs := by
  induction hkeys with
  | nil => rfl
  | @cons p q ps qs hkey hkeys ih =>
      obtain ⟨hfirst, hrest⟩ := List.pairwise_cons.1 hdistinct
      -- the pair that came to the first place has the key of the pair that stood there
      have hq : q ∈ p :: ps := hperm.mem_iff.2 List.mem_cons_self
      obtain rfl | hlater := List.mem_cons.1 hq
      · rw [ih hrest ((List.perm_cons q).1 hperm)]
      · rw [hfirst q.1 (List.mem_map_of_mem hlater)] at hkey
        cases hkey

namespace Value

theorem forall₂_of_equalEntries {ps qs : List (Value × Value)} (h : equalEntries ps qs = true) :
    List.Forall₂ (fun p q => p.1.equal q.1 = true) ps qs := by
  induction ps generalizing qs with
  | nil =>
      cases qs with
      | nil => exact .nil
      | cons q qs => simp [equalEntries] at h
  | cons p ps ih =>
      cases qs with
      | nil => simp [equalEntries] at h
      | cons q qs =>
          rw [equalEntries, Bool.and_eq_true, Bool.and_eq_true] at h
          exact .cons h.1.1 (ih h.2)

theorem forall₂_of_equalProperties {ps qs : List (String × Value)} (h : equalProperties ps qs = true) :
    List.Forall₂ (fun p q => (p.1 == q.1) = true) ps qs := by
  induction ps generalizing qs with
  | nil =>
      cases qs with
      | nil => exact .nil
      | cons q qs => simp [equalProperties] at h
  | cons p ps ih =>
      cases qs with
      | nil => simp [equalProperties] at h
      | cons q qs =>
          rw [equalProperties, Bool.and_eq_true, Bool.and_eq_true] at h
          exact .cons h.1.1 (ih h.2)

/-- The same value with its properties and its entries in another order. -/
inductive Rearranged : Value → Value → Prop
  | map {entries entries' : List (Value × Value)} (h : entries.Perm entries') :
      Rearranged (.map entries) (.map entries')
  | dynamic {properties properties' : List (String × Value)} {entries entries' : List (Value × Value)}
      (elements : List Value) (hproperties : properties.Perm properties')
      (hentries : entries.Perm entries') :
      Rearranged (.dynamic properties entries elements) (.dynamic properties' entries' elements)
  | object (className moduleUri : String) {properties properties' : List (String × Value)}
      (h : properties.Perm properties') :
      Rearranged (.object className moduleUri properties) (.object className moduleUri properties')

theorem eq_of_rearranged {a b : Value} (hkeys : a.KeysOnce) (h : a.Rearranged b)
    (hequal : a.equal b = true) : a = b := by
  cases h with
  | map hperm =>
      rw [equal] at hequal
      rw [Assoc.eq_of_perm hkeys hperm (forall₂_of_equalEntries hequal)]
  | dynamic elements hproperties hentries =>
      rw [equal, Bool.and_eq_true, Bool.and_eq_true] at hequal
      rw [Assoc.eq_of_perm hkeys.1 hproperties (forall₂_of_equalProperties hequal.1.1),
        Assoc.eq_of_perm hkeys.2 hentries (forall₂_of_equalEntries hequal.1.2)]
  | object className moduleUri hperm =>
      rw [equal, Bool.and_eq_true] at hequal
      rw [Assoc.eq_of_perm hkeys hperm (forall₂_of_equalProperties hequal.2)]

/-- Equality of values is a partial equivalence, and whoever has no NaN equals itself.  Equal values differ
in nothing but the signs of zeros, and a rearrangement of keyed members is another value. -/
theorem equal_partialEquivalence (a b c : Value) :
    (a.equal b = true → b.equal a = true) ∧
    (a.equal b = true → b.equal c = true → a.equal c = true) ∧
    (a.equal a = true ↔ ¬ a.HasNaN) ∧
    (a.equal b = true ↔ ¬ a.HasNaN ∧ ¬ b.HasNaN ∧ a.unsignedZeros = b.unsignedZeros) ∧
    (a.KeysOnce → a.Rearranged b → a ≠ b → a.equal b = false) := by
  have hfree : ∀ v : Value, v.NaNFree ↔ ¬ v.HasNaN := fun v => by
    rw [← not_nanFree_iff, Classical.not_not]
  refine ⟨equal_symm, equal_trans, equal_self_iff.trans (hfree a), ?_, fun hkeys h hne => ?_⟩
  · rw [equal_iff, hfree, hfree]
  · exact Bool.eq_false_iff.2 fun hequal => hne (eq_of_rearranged hkeys h hequal)

/-- A map with a zero among its keys equals the one with the other zero, and not the one with its entries
exchanged. -/
theorem equal_partialEquivalence_zeroKeys :
    let zeroFirst : Value := .map [(.float ⟨0⟩, .string "zero"), (.int 1, .null)]
    let negativeZero : Value := .map [(.float ⟨0x8000000000000000⟩, .string "zero"), (.int 1, .null)]
    let zeroLast : Value := .map [(.int 1, .null), (.float ⟨0⟩, .string "zero")]
    (zeroFirst.equal negativeZero = true ∧ negativeZero.equal zeroFirst = true) ∧
      zeroFirst.equal zeroFirst = true ∧ ¬ zeroFirst.HasNaN ∧
      zeroFirst.KeysOnce ∧ zeroFirst.Rearranged zeroLast ∧ zeroFirst ≠ zeroLast ∧
      zeroFirst.equal zeroLast = false := by
  intro zeroFirst negativeZero zeroLast
  have hzeros : zeroFirst.equal negativeZero = true := by
    simp only [zeroFirst, negativeZero, equal, equalEntries, Bool.and_true]
    decide
  obtain ⟨hsymm, htrans, hself, -⟩ := equal_partialEquivalence zeroFirst negativeZero zeroFirst
  obtain ⟨-, -, -, -, horder⟩ := equal_partialEquivalence zeroFirst zeroLast zeroFirst
  have hkeys : zeroFirst.KeysOnce := by
    show List.Pairwise _ [_, _]
    simp [equal]
  have hrearranged : zeroFirst.Rearranged zeroLast := .map (.swap _ _ _)
  have hne : zeroFirst ≠ zeroLast := by simp [zeroFirst, zeroLast]
  have hequal := htrans hzeros (hsymm hzeros)
  exact ⟨⟨hzeros, hsymm hzeros⟩, hequal, hself.1 hequal, hkeys, hrearranged, hne,
    horder hkeys hrearranged hne⟩

/-- A NaN in a key, however deep, keeps a map from equalling itself. -/
example : (map [(.list [.duration ⟨.nan, .s⟩], .null)]).equal
    (map [(.list [.duration ⟨.nan, .s⟩], .null)]) = false := by
  cbv

end Value

end PklHost
