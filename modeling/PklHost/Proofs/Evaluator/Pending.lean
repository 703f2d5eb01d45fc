import Mathlib.Data.List.Pairwise
import PklHost.Evaluator.Pending

/-!
# Pending requests one by one

What each operation on pending requests does, as statements about the pairs of id and ticket that wait.
As long as no ticket is registered twice, no two requests share an id or a ticket (`Orderly`), so that
what is found under an id is the only request under it.
-/

namespace PklHost.Pending

variable {τ : Type} {p q : Pending τ} {id : Int64} {ticket : τ}

/-- Two requests share neither id nor ticket. -/
def Apart (w w' : Int64 × τ) : Prop := w.1 ≠ w'.1 ∧ w.2 ≠ w'.2

instance : Std.Symm (Apart (τ := τ)) where
  symm _ _ h := ⟨h.1.symm, h.2.symm⟩

/-- No two requests share an id, and no two share a ticket. -/
def Orderly (p : Pending τ) : Prop := p.waiting.Pairwise Apart

/-! ## Finding -/

theorem mem_of_find? (h : p.find? id = some ticket) : (id, ticket) ∈ p.waiting := by
  obtain ⟨w, hw, rfl⟩ := Option.map_eq_some_iff.1 h
  have hid : w.1 = id := by simpa using List.find?_some hw
  have hmem := List.mem_of_find?_eq_some hw
  rwa [← hid]

theorem find?_eq_none_iff : p.find? id = none ↔ ∀ w ∈ p.waiting, w.1 ≠ id := by
  simp [find?, List.find?_eq_none]

/-- The only request under an id is the one that is found. -/
theorem Orderly.find?_of_mem (hp : p.Orderly) (h : (id, ticket) ∈ p.waiting) :
    p.find? id = some ticket := by
  cases hfind : p.find? id with
  | none => exact absurd rfl (find?_eq_none_iff.1 hfind _ h)
  | some other =>
      have hmem := mem_of_find? hfind
      by_cases heq : (id, other) = (id, ticket)
      · rw [(Prod.mk.inj heq).2]
      · exact absurd rfl (hp.forall hmem h heq).1

/-- A ticket waits under one id only. -/
theorem Orderly.id_eq (hp : p.Orderly) {id' : Int64} (h : (id, ticket) ∈ p.waiting)
    (h' : (id', ticket) ∈ p.waiting) : id = id' := by
  by_cases heq : (id, ticket) = (id', ticket)
  · exact (Prod.mk.inj heq).1
  · exact absurd rfl (hp.forall h h' heq).2

/-! ## Erasing and taking -/

theorem mem_erase {w : Int64 × τ} : w ∈ (p.erase id).waiting ↔ w ∈ p.waiting ∧ w.1 ≠ id := by
  simp [erase]

theorem Orderly.erase (hp : p.Orderly) (id : Int64) : (p.erase id).Orderly :=
  hp.filter _

/-- Where nothing waits under an id there is nothing to erase. -/
theorem erase_of_find?_eq_none (h : p.find? id = none) : p.erase id = p := by
  have hall : p.waiting.filter (fun w => w.1 != id) = p.waiting := by
    rw [List.filter_eq_self]
    intro w hw
    simpa using find?_eq_none_iff.1 h w hw
  unfold Pending.erase
  rw [hall]

theorem take_eq_some_iff : p.take id = some (ticket, q) ↔ p.find? id = some ticket ∧ q = p.erase id := by
  unfold take
  cases p.find? id with
  | none => simp
  | some other => simp [eq_comm]

theorem take_eq_none_iff : p.take id = none ↔ p.find? id = none := by
  simp [take]

/-! ## Registering -/

theorem register_eq_ok_iff : p.register id ticket = .ok q ↔
    p.isClosed = false ∧ p.find? id = none ∧ q = { p with waiting := p.waiting ++ [(id, ticket)] } := by
  unfold register
  cases p.isClosed with
  | true => simp
  | false =>
      cases p.find? id with
      | none => simp [eq_comm]
      | some other => simp

/-- A new ticket under a free id keeps the requests apart. -/
theorem Orderly.append (hp : p.Orderly) (hid : p.find? id = none)
    (hticket : ∀ w ∈ p.waiting, w.2 ≠ ticket) :
    Orderly { p with waiting := p.waiting ++ [(id, ticket)] } := by
  unfold Orderly
  rw [List.pairwise_append]
  refine ⟨hp, List.pairwise_singleton _ _, ?_⟩
  intro w hw w' hw'
  obtain rfl : w' = (id, ticket) := by simpa using hw'
  exact ⟨find?_eq_none_iff.1 hid w hw, hticket w hw⟩

theorem orderly_of_waiting_eq_nil (h : p.waiting = []) : p.Orderly := by
  unfold Orderly
  rw [h]
  exact List.Pairwise.nil

end PklHost.Pending
