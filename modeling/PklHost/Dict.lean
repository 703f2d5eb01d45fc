/-!
# Dictionaries in the order of their names

A dictionary holds one value per name, its pairs ordered by the octets of the names. The order makes
two dictionaries with the same contents equal. Inserting a name that is there replaces its value.
The functions on plain lists are stated apart from `Dict`, for lists inside recursive types.
-/

namespace PklHost

namespace Ordered

variable {α : Type u}

/-- The names ascend strictly. -/
def Ascending (l : List (String × α)) : Prop :=
  l.Pairwise fun a b => a.1 < b.1

/-- Inserts or replaces, keeping the order. -/
def insert (name : String) (v : α) : List (String × α) → List (String × α)
  | [] => [(name, v)]
  | (name', v') :: rest =>
    if name < name' then (name, v) :: (name', v') :: rest
    else if name = name' then (name, v) :: rest
    else (name', v') :: insert name v rest

/-- The pairs in order; the last pair of a name wins. -/
def ofPairs (pairs : List (String × α)) : List (String × α) :=
  pairs.foldl (fun acc p => insert p.1 p.2 acc) []

theorem mem_of_mem_insert {name : String} {v : α} {p : String × α} {l : List (String × α)}
    (h : p ∈ insert name v l) : p = (name, v) ∨ p ∈ l := by
  induction l with
  | nil => simpa [insert] using h
  | cons q rest ih =>
    obtain ⟨name', v'⟩ := q
    rw [insert] at h
    split at h
    · simpa using h
    · split at h
      · rcases List.mem_cons.mp h with h | h
        · exact .inl h
        · exact .inr (List.mem_cons_of_mem _ h)
      · rcases List.mem_cons.mp h with h | h
        · exact .inr (h ▸ List.mem_cons_self)
        · exact (ih h).imp id (List.mem_cons_of_mem _)

theorem ascending_insert (name : String) (v : α) {l : List (String × α)} (h : Ascending l) :
    Ascending (insert name v l) := by
  induction l with
  | nil => simp [insert, Ascending]
  | cons q rest ih =>
    obtain ⟨name', v'⟩ := q
    obtain ⟨hHead, hRest⟩ := List.pairwise_cons.mp h
    rw [insert]
    split
    · next hLt =>
      refine List.pairwise_cons.mpr ⟨fun p hp => ?_, h⟩
      rcases List.mem_cons.mp hp with rfl | hp
      · exact hLt
      · exact String.lt_trans hLt (hHead p hp)
    · next hNotLt =>
      split
      · next hEq =>
        subst hEq
        exact List.pairwise_cons.mpr ⟨fun p hp => hHead p hp, hRest⟩
      · next hNe =>
        refine List.pairwise_cons.mpr ⟨fun p hp => ?_, ih hRest⟩
        rcases mem_of_mem_insert hp with rfl | hp
        · exact Decidable.byContradiction fun hn =>
            hNe (String.le_antisymm (String.not_lt.mp hn) (String.not_lt.mp hNotLt))
        · exact hHead p hp

theorem ascending_foldl_insert (pairs : List (String × α)) {acc : List (String × α)}
    (h : Ascending acc) : Ascending (pairs.foldl (fun acc p => insert p.1 p.2 acc) acc) := by
  induction pairs generalizing acc with
  | nil => exact h
  | cons p rest ih => exact ih (ascending_insert p.1 p.2 h)

theorem ascending_ofPairs (pairs : List (String × α)) : Ascending (ofPairs pairs) :=
  ascending_foldl_insert pairs List.Pairwise.nil

theorem mem_of_mem_foldl_insert {p : String × α} {pairs acc : List (String × α)}
    (h : p ∈ pairs.foldl (fun acc q => insert q.1 q.2 acc) acc) : p ∈ acc ∨ p ∈ pairs := by
  induction pairs generalizing acc with
  | nil => exact .inl h
  | cons q rest ih =>
    rcases ih h with h | h
    · rcases mem_of_mem_insert h with rfl | h
      · exact .inr List.mem_cons_self
      · exact .inl h
    · exact .inr (List.mem_cons_of_mem _ h)

theorem mem_of_mem_ofPairs {p : String × α} {pairs : List (String × α)} (h : p ∈ ofPairs pairs) :
    p ∈ pairs :=
  (mem_of_mem_foldl_insert h).resolve_left List.not_mem_nil

/-- A name after all others goes to the end. -/
theorem insert_of_last {name : String} {v : α} {l : List (String × α)} (h : ∀ p ∈ l, p.1 < name) :
    insert name v l = l ++ [(name, v)] := by
  induction l with
  | nil => rfl
  | cons p rest ih =>
    obtain ⟨hFirst, hRest⟩ := List.forall_mem_cons.mp h
    have hNotLt : ¬ name < p.1 := fun hLt => String.lt_irrefl _ (String.lt_trans hFirst hLt)
    have hNe : name ≠ p.1 := fun hEq => String.lt_irrefl _ (hEq ▸ hFirst)
    rw [insert, if_neg hNotLt, if_neg hNe, ih hRest, List.cons_append]

theorem foldl_insert_of_ascending (pairs : List (String × α)) {acc : List (String × α)}
    (h : Ascending (acc ++ pairs)) :
    pairs.foldl (fun acc p => insert p.1 p.2 acc) acc = acc ++ pairs := by
  induction pairs generalizing acc with
  | nil => rw [List.append_nil]; rfl
  | cons p rest ih =>
    have hLast : ∀ q ∈ acc, q.1 < p.1 := fun q hq =>
      (List.pairwise_append.mp h).2.2 q hq p List.mem_cons_self
    rw [List.append_cons] at h ⊢
    rw [List.foldl_cons, insert_of_last hLast, ih h]

/-- Pairs whose names ascend are in order already. -/
theorem ofPairs_of_ascending {pairs : List (String × α)} (h : Ascending pairs) :
    ofPairs pairs = pairs :=
  foldl_insert_of_ascending pairs h

end Ordered

/-- A dictionary from names to values. -/
structure Dict (α : Type u) where
  pairs : List (String × α)
  ascending : Ordered.Ascending pairs

namespace Dict

variable {α : Type u}

def empty : Dict α := ⟨[], List.Pairwise.nil⟩

instance : Inhabited (Dict α) := ⟨empty⟩

def insert (name : String) (v : α) (d : Dict α) : Dict α :=
  ⟨Ordered.insert name v d.pairs, Ordered.ascending_insert name v d.ascending⟩

/-- The dictionary of the pairs; the last pair of a name wins. -/
def ofPairs (pairs : List (String × α)) : Dict α :=
  ⟨Ordered.ofPairs pairs, Ordered.ascending_ofPairs pairs⟩

def get? (name : String) (d : Dict α) : Option α :=
  (d.pairs.find? fun p => p.1 == name).map Prod.snd

def isEmpty (d : Dict α) : Bool := d.pairs.isEmpty

/-- All pairs of `upper` inserted into `d`. -/
def merge (d upper : Dict α) : Dict α :=
  upper.pairs.foldl (fun acc p => acc.insert p.1 p.2) d

theorem ext_pairs {d e : Dict α} (h : d.pairs = e.pairs) : d = e := by
  cases d; cases e; simp_all

theorem ofPairs_pairs (d : Dict α) : ofPairs d.pairs = d :=
  ext_pairs (Ordered.ofPairs_of_ascending d.ascending)

end Dict

end PklHost
