/-!
# Association lists with a given equality of keys

Pairs stay in the order in which their keys first arrived. Inserting a key that is there replaces
its value in place and keeps the key that came first. The equality of keys is a parameter and need
not be reflexive: a key that equals nothing, itself included, is appended at every insertion and
never found.
-/

namespace PklHost.Assoc

variable {κ : Type u} {α : Type v}

/-- Inserts or replaces. -/
def insert (same : κ → κ → Bool) (k : κ) (v : α) : List (κ × α) → List (κ × α)
  | [] => [(k, v)]
  | (k', v') :: rest =>
    if same k' k then (k', v) :: rest else (k', v') :: insert same k v rest

/-- Inserts or replaces, and gives the value that was replaced. -/
def exchange (same : κ → κ → Bool) (k : κ) (v : α) : List (κ × α) → Option α × List (κ × α)
  | [] => (none, [(k, v)])
  | (k', v') :: rest =>
    if same k' k then (some v', (k', v) :: rest)
    else
      let (replaced, rest') := exchange same k v rest
      (replaced, (k', v') :: rest')

/-- The value of the first key equal to `k`. -/
def get? (same : κ → κ → Bool) (k : κ) : List (κ × α) → Option α
  | [] => none
  | (k', v') :: rest => if same k' k then some v' else get? same k rest

/-- The list after inserting the pairs one after another. -/
def insertAll (same : κ → κ → Bool) (acc pairs : List (κ × α)) : List (κ × α) :=
  pairs.foldl (fun acc p => insert same p.1 p.2 acc) acc

/-- The list built from pairs. -/
def ofPairs (same : κ → κ → Bool) (pairs : List (κ × α)) : List (κ × α) :=
  insertAll same [] pairs

/-- The keys, in order. -/
def keys (l : List (κ × α)) : List κ := l.map Prod.fst

/-- No key equals a later one. -/
def Distinct (same : κ → κ → Bool) (l : List (κ × α)) : Prop :=
  (keys l).Pairwise fun a b => same a b = false

theorem keys_insert_of_get?_isSome {same : κ → κ → Bool} {k : κ} {v : α} {l : List (κ × α)}
    (h : (get? same k l).isSome = true) : keys (insert same k v l) = keys l := by
  induction l with
  | nil => simp [get?] at h
  | cons p rest ih =>
    obtain ⟨k', v'⟩ := p
    by_cases hk : same k' k = true
    · simp [insert, keys, hk]
    · simp only [get?, hk, Bool.false_eq_true, if_false] at h
      have := ih h
      simp_all [insert, keys]

theorem insert_of_get?_eq_none {same : κ → κ → Bool} {k : κ} {v : α} {l : List (κ × α)}
    (h : get? same k l = none) : insert same k v l = l ++ [(k, v)] := by
  induction l with
  | nil => rfl
  | cons p rest ih =>
    obtain ⟨k', v'⟩ := p
    by_cases hk : same k' k = true
    · simp [get?, hk] at h
    · simp only [get?, hk, Bool.false_eq_true, if_false] at h
      simp [insert, hk, ih h]

/-- What is given by an insertion is what was found before it. -/
theorem exchange_eq (same : κ → κ → Bool) (k : κ) (v : α) (l : List (κ × α)) :
    exchange same k v l = (get? same k l, insert same k v l) := by
  induction l with
  | nil => rfl
  | cons p rest ih =>
    obtain ⟨k', v'⟩ := p
    rw [exchange, get?, insert]
    split
    · rfl
    · rw [ih]

end PklHost.Assoc
