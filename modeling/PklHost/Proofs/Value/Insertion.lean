import PklHost.Assoc

/-!
# Lists built by insertion

Inserting keeps the keys distinct, whatever the equality of keys is: it need be neither reflexive nor
symmetric nor transitive.  A list with distinct keys is rebuilt unchanged, in its order, from its own
pairs (`ofPairs_of_distinct`), also where a key does not equal itself.
-/

namespace PklHost.Assoc

variable {κ : Type u} {α : Type v} {same : κ → κ → Bool}

theorem get?_eq_none_iff {k : κ} {l : List (κ × α)} :
    get? same k l = none ↔ ∀ p ∈ l, same p.1 k = false := by
  induction l with
  | nil => simp [get?]
  | cons p rest ih =>
      obtain ⟨k', v'⟩ := p
      cases hsame : same k' k with
      | true => simp [get?, hsame]
      | false => simp [get?, hsame, ih]

theorem distinct_append_singleton {k : κ} {v : α} {l : List (κ × α)} (h : Distinct same l)
    (hnew : ∀ p ∈ l, same p.1 k = false) : Distinct same (l ++ [(k, v)]) := by
  unfold Distinct keys at h ⊢
  rw [List.map_append, List.pairwise_append]
  refine ⟨h, List.pairwise_singleton _ _, ?_⟩
  intro a ha b hb
  obtain ⟨p, hp, rfl⟩ := List.mem_map.1 ha
  obtain rfl : b = k := by simpa using hb
  exact hnew p hp

/-- Inserting keeps keys distinct. -/
theorem distinct_insert {l : List (κ × α)} (k : κ) (v : α) (h : Distinct same l) :
    Distinct same (insert same k v l) := by
  cases hget : get? same k l with
  | none =>
      rw [insert_of_get?_eq_none hget]
      exact distinct_append_singleton h (get?_eq_none_iff.1 hget)
  | some v' =>
      unfold Distinct at h ⊢
      rwa [keys_insert_of_get?_isSome (by rw [hget]; rfl)]

theorem distinct_insertAll {acc : List (κ × α)} (pairs : List (κ × α)) (h : Distinct same acc) :
    Distinct same (insertAll same acc pairs) := by
  induction pairs generalizing acc with
  | nil => exact h
  | cons p pairs ih => exact ih (distinct_insert p.1 p.2 h)

theorem distinct_ofPairs (pairs : List (κ × α)) : Distinct same (ofPairs same pairs) :=
  distinct_insertAll pairs List.Pairwise.nil

/-- Inserting makes a list longer by one at most. -/
theorem length_insert_le (k : κ) (v : α) (l : List (κ × α)) :
    (insert same k v l).length ≤ l.length + 1 := by
  induction l with
  | nil => exact Nat.le_refl _
  | cons q rest ih =>
      obtain ⟨k', v'⟩ := q
      rw [insert]
      split
      · exact Nat.le_succ _
      · exact Nat.succ_le_succ ih

theorem length_insertAll_le (acc pairs : List (κ × α)) :
    (insertAll same acc pairs).length ≤ acc.length + pairs.length := by
  induction pairs generalizing acc with
  | nil => exact Nat.le_refl _
  | cons p pairs ih =>
      have hfirst := @length_insert_le κ α same p.1 p.2 acc
      have hrest := ih (insert same p.1 p.2 acc)
      rw [List.length_cons]
      show (insertAll same (insert same p.1 p.2 acc) pairs).length ≤ _
      omega

theorem length_ofPairs_le (pairs : List (κ × α)) : (ofPairs same pairs).length ≤ pairs.length := by
  have hlength := @length_insertAll_le κ α same [] pairs
  rwa [List.length_nil, Nat.zero_add] at hlength

/-- A list holds no key and no value that was not inserted into it. -/
theorem forall_insert {P : κ → Prop} {Q : α → Prop} {k : κ} {v : α} {l : List (κ × α)} (hk : P k)
    (hv : Q v) (h : ∀ p ∈ l, P p.1 ∧ Q p.2) : ∀ p ∈ insert same k v l, P p.1 ∧ Q p.2 := by
  induction l with
  | nil =>
      intro p hp
      obtain rfl : p = (k, v) := by simpa [insert] using hp
      exact ⟨hk, hv⟩
  | cons q rest ih =>
      obtain ⟨k', v'⟩ := q
      have hhead := h (k', v') List.mem_cons_self
      have htail : ∀ p ∈ rest, P p.1 ∧ Q p.2 := fun p hp => h p (List.mem_cons_of_mem _ hp)
      rw [insert]
      split
      · exact List.forall_mem_cons.2 ⟨⟨hhead.1, hv⟩, htail⟩
      · exact List.forall_mem_cons.2 ⟨hhead, ih htail⟩

theorem forall_insertAll {P : κ → Prop} {Q : α → Prop} {acc pairs : List (κ × α)}
    (hacc : ∀ p ∈ acc, P p.1 ∧ Q p.2) (hpairs : ∀ p ∈ pairs, P p.1 ∧ Q p.2) :
    ∀ p ∈ insertAll same acc pairs, P p.1 ∧ Q p.2 := by
  induction pairs generalizing acc with
  | nil => exact hacc
  | cons p pairs ih =>
      obtain ⟨⟨hk, hv⟩, hrest⟩ := List.forall_mem_cons.1 hpairs
      exact ih (forall_insert hk hv hacc) hrest

theorem forall_ofPairs {P : κ → Prop} {Q : α → Prop} {pairs : List (κ × α)}
    (h : ∀ p ∈ pairs, P p.1 ∧ Q p.2) : ∀ p ∈ ofPairs same pairs, P p.1 ∧ Q p.2 :=
  forall_insertAll (fun p hp => by simp at hp) h

/-- Pairs whose keys are distinct, and new to a list, are appended to it. -/
theorem insertAll_of_distinct {acc pairs : List (κ × α)} (h : Distinct same (acc ++ pairs)) :
    insertAll same acc pairs = acc ++ pairs := by
  induction pairs generalizing acc with
  | nil => rw [List.append_nil]; rfl
  | cons p pairs ih =>
      -- no key before the next one is the same, asked in the order in which it is stored
      have hnew : get? same p.1 acc = none := by
        rw [get?_eq_none_iff]
        intro q hq
        unfold Distinct keys at h
        rw [List.map_append, List.pairwise_append] at h
        exact h.2.2 q.1 (List.mem_map_of_mem hq) p.1 (by simp)
      show insertAll same (insert same p.1 p.2 acc) pairs = _
      rw [insert_of_get?_eq_none hnew]
      have happend : (acc ++ [(p.1, p.2)]) ++ pairs = acc ++ p :: pairs := by simp
      rw [ih (by rwa [happend]), happend]

theorem ofPairs_of_distinct {pairs : List (κ × α)} (h : Distinct same pairs) :
    ofPairs same pairs = pairs :=
  insertAll_of_distinct h

end PklHost.Assoc
