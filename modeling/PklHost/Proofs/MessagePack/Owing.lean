import PklHost.Proofs.MessagePack.Finding
import PklHost.Proofs.MessagePack.Walking

/-!
# What a walk still owes

The count that a walk keeps is the number of values that are missing.  Where a walk of a buffer has passed
`position` octets and owes `owed` values, those octets are made into one item by exactly `owed` items behind
them, whatever these are, and by nothing else (`Walk.Owes.exists_spelledBy_iff`).

A walk has looked at no octet but those that it passed.  So it would come to the same place with any others
behind them, which is the invariant `Walk.Owes`.
-/

namespace PklHost.MessagePack

/-- A header is found in the octets that it steps over. -/
theorem Marker.header_take {m : Marker} {bs : Bytes} {header : Header}
    (h : m.header bs = some (.ok header)) (hskip : header.skip ≤ bs.length) :
    m.header (bs.take header.skip) = some (.ok header) := by
  have hbs := List.take_append_drop header.skip bs
  cases htake : m.header (bs.take header.skip) with
  | none =>
      have hnone := header_append_of_none (bs.drop header.skip) htake
      rw [hbs, h] at hnone
      cases hnone
  | some found =>
      cases found with
      | ok found =>
          have hfound := header_append_of_ok (bs.drop header.skip) htake
          rw [hbs, h] at hfound
          exact hfound.symm
      | error width =>
          -- octets of a size that are lacking here are among those that the header steps over
          obtain ⟨hlack, hgrown⟩ := header_append_of_error (bs.drop header.skip) htake
          rw [hbs, h] at hgrown
          rw [List.length_take_of_le hskip] at hlack
          split at hgrown
          · cases hgrown
          · obtain ⟨found, hfound, hwidth⟩ := hgrown
            cases hfound
            omega

/-- The walk from the front of a buffer comes past its first `position` octets owing `owed` values, whatever
stands behind them. -/
structure Walk.Owes (bs : Bytes) (position owed : Nat) : Prop where
  within : position ≤ bs.length
  comes : ∀ octets, Walk.run ⟨0, bs.take position ++ octets, 1⟩ = Walk.run ⟨position, octets, owed⟩

namespace Walk

variable {bs : Bytes} {position owed position' owed' : Nat} {rest : Bytes}

theorem Owes.start (bs : Bytes) : Owes bs 0 1 where
  within := Nat.zero_le _
  comes _ := rfl

/-- A step that goes on looks at the octets that it passes, and at no others. -/
theorem run_of_step_on (hstep : step ⟨position, rest, owed⟩ = .on ⟨position', bs, owed'⟩)
    (octets : Bytes) :
    run ⟨position, rest.take (position' - position) ++ octets, owed⟩ = run ⟨position', octets, owed'⟩ := by
  cases Finds.of_step hstep with
  | @passes b tail header position owed hheader hskip =>
      have hpassed : position + 1 + header.skip - position = header.skip + 1 := by omega
      have hlength := List.length_take_of_le hskip
      have htake := Marker.header_append_of_ok octets (Marker.header_take hheader hskip)
      rw [hpassed, List.take_succ_cons, List.cons_append, run_header position owed htake hlength.symm,
        hlength, Nat.add_comm header.skip, Nat.add_assoc]

theorem Owes.step (h : Owes bs position owed)
    (hstep : step ⟨position, bs.drop position, owed⟩ = .on ⟨position', rest, owed'⟩) :
    Owes bs position' owed' := by
  obtain ⟨hfurther, htotal⟩ := total_of_step hstep
  have hwithin := h.within
  refine ⟨?_, fun octets => ?_⟩
  · simp only [List.length_drop] at htotal
    omega
  · have htake : bs.take position' =
        bs.take position ++ (bs.drop position).take (position' - position) := by
      rw [← List.take_add, Nat.add_sub_cancel' (Nat.le_of_lt hfurther)]
    rw [htake, List.append_assoc, h.comes, run_of_step_on hstep]

/-- Behind the octets that a walk passed, as many items are missing as it owes. -/
theorem Owes.exists_spelledBy_iff (h : Owes bs position owed) (octets : Bytes) :
    (∃ x : Item, x.SpelledBy (bs.take position ++ octets)) ↔
      ∃ xs : List Item, xs.length = owed ∧ SpelledItems xs octets := by
  have hlength : (bs.take position ++ octets).length = position + octets.length := by
    rw [List.length_append, List.length_take_of_le h.within]
  constructor
  · rintro ⟨x, hx⟩
    have hrun : run ⟨position, octets, owed⟩ = some (.complete (position + octets.length)) := by
      have hextent := extent_of_spelledBy hx []
      rwa [List.append_nil, extent, h.comes, hlength] at hextent
    obtain ⟨xs, passed, more, hcount, hxs, hoctets, hend⟩ := spelled_of_run hrun
    -- the walk ends behind the last of the octets
    obtain rfl : more = [] := by
      have hpassed := congrArg List.length hoctets
      rw [List.length_append] at hpassed
      exact List.eq_nil_of_length_eq_zero (by dsimp only at hpassed hend; omega)
    obtain rfl : octets = passed := hoctets.trans (List.append_nil passed)
    exact ⟨xs, hcount, hxs⟩
  · rintro ⟨xs, rfl, hxs⟩
    have hend : run ⟨position + octets.length, [], 0⟩ = some (.complete (position + octets.length)) :=
      run_of_done rfl
    have hrun := run_of_spelledItems xs hxs position 0 []
    rw [List.append_nil, Nat.zero_add, hend, ← h.comes, ← hlength] at hrun
    obtain ⟨x, hx⟩ := spelledBy_of_extent hrun
    rw [List.take_length] at hx
    exact ⟨x, hx⟩

end Walk

end PklHost.MessagePack
