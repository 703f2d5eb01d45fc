import PklHost.Proofs.MessagePack.Growth
import PklHost.Proofs.MessagePack.Reading

/-!
# Walking over what is spelled

The walk knows nothing of items: it goes from header to header and counts the values still owed.
`Item.run_of_spelledBy` says that, owing a value and standing before a spelling, it gets to the end of
the spelling with one value less owed, whatever follows.  So the extent of octets that begin with a
spelling is the spelling (`extent_of_spelledBy`), and that of a beginning of it is an unfinished one
that never asks for more than the whole (`extent_of_proper_prefix`).
-/

namespace PklHost.MessagePack

/-- The walk passes a header with what it steps over. -/
theorem Walk.run_header {b : UInt8} {passed rest : Bytes} {header : Header} (position owed : Nat)
    (h : (Marker.ofOctet b).header (passed ++ rest) = some (.ok header))
    (hskip : header.skip = passed.length) :
    Walk.run ⟨position, b :: (passed ++ rest), owed + 1⟩ =
      Walk.run ⟨position + (passed.length + 1), rest, owed + header.owed⟩ := by
  apply Walk.run_of_on
  have hreaches : Bytes.reaches header.skip (passed ++ rest) = true := by
    rw [Bytes.reaches_iff, hskip, List.length_append]
    omega
  rw [Walk.step_cons, h]
  dsimp only
  rw [if_pos hreaches, hskip, List.drop_left, Nat.add_assoc, Nat.add_comm 1]

theorem Flat.run_eq {x : Item} {b : UInt8} {digits : Bytes} (h : Flat x b digits)
    (position owed : Nat) (rest : Bytes) :
    Walk.run ⟨position, (b :: digits) ++ rest, owed + 1⟩ =
      Walk.run ⟨position + (b :: digits).length, rest, owed⟩ :=
  Walk.run_header position owed (h.header rest) rfl

/-- The walk passes a head with the octets that it announces. -/
theorem Walk.run_head {form : HeadForm} {kind : SizeField → Marker} {n : Nat}
    {head : Bytes} (passed rest : Bytes) (position owed owes : Nat) (hkind : form.Announces kind)
    (hhead : form.Says n head)
    (hheader : ∀ (size : SizeField) (bs : Bytes), size.peek? bs = some n →
      (kind size).header bs = some (.ok ⟨size.width + passed.length, owes⟩)) :
    Walk.run ⟨position, (head ++ passed) ++ rest, owed + 1⟩ =
      Walk.run ⟨position + (head ++ passed).length, rest, owed + owes⟩ := by
  obtain ⟨b, digits, size, rfl, hmarker, hwidth, hsize⟩ := hhead.marker hkind
  have hhere : (Marker.ofOctet b).header ((digits ++ passed) ++ rest) =
      some (.ok ⟨size.width + passed.length, owes⟩) := by
    rw [hmarker, List.append_assoc]
    exact hheader size _ (hsize (passed ++ rest)).2
  have := Walk.run_header position owed hhere (by
    show size.width + passed.length = (digits ++ passed).length
    rw [hwidth, List.length_append])
  rw [List.cons_append, List.cons_append, this]
  rfl

mutual

theorem Item.run_of_spelledBy : (x : Item) → {octets : Bytes} → x.SpelledBy octets →
    (position owed : Nat) → (rest : Bytes) →
    Walk.run ⟨position, octets ++ rest, owed + 1⟩ =
      Walk.run ⟨position + octets.length, rest, owed⟩
  | .nil, octets, h, position, owed, rest => by
      rw [show octets = 0xc0 :: [] from h]
      exact flat_nil.run_eq position owed rest
  | .bool b, octets, h, position, owed, rest => by
      rw [show octets = (if b then 0xc3 else 0xc2) :: [] from h]
      exact (flat_bool b).run_eq position owed rest
  | .int n, octets, h, position, owed, rest => by
      obtain ⟨b, digits, rfl, hflat⟩ := SpellsInt.flat h
      exact hflat.run_eq position owed rest
  | .single x, octets, h, position, owed, rest => by
      rw [show octets = 0xca :: Bytes.ofNat 4 x.bits.toNat from h]
      exact (flat_single x).run_eq position owed rest
  | .double x, octets, h, position, owed, rest => by
      rw [show octets = 0xcb :: Bytes.ofNat 8 x.bits.toNat from h]
      exact (flat_double x).run_eq position owed rest
  | .text s, octets, h, position, owed, rest => by
      obtain ⟨head, hhead, rfl⟩ := h
      refine Walk.run_head _ rest position owed 0 HeadForm.text_announces hhead fun size bs hpeek => ?_
      simp only [Marker.header, sizedHeader, hpeek]
  | .brokenText t, octets, h, position, owed, rest => by
      obtain ⟨head, hhead, rfl⟩ := h
      refine Walk.run_head _ rest position owed 0 HeadForm.text_announces hhead fun size bs hpeek => ?_
      simp only [Marker.header, sizedHeader, hpeek]
  | .bin body, octets, h, position, owed, rest => by
      obtain ⟨head, hhead, rfl⟩ := h
      refine Walk.run_head body rest position owed 0 HeadForm.bin_announces hhead fun size bs hpeek => ?_
      simp only [Marker.header, sizedHeader, hpeek]
  | .ext kind body, octets, h, position, owed, rest => by
      obtain ⟨head, hhead, rfl⟩ := h
      refine Walk.run_head (_ :: body) rest position owed 0 HeadForm.ext_announces hhead
        fun size bs hpeek => ?_
      simp only [Marker.header, sizedHeader, hpeek, List.length_cons]
      rw [Nat.add_assoc, Nat.add_comm 1]
  | .array items, octets, h, position, owed, rest => by
      -- past the head as many values are owed as there are items
      obtain ⟨head, body, hhead, hbody, rfl⟩ := h
      have hrun := Walk.run_head [] (body ++ rest) position owed items.length
        HeadForm.array_announces hhead fun size bs hpeek => by
          simp only [Marker.header, sizedHeader, hpeek, List.length_nil, Nat.add_zero]
      rw [List.append_nil] at hrun
      rw [List.append_assoc, hrun, run_of_spelledItems items hbody, List.length_append,
        Nat.add_assoc]
  | .map pairs, octets, h, position, owed, rest => by
      obtain ⟨head, body, hhead, hbody, rfl⟩ := h
      have hrun := Walk.run_head [] (body ++ rest) position owed (2 * pairs.length)
        HeadForm.map_announces hhead fun size bs hpeek => by
          simp only [Marker.header, sizedHeader, hpeek, List.length_nil, Nat.add_zero]
      rw [List.append_nil] at hrun
      rw [List.append_assoc, hrun, run_of_spelledPairs pairs hbody, List.length_append,
        Nat.add_assoc]

theorem run_of_spelledItems : (xs : List Item) → {octets : Bytes} → SpelledItems xs octets →
    (position owed : Nat) → (rest : Bytes) →
    Walk.run ⟨position, octets ++ rest, owed + xs.length⟩ =
      Walk.run ⟨position + octets.length, rest, owed⟩
  | [], octets, h, position, owed, rest => by
      rw [show octets = [] from h]
      rfl
  | x :: xs, octets, h, position, owed, rest => by
      obtain ⟨first, more, hx, hxs, rfl⟩ := h
      rw [List.append_assoc, List.length_cons, ← Nat.add_assoc,
        Item.run_of_spelledBy x hx position (owed + xs.length) (more ++ rest),
        run_of_spelledItems xs hxs, List.length_append, Nat.add_assoc]

theorem run_of_spelledPairs : (ps : List (Item × Item)) → {octets : Bytes} →
    SpelledPairs ps octets → (position owed : Nat) → (rest : Bytes) →
    Walk.run ⟨position, octets ++ rest, owed + 2 * ps.length⟩ =
      Walk.run ⟨position + octets.length, rest, owed⟩
  | [], octets, h, position, owed, rest => by
      rw [show octets = [] from h]
      rfl
  | (k, v) :: ps, octets, h, position, owed, rest => by
      obtain ⟨key, value, more, hk, hv, hps, rfl⟩ := h
      have howed : owed + 2 * ((k, v) :: ps).length = owed + 2 * ps.length + 1 + 1 := by
        rw [List.length_cons]
        omega
      rw [howed, List.append_assoc, List.append_assoc,
        Item.run_of_spelledBy k hk position (owed + 2 * ps.length + 1) (value ++ (more ++ rest)),
        Item.run_of_spelledBy v hv _ (owed + 2 * ps.length) (more ++ rest),
        run_of_spelledPairs ps hps, List.length_append, List.length_append, Nat.add_assoc,
        Nat.add_assoc]

end

/-- Octets that begin with a spelling hold a first value, and it is the spelling. -/
theorem extent_of_spelledBy {x : Item} {octets : Bytes} (h : x.SpelledBy octets) (rest : Bytes) :
    extent (octets ++ rest) = some (.complete octets.length) := by
  rw [extent, Item.run_of_spelledBy x h 0 0 rest, Nat.zero_add]
  exact Walk.run_of_done rfl

/-- A beginning of a spelling lacks octets, and none that the spelling does not have. -/
theorem extent_of_proper_prefix {x : Item} {start more : Bytes} (h : x.SpelledBy (start ++ more))
    (hmore : more ≠ []) :
    ∃ need, extent start = some (.incomplete need) ∧ need ≤ (start ++ more).length := by
  have hwhole := extent_of_spelledBy h []
  rw [List.append_nil] at hwhole
  have hshort : start.length < (start ++ more).length := by
    rw [List.length_append]
    have := List.length_pos_iff.2 hmore
    omega
  cases hextent : extent start with
  | none =>
      rw [extent_append_of_reserved more hextent] at hwhole
      simp at hwhole
  | some found =>
      cases found with
      | complete size =>
          -- a value that ends in the beginning would also end there in the whole
          have hsize := (extent_complete_bounds hextent).2
          rw [extent_append_of_complete more hextent] at hwhole
          simp only [Option.some.injEq, Extent.complete.injEq] at hwhole
          omega
      | incomplete need =>
          -- were more needed than there is in the whole, the whole would lack it too
          refine ⟨need, rfl, ?_⟩
          obtain ⟨-, hgrown⟩ := extent_append_of_incomplete more hextent
          split at hgrown
          · rw [hgrown] at hwhole
            simp at hwhole
          · exact hgrown _ hwhole

end PklHost.MessagePack
