import PklHost.MessagePack.Extent

/-!
# The walk over a growing buffer

Octets that arrive later never change what a walk has found, at any of its exits: a header that was
passed is passed again, an end that was found stays where it is, and the reserved marker stays
reserved.  A walk that lacks octets asks for more than there are, asks for the same number until
that many are there, and finds no end before it (`extent_append_of_incomplete`).

Nothing here depends on the octets being MessagePack: the statements hold of every buffer.
-/

namespace PklHost.MessagePack

/-- The octets that an extent speaks of: all of the value, or all that it is known to need. -/
def Extent.bound : Extent → Nat
  | .complete size => size
  | .incomplete need => need

/-- A walk with more octets to come. -/
def Walk.extend (cs : Bytes) (w : Walk) : Walk :=
  { w with rest := w.rest ++ cs }

/-! ## Headers -/

theorem SizeField.peek?_append {size : SizeField} {bs : Bytes} {n : Nat} (cs : Bytes)
    (h : size.peek? bs = some n) : size.peek? (bs ++ cs) = some n := by
  cases size with
  | inMarker m => exact h
  | octets width =>
      simp only [peek?, Option.map_eq_some_iff] at h ⊢
      obtain ⟨⟨digits, rest⟩, hsplit, rfl⟩ := h
      exact ⟨(digits, rest ++ cs), Bytes.split?_append_of_some cs hsplit, rfl⟩

theorem SizeField.peek?_eq_none_iff {size : SizeField} {bs : Bytes} :
    size.peek? bs = none ↔ bs.length < size.width := by
  cases size with
  | inMarker m => simp [peek?, width]
  | octets w => simp [peek?, width, Bytes.split?_eq_none_iff]

/-- A header whose size is there stays as it is. -/
theorem sizedHeader_append_of_ok {size : SizeField} {f : Nat → Header} {bs : Bytes}
    {header : Header} (cs : Bytes) (h : sizedHeader size f bs = .ok header) :
    sizedHeader size f (bs ++ cs) = .ok header := by
  unfold sizedHeader at h ⊢
  cases hpeek : size.peek? bs with
  | none => simp [hpeek] at h
  | some n =>
      rw [SizeField.peek?_append cs hpeek]
      simpa [hpeek] using h

/-- A header that lacks octets of its size: it lacks them until they are all there, and then it steps
over them. -/
theorem sizedHeader_append_of_error {size : SizeField} {f : Nat → Header} {bs : Bytes} {width : Nat}
    (cs : Bytes) (hf : ∀ n, size.width ≤ (f n).skip) (h : sizedHeader size f bs = .error width) :
    bs.length < width ∧
      if (bs ++ cs).length < width then sizedHeader size f (bs ++ cs) = .error width
      else ∃ header, sizedHeader size f (bs ++ cs) = .ok header ∧ width ≤ header.skip := by
  unfold sizedHeader at h ⊢
  cases hpeek : size.peek? bs with
  | some n => simp [hpeek] at h
  | none =>
      have hwidth : size.width = width := by simpa [hpeek] using h
      subst hwidth
      refine ⟨SizeField.peek?_eq_none_iff.1 hpeek, ?_⟩
      split
      · next hshort => rw [SizeField.peek?_eq_none_iff.2 hshort]
      · next hlong =>
          cases hmore : size.peek? (bs ++ cs) with
          | none => exact absurd (SizeField.peek?_eq_none_iff.1 hmore) hlong
          | some n => exact ⟨f n, rfl, hf n⟩

theorem Marker.header_append_of_none {m : Marker} {bs : Bytes} (cs : Bytes)
    (h : m.header bs = none) : m.header (bs ++ cs) = none := by
  cases m <;> simp_all [header]

theorem Marker.header_append_of_ok {m : Marker} {bs : Bytes} {header : Header} (cs : Bytes)
    (h : m.header bs = some (.ok header)) : m.header (bs ++ cs) = some (.ok header) := by
  cases m with
  | text size | bin size | ext size | array size | map size =>
      simp only [Marker.header, Option.some.injEq] at h ⊢
      exact sizedHeader_append_of_ok cs h
  | nil | reserved | bool | small | unsigned | signed | single | double => exact h

theorem Marker.header_append_of_error {m : Marker} {bs : Bytes} {width : Nat} (cs : Bytes)
    (h : m.header bs = some (.error width)) :
    bs.length < width ∧
      if (bs ++ cs).length < width then m.header (bs ++ cs) = some (.error width)
      else ∃ header, m.header (bs ++ cs) = some (.ok header) ∧ width ≤ header.skip := by
  cases m with
  | text size | bin size | ext size | array size | map size =>
      simp only [Marker.header, Option.some.injEq] at h ⊢
      exact sizedHeader_append_of_error cs (fun n => by dsimp only; omega) h
  | nil | reserved | bool | small | unsigned | signed | single | double => simp [Marker.header] at h

/-! ## Steps -/

/-- A step leads past `n` octets or ends with a bound of at least `n`. -/
def WalkStep.Reaches (n : Nat) : WalkStep → Prop
  | .on w => n ≤ w.position
  | .done e => n ≤ e.bound
  | .reserved => True

/-- The step of a walk that owes a value and has its marker. -/
theorem Walk.step_cons (position owed : Nat) (b : UInt8) (bs : Bytes) :
    Walk.step ⟨position, b :: bs, owed + 1⟩ =
      match (Marker.ofOctet b).header bs with
      | none => .reserved
      | some (.error width) => .done (.incomplete (position + 1 + width))
      | some (.ok header) =>
        if Bytes.reaches header.skip bs then
          .on ⟨position + 1 + header.skip, bs.drop header.skip, owed + header.owed⟩
        else .done (.incomplete (position + 1 + header.skip)) := rfl

/-- A walk that owes a value steps past its marker at least. -/
theorem Walk.step_reaches (position owed : Nat) (b : UInt8) (bs : Bytes) :
    (Walk.step ⟨position, b :: bs, owed + 1⟩).Reaches (position + 1) := by
  rw [Walk.step_cons]
  split
  · trivial
  · show position + 1 ≤ position + 1 + _
    omega
  · split <;> show position + 1 ≤ position + 1 + _ <;> omega

/-- What a step finds, one case for each way out of it, with the tests that lead there. -/
inductive Walk.Finds : Walk → WalkStep → Prop
  | owesNothing (position : Nat) (rest : Bytes) :
      Finds ⟨position, rest, 0⟩ (.done (.complete position))
  | noMarker (position owed : Nat) :
      Finds ⟨position, [], owed + 1⟩ (.done (.incomplete (position + 1)))
  | reservedMarker {b : UInt8} {bs : Bytes} (position owed : Nat)
      (hheader : (Marker.ofOctet b).header bs = none) :
      Finds ⟨position, b :: bs, owed + 1⟩ .reserved
  | shortSize {b : UInt8} {bs : Bytes} {width : Nat} (position owed : Nat)
      (hheader : (Marker.ofOctet b).header bs = some (.error width)) :
      Finds ⟨position, b :: bs, owed + 1⟩ (.done (.incomplete (position + 1 + width)))
  | shortBody {b : UInt8} {bs : Bytes} {header : Header} (position owed : Nat)
      (hheader : (Marker.ofOctet b).header bs = some (.ok header)) (hlack : bs.length < header.skip) :
      Finds ⟨position, b :: bs, owed + 1⟩ (.done (.incomplete (position + 1 + header.skip)))
  | passes {b : UInt8} {bs : Bytes} {header : Header} (position owed : Nat)
      (hheader : (Marker.ofOctet b).header bs = some (.ok header)) (hskip : header.skip ≤ bs.length) :
      Finds ⟨position, b :: bs, owed + 1⟩
        (.on ⟨position + 1 + header.skip, bs.drop header.skip, owed + header.owed⟩)

theorem Walk.finds_step (w : Walk) : w.Finds w.step := by
  obtain ⟨position, rest, owed⟩ := w
  cases owed with
  | zero => exact .owesNothing position rest
  | succ owed =>
      cases rest with
      | nil => exact .noMarker position owed
      | cons b bs =>
          rw [step_cons]
          split
          · next hheader => exact .reservedMarker position owed hheader
          · next width hheader => exact .shortSize position owed hheader
          · next header hheader =>
              split
              · next hreaches => exact .passes position owed hheader (Bytes.reaches_iff.1 hreaches)
              · next hreaches =>
                  refine .shortBody position owed hheader (Nat.lt_of_not_le fun hskip => ?_)
                  exact hreaches (Bytes.reaches_iff.2 hskip)

theorem Walk.Finds.of_step {w : Walk} {s : WalkStep} (h : w.step = s) : w.Finds s :=
  h ▸ w.finds_step

theorem Walk.Finds.step_eq {w : Walk} {s : WalkStep} (h : w.Finds s) : w.step = s := by
  cases h with
  | owesNothing position rest => rfl
  | noMarker position owed => rfl
  | reservedMarker position owed hheader => rw [step_cons, hheader]
  | shortSize position owed hheader => rw [step_cons, hheader]
  | shortBody position owed hheader hlack =>
      rw [step_cons, hheader]
      exact if_neg fun hreaches => Nat.not_le_of_lt hlack (Bytes.reaches_iff.1 hreaches)
  | passes position owed hheader hskip =>
      rw [step_cons, hheader]
      exact if_pos (Bytes.reaches_iff.2 hskip)

theorem Walk.step_extend_of_on {w w' : Walk} (cs : Bytes) (h : w.step = .on w') :
    (w.extend cs).step = .on (w'.extend cs) := by
  cases Finds.of_step h with
  | passes position owed hheader hskip =>
      have hmore := Nat.le_trans hskip (Nat.le_add_right _ cs.length)
      rw [← List.length_append] at hmore
      have hpasses := Finds.passes position owed (Marker.header_append_of_ok cs hheader) hmore
      rw [List.drop_append_of_le_length hskip] at hpasses
      exact hpasses.step_eq

theorem Walk.step_extend_of_complete {w : Walk} {n : Nat} (cs : Bytes)
    (h : w.step = .done (.complete n)) : (w.extend cs).step = .done (.complete n) := by
  cases Finds.of_step h with
  | owesNothing position rest => exact (Finds.owesNothing n (rest ++ cs)).step_eq

theorem Walk.step_extend_of_reserved {w : Walk} (cs : Bytes) (h : w.step = .reserved) :
    (w.extend cs).step = .reserved := by
  cases Finds.of_step h with
  | reservedMarker position owed hheader =>
      exact (Finds.reservedMarker position owed (Marker.header_append_of_none cs hheader)).step_eq

/-- A step that lacks octets: it lacks the same until they are all there, and then it leads past
them. -/
theorem Walk.step_extend_of_incomplete {w : Walk} {n : Nat} (cs : Bytes)
    (h : w.step = .done (.incomplete n)) :
    w.position + w.rest.length < n ∧
      if w.position + (w.rest ++ cs).length < n then (w.extend cs).step = .done (.incomplete n)
      else (w.extend cs).step.Reaches n := by
  cases Finds.of_step h with
  | noMarker position owed =>
      refine ⟨Nat.lt_succ_self _, ?_⟩
      cases cs with
      | nil => simp [extend, step]
      | cons c cs =>
          rw [if_neg (by simp)]
          exact step_reaches position owed c cs
  | @shortSize b bs width position owed hheader =>
      obtain ⟨hlack, hgrown⟩ := Marker.header_append_of_error cs hheader
      refine ⟨by simp only [List.length_cons]; omega, ?_⟩
      split
      · next hshort =>
          simp only [List.cons_append, List.length_cons] at hshort
          rw [if_pos (by omega)] at hgrown
          exact (Finds.shortSize position owed hgrown).step_eq
      · next hlong =>
          simp only [List.cons_append, List.length_cons] at hlong
          rw [if_neg (by omega)] at hgrown
          obtain ⟨header, hok, hskip⟩ := hgrown
          -- the size is there now, and what it sizes may still be short
          show (Walk.step ⟨position, b :: (bs ++ cs), owed + 1⟩).Reaches _
          rw [step_cons, hok]
          dsimp only
          split <;> show position + 1 + width ≤ position + 1 + header.skip <;> omega
  | @shortBody b bs header position owed hheader hlack =>
      have hmore := Marker.header_append_of_ok cs hheader
      refine ⟨by simp only [List.length_cons]; omega, ?_⟩
      split
      · next hshort =>
          simp only [List.cons_append, List.length_cons] at hshort
          exact (Finds.shortBody position owed hmore (by omega)).step_eq
      · next hlong =>
          simp only [List.cons_append, List.length_cons] at hlong
          have hpasses := (Finds.passes position owed hmore (by omega)).step_eq
          show (Walk.step ⟨position, b :: (bs ++ cs), owed + 1⟩).Reaches _
          rw [hpasses]
          exact Nat.le_refl _

/-- A step passes octets; it neither finds nor loses any. -/
theorem Walk.total_of_step {w w' : Walk} (h : w.step = .on w') :
    w.position < w'.position ∧
      w'.position + w'.rest.length = w.position + w.rest.length := by
  cases Finds.of_step h with
  | passes position owed hheader hskip =>
      simp only [List.length_cons, List.length_drop]
      omega

/-- A step that ends the walk ends it where the walk stands, or asks for more. -/
theorem Walk.position_le_of_done {w : Walk} {e : Extent} (h : w.step = .done e) :
    w.position ≤ e.bound := by
  cases Finds.of_step h with
  | owesNothing position rest => exact Nat.le_refl _
  | noMarker position owed => exact Nat.le_succ _
  | shortSize position owed hheader => exact Nat.le_add_right_of_le (Nat.le_succ _)
  | shortBody position owed hheader hlack => exact Nat.le_add_right_of_le (Nat.le_succ _)

/-! ## Walks -/

theorem Walk.run_of_on {w w' : Walk} (h : w.step = .on w') : w.run = w'.run := by
  rw [run]
  split <;> simp_all

theorem Walk.run_of_done {w : Walk} {e : Extent} (h : w.step = .done e) : w.run = some e := by
  rw [run]
  split <;> simp_all

theorem Walk.run_of_reserved {w : Walk} (h : w.step = .reserved) : w.run = none := by
  rw [run]
  split <;> simp_all

/-- Induction along a walk. -/
theorem Walk.run_induction {motive : Walk → Prop}
    (on : ∀ w w', w.step = .on w' → motive w' → motive w)
    (done : ∀ w e, w.step = .done e → motive w)
    (reserved : ∀ w, w.step = .reserved → motive w) (w : Walk) : motive w := by
  cases hstep : w.step with
  | on w' => exact on w w' hstep (run_induction on done reserved w')
  | done e => exact done w e hstep
  | reserved => exact reserved w hstep
termination_by w.rest.length
decreasing_by exact Walk.rest_lt_of_step hstep

theorem Walk.position_le_of_run {w : Walk} {e : Extent} (h : w.run = some e) :
    w.position ≤ e.bound := by
  induction w using Walk.run_induction with
  | on w w' hstep ih =>
      rw [run_of_on hstep] at h
      have := ih h
      have := (total_of_step hstep).1
      omega
  | done w e' hstep =>
      rw [run_of_done hstep, Option.some.injEq] at h
      subst h
      exact position_le_of_done hstep
  | reserved w hstep =>
      rw [run_of_reserved hstep] at h
      simp at h

/-- A step that reaches `n` leads to an end with a bound of at least `n`. -/
theorem Walk.le_bound_of_step_reaches {w : Walk} {n : Nat} {e : Extent} (hn : w.step.Reaches n)
    (h : w.run = some e) : n ≤ e.bound := by
  cases hstep : w.step with
  | on w' =>
      rw [hstep] at hn
      rw [run_of_on hstep] at h
      exact Nat.le_trans hn (position_le_of_run h)
  | done e' =>
      rw [hstep] at hn
      rw [run_of_done hstep, Option.some.injEq] at h
      subst h
      exact hn
  | reserved =>
      rw [run_of_reserved hstep] at h
      simp at h

theorem Walk.run_extend_of_complete {w : Walk} {n : Nat} (cs : Bytes)
    (h : w.run = some (.complete n)) : (w.extend cs).run = some (.complete n) := by
  induction w using Walk.run_induction with
  | on w w' hstep ih =>
      rw [run_of_on hstep] at h
      rw [run_of_on (step_extend_of_on cs hstep)]
      exact ih h
  | done w e hstep =>
      rw [run_of_done hstep, Option.some.injEq] at h
      subst h
      exact run_of_done (step_extend_of_complete cs hstep)
  | reserved w hstep =>
      rw [run_of_reserved hstep] at h
      simp at h

theorem Walk.run_extend_of_reserved {w : Walk} (cs : Bytes) (h : w.run = none) :
    (w.extend cs).run = none := by
  induction w using Walk.run_induction with
  | on w w' hstep ih =>
      rw [run_of_on hstep] at h
      rw [run_of_on (step_extend_of_on cs hstep)]
      exact ih h
  | done w e hstep =>
      rw [run_of_done hstep] at h
      simp at h
  | reserved w hstep => exact run_of_reserved (step_extend_of_reserved cs hstep)

theorem Walk.run_extend_of_incomplete {w : Walk} {n : Nat} (cs : Bytes)
    (h : w.run = some (.incomplete n)) :
    w.position + w.rest.length < n ∧
      if w.position + (w.rest ++ cs).length < n then (w.extend cs).run = some (.incomplete n)
      else ∀ e, (w.extend cs).run = some e → n ≤ e.bound := by
  induction w using Walk.run_induction with
  | on w w' hstep ih =>
      rw [run_of_on hstep] at h
      rw [run_of_on (step_extend_of_on cs hstep)]
      have htotal := (total_of_step hstep).2
      have := ih h
      simp only [List.length_append] at this ⊢
      rwa [show w.position + w.rest.length = w'.position + w'.rest.length from htotal.symm,
        show w.position + (w.rest.length + cs.length) =
          w'.position + (w'.rest.length + cs.length) by omega]
  | done w e hstep =>
      rw [run_of_done hstep, Option.some.injEq] at h
      subst h
      obtain ⟨hlack, hgrown⟩ := step_extend_of_incomplete cs hstep
      refine ⟨hlack, ?_⟩
      split
      · next hshort =>
          rw [if_pos hshort] at hgrown
          exact run_of_done hgrown
      · next hlong =>
          rw [if_neg hlong] at hgrown
          intro e he
          exact le_bound_of_step_reaches hgrown he
  | reserved w hstep =>
      rw [run_of_reserved hstep] at h
      simp at h

/-- A walk ends where it has walked: no further than its octets reach. -/
theorem Walk.le_total_of_run {w : Walk} {n : Nat} (h : w.run = some (.complete n)) :
    n ≤ w.position + w.rest.length := by
  induction w using Walk.run_induction with
  | on w w' hstep ih =>
      rw [run_of_on hstep] at h
      have := ih h
      have := (total_of_step hstep).2
      omega
  | done w e hstep =>
      rw [run_of_done hstep, Option.some.injEq] at h
      subst h
      cases Finds.of_step hstep with
      | owesNothing position rest => exact Nat.le_add_right _ _
  | reserved w hstep =>
      rw [run_of_reserved hstep] at h
      simp at h

/-! ## Extents -/

theorem extent_append_of_complete {bs : Bytes} {n : Nat} (cs : Bytes)
    (h : extent bs = some (.complete n)) : extent (bs ++ cs) = some (.complete n) :=
  Walk.run_extend_of_complete cs h

theorem extent_append_of_reserved {bs : Bytes} (cs : Bytes) (h : extent bs = none) :
    extent (bs ++ cs) = none :=
  Walk.run_extend_of_reserved cs h

/-- What a buffer lacks, it lacks until it has grown that far; from then on the value is known to need
no less. -/
theorem extent_append_of_incomplete {bs : Bytes} {n : Nat} (cs : Bytes)
    (h : extent bs = some (.incomplete n)) :
    bs.length < n ∧
      if (bs ++ cs).length < n then extent (bs ++ cs) = some (.incomplete n)
      else ∀ e, extent (bs ++ cs) = some e → n ≤ e.bound := by
  have := Walk.run_extend_of_incomplete cs h
  simp only [Nat.zero_add] at this
  exact this

/-- A value has an octet at least, and all of its octets are in the buffer. -/
theorem extent_complete_bounds {bs : Bytes} {n : Nat} (h : extent bs = some (.complete n)) :
    0 < n ∧ n ≤ bs.length := by
  constructor
  · cases bs with
    | nil =>
        have hnil : extent [] = some (.incomplete 1) := Walk.run_of_done rfl
        simp [hnil] at h
    | cons b bs => exact Walk.le_bound_of_step_reaches (Walk.step_reaches 0 0 b bs) h
  · simpa using Walk.le_total_of_run h

end PklHost.MessagePack
