import PklHost.Proofs.MessagePack.Owing
import PklHost.Proofs.Word

/-!
# The walk in machine words

The walk counts with natural numbers.  Here it is done once more with words of 64 bits, as a loop over two
counters in which every operation may fail.  On a buffer of fewer than `2 ^ 32` octets none does, the loop
ends within one round more than there are octets, and it finds what the walk finds (`Counters.gives_run`).

One header may ask for almost `2 ^ 33` values, so that the count of values is no measure of what is left to
do, and `2 ^ 32` of such headers would not fit in a word.  But each of them takes five octets.  The
invariant is that no more than `2 ^ 31` values are owed for each octet that was passed, besides the one that
was owed before (`Counters.Sound`).
-/

namespace PklHost.MessagePack

/-! ## The loop -/

/-- What stands behind a marker, as the loop takes it. -/
inductive Course where
  /-- A fixed number of octets. -/
  | fixed (skip : Nat)
  /-- A size in `width` octets, then `extra` octets and as many as the size says. -/
  | sized (width extra : Nat)
  /-- A count in `width` octets, of items with `per` values each. -/
  | items (width per : Nat)
  /-- Items whose count stands in the marker. -/
  | counted (count per : Nat)
  deriving DecidableEq, Repr

/-- What stands behind a marker; `none` behind the reserved one. -/
def Marker.course? : Marker → Option Course
  | .reserved => none
  | .nil | .bool _ | .small _ => some (.fixed 0)
  | .unsigned width | .signed width => some (.fixed width)
  | .single => some (.fixed 4)
  | .double => some (.fixed 8)
  | .text (.inMarker n) | .bin (.inMarker n) => some (.fixed n)
  | .text (.octets width) | .bin (.octets width) => some (.sized width 0)
  | .ext (.inMarker n) => some (.fixed (1 + n))
  | .ext (.octets width) => some (.sized width 1)
  | .array (.inMarker n) => some (.counted n 1)
  | .array (.octets width) => some (.items width 1)
  | .map (.inMarker n) => some (.counted n 2)
  | .map (.octets width) => some (.items width 2)

/-- What the loop counts: the octets passed and the values owed. -/
structure Counters where
  position : UInt64
  owed : UInt64
  deriving DecidableEq, Repr

/-- How the loop ends. -/
inductive WordExtent where
  | complete (size : UInt64)
  | incomplete (need : UInt64)
  | reserved
  deriving DecidableEq, Repr

/-- How a round of the loop ends. -/
inductive Round where
  | on (c : Counters)
  | ends (e : WordExtent)
  deriving DecidableEq, Repr

/-- The number in the `width` octets from a position on, if they are there. -/
def peekWord (bs : Bytes) (position width : UInt64) : Except WordFault (Option UInt64) := do
  let stop ← Word.add .overflow position width
  if stop.toNat ≤ bs.length then
    return some (Word.ofOctets ((bs.drop position.toNat).take width.toNat))
  else return none

/-- The end of a round: the position must be one of the buffer. -/
def land (bs : Bytes) (position owed : UInt64) : Round :=
  if bs.length < position.toNat then .ends (.incomplete position) else .on ⟨position, owed⟩

/-- Goes on with the number in the `width` octets from a position on; they may be lacking. -/
def withNumber (bs : Bytes) (position width : UInt64) (go : UInt64 → Except WordFault Round) :
    Except WordFault Round := do
  match ← peekWord bs position width with
  | some n => go n
  | none =>
    let need ← Word.add .overflow position width
    return .ends (.incomplete need)

/-- The rest of a round, from behind the marker. -/
def Course.follow (bs : Bytes) (position owed : UInt64) : Course → Except WordFault Round
  | .fixed skip => do
    let position ← Word.add .overflow position (.ofNat skip)
    return land bs position owed
  | .counted count per => do
    let values ← Word.mul (.ofNat per) (.ofNat count)
    let owed ← Word.add .overflow owed values
    return land bs position owed
  | .sized width extra =>
    withNumber bs position (.ofNat width) fun size => do
      let head ← Word.add .overflow (.ofNat width) (.ofNat extra)
      let behind ← Word.add .saturation position head
      let position ← Word.add .saturation behind size
      return land bs position owed
  | .items width per =>
    withNumber bs position (.ofNat width) fun count => do
      let position ← Word.add .overflow position (.ofNat width)
      let values ← Word.mul (.ofNat per) count
      let owed ← Word.add .overflow owed values
      return land bs position owed

/-- One round of the loop, which takes one of the values that are owed. -/
def Counters.round (bs : Bytes) (c : Counters) : Except WordFault Round := do
  let owed ← Word.sub c.owed 1
  let position ← Word.add .overflow c.position 1
  match bs[c.position.toNat]? with
  | none => return .ends (.incomplete position)
  | some b =>
    match (Marker.ofOctet b).course? with
    | none => return .ends .reserved
    | some course => course.follow bs position owed

/-- The loop, given up after `rounds` rounds if it has not ended by then. -/
def Counters.run (bs : Bytes) : (rounds : Nat) → Counters → Except WordFault (Option WordExtent)
  | 0, c => return if c.owed = 0 then some (.complete c.position) else none
  | rounds + 1, c =>
    if c.owed = 0 then return some (.complete c.position)
    else do
      match ← c.round bs with
      | .on c' => c'.run bs rounds
      | .ends e => return some e

/-- The counters before the first round. -/
def Counters.start : Counters := ⟨0, 1⟩

/-! ## Courses -/

/-- The header that a course stands for. -/
def Course.header : Course → Bytes → Except Nat Header
  | .fixed skip, _ => .ok ⟨skip, 0⟩
  | .counted count per, _ => .ok ⟨0, per * count⟩
  | .sized width extra, bs => sizedHeader (.octets width) (fun n => ⟨width + extra + n, 0⟩) bs
  | .items width per, bs => sizedHeader (.octets width) (fun n => ⟨width, per * n⟩) bs

theorem Marker.header_eq (m : Marker) (bs : Bytes) :
    m.header bs = m.course?.map fun course => course.header bs := by
  cases m with
  | text size | bin size | ext size | array size | map size =>
      cases size <;> simp [header, course?, Course.header, sizedHeader, SizeField.peek?, SizeField.width]
  | nil | reserved | bool | small | unsigned | signed | single | double => rfl

/-- The widths, counts and factors that the format has. -/
def Course.Small : Course → Prop
  | .fixed skip => skip ≤ 31
  | .sized width extra => width ≤ 4 ∧ extra ≤ 1
  | .items width per => (width = 2 ∨ width = 4) ∧ per ≤ 2
  | .counted count per => count ≤ 15 ∧ per ≤ 2

instance (course : Course) : Decidable course.Small :=
  match course with
  | .fixed _ => inferInstanceAs (Decidable (_ ≤ _))
  | .sized .. => inferInstanceAs (Decidable (_ ∧ _))
  | .items .. => inferInstanceAs (Decidable ((_ ∨ _) ∧ _))
  | .counted .. => inferInstanceAs (Decidable (_ ∧ _))

theorem Marker.small_course (b : UInt8) : ∀ course ∈ (ofOctet b).course?, course.Small := by
  have hall : ∀ n < 256, ∀ course ∈ (ofOctet (UInt8.ofNat n)).course?, course.Small := by
    decide +kernel
  have hb := hall b.toNat b.toNat_lt
  rwa [UInt8.ofNat_toNat] at hb

/-- A size is smaller than what its octets can say. -/
theorem SizeField.peek?_lt {width n : Nat} {bs : Bytes} (h : (octets width).peek? bs = some n) :
    n < Nat.pow 256 width := by
  obtain ⟨⟨digits, more⟩, hsplit, rfl⟩ := Option.map_eq_some_iff.1 h
  obtain ⟨-, rfl⟩ := Bytes.append_of_split? hsplit
  exact Bytes.toNat_lt digits

theorem sizedHeader_eq_ok_iff {size : SizeField} {f : Nat → Header} {bs : Bytes} {header : Header} :
    sizedHeader size f bs = .ok header ↔ ∃ n, size.peek? bs = some n ∧ f n = header := by
  unfold sizedHeader
  cases size.peek? bs <;> simp

/-- What a course owes: no more than `2 ^ 33 - 2` values, and few for each octet that it takes. -/
theorem Course.owed_le {course : Course} (hsmall : course.Small) {bs : Bytes} {header : Header}
    (h : course.header bs = .ok header) :
    header.owed ≤ 0x1fffffffe ∧ header.owed ≤ 0x80000000 * (1 + header.skip) := by
  cases course with
  | fixed skip =>
      obtain rfl := Except.ok.inj h
      exact ⟨Nat.zero_le _, Nat.zero_le _⟩
  | counted count per =>
      obtain rfl := Except.ok.inj h
      obtain ⟨hcount, hper⟩ := hsmall
      have howed : per * count ≤ 2 * 15 := Nat.mul_le_mul hper hcount
      exact ⟨by dsimp only; omega, by dsimp only; omega⟩
  | sized width extra =>
      obtain ⟨n, -, rfl⟩ := sizedHeader_eq_ok_iff.1 h
      exact ⟨Nat.zero_le _, Nat.zero_le _⟩
  | items width per =>
      obtain ⟨hwidth, hper⟩ := hsmall
      obtain ⟨n, hpeek, rfl⟩ := sizedHeader_eq_ok_iff.1 h
      have hn := SizeField.peek?_lt hpeek
      dsimp only
      obtain rfl | rfl := hwidth
      · have howed : per * n ≤ 2 * 0xffff := Nat.mul_le_mul hper (Nat.le_of_lt_succ hn)
        omega
      · have howed : per * n ≤ 2 * 0xffffffff := Nat.mul_le_mul hper (Nat.le_of_lt_succ hn)
        omega

/-! ## Rounds are steps -/

/-- The walk that the counters are at. -/
def Counters.walk (bs : Bytes) (c : Counters) : Walk :=
  ⟨c.position.toNat, bs.drop c.position.toNat, c.owed.toNat⟩

/-- The extent that was found; `none` at the reserved marker. -/
def WordExtent.extent? : WordExtent → Option Extent
  | .complete size => some (.complete size.toNat)
  | .incomplete need => some (.incomplete need.toNat)
  | .reserved => none

theorem WordExtent.exists_of_incomplete {e : WordExtent} {need : Nat}
    (h : e.extent? = some (.incomplete need)) : ∃ word, e = .incomplete word ∧ word.toNat = need := by
  cases e with
  | incomplete word => exact ⟨word, rfl, by simpa [extent?] using h⟩
  | complete size => simp [extent?] at h
  | reserved => simp [extent?] at h

/-- The step that a round is. -/
def Round.step (bs : Bytes) : Round → WalkStep
  | .on c => .on (c.walk bs)
  | .ends e => e.extent?.elim .reserved .done

/-- A step from behind the marker, with the header that was found there. -/
def Walk.pass (position owed : Nat) (bs : Bytes) : Except Nat Header → WalkStep
  | .error width => .done (.incomplete (position + width))
  | .ok header =>
    if header.skip ≤ bs.length then
      .on ⟨position + header.skip, bs.drop header.skip, owed + header.owed⟩
    else .done (.incomplete (position + header.skip))

theorem Walk.step_eq_pass (position owed : Nat) (b : UInt8) (bs : Bytes) :
    step ⟨position, b :: bs, owed + 1⟩ =
      ((Marker.ofOctet b).header bs).elim .reserved (pass (position + 1) owed bs) := by
  rw [step_cons]
  cases (Marker.ofOctet b).header bs with
  | none => rfl
  | some found =>
      cases found with
      | error width => rfl
      | ok header => simp only [Bytes.reaches_iff, Option.elim_some, pass]

theorem step_land {bs : Bytes} {p owes : Nat} {header : Header} {position owed : UInt64}
    (hp : p ≤ bs.length) (hposition : position.toNat = p + header.skip)
    (howed : owed.toNat = owes + header.owed) :
    (land bs position owed).step bs = Walk.pass p owes (bs.drop p) (.ok header) := by
  rw [land, Walk.pass, List.length_drop, hposition]
  by_cases hskip : header.skip ≤ bs.length - p
  · rw [if_pos hskip, if_neg (by omega)]
    simp only [Round.step, Counters.walk, hposition, howed, List.drop_drop]
  · rw [if_neg hskip, if_pos (by omega)]
    simp only [Round.step, WordExtent.extent?, hposition, Option.elim_some]

section Rounds

variable {bs : Bytes} {position owed : UInt64}

theorem gives_peekWord {width : Nat} (hbs : bs.length < 0x100000000)
    (hposition : position.toNat ≤ bs.length) (hwidth : width ≤ 4) :
    Gives (peekWord bs position (.ofNat width)) fun found =>
      found.map UInt64.toNat = (SizeField.octets width).peek? (bs.drop position.toNat) := by
  have hword := UInt64.toNat_ofNat_of_lt' (show width < 0x10000000000000000 by omega)
  refine (Word.gives_add .overflow (by omega)).bind fun stop hstop => ?_
  rw [hword] at hstop
  rw [hstop, hword, SizeField.peek?]
  by_cases hthere : position.toNat + width ≤ bs.length
  · have hlength : ((bs.drop position.toNat).take width).length = width := by
      rw [List.length_take_of_le]
      rw [List.length_drop]
      omega
    have hsplit := Bytes.split?_append ((bs.drop position.toNat).take width)
      ((bs.drop position.toNat).drop width)
    rw [hlength, List.take_append_drop] at hsplit
    rw [if_pos hthere, hsplit]
    refine gives_pure ?_
    rw [Option.map_some, Word.toNat_ofOctets (by omega)]
    rfl
  · rw [if_neg hthere, Bytes.split?_eq_none_iff.2 (by rw [List.length_drop]; omega)]
    exact gives_pure rfl

/-- With a number that is there the loop goes on as the walk does, and without it both ask for its octets. -/
theorem gives_withNumber {width owes : Nat} {f : Nat → Header} {go : UInt64 → Except WordFault Round}
    (hbs : bs.length < 0x100000000) (hposition : position.toNat ≤ bs.length) (hwidth : width ≤ 4)
    (hgo : ∀ n : UInt64, n.toNat ≤ 0xffffffff → Gives (go n) fun r =>
      r.step bs = Walk.pass position.toNat owes (bs.drop position.toNat) (.ok (f n.toNat))) :
    Gives (withNumber bs position (.ofNat width) go) fun r =>
      r.step bs = Walk.pass position.toNat owes (bs.drop position.toNat)
        (sizedHeader (.octets width) f (bs.drop position.toNat)) := by
  refine (gives_peekWord hbs hposition hwidth).bind fun found hfound => ?_
  rw [sizedHeader, ← hfound]
  cases found with
  | some n =>
      have hpow : Nat.pow 256 width ≤ Nat.pow 256 4 := Nat.pow_le_pow_right (by decide) hwidth
      exact hgo n (Nat.le_of_lt_succ (Nat.lt_of_lt_of_le (SizeField.peek?_lt hfound.symm) hpow))
  | none =>
      have hword := UInt64.toNat_ofNat_of_lt' (show width < 0x10000000000000000 by omega)
      refine (Word.gives_add .overflow (by omega)).bind fun need hneed => gives_pure ?_
      simp only [Round.step, WordExtent.extent?, hneed, hword]
      rfl

/-- From behind the marker on, a round does what a step does, and nothing outgrows its word. -/
theorem Course.gives_follow {course : Course} (hsmall : course.Small) (hbs : bs.length < 0x100000000)
    (hposition : position.toNat ≤ bs.length) (howed : owed.toNat + 0x1fffffffe < 0x10000000000000000) :
    Gives (course.follow bs position owed) fun r =>
      r.step bs = Walk.pass position.toNat owed.toNat (bs.drop position.toNat)
        (course.header (bs.drop position.toNat)) := by
  have hword : ∀ {n : Nat}, n ≤ 31 → (UInt64.ofNat n).toNat = n := fun hn =>
    UInt64.toNat_ofNat_of_lt' (Nat.lt_of_le_of_lt hn (by decide))
  cases course with
  | fixed skip =>
      have hskip : skip ≤ 31 := hsmall
      have hskipWord := hword hskip
      refine (Word.gives_add .overflow (by omega)).bind fun position' hposition' => ?_
      rw [hskipWord] at hposition'
      exact gives_pure (step_land hposition hposition' rfl)
  | counted count per =>
      obtain ⟨hcount, hper⟩ := hsmall
      have hcountWord := hword (Nat.le_trans hcount (by decide))
      have hperWord := hword (Nat.le_trans hper (by decide))
      have hproduct : per * count ≤ 2 * 15 := Nat.mul_le_mul hper hcount
      rw [← hperWord, ← hcountWord] at hproduct
      refine (Word.gives_mul (by omega)).bind fun values hvalues => ?_
      refine (Word.gives_add .overflow (by omega)).bind fun owed' howed' => ?_
      rw [hvalues, hperWord, hcountWord] at howed'
      exact gives_pure (step_land hposition rfl howed')
  | sized width extra =>
      obtain ⟨hwidth, hextra⟩ := hsmall
      have hwidthWord := hword (Nat.le_trans hwidth (by decide))
      have hextraWord := hword (Nat.le_trans hextra (by decide))
      refine gives_withNumber hbs hposition hwidth fun size hsize => ?_
      refine (Word.gives_add .overflow (by omega)).bind fun head hhead => ?_
      refine (Word.gives_add .saturation (by omega)).bind fun behind hbehind => ?_
      refine (Word.gives_add .saturation (by omega)).bind fun position' hposition' => ?_
      refine gives_pure (step_land hposition ?_ rfl)
      rw [hposition', hbehind, hhead, hwidthWord, hextraWord, Nat.add_assoc]
  | items width per =>
      obtain ⟨hwidth, hper⟩ := hsmall
      have hwidthWord := hword (show width ≤ 31 by omega)
      have hperWord := hword (Nat.le_trans hper (by decide))
      refine gives_withNumber hbs hposition (by omega) fun count hcount => ?_
      have hproduct : per * count.toNat ≤ 2 * 0xffffffff := Nat.mul_le_mul hper hcount
      rw [← hperWord] at hproduct
      refine (Word.gives_add .overflow (by omega)).bind fun position' hposition' => ?_
      rw [hwidthWord] at hposition'
      refine (Word.gives_mul (by omega)).bind fun values hvalues => ?_
      refine (Word.gives_add .overflow (by omega)).bind fun owed' howed' => ?_
      rw [hvalues, hperWord] at howed'
      exact gives_pure (step_land hposition hposition' howed')

end Rounds

/-! ## What is owed -/

theorem Marker.owed_le {b : UInt8} {bs : Bytes} {header : Header}
    (h : (ofOctet b).header bs = some (.ok header)) :
    header.owed ≤ 0x1fffffffe ∧ header.owed ≤ 0x80000000 * (1 + header.skip) := by
  rw [header_eq, Option.map_eq_some_iff] at h
  obtain ⟨course, hcourse, hheader⟩ := h
  exact Course.owed_le (small_course b course hcourse) hheader

/-- A step takes one of the values that were owed, and what its header adds is bounded both at once and by
the octets that are passed. -/
theorem Walk.owed_of_step {w w' : Walk} (h : w.step = .on w') :
    w'.owed + 1 ≤ w.owed + 0x1fffffffe ∧
      w'.owed ≤ w.owed + 0x80000000 * (w'.position - w.position) := by
  cases Finds.of_step h with
  | @passes b bs header position owed hheader hskip =>
      obtain ⟨hatOnce, hperOctet⟩ := Marker.owed_le hheader
      have hpassed : position + 1 + header.skip - position = 1 + header.skip := by omega
      dsimp only
      rw [hpassed]
      omega

/-- The counters stand within the buffer, the values that they owe are missing, and these are not too many. -/
structure Counters.Sound (bs : Bytes) (c : Counters) : Prop where
  owes : Walk.Owes bs c.position.toNat c.owed.toNat
  few : c.owed.toNat ≤ 1 + 0x80000000 * c.position.toNat

namespace Counters

variable {bs : Bytes} {c c' : Counters}

theorem sound_start (bs : Bytes) : start.Sound bs := ⟨.start bs, Nat.le_refl _⟩

theorem Sound.step (h : c.Sound bs) (hstep : (c.walk bs).step = .on (c'.walk bs)) : c'.Sound bs := by
  refine ⟨h.owes.step hstep, ?_⟩
  have howed := (Walk.owed_of_step hstep).2
  have hfurther := (Walk.total_of_step hstep).1
  have hfew := h.few
  simp only [walk] at howed hfurther
  omega

/-- A round is a step of the walk, and nothing outgrows its word in it. -/
theorem gives_round (hbs : bs.length < 0x100000000) (h : c.Sound bs) (hne : c.owed ≠ 0) :
    Gives (c.round bs) fun r => r.step bs = (c.walk bs).step := by
  have hpos : c.owed.toNat ≠ 0 := fun hzero => hne (UInt64.toNat_inj.1 hzero)
  have hone : (1 : UInt64).toNat = 1 := rfl
  have hwithin := h.owes.within
  have hfew := h.few
  refine (Word.gives_sub (by omega)).bind fun owed howed => ?_
  refine (Word.gives_add .overflow (by omega)).bind fun position hposition => ?_
  rw [hone] at howed hposition
  have hcount : c.owed.toNat = owed.toNat + 1 := by omega
  cases hget : bs[c.position.toNat]? with
  | none =>
      have hend : bs.drop c.position.toNat = [] := List.drop_eq_nil_of_le (List.getElem?_eq_none_iff.1 hget)
      refine gives_pure ?_
      rw [walk, hend, hcount]
      simp only [Round.step, WordExtent.extent?, hposition]
      rfl
  | some b =>
      obtain ⟨hlt, hb⟩ := List.getElem?_eq_some_iff.1 hget
      have hrest : bs.drop c.position.toNat = b :: bs.drop position.toNat := by
        rw [List.drop_eq_getElem_cons hlt, hb, hposition]
      rw [walk, hrest, hcount, Walk.step_eq_pass, Marker.header_eq, ← hposition]
      dsimp only
      cases hcourse : (Marker.ofOctet b).course? with
      | none => exact gives_pure rfl
      | some course =>
          exact Course.gives_follow (Marker.small_course b course hcourse) hbs (by omega) (by omega)

theorem walk_run_of_paid (h : c.owed = 0) : (c.walk bs).run = some (.complete c.position.toNat) :=
  Walk.run_of_done (by rw [walk, h]; rfl)

/-- The loop ends within one round more than there are octets left, at the extent that the walk finds. -/
theorem gives_run (hbs : bs.length < 0x100000000) {rounds : Nat} (h : c.Sound bs)
    (hrounds : bs.length < c.position.toNat + rounds) :
    Gives (c.run bs rounds) fun found => ∃ e, found = some e ∧ e.extent? = (c.walk bs).run := by
  induction rounds generalizing c with
  | zero => exact absurd hrounds (Nat.not_lt_of_le h.owes.within)
  | succ rounds ih =>
      rw [run]
      by_cases hzero : c.owed = 0
      · rw [if_pos hzero]
        exact gives_pure ⟨_, rfl, (walk_run_of_paid hzero).symm⟩
      · rw [if_neg hzero]
        refine (gives_round hbs h hzero).bind fun r hr => ?_
        cases r with
        | on c' =>
            have hfurther := (Walk.total_of_step hr.symm).1
            rw [Walk.run_of_on hr.symm]
            refine ih (h.step hr.symm) ?_
            simp only [walk] at hfurther
            omega
        | ends e =>
            refine gives_pure ⟨e, rfl, ?_⟩
            cases e with
            | reserved => exact (Walk.run_of_reserved hr.symm).symm
            | complete size => exact (Walk.run_of_done hr.symm).symm
            | incomplete need => exact (Walk.run_of_done hr.symm).symm

theorem run_start (hbs : bs.length < 0x100000000) :
    ∃ e, start.run bs (bs.length + 1) = .ok (some e) ∧ e.extent? = extent bs := by
  have hrounds : bs.length < start.position.toNat + (bs.length + 1) :=
    Nat.lt_add_left _ (Nat.lt_succ_self _)
  obtain ⟨found, hrun, e, rfl, he⟩ := gives_run hbs (sound_start bs) hrounds
  exact ⟨e, hrun, he⟩

/-- The counters of the loop after some rounds. -/
inductive Reached (bs : Bytes) : Nat → Counters → Prop
  | start : Reached bs 0 start
  | round {rounds : Nat} {c c' : Counters} (h : Reached bs rounds c) (hne : c.owed ≠ 0)
      (hround : c.round bs = .ok (.on c')) : Reached bs (rounds + 1) c'

/-- A round that goes on is a step of the walk that goes on. -/
theorem step_of_round (hbs : bs.length < 0x100000000) (h : c.Sound bs) (hne : c.owed ≠ 0)
    (hround : c.round bs = .ok (.on c')) : (c.walk bs).step = .on (c'.walk bs) := by
  obtain ⟨r, hr, hstep⟩ := gives_round hbs h hne
  obtain rfl := Except.ok.inj (hround.symm.trans hr)
  exact hstep.symm

theorem Reached.sound (hbs : bs.length < 0x100000000) {rounds : Nat} (h : Reached bs rounds c) :
    c.Sound bs := by
  induction h with
  | start => exact sound_start bs
  | round h hne hround ih => exact ih.step (step_of_round hbs ih hne hround)

end Counters

end PklHost.MessagePack
