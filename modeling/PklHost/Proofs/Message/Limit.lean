import PklHost.Proofs.Message.Agreement

/-!
# The size limit

What a buffer is found to need is a lower bound from partial knowledge: of a marker, of some octets of a
size, of containers whose values are still owed.  Whatever arrives later, the value that starts the
buffer is no shorter (`WalkBounds`).  Hence the limit refuses a value of more octets and no other one,
from whichever of its beginnings, and a decoder buffers less than the limit while it waits
(`sizes_are_limited`).

The bound need not be reached: a container that was not walked to its end may need more than it is known
to.
-/

namespace PklHost.Message

open MessagePack (Extent Item extent extent_append_of_complete extent_append_of_incomplete
  extent_of_proper_prefix extent_of_spelledBy)

/-- The octets spell the first value of some buffer that starts with `s`. -/
def Completes (s octets : Bytes) : Prop :=
  (∃ x : Item, x.SpelledBy octets) ∧ ∃ more rest, s ++ more = octets ++ rest

/-- What the walk of a buffer says of every way to go on. -/
structure WalkBounds (s : Bytes) : Prop where
  /-- Where octets lack, more are needed than there are, and every value that the buffer can begin with
  has as many. -/
  lacks : ∀ need, extent s = some (.incomplete need) →
    s.length < need ∧ ∀ octets, Completes s octets → need ≤ octets.length
  /-- Where an end was found, it is that of every value that the buffer can begin with. -/
  ends : ∀ size, extent s = some (.complete size) →
    ∀ octets, Completes s octets → octets = s.take size ∧ octets.length = size

/-- What a buffer gives under a limit. -/
structure Limited (limit : Nat) (s : Bytes) : Prop where
  /-- A buffer is too large only if every value that it can begin with is larger than the limit. -/
  refuses : ∀ size limit', firstItem limit s = .error (.tooLarge size limit') →
    limit' = limit ∧ limit < size ∧ ∀ octets, Completes s octets → size ≤ octets.length
  /-- No beginning of a value within the limit is too large. -/
  admits : ∀ (x : Item) octets, x.SpelledBy octets → octets.length ≤ limit → s <+: octets →
    ∀ size limit', firstItem limit s ≠ .error (.tooLarge size limit')
  /-- What is handed out was spelled within the limit. -/
  delivers : ∀ x rest, firstItem limit s = .ok (.whole x rest) →
    ∃ octets, s = octets ++ rest ∧ x.SpelledBy octets ∧ octets.length ≤ limit
  /-- A buffer that waits has fewer octets than the limit. -/
  waits : ∀ need, firstItem limit s = .ok (.needs need) → s.length < need ∧ need ≤ limit

/-- The states of a decoder with a limit, however it is fed and tried. -/
inductive StreamDecoder.Reached (limit : Nat) : StreamDecoder → Prop
  | fresh : Reached limit (StreamDecoder.fresh limit)
  | fed {d : StreamDecoder} (h : Reached limit d) (octets : Bytes) : Reached limit (d.feed octets)
  | tried {d : StreamDecoder} (h : Reached limit d) : Reached limit d.decode.2
  | triedLast {d : StreamDecoder} (h : Reached limit d) : Reached limit d.decodeEnd.2

/-! ## What the walk knows -/

/-- A buffer goes on to a value exactly if the walk finds its end in what the buffer grows to. -/
theorem completes_iff {s octets : Bytes} :
    Completes s octets ↔ ∃ more, extent (s ++ more) = some (.complete octets.length) ∧
      octets = (s ++ more).take octets.length := by
  constructor
  · rintro ⟨⟨x, hx⟩, more, rest, hs⟩
    refine ⟨more, ?_, ?_⟩
    · rw [hs]
      exact extent_of_spelledBy hx rest
    · rw [hs, List.take_left]
  · rintro ⟨more, hextent, hoctets⟩
    obtain ⟨-, x, hx⟩ := (extent_complete_iff _ _).1 hextent
    rw [← hoctets] at hx
    have hsplit := List.take_append_drop octets.length (s ++ more)
    rw [← hoctets] at hsplit
    exact ⟨⟨x, hx⟩, more, (s ++ more).drop octets.length, hsplit.symm⟩

theorem walkBounds (s : Bytes) : WalkBounds s where
  lacks need h := by
    refine ⟨(extent_append_of_incomplete [] h).1, fun octets hoctets => ?_⟩
    obtain ⟨more, hextent, -⟩ := completes_iff.1 hoctets
    obtain ⟨-, hgrown⟩ := extent_append_of_incomplete more h
    split at hgrown
    · rw [hgrown] at hextent
      simp at hextent
    · exact hgrown _ hextent
  ends size h octets hoctets := by
    obtain ⟨more, hextent, htake⟩ := completes_iff.1 hoctets
    rw [extent_append_of_complete more h] at hextent
    have hlength : octets.length = size := by simpa using hextent.symm
    have hsize : size ≤ s.length := ((extent_complete_iff s size).1 h).1
    rw [hlength, List.take_append_of_le_length hsize] at htake
    exact ⟨htake, hlength⟩

/-! ## What the limit refuses -/

/-- What a buffer was refused for: its value ends beyond the limit, or needs octets beyond it. -/
theorem extent_of_tooLarge {limit size limit' : Nat} {s : Bytes}
    (h : firstItem limit s = .error (.tooLarge size limit')) :
    limit' = limit ∧ limit < size ∧
      (extent s = some (.incomplete size) ∨ extent s = some (.complete size)) := by
  unfold firstItem at h
  split at h
  · simp at h
  · next need hextent =>
      split at h
      · simp at h
      · next hneed =>
          simp only [Except.error.injEq, FrameError.tooLarge.injEq] at h
          obtain ⟨rfl, rfl⟩ := h
          exact ⟨rfl, Nat.lt_of_not_le hneed, .inl hextent⟩
  · next n hextent =>
      split at h
      · next hlarge =>
          simp only [Except.error.injEq, FrameError.tooLarge.injEq] at h
          obtain ⟨rfl, rfl⟩ := h
          exact ⟨rfl, hlarge, .inr hextent⟩
      · split at h <;> simp at h

theorem extent_of_needs {limit need : Nat} {s : Bytes}
    (h : firstItem limit s = .ok (.needs need)) :
    extent s = some (.incomplete need) ∧ need ≤ limit := by
  unfold firstItem at h
  split at h
  · simp at h
  · next hextent =>
      split at h
      · next hlimit =>
          simp only [Except.ok.injEq, FirstItem.needs.injEq] at h
          subst h
          exact ⟨hextent, hlimit⟩
      · simp at h
  · split at h
    · simp at h
    · split at h <;> simp at h

/-- Every beginning of a value goes on to it. -/
theorem completes_of_beginning {x : Item} {s octets : Bytes} (hx : x.SpelledBy octets)
    (h : s <+: octets) : Completes s octets := by
  obtain ⟨more, rfl⟩ := h
  exact ⟨⟨x, hx⟩, more, [], (List.append_nil _).symm⟩

/-- A size that the limit refuses is that of every value which the buffer can begin with, or less. -/
theorem le_length_of_tooLarge {limit size limit' : Nat} {s octets : Bytes}
    (h : firstItem limit s = .error (.tooLarge size limit')) (hoctets : Completes s octets) :
    size ≤ octets.length := by
  obtain ⟨-, -, hlacks | hends⟩ := extent_of_tooLarge h
  · exact ((walkBounds s).lacks size hlacks).2 octets hoctets
  · exact Nat.le_of_eq ((walkBounds s).ends size hends octets hoctets).2.symm

theorem limited (limit : Nat) (s : Bytes) : Limited limit s where
  refuses size limit' h := by
    obtain ⟨hlimit, hlarge, -⟩ := extent_of_tooLarge h
    exact ⟨hlimit, hlarge, fun octets => le_length_of_tooLarge h⟩
  admits x octets hx hlength hs size limit' h := by
    have hsize := le_length_of_tooLarge h (completes_of_beginning hx hs)
    have hlarge := (extent_of_tooLarge h).2.1
    omega
  delivers x rest h := by
    obtain ⟨octets, hs, hfits⟩ := fits_of_firstItem h
    exact ⟨octets, hs, hfits.spelled, hfits.size⟩
  waits need h := by
    obtain ⟨hextent, hlimit⟩ := extent_of_needs h
    exact ⟨((walkBounds s).lacks need hextent).1, hlimit⟩

/-! ## Decoders -/

namespace StreamDecoder

/-- The last attempt leaves what any other would. -/
theorem decodeEnd_snd (d : StreamDecoder) : d.decodeEnd.2 = d.decode.2 := by
  unfold decodeEnd
  split
  · next hdecode =>
      rw [hdecode]
      split <;> rfl
  · rfl

theorem Reached.coherent {limit : Nat} {d : StreamDecoder} (h : Reached limit d) :
    d.Coherent ∧ d.limit = limit := by
  have hdecode : ∀ {d : StreamDecoder}, d.Coherent → d.decode.2.Coherent := fun {d} hd => by
    rcases decode_cases hd with ⟨-, -, hcoherent, -⟩ | ⟨e, hfails, -⟩ | ⟨x, rest, -, htakes⟩
    · exact hcoherent
    · rwa [hfails]
    · rw [htakes]
      exact .inl rfl
  induction h with
  | fresh => exact ⟨.inl rfl, rfl⟩
  | fed h octets ih => exact ⟨coherent_feed octets ih.1, ih.2⟩
  | tried h ih => exact ⟨hdecode ih.1, (decode_limit _).trans ih.2⟩
  | triedLast h ih =>
      rw [decodeEnd_snd]
      exact ⟨hdecode ih.1, (decode_limit _).trans ih.2⟩

/-- A decoder that has just waited knows what its buffer needs. -/
theorem firstItem_of_waiting {d : StreamDecoder} (h : d.Coherent) (hwaits : d.decode.1 = .waiting)
    (hne : d.buffer ≠ []) : firstItem d.limit d.buffer = .ok (.needs d.decode.2.needed) := by
  have hempty : d.buffer.isEmpty = false := by simpa using hne
  by_cases hshort : d.buffer.length < d.needed
  · have hdecode : d.decode = (.waiting, d) := by simp [decode, hshort]
    rw [hdecode]
    exact firstItem_of_lt_needed h hshort
  · cases hfirst : firstItem d.limit d.buffer with
    | error e => simp [decode, hempty, hshort, hfirst] at hwaits
    | ok found =>
        cases found with
        | whole x rest => simp [decode, hempty, hshort, hfirst] at hwaits
        | needs need => simp [decode, hempty, hshort, hfirst]

/-- What a waiting decoder keeps is less than what it waits for, and that is within its limit. -/
theorem Reached.buffer_lt_needed {limit : Nat} {d : StreamDecoder} (h : Reached limit d)
    (hwaits : d.decode.1 = .waiting) (hne : d.decode.2.buffer ≠ []) :
    d.decode.2.buffer.length < d.decode.2.needed ∧ d.decode.2.needed ≤ limit := by
  obtain ⟨hcoherent, rfl⟩ := h.coherent
  rw [(decode_of_waiting hcoherent hwaits).1] at hne ⊢
  exact (limited d.limit d.buffer).waits _ (firstItem_of_waiting hcoherent hwaits hne)

end StreamDecoder

/-- The limit is exact and bounds what is buffered.  The walk asks for no octet that some way to go on
would not have; so a buffer is too large only if every value that it can begin with is, no value within
the limit is refused from any of its beginnings, none beyond it is handed out, and whoever waits has
fewer octets than the limit, a decoder fewer than it waits for. -/
theorem sizes_are_limited (limit : Nat) :
    (∀ s, WalkBounds s ∧ Limited limit s) ∧
      ∀ d, StreamDecoder.Reached limit d → d.decode.1 = .waiting → d.decode.2.buffer ≠ [] →
        d.decode.2.buffer.length < d.decode.2.needed ∧ d.decode.2.needed ≤ limit :=
  ⟨fun s => ⟨walkBounds s, limited limit s⟩, fun _ h => h.buffer_lt_needed⟩

/-- The beginning of a list of two strings, cut after the second marker: three octets are needed then,
and eight once the size of the string is seen. -/
theorem sizes_are_limited_cut_list :
    let d := (StreamDecoder.fresh 8).feed [0x92, 0xd9]
    StreamDecoder.Reached 8 d ∧ d.decode.1 = .waiting ∧ d.decode.2.buffer ≠ [] ∧
      (d.decode.2.buffer.length < d.decode.2.needed ∧ d.decode.2.needed ≤ 8) ∧
      d.decode.2.needed = 3 ∧ extent [0x92, 0xd9, 0x05] = some (.incomplete 8) ∧
      ∀ octets, Completes [0x92, 0xd9, 0x05] octets → 8 ≤ octets.length := by
  intro d
  have hshort : extent [0x92, 0xd9] = some (.incomplete 3) := by cbv
  have hsized : extent [0x92, 0xd9, 0x05] = some (.incomplete 8) := by cbv
  have hdecode : d.decode = (.waiting, { d with needed := 3 }) := by
    simp [d, StreamDecoder.decode, StreamDecoder.feed, StreamDecoder.fresh, firstItem, hshort]
  have hreached : StreamDecoder.Reached 8 d := .fed .fresh _
  have hwaits : d.decode.1 = .waiting := by rw [hdecode]
  have hne : d.decode.2.buffer ≠ [] := by
    rw [hdecode]
    exact List.cons_ne_nil _ _
  have hlimited := sizes_are_limited 8
  exact ⟨hreached, hwaits, hne, hlimited.2 d hreached hwaits hne, by rw [hdecode], hsized,
    ((hlimited.1 _).1.lacks 8 hsized).2⟩

end PklHost.Message
