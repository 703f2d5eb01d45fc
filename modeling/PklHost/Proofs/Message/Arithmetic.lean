import PklHost.Proofs.Message.Limit
import PklHost.Proofs.MessagePack.Counters

/-!
# Buffers that words can count

Whatever stands in a buffer of fewer than `2 ^ 32` octets, words of 64 bits are enough to walk it and to wait
for what it lacks (`CountsExactly`): the loop over words ends in time where the walk ends, its count of
values is exact after every round, and a decoder asks for more octets than it has.
-/

namespace PklHost.Message

open MessagePack (Counters Item SpelledItems extent)

/-- The loop over words walks a buffer as it should. -/
structure CountsExactly (bs : Bytes) : Prop where
  /-- No operation of the loop is at fault, it takes no more than one round for each octet and one for the
  octet that may be lacking, and finds what the walk finds. -/
  ends : ∃ e, Counters.start.run bs (bs.length + 1) = .ok (some e) ∧ e.extent? = extent bs
  /-- After every round, the octets that were passed lack as many items as are counted. -/
  owes : ∀ rounds c, Counters.Reached bs rounds c → ∀ octets,
    (∃ x : Item, x.SpelledBy (bs.take c.position.toNat ++ octets)) ↔
      ∃ xs : List Item, xs.length = c.owed.toNat ∧ SpelledItems xs octets
  /-- A round takes one of the values that were owed and adds `2 ^ 33 - 2` at most. -/
  raises : ∀ rounds c c', Counters.Reached bs rounds c → c.owed ≠ 0 → c.round bs = .ok (.on c') →
    c'.owed.toNat + 1 ≤ c.owed.toNat + 0x1fffffffe
  /-- A decoder that has walked its buffer and waits then needs what the loop found, and that is more than
  there is. -/
  reserves : ∀ d : StreamDecoder, d.buffer = bs → bs ≠ [] → d.needed ≤ bs.length →
    d.decode.1 = .waiting → ∃ need more : UInt64,
      Counters.start.run bs (bs.length + 1) = .ok (some (.incomplete need)) ∧
      need.toNat = d.decode.2.needed ∧ Word.sub need (.ofNat bs.length) = .ok more ∧
      bs.length + more.toNat = d.decode.2.needed

/-- A decoder that does not skip the walk waits for what the walk lacks. -/
theorem StreamDecoder.extent_of_waiting {d : StreamDecoder} (hne : d.buffer ≠ [])
    (hneeded : d.needed ≤ d.buffer.length) (hwaits : d.decode.1 = .waiting) :
    extent d.buffer = some (.incomplete d.decode.2.needed) := by
  have hwalks : (d.buffer.isEmpty || d.buffer.length < d.needed) = false := by
    simp [hne, hneeded]
  unfold decode at hwaits ⊢
  rw [hwalks] at hwaits ⊢
  cases hfirst : firstItem d.limit d.buffer with
  | error e => simp [hfirst] at hwaits
  | ok found =>
      cases found with
      | whole x rest => simp [hfirst] at hwaits
      | needs need => exact (extent_of_needs hfirst).1

/-- Words count every buffer of fewer than `2 ^ 32` octets exactly, although a single header may raise the
count of values by `2 ^ 33 - 2`. -/
theorem walk_fits_words (bs : Bytes) (h : bs.length < 0x100000000) :
    CountsExactly bs ∧
      Counters.start.round [0xdf, 0xff, 0xff, 0xff, 0xff] = .ok (.on ⟨5, 0x1fffffffe⟩) := by
  have hends := Counters.run_start h
  refine ⟨⟨hends, fun rounds c hreached octets => ?_, fun rounds c c' hreached hne hround => ?_,
    fun d hbuffer hbs hneeded hwaits => ?_⟩, by decide +kernel⟩
  · exact (hreached.sound h).owes.exists_spelledBy_iff octets
  · exact (MessagePack.Walk.owed_of_step (Counters.step_of_round h (hreached.sound h) hne hround)).1
  · subst hbuffer
    have hextent := d.extent_of_waiting hbs hneeded hwaits
    have hlack := ((walkBounds d.buffer).lacks _ hextent).1
    obtain ⟨e, hrun, he⟩ := hends
    obtain ⟨need, rfl, hneed⟩ := MessagePack.WordExtent.exists_of_incomplete (he.trans hextent)
    have hlength := UInt64.toNat_ofNat_of_lt' (show d.buffer.length < 0x10000000000000000 by omega)
    obtain ⟨more, hsub, hmore⟩ := Word.gives_sub
      (show (UInt64.ofNat d.buffer.length).toNat ≤ need.toNat by omega)
    exact ⟨need, more, hrun, hneed, hsub, by omega⟩

/-- The header of a map with as many pairs as there can be, one nil behind it, and a decoder that is fed
these octets. -/
theorem walk_fits_words_widest_map :
    let bs : Bytes := [0xdf, 0xff, 0xff, 0xff, 0xff, 0xc0]
    let d := (StreamDecoder.fresh 64).feed bs
    bs.length < 0x100000000 ∧ Counters.Reached bs 2 ⟨6, 0x1fffffffd⟩ ∧
      (∀ octets, (∃ x : Item, x.SpelledBy (bs ++ octets)) ↔
        ∃ xs : List Item, xs.length = 0x1fffffffd ∧ SpelledItems xs octets) ∧
      d.decode.1 = .waiting ∧ ∃ need more : UInt64,
        Counters.start.run bs 7 = .ok (some (.incomplete need)) ∧ need.toNat = 7 ∧
          Word.sub need 6 = .ok more ∧ 6 + more.toNat = 7 := by
  intro bs d
  have hextent : extent bs = some (.incomplete 7) := by cbv
  have hdecode : d.decode = (.waiting, { d with needed := 7 }) := by
    simp [d, bs, StreamDecoder.decode, StreamDecoder.feed, StreamDecoder.fresh, firstItem, hextent]
  have hfirst : Counters.Reached bs 1 ⟨5, 0x1fffffffe⟩ := .round .start (by decide) (by decide +kernel)
  have hsecond : Counters.Reached bs 2 ⟨6, 0x1fffffffd⟩ := .round hfirst (by decide) (by decide +kernel)
  have hexact := (walk_fits_words bs (by decide)).1
  have hwaits : d.decode.1 = .waiting := by rw [hdecode]
  have hreserves := hexact.reserves d rfl (by decide) (by decide) hwaits
  rw [hdecode] at hreserves
  exact ⟨by decide, hsecond, hexact.owes _ _ hsecond, hwaits, hreserves⟩

end PklHost.Message
