import PklHost.Message.Stream
import PklHost.Proofs.MessagePack.Growth

/-!
# Streams in chunks

A stream reaches its decoder in chunks, and where the chunks are cut is an accident of the transport.
`Yields` says what a stream gives as a whole: its first item, then what the rest of it gives, up to
octets that are no whole item or to a fault.  Nothing in it mentions chunks or the decoder's counter.

* `yields_append`, `yields_append_of_fault`: a stream that grows gives what it gave, and goes on from
  the octets that were left.
* `yields_drain`: a decoder whose counter is `Coherent` gives what its buffer gives.
* `yields_feedAll`: so does a decoder that is fed chunk by chunk, for the chunks joined together.

Hence two ways to cut one stream differ in nothing but the words of a fault: an item that is too large
may be refused when its header is seen or, if a later header is broken, for that.
-/

namespace PklHost.Message

open MessagePack (Extent Item extent extent_append_of_complete extent_append_of_incomplete
  extent_append_of_reserved extent_complete_bounds)

/-! ## The first item of a buffer that grows -/

theorem firstItem_append_of_whole {limit : Nat} {buffer rest : Bytes} {x : Item} (more : Bytes)
    (h : firstItem limit buffer = .ok (.whole x rest)) :
    firstItem limit (buffer ++ more) = .ok (.whole x (rest ++ more)) := by
  unfold firstItem at h ⊢
  cases hextent : extent buffer with
  | none => simp [hextent] at h
  | some e =>
      cases e with
      | incomplete need =>
          rw [hextent] at h
          dsimp only at h
          split at h <;> simp at h
      | complete size =>
          have hsize : size ≤ buffer.length := (extent_complete_bounds hextent).2
          rw [extent_append_of_complete more hextent]
          rw [hextent] at h
          dsimp only at h ⊢
          rw [List.take_append_of_le_length hsize, List.drop_append_of_le_length hsize]
          split at h
          · simp at h
          · next hlimit =>
              rw [if_neg hlimit]
              split at h
              · simp only [Except.ok.injEq, FirstItem.whole.injEq] at h
                obtain ⟨rfl, rfl⟩ := h
                simp [*]
              · simp at h

/-- An item has an octet at least. -/
theorem length_lt_of_firstItem {limit : Nat} {buffer rest : Bytes} {x : Item}
    (h : firstItem limit buffer = .ok (.whole x rest)) : rest.length < buffer.length := by
  unfold firstItem at h
  split at h
  · simp at h
  · split at h <;> simp at h
  · next size hextent =>
      have hbounds := extent_complete_bounds hextent
      split at h
      · simp at h
      · split at h
        · simp only [Except.ok.injEq, FirstItem.whole.injEq] at h
          obtain ⟨-, rfl⟩ := h
          rw [List.length_drop]
          omega
        · simp at h

theorem firstItem_append_of_error {limit : Nat} {buffer : Bytes} {e : FrameError} (more : Bytes)
    (h : firstItem limit buffer = .error e) :
    ∃ e', firstItem limit (buffer ++ more) = .error e' := by
  unfold firstItem at h ⊢
  cases hextent : extent buffer with
  | none =>
      rw [extent_append_of_reserved more hextent]
      exact ⟨_, rfl⟩
  | some found =>
      cases found with
      | incomplete need =>
          rw [hextent] at h
          dsimp only at h
          split at h
          · simp at h
          · next hlimit =>
              -- whatever the longer buffer shows, its first item needs as much
              obtain ⟨-, hgrown⟩ := extent_append_of_incomplete more hextent
              split at hgrown
              · rw [hgrown]
                exact ⟨_, if_neg hlimit⟩
              · cases hmore : extent (buffer ++ more) with
                | none => exact ⟨_, rfl⟩
                | some found' =>
                    have hle := hgrown found' hmore
                    cases found' with
                    | incomplete need' =>
                        have hle : need ≤ need' := hle
                        exact ⟨_, if_neg (by omega)⟩
                    | complete size =>
                        have hle : need ≤ size := hle
                        exact ⟨_, if_pos (by omega)⟩
      | complete size =>
          have hsize : size ≤ buffer.length := (extent_complete_bounds hextent).2
          rw [extent_append_of_complete more hextent]
          rw [hextent] at h
          dsimp only at h ⊢
          rw [List.take_append_of_le_length hsize]
          split at h
          · next hlimit => exact ⟨_, if_pos hlimit⟩
          · next hlimit =>
              rw [if_neg hlimit]
              split at h
              · simp at h
              · exact ⟨_, rfl⟩

/-- A buffer that lacks octets lacks them until they are all there. -/
theorem firstItem_append_of_needs {limit need : Nat} {buffer : Bytes} (more : Bytes)
    (h : firstItem limit buffer = .ok (.needs need)) (hshort : (buffer ++ more).length < need) :
    firstItem limit (buffer ++ more) = .ok (.needs need) := by
  unfold firstItem at h ⊢
  split at h
  · simp at h
  · next hextent =>
      split at h
      · next hlimit =>
          simp only [Except.ok.injEq, FirstItem.needs.injEq] at h
          subst h
          obtain ⟨-, hgrown⟩ := extent_append_of_incomplete more hextent
          rw [if_pos hshort] at hgrown
          rw [hgrown]
          exact if_pos hlimit
      · simp at h
  · split at h
    · simp at h
    · split at h <;> simp at h

/-! ## What a stream gives -/

/-- How a stream ends: in octets that are no whole item, or in a fault. -/
inductive StreamEnd where
  | left (octets : Bytes)
  | fault
  deriving DecidableEq, Repr

/-- The items that the octets of a stream give one after another, and how it ends. -/
inductive Yields (limit : Nat) : Bytes → List StreamItem → StreamEnd → Prop
  | empty : Yields limit [] [] (.left [])
  | partly {buffer : Bytes} {need : Nat} (h : firstItem limit buffer = .ok (.needs need)) :
      Yields limit buffer [] (.left buffer)
  | broken {buffer : Bytes} {e : FrameError} (hne : buffer ≠ [])
      (h : firstItem limit buffer = .error e) : Yields limit buffer [] .fault
  | next {buffer rest : Bytes} {x : Item} {items : List StreamItem} {ending : StreamEnd}
      (h : firstItem limit buffer = .ok (.whole x rest)) (hrest : Yields limit rest items ending) :
      Yields limit buffer (Incoming.ofItem x :: items) ending

/-- An empty buffer holds no item. -/
theorem firstItem_nil_ne_whole {limit : Nat} {x : Item} {rest : Bytes} :
    firstItem limit [] ≠ .ok (.whole x rest) := fun h => by
  have := length_lt_of_firstItem h
  simp at this

/-- A stream gives one thing only. -/
theorem Yields.unique {limit : Nat} {buffer : Bytes} {items items' : List StreamItem}
    {ending ending' : StreamEnd} (h : Yields limit buffer items ending)
    (h' : Yields limit buffer items' ending') : items = items' ∧ ending = ending' := by
  induction h generalizing items' ending' with
  | empty =>
      cases h' with
      | empty => exact ⟨rfl, rfl⟩
      | partly h' => exact ⟨rfl, rfl⟩
      | broken hne h' => exact absurd rfl hne
      | next h' hrest => exact absurd h' firstItem_nil_ne_whole
  | partly h =>
      cases h' with
      | empty => exact ⟨rfl, rfl⟩
      | partly h' => exact ⟨rfl, rfl⟩
      | broken hne h' => simp [h] at h'
      | next h' hrest => simp [h] at h'
  | broken hne h =>
      cases h' with
      | empty => exact absurd rfl hne
      | partly h' => simp [h] at h'
      | broken hne h' => exact ⟨rfl, rfl⟩
      | next h' hrest => simp [h] at h'
  | next h hrest ih =>
      cases h' with
      | empty => exact absurd h firstItem_nil_ne_whole
      | partly h' => simp [h] at h'
      | broken hne h' => simp [h] at h'
      | next h' hrest' =>
          rw [h] at h'
          simp only [Except.ok.injEq, FirstItem.whole.injEq] at h'
          obtain ⟨rfl, rfl⟩ := h'
          obtain ⟨rfl, rfl⟩ := ih hrest'
          exact ⟨rfl, rfl⟩

/-- A stream without an item does not begin with one. -/
theorem Yields.first_ne_whole {limit : Nat} {buffer rest : Bytes} {x : Item} {ending : StreamEnd}
    (h : Yields limit buffer [] ending) : firstItem limit buffer ≠ .ok (.whole x rest) := by
  cases h with
  | empty => exact firstItem_nil_ne_whole
  | partly h => simp [h]
  | broken hne h => simp [h]

/-- A stream that grows gives what it gave and goes on from the octets that were left. -/
theorem yields_append {limit : Nat} {buffer rest more : Bytes} {items items' : List StreamItem}
    {ending : StreamEnd} (h : Yields limit buffer items (.left rest))
    (hmore : Yields limit (rest ++ more) items' ending) :
    Yields limit (buffer ++ more) (items ++ items') ending := by
  generalize hend : StreamEnd.left rest = first at h
  induction h with
  | empty =>
      obtain rfl : rest = [] := by simpa using hend
      exact hmore
  | partly h =>
      obtain rfl : rest = _ := by simpa using hend
      exact hmore
  | broken hne h => simp at hend
  | next h hrest ih => exact .next (firstItem_append_of_whole more h) (ih hend)

/-- A stream that is broken stays broken after the same items. -/
theorem yields_append_of_fault {limit : Nat} {buffer : Bytes} {items : List StreamItem}
    (more : Bytes) (h : Yields limit buffer items .fault) :
    Yields limit (buffer ++ more) items .fault := by
  generalize hend : StreamEnd.fault = first at h
  induction h with
  | empty => simp at hend
  | partly h => simp at hend
  | broken hne h =>
      obtain ⟨e, he⟩ := firstItem_append_of_error more h
      exact .broken (by simp [hne]) he
  | next h hrest ih => exact .next (firstItem_append_of_whole more h) (ih hend)

/-! ## Decoders -/

namespace StreamDecoder

/-- The counter is zero, or it is what some beginning of the buffer was found to need. -/
def Coherent (d : StreamDecoder) : Prop :=
  d.needed = 0 ∨ ∃ start more, d.buffer = start ++ more ∧
    firstItem d.limit start = .ok (.needs d.needed)

theorem coherent_feed {d : StreamDecoder} (octets : Bytes) (h : d.Coherent) :
    (d.feed octets).Coherent := by
  rcases h with hzero | ⟨start, more, hbuffer, hneeds⟩
  · exact .inl hzero
  · refine .inr ⟨start, more ++ octets, ?_, hneeds⟩
    show d.buffer ++ octets = start ++ (more ++ octets)
    rw [hbuffer, List.append_assoc]

/-- A buffer below the counter needs what the counter says. -/
theorem firstItem_of_lt_needed {d : StreamDecoder} (h : d.Coherent)
    (hshort : d.buffer.length < d.needed) :
    firstItem d.limit d.buffer = .ok (.needs d.needed) := by
  rcases h with hzero | ⟨start, more, hbuffer, hneeds⟩
  · omega
  · rw [hbuffer] at hshort ⊢
    exact firstItem_append_of_needs more hneeds hshort

/-- The decoder with its counter at zero, which walks its buffer at every attempt. -/
def rescanning (d : StreamDecoder) : StreamDecoder := { d with needed := 0 }

/-- The counter of a coherent decoder changes no attempt: what a walk of the buffer would give, the
decoder gives. -/
theorem decode_rescanning {d : StreamDecoder} (h : d.Coherent) :
    d.rescanning.decode.1 = d.decode.1 := by
  by_cases hempty : d.buffer.isEmpty = true
  · simp [decode, rescanning, hempty]
  · by_cases hshort : d.buffer.length < d.needed
    · simp [decode, rescanning, hempty, hshort, firstItem_of_lt_needed h hshort]
    · simp only [decode, rescanning, hempty, hshort, Nat.not_lt_zero, decide_false, Bool.or_false,
        Bool.false_eq_true, if_false]
      split <;> rfl

/-! ## One attempt -/

/-- What an attempt says of the stream: it waits for more of its first item, it has met a fault, or it
has taken the first item off. -/
theorem decode_cases {d : StreamDecoder} (h : d.Coherent) :
    (d.decode.1 = .waiting ∧ d.decode.2.buffer = d.buffer ∧ d.decode.2.Coherent ∧
        Yields d.limit d.buffer [] (.left d.buffer)) ∨
    (∃ e, d.decode = (.failed e, d) ∧ Yields d.limit d.buffer [] .fault) ∨
    (∃ x rest, firstItem d.limit d.buffer = .ok (.whole x rest) ∧
        d.decode = (.item (Incoming.ofItem x), { d with needed := 0, buffer := rest })) := by
  by_cases hempty : d.buffer.isEmpty = true
  · left
    have hnil : d.buffer = [] := by simpa using hempty
    refine ⟨by simp [decode, hempty], by simp [decode, hempty], by simpa [decode, hempty] using h, ?_⟩
    rw [hnil]
    exact .empty
  · by_cases hshort : d.buffer.length < d.needed
    · left
      refine ⟨by simp [decode, hshort], by simp [decode, hshort], by simpa [decode, hshort] using h, ?_⟩
      exact .partly (firstItem_of_lt_needed h hshort)
    -- with as many octets as the counter says, the buffer is walked
    · cases hfirst : firstItem d.limit d.buffer with
      | error e =>
          have hdecode : d.decode = (.failed e, d) := by
            simp [decode, hempty, hshort, hfirst]
          exact .inr (.inl ⟨e, hdecode, .broken (by simpa using hempty) hfirst⟩)
      | ok found =>
          cases found with
          | needs need =>
              have hdecode : d.decode = (.waiting, { d with needed := need }) := by
                simp [decode, hempty, hshort, hfirst]
              rw [hdecode]
              exact .inl ⟨rfl, rfl, .inr ⟨d.buffer, [], by simp, hfirst⟩, .partly hfirst⟩
          | whole x rest =>
              have hdecode : d.decode =
                  (.item (Incoming.ofItem x), { d with needed := 0, buffer := rest }) := by
                simp [decode, hempty, hshort, hfirst]
              exact .inr (.inr ⟨x, rest, rfl, hdecode⟩)

/-- An attempt changes no limit. -/
theorem decode_limit (d : StreamDecoder) : d.decode.2.limit = d.limit := by
  unfold decode
  split
  · rfl
  · split <;> rfl

/-- An attempt that waits leaves the buffer as it is, and the buffer yields nothing. -/
theorem decode_of_waiting {d : StreamDecoder} (h : d.Coherent) (hwaits : d.decode.1 = .waiting) :
    d.decode.2.buffer = d.buffer ∧ Yields d.limit d.buffer [] (.left d.buffer) := by
  rcases decode_cases h with ⟨-, hbuffer, -, hyields⟩ | ⟨e, hfails, -⟩ | ⟨x, rest, -, htakes⟩
  · exact ⟨hbuffer, hyields⟩
  · simp [hfails] at hwaits
  · simp [htakes] at hwaits

/-! ## All items at once -/

/-- How a run of attempts ended. -/
def Drained.ending (r : Drained) : StreamEnd :=
  match r.fault with
  | some _ => .fault
  | none => .left r.decoder.buffer

theorem Drained.ending_eq_left_iff {r : Drained} {octets : Bytes} :
    r.ending = .left octets ↔ r.fault = none ∧ r.decoder.buffer = octets := by
  unfold ending
  cases r.fault <;> simp

/-- Runs that end alike fail both or neither, and keep the same octets. -/
theorem Drained.fault_iff_of_ending {r r' : Drained} (h : r.ending = r'.ending) :
    (r.fault = none ↔ r'.fault = none) ∧
      (r.fault = none → r.decoder.buffer = r'.decoder.buffer) := by
  have hiff : ∀ octets, (r.fault = none ∧ r.decoder.buffer = octets) ↔
      (r'.fault = none ∧ r'.decoder.buffer = octets) := fun octets => by
    rw [← ending_eq_left_iff, ← ending_eq_left_iff, h]
  exact ⟨⟨fun hr => ((hiff _).1 ⟨hr, rfl⟩).1, fun hr' => ((hiff _).2 ⟨hr', rfl⟩).1⟩,
    fun hr => ((hiff _).1 ⟨hr, rfl⟩).2.symm⟩

/-- A run of attempts takes off what the buffer yields, and ends in an attempt that waits unless it
ends in a fault.  The induction is on the number of items; the octets bound it. -/
theorem yields_drainUpTo {count : Nat} {d : StreamDecoder} (h : d.Coherent)
    (hcount : d.buffer.length < count) :
    Yields d.limit d.buffer (drainUpTo decode count d).items (drainUpTo decode count d).ending ∧
      (drainUpTo decode count d).decoder.limit = d.limit ∧
      (drainUpTo decode count d).decoder.Coherent ∧
      ((drainUpTo decode count d).fault = none →
        (drainUpTo decode count d).decoder.decode.1 = .waiting) := by
  induction count generalizing d with
  | zero => omega
  | succ count ih =>
      rcases decode_cases h with ⟨hwaits, hbuffer, hcoherent, hyields⟩ | ⟨e, hfails, hyields⟩ |
        ⟨x, rest, hfirst, htakes⟩
      · have hlimit := decode_limit d
        have hdrain : drainUpTo decode (count + 1) d = ⟨[], none, d.decode.2⟩ := by
          rw [drainUpTo]
          split <;> simp_all
        rw [hdrain]
        refine ⟨?_, hlimit, hcoherent, fun _ => ?_⟩
        · show Yields d.limit d.buffer [] (.left d.decode.2.buffer)
          rw [hbuffer]
          exact hyields
        · -- a second attempt on the same buffer waits as well
          have hagain := decode_cases hcoherent
          rw [hbuffer, hlimit] at hagain
          rcases hagain with ⟨hwaits, -⟩ | ⟨e, -, hfault⟩ | ⟨x, rest, hfirst, -⟩
          · exact hwaits
          · have := (hyields.unique hfault).2
            simp at this
          · exact absurd hfirst hyields.first_ne_whole
      · have hdrain : drainUpTo decode (count + 1) d = ⟨[], some e, d⟩ := by
          rw [drainUpTo, hfails]
        rw [hdrain]
        exact ⟨hyields, rfl, h, fun hnone => by simp at hnone⟩
      -- the attempt took an item, and the next ones begin with the counter at zero
      · have hlen := length_lt_of_firstItem hfirst
        obtain ⟨hyields, hlimit, hcoherent, hwaits⟩ :=
          @ih { d with needed := 0, buffer := rest } (.inl rfl) (by show rest.length < count; omega)
        have hdrain : drainUpTo decode (count + 1) d =
            let r := drainUpTo decode count { d with needed := 0, buffer := rest }
            ⟨Incoming.ofItem x :: r.items, r.fault, r.decoder⟩ := by
          rw [drainUpTo, htakes]
        rw [hdrain]
        exact ⟨.next hfirst hyields, hlimit, hcoherent, hwaits⟩

theorem yields_drain {d : StreamDecoder} (h : d.Coherent) :
    Yields d.limit d.buffer d.drain.items d.drain.ending ∧
      d.drain.decoder.limit = d.limit ∧ d.drain.decoder.Coherent ∧
      (d.drain.fault = none → d.drain.decoder.decode.1 = .waiting) :=
  yields_drainUpTo h (Nat.lt_succ_self _)

/-- The items of a stream that arrives in chunks: all items are taken off after each chunk, and a fault
ends the run. -/
def feedAll : List Bytes → StreamDecoder → Drained
  | [], d => ⟨[], none, d⟩
  | chunk :: chunks, d =>
    let r := (d.feed chunk).drain
    match r.fault with
    | some _ => r
    | none =>
      let r' := feedAll chunks r.decoder
      ⟨r.items ++ r'.items, r'.fault, r'.decoder⟩

/-- A decoder that waits, fed chunk by chunk, gives what its buffer and the joined chunks give. -/
theorem yields_feedAll {chunks : List Bytes} {d : StreamDecoder} (h : d.Coherent)
    (hwaits : d.decode.1 = .waiting) :
    Yields d.limit (d.buffer ++ chunks.flatten) (feedAll chunks d).items (feedAll chunks d).ending ∧
      (feedAll chunks d).decoder.Coherent ∧
      ((feedAll chunks d).fault = none → (feedAll chunks d).decoder.decode.1 = .waiting) := by
  induction chunks generalizing d with
  | nil =>
      rw [List.flatten_nil, List.append_nil]
      exact ⟨(decode_of_waiting h hwaits).2, h, fun _ => hwaits⟩
  | cons chunk chunks ih =>
      obtain ⟨hyields, hlimit, hcoherent, hthen⟩ := yields_drain (coherent_feed chunk h)
      have hjoin : d.buffer ++ (chunk :: chunks).flatten =
          (d.feed chunk).buffer ++ chunks.flatten := by
        simp [feed]
      rw [hjoin, feedAll]
      cases hfault : (d.feed chunk).drain.fault with
      | some e =>
          -- what comes after a fault is not looked at, and changes nothing
          have hending : (d.feed chunk).drain.ending = .fault := by simp [Drained.ending, hfault]
          dsimp only
          rw [hending] at hyields ⊢
          exact ⟨yields_append_of_fault chunks.flatten hyields, hcoherent,
            fun hnone => by simp [hfault] at hnone⟩
      | none =>
          have hending : (d.feed chunk).drain.ending = .left (d.feed chunk).drain.decoder.buffer := by
            simp [Drained.ending, hfault]
          rw [hending] at hyields
          obtain ⟨hyields', hcoherent', hthen'⟩ := ih hcoherent (hthen hfault)
          rw [hlimit] at hyields'
          exact ⟨yields_append hyields hyields', hcoherent', hthen'⟩

/-- A decoder on which nothing was fed yet. -/
def fresh (limit : Nat) : StreamDecoder := { limit }

theorem yields_feedAll_fresh (limit : Nat) (chunks : List Bytes) :
    Yields limit chunks.flatten (feedAll chunks (fresh limit)).items
        (feedAll chunks (fresh limit)).ending ∧
      (feedAll chunks (fresh limit)).decoder.Coherent ∧
      ((feedAll chunks (fresh limit)).fault = none →
        (feedAll chunks (fresh limit)).decoder.decode.1 = .waiting) :=
  @yields_feedAll chunks (fresh limit) (.inl rfl) rfl

/-- However a stream is cut, its decoder gives the same items, fails in both cases or in neither, and
keeps the same octets; it stops only where another attempt waits too.  The counter changes no attempt:
a decoder that walked its whole buffer every time would give the same. -/
theorem decoding_ignores_cuts (limit : Nat) {stream : Bytes} {chunks chunks' : List Bytes}
    (h : chunks.flatten = stream) (h' : chunks'.flatten = stream) :
    let r := feedAll chunks (fresh limit)
    let r' := feedAll chunks' (fresh limit)
    r.items = r'.items ∧ (r.fault = none ↔ r'.fault = none) ∧
      (r.fault = none → r.decoder.buffer = r'.decoder.buffer ∧ r.decoder.decode.1 = .waiting) ∧
      ∀ octets, (r.decoder.feed octets).rescanning.decode.1 = (r.decoder.feed octets).decode.1 := by
  obtain ⟨hyields, hcoherent, hwaits⟩ := yields_feedAll_fresh limit chunks
  obtain ⟨hyields', -, -⟩ := yields_feedAll_fresh limit chunks'
  rw [h] at hyields
  rw [h'] at hyields'
  obtain ⟨hitems, hending⟩ := hyields.unique hyields'
  obtain ⟨hfault, hbuffer⟩ := Drained.fault_iff_of_ending hending
  exact ⟨hitems, hfault, fun hnone => ⟨hbuffer hnone, hwaits hnone⟩,
    fun octets => decode_rescanning (coherent_feed octets hcoherent)⟩

/-- A record of an unknown kind and the beginning of a string, cut inside a marker's size and not. -/
theorem decoding_ignores_cuts_unknown_kind :
    [[0x92, 0xcd], [], [0x00, 0x99, 0x80, 0xa2], [0x61]].flatten =
        ([0x92, 0xcd, 0x00, 0x99, 0x80, 0xa2, 0x61] : Bytes) ∧
      [[0x92, 0xcd, 0x00, 0x99, 0x80], [0xa2, 0x61]].flatten =
        ([0x92, 0xcd, 0x00, 0x99, 0x80, 0xa2, 0x61] : Bytes) ∧
      (feedAll [[0x92, 0xcd], [], [0x00, 0x99, 0x80, 0xa2], [0x61]] (fresh 8)).items =
        (feedAll [[0x92, 0xcd, 0x00, 0x99, 0x80], [0xa2, 0x61]] (fresh 8)).items :=
  ⟨rfl, rfl, (@decoding_ignores_cuts 8 _ [[0x92, 0xcd], [], [0x00, 0x99, 0x80, 0xa2], [0x61]]
    [[0x92, 0xcd, 0x00, 0x99, 0x80], [0xa2, 0x61]] rfl rfl).1⟩

end StreamDecoder

end PklHost.Message
