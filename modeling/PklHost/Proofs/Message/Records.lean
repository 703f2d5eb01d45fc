import PklHost.Proofs.Message.Chunks
import PklHost.Proofs.MessagePack.Walking

/-!
# Records in a stream

A stream of whole records and the beginning of one more: its decoder gives one item for each whole
record, in order, and keeps the beginning (`feedAll_records`).  Whether a record is a message decides
what its item is and nothing else; a record that is none takes the place of its own octets.

A record is any MessagePack value in any of its spellings.  It has to be within the limit of the decoder
and the depth of the reader, and so does the record that is not finished.
-/

namespace PklHost.Message

open MessagePack (HeadForm Item SpellsInt depthLimit extent_of_proper_prefix extent_of_spelledBy)

/-- An item with octets that spell it, within the limit of a decoder and the depth of the reader. -/
structure Fits (limit : Nat) (record : Item × Bytes) : Prop where
  spelled : record.1.SpelledBy record.2
  size : record.2.length ≤ limit
  depth : record.1.depth ≤ depthLimit

/-- A record at the front of a buffer is its first item. -/
theorem firstItem_of_fits {limit : Nat} {record : Item × Bytes} (h : Fits limit record)
    (rest : Bytes) : firstItem limit (record.2 ++ rest) = .ok (.whole record.1 rest) := by
  have hread : Item.read depthLimit record.2 = .ok (record.1, []) := by
    have := Item.read_of_spelledBy record.1 h.spelled depthLimit []
    rwa [List.append_nil, if_pos h.depth] at this
  have hlimit : ¬ limit < record.2.length := Nat.not_lt.2 h.size
  unfold firstItem
  rw [extent_of_spelledBy h.spelled rest]
  dsimp only
  rw [if_neg hlimit, List.take_left, List.drop_left, hread]

/-- A beginning of a record lacks octets, and never too many. -/
theorem firstItem_of_beginning {limit : Nat} {record : Item × Bytes} {start more : Bytes}
    (h : Fits limit record) (hrecord : record.2 = start ++ more) (hmore : more ≠ []) :
    ∃ need, firstItem limit start = .ok (.needs need) := by
  have hspelled := h.spelled
  have hsize := h.size
  rw [hrecord] at hspelled hsize
  obtain ⟨need, hextent, hneed⟩ := extent_of_proper_prefix hspelled hmore
  refine ⟨need, ?_⟩
  unfold firstItem
  rw [hextent]
  exact if_pos (Nat.le_trans hneed hsize)

/-- Whole records and the beginning of one more give the items of the records. -/
theorem yields_records {limit : Nat} {records : List (Item × Bytes)} {last : Item × Bytes}
    {start more : Bytes} (hrecords : ∀ record ∈ records, Fits limit record) (hlast : Fits limit last)
    (hstart : last.2 = start ++ more) (hmore : more ≠ []) :
    Yields limit ((records.map Prod.snd).flatten ++ start)
      (records.map fun record => Incoming.ofItem record.1) (.left start) := by
  induction records with
  | nil =>
      obtain ⟨need, hneeds⟩ := firstItem_of_beginning hlast hstart hmore
      exact .partly hneeds
  | cons record records ih =>
      have hrest := ih fun r hr => hrecords r (List.mem_cons_of_mem record hr)
      rw [List.map_cons, List.map_cons, List.flatten_cons, List.append_assoc]
      exact .next (firstItem_of_fits (hrecords record List.mem_cons_self) _) hrest

namespace StreamDecoder

/-- The last attempt of a decoder that waits: it has nothing left, or its connection was closed inside
a message. -/
theorem decodeEnd_of_waiting {d : StreamDecoder} (h : d.Coherent) (hwaits : d.decode.1 = .waiting) :
    d.decodeEnd.1 = if d.buffer = [] then .waiting else .failed .connectionClosed := by
  have hbuffer := (decode_of_waiting h hwaits).1
  unfold decodeEnd
  generalize hattempt : d.decode = attempt at hwaits hbuffer
  obtain ⟨decoded, d'⟩ := attempt
  obtain rfl : decoded = .waiting := hwaits
  rw [← hbuffer]
  cases hleft : d'.buffer with
  | nil => simp [hleft]
  | cons b bs => simp [hleft]

/-- A stream of whole records and a proper beginning of one more gives exactly one item for each whole
record, in order: the message that it is, or why it is none.  There is no fault, the beginning stays,
and the end of the stream is an end between messages only if the beginning is empty. -/
theorem feedAll_records {limit : Nat} {records : List (Item × Bytes)} {last : Item × Bytes}
    {start : Bytes} {chunks : List Bytes} (hrecords : ∀ record ∈ records, Fits limit record)
    (hlast : Fits limit last) (hstart : start <+: last.2) (hproper : start ≠ last.2)
    (hchunks : chunks.flatten = (records.map Prod.snd).flatten ++ start) :
    let r := feedAll chunks (fresh limit)
    r.items = records.map (fun record => Incoming.ofItem record.1) ∧ r.fault = none ∧
      r.decoder.buffer = start ∧ r.decoder.decode.1 = .waiting ∧
      r.decoder.decodeEnd.1 = if start = [] then .waiting else .failed .connectionClosed := by
  obtain ⟨more, hmore⟩ := hstart
  have hne : more ≠ [] := by
    rintro rfl
    rw [List.append_nil] at hmore
    exact hproper hmore
  obtain ⟨hyields, hcoherent, hwaits⟩ := yields_feedAll_fresh limit chunks
  rw [hchunks] at hyields
  -- the stream gives one thing only, and it gives the records
  obtain ⟨hitems, hending⟩ := hyields.unique (yields_records hrecords hlast hmore.symm hne)
  obtain ⟨hfault, hbuffer⟩ := Drained.ending_eq_left_iff.1 hending
  refine ⟨hitems, hfault, hbuffer, hwaits hfault, ?_⟩
  rw [decodeEnd_of_waiting hcoherent (hwaits hfault), hbuffer]

/-- A record of an unknown kind in wide sizes, a list without an item that is no record, and the
beginning of a string, cut inside the kind and inside the string. -/
theorem feedAll_records_unknown_kind :
    let records : List (Item × Bytes) :=
      [(.array [.ofUInt64 0x99, .map []], [0x92, 0xcd, 0x00, 0x99, 0xde, 0x00, 0x00]),
        (.array [], [0x90])]
    let last : Item × Bytes := (.text "ab", [0xd9, 0x02, 0x61, 0x62])
    let chunks : List Bytes := [[0x92, 0xcd, 0x00], [0x99, 0xde, 0x00, 0x00, 0x90, 0xd9], [0x02, 0x61]]
    (∀ record ∈ records, Fits 8 record) ∧ Fits 8 last ∧
      (feedAll chunks (fresh 8)).items =
        [.error (.unknownKind 0x99), .error (.notARecord (.notPair (.array [])))] ∧
      (feedAll chunks (fresh 8)).decoder.buffer = [0xd9, 0x02, 0x61] := by
  intro records last chunks
  have hunknown : Fits 8
      (.array [.ofUInt64 0x99, .map []], [0x92, 0xcd, 0x00, 0x99, 0xde, 0x00, 0x00]) := by
    refine ⟨⟨[0x92], [0xcd, 0x00, 0x99, 0xde, 0x00, 0x00], .inMarker (by decide), ?_, rfl⟩, by decide,
      by decide⟩
    refine ⟨[0xcd, 0x00, 0x99], [0xde, 0x00, 0x00], ?_, ⟨[0xde, 0x00, 0x00], [], ?_, rfl, rfl⟩, rfl⟩
    · exact @SpellsInt.unsigned 0xcd 2 0x99 (by decide) (by decide)
    · exact ⟨[0xde, 0x00, 0x00], [], @HeadForm.Says.inOctets .map 0xde 2 0 (by decide) (by decide),
        rfl, rfl⟩
  have hempty : Fits 8 (.array [], [0x90]) :=
    ⟨⟨[0x90], [], .inMarker (by decide), rfl, rfl⟩, by decide, by decide⟩
  have hlast : Fits 8 last :=
    ⟨⟨[0xd9, 0x02], @HeadForm.Says.inOctets .text 0xd9 1 2 (by decide) (by decide), rfl⟩, by decide,
      by decide⟩
  have hrecords : ∀ record ∈ records, Fits 8 record :=
    List.forall_mem_cons.2 ⟨hunknown, List.forall_mem_singleton.2 hempty⟩
  have hstart : [0xd9, 0x02, 0x61] <+: last.2 := ⟨[0x62], rfl⟩
  obtain ⟨hitems, -, hbuffer, -⟩ := feedAll_records hrecords hlast hstart (by decide)
    (show chunks.flatten = (records.map Prod.snd).flatten ++ [0xd9, 0x02, 0x61] from rfl)
  exact ⟨hrecords, hlast, hitems, hbuffer⟩

end StreamDecoder

end PklHost.Message
