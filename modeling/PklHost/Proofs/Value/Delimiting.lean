import PklHost.Proofs.MessagePack.Delimiting
import PklHost.Value.Decode

/-!
# Payloads end by themselves

A payload that decodes is told from what follows it: with octets after it, it is refused for these and
their number, and with octets gone from its end, it is no item (`delimited_of_decode`).  So none of the
payloads that decode begins another one.
-/

namespace PklHost.Value

open MessagePack (Item ReadError depthLimit)

/-- The first item of a payload is all of it, if the payload decodes. -/
theorem read_of_decode {b : Bytes} {v : Value} (h : decode b = .ok v) :
    ∃ x, Item.read depthLimit b = .ok (x, []) := by
  unfold decode at h
  split at h
  · cases h
  · next x hread => exact ⟨x, hread⟩
  · cases h

/-- What becomes of a payload with octets added to its end, or taken off it. -/
structure Delimited (b : Bytes) : Prop where
  /-- A part of it from the front is refused, since octets are missing and not for its depth. -/
  cut : ∀ start, start <+: b → start ≠ b →
    ∃ e, decode start = .error (.unreadable e) ∧ e ≠ .tooDeep
  /-- With octets after it, it is refused for their number, whatever they are. -/
  trailing : ∀ more, more ≠ [] → decode (b ++ more) = .error (.trailing more.length)
  /-- It begins no other payload that decodes. -/
  alone : ∀ b' v', decode b' = .ok v' → b <+: b' → b' = b

theorem decode_append {b : Bytes} {v : Value} (h : decode b = .ok v) {more : Bytes} (hmore : more ≠ []) :
    decode (b ++ more) = .error (.trailing more.length) := by
  obtain ⟨x, hread⟩ := read_of_decode h
  have hwhole := (Item.delimits_read depthLimit).extend more hread
  rw [decode, hwhole]
  cases more with
  | nil => exact absurd rfl hmore
  | cons c more => rfl

theorem decode_start {start more : Bytes} {v : Value} (h : decode (start ++ more) = .ok v)
    (hmore : more ≠ []) : ∃ e, decode start = .error (.unreadable e) ∧ e ≠ .tooDeep := by
  obtain ⟨x, hread⟩ := read_of_decode h
  rcases (Item.delimits_read depthLimit).cut hread with ⟨left, hleft, -⟩ | ⟨-, e, he, hcause⟩
  · -- nothing is left of the whole, so nothing of it was left as it is
    exact absurd (List.append_eq_nil_iff.1 hleft.symm).2 hmore
  · exact ⟨e, by rw [decode, he], hcause⟩

/-- Payloads that decode are self-delimiting. -/
theorem delimited_of_decode {b : Bytes} {v : Value} (h : decode b = .ok v) : Delimited b where
  cut start hstart hproper := by
    obtain ⟨more, rfl⟩ := hstart
    refine decode_start h fun hmore => hproper ?_
    rw [hmore, List.append_nil]
  trailing more hmore := decode_append h hmore
  alone b' v' h' hstart := by
    obtain ⟨more, rfl⟩ := hstart
    by_cases hmore : more = []
    · rw [hmore, List.append_nil]
    · rw [decode_append h hmore] at h'
      cases h'

/-- A list of nil, in its reserved spelling, and a list in it. -/
def nestedList : Bytes := [0x92, 4, 0x92, 0xc1, 0x92, 4, 0x91, 0xcd, 1, 0]

theorem decode_nestedList : decode nestedList = .ok (.list [.null, .list [.int 256]]) := by
  rfl

theorem delimited_nestedList :
    decode nestedList = .ok (.list [.null, .list [.int 256]]) ∧ Delimited nestedList :=
  ⟨decode_nestedList, delimited_of_decode decode_nestedList⟩

end PklHost.Value
