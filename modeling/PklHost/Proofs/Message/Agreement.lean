import PklHost.Proofs.Message.Records
import PklHost.Proofs.MessagePack.Finding

/-!
# The walk and the reader agree

A buffer is gone through twice before an item of it is handed out: once by the walk, which says how many
octets the item has, and once by the reader, which builds it.  The octets that are taken off the buffer
are those of the one, the item is that of the other.  Each of them finds what is spelled at the front of
the buffer (`WalkersAgree`), and nothing but the reserved marker tells them apart.
-/

namespace PklHost.Message

open MessagePack (Item depthLimit extent extent_complete_bounds extent_of_spelledBy
  spelledBy_of_extent)

/-- What the walk and the reader make of one buffer. -/
structure WalkersAgree (s : Bytes) : Prop where
  /-- The walk ends exactly where a value does that starts the buffer. -/
  ends : ∀ n, extent s = some (.complete n) ↔ n ≤ s.length ∧ ∃ x : Item, x.SpelledBy (s.take n)
  /-- Of the octets that the walk found, the reader leaves none, whatever its budget, unless the value is
  too deep for it; and what stands behind them is nothing to it. -/
  reads : ∀ n, extent s = some (.complete n) → ∃ x : Item, x.SpelledBy (s.take n) ∧ ∀ budget,
    Item.read budget (s.take n) = (if x.depth ≤ budget then .ok (x, []) else .error .tooDeep) ∧
    Item.read budget s = (if x.depth ≤ budget then .ok (x, s.drop n) else .error .tooDeep)
  /-- What the reader takes off is what the walk finds, if the reader met no reserved marker. -/
  walks : ∀ budget x rest, Item.read budget s = .ok (x, rest) → Item.meetsReserved budget s = false →
    ∃ octets, s = octets ++ rest ∧ x.SpelledBy octets ∧ extent s = some (.complete octets.length)
  /-- Where the walk finds an end, the reader meets no reserved marker. -/
  unreserved : ∀ n, extent s = some (.complete n) → ∀ budget, Item.meetsReserved budget s = false
  /-- An item is handed out exactly if it starts the buffer, within the limit and not too deep, and then
  its octets are gone. -/
  first : ∀ limit x rest, firstItem limit s = .ok (.whole x rest) ↔
    ∃ octets, s = octets ++ rest ∧ Fits limit (x, octets)
  /-- It is what the reader finds in the buffer, and what is left is what the reader leaves. -/
  taken : ∀ limit x rest, firstItem limit s = .ok (.whole x rest) →
    Item.read depthLimit s = .ok (x, rest)

/-! ## What the walk found -/

/-- The octets of a value that the walk found, with what stands behind them. -/
theorem exists_append_of_extent {s : Bytes} {n : Nat} (h : extent s = some (.complete n)) :
    ∃ (x : Item) (octets rest : Bytes), s = octets ++ rest ∧ octets.length = n ∧
      x.SpelledBy octets := by
  obtain ⟨x, hx⟩ := spelledBy_of_extent h
  exact ⟨x, s.take n, s.drop n, (List.take_append_drop n s).symm,
    List.length_take_of_le (extent_complete_bounds h).2, hx⟩

theorem extent_complete_iff (s : Bytes) (n : Nat) :
    extent s = some (.complete n) ↔ n ≤ s.length ∧ ∃ x : Item, x.SpelledBy (s.take n) := by
  constructor
  · intro h
    exact ⟨(extent_complete_bounds h).2, spelledBy_of_extent h⟩
  · rintro ⟨hn, x, hx⟩
    have hextent := extent_of_spelledBy hx (s.drop n)
    rwa [List.take_append_drop, List.length_take_of_le hn] at hextent

/-- A first item was read from the octets that the walk found, and these are not larger than the
limit. -/
theorem read_of_firstItem {limit : Nat} {s rest : Bytes} {x : Item}
    (h : firstItem limit s = .ok (.whole x rest)) :
    ∃ n more, extent s = some (.complete n) ∧ n ≤ limit ∧ rest = s.drop n ∧
      Item.read depthLimit (s.take n) = .ok (x, more) := by
  unfold firstItem at h
  split at h
  · simp at h
  · split at h <;> simp at h
  · next n hextent =>
      split at h
      · simp at h
      · next hlimit =>
          split at h
          · next item more hread =>
              simp only [Except.ok.injEq, FirstItem.whole.injEq] at h
              obtain ⟨rfl, rfl⟩ := h
              exact ⟨n, more, hextent, Nat.le_of_not_lt hlimit, rfl, hread⟩
          · simp at h

/-- The item that is handed out is the one that is spelled by the octets that are gone. -/
theorem fits_of_firstItem {limit : Nat} {s rest : Bytes} {x : Item}
    (h : firstItem limit s = .ok (.whole x rest)) :
    ∃ octets, s = octets ++ rest ∧ Fits limit (x, octets) := by
  obtain ⟨n, more, hextent, hlimit, rfl, hread⟩ := read_of_firstItem h
  obtain ⟨x', octets, rest, rfl, rfl, hx⟩ := exists_append_of_extent hextent
  rw [List.take_left] at hread
  have hwhole := Item.read_of_spelledBy x' hx depthLimit []
  rw [List.append_nil, hread] at hwhole
  by_cases hdepth : x'.depth ≤ depthLimit
  · rw [if_pos hdepth] at hwhole
    simp only [Except.ok.injEq, Prod.mk.injEq] at hwhole
    obtain ⟨rfl, -⟩ := hwhole
    exact ⟨octets, by rw [List.drop_left], hx, hlimit, hdepth⟩
  · rw [if_neg hdepth] at hwhole
    simp at hwhole

/-! ## Agreement -/

theorem walkers_agree (s : Bytes) : WalkersAgree s where
  ends := extent_complete_iff s
  reads n h := by
    obtain ⟨x, octets, rest, rfl, rfl, hx⟩ := exists_append_of_extent h
    refine ⟨x, by rwa [List.take_left], fun budget => ?_⟩
    have hwhole := Item.read_of_spelledBy x hx budget []
    rw [List.append_nil] at hwhole
    rw [List.take_left, List.drop_left]
    exact ⟨hwhole, Item.read_of_spelledBy x hx budget rest⟩
  walks budget x rest hread hmeets := by
    obtain ⟨octets, hx, -, hoff⟩ := Item.spells_read budget _ _ _ hread
    obtain rfl := hoff hmeets
    exact ⟨octets, rfl, hx, extent_of_spelledBy hx rest⟩
  unreserved n h budget := by
    obtain ⟨x, octets, rest, rfl, -, hx⟩ := exists_append_of_extent h
    exact Item.meetsReserved_of_spelledBy budget hx rest
  first limit x rest := by
    constructor
    · exact fits_of_firstItem
    · rintro ⟨octets, rfl, hfits⟩
      exact firstItem_of_fits hfits rest
  taken limit x rest h := by
    obtain ⟨octets, rfl, hfits⟩ := fits_of_firstItem h
    rw [Item.read_of_spelledBy x hfits.spelled, if_pos hfits.depth]

/-- The reserved marker alone tells them apart: the reader takes it for nil, the walk refuses it. -/
example : Item.read 1 [0xc1] = .ok (.nil, []) ∧ extent [0xc1] = none :=
  ⟨rfl, MessagePack.Walk.run_of_reserved rfl⟩

end PklHost.Message
