import PklHost.Json
import PklHost.MessagePack.Item
import PklHost.Value.Basic

/-!
# The parts of a tree

A tree of any kind is given by the trees that stand in it directly.  `Occurs` says that one stands in
another at some depth, or that it is the other one itself; what holds `Throughout` a tree holds of it and,
again throughout, of each of its parts (`throughout_iff`).  A proof about trees of any depth goes along
that equivalence.  Values, documents and items are such trees: in a value its items, its keys, and what
stands under a key or a name; in a document the items of an array and the members of an object; in an item
the items of an array, and the keys of a map with what stands under them.
-/

namespace PklHost

section Trees

variable {α : Type} {parts : α → List α}

/-- A tree stands in another one at some depth, or is that tree. -/
inductive Occurs (parts : α → List α) (v : α) : α → Prop
  | here : Occurs parts v v
  | inside {part w : α} (hpart : part ∈ parts w) (h : Occurs parts v part) : Occurs parts v w

/-- Something holds of a tree and of all that stands in it. -/
def Throughout (parts : α → List α) (P : α → Prop) (v : α) : Prop :=
  ∀ w, Occurs parts w v → P w

theorem throughout_iff {P : α → Prop} {v : α} :
    Throughout parts P v ↔ P v ∧ ∀ part ∈ parts v, Throughout parts P part := by
  constructor
  · exact fun h => ⟨h v .here, fun part hpart w hw => h w (.inside hpart hw)⟩
  · rintro ⟨hself, hparts⟩ w hw
    cases hw with
    | here => exact hself
    | inside hpart hinside => exact hparts _ hpart w hinside

/-- Two things that come to the same wherever a third one holds. -/
theorem throughout_congr {P Q R : α → Prop} {v : α} (h : ∀ w, R w → (P w ↔ Q w))
    (hR : Throughout parts R v) : Throughout parts P v ↔ Throughout parts Q v :=
  ⟨fun hP w hw => (h w (hR w hw)).1 (hP w hw), fun hQ w hw => (h w (hR w hw)).2 (hQ w hw)⟩

end Trees

/-- The values that stand in a value directly. -/
def Value.parts : Value → List Value
  | .list items | .set items => items
  | .map entries => entries.map Prod.fst ++ entries.map Prod.snd
  | .dynamic properties entries elements =>
    properties.map Prod.snd ++ (entries.map Prod.fst ++ entries.map Prod.snd) ++ elements
  | .object _ _ properties => properties.map Prod.snd
  | .pair first second => [first, second]
  | .null | .bool _ | .int _ | .float _ | .string _ | .bytes _ | .duration _ | .dataSize _ | .intSeq _
  | .regex _ | .placeholder => []

/-- The documents that stand in a document directly. -/
def Json.parts : Json → List Json
  | .array items => items
  | .object members => members.map Prod.snd
  | .null | .bool _ | .int _ | .float _ | .string _ => []

/-- The items that stand in an item directly. -/
def MessagePack.Item.parts : Item → List Item
  | .array items => items
  | .map pairs => pairs.map Prod.fst ++ pairs.map Prod.snd
  | .nil | .bool _ | .int _ | .single _ | .double _ | .text _ | .brokenText _ | .bin _ | .ext .. => []

end PklHost
