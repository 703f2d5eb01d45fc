import PklHost.Cli.Print
import PklHost.Proofs.Value.Rendering

/-!
# When a value is printed

Printing a value fails in one way only: a key in it that cannot name a member of a JSON object.  As JSON
every key counts, at any depth.  A table has a row for each member and asks for the member's value alone,
so that the keys of the value itself may be of any kind (`succeeds_valueText_iff`).
-/

namespace PklHost.Cli

/-- The values in the rows of the table of a value. -/
def rowValues : Value → List Value
  | .object _ _ properties => properties.map Prod.snd
  | .dynamic properties entries elements =>
    properties.map Prod.snd ++ entries.map Prod.snd ++ elements
  | .map entries => entries.map Prod.snd
  | .list items | .set items => items
  | v => [v]

theorem values_keyed (entries : Entries) : (keyed entries).map Prod.snd = entries.map Prod.snd := by
  rw [keyed, List.map_map]
  rfl

theorem values_indexed (items : List Value) : (indexed items).map Prod.snd = items := by
  refine List.ext_getElem? fun i => ?_
  rw [indexed, List.getElem?_map, List.getElem?_mapIdx]
  cases items[i]? <;> rfl

/-- Labels come to the values and change none. -/
theorem values_members (v : Value) : (members v).map Prod.snd = rowValues v := by
  cases v with
  | map entries => exact values_keyed entries
  | list items | set items => exact values_indexed items
  | dynamic properties entries elements =>
      simp only [members, rowValues, List.map_append, values_keyed, values_indexed]
  | _ => rfl

/-! ## One value -/

theorem succeeds_valueJson_iff {v : Value} : Succeeds (valueJson v) ↔ v.KeysNameMembers := by
  rw [← Value.succeeds_toJson_iff, valueJson]
  cases v.toJson with
  | ok x => exact iff_of_true (succeeds_ok x) (succeeds_ok x)
  | error e => exact iff_of_false (not_succeeds_error _) (not_succeeds_error e)

/-- What a cell shows in its own words has no keys. -/
theorem succeeds_cell_iff {v : Value} : Succeeds (cell v) ↔ v.KeysNameMembers := by
  cases v with
  | string | duration | dataSize =>
      exact iff_of_true (succeeds_ok _) (Value.keysNameMembers_of_parts rfl rfl)
  | _ => rw [cell, succeeds_map_iff, succeeds_valueJson_iff] <;> nofun

theorem succeeds_memberRow_iff {m : String × Value} :
    Succeeds (memberRow m) ↔ m.2.KeysNameMembers :=
  succeeds_bind_pure_iff.trans succeeds_cell_iff

theorem succeeds_valueTable_iff {v : Value} :
    Succeeds (valueTable v) ↔ ∀ w ∈ rowValues v, w.KeysNameMembers :=
  calc Succeeds (valueTable v)
    _ ↔ Succeeds ((members v).mapM memberRow) := succeeds_bind_pure_iff
    _ ↔ ∀ m ∈ members v, m.2.KeysNameMembers := by
        simp only [succeeds_mapM_iff, succeeds_memberRow_iff]
    _ ↔ ∀ w ∈ rowValues v, w.KeysNameMembers := by
        rw [← values_members, List.forall_mem_map]

/-! ## Every format -/

/-- A value prints as JSON exactly if every key in it, at any depth, is a text, an expression, an integer,
a truth value or a finite number, and as a table exactly if that holds of the value in each row. -/
theorem succeeds_valueText_iff (format : Format) (v : Value) :
    Succeeds (valueText format v) ↔
      match format with
      | .json | .pretty | .raw => v.KeysNameMembers
      | .table => ∀ w ∈ rowValues v, w.KeysNameMembers := by
  cases format with
  | json | pretty | raw => exact succeeds_map_iff.trans succeeds_valueJson_iff
  | table => exact succeeds_map_iff.trans succeeds_valueTable_iff

end PklHost.Cli
