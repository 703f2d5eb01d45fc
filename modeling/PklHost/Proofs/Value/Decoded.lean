import PklHost.Evaluator.Query
import PklHost.Proofs.Value.Canonical
import PklHost.Proofs.Value.Clashes

/-!
# Values that were decoded

However often a payload has a key or a property, the value that is decoded of it has each once, at every depth
(`Value.keysDistinct_of_decode`): it is made by insertion, and so are the values in it.
-/

namespace PklHost

namespace Value

/-- Where the keys of what stands in pairs are distinct, they are so in what insertion makes of the pairs. -/
theorem keysDistinct_entries {pairs : List (Value × Value)} (hkeys : ∀ p ∈ pairs, p.1.KeysDistinct)
    (hvalues : ∀ p ∈ pairs, p.2.KeysDistinct) : ∀ part ∈
      (Entries.ofPairs pairs).map Prod.fst ++ (Entries.ofPairs pairs).map Prod.snd, part.KeysDistinct := by
  have hboth : ∀ p ∈ Entries.ofPairs pairs, p.1.KeysDistinct ∧ p.2.KeysDistinct :=
    Assoc.forall_ofPairs fun p hp => ⟨hkeys p hp, hvalues p hp⟩
  simp only [List.forall_mem_append, List.forall_mem_map]
  exact ⟨fun p hp => (hboth p hp).1, fun p hp => (hboth p hp).2⟩

theorem keysDistinct_properties {properties : List (String × Value)}
    (h : ∀ p ∈ properties, p.2.KeysDistinct) :
    ∀ part ∈ (Properties.ofPairs properties).map Prod.snd, part.KeysDistinct := by
  rw [List.forall_mem_map]
  exact fun p hp => (Assoc.forall_ofPairs (P := fun _ => True) (fun q hq => ⟨trivial, h q hq⟩) p hp).2

theorem Built.keysDistinct {v : Value} (h : v.Built) : v.KeysDistinct := by
  induction h with
  | list _ ih | set _ ih => exact keysDistinct_of_parts trivial ih
  | map _ _ ihkeys ihvalues =>
      exact keysDistinct_of_parts (Assoc.distinct_ofPairs _) (keysDistinct_entries ihkeys ihvalues)
  | dynamic _ _ _ _ _ ihproperties ihkeys ihvalues ihelements =>
      refine keysDistinct_of_parts ⟨Assoc.distinct_ofPairs _, Assoc.distinct_ofPairs _⟩ ?_
      simp only [parts, List.forall_mem_append]
      exact ⟨⟨keysDistinct_properties ihproperties,
        List.forall_mem_append.1 (keysDistinct_entries ihkeys ihvalues)⟩, ihelements⟩
  | object _ _ ih => exact keysDistinct_of_parts (Assoc.distinct_ofPairs _) (keysDistinct_properties ih)
  | pair _ _ ihfirst ihsecond => exact keysDistinct_of_parts trivial (by simp [parts, ihfirst, ihsecond])
  | _ => exact keysDistinct_of_parts trivial fun part hpart => by cases hpart

theorem keysDistinct_of_decode {payload : Bytes} {v : Value} (h : decode payload = .ok v) :
    v.KeysDistinct := by
  obtain ⟨x, -, hx⟩ := exists_item_of_decode h
  exact (denotes_of_ofItem x _ hx).built.keysDistinct

end Value

/-- The octets of a result decode to the value that is made of them. -/
theorem Query.decode_of_valueOf {result : Bytes} {v : Value} (h : Query.valueOf result = .ok v) :
    Value.decode result = .ok v := by
  unfold Query.valueOf at h
  split at h
  · next v' hdecode =>
      cases h
      exact hdecode
  · cases h

end PklHost
