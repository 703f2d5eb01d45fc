import PklHost.Proofs.Message.Shape
import PklHost.Proofs.Project.Reading

/-!
# What is sent of the dependencies that a project declares

On the wire the local and the remote dependencies of one level share a dictionary.  `SentAs v sent` says of
a value that declares dependencies what is in that dictionary: each name of one of its two mappings, once;
of a remote dependency its package and its checksum; of a local dependency that no remote one has the name
of, its package, its file and, again, all of its own dependencies.

So the dictionary is as large as both mappings together, less the names that are in both.  Of those names
the remote dependency is sent (`Aquarium.encode_project`).
-/

namespace PklHost

open ProjectReader
open Message (Dependency)

/-! ## Dictionaries that are joined -/

namespace Ordered

variable {α : Type}

theorem ascending_map_iff {β : Type} {f : α → β} {l : List (String × α)} :
    Ascending (l.map fun p => (p.1, f p.2)) ↔ Ascending l :=
  List.pairwise_map

theorem names_map {β : Type} (f : α → β) (l : List (String × α)) :
    (l.map fun p => (p.1, f p.2)).map Prod.fst = l.map Prod.fst := by
  rw [List.map_map]
  rfl

section Joined

variable {l r : List (String × α)} (hl : Ascending l) (hr : Ascending r)

include hl hr

/-- Of a name that is in both of two dictionaries the pair of the second one is kept. -/
theorem ofPairs_append_perm :
    (ofPairs (l ++ r)).Perm (l.filter (fun p => p.1 ∉ r.map Prod.fst) ++ r) := by
  have hfirst : ofPairs (l ++ r) = r.foldl (fun acc p => insert p.1 p.2 acc) (ofPairs l) :=
    List.foldl_append
  rw [hfirst, ofPairs_of_ascending hl]
  exact foldl_insert_perm hr.nodup hl

theorem mem_ofPairs_append {p : String × α} :
    p ∈ ofPairs (l ++ r) ↔ p ∈ l ∧ p.1 ∉ r.map Prod.fst ∨ p ∈ r := by
  rw [(ofPairs_append_perm hl hr).mem_iff, List.mem_append, List.mem_filter, decide_eq_true_eq]

theorem mem_names_ofPairs_append {name : String} :
    name ∈ (ofPairs (l ++ r)).map Prod.fst ↔ name ∈ l.map Prod.fst ∨ name ∈ r.map Prod.fst := by
  rw [List.mem_map]
  simp only [mem_ofPairs_append hl hr]
  constructor
  · rintro ⟨p, ⟨hp, -⟩ | hp, rfl⟩
    · exact .inl (List.mem_map_of_mem hp)
    · exact .inr (List.mem_map_of_mem hp)
  · intro h
    by_cases hname : name ∈ r.map Prod.fst
    · obtain ⟨p, hp, rfl⟩ := List.mem_map.1 hname
      exact ⟨p, .inr hp, rfl⟩
    · obtain ⟨p, hp, rfl⟩ := List.mem_map.1 (h.resolve_right hname)
      exact ⟨p, .inl ⟨hp, hname⟩, rfl⟩

/-- Both dictionaries together, less the names that are in both. -/
theorem length_ofPairs_append :
    (ofPairs (l ++ r)).length + (l.map Prod.fst).countP (· ∈ r.map Prod.fst) = l.length + r.length := by
  have hsplit : l.length =
      l.countP (fun p => p.1 ∈ r.map Prod.fst) + l.countP (fun p => p.1 ∉ r.map Prod.fst) := by
    simpa using List.length_eq_countP_add_countP (fun p : String × α => decide (p.1 ∈ r.map Prod.fst))
  have hnames : (l.map Prod.fst).countP (· ∈ r.map Prod.fst) = l.countP (fun p => p.1 ∈ r.map Prod.fst) :=
    List.countP_map
  rw [(ofPairs_append_perm hl hr).length_eq, List.length_append, ← List.countP_eq_length_filter, hnames]
  omega

end Joined

end Ordered

/-! ## The dictionary of one level -/

namespace Dependencies

theorem encodeLocals_eq_map (locals : List (String × LocalDependency)) :
    encodeLocals locals = locals.map fun p => (p.1, encodeLocal p.2) := by
  induction locals with
  | nil => rw [encodeLocals, List.map_nil]
  | cons p rest ih =>
      obtain ⟨name, d⟩ := p
      rw [encodeLocals, ih, List.map_cons]

variable {locals : List (String × LocalDependency)} {remotes : List (String × RemoteDependency)}

theorem encode_mk :
    (Dependencies.mk locals remotes).encode =
      Ordered.ofPairs ((locals.map fun p => (p.1, encodeLocal p.2)) ++
        remotes.map fun p => (p.1, encodeRemote p.2)) := by
  rw [encode, encodeLocals_eq_map]

variable (hlocals : Ordered.Ascending locals) (hremotes : Ordered.Ascending remotes)

include hlocals hremotes

theorem mem_encode {name : String} {d : Dependency} :
    (name, d) ∈ (Dependencies.mk locals remotes).encode ↔
      (∃ x, (name, x) ∈ locals ∧ encodeLocal x = d) ∧ name ∉ remotes.map Prod.fst ∨
        ∃ x, (name, x) ∈ remotes ∧ encodeRemote x = d := by
  rw [encode_mk, Ordered.mem_ofPairs_append (Ordered.ascending_map_iff.2 hlocals)
    (Ordered.ascending_map_iff.2 hremotes), Ordered.names_map]
  simp

theorem mem_names_encode {name : String} :
    name ∈ (Dependencies.mk locals remotes).encode.map Prod.fst ↔
      name ∈ locals.map Prod.fst ∨ name ∈ remotes.map Prod.fst := by
  rw [encode_mk, Ordered.mem_names_ofPairs_append (Ordered.ascending_map_iff.2 hlocals)
    (Ordered.ascending_map_iff.2 hremotes), Ordered.names_map, Ordered.names_map]

theorem length_encode :
    (Dependencies.mk locals remotes).encode.length +
        (locals.map Prod.fst).countP (· ∈ remotes.map Prod.fst) = locals.length + remotes.length := by
  have hlength := Ordered.length_ofPairs_append
    (Ordered.ascending_map_iff (f := encodeLocal).2 hlocals)
    (Ordered.ascending_map_iff (f := encodeRemote).2 hremotes)
  rwa [← encode_mk, Ordered.names_map, Ordered.names_map, List.length_map, List.length_map] at hlength

end Dependencies

namespace ProjectReader

variable {α : Type}

/-- What is listed of a mapping has the names of the mapping. -/
theorem Declares.exists_found {R : Value → α → Prop} {o : Option Value} {l : List (String × α)}
    (h : Declares R o l) :
    Ordered.Ascending l ∧ ∃ found, declared? o = some (underTexts found) ∧
      (found.map Prod.fst).Perm (l.map Prod.fst) ∧ ∀ p ∈ l, ∀ w, (p.1, w) ∈ found → R w p.2 := by
  obtain ⟨entries, hentries, hlists⟩ := h
  obtain ⟨found, rfl⟩ := hlists.exists_underTexts
  exact ⟨hlists.ascending, found, hentries, hlists.names,
    fun p hp w hw => hlists.values p hp w (mem_underTexts hw)⟩

end ProjectReader

/-! ## What is sent -/

/-- What is sent of a remote dependency. -/
inductive RemoteSentAs : Value → Dependency → Prop
  | mk {w : Value} {packageUri : String} {checksum : Option String}
      (hpackage : Holds IsText (w.property? "packageUri") (some packageUri))
      (hchecksum : Holds IsChecksum (w.property? "checksums") checksum) :
      RemoteSentAs w (.mk .remote (some packageUri) none checksum none)

mutual

/-- What is sent of the dependencies that a value declares. -/
inductive SentAs : Value → List (String × Dependency) → Prop
  | mk {v : Value} {locals remotes : List (String × Value)} {sent : List (String × Dependency)}
      (hlocals : declared? (v.property? "localDependencies") = some (underTexts locals))
      (hremotes : declared? (v.property? "remoteDependencies") = some (underTexts remotes))
      (hascending : Ordered.Ascending sent)
      (hnames : ∀ name, name ∈ sent.map Prod.fst ↔
        name ∈ locals.map Prod.fst ∨ name ∈ remotes.map Prod.fst)
      (hlength : sent.length + (locals.map Prod.fst).countP (· ∈ remotes.map Prod.fst) =
        locals.length + remotes.length)
      (hremote : ∀ name d w, (name, d) ∈ sent → (name, w) ∈ remotes → RemoteSentAs w d)
      (hlocal : ∀ name d w, (name, d) ∈ sent → (name, w) ∈ locals → name ∉ remotes.map Prod.fst →
        LocalSentAs w d) :
      SentAs v sent

/-- What is sent of a local dependency. -/
inductive LocalSentAs : Value → Dependency → Prop
  | mk {w : Value} {packageUri projectFileUri : String} {sent : List (String × Dependency)}
      (hpackage : Holds IsText (w.property? "packageUri") (some packageUri))
      (hfile : Holds IsText (w.property? "projectFileUri") (some projectFileUri))
      (habsent : present (w.property? "dependencies") = none → sent = [])
      (hpresent : ∀ d, present (w.property? "dependencies") = some d → SentAs d sent) :
      LocalSentAs w (.mk .local (some packageUri) (some projectFileUri) none (some sent))

end

/-! ## All of it is sent

The two inductions are one, on the size of the value: what is declared under a name is smaller than the
value that declares it. -/

theorem remoteSentAs_encodeRemote {w : Value} {d : RemoteDependency} (h : RemoteOf w d) :
    RemoteSentAs w (Dependencies.encodeRemote d) :=
  .mk h.packageUri h.checksum

mutual

theorem sentAs_encode {v : Value} {d : Dependencies} (h : DependenciesOf v d) : SentAs v d.encode := by
  obtain ⟨locals, remotes⟩ := d
  obtain ⟨hlocals, hremotes⟩ := dependenciesOf_iff.1 h
  obtain ⟨hlocals, foundLocals, hdeclaredLocals, hlocalNames, hlocalOf⟩ := hlocals.exists_found
  obtain ⟨hremotes, foundRemotes, hdeclaredRemotes, hremoteNames, hremoteOf⟩ := hremotes.exists_found
  refine .mk hdeclaredLocals hdeclaredRemotes ?ascending ?names ?length ?remotes ?locals
  case ascending =>
    rw [Dependencies.encode_mk]
    exact Ordered.ascending_ofPairs _
  case names =>
    intro name
    rw [Dependencies.mem_names_encode hlocals hremotes, hlocalNames.mem_iff, hremoteNames.mem_iff]
  case length =>
    have hlength := Dependencies.length_encode hlocals hremotes
    have hlocalLength := hlocalNames.length_eq
    have hremoteLength := hremoteNames.length_eq
    rw [List.length_map, List.length_map] at hlocalLength hremoteLength
    simp only [hremoteNames.mem_iff, hlocalNames.countP_eq]
    rw [hlength, hlocalLength, hremoteLength]
  case remotes =>
    -- of a name that is declared remote no local dependency is kept
    intro name d w hd hw
    rcases (Dependencies.mem_encode hlocals hremotes).1 hd with ⟨-, hname⟩ | ⟨x, hx, rfl⟩
    · exact absurd (hremoteNames.mem_iff.1 (List.mem_map_of_mem hw)) hname
    · exact remoteSentAs_encodeRemote (hremoteOf _ hx w hw)
  case locals =>
    intro name d w hd hw hname
    rcases (Dependencies.mem_encode hlocals hremotes).1 hd with ⟨⟨x, hx, rfl⟩, -⟩ | ⟨x, hx, -⟩
    · have := sizeOf_declared hdeclaredLocals (mem_underTexts hw)
      exact localSentAs_encodeLocal (hlocalOf _ hx w hw)
    · exact absurd (hremoteNames.mem_iff.2 (List.mem_map_of_mem hx)) hname
termination_by sizeOf v

theorem localSentAs_encodeLocal {w : Value} {d : LocalDependency} (h : LocalOf w d) :
    LocalSentAs w (Dependencies.encodeLocal d) := by
  obtain ⟨hpackage, hfile, habsent, hpresent⟩ := h
  rw [Dependencies.encodeLocal]
  refine .mk hpackage hfile (fun hnone => ?_) fun inner hinner => ?_
  · rw [habsent hnone]
    rfl
  · have := sizeOf_property? (eq_of_present hinner)
    exact sentAs_encode (hpresent inner hinner)
termination_by sizeOf w

end

/-- All dependencies that an accepted project declares are sent, but for those that share their name with a
remote one of the same level. -/
theorem Project.dependencies_sentAs {v : Value} {p : Project} (h : v.KeysDistinct)
    (hv : Project.ofValue v = .ok p) :
    (present (v.property? "dependencies") = none → p.dependencies.encode = []) ∧
      ∀ d, present (v.property? "dependencies") = some d → SentAs d p.dependencies.encode := by
  have hdependencies := ((Project.ofValue_eq_ok_iff h).1 hv).dependencies
  refine ⟨fun hnone => ?_, fun d hd => ?_⟩
  · rw [← (given_iff_of_absent hnone).1 hdependencies]
    rfl
  · exact sentAs_encode ((given_iff_of_present hd).1 hdependencies)

namespace Aquarium

theorem dependencies_sent :
    value.KeysDistinct ∧ Project.ofValue value = .ok project ∧
      SentAs dependencies project.dependencies.encode :=
  ⟨keysDistinct_value, ofValue_value,
    (Project.dependencies_sentAs keysDistinct_value ofValue_value).2 dependencies rfl⟩

theorem encode_project :
    project.dependencies.encode =
      [("crab", .mk .local (some "package://crab@1") (some "file:///crab/PklProject") none
        (some [("fish", .mk .remote (some "package://fish@2") none (some "abc") none)])),
       ("fish", .mk .remote (some "package://fish@2") none (some "abc") none)] := by
  rfl

/-- Of two local dependencies and a remote one there are only two sent, since two have one name; the local
one of that name is missing. -/
theorem localFish_not_sent :
    declared? (dependencies.property? "localDependencies") =
        some (underTexts [("fish", localFish), ("crab", crab)]) ∧
      declared? (dependencies.property? "remoteDependencies") =
        some (underTexts [("fish", remoteFish)]) ∧
      value.KeysDistinct ∧ Project.ofValue value = .ok project ∧
      project.dependencies.encode.length = 2 ∧
      ∀ d, ("fish", d) ∈ project.dependencies.encode → ¬ LocalSentAs localFish d := by
  refine ⟨rfl, rfl, keysDistinct_value, ofValue_value, rfl, fun d hd hlocal => ?_⟩
  rw [encode_project] at hd
  obtain ⟨hpackage, hfile, -, -⟩ := hlocal
  simp at hd

end Aquarium

end PklHost
