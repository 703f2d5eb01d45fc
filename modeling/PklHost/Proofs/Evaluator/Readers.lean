import PklHost.Evaluator.Options

/-!
# Which reader answers

A URI is read by the first reader of a family that has its scheme, if it can be parsed at all
(`readVia_resolves`).  The request to create an evaluator lists the readers of each family in the order in
which they are asked, so that this is the first one that was advertised for the scheme
(`EvaluatorOptions.Asks.advertises`).
-/

namespace PklHost

open Message (CreateEvaluator ModuleReaderSpec ReaderSpec)

variable {ρ σ α : Type}

/-! ## The first of its name -/

/-- An entry of a list has a name, and none before it has. -/
structure IsFirst (name : ρ → String) (entries : List ρ) (n : String) (r : ρ) : Prop where
  named : name r = n
  leads : ∃ before after, entries = before ++ r :: after ∧ ∀ other ∈ before, name other ≠ n

theorem findReader_eq_some_iff {scheme : ρ → String} {readers : List ρ} {url : Url} {r : ρ} :
    findReader scheme readers url = some r ↔ IsFirst scheme readers url.scheme r := by
  unfold findReader
  rw [List.find?_eq_some_iff_append]
  constructor
  · rintro ⟨hname, before, after, hsplit, hothers⟩
    exact ⟨by simpa using hname, before, after, hsplit, fun other hmem => by simpa using hothers other hmem⟩
  · rintro ⟨hname, before, after, hsplit, hothers⟩
    exact ⟨by simpa using hname, before, after, hsplit, fun other hmem => by simpa using hothers other hmem⟩

/-- What is first in a list is first in its image, where names are kept. -/
theorem IsFirst.map {name : ρ → String} {entries : List ρ} {n : String} {r : ρ}
    (h : IsFirst name entries n r) {f : ρ → σ} {name' : σ → String} (hname : ∀ r, name' (f r) = name r) :
    IsFirst name' (entries.map f) n (f r) := by
  obtain ⟨before, after, rfl, hothers⟩ := h.leads
  refine ⟨(hname r).trans h.named, before.map f, after.map f, by simp, ?_⟩
  intro other hmem
  obtain ⟨own, hown, rfl⟩ := List.mem_map.1 hmem
  rw [hname]
  exact hothers own hown

/-! ## Readers of one family -/

/-- A result is that of the first reader for a URI: it is `x` if the URI can be parsed and the first reader
that has its scheme gives `x`, and an error text in any other case. -/
def Resolves (scheme : ρ → String) (readers : List ρ) (give : ρ → Url → Except String α) (uri : String)
    (result : Except String α) : Prop :=
  ∀ x, result = .ok x ↔ ∃ url r, Url.parse uri = .ok url ∧ IsFirst scheme readers url.scheme r ∧
    give r url = .ok x

theorem readVia_resolves (family : String) (scheme : ρ → String) (readers : List ρ)
    (give : ρ → Url → Except String α) (uri : String) :
    Resolves scheme readers give uri (readVia family scheme readers give uri) := by
  intro x
  unfold readVia
  cases hparse : Url.parse uri with
  | error fault =>
      constructor
      · intro h
        cases h
      · rintro ⟨url, r, hurl, -, -⟩
        cases hurl
  | ok url =>
      dsimp only
      cases hfound : findReader scheme readers url with
      | none =>
          constructor
          · intro h
            cases h
          · rintro ⟨url', r, hurl, hfirst, -⟩
            obtain rfl : url = url' := Except.ok.inj hurl
            rw [findReader_eq_some_iff.2 hfirst] at hfound
            cases hfound
      | some r =>
          constructor
          · intro h
            exact ⟨url, r, rfl, findReader_eq_some_iff.1 hfound, h⟩
          · rintro ⟨url', r', hurl, hfirst, h⟩
            obtain rfl : url = url' := Except.ok.inj hurl
            -- the first reader for a scheme is one only
            rw [findReader_eq_some_iff.2 hfirst] at hfound
            obtain rfl : r' = r := Option.some.inj hfound
            exact h

def ResourceReader.scheme (r : ResourceReader) : String := r.spec.scheme

def ModuleReader.scheme (r : ModuleReader) : String := r.spec.scheme

/-! ## What is advertised -/

/-- A request lists readers by family: the first one for a scheme is the first one that is advertised for
it. -/
structure Advertises (request : CreateEvaluator) (readers : Readers) : Prop where
  resources : ∃ specs, request.clientResourceReaders = some specs ∧ ∀ scheme r,
    IsFirst ResourceReader.scheme readers.resources scheme r → IsFirst ReaderSpec.scheme specs scheme r.spec
  modules : ∃ specs, request.clientModuleReaders = some specs ∧ ∀ scheme r,
    IsFirst ModuleReader.scheme readers.modules scheme r → IsFirst ModuleReaderSpec.scheme specs scheme r.spec

/-- A request is that of some options. -/
def EvaluatorOptions.Asks (o : EvaluatorOptions) (request : CreateEvaluator) : Prop :=
  ∃ workingDir requestId, o.createRequest workingDir requestId = .ok request

theorem EvaluatorOptions.Asks.advertises {o : EvaluatorOptions} {request : CreateEvaluator}
    (hasks : o.Asks request) : Advertises request o.readers := by
  obtain ⟨workingDir, requestId, h⟩ := hasks
  have hlists : request.clientResourceReaders = some (o.readers.resources.map ResourceReader.spec) ∧
      request.clientModuleReaders = some (o.readers.modules.map ModuleReader.spec) := by
    unfold EvaluatorOptions.createRequest at h
    cases hdir : o.projectDir with
    | none =>
        rw [hdir] at h
        rw [← Except.ok.inj h]
        exact ⟨rfl, rfl⟩
    | some dir =>
        rw [hdir] at h
        cases hproject : EvaluatorOptions.projectItem workingDir dir o.dependencies with
        | error e =>
            simp only [hproject] at h
            cases h
        | ok project =>
            simp only [hproject] at h
            rw [← Except.ok.inj h]
            exact ⟨rfl, rfl⟩
  exact ⟨⟨_, hlists.1, fun _ _ hfirst => hfirst.map fun _ => rfl⟩,
    ⟨_, hlists.2, fun _ _ hfirst => hfirst.map fun _ => rfl⟩⟩

end PklHost
