import PklHost.Project.Basic
import PklHost.Value.Basic

/-!
# Projects from values

A project is read from the value of its file. A property that is null counts as absent; a property
that is present must be of its type, with two exceptions: a cache switch that is no boolean is ignored,
and settings or dependencies that are no object count as empty, since they have no properties.
Properties are read in a fixed order, which fixes the fault that is reported.
-/

namespace PklHost

namespace ProjectReader

/-- A value that is there and not null. -/
def present : Option Value → Option Value
  | some .null => none
  | o => o

/-- A string property that may be absent. -/
def text? (name : String) (v : Value) : Except ProjectFault (Option String) :=
  match present (v.property? name) with
  | none => .ok none
  | some (.string s) => .ok (some s)
  | some _ => .error (.notString name)

/-- A string property that must be there. -/
def text (name : String) (v : Value) : Except ProjectFault String :=
  match text? name v with
  | .error e => .error e
  | .ok none => .error (.missing name)
  | .ok (some s) => .ok s

def textItem : Value → Except ProjectFault String
  | .string s => .ok s
  | _ => .error .elementNotString

/-- A list or set of strings that may be absent. -/
def texts? (o : Option Value) : Except ProjectFault (Option (List String)) :=
  match present o with
  | none => .ok none
  | some v =>
    match v.items? with
    | none => .error (.notList v.kind)
    | some items => some <$> items.mapM textItem

def texts (o : Option Value) : Except ProjectFault (List String) :=
  return (← texts? o).getD []

/-- Pairs whose keys must all be strings. -/
def named : Entries → Except ProjectFault (List (String × Value))
  | [] => .ok []
  | (.string name, v) :: rest =>
    match named rest with
    | .error e => .error e
    | .ok pairs => .ok ((name, v) :: pairs)
  | _ :: _ => .error .keyNotString

/-- The pairs of a map, or of the entries of a dynamic object. -/
def pairs (o : Option Value) : Except ProjectFault (List (String × Value)) :=
  match present o with
  | none => .ok []
  | some (.map entries) => named entries
  | some (.dynamic _ entries _) => named entries
  | some v => .error (.notMapping v.kind)

def textPair : String × Value → Except ProjectFault (String × String)
  | (name, .string s) => .ok (name, s)
  | (name, _) => .error (.valueNotString name)

/-- A map from strings to strings that may be absent. -/
def textMap? (o : Option Value) : Except ProjectFault (Option (Dict String)) :=
  match present o with
  | none => .ok none
  | some v => do
    let found ← pairs (some v)
    return some (Dict.ofPairs (← found.mapM textPair))

/-! ## Sizes

What a value holds is smaller than the value, so reading dependencies ends. -/

theorem sizeOf_get? {name : String} {ps : Properties} {v : Value}
    (h : Properties.get? name ps = some v) : sizeOf v < sizeOf ps := by
  unfold Properties.get? at h
  induction ps with
  | nil => simp [Assoc.get?] at h
  | cons p rest ih =>
    obtain ⟨k, w⟩ := p
    rw [Assoc.get?] at h
    split at h
    · simp only [Option.some.injEq] at h
      subst h
      simp
      omega
    · have := ih h
      simp
      omega

theorem sizeOf_property? {name : String} {v w : Value} (h : v.property? name = some w) :
    sizeOf w < sizeOf v := by
  unfold Value.property? at h
  split at h
  · have := sizeOf_get? h
    simp
    omega
  · have := sizeOf_get? h
    simp
    omega
  · simp at h

theorem eq_of_present {o : Option Value} {v : Value} (h : present o = some v) : o = some v := by
  unfold present at h
  split at h
  · simp at h
  · exact h

theorem sizeOf_named {entries : Entries} {found : List (String × Value)}
    (h : named entries = .ok found) : sizeOf found ≤ sizeOf entries := by
  induction entries generalizing found with
  | nil =>
    simp only [named, Except.ok.injEq] at h
    subst h
    simp
  | cons p rest ih =>
    obtain ⟨k, v⟩ := p
    unfold named at h
    split at h
    · simp at *
    · next hEq =>
      split at h
      · simp at h
      · next hRest =>
        simp only [List.cons.injEq, Prod.mk.injEq] at hEq
        obtain ⟨⟨rfl, rfl⟩, rfl⟩ := hEq
        simp only [Except.ok.injEq] at h
        subst h
        have := ih hRest
        simp
        omega
    · simp at h

theorem sizeOf_pos (v : Value) : 0 < sizeOf v := by
  cases v <;> simp +arith

/-- The pairs found under a property are no larger than the value that has it. -/
theorem sizeOf_pairs {name : String} {v : Value} {found : List (String × Value)}
    (h : pairs (v.property? name) = .ok found) : sizeOf found ≤ sizeOf v := by
  have hPos := sizeOf_pos v
  unfold pairs at h
  split at h
  · simp only [Except.ok.injEq] at h
    subst h
    simp only [List.nil.sizeOf_spec]
    omega
  · next hp =>
    have := sizeOf_property? (eq_of_present hp)
    have := sizeOf_named h
    simp at *
    omega
  · next hp =>
    have := sizeOf_property? (eq_of_present hp)
    have := sizeOf_named h
    simp at *
    omega
  · simp at h

end ProjectReader

/-! ## Dependencies -/

open ProjectReader

namespace RemoteDependency

def ofValue (v : Value) : Except ProjectFault RemoteDependency := do
  let checksum ← match present (v.property? "checksums") with
    | none => pure none
    | some c => some <$> text "sha256" c
  let packageUri ← text "packageUri" v
  return { packageUri, checksum }

end RemoteDependency

mutual

/-- The dependencies that a value describes. -/
def Dependencies.ofValue (v : Value) : Except ProjectFault Dependencies :=
  match _h : pairs (v.property? "localDependencies") with
  | .error e => .error e
  | .ok found =>
    match Dependencies.localsOf found with
    | .error e => .error e
    | .ok locals => do
      let found ← pairs (v.property? "remoteDependencies")
      let remotes ← found.mapM fun (name, d) => do return (name, ← RemoteDependency.ofValue d)
      return .mk (Ordered.ofPairs locals) (Ordered.ofPairs remotes)
termination_by (sizeOf v, 1)
decreasing_by
  have := sizeOf_pairs _h
  exact Prod.Lex.right' _ this (by decide)

def Dependencies.localsOf :
    List (String × Value) → Except ProjectFault (List (String × LocalDependency))
  | [] => .ok []
  | (name, v) :: rest =>
    match LocalDependency.ofValue v with
    | .error e => .error e
    | .ok d =>
      match Dependencies.localsOf rest with
      | .error e => .error e
      | .ok ds => .ok ((name, d) :: ds)
termination_by found => (sizeOf found, 0)

/-- The local dependency that a value describes. -/
def LocalDependency.ofValue (v : Value) : Except ProjectFault LocalDependency := do
  let packageUri ← text "packageUri" v
  let projectFileUri ← text "projectFileUri" v
  match _h : present (v.property? "dependencies") with
  | none => return .mk packageUri projectFileUri .empty
  | some inner => return .mk packageUri projectFileUri (← Dependencies.ofValue inner)
termination_by (sizeOf v, 0)
decreasing_by
  have := sizeOf_property? (eq_of_present _h)
  exact Prod.Lex.left _ _ this

end

/-! ## Projects -/

def Package.ofValue (v : Value) : Except ProjectFault Package := do
  let name ← text "name" v
  let baseUri ← text "baseUri" v
  let version ← text "version" v
  let packageZipUrl ← text "packageZipUrl" v
  let description ← text? "description" v
  let authors ← texts (v.property? "authors")
  let website ← text? "website" v
  let documentation ← text? "documentation" v
  let sourceCode ← text? "sourceCode" v
  let sourceCodeUrlScheme ← text? "sourceCodeUrlScheme" v
  let license ← text? "license" v
  let licenseText ← text? "licenseText" v
  let issueTracker ← text? "issueTracker" v
  let apiTests ← texts (v.property? "apiTests")
  let exclude ← texts (v.property? "exclude")
  let uri ← text? "uri" v
  return { name, baseUri, version, packageZipUrl, description, authors, website, documentation,
           sourceCode, sourceCodeUrlScheme, license, licenseText, issueTracker, apiTests, exclude,
           uri }

def EvaluatorSettings.ofValue (v : Value) : Except ProjectFault EvaluatorSettings := do
  let externalProperties ← textMap? (v.property? "externalProperties")
  let env ← textMap? (v.property? "env")
  let allowedModules ← texts? (v.property? "allowedModules")
  let allowedResources ← texts? (v.property? "allowedResources")
  let noCache := (v.property? "noCache").bind Value.bool?
  let modulePath ← texts? (v.property? "modulePath")
  let moduleCacheDir ← text? "moduleCacheDir" v
  let rootDir ← text? "rootDir" v
  return { externalProperties, env, allowedModules, allowedResources, noCache, modulePath,
           moduleCacheDir, rootDir }

/-- The project that a value describes. -/
def Project.ofValue (v : Value) : Except ProjectFault Project := do
  if !(v.isTyped || v.isDynamic) then throw (.notObject v.kind)
  let package ← match present (v.property? "package") with
    | none => pure none
    | some p => some <$> Package.ofValue p
  let evaluatorSettings ← match present (v.property? "evaluatorSettings") with
    | none => pure none
    | some s => some <$> EvaluatorSettings.ofValue s
  let dependencies ← match present (v.property? "dependencies") with
    | none => pure .empty
    | some d => Dependencies.ofValue d
  let projectFileUri ← text "projectFileUri" v
  let tests ← texts (v.property? "tests")
  return { projectFileUri, package, evaluatorSettings, tests, dependencies }

end PklHost
