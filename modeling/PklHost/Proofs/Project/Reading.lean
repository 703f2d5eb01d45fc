import PklHost.Proofs.Project.Fields

/-!
# What a project is read as

`Describes v p` says of every property that a project has, at every depth, of what type its value is and
what of it is in the project.  A value is read as a project exactly if it describes that project
(`Project.ofValue_eq_ok_iff`): what is read of a property is all of it, and a property of another type is
refused.

Two things are not asked of a value.  A cache switch that is no boolean counts as absent; and settings of
evaluators, or dependencies, need not be an object, since a value that has no properties is read like an
object in which all of them are absent (`looseProperties_accepted`).
-/

namespace PklHost

open ProjectReader

/-! ## Packages and settings -/

/-- A value that describes a package. -/
structure PackageOf (v : Value) (p : Package) : Prop where
  name : Holds IsText (v.property? "name") (some p.name)
  baseUri : Holds IsText (v.property? "baseUri") (some p.baseUri)
  version : Holds IsText (v.property? "version") (some p.version)
  packageZipUrl : Holds IsText (v.property? "packageZipUrl") (some p.packageZipUrl)
  description : Holds IsText (v.property? "description") p.description
  authors : Given IsTexts [] (v.property? "authors") p.authors
  website : Holds IsText (v.property? "website") p.website
  documentation : Holds IsText (v.property? "documentation") p.documentation
  sourceCode : Holds IsText (v.property? "sourceCode") p.sourceCode
  sourceCodeUrlScheme : Holds IsText (v.property? "sourceCodeUrlScheme") p.sourceCodeUrlScheme
  license : Holds IsText (v.property? "license") p.license
  licenseText : Holds IsText (v.property? "licenseText") p.licenseText
  issueTracker : Holds IsText (v.property? "issueTracker") p.issueTracker
  apiTests : Given IsTexts [] (v.property? "apiTests") p.apiTests
  exclude : Given IsTexts [] (v.property? "exclude") p.exclude
  uri : Holds IsText (v.property? "uri") p.uri

theorem Package.ofValue_eq_ok_iff {v : Value} {p : Package} :
    Package.ofValue v = .ok p ↔ PackageOf v p := by
  simp only [Package.ofValue, bind_eq_ok_iff, pure_eq_ok_iff, text_eq_ok_iff, text?_eq_ok_iff,
    texts_eq_ok_iff]
  constructor
  · rintro ⟨_, hname, _, hbase, _, hversion, _, hzip, _, hdescription, _, hauthors, _, hwebsite,
      _, hdocumentation, _, hsource, _, hscheme, _, hlicense, _, htext, _, htracker, _, htests,
      _, hexclude, _, huri, rfl⟩
    exact ⟨hname, hbase, hversion, hzip, hdescription, hauthors, hwebsite, hdocumentation, hsource,
      hscheme, hlicense, htext, htracker, htests, hexclude, huri⟩
  · intro h
    exact ⟨_, h.name, _, h.baseUri, _, h.version, _, h.packageZipUrl, _, h.description, _, h.authors,
      _, h.website, _, h.documentation, _, h.sourceCode, _, h.sourceCodeUrlScheme, _, h.license,
      _, h.licenseText, _, h.issueTracker, _, h.apiTests, _, h.exclude, _, h.uri, rfl⟩

/-- A value that describes settings of evaluators. -/
structure SettingsOf (v : Value) (s : EvaluatorSettings) : Prop where
  externalProperties : Holds IsTextMap (v.property? "externalProperties") s.externalProperties
  env : Holds IsTextMap (v.property? "env") s.env
  allowedModules : Holds IsTexts (v.property? "allowedModules") s.allowedModules
  allowedResources : Holds IsTexts (v.property? "allowedResources") s.allowedResources
  /-- A switch that is no boolean counts as absent. -/
  noCache : s.noCache = (v.property? "noCache").bind Value.bool?
  modulePath : Holds IsTexts (v.property? "modulePath") s.modulePath
  moduleCacheDir : Holds IsText (v.property? "moduleCacheDir") s.moduleCacheDir
  rootDir : Holds IsText (v.property? "rootDir") s.rootDir

theorem keysDistinct_present {v w : Value} {name : String} (h : v.KeysDistinct)
    (hw : present (v.property? name) = some w) : w.KeysDistinct :=
  keysDistinct_property h (eq_of_present hw)

theorem EvaluatorSettings.ofValue_eq_ok_iff {v : Value} (h : v.KeysDistinct) {s : EvaluatorSettings} :
    EvaluatorSettings.ofValue v = .ok s ↔ SettingsOf v s := by
  have hmap : ∀ name x, textMap? (v.property? name) = .ok x ↔ Holds IsTextMap (v.property? name) x :=
    fun _ _ => textMap?_eq_ok_iff fun _ hw => keysDistinct_present h hw
  simp only [EvaluatorSettings.ofValue, bind_eq_ok_iff, pure_eq_ok_iff, text?_eq_ok_iff,
    texts?_eq_ok_iff, hmap]
  constructor
  · rintro ⟨_, hproperties, _, henv, _, hmodules, _, hresources, _, hpath, _, hcache, _, hroot, rfl⟩
    exact ⟨hproperties, henv, hmodules, hresources, rfl, hpath, hcache, hroot⟩
  · rintro ⟨hproperties, henv, hmodules, hresources, hswitch, hpath, hcache, hroot⟩
    refine ⟨_, hproperties, _, henv, _, hmodules, _, hresources, _, hpath, _, hcache, _, hroot, ?_⟩
    rw [← hswitch]

/-! ## Dependencies -/

/-- A value that describes checksums, of which there is one. -/
def IsChecksum (v : Value) (sum : String) : Prop := Holds IsText (v.property? "sha256") (some sum)

/-- A value that describes a remote dependency. -/
structure RemoteOf (v : Value) (d : RemoteDependency) : Prop where
  packageUri : Holds IsText (v.property? "packageUri") (some d.packageUri)
  checksum : Holds IsChecksum (v.property? "checksums") d.checksum

theorem RemoteDependency.ofValue_eq (v : Value) :
    RemoteDependency.ofValue v = do
      let checksum ← whenPresent (text "sha256") (v.property? "checksums")
      let packageUri ← text "packageUri" v
      return { packageUri, checksum } := by
  unfold RemoteDependency.ofValue whenPresent
  cases present (v.property? "checksums") <;> rfl

theorem RemoteDependency.ofValue_eq_ok_iff {v : Value} {d : RemoteDependency} :
    RemoteDependency.ofValue v = .ok d ↔ RemoteOf v d := by
  have hsum : ∀ x, whenPresent (text "sha256") (v.property? "checksums") = .ok x ↔
      Holds IsChecksum (v.property? "checksums") x :=
    fun x => whenPresent_eq_ok_iff fun _ _ _ => text_eq_ok_iff
  simp only [RemoteDependency.ofValue_eq, bind_eq_ok_iff, pure_eq_ok_iff, text_eq_ok_iff, hsum]
  constructor
  · rintro ⟨_, hsum, _, huri, rfl⟩
    exact ⟨huri, hsum⟩
  · exact fun h => ⟨_, h.checksum, _, h.packageUri, rfl⟩

mutual

/-- A value that describes dependencies, each kind by a mapping of its own. -/
inductive DependenciesOf : Value → Dependencies → Prop
  | mk {v : Value} {entries : Entries} {locals : List (String × LocalDependency)}
      {remotes : List (String × RemoteDependency)}
      (hentries : declared? (v.property? "localDependencies") = some entries)
      (hascending : Ordered.Ascending locals)
      (hkeys : (entries.map Prod.fst).Perm ((locals.map Prod.fst).map .string))
      (hvalues : ∀ p ∈ locals, ∀ w, (.string p.1, w) ∈ entries → LocalOf w p.2)
      (hremotes : Declares RemoteOf (v.property? "remoteDependencies") remotes) :
      DependenciesOf v (.mk locals remotes)

/-- A value that describes a local dependency, and its dependencies if it has any. -/
inductive LocalOf : Value → LocalDependency → Prop
  | mk {v : Value} {packageUri projectFileUri : String} {dependencies : Dependencies}
      (hpackage : Holds IsText (v.property? "packageUri") (some packageUri))
      (hfile : Holds IsText (v.property? "projectFileUri") (some projectFileUri))
      (habsent : present (v.property? "dependencies") = none → dependencies = .empty)
      (hpresent : ∀ d, present (v.property? "dependencies") = some d → DependenciesOf d dependencies) :
      LocalOf v (.mk packageUri projectFileUri dependencies)

end

theorem dependenciesOf_iff {v : Value} {locals : List (String × LocalDependency)}
    {remotes : List (String × RemoteDependency)} :
    DependenciesOf v (.mk locals remotes) ↔
      Declares LocalOf (v.property? "localDependencies") locals ∧
        Declares RemoteOf (v.property? "remoteDependencies") remotes := by
  constructor
  · rintro ⟨hentries, hascending, hkeys, hvalues, hremotes⟩
    exact ⟨⟨_, hentries, hascending, hkeys, hvalues⟩, hremotes⟩
  · rintro ⟨⟨entries, hentries, hascending, hkeys, hvalues⟩, hremotes⟩
    exact .mk hentries hascending hkeys hvalues hremotes

theorem localOf_iff {v : Value} {packageUri projectFileUri : String} {dependencies : Dependencies} :
    LocalOf v (.mk packageUri projectFileUri dependencies) ↔
      Holds IsText (v.property? "packageUri") (some packageUri) ∧
        Holds IsText (v.property? "projectFileUri") (some projectFileUri) ∧
          Given DependenciesOf .empty (v.property? "dependencies") dependencies := by
  constructor
  · rintro ⟨hpackage, hfile, habsent, hpresent⟩
    refine ⟨hpackage, hfile, ?_⟩
    cases hd : present (v.property? "dependencies") with
    | none => exact .inr ⟨hd, habsent hd⟩
    | some d => exact .inl ⟨d, hd, hpresent d hd⟩
  · rintro ⟨hpackage, hfile, ⟨d, hd, hof⟩ | ⟨hnone, rfl⟩⟩
    · refine .mk hpackage hfile (fun hnone => ?_) fun d' hd' => ?_
      · rw [hnone] at hd
        cases hd
      · obtain rfl := Option.some.inj (hd.symm.trans hd')
        exact hof
    · refine .mk hpackage hfile (fun _ => rfl) fun d' hd' => ?_
      rw [hnone] at hd'
      cases hd'

/-! ### Reading them

What a mapping declares is smaller than the value that has the mapping, so one induction on the size of
values is enough for dependencies and local dependencies together. -/

theorem sizeOf_declared {v k w : Value} {name : String} {entries : Entries}
    (h : declared? (v.property? name) = some entries) (hmem : (k, w) ∈ entries) :
    sizeOf w < sizeOf v := by
  have hpair : sizeOf (k, w) < sizeOf entries := List.sizeOf_lt_of_mem hmem
  have hvalue : sizeOf w < sizeOf (k, w) := by
    simp
  unfold declared? at h
  split at h
  · obtain rfl := Option.some.inj h
    cases hmem
  · next m hpresent =>
      have hsize := sizeOf_property? (eq_of_present hpresent)
      cases m with
      | map entries' | dynamic properties entries' elements =>
          obtain rfl := Option.some.inj h
          simp only [Value.map.sizeOf_spec, Value.dynamic.sizeOf_spec] at hsize
          omega
      | _ => cases h

theorem keysDistinct_declared {v k w : Value} {name : String} {entries : Entries} (h : v.KeysDistinct)
    (hentries : declared? (v.property? name) = some entries) (hmem : (k, w) ∈ entries) :
    w.KeysDistinct := by
  unfold declared? at hentries
  split at hentries
  · obtain rfl := Option.some.inj hentries
    cases hmem
  · next m hpresent => exact keysDistinct_mapping (keysDistinct_present h hpresent) hentries hmem

/-- A value is read under its name. -/
def readNamed {α : Type} (read : Value → Except ProjectFault α) (f : String × Value) :
    Except ProjectFault (String × α) :=
  return (f.1, ← read f.2)

theorem readNamed_eq_ok_iff {α : Type} {read : Value → Except ProjectFault α} {f : String × Value}
    {p : String × α} : readNamed read f = .ok p ↔ f.1 = p.1 ∧ read f.2 = .ok p.2 := by
  obtain ⟨name, a⟩ := p
  simp only [readNamed, bind_eq_ok_iff, pure_eq_ok_iff, Prod.mk.injEq]
  constructor
  · rintro ⟨_, hread, hname, rfl⟩
    exact ⟨hname, hread⟩
  · exact fun ⟨hname, hread⟩ => ⟨a, hread, hname, rfl⟩

theorem localsOf_eq_mapM (found : List (String × Value)) :
    Dependencies.localsOf found = found.mapM (readNamed LocalDependency.ofValue) := by
  induction found with
  | nil =>
      rw [Dependencies.localsOf]
      rfl
  | cons f rest ih =>
      obtain ⟨name, v⟩ := f
      rw [Dependencies.localsOf, ih, List.mapM_cons, readNamed]
      cases LocalDependency.ofValue v with
      | error e => rfl
      | ok d => cases List.mapM (readNamed LocalDependency.ofValue) rest <;> rfl

/-- Both mappings are read, the local one first. -/
theorem Dependencies.ofValue_eq_ok_iff_pairs {v : Value} {d : Dependencies} :
    Dependencies.ofValue v = .ok d ↔
      (∃ found, pairs (v.property? "localDependencies") = .ok found ∧
        ∃ ps, found.mapM (readNamed LocalDependency.ofValue) = .ok ps ∧ Ordered.ofPairs ps = d.locals) ∧
      ∃ found, pairs (v.property? "remoteDependencies") = .ok found ∧
        ∃ ps, found.mapM (readNamed RemoteDependency.ofValue) = .ok ps ∧ Ordered.ofPairs ps = d.remotes := by
  obtain ⟨locals, remotes⟩ := d
  rw [Dependencies.ofValue]
  cases hlocal : pairs (v.property? "localDependencies") with
  | error e => simp
  | ok found =>
      dsimp only
      rw [localsOf_eq_mapM]
      cases hread : found.mapM (readNamed LocalDependency.ofValue) with
      | error e => simp [hread]
      | ok ps =>
          dsimp only
          simp only [bind_eq_ok_iff, pure_eq_ok_iff]
          constructor
          · rintro ⟨_, hremote, _, hps, h⟩
            obtain ⟨rfl, rfl⟩ := Dependencies.mk.inj h
            exact ⟨⟨found, rfl, ps, hread, rfl⟩, _, hremote, _, hps, rfl⟩
          · rintro ⟨⟨_, hfound, _, hps, hlocals⟩, _, hremote, _, hps', hremotes⟩
            obtain rfl := Except.ok.inj hfound
            obtain rfl := Except.ok.inj (hread.symm.trans hps)
            exact ⟨_, hremote, _, hps', by rw [hlocals, hremotes]; rfl⟩

theorem LocalDependency.ofValue_eq (v : Value) :
    LocalDependency.ofValue v = do
      let packageUri ← text "packageUri" v
      let projectFileUri ← text "projectFileUri" v
      let dependencies ← withDefault Dependencies.ofValue .empty (v.property? "dependencies")
      return .mk packageUri projectFileUri dependencies := by
  rw [LocalDependency.ofValue, withDefault]
  cases present (v.property? "dependencies") <;> rfl

mutual

theorem Dependencies.ofValue_eq_ok_iff {v : Value} (h : v.KeysDistinct) {d : Dependencies} :
    Dependencies.ofValue v = .ok d ↔ DependenciesOf v d := by
  obtain ⟨locals, remotes⟩ := d
  have hkeys : ∀ name w, present (v.property? name) = some w → w.KeysDistinct :=
    fun _ _ hw => keysDistinct_present h hw
  rw [dependenciesOf_iff, Dependencies.ofValue_eq_ok_iff_pairs]
  refine and_congr (read_eq_ok_iff (hkeys _) fun entries hentries f hf p => ?_)
    (read_eq_ok_iff (hkeys _) fun entries hentries f hf p => ?_)
  · have := sizeOf_declared hentries hf
    rw [readNamed_eq_ok_iff, LocalDependency.ofValue_eq_ok_iff (keysDistinct_declared h hentries hf)]
  · rw [readNamed_eq_ok_iff, RemoteDependency.ofValue_eq_ok_iff]
termination_by sizeOf v

theorem LocalDependency.ofValue_eq_ok_iff {v : Value} (h : v.KeysDistinct) {d : LocalDependency} :
    LocalDependency.ofValue v = .ok d ↔ LocalOf v d := by
  have hinner : ∀ inner, withDefault Dependencies.ofValue .empty (v.property? "dependencies") =
      .ok inner ↔ Given DependenciesOf .empty (v.property? "dependencies") inner :=
    fun _ => withDefault_eq_ok_iff fun w hw _ => by
      have := sizeOf_property? (eq_of_present hw)
      exact Dependencies.ofValue_eq_ok_iff (keysDistinct_present h hw)
  obtain ⟨packageUri, projectFileUri, dependencies⟩ := d
  simp only [LocalDependency.ofValue_eq, bind_eq_ok_iff, pure_eq_ok_iff, text_eq_ok_iff, hinner,
    localOf_iff]
  constructor
  · rintro ⟨_, hpackage, _, hfile, _, hinner, hd⟩
    obtain ⟨rfl, rfl, rfl⟩ := LocalDependency.mk.inj hd
    exact ⟨hpackage, hfile, hinner⟩
  · rintro ⟨hpackage, hfile, hinner⟩
    exact ⟨_, hpackage, _, hfile, _, hinner, rfl⟩
termination_by sizeOf v

end

/-! ## Projects -/

/-- A value that describes a project: each of these properties, if it is there, is of its type, and the
project has all of what it holds. -/
structure Describes (v : Value) (p : Project) : Prop where
  object : v.isTyped = true ∨ v.isDynamic = true
  projectFileUri : Holds IsText (v.property? "projectFileUri") (some p.projectFileUri)
  package : Holds PackageOf (v.property? "package") p.package
  evaluatorSettings : Holds SettingsOf (v.property? "evaluatorSettings") p.evaluatorSettings
  tests : Given IsTexts [] (v.property? "tests") p.tests
  dependencies : Given DependenciesOf .empty (v.property? "dependencies") p.dependencies

theorem Project.ofValue_eq (v : Value) :
    Project.ofValue v =
      if v.isTyped || v.isDynamic then do
        let package ← whenPresent Package.ofValue (v.property? "package")
        let evaluatorSettings ← whenPresent EvaluatorSettings.ofValue (v.property? "evaluatorSettings")
        let dependencies ← withDefault Dependencies.ofValue .empty (v.property? "dependencies")
        let projectFileUri ← text "projectFileUri" v
        let tests ← ProjectReader.texts (v.property? "tests")
        return { projectFileUri, package, evaluatorSettings, tests, dependencies }
      else .error (.notObject v.kind) := by
  unfold Project.ofValue whenPresent withDefault
  cases v.isTyped || v.isDynamic with
  | false => rfl
  | true =>
      cases present (v.property? "package") <;> cases present (v.property? "evaluatorSettings") <;>
        cases present (v.property? "dependencies") <;> rfl

theorem Project.ofValue_eq_ok_iff {v : Value} (h : v.KeysDistinct) {p : Project} :
    Project.ofValue v = .ok p ↔ Describes v p := by
  have hpackage : ∀ x, whenPresent Package.ofValue (v.property? "package") = .ok x ↔
      Holds PackageOf (v.property? "package") x :=
    fun _ => whenPresent_eq_ok_iff fun _ _ _ => Package.ofValue_eq_ok_iff
  have hsettings : ∀ x, whenPresent EvaluatorSettings.ofValue (v.property? "evaluatorSettings") = .ok x ↔
      Holds SettingsOf (v.property? "evaluatorSettings") x :=
    fun _ => whenPresent_eq_ok_iff fun _ hw _ =>
      EvaluatorSettings.ofValue_eq_ok_iff (keysDistinct_present h hw)
  have hdependencies : ∀ d, withDefault Dependencies.ofValue .empty (v.property? "dependencies") =
      .ok d ↔ Given DependenciesOf .empty (v.property? "dependencies") d :=
    fun _ => withDefault_eq_ok_iff fun _ hw _ =>
      Dependencies.ofValue_eq_ok_iff (keysDistinct_present h hw)
  rw [Project.ofValue_eq]
  by_cases hobject : (v.isTyped || v.isDynamic) = true
  · simp only [if_pos hobject, bind_eq_ok_iff, pure_eq_ok_iff, text_eq_ok_iff, texts_eq_ok_iff,
      hpackage, hsettings, hdependencies]
    constructor
    · rintro ⟨_, hpackage, _, hsettings, _, hdependencies, _, hfile, _, htests, rfl⟩
      exact ⟨(Bool.or_eq_true_iff ..).1 hobject, hfile, hpackage, hsettings, htests, hdependencies⟩
    · intro h
      exact ⟨_, h.package, _, h.evaluatorSettings, _, h.dependencies, _, h.projectFileUri,
        _, h.tests, rfl⟩
  · rw [if_neg hobject]
    exact iff_of_false (fun hok => by cases hok) fun h => hobject ((Bool.or_eq_true_iff ..).2 h.object)

/-! ### A project with dependencies of both kinds -/

namespace Aquarium

def remoteFish : Value :=
  .object "RemoteDependency" "pkl:Project"
    [("packageUri", .string "package://fish@2"),
     ("checksums", .object "Checksums" "pkl:Project" [("sha256", .string "abc")])]

def localFish : Value :=
  .object "Project" "pkl:Project"
    [("packageUri", .string "package://fish@1"), ("projectFileUri", .string "file:///fish/PklProject")]

def crab : Value :=
  .object "Project" "pkl:Project"
    [("packageUri", .string "package://crab@1"), ("projectFileUri", .string "file:///crab/PklProject"),
     ("dependencies", .object "Dependencies" "pkl:Project"
       [("remoteDependencies", .map [(.string "fish", remoteFish)])])]

/-- Two local dependencies, of which one has a dependency of its own, and a remote one of the name of the
other. -/
def dependencies : Value :=
  .object "Dependencies" "pkl:Project"
    [("localDependencies", .map [(.string "fish", localFish), (.string "crab", crab)]),
     ("remoteDependencies", .map [(.string "fish", remoteFish)])]

def value : Value :=
  .object "Project" "pkl:Project"
    [("projectFileUri", .string "file:///PklProject"), ("dependencies", dependencies)]

def fish : RemoteDependency := ⟨"package://fish@2", some "abc"⟩

def project : Project where
  projectFileUri := "file:///PklProject"
  package := none
  evaluatorSettings := none
  tests := []
  dependencies := .mk
    [("crab", .mk "package://crab@1" "file:///crab/PklProject" (.mk [] [("fish", fish)])),
     ("fish", .mk "package://fish@1" "file:///fish/PklProject" .empty)]
    [("fish", fish)]

theorem keysDistinct_value : value.KeysDistinct := by
  simp [value, dependencies, localFish, crab, remoteFish, Value.keysDistinct_object_iff,
    Value.keysDistinct_map_iff, Value.keysDistinct_string, Assoc.Distinct, Assoc.keys, Value.equal]

theorem ofValue_value : Project.ofValue value = .ok project := by
  simp [Project.ofValue, Dependencies.ofValue, Dependencies.localsOf, LocalDependency.ofValue, value,
    dependencies, localFish, crab, remoteFish, Value.isTyped, Value.property?, Properties.get?,
    Assoc.get?, present, pairs, named, text, text?, texts, texts?]
  rfl

end Aquarium

/-! ### What is accepted, and what is refused -/

/-- A value whose keys are distinct is read as the project that it describes, and it is refused exactly if
it describes none. -/
theorem Project.reads_iff_describes {v : Value} (h : v.KeysDistinct) :
    (∀ p, Project.ofValue v = .ok p ↔ Describes v p) ∧
      ((∃ fault, Project.ofValue v = .error fault) ↔ ¬ ∃ p, Describes v p) := by
  have hread : ∀ p, Project.ofValue v = .ok p ↔ Describes v p :=
    fun _ => Project.ofValue_eq_ok_iff h
  refine ⟨hread, ?_⟩
  simp only [← hread]
  cases Project.ofValue v <;> simp

theorem Project.reads_aquarium :
    Aquarium.value.KeysDistinct ∧ Describes Aquarium.value Aquarium.project ∧
      ∀ p, Project.ofValue Aquarium.value = .ok p ↔ Describes Aquarium.value p :=
  have hread := (Project.reads_iff_describes Aquarium.keysDistinct_value).1
  ⟨Aquarium.keysDistinct_value, (hread _).1 Aquarium.ofValue_value, hread⟩

/-- A project with one more property. -/
def projectWith (name : String) (w : Value) : Value :=
  .object "Project" "pkl:Project" [("projectFileUri", .string "file:///PklProject"), (name, w)]

/-- A cache switch that is a text is accepted and counts as absent; settings and dependencies that are
numbers are accepted and count as empty. -/
theorem looseProperties_accepted :
    let unset : EvaluatorSettings := ⟨none, none, none, none, none, none, none, none⟩
    Project.ofValue (projectWith "evaluatorSettings"
        (.object "EvaluatorSettings" "pkl:Project" [("noCache", .string "yes")])) =
      .ok ⟨"file:///PklProject", none, some unset, [], .empty⟩ ∧
    Project.ofValue (projectWith "evaluatorSettings" (.int 3)) =
      .ok ⟨"file:///PklProject", none, some unset, [], .empty⟩ ∧
    Project.ofValue (projectWith "dependencies" (.int 3)) =
      .ok ⟨"file:///PklProject", none, none, [], .empty⟩ := by
  refine ⟨rfl, rfl, ?_⟩
  have hdependencies : Dependencies.ofValue (.int 3) = .ok .empty := by
    simp [Dependencies.ofValue, Dependencies.localsOf, Value.property?, present, pairs]
    rfl
  simp [Project.ofValue_eq, projectWith, Value.property?, Properties.get?, Assoc.get?, present, whenPresent,
    withDefault, hdependencies]
  rfl

end PklHost
