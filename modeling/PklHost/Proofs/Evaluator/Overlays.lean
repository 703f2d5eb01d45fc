import PklHost.Proofs.Except
import PklHost.Proofs.Message.RoundTrip
import PklHost.Proofs.Text.Utf8

/-!
# A project's settings on the wire

`p.SentUnder workingDir o m` says of every field of a message that creates an evaluator what stands under its
name there, where the settings of the project `p` lie under the options `o`: what the options set, or else what
the project sets, and nothing where neither does.  The request with the options of a project under others is
such a message (`Project.sentUnder_of_createRequest`).
-/

namespace PklHost

open Message (CreateEvaluator Dependency Layout ModuleReaderSpec Outgoing ReaderSpec isName put? textMapItem
  textsItem)
open MessagePack (Item)

/-! ## What stands under a name -/

theorem Message.Layout.find?_pairs {layout : Layout} (hdistinct : (layout.map Prod.fst).Nodup)
    {name : String} {v : Option Item} (hmem : (name, v) ∈ layout) :
    (layout.pairs.find? fun p => isName name p.1).map Prod.snd = v := by
  induction layout with
  | nil => cases hmem
  | cons field layout ih =>
      obtain ⟨other, w⟩ := field
      obtain ⟨hother, hdistinct⟩ := List.nodup_cons.1 hdistinct
      rw [Layout.pairs_cons, List.find?_append]
      rcases List.mem_cons.1 hmem with heq | hmem
      · obtain ⟨rfl, rfl⟩ := Prod.mk.inj heq
        cases v with
        | some v => simp [put?, Message.put, isName]
        | none =>
            -- no field that comes later has the name
            have hnone : ((Layout.pairs layout).find? fun p => isName name p.1) = none := by
              refine List.find?_eq_none.2 fun p hp hname => hother ?_
              refine Layout.mem_names (v := p.2) ?_
              rw [← Message.isName_iff.1 hname]
              exact hp
            rw [hnone]
            rfl
      · have hname : other ≠ name := by
          rintro rfl
          exact hother (List.mem_map.2 ⟨_, hmem, rfl⟩)
        have hskip : (put? other w).find? (fun p => isName name p.1) = none := by
          cases w with
          | none => rfl
          | some w => simp [put?, Message.put, isName, hname]
        rw [hskip, Option.none_or, ih hdistinct hmem]

/-- What a message has under a name, if it has anything. -/
def Message.Outgoing.field? (name : String) (m : Outgoing) : Option Item :=
  (m.pairs.find? fun p => isName name p.1).map Prod.snd

theorem Message.Outgoing.field?_of_mem {m : Outgoing} {name : String} {v : Option Item}
    (hmem : (name, v) ∈ m.layout) : m.field? name = v := by
  unfold Outgoing.field?
  rw [m.pairs_eq]
  exact Layout.find?_pairs m.nodup_layout hmem

/-! ## Settings, options and requests -/

/-- What the project's settings say of something, if it has settings and they say anything. -/
def Project.setting? {α : Type} (read : EvaluatorSettings → Option α) (p : Project) : Option α :=
  p.evaluatorSettings.bind read

/-- The cache of a project, unless it has switched caching off. -/
def EvaluatorSettings.cacheDir? (s : EvaluatorSettings) : Option String :=
  if s.noCache = some true then none else s.moduleCacheDir

namespace EvaluatorOptions

variable {workingDir : FilePath} {requestId : Int64} {o base : EvaluatorOptions} {request : CreateEvaluator}
  {p : Project}

/-- Options say what a project's settings say, of the project in a directory, if it has one. -/
structure Reflects (p : Project) (dir : Option FilePath) (o : EvaluatorOptions) : Prop where
  properties : o.properties = p.setting? (·.externalProperties)
  env : o.env = p.setting? (·.env)
  modulePaths : o.modulePaths = p.setting? (·.modulePath)
  allowedModules : o.allowedModules = p.setting? (·.allowedModules)
  allowedResources : o.allowedResources = p.setting? (·.allowedResources)
  rootDir : o.rootDir = (p.setting? (·.rootDir)).map FilePath.ofText
  cacheDir : o.cacheDir = (p.setting? EvaluatorSettings.cacheDir?).map FilePath.ofText
  outputFormat : o.outputFormat = none
  readers : o.readers = {}
  projectDir : o.projectDir = dir
  dependencies : o.dependencies = some p.dependencies

theorem reflects_of_ofProject (h : ofProject p = .ok o) : ∃ url file, Url.parse p.projectFileUri = .ok url ∧
    url.toFilePath? = some file ∧ o.Reflects p file.parent? := by
  unfold ofProject at h
  split at h
  · cases h
  · next url hurl =>
      split at h
      · cases h
      · next file hfile =>
          refine ⟨url, file, hurl, hfile, ?_⟩
          rw [← Except.ok.inj h]
          cases hsettings : p.evaluatorSettings with
          | none => constructor <;> simp [Project.setting?, hsettings]
          | some s =>
              constructor
              case cacheDir =>
                simp only [Project.setting?, hsettings, Option.map_some, Option.getD_some, Option.bind_some]
                unfold ofSettings EvaluatorSettings.cacheDir?
                dsimp only
                split <;> rfl
              all_goals simp [Project.setting?, hsettings, ofSettings]

/-! ### Under other options -/

section

variable {dir : Option FilePath}

/-- A project sets no readers. -/
theorem Reflects.readers_merge (h : base.Reflects p dir) (o : EvaluatorOptions) :
    (base.merge o).readers = o.readers := by
  unfold merge
  dsimp only
  rw [h.readers]
  obtain ⟨resources, modules⟩ := o.readers
  cases resources <;> cases modules <;> rfl

/-- Nor does it set a format. -/
theorem Reflects.outputFormat_merge (h : base.Reflects p dir) (o : EvaluatorOptions) :
    (base.merge o).outputFormat = o.outputFormat := by
  unfold merge
  rw [h.outputFormat]
  cases o.outputFormat <;> rfl

theorem Reflects.projectDir_merge (h : base.Reflects p dir) (o : EvaluatorOptions) :
    (base.merge o).projectDir = (o.projectDir <|> dir) := by
  rw [← h.projectDir]
  rfl

theorem Reflects.dependencies_merge (h : base.Reflects p dir) (o : EvaluatorOptions) :
    (base.merge o).dependencies = some (o.dependencies.getD p.dependencies) := by
  unfold merge
  rw [h.dependencies]
  cases o.dependencies <;> rfl

end

/-- A request asks for what options say, with a description of their project. -/
structure Requests (o : EvaluatorOptions) (project : Option Dependency) (request : CreateEvaluator) :
    Prop where
  properties : request.properties = o.properties
  env : request.env = o.env
  modulePaths : request.modulePaths = o.modulePaths
  allowedModules : request.allowedModules = o.allowedModules
  allowedResources : request.allowedResources = o.allowedResources
  rootDir : request.rootDir = o.rootDir.map Utf8.lossyText
  cacheDir : request.cacheDir = o.cacheDir.map Utf8.lossyText
  outputFormat : request.outputFormat = o.outputFormat.map OutputFormat.text
  resourceReaders : request.clientResourceReaders = some (o.readers.resources.map ResourceReader.spec)
  moduleReaders : request.clientModuleReaders = some (o.readers.modules.map ModuleReader.spec)
  project : request.project = project

/-- A project is described where its directory is known, and only there. -/
inductive Describing (workingDir : FilePath) (o : EvaluatorOptions) : Option Dependency → Prop
  | nowhere (hdir : o.projectDir = none) : Describing workingDir o none
  | within {dir : FilePath} {url : Url} (hdir : o.projectDir = some dir)
      (hurl : ModuleSource.fileUrl workingDir (projectFile dir) = .ok url) :
      Describing workingDir o
        (some (.mk .local none (some url.text) none (o.dependencies.map Dependencies.encode)))

theorem requests_of_createRequest (h : o.createRequest workingDir requestId = .ok request) :
    ∃ project, o.Describing workingDir project ∧ o.Requests project request := by
  unfold createRequest at h
  cases hdir : o.projectDir with
  | none =>
      rw [hdir] at h
      obtain rfl := pure_eq_ok_iff.1 h
      exact ⟨none, .nowhere hdir, by constructor <;> rfl⟩
  | some dir =>
      rw [hdir] at h
      obtain ⟨project, hproject, hrequest⟩ := bind_eq_ok_iff.1 h
      obtain rfl := pure_eq_ok_iff.1 hrequest
      refine ⟨project, ?_, by constructor <;> rfl⟩
      obtain ⟨item, hitem, rfl⟩ := map_eq_ok_iff.1 hproject
      unfold projectItem at hitem
      cases hurl : ModuleSource.fileUrl workingDir (projectFile dir) with
      | error fault =>
          rw [hurl] at hitem
          cases hitem
      | ok url =>
          rw [hurl] at hitem
          obtain rfl := Except.ok.inj hitem
          exact .within hdir hurl

end EvaluatorOptions

/-! ## Projects under other options -/

/-- A message creates an evaluator with the settings of a project under other options. -/
structure Project.SentUnder (workingDir : FilePath) (p : Project) (o : EvaluatorOptions) (m : Outgoing) :
    Prop where
  creates : m.kind = .createEvaluator
  properties : m.field? "properties" =
    (o.properties <|> p.setting? (·.externalProperties)).map textMapItem
  env : m.field? "env" = (o.env <|> p.setting? (·.env)).map textMapItem
  modulePaths : m.field? "modulePaths" = (o.modulePaths <|> p.setting? (·.modulePath)).map textsItem
  allowedModules : m.field? "allowedModules" =
    (o.allowedModules <|> p.setting? (·.allowedModules)).map textsItem
  allowedResources : m.field? "allowedResources" =
    (o.allowedResources <|> p.setting? (·.allowedResources)).map textsItem
  rootDir : m.field? "rootDir" =
    (o.rootDir.map Utf8.lossyText <|> p.setting? (·.rootDir)).map .text
  cacheDir : m.field? "cacheDir" =
    (o.cacheDir.map Utf8.lossyText <|> p.setting? EvaluatorSettings.cacheDir?).map .text
  outputFormat : m.field? "outputFormat" = o.outputFormat.map fun f => .text f.text
  resourceReaders : m.field? "clientResourceReaders" =
    some (.array (o.readers.resources.map fun r => r.spec.toItem))
  moduleReaders : m.field? "clientModuleReaders" =
    some (.array (o.readers.modules.map fun r => r.spec.toItem))
  /-- The project is described as the one in the options' directory, or else in the directory of its file,
  with the options' dependencies or else its own.  It is left out only where there is no directory. -/
  project : ∃ url file, Url.parse p.projectFileUri = .ok url ∧ url.toFilePath? = some file ∧
    ((o.projectDir <|> file.parent?) = none ∧ m.field? "project" = none ∨
      ∃ dir place, (o.projectDir <|> file.parent?) = some dir ∧
        ModuleSource.fileUrl workingDir (EvaluatorOptions.projectFile dir) = .ok place ∧
        m.field? "project" = some (Dependency.toItem (.mk .local none (some place.text) none
          (some (o.dependencies.getD p.dependencies).encode))))

/-- A path that is a text or is laid over one is written as that text. -/
theorem map_lossyText_orElse (upper : Option FilePath) (lower : Option String) :
    (upper <|> lower.map FilePath.ofText).map Utf8.lossyText = (upper.map Utf8.lossyText <|> lower) := by
  cases upper with
  | some path => rfl
  | none =>
      cases lower with
      | none => rfl
      | some s => exact congrArg some (Utf8.lossyText_ofText s)

theorem Project.sentUnder_of_createRequest {workingDir : FilePath} {requestId : Int64} {p : Project}
    {base o : EvaluatorOptions} {request : CreateEvaluator} (hproject : EvaluatorOptions.ofProject p = .ok base)
    (hrequest : (base.merge o).createRequest workingDir requestId = .ok request) :
    p.SentUnder workingDir o (.createEvaluator request) := by
  obtain ⟨url, file, hurl, hfile, hreflects⟩ := EvaluatorOptions.reflects_of_ofProject hproject
  obtain ⟨project, hdescribing, hrequests⟩ := EvaluatorOptions.requests_of_createRequest hrequest
  have hfield : ∀ {name} (v), (name, v) ∈ request.layout →
      (Outgoing.createEvaluator request).field? name = v := fun _ hmem => Outgoing.field?_of_mem hmem
  constructor
  case creates => rfl
  case properties =>
    rw [hfield (request.properties.map textMapItem) (by simp [CreateEvaluator.layout]),
      hrequests.properties, ← hreflects.properties]
    rfl
  case env =>
    rw [hfield (request.env.map textMapItem) (by simp [CreateEvaluator.layout]), hrequests.env,
      ← hreflects.env]
    rfl
  case modulePaths =>
    rw [hfield (request.modulePaths.map textsItem) (by simp [CreateEvaluator.layout]),
      hrequests.modulePaths, ← hreflects.modulePaths]
    rfl
  case allowedModules =>
    rw [hfield (request.allowedModules.map textsItem) (by simp [CreateEvaluator.layout]),
      hrequests.allowedModules, ← hreflects.allowedModules]
    rfl
  case allowedResources =>
    rw [hfield (request.allowedResources.map textsItem) (by simp [CreateEvaluator.layout]),
      hrequests.allowedResources, ← hreflects.allowedResources]
    rfl
  case rootDir =>
    rw [hfield (request.rootDir.map .text) (by simp [CreateEvaluator.layout]), hrequests.rootDir,
      ← map_lossyText_orElse, ← hreflects.rootDir]
    rfl
  case cacheDir =>
    rw [hfield (request.cacheDir.map .text) (by simp [CreateEvaluator.layout]), hrequests.cacheDir,
      ← map_lossyText_orElse, ← hreflects.cacheDir]
    rfl
  case outputFormat =>
    rw [hfield (request.outputFormat.map .text) (by simp [CreateEvaluator.layout]),
      hrequests.outputFormat, hreflects.outputFormat_merge, Option.map_map]
    rfl
  case resourceReaders =>
    rw [hfield (request.clientResourceReaders.map fun rs => .array (rs.map ReaderSpec.toItem))
      (by simp [CreateEvaluator.layout]), hrequests.resourceReaders, hreflects.readers_merge,
      Option.map_some, List.map_map]
    rfl
  case moduleReaders =>
    rw [hfield (request.clientModuleReaders.map fun rs => .array (rs.map ModuleReaderSpec.toItem))
      (by simp [CreateEvaluator.layout]), hrequests.moduleReaders, hreflects.readers_merge,
      Option.map_some, List.map_map]
    rfl
  case project =>
    refine ⟨url, file, hurl, hfile, ?_⟩
    rw [hfield (request.project.map Dependency.toItem) (by simp [CreateEvaluator.layout]),
      hrequests.project, ← hreflects.projectDir_merge]
    cases hdescribing with
    | nowhere hnone => exact .inl ⟨hnone, rfl⟩
    | within hsome hplace =>
        refine .inr ⟨_, _, hsome, hplace, ?_⟩
        rw [hreflects.dependencies_merge]
        rfl

end PklHost
