import PklHost.Evaluator.Reader
import PklHost.Evaluator.Source

/-!
# Options of an evaluator

An option that is not set is left out of the request, so that Pkl's own default holds. Options come
from the command line's defaults or from a project, and other options can be laid over them: a field
that is set wins, a list of readers that is not empty replaces the other.
-/

namespace PklHost

open Message (CreateEvaluator Dependency)

/-- A renderer of Pkl's output. -/
inductive OutputFormat where
  | json | jsonnet | pcf | plist | properties | textproto | xml | yaml
  deriving DecidableEq, Repr

namespace OutputFormat

def all : List OutputFormat :=
  [.json, .jsonnet, .pcf, .plist, .properties, .textproto, .xml, .yaml]

def text : OutputFormat → String
  | .json => "json"
  | .jsonnet => "jsonnet"
  | .pcf => "pcf"
  | .plist => "plist"
  | .properties => "properties"
  | .textproto => "textproto"
  | .xml => "xml"
  | .yaml => "yaml"

def ofText? (s : String) : Option OutputFormat :=
  all.find? fun f => f.text == s

/-- The fault of a text that names no format. -/
def unknown (s : String) : String :=
  "unknown output format: " ++ s

end OutputFormat

/-- The surroundings of the host: its environment variables and working directory. -/
structure Environment where
  vars : Dict String
  workingDir : FilePath

/-- Options of an evaluator. -/
structure EvaluatorOptions where
  properties : Option (Dict String) := none
  env : Option (Dict String) := none
  modulePaths : Option (List String) := none
  outputFormat : Option OutputFormat := none
  allowedModules : Option (List String) := none
  allowedResources : Option (List String) := none
  readers : Readers := {}
  cacheDir : Option FilePath := none
  rootDir : Option FilePath := none
  /-- The directory of the project file. -/
  projectDir : Option FilePath := none
  dependencies : Option Dependencies := none

namespace EvaluatorOptions

/-! ## Making options -/

/-- The resources that are allowed by default. -/
def defaultResources : List String :=
  ["http:", "https:", "file:", "env:", "prop:", "modulepath:", "package:", "projectpackage:"]

/-- The modules that are allowed by default. -/
def defaultModules : List String :=
  ["pkl:", "repl:", "file:", "http:", "https:", "modulepath:", "package:", "projectpackage:"]

/-- The options of a command line: the common schemes, the host's variables and a cache at home. -/
def preconfigured (env : Environment) : EvaluatorOptions where
  allowedResources := some defaultResources
  allowedModules := some defaultModules
  env := some env.vars
  cacheDir := (env.vars.get? "HOME").map fun home =>
    ((FilePath.ofText home).join (FilePath.ofText ".pkl")).join (FilePath.ofText "cache")

/-- The options of a project's settings. -/
def ofSettings (s : EvaluatorSettings) : EvaluatorOptions where
  properties := s.externalProperties
  env := s.env
  modulePaths := s.modulePath
  allowedModules := s.allowedModules
  allowedResources := s.allowedResources
  cacheDir := if s.noCache = some true then none else s.moduleCacheDir.map FilePath.ofText
  rootDir := s.rootDir.map FilePath.ofText

/-- The options of a project: its settings, its directory and its dependencies. -/
def ofProject (p : Project) : Except EvaluatorError EvaluatorOptions :=
  match Url.parse p.projectFileUri with
  | .error fault => .error (.invalidUri fault)
  | .ok url =>
    match url.toFilePath? with
    | none => .error (.project (.notLocalFile p.projectFileUri))
    | some file =>
      let options := (p.evaluatorSettings.map ofSettings).getD {}
      .ok { options with projectDir := file.parent?, dependencies := some p.dependencies }

/-- Lays options over others. -/
def merge (base upper : EvaluatorOptions) : EvaluatorOptions where
  properties := upper.properties <|> base.properties
  env := upper.env <|> base.env
  modulePaths := upper.modulePaths <|> base.modulePaths
  outputFormat := upper.outputFormat <|> base.outputFormat
  allowedModules := upper.allowedModules <|> base.allowedModules
  allowedResources := upper.allowedResources <|> base.allowedResources
  readers :=
    { resources :=
        if upper.readers.resources.isEmpty then base.readers.resources else upper.readers.resources
      modules :=
        if upper.readers.modules.isEmpty then base.readers.modules else upper.readers.modules }
  cacheDir := upper.cacheDir <|> base.cacheDir
  rootDir := upper.rootDir <|> base.rootDir
  projectDir := upper.projectDir <|> base.projectDir
  dependencies := upper.dependencies <|> base.dependencies

def withProperty (name value : String) (o : EvaluatorOptions) : EvaluatorOptions :=
  { o with properties := some ((o.properties.getD .empty).insert name value) }

def withEnv (name value : String) (o : EvaluatorOptions) : EvaluatorOptions :=
  { o with env := some ((o.env.getD .empty).insert name value) }

/-! ## The request -/

/-- The project file of a directory. -/
def projectFile (dir : FilePath) : FilePath :=
  dir.join (FilePath.ofText "PklProject")

/-- The description of the project in a directory. -/
def projectItem (workingDir dir : FilePath) (dependencies : Option Dependencies) :
    Except EvaluatorError Dependency :=
  match ModuleSource.fileUrl workingDir (projectFile dir) with
  | .error e => .error e
  | .ok url => .ok (.mk .local none (some url.text) none (dependencies.map Dependencies.encode))

/-- The request to create an evaluator with these options. -/
def createRequest (workingDir : FilePath) (requestId : Int64) (o : EvaluatorOptions) :
    Except EvaluatorError CreateEvaluator := do
  let project ← match o.projectDir with
    | none => pure none
    | some dir => some <$> projectItem workingDir dir o.dependencies
  return {
    requestId
    clientResourceReaders := some (o.readers.resources.map ResourceReader.spec)
    clientModuleReaders := some (o.readers.modules.map ModuleReader.spec)
    modulePaths := o.modulePaths
    env := o.env
    properties := o.properties
    outputFormat := o.outputFormat.map OutputFormat.text
    allowedModules := o.allowedModules
    allowedResources := o.allowedResources
    rootDir := o.rootDir.map Utf8.lossyText
    cacheDir := o.cacheDir.map Utf8.lossyText
    project }

/-! ## Diagnostics -/

/-- A setting that may be absent. -/
def shownOption {α : Type} (f : α → String) : Option α → String
  | some x => "Some(" ++ f x ++ ")"
  | none => "None"

def shownTexts (texts : List String) : String :=
  "[" ++ Text.commaSeparated (texts.map Text.quoted) ++ "]"

def shownDict (d : Dict String) : String :=
  "\x7b" ++ Text.commaSeparated
    (d.pairs.map fun p => Text.quoted p.1 ++ ": " ++ Text.quoted p.2) ++ "\x7d"

/-- The name of a format, its first letter a capital. -/
def shownFormat (f : OutputFormat) : String :=
  match f.text.toList with
  | c :: cs => String.ofList (c.toUpper :: cs)
  | [] => ""

/-- The options as diagnostics show them: of the environment its size, of a reader its scheme. -/
def shown (o : EvaluatorOptions) : String :=
  "EvaluatorOptions \x7b " ++ Text.commaSeparated [
    "properties: " ++ shownOption shownDict o.properties,
    "env: " ++ shownOption (fun d => toString d.pairs.length) o.env,
    "module_paths: " ++ shownOption shownTexts o.modulePaths,
    "output_format: " ++ shownOption shownFormat o.outputFormat,
    "allowed_modules: " ++ shownOption shownTexts o.allowedModules,
    "allowed_resources: " ++ shownOption shownTexts o.allowedResources,
    "resource_readers: " ++ shownTexts (o.readers.resources.map fun r => r.spec.scheme),
    "module_readers: " ++ shownTexts (o.readers.modules.map fun r => r.spec.scheme),
    "cache_dir: " ++ shownOption Text.quotedPath o.cacheDir,
    "root_dir: " ++ shownOption Text.quotedPath o.rootDir,
    "project_dir: " ++ shownOption Text.quotedPath o.projectDir] ++ ", .. \x7d"

end EvaluatorOptions

end PklHost
