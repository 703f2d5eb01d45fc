import PklHost.Message.Dependency

/-!
# Projects

A project as its file describes it: package, settings of evaluators, tests and resolved dependencies.
Local dependencies are projects themselves, remote ones published packages. On the wire both kinds
share one dictionary, in which a remote dependency takes the place of a local one of the same name.
-/

namespace PklHost

/-- A dependency on a published package; `checksum` is a SHA-256 sum. -/
structure RemoteDependency where
  packageUri : String
  checksum : Option String
  deriving DecidableEq, Repr

mutual

/-- The resolved dependencies of a project, each kind in the order of names. -/
inductive Dependencies where
  | mk (locals : List (String × LocalDependency)) (remotes : List (String × RemoteDependency))

/-- A dependency on another project. -/
inductive LocalDependency where
  | mk (packageUri projectFileUri : String) (dependencies : Dependencies)

end

namespace Dependencies

def empty : Dependencies := .mk [] []

instance : Inhabited Dependencies := ⟨empty⟩

def locals : Dependencies → List (String × LocalDependency)
  | .mk locals _ => locals

def remotes : Dependencies → List (String × RemoteDependency)
  | .mk _ remotes => remotes

def isEmpty (d : Dependencies) : Bool :=
  d.locals.isEmpty && d.remotes.isEmpty

open Message (Dependency)

/-- The description of a remote dependency. -/
def encodeRemote (d : RemoteDependency) : Dependency :=
  .mk .remote (some d.packageUri) none d.checksum none

mutual

/-- The descriptions of all dependencies in one dictionary. -/
def encode : Dependencies → List (String × Dependency)
  | .mk locals remotes =>
    Ordered.ofPairs (encodeLocals locals ++ remotes.map fun p => (p.1, encodeRemote p.2))

def encodeLocals : List (String × LocalDependency) → List (String × Dependency)
  | [] => []
  | (name, d) :: rest => (name, encodeLocal d) :: encodeLocals rest

/-- The description of a local dependency, with its own dependencies. -/
def encodeLocal : LocalDependency → Dependency
  | .mk packageUri projectFileUri dependencies =>
    .mk .local (some packageUri) (some projectFileUri) none (some dependencies.encode)

end

end Dependencies

/-- A published package. -/
structure Package where
  name : String
  baseUri : String
  version : String
  packageZipUrl : String
  description : Option String
  authors : List String
  website : Option String
  documentation : Option String
  sourceCode : Option String
  sourceCodeUrlScheme : Option String
  license : Option String
  licenseText : Option String
  issueTracker : Option String
  apiTests : List String
  exclude : List String
  uri : Option String
  deriving DecidableEq, Repr

/-- What a project sets for its evaluators. -/
structure EvaluatorSettings where
  externalProperties : Option (Dict String)
  env : Option (Dict String)
  allowedModules : Option (List String)
  allowedResources : Option (List String)
  noCache : Option Bool
  modulePath : Option (List String)
  moduleCacheDir : Option String
  rootDir : Option String

/-- A project. -/
structure Project where
  projectFileUri : String
  package : Option Package
  evaluatorSettings : Option EvaluatorSettings
  tests : List String
  dependencies : Dependencies

/-! ## Faults -/

/-- Why a value is no usable project. -/
inductive ProjectFault where
  | notObject (kind : String)
  | missing (property : String)
  | notString (property : String)
  | notList (kind : String)
  | elementNotString
  | notMapping (kind : String)
  | keyNotString
  | valueNotString (key : String)
  | notLocalFile (uri : String)
  /-- Any other fault, in words. -/
  | other (text : String)
  deriving DecidableEq, Repr

def ProjectFault.message : ProjectFault → String
  | .notObject kind => "expected an object, got " ++ kind
  | .missing property => "missing property " ++ Text.quoted property
  | .notString property => "property " ++ Text.quoted property ++ " is not a string"
  | .notList kind => "expected a list, got " ++ kind
  | .elementNotString => "list element is not a string"
  | .notMapping kind => "expected a mapping, got " ++ kind
  | .keyNotString => "mapping key is not a string"
  | .valueNotString key => "value for " ++ Text.quoted key ++ " is not a string"
  | .notLocalFile uri => "project file is not a local file: " ++ uri
  | .other text => text

end PklHost
