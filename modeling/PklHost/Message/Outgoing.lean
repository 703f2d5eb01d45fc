import PklHost.MessagePack.Writer
import PklHost.Message.Dependency

/-!
# Messages from the host to the server

Each message has a kind and one way to be written; fields that are absent are left out. Reading
takes the fields in the order in which a message lists them, so that a record with two faults has one
of them reported. A reply to a read or list request holds either its contents or an error text, and
the error text wins when a record holds both.
-/

namespace PklHost.Message

open MessagePack (Item)

/-- A reader of resources that a host offers. -/
structure ReaderSpec where
  scheme : String
  hierarchical : Bool
  globbable : Bool
  deriving DecidableEq, Repr

/-- A reader of modules that a host offers. -/
structure ModuleReaderSpec where
  scheme : String
  hierarchical : Bool
  globbable : Bool
  isLocal : Bool
  deriving DecidableEq, Repr

/-- One entry of a listing. -/
structure PathElement where
  name : String
  isDirectory : Bool
  deriving DecidableEq, Repr

/-- A request to create an evaluator. -/
structure CreateEvaluator where
  requestId : Int64
  clientResourceReaders : Option (List ReaderSpec) := none
  clientModuleReaders : Option (List ModuleReaderSpec) := none
  modulePaths : Option (List String) := none
  env : Option (Dict String) := none
  properties : Option (Dict String) := none
  outputFormat : Option String := none
  allowedModules : Option (List String) := none
  allowedResources : Option (List String) := none
  rootDir : Option String := none
  cacheDir : Option String := none
  project : Option Dependency := none

/-- A request to evaluate a module, or an expression in it. -/
structure Evaluate where
  requestId : Int64
  evaluatorId : Int64
  moduleUri : String
  moduleText : Option String
  expr : Option String
  deriving DecidableEq, Repr

/-- A reply to a read or list request: what was asked for, or an error text. -/
structure Reply (α : Type) where
  requestId : Int64
  evaluatorId : Int64
  result : Except String α

/-- A message from the host to the server. -/
inductive Outgoing where
  | createEvaluator (m : CreateEvaluator)
  | closeEvaluator (evaluatorId : Int64)
  | evaluate (m : Evaluate)
  | readResourceResponse (r : Reply Bytes)
  | readModuleResponse (r : Reply String)
  | listResourcesResponse (r : Reply (List PathElement))
  | listModulesResponse (r : Reply (List PathElement))

/-! ## Writing -/

namespace ReaderSpec

def toItem (r : ReaderSpec) : Item :=
  .map (put "scheme" (.text r.scheme) ++ put "hasHierarchicalUris" (.bool r.hierarchical) ++
    put "isGlobbable" (.bool r.globbable))

def read : FieldReader ReaderSpec := do
  let scheme ← FieldReader.text "scheme"
  let hierarchical ← FieldReader.bool "hasHierarchicalUris"
  let globbable ← FieldReader.bool "isGlobbable"
  return ⟨scheme, hierarchical, globbable⟩

end ReaderSpec

namespace ModuleReaderSpec

def toItem (r : ModuleReaderSpec) : Item :=
  .map (put "scheme" (.text r.scheme) ++ put "hasHierarchicalUris" (.bool r.hierarchical) ++
    put "isGlobbable" (.bool r.globbable) ++ put "isLocal" (.bool r.isLocal))

def read : FieldReader ModuleReaderSpec := do
  let scheme ← FieldReader.text "scheme"
  let hierarchical ← FieldReader.bool "hasHierarchicalUris"
  let globbable ← FieldReader.bool "isGlobbable"
  let isLocal ← FieldReader.bool "isLocal"
  return ⟨scheme, hierarchical, globbable, isLocal⟩

end ModuleReaderSpec

namespace PathElement

def toItem (e : PathElement) : Item :=
  .map (put "name" (.text e.name) ++ put "isDirectory" (.bool e.isDirectory))

def read : FieldReader PathElement := do
  let name ← FieldReader.text "name"
  let isDirectory ← FieldReader.bool "isDirectory"
  return ⟨name, isDirectory⟩

end PathElement

/-- The two ids that most messages begin with. -/
def idPairs (requestId evaluatorId : Int64) : List (Item × Item) :=
  put "requestId" (.ofInt64 requestId) ++ put "evaluatorId" (.ofInt64 evaluatorId)

/-- The fields of a reply whose contents stand under `contents`. -/
def Reply.pairs {α : Type} (contents : String) (item : α → Item) (r : Reply α) :
    List (Item × Item) :=
  idPairs r.requestId r.evaluatorId ++
    match r.result with
    | .ok x => put contents (item x)
    | .error e => put "error" (.text e)

/-- The item of a listing. -/
def listingItem (elements : List PathElement) : Item :=
  .array (elements.map PathElement.toItem)

def CreateEvaluator.pairs (m : CreateEvaluator) : List (Item × Item) :=
  put "requestId" (.ofInt64 m.requestId) ++
  put? "clientResourceReaders" (m.clientResourceReaders.map fun rs => .array (rs.map ReaderSpec.toItem)) ++
  put? "clientModuleReaders"
    (m.clientModuleReaders.map fun rs => .array (rs.map ModuleReaderSpec.toItem)) ++
  put? "modulePaths" (m.modulePaths.map textsItem) ++
  put? "env" (m.env.map textMapItem) ++
  put? "properties" (m.properties.map textMapItem) ++
  put? "outputFormat" (m.outputFormat.map .text) ++
  put? "allowedModules" (m.allowedModules.map textsItem) ++
  put? "allowedResources" (m.allowedResources.map textsItem) ++
  put? "rootDir" (m.rootDir.map .text) ++
  put? "cacheDir" (m.cacheDir.map .text) ++
  put? "project" (m.project.map Dependency.toItem)

def Evaluate.pairs (m : Evaluate) : List (Item × Item) :=
  idPairs m.requestId m.evaluatorId ++
  put "moduleUri" (.text m.moduleUri) ++
  put? "moduleText" (m.moduleText.map .text) ++
  put? "expr" (m.expr.map .text)

namespace Outgoing

/-- The kind of a message. -/
def kind : Outgoing → Kind
  | .createEvaluator _ => .createEvaluator
  | .closeEvaluator _ => .closeEvaluator
  | .evaluate _ => .evaluate
  | .readResourceResponse _ => .readResourceResponse
  | .readModuleResponse _ => .readModuleResponse
  | .listResourcesResponse _ => .listResourcesResponse
  | .listModulesResponse _ => .listModulesResponse

/-- The fields of a message, in the order in which they are written. -/
def pairs : Outgoing → List (Item × Item)
  | .createEvaluator m => m.pairs
  | .closeEvaluator evaluatorId => put "evaluatorId" (.ofInt64 evaluatorId)
  | .evaluate m => m.pairs
  | .readResourceResponse r => r.pairs "contents" .bin
  | .readModuleResponse r => r.pairs "contents" .text
  | .listResourcesResponse r => r.pairs "pathElements" listingItem
  | .listModulesResponse r => r.pairs "pathElements" listingItem

/-- The record of a message. -/
def toItem (m : Outgoing) : Item :=
  recordItem m.kind m.pairs

/-- The octets of a message. -/
def encode (m : Outgoing) : Bytes :=
  m.toItem.write

end Outgoing

/-! ## Reading -/

def CreateEvaluator.read : FieldReader CreateEvaluator := do
  let requestId ← FieldReader.int64 "requestId"
  let clientResourceReaders ← FieldReader.records? "clientResourceReaders"
    (FieldReader.ofMap .readerSpec ReaderSpec.read)
  let clientModuleReaders ← FieldReader.records? "clientModuleReaders"
    (FieldReader.ofMap .moduleReaderSpec ModuleReaderSpec.read)
  let modulePaths ← FieldReader.texts? "modulePaths"
  let env ← FieldReader.textMap? "env"
  let properties ← FieldReader.textMap? "properties"
  let outputFormat ← FieldReader.text? "outputFormat"
  let allowedModules ← FieldReader.texts? "allowedModules"
  let allowedResources ← FieldReader.texts? "allowedResources"
  let rootDir ← FieldReader.text? "rootDir"
  let cacheDir ← FieldReader.text? "cacheDir"
  let project ← FieldReader.optional "project" fun v => StateT.lift (Dependency.ofItem v)
  return { requestId, clientResourceReaders, clientModuleReaders, modulePaths, env, properties, outputFormat,
           allowedModules, allowedResources, rootDir, cacheDir, project }

def Evaluate.read : FieldReader Evaluate := do
  let requestId ← FieldReader.int64 "requestId"
  let evaluatorId ← FieldReader.int64 "evaluatorId"
  let moduleUri ← FieldReader.text "moduleUri"
  let moduleText ← FieldReader.text? "moduleText"
  let expr ← FieldReader.text? "expr"
  return { requestId, evaluatorId, moduleUri, moduleText, expr }

/-- A reply: its error text if there is one, else its contents or, without any, `empty`. -/
def Reply.read {α : Type} (contents : FieldReader (Option α)) (empty : α) :
    FieldReader (Reply α) := do
  let requestId ← FieldReader.int64 "requestId"
  let evaluatorId ← FieldReader.int64 "evaluatorId"
  match ← FieldReader.text? "error" with
  | some e => return ⟨requestId, evaluatorId, .error e⟩
  | none => return ⟨requestId, evaluatorId, .ok ((← contents).getD empty)⟩

def readListing : FieldReader (Option (List PathElement)) :=
  FieldReader.records? "pathElements" (FieldReader.ofMap .pathElement PathElement.read)

namespace Outgoing

/-- The reader of a kind's fields; `none` for kinds that no host sends. -/
def reader? : Kind → Option (FieldReader Outgoing)
  | .createEvaluator => some (.createEvaluator <$> CreateEvaluator.read)
  | .closeEvaluator => some (.closeEvaluator <$> FieldReader.int64 "evaluatorId")
  | .evaluate => some (.evaluate <$> Evaluate.read)
  | .readResourceResponse =>
    some (.readResourceResponse <$> Reply.read (FieldReader.binary? "contents") [])
  | .readModuleResponse =>
    some (.readModuleResponse <$> Reply.read (FieldReader.text? "contents") "")
  | .listResourcesResponse => some (.listResourcesResponse <$> Reply.read readListing [])
  | .listModulesResponse => some (.listModulesResponse <$> Reply.read readListing [])
  | _ => none

/-- The message of a record. -/
def ofItem (item : Item) : Except FrameError Outgoing := do
  let (code, pairs) ← recordOf item
  readKind reader? code pairs

end Outgoing

end PklHost.Message
