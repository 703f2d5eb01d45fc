/-!
# Kinds of messages

Every message between a host and a Pkl server carries a numeric code for its kind. Requests and
their answers have neighbouring codes, the answer the odd one.
-/

namespace PklHost.Message

/-- A kind of message. -/
inductive Kind where
  | createEvaluator
  | createEvaluatorResponse
  | closeEvaluator
  | evaluate
  | evaluateResponse
  | log
  | readResource
  | readResourceResponse
  | readModule
  | readModuleResponse
  | listResources
  | listResourcesResponse
  | listModules
  | listModulesResponse
  deriving DecidableEq, Repr

namespace Kind

/-- The code of a kind on the wire. -/
def code : Kind → UInt64
  | .createEvaluator => 0x20
  | .createEvaluatorResponse => 0x21
  | .closeEvaluator => 0x22
  | .evaluate => 0x23
  | .evaluateResponse => 0x24
  | .log => 0x25
  | .readResource => 0x26
  | .readResourceResponse => 0x27
  | .readModule => 0x28
  | .readModuleResponse => 0x29
  | .listResources => 0x2a
  | .listResourcesResponse => 0x2b
  | .listModules => 0x2c
  | .listModulesResponse => 0x2d

/-- The kind of a code, if the code is one. -/
def ofCode? (code : UInt64) : Option Kind :=
  match code.toNat with
  | 0x20 => some .createEvaluator
  | 0x21 => some .createEvaluatorResponse
  | 0x22 => some .closeEvaluator
  | 0x23 => some .evaluate
  | 0x24 => some .evaluateResponse
  | 0x25 => some .log
  | 0x26 => some .readResource
  | 0x27 => some .readResourceResponse
  | 0x28 => some .readModule
  | 0x29 => some .readModuleResponse
  | 0x2a => some .listResources
  | 0x2b => some .listResourcesResponse
  | 0x2c => some .listModules
  | 0x2d => some .listModulesResponse
  | _ => none

def name : Kind → String
  | .createEvaluator => "CreateEvaluator"
  | .createEvaluatorResponse => "CreateEvaluatorResponse"
  | .closeEvaluator => "CloseEvaluator"
  | .evaluate => "Evaluate"
  | .evaluateResponse => "EvaluateResponse"
  | .log => "Log"
  | .readResource => "ReadResource"
  | .readResourceResponse => "ReadResourceResponse"
  | .readModule => "ReadModule"
  | .readModuleResponse => "ReadModuleResponse"
  | .listResources => "ListResources"
  | .listResourcesResponse => "ListResourcesResponse"
  | .listModules => "ListModules"
  | .listModulesResponse => "ListModulesResponse"

/-- Kinds that a host receives. -/
def isIncoming : Kind → Bool
  | .createEvaluatorResponse | .evaluateResponse | .log | .readResource | .readModule
  | .listResources | .listModules => true
  | _ => false

theorem ofCode?_code (k : Kind) : ofCode? k.code = some k := by
  cases k <;> rfl

end Kind

/-- The name of a code, also of one that is no kind. -/
def codeName (code : UInt64) : String :=
  match Kind.ofCode? code with
  | some k => k.name
  | none => "Unknown"

end PklHost.Message
