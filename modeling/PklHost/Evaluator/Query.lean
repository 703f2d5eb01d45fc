import PklHost.Evaluator.Error
import PklHost.Value.Decode

/-!
# Queries

What can be asked of a module, the expression that asks it, and what the octets of a result mean as an
answer. A result of another kind than was asked for is a fault, and there is no partial answer.
-/

namespace PklHost

/-- What is asked of a module. -/
inductive Query where
  /-- An expression's result as octets. -/
  | octets (expr : String)
  | expression (expr : String)
  /-- The module itself. -/
  | module
  /-- The rendered output. -/
  | text
  /-- The output before it is rendered. -/
  | value
  /-- The rendered output files by name. -/
  | files
  deriving DecidableEq, Repr

/-- The answer to a query. -/
inductive Answer where
  | octets (b : Bytes)
  | value (v : Value)
  | text (s : String)
  | files (d : Dict String)

namespace Query

/-- The expression that asks for the output files. -/
def filesExpr : String := "output.files.toMap().mapValues((_, it) -> it.text)"

/-- The expression of a query; the empty one stands for the module itself. -/
def expr : Query → String
  | .octets e | .expression e => e
  | .module => ""
  | .text => "output.text"
  | .value => "output.value"
  | .files => filesExpr

/-- The value of a result. -/
def valueOf (result : Bytes) : Except EvaluatorError Value :=
  match Value.decode result with
  | .ok v => .ok v
  | .error e => .error (.decode e)

/-- The text of a value. -/
def textOf : Value → Except EvaluatorError String
  | .string s => .ok s
  | v => .error (.unexpectedResult "string" v.kind)

/-- The name and text of a file. -/
def fileOf : Value × Value → Except EvaluatorError (String × String)
  | (.string name, .string contents) => .ok (name, contents)
  | (name, contents) =>
    .error (.unexpectedResult "string to string entries" (name.kind ++ " to " ++ contents.kind))

/-- The files of a value. -/
def filesOf : Value → Except EvaluatorError (Dict String)
  | .map entries => return Dict.ofPairs (← entries.mapM fileOf)
  | v => .error (.unexpectedResult "map" v.kind)

/-- The answer that a result gives to a query. -/
def answer (q : Query) (result : Bytes) : Except EvaluatorError Answer :=
  match q with
  | .octets _ => .ok (.octets result)
  | .expression _ | .module | .value => return .value (← valueOf result)
  | .text => return .text (← textOf (← valueOf result))
  | .files => return .files (← filesOf (← valueOf result))

end Query

end PklHost
