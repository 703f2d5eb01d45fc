import PklHost.Cli.Options
import PklHost.Cli.Print
import PklHost.Evaluator.Options

/-!
# Invocations

What the words of a command line ask for: the evaluation of a module, or the version of the program or
of Pkl. Some options may stand on either side of the name of the command; the one behind the name wins.
-/

namespace PklHost.Cli

/-- What is shown of a module. -/
inductive Shown where
  | expression (expr : String)
  /-- The rendered output. -/
  | text
  | files
  deriving DecidableEq, Repr

/-- The evaluation of a module. -/
structure EvalRequest where
  module : String
  shown : Shown
  projectDir : Option FilePath
  properties : List String
  outputFormat : Option PklHost.OutputFormat

/-- Which version is asked for. -/
inductive VersionRequest where
  | program
  /-- With all there is to know about the program. -/
  | extended
  | pkl
  deriving DecidableEq, Repr

/-- A command. -/
inductive Command where
  | eval (r : EvalRequest)
  | version (r : VersionRequest)

/-- A command with the options that all commands have. -/
structure Invocation where
  format : Option Format
  pklCommand : Option String
  command : Command

namespace Invocation

/-! ## The levels -/

/-- The options of all commands. -/
def commonOptions : List OptionSpec :=
  [{ name := "format" }, { name := "log-format" }, { name := "log-level" }, { name := "pkl-command" },
    { name := "help", letter := some 'h', kind := .halt .help }]

/-- Whether a value is one of an option's; options that are not named here take any. -/
def accepts (name value : String) : Bool :=
  match name with
  | "format" => (Format.ofText? value).isSome
  | "log-format" => ["text", "json"].contains value
  | "log-level" => ["error", "warn", "info", "debug", "trace"].contains value
  | "project-dir" => !value.isEmpty
  | "output-format" => (PklHost.OutputFormat.ofText? value).isSome
  | _ => true

/-- The level above the commands. -/
def topLevel : Level where
  options := { name := "version", letter := some 'V', kind := .halt .version } :: commonOptions
  accepts
  levels := ["eval", "version", "help"]

def evalLevel : Level where
  options :=
    [{ name := "expr", letter := some 'x' }, { name := "text", kind := .flag },
      { name := "files", kind := .flag }, { name := "project-dir" },
      { name := "property", letter := some 'p', kind := .values }, { name := "output-format" }] ++
    commonOptions
  accepts
  positionals := 1

def versionLevel : Level where
  options := [{ name := "extended", kind := .flag }, { name := "pkl", kind := .flag }] ++ commonOptions
  accepts

/-! ## Reading -/

/-- What is shown; at most one of the three ways may be given. -/
def shownOf (g : Given) : Except Halt Shown :=
  match g.value? "expr", g.has "text", g.has "files" with
  | expr, false, false => .ok (.expression (expr.getD ""))
  | none, true, false => .ok .text
  | none, false, true => .ok .files
  | _, _, _ => .error .wrongUsage

def evalOf (g : Given) : Except Halt Command := do
  let shown ← shownOf g
  match g.positionals with
  | module :: _ =>
    return .eval {
      module
      shown
      projectDir := (g.value? "project-dir").map FilePath.ofText
      properties := g.values "property"
      outputFormat := (g.value? "output-format").bind PklHost.OutputFormat.ofText? }
  | [] => throw .wrongUsage

def versionOf (g : Given) : Except Halt Command :=
  match g.has "extended", g.has "pkl" with
  | true, true => .error .wrongUsage
  | true, false => .ok (.version .extended)
  | false, true => .ok (.version .pkl)
  | false, false => .ok (.version .program)

/-- The end of a question for help: about the program, or about one of its commands. -/
def helpOf : List String → Halt
  | [] => .help
  | [name] => if topLevel.levels.contains name then .help else .wrongUsage
  | _ :: _ :: _ => .wrongUsage

/-- An invocation from what was read above and behind the name of the command. -/
def ofGiven (top lower : Given) (command : Command) : Invocation where
  format := (lower.value? "format" <|> top.value? "format").bind Format.ofText?
  pklCommand := lower.value? "pkl-command" <|> top.value? "pkl-command"
  command

/-- The invocation that the words of a command line are. -/
def ofWords (words : List String) : Except Halt Invocation := do
  let top ← topLevel.read words {}
  match top.lower with
  | some ("eval", words) =>
    let lower ← evalLevel.read words {}
    return ofGiven top lower (← evalOf lower)
  | some ("version", words) =>
    let lower ← versionLevel.read words {}
    return ofGiven top lower (← versionOf lower)
  | some (_, words) => throw (helpOf words)
  | none => throw .wrongUsage

end Invocation

end PklHost.Cli
