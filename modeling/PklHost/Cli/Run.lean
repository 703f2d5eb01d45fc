import PklHost.Cli.Invocation
import PklHost.Host.Dialogue
import PklHost.Version

/-!
# Running the command line

A command runs in its surroundings: the environment, the standard input, and the programs that can be
started. An evaluation starts a server of its own, prints one answer and closes the server again,
whatever became of the answer. A server that is silent for ever leaves the command without an end.
-/

namespace PklHost.Cli

/-- What a command runs in. -/
structure Surroundings where
  environment : Environment
  stdin : Bytes := []
  /-- Whether standard output is shown to a person. -/
  isTerminal : Bool := false
  /-- Starts a command as a server. -/
  serve : PklHost.Command → Except IoError Server
  /-- Runs a command for its version. -/
  askVersion : PklHost.Command → Version.ProgramRun

/-- The name and version of the program. -/
def programName : String := "pklwire"

def programVersion : String := "0.1.0"

/-! ## Evaluation -/

/-- Whether a module is named by a URI. A scheme of one letter is a drive. -/
def namesUri (module : String) : Bool :=
  match Url.parse module with
  | .ok url => 1 < url.scheme.utf8ByteSize
  | .error _ => false

/-- The module that is named: by a URI, by a path, or by a hyphen for the text on standard input. -/
def moduleSource (s : Surroundings) (module : String) : Except Failure ModuleSource :=
  if module = "-" then
    match Bytes.text? s.stdin with
    | some text => .ok (.ofText text)
    | none =>
      .error (.ofIo "failed to read module from stdin" ⟨.other, "stream did not contain valid UTF-8"⟩)
  else
    let source :=
      if namesUri module then ModuleSource.ofUri module
      else ModuleSource.ofFile s.environment.workingDir (FilePath.ofText module)
    source.mapError (Failure.ofEvaluator "invalid module")

/-- The name and value of a property. -/
def propertyOf (text : String) : Except Failure (String × String) :=
  match Level.cutAtEquals text.toList with
  | (name, some value) => .ok (name, value)
  | (_, none) =>
    .error ⟨.usage, "invalid property " ++ Text.quoted text ++ ": expected NAME=VALUE"⟩

/-- The options of an evaluation: in a project they are laid over the project's, otherwise over those of
a command line. -/
def evaluatorOptions (s : Surroundings) (r : EvalRequest) : Except Failure EvaluatorOptions := do
  let base : EvaluatorOptions :=
    if r.projectDir.isSome then {} else .preconfigured s.environment
  let properties ← r.properties.mapM propertyOf
  let o := properties.foldl (fun o p => o.withProperty p.1 p.2) base
  return { o with outputFormat := r.outputFormat <|> o.outputFormat }

/-- The query that an evaluation asks. -/
def queryOf (shown : Shown) (format : Format) : Query :=
  match shown with
  | .text => .text
  | .files => .files
  | .expression expr => if format = .raw then .octets expr else .expression expr

/-- Prints an answer. -/
def printAnswer (format : Format) : Answer → Printing Unit
  | .octets b => print b
  | .value v => printValue format v
  | .text t => printText t
  | .files d => printFiles format d

/-- An evaluation that has come to its end: the host as it is left, and what was printed. -/
structure Evaluated where
  host : Host
  printing : Printing Unit

/-- Asks the evaluator of the first handle, prints the answer, and closes all. -/
def askAndClose (source : ModuleSource) (shown : Shown) (format : Format) (d : Dialogue) :
    Option Evaluated :=
  let job := d.host.jobs.length
  let d := d.ask (.ok source) (queryOf shown format)
  (d.answer? job).map fun answer =>
    let d := d.close.run Host.closeManager
    { host := d.host
      printing := do
        printAnswer format (← orFail (answer.mapError (Failure.ofEvaluator "evaluation failed"))) }

/-- Starts to make the evaluator: one for the project if there is a project. -/
def makeEvaluator (r : EvalRequest) (o : EvaluatorOptions) (host : Host) : Host :=
  match r.projectDir with
  | some dir => host.createForProject dir o
  | none => host.create o

/-- Makes an evaluator, asks it, and closes the manager. `none` if the server is silent for ever. -/
def evaluateWith (s : Surroundings) (command : PklHost.Command) (format : Format) (r : EvalRequest)
    (source : ModuleSource) (o : EvaluatorOptions) : Option Evaluated :=
  let (fault, server) := match s.serve command with
    | .ok server => (none, server)
    | .error cause => (some (TransportError.spawn command.text cause), [])
  let d := Dialogue.run (makeEvaluator r o)
    { host := .ofCommand s.environment command fault, server }
  match d.outcome? 0 with
  | none => none
  | some (.error e) =>
    let d := d.run Host.closeManager
    some { host := d.host, printing := throw (.ofEvaluator "failed to create evaluator" e) }
  | some (.ok _) => askAndClose source r.shown format d

/-- Runs an evaluation. `none` if it has no end. -/
def runEval (s : Surroundings) (command : PklHost.Command) (format : Format) (r : EvalRequest) :
    Option (Printing Unit) :=
  let prepared := do return (← moduleSource s r.module, ← evaluatorOptions s r)
  match prepared with
  | .error e => some (throw e)
  | .ok (source, o) => (evaluateWith s command format r source o).map Evaluated.printing

/-! ## Versions -/

/-- Prints a version. -/
def runVersion (s : Surroundings) (command : PklHost.Command) : VersionRequest → Printing Unit
  | .program => printLine (programName ++ " " ++ programVersion)
  | .extended => do
    printLine ("name: " ++ programName)
    printLine ("version: " ++ programVersion)
    printLine ("pkl_command: " ++ command.text)
    printLine "features: evaluator=true, serde=true, cli=true"
  | .pkl => do
    match Version.ofRun command (s.askVersion command) with
    | .ok version => printLine ("pkl " ++ version)
    | .error e => throw (.ofEvaluator "failed to probe pkl version" (.transport e))

/-! ## The program -/

/-- The command that runs Pkl: the one that was given, else the environment's, else the default. -/
def pklCommand (s : Surroundings) (given : Option String) : Except Failure PklHost.Command :=
  let line := s.environment.vars.get? "PKL_EXEC"
  match given with
  | none => .ok (.resolve none line)
  | some words =>
    match PklHost.Command.ofWords? (Text.words words) with
    | some c => .ok c
    | none => .error ⟨.usage, "--pkl-command must not be empty"⟩

/-- Runs an invocation. `none` if it has no end. -/
def runInvocation (s : Surroundings) (i : Invocation) : Option (Printing Unit) :=
  match pklCommand s i.pklCommand with
  | .error e => some (throw e)
  | .ok command =>
    match i.command with
    | .eval r => runEval s command (i.format.getD (if s.isTerminal then .table else .json)) r
    | .version r => some (runVersion s command r)

/-- How the program ends. -/
structure Ending where
  code : ExitCode
  stdout : Bytes := []
  /-- The message of a failure. -/
  message : Option String := none

/-- The ending of what a command prints. -/
def endingOf (p : Printing Unit) : Ending :=
  match p.run.run [] with
  | (.ok (), stdout) => { code := .success, stdout }
  | (.error e, stdout) => { code := e.code, stdout, message := some e.message }

/-- The ending of a command line that is not carried out. -/
def haltEnding : Halt → Ending
  | .wrongUsage => { code := .usageSyntax }
  | .help => { code := .success }
  | .version => endingOf (printLine (programName ++ " " ++ programVersion))

/-- Runs the program. `none` if it has no end. -/
def run (s : Surroundings) (words : List String) : Option Ending :=
  match Invocation.ofWords words with
  | .error why => some (haltEnding why)
  | .ok i => (runInvocation s i).map endingOf

/-- What the program writes to standard error: the message of a failure. -/
def Ending.stderr (e : Ending) : String :=
  match e.message with
  | some message => "error: " ++ message ++ "\n"
  | none => ""

end PklHost.Cli
