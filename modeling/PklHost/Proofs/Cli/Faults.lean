import PklHost.Cli.Run
import PklHost.Proofs.Host.Dialogues

/-!
# How faults of the stream end an evaluation

The command line has a code of its own for a stream of octets that are no messages.  A fault of the stream
does not come to it in its own shape, though: the loop that meets it gives up the connection for it, and the
request that waits learns that the connection is closed, with the fault in the wording of the reason
(`Evaluates.run_of_breaks`).
-/

namespace PklHost.Cli

open Message (FrameError Incoming)

/-! ## Codes -/

/-- What a fault of the stream comes to when it is reported in its own shape. -/
theorem code_ofFrame_iff {context : String} {e : FrameError} :
    (Failure.ofFrame context e).code = .invalidData ↔
      (∃ size limit, e = .tooLarge size limit) ∨ ∃ fault, e = .msgpack fault := by
  constructor
  · intro hcode
    cases e with
    | tooLarge size limit => exact .inl ⟨size, limit, rfl⟩
    | msgpack fault => exact .inr ⟨fault, rfl⟩
    | _ => cases hcode
  · rintro (⟨size, limit, rfl⟩ | ⟨fault, rfl⟩) <;> rfl

/-- The failure of a command whose connection was given up for a fault of the stream. -/
def lostTo (context : String) (e : FrameError) : Failure :=
  .inContext context .failure ("connection closed: read failed: " ++ e.message)

theorem ofEvaluator_readFailed (context : String) (e : FrameError) :
    Failure.ofEvaluator context (.connectionClosed (.readFailed e)) = lostTo context e := by
  have hmessage : (EvaluatorError.connectionClosed (.readFailed e)).message =
      "connection closed: read failed: " ++ e.message :=
    (@String.append_assoc "connection closed: " "read failed: " e.message).symm
  exact congrArg (Failure.inContext context .failure) hmessage

/-! ## Evaluations -/

/-- The dialogue of an evaluation that has done nothing yet. -/
def unbegun (s : Surroundings) (command : PklHost.Command) : Dialogue :=
  let (fault, server) := match s.serve command with
    | .ok server => (none, server)
    | .error cause => (some (TransportError.spawn command.text cause), [])
  { host := .ofCommand s.environment command fault, server }

/-- The dialogue of an evaluation that starts to make its evaluator. -/
def making (s : Surroundings) (command : PklHost.Command) (r : EvalRequest) (o : EvaluatorOptions) :
    Dialogue :=
  let d := unbegun s command
  { d with host := makeEvaluator r o d.host }

/-- The dialogue of an evaluation that has made its evaluator, or has failed to. -/
def made (s : Surroundings) (command : PklHost.Command) (r : EvalRequest) (o : EvaluatorOptions) :
    Dialogue :=
  (making s command r o).finish

/-- The dialogue of an evaluation that starts to ask its evaluator. -/
def asking (s : Surroundings) (command : PklHost.Command) (format : Format) (r : EvalRequest)
    (source : ModuleSource) (o : EvaluatorOptions) : Dialogue :=
  let d := made s command r o
  { d with host := (d.host.evaluate? 0 (.ok source) (queryOf r.shown format)).getD d.host }

/-- The dialogue of an evaluation that has asked its evaluator. -/
def asked (s : Surroundings) (command : PklHost.Command) (format : Format) (r : EvalRequest)
    (source : ModuleSource) (o : EvaluatorOptions) : Dialogue :=
  (asking s command format r source o).finish

section

variable {s : Surroundings} {command : PklHost.Command} {format : Format} {r : EvalRequest}
  {source : ModuleSource} {o : EvaluatorOptions} {fault : EvaluatorError}

/-- The command goes on with the outcome of the job that makes its evaluator, once there is one. -/
theorem evaluateWith_made (s : Surroundings) (command : PklHost.Command) (format : Format)
    (r : EvalRequest) (source : ModuleSource) (o : EvaluatorOptions) :
    (∀ e, (made s command r o).outcome? 0 = some (.error e) →
      evaluateWith s command format r source o = some
        { host := ((made s command r o).run Host.closeManager).host
          printing := throw (.ofEvaluator "failed to create evaluator" e) }) ∧
    (∀ result, (made s command r o).outcome? 0 = some (.ok result) →
      evaluateWith s command format r source o =
        askAndClose source r.shown format (made s command r o)) ∧
    ((made s command r o).outcome? 0 = none → evaluateWith s command format r source o = none) := by
  have hmade : Dialogue.run (makeEvaluator r o) (unbegun s command) = made s command r o := rfl
  unfold unbegun at hmade
  unfold evaluateWith
  cases hserve : s.serve command with
  | ok server | error cause =>
      rw [hserve] at hmade
      dsimp only at hmade ⊢
      rw [hmade]
      refine ⟨fun e he => ?_, fun result hresult => ?_, fun hnone => ?_⟩
      · rw [he]
      · rw [hresult]
      · rw [hnone]

/-- A command whose evaluator cannot be asked ends with the fault of the answer. -/
theorem evaluateWith_of_unanswered {s' : Nat}
    (hmade : (made s command r o).outcome? 0 = some (.ok (.evaluator s')))
    (hfault : (asked s command format r source o).answer? (made s command r o).host.jobs.length =
      some (.error fault)) :
    (evaluateWith s command format r source o).map Evaluated.printing =
      some (throw (.ofEvaluator "evaluation failed" fault)) := by
  have hask : askAndClose source r.shown format (made s command r o) =
      ((asked s command format r source o).answer? (made s command r o).host.jobs.length).map
        fun answer =>
          let d := (asked s command format r source o).close.run Host.closeManager
          { host := d.host
            printing := do
              printAnswer format
                (← orFail (answer.mapError (Failure.ofEvaluator "evaluation failed"))) } := rfl
  rw [(evaluateWith_made s command format r source o).2.1 _ hmade, hask, hfault]
  rfl

/-! ## The program -/

/-- The words of a command line ask for an evaluation that can begin. -/
structure Evaluates (s : Surroundings) (words : List String) (command : PklHost.Command)
    (format : Format) (r : EvalRequest) (source : ModuleSource) (o : EvaluatorOptions) : Prop where
  words : ∃ i, Invocation.ofWords words = .ok i ∧ i.command = .eval r ∧
    pklCommand s i.pklCommand = .ok command ∧
    i.format.getD (if s.isTerminal then .table else .json) = format
  source : moduleSource s r.module = .ok source
  options : evaluatorOptions s r = .ok o

theorem Evaluates.run_eq {words : List String} (h : Evaluates s words command format r source o) :
    run s words =
      ((evaluateWith s command format r source o).map Evaluated.printing).map endingOf := by
  obtain ⟨⟨i, hwords, heval, hcommand, hformat⟩, hsource, hoptions⟩ := h
  unfold run
  rw [hwords]
  dsimp only
  unfold runInvocation
  rw [hcommand, heval]
  dsimp only
  rw [hformat]
  unfold runEval
  rw [hsource, hoptions]
  rfl

/-- The ending of a failure before which nothing was printed. -/
def failing (f : Failure) : Ending := { code := f.code, message := some f.message }

theorem Evaluates.run_of_unmade {words : List String} (h : Evaluates s words command format r source o)
    (hfault : (made s command r o).outcome? 0 = some (.error fault)) :
    run s words = some (failing (.ofEvaluator "failed to create evaluator" fault)) := by
  rw [h.run_eq, (evaluateWith_made s command format r source o).1 _ hfault]
  rfl

theorem Evaluates.run_of_unanswered {words : List String}
    (h : Evaluates s words command format r source o) {s' : Nat}
    (hmade : (made s command r o).outcome? 0 = some (.ok (.evaluator s')))
    (hfault : (asked s command format r source o).answer? (made s command r o).host.jobs.length =
      some (.error fault)) :
    run s words = some (failing (.ofEvaluator "evaluation failed" fault)) := by
  rw [h.run_eq, evaluateWith_of_unanswered hmade hfault]
  rfl

/-! ## A stream that breaks -/

/-- The dialogue of an evaluation at some point on its way, and what cannot be done if it breaks there. -/
inductive Stands (s : Surroundings) (command : PklHost.Command) (format : Format) (r : EvalRequest)
    (source : ModuleSource) (o : EvaluatorOptions) : String → Dialogue → Prop
  | making (count : Nat) :
      Stands s command format r source o "failed to create evaluator"
        ((making s command r o).after count)
  | asking {s' : Nat} (hmade : (made s command r o).outcome? 0 = some (.ok (.evaluator s')))
      (count : Nat) :
      Stands s command format r source o "evaluation failed"
        ((asking s command format r source o).after count)

/-- An evaluation starts with one job. -/
theorem follows_making (s : Surroundings) (command : PklHost.Command) (r : EvalRequest)
    (o : EvaluatorOptions) : ∃ job, Dialogue.Follows 0 job (making s command r o).host := by
  obtain ⟨fault, hunbegun⟩ :
      ∃ fault, (unbegun s command).host = .ofCommand s.environment command fault := by
    unfold unbegun
    cases s.serve command with
    | ok server => exact ⟨none, rfl⟩
    | error cause => exact ⟨some _, rfl⟩
  have hstart : (makeEvaluator r o (unbegun s command).host).Tidy ∧
      ∃ job, (makeEvaluator r o (unbegun s command).host).Solo 0 job := by
    rw [hunbegun]
    unfold makeEvaluator
    split
    · exact Host.solo_createForProject _ _ _ _ _
    · exact Host.solo_create _ _ _ _
  obtain ⟨htidy, job, hsolo⟩ := hstart
  exact ⟨job, Dialogue.follows_of_solo htidy hsolo⟩

/-- An evaluation whose stream breaks while a request waits ends with the code of a lost connection. -/
theorem Evaluates.run_of_breaks {words : List String}
    (h : Evaluates s words command format r source o) {context : String} {d : Dialogue}
    (hstands : Stands s command format r source o context d) {e : FrameError}
    (hbreaks : d.host.hub.Breaks e) {who : Hub.Caller} (hwaits : d.host.hub.Waits who) :
    run s words = some (failing (lostTo context e)) := by
  obtain ⟨job, hstart⟩ := follows_making s command r o
  cases hstands with
  | making count =>
      rw [← ofEvaluator_readFailed]
      exact h.run_of_unmade (hstart.outcome?_of_breaks hbreaks hwaits)
  | @asking s' hmade count =>
      obtain ⟨htidy, mid, hsolo, -⟩ := Dialogue.goOn_follows (making s command r o).heard
        (making s command r o).server hstart
      replace htidy : (made s command r o).host.Tidy := htidy
      replace hsolo : (made s command r o).host.Solo 0 mid := hsolo
      -- the job that made the evaluator is over
      obtain rfl := hsolo.eq_finished hmade
      cases hasks : (made s command r o).host.evaluate? 0 (.ok source) (queryOf r.shown format) with
      | none =>
          -- then nothing is asked, and nobody waits
          have hsame : (asking s command format r source o).host = (made s command r o).host := by
            unfold asking
            dsimp only
            rw [hasks]
            rfl
          have hidle : Dialogue.Follows 0 (.finished (.ok (.evaluator s')))
              (asking s command format r source o).host := by
            rw [hsame]
            exact Dialogue.follows_of_solo htidy hsolo
          obtain ⟨⟨-, last, hlast, hkept⟩, -⟩ := hidle.after count
          have hawaits := hlast.awaits_of_waits hwaits
          rw [hkept rfl] at hawaits
          cases hawaits
      | some host' =>
          obtain ⟨htidy', job', hsolo'⟩ := hsolo.evaluate? htidy rfl hasks
          have hsame : (asking s command format r source o).host = host' := by
            unfold asking
            dsimp only
            rw [hasks]
            rfl
          have hasked : Dialogue.Follows (made s command r o).host.jobs.length job'
              (asking s command format r source o).host := by
            rw [hsame]
            exact Dialogue.follows_of_solo htidy' hsolo'
          have hfault := hasked.outcome?_of_breaks hbreaks hwaits
          rw [← ofEvaluator_readFailed]
          refine h.run_of_unanswered hmade ?_
          unfold Dialogue.answer?
          rw [show (asked s command format r source o).outcome? _ = _ from hfault]

end

/-! ## A server that writes no messages -/

/-- A server that creates the evaluator and answers the evaluation with an octet that begins no item. -/
def reservedOctet : Surroundings where
  environment := ⟨.ofPairs [], FilePath.ofText "/"⟩
  stdin := Bytes.ofText "x = 1"
  serve _ := .ok [
    fun m => match m with
      | .createEvaluator m =>
        [.writes (Incoming.encode (.createEvaluatorResponse ⟨m.requestId, some 1, none⟩))]
      | _ => [],
    fun _ => [.writes [0xc1]]]
  askVersion _ := .finished 0 [] []

/-- The session of the evaluator that a job has made. -/
def entered? : Except EvaluatorError JobResult → Option Nat
  | .ok (.evaluator s) => some s
  | .ok (.answer _) | .ok (.project _) | .error _ => none

theorem eq_of_entered? {outcome : Except EvaluatorError JobResult} {s : Nat}
    (hentered : entered? outcome = some s) : outcome = .ok (.evaluator s) := by
  unfold entered? at hentered
  split at hentered
  · rw [Option.some.inj hentered]
  · cases hentered
  · cases hentered
  · cases hentered

/-- The class of a fault of the stream is lost on its way to the end of an evaluation: octets that are no
MessagePack, or that announce a message that is too large, end it as a lost connection does, although they
are invalid data when they are reported in their own shape. -/
theorem Evaluates.lost_of_breaks {s : Surroundings} {words : List String} {command : PklHost.Command}
    {format : Format} {r : EvalRequest} {source : ModuleSource} {o : EvaluatorOptions}
    (h : Evaluates s words command format r source o) {context : String} {d : Dialogue}
    (hstands : Stands s command format r source o context d) {e : FrameError}
    (hbreaks : d.host.hub.Breaks e) {who : Hub.Caller} (hwaits : d.host.hub.Waits who) :
    (∃ ending, run s words = some ending ∧ ending.code = .failure ∧ ending.message =
      some (context ++ ": connection closed: read failed: " ++ e.message)) ∧
    ((Failure.ofFrame context e).code = .invalidData ↔
      (∃ size limit, e = .tooLarge size limit) ∨ ∃ fault, e = .msgpack fault) := by
  refine ⟨⟨_, h.run_of_breaks hstands hbreaks hwaits, rfl, ?_⟩, code_ofFrame_iff⟩
  have hmessage : (lostTo context e).message =
      context ++ ": connection closed: read failed: " ++ e.message := by
    show context ++ ": " ++ ("connection closed: read failed: " ++ e.message) = _
    rw [← String.append_assoc, @String.append_assoc context]
    rfl
  exact congrArg some hmessage

/-- The evaluation waits for its answer when the stream of that server breaks. -/
theorem reservedOctet_lost : ∃ e : FrameError, e.message = "invalid msgpack: reserved marker 0xc1" ∧
    (∃ ending, run reservedOctet ["eval", "-"] = some ending ∧ ending.code = .failure ∧
      ending.message = some ("evaluation failed" ++ ": connection closed: read failed: " ++ e.message)) ∧
    ((Failure.ofFrame "evaluation failed" e).code = .invalidData ↔
      (∃ size limit, e = .tooLarge size limit) ∨ ∃ fault, e = .msgpack fault) := by
  let r : EvalRequest := ⟨"-", .expression "", none, [], none⟩
  let o : EvaluatorOptions := .preconfigured reservedOctet.environment
  have hevaluates : Evaluates reservedOctet ["eval", "-"] ⟨"pkl", []⟩ .json r (.ofText "x = 1") o :=
    ⟨⟨_, rfl, rfl, rfl, rfl⟩, rfl, rfl⟩
  have hentered : ((made reservedOctet ⟨"pkl", []⟩ r o).outcome? 0).bind entered? = some 0 := by
    decide +kernel
  have hfault : ((asking reservedOctet ⟨"pkl", []⟩ .json r (.ofText "x = 1") o).after 7).host.hub.fault?.map
      FrameError.message = some "invalid msgpack: reserved marker 0xc1" := by
    decide +kernel
  have hwaits : ((asking reservedOctet ⟨"pkl", []⟩ .json r (.ofText "x = 1") o).after 7).host.hub.Waits
      (.evaluate 0) := by
    decide +kernel
  obtain ⟨outcome, hmade, hs⟩ := Option.bind_eq_some_iff.1 hentered
  rw [eq_of_entered? hs] at hmade
  obtain ⟨e, hbreaks, hmessage⟩ := Option.map_eq_some_iff.1 hfault
  exact ⟨e, hmessage,
    hevaluates.lost_of_breaks (.asking hmade 7) (Hub.breaks_iff.2 hbreaks) hwaits⟩

/-- The evaluation fails with the code of a lost connection, although it is for an octet that is no
MessagePack, which is invalid data. -/
theorem reservedOctet_isFailure :
    (run reservedOctet ["eval", "-"]).map (fun e => (e.code, e.message)) =
        some (.failure, some ("evaluation failed: connection closed: read failed: " ++
          "invalid msgpack: reserved marker 0xc1")) ∧
      (Failure.ofFrame "evaluation failed" (.msgpack .reservedMarker)).code = .invalidData := by
  decide +kernel

end PklHost.Cli
