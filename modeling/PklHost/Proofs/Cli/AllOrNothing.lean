import PklHost.Proofs.Cli.Faults
import PklHost.Proofs.Cli.Renderings
import PklHost.Proofs.Host.Happenings
import PklHost.Proofs.Hub.Manager
import PklHost.Proofs.Hub.Results

/-!
# An evaluation prints all or nothing

`CanEnd` says how an invocation that evaluates can end, whatever the server writes, and whoever goes on when.
The program ends in one of these ways (`canEnd_of_run`).  In all of them it prints nothing unless it
succeeds, prints the whole of one result if it does, and leaves no manager open (`eval_all_or_nothing`).
-/

namespace PklHost

open Hub (Action)

/-! ## Managers that are closed -/

theorem Hub.managerClosed_of_closing {h : Hub} {i : Nat} (he : h.errands[i]? = some .closeManager) :
    (h.step (.advance (.errand i))).managerClosed = true := by
  show (h.advance (.errand i)).managerClosed = true
  rw [Hub.advance_errand he]
  show h.flagManager.2.managerClosed = true
  unfold Hub.flagManager
  split
  · assumption
  · rfl

namespace Host

/-- Whoever closes the manager has closed it before anything else goes on. -/
theorem managerClosed_closeManager (host : Host) : host.closeManager.hub.managerClosed = true := by
  have he : (host.hub.step .closeManager).errands[host.hub.errands.length]? = some .closeManager :=
    List.getElem?_concat_length
  exact Hub.managerClosed_keeps (Hub.managerClosed_of_closing he)
    (.advance (.errand host.hub.errands.length))

theorem Becomes.managerClosed {n : Nat} {host host' : Host} (h : Becomes n host host')
    (hclosed : host.hub.managerClosed = true) : host'.hub.managerClosed = true := by
  obtain ⟨actions, hhub⟩ := h.runsTo
  rw [hhub]
  exact Hub.managerClosed_run hclosed actions

/-! ## Jobs that ask -/

/-- How far a job is that asks by a call. -/
inductive Asking (query : Query) (i : Nat) (h : Hub) : Job → Prop
  | waits (s : Nat) : Asking query i h (.evaluating s query i)
  | ended {result : Except EvaluatorError Bytes}
      (hover : h.evaluateStages[i]? = some (Hub.EvaluateStage.finished result)) :
      Asking query i h (.finished ((result.bind query.answer).map .answer))

section

variable {query : Query} {i : Nat} {job after : Job} {h : Hub}

theorem Asking.act (hasking : Asking query i h job) (a : Action) : Asking query i (h.step a) job := by
  cases hasking with
  | waits s => exact .waits s
  | ended hover => exact .ended (Hub.finished_step hover a)

theorem Asking.resume {actions : List Action} (hasking : Asking query i h job)
    (hresume : job.resume? h = some (after, actions)) : Asking query i (h.run actions) after := by
  cases hasking with
  | waits s =>
      obtain ⟨result, hover, heq⟩ := Option.map_eq_some_iff.1 hresume
      obtain ⟨rfl, rfl⟩ := Prod.mk.inj heq
      exact .ended (rests_evaluate hover)
  | ended => cases hresume

end

variable {host asking asked : Host} {source : ModuleSource} {query : Query}

/-- What a host does that begins to ask. -/
theorem asking_eq (hasks : host.evaluate? 0 (.ok source) query = some asking) :
    ∃ s, asking.jobs[host.jobs.length]? = some (.evaluating s query host.hub.evaluates.length) ∧
      asking.hub = host.hub.beginEvaluate s source query.expr := by
  obtain ⟨s, -, rfl⟩ := Option.map_eq_some_iff.1 hasks
  exact ⟨s, List.getElem?_concat_length, rfl⟩

/-- An answer comes from octets that the call which asked for it has returned. -/
theorem result_of_answer (hasks : host.evaluate? 0 (.ok source) query = some asking)
    (hbecomes : Becomes host.jobs.length asking asked) {a : Answer}
    (hanswer : asked.outcome? host.jobs.length = some (.ok (.answer a))) :
    ∃ s, ∃ i : Nat, ∃ result, asked.hub.questions[i]? = some (s, source, query.expr) ∧
      asked.hub.evaluateStages[i]? = some (Hub.EvaluateStage.finished (.ok result)) ∧
      query.answer result = .ok a := by
  obtain ⟨s, hjob, hhub⟩ := asking_eq hasks
  obtain ⟨after, hafter, hasking⟩ := hbecomes.keeps
    (P := fun job h => Asking query host.hub.evaluates.length h job)
    (fun a h => h.act a) (fun h hresume => h.resume hresume) hjob (.waits s)
  have hquestion : asked.hub.questions[host.hub.evaluates.length]? = some (s, source, query.expr) := by
    have hasked : asking.hub.questions[host.hub.evaluates.length]? = some (s, source, query.expr) := by
      rw [Hub.questions_getElem?, hhub]
      exact ⟨_, List.getElem?_concat_length, rfl⟩
    obtain ⟨actions, hrun⟩ := hbecomes.runsTo
    rw [hrun]
    exact Hub.run_keeps (P := fun h => h.questions[host.hub.evaluates.length]? = some (s, source, query.expr))
      (fun h a => Hub.question_step h a) hasked actions
  unfold outcome? at hanswer
  rw [hafter] at hanswer
  cases hasking with
  | waits => cases hanswer
  | @ended outcome hover =>
      cases outcome with
      | error fault => cases hanswer
      | ok result =>
          cases hvalue : query.answer result with
          | error fault =>
              simp [Except.bind, Except.map, hvalue] at hanswer
          | ok a' =>
              simp only [Except.bind, Except.map, hvalue, Option.some.injEq, Except.ok.injEq,
                JobResult.answer.injEq] at hanswer
              subst hanswer
              exact ⟨s, _, result, hquestion, hover, hvalue⟩

end Host

namespace Cli

/-! ## How an evaluation can end -/

/-- How an evaluation can come to its end, whatever the server does and whoever goes on when: the host that
it leaves, and what it prints. -/
inductive Comes (environment : Environment) (command : PklHost.Command) (format : Format)
    (r : EvalRequest) (source : ModuleSource) (o : EvaluatorOptions) : Host → Printing Unit → Prop
  | unmade {startFault : Option TransportError} {made left : Host} {fault : EvaluatorError}
      (hmakes : Host.Becomes 0 (makeEvaluator r o (.ofCommand environment command startFault)) made)
      (hfault : made.outcome? 0 = some (.error fault))
      (hleaves : Host.Becomes 0 made.closeManager left) :
      Comes environment command format r source o left
        (throw (.ofEvaluator "failed to create evaluator" fault))
  | asked {startFault : Option TransportError} {made asking asked closed left : Host}
      {result : JobResult} {answer : Except EvaluatorError Answer}
      (hmakes : Host.Becomes 0 (makeEvaluator r o (.ofCommand environment command startFault)) made)
      (hmade : made.outcome? 0 = some (.ok result))
      (hasks : made.evaluate? 0 (.ok source) (queryOf r.shown format) = some asking)
      (hwaits : Host.Becomes made.jobs.length asking asked)
      (hanswer : asked.outcome? made.jobs.length = some (answer.map .answer))
      (hcloses : Host.Becomes made.jobs.length ((asked.close? 0).getD asked) closed)
      (hleaves : Host.Becomes made.jobs.length closed.closeManager left) :
      Comes environment command format r source o left (do
        printAnswer format (← orFail (answer.mapError (Failure.ofEvaluator "evaluation failed"))))

/-- The format that an invocation prints in. -/
def Invocation.formatIn (s : Surroundings) (i : Invocation) : Format :=
  i.format.getD (if s.isTerminal then .table else .json)

/-- How an invocation that evaluates can end, with the host that it leaves if it has asked for an evaluator. -/
inductive CanEnd (s : Surroundings) (i : Invocation) (r : EvalRequest) : Option Host → Ending → Prop
  | noCommand {e : Failure} (hcommand : pklCommand s i.pklCommand = .error e) :
      CanEnd s i r none (failing e)
  | noModule {e : Failure} (hsource : moduleSource s r.module = .error e) :
      CanEnd s i r none (failing e)
  | noOptions {e : Failure} (hoptions : evaluatorOptions s r = .error e) :
      CanEnd s i r none (failing e)
  | comes {command : PklHost.Command} {source : ModuleSource} {o : EvaluatorOptions} {left : Host}
      {printing : Printing Unit} (hcommand : pklCommand s i.pklCommand = .ok command)
      (hsource : moduleSource s r.module = .ok source) (hoptions : evaluatorOptions s r = .ok o)
      (hcomes : Comes s.environment command (i.formatIn s) r source o left printing) :
      CanEnd s i r (some left) (endingOf printing)

/-! ## The program ends so -/

section

variable {s : Surroundings} {command : PklHost.Command} {format : Format} {r : EvalRequest}
  {source : ModuleSource} {o : EvaluatorOptions}

theorem host_unbegun (s : Surroundings) (command : PklHost.Command) :
    ∃ fault, (unbegun s command).host = .ofCommand s.environment command fault := by
  unfold unbegun
  cases s.serve command with
  | ok server => exact ⟨none, rfl⟩
  | error cause => exact ⟨some _, rfl⟩

theorem becomes_made (s : Surroundings) (command : PklHost.Command) (r : EvalRequest)
    (o : EvaluatorOptions) : ∃ fault, Host.Becomes 0
      (makeEvaluator r o (.ofCommand s.environment command fault)) (made s command r o).host := by
  obtain ⟨fault, hunbegun⟩ := host_unbegun s command
  refine ⟨fault, ?_⟩
  rw [← hunbegun]
  exact Host.becomes_run 0 (makeEvaluator r o) (unbegun s command)

theorem outcome?_of_answer? {d : Dialogue} {n : Nat} {answer : Except EvaluatorError Answer}
    (h : d.answer? n = some answer) : d.host.outcome? n = some (answer.map .answer) := by
  unfold Dialogue.answer? at h
  split at h
  · next a houtcome =>
      cases h
      exact houtcome
  · next e houtcome =>
      cases h
      exact houtcome
  · cases h
  · cases h
  · cases h

/-- A host that has been asked nothing has no answer. -/
theorem answer?_of_no_evaluator {d : Dialogue} {query : Query}
    (hnone : d.host.evaluate? 0 (.ok source) query = none) :
    (d.ask (.ok source) query).answer? d.host.jobs.length = none := by
  have hlength : (d.ask (.ok source) query).host.jobs.length = d.host.jobs.length := by
    refine (Host.length_jobs_goOn _ _ _).trans ?_
    show ((d.host.evaluate? 0 (.ok source) query).getD d.host).jobs.length = _
    rw [hnone]
    rfl
  cases hanswer : (d.ask (.ok source) query).answer? d.host.jobs.length with
  | none => rfl
  | some answer =>
      have houtcome := outcome?_of_answer? hanswer
      unfold Host.outcome? at houtcome
      rw [List.getElem?_eq_none (Nat.le_of_eq hlength)] at houtcome
      cases houtcome

theorem comes_of_evaluateWith {left : Evaluated}
    (h : evaluateWith s command format r source o = some left) :
    Comes s.environment command format r source o left.host left.printing := by
  obtain ⟨startFault, hmakes⟩ := becomes_made s command r o
  obtain ⟨hunmade, hmade, hnever⟩ := evaluateWith_made s command format r source o
  cases houtcome : (made s command r o).outcome? 0 with
  | none =>
      rw [hnever houtcome] at h
      cases h
  | some outcome =>
      cases outcome with
      | error fault =>
          obtain rfl := Option.some.inj ((hunmade fault houtcome).symm.trans h)
          exact .unmade hmakes houtcome (Host.becomes_run 0 Host.closeManager _)
      | ok result =>
          rw [hmade result houtcome] at h
          obtain ⟨answer, hanswer, rfl⟩ := Option.map_eq_some_iff.1 h
          cases hasks : (made s command r o).host.evaluate? 0 (.ok source) (queryOf r.shown format) with
          | none =>
              rw [answer?_of_no_evaluator hasks] at hanswer
              cases hanswer
          | some asking =>
              have hwaits : Host.Becomes (made s command r o).host.jobs.length
                  (((made s command r o).host.evaluate? 0 (.ok source) (queryOf r.shown format)).getD
                    (made s command r o).host)
                  ((made s command r o).ask (.ok source) (queryOf r.shown format)).host :=
                Host.becomes_run _
                  (fun host => (host.evaluate? 0 (.ok source) (queryOf r.shown format)).getD host) _
              rw [hasks] at hwaits
              exact .asked hmakes houtcome hasks hwaits (outcome?_of_answer? hanswer)
                (Host.becomes_run _ (fun host => (host.close? 0).getD host) _)
                (Host.becomes_run _ Host.closeManager _)

/-- The program ends in one of the ways in which an invocation can end. -/
theorem canEnd_of_run {words : List String} {i : Invocation} {ending : Ending}
    (hwords : Invocation.ofWords words = .ok i) (heval : i.command = .eval r)
    (hrun : run s words = some ending) :
    ∃ left, CanEnd s i r left ending := by
  unfold run at hrun
  rw [hwords] at hrun
  obtain ⟨printing, hprinting, rfl⟩ := Option.map_eq_some_iff.1 hrun
  unfold runInvocation at hprinting
  cases hcommand : pklCommand s i.pklCommand with
  | error e =>
      rw [hcommand] at hprinting
      cases hprinting
      exact ⟨none, .noCommand hcommand⟩
  | ok command =>
      rw [hcommand, heval] at hprinting
      dsimp only at hprinting
      unfold runEval at hprinting
      cases hsource : moduleSource s r.module with
      | error e =>
          rw [hsource] at hprinting
          cases hprinting
          exact ⟨none, .noModule hsource⟩
      | ok source =>
          cases hoptions : evaluatorOptions s r with
          | error e =>
              rw [hsource, hoptions] at hprinting
              cases hprinting
              exact ⟨none, .noOptions hoptions⟩
          | ok o =>
              rw [hsource, hoptions] at hprinting
              obtain ⟨left, hleft, rfl⟩ := Option.map_eq_some_iff.1 hprinting
              exact ⟨some left.host, .comes hcommand hsource hoptions (comes_of_evaluateWith hleft)⟩

/-! ## All or nothing -/

theorem code_of_pklCommand {given : Option String} {e : Failure} (h : pklCommand s given = .error e) :
    e.code ≠ .success := by
  unfold pklCommand at h
  split at h
  · cases h
  · split at h
    · cases h
    · cases h
      exact ExitCode.noConfusion

theorem code_of_moduleSource {module : String} {e : Failure} (h : moduleSource s module = .error e) :
    e.code ≠ .success := by
  unfold moduleSource at h
  split at h
  · split at h
    · cases h
    · cases h
      exact ExitCode.noConfusion
  · dsimp only at h
    generalize (if namesUri module then ModuleSource.ofUri module
      else ModuleSource.ofFile s.environment.workingDir (FilePath.ofText module)) = source at h
    cases source with
    | ok source => cases h
    | error fault =>
        cases h
        exact code_ofEvaluator_ne_success _ _

theorem code_of_evaluatorOptions {e : Failure} (h : evaluatorOptions s r = .error e) :
    e.code ≠ .success := by
  unfold evaluatorOptions at h
  cases hproperties : r.properties.mapM propertyOf with
  | ok properties =>
      rw [hproperties] at h
      cases h
  | error e' =>
      rw [hproperties] at h
      cases h
      obtain ⟨text, -, htext⟩ := exists_of_mapM_eq_error hproperties
      unfold propertyOf at htext
      split at htext
      · cases htext
      · cases htext
        exact ExitCode.noConfusion

/-- The server has answered an evaluation with a result: a call asked for the expression in the module, and
the loop brought it a message with these octets for a result and with no error. -/
def Served (environment : Environment) (source : ModuleSource) (expr : String) (host : Host)
    (result : Bytes) : Prop :=
  ∃ actions s, ∃ i : Nat, host.hub = Hub.run { workingDir := environment.workingDir } actions ∧
    host.hub.questions[i]? = some (s, source, expr) ∧
    Hub.Brings { workingDir := environment.workingDir } actions i result

theorem runsTo_makeEvaluator (r : EvalRequest) (o : EvaluatorOptions) (host : Host) :
    host.RunsTo (makeEvaluator r o host) := by
  unfold makeEvaluator
  split
  · exact (Host.becomes_createForProject 0 _ o host).runsTo
  · exact (Host.becomes_create 0 o host).runsTo

theorem runsTo_close (host : Host) : host.RunsTo ((host.close? 0).getD host) := by
  cases hcloses : host.close? 0 with
  | none => exact ⟨[], rfl⟩
  | some closing => exact (Host.becomes_close? 0 hcloses).runsTo

theorem runsTo_closeManager (host : Host) : host.RunsTo host.closeManager :=
  ⟨_, Host.hub_acts _ host⟩

/-- A call that has returned octets has been served with them, and is so whatever happens later. -/
theorem served_of_finished {environment : Environment} {fault : Option TransportError}
    {asked left : Host} {expr : String} {result : Bytes} {session i : Nat}
    (hasked : (Host.ofCommand environment command fault).RunsTo asked) (hleft : asked.RunsTo left)
    (hquestion : asked.hub.questions[i]? = some (session, source, expr))
    (hover : asked.hub.evaluateStages[i]? = some (Hub.EvaluateStage.finished (.ok result))) :
    Served environment source expr left result := by
  obtain ⟨actions, hhub⟩ := hasked
  obtain ⟨more, hmore⟩ := hleft
  rw [hhub] at hover
  refine ⟨actions ++ more, session, i, ?_, ?_, ((Hub.fresh_init _).brings hover).append more⟩
  · rw [hmore, hhub, Hub.run_append]
    rfl
  · rw [hmore]
    exact Hub.run_keeps (P := fun h => h.questions[i]? = some (session, source, expr))
      (fun h a => Hub.question_step h a) hquestion more

theorem Comes.managerClosed {environment : Environment} {left : Host} {printing : Printing Unit}
    (h : Comes environment command format r source o left printing) :
    left.hub.managerClosed = true := by
  cases h with
  | unmade _ _ hleaves | asked _ _ _ _ _ _ hleaves =>
      exact hleaves.managerClosed (Host.managerClosed_closeManager _)

/-- An evaluation fails and prints nothing, or prints what is to be printed of a result that the server has
answered it with. -/
theorem Comes.prints_or_fails {environment : Environment} {left : Host} {printing : Printing Unit}
    (h : Comes environment command format r source o left printing) :
    (∃ e, e.code ≠ .success ∧ Fails printing e) ∨
    ∃ result printed, Served environment source (queryOf r.shown format).expr left result ∧
      Renders format result r.shown printed ∧ Prints printing printed := by
  cases h with
  | unmade _ _ _ => exact .inl ⟨_, code_ofEvaluator_ne_success _ _, fails_throw _⟩
  | @asked startFault made asking asked closed left _ answer hmakes _ hasks hwaits hanswer hcloses hleaves =>
      cases answer with
      | error fault => exact .inl ⟨_, code_ofEvaluator_ne_success _ _, fails_throw _⟩
      | ok a =>
          obtain ⟨session, i, result, hquestion, hover, hvalue⟩ := Host.result_of_answer hasks hwaits hanswer
          have hasked := ((runsTo_makeEvaluator r o _).trans hmakes.runsTo).trans
            ((Host.becomes_evaluate? 0 hasks).runsTo.trans hwaits.runsTo)
          have hleft := (runsTo_close asked).trans
            (hcloses.runsTo.trans ((runsTo_closeManager closed).trans hleaves.runsTo))
          rcases printAnswer_prints_or_fails hvalue with ⟨printed, hrenders, hprints⟩ | hfails
          · exact .inr ⟨result, printed, served_of_finished hasked hleft hquestion hover, hrenders, hprints⟩
          · exact .inl hfails

end

/-- An evaluation whose command line can be read prints all or nothing, in every run of the program and in
whatever way it can end: nothing unless it succeeds, and if it succeeds, the whole of one result, rendered as
it was asked for, which the server has answered it with.  Whoever has asked for an evaluator has closed the
manager at the end. -/
theorem eval_all_or_nothing {s : Surroundings} {words : List String} {i : Invocation} {r : EvalRequest}
    (hwords : Invocation.ofWords words = .ok i) (heval : i.command = .eval r) :
    (∀ ending, run s words = some ending → ∃ left, CanEnd s i r left ending) ∧
    ∀ left ending, CanEnd s i r left ending →
      (ending.code ≠ .success → ending.stdout = []) ∧
      (ending.code = .success → ∃ host source result, left = some host ∧
        moduleSource s r.module = .ok source ∧
        Served s.environment source (queryOf r.shown (i.formatIn s)).expr host result ∧
        Renders (i.formatIn s) result r.shown ending.stdout) ∧
      ∀ host, left = some host → host.hub.managerClosed = true := by
  refine ⟨fun ending hrun => canEnd_of_run hwords heval hrun, fun left ending hend => ?_⟩
  cases hend with
  | noCommand h =>
      exact ⟨fun _ => rfl, fun hcode => absurd hcode (code_of_pklCommand h), fun _ hleft => by cases hleft⟩
  | noModule h =>
      exact ⟨fun _ => rfl, fun hcode => absurd hcode (code_of_moduleSource h), fun _ hleft => by cases hleft⟩
  | noOptions h =>
      exact ⟨fun _ => rfl, fun hcode => absurd hcode (code_of_evaluatorOptions h),
        fun _ hleft => by cases hleft⟩
  | @comes command source o left printing _ hsource _ hcomes =>
      have hclosed : ∀ host, some left = some host → host.hub.managerClosed = true := by
        intro host hleft
        obtain rfl := Option.some.inj hleft
        exact hcomes.managerClosed
      rcases hcomes.prints_or_fails with
        ⟨e, hcode, hfails⟩ | ⟨result, printed, hserved, hrenders, hprints⟩
      · rw [endingOf_fails hfails]
        exact ⟨fun _ => rfl, fun hsuccess => absurd hsuccess hcode, hclosed⟩
      · rw [endingOf_prints hprints]
        exact ⟨fun hcode => absurd rfl hcode,
          fun _ => ⟨left, source, result, rfl, hsource, hserved, hrenders⟩, hclosed⟩

/-- A server that creates the evaluator and answers the evaluation with the text `hi`. -/
def greeter : Surroundings where
  environment := ⟨.ofPairs [], FilePath.ofText "/"⟩
  stdin := Bytes.ofText "x = 1"
  serve _ := .ok [
    fun m => match m with
      | .createEvaluator m =>
        [.writes (Message.Incoming.encode (.createEvaluatorResponse ⟨m.requestId, some 1, none⟩))]
      | _ => [],
    fun m => match m with
      | .evaluate m =>
        [.writes (Message.Incoming.encode
          (.evaluateResponse ⟨m.requestId, m.evaluatorId, some [0xa2, 0x68, 0x69], none⟩))]
      | _ => []]
  askVersion _ := .finished 0 [] []

/-- Asked for the text of its output, that server has it printed, and the manager is closed. -/
theorem greeter_prints_text : ∃ ending host result, run greeter ["eval", "--text", "-"] = some ending ∧
    ending.code = .success ∧ ending.stdout = Bytes.ofText "hi" ∧
    Served greeter.environment (.ofText "x = 1") "output.text" host result ∧
    Renders .json result .text (Bytes.ofText "hi") ∧ host.hub.managerClosed = true := by
  let r : EvalRequest := ⟨"-", .text, none, [], none⟩
  obtain ⟨hends, hall⟩ :=
    @eval_all_or_nothing greeter ["eval", "--text", "-"] ⟨none, none, .eval r⟩ r rfl rfl
  have hrun : (run greeter ["eval", "--text", "-"]).map (fun e => (e.code, e.stdout)) =
      some (.success, Bytes.ofText "hi") := by
    decide +kernel
  obtain ⟨ending, hending, hprinted⟩ := Option.map_eq_some_iff.1 hrun
  obtain ⟨hcode, hstdout⟩ := Prod.mk.inj hprinted
  obtain ⟨left, hleft⟩ := hends ending hending
  obtain ⟨-, hsuccess, hclosed⟩ := hall left ending hleft
  obtain ⟨host, source, result, rfl, hsource, hserved, hrenders⟩ := hsuccess hcode
  obtain rfl := Except.ok.inj ((show moduleSource greeter r.module = .ok (.ofText "x = 1") from rfl).symm.trans
    hsource)
  refine ⟨ending, host, result, hending, hcode, hstdout, hserved, ?_, hclosed host rfl⟩
  rw [← hstdout]
  exact hrenders

end Cli

end PklHost
