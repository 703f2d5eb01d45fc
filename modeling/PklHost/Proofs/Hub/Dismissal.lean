import PklHost.Proofs.Hub.Isolation
import PklHost.Proofs.Hub.Writing

/-!
# What becomes of the calls of an evaluator that is closed

The first step of closing an evaluator, or of letting it go, fails every request that waits in its session and
closes the session (`ErrandTurn.failed`).  A call whose request was failed, and a call that begins after that,
have no more to do than to learn that the evaluator is closed (`dismissed_run`).

`ClosesExactly` says of a run what closing comes to, with what the server is told of it and what is left
alone.  A shutdown touches every evaluator, and one that begins because the message that closes an evaluator
cannot be written does so too (`unwritten_touches`).
-/

namespace PklHost.Hub

open Message (CreateOutcome Incoming Outgoing)

variable {h h' : Hub} {s : Nat} {reason : CloseReason}

/-! ## The first step -/

/-- The session whose requests an errand fails in its next step, which closes it. -/
def Errand.fails? : Errand → Option Nat
  | .close s _ .failing | .release s _ => some s
  | .close _ _ .unregistering | .close _ _ (.sending _) | .leave _ | .notice .. | .read .. | .reply ..
  | .closeManager | .disconnect | .shuttingDown | .finished => none

theorem Errand.session?_of_fails? {e : Errand} (hs : e.fails? = some s) : e.session? = some s := by
  cases e with
  | close _ _ stage =>
      cases stage with
      | failing => exact hs
      | unregistering | sending _ => cases hs
  | release _ _ => exact hs
  | _ => cases hs

theorem ErrandTurn.failed {e e' : Errand} (hturn : ErrandTurn h e e' h') (hs : e.fails? = some s) :
    h' = h.failSession s .closed := by
  cases hturn with
  | gone hsession hgone =>
      obtain rfl := Option.some.inj (hsession.symm.trans (Errand.session?_of_fails? hs))
      unfold failSession
      rw [hgone]
  | fails _ | releases _ =>
      obtain rfl := Option.some.inj hs
      rfl
  | _ => cases hs

theorem step_failed {i : Nat} {e : Errand} (he : h.errands[i]? = some e) (hs : e.fails? = some s) :
    ∃ e', h.step (.advance (.errand i)) = (h.failSession s .closed).setErrand i e' := by
  obtain ⟨e', h₁, hturn, heq, -⟩ := errand_advance he
  exact ⟨e', by rw [heq, hturn.failed hs]⟩

/-- A session that is closed stays closed. -/
theorem closed_doors_run (hclosed : h.doors.Closed s) (actions : List Action) :
    (h.run actions).doors.Closed s :=
  run_keeps (P := fun h => h.doors.Closed s) (fun {h} hclosed a => (h.doors_step a).closed hclosed)
    hclosed actions

theorem closed_of_failed {i : Nat} {e : Errand} (he : h.errands[i]? = some e) (hs : e.fails? = some s)
    (hknown : s < h.sessions.length) : (h.step (.advance (.errand i))).doors.Closed s := by
  obtain ⟨e', heq⟩ := step_failed he hs
  rw [heq, doors_setErrand, doors_failSession]
  exact Doors.closed_closeSession (by rwa [length_doors_sessions])

theorem Watched.over_of_closed (hw : h.Watched) (hclosed : h.doors.Closed s) :
    ∃ session, h.sessions[s]? = some session ∧ session.Over := by
  obtain ⟨session, hsession, hclosed⟩ := closed_doors.1 hclosed
  exact ⟨session, hsession, hclosed, hw.evaluatesEmpty (tray_of_session hsession) hclosed⟩

/-- Whoever waits in a session when it is closed is given that, and the session is closed for good. -/
theorem failed_run (hwatched : h.Watched) {i : Nat} {e : Errand} {session : Session}
    (he : h.errands[i]? = some e) (hs : e.fails? = some s) (hsession : h.sessions[s]? = some session)
    (past : List Action) :
    (∀ requestId j, (requestId, j) ∈ session.pending.waiting →
      EvaluateFailed j .closed h ((h.step (.advance (.errand i))).run past)) ∧
    ∃ later, ((h.step (.advance (.errand i))).run past).sessions[s]? = some later ∧ later.Over := by
  constructor
  · intro requestId j hmem
    have hw : h.evaluateDesk.Waits s requestId j := evaluateDesk_waits.2 ⟨session, hsession, hmem⟩
    obtain ⟨e', heq⟩ := step_failed he hs
    refine evaluateFailed_of_answer hwatched.sound hw ?_ past
    rw [heq]
    exact evaluateAnswer?_failSession hwatched.sound hw .closed
  · have hclosed := closed_of_failed he hs (List.getElem?_eq_some_iff.1 hsession).1
    exact ((hwatched.step (.advance (.errand i))).run past).over_of_closed (closed_doors_run hclosed past)

/-! ## Calls that have but to learn of it -/

/-- Where a call is that has no more to do than to learn that its evaluator is closed. -/
inductive EvaluateStage.Dismissed (answer : Option (Except EvaluatorError Bytes)) :
    EvaluateStage → Prop
  | unasked : Dismissed answer .opening
  | failed (hanswer : answer = some (.error .closed)) : Dismissed answer .waiting
  | told : Dismissed answer (.finished (.error .closed))
  | abandoned : Dismissed answer .abandoned

theorem EvaluateStage.Dismissed.mono {answer answer' : Option (Except EvaluatorError Bytes)}
    {stage : EvaluateStage} (hdismissed : stage.Dismissed answer)
    (hkeeps : ∀ x, answer = some x → answer' = some x) : stage.Dismissed answer' := by
  cases hdismissed with
  | unasked => exact .unasked
  | failed hanswer => exact .failed (hkeeps _ hanswer)
  | told => exact .told
  | abandoned => exact .abandoned

/-- A call whose evaluator is closed and that is there. -/
structure EvaluateCall.Dismissed (h : Hub) (call : EvaluateCall) : Prop where
  closed : h.doors.Closed call.session
  stage : call.stage.Dismissed call.answer

/-- Its turn changes nothing but its own stage, and ends it unless it was given up. -/
theorem advance_dismissed {i : Nat} {call : EvaluateCall} (hcall : h.evaluates[i]? = some call)
    (hdismissed : call.Dismissed h) :
    ∃ stage : EvaluateStage, stage.Dismissed call.answer ∧
      (call.stage ≠ .abandoned → stage = .finished (.error .closed)) ∧
      h.step (.advance (.evaluate i)) = h.moveEvaluate i stage := by
  obtain ⟨session, hsession, hclosed⟩ := closed_doors.1 hdismissed.closed
  have hadvance : h.step (.advance (.evaluate i)) =
      (h.stepEvaluate i call session).2.moveEvaluate i (h.stepEvaluate i call session).1 :=
    advance_evaluate hcall hsession
  have hstage := hdismissed.stage
  rw [hadvance]
  unfold stepEvaluate
  generalize call.stage = stage at hstage
  cases hstage with
  | unasked =>
      dsimp only
      rw [if_pos hclosed]
      exact ⟨_, .told, fun _ => rfl, rfl⟩
  | failed hanswer =>
      dsimp only
      rw [hanswer]
      exact ⟨_, .told, fun _ => rfl, rfl⟩
  | told => exact ⟨_, .told, fun _ => rfl, rfl⟩
  | abandoned => exact ⟨_, .abandoned, fun hgoesOn => absurd rfl hgoesOn, rfl⟩

/-- A call stays in its session and keeps an answer that it has. -/
theorem evaluate_step (hsound : h.Sound) (a : Action) {i : Nat} {call : EvaluateCall}
    (hcall : h.evaluates[i]? = some call) :
    ∃ call', (h.step a).evaluates[i]? = some call' ∧ call'.session = call.session ∧
      ∀ x, call.answer = some x → call'.answer = some x := by
  obtain ⟨slip', hslip', htray, hkeeps, -⟩ :=
    (evaluateDesk_step h a).keeps hsound.evaluateTidy (slip_of_evaluate hcall)
  obtain ⟨call', hcall', rfl⟩ := evaluate_of_slip hslip'
  exact ⟨call', hcall', htray, hkeeps⟩

theorem dismissed_step (hsound : h.Sound) {i : Nat} {call : EvaluateCall}
    (hcall : h.evaluates[i]? = some call) (hdismissed : call.Dismissed h) (a : Action) :
    ∃ call', (h.step a).evaluates[i]? = some call' ∧ call'.Dismissed (h.step a) := by
  obtain ⟨call', hcall', hsession, hkeeps⟩ := evaluate_step hsound a hcall
  have hat := evaluateStages_getElem?.2 ⟨call, hcall, rfl⟩
  have hat' := evaluateStages_getElem?.2 ⟨call', hcall', rfl⟩
  refine ⟨call', hcall', hsession ▸ (h.doors_step a).closed hdismissed.closed, ?_⟩
  cases evaluateOrigin hat' with
  | kept hsame =>
      rw [hat] at hsame
      rw [← Option.some.inj hsame]
      exact hdismissed.stage.mono hkeeps
  | begun hnone _ =>
      rw [hcall] at hnone
      cases hnone
  | turned ha _ _ _ _ =>
      obtain ⟨stage, hstage, -, heq⟩ := advance_dismissed hcall hdismissed
      rw [ha, heq, evaluateStages_moveEvaluate, List.getElem?_modify_eq, hat] at hat'
      rw [← Option.some.inj hat']
      exact hstage.mono hkeeps
  | abandoned hstage =>
      rw [hstage]
      exact .abandoned

theorem dismissed_run (hsound : h.Sound) {i : Nat} {call : EvaluateCall}
    (hcall : h.evaluates[i]? = some call) (hdismissed : call.Dismissed h) (actions : List Action) :
    ∃ call', (h.run actions).evaluates[i]? = some call' ∧ call'.Dismissed (h.run actions) := by
  induction actions generalizing h call with
  | nil => exact ⟨call, hcall, hdismissed⟩
  | cons a actions ih =>
      obtain ⟨next, hnext, hstays⟩ := dismissed_step hsound hcall hdismissed a
      exact ih (hsound.step a) hnext hstays

/-- A call has not learnt yet that its evaluator is closed, or has, or was given up.  Its turn changes nothing
but its own stage, and ends it with that unless it was given up. -/
def Dismisses (h : Hub) (i : Nat) : Prop :=
  ∃ call stage, h.evaluates[i]? = some call ∧ call.stage.Dismissed call.answer ∧
    (call.stage ≠ .abandoned → stage = .finished (.error .closed)) ∧
    h.step (.advance (.evaluate i)) = h.moveEvaluate i stage

theorem dismisses_run (hsound : h.Sound) {i : Nat} {call : EvaluateCall}
    (hcall : h.evaluates[i]? = some call) (hdismissed : call.Dismissed h) (actions : List Action) :
    (h.run actions).Dismisses i := by
  obtain ⟨later, hlater, hdismissed⟩ := dismissed_run hsound hcall hdismissed actions
  obtain ⟨stage, -, hends, heq⟩ := advance_dismissed hlater hdismissed
  exact ⟨later, stage, hlater, hdismissed.stage, hends, heq⟩

/-- A call that waits in a session learns that it is closed once its request has been failed. -/
theorem dismissed_of_failed (hsound : h.Sound) {i j : Nat} {e : Errand} {call : EvaluateCall}
    {requestId : Int64} (he : h.errands[i]? = some e) (hs : e.fails? = some s)
    (hw : h.evaluateDesk.Waits s requestId j) (hcall : h.evaluates[j]? = some call)
    (hstage : call.stage = .waiting) :
    ∃ call', (h.step (.advance (.errand i))).evaluates[j]? = some call' ∧
      call'.Dismissed (h.step (.advance (.errand i))) := by
  obtain ⟨e', heq⟩ := step_failed he hs
  obtain ⟨call', hcall', hsession, -⟩ := evaluate_step hsound (.advance (.errand i)) hcall
  obtain ⟨session, hat, -⟩ := evaluateDesk_waits.1 hw
  have hclosed := closed_of_failed he hs (List.getElem?_eq_some_iff.1 hat).1
  have htray : call.session = s := by
    obtain ⟨slip, hslip, htray, -⟩ := hsound.evaluateTidy.waits hw
    rw [← Option.some.inj ((slip_of_evaluate hcall).symm.trans hslip)] at htray
    exact htray
  have hstays : call'.stage = .waiting := by
    have hstages : (h.step (.advance (.errand i))).evaluateStages = h.evaluateStages := by
      rw [heq]
      exact evaluateStages_failSession s .closed h
    have hbefore := evaluateStages_getElem?.2 ⟨call, hcall, hstage⟩
    have hafter := evaluateStages_getElem?.2 ⟨call', hcall', rfl⟩
    rw [hstages, hbefore] at hafter
    exact (Option.some.inj hafter).symm
  have hanswer : call'.answer = some (.error .closed) := by
    have hgiven : evaluateAnswer? j (h.step (.advance (.errand i))) = some (.error .closed) := by
      rw [heq]
      exact evaluateAnswer?_failSession hsound hw .closed
    unfold evaluateAnswer? at hgiven
    rwa [hcall', Option.bind_some] at hgiven
  refine ⟨call', hcall', ?_, ?_⟩
  · rwa [hsession, htray]
  · rw [hstays]
    exact .failed hanswer

/-! ## Whole runs -/

/-- In a run, an evaluator is closed once, and nothing else is. -/
structure ClosesExactly (h : Hub) (actions : List Action) : Prop where
  /-- The server is told at most once of an evaluator that it is closed. -/
  once : ∀ id, (h.run actions).told.count id ≤ 1
  /-- What the server receives after the connection was closed is written by somebody who was about to when
  it was closed. -/
  silent : ∀ before past after a, actions = before ++ past ++ a :: after →
    (h.run before).connection.isClosed = true →
    (h.run (before ++ past ++ [a])).sent = (h.run (before ++ past)).sent ∨
      ∃ who, a = .advance who ∧ (h.run before).Writes who
  /-- The first step of closing an evaluator, or of letting it go, fails whoever waits there, with nothing
  before and nothing after that, and closes it for good. -/
  failed : ∀ before past after i e s session, actions = before ++ .advance (.errand i) :: past ++ after →
    (h.run before).errands[i]? = some e → e.fails? = some s →
    (h.run before).sessions[s]? = some session →
    (∀ requestId j, (requestId, j) ∈ session.pending.waiting →
      EvaluateFailed j .closed (h.run before) (h.run (before ++ .advance (.errand i) :: past))) ∧
    ∃ later, (h.run (before ++ .advance (.errand i) :: past)).sessions[s]? = some later ∧ later.Over
  /-- A call that has sent its request returns that, unless it was given up. -/
  returned : ∀ before past after i e s session requestId j call,
    actions = before ++ .advance (.errand i) :: past ++ after →
    (h.run before).errands[i]? = some e → e.fails? = some s →
    (h.run before).sessions[s]? = some session → (requestId, j) ∈ session.pending.waiting →
    (h.run before).evaluates[j]? = some call → call.stage = .waiting →
    (h.run (before ++ .advance (.errand i) :: past)).Dismisses j
  /-- No step of closing an evaluator or letting it go touches another one. -/
  spares : ∀ before after s a, actions = before ++ a :: after → (h.run before).ClosesSession s a →
    Spares s (h.run before) (h.run (before ++ [a]))
  /-- It begins no shutdown, unless its message to the server cannot be written. -/
  shuts : ∀ before after s a, actions = before ++ a :: after → (h.run before).ClosesSession s a →
    (h.run (before ++ [a])).connection.phase = (h.run before).connection.phase ∨
      (∃ who, a = .advance who ∧ (h.run before).Writes who) ∧
        WriteFails (h.run before) (h.run (before ++ [a]))
  /-- It goes on until it is over, and closes the manager after that only if the evaluator owns it. -/
  goesOn : ∀ before after i e s, actions = before ++ .advance (.errand i) :: after →
    (h.run before).errands[i]? = some e → e.ClosesSession (h.run before) s →
    ∃ e', (h.run (before ++ [.advance (.errand i)])).errands[i]? = some e' ∧
      (e'.ClosesSession (h.run before) s ∨ e' = .finished ∨
        e.ownsManager = true ∧ e' = .closeManager)
  /-- Every evaluator is closed once a shutdown is over. -/
  down : ∀ before after reason, actions = before ++ after →
    (h.run before).connection.phase = .closed reason →
    ∀ session ∈ (h.run before).sessions, session.Over
  /-- A call that begins when its evaluator is closed returns that, unless it is given up before, and none of
  its steps touches anything else. -/
  refused : ∀ before past after s source expr session,
    actions = before ++ .evaluate s source expr :: past ++ after →
    (h.run before).sessions[s]? = some session → session.pending.isClosed = true →
    (h.run (before ++ .evaluate s source expr :: past)).Dismisses (h.run before).evaluates.length

/-- In every run of a new hub in which the server hands out no evaluator id twice, evaluators are closed
exactly. -/
theorem closesExactly_of_new (hnew : h.New) (hsent : h.sent = []) {actions : List Action}
    (honce : (h.run actions).HandsOutOnce) : h.ClosesExactly actions where
  once := hnew.told_once hsent
    (hnew.settled honce actions [] (List.append_nil actions).symm).distinct
  silent := by
    intro before past after a _ hclosed
    rw [run_snoc, run_append]
    exact written_before hclosed past a
  failed := by
    intro before past after i e s session _ he hs hsession
    rw [run_append h before (.advance (.errand i) :: past)]
    exact failed_run (hnew.watched.run before) he hs hsession past
  returned := by
    intro before past after i e s session requestId j call _ he hs hsession hmem hcall hstage
    have hsound := hnew.sound.run before
    obtain ⟨call', hcall', hdismissed⟩ := dismissed_of_failed hsound he hs
      (evaluateDesk_waits.2 ⟨session, hsession, hmem⟩) hcall hstage
    rw [run_append h before (.advance (.errand i) :: past)]
    exact dismisses_run (hsound.step _) hcall' hdismissed past
  spares := by
    intro before after s a hactions hcloses
    rw [run_snoc]
    exact hcloses.spares (hnew.sound.run before) (hnew.settled honce before _ hactions).distinct
  shuts := by
    intro before after s a _ hcloses
    rw [run_snoc]
    exact hcloses.phase
  goesOn := by
    intro before after i e s _ he hcloses
    obtain ⟨e', h₁, hturn, -, hmoves⟩ := errand_advance he
    rw [run_snoc]
    exact ⟨e', hmoves, hturn.goesOn hcloses⟩
  down := by
    intro before after reason hactions hphase
    exact (hnew.down honce hactions hphase).sessions
  refused := by
    intro before past after s source expr session _ hsession hclosed
    have hbegun : ((h.run before).step (.evaluate s source expr)).evaluates[
        (h.run before).evaluates.length]? = some { session := s, source, expr } :=
      List.getElem?_concat_length
    rw [run_append h before (.evaluate s source expr :: past)]
    exact dismisses_run ((hnew.sound.run before).step _) hbegun
      ⟨closed_doors.2 ⟨session, hsession, hclosed⟩, .unasked⟩ past

/-- Two evaluators are created, and each is asked for something. -/
def company : List Action :=
  let create (i : Nat) : Action := .advance (.create i)
  let evaluate (i : Nat) : Action := .advance (.evaluate i)
  let created (requestId evaluatorId : Int64) : Action :=
    .arrive (Incoming.encode (.createEvaluatorResponse ⟨requestId, some evaluatorId, none⟩))
  let source : ModuleSource := ⟨"repl:text", some "a = 1"⟩
  [.create {}, create 0, create 0, .endLaunch none, create 0, create 0, create 0, create 0, create 0,
    created 0x6220a8397b1dcdaf 6, .loop, create 0, create 0,
    .create {}, create 1, create 1, create 1, create 1, create 1, create 1, create 1,
    created 0x6e789e6aa1b965f4 7, .loop, create 1, create 1,
    .evaluate 0 source "", evaluate 0, evaluate 0, evaluate 0, evaluate 0, evaluate 0,
    .evaluate 1 source "", evaluate 1, evaluate 1, evaluate 1, evaluate 1, evaluate 1]

/-- The first one is closed. -/
def parting : List Action :=
  let close : Action := .advance (.errand 0)
  [.close 0 false, close, close, close, close]

/-- It is closed once more, and asked again. -/
def farewell : List Action :=
  let again : Action := .advance (.errand 1)
  company ++ parting ++ [.close 0 false, again, again, .evaluate 0 ⟨"repl:text", some "a = 1"⟩ "",
    .advance (.evaluate 0), .advance (.evaluate 2)]

/-- The server is told of it once, both calls in it learn that it is closed, and the other one goes on. -/
theorem farewell_closesExactly :
    let h : Hub := { workingDir := [] }
    h.New ∧ h.sent = [] ∧ (h.run farewell).HandsOutOnce ∧ (h.run farewell).told = [6] ∧
      (h.run farewell).sessions.map (fun session => session.pending.isClosed) = [true, false] ∧
      (h.run farewell).connection.registry = [(7, 1)] ∧
      [0, 2].map (fun i => (evaluateOutcome? i (h.run farewell)).map
        (Except.mapError EvaluatorError.message)) =
          [some (.error "evaluator is closed"), some (.error "evaluator is closed")] ∧
      (evaluateAnswer? 1 (h.run farewell)).isNone = true ∧ h.ClosesExactly farewell := by
  intro h
  have hnew : h.New := new_init []
  have honce : (h.run farewell).HandsOutOnce := handsOutOnce_of_pairwise (by decide +kernel)
  exact ⟨hnew, rfl, honce, by decide +kernel, by decide +kernel, by decide +kernel, by decide +kernel,
    by decide +kernel, closesExactly_of_new hnew rfl honce⟩

/-- Where the server takes no more messages, closing the first of two evaluators closes the other one too,
and fails what waits there: the shutdown that is gone on with is one that the closing began. -/
theorem unwritten_touches :
    let h : Hub := { workingDir := [] }
    let before : Hub := h.run (company ++ [.endOutput])
    let shutdown : List Action := List.replicate 4 .shutdown
    before.evaluatorIds = [6, 7] ∧
      (before.run shutdown).connection.registry = [(6, 0), (7, 1)] ∧
      (before.run shutdown).sessions.map (fun session => session.pending.isClosed) = [false, false] ∧
      (evaluateAnswer? 1 (before.run shutdown)).isNone = true ∧
      (before.run (parting ++ shutdown)).connection.registry = [] ∧
      (before.run (parting ++ shutdown)).sessions.map (fun session => session.pending.isClosed) =
        [true, true] ∧
      (evaluateAnswer? 1 (before.run (parting ++ shutdown))).map
        (Except.mapError EvaluatorError.message) =
          some (.error "connection closed: write failed: frame I/O error: broken pipe") := by
  decide +kernel

end PklHost.Hub
