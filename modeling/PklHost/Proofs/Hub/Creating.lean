import PklHost.Proofs.Hub.Frames

/-!
# The desk of the calls that create

Calls that create evaluators share one tray, the requests to create of the connection.  A call has had its
answer before it enters the session of its evaluator, and while it does so it waits for nothing.

Only one call at a time starts the server (`OneLauncher`), so that the end of the start moves no call that
has gone on.
-/

namespace PklHost.Hub

open Message (CreateEvaluator)

/-! ## The course of a call -/

def CreateStage.standing : CreateStage → Standing
  | .connecting | .entering | .launching | .confirming | .shuttingDown | .numbering | .registering _ =>
    .unfiled
  | .sending request _ => .filed (some request.requestId)
  | .withdrawing requestId _ => .filed (some requestId)
  | .waiting => .filed none
  | .inserting _ | .finished _ => .settled
  | .abandoned => .abandoned

def CreateStage.outcome? : CreateStage → Option (Except EvaluatorError Nat)
  | .finished outcome => some outcome
  | .connecting | .entering | .launching | .confirming | .shuttingDown | .numbering | .registering _
  | .sending .. | .withdrawing .. | .waiting | .inserting _ | .abandoned => none

theorem CreateStage.outcome?_eq_some {stage : CreateStage} {o : Except EvaluatorError Nat} :
    stage.outcome? = some o ↔ stage = .finished o := by
  constructor
  · intro h
    cases stage with
    | finished outcome => rw [Option.some.inj h]
    | _ => cases h
  · rintro rfl
    rfl

/-- Where a call goes by itself.  It returns with the fault that it was answered with, with a fault of the
host, or with the session that it entered for the evaluator id of its answer. -/
inductive CreateStage.Goes (a : Option (Except EvaluatorError Int64)) :
    CreateStage → CreateStage → Prop
  | stays (stage : CreateStage) : Goes a stage stage
  | connected : Goes a .connecting .entering
  | launches : Goes a .entering .launching
  | entered : Goes a .entering .confirming
  | launched : Goes a .launching .confirming
  | closes : Goes a .confirming .shuttingDown
  | confirmed : Goes a .confirming .numbering
  | numbered (request : CreateEvaluator) : Goes a .numbering (.registering request)
  | refused {stage : CreateStage} {fault : EvaluatorError} (hstage : stage.standing = .unfiled)
      (hfault : ¬ fault.OfAnswer) : Goes a stage (.finished (.error fault))
  | sends (request : CreateEvaluator) (progress progress' : Sending) :
      Goes a (.sending request progress) (.sending request progress')
  | sent (request : CreateEvaluator) (progress : Sending) : Goes a (.sending request progress) .waiting
  | unsent (request : CreateEvaluator) (progress : Sending) {fault : EvaluatorError}
      (hfault : ¬ fault.OfAnswer) :
      Goes a (.sending request progress) (.withdrawing request.requestId fault)
  | accepted {evaluatorId : Int64} (h : a = some (.ok evaluatorId)) :
      Goes a .waiting (.inserting evaluatorId)
  | answered {fault : EvaluatorError} (h : a = some (.error fault)) :
      Goes a .waiting (.finished (.error fault))
  | inserted (evaluatorId : Int64) (session : Nat) :
      Goes a (.inserting evaluatorId) (.finished (.ok session))
  | shutOut (evaluatorId : Int64) {fault : EvaluatorError} (hfault : ¬ fault.OfAnswer) :
      Goes a (.inserting evaluatorId) (.finished (.error fault))

/-- A call files its request before it sends it. -/
inductive CreateStage.Files (requestId : Int64) : CreateStage → CreateStage → Prop
  | filed (request : CreateEvaluator) (h : request.requestId = requestId) :
      Files requestId (.registering request) (.sending request .checking)

/-- A call whose request was not sent takes it back and returns. -/
inductive CreateStage.Withdraws (requestId : Int64) : CreateStage → CreateStage → Prop
  | withdrawn (fault : EvaluatorError) :
      Withdraws requestId (.withdrawing requestId fault) (.finished (.error fault))

/-- The course of a call that creates. -/
def createCourse : Course Int64 CreateStage (Except EvaluatorError Nat) where
  first := .connecting
  abandoned := .abandoned
  standing := CreateStage.standing
  outcome? := CreateStage.outcome?
  Goes := CreateStage.Goes
  Files := CreateStage.Files
  Withdraws := CreateStage.Withdraws
  standing_first := rfl
  standing_abandoned := rfl
  standing_outcome := by
    intro stage o h
    rw [CreateStage.outcome?_eq_some.1 h]
    rfl
  passes := by
    intro a stage stage' h
    cases h with
    | refused hstage =>
        rw [hstage]
        exact .refused
    | sent => exact .forgets _
    | accepted h => exact .settles (by rw [h]; exact Option.some_ne_none _) _
    | answered h => exact .settles (by rw [h]; exact Option.some_ne_none _) _
    | _ => exact .stays _
  files := by
    rintro id stage stage' ⟨request, rfl⟩
    exact ⟨rfl, rfl⟩
  withdraws := by
    rintro id stage stage' ⟨fault⟩
    exact ⟨rfl, rfl⟩
  goes_over := by
    intro a stage stage' h hover
    -- a call that is over has filed, so that it cannot be refused
    have hsettled : stage.standing = .settled ∨ stage = .abandoned := by
      rcases hover with ⟨o, ho⟩ | rfl
      · cases stage with
        | finished outcome => exact .inl rfl
        | _ => cases ho
      · exact .inr rfl
    cases h with
    | stays => rfl
    | refused hstage =>
        rw [hstage] at hsettled
        rcases hsettled with h | h
        · cases h
        · rw [h] at hstage
          cases hstage
    | _ =>
        rcases hover with ⟨o, ho⟩ | habandoned
        · cases ho
        · cases habandoned

/-! ## One step of a call -/

/-- The only fault of a request is that of an empty path. -/
theorem createRequest_fault {o : EvaluatorOptions} {workingDir : FilePath} {requestId : Int64}
    {fault : EvaluatorError} (h : o.createRequest workingDir requestId = .error fault) :
    ¬ fault.OfAnswer := by
  unfold EvaluatorOptions.createRequest at h
  cases hdir : o.projectDir with
  | none =>
      rw [hdir] at h
      cases h
  | some dir =>
      rw [hdir] at h
      cases hurl : ModuleSource.fileUrl workingDir (EvaluatorOptions.projectFile dir) with
      | ok url =>
          simp only [EvaluatorOptions.projectItem, hurl] at h
          cases h
      | error e =>
          -- an address of a file fails for one reason only
          have hempty : e = ModuleSource.emptyPath := by
            unfold ModuleSource.fileUrl at hurl
            split at hurl
            · cases hurl
            · exact (Except.error.inj hurl).symm
          simp only [EvaluatorOptions.projectItem, hurl] at h
          obtain rfl : e = fault := Except.error.inj h
          rw [hempty]
          exact fun h => nomatch h

/-- One step of a call that creates, case by case: its next stage, and the hub. -/
inductive CreateTurn (h : Hub) (i : Nat) (call : CreateCall) : CreateStage → Hub → Prop
  | stays : CreateTurn h i call call.stage h
  | connects (hstage : call.stage = .connecting) (hopen : h.managerClosed = false) :
      CreateTurn h i call .entering h
  | launches (hstage : call.stage = .entering) (hidle : h.launch = .idle) :
      CreateTurn h i call .launching { h with launch := .underway i }
  | enters (hstage : call.stage = .entering) (hstarted : h.launch = .started) :
      CreateTurn h i call .confirming h
  | closes (hstage : call.stage = .confirming) (hopen : h.connection.isClosed = false) :
      CreateTurn h i call .shuttingDown (h.beginShutdown .managerClosed).2
  | confirms (hstage : call.stage = .confirming) (hopen : h.managerClosed = false) :
      CreateTurn h i call .numbering h
  | numbers {request : CreateEvaluator} {requestId : Int64} {ids : RequestIds}
      (hstage : call.stage = .numbering)
      (hrequest : call.options.createRequest h.workingDir requestId = .ok request) :
      CreateTurn h i call (.registering request) { h with connection := { h.connection with ids } }
  | unnumbered {fault : EvaluatorError} {requestId : Int64} {ids : RequestIds}
      (hstage : call.stage = .numbering)
      (hrequest : call.options.createRequest h.workingDir requestId = .error fault) :
      CreateTurn h i call (.finished (.error fault))
        { h with connection := { h.connection with ids } }
  | files {request : CreateEvaluator} (hstage : call.stage = .registering request)
      (hopen : h.connection.creates.isClosed = false)
      (hfree : h.connection.creates.find? request.requestId = none) :
      CreateTurn h i call (.sending request .checking)
        { h with connection := { h.connection with
          creates := { h.connection.creates with
            waiting := h.connection.creates.waiting ++ [(request.requestId, i)] } } }
  | sends {request : CreateEvaluator} {progress progress' : Sending} {h' : Hub}
      (hstage : call.stage = .sending request progress)
      (hsending : h.stepSending (.createEvaluator request) progress = (.going progress', h')) :
      CreateTurn h i call (.sending request progress') h'
  | sent {request : CreateEvaluator} {progress : Sending} {h' : Hub}
      (hstage : call.stage = .sending request progress)
      (hsending : h.stepSending (.createEvaluator request) progress = (.done, h')) :
      CreateTurn h i call .waiting h'
  | unsent {request : CreateEvaluator} {progress : Sending} {fault : EvaluatorError} {h' : Hub}
      (hstage : call.stage = .sending request progress)
      (hsending : h.stepSending (.createEvaluator request) progress = (.failed fault, h')) :
      CreateTurn h i call (.withdrawing request.requestId fault) h'
  | withdraws {requestId : Int64} {fault : EvaluatorError}
      (hstage : call.stage = .withdrawing requestId fault) :
      CreateTurn h i call (.finished (.error fault)) (h.withdrawCreate requestId i)
  | accepts {evaluatorId : Int64} (hstage : call.stage = .waiting)
      (hanswer : call.answer = some (.ok evaluatorId)) : CreateTurn h i call (.inserting evaluatorId) h
  | returns {fault : EvaluatorError} (hstage : call.stage = .waiting)
      (hanswer : call.answer = some (.error fault)) :
      CreateTurn h i call (.finished (.error fault)) h
  | inserts {evaluatorId : Int64} {h' : Hub} (hstage : call.stage = .inserting evaluatorId)
      (hinsert : h.insertSession evaluatorId call.options = .ok h') :
      CreateTurn h i call (.finished (.ok h.sessions.length)) h'
  | shutOut {evaluatorId : Int64} {fault : EvaluatorError} (hstage : call.stage = .inserting evaluatorId)
      (hinsert : h.insertSession evaluatorId call.options = .error fault) :
      CreateTurn h i call (.finished (.error fault)) h
  /-- The call has filed no request, and is refused with a fault of the host. -/
  | refused {fault : EvaluatorError} (hunfiled : call.stage.standing = .unfiled)
      (hlaunching : call.stage ≠ .launching) (hfault : ¬ fault.OfAnswer)
      (hclosed : call.stage = .confirming → h.connection.isClosed = true)
      (hdown : call.stage = .shuttingDown → h.connection.isDown = true) :
      CreateTurn h i call (.finished (.error fault)) h

section

variable {h : Hub} {i : Nat} {call : CreateCall}

theorem CreateTurn.of_stage {stage : CreateStage} (hstage : call.stage = stage) :
    CreateTurn h i call stage h :=
  hstage ▸ .stays

theorem CreateTurn.refuses {stage : CreateStage} {fault : EvaluatorError} (hstage : call.stage = stage)
    (hunfiled : stage.standing = .unfiled) (hlaunching : stage ≠ .launching)
    (hfault : ¬ fault.OfAnswer) (hclosed : stage = .confirming → h.connection.isClosed = true)
    (hdown : stage = .shuttingDown → h.connection.isDown = true) :
    CreateTurn h i call (.finished (.error fault)) h := by
  subst hstage
  exact .refused hunfiled hlaunching hfault hclosed hdown

theorem createTurn_confirming (hstage : call.stage = .confirming) :
    CreateTurn h i call (h.stepCreate i call).1 (h.stepCreate i call).2 := by
  unfold stepCreate
  rw [hstage]
  dsimp only
  split
  · cases hclosed : h.connection.isClosed with
    | true =>
        rw [beginShutdown_of_isClosed hclosed]
        exact .refuses hstage rfl CreateStage.noConfusion (fun h => nomatch h) (fun _ => hclosed)
          CreateStage.noConfusion
    | false =>
        have hcloses := CreateTurn.closes (i := i) hstage hclosed
        rw [beginShutdown_of_open hclosed] at hcloses ⊢
        exact hcloses
  · next hopen => exact .confirms hstage (Bool.eq_false_iff.2 hopen)

theorem createTurn_numbering (hstage : call.stage = .numbering) :
    CreateTurn h i call (h.stepCreate i call).1 (h.stepCreate i call).2 := by
  unfold stepCreate
  rw [hstage]
  dsimp only
  generalize h.connection.ids.next = drawn
  obtain ⟨requestId, ids⟩ := drawn
  dsimp only
  split
  · next hrequest => exact .numbers hstage hrequest
  · next hrequest => exact .unnumbered hstage hrequest

theorem createTurn_registering {request : CreateEvaluator} (hstage : call.stage = .registering request) :
    CreateTurn h i call (h.stepCreate i call).1 (h.stepCreate i call).2 := by
  unfold stepCreate
  rw [hstage]
  dsimp only
  split
  · next creates hregister =>
      obtain ⟨hopen, hfree, rfl⟩ := Pending.register_eq_ok_iff.1 hregister
      exact .files hstage hopen hfree
  · exact .refuses hstage rfl CreateStage.noConfusion (fun h => nomatch h) CreateStage.noConfusion
      CreateStage.noConfusion
  · exact .refuses hstage rfl CreateStage.noConfusion (fun h => nomatch h) CreateStage.noConfusion
      CreateStage.noConfusion

/-- Every step of a call that creates is one of those. -/
theorem stepCreate_turn (h : Hub) (i : Nat) (call : CreateCall) :
    CreateTurn h i call (h.stepCreate i call).1 (h.stepCreate i call).2 := by
  cases hstage : call.stage with
  | connecting =>
      unfold stepCreate
      rw [hstage]
      dsimp only
      split
      · exact .refuses hstage rfl CreateStage.noConfusion (fun h => nomatch h)
          CreateStage.noConfusion CreateStage.noConfusion
      · next hopen => exact .connects hstage (Bool.eq_false_iff.2 hopen)
  | entering =>
      unfold stepCreate
      rw [hstage]
      dsimp only
      split
      · next hidle => exact .launches hstage hidle
      · exact .of_stage hstage
      · next hstarted => exact .enters hstage hstarted
  | confirming => exact createTurn_confirming hstage
  | shuttingDown =>
      unfold stepCreate
      rw [hstage]
      dsimp only
      split
      · next hdown =>
          exact .refuses hstage rfl CreateStage.noConfusion (fun h => nomatch h)
            CreateStage.noConfusion fun _ => hdown
      · exact .of_stage hstage
  | numbering => exact createTurn_numbering hstage
  | registering request => exact createTurn_registering hstage
  | sending request progress =>
      unfold stepCreate
      rw [hstage]
      dsimp only
      split
      · next hsending => exact .sends hstage hsending
      · next hsending => exact .sent hstage hsending
      · next hsending => exact .unsent hstage hsending
  | withdrawing requestId fault =>
      unfold stepCreate
      rw [hstage]
      exact .withdraws hstage
  | waiting =>
      unfold stepCreate
      rw [hstage]
      dsimp only
      split
      · next hanswer => exact .accepts hstage hanswer
      · next hanswer => exact .returns hstage hanswer
      · exact .of_stage hstage
  | inserting evaluatorId =>
      unfold stepCreate
      rw [hstage]
      dsimp only
      split
      · next hinsert => exact .inserts hstage hinsert
      · next hinsert => exact .shutOut hstage hinsert
  | launching | finished outcome | abandoned =>
      unfold stepCreate
      rw [hstage]
      exact .of_stage hstage

end

/-- What such a step comes to for the desk of the calls, before the call is moved to its next stage. -/
inductive CreateStep (h : Hub) (i : Nat) (call : CreateCall) : CreateStage → Hub → Prop
  | goes {stage : CreateStage} {h' : Hub} (hgoes : call.stage.Goes call.answer stage)
      (hlaunching : call.stage = .launching → stage = .launching)
      (hfinished : ∀ s, stage = .finished (.ok s) → call.stage = stage) (hquiet : Quiet h h') :
      CreateStep h i call stage h'
  | launches (hstage : call.stage = .entering) (hidle : h.launch = .idle) :
      CreateStep h i call .launching { h with launch := .underway i }
  | files {request : CreateEvaluator} (hstage : call.stage = .registering request)
      (hopen : h.connection.creates.isClosed = false)
      (hfree : h.connection.creates.find? request.requestId = none) :
      CreateStep h i call (.sending request .checking)
        { h with connection := { h.connection with
          creates := { h.connection.creates with
            waiting := h.connection.creates.waiting ++ [(request.requestId, i)] } } }
  | withdraws {requestId : Int64} {fault : EvaluatorError}
      (hstage : call.stage = .withdrawing requestId fault) :
      CreateStep h i call (.finished (.error fault)) (h.withdrawCreate requestId i)
  | inserts {evaluatorId : Int64} {h' : Hub} (hstage : call.stage = .inserting evaluatorId)
      (hinsert : h.insertSession evaluatorId call.options = .ok h') :
      CreateStep h i call (.finished (.ok h.sessions.length)) h'

variable {h h' : Hub} {i : Nat} {call : CreateCall}

/-- Most turns do nothing beyond what is quiet. -/
theorem CreateStep.passes {before stage : CreateStage} (hstage : call.stage = before)
    (hgoes : before.Goes call.answer stage) (hlaunching : before ≠ .launching)
    (hfinished : ∀ s, stage ≠ .finished (.ok s)) (hquiet : Quiet h h') :
    CreateStep h i call stage h' := by
  subst hstage
  exact .goes hgoes (fun h => absurd h hlaunching) (fun s h => absurd h (hfinished s)) hquiet

theorem CreateTurn.step {stage : CreateStage} (hturn : CreateTurn h i call stage h') :
    CreateStep h i call stage h' := by
  have hids : ∀ ids, Quiet h { h with connection := { h.connection with ids } } :=
    fun _ => ⟨rfl, rfl, rfl, rfl, rfl, rfl, rfl⟩
  cases hturn with
  | stays => exact .goes (.stays _) (fun h => h) (fun _ _ => rfl) (.refl h)
  | connects hstage =>
      exact .passes hstage .connected CreateStage.noConfusion (fun _ h => nomatch h) (.refl h)
  | launches hstage hidle => exact .launches hstage hidle
  | enters hstage =>
      exact .passes hstage .entered CreateStage.noConfusion (fun _ h => nomatch h) (.refl h)
  | closes hstage =>
      exact .passes hstage .closes CreateStage.noConfusion (fun _ h => nomatch h)
        (h.beginShutdown_quiet .managerClosed)
  | confirms hstage =>
      exact .passes hstage .confirmed CreateStage.noConfusion (fun _ h => nomatch h) (.refl h)
  | numbers hstage _ =>
      exact .passes hstage (.numbered _) CreateStage.noConfusion (fun _ h => nomatch h) (hids _)
  | unnumbered hstage hrequest =>
      exact .passes hstage (.refused rfl (createRequest_fault hrequest)) CreateStage.noConfusion
        (fun _ h => nomatch h) (hids _)
  | files hstage hopen hfree => exact .files hstage hopen hfree
  | sends hstage hsending =>
      exact .passes hstage (.sends _ _ _) CreateStage.noConfusion (fun _ h => nomatch h)
        (quiet_of_stepSending hsending)
  | sent hstage hsending =>
      exact .passes hstage (.sent _ _) CreateStage.noConfusion (fun _ h => nomatch h)
        (quiet_of_stepSending hsending)
  | unsent hstage hsending =>
      exact .passes hstage (.unsent _ _ (stepSending_fault hsending)) CreateStage.noConfusion
        (fun _ h => nomatch h) (quiet_of_stepSending hsending)
  | withdraws hstage => exact .withdraws hstage
  | accepts hstage hanswer =>
      exact .passes hstage (.accepted hanswer) CreateStage.noConfusion (fun _ h => nomatch h) (.refl h)
  | returns hstage hanswer =>
      exact .passes hstage (.answered hanswer) CreateStage.noConfusion (fun _ h => nomatch h) (.refl h)
  | inserts hstage hinsert => exact .inserts hstage hinsert
  | shutOut hstage hinsert =>
      exact .passes hstage (.shutOut _ (insertSession_fault hinsert)) CreateStage.noConfusion
        (fun _ h => nomatch h) (.refl h)
  | refused hunfiled hlaunching hfault =>
      exact .passes rfl (.refused hunfiled hfault) hlaunching (fun _ h => nomatch h) (.refl h)

/-! ## The desk -/

/-- What the desk knows of a call; there is one tray only. -/
def CreateCall.slip (call : CreateCall) : Slip Int64 CreateStage :=
  ⟨0, call.answer, call.stage⟩

def createDesk (h : Hub) : Desk Int64 CreateStage where
  slips := h.creates.map CreateCall.slip
  trays := [h.connection.creates]

theorem slip_of_create {h : Hub} {i : Nat} {call : CreateCall} (hcall : h.creates[i]? = some call) :
    h.createDesk.slips[i]? = some call.slip := by
  unfold createDesk
  rw [List.getElem?_map, hcall]
  rfl

theorem create_of_slip {h : Hub} {i : Nat} {slip : Slip Int64 CreateStage}
    (hslip : h.createDesk.slips[i]? = some slip) :
    ∃ call, h.creates[i]? = some call ∧ call.slip = slip := by
  unfold createDesk at hslip
  rw [List.getElem?_map] at hslip
  exact Option.map_eq_some_iff.1 hslip

theorem createDesk_waits {h : Hub} {s : Nat} {id : Int64} {i : Nat} :
    h.createDesk.Waits s id i ↔ s = 0 ∧ (id, i) ∈ h.connection.creates.waiting := by
  constructor
  · rintro ⟨tray, htray, hmem⟩
    cases s with
    | zero =>
        obtain rfl : h.connection.creates = tray := Option.some.inj htray
        exact ⟨rfl, hmem⟩
    | succ s => cases htray
  · rintro ⟨rfl, hmem⟩
    exact ⟨_, rfl, hmem⟩

theorem Quiet.createDesk {h h' : Hub} (q : Quiet h h') : h'.createDesk = h.createDesk := by
  unfold Hub.createDesk
  rw [q.creates, q.waiting]

theorem createDesk_moveCreate (i : Nat) (stage : CreateStage) (h : Hub) :
    (h.moveCreate i stage).createDesk =
      { h.createDesk with slips := h.createDesk.slips.modify i (Slip.move stage) } := by
  have hslips : (h.creates.modify i fun call => { call with stage }).map CreateCall.slip =
      (h.creates.map CreateCall.slip).modify i (Slip.move stage) := by
    apply map_modify
    intro call
    rfl
  rw [moveCreate_eq]
  unfold createDesk
  dsimp only
  rw [hslips]

theorem createDesk_answerCreate (i : Nat) (a : Except EvaluatorError Int64) (h : Hub) :
    (h.answerCreate i a).createDesk =
      { h.createDesk with slips := h.createDesk.slips.modify i (Slip.give a) } := by
  have hslips : (h.creates.modify i fun call => { call with answer := call.answer <|> some a }).map CreateCall.slip =
      (h.creates.map CreateCall.slip).modify i (Slip.give a) := by
    apply map_modify
    intro call
    rfl
  rw [answerCreate_eq]
  unfold createDesk
  dsimp only
  rw [hslips]

/-- Giving one answer to all who wait. -/
theorem createDesk_answerAll (tickets : List Nat) (a : Except EvaluatorError Int64) (h : Hub) :
    (tickets.foldl (fun h i => h.answerCreate i a) h).createDesk =
      { h.createDesk with slips := giveAll tickets a h.createDesk.slips } :=
  slips_giveAll (fun h i => createDesk_answerCreate i a h) tickets h

theorem createDesk_failCreates {fault : EvaluatorError} (hfault : fault.OfClosing) (h : Hub) :
    h.createDesk.Proceeds createCourse (h.failCreates fault).createDesk := by
  unfold failCreates
  dsimp only [Pending.close]
  rw [createDesk_answerAll]
  exact .failed (d := h.createDesk) (s := 0) rfl hfault

/-- Taking a request back, as the desk sees it. -/
theorem createDesk_withdrawCreate (requestId : Int64) (own : Nat) (h : Hub) :
    (h.withdrawCreate requestId own).createDesk =
      { slips := giveAll ((h.connection.creates.find? requestId).toList.filter (· ≠ own))
          (.error createDropped) h.createDesk.slips
        trays := h.createDesk.trays.set 0 (h.connection.creates.erase requestId) } := by
  unfold withdrawCreate
  split
  · next i creates htake =>
      obtain ⟨hfound, rfl⟩ := Pending.take_eq_some_iff.1 htake
      rw [hfound]
      -- a request under the id that is not the own one tells its call that it was dropped
      by_cases hown : i = own
      · simp [hown, giveAll, createDesk]
      · rw [if_neg hown, createDesk_answerCreate]
        simp [hown, giveAll, createDesk]
  · next htake =>
      have hnone := Pending.take_eq_none_iff.1 htake
      rw [hnone, Pending.erase_of_find?_eq_none hnone]
      rfl

/-! ## Steps of the hub -/

/-- A call that creates takes one step. -/
theorem createDesk_stepCreate {h h' : Hub} {i : Nat} {call : CreateCall} {stage : CreateStage}
    (hcall : h.creates[i]? = some call) (hstep : CreateStep h i call stage h') :
    h.createDesk.Proceeds createCourse (h'.moveCreate i stage).createDesk := by
  have hslip := slip_of_create hcall
  rw [createDesk_moveCreate]
  cases hstep with
  | goes hgoes _ _ hquiet =>
      rw [hquiet.createDesk]
      exact .moved hslip hgoes
  | launches hstage hidle =>
      refine .moved hslip ?_
      show CreateStage.Goes call.answer call.stage _
      rw [hstage]
      exact .launches
  | @files request hstage hopen hfree =>
      refine .filed (d := h.createDesk) hslip ?_ rfl hopen hfree
      show CreateStage.Files request.requestId call.stage _
      rw [hstage]
      exact .filed request rfl
  | @withdraws requestId fault hstage =>
      rw [createDesk_withdrawCreate]
      refine .withdrawn (d := h.createDesk) hslip ?_ rfl (.connectionClosed _)
      show CreateStage.Withdraws requestId call.stage _
      rw [hstage]
      exact .withdrawn fault
  | @inserts evaluatorId h' hstage hinsert =>
      rw [insertSession_eq_ok hinsert]
      refine .moved (d := h.createDesk) hslip ?_
      show CreateStage.Goes call.answer call.stage _
      rw [hstage]
      exact .inserted _ _

/-- The call that starts the server is still at that. -/
def OneLauncher (h : Hub) : Prop :=
  ∀ i, h.launch = .underway i → ∃ call, h.creates[i]? = some call ∧ call.stage = .launching

/-- The call that starts the server goes on when the server has started. -/
theorem createDesk_launched {h : Hub} (hlauncher : h.OneLauncher) {i : Nat} {stage : CreateStage}
    (hlaunch : h.launch = .underway i) (hgoes : ∀ answer, CreateStage.Goes answer .launching stage)
    (launch : Launch) :
    h.createDesk.Proceeds createCourse (moveCreate i stage { h with launch }).createDesk := by
  obtain ⟨call, hcall, hstage⟩ := hlauncher i hlaunch
  rw [createDesk_moveCreate]
  refine .moved (d := h.createDesk) (slip_of_create hcall) ?_
  show CreateStage.Goes call.answer call.stage _
  rw [hstage]
  exact hgoes call.answer

end PklHost.Hub
