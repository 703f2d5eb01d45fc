import PklHost.Proofs.Hub.Frames

/-!
# The desk of the calls that evaluate

Calls that evaluate file their requests with the sessions, so that each session's pending requests are one
tray.  Every step of the hub is a step of this desk (`evaluateDesk_step`): the loop delivers what a
session's requests are answered with, and everything else proceeds.
-/

namespace PklHost

namespace Hub

/-! ## The course of a call -/

def EvaluateStage.standing : EvaluateStage → Standing
  | .opening | .numbering | .registering _ => .unfiled
  | .sending requestId _ | .withdrawing requestId _ => .filed (some requestId)
  | .waiting => .filed none
  | .finished _ => .settled
  | .abandoned => .abandoned

def EvaluateStage.outcome? : EvaluateStage → Option (Except EvaluatorError Bytes)
  | .finished outcome => some outcome
  | .opening | .numbering | .registering _ | .sending .. | .withdrawing .. | .waiting | .abandoned =>
    none

theorem EvaluateStage.outcome?_eq_some {stage : EvaluateStage} {o : Except EvaluatorError Bytes} :
    stage.outcome? = some o ↔ stage = .finished o := by
  constructor
  · intro h
    cases stage with
    | finished outcome => rw [Option.some.inj h]
    | _ => cases h
  · rintro rfl
    rfl

/-- Where a call goes by itself.  It returns with the answer that it has, or with a fault of the host. -/
inductive EvaluateStage.Goes (a : Option (Except EvaluatorError Bytes)) :
    EvaluateStage → EvaluateStage → Prop
  | stays (stage : EvaluateStage) : Goes a stage stage
  | opened : Goes a .opening .numbering
  | numbered (requestId : Int64) : Goes a .numbering (.registering requestId)
  | refusedAtOnce {fault : EvaluatorError} (hfault : ¬ fault.OfAnswer) :
      Goes a .opening (.finished (.error fault))
  | refused (requestId : Int64) {fault : EvaluatorError} (hfault : ¬ fault.OfAnswer) :
      Goes a (.registering requestId) (.finished (.error fault))
  | sends (requestId : Int64) (progress progress' : Sending) :
      Goes a (.sending requestId progress) (.sending requestId progress')
  | sent (requestId : Int64) (progress : Sending) : Goes a (.sending requestId progress) .waiting
  | unsent (requestId : Int64) (progress : Sending) {fault : EvaluatorError}
      (hfault : ¬ fault.OfAnswer) :
      Goes a (.sending requestId progress) (.withdrawing requestId fault)
  | answered {outcome : Except EvaluatorError Bytes} (h : a = some outcome) :
      Goes a .waiting (.finished outcome)

/-- A call files its request before it sends it. -/
inductive EvaluateStage.Files (requestId : Int64) : EvaluateStage → EvaluateStage → Prop
  | filed : Files requestId (.registering requestId) (.sending requestId .checking)

/-- A call whose request was not sent takes it back and returns. -/
inductive EvaluateStage.Withdraws (requestId : Int64) : EvaluateStage → EvaluateStage → Prop
  | withdrawn (fault : EvaluatorError) :
      Withdraws requestId (.withdrawing requestId fault) (.finished (.error fault))

/-- The course of a call that evaluates. -/
def evaluateCourse : Course Bytes EvaluateStage (Except EvaluatorError Bytes) where
  first := .opening
  abandoned := .abandoned
  standing := EvaluateStage.standing
  outcome? := EvaluateStage.outcome?
  Goes := EvaluateStage.Goes
  Files := EvaluateStage.Files
  Withdraws := EvaluateStage.Withdraws
  standing_first := rfl
  standing_abandoned := rfl
  standing_outcome := by
    intro stage o h
    rw [EvaluateStage.outcome?_eq_some.1 h]
    rfl
  passes := by
    intro a stage stage' h
    cases h with
    | stays => exact .stays _
    | opened => exact .stays _
    | numbered => exact .stays _
    | refusedAtOnce => exact .refused
    | refused => exact .refused
    | sends => exact .stays _
    | sent => exact .forgets _
    | unsent => exact .stays _
    | answered h => exact .settles (by rw [h]; exact Option.some_ne_none _) _
  files := by
    rintro id stage stage' ⟨⟩
    exact ⟨rfl, rfl⟩
  withdraws := by
    rintro id stage stage' ⟨fault⟩
    exact ⟨rfl, rfl⟩
  goes_over := by
    intro a stage stage' h hover
    cases h with
    | stays => rfl
    | _ =>
        rcases hover with ⟨o, ho⟩ | habandoned
        · cases ho
        · cases habandoned

/-! ## One step of a call -/

/-- One step of a call that evaluates, case by case: its next stage, and the hub. -/
inductive EvaluateTurn (h : Hub) (i : Nat) (call : EvaluateCall) (session : Session) :
    EvaluateStage → Hub → Prop
  | stays : EvaluateTurn h i call session call.stage h
  | refusedAtOnce (hstage : call.stage = .opening) :
      EvaluateTurn h i call session (.finished (.error .closed)) h
  | opens (hstage : call.stage = .opening) : EvaluateTurn h i call session .numbering h
  | numbers (requestId : Int64) (ids : RequestIds) (hstage : call.stage = .numbering) :
      EvaluateTurn h i call session (.registering requestId)
        (h.setSession call.session { session with ids })
  | refused {requestId : Int64} {fault : EvaluatorError} (hstage : call.stage = .registering requestId)
      (hfault : ¬ fault.OfAnswer) : EvaluateTurn h i call session (.finished (.error fault)) h
  | files {requestId : Int64} (hstage : call.stage = .registering requestId)
      (hopen : session.pending.isClosed = false)
      (hfree : session.pending.find? requestId = none) :
      EvaluateTurn h i call session (.sending requestId .checking)
        (h.setSession call.session { session with
          pending := { session.pending with
            waiting := session.pending.waiting ++ [(requestId, i)] } })
  | sends {requestId : Int64} {progress progress' : Sending} {h' : Hub}
      (hstage : call.stage = .sending requestId progress)
      (hsending : h.stepSending (.evaluate (call.request session.evaluatorId requestId)) progress =
        (.going progress', h')) :
      EvaluateTurn h i call session (.sending requestId progress') h'
  | sent {requestId : Int64} {progress : Sending} {h' : Hub}
      (hstage : call.stage = .sending requestId progress)
      (hsending : h.stepSending (.evaluate (call.request session.evaluatorId requestId)) progress =
        (.done, h')) :
      EvaluateTurn h i call session .waiting h'
  | unsent {requestId : Int64} {progress : Sending} {fault : EvaluatorError} {h' : Hub}
      (hstage : call.stage = .sending requestId progress)
      (hsending : h.stepSending (.evaluate (call.request session.evaluatorId requestId)) progress =
        (.failed fault, h')) :
      EvaluateTurn h i call session (.withdrawing requestId fault) h'
  | withdraws {requestId : Int64} {fault : EvaluatorError}
      (hstage : call.stage = .withdrawing requestId fault) :
      EvaluateTurn h i call session (.finished (.error fault))
        (h.withdrawEvaluate call.session session requestId i)
  | returns {outcome : Except EvaluatorError Bytes} (hstage : call.stage = .waiting)
      (hanswer : call.answer = some outcome) : EvaluateTurn h i call session (.finished outcome) h

section

variable {h : Hub} {i : Nat} {call : EvaluateCall} {session : Session}

theorem EvaluateTurn.of_stage {stage : EvaluateStage} (hstage : call.stage = stage) :
    EvaluateTurn h i call session stage h :=
  hstage ▸ .stays

/-- Every step of a call that evaluates is one of those. -/
theorem stepEvaluate_turn (h : Hub) (i : Nat) (call : EvaluateCall) (session : Session) :
    EvaluateTurn h i call session (h.stepEvaluate i call session).1
      (h.stepEvaluate i call session).2 := by
  cases hstage : call.stage with
  | opening =>
      unfold stepEvaluate
      rw [hstage]
      dsimp only
      split
      · exact .refusedAtOnce hstage
      · exact .opens hstage
  | numbering =>
      unfold stepEvaluate
      rw [hstage]
      exact .numbers _ _ hstage
  | registering requestId =>
      unfold stepEvaluate
      rw [hstage]
      dsimp only
      split
      · next pending hregister =>
          obtain ⟨hopen, hfree, rfl⟩ := Pending.register_eq_ok_iff.1 hregister
          exact .files hstage hopen hfree
      · exact .refused hstage fun h => nomatch h
      · exact .refused hstage fun h => nomatch h
  | sending requestId progress =>
      unfold stepEvaluate
      rw [hstage]
      dsimp only
      split
      · next hsending => exact .sends hstage hsending
      · next hsending => exact .sent hstage hsending
      · next hsending => exact .unsent hstage hsending
  | withdrawing requestId fault =>
      unfold stepEvaluate
      rw [hstage]
      exact .withdraws hstage
  | waiting =>
      unfold stepEvaluate
      rw [hstage]
      dsimp only
      split
      · next hanswer => exact .returns hstage hanswer
      · exact .of_stage hstage
  | finished outcome | abandoned =>
      unfold stepEvaluate
      rw [hstage]
      exact .of_stage hstage

end

/-- What such a step comes to for the desk of the calls, before the call is moved to its next stage. -/
inductive EvaluateStep (h : Hub) (i : Nat) (call : EvaluateCall) (session : Session) :
    EvaluateStage → Hub → Prop
  | goes {stage : EvaluateStage} {h' : Hub} (hgoes : call.stage.Goes call.answer stage)
      (hquiet : Quiet h h') : EvaluateStep h i call session stage h'
  | numbers (requestId : Int64) (ids : RequestIds) (hstage : call.stage = .numbering) :
      EvaluateStep h i call session (.registering requestId)
        (h.setSession call.session { session with ids })
  | files {requestId : Int64} (hstage : call.stage = .registering requestId)
      (hopen : session.pending.isClosed = false)
      (hfree : session.pending.find? requestId = none) :
      EvaluateStep h i call session (.sending requestId .checking)
        (h.setSession call.session { session with
          pending := { session.pending with
            waiting := session.pending.waiting ++ [(requestId, i)] } })
  | withdraws {requestId : Int64} {fault : EvaluatorError}
      (hstage : call.stage = .withdrawing requestId fault) :
      EvaluateStep h i call session (.finished (.error fault))
        (h.withdrawEvaluate call.session session requestId i)

section

variable {h h' : Hub} {i : Nat} {call : EvaluateCall} {session : Session} {stage : EvaluateStage}

theorem EvaluateStep.passes {before : EvaluateStage} (hstage : call.stage = before)
    (hgoes : before.Goes call.answer stage) (hquiet : Quiet h h') :
    EvaluateStep h i call session stage h' := by
  subst hstage
  exact .goes hgoes hquiet

theorem EvaluateTurn.step (hturn : EvaluateTurn h i call session stage h') :
    EvaluateStep h i call session stage h' := by
  cases hturn with
  | stays => exact .goes (.stays _) (.refl h)
  | refusedAtOnce hstage => exact .passes hstage (.refusedAtOnce fun h => nomatch h) (.refl h)
  | opens hstage => exact .passes hstage .opened (.refl h)
  | numbers requestId ids hstage => exact .numbers requestId ids hstage
  | refused hstage hfault => exact .passes hstage (.refused _ hfault) (.refl h)
  | files hstage hopen hfree => exact .files hstage hopen hfree
  | sends hstage hsending => exact .passes hstage (.sends _ _ _) (quiet_of_stepSending hsending)
  | sent hstage hsending => exact .passes hstage (.sent _ _) (quiet_of_stepSending hsending)
  | unsent hstage hsending =>
      exact .passes hstage (.unsent _ _ (stepSending_fault hsending)) (quiet_of_stepSending hsending)
  | withdraws hstage => exact .withdraws hstage
  | returns hstage hanswer => exact .passes hstage (.answered hanswer) (.refl h)

/-- Beyond what is quiet, a step touches calls that evaluate and what the sessions keep for
themselves. -/
theorem EvaluateStep.touches (hsession : h.sessions[call.session]? = some session)
    (hstep : EvaluateStep h i call session stage h') :
    ∃ evaluates sessions, sessions.map Session.face = h.faces ∧
      Quiet { h with evaluates, sessions } h' := by
  -- a session that has drawn an id or keeps other requests is that of the same evaluator
  have hset : ∀ changed : Session, changed.face = session.face →
      ∃ evaluates sessions, sessions.map Session.face = h.faces ∧
        Quiet { h with evaluates, sessions } (h.setSession call.session changed) :=
    fun changed hface => ⟨h.evaluates, _, map_set_face hsession hface, .refl _⟩
  cases hstep with
  | goes _ hquiet => exact ⟨h.evaluates, h.sessions, rfl, hquiet⟩
  | numbers _ _ _ => exact hset _ rfl
  | files _ _ _ => exact hset _ rfl
  | @withdraws requestId fault _ =>
      obtain ⟨evaluates, sessions, hfaces, heq⟩ := withdrawEvaluate_eq hsession requestId i
      exact ⟨evaluates, sessions, hfaces, by rw [← heq]; exact .refl _⟩

end

/-! ## The desk -/

/-- What the desk knows of a call. -/
def EvaluateCall.slip (call : EvaluateCall) : Slip Bytes EvaluateStage :=
  ⟨call.session, call.answer, call.stage⟩

def evaluateDesk (h : Hub) : Desk Bytes EvaluateStage where
  slips := h.evaluates.map EvaluateCall.slip
  trays := h.sessions.map Session.pending

theorem slip_of_evaluate {h : Hub} {i : Nat} {call : EvaluateCall}
    (hcall : h.evaluates[i]? = some call) : h.evaluateDesk.slips[i]? = some call.slip := by
  unfold evaluateDesk
  rw [List.getElem?_map, hcall]
  rfl

theorem tray_of_session {h : Hub} {s : Nat} {session : Session}
    (hsession : h.sessions[s]? = some session) : h.evaluateDesk.trays[s]? = some session.pending := by
  unfold evaluateDesk
  rw [List.getElem?_map, hsession]
  rfl

theorem evaluate_of_slip {h : Hub} {i : Nat} {slip : Slip Bytes EvaluateStage}
    (hslip : h.evaluateDesk.slips[i]? = some slip) :
    ∃ call, h.evaluates[i]? = some call ∧ call.slip = slip := by
  unfold evaluateDesk at hslip
  rw [List.getElem?_map] at hslip
  exact Option.map_eq_some_iff.1 hslip

theorem session_of_tray {h : Hub} {s : Nat} {tray : Pending Nat}
    (htray : h.evaluateDesk.trays[s]? = some tray) :
    ∃ session, h.sessions[s]? = some session ∧ session.pending = tray := by
  unfold evaluateDesk at htray
  rw [List.getElem?_map] at htray
  exact Option.map_eq_some_iff.1 htray

theorem evaluateDesk_waits {h : Hub} {s : Nat} {id : Int64} {i : Nat} :
    h.evaluateDesk.Waits s id i ↔
      ∃ session, h.sessions[s]? = some session ∧ (id, i) ∈ session.pending.waiting := by
  constructor
  · rintro ⟨tray, htray, hmem⟩
    obtain ⟨session, hsession, rfl⟩ := session_of_tray htray
    exact ⟨session, hsession, hmem⟩
  · rintro ⟨session, hsession, hmem⟩
    exact ⟨session.pending, tray_of_session hsession, hmem⟩

theorem Quiet.evaluateDesk {h h' : Hub} (q : Quiet h h') : h'.evaluateDesk = h.evaluateDesk := by
  unfold Hub.evaluateDesk
  rw [q.evaluates, q.sessions]

theorem evaluateDesk_moveEvaluate (i : Nat) (stage : EvaluateStage) (h : Hub) :
    (h.moveEvaluate i stage).evaluateDesk =
      { h.evaluateDesk with slips := h.evaluateDesk.slips.modify i (Slip.move stage) } := by
  have hslips : (h.evaluates.modify i fun call => { call with stage }).map EvaluateCall.slip =
      (h.evaluates.map EvaluateCall.slip).modify i (Slip.move stage) := by
    apply map_modify
    intro call
    rfl
  rw [moveEvaluate_eq]
  unfold evaluateDesk
  dsimp only
  rw [hslips]

theorem evaluateDesk_answerEvaluate (i : Nat) (a : Except EvaluatorError Bytes) (h : Hub) :
    (h.answerEvaluate i a).evaluateDesk =
      { h.evaluateDesk with slips := h.evaluateDesk.slips.modify i (Slip.give a) } := by
  have hslips : (h.evaluates.modify i fun call => { call with answer := call.answer <|> some a }).map EvaluateCall.slip =
      (h.evaluates.map EvaluateCall.slip).modify i (Slip.give a) := by
    apply map_modify
    intro call
    rfl
  rw [answerEvaluate_eq]
  unfold evaluateDesk
  dsimp only
  rw [hslips]

theorem evaluateDesk_setSession (s : Nat) (session : Session) (h : Hub) :
    (h.setSession s session).evaluateDesk =
      { h.evaluateDesk with trays := h.evaluateDesk.trays.set s session.pending } := by
  unfold evaluateDesk setSession
  rw [List.map_set]

/-- Giving one answer to all who wait. -/
theorem evaluateDesk_answerAll (tickets : List Nat) (a : Except EvaluatorError Bytes) (h : Hub) :
    (tickets.foldl (fun h i => h.answerEvaluate i a) h).evaluateDesk =
      { h.evaluateDesk with slips := giveAll tickets a h.evaluateDesk.slips } :=
  slips_giveAll (fun h i => evaluateDesk_answerEvaluate i a h) tickets h

/-- Failing a session fails whoever waits in its tray. -/
theorem evaluateDesk_failSession (s : Nat) {fault : EvaluatorError} (hfault : fault.OfClosing)
    (h : Hub) : h.evaluateDesk.Proceeds evaluateCourse (h.failSession s fault).evaluateDesk := by
  unfold failSession
  split
  · next session hsession =>
      dsimp only [Pending.close]
      rw [evaluateDesk_answerAll, evaluateDesk_setSession]
      exact .failed (tray_of_session hsession) hfault
  · exact .kept

/-- Taking a request back, as the desk sees it. -/
theorem evaluateDesk_withdrawEvaluate {h : Hub} {s : Nat} {session : Session}
    (hsession : h.sessions[s]? = some session) (requestId : Int64) (own : Nat) :
    (h.withdrawEvaluate s session requestId own).evaluateDesk =
      { slips := giveAll ((session.pending.find? requestId).toList.filter (· ≠ own))
          (.error evaluateDropped) h.evaluateDesk.slips
        trays := h.evaluateDesk.trays.set s (session.pending.erase requestId) } := by
  unfold withdrawEvaluate
  split
  · next i pending htake =>
      obtain ⟨hfound, rfl⟩ := Pending.take_eq_some_iff.1 htake
      rw [hfound]
      -- a request under the id that is not the own one tells its call that it was dropped
      by_cases hown : i = own
      · rw [if_pos hown, evaluateDesk_setSession]
        simp [hown, giveAll]
      · rw [if_neg hown, evaluateDesk_answerEvaluate, evaluateDesk_setSession]
        simp [hown, giveAll]
  · next htake =>
      have hnone := Pending.take_eq_none_iff.1 htake
      rw [hnone, Pending.erase_of_find?_eq_none hnone, set_self_of_getElem? (tray_of_session hsession)]
      rfl

/-! ## Steps of the hub -/

/-- A call that evaluates takes one step. -/
theorem evaluateDesk_stepEvaluate {h h' : Hub} {i : Nat} {call : EvaluateCall} {session : Session}
    {stage : EvaluateStage} (hcall : h.evaluates[i]? = some call)
    (hsession : h.sessions[call.session]? = some session)
    (hstep : EvaluateStep h i call session stage h') :
    h.evaluateDesk.Proceeds evaluateCourse (h'.moveEvaluate i stage).evaluateDesk := by
  have hslip := slip_of_evaluate hcall
  have htray := tray_of_session hsession
  rw [evaluateDesk_moveEvaluate]
  cases hstep with
  | goes hgoes hquiet =>
      rw [hquiet.evaluateDesk]
      exact .moved hslip hgoes
  | numbers requestId ids hstage =>
      -- drawing an id leaves the requests of the session as they are
      rw [evaluateDesk_setSession]
      dsimp only
      rw [set_self_of_getElem? htray]
      refine .moved hslip ?_
      show EvaluateStage.Goes call.answer call.stage _
      rw [hstage]
      exact .numbered requestId
  | @files requestId hstage hopen hfree =>
      rw [evaluateDesk_setSession]
      refine .filed hslip ?_ htray hopen hfree
      show EvaluateStage.Files requestId call.stage _
      rw [hstage]
      exact .filed
  | @withdraws requestId fault hstage =>
      rw [evaluateDesk_withdrawEvaluate hsession]
      refine .withdrawn hslip ?_ htray (.connectionClosed _)
      show EvaluateStage.Withdraws requestId call.stage _
      rw [hstage]
      exact .withdrawn fault

end Hub

end PklHost
