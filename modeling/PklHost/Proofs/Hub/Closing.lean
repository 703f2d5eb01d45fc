import PklHost.Proofs.Hub.Doors
import PklHost.Proofs.Hub.Mail

/-!
# Steps of the hub at its doors

Whatever happens to a hub, at its doors it is one of their moves (`doors_step`).  An evaluator id is taken
off the registry by an errand that has closed the session before, and that remembers so in its stage:
whatever session an errand is about to take off is closed (`closedBeforeLeaving_step`).
-/

namespace PklHost.Hub

open Message (Incoming Outgoing)

/-- The session that an errand takes off the registry in its next step. -/
def Errand.leaves? : Errand → Option Nat
  | .close s _ .unregistering | .leave s => some s
  | .close _ _ .failing | .close _ _ (.sending _) | .release .. | .notice .. | .read .. | .reply ..
  | .closeManager | .disconnect | .shuttingDown | .finished => none

def Leaving (h : Hub) (s : Nat) : Prop :=
  ∃ e ∈ h.errands, e.leaves? = some s

/-- The action is the step of an errand that takes a session off the registry. -/
def LeavesBy (h : Hub) (a : Action) (s : Nat) : Prop :=
  ∃ i e, a = .advance (.errand i) ∧ h.errands[i]? = some e ∧ e.leaves? = some s

theorem LeavesBy.leaving {h : Hub} {a : Action} {s : Nat} (hleaves : h.LeavesBy a s) : h.Leaving s := by
  obtain ⟨i, e, -, he, hs⟩ := hleaves
  exact ⟨e, List.mem_of_getElem? he, hs⟩

def Session.door (session : Session) : Int64 × Bool :=
  (session.evaluatorId, session.pending.isClosed)

/-- What a shutdown of the hub closes. -/
def doors (h : Hub) : Doors where
  phase := h.connection.phase
  createsClosed := h.connection.creates.isClosed
  sessions := h.sessions.map Session.door
  registry := h.connection.registry

variable {h h' : Hub} {Leaves : Nat → Prop}

theorem doors_ids (h : Hub) : h.doors.ids = h.evaluatorIds := by
  unfold Doors.ids evaluatorIds doors
  rw [List.map_map]
  rfl

/-! ## What happens at no door -/

@[simp] theorem doors_setErrand (i : Nat) (e : Errand) (h : Hub) : (h.setErrand i e).doors = h.doors := rfl

@[simp] theorem doors_answerCreate (i : Nat) (a : Except EvaluatorError Int64) (h : Hub) :
    (h.answerCreate i a).doors = h.doors := by
  rw [answerCreate_eq]
  rfl

@[simp] theorem doors_moveCreate (i : Nat) (stage : CreateStage) (h : Hub) :
    (h.moveCreate i stage).doors = h.doors := by
  rw [moveCreate_eq]
  rfl

@[simp] theorem doors_answerEvaluate (i : Nat) (a : Except EvaluatorError Bytes) (h : Hub) :
    (h.answerEvaluate i a).doors = h.doors := by
  rw [answerEvaluate_eq]
  rfl

@[simp] theorem doors_moveEvaluate (i : Nat) (stage : EvaluateStage) (h : Hub) :
    (h.moveEvaluate i stage).doors = h.doors := by
  rw [moveEvaluate_eq]
  rfl

/-- A session is replaced by one that is closed if it was. -/
theorem doors_setSession {s : Nat} {session changed : Session}
    (hsession : h.sessions[s]? = some session) (hid : changed.evaluatorId = session.evaluatorId)
    (hclosed : changed.pending.isClosed = session.pending.isClosed) :
    (h.setSession s changed).doors = h.doors := by
  have hdoor : changed.door = session.door := by
    unfold Session.door
    rw [hid, hclosed]
  have hat : (h.sessions.map Session.door)[s]? = some session.door := by
    rw [List.getElem?_map, hsession]
    rfl
  unfold doors setSession
  dsimp only
  rw [List.map_set, hdoor, set_self_of_getElem? hat]

theorem doors_withdrawCreate (requestId : Int64) (own : Nat) (h : Hub) :
    (h.withdrawCreate requestId own).doors = h.doors := by
  unfold withdrawCreate
  split
  · next i creates htake =>
      obtain ⟨-, rfl⟩ := Pending.take_eq_some_iff.1 htake
      dsimp only
      split
      · rfl
      · rw [doors_answerCreate]
        rfl
  · rfl

theorem doors_withdrawEvaluate {s : Nat} {session : Session}
    (hsession : h.sessions[s]? = some session) (requestId : Int64) (own : Nat) :
    (h.withdrawEvaluate s session requestId own).doors = h.doors := by
  unfold withdrawEvaluate
  split
  · next i pending htake =>
      obtain ⟨-, rfl⟩ := Pending.take_eq_some_iff.1 htake
      have hset : (h.setSession s { session with pending := session.pending.erase requestId }).doors =
          h.doors := doors_setSession hsession rfl rfl
      dsimp only
      split
      · exact hset
      · rw [doors_answerEvaluate, hset]
  · rfl

/-! ## What closes -/

theorem doors_failCreates (fault : EvaluatorError) (h : Hub) :
    (h.failCreates fault).doors = { h.doors with createsClosed := true } := by
  obtain ⟨creates, -, hall⟩ := answerCreates_eq h.connection.creates.close.1 (.error fault)
    { h with connection := { h.connection with creates := h.connection.creates.close.2 } }
  unfold failCreates
  dsimp only at hall ⊢
  rw [hall]
  rfl

theorem doors_failSession (s : Nat) (fault : EvaluatorError) (h : Hub) :
    (h.failSession s fault).doors = h.doors.closeSession s := by
  obtain ⟨evaluates, heq⟩ := h.failSession_eq s fault
  have hsessions : (h.sessions.modify s fun session =>
      { session with pending := session.pending.close.2 }).map Session.door =
      (h.sessions.map Session.door).modify s fun door => (door.1, true) := by
    apply map_modify
    intro session
    rfl
  rw [heq]
  unfold doors Doors.closeSession
  dsimp only
  rw [hsessions]

theorem closed_doors {s : Nat} : h.doors.Closed s ↔
    ∃ session, h.sessions[s]? = some session ∧ session.pending.isClosed = true := by
  unfold Doors.Closed doors
  dsimp only
  rw [List.getElem?_map]
  constructor
  · rintro ⟨id, hdoor⟩
    obtain ⟨session, hsession, heq⟩ := Option.map_eq_some_iff.1 hdoor
    exact ⟨session, hsession, (Prod.mk.inj heq).2⟩
  · rintro ⟨session, hsession, hclosed⟩
    exact ⟨session.evaluatorId, by rw [hsession, ← hclosed]; rfl⟩

theorem phase_of_not_isClosed (hopen : h.connection.isClosed = false) : h.connection.phase = .isOpen := by
  unfold Connection.isClosed at hopen
  split at hopen
  · assumption
  · cases hopen
  · cases hopen

theorem moves_beginShutdown (reason : CloseReason) (h : Hub) :
    h.doors.Moves Leaves (h.beginShutdown reason).2.doors := by
  unfold beginShutdown
  split
  · exact .stays
  · next hopen => exact .begins reason (phase_of_not_isClosed (Bool.eq_false_iff.2 hopen))

theorem moves_of_stepSending {m : Outgoing} {progress : Sending} {sent : Sent}
    (hsending : h.stepSending m progress = (sent, h')) : h.doors.Moves Leaves h'.doors := by
  cases sendingTurn hsending with
  | breaks _ hopen => exact .begins (.writeFailed writeFault) (phase_of_not_isClosed hopen)
  | _ => exact .stays

/-! ## Calls -/

theorem moves_of_insertSession {evaluatorId : Int64} {o : EvaluatorOptions}
    (hinsert : h.insertSession evaluatorId o = .ok h') : h.doors.Moves Leaves h'.doors := by
  have hopen : h.connection.isClosed = false := by
    unfold insertSession at hinsert
    split at hinsert
    · cases hinsert
    · next hopen => exact Bool.eq_false_iff.2 hopen
  have hdoors : h'.doors = { h.doors with
      sessions := h.doors.sessions ++ [(evaluatorId, false)]
      registry := (h.doors.unregister evaluatorId).registry ++
        [(evaluatorId, h.doors.sessions.length)] } := by
    rw [insertSession_eq_ok hinsert]
    simp [doors, Connection.enroll, Connection.unregister, Doors.unregister, Session.door]
  rw [hdoors]
  exact .enters evaluatorId (phase_of_not_isClosed hopen)

theorem CreateTurn.moves {i : Nat} {call : CreateCall} {stage : CreateStage}
    (hturn : CreateTurn h i call stage h') : h.doors.Moves Leaves h'.doors := by
  cases hturn with
  | stays | connects _ | launches _ _ | enters _ | confirms _ | numbers _ _ | unnumbered _ _
  | files _ _ _ | accepts _ _ | returns _ _ | shutOut _ _ | refused _ _ _ => exact .stays
  | closes _ => exact h.moves_beginShutdown _
  | sends _ hsending | sent _ hsending | unsent _ hsending => exact moves_of_stepSending hsending
  | withdraws _ =>
      rw [doors_withdrawCreate]
      exact .stays
  | inserts _ hinsert => exact moves_of_insertSession hinsert

theorem EvaluateTurn.moves {i : Nat} {call : EvaluateCall} {session : Session} {stage : EvaluateStage}
    (hsession : h.sessions[call.session]? = some session)
    (hturn : EvaluateTurn h i call session stage h') : h.doors.Moves Leaves h'.doors := by
  have hset : ∀ changed : Session, changed.evaluatorId = session.evaluatorId →
      changed.pending.isClosed = session.pending.isClosed →
      h.doors.Moves Leaves (h.setSession call.session changed).doors := by
    intro changed hid hclosed
    rw [doors_setSession hsession hid hclosed]
    exact .stays
  cases hturn with
  | stays | refusedAtOnce _ | opens _ | refused _ _ | returns _ _ => exact .stays
  | numbers _ _ _ | files _ _ _ => exact hset _ rfl rfl
  | sends _ hsending | sent _ hsending | unsent _ hsending => exact moves_of_stepSending hsending
  | withdraws _ =>
      rw [doors_withdrawEvaluate hsession]
      exact .stays

/-! ## Errands -/

theorem doors_ids_of_session {s : Nat} {session : Session}
    (hsession : h.sessions[s]? = some session) : h.doors.ids[s]? = some session.evaluatorId := by
  rw [doors_ids]
  unfold evaluatorIds
  rw [List.getElem?_map, hsession]
  rfl

/-- The errand that takes a session off the registry said so before. -/
theorem ErrandTurn.moves {e e' : Errand} (hturn : ErrandTurn h e e' h')
    (he : ∀ s, e.leaves? = some s → Leaves s) : h.doors.Moves Leaves h'.doors := by
  cases hturn with
  | gone _ _ | passes _ | left _ | reads _ _ | ignores _ | closedBefore _ | flags _ | connectionless _
  | waits | ended _ | rests => exact .stays
  | fails _ | releases _ =>
      rw [doors_failSession]
      exact .closes _
  | unregisters hsession | leaves hsession =>
      exact .unregisters (he _ rfl) (doors_ids_of_session hsession)
  | tells hsending | told hsending _ | notices hsending | noticed hsending _ | replies hsending
  | replied hsending => exact moves_of_stepSending hsending
  | unreplied hsending =>
      have hmoves : h.doors.Moves Leaves _ := moves_of_stepSending hsending
      exact hmoves
  | closes _ _ => exact h.moves_beginShutdown .managerClosed

/-! ## The shutdown and the loop -/

theorem moves_stepShutdown (h : Hub) : h.doors.Moves Leaves h.stepShutdown.doors := by
  unfold stepShutdown
  split
  · exact .stays
  · exact .stays
  · next reason hphase =>
      have hdoors : ((h.failCreates (.connectionClosed reason)).setPhase
          (.closing reason .drainingRegistry)).doors =
          { h.doors with phase := .closing reason .drainingRegistry, createsClosed := true } :=
        congrArg (fun d : Doors => { d with phase := .closing reason .drainingRegistry })
          (doors_failCreates _ h)
      rw [hdoors]
      exact .failsCreates hphase
  · next reason hphase => exact .drains hphase
  · next reason hphase => exact .ends hphase
  · next reason s left hphase =>
      have hdoors : ((h.failSession s (.connectionClosed reason)).setPhase
          (.closing reason (.failingSessions left))).doors =
          { h.doors.closeSession s with phase := .closing reason (.failingSessions left) } :=
        congrArg (fun d : Doors => { d with phase := .closing reason (.failingSessions left) })
          (doors_failSession s _ h)
      rw [hdoors]
      exact .failsSession hphase

theorem doors_dispatch (m : Incoming) (h : Hub) : (dispatch m h).doors = h.doors := by
  unfold dispatch
  split
  · next r =>
      unfold deliverCreate
      cases htake : h.connection.creates.take r.requestId with
      | none => rfl
      | some found =>
          obtain ⟨i, creates⟩ := found
          obtain ⟨-, rfl⟩ := Pending.take_eq_some_iff.1 htake
          show (answerCreate i _ _).doors = _
          rw [doors_answerCreate]
          rfl
  · split
    · rfl
    · split <;> rfl

theorem doors_receive (s : Nat) (m : Incoming) (h : Hub) : (receive s m h).doors = h.doors := by
  unfold receive
  split
  · rfl
  · next session hsession =>
      split
      · next r =>
          unfold deliverEvaluate
          cases htake : session.pending.take r.requestId with
          | none => rfl
          | some found =>
              obtain ⟨i, pending⟩ := found
              obtain ⟨-, rfl⟩ := Pending.take_eq_some_iff.1 htake
              show (answerEvaluate i _ _).doors = _
              rw [doors_answerEvaluate]
              exact doors_setSession hsession rfl rfl
      all_goals rfl

theorem doors_readNext (h : Hub) : h.readNext.doors = h.doors := by
  unfold readNext
  split
  · rfl
  · rfl
  · rw [doors_dispatch]
    rfl
  · rfl

theorem moves_stepLoop (h : Hub) : h.doors.Moves Leaves h.stepLoop.doors := by
  unfold stepLoop
  split
  · rw [doors_readNext]
    exact .stays
  · rw [doors_receive]
    exact .stays
  · next reason _ =>
      have hbegins : h.doors.Moves Leaves _ :=
        moves_beginShutdown reason (h.note (.connectionLost reason))
      split <;> next heq => rw [heq] at hbegins; exact hbegins
  · split <;> exact .stays
  · exact .stays

/-! ## Actions -/

theorem moves_advance (who : Caller) (h : Hub) :
    h.doors.Moves (h.LeavesBy (.advance who)) (h.advance who).doors := by
  generalize heq : h.advance who = h'
  have hturn := h.advance_turn who
  rw [heq] at hturn
  cases hturn with
  | none => exact .stays
  | create _ hturn =>
      rw [doors_moveCreate]
      exact hturn.moves
  | evaluate _ hsession hturn =>
      rw [doors_moveEvaluate]
      exact hturn.moves hsession
  | errand he hturn => exact hturn.moves fun s hs => ⟨_, _, rfl, he, hs⟩

theorem doors_abandon (who : Caller) (h : Hub) : (h.abandon who).doors = h.doors := by
  unfold abandon
  split
  · split
    · split
      · exact doors_moveCreate _ _ h
      · rfl
    · rfl
  · split
    · split
      · exact doors_moveEvaluate _ _ h
      · rfl
    · rfl
  · rfl

theorem doors_endLaunch (fault : Option TransportError) (h : Hub) :
    (h.endLaunch fault).doors = h.doors := by
  unfold endLaunch
  split
  · split <;> exact doors_moveCreate _ _ _
  · rfl
  · rfl

theorem doors_haltLoop (h : Hub) : h.haltLoop.doors = h.doors := by
  unfold haltLoop
  split
  · split <;> rfl
  all_goals rfl

/-- Whatever happens to a hub is a move of its doors, and takes a session off the registry only where it is the
step of an errand that does so. -/
theorem doors_step_by (h : Hub) (a : Action) : h.doors.Moves (h.LeavesBy a) (h.step a).doors := by
  cases a with
  | advance who => exact h.moves_advance who
  | abandon who =>
      show h.doors.Moves (h.LeavesBy (.abandon who)) (h.abandon who).doors
      rw [doors_abandon]
      exact .stays
  | endLaunch fault =>
      show h.doors.Moves (h.LeavesBy (.endLaunch fault)) (h.endLaunch fault).doors
      rw [doors_endLaunch]
      exact .stays
  | shutdown => exact h.moves_stepShutdown
  | loop => exact h.moves_stepLoop
  | haltLoop =>
      show h.doors.Moves (h.LeavesBy .haltLoop) h.haltLoop.doors
      rw [doors_haltLoop]
      exact .stays
  | _ => exact .stays

theorem doors_step (h : Hub) (a : Action) : h.doors.Moves h.Leaving (h.step a).doors :=
  (h.doors_step_by a).mono fun _ hleaves => hleaves.leaving

/-! ## Who is taken off the registry is closed -/

/-- An errand that is about to take a session off the registry has just closed it. -/
theorem ErrandTurn.closed_of_leaves? {e e' : Errand} {s : Nat} (hturn : ErrandTurn h e e' h')
    (hs : e'.leaves? = some s) : h'.doors.Closed s := by
  have hfails : ∀ {session : Session}, h.sessions[s]? = some session →
      (h.failSession s .closed).doors.Closed s := by
    intro session hsession
    rw [doors_failSession]
    apply Doors.closed_closeSession
    show s < (h.sessions.map Session.door).length
    rw [List.length_map]
    exact (List.getElem?_eq_some_iff.1 hsession).1
  cases hturn with
  | fails hsession =>
      obtain rfl := Option.some.inj hs
      exact hfails hsession
  | @releases other session ownsManager hsession =>
      cases ownsManager with
      | false =>
          obtain rfl := Option.some.inj hs
          exact hfails hsession
      | true => cases hs
  | @passes _ _ ownsManager _ | @told _ _ ownsManager _ _ _ _ _ => cases ownsManager <;> cases hs
  | _ => cases hs

/-- Every session that an errand is about to take off the registry is closed. -/
def ClosedBeforeLeaving (h : Hub) : Prop :=
  ∀ s, h.Leaving s → h.doors.Closed s

theorem closedBeforeLeaving_step (hclosed : h.ClosedBeforeLeaving) (a : Action) :
    (h.step a).ClosedBeforeLeaving := by
  rintro s ⟨e, he, hs⟩
  cases errandOrigin he with
  | kept he => exact (h.doors_step a).closed (hclosed s ⟨e, he, hs⟩)
  -- an errand that has just begun takes nothing off the registry yet
  | begun he =>
      cases a with
      | close | release | closeManager =>
          obtain rfl := Option.some.inj he
          cases hs
      | _ => cases he
  | notified _ he | called _ he =>
      rw [he] at hs
      cases hs
  | turned _ hturn heq =>
      rw [heq, doors_setErrand]
      exact hturn.closed_of_leaves? hs

end PklHost.Hub
