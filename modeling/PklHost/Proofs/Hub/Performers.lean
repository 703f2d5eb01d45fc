import PklHost.Proofs.Hub.Closing
import PklHost.Proofs.Hub.Routes

/-!
# Who carries a shutdown through

Whoever begins a shutdown stays at it until it is over, be it a call, an errand or the loop
(`performs_turn`, `performs_keeps`).  So there is somebody at every shutdown that is under way
(`tended_step`).
-/

namespace PklHost.Hub

open Message (Outgoing)

variable {h h' : Hub}

/-! ## Stages of a shutdown -/

/-- The one who sends shuts the connection down. -/
def Sending.shuts : Sending → Bool
  | .shuttingDown _ => true
  | .checking | .writing => false

def CreateStage.shuts : CreateStage → Bool
  | .shuttingDown => true
  | .sending _ progress => progress.shuts
  | .connecting | .entering | .launching | .confirming | .numbering | .registering _ | .withdrawing ..
  | .waiting | .inserting _ | .finished _ | .abandoned => false

def EvaluateStage.shuts : EvaluateStage → Bool
  | .sending _ progress => progress.shuts
  | .opening | .numbering | .registering _ | .withdrawing .. | .waiting | .finished _ | .abandoned =>
    false

def Errand.shuts : Errand → Bool
  | .close _ _ (.sending progress) | .notice _ progress | .reply _ _ progress => progress.shuts
  | .shuttingDown => true
  | .close _ _ .failing | .close _ _ .unregistering | .release .. | .leave _ | .read .. | .closeManager
  | .disconnect | .finished => false

/-- Nobody gives up a shutdown that it has begun. -/
theorem CreateStage.pauses_of_shuts {stage : CreateStage} (hshuts : stage.shuts = true) :
    stage.pauses = false := by
  cases stage with
  | shuttingDown => rfl
  | sending request progress =>
      cases progress with
      | shuttingDown fault => rfl
      | checking | writing => cases hshuts
  | _ => cases hshuts

theorem EvaluateStage.pauses_of_shuts {stage : EvaluateStage} (hshuts : stage.shuts = true) :
    stage.pauses = false := by
  cases stage with
  | sending requestId progress =>
      cases progress with
      | shuttingDown fault => rfl
      | checking | writing => cases hshuts
  | _ => cases hshuts

/-- A shutdown is under way. -/
def Phase.IsClosing : Phase → Prop
  | .closing .. => True
  | .isOpen | .closed _ => False

theorem not_isClosing_of_isDown (hdown : h.connection.isDown = true) :
    ¬ h.connection.phase.IsClosing := by
  intro hclosing
  unfold Connection.isDown at hdown
  split at hdown
  · next hphase =>
      rw [hphase] at hclosing
      exact hclosing
  · cases hdown
  · cases hdown

/-! ## Errands and their sessions -/

/-- An errand that tells the server of its session has found that session. -/
def Errand.Found (h : Hub) : Errand → Prop
  | .close s _ (.sending _) => s < h.sessions.length
  | .close _ _ .failing | .close _ _ .unregistering | .release .. | .leave _ | .notice .. | .read ..
  | .reply .. | .closeManager | .disconnect | .shuttingDown | .finished => True

def ErrandsFound (h : Hub) : Prop :=
  ∀ e ∈ h.errands, e.Found h

theorem Errand.Found.mono {e : Errand} (hfound : e.Found h)
    (hmore : h.sessions.length ≤ h'.sessions.length) : e.Found h' := by
  cases e with
  | close s ownsManager stage =>
      cases stage with
      | sending progress => exact Nat.lt_of_lt_of_le hfound hmore
      | failing | unregistering => trivial
  | _ => trivial

theorem Errand.Found.not_gone {e : Errand} (hfound : e.Found h) (hshuts : e.shuts = true) {s : Nat}
    (hs : e.session? = some s) : h.sessions[s]? ≠ none := by
  cases e with
  | close s' ownsManager stage =>
      obtain rfl : s' = s := Option.some.inj hs
      cases stage with
      | sending progress =>
          rw [List.getElem?_eq_getElem hfound]
          exact Option.some_ne_none _
      | failing | unregistering => cases hshuts
  | release _ _ | leave _ | read _ _ => cases hshuts
  | _ => cases hs

theorem found_afterClose (ownsManager : Bool) : (afterClose ownsManager).Found h := by
  cases ownsManager <;> trivial

theorem ErrandTurn.found {e e' : Errand} (hturn : ErrandTurn h e e' h') : e'.Found h' := by
  cases hturn with
  | unregisters hsession _ => exact (List.getElem?_eq_some_iff.1 hsession).1
  | @tells s _ _ _ _ _ hsending hsession =>
      show s < h'.sessions.length
      rw [(quiet_of_stepSending hsending).sessions]
      exact (List.getElem?_eq_some_iff.1 hsession).1
  | passes _ | told _ _ _ => exact found_afterClose _
  | @releases _ _ ownsManager _ => cases ownsManager <;> trivial
  | _ => trivial

theorem length_sessions_step (h : Hub) (a : Action) :
    h.sessions.length ≤ (h.step a).sessions.length := by
  refine Nat.le_of_not_lt fun hlt => ?_
  exact Nat.lt_irrefl _ (h.sessions_step a hlt)

theorem errandsFound_step (hfound : h.ErrandsFound) (a : Action) : (h.step a).ErrandsFound := by
  intro e he
  cases errandOrigin he with
  | kept he => exact (hfound e he).mono (h.length_sessions_step a)
  | begun he =>
      cases a with
      | close | release | closeManager =>
          obtain rfl := Option.some.inj he
          trivial
      | _ => cases he
  | notified _ he | called _ he =>
      rw [he]
      trivial
  | @turned i before h₁ _ hturn heq =>
      rw [heq]
      exact hturn.found.mono (Nat.le_refl h₁.sessions.length)

/-! ## One step of whoever begins a shutdown or is at it -/

/-- A step that leaves the phase as it is begins no shutdown. -/
theorem absurd_of_phase {P : Prop} {shuts : Bool} (hsame : h'.connection.phase = h.connection.phase)
    (hno : shuts = false) (hclosing : h'.connection.phase.IsClosing)
    (hbefore : h.connection.phase = .isOpen ∨ shuts = true) : P := by
  rcases hbefore with hopen | hyes
  · rw [hsame, hopen] at hclosing
    exact hclosing.elim
  · rw [hno] at hyes
    cases hyes

/-- Who leaves the hub as it is while it shuts down was at the shutdown already. -/
theorem shuts_of_stays {shuts : Bool} (hclosing : h.connection.phase.IsClosing)
    (hbefore : h.connection.phase = .isOpen ∨ shuts = true) : shuts = true := by
  refine hbefore.resolve_left fun hopen => ?_
  rw [hopen] at hclosing
  exact hclosing

/-- The sending that begins a shutdown, or is at it, is at it until the end. -/
theorem shuts_of_stepSending {m : Outgoing} {progress : Sending} {sent : Sent}
    (hsending : h.stepSending m progress = (sent, h')) (hclosing : h'.connection.phase.IsClosing)
    (hbefore : h.connection.phase = .isOpen ∨ progress.shuts = true) :
    ∃ fault, sent = .going (.shuttingDown fault) := by
  cases sendingTurn hsending with
  | breaks _ _ => exact ⟨writeFault, rfl⟩
  | waits fault => exact ⟨fault, rfl⟩
  | ends _ hdown => exact absurd hclosing (not_isClosing_of_isDown hdown)
  | refused _ | passes _ | writes | fails _ => exact absurd_of_phase rfl rfl hclosing hbefore

theorem CreateTurn.shuts {i : Nat} {call : CreateCall} {stage : CreateStage}
    (hturn : CreateTurn h i call stage h') (hclosing : h'.connection.phase.IsClosing)
    (hbefore : h.connection.phase = .isOpen ∨ call.stage.shuts = true) : stage.shuts = true := by
  have hsending : ∀ {request progress sent}, call.stage = .sending request progress →
      h.stepSending (.createEvaluator request) progress = (sent, h') →
      ∃ fault, sent = .going (.shuttingDown fault) := by
    intro request progress sent hstage hsending
    rw [hstage] at hbefore
    exact shuts_of_stepSending hsending hclosing hbefore
  cases hturn with
  | stays => exact shuts_of_stays hclosing hbefore
  | connects hstage _ | launches hstage _ | enters hstage _ | confirms hstage _ | numbers hstage _
  | unnumbered hstage _ | files hstage _ _ | accepts hstage _ | returns hstage _ | shutOut hstage _ =>
      rw [hstage] at hbefore
      exact absurd_of_phase rfl rfl hclosing hbefore
  | closes _ => rfl
  | sends hstage hsends =>
      obtain ⟨fault, hgoing⟩ := hsending hstage hsends
      rw [Sent.going.inj hgoing]
      rfl
  | sent hstage hsends | unsent hstage hsends =>
      obtain ⟨fault, hgoing⟩ := hsending hstage hsends
      cases hgoing
  | @withdraws requestId _ hstage =>
      obtain ⟨creates, waiting, -, heq⟩ := h.withdrawCreate_eq requestId i
      rw [hstage] at hbefore
      exact absurd_of_phase (by rw [heq]) rfl hclosing hbefore
  | inserts hstage hinsert =>
      rw [hstage] at hbefore
      exact absurd_of_phase (by rw [insertSession_eq_ok hinsert]; rfl) rfl hclosing hbefore
  | refused hunfiled _ _ _ hdown =>
      refine absurd_of_phase rfl (Bool.eq_false_iff.2 fun hshuts => ?_) hclosing hbefore
      generalize call.stage = before at hunfiled hdown hshuts
      cases before with
      | shuttingDown => exact not_isClosing_of_isDown (hdown rfl) hclosing
      | sending _ _ => cases hunfiled
      | _ => cases hshuts

theorem EvaluateTurn.shuts {i : Nat} {call : EvaluateCall} {session : Session} {stage : EvaluateStage}
    (hsession : h.sessions[call.session]? = some session)
    (hturn : EvaluateTurn h i call session stage h') (hclosing : h'.connection.phase.IsClosing)
    (hbefore : h.connection.phase = .isOpen ∨ call.stage.shuts = true) : stage.shuts = true := by
  have hsending : ∀ {requestId progress sent}, call.stage = .sending requestId progress →
      h.stepSending (.evaluate (call.request session.evaluatorId requestId)) progress = (sent, h') →
      ∃ fault, sent = .going (.shuttingDown fault) := by
    intro requestId progress sent hstage hsending
    rw [hstage] at hbefore
    exact shuts_of_stepSending hsending hclosing hbefore
  cases hturn with
  | stays => exact shuts_of_stays hclosing hbefore
  | refusedAtOnce hstage | opens hstage | numbers _ _ hstage | refused hstage _ | files hstage _ _
  | returns hstage _ =>
      rw [hstage] at hbefore
      exact absurd_of_phase rfl rfl hclosing hbefore
  | sends hstage hsends =>
      obtain ⟨fault, hgoing⟩ := hsending hstage hsends
      rw [Sent.going.inj hgoing]
      rfl
  | sent hstage hsends | unsent hstage hsends =>
      obtain ⟨fault, hgoing⟩ := hsending hstage hsends
      cases hgoing
  | @withdraws requestId _ hstage =>
      obtain ⟨evaluates, sessions, -, heq⟩ := withdrawEvaluate_eq hsession requestId i
      rw [hstage] at hbefore
      exact absurd_of_phase (by rw [heq]) rfl hclosing hbefore

theorem ErrandTurn.shuts {e e' : Errand} (hfound : e.Found h) (hturn : ErrandTurn h e e' h')
    (hclosing : h'.connection.phase.IsClosing)
    (hbefore : h.connection.phase = .isOpen ∨ e.shuts = true) : e'.shuts = true := by
  have hfailed : ∀ {s : Nat} {fault : EvaluatorError},
      (h.failSession s fault).connection.phase = h.connection.phase :=
    fun {s fault} => congrArg Doors.phase (doors_failSession s fault h)
  cases hturn with
  | @gone e s hs hgone =>
      refine absurd_of_phase rfl (Bool.eq_false_iff.2 fun hshuts => ?_) hclosing hbefore
      exact hfound.not_gone hshuts hs hgone
  | fails _ | releases _ => exact absurd_of_phase hfailed rfl hclosing hbefore
  | unregisters _ _ | passes _ | leaves _ _ | left _ | reads _ _ | ignores _ | closedBefore _ | flags _
  | connectionless _ | rests => exact absurd_of_phase rfl rfl hclosing hbefore
  | tells hsending _ | notices hsending | replies hsending =>
      obtain ⟨fault, hgoing⟩ := shuts_of_stepSending hsending hclosing hbefore
      rw [Sent.going.inj hgoing]
      rfl
  | told hsending hends _ | noticed hsending hends =>
      obtain ⟨fault, rfl⟩ := shuts_of_stepSending hsending hclosing hbefore
      exact hends.elim
  | replied hsending | unreplied hsending =>
      obtain ⟨fault, hgoing⟩ := shuts_of_stepSending hsending hclosing hbefore
      cases hgoing
  | closes _ _ | waits => rfl
  | ended hdown => exact absurd hclosing (not_isClosing_of_isDown hdown)

theorem shuts_of_stepLoop (hclosing : h.stepLoop.connection.phase.IsClosing)
    (hbefore : h.connection.phase = .isOpen ∨ h.loop = .shuttingDown) :
    h.stepLoop.loop = .shuttingDown := by
  have hkept : ∀ {P : Prop}, h.stepLoop.doors = h.doors → h.loop ≠ .shuttingDown → P := by
    intro P hsame hother
    rw [show h.stepLoop.connection.phase = h.connection.phase from congrArg Doors.phase hsame,
      hbefore.resolve_right hother] at hclosing
    exact hclosing.elim
  cases hloop : h.loop with
  | reading =>
      refine hkept ?_ (by rw [hloop]; exact Loop.noConfusion)
      rw [stepLoop_of_reading hloop]
      exact h.doors_readNext
  | routed s m =>
      refine hkept ?_ (by rw [hloop]; exact Loop.noConfusion)
      rw [stepLoop_of_routed hloop]
      exact doors_receive s m { h with loop := .reading }
  | losing reason =>
      have hopen : (h.note (.connectionLost reason)).connection.isClosed = false := by
        show h.connection.isClosed = false
        unfold Connection.isClosed
        rw [hbefore.resolve_right (by rw [hloop]; exact Loop.noConfusion)]
      unfold stepLoop
      rw [hloop]
      dsimp only
      rw [beginShutdown_of_open hopen]
  | shuttingDown =>
      unfold stepLoop at hclosing ⊢
      rw [hloop] at hclosing ⊢
      dsimp only at hclosing ⊢
      split at hclosing
      · next hdown => exact absurd hclosing (not_isClosing_of_isDown hdown)
      · next hdown => rw [if_neg hdown, hloop]
  | ended =>
      refine hkept ?_ (by rw [hloop]; exact Loop.noConfusion)
      unfold stepLoop
      rw [hloop]

/-! ## Somebody is at it -/

/-- Who can begin a shutdown. -/
inductive Party where
  | caller (who : Caller)
  | loop
  deriving DecidableEq, Repr

def Party.turn : Party → Action
  | .caller who => .advance who
  | .loop => .loop

/-- A party is in the middle of a shutdown that it began. -/
def Performs (h : Hub) : Party → Prop
  | .caller (.create i) => ∃ stage, h.createStages[i]? = some stage ∧ stage.shuts = true
  | .caller (.evaluate i) => ∃ stage, h.evaluateStages[i]? = some stage ∧ stage.shuts = true
  | .caller (.errand i) => ∃ e, h.errands[i]? = some e ∧ e.shuts = true
  | .loop => h.loop = .shuttingDown

theorem Turn.performs {who : Caller} (hfound : h.ErrandsFound) (hturn : Turn h who h')
    (hclosing : h'.connection.phase.IsClosing)
    (hbefore : h.connection.phase = .isOpen ∨ h.Performs (.caller who)) :
    h'.Performs (.caller who) := by
  cases hturn with
  | none =>
      refine hbefore.resolve_left fun hopen => ?_
      rw [hopen] at hclosing
      exact hclosing
  | @create i call stage h₁ hcall hturn =>
      have hat := createStages_getElem?.2 ⟨call, hcall, rfl⟩
      have hphase : (h₁.moveCreate i stage).connection.phase = h₁.connection.phase := by
        rw [moveCreate_eq]
      rw [hphase] at hclosing
      refine ⟨stage, ?_, hturn.shuts hclosing (hbefore.imp_right ?_)⟩
      · rw [createStages_moveCreate, hturn.step.createStages, List.getElem?_modify_eq, hat]
        rfl
      · rintro ⟨before, hbefore, hshuts⟩
        rwa [← Option.some.inj (hat.symm.trans hbefore)] at hshuts
  | @evaluate i call session stage h₁ hcall hsession hturn =>
      have hat := evaluateStages_getElem?.2 ⟨call, hcall, rfl⟩
      have hphase : (h₁.moveEvaluate i stage).connection.phase = h₁.connection.phase := by
        rw [moveEvaluate_eq]
      rw [hphase] at hclosing
      refine ⟨stage, ?_, hturn.shuts hsession hclosing (hbefore.imp_right ?_)⟩
      · rw [evaluateStages_moveEvaluate, hturn.step.evaluateStages hsession, List.getElem?_modify_eq,
          hat]
        rfl
      · rintro ⟨before, hbefore, hshuts⟩
        rwa [← Option.some.inj (hat.symm.trans hbefore)] at hshuts
  | @errand i e e' h₁ he hturn =>
      have hplace := (List.getElem?_eq_some_iff.1 (hturn.errands_getElem? he)).1
      refine ⟨e', List.getElem?_set_self hplace, ?_⟩
      refine hturn.shuts (hfound e (List.mem_of_getElem? he)) hclosing (hbefore.imp_right ?_)
      rintro ⟨before, hbefore, hshuts⟩
      rwa [← Option.some.inj (he.symm.trans hbefore)] at hshuts

/-- Who begins a shutdown, or is at it, is at it until the end. -/
theorem performs_turn (hfound : h.ErrandsFound) {p : Party}
    (hclosing : (h.step p.turn).connection.phase.IsClosing)
    (hbefore : h.connection.phase = .isOpen ∨ h.Performs p) : (h.step p.turn).Performs p := by
  cases p with
  | caller who => exact (h.advance_turn who).performs hfound hclosing hbefore
  | loop => exact shuts_of_stepLoop hclosing hbefore

/-- What others do takes nobody away from a shutdown. -/
theorem performs_keeps {p : Party} (hp : h.Performs p) (hlauncher : h.OneLauncher) {a : Action}
    (ha : a ≠ p.turn) : (h.step a).Performs p := by
  cases p with
  | caller who =>
      cases who with
      | create i =>
          obtain ⟨stage, hat, hshuts⟩ := hp
          refine ⟨stage, createStages_keeps hat ha (fun _ => CreateStage.pauses_of_shuts hshuts)
            hlauncher ?_, hshuts⟩
          rintro rfl
          cases hshuts
      | evaluate i =>
          obtain ⟨stage, hat, hshuts⟩ := hp
          exact ⟨stage, evaluateStages_keeps hat ha fun _ => EvaluateStage.pauses_of_shuts hshuts, hshuts⟩
      | errand i =>
          obtain ⟨e, he, hshuts⟩ := hp
          rcases errands_step he a with ⟨-, hstays⟩ | ⟨htakes, -⟩
          · exact ⟨e, hstays, hshuts⟩
          · exact absurd (Action.takes_iff.1 htakes) ha
  | loop =>
      have hloop : h.loop = .shuttingDown := hp
      cases routes_step h a with
      | kept _ _ hsame | entered _ _ _ _ _ hsame _ => exact hsame.trans hloop
      | routed _ _ _ _ _ hturn => exact absurd hturn ha
      | passed _ _ _ hpasses =>
          refine absurd (hpasses.resolve_right ?_) ha
          rw [hloop]
          exact Loop.noConfusion

/-- Nothing else begins a shutdown. -/
theorem phase_step_of_isOpen (hopen : h.connection.phase = .isOpen) {a : Action}
    (ha : ∀ p : Party, a ≠ p.turn) : (h.step a).connection.phase = .isOpen := by
  have hkept : (h.step a).doors = h.doors → (h.step a).connection.phase = .isOpen :=
    fun hsame => (congrArg Doors.phase hsame).trans hopen
  cases a with
  | advance who => exact absurd rfl (ha (.caller who))
  | loop => exact absurd rfl (ha .loop)
  | abandon who => exact hkept (h.doors_abandon who)
  | endLaunch fault => exact hkept (h.doors_endLaunch fault)
  | haltLoop => exact hkept h.doors_haltLoop
  | shutdown =>
      refine hkept ?_
      show h.stepShutdown.doors = _
      unfold stepShutdown
      rw [hopen]
  | _ => exact hopen

/-- There is somebody at a shutdown that is under way. -/
def Tended (h : Hub) : Prop :=
  h.connection.phase.IsClosing → ∃ p, h.Performs p

theorem tended_step (htended : h.Tended) (hlauncher : h.OneLauncher) (hfound : h.ErrandsFound)
    (a : Action) : (h.step a).Tended := by
  intro hclosing
  cases hphase : h.connection.phase with
  | isOpen =>
      by_cases ha : ∃ p : Party, a = p.turn
      · obtain ⟨p, rfl⟩ := ha
        exact ⟨p, performs_turn hfound hclosing (.inl hphase)⟩
      · rw [phase_step_of_isOpen hphase (fun p hp => ha ⟨p, hp⟩)] at hclosing
        exact hclosing.elim
  | closing reason progress =>
      obtain ⟨p, hp⟩ := htended (by rw [hphase]; trivial)
      by_cases ha : a = p.turn
      · subst ha
        exact ⟨p, performs_turn hfound hclosing (.inr hp)⟩
      · exact ⟨p, performs_keeps hp hlauncher ha⟩
  | closed reason =>
      have hstays : (h.step a).connection.phase = .closed reason :=
        ((h.doors_step a).of_closed hphase).1
      rw [hstays] at hclosing
      exact hclosing.elim

end PklHost.Hub
