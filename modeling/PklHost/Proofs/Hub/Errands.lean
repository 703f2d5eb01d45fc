import PklHost.Proofs.Hub.Quiet

/-!
# One step of an errand

`ErrandTurn` lists what a step of an errand can be, and every step is one of those (`stepErrand_turn`).
Whatever is shown of the steps of errands is shown by these cases.
-/

namespace PklHost.Hub

open Message (Incoming Outgoing)

/-- The session that an errand goes to. -/
def Errand.session? : Errand → Option Nat
  | .close s _ _ | .release s _ | .leave s | .read s _ => some s
  | .notice .. | .reply .. | .closeManager | .disconnect | .shuttingDown | .finished => none

/-- A sending has come to its end. -/
def Sent.Ends : Sent → Prop
  | .done | .failed _ => True
  | .going _ => False

/-- One step of an errand, case by case: the errand before it and after it, and the hub. -/
inductive ErrandTurn (h : Hub) : Errand → Errand → Hub → Prop
  | gone {e : Errand} {s : Nat} (he : e.session? = some s) (hgone : h.sessions[s]? = none) :
      ErrandTurn h e .finished h
  -- closing
  | fails {s : Nat} {session : Session} {ownsManager : Bool}
      (hsession : h.sessions[s]? = some session) :
      ErrandTurn h (.close s ownsManager .failing) (.close s ownsManager .unregistering)
        (h.failSession s .closed)
  | unregisters {s : Nat} {session : Session} {ownsManager : Bool}
      (hsession : h.sessions[s]? = some session)
      (hknown : h.connection.session? session.evaluatorId ≠ none) :
      ErrandTurn h (.close s ownsManager .unregistering) (.close s ownsManager (.sending .checking))
        { h with connection := h.connection.unregister session.evaluatorId }
  | passes {s : Nat} {session : Session} {ownsManager : Bool}
      (hunknown : h.connection.session? session.evaluatorId = none)
      (hsession : h.sessions[s]? = some session) :
      ErrandTurn h (.close s ownsManager .unregistering) (afterClose ownsManager) h
  | tells {s : Nat} {session : Session} {ownsManager : Bool} {progress progress' : Sending} {h' : Hub}
      (hsending : h.stepSending (.closeEvaluator session.evaluatorId) progress =
        (.going progress', h'))
      (hsession : h.sessions[s]? = some session) :
      ErrandTurn h (.close s ownsManager (.sending progress))
        (.close s ownsManager (.sending progress')) h'
  | told {s : Nat} {session : Session} {ownsManager : Bool} {progress : Sending} {sent : Sent} {h' : Hub}
      (hsending : h.stepSending (.closeEvaluator session.evaluatorId) progress = (sent, h'))
      (hends : sent.Ends) (hsession : h.sessions[s]? = some session) :
      ErrandTurn h (.close s ownsManager (.sending progress)) (afterClose ownsManager) h'
  -- letting go
  | releases {s : Nat} {session : Session} {ownsManager : Bool}
      (hsession : h.sessions[s]? = some session) :
      ErrandTurn h (.release s ownsManager) (if ownsManager then .closeManager else .leave s)
        (h.failSession s .closed)
  | leaves {s : Nat} {session : Session} (hsession : h.sessions[s]? = some session)
      (hknown : h.connection.session? session.evaluatorId ≠ none) :
      ErrandTurn h (.leave s) .finished
        (beginErrand (.notice session.evaluatorId .checking)
          { h with connection := h.connection.unregister session.evaluatorId })
  | left {s : Nat} {session : Session}
      (hunknown : h.connection.session? session.evaluatorId = none)
      (hsession : h.sessions[s]? = some session) :
      ErrandTurn h (.leave s) .finished h
  | notices {evaluatorId : Int64} {progress progress' : Sending} {h' : Hub}
      (hsending : h.stepSending (.closeEvaluator evaluatorId) progress = (.going progress', h')) :
      ErrandTurn h (.notice evaluatorId progress) (.notice evaluatorId progress') h'
  | noticed {evaluatorId : Int64} {progress : Sending} {sent : Sent} {h' : Hub}
      (hsending : h.stepSending (.closeEvaluator evaluatorId) progress = (sent, h'))
      (hends : sent.Ends) : ErrandTurn h (.notice evaluatorId progress) .finished h'
  -- replying
  | reads {s : Nat} {session : Session} {m : Incoming} {reply : Outgoing}
      (hsession : h.sessions[s]? = some session)
      (hreply : session.readers.reply? session.evaluatorId m = some reply) :
      ErrandTurn h (.read s m) (.reply session.evaluatorId reply .checking) h
  | ignores {s : Nat} {session : Session} {m : Incoming}
      (hreply : session.readers.reply? session.evaluatorId m = none) :
      ErrandTurn h (.read s m) .finished h
  | replies {evaluatorId : Int64} {m : Outgoing} {progress progress' : Sending} {h' : Hub}
      (hsending : h.stepSending m progress = (.going progress', h')) :
      ErrandTurn h (.reply evaluatorId m progress) (.reply evaluatorId m progress') h'
  | replied {evaluatorId : Int64} {m : Outgoing} {progress : Sending} {h' : Hub}
      (hsending : h.stepSending m progress = (.done, h')) :
      ErrandTurn h (.reply evaluatorId m progress) .finished h'
  | unreplied {evaluatorId : Int64} {m : Outgoing} {progress : Sending} {fault : EvaluatorError}
      {h' : Hub} (hsending : h.stepSending m progress = (.failed fault, h')) :
      ErrandTurn h (.reply evaluatorId m progress) .finished
        (h'.note (.replyNotSent evaluatorId fault))
  -- closing the manager
  | closedBefore (hclosed : h.managerClosed = true) : ErrandTurn h .closeManager .finished h
  | flags (hopen : h.managerClosed = false) :
      ErrandTurn h .closeManager .disconnect { h with managerClosed := true }
  | closes (hstarted : h.launch = .started) (hopen : h.connection.isClosed = false) :
      ErrandTurn h .disconnect .shuttingDown (h.beginShutdown .managerClosed).2
  | connectionless (hnone : h.launch = .started → h.connection.isClosed = true) :
      ErrandTurn h .disconnect .finished h
  | waits : ErrandTurn h .shuttingDown .shuttingDown h
  | ended (hdown : h.connection.isDown = true) : ErrandTurn h .shuttingDown .finished h
  | rests : ErrandTurn h .finished .finished h

variable {h : Hub}

theorem errandTurn_close {s : Nat} {session : Session} (hsession : h.sessions[s]? = some session)
    (ownsManager : Bool) (stage : CloseStage) :
    ErrandTurn h (.close s ownsManager stage) (h.stepClose s session ownsManager stage).1
      (h.stepClose s session ownsManager stage).2 := by
  unfold stepClose
  cases stage with
  | failing => exact .fails hsession
  | unregistering =>
      dsimp only
      split
      · next hknown => exact .unregisters hsession (hknown ▸ Option.some_ne_none _)
      · next hunknown => exact .passes hunknown hsession
  | sending progress =>
      unfold stepClosing
      dsimp only
      split
      · next hsending => exact .tells hsending hsession
      · next hsending => exact .told hsending trivial hsession
      · next hsending => exact .told hsending trivial hsession

theorem errandTurn_closeManager (h : Hub) :
    ErrandTurn h .closeManager h.flagManager.1 h.flagManager.2 := by
  unfold flagManager
  split
  · next hclosed => exact .closedBefore hclosed
  · next hopen => exact .flags (Bool.eq_false_iff.2 hopen)

theorem errandTurn_disconnect (h : Hub) :
    ErrandTurn h .disconnect h.disconnect.1 h.disconnect.2 := by
  unfold disconnect
  split
  · next hstarted =>
      cases hclosed : h.connection.isClosed with
      | true =>
          rw [beginShutdown_of_isClosed hclosed]
          exact .connectionless fun _ => hclosed
      | false =>
          have hcloses := ErrandTurn.closes hstarted hclosed
          rw [beginShutdown_of_open hclosed] at hcloses ⊢
          exact hcloses
  · next hnone => exact .connectionless fun hstarted => absurd hstarted hnone

/-- Every step of an errand is one of those. -/
theorem stepErrand_turn (h : Hub) (e : Errand) :
    ErrandTurn h e (h.stepErrand e).1 (h.stepErrand e).2 := by
  cases e with
  | close s ownsManager stage =>
      unfold stepErrand
      dsimp only
      split
      · next hsession => exact errandTurn_close hsession ownsManager stage
      · next hgone => exact .gone rfl hgone
  | release s ownsManager =>
      unfold stepErrand
      dsimp only
      split
      · next hsession => exact .releases hsession
      · next hgone => exact .gone rfl hgone
  | leave s =>
      unfold stepErrand
      dsimp only
      split
      · next hsession =>
          unfold leave
          split
          · next hknown => exact .leaves hsession (hknown ▸ Option.some_ne_none _)
          · next hunknown => exact .left hunknown hsession
      · next hgone => exact .gone rfl hgone
  | notice evaluatorId progress =>
      unfold stepErrand stepClosing
      dsimp only
      split
      · next hsending => exact .notices hsending
      · next hsending => exact .noticed hsending trivial
      · next hsending => exact .noticed hsending trivial
  | read s m =>
      unfold stepErrand
      dsimp only
      split
      · next hsession =>
          split
          · next hreply => exact .reads hsession hreply
          · next hreply => exact .ignores hreply
      · next hgone => exact .gone rfl hgone
  | reply evaluatorId m progress =>
      unfold stepErrand stepReply
      dsimp only
      split
      · next hsending => exact .replies hsending
      · next hsending => exact .replied hsending
      · next hsending => exact .unreplied hsending
  | closeManager => exact h.errandTurn_closeManager
  | disconnect => exact h.errandTurn_disconnect
  | shuttingDown =>
      unfold stepErrand
      dsimp only
      split
      · next hdown => exact .ended hdown
      · exact .waits
  | finished => exact .rests

/-- What an errand does beyond what is quiet: it fails the requests of a session, or takes an id off the
registry. -/
inductive ErrandEffect (h : Hub) : Hub → Prop
  | none : ErrandEffect h h
  | failed (s : Nat) : ErrandEffect h (h.failSession s .closed)
  | unregistered (evaluatorId : Int64) :
      ErrandEffect h { h with connection := h.connection.unregister evaluatorId }

theorem ErrandTurn.effect {e e' : Errand} {h' : Hub} (hturn : ErrandTurn h e e' h') :
    ∃ h₁, ErrandEffect h h₁ ∧ Quiet h₁ h' := by
  have hflagged : Quiet h { h with managerClosed := true } := ⟨rfl, rfl, rfl, rfl, rfl, rfl, rfl⟩
  cases hturn with
  | gone _ _ | passes _ | left _ | reads _ _ | ignores _ | closedBefore _ | connectionless _ | waits
  | ended _ | rests => exact ⟨h, .none, .refl h⟩
  | fails _ | releases _ => exact ⟨_, .failed _, .refl _⟩
  | unregisters _ => exact ⟨_, .unregistered _, .refl _⟩
  | leaves _ => exact ⟨_, .unregistered _, ⟨rfl, rfl, rfl, rfl, rfl, rfl, rfl⟩⟩
  | tells hsending | told hsending _ | notices hsending | noticed hsending _ | replies hsending
  | replied hsending => exact ⟨h, .none, quiet_of_stepSending hsending⟩
  | unreplied hsending =>
      exact ⟨h, .none, (quiet_of_stepSending hsending).trans ⟨rfl, rfl, rfl, rfl, rfl, rfl, rfl⟩⟩
  | flags _ => exact ⟨h, .none, hflagged⟩
  | closes _ _ => exact ⟨h, .none, h.beginShutdown_quiet .managerClosed⟩

end PklHost.Hub
