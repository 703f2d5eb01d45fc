import PklHost.Proofs.Hub.Farewells

/-!
# Closing one evaluator

An evaluator is closed, or let go, in several steps, and other calls go on between them.  None of these steps
touches what belongs to another evaluator (`ClosesSession.spares`), unless the connection comes to be shut
down by it, which happens where the message that closes the evaluator cannot be written
(`ClosesSession.phase`).
-/

namespace PklHost.Hub

open Message (Outgoing)

variable {h h' : Hub} {s : Nat}

/-! ## What closes an evaluator -/

/-- An errand closes the evaluator of a session, or lets it go. -/
def Errand.ClosesSession (h : Hub) (s : Nat) : Errand → Prop
  | .close s' _ _ | .release s' _ | .leave s' => s' = s
  | .notice evaluatorId _ => h.evaluatorIds[s]? = some evaluatorId
  | .read .. | .reply .. | .closeManager | .disconnect | .shuttingDown | .finished => False

/-- An action begins to close the evaluator of a session, or goes on with it. -/
inductive ClosesSession (h : Hub) (s : Nat) : Action → Prop
  | close (ownsManager : Bool) : ClosesSession h s (.close s ownsManager)
  | release (ownsManager : Bool) : ClosesSession h s (.release s ownsManager)
  | goesOn {i : Nat} {e : Errand} (he : h.errands[i]? = some e) (hcloses : e.ClosesSession h s) :
      ClosesSession h s (.advance (.errand i))

/-- Whoever closes an evaluator closes its manager too. -/
def Errand.ownsManager : Errand → Bool
  | .close _ ownsManager _ | .release _ ownsManager => ownsManager
  | .leave _ | .notice .. | .read .. | .reply .. | .closeManager | .disconnect | .shuttingDown
  | .finished => false

/-! ## What it leaves alone -/

/-- What belongs to other evaluators than that of one session is left alone, and so are the calls that create
and the message that the loop has read. -/
structure Spares (s : Nat) (h h' : Hub) : Prop where
  sessions : ∀ s', s' ≠ s → h'.sessions[s']? = h.sessions[s']?
  registry : ∀ s' id, s' ≠ s → h.evaluatorIds[s']? = some id →
    h'.connection.session? id = h.connection.session? id
  evaluates : ∀ i : Nat, (∀ call, h.evaluates[i]? = some call → call.session ≠ s) →
    h'.evaluates[i]? = h.evaluates[i]?
  creates : h'.creates = h.creates
  waiting : h'.connection.creates = h.connection.creates
  loop : h'.loop = h.loop

theorem Quiet.spares (q : Quiet h h') (s : Nat) : Spares s h h' where
  sessions s' _ := by rw [q.sessions]
  registry s' id _ _ := by
    unfold Connection.session?
    rw [q.registry]
  evaluates i _ := by rw [q.evaluates]
  creates := q.creates
  waiting := q.waiting
  loop := q.loop

theorem evaluates_answerAll {tickets : List Nat} {i : Nat} (hi : i ∉ tickets)
    (a : Except EvaluatorError Bytes) (h : Hub) :
    (tickets.foldl (fun h j => h.answerEvaluate j a) h).evaluates[i]? = h.evaluates[i]? := by
  induction tickets generalizing h with
  | nil => rfl
  | cons j tickets ih =>
      have hj : j ≠ i := fun heq => hi (heq ▸ List.mem_cons_self)
      rw [List.foldl_cons, ih fun hmem => hi (List.mem_cons_of_mem j hmem), answerEvaluate_eq]
      exact List.getElem?_modify_ne _ _ hj

/-- Only the calls in a session wait there. -/
theorem evaluates_failSession (hsound : h.Sound) (fault : EvaluatorError) {i : Nat}
    (hother : ∀ call, h.evaluates[i]? = some call → call.session ≠ s) :
    (h.failSession s fault).evaluates[i]? = h.evaluates[i]? := by
  unfold failSession
  split
  · next session hsession =>
      have hi : i ∉ session.pending.waiting.map Prod.snd := by
        intro hmem
        obtain ⟨⟨requestId, j⟩, hwaits, rfl⟩ := List.mem_map.1 hmem
        obtain ⟨slip, hslip, htray, -⟩ :=
          hsound.evaluateTidy.waits (evaluateDesk_waits.2 ⟨session, hsession, hwaits⟩)
        obtain ⟨call, hcall, rfl⟩ := evaluate_of_slip hslip
        exact hother call hcall htray
      exact evaluates_answerAll hi (.error fault) _
  · rfl

theorem spares_failSession (hsound : h.Sound) (s : Nat) (fault : EvaluatorError) :
    Spares s h (h.failSession s fault) := by
  have hevaluates := fun i => evaluates_failSession (s := s) hsound fault (i := i)
  obtain ⟨evaluates, heq⟩ := h.failSession_eq s fault
  rw [heq] at hevaluates ⊢
  exact {
    sessions := fun s' hs' => List.getElem?_modify_ne _ _ (Ne.symm hs')
    registry := fun _ _ _ _ => rfl
    evaluates := hevaluates
    creates := rfl
    waiting := rfl
    loop := rfl }

/-- Where no two sessions have one evaluator id, taking one off the registry leaves the others there. -/
theorem spares_unregister (hdistinct : h.DistinctSessions) {session : Session}
    (hsession : h.sessions[s]? = some session) :
    Spares s h { h with connection := h.connection.unregister session.evaluatorId } where
  sessions _ _ := rfl
  registry s' id hs' hid := by
    have hother : id ≠ session.evaluatorId := by
      rintro rfl
      exact hs' (hdistinct s' s _ hid (evaluatorIds_getElem? hsession))
    rw [session?_unregister, if_neg hother]
  evaluates _ _ := rfl
  creates := rfl
  waiting := rfl
  loop := rfl

theorem ErrandTurn.spares {e e' : Errand} (hturn : ErrandTurn h e e' h') (hsound : h.Sound)
    (hdistinct : h.DistinctSessions) (hcloses : e.ClosesSession h s) : Spares s h h' := by
  cases hturn with
  | gone _ _ | passes _ | left _ => exact (Quiet.refl h).spares s
  | fails _ | releases _ =>
      obtain rfl := hcloses
      exact spares_failSession hsound _ .closed
  | unregisters hsession _ =>
      obtain rfl := hcloses
      exact spares_unregister hdistinct hsession
  | leaves hsession _ =>
      obtain rfl := hcloses
      have hspares := spares_unregister hdistinct hsession
      exact ⟨hspares.sessions, hspares.registry, hspares.evaluates, rfl, rfl, rfl⟩
  | tells hsending _ | told hsending _ _ | notices hsending | noticed hsending _ =>
      exact (quiet_of_stepSending hsending).spares s
  | _ => exact hcloses.elim

/-- No step of closing an evaluator touches another one. -/
theorem ClosesSession.spares {a : Action} (hcloses : h.ClosesSession s a) (hsound : h.Sound)
    (hdistinct : h.DistinctSessions) : Spares s h (h.step a) := by
  cases hcloses with
  | close ownsManager =>
      have hquiet : Quiet h (h.step (.close s ownsManager)) := ⟨rfl, rfl, rfl, rfl, rfl, rfl, rfl⟩
      exact hquiet.spares s
  | release ownsManager =>
      have hquiet : Quiet h (h.step (.release s ownsManager)) := ⟨rfl, rfl, rfl, rfl, rfl, rfl, rfl⟩
      exact hquiet.spares s
  | goesOn he hcloses =>
      obtain ⟨e', h₁, hturn, heq, -⟩ := errand_advance he
      have hspares := hturn.spares hsound hdistinct hcloses
      rw [heq]
      exact ⟨hspares.sessions, hspares.registry, hspares.evaluates, hspares.creates, hspares.waiting,
        hspares.loop⟩

/-! ## The write that fails -/

/-- The server takes no more messages, and the write that finds this out shuts the connection down. -/
structure WriteFails (h h' : Hub) : Prop where
  unread : h.serverReads = false
  isOpen : h.connection.phase = .isOpen
  begins : h'.connection.phase = .closing (.writeFailed writeFault) .failingCreates

theorem phase_of_stepSending {m : Outgoing} {progress : Sending} {sent : Sent}
    (hsending : h.stepSending m progress = (sent, h')) :
    h'.connection.phase = h.connection.phase ∨ progress.writes = true ∧ WriteFails h h' := by
  cases sendingTurn hsending with
  | breaks hunread hopen => exact .inr ⟨rfl, hunread, phase_of_not_isClosed hopen, rfl⟩
  | _ => exact .inl rfl

theorem ErrandTurn.phase {e e' : Errand} (hturn : ErrandTurn h e e' h')
    (hcloses : e.ClosesSession h s) :
    h'.connection.phase = h.connection.phase ∨ e.writes = true ∧ WriteFails h h' := by
  cases hturn with
  | gone _ _ | passes _ | left _ | unregisters _ _ | leaves _ _ => exact .inl rfl
  | @fails s' _ _ _ => exact .inl (congrArg Doors.phase (doors_failSession s' .closed h))
  | @releases s' _ _ _ => exact .inl (congrArg Doors.phase (doors_failSession s' .closed h))
  | tells hsending _ | told hsending _ _ | notices hsending | noticed hsending _ =>
      exact phase_of_stepSending hsending
  | _ => exact hcloses.elim

/-- Closing an evaluator begins a shutdown only where its message to the server cannot be written. -/
theorem ClosesSession.phase {a : Action} (hcloses : h.ClosesSession s a) :
    (h.step a).connection.phase = h.connection.phase ∨
      (∃ who, a = .advance who ∧ h.Writes who) ∧ WriteFails h (h.step a) := by
  cases hcloses with
  | close ownsManager | release ownsManager => exact .inl rfl
  | @goesOn i e he hcloses =>
      obtain ⟨e', h₁, hturn, heq, -⟩ := errand_advance he
      rw [heq]
      rcases hturn.phase hcloses with hsame | ⟨hwrites, hfails⟩
      · exact .inl hsame
      · exact .inr ⟨⟨.errand i, rfl, e, he, hwrites⟩, hfails.unread, hfails.isOpen, hfails.begins⟩

/-- Closing an evaluator goes on until it is over.  Only where the evaluator owns its manager does it go on to
close the manager. -/
theorem ErrandTurn.goesOn {e e' : Errand} (hturn : ErrandTurn h e e' h')
    (hcloses : e.ClosesSession h s) :
    e'.ClosesSession h s ∨ e' = .finished ∨ e.ownsManager = true ∧ e' = .closeManager := by
  have hafter : ∀ ownsManager : Bool, afterClose ownsManager = .finished ∨
      ownsManager = true ∧ afterClose ownsManager = .closeManager := by
    intro ownsManager
    cases ownsManager with
    | false => exact .inl rfl
    | true => exact .inr ⟨rfl, rfl⟩
  cases hturn with
  | gone _ _ | left _ | leaves _ _ | noticed _ _ => exact .inr (.inl rfl)
  | fails _ | unregisters _ _ | tells _ _ | notices _ => exact .inl hcloses
  | passes _ | told _ _ _ => exact .inr (hafter _)
  | @releases s' session ownsManager _ =>
      cases ownsManager with
      | false => exact .inl hcloses
      | true => exact .inr (.inr ⟨rfl, rfl⟩)
  | _ => exact hcloses.elim

end PklHost.Hub
