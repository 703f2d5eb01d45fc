import PklHost.Proofs.Hub.Teardown

/-!
# Who holds an evaluator id

The server chooses the evaluator ids, and the registry has one place for each.  A session that is entered
takes the place of any other of its id without a word, and an evaluator that is closed takes its id off
whoever has the place by then.

`KeepsPlaces` says of a run what this comes to, whatever ids there are.  A session that is alone with its id
has the place until it is closed: messages for it lead to it, and a shutdown finds it.  A session whose id
went to a later one has lost the place for good.  Nothing leads to it then, neither messages nor a shutdown,
and its requests may wait forever (`reuse_strands`).
-/

namespace PklHost.Hub

open Message (EvaluateOutcome Incoming)

/-! ## At the doors -/

namespace Doors

variable {Leaves : Nat → Prop} {d d' : Doors}

/-- A session that is registered is the latest of its id. -/
def Latest (d : Doors) : Prop :=
  ∀ (id : Int64) (s s' : Nat), (id, s) ∈ d.registry → s < s' → d.ids[s']? ≠ some id

theorem Latest.of_subset (hlatest : d.Latest) (hids : d'.ids = d.ids)
    (hregistry : d'.registry ⊆ d.registry) : d'.Latest := by
  intro id s s' hmem hlt
  rw [hids]
  exact hlatest id s s' (hregistry hmem) hlt

theorem Moves.latest (h : d.Moves Leaves d') (hlatest : d.Latest) : d'.Latest := by
  cases h with
  | stays => exact hlatest
  | enters new hopen =>
      have hids : Doors.ids { d with
          sessions := d.sessions ++ [(new, false)]
          registry := (d.unregister new).registry ++ [(new, d.sessions.length)] } = d.ids ++ [new] := by
        simp [Doors.ids]
      intro id s s' hmem hlt
      rw [hids]
      rcases List.mem_append.1 hmem with hold | hown
      · obtain ⟨hold, hother⟩ := mem_unregister.1 hold
        intro hat
        rcases Hub.getElem?_of_append hat with hat | ⟨-, hnew⟩
        · exact hlatest id s s' hold hlt hat
        -- the session that is entered has another id
        · exact hother hnew
      -- no session comes after the one that is entered
      · obtain ⟨-, rfl⟩ := Prod.mk.inj (List.mem_singleton.1 hown)
        have hlength : (d.ids ++ [new]).length ≤ s' := by
          rw [List.length_append, length_ids]
          exact hlt
        rw [List.getElem?_eq_none hlength]
        exact (Option.some_ne_none id).symm
  | closes other => exact hlatest.of_subset (ids_closeSession other d) (List.Subset.refl _)
  | unregisters _ _ => exact hlatest.of_subset rfl fun _ hmem => (List.mem_filter.1 hmem).1
  | begins _ _ | failsCreates _ | ends _ => exact hlatest.of_subset rfl (List.Subset.refl _)
  | drains _ =>
      intro id s s' hmem
      cases hmem
  | @failsSession reason other left hphase =>
      exact hlatest.of_subset (ids_closeSession other d) (List.Subset.refl _)

end Doors

variable {h : Hub} {reason : CloseReason}

theorem New.latest (hnew : h.New) (actions : List Action) : (h.run actions).doors.Latest := by
  refine run_keeps (P := fun h => h.doors.Latest) (fun {h} hlatest a => (h.doors_step a).latest hlatest)
    ?_ actions
  intro id s s' hmem
  rw [show h.doors.registry = [] from hnew.registry] at hmem
  cases hmem

/-! ## Sessions that are alone with their ids -/

/-- No other session has the evaluator id of this one. -/
def SoleHolder (h : Hub) (s : Nat) : Prop :=
  ∀ s' id, h.evaluatorIds[s]? = some id → h.evaluatorIds[s']? = some id → s' = s

theorem SoleHolder.alone {s : Nat} (hsole : h.SoleHolder s) : h.doors.Alone s := by
  intro s' id hid hid'
  rw [doors_ids] at hid hid'
  exact hsole s' id hid hid'

/-- A session that is registered and alone with its id is the one that is found under it. -/
theorem session?_of_registered (hsound : h.Sound) {s : Nat} {id : Int64} (hsole : h.SoleHolder s)
    (hmem : (id, s) ∈ h.connection.registry) : h.connection.session? id = some s := by
  cases hfound : h.connection.session? id with
  | none => exact absurd hmem (not_mem_registry_of_session? hfound s)
  | some other =>
      have hother := hsound.routes.registered (mem_registry_of_session? hfound)
      rw [hsole other id (hsound.routes.registered hmem) hother]

theorem not_closed_doors {s : Nat} {session : Session} (hsession : h.sessions[s]? = some session)
    (hopen : session.pending.isClosed = false) : ¬ h.doors.Closed s := by
  intro hclosed
  obtain ⟨other, hother, hclosed⟩ := closed_doors.1 hclosed
  obtain rfl : session = other := Option.some.inj (hsession.symm.trans hother)
  rw [hopen] at hclosed
  cases hclosed

/-- In a run, a session that is alone with its id is closed, registered or still to be failed. -/
theorem New.covered_of_soleHolder (hnew : h.New) {actions : List Action} {s : Nat} {session : Session}
    (hsole : (h.run actions).SoleHolder s) (hsession : (h.run actions).sessions[s]? = some session) :
    (h.run actions).doors.Covered s :=
  hnew.covered hsole.alone (List.getElem?_eq_some_iff.1 hsession).1

/-- As long as the connection is open, a session that is alone with its id is found under it until it is
closed. -/
theorem New.session?_of_open (hnew : h.New) {actions : List Action} {s : Nat} {session : Session}
    (hphase : (h.run actions).connection.phase = .isOpen) (hsole : (h.run actions).SoleHolder s)
    (hsession : (h.run actions).sessions[s]? = some session) (hopen : session.pending.isClosed = false) :
    (h.run actions).connection.session? session.evaluatorId = some s := by
  have hsound := hnew.sound.run actions
  have hcovered := hnew.covered_of_soleHolder hsole hsession
  obtain ⟨id, hmem⟩ := hcovered.registered_of_open hphase (not_closed_doors hsession hopen)
  obtain rfl : session.evaluatorId = id :=
    Option.some.inj ((evaluatorIds_getElem? hsession).symm.trans (hsound.routes.registered hmem))
  exact session?_of_registered hsound hsole hmem

/-! ## Messages -/

/-- The answer to a request that waits in the session to which it was routed is delivered. -/
theorem evaluateAnswer?_of_routed (hsound : h.Sound) {s i : Nat} {session : Session}
    {m : EvaluateOutcome} (hloop : h.loop = .routed s (.evaluateResponse m))
    (hsession : h.sessions[s]? = some session) (hmem : (m.requestId, i) ∈ session.pending.waiting) :
    evaluateAnswer? i (h.step .loop) = some (evaluateAnswer m) := by
  have hw : h.evaluateDesk.Waits s m.requestId i := evaluateDesk_waits.2 ⟨session, hsession, hmem⟩
  rw [evaluateAnswer?_eq]
  rcases h.evaluateDesk_stepLoop with ⟨-, hnobody⟩ | ⟨s', m', hloop', hdelivers⟩
  · exact absurd hw (hnobody s m i hloop)
  · obtain ⟨rfl, hm'⟩ := Loop.routed.inj (hloop.symm.trans hloop')
    obtain rfl : m = m' := Incoming.evaluateResponse.inj hm'
    exact hdelivers.answer hsound.evaluateTidy hw

/-! ## Whole runs -/

/-- In a run, sessions that are alone with their evaluator ids keep their places, and those whose ids went
to later ones have lost theirs. -/
structure KeepsPlaces (h : Hub) (actions : List Action) : Prop where
  /-- Who is alone with its id is registered until it is closed, whatever becomes of the others. -/
  registered : ∀ before after s session, actions = before ++ after →
    (h.run before).connection.phase = .isOpen → (h.run before).SoleHolder s →
    (h.run before).sessions[s]? = some session → session.pending.isClosed = false →
    (h.run before).connection.session? session.evaluatorId = some s
  /-- Until then messages for it are routed to it. -/
  routed : ∀ before after s session m, actions = before ++ .loop :: after →
    (h.run before).connection.phase = .isOpen → (h.run before).SoleHolder s →
    (h.run before).sessions[s]? = some session → session.pending.isClosed = false →
    (h.run before).Reads m → m.evaluatorId? = some session.evaluatorId →
    (h.run (before ++ [.loop])).loop = .routed s m
  /-- And what is routed to it reaches the call that waits for it. -/
  delivered : ∀ before after s session m i, actions = before ++ .loop :: after →
    (h.run before).loop = .routed s (.evaluateResponse m) →
    (h.run before).sessions[s]? = some session → (m.requestId, i) ∈ session.pending.waiting →
    evaluateAnswer? i (h.run (before ++ [.loop])) = some (evaluateAnswer m)
  /-- A shutdown has it in the registry or on its list until it has come to it. -/
  listed : ∀ before after s session reason progress, actions = before ++ after →
    (h.run before).connection.phase = .closing reason progress → (h.run before).SoleHolder s →
    (h.run before).sessions[s]? = some session → session.pending.isClosed = false →
    (∃ id, (id, s) ∈ (h.run before).connection.registry) ∨ s ∈ (h.run before).connection.phase.left
  /-- Whoever waits there then is given the reason of the shutdown. -/
  failed : ∀ before past after reason s left session i requestId,
    actions = before ++ .shutdown :: past ++ after →
    (h.run before).connection.phase = .closing reason (.failingSessions (s :: left)) →
    (h.run before).sessions[s]? = some session → (requestId, i) ∈ session.pending.waiting →
    EvaluateFailed i (.connectionClosed reason) (h.run before) (h.run (before ++ .shutdown :: past))
  /-- Once the shutdown is over it is closed, and nobody is left there to wait without an answer. -/
  ended : ∀ before after s session reason, actions = before ++ after →
    (h.run before).connection.phase = .closed reason → (h.run before).SoleHolder s →
    (h.run before).sessions[s]? = some session →
    session.Over ∧ ∀ (i : Nat) (call : EvaluateCall), (h.run before).evaluates[i]? = some call →
      call.session = s → call.stage = .waiting → call.answer ≠ none
  /-- Whose id went to a later session is registered no more. -/
  displaced : ∀ before after s s' id, actions = before ++ after → s < s' →
    (h.run before).evaluatorIds[s]? = some id → (h.run before).evaluatorIds[s']? = some id →
    (h.run before).connection.session? id ≠ some s

/-- In every run of a new hub, whatever evaluator ids the server hands out, the sessions that are alone
with theirs keep their places. -/
theorem keepsPlaces_of_new (hnew : h.New) (actions : List Action) : h.KeepsPlaces actions where
  registered := by
    intro before after s session _ hphase hsole hsession hopen
    exact hnew.session?_of_open hphase hsole hsession hopen
  routed := by
    intro before after s session m _ hphase hsole hsession hopen hreads hid
    rw [run_snoc]
    exact loop_of_reads hreads hid (hnew.session?_of_open hphase hsole hsession hopen)
  delivered := by
    intro before after s session m i _ hloop hsession hmem
    rw [run_snoc]
    exact evaluateAnswer?_of_routed (hnew.sound.run before) hloop hsession hmem
  listed := by
    intro before after s session reason progress _ hphase hsole hsession hopen
    cases hnew.covered_of_soleHolder hsole hsession with
    | closed hclosed => exact absurd hclosed (not_closed_doors hsession hopen)
    | registered hmem => exact .inl ⟨_, hmem⟩
    | listed hmem => exact .inr hmem
  failed := by
    intro before past after reason s left session i requestId _ hphase hsession hmem
    rw [run_append h before (.shutdown :: past)]
    exact evaluateFailed_run (hnew.sound.run before) hphase hsession hmem past
  ended := by
    intro before after s session reason _ hphase hsole hsession
    have hwatched := hnew.watched.run before
    have hover :=
      hwatched.session_over hphase (hnew.covered_of_soleHolder hsole hsession) hsession
    refine ⟨hover, fun i call hcall hown hstage => ?_⟩
    refine hwatched.evaluate_heard hcall hstage fun other hother => ?_
    rw [hown, hsession] at hother
    rw [← Option.some.inj hother]
    exact hover.2
  displaced := by
    intro before after s s' id _ hlt hid hid' hfound
    have hmem : (id, s) ∈ (h.run before).doors.registry := mem_registry_of_session? hfound
    rw [← doors_ids] at hid'
    exact hnew.latest before id s s' hmem hlt hid'

/-- Three evaluators are created, and the server gives the third one the id of the second.  The first and
the second one evaluate when the manager is closed. -/
def reuse : List Action :=
  let create (i : Nat) : Action := .advance (.create i)
  let evaluate (i : Nat) : Action := .advance (.evaluate i)
  let created (requestId evaluatorId : Int64) : Action :=
    .arrive (Incoming.encode (.createEvaluatorResponse ⟨requestId, some evaluatorId, none⟩))
  let source : ModuleSource := ⟨"repl:text", some "a = 1"⟩
  [.create {}, create 0, create 0, .endLaunch none, create 0, create 0, create 0, create 0, create 0,
    created 0x6220a8397b1dcdaf 7, .loop, create 0, create 0,
    .create {}, create 1, create 1, create 1, create 1, create 1, create 1, create 1,
    created 0x6e789e6aa1b965f4 5, .loop, create 1, create 1,
    .create {}, create 2, create 2, create 2, create 2, create 2, create 2, create 2,
    created 0x6c45d188009454f 5, .loop, create 2, create 2,
    .evaluate 0 source "", evaluate 0, evaluate 0, evaluate 0, evaluate 0, evaluate 0,
    .evaluate 1 source "", evaluate 1, evaluate 1, evaluate 1, evaluate 1, evaluate 1,
    .closeManager, .advance (.errand 0), .advance (.errand 0), .shutdown, .shutdown, .shutdown,
    .shutdown, .shutdown, evaluate 0, evaluate 1]

/-- In that run the call in the first session learns why the connection was closed. -/
theorem reuse_keepsPlaces :
    let h : Hub := { workingDir := [] }
    h.New ∧ (evaluateOutcome? 0 (h.run reuse)).map (Except.mapError EvaluatorError.message) =
        some (.error "connection closed: evaluator manager closed") ∧ h.KeepsPlaces reuse := by
  intro h
  have hnew : h.New := new_init []
  exact ⟨hnew, by decide +kernel, keepsPlaces_of_new hnew reuse⟩

/-- The call in the second session, which was returned to its creator, waits on after the shutdown, without
an answer, in a session that is not closed. -/
theorem reuse_strands :
    let h : Hub := { workingDir := [] }
    let after : Hub := h.run reuse
    (createOutcome? 1 after).bind Except.toOption = some 1 ∧ after.evaluatorIds = [7, 5, 5] ∧
      after.connection.isDown = true ∧ after.connection.session? 5 = none ∧
      (after.sessions.map fun session => session.pending.isClosed) = [true, false, true] ∧
      (after.sessions.map fun session => session.pending.waiting.map Prod.snd) = [[], [1], []] ∧
      (evaluateAnswer? 1 after).isNone = true := by
  decide +kernel

end PklHost.Hub
