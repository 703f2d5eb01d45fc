import PklHost.Proofs.Hub.Dismissal
import PklHost.Proofs.Hub.Manager

/-!
# Evaluators that have left

An evaluator has left (`Departed`) when its session is closed, with nothing that waits in it, when no message
is routed to it any more, and when the server has been told so or will be.  Once it has left it does not come
back (`Departed.step`).  Whoever closes an evaluator is done with it only when it has left (`Parting.step`),
whatever else goes on: what another one did to the evaluator before, the server has been told by that one.

What carries this is that no evaluator id is taken off the registry in silence (`accounted_step`).
-/

namespace PklHost.Hub

open Message (Outgoing)

variable {h h' : Hub} {i s : Nat} {id : Int64}

/-! ## What the registry loses -/

/-- An evaluator id stays registered, unless the connection is closed or it leaves with a session of its
own. -/
theorem Doors.Moves.registered {Leaves : Nat → Prop} {d d' : Doors} (h : d.Moves Leaves d')
    (hmem : (id, s) ∈ d.registry) : (∃ s', (id, s') ∈ d'.registry) ∨
      (∃ reason, d'.phase.reason? = some reason) ∨ ∃ s', Leaves s' ∧ d.ids[s']? = some id := by
  cases h with
  | stays | closes _ => exact .inl ⟨s, hmem⟩
  | enters other _ =>
      by_cases hid : id = other
      · exact .inl ⟨_, List.mem_append_right _ (by rw [hid]; exact List.mem_cons_self)⟩
      · exact .inl ⟨s, List.mem_append_left _ (Doors.mem_unregister.2 ⟨hmem, hid⟩)⟩
  | @unregisters s' other hleaves hat =>
      by_cases hid : id = other
      · exact .inr (.inr ⟨s', hleaves, hid ▸ hat⟩)
      · exact .inl ⟨s, Doors.mem_unregister.2 ⟨hmem, hid⟩⟩
  | _ => exact .inr (.inl ⟨_, rfl⟩)

/-- An evaluator id that is new is registered. -/
theorem Doors.Moves.registered_of_new {Leaves : Nat → Prop} {d d' : Doors} (h : d.Moves Leaves d')
    (hmem : id ∈ d'.ids) : id ∈ d.ids ∨ ∃ s, (id, s) ∈ d'.registry := by
  cases h with
  | enters other _ =>
      have hids : id ∈ d.ids ++ [other] := by simpa [Doors.ids] using hmem
      rcases List.mem_append.1 hids with hold | hnew
      · exact .inl hold
      · obtain rfl := List.mem_singleton.1 hnew
        exact .inr ⟨_, List.mem_append_right _ List.mem_cons_self⟩
  | closes other | @failsSession _ other _ _ =>
      exact .inl (Doors.ids_closeSession other d ▸ hmem)
  | _ => exact .inl hmem

/-! ## What the server is told -/

/-- The server need not be told any more that an evaluator is closed: it was told, or an errand is about to
tell it, or the connection is closed. -/
inductive Announced (h : Hub) (id : Int64) : Prop
  | told (htold : id ∈ h.told)
  | telling (htelling : id ∈ h.telling)
  | closed (hclosed : h.connection.isClosed = true)

theorem mem_telling : id ∈ h.telling ↔ ∃ (i : Nat) (e : Errand), h.errands[i]? = some e ∧
    e.tells? h.evaluatorIds = some id := by
  unfold telling
  rw [List.mem_filterMap]
  constructor
  · rintro ⟨e, he, htells⟩
    obtain ⟨i, hi⟩ := List.getElem?_of_mem he
    exact ⟨i, e, hi, htells⟩
  · rintro ⟨i, e, he, htells⟩
    exact ⟨e, List.mem_of_getElem? he, htells⟩

/-- An errand goes on to tell of the same evaluator. -/
theorem tells?_step {e : Errand} (htells : e.tells? h.evaluatorIds = some id) (a : Action) :
    e.tells? (h.step a).evaluatorIds = some id := by
  cases e with
  | close s ownsManager stage =>
      cases stage with
      | sending progress => exact evaluatorIds_step h a htells
      | failing | unregistering => cases htells
  | notice other progress => exact htells
  | _ => cases htells

theorem told_step (htold : id ∈ h.told) (a : Action) : id ∈ (h.step a).told := by
  obtain ⟨more, hmore⟩ := h.sent_step a
  unfold told at htold ⊢
  rw [← hmore, List.filterMap_append]
  exact List.mem_append_left _ htold

theorem isClosed_of_isDown (hdown : h.connection.isDown = true) : h.connection.isClosed = true := by
  unfold Connection.isDown at hdown
  unfold Connection.isClosed
  split at hdown
  · next hphase => rw [hphase]
  · cases hdown
  · cases hdown

/-- The message that closes an evaluator is sent, or cannot be since the connection is closed. -/
theorem told_or_closed_of_ends {progress : Sending} {sent : Sent}
    (hsending : h.stepSending (.closeEvaluator id) progress = (sent, h')) (hends : sent.Ends) :
    id ∈ h'.told ∨ h'.connection.isClosed = true := by
  cases sendingTurn hsending with
  | refused hclosed | fails hclosed => exact .inr hclosed
  | writes =>
      refine .inl ?_
      unfold told
      rw [List.filterMap_append]
      exact List.mem_append_right _ List.mem_cons_self
  | ends _ hdown => exact .inr (isClosed_of_isDown hdown)
  | passes _ | breaks _ _ | waits _ => exact hends.elim

/-- An errand that is about to tell the server goes on with it, or is done with it. -/
theorem ErrandTurn.announces {e e' : Errand} (hturn : ErrandTurn h e e' h')
    (htells : e.tells? h.evaluatorIds = some id) :
    e'.tells? h.evaluatorIds = some id ∨ id ∈ h'.told ∨ h'.connection.isClosed = true := by
  cases hturn with
  | @gone _ s he hgone =>
      cases e with
      | close s' ownsManager stage =>
          obtain rfl : s' = s := Option.some.inj he
          cases stage with
          | sending progress =>
              have hs := (List.getElem?_eq_some_iff.1 (show h.evaluatorIds[s']? = some id from htells)).1
              rw [length_evaluatorIds] at hs
              rw [List.getElem?_eq_getElem hs] at hgone
              cases hgone
          | failing | unregistering => cases htells
      | notice => cases he
      | _ => cases htells
  | tells _ _ | notices _ => exact .inl htells
  | told hsending hends hsession =>
      obtain rfl := Option.some.inj ((evaluatorIds_getElem? hsession).symm.trans htells)
      exact .inr (told_or_closed_of_ends hsending hends)
  | noticed hsending hends =>
      obtain rfl := Option.some.inj htells
      exact .inr (told_or_closed_of_ends hsending hends)
  | _ => cases htells

theorem Announced.step (hannounced : h.Announced id) (a : Action) : (h.step a).Announced id := by
  cases hannounced with
  | told htold => exact .told (told_step htold a)
  | closed hclosed => exact .closed (isClosed_step hclosed a)
  | telling htelling =>
      obtain ⟨i, e, he, htells⟩ := mem_telling.1 htelling
      rcases errands_step he a with ⟨-, hsame⟩ | ⟨-, e', h₁, hturn, heq, he'⟩
      · exact .telling (mem_telling.2 ⟨i, e, hsame, tells?_step htells a⟩)
      · rcases hturn.announces htells with hgoes | htold | hclosed
        · exact .telling (mem_telling.2 ⟨i, e', he', tells?_step hgoes a⟩)
        · exact .told (heq ▸ htold)
        · exact .closed (heq ▸ hclosed)

/-! ## Nobody leaves in silence -/

/-- An evaluator id is registered, or the server need not be told of it any more. -/
def Accounted (h : Hub) (id : Int64) : Prop :=
  (∃ s, (id, s) ∈ h.connection.registry) ∨ h.Announced id

theorem Errand.session?_of_leaves? {e : Errand} (hs : e.leaves? = some s) : e.session? = some s := by
  cases e with
  | close _ _ stage =>
      cases stage with
      | unregistering => exact hs
      | failing | sending _ => cases hs
  | leave _ => exact hs
  | _ => cases hs

/-- Whoever takes an evaluator id off the registry is about to tell the server. -/
theorem announced_of_leaves {a : Action} {other : Nat} (hmem : (id, other) ∈ h.connection.registry)
    (hleaves : h.LeavesBy a s) (hid : h.evaluatorIds[s]? = some id) : (h.step a).Announced id := by
  obtain ⟨i, e, rfl, he, hs⟩ := hleaves
  obtain ⟨e', h₁, hturn, heq, he'⟩ := errand_advance he
  -- the errand finds the session, and its id on the registry
  have hfound : ∀ {session : Session}, h.sessions[s]? = some session → session.evaluatorId = id :=
    fun hsession => Option.some.inj ((evaluatorIds_getElem? hsession).symm.trans hid)
  have hknown : ∀ {session : Session}, h.sessions[s]? = some session →
      h.connection.session? session.evaluatorId ≠ none := fun hsession hnone =>
    not_mem_registry_of_session? hnone other (hfound hsession ▸ hmem)
  have hgone : h.sessions[s]? ≠ none := by
    have hlength := (List.getElem?_eq_some_iff.1 hid).1
    rw [length_evaluatorIds] at hlength
    rw [List.getElem?_eq_getElem hlength]
    exact Option.some_ne_none _
  cases hturn with
  | gone hsession hnone =>
      obtain rfl := Option.some.inj (hsession.symm.trans (Errand.session?_of_leaves? hs))
      exact absurd hnone hgone
  | unregisters hsession _ =>
      obtain rfl := Option.some.inj hs
      exact .telling (mem_telling.2 ⟨i, _, he', evaluatorIds_step h _ hid⟩)
  | passes hunknown hsession | left hunknown hsession =>
      obtain rfl := Option.some.inj hs
      exact absurd hunknown (hknown hsession)
  | leaves hsession _ =>
      obtain rfl := Option.some.inj hs
      refine .telling (mem_telling.2 ⟨h.errands.length, .notice id .checking, ?_, rfl⟩)
      have hi : i ≠ h.errands.length := Nat.ne_of_lt (List.getElem?_eq_some_iff.1 he).1
      rw [heq]
      refine (List.getElem?_set_ne hi).trans ?_
      rw [← hfound hsession]
      exact List.getElem?_concat_length
  | _ => cases hs

theorem accounted_step (haccounted : h.Accounted id) (a : Action) : (h.step a).Accounted id := by
  rcases haccounted with ⟨s, hmem⟩ | hannounced
  · rcases (h.doors_step_by a).registered hmem with hstays | ⟨reason, hreason⟩ | ⟨s', hleaves, hid⟩
    · exact .inl hstays
    · exact .inr (.closed (isClosed_of_reason? hreason))
    · exact .inr (announced_of_leaves hmem hleaves (by rwa [doors_ids] at hid))
  · exact .inr (hannounced.step a)

/-- Every evaluator id of a session is registered, or the server need not be told of it any more. -/
def AllAccounted (h : Hub) : Prop := ∀ id ∈ h.evaluatorIds, h.Accounted id

theorem allAccounted_step (hall : h.AllAccounted) (a : Action) : (h.step a).AllAccounted := by
  intro id hid
  rw [← doors_ids] at hid
  rcases (h.doors_step_by a).registered_of_new hid with hold | hnew
  · rw [doors_ids] at hold
    exact accounted_step (hall id hold) a
  · exact .inl hnew

theorem allAccounted_run (hall : h.AllAccounted) (actions : List Action) : (h.run actions).AllAccounted :=
  run_keeps (P := AllAccounted) (fun hall a => allAccounted_step hall a) hall actions

/-! ## Evaluators that have left -/

/-- An evaluator has left. -/
structure Departed (h : Hub) (s : Nat) : Prop where
  closed : ∃ session, h.sessions[s]? = some session ∧ session.Over
  unregistered : ∀ id, (id, s) ∉ h.connection.registry
  announced : ∀ id, h.evaluatorIds[s]? = some id → h.Announced id

/-- No session that is there comes to be registered. -/
theorem unregistered_step (hknown : s < h.sessions.length)
    (hunregistered : ∀ id, (id, s) ∉ h.connection.registry) (a : Action) :
    ∀ id, (id, s) ∉ (h.step a).connection.registry := by
  intro id hmem
  cases routes_step h a with
  | kept _ hregistry _ => exact hunregistered id (hregistry hmem)
  | entered _ _ _ _ hregistry _ _ =>
      rcases List.mem_cons.1 (hregistry hmem) with hnew | hold
      · exact Nat.ne_of_lt hknown (Prod.mk.inj hnew).2
      · exact hunregistered id hold
  | routed _ _ _ hregistry _ _ | passed _ hregistry _ _ => exact hunregistered id (hregistry ▸ hmem)

theorem Departed.step (hdeparted : h.Departed s) (hw : h.Watched) (a : Action) :
    (h.step a).Departed s := by
  obtain ⟨session, hsession, hover⟩ := hdeparted.closed
  have hclosed : h.doors.Closed s := closed_doors.2 ⟨session, hsession, hover.1⟩
  refine ⟨(hw.step a).over_of_closed ((h.doors_step a).closed hclosed),
    unregistered_step (List.getElem?_eq_some_iff.1 hsession).1 hdeparted.unregistered a, ?_⟩
  intro id hid
  have hstays := evaluatorIds_step h a (evaluatorIds_getElem? hsession)
  obtain rfl := Option.some.inj (hstays.symm.trans hid)
  exact (hdeparted.announced _ (evaluatorIds_getElem? hsession)).step a

/-- A session that is closed has left once its evaluator id is not registered. -/
theorem departed_of_unknown {session : Session} (hw : h.Watched) (hall : h.AllAccounted)
    (hclosed : h.doors.Closed s) (hsession : h.sessions[s]? = some session)
    (hunknown : h.connection.session? session.evaluatorId = none) : h.Departed s := by
  have hown : ∀ id, h.evaluatorIds[s]? = some id → session.evaluatorId = id :=
    fun id hid => Option.some.inj ((evaluatorIds_getElem? hsession).symm.trans hid)
  have hnobody : ∀ id, h.evaluatorIds[s]? = some id → ∀ other, (id, other) ∉ h.connection.registry :=
    fun id hid => hown id hid ▸ not_mem_registry_of_session? hunknown
  refine ⟨hw.over_of_closed hclosed, fun id hmem => ?_, fun id hid => ?_⟩
  · exact hnobody id (hw.sound.routes.registered hmem) s hmem
  · rcases hall id (List.mem_of_getElem? hid) with ⟨other, hmem⟩ | hannounced
    · exact absurd hmem (hnobody id hid other)
    · exact hannounced

/-! ## Whoever closes an evaluator -/

/-- How far the closing of an evaluator is that does not own its manager. -/
inductive Parting (h : Hub) (s : Nat) : Errand → Prop
  | failing : Parting h s (.close s false .failing)
  | unregistering (hclosed : h.doors.Closed s) : Parting h s (.close s false .unregistering)
  | telling {progress : Sending} (hdeparted : h.Departed s) :
      Parting h s (.close s false (.sending progress))
  | finished (hdeparted : h.Departed s) : Parting h s .finished

theorem Parting.step {e : Errand} (hparting : h.Parting s e) (hw : h.Watched) (hall : h.AllAccounted)
    (hknown : s < h.sessions.length) (he : h.errands[i]? = some e) (a : Action) :
    ∃ e', (h.step a).errands[i]? = some e' ∧ (h.step a).Parting s e' := by
  rcases errands_step he a with ⟨-, hsame⟩ | ⟨-, e', h₁, hturn, heq, he'⟩
  · refine ⟨e, hsame, ?_⟩
    cases hparting with
    | failing => exact .failing
    | unregistering hclosed => exact .unregistering ((h.doors_step a).closed hclosed)
    | telling hdeparted => exact .telling (hdeparted.step hw a)
    | finished hdeparted => exact .finished (hdeparted.step hw a)
  · refine ⟨e', he', ?_⟩
    have hgone : h.sessions[s]? ≠ none := by
      rw [List.getElem?_eq_getElem hknown]
      exact Option.some_ne_none _
    cases hparting with
    | failing =>
        have hclosed := hturn.closed_of_leaves? (s := s)
        cases hturn with
        | gone hs hnone =>
            obtain rfl := Option.some.inj hs
            exact absurd hnone hgone
        | fails _ => exact .unregistering (heq ▸ hclosed rfl)
    | unregistering hclosed =>
        have hall' := allAccounted_step hall a
        have hclosed' := (h.doors_step a).closed hclosed
        cases hturn with
        | gone hs hnone =>
            obtain rfl := Option.some.inj hs
            exact absurd hnone hgone
        | @unregisters _ session _ hsession _ =>
            have hsession' : (h.step a).sessions[s]? = some session := by
              rw [heq]
              exact hsession
            refine .telling (departed_of_unknown (hw.step a) hall' hclosed' hsession' ?_)
            rw [heq]
            exact (session?_unregister _ _ h.connection).trans (if_pos rfl)
        | passes hunknown hsession =>
            exact .finished ((departed_of_unknown hw hall hclosed hsession hunknown).step hw a)
    | telling hdeparted =>
        have hstays := hdeparted.step hw a
        cases hturn with
        | gone _ _ => exact .finished hstays
        | tells _ _ => exact .telling hstays
        | told _ _ _ => exact .finished hstays
    | finished hdeparted =>
        have hstays := hdeparted.step hw a
        cases hturn with
        | gone hs _ => cases hs
        | rests => exact .finished hstays

theorem New.allAccounted (hnew : h.New) (actions : List Action) : (h.run actions).AllAccounted := by
  refine allAccounted_run (fun id hid => ?_) actions
  unfold evaluatorIds at hid
  rw [hnew.sessions] at hid
  cases hid

end PklHost.Hub
