import PklHost.Proofs.Hub.Stages

/-!
# Where messages are routed

The registry says which session has an evaluator id, and the loop which session gets the message that it
took off the stream.  Entries are added by calls that enter a session, and are taken off; a message is
routed to a session that is registered for its evaluator (`routes_step`).

So a session that was taken off the registry while no message is on its way to it never gets one again
(`Lost`), even where its evaluator id comes back with another session.
-/

namespace PklHost.Hub

open Message (Incoming)

variable {h : Hub}

/-- What an action does to the evaluator ids of the sessions, to the registry and to the loop. -/
inductive RoutesEffect (h : Hub) (a : Action) (h' : Hub) : Prop
  | kept (hids : h'.evaluatorIds = h.evaluatorIds)
      (hregistry : h'.connection.registry ⊆ h.connection.registry) (hloop : h'.loop = h.loop)
  /-- A call enters the session of its evaluator. -/
  | entered {i : Nat} {call : CreateCall} {id : Int64} (hcall : h.creates[i]? = some call)
      (hstage : call.stage = .inserting id)
      (hover : h'.createStages[i]? = some (.finished (.ok h.sessions.length)))
      (hids : h'.evaluatorIds = h.evaluatorIds ++ [id])
      (hregistry : h'.connection.registry ⊆ (id, h.sessions.length) :: h.connection.registry)
      (hloop : h'.loop = h.loop) (ha : a ≠ .loop)
  | routed {s : Nat} {m : Incoming} {id : Int64} (hid : m.evaluatorId? = some id)
      (hregistered : (id, s) ∈ h.connection.registry) (hids : h'.evaluatorIds = h.evaluatorIds)
      (hregistry : h'.connection.registry = h.connection.registry) (hloop : h'.loop = .routed s m)
      (ha : a = .loop)
  | passed (hids : h'.evaluatorIds = h.evaluatorIds)
      (hregistry : h'.connection.registry = h.connection.registry)
      (hloop : ∀ s m, h'.loop ≠ .routed s m) (hpasses : a = .loop ∨ h.loop = .reading)

theorem RoutesEffect.of_eq {a : Action} {h' : Hub} (hids : h'.evaluatorIds = h.evaluatorIds)
    (hregistry : h'.connection.registry = h.connection.registry) (hloop : h'.loop = h.loop) :
    RoutesEffect h a h' := by
  refine .kept hids ?_ hloop
  rw [hregistry]
  exact List.Subset.refl _

/-- Entering a session for an id replaces what was registered for it. -/
theorem enroll_subset (c : Connection) (id : Int64) (s : Nat) :
    (c.enroll id s).registry ⊆ (id, s) :: c.registry := by
  intro r hr
  rcases List.mem_append.1 hr with hold | hnew
  · exact List.mem_cons_of_mem _ (List.mem_filter.1 hold).1
  · obtain rfl : r = (id, s) := by simpa using hnew
    exact List.mem_cons_self

theorem CreateStep.routes {i : Nat} {call : CreateCall} {stage : CreateStage} {h₁ h' : Hub}
    (hcall : h.creates[i]? = some call) (hstep : CreateStep h i call stage h₁)
    (hquiet : Quiet (h₁.moveCreate i stage) h') :
    RoutesEffect h (.advance (.create i)) h' := by
  have hids := hquiet.evaluatorIds
  have hstages := hquiet.createStages
  have hregistry := hquiet.registry
  have hloop := hquiet.loop
  rw [createStages_moveCreate, hstep.createStages] at hstages
  rw [moveCreate_eq] at hids hregistry hloop
  cases hstep with
  | goes _ _ _ hquiet =>
      exact .of_eq (hids.trans hquiet.evaluatorIds) (hregistry.trans hquiet.registry)
        (hloop.trans hquiet.loop)
  | launches _ _ => exact .of_eq hids hregistry hloop
  | files _ _ _ => exact .of_eq hids hregistry hloop
  | @withdraws requestId fault _ =>
      obtain ⟨creates, waiting, -, heq⟩ := h.withdrawCreate_eq requestId i
      rw [heq] at hids hregistry hloop
      exact .of_eq hids hregistry hloop
  | @inserts evaluatorId h₁ hinserting hinsert =>
      rw [insertSession_eq_ok hinsert] at hids hregistry hloop
      unfold evaluatorIds at hids
      rw [List.map_append] at hids
      refine .entered hcall hinserting ?_ hids ?_ hloop Action.noConfusion
      · rw [hstages, List.getElem?_modify, createStages_getElem?.2 ⟨call, hcall, rfl⟩]
        simp
      · rw [hregistry]
        exact enroll_subset _ _ _

theorem LoopEffect.routes {h₁ h' : Hub} (heffect : LoopEffect h h₁) (hquiet : Quiet h₁ h') :
    RoutesEffect h .loop h' := by
  have hids := hquiet.evaluatorIds
  have hregistry := hquiet.registry
  have hloop := hquiet.loop
  cases heffect with
  | passed loop hpassed _ _ =>
      refine .passed hids hregistry ?_ (.inl rfl)
      rw [hloop]
      exact hpassed
  | routed _ hid hregistered _ => exact .routed hid hregistered hids hregistry hloop rfl
  | @create m i creates _ _ =>
      rw [answerCreate_eq] at hids hregistry hloop
      exact .of_eq hids hregistry hloop
  | @evaluate s m session i pending _ hsession _ =>
      rw [answerEvaluate_eq] at hids hregistry hloop
      refine .passed (hids.trans (map_evaluatorId_of_faces (map_set_face hsession rfl))) hregistry ?_
        (.inl rfl)
      rw [hloop]
      exact fun _ _ => Loop.noConfusion

theorem routes_step (h : Hub) (a : Action) : RoutesEffect h a (h.step a) := by
  obtain ⟨h₁, heffect, hquiet⟩ := h.step_effect a
  have hids := hquiet.evaluatorIds
  have hregistry := hquiet.registry
  have hloop := hquiet.loop
  cases heffect with
  | none => exact .of_eq hids hregistry hloop
  | begunCreate o => exact .of_eq hids hregistry hloop
  | begunEvaluate s source expr => exact .of_eq hids hregistry hloop
  | create hcall hturn _ => exact hturn.step.routes hcall hquiet
  | evaluate _ hsession hturn _ =>
      obtain ⟨evaluates, sessions, hsame, htouches⟩ := hturn.step.touches hsession
      rw [moveEvaluate_eq] at hids hregistry hloop
      exact .of_eq ((hids.trans htouches.evaluatorIds).trans (map_evaluatorId_of_faces hsame))
        (hregistry.trans htouches.registry) (hloop.trans htouches.loop)
  | @failedSession _ s fault _ =>
      rw [evaluatorIds_failSession] at hids
      obtain ⟨evaluates, heq⟩ := h.failSession_eq s fault
      rw [heq] at hregistry hloop
      exact .of_eq hids hregistry hloop
  | @failedCreates _ fault _ =>
      obtain ⟨creates, waiting, -, heq⟩ := h.failCreates_eq fault
      rw [heq] at hids hregistry hloop
      exact .of_eq hids hregistry hloop
  | unregistered hsubset =>
      refine .kept hids ?_ hloop
      rw [hregistry]
      exact hsubset
  | abandonedCreate _ _ =>
      rw [moveCreate_eq] at hids hregistry hloop
      exact .of_eq hids hregistry hloop
  | abandonedEvaluate _ _ =>
      rw [moveEvaluate_eq] at hids hregistry hloop
      exact .of_eq hids hregistry hloop
  | launched _ _ =>
      rw [moveCreate_eq] at hids hregistry hloop
      exact .of_eq hids hregistry hloop
  | loop heffect => exact heffect.routes hquiet
  | halted hreading =>
      refine .passed hids hregistry ?_ (.inr hreading)
      rw [hloop]
      exact fun _ _ => Loop.noConfusion

/-- The loop enters no session. -/
theorem evaluatorIds_stepLoop (h : Hub) : h.stepLoop.evaluatorIds = h.evaluatorIds := by
  cases routes_step h .loop with
  | kept hids _ _ => exact hids
  | entered _ _ _ _ _ _ ha => exact absurd rfl ha
  | routed _ _ hids _ _ _ => exact hids
  | passed hids _ _ _ => exact hids

/-! ## What is registered, and what is lost -/

theorem length_evaluatorIds (h : Hub) : h.evaluatorIds.length = h.sessions.length :=
  List.length_map _

theorem evaluatorIds_getElem? {s : Nat} {session : Session} (hsession : h.sessions[s]? = some session) :
    h.evaluatorIds[s]? = some session.evaluatorId := by
  unfold evaluatorIds
  rw [List.getElem?_map, hsession]
  rfl

/-- The sessions stay, with their evaluator ids. -/
theorem evaluatorIds_step (h : Hub) (a : Action) {s : Nat} {evaluatorId : Int64}
    (hat : h.evaluatorIds[s]? = some evaluatorId) :
    (h.step a).evaluatorIds[s]? = some evaluatorId := by
  cases routes_step h a with
  | kept hids _ _ => rwa [hids]
  | entered _ _ _ hids _ _ _ =>
      rw [hids, getElem?_append_of_some hat]
  | routed _ _ hids _ _ _ => rwa [hids]
  | passed hids _ _ _ => rwa [hids]

/-- An evaluator id leads to a session of that id, in the registry and from the loop. -/
structure RoutesSound (h : Hub) : Prop where
  registered : ∀ {id : Int64} {s : Nat}, (id, s) ∈ h.connection.registry → h.evaluatorIds[s]? = some id
  routed : ∀ {s : Nat} {m : Incoming}, h.loop = .routed s m →
    ∃ id, m.evaluatorId? = some id ∧ h.evaluatorIds[s]? = some id

theorem routesSound_step (hsound : h.RoutesSound) (a : Action) : (h.step a).RoutesSound := by
  have hkeeps := fun {s : Nat} {id : Int64} => @evaluatorIds_step h a s id
  have hregistered : ∀ {id : Int64} {s : Nat}, (id, s) ∈ h.connection.registry →
      (h.step a).evaluatorIds[s]? = some id := fun hmem => hkeeps (hsound.registered hmem)
  have hrouted : ∀ {s : Nat} {m : Incoming}, h.loop = .routed s m →
      ∃ id, m.evaluatorId? = some id ∧ (h.step a).evaluatorIds[s]? = some id := by
    intro s m hloop
    obtain ⟨id, hid, hat⟩ := hsound.routed hloop
    exact ⟨id, hid, hkeeps hat⟩
  cases routes_step h a with
  | kept _ hregistry hloop =>
      exact ⟨fun hmem => hregistered (hregistry hmem), fun h' => hrouted (hloop ▸ h')⟩
  | @entered i call new _ _ _ hids hregistry hloop _ =>
      refine ⟨?_, fun h' => hrouted (hloop ▸ h')⟩
      intro id s hmem
      rcases List.mem_cons.1 (hregistry hmem) with hnew | hold
      -- the new entry leads to the place that the session takes
      · obtain ⟨rfl, rfl⟩ := Prod.mk.inj hnew
        rw [hids, ← length_evaluatorIds]
        simp
      · exact hregistered hold
  | routed hid hmem _ hregistry hloop _ =>
      refine ⟨fun h' => hregistered (hregistry ▸ h'), ?_⟩
      intro s m hrouted
      obtain ⟨rfl, rfl⟩ := Loop.routed.inj (hloop.symm.trans hrouted)
      exact ⟨_, hid, hregistered hmem⟩
  | passed _ hregistry hloop _ =>
      exact ⟨fun h' => hregistered (hregistry ▸ h'), fun h' => absurd h' (hloop _ _)⟩

/-- A message that was routed stays so until the loop goes on. -/
theorem routed_step {s : Nat} {m : Incoming} (hloop : h.loop = .routed s m) {a : Action}
    (ha : a ≠ .loop) : (h.step a).loop = .routed s m := by
  cases routes_step h a with
  | kept _ _ hsame | entered _ _ _ _ _ hsame _ => rw [hsame, hloop]
  | routed _ _ _ _ _ hstep => exact absurd hstep ha
  | passed _ _ _ hpasses =>
      rcases hpasses with hstep | hreading
      · exact absurd hstep ha
      · rw [hloop] at hreading
        cases hreading

/-- A session to which no message leads any more. -/
structure Lost (s : Nat) (h : Hub) : Prop where
  known : s < h.sessions.length
  unregistered : ∀ id, (id, s) ∉ h.connection.registry
  unrouted : ∀ m, h.loop ≠ .routed s m

/-- Sessions stay. -/
theorem sessions_step (h : Hub) (a : Action) {s : Nat} (hs : s < h.sessions.length) :
    s < (h.step a).sessions.length := by
  rw [← length_evaluatorIds] at hs ⊢
  obtain ⟨id, hat⟩ : ∃ id, h.evaluatorIds[s]? = some id := ⟨_, List.getElem?_eq_getElem hs⟩
  exact (List.getElem?_eq_some_iff.1 (evaluatorIds_step h a hat)).1

/-- What is lost stays lost, since only new sessions are registered. -/
theorem Lost.step {s : Nat} (hlost : Lost s h) (a : Action) : Lost s (h.step a) := by
  have hknown := hlost.known
  cases routes_step h a with
  | kept _ hregistry hloop =>
      exact ⟨sessions_step h a hknown, fun id hmem => hlost.unregistered id (hregistry hmem),
        fun m h' => hlost.unrouted m (hloop ▸ h')⟩
  | entered _ _ _ _ hregistry hloop _ =>
      refine ⟨sessions_step h a hknown, ?_, fun m h' => hlost.unrouted m (hloop ▸ h')⟩
      intro id hmem
      rcases List.mem_cons.1 (hregistry hmem) with hnew | hold
      -- the session that is entered is a new one
      · have := (Prod.mk.inj hnew).2
        omega
      · exact hlost.unregistered id hold
  | routed _ hmem _ hregistry hloop _ =>
      refine ⟨sessions_step h a hknown, fun id h' => hlost.unregistered id (hregistry ▸ h'), ?_⟩
      intro m hrouted
      obtain ⟨rfl, rfl⟩ := Loop.routed.inj (hloop.symm.trans hrouted)
      exact hlost.unregistered _ hmem
  | passed _ hregistry hloop _ =>
      exact ⟨sessions_step h a hknown, fun id h' => hlost.unregistered id (hregistry ▸ h'),
        fun m => hloop s m⟩

end PklHost.Hub
