import PklHost.Proofs.Evaluator.Readers
import PklHost.Proofs.Hub.Mail
import PklHost.Proofs.Hub.Runs

/-!
# What evaluators advertise

The session of an evaluator has the readers of the call that created it, and that call has sent a request
that lists them (`Advertised`).  A call keeps its options, and remembers by its stage that its request was
sent (`CreateStage.Backed`).
-/

namespace PklHost.Hub

open Message (CreateEvaluator Outgoing)

variable {h h' : Hub}

/-! ## What is never taken back -/

/-- What was sent stays sent. -/
theorem sent_step (h : Hub) (a : Action) : h.sent <+: (h.step a).sent := by
  cases h.mail_step a with
  | kept hposts _ | posted _ hposts _ =>
      rw [hposts.sent]
      exact List.prefix_append _ _
  | begun _ _ hsent _ _ | called _ _ hsent _ => exact hsent ▸ List.prefix_refl _
  | @errand _ _ _ h₁ _ _ hturn heq _ =>
      obtain ⟨posted, hsent, -⟩ := hturn.sent
      rw [heq]
      show h.sent <+: h₁.sent
      rw [hsent]
      exact List.prefix_append _ _

theorem Quiet.orders (q : Quiet h h') : h'.orders = h.orders := by
  unfold Hub.orders
  rw [q.creates]

theorem CreateStep.orders {i : Nat} {call : CreateCall} {stage : CreateStage}
    (hstep : CreateStep h i call stage h') : h'.orders = h.orders := by
  cases hstep with
  | goes _ _ _ hquiet => exact hquiet.orders
  | launches _ _ => rfl
  | files _ _ _ => rfl
  | withdraws _ =>
      obtain ⟨creates, waiting, horders, heq⟩ := h.withdrawCreate_eq _ i
      rw [heq]
      exact horders
  | inserts _ hinsert =>
      rw [insertSession_eq_ok hinsert]
      rfl

theorem LoopEffect.orders (heffect : LoopEffect h h') : h'.orders = h.orders := by
  cases heffect with
  | passed loop _ _ _ => rfl
  | routed _ _ _ _ => rfl
  | create _ _ => exact orders_answerCreate _ _ _
  | evaluate _ _ _ =>
      rw [answerEvaluate_eq]
      rfl

/-- A call that creates keeps its options. -/
theorem orders_step (h : Hub) (a : Action) : h.orders <+: (h.step a).orders := by
  obtain ⟨h₁, heffect, hquiet⟩ := h.step_effect a
  have hkept : ∀ {h₁ : Hub}, h₁.orders = h.orders → h.orders <+: h₁.orders :=
    fun hsame => hsame ▸ List.prefix_refl _
  rw [hquiet.orders]
  cases heffect with
  | begunCreate o =>
      unfold beginCreate Hub.orders
      rw [List.map_append]
      exact List.prefix_append _ _
  | none | begunEvaluate _ _ _ | unregistered _ | halted _ => exact hkept rfl
  | create _ hturn _ => exact hkept ((orders_moveCreate _ _ _).trans hturn.step.orders)
  | evaluate _ hsession hturn _ =>
      obtain ⟨evaluates, sessions, -, htouches⟩ := hturn.step.touches hsession
      rw [moveEvaluate_eq]
      exact hkept htouches.orders
  | failedSession s _ =>
      obtain ⟨evaluates, heq⟩ := h.failSession_eq s _
      rw [heq]
      exact hkept rfl
  | failedCreates _ =>
      obtain ⟨creates, waiting, horders, heq⟩ := h.failCreates_eq _
      rw [heq]
      exact hkept horders
  | abandonedCreate _ _ | launched _ _ => exact hkept (orders_moveCreate _ _ _)
  | abandonedEvaluate _ _ =>
      rw [moveEvaluate_eq]
      exact hkept rfl
  | loop heffect => exact hkept heffect.orders

/-! ## Faces -/

/-- What an action does to the faces of the sessions: a session that is entered has the readers of the call
that enters it. -/
inductive FacesEffect (h h' : Hub) : Prop
  | kept (hfaces : h'.faces = h.faces)
  | entered {i : Nat} {call : CreateCall} {id : Int64} (hcall : h.creates[i]? = some call)
      (hstage : call.stage = .inserting id)
      (hfaces : h'.faces = h.faces ++ [(id, call.options.readers)])

theorem LoopEffect.faces (heffect : LoopEffect h h') : h'.faces = h.faces := by
  cases heffect with
  | passed loop _ _ _ => rfl
  | routed _ _ _ _ => rfl
  | create _ _ =>
      rw [answerCreate_eq]
      rfl
  | evaluate _ hsession _ =>
      rw [answerEvaluate_eq]
      exact map_set_face hsession rfl

theorem CreateStep.faces {i : Nat} {call : CreateCall} {stage : CreateStage}
    (hcall : h.creates[i]? = some call) (hstep : CreateStep h i call stage h') : FacesEffect h h' := by
  cases hstep with
  | goes _ _ _ hquiet => exact .kept hquiet.faces
  | launches _ _ => exact .kept rfl
  | files _ _ _ => exact .kept rfl
  | withdraws _ =>
      obtain ⟨creates, waiting, -, heq⟩ := h.withdrawCreate_eq _ i
      rw [heq]
      exact .kept rfl
  | inserts hstage hinsert =>
      refine .entered hcall hstage ?_
      rw [insertSession_eq_ok hinsert]
      unfold Hub.faces
      rw [List.map_append]
      rfl

theorem faces_step (h : Hub) (a : Action) : FacesEffect h (h.step a) := by
  obtain ⟨h₁, heffect, hquiet⟩ := h.step_effect a
  have hfaces := hquiet.faces
  cases heffect with
  | none | begunCreate _ | begunEvaluate _ _ _ | unregistered _ | halted _ => exact .kept hfaces
  | create hcall hturn _ =>
      rw [moveCreate_eq] at hfaces
      cases hturn.step.faces hcall with
      | kept hsame => exact .kept (hfaces.trans hsame)
      | entered hcall hstage hmore => exact .entered hcall hstage (hfaces.trans hmore)
  | evaluate _ hsession hturn _ =>
      obtain ⟨evaluates, sessions, hsame, htouches⟩ := hturn.step.touches hsession
      rw [moveEvaluate_eq] at hfaces
      exact .kept ((hfaces.trans htouches.faces).trans hsame)
  | failedSession s _ => exact .kept (hfaces.trans (h.faces_failSession s _))
  | failedCreates _ =>
      obtain ⟨creates, waiting, -, heq⟩ := h.failCreates_eq _
      rw [heq] at hfaces
      exact .kept hfaces
  | abandonedCreate _ _ | launched _ _ =>
      rw [moveCreate_eq] at hfaces
      exact .kept hfaces
  | abandonedEvaluate _ _ =>
      rw [moveEvaluate_eq] at hfaces
      exact .kept hfaces
  | loop heffect => exact .kept (hfaces.trans heffect.faces)

/-- Sessions stay, with their faces. -/
theorem faces_prefix_step (h : Hub) (a : Action) : h.faces <+: (h.step a).faces := by
  cases h.faces_step a with
  | kept hfaces => exact hfaces ▸ List.prefix_refl _
  | entered _ _ hfaces =>
      rw [hfaces]
      exact List.prefix_append _ _

/-! ## Requests that were sent -/

/-- A call has the request of its options, and has sent it when it waits for the answer. -/
def CreateStage.Backed (sent : List Outgoing) (o : EvaluatorOptions) : CreateStage → Prop
  | .registering request | .sending request _ => o.Asks request
  | .waiting | .inserting _ | .finished (.ok _) =>
    ∃ request, o.Asks request ∧ Outgoing.createEvaluator request ∈ sent
  | .connecting | .entering | .launching | .confirming | .shuttingDown | .numbering | .withdrawing ..
  | .finished (.error _) | .abandoned => True

theorem CreateStage.Backed.mono {sent sent' : List Outgoing} {o : EvaluatorOptions} {stage : CreateStage}
    (hbacked : stage.Backed sent o) (hsent : sent <+: sent') : stage.Backed sent' o := by
  have hmore : (∃ request, o.Asks request ∧ Outgoing.createEvaluator request ∈ sent) →
      ∃ request, o.Asks request ∧ Outgoing.createEvaluator request ∈ sent' := by
    rintro ⟨request, hasks, hmem⟩
    exact ⟨request, hasks, hsent.subset hmem⟩
  cases stage with
  | waiting | inserting _ => exact hmore hbacked
  | finished outcome =>
      cases outcome with
      | ok s => exact hmore hbacked
      | error fault => trivial
  | _ => exact hbacked

/-- The end of the start of the server leads to stages at which nothing was sent. -/
theorem LaunchEnds.backed {stage : CreateStage} {launch : Launch} {sent : List Outgoing}
    {o : EvaluatorOptions} (hends : LaunchEnds stage launch) : stage.Backed sent o := by
  cases hends <;> trivial

theorem CreateTurn.backed {i : Nat} {call : CreateCall} {stage : CreateStage}
    (hturn : CreateTurn h i call stage h') (hbacked : call.stage.Backed h.sent call.options) :
    stage.Backed h'.sent call.options := by
  cases hturn with
  | stays => exact hbacked
  | connects _ | launches _ _ | enters _ | closes _ | confirms _ | unnumbered _ _ | unsent _ _
  | withdraws _ | returns _ _ | shutOut _ _ | refused _ _ _ => trivial
  | numbers _ hrequest => exact ⟨_, _, hrequest⟩
  | files hstage _ _ | sends hstage _ | accepts hstage _ =>
      rw [hstage] at hbacked
      exact hbacked
  | @sent request _ _ hstage hsending =>
      rw [hstage] at hbacked
      refine ⟨request, hbacked, ?_⟩
      rw [(posts_of_stepSending hsending).sent]
      exact List.mem_append_right _ (List.mem_singleton.2 rfl)
  | inserts hstage hinsert =>
      rw [hstage] at hbacked
      rw [insertSession_eq_ok hinsert]
      exact hbacked

/-- Every call has its request, and has sent it when it waits for the answer. -/
def AllBacked (h : Hub) : Prop :=
  ∀ (i : Nat) (call : CreateCall), h.creates[i]? = some call → call.stage.Backed h.sent call.options

theorem orders_getElem? {i : Nat} {call : CreateCall} (hcall : h.creates[i]? = some call) :
    h.orders[i]? = some call.options := by
  unfold orders
  rw [List.getElem?_map, hcall]
  rfl

/-- A call that stays has the options that it had. -/
theorem options_step {a : Action} {i : Nat} {call call' : CreateCall}
    (hcall : h.creates[i]? = some call) (hcall' : (h.step a).creates[i]? = some call') :
    call'.options = call.options := by
  obtain ⟨more, hmore⟩ := h.orders_step a
  have hold := orders_getElem? hcall
  have hnew := orders_getElem? hcall'
  rw [← hmore, getElem?_append_of_some hold] at hnew
  exact (Option.some.inj hnew).symm

theorem allBacked_step (hall : h.AllBacked) (a : Action) : (h.step a).AllBacked := by
  intro i call' hcall'
  cases createOrigin (createStages_getElem?.2 ⟨call', hcall', rfl⟩) with
  -- a call that stays at its stage has sent what it had sent
  | kept hat =>
      obtain ⟨call, hcall, hstage⟩ := createStages_getElem?.1 hat
      rw [options_step hcall hcall', ← hstage]
      exact (hall i call hcall).mono (h.sent_step a)
  | begun _ hstage | abandoned hstage =>
      rw [hstage]
      trivial
  | @turned call h₁ _ hcall hturn heq =>
      have hsent : (h.step a).sent = h₁.sent := by rw [heq, moveCreate_eq]
      rw [options_step hcall hcall', hsent]
      exact hturn.backed (hall i call hcall)
  | launched _ hends => exact hends.backed

/-! ## Sessions -/

/-- A call was answered with an evaluator id, and has sent the request of its options, which have these
readers. -/
def Requested (h : Hub) (id : Int64) (readers : Readers) : Prop :=
  ∃ (i : Nat) (call : CreateCall) (request : CreateEvaluator), h.creates[i]? = some call ∧
    call.answer = some (.ok id) ∧ call.options.readers = readers ∧ call.options.Asks request ∧
    Outgoing.createEvaluator request ∈ h.sent

variable {id : Int64} {readers : Readers}

theorem Requested.step (hrequested : h.Requested id readers) (hsound : h.Sound) (a : Action) :
    (h.step a).Requested id readers := by
  obtain ⟨i, call, request, hcall, hanswer, hreaders, hasks, hmem⟩ := hrequested
  obtain ⟨call', hcall', hkeeps, -⟩ := create_step hsound a hcall
  have hoptions := options_step hcall hcall'
  refine ⟨i, call', request, hcall', hkeeps _ hanswer, ?_, ?_, (h.sent_step a).subset hmem⟩
  · rw [hoptions, hreaders]
  · rw [hoptions]
    exact hasks

/-- A call that enters a session was answered, and has sent its request. -/
theorem requested_of_inserting (hsound : h.Sound) (hall : h.AllBacked) {i : Nat} {call : CreateCall}
    (hcall : h.creates[i]? = some call) (hstage : call.stage = .inserting id) :
    h.Requested id call.options.readers := by
  have hearned : CreateStage.Earned call.answer call.stage := hsound.createEarned (slip_of_create hcall)
  have hbacked := hall i call hcall
  rw [hstage] at hearned hbacked
  obtain ⟨request, hasks, hmem⟩ := hbacked
  exact ⟨i, call, request, hcall, hearned, rfl, hasks, hmem⟩

/-- The readers of every session are those of a call that was answered with its evaluator id, and that has
sent the request for it. -/
def Advertised (h : Hub) : Prop :=
  ∀ (s : Nat) (id : Int64) (readers : Readers), h.faces[s]? = some (id, readers) →
    h.Requested id readers

theorem advertised_step (hsound : h.Sound) (hall : h.AllBacked) (hadvertised : h.Advertised)
    (a : Action) : (h.step a).Advertised := by
  intro s id readers hat
  have hold : h.faces[s]? = some (id, readers) → (h.step a).Requested id readers :=
    fun hat => (hadvertised s id readers hat).step hsound a
  cases h.faces_step a with
  | kept hfaces => exact hold (hfaces ▸ hat)
  | entered hcall hstage hfaces =>
      rw [hfaces] at hat
      rcases getElem?_of_append hat with hkept | ⟨-, hnew⟩
      · exact hold hkept
      · obtain ⟨rfl, rfl⟩ := Prod.mk.inj hnew
        exact (requested_of_inserting hsound hall hcall hstage).step hsound a

end PklHost.Hub
