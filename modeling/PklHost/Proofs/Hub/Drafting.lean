import PklHost.Proofs.Hub.Advertising

/-!
# Requests as they were made

The request that a call registers and sends is the one that was made of its options, with the working directory
of the hub, which never changes (`allDrafted_step`).  So what the server receives of the call is that request
(`Sends.request`).
-/

namespace PklHost.Hub

open Message (CreateEvaluator Incoming Outgoing)

variable {h h' : Hub}

/-! ## The working directory -/

theorem workingDir_beginShutdown (reason : CloseReason) (h : Hub) :
    (h.beginShutdown reason).2.workingDir = h.workingDir := by
  unfold beginShutdown
  split <;> rfl

theorem workingDir_of_stepSending {m : Outgoing} {progress : Sending} {sent : Sent}
    (hsending : h.stepSending m progress = (sent, h')) : h'.workingDir = h.workingDir := by
  cases sendingTurn hsending <;> rfl

theorem workingDir_failSession (s : Nat) (fault : EvaluatorError) (h : Hub) :
    (h.failSession s fault).workingDir = h.workingDir := by
  obtain ⟨evaluates, heq⟩ := h.failSession_eq s fault
  rw [heq]

theorem workingDir_failCreates (fault : EvaluatorError) (h : Hub) :
    (h.failCreates fault).workingDir = h.workingDir := by
  obtain ⟨creates, waiting, -, heq⟩ := h.failCreates_eq fault
  rw [heq]

theorem CreateTurn.workingDir {i : Nat} {call : CreateCall} {stage : CreateStage}
    (hturn : CreateTurn h i call stage h') : h'.workingDir = h.workingDir := by
  cases hturn with
  | closes _ _ => exact h.workingDir_beginShutdown _
  | sends _ hsending | sent _ hsending | unsent _ hsending => exact workingDir_of_stepSending hsending
  | withdraws _ =>
      obtain ⟨creates, waiting, -, heq⟩ := h.withdrawCreate_eq _ i
      rw [heq]
  | inserts _ hinsert => rw [insertSession_eq_ok hinsert]
  | _ => rfl

theorem EvaluateTurn.workingDir {i : Nat} {call : EvaluateCall} {session : Session} {stage : EvaluateStage}
    (hsession : h.sessions[call.session]? = some session)
    (hturn : EvaluateTurn h i call session stage h') : h'.workingDir = h.workingDir := by
  cases hturn with
  | sends _ hsending | sent _ hsending | unsent _ hsending => exact workingDir_of_stepSending hsending
  | withdraws _ =>
      obtain ⟨evaluates, sessions, -, heq⟩ := withdrawEvaluate_eq hsession _ i
      rw [heq]
  | _ => rfl

theorem ErrandTurn.workingDir {e e' : Errand} (hturn : ErrandTurn h e e' h') :
    h'.workingDir = h.workingDir := by
  cases hturn with
  | fails _ | releases _ => exact workingDir_failSession _ _ _
  | tells hsending _ | told hsending _ _ | notices hsending | noticed hsending _ | replies hsending
  | replied hsending => exact workingDir_of_stepSending hsending
  | @unreplied _ _ _ _ h₁ hsending =>
      have hsame : h₁.workingDir = h.workingDir := workingDir_of_stepSending hsending
      exact hsame
  | closes _ _ => exact h.workingDir_beginShutdown _
  | _ => rfl

theorem workingDir_advance (who : Caller) (h : Hub) : (h.advance who).workingDir = h.workingDir := by
  generalize heq : h.advance who = h'
  have hturn := h.advance_turn who
  rw [heq] at hturn
  cases hturn with
  | none => rfl
  | @create _ _ _ h₁ _ hturn =>
      have hsame : h₁.workingDir = h.workingDir := hturn.workingDir
      rw [moveCreate_eq]
      exact hsame
  | @evaluate _ _ _ _ h₁ _ hsession hturn =>
      have hsame : h₁.workingDir = h.workingDir := hturn.workingDir hsession
      rw [moveEvaluate_eq]
      exact hsame
  | errand _ hturn => exact hturn.workingDir

theorem workingDir_stepShutdown (h : Hub) : h.stepShutdown.workingDir = h.workingDir := by
  unfold stepShutdown
  split
  · rfl
  · rfl
  · exact workingDir_failCreates _ h
  · rfl
  · rfl
  · exact workingDir_failSession _ _ h

theorem workingDir_dispatch (m : Incoming) (h : Hub) : (dispatch m h).workingDir = h.workingDir := by
  unfold dispatch
  split
  · next r =>
      unfold deliverCreate
      cases h.connection.creates.take r.requestId with
      | none => rfl
      | some found =>
          show (answerCreate _ _ _).workingDir = _
          rw [answerCreate_eq]
  · split
    · rfl
    · split <;> rfl

theorem workingDir_receive (s : Nat) (m : Incoming) (h : Hub) :
    (receive s m h).workingDir = h.workingDir := by
  unfold receive
  split
  · rfl
  · next session _ =>
      split
      · next r =>
          unfold deliverEvaluate
          cases session.pending.take r.requestId with
          | none => rfl
          | some found =>
              show (answerEvaluate _ _ _).workingDir = _
              rw [answerEvaluate_eq]
              rfl
      all_goals rfl

theorem workingDir_stepLoop (h : Hub) : h.stepLoop.workingDir = h.workingDir := by
  unfold stepLoop
  split
  · unfold readNext
    split
    · rfl
    · rfl
    · exact workingDir_dispatch _ _
    · rfl
  · exact workingDir_receive _ _ _
  · next reason _ =>
      have hsame := workingDir_beginShutdown reason (h.note (.connectionLost reason))
      split <;> next heq => rw [heq] at hsame; exact hsame
  · split <;> rfl
  · rfl

theorem workingDir_abandon (who : Caller) (h : Hub) : (h.abandon who).workingDir = h.workingDir := by
  unfold abandon
  split
  · split
    · split
      · rw [moveCreate_eq]
      · rfl
    · rfl
  · split
    · split
      · rw [moveEvaluate_eq]
      · rfl
    · rfl
  · rfl

theorem workingDir_endLaunch (fault : Option TransportError) (h : Hub) :
    (h.endLaunch fault).workingDir = h.workingDir := by
  unfold endLaunch
  split
  · split <;> rw [moveCreate_eq]
  · rfl
  · rfl

theorem workingDir_step (h : Hub) (a : Action) : (h.step a).workingDir = h.workingDir := by
  cases a with
  | advance who => exact h.workingDir_advance who
  | abandon who => exact h.workingDir_abandon who
  | endLaunch fault => exact h.workingDir_endLaunch fault
  | shutdown => exact h.workingDir_stepShutdown
  | loop => exact h.workingDir_stepLoop
  | haltLoop =>
      show h.haltLoop.workingDir = h.workingDir
      unfold haltLoop
      split
      · split <;> rfl
      all_goals rfl
  | _ => rfl

theorem workingDir_run (h : Hub) (actions : List Action) : (h.run actions).workingDir = h.workingDir :=
  run_keeps (P := fun h' => h'.workingDir = h.workingDir) (fun hsame a => (workingDir_step _ a).trans hsame)
    rfl actions

/-! ## Requests -/

theorem order_step {i : Nat} {o : EvaluatorOptions} (hat : h.orders[i]? = some o) (a : Action) :
    (h.step a).orders[i]? = some o := by
  obtain ⟨more, hmore⟩ := h.orders_step a
  rw [← hmore, getElem?_append_of_some hat]

/-- A call that is begun has the options that it is begun with. -/
theorem order_create (o : EvaluatorOptions) (h : Hub) :
    (h.step (.create o)).orders[h.creates.length]? = some o := by
  show ((h.creates ++ [_]).map CreateCall.options)[h.creates.length]? = _
  rw [List.getElem?_map, List.getElem?_concat_length]
  rfl

/-- The request that a call has and may still send. -/
def CreateStage.draft? : CreateStage → Option CreateEvaluator
  | .registering request | .sending request _ => some request
  | .connecting | .entering | .launching | .confirming | .shuttingDown | .numbering | .withdrawing ..
  | .waiting | .inserting _ | .finished _ | .abandoned => none

/-- The request of a call is made of its options. -/
def AllDrafted (h : Hub) : Prop :=
  ∀ (i : Nat) (call : CreateCall) (request : CreateEvaluator), h.creates[i]? = some call →
    call.stage.draft? = some request → ∃ id, call.options.createRequest h.workingDir id = .ok request

theorem CreateTurn.drafted {i : Nat} {call : CreateCall} {stage : CreateStage} {request : CreateEvaluator}
    (hturn : CreateTurn h i call stage h') (hdraft : stage.draft? = some request) :
    call.stage.draft? = some request ∨ ∃ id, call.options.createRequest h.workingDir id = .ok request := by
  cases hturn with
  | stays => exact .inl hdraft
  | numbers _ hrequest =>
      obtain rfl := Option.some.inj hdraft
      exact .inr ⟨_, hrequest⟩
  | files hstage _ _ | sends hstage _ =>
      rw [hstage]
      exact .inl hdraft
  | _ => cases hdraft

theorem LaunchEnds.draft? {stage : CreateStage} {launch : Launch} (hends : LaunchEnds stage launch) :
    stage.draft? = none := by
  cases hends <;> rfl

theorem allDrafted_step (hall : h.AllDrafted) (a : Action) : (h.step a).AllDrafted := by
  intro i call' request hcall' hdraft
  rw [workingDir_step]
  cases createOrigin (createStages_getElem?.2 ⟨call', hcall', rfl⟩) with
  | kept hat =>
      obtain ⟨call, hcall, hstage⟩ := createStages_getElem?.1 hat
      rw [options_step hcall hcall']
      exact hall i call request hcall (hstage ▸ hdraft)
  | begun _ hstage | abandoned hstage =>
      rw [hstage] at hdraft
      cases hdraft
  | turned _ hcall hturn _ =>
      rw [options_step hcall hcall']
      rcases hturn.drafted hdraft with hold | hmade
      · exact hall i _ request hcall hold
      · exact hmade
  | launched _ hends =>
      rw [hends.draft?] at hdraft
      cases hdraft

theorem Fresh.allDrafted (hfresh : h.Fresh) (actions : List Action) : (h.run actions).AllDrafted := by
  refine run_keeps (P := AllDrafted) (fun hall a => allDrafted_step hall a) ?_ actions
  intro i call request hcall
  rw [hfresh.creates] at hcall
  cases hcall

/-! ## What the server receives of a call -/

/-- The next turn of a call has the server receive a message. -/
def Sends (h : Hub) (who : Caller) (m : Outgoing) : Prop :=
  (h.step (.advance who)).sent = h.sent ++ [m]

theorem CreateStage.eq_sending_of_writes {stage : CreateStage} {request : CreateEvaluator}
    (hwrites : stage.writes = true) (hdraft : stage.draft? = some request) :
    stage = .sending request .writing := by
  cases stage with
  | sending other progress =>
      obtain rfl := Option.some.inj hdraft
      cases progress with
      | writing => rfl
      | checking | shuttingDown _ => cases hwrites
  | _ => cases hwrites

/-- A call that writes to a server that reads has it receive its request. -/
theorem sends_of_writing {i : Nat} {call : CreateCall} {request : CreateEvaluator}
    (hcall : h.creates[i]? = some call) (hstage : call.stage = .sending request .writing)
    (hreads : h.serverReads = true) : h.Sends (.create i) (.createEvaluator request) := by
  show (h.advance (.create i)).sent = _
  rw [advance_create hcall, moveCreate_eq]
  unfold stepCreate stepSending
  rw [hstage]
  dsimp only
  rw [if_pos hreads]

theorem CreateTurn.posted {i : Nat} {call : CreateCall} {stage : CreateStage} {m : Outgoing}
    (hturn : CreateTurn h i call stage h') (hsent : h'.sent = h.sent ++ [m]) :
    ∃ request, call.stage.draft? = some request ∧ m = .createEvaluator request := by
  have hsilent : Posts none h h' → False := fun hposts => by
    have hsame := hposts.sent
    rw [hsent] at hsame
    cases List.append_cancel_left hsame
  cases hturn with
  | sent hstage hsending =>
      have hposts := (posts_of_stepSending hsending).sent
      rw [hsent] at hposts
      rw [hstage]
      exact ⟨_, rfl, List.singleton_inj.1 (List.append_cancel_left hposts)⟩
  | sends _ hsending | unsent _ hsending => exact (hsilent (posts_of_stepSending hsending)).elim
  | closes _ _ => exact (hsilent (h.posts_beginShutdown _)).elim
  | withdraws _ => exact (hsilent (h.posts_withdrawCreate _ i)).elim
  | inserts _ hinsert =>
      rw [insertSession_eq_ok hinsert] at hsilent
      exact (hsilent (.none_of_eq rfl rfl rfl)).elim
  | _ => exact (hsilent (.none_of_eq rfl rfl rfl)).elim

/-- The server receives of a call the request that is made of its options. -/
theorem Sends.request {i : Nat} {m : Outgoing} {o : EvaluatorOptions} (hall : h.AllDrafted)
    (hsends : h.Sends (.create i) m) (horder : h.orders[i]? = some o) :
    ∃ id request, o.createRequest h.workingDir id = .ok request ∧ m = .createEvaluator request := by
  obtain ⟨call, hcall, rfl⟩ : ∃ call, h.creates[i]? = some call ∧ call.options = o := by
    unfold orders at horder
    rwa [List.getElem?_map, Option.map_eq_some_iff] at horder
  have hsent : (h.advance (.create i)).sent = h.sent ++ [m] := hsends
  rw [advance_create hcall, moveCreate_eq] at hsent
  obtain ⟨request, hdraft, rfl⟩ := (h.stepCreate_turn i call).posted hsent
  obtain ⟨id, hrequest⟩ := hall i call request hcall hdraft
  exact ⟨id, request, hrequest, rfl⟩

end PklHost.Hub
