import PklHost.Proofs.Hub.Turns

/-!
# Errands and the messages that are sent

A message that the server received was sent by a call or by an errand.  Errands are begun by the host and by
the loop, one at a time, and go on in their places (`mail_step`).  Only errands send replies, close evaluators
and close the manager; calls send requests (`CreateTurn.requests`, `EvaluateTurn.requests`).
-/

namespace PklHost

open Message (Incoming Outgoing)

/-- A request of the server to read or list. -/
def Message.Incoming.isCallback : Incoming → Bool
  | .readResource _ | .readModule _ | .listResources _ | .listModules _ => true
  | .createEvaluatorResponse _ | .evaluateResponse _ | .log _ => false

/-- A request of the host, which a call sends. -/
def Message.Outgoing.isRequest : Outgoing → Bool
  | .createEvaluator _ | .evaluate _ => true
  | .closeEvaluator _ | .readResourceResponse _ | .readModuleResponse _ | .listResourcesResponse _
  | .listModulesResponse _ => false

/-- A reply to a request of the server. -/
def Message.Outgoing.isReply : Outgoing → Bool
  | .readResourceResponse _ | .readModuleResponse _ | .listResourcesResponse _ | .listModulesResponse _ =>
    true
  | .createEvaluator _ | .closeEvaluator _ | .evaluate _ => false

theorem Message.Outgoing.isReply_of_isRequest {m : Outgoing} (hm : m.isRequest = true) :
    m.isReply = false := by
  cases m with
  | createEvaluator _ | evaluate _ => rfl
  | _ => cases hm

namespace Hub

variable {h h' : Hub}

/-! ## Sending -/

/-- The one who sends has found the connection open, and writes next. -/
def Sending.writes : Sending → Bool
  | .writing => true
  | .checking | .shuttingDown _ => false

def CreateStage.writes : CreateStage → Bool
  | .sending _ progress => progress.writes
  | .connecting | .entering | .launching | .confirming | .shuttingDown | .numbering | .registering _
  | .withdrawing .. | .waiting | .inserting _ | .finished _ | .abandoned => false

def EvaluateStage.writes : EvaluateStage → Bool
  | .sending _ progress => progress.writes
  | .opening | .numbering | .registering _ | .withdrawing .. | .waiting | .finished _ | .abandoned =>
    false

def Errand.writes : Errand → Bool
  | .close _ _ (.sending progress) | .notice _ progress | .reply _ _ progress => progress.writes
  | .close _ _ .failing | .close _ _ .unregistering | .release .. | .leave _ | .read .. | .closeManager
  | .disconnect | .shuttingDown | .finished => false

/-- A call is about to write to the server. -/
def Writes (h : Hub) : Caller → Prop
  | .create i => ∃ call, h.creates[i]? = some call ∧ call.stage.writes = true
  | .evaluate i => ∃ call, h.evaluates[i]? = some call ∧ call.stage.writes = true
  | .errand i => ∃ e, h.errands[i]? = some e ∧ e.writes = true

/-- The errands stay, and so does the manager, and at most one message is sent. -/
structure Posts (posted : Option Outgoing) (h h' : Hub) : Prop where
  errands : h'.errands = h.errands
  sent : h'.sent = h.sent ++ posted.toList
  flag : h'.managerClosed = h.managerClosed

theorem Posts.none_of_eq (herrands : h'.errands = h.errands) (hsent : h'.sent = h.sent)
    (hflag : h'.managerClosed = h.managerClosed) : Posts none h h' :=
  ⟨herrands, by rw [hsent, Option.toList_none, List.append_nil], hflag⟩

theorem posts_refl (h : Hub) : Posts none h h :=
  .none_of_eq rfl rfl rfl

/-- What a step of a sending has sent. -/
def Sent.posted (m : Outgoing) : Sent → Option Outgoing
  | .done => some m
  | .going _ | .failed _ => none

theorem posts_beginShutdown (reason : CloseReason) (h : Hub) :
    Posts none h (h.beginShutdown reason).2 := by
  unfold beginShutdown
  split
  · exact h.posts_refl
  · exact .none_of_eq rfl rfl rfl

theorem posts_of_stepSending {m : Outgoing} {progress : Sending} {sent : Sent}
    (hsending : h.stepSending m progress = (sent, h')) : Posts (sent.posted m) h h' := by
  cases sendingTurn hsending with
  | writes => exact ⟨rfl, rfl, rfl⟩
  | breaks _ _ => exact .none_of_eq rfl rfl rfl
  | _ => exact h.posts_refl

/-- What is sent was about to be written. -/
theorem writes_of_posted {m : Outgoing} {progress : Sending} {sent : Sent}
    (hsending : h.stepSending m progress = (sent, h')) (hposted : sent.posted m ≠ none) :
    progress.writes = true := by
  cases sendingTurn hsending with
  | writes => rfl
  | _ => exact absurd rfl hposted

/-! ## What sends nothing -/

theorem posts_answerCreate (i : Nat) (a : Except EvaluatorError Int64) (h : Hub) :
    Posts none h (h.answerCreate i a) := by
  rw [answerCreate_eq]
  exact .none_of_eq rfl rfl rfl

theorem posts_answerEvaluate (i : Nat) (a : Except EvaluatorError Bytes) (h : Hub) :
    Posts none h (h.answerEvaluate i a) := by
  rw [answerEvaluate_eq]
  exact .none_of_eq rfl rfl rfl

theorem posts_withdrawCreate (requestId : Int64) (own : Nat) (h : Hub) :
    Posts none h (h.withdrawCreate requestId own) := by
  obtain ⟨creates, waiting, -, heq⟩ := h.withdrawCreate_eq requestId own
  rw [heq]
  exact .none_of_eq rfl rfl rfl

theorem posts_withdrawEvaluate {s : Nat} {session : Session} (hsession : h.sessions[s]? = some session)
    (requestId : Int64) (own : Nat) : Posts none h (h.withdrawEvaluate s session requestId own) := by
  obtain ⟨evaluates, sessions, -, heq⟩ := withdrawEvaluate_eq hsession requestId own
  rw [heq]
  exact .none_of_eq rfl rfl rfl

theorem posts_failSession (s : Nat) (fault : EvaluatorError) (h : Hub) :
    Posts none h (h.failSession s fault) := by
  obtain ⟨evaluates, heq⟩ := h.failSession_eq s fault
  rw [heq]
  exact .none_of_eq rfl rfl rfl

theorem posts_failCreates (fault : EvaluatorError) (h : Hub) : Posts none h (h.failCreates fault) := by
  obtain ⟨creates, waiting, -, heq⟩ := h.failCreates_eq fault
  rw [heq]
  exact .none_of_eq rfl rfl rfl

theorem posts_moveCreate {posted : Option Outgoing} (hposts : Posts posted h h') (i : Nat)
    (stage : CreateStage) : Posts posted h (h'.moveCreate i stage) := by
  rw [moveCreate_eq]
  exact ⟨hposts.errands, hposts.sent, hposts.flag⟩

theorem posts_moveEvaluate {posted : Option Outgoing} (hposts : Posts posted h h') (i : Nat)
    (stage : EvaluateStage) : Posts posted h (h'.moveEvaluate i stage) := by
  rw [moveEvaluate_eq]
  exact ⟨hposts.errands, hposts.sent, hposts.flag⟩

/-! ## Calls -/

/-- At most one message is sent, which is a request of a call that was about to write. -/
def Requests (writes : Bool) (h h' : Hub) : Prop :=
  ∃ posted, Posts posted h h' ∧ ∀ m ∈ posted, m.isRequest = true ∧ writes = true

theorem Posts.requests {writes : Bool} (hposts : Posts none h h') : Requests writes h h' :=
  ⟨none, hposts, fun _ hm => by cases hm⟩

/-- A call that is sending its request has sent nothing else. -/
theorem requests_of_stepSending {m : Outgoing} {progress : Sending} {sent : Sent}
    (hm : m.isRequest = true) (hsending : h.stepSending m progress = (sent, h')) :
    Requests progress.writes h h' := by
  refine ⟨_, posts_of_stepSending hsending, ?_⟩
  cases sent with
  | done =>
      rintro _ ⟨⟩
      exact ⟨hm, writes_of_posted hsending (Option.some_ne_none _)⟩
  | going _ | failed _ => exact fun _ hposted => by cases hposted

/-- A call that creates sends its request. -/
theorem CreateTurn.requests {i : Nat} {call : CreateCall} {stage : CreateStage}
    (hturn : CreateTurn h i call stage h') : Requests call.stage.writes h h' := by
  cases hturn with
  | stays | connects _ | enters _ | confirms _ | accepts _ _ | returns _ _ | shutOut _ _
  | refused _ _ _ => exact h.posts_refl.requests
  | launches _ _ | numbers _ _ | unnumbered _ _ | files _ _ _ =>
      exact Posts.requests (.none_of_eq rfl rfl rfl)
  | closes _ => exact (h.posts_beginShutdown _).requests
  | sends hstage hsending | sent hstage hsending | unsent hstage hsending =>
      rw [hstage]
      exact requests_of_stepSending rfl hsending
  | withdraws _ => exact (h.posts_withdrawCreate _ i).requests
  | inserts _ hinsert =>
      rw [insertSession_eq_ok hinsert]
      exact Posts.requests (.none_of_eq rfl rfl rfl)

/-- A call that evaluates sends its request. -/
theorem EvaluateTurn.requests {i : Nat} {call : EvaluateCall} {session : Session}
    {stage : EvaluateStage} (hsession : h.sessions[call.session]? = some session)
    (hturn : EvaluateTurn h i call session stage h') : Requests call.stage.writes h h' := by
  cases hturn with
  | stays | refusedAtOnce _ | opens _ | refused _ _ | returns _ _ => exact h.posts_refl.requests
  | numbers _ _ _ | files _ _ _ => exact Posts.requests (.none_of_eq rfl rfl rfl)
  | sends hstage hsending | sent hstage hsending | unsent hstage hsending =>
      rw [hstage]
      exact requests_of_stepSending rfl hsending
  | withdraws _ => exact (posts_withdrawEvaluate hsession _ i).requests

/-! ## The shutdown and the loop -/

theorem posts_stepShutdown (h : Hub) : Posts none h h.stepShutdown := by
  unfold stepShutdown
  split
  · exact h.posts_refl
  · exact h.posts_refl
  · next reason _ =>
      have hposts := h.posts_failCreates (.connectionClosed reason)
      exact ⟨hposts.errands, hposts.sent, hposts.flag⟩
  · exact .none_of_eq rfl rfl rfl
  · exact .none_of_eq rfl rfl rfl
  · next reason s left _ =>
      have hposts := h.posts_failSession s (.connectionClosed reason)
      exact ⟨hposts.errands, hposts.sent, hposts.flag⟩

theorem posts_dispatch (m : Incoming) (h : Hub) : Posts none h (dispatch m h) := by
  unfold dispatch
  split
  · next r =>
      unfold deliverCreate
      cases h.connection.creates.take r.requestId with
      | none => exact .none_of_eq rfl rfl rfl
      | some found =>
          obtain ⟨i, creates⟩ := found
          have hposts := posts_answerCreate i (createAnswer r)
            { h with connection := { h.connection with creates } }
          exact ⟨hposts.errands, hposts.sent, hposts.flag⟩
  · split
    · exact h.posts_refl
    · split <;> exact .none_of_eq rfl rfl rfl

theorem posts_readNext (h : Hub) : Posts none h h.readNext := by
  unfold readNext
  split
  · exact .none_of_eq rfl rfl rfl
  · exact .none_of_eq rfl rfl rfl
  · next m input _ =>
      have hposts := posts_dispatch m { h with input }
      exact ⟨hposts.errands, hposts.sent, hposts.flag⟩
  · exact .none_of_eq rfl rfl rfl

/-- A message that is no request to read or list begins no errand. -/
theorem posts_receive {s : Nat} {m : Incoming} (h : Hub)
    (hm : m.isCallback = false ∨ h.sessions[s]? = none) : Posts none h (receive s m h) := by
  unfold receive
  split
  · exact h.posts_refl
  · next session hsession =>
      have hm : m.isCallback = false := hm.resolve_right (by rw [hsession]; exact Option.some_ne_none _)
      cases m with
      | evaluateResponse r =>
          dsimp only
          unfold deliverEvaluate
          cases session.pending.take r.requestId with
          | none => exact .none_of_eq rfl rfl rfl
          | some found =>
              obtain ⟨i, pending⟩ := found
              have hposts := posts_answerEvaluate i (evaluateAnswer r)
                (h.setSession s { session with pending })
              exact ⟨hposts.errands, hposts.sent, hposts.flag⟩
      | log line => exact .none_of_eq rfl rfl rfl
      | createEvaluatorResponse r => exact h.posts_refl
      | _ => cases hm

/-- A request to read or list begins an errand. -/
theorem receive_of_isCallback {s : Nat} {session : Session} {m : Incoming}
    (hm : m.isCallback = true) (hsession : h.sessions[s]? = some session) :
    receive s m h = h.beginErrand (.read s m) := by
  unfold receive
  rw [hsession]
  cases m with
  | evaluateResponse r | log line | createEvaluatorResponse r => cases hm
  | _ => rfl

/-! ## Actions -/

/-- The errand that an action begins. -/
def Action.errand? : Action → Option Errand
  | .close s ownsManager => some (.close s ownsManager .failing)
  | .release s ownsManager => some (.release s ownsManager)
  | .closeManager => some .closeManager
  | .create _ | .evaluate .. | .advance _ | .abandon _ | .endLaunch _ | .shutdown | .loop | .haltLoop
  | .arrive _ | .endInput | .endOutput => none

/-- A request of the server to read or list is given to a session by an action. -/
def Calls (h : Hub) (a : Action) (s : Nat) (m : Incoming) : Prop :=
  a = .loop ∧ h.loop = .routed s m ∧ m.isCallback = true ∧ s < h.sessions.length

/-- What an action does to the errands, to the messages that were sent and to the manager. -/
inductive MailEffect (h : Hub) (a : Action) (h' : Hub) : Prop
  | kept (hposts : Posts none h h') (hnone : ∀ s m, ¬ h.Calls a s m)
  /-- A call sends its request. -/
  | posted {m : Outgoing} (hm : m.isRequest = true) (hposts : Posts (some m) h h')
      (hnone : ∀ s m, ¬ h.Calls a s m) (hwriter : ∃ who, a = .advance who ∧ h.Writes who)
  | begun {e : Errand} (he : a.errand? = some e) (herrands : h'.errands = h.errands ++ [e])
      (hsent : h'.sent = h.sent) (hflag : h'.managerClosed = h.managerClosed)
      (hnone : ∀ s m, ¬ h.Calls a s m)
  | called {s : Nat} {m : Incoming} (hcalls : h.Calls a s m)
      (herrands : h'.errands = h.errands ++ [.read s m]) (hsent : h'.sent = h.sent)
      (hflag : h'.managerClosed = h.managerClosed)
  | errand {i : Nat} {e e' : Errand} {h₁ : Hub} (ha : a = .advance (.errand i))
      (he : h.errands[i]? = some e) (hturn : ErrandTurn h e e' h₁) (heq : h' = h₁.setErrand i e')
      (hnone : ∀ s m, ¬ h.Calls a s m)

theorem Requests.mail {who : Caller} {writes : Bool} (hrequests : Requests writes h h')
    (hwriter : writes = true → h.Writes who) : MailEffect h (.advance who) h' := by
  have hnone : ∀ s m, ¬ h.Calls (.advance who) s m := fun _ _ hcalls => by cases hcalls.1
  obtain ⟨posted, hposts, hm⟩ := hrequests
  cases posted with
  | none => exact .kept hposts hnone
  | some m =>
      obtain ⟨hrequest, hwrites⟩ := hm m rfl
      exact .posted hrequest hposts hnone ⟨who, rfl, hwriter hwrites⟩

theorem mail_advance (who : Caller) (h : Hub) : MailEffect h (.advance who) (h.advance who) := by
  have hnone : ∀ s m, ¬ h.Calls (.advance who) s m := fun _ _ hcalls => by cases hcalls.1
  generalize heq : h.advance who = h'
  have hturn := h.advance_turn who
  rw [heq] at hturn
  cases hturn with
  | none => exact .kept h.posts_refl hnone
  | @create i call stage _ hcall hturn =>
      obtain ⟨posted, hposts, hm⟩ := hturn.requests
      exact Requests.mail ⟨posted, posts_moveCreate hposts i stage, hm⟩ fun hwrites =>
        ⟨call, hcall, hwrites⟩
  | @evaluate i call _ stage _ hcall hsession hturn =>
      obtain ⟨posted, hposts, hm⟩ := hturn.requests hsession
      exact Requests.mail ⟨posted, posts_moveEvaluate hposts i stage, hm⟩ fun hwrites =>
        ⟨call, hcall, hwrites⟩
  | errand he hturn => exact .errand rfl he hturn rfl hnone

theorem mail_stepLoop (h : Hub) : MailEffect h .loop h.stepLoop := by
  -- nothing is given to a session unless it was routed to it
  have hnone : (∀ s m, h.loop ≠ .routed s m) → ∀ s m, ¬ h.Calls .loop s m :=
    fun hno s m hcalls => hno s m hcalls.2.1
  unfold stepLoop
  cases hloop : h.loop with
  | reading => exact .kept h.posts_readNext (hnone fun s m heq => by rw [hloop] at heq; cases heq)
  | routed s m =>
      by_cases hcalls : m.isCallback = true ∧ s < h.sessions.length
      · obtain ⟨hm, hs⟩ := hcalls
        have heq : receive s m { h with loop := .reading } =
            beginErrand (.read s m) { h with loop := .reading } :=
          receive_of_isCallback hm (List.getElem?_eq_getElem hs)
        dsimp only
        rw [heq]
        exact .called ⟨rfl, hloop, hm, hs⟩ rfl rfl rfl
      · have hno : m.isCallback = false ∨ h.sessions[s]? = none := by
          by_cases hm : m.isCallback = true
          · exact .inr (List.getElem?_eq_none_iff.2 (Nat.not_lt.1 fun hs => hcalls ⟨hm, hs⟩))
          · exact .inl (Bool.eq_false_iff.2 hm)
        have hposts := posts_receive { h with loop := .reading } hno
        refine .kept ⟨hposts.errands, hposts.sent, hposts.flag⟩ ?_
        rintro s' m' ⟨-, hrouted, hm, hs⟩
        obtain ⟨rfl, rfl⟩ := Loop.routed.inj (hloop.symm.trans hrouted)
        exact hcalls ⟨hm, hs⟩
  | losing reason =>
      have hposts := (h.note (.connectionLost reason)).posts_beginShutdown reason
      have hnone := hnone fun s m heq => by rw [hloop] at heq; cases heq
      dsimp only
      split <;> next heq => rw [heq] at hposts; exact .kept ⟨hposts.errands, hposts.sent, hposts.flag⟩ hnone
  | shuttingDown =>
      have hnone := hnone fun s m heq => by rw [hloop] at heq; cases heq
      dsimp only
      split
      · exact .kept (.none_of_eq rfl rfl rfl) hnone
      · exact .kept h.posts_refl hnone
  | ended => exact .kept h.posts_refl (hnone fun s m heq => by rw [hloop] at heq; cases heq)

/-- What any action does to the errands and to the messages that were sent. -/
theorem mail_step (h : Hub) (a : Action) : MailEffect h a (h.step a) := by
  have hkept : a ≠ .loop → ∀ {h' : Hub}, Posts none h h' → MailEffect h a h' :=
    fun ha h' hposts => .kept hposts fun s m hcalls => ha hcalls.1
  cases a with
  | create o => exact hkept Action.noConfusion (.none_of_eq rfl rfl rfl)
  | evaluate s source expr => exact hkept Action.noConfusion (.none_of_eq rfl rfl rfl)
  | close s ownsManager | release s ownsManager | closeManager =>
      exact .begun rfl rfl rfl rfl fun s m hcalls => by cases hcalls.1
  | advance who => exact h.mail_advance who
  | abandon who =>
      refine hkept Action.noConfusion ?_
      show Posts none h (h.abandon who)
      unfold abandon
      split
      · split
        · split
          · exact posts_moveCreate h.posts_refl _ _
          · exact h.posts_refl
        · exact h.posts_refl
      · split
        · split
          · exact posts_moveEvaluate h.posts_refl _ _
          · exact h.posts_refl
        · exact h.posts_refl
      · exact h.posts_refl
  | endLaunch fault =>
      have hlaunch : ∀ launch, Posts none h { h with launch } := fun _ => .none_of_eq rfl rfl rfl
      refine hkept Action.noConfusion ?_
      show Posts none h (h.endLaunch fault)
      unfold endLaunch
      split
      · split <;> exact posts_moveCreate (hlaunch _) _ _
      · exact h.posts_refl
      · exact h.posts_refl
  | shutdown => exact hkept Action.noConfusion h.posts_stepShutdown
  | loop => exact h.mail_stepLoop
  | haltLoop =>
      refine hkept Action.noConfusion ?_
      show Posts none h h.haltLoop
      unfold haltLoop
      split
      · split
        · exact .none_of_eq rfl rfl rfl
        · exact h.posts_refl
      all_goals exact h.posts_refl
  | arrive octets | endInput | endOutput => exact hkept Action.noConfusion (.none_of_eq rfl rfl rfl)

/-! ## Steps of errands -/

/-- An errand begins at most one other, which tells the server of an evaluator that was let go. -/
theorem ErrandTurn.errands {e e' : Errand} (hturn : ErrandTurn h e e' h') :
    h'.errands = h.errands ∨
      ∃ evaluatorId, h'.errands = h.errands ++ [.notice evaluatorId .checking] := by
  cases hturn with
  | @leaves s session _ => exact .inr ⟨session.evaluatorId, rfl⟩
  | gone _ _ | unregisters _ | passes _ | left _ | reads _ _ | ignores _ | closedBefore _ | flags _
  | connectionless _ | waits | ended _ | rests => exact .inl rfl
  | fails _ | releases _ => exact .inl (h.posts_failSession _ _).errands
  | tells hsending | told hsending _ | notices hsending | noticed hsending _ | replies hsending
  | replied hsending => exact .inl (posts_of_stepSending hsending).errands
  | unreplied hsending => exact .inl (posts_of_stepSending hsending).errands
  | closes _ _ => exact .inl (h.posts_beginShutdown .managerClosed).errands

/-- An errand that answers a request of the server. -/
def Errand.answers : Errand → Bool
  | .read .. | .reply .. => true
  | .close .. | .release .. | .leave _ | .notice .. | .closeManager | .disconnect | .shuttingDown
  | .finished => false

theorem answers_afterClose (ownsManager : Bool) : (afterClose ownsManager).answers = false := by
  cases ownsManager <;> rfl

/-- An errand that answers nothing goes on so. -/
theorem ErrandTurn.answers {e e' : Errand} (hturn : ErrandTurn h e e' h') (he : e.answers = false) :
    e'.answers = false := by
  cases hturn with
  | passes _ | told _ _ => exact answers_afterClose _
  | @releases s session ownsManager _ => cases ownsManager <;> rfl
  | reads _ _ | replies _ => cases he
  | _ => rfl

/-- An errand sends at most one message, and only if it was about to write.  It is no reply if the errand
answers nothing. -/
theorem ErrandTurn.sent {e e' : Errand} (hturn : ErrandTurn h e e' h') :
    ∃ posted : Option Outgoing, h'.sent = h.sent ++ posted.toList ∧
      (posted ≠ none → e.writes = true) ∧ (e.answers = false → ∀ m ∈ posted, m.isReply = false) := by
  have hnone : h'.sent = h.sent ++ (none : Option Outgoing).toList →
      ∃ posted : Option Outgoing, h'.sent = h.sent ++ posted.toList ∧
        (posted ≠ none → e.writes = true) ∧
          (e.answers = false → ∀ m ∈ posted, m.isReply = false) :=
    fun hsent => ⟨none, hsent, fun hsome => absurd rfl hsome, fun _ _ hm => by cases hm⟩
  have hclosing : ∀ {evaluatorId : Int64} {sent : Sent},
      ∀ m ∈ sent.posted (.closeEvaluator evaluatorId), m.isReply = false := by
    intro evaluatorId sent m hm
    cases sent with
    | done =>
        obtain rfl := Option.some.inj hm
        rfl
    | going _ | failed _ => cases hm
  cases hturn with
  | gone _ _ | unregisters _ | passes _ | leaves _ | left _ | reads _ _ | ignores _ | closedBefore _
  | flags _ | connectionless _ | waits | ended _ | rests => exact hnone (List.append_nil _).symm
  | fails _ | releases _ => exact hnone (h.posts_failSession _ _).sent
  | tells hsending | notices hsending | replies hsending | unreplied hsending =>
      exact hnone (posts_of_stepSending hsending).sent
  | told hsending _ | noticed hsending _ =>
      exact ⟨_, (posts_of_stepSending hsending).sent, writes_of_posted hsending, fun _ => hclosing⟩
  | replied hsending =>
      exact ⟨_, (posts_of_stepSending hsending).sent, writes_of_posted hsending, fun he => by cases he⟩
  | closes _ _ => exact hnone (h.posts_beginShutdown .managerClosed).sent

/-- Where an errand comes from that is there after an action. -/
inductive ErrandOrigin (h : Hub) (a : Action) (e : Errand) : Prop
  | kept (he : e ∈ h.errands)
  | begun (he : a.errand? = some e)
  | notified (evaluatorId : Int64) (he : e = .notice evaluatorId .checking)
  | called {s : Nat} {m : Incoming} (hcalls : h.Calls a s m) (he : e = .read s m)
  | turned {i : Nat} {before : Errand} {h₁ : Hub} (hbefore : before ∈ h.errands)
      (hturn : ErrandTurn h before e h₁) (heq : h.step a = h₁.setErrand i e)

theorem errandOrigin {a : Action} {e : Errand} (he : e ∈ (h.step a).errands) : ErrandOrigin h a e := by
  cases h.mail_step a with
  | kept hposts _ | posted _ hposts _ => exact .kept (hposts.errands ▸ he)
  | begun hbegun herrands _ _ _ =>
      rw [herrands] at he
      rcases List.mem_append.1 he with hold | hnew
      · exact .kept hold
      · exact .begun (List.mem_singleton.1 hnew ▸ hbegun)
  | called hcalls herrands _ _ =>
      rw [herrands] at he
      rcases List.mem_append.1 he with hold | hnew
      · exact .kept hold
      · exact .called hcalls (List.mem_singleton.1 hnew)
  | errand _ hbefore hturn heq _ =>
      rw [heq] at he
      rcases List.mem_or_eq_of_mem_set he with hstays | rfl
      · rcases hturn.errands with hsame | ⟨evaluatorId, hmore⟩
        · exact .kept (hsame ▸ hstays)
        · rw [hmore] at hstays
          rcases List.mem_append.1 hstays with hold | hnew
          · exact .kept hold
          · exact .notified evaluatorId (List.mem_singleton.1 hnew)
      · exact .turned (List.mem_of_getElem? hbefore) hturn heq

/-- Errands stay in their places. -/
theorem ErrandTurn.errands_getElem? {i : Nat} {e taken next : Errand}
    (hturn : ErrandTurn h taken next h') (he : h.errands[i]? = some e) : h'.errands[i]? = some e := by
  rcases hturn.errands with hsame | ⟨evaluatorId, hmore⟩
  · rw [hsame, he]
  · rw [hmore, getElem?_append_of_some he]

/-- An action takes an errand one step further. -/
def Action.takes (i : Nat) : Action → Bool
  | .advance (.errand j) => j == i
  | .advance (.create _) | .advance (.evaluate _) | .create _ | .evaluate .. | .close .. | .release ..
  | .closeManager | .abandon _ | .endLaunch _ | .shutdown | .loop | .haltLoop | .arrive _ | .endInput
  | .endOutput => false

theorem Action.takes_iff {i : Nat} {a : Action} : a.takes i = true ↔ a = .advance (.errand i) := by
  constructor
  · intro htakes
    cases a with
    | advance who =>
        cases who with
        | errand j => rw [show j = i from eq_of_beq htakes]
        | create _ | evaluate _ => cases htakes
    | _ => cases htakes
  · rintro rfl
    exact beq_self_eq_true i

/-- An errand is taken one step further by its turn. -/
theorem errand_advance {i : Nat} {e : Errand} (he : h.errands[i]? = some e) :
    ∃ e' h₁, ErrandTurn h e e' h₁ ∧ h.step (.advance (.errand i)) = h₁.setErrand i e' ∧
      (h.step (.advance (.errand i))).errands[i]? = some e' := by
  have hturn := h.stepErrand_turn e
  have hstep : h.step (.advance (.errand i)) =
      (h.stepErrand e).2.setErrand i (h.stepErrand e).1 := advance_errand he
  refine ⟨_, _, hturn, hstep, ?_⟩
  rw [hstep]
  exact List.getElem?_set_self (List.getElem?_eq_some_iff.1 (hturn.errands_getElem? he)).1

/-- An errand is taken one step further, or stays as it is. -/
theorem errands_step {i : Nat} {e : Errand} (he : h.errands[i]? = some e) (a : Action) :
    (a.takes i = false ∧ (h.step a).errands[i]? = some e) ∨
      a.takes i = true ∧ ∃ e' h₁, ErrandTurn h e e' h₁ ∧ h.step a = h₁.setErrand i e' ∧
        (h.step a).errands[i]? = some e' := by
  have hlater : ∀ more, (h.errands ++ more)[i]? = some e := by
    intro more
    rw [getElem?_append_of_some he]
  cases htakes : a.takes i with
  | true =>
      obtain rfl := Action.takes_iff.1 htakes
      exact .inr ⟨rfl, errand_advance he⟩
  | false =>
      refine .inl ⟨rfl, ?_⟩
      cases h.mail_step a with
      | kept hposts _ | posted _ hposts _ => rw [hposts.errands, he]
      | begun _ herrands _ _ _ | called _ herrands _ _ => rw [herrands, hlater]
      | @errand j taken next h₁ ha _ hturn heq _ =>
          have hother : j ≠ i := by
            rintro rfl
            rw [Action.takes_iff.2 ha] at htakes
            cases htakes
          rw [heq]
          exact (List.getElem?_set_ne hother).trans (hturn.errands_getElem? he)

end Hub

end PklHost
