import Mathlib.Data.List.Perm.Basic
import PklHost.Proofs.Hub.Advertising
import PklHost.Proofs.Hub.Owing
import PklHost.Proofs.Hub.Teardown

/-!
# Replies to the server

The server asks a host to read or to list.  The loop gives such a request to the session of its evaluator,
where an errand asks the readers and sends their reply.  As long as the connection is open, the replies that
were sent and those that errands still owe are one for each request, and no more (`Balanced`).  An errand
that is gone on with is finished after three steps (`within_run`).

`AnswersCallbacks` says this of a run, from the message that is read off the stream to the reply that was
sent, and that the reader which replies is the first one that was advertised for its scheme.
-/

namespace PklHost

namespace Hub

open Message (CreateEvaluator Incoming Outgoing ReadRequest)

variable {h : Hub} {e : Errand}

/-! ## What a run keeps -/

theorem answers_of_errand? {a : Action} (he : a.errand? = some e) : e.answers = false := by
  cases a with
  | close | release | closeManager =>
      rw [← Option.some.inj he]
      rfl
  | _ => cases he

theorem errandsFit_step (hfit : h.ErrandsFit) (a : Action) : (h.step a).ErrandsFit := by
  intro e he
  refine Errand.Fits.mono ?_ (h.faces_prefix_step a)
  cases errandOrigin he with
  | kept he => exact hfit e he
  | begun he => exact Errand.fits_of_answers (answers_of_errand? he)
  | notified _ he =>
      rw [he]
      trivial
  | called hcalls he =>
      obtain ⟨-, -, hm, hs⟩ := hcalls
      rw [he]
      exact ⟨by rwa [faces, List.length_map], hm⟩
  | turned hbefore hturn _ => exact hturn.fits (hfit _ hbefore)

/-! ## One reply for each request -/

/-- The request to read or list that the loop is about to give to a session. -/
def Loop.callback? : Loop → Option (Nat × Incoming)
  | .routed s m => if m.isCallback then some (s, m) else none
  | .reading | .losing _ | .shuttingDown | .ended => none

/-- The request to read or list that an action gives to a session. -/
def callback? (h : Hub) : Action → Option (Nat × Incoming)
  | .loop => h.loop.callback?
  | .create _ | .evaluate .. | .close .. | .release .. | .closeManager | .advance _ | .abandon _
  | .endLaunch _ | .shutdown | .haltLoop | .arrive _ | .endInput | .endOutput => none

/-- The requests to read or list that a run gives to sessions. -/
def callbacks (h : Hub) : List Action → List (Nat × Incoming)
  | [] => []
  | a :: actions => (h.callback? a).toList ++ callbacks (h.step a) actions

theorem callbacks_snoc (h : Hub) (actions : List Action) (a : Action) :
    h.callbacks (actions ++ [a]) = h.callbacks actions ++ ((h.run actions).callback? a).toList := by
  induction actions generalizing h with
  | nil => exact List.append_nil _
  | cons first actions ih =>
      show (h.callback? first).toList ++ (h.step first).callbacks (actions ++ [a]) = _
      rw [ih, ← List.append_assoc]
      rfl

theorem callback?_eq_some_iff {a : Action} {s : Nat} {m : Incoming} :
    h.callback? a = some (s, m) ↔ a = .loop ∧ h.loop = .routed s m ∧ m.isCallback = true := by
  constructor
  · intro hcallback
    cases a with
    | loop =>
        cases hloop : h.loop with
        | routed s' m' =>
            unfold callback? Loop.callback? at hcallback
            rw [hloop] at hcallback
            dsimp only at hcallback
            split at hcallback
            · next hm =>
                obtain ⟨rfl, rfl⟩ := Prod.mk.inj (Option.some.inj hcallback)
                exact ⟨rfl, rfl, hm⟩
            · cases hcallback
        | reading | losing _ | shuttingDown | ended =>
            unfold callback? at hcallback
            rw [hloop] at hcallback
            cases hcallback
    | _ => cases hcallback
  · rintro ⟨rfl, hloop, hm⟩
    unfold callback?
    rw [hloop]
    exact if_pos hm

/-- What is routed to a session finds it. -/
theorem calls_of_callback? (hroutes : h.RoutesSound) {a : Action} {s : Nat} {m : Incoming}
    (hcallback : h.callback? a = some (s, m)) : h.Calls a s m := by
  obtain ⟨ha, hloop, hm⟩ := callback?_eq_some_iff.1 hcallback
  obtain ⟨id, -, hat⟩ := hroutes.routed hloop
  have hs := (List.getElem?_eq_some_iff.1 hat).1
  rw [length_evaluatorIds] at hs
  exact ⟨ha, hloop, hm, hs⟩

theorem callback?_eq_none (hroutes : h.RoutesSound) {a : Action} (hnone : ∀ s m, ¬ h.Calls a s m) :
    h.callback? a = none := by
  cases hcallback : h.callback? a with
  | none => rfl
  | some callback =>
      obtain ⟨s, m⟩ := callback
      exact absurd (calls_of_callback? hroutes hcallback) (hnone s m)

theorem Due.step {callback : Nat × Incoming} {reply : Outgoing} (hdue : h.Due callback reply)
    (a : Action) : (h.step a).Due callback reply := by
  obtain ⟨face, hface, hreply⟩ := due_iff.1 hdue
  obtain ⟨more, hmore⟩ := h.faces_prefix_step a
  refine due_iff.2 ⟨face, ?_, hreply⟩
  rw [← hmore, getElem?_append_of_some hface]

/-- The replies that were sent or are owed are those to some requests, one for each. -/
def Balanced (h : Hub) (given : List (Nat × Incoming)) : Prop :=
  ∃ replies, List.Forall₂ h.Due given replies ∧ replies.Perm (h.repliesSent ++ h.owed)

/-- Putting one entry in the place of another exchanges what they give. -/
theorem filterMap_set_perm {α β : Type} {f : α → Option β} {entries : List α} {i : Nat} {old : α}
    (hold : entries[i]? = some old) (new : α) :
    ((f old).toList ++ (entries.set i new).filterMap f).Perm
      ((f new).toList ++ entries.filterMap f) := by
  obtain ⟨hi, rfl⟩ := List.getElem?_eq_some_iff.1 hold
  have hset := (List.set_perm_cons_eraseIdx hi new).filterMap f
  have hkept := (List.getElem_cons_eraseIdx_perm hi).filterMap f
  have hcons : ∀ entry rest, List.filterMap f (entry :: rest) =
      (f entry).toList ++ rest.filterMap f := by
    intro entry rest
    rw [List.filterMap_cons]
    cases f entry <;> rfl
  rw [hcons] at hset hkept
  refine (hset.append_left _).trans ?_
  refine (List.perm_append_comm_assoc _ _ _).trans ?_
  exact hkept.append_left _

theorem repliesSent_of_sent {h h' : Hub} {posted : Option Outgoing}
    (hsent : h'.sent = h.sent ++ posted.toList) :
    h'.repliesSent = h.repliesSent ++ posted.toList.filter Outgoing.isReply := by
  unfold repliesSent
  rw [hsent, List.filter_append]

/-- What a step of an errand sends it has owed. -/
theorem settles_errand (hfit : h.ErrandsFit) {a : Action} {i : Nat} {e' : Errand} {h₁ : Hub}
    (he : h.errands[i]? = some e) (hturn : ErrandTurn h e e' h₁) (heq : h.step a = h₁.setErrand i e')
    (hopen : (h.step a).connection.phase = .isOpen) :
    ((h.step a).repliesSent ++ (h.step a).owed).Perm (h.repliesSent ++ h.owed) := by
  have hfaces := h.faces_prefix_step a
  have hfits : e.Fits h.faces := hfit e (List.mem_of_getElem? he)
  rw [heq] at hopen hfaces ⊢
  obtain ⟨posted, hsent, hsettles⟩ := hturn.settles hfits hopen
  rw [← hfits.owes? hfaces, ← (hturn.fits hfits).owes? hfaces] at hsettles
  generalize hlater : (h₁.setErrand i e').faces = later at *
  -- an errand that is begun meanwhile owes nothing
  have hothers : h₁.errands.filterMap (Errand.owes? later) = h.owed := by
    rw [← hfit.filterMap_owes? hfaces]
    rcases hturn.errands with hsame | ⟨evaluatorId, hmore⟩
    · rw [hsame]
    · rw [hmore, List.filterMap_append]
      exact List.append_nil _
  have hset := filterMap_set_perm (hturn.errands_getElem? he) (f := Errand.owes? later) e'
  rw [hothers, ← hsettles, List.append_assoc] at hset
  have howed := (List.perm_append_left_iff _).1 ((List.perm_append_comm_assoc _ _ _).trans hset)
  have hreplies : (h₁.setErrand i e').repliesSent =
      h.repliesSent ++ posted.toList.filter Outgoing.isReply := repliesSent_of_sent hsent
  unfold owed at howed ⊢
  rw [hlater, hreplies, List.append_assoc]
  exact howed.append_left _

/-- What is sent besides is no reply, and what is begun besides owes none. -/
theorem settles_others (hfit : h.ErrandsFit) {a : Action} (posted : Option Outgoing)
    (begun : Option Errand) (hsent : (h.step a).sent = h.sent ++ posted.toList)
    (hposted : ∀ m ∈ posted, m.isReply = false)
    (herrands : (h.step a).errands = h.errands ++ begun.toList)
    (hbegun : ∀ e ∈ begun, e.answers = false) :
    (h.step a).repliesSent ++ (h.step a).owed = h.repliesSent ++ h.owed := by
  have hnoReply : posted.toList.filter Outgoing.isReply = [] := by
    rw [List.filter_eq_nil_iff]
    intro m hmem
    rw [hposted m (Option.mem_toList.1 hmem)]
    exact Bool.noConfusion
  have howesNone : begun.toList.filterMap (Errand.owes? (h.step a).faces) = [] := by
    rw [List.filterMap_eq_nil_iff]
    intro e hmem
    exact Errand.owes?_of_answers (hbegun e (Option.mem_toList.1 hmem))
  rw [repliesSent_of_sent hsent, hnoReply, List.append_nil,
    ← hfit.filterMap_owes? (h.faces_prefix_step a)]
  unfold owed
  rw [herrands, List.filterMap_append, howesNone, List.append_nil]

theorem Balanced.of_perm {given : List (Nat × Incoming)} (hbalanced : h.Balanced given) {a : Action}
    (hcallback : h.callback? a = none)
    (hperm : ((h.step a).repliesSent ++ (h.step a).owed).Perm (h.repliesSent ++ h.owed)) :
    (h.step a).Balanced (given ++ (h.callback? a).toList) := by
  obtain ⟨replies, hdue, hbalance⟩ := hbalanced
  rw [hcallback, Option.toList_none, List.append_nil]
  exact ⟨replies, hdue.imp fun _ _ hdue => hdue.step a, hbalance.trans hperm.symm⟩

/-- A request that is given to a session adds its reply to those that are owed. -/
theorem Balanced.of_calls {given : List (Nat × Incoming)} (hbalanced : h.Balanced given)
    (hfit : h.ErrandsFit) {a : Action} {s : Nat} {m : Incoming} (hcalls : h.Calls a s m)
    (herrands : (h.step a).errands = h.errands ++ [.read s m]) (hsent : (h.step a).sent = h.sent) :
    (h.step a).Balanced (given ++ (h.callback? a).toList) := by
  obtain ⟨replies, hdue, hbalance⟩ := hbalanced
  obtain ⟨ha, hloop, hm, hs⟩ := hcalls
  have hfits : (Errand.read s m).Fits h.faces := ⟨by rwa [faces, List.length_map], hm⟩
  obtain ⟨reply, howes, hreply⟩ := due_of_fits hfits
  have hfaces := h.faces_prefix_step a
  rw [callback?_eq_some_iff.2 ⟨ha, hloop, hm⟩]
  refine ⟨replies ++ [reply], List.rel_append (hdue.imp fun _ _ hdue => hdue.step a)
    (.cons (hreply.step a) .nil), ?_⟩
  have howed : (h.step a).owed = h.owed ++ [reply] := by
    rw [← hfit.filterMap_owes? hfaces]
    unfold owed
    rw [herrands, List.filterMap_append, List.filterMap_cons_some ((hfits.owes? hfaces).trans howes)]
    rfl
  have hreplies : (h.step a).repliesSent = h.repliesSent := by
    unfold repliesSent
    rw [hsent]
  rw [howed, hreplies, ← List.append_assoc]
  exact hbalance.append_right _

/-- As long as the connection is open, each request given to a session adds one reply to those that are sent
or owed, and nothing else does. -/
theorem Balanced.step {given : List (Nat × Incoming)} (hbalanced : h.Balanced given)
    (hroutes : h.RoutesSound) (hfit : h.ErrandsFit) {a : Action}
    (hopen : (h.step a).connection.phase = .isOpen) :
    (h.step a).Balanced (given ++ (h.callback? a).toList) := by
  have hnobody : ∀ e ∈ (none : Option Errand), e.answers = false := fun _ he => by cases he
  have hnothing : ∀ m ∈ (none : Option Outgoing), m.isReply = false := fun _ hm => by cases hm
  cases h.mail_step a with
  | kept hposts hnone =>
      have herrands := hposts.errands.trans (List.append_nil _).symm
      exact hbalanced.of_perm (callback?_eq_none hroutes hnone)
        (.of_eq (settles_others hfit none none hposts.sent hnothing herrands hnobody))
  | @posted m hm hposts hnone =>
      have herrands := hposts.errands.trans (List.append_nil _).symm
      refine hbalanced.of_perm (callback?_eq_none hroutes hnone)
        (.of_eq (settles_others hfit (some m) none hposts.sent ?_ herrands hnobody))
      rintro _ ⟨⟩
      exact Outgoing.isReply_of_isRequest hm
  | @begun e hbegun herrands hsent _ hnone =>
      refine hbalanced.of_perm (callback?_eq_none hroutes hnone)
        (.of_eq (settles_others hfit none (some e) (hsent.trans (List.append_nil _).symm) hnothing
          herrands ?_))
      rintro _ ⟨⟩
      exact answers_of_errand? hbegun
  | called hcalls herrands hsent _ => exact hbalanced.of_calls hfit hcalls herrands hsent
  | errand _ he hturn heq hnone =>
      exact hbalanced.of_perm (callback?_eq_none hroutes hnone) (settles_errand hfit he hturn heq hopen)

/-! ## How long it takes -/

theorem isOpen_of_run {actions : List Action}
    (hopen : (h.run actions).connection.phase = .isOpen) : h.connection.phase = .isOpen := by
  -- a connection that is closed has a reason, which stands
  cases hreason : h.connection.phase.reason? with
  | none =>
      cases hphase : h.connection.phase with
      | isOpen => rfl
      | closing _ _ | closed _ =>
          rw [hphase] at hreason
          cases hreason
  | some reason =>
      have hstands := reason?_run hreason actions
      rw [hopen] at hstands
      cases hstands

theorem within_run {i n : Nat} {past : List Action} (he : h.errands[i]? = some e)
    (hwithin : e.Within n) (hopen : (h.run past).connection.phase = .isOpen) :
    ∃ later, (h.run past).errands[i]? = some later ∧
      later.Within (n - past.countP (Action.takes i)) := by
  induction past generalizing h e n with
  | nil => exact ⟨e, he, hwithin⟩
  | cons a past ih =>
      rcases errands_step he a with ⟨htakes, hstays⟩ | ⟨htakes, e', h₁, hturn, heq, hmoves⟩
      · rw [List.countP_cons_of_neg (by rw [htakes]; exact Bool.noConfusion)]
        exact ih hstays hwithin hopen
      · have hfirst : (h.step a).connection.phase = .isOpen := isOpen_of_run hopen
        rw [heq] at hfirst
        obtain ⟨later, hlater, hleft⟩ := ih hmoves (hturn.within hwithin hfirst) hopen
        refine ⟨later, hlater, ?_⟩
        rwa [List.countP_cons_of_pos htakes, Nat.add_comm, ← Nat.sub_sub]

/-! ## Whole runs -/

/-- In a run that leaves the connection open, each request to read or list gets its one reply. -/
structure AnswersCallbacks (h : Hub) (actions : List Action) : Prop where
  /-- A request that the loop takes off the stream is given to the session that is registered for its
  evaluator by the next step of the loop, whatever else happens in between. -/
  taken : ∀ before past after s m id, actions = before ++ .loop :: past ++ .loop :: after →
    (h.run before).Reads m → m.isCallback = true → m.evaluatorId? = some id →
    (h.run before).connection.session? id = some s → (∀ a ∈ past, a ≠ .loop) →
    (h.run before).evaluatorIds[s]? = some id ∧
      (h.run (before ++ .loop :: past)).callback? .loop = some (s, m)
  /-- The replies that were sent and those that are owed are those of the sessions to the requests that
  they were given, one for each. -/
  replied : (h.run actions).Balanced (h.callbacks actions)
  /-- The errand that a request begins is finished when it was taken three steps further. -/
  prompt : ∀ before past after callback, actions = before ++ .loop :: past ++ after →
    (h.run before).callback? .loop = some callback →
    3 ≤ past.countP (Action.takes (h.run before).errands.length) →
    (h.run (before ++ .loop :: past)).errands[(h.run before).errands.length]? = some .finished
  /-- Once no errand has a request to answer, the replies that were sent are one for each request. -/
  settled : (∀ e ∈ (h.run actions).errands, e.answers = false) →
    ∃ replies, List.Forall₂ (h.run actions).Due (h.callbacks actions) replies ∧
      replies.Perm (h.run actions).repliesSent
  /-- The readers of a session are those which the request for its evaluator advertised, and the first one
  for a scheme is the first one that was advertised for it. -/
  advertised : ∀ session ∈ (h.run actions).sessions,
    ∃ (i : Nat) (call : CreateCall) (request : CreateEvaluator),
      (h.run actions).creates[i]? = some call ∧ call.answer = some (.ok session.evaluatorId) ∧
      call.options.Asks request ∧ Outgoing.createEvaluator request ∈ (h.run actions).sent ∧
      Advertises request session.readers

theorem routed_run {s : Nat} {m : Incoming} (hloop : h.loop = .routed s m) {past : List Action}
    (hpast : ∀ a ∈ past, a ≠ .loop) : (h.run past).loop = .routed s m := by
  induction past generalizing h with
  | nil => exact hloop
  | cons a past ih =>
      have hfirst := routed_step hloop (hpast a List.mem_cons_self)
      exact ih hfirst fun b hb => hpast b (List.mem_cons_of_mem a hb)

theorem errands_of_calls {a : Action} {s : Nat} {m : Incoming} (hcalls : h.Calls a s m) :
    (h.step a).errands = h.errands ++ [.read s m] := by
  cases h.mail_step a with
  | kept _ hnone | posted _ _ hnone | begun _ _ _ _ hnone | errand _ _ _ _ hnone =>
      exact absurd hcalls (hnone s m)
  | called hother herrands _ _ =>
      obtain ⟨rfl, rfl⟩ := Loop.routed.inj (hcalls.2.1.symm.trans hother.2.1)
      exact herrands

theorem New.errandsFit (hnew : h.New) (actions : List Action) : (h.run actions).ErrandsFit := by
  refine run_keeps (P := ErrandsFit) (fun hfit a => errandsFit_step hfit a) ?_ actions
  intro e he
  rw [hnew.errands] at he
  cases he

theorem New.repliesBalanced (hnew : h.New) (hsent : h.sent = []) {actions : List Action}
    (hopen : (h.run actions).connection.phase = .isOpen) :
    (h.run actions).Balanced (h.callbacks actions) := by
  -- induction on the run from its end: a connection that is open was so all along
  induction actions using List.reverseRecOn with
  | nil =>
      refine ⟨[], .nil, .of_eq ?_⟩
      show [] = h.repliesSent ++ h.owed
      unfold repliesSent owed
      rw [hsent, hnew.errands]
      rfl
  | append_singleton actions a ih =>
      rw [run_snoc] at hopen ⊢
      rw [callbacks_snoc]
      have hbefore : (h.run actions).connection.phase = .isOpen :=
        @isOpen_of_run (h.run actions) [a] hopen
      exact (ih hbefore).step (hnew.sound.run actions).routes (hnew.errandsFit actions) hopen

theorem New.advertised (hnew : h.New) (actions : List Action) : (h.run actions).Advertised := by
  have hkept : (h.run actions).Sound ∧ (h.run actions).AllBacked ∧ (h.run actions).Advertised := by
    refine run_keeps (P := fun h => h.Sound ∧ h.AllBacked ∧ h.Advertised) ?_
      ⟨hnew.sound, ?_, ?_⟩ actions
    · rintro h ⟨hsound, hall, hadvertised⟩ a
      exact ⟨hsound.step a, allBacked_step hall a, advertised_step hsound hall hadvertised a⟩
    · intro i call hcall
      rw [hnew.creates] at hcall
      cases hcall
    · intro s id readers hface
      unfold Hub.faces at hface
      rw [hnew.sessions] at hface
      cases hface
  exact hkept.2.2

/-- In every run of a new hub that leaves the connection open, each request to read or list gets its one
reply. -/
theorem answersCallbacks_of_new (hnew : h.New) (hsent : h.sent = []) {actions : List Action}
    (hopen : (h.run actions).connection.phase = .isOpen) : h.AnswersCallbacks actions where
  taken := by
    intro before past after s m id _ hreads hm hid hfound hpast
    refine ⟨(hnew.sound.run before).routes.registered (mem_registry_of_session? hfound), ?_⟩
    rw [run_append]
    exact callback?_eq_some_iff.2 ⟨rfl, routed_run (loop_of_reads hreads hid hfound) hpast, hm⟩
  replied := hnew.repliesBalanced hsent hopen
  prompt := by
    intro before past after callback hactions hcallback hthree
    have hcalls := calls_of_callback? (hnew.sound.run before).routes hcallback
    have hbegun : ((h.run before).step .loop).errands[(h.run before).errands.length]? =
        some (.read callback.1 callback.2) := by
      rw [errands_of_calls hcalls, List.getElem?_concat_length]
    rw [hactions, run_append, run_append] at hopen
    obtain ⟨later, hlater, hwithin⟩ := within_run hbegun (Nat.le_refl 3) (isOpen_of_run hopen)
    rw [Nat.sub_eq_zero_of_le hthree] at hwithin
    rw [run_append, ← finished_of_within hwithin]
    exact hlater
  settled := by
    intro hnone
    obtain ⟨replies, hdue, hbalance⟩ := hnew.repliesBalanced hsent hopen
    have howed : (h.run actions).owed = [] :=
      List.filterMap_eq_nil_iff.2 fun e he => Errand.owes?_of_answers (hnone e he)
    rw [howed, List.append_nil] at hbalance
    exact ⟨replies, hdue, hbalance⟩
  advertised := by
    intro session hmem
    obtain ⟨s, hs⟩ := List.getElem?_of_mem hmem
    have hface : (h.run actions).faces[s]? = some session.face := by
      unfold Hub.faces
      rw [List.getElem?_map, hs]
      rfl
    obtain ⟨i, call, request, hcall, hanswer, hreaders, hasks, hrequest⟩ :=
      hnew.advertised actions s session.evaluatorId session.readers hface
    exact ⟨i, call, request, hcall, hanswer, hasks, hrequest, hreaders ▸ hasks.advertises⟩

/-- An evaluator has two readers for one scheme, of resources.  The server reads and lists what they are
for, reads a module, for which there is no reader, and reads a text that is no URI. -/
def consultation : List Action :=
  let create : Action := .advance (.create 0)
  let errand (i : Nat) : Action := .advance (.errand i)
  let resource (octets : Bytes) : ResourceReader :=
    { spec := ⟨"birds", true, false⟩, read := fun _ => .ok octets, list := fun _ => .error "no list" }
  let request (requestId : Int64) (uri : String) : ReadRequest := ⟨requestId, 5, uri⟩
  [.create { readers := { resources := [resource [1], resource [2]] } }, create, create, .endLaunch none,
    create, create, create, create, create,
    .arrive (Incoming.encode (.createEvaluatorResponse ⟨0x6220a8397b1dcdaf, some 5, none⟩)), .loop,
    create, create,
    .arrive (Incoming.encode (.readResource (request 1 "birds:/parrot"))), .loop, .loop,
    .arrive (Incoming.encode (.listResources (request 2 "birds:/"))), .loop, .loop,
    errand 1, errand 1,
    .arrive (Incoming.encode (.readModule (request 3 "birds:/parrot"))), .loop, errand 1, .loop,
    .arrive (Incoming.encode (.readResource (request 3 "parrot"))), .loop, .loop,
    errand 0, errand 2, errand 0, errand 3, errand 2, errand 3, errand 3, errand 0, errand 2]

/-- The replies of that run, in the order in which the errands were gone on with. -/
theorem consultation_answersCallbacks :
    let h : Hub := { workingDir := [] }
    h.New ∧ h.sent = [] ∧ (h.run consultation).connection.phase = .isOpen ∧
      (h.callbacks consultation).map Prod.fst = [0, 0, 0, 0] ∧
      (h.run consultation).repliesSent.map Outgoing.encode =
        [Outgoing.encode (.listResourcesResponse ⟨2, 5, .error "no list"⟩),
          Outgoing.encode (.readResourceResponse ⟨3, 5, .error
            "internal error: failed to parse resource url: relative URL without a base"⟩),
          Outgoing.encode (.readResourceResponse ⟨1, 5, .ok [1]⟩),
          Outgoing.encode (.readModuleResponse ⟨3, 5, .error
            "No module reader found for scheme birds:"⟩)] ∧
      (h.run consultation).owed.map Outgoing.encode = [] ∧ h.AnswersCallbacks consultation := by
  intro h
  have hnew : h.New := new_init []
  have hopen : (h.run consultation).connection.phase = .isOpen :=
    phase_of_not_isClosed (by decide +kernel)
  exact ⟨hnew, rfl, hopen, by decide +kernel, by decide +kernel, by decide +kernel,
    answersCallbacks_of_new hnew rfl hopen⟩

end Hub

end PklHost
