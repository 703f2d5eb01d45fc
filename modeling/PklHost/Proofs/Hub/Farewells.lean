import Mathlib.Data.List.Nodup
import PklHost.Proofs.Hub.Callbacks
import PklHost.Proofs.Hub.Performers

/-!
# What the server is told of evaluators that are closed

Whoever closes an evaluator takes it off the registry first, and tells the server only if it was there.  So
the messages that close an evaluator, the errands that are about to send one, and its place in the registry
are together no more than the sessions that were entered for it (`tallied_step`).  Where no two sessions have
one evaluator id, the server is told of each at most once (`told_once`).
-/

namespace PklHost

open Message (Incoming Outgoing)

/-- The evaluator that a message closes. -/
def Message.Outgoing.closes? : Outgoing → Option Int64
  | .closeEvaluator evaluatorId => some evaluatorId
  | .createEvaluator _ | .evaluate _ | .readResourceResponse _ | .readModuleResponse _
  | .listResourcesResponse _ | .listModulesResponse _ => none

theorem Message.Outgoing.closes?_of_isRequest {m : Outgoing} (hm : m.isRequest = true) :
    m.closes? = none := by
  cases m with
  | createEvaluator _ | evaluate _ => rfl
  | _ => cases hm

theorem Message.Outgoing.closes?_of_isReply {m : Outgoing} (hm : m.isReply = true) :
    m.closes? = none := by
  cases m with
  | createEvaluator _ | evaluate _ | closeEvaluator _ => cases hm
  | _ => rfl

namespace Hub

variable {h h' : Hub}

/-! ## Who tells the server, and of what -/

/-- The evaluator of which an errand is about to tell the server that it is closed. -/
def Errand.tells? (ids : List Int64) : Errand → Option Int64
  | .close s _ (.sending _) => ids[s]?
  | .notice evaluatorId _ => some evaluatorId
  | .close _ _ .failing | .close _ _ .unregistering | .release .. | .leave _ | .read .. | .reply ..
  | .closeManager | .disconnect | .shuttingDown | .finished => none

/-- The evaluators of which the server was told that they are closed. -/
def told (h : Hub) : List Int64 := h.sent.filterMap Outgoing.closes?

/-- The evaluators of which errands are about to tell it. -/
def telling (h : Hub) : List Int64 := h.errands.filterMap (Errand.tells? h.evaluatorIds)

/-- The places of an evaluator id in the registry, one or none. -/
def places (id : Int64) (h : Hub) : Nat := (h.connection.session? id).toList.length

/-- For each evaluator id, these are no more than the sessions that have it. -/
def Tallied (h : Hub) : Prop :=
  ∀ id, h.told.count id + h.telling.count id + h.places id ≤ h.evaluatorIds.count id

theorem told_of_sent {posted : Option Outgoing} (hsent : h'.sent = h.sent ++ posted.toList) :
    h'.told = h.told ++ posted.toList.filterMap Outgoing.closes? := by
  unfold told
  rw [hsent, List.filterMap_append]

/-- Of whom an errand tells does not depend on sessions that come later. -/
theorem Errand.Found.tells? {e : Errand} {ids : List Int64} (hfound : e.Found h)
    (hids : h.evaluatorIds <+: ids) : e.tells? ids = e.tells? h.evaluatorIds := by
  obtain ⟨more, rfl⟩ := hids
  cases e with
  | close s ownsManager stage =>
      cases stage with
      | sending progress =>
          have hfound : s < h.sessions.length := hfound
          rw [← length_evaluatorIds] at hfound
          exact List.getElem?_append_left hfound
      | failing | unregistering => rfl
  | _ => rfl

theorem places_eq_zero {id : Int64} (hnone : h.connection.session? id = none) : h.places id = 0 := by
  unfold places
  rw [hnone]
  rfl

theorem places_eq_one {id : Int64} (hsome : h.connection.session? id ≠ none) : h.places id = 1 := by
  obtain ⟨s, hs⟩ := Option.ne_none_iff_exists'.1 hsome
  unfold places
  rw [hs]
  rfl

theorem places_le_one (id : Int64) (h : Hub) : h.places id ≤ 1 := by
  cases hfound : h.connection.session? id with
  | none => exact (places_eq_zero hfound).symm ▸ Nat.zero_le 1
  | some s => exact Nat.le_of_eq (places_eq_one (by rw [hfound]; exact Option.some_ne_none s))

theorem places_of_registry {id : Int64} (hsame : h'.connection.registry = h.connection.registry) :
    h'.places id = h.places id := by
  unfold places Connection.session?
  rw [hsame]

/-- A smaller registry has no more places. -/
theorem places_mono {id : Int64} (hsubset : ∀ s, (id, s) ∈ h'.connection.registry →
    (id, s) ∈ h.connection.registry) : h'.places id ≤ h.places id := by
  cases hfound : h'.connection.session? id with
  | none => exact (places_eq_zero hfound).symm ▸ Nat.zero_le _
  | some s =>
      have hmem := hsubset s (mem_registry_of_session? hfound)
      have hsome : h.connection.session? id ≠ none :=
        fun hnone => not_mem_registry_of_session? hnone s hmem
      rw [places_eq_one hsome]
      exact places_le_one id h'

/-- An evaluator id that is taken off the registry leads nowhere, and the others lead where they did. -/
theorem session?_unregister (id own : Int64) (c : Connection) :
    (c.unregister own).session? id = if id = own then none else c.session? id := by
  split
  · next hown =>
      unfold Connection.session?
      rw [Option.map_eq_none_iff, List.find?_eq_none]
      intro r hr
      have := (List.mem_filter.1 hr).2
      subst hown
      simpa using this
  · next hother =>
      unfold Connection.session? Connection.unregister
      dsimp only
      rw [List.find?_filter]
      congr 2
      funext r
      by_cases hr : r.1 = id
      · simp [hr, hother]
      · simp [hr]

theorem places_unregister (id own : Int64) (h : Hub) :
    places id { h with connection := h.connection.unregister own } =
      if id = own then 0 else h.places id := by
  unfold places
  rw [session?_unregister]
  split <;> rfl

/-! ## Errands -/

/-- What an errand has told the server, what those tell that it began, what it tells itself, and the place
that it left, are no more than what it was about to tell and the place that was there. -/
structure Tells (ids : List Int64) (e e' : Errand) (h h' : Hub) (posted : Option Outgoing)
    (begun : Option Errand) : Prop where
  sent : h'.sent = h.sent ++ posted.toList
  errands : h'.errands = h.errands ++ begun.toList
  tally : ∀ id, (posted.toList.filterMap Outgoing.closes?).count id +
    (begun.toList.filterMap (Errand.tells? ids)).count id + (e'.tells? ids).toList.count id +
      h'.places id ≤ (e.tells? ids).toList.count id + h.places id

theorem Posts.tells {ids : List Int64} {e e' : Errand} {posted : Option Outgoing}
    (hposts : Posts posted h h') (hregistry : h'.connection.registry = h.connection.registry)
    (htold : ∀ id, (posted.toList.filterMap Outgoing.closes?).count id +
      (e'.tells? ids).toList.count id ≤ (e.tells? ids).toList.count id) :
    Tells ids e e' h h' posted none where
  sent := hposts.sent
  errands := hposts.errands.trans (List.append_nil _).symm
  tally := by
    intro id
    have := htold id
    rw [places_of_registry hregistry]
    simp only [Option.toList_none, List.filterMap_nil, List.count_nil]
    omega

/-- An errand that is at the sending tells what is sent. -/
theorem tells_of_stepSending {ids : List Int64} {e e' : Errand} {m : Outgoing} {progress : Sending}
    {sent : Sent} (hsending : h.stepSending m progress = (sent, h'))
    (htold : ∀ id, ((sent.posted m).toList.filterMap Outgoing.closes?).count id +
      (e'.tells? ids).toList.count id ≤ (e.tells? ids).toList.count id) :
    Tells ids e e' h h' (sent.posted m) none :=
  (posts_of_stepSending hsending).tells (quiet_of_stepSending hsending).registry htold

theorem count_closes?_posted_le (evaluatorId : Int64) (sent : Sent) (id : Int64) :
    ((sent.posted (.closeEvaluator evaluatorId)).toList.filterMap Outgoing.closes?).count id ≤
      [evaluatorId].count id := by
  cases sent with
  | done => exact Nat.le_refl _
  | going _ | failed _ => exact Nat.zero_le _

theorem tells?_afterClose (ids : List Int64) (ownsManager : Bool) :
    (afterClose ownsManager).tells? ids = none := by
  cases ownsManager <;> rfl

/-- Whoever takes an evaluator off the registry is about to tell of it. -/
theorem places_unregister_le {evaluatorId : Int64}
    (hknown : h.connection.session? evaluatorId ≠ none) (id : Int64) :
    [evaluatorId].count id + places id { h with connection := h.connection.unregister evaluatorId } ≤
      h.places id := by
  rw [places_unregister, List.count_singleton]
  by_cases hid : id = evaluatorId
  · subst hid
    exact Nat.le_of_eq (by rw [if_pos rfl, beq_self_eq_true, if_pos rfl, places_eq_one hknown])
  · have hother : ¬ (evaluatorId == id) = true := by simpa using Ne.symm hid
    exact Nat.le_of_eq (by rw [if_neg hid, if_neg hother, Nat.zero_add])

/-- What begins nothing and is about to tell of nothing. -/
theorem Posts.tells_nothing {ids : List Int64} {e e' : Errand} (hposts : Posts none h h')
    (hnone : e'.tells? ids = none) (hregistry : h'.connection.registry = h.connection.registry) :
    ∃ posted begun, Tells ids e e' h h' posted begun := by
  refine ⟨none, none, hposts.tells hregistry fun id => ?_⟩
  rw [hnone]
  exact Nat.zero_le _

theorem tells_nothing_failSession {ids : List Int64} {e e' : Errand} (hnone : e'.tells? ids = none)
    (s : Nat) : ∃ posted begun, Tells ids e e' h (h.failSession s .closed) posted begun := by
  refine (h.posts_failSession s .closed).tells_nothing hnone ?_
  obtain ⟨evaluates, heq⟩ := h.failSession_eq s .closed
  rw [heq]

theorem closes?_posted_of_isReply {m : Outgoing} (hm : m.isReply = true) (sent : Sent) :
    (sent.posted m).toList.filterMap Outgoing.closes? = [] := by
  cases sent with
  | done => simp [Sent.posted, Outgoing.closes?_of_isReply hm]
  | going _ | failed _ => rfl

/-- The message that closes an evaluator is sent by whoever was about to tell of it. -/
theorem tells_of_closing {ids : List Int64} {e e' : Errand} {evaluatorId : Int64} {progress : Sending}
    {sent : Sent} (hsending : h.stepSending (.closeEvaluator evaluatorId) progress = (sent, h'))
    (htells : e.tells? ids = some evaluatorId) (hnone : e'.tells? ids = none) :
    ∃ posted begun, Tells ids e e' h h' posted begun := by
  refine ⟨_, none, tells_of_stepSending hsending fun id => ?_⟩
  rw [htells, hnone]
  exact count_closes?_posted_le evaluatorId sent id

/-- A sending that goes on sends nothing yet. -/
theorem tells_of_going {ids : List Int64} {e e' : Errand} {m : Outgoing} {progress progress' : Sending}
    (hsending : h.stepSending m progress = (.going progress', h'))
    (hsame : e'.tells? ids = e.tells? ids) : ∃ posted begun, Tells ids e e' h h' posted begun := by
  refine ⟨_, none, tells_of_stepSending hsending fun id => ?_⟩
  rw [hsame]
  exact Nat.le_of_eq (Nat.zero_add _)

/-- What an errand tells, begins and leaves is what it was about to. -/
theorem ErrandTurn.tally {e e' : Errand} (hturn : ErrandTurn h e e' h') (hfits : e.Fits h.faces) :
    ∃ posted begun, Tells h.evaluatorIds e e' h h' posted begun := by
  cases hturn with
  | gone _ _ | left _ | reads _ _ | ignores _ | closedBefore _ | connectionless _ | waits | ended _
  | rests => exact h.posts_refl.tells_nothing rfl rfl
  | passes _ => exact h.posts_refl.tells_nothing (tells?_afterClose _ _) rfl
  | flags _ =>
      exact ⟨none, none, (List.append_nil _).symm, (List.append_nil _).symm, fun _ => Nat.le_refl _⟩
  | closes _ _ =>
      exact (h.posts_beginShutdown .managerClosed).tells_nothing rfl
        (h.beginShutdown_quiet .managerClosed).registry
  | @fails s _ _ _ => exact tells_nothing_failSession rfl s
  | @releases s _ ownsManager _ => exact tells_nothing_failSession (by cases ownsManager <;> rfl) s
  | @unregisters s session ownsManager hsession hknown =>
      refine ⟨none, none, (List.append_nil _).symm, (List.append_nil _).symm, fun id => ?_⟩
      have htells : (Errand.close s ownsManager (.sending .checking)).tells? h.evaluatorIds =
          some session.evaluatorId := evaluatorIds_getElem? hsession
      have hleft := places_unregister_le hknown id
      rw [htells]
      show 0 + 0 + [session.evaluatorId].count id + _ ≤ 0 + _
      omega
  | @leaves s session hsession hknown =>
      refine ⟨none, some (.notice session.evaluatorId .checking), (List.append_nil _).symm, rfl,
        fun id => ?_⟩
      have hleft := places_unregister_le hknown id
      show 0 + [session.evaluatorId].count id + 0 +
        places id { h with connection := h.connection.unregister session.evaluatorId } ≤ 0 + _
      omega
  | tells hsending _ | notices hsending | replies hsending => exact tells_of_going hsending rfl
  | told hsending _ hsession =>
      exact tells_of_closing hsending (evaluatorIds_getElem? hsession) (tells?_afterClose _ _)
  | noticed hsending _ => exact tells_of_closing hsending rfl rfl
  | replied hsending =>
      refine ⟨_, none, tells_of_stepSending hsending fun id => ?_⟩
      rw [closes?_posted_of_isReply hfits]
      exact Nat.le_refl _
  | unreplied hsending =>
      have hposts := posts_of_stepSending hsending
      exact Posts.tells_nothing ⟨hposts.errands, hposts.sent, hposts.flag⟩ rfl
        (quiet_of_stepSending hsending).registry

/-! ## Any action -/

theorem evaluatorIds_prefix_step (h : Hub) (a : Action) :
    h.evaluatorIds <+: (h.step a).evaluatorIds := by
  cases routes_step h a with
  | kept hids _ _ | routed _ _ hids _ _ _ | passed hids _ _ _ => exact hids ▸ List.prefix_refl _
  | entered _ _ _ hids _ _ _ => exact ⟨_, hids.symm⟩

/-- Errands that are begun meanwhile tell of nothing yet, and those that are there tell of what they did. -/
theorem telling_of_errands (hfound : h.ErrandsFound) {a : Action} {begun : List Errand}
    (herrands : (h.step a).errands = h.errands ++ begun)
    (hbegun : begun.filterMap (Errand.tells? (h.step a).evaluatorIds) = []) :
    (h.step a).telling = h.telling := by
  unfold telling
  rw [herrands, List.filterMap_append, hbegun, List.append_nil]
  exact List.filterMap_congr fun e he => (hfound e he).tells? (h.evaluatorIds_prefix_step a)

/-- An evaluator comes to have a place when a session is entered for it. -/
theorem places_step (h : Hub) (a : Action) (id : Int64) :
    (h.step a).places id + h.evaluatorIds.count id ≤
      h.places id + (h.step a).evaluatorIds.count id := by
  cases routes_step h a with
  | kept hids hregistry _ =>
      rw [hids]
      exact Nat.add_le_add_right (places_mono fun s hmem => hregistry hmem) _
  | @entered i call new _ _ _ hids hregistry _ _ =>
      rw [hids, List.count_append, List.count_singleton]
      by_cases hid : new = id
      · subst hid
        have hone := places_le_one new (h.step a)
        rw [beq_self_eq_true, if_pos rfl]
        omega
      · have hmono : (h.step a).places id ≤ h.places id := places_mono fun s hmem =>
          (List.mem_cons.1 (hregistry hmem)).resolve_left fun hnew => hid (Prod.mk.inj hnew).1.symm
        omega
  | routed _ _ hids hregistry _ _ | passed hids hregistry _ _ =>
      exact Nat.le_of_eq (by rw [hids, places_of_registry hregistry])

theorem tallied_of_kept (htallied : h.Tallied) {a : Action} (htold : (h.step a).told = h.told)
    (htelling : (h.step a).telling = h.telling) : (h.step a).Tallied := by
  intro id
  have hbefore := htallied id
  have hplaces := places_step h a id
  rw [htold, htelling]
  omega

theorem told_eq_of_sent (hsent : h'.sent = h.sent) : h'.told = h.told := by
  unfold told
  rw [hsent]

theorem ErrandTurn.evaluatorIds {e e' : Errand} (hturn : ErrandTurn h e e' h') :
    h'.evaluatorIds = h.evaluatorIds := by
  obtain ⟨h₁, heffect, hquiet⟩ := hturn.effect
  rw [hquiet.evaluatorIds]
  cases heffect with
  | none | unregistered _ => rfl
  | failed s => exact evaluatorIds_failSession s .closed h

theorem tallied_of_turn (htallied : h.Tallied) {i : Nat} {e e' : Errand} {posted : Option Outgoing}
    {begun : Option Errand} (he : h'.errands[i]? = some e) (hids : h'.evaluatorIds = h.evaluatorIds)
    (htells : Tells h.evaluatorIds e e' h h' posted begun) : (h'.setErrand i e').Tallied := by
  intro id
  have hset := filterMap_set_perm he (f := Errand.tells? h.evaluatorIds) e'
  have hcount := hset.count_eq id
  have hbefore := htallied id
  have htally := htells.tally id
  rw [List.count_append, List.count_append, htells.errands, List.filterMap_append,
    List.count_append] at hcount
  show (h'.sent.filterMap Outgoing.closes?).count id +
    ((h'.errands.set i e').filterMap (Errand.tells? h'.evaluatorIds)).count id + h'.places id ≤
      h'.evaluatorIds.count id
  unfold telling told at hbefore
  rw [hids, htells.sent, htells.errands, List.filterMap_append, List.count_append]
  omega

/-- What an action begins is about to tell of nothing. -/
theorem tells?_of_errand? {a : Action} {e : Errand} (he : a.errand? = some e) (ids : List Int64) :
    e.tells? ids = none := by
  cases a with
  | close _ _ | release _ _ | closeManager =>
      rw [← Option.some.inj he]
      rfl
  | _ => cases he

theorem tallied_step (htallied : h.Tallied) (hfound : h.ErrandsFound) (hfit : h.ErrandsFit)
    (a : Action) : (h.step a).Tallied := by
  have htelling : ∀ {begun : List Errand}, (h.step a).errands = h.errands ++ begun →
      (∀ e ∈ begun, ∀ ids, e.tells? ids = none) → (h.step a).telling = h.telling :=
    fun herrands hbegun => telling_of_errands hfound herrands
      (List.filterMap_eq_nil_iff.2 fun e he => hbegun e he _)
  have hnobody : ∀ e ∈ ([] : List Errand), ∀ ids, e.tells? ids = none := fun _ he => by cases he
  cases h.mail_step a with
  | kept hposts _ =>
      exact tallied_of_kept htallied (told_eq_of_sent (hposts.sent.trans (List.append_nil _)))
        (htelling (hposts.errands.trans (List.append_nil _).symm) hnobody)
  | @posted m hm hposts _ =>
      refine tallied_of_kept htallied ?_
        (htelling (hposts.errands.trans (List.append_nil _).symm) hnobody)
      rw [told_of_sent hposts.sent]
      simp [Outgoing.closes?_of_isRequest hm]
  | begun hbegun herrands hsent _ _ =>
      refine tallied_of_kept htallied (told_eq_of_sent hsent) (htelling herrands fun e he ids => ?_)
      rw [List.mem_singleton.1 he]
      exact tells?_of_errand? hbegun ids
  | called _ herrands hsent _ =>
      refine tallied_of_kept htallied (told_eq_of_sent hsent) (htelling herrands fun e he ids => ?_)
      rw [List.mem_singleton.1 he]
      rfl
  | @errand i e e' h₁ _ he hturn heq _ =>
      obtain ⟨posted, begun, htells⟩ := hturn.tally (hfit e (List.mem_of_getElem? he))
      rw [heq]
      exact tallied_of_turn htallied (hturn.errands_getElem? he) hturn.evaluatorIds htells

/-! ## Whole runs -/

theorem New.errandsFound (hnew : h.New) (actions : List Action) : (h.run actions).ErrandsFound := by
  refine run_keeps (P := ErrandsFound) (fun hfound a => errandsFound_step hfound a) ?_ actions
  intro e he
  rw [hnew.errands] at he
  cases he

theorem New.tallied (hnew : h.New) (hsent : h.sent = []) (actions : List Action) :
    (h.run actions).Tallied := by
  -- induction on the run from its end, since the other invariants are those of whole runs
  induction actions using List.reverseRecOn with
  | nil =>
      intro id
      have htold : h.told = [] := by
        unfold told
        rw [hsent]
        rfl
      have htelling : h.telling = [] := by
        unfold telling
        rw [hnew.errands]
        rfl
      have hnowhere : h.connection.session? id = none := by
        unfold Connection.session?
        rw [hnew.registry]
        rfl
      show h.told.count id + h.telling.count id + h.places id ≤ h.evaluatorIds.count id
      rw [htold, htelling, places_eq_zero hnowhere]
      exact Nat.zero_le _
  | append_singleton actions a ih =>
      rw [run_snoc]
      exact tallied_step ih (hnew.errandsFound actions) (hnew.errandsFit actions) a

theorem DistinctSessions.nodup (hdistinct : h.DistinctSessions) : h.evaluatorIds.Nodup := by
  rw [List.nodup_iff_getElem?_ne_getElem?]
  intro s s' hlt hs' hsame
  rw [List.getElem?_eq_getElem hs'] at hsame
  exact Nat.ne_of_lt hlt (hdistinct s s' _ hsame (List.getElem?_eq_getElem hs'))

/-- Where no two sessions have one evaluator id, the server is told of each at most once. -/
theorem New.told_once (hnew : h.New) (hsent : h.sent = []) {actions : List Action}
    (hdistinct : (h.run actions).DistinctSessions) (id : Int64) :
    (h.run actions).told.count id ≤ 1 := by
  have htally := hnew.tallied hsent actions id
  have hone := List.nodup_iff_count_le_one.1 hdistinct.nodup id
  omega

end Hub

end PklHost
