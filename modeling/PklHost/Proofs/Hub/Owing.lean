import Mathlib.Data.List.Basic
import PklHost.Proofs.Evaluator.Readers
import PklHost.Proofs.Hub.Mail

/-!
# What errands owe

An errand that reads or lists for the server owes one reply, which is that of the session that it goes to
(`due_of_fits`).  A step of an errand that leaves the connection open sends what is owed or goes on owing it
(`ErrandTurn.settles`), and after three such steps nothing is owed (`ErrandTurn.within`).
-/

namespace PklHost

open Message (Incoming Outgoing ReadRequest PathElement)

/-! ## Replies -/

/-- A message is the reply to a request to read or list.  It is of the kind of the request, with its request
id and the id of the evaluator, and its result is that of the readers of the family. -/
inductive RepliesTo (evaluatorId : Int64) (readers : Readers) : Incoming → Outgoing → Prop
  | readResource {r : ReadRequest} {result : Except String Bytes}
      (hresult : Resolves ResourceReader.scheme readers.resources ResourceReader.read r.uri result) :
      RepliesTo evaluatorId readers (.readResource r)
        (.readResourceResponse ⟨r.requestId, evaluatorId, result⟩)
  | readModule {r : ReadRequest} {result : Except String String}
      (hresult : Resolves ModuleReader.scheme readers.modules ModuleReader.read r.uri result) :
      RepliesTo evaluatorId readers (.readModule r)
        (.readModuleResponse ⟨r.requestId, evaluatorId, result⟩)
  | listResources {r : ReadRequest} {result : Except String (List PathElement)}
      (hresult : Resolves ResourceReader.scheme readers.resources ResourceReader.list r.uri result) :
      RepliesTo evaluatorId readers (.listResources r)
        (.listResourcesResponse ⟨r.requestId, evaluatorId, result⟩)
  | listModules {r : ReadRequest} {result : Except String (List PathElement)}
      (hresult : Resolves ModuleReader.scheme readers.modules ModuleReader.list r.uri result) :
      RepliesTo evaluatorId readers (.listModules r)
        (.listModulesResponse ⟨r.requestId, evaluatorId, result⟩)

/-- There is a reply to every request to read or list. -/
theorem Readers.reply?_of_isCallback (readers : Readers) (evaluatorId : Int64) {m : Incoming}
    (hm : m.isCallback = true) : ∃ reply, readers.reply? evaluatorId m = some reply ∧
      RepliesTo evaluatorId readers m reply ∧ reply.isReply = true := by
  cases m with
  | readResource r => exact ⟨_, rfl, .readResource (readVia_resolves _ _ _ _ _), rfl⟩
  | readModule r => exact ⟨_, rfl, .readModule (readVia_resolves _ _ _ _ _), rfl⟩
  | listResources r => exact ⟨_, rfl, .listResources (readVia_resolves _ _ _ _ _), rfl⟩
  | listModules r => exact ⟨_, rfl, .listModules (readVia_resolves _ _ _ _ _), rfl⟩
  | createEvaluatorResponse _ | evaluateResponse _ | log _ => cases hm

namespace Hub

variable {h : Hub} {e : Errand} {faces faces' : List (Int64 × Readers)}

/-! ## What is owed -/

/-- A message is the reply of a session to a request to read or list. -/
def Due (h : Hub) (callback : Nat × Incoming) (reply : Outgoing) : Prop :=
  ∃ session, h.sessions[callback.1]? = some session ∧
    RepliesTo session.evaluatorId session.readers callback.2 reply

theorem due_iff {callback : Nat × Incoming} {reply : Outgoing} : h.Due callback reply ↔
    ∃ face, h.faces[callback.1]? = some face ∧ RepliesTo face.1 face.2 callback.2 reply := by
  unfold Due Hub.faces
  rw [List.getElem?_map]
  constructor
  · rintro ⟨session, hsession, hreply⟩
    exact ⟨session.face, by rw [hsession]; rfl, hreply⟩
  · rintro ⟨face, hface, hreply⟩
    obtain ⟨session, hsession, rfl⟩ := Option.map_eq_some_iff.1 hface
    exact ⟨session, hsession, hreply⟩

/-- The reply that an errand has yet to send. -/
def Errand.owes? (faces : List (Int64 × Readers)) : Errand → Option Outgoing
  | .read s m => faces[s]?.bind fun face => face.2.reply? face.1 m
  | .reply _ m .checking | .reply _ m .writing => some m
  | .reply _ _ (.shuttingDown _) | .close .. | .release .. | .leave _ | .notice .. | .closeManager
  | .disconnect | .shuttingDown | .finished => none

/-- The replies that errands have yet to send. -/
def owed (h : Hub) : List Outgoing := h.errands.filterMap (Errand.owes? h.faces)

/-- The replies that were sent. -/
def repliesSent (h : Hub) : List Outgoing := h.sent.filter Outgoing.isReply

/-- An errand that reads or lists does so for a session that there is, and what is sent as a reply is one. -/
def Errand.Fits (faces : List (Int64 × Readers)) : Errand → Prop
  | .read s m => s < faces.length ∧ m.isCallback = true
  | .reply _ m _ => m.isReply = true
  | .close .. | .release .. | .leave _ | .notice .. | .closeManager | .disconnect | .shuttingDown
  | .finished => True

def ErrandsFit (h : Hub) : Prop :=
  ∀ e ∈ h.errands, e.Fits h.faces

theorem Errand.fits_of_answers (he : e.answers = false) : e.Fits faces := by
  cases e with
  | read | reply => cases he
  | _ => trivial

theorem Errand.owes?_of_answers (he : e.answers = false) : e.owes? faces = none := by
  cases e with
  | read | reply => cases he
  | _ => rfl

theorem Errand.Fits.mono (hfits : e.Fits faces) (hfaces : faces <+: faces') : e.Fits faces' := by
  cases e with
  | read s m => exact ⟨Nat.lt_of_lt_of_le hfits.1 hfaces.length_le, hfits.2⟩
  | _ => exact hfits

/-- What an errand owes does not depend on sessions that come later. -/
theorem Errand.Fits.owes? (hfits : e.Fits faces) (hfaces : faces <+: faces') :
    e.owes? faces' = e.owes? faces := by
  obtain ⟨more, rfl⟩ := hfaces
  cases e with
  | read s m =>
      unfold Errand.owes?
      dsimp only
      rw [List.getElem?_append_left hfits.1]
  | reply _ _ progress => cases progress <;> rfl
  | _ => rfl

theorem ErrandsFit.filterMap_owes? (hfit : h.ErrandsFit) (hfaces : h.faces <+: faces) :
    h.errands.filterMap (Errand.owes? faces) = h.owed :=
  List.filterMap_congr fun e he => (hfit e he).owes? hfaces

/-! ## One step of an errand -/

theorem owes?_read {s : Nat} {session : Session} (hsession : h.sessions[s]? = some session)
    (m : Incoming) :
    (Errand.read s m).owes? h.faces = session.readers.reply? session.evaluatorId m := by
  unfold Errand.owes? faces
  dsimp only
  rw [List.getElem?_map, hsession]
  rfl

/-- An errand that reads or lists owes the reply of the session that it goes to. -/
theorem due_of_fits {s : Nat} {m : Incoming} (hfits : (Errand.read s m).Fits h.faces) :
    ∃ reply, (Errand.read s m).owes? h.faces = some reply ∧ h.Due (s, m) reply := by
  obtain ⟨hs, hm⟩ := hfits
  rw [faces, List.length_map] at hs
  have hsession : h.sessions[s]? = some h.sessions[s] := List.getElem?_eq_getElem hs
  obtain ⟨reply, hreply, hdue, -⟩ :=
    h.sessions[s].readers.reply?_of_isCallback h.sessions[s].evaluatorId hm
  exact ⟨reply, (owes?_read hsession m).trans hreply, _, hsession, hdue⟩

theorem ErrandTurn.fits {e' : Errand} {h' : Hub} (hturn : ErrandTurn h e e' h')
    (hfits : e.Fits h.faces) : e'.Fits h.faces := by
  cases hturn with
  | @reads _ session _ reply _ hreply =>
      obtain ⟨other, hother, -, hkind⟩ :=
        session.readers.reply?_of_isCallback session.evaluatorId hfits.2
      obtain rfl : reply = other := Option.some.inj (hreply.symm.trans hother)
      exact hkind
  | replies _ => exact hfits
  | passes _ | told _ _ => exact Errand.fits_of_answers (answers_afterClose _)
  | @releases _ _ ownsManager _ => cases ownsManager <;> trivial
  | _ => trivial

theorem not_isClosed_of_isOpen {c : Connection} (hopen : c.phase = .isOpen) : ¬ c.isClosed = true := by
  unfold Connection.isClosed
  rw [hopen]
  exact Bool.noConfusion

theorem not_isDown_of_isOpen {c : Connection} (hopen : c.phase = .isOpen) : ¬ c.isDown = true := by
  unfold Connection.isDown
  rw [hopen]
  exact Bool.noConfusion

/-- A sending that leaves the connection open goes on to write, has written the message or waits. -/
theorem sending_of_open {m : Outgoing} {progress : Sending} {sent : Sent} {h' : Hub}
    (hsending : h.stepSending m progress = (sent, h')) (hopen : h'.connection.phase = .isOpen) :
    (progress = .checking ∧ sent = .going .writing ∧ h' = h) ∨
      (progress = .writing ∧ sent = .done ∧ h' = { h with sent := h.sent ++ [m] }) ∨
      ∃ fault, progress = .shuttingDown fault ∧ sent = .going progress ∧ h' = h := by
  cases sendingTurn hsending with
  | refused hclosed | fails hclosed => exact absurd hclosed (not_isClosed_of_isOpen hopen)
  | passes _ => exact .inl ⟨rfl, rfl, rfl⟩
  | writes => exact .inr (.inl ⟨rfl, rfl, rfl⟩)
  | breaks _ _ => cases hopen
  | waits fault => exact .inr (.inr ⟨fault, rfl, rfl, rfl⟩)
  | ends _ hdown => exact absurd hdown (not_isDown_of_isOpen hopen)

/-- A step of an errand that leaves the connection open sends the reply that is owed, or goes on owing it. -/
theorem ErrandTurn.settles {e' : Errand} {h' : Hub} (hturn : ErrandTurn h e e' h')
    (hfits : e.Fits h.faces) (hopen : h'.connection.phase = .isOpen) :
    ∃ posted : Option Outgoing, h'.sent = h.sent ++ posted.toList ∧
      posted.toList.filter Outgoing.isReply ++ (e'.owes? h.faces).toList =
        (e.owes? h.faces).toList := by
  cases he : e.answers with
  | false =>
      obtain ⟨posted, hsent, -, hnone⟩ := hturn.sent
      refine ⟨posted, hsent, ?_⟩
      rw [Errand.owes?_of_answers he, Errand.owes?_of_answers (hturn.answers he), Option.toList_none,
        List.append_nil, List.filter_eq_nil_iff]
      intro m hm
      rw [hnone he m (Option.mem_toList.1 hm)]
      exact Bool.noConfusion
  | true =>
      cases hturn with
      | gone hs hgone =>
          cases e with
          | read s m =>
              -- the session that is read for is there
              obtain ⟨reply, -, session, hsession, -⟩ := due_of_fits hfits
              obtain rfl := Option.some.inj hs
              rw [hgone] at hsession
              cases hsession
          | reply _ _ _ => cases hs
          | _ => cases he
      | reads hsession hreply =>
          rw [owes?_read hsession, hreply]
          exact ⟨none, (List.append_nil _).symm, rfl⟩
      | @ignores s session m hreply =>
          obtain ⟨reply, hsome, -⟩ :=
            session.readers.reply?_of_isCallback session.evaluatorId hfits.2
          rw [hreply] at hsome
          cases hsome
      | replies hsending =>
          rcases sending_of_open hsending hopen with
            ⟨rfl, hsent, rfl⟩ | ⟨-, hsent, -⟩ | ⟨_, rfl, hsent, rfl⟩
          · rw [Sent.going.inj hsent]
            exact ⟨none, (List.append_nil _).symm, rfl⟩
          · cases hsent
          · rw [Sent.going.inj hsent]
            exact ⟨none, (List.append_nil _).symm, rfl⟩
      | @replied _ m _ _ hsending =>
          have hkind : m.isReply = true := hfits
          rcases sending_of_open hsending hopen with
            ⟨-, hsent, -⟩ | ⟨rfl, -, rfl⟩ | ⟨_, -, hsent, -⟩
          · cases hsent
          · exact ⟨some m, rfl, by simp [hkind, Errand.owes?]⟩
          · cases hsent
      | unreplied hsending =>
          rcases sending_of_open hsending hopen with
            ⟨-, hsent, -⟩ | ⟨-, hsent, -⟩ | ⟨_, -, hsent, -⟩ <;> cases hsent
      | _ => cases he

/-- The steps after which an errand that answers a request is finished. -/
def Errand.Within (n : Nat) : Errand → Prop
  | .read .. => 3 ≤ n
  | .reply _ _ .checking => 2 ≤ n
  | .reply _ _ .writing => 1 ≤ n
  | .finished => True
  | .reply _ _ (.shuttingDown _) | .close .. | .release .. | .leave _ | .notice .. | .closeManager
  | .disconnect | .shuttingDown => False

/-- A step of such an errand is one of those. -/
theorem ErrandTurn.within {n : Nat} {e' : Errand} {h' : Hub} (hturn : ErrandTurn h e e' h')
    (hwithin : e.Within n) (hopen : h'.connection.phase = .isOpen) : e'.Within (n - 1) := by
  cases hturn with
  | gone _ _ | ignores _ | replied _ | unreplied _ | rests => trivial
  | reads _ _ =>
      have hn : 3 ≤ n := hwithin
      exact (by omega : 2 ≤ n - 1)
  | replies hsending =>
      rcases sending_of_open hsending hopen with ⟨rfl, hsent, -⟩ | ⟨-, hsent, -⟩ | ⟨_, rfl, -, -⟩
      · have hn : 2 ≤ n := hwithin
        rw [Sent.going.inj hsent]
        exact (by omega : 1 ≤ n - 1)
      · cases hsent
      · exact hwithin.elim
  | _ => exact hwithin.elim

theorem finished_of_within (hwithin : e.Within 0) : e = .finished := by
  cases e with
  | finished => rfl
  | read => exact absurd hwithin (Nat.not_succ_le_zero 2)
  | reply _ _ progress =>
      cases progress with
      | checking => exact absurd hwithin (Nat.not_succ_le_zero 1)
      | writing => exact absurd hwithin (Nat.not_succ_le_zero 0)
      | shuttingDown fault => exact hwithin.elim
  | _ => exact hwithin.elim

end Hub

end PklHost
