import PklHost.Evaluator.Error
import PklHost.Proofs.Evaluator.Pending

/-!
# Desks

A desk is what the calls of one kind have in common.  Each call has a slip on it, with the answer that
it was given and the stage that it is in, and files its request in one of the desk's trays, from which an
answer is delivered to it.  Calls that create share one tray; calls that evaluate have one for each
session.

Everything follows from what a single step can do to a desk, which is said once (`Desk.Proceeds` and
`Desk.Delivers`).  `Desk.Tidy` is what all steps keep: a request that waits belongs to a call that has no
answer yet, so that whoever is answered waits no longer.
-/

namespace PklHost

/-- A fault that is given to whoever waits when something closes. -/
inductive EvaluatorError.OfClosing : EvaluatorError → Prop
  | closed : OfClosing .closed
  | connectionClosed (reason : CloseReason) : OfClosing (.connectionClosed reason)

/-- A fault that stands in an answer of the server. -/
inductive EvaluatorError.OfAnswer : EvaluatorError → Prop
  | evaluation (text : String) : OfAnswer (.evaluation text)
  | createFailed (text : String) : OfAnswer (.createFailed text)
  | unexpectedResult (expected found : String) : OfAnswer (.unexpectedResult expected found)

theorem EvaluatorError.OfClosing.not_ofAnswer {fault : EvaluatorError} (h : fault.OfClosing) :
    ¬ fault.OfAnswer := by
  cases h with
  | closed => exact fun h => nomatch h
  | connectionClosed reason => exact fun h => nomatch h

namespace Hub

/-- An outcome that an answer of the server gives. -/
def FromServer {α : Type} : Except EvaluatorError α → Prop
  | .ok _ => True
  | .error fault => fault.OfAnswer

theorem not_fromServer_of_closing {α : Type} {fault : EvaluatorError} (h : fault.OfClosing) :
    ¬ FromServer (.error fault : Except EvaluatorError α) :=
  h.not_ofAnswer

/-! ## Courses -/

/-- How a call stands with the tray in which it files its request. -/
inductive Standing where
  /-- Nothing was filed. -/
  | unfiled
  /-- A request was filed, under this id as long as the call keeps it. -/
  | filed (requestId : Option Int64)
  /-- The call waits for nothing. -/
  | settled
  /-- The call was given up, and its request may still wait. -/
  | abandoned

/-- A request may wait under an id for a call that stands so. -/
def Standing.MayWait (id : Int64) : Standing → Prop
  | .unfiled | .settled => False
  | .filed requestId => ∀ own ∈ requestId, own = id
  | .abandoned => True

/-- From one standing to the next without the tray. -/
inductive Standing.Passes (answered : Prop) : Standing → Standing → Prop
  | stays (s : Standing) : Passes answered s s
  | refused : Passes answered .unfiled .settled
  | forgets (requestId : Option Int64) : Passes answered (.filed requestId) (.filed none)
  | settles (h : answered) (requestId : Option Int64) : Passes answered (.filed requestId) .settled

/-- The course of the calls of one kind: their stages, what leads from one to the next, and the outcome
with which a call returns. -/
structure Course (α σ ω : Type) where
  first : σ
  abandoned : σ
  standing : σ → Standing
  outcome? : σ → Option ω
  /-- By itself, with the answer that it has. -/
  Goes : Option (Except EvaluatorError α) → σ → σ → Prop
  /-- By filing a request under an id. -/
  Files : Int64 → σ → σ → Prop
  /-- By taking back the request under an id. -/
  Withdraws : Int64 → σ → σ → Prop
  standing_first : standing first = .unfiled
  standing_abandoned : standing abandoned = .abandoned
  standing_outcome : ∀ {s o}, outcome? s = some o → standing s = .settled
  passes : ∀ {a s s'}, Goes a s s' → (standing s).Passes (a ≠ none) (standing s')
  files : ∀ {id s s'}, Files id s s' → standing s = .unfiled ∧ standing s' = .filed (some id)
  withdraws : ∀ {id s s'}, Withdraws id s s' → standing s = .filed (some id) ∧ standing s' = .settled
  /-- A call that is over goes nowhere. -/
  goes_over : ∀ {a s s'}, Goes a s s' → (∃ o, outcome? s = some o) ∨ s = abandoned → s' = s

/-- One step of a call on its course. -/
inductive Course.Turns {α σ ω : Type} (c : Course α σ ω) (a : Option (Except EvaluatorError α)) (s : σ) :
    σ → Prop
  | stays : Turns c a s s
  | abandoned : Turns c a s c.abandoned
  | goes {s' : σ} (h : c.Goes a s s') : Turns c a s s'
  | files {s' : σ} (id : Int64) (h : c.Files id s s') : Turns c a s s'
  | withdraws {s' : σ} (id : Int64) (h : c.Withdraws id s s') : Turns c a s s'

/-- A call that has returned or was given up. -/
def Course.Over {α σ ω : Type} (c : Course α σ ω) (s : σ) : Prop :=
  (∃ o, c.outcome? s = some o) ∨ s = c.abandoned

/-! ## Slips and trays -/

/-- What a desk knows of a call. -/
structure Slip (α σ : Type) where
  tray : Nat
  answer : Option (Except EvaluatorError α)
  stage : σ

/-- The calls of one kind, and the trays in which their requests wait. -/
structure Desk (α σ : Type) where
  slips : List (Slip α σ)
  trays : List (Pending Nat)

section

variable {α σ ω : Type}

/-- The first answer stays. -/
def Slip.give (a : Except EvaluatorError α) (slip : Slip α σ) : Slip α σ :=
  { slip with answer := slip.answer <|> some a }

def Slip.move (stage : σ) (slip : Slip α σ) : Slip α σ :=
  { slip with stage }

/-- Gives one answer to several calls. -/
def giveAll (tickets : List Nat) (a : Except EvaluatorError α) (slips : List (Slip α σ)) :
    List (Slip α σ) :=
  tickets.foldl (fun slips i => slips.modify i (Slip.give a)) slips

/-- The request of a call waits in a tray under an id. -/
def Desk.Waits (d : Desk α σ) (s : Nat) (id : Int64) (i : Nat) : Prop :=
  ∃ tray, d.trays[s]? = some tray ∧ (id, i) ∈ tray.waiting

/-- What a step that delivers no answer can do to a desk. -/
inductive Desk.Proceeds (c : Course α σ ω) (d : Desk α σ) : Desk α σ → Prop
  | kept : Proceeds c d d
  | begun (tray : Nat) : Proceeds c d { d with slips := d.slips ++ [⟨tray, none, c.first⟩] }
  | opened : Proceeds c d { d with trays := d.trays ++ [{}] }
  | moved {i : Nat} {slip : Slip α σ} {stage : σ} (hslip : d.slips[i]? = some slip)
      (hgoes : c.Goes slip.answer slip.stage stage) :
      Proceeds c d { d with slips := d.slips.modify i (Slip.move stage) }
  | abandoned (i : Nat) :
      Proceeds c d { d with slips := d.slips.modify i (Slip.move c.abandoned) }
  | filed {i : Nat} {slip : Slip α σ} {stage : σ} {tray : Pending Nat} {id : Int64}
      (hslip : d.slips[i]? = some slip) (hfiles : c.Files id slip.stage stage)
      (htray : d.trays[slip.tray]? = some tray) (hopen : tray.isClosed = false)
      (hfree : tray.find? id = none) :
      Proceeds c d
        { slips := d.slips.modify i (Slip.move stage)
          trays := d.trays.set slip.tray { tray with waiting := tray.waiting ++ [(id, i)] } }
  /-- A request under the same id that is not the call's own goes with it, and its call learns that it
  was given up. -/
  | withdrawn {i : Nat} {slip : Slip α σ} {stage : σ} {tray : Pending Nat} {id : Int64}
      {fault : EvaluatorError} (hslip : d.slips[i]? = some slip)
      (hwithdraws : c.Withdraws id slip.stage stage) (htray : d.trays[slip.tray]? = some tray)
      (hfault : fault.OfClosing) :
      Proceeds c d
        { slips := (giveAll ((tray.find? id).toList.filter (· ≠ i)) (.error fault) d.slips).modify i
            (Slip.move stage)
          trays := d.trays.set slip.tray (tray.erase id) }
  | failed {s : Nat} {tray : Pending Nat} {fault : EvaluatorError}
      (htray : d.trays[s]? = some tray) (hfault : fault.OfClosing) :
      Proceeds c d
        { slips := giveAll (tray.waiting.map Prod.snd) (.error fault) d.slips
          trays := d.trays.set s tray.close.2 }

/-- An answer is delivered to the call that waits in a tray under an id. -/
structure Desk.Delivers (d : Desk α σ) (s : Nat) (id : Int64) (a : Except EvaluatorError α)
    (d' : Desk α σ) : Prop where
  found : ∃ tray i, d.trays[s]? = some tray ∧ tray.find? id = some i ∧
    d' = { slips := d.slips.modify i (Slip.give a), trays := d.trays.set s (tray.erase id) }

/-! ## One slip -/

theorem set_eq_modify {β : Type} {l : List β} {i : Nat} {x : β} (hx : l[i]? = some x) (f : β → β) :
    l.set i (f x) = l.modify i f := by
  apply List.ext_getElem?
  intro j
  rw [List.getElem?_set, List.getElem?_modify]
  by_cases hi : i = j
  · subst hi
    obtain ⟨hlt, rfl⟩ := List.getElem?_eq_some_iff.1 hx
    simp [hlt]
  · simp [hi]

/-- Modifying one entry of a list, as seen through a map. -/
theorem map_modify {β γ : Type} {g : β → γ} {f : β → β} {f' : γ → γ} (hf : ∀ x, g (f x) = f' (g x))
    (l : List β) (i : Nat) : (l.modify i f).map g = (l.map g).modify i f' := by
  apply List.ext_getElem?
  intro j
  simp only [List.getElem?_map, List.getElem?_modify]
  by_cases hi : i = j
  · cases l[j]? with
    | none => simp
    | some x => simp [hi, hf]
  · simp [hi]

theorem set_self_of_getElem? {β : Type} {l : List β} {i : Nat} {x : β} (hx : l[i]? = some x) :
    l.set i x = l := by
  obtain ⟨hlt, rfl⟩ := List.getElem?_eq_some_iff.1 hx
  exact List.set_getElem_self hlt

/-- What stands at a place stays there when the list grows. -/
theorem getElem?_append_of_some {β : Type} {l : List β} {i : Nat} {x : β} (hx : l[i]? = some x)
    (more : List β) : (l ++ more)[i]? = some x := by
  rw [List.getElem?_append_left (List.getElem?_eq_some_iff.1 hx).1, hx]

/-- What stands at a place that a list has only since it grew is of what it grew by. -/
theorem mem_of_getElem?_append {β : Type} {l more : List β} {i : Nat} {x : β} (hnone : l[i]? = none)
    (hx : (l ++ more)[i]? = some x) : x ∈ more := by
  rw [List.getElem?_append_right (List.getElem?_eq_none_iff.1 hnone)] at hx
  exact List.mem_of_getElem? hx

/-- In a list that grew by one, what stands at a place stood there before or is the new one. -/
theorem getElem?_of_append {β : Type} {l : List β} {x y : β} {i : Nat}
    (hy : (l ++ [x])[i]? = some y) : l[i]? = some y ∨ i = l.length ∧ y = x := by
  cases hold : l[i]? with
  | some z => exact .inl (by rw [← hy, getElem?_append_of_some hold])
  | none =>
      have hlast := List.mem_singleton.1 (mem_of_getElem?_append hold hy)
      have hlt := (List.getElem?_eq_some_iff.1 hy).1
      have hle := List.getElem?_eq_none_iff.1 hold
      rw [List.length_append, List.length_singleton] at hlt
      exact .inr ⟨by omega, hlast⟩

theorem getElem?_giveAll (tickets : List Nat) (a : Except EvaluatorError α) (slips : List (Slip α σ))
    (i : Nat) :
    (giveAll tickets a slips)[i]? = slips[i]?.map fun slip =>
      if i ∈ tickets then slip.give a else slip := by
  induction tickets generalizing slips with
  | nil => simp [giveAll]
  | cons j tickets ih =>
      have hfirst : giveAll (j :: tickets) a slips =
          giveAll tickets a (slips.modify j (Slip.give a)) := rfl
      rw [hfirst, ih, List.getElem?_modify]
      cases slips[i]? with
      | none => rfl
      | some slip =>
          by_cases hj : j = i
          · -- a second giving of the same answer changes nothing
            have htwice : (slip.give a).give a = slip.give a := by
              unfold Slip.give
              cases slip.answer <;> rfl
            by_cases hi : i ∈ tickets <;> simp [hj, hi, htwice]
          · have hj' : ¬ i = j := fun h => hj h.symm
            simp [hj, hj']

/-- Giving one answer to several calls gives it to their slips, where giving it to one does. -/
theorem slips_giveAll {η : Type} {desk : η → Desk α σ} {answer : η → Nat → η}
    {a : Except EvaluatorError α}
    (hone : ∀ h i, desk (answer h i) = { desk h with slips := (desk h).slips.modify i (Slip.give a) })
    (tickets : List Nat) (h : η) :
    desk (tickets.foldl answer h) = { desk h with slips := giveAll tickets a (desk h).slips } := by
  induction tickets generalizing h with
  | nil => rfl
  | cons i tickets ih =>
      rw [List.foldl_cons, ih, hone]
      rfl

/-- What a step that delivers nothing can do to the slip of a call.  Only a call that awaited is given a
fault. -/
structure Slip.Follows (c : Course α σ ω) (awaited : Prop) (slip slip' : Slip α σ) : Prop where
  tray : slip'.tray = slip.tray
  answer : slip'.answer = slip.answer ∨ awaited ∧ slip.answer = none ∧
    ∃ fault : EvaluatorError, fault.OfClosing ∧ slip'.answer = some (.error fault)
  stage : c.Turns slip.answer slip.stage slip'.stage

variable {c : Course α σ ω} {awaited : Prop} {slips : List (Slip α σ)} {i j : Nat}
  {own slip : Slip α σ} {stage : σ}

theorem Slip.follows_refl (slip : Slip α σ) : slip.Follows c awaited slip :=
  ⟨rfl, .inl rfl, .stays⟩

theorem Slip.follows_give (slip : Slip α σ) {fault : EvaluatorError} (hfault : fault.OfClosing)
    (hwaits : awaited) : slip.Follows c awaited (slip.give (.error fault)) := by
  refine ⟨rfl, ?_, .stays⟩
  unfold Slip.give
  cases slip.answer with
  | none => exact .inr ⟨hwaits, rfl, fault, hfault, rfl⟩
  | some a => exact .inl rfl

/-- Moving one slip along its course lets every slip follow. -/
theorem follows_of_modify (hown : slips[j]? = some own)
    (hturns : c.Turns own.answer own.stage stage) (hslip : slips[i]? = some slip) :
    ∃ slip', (slips.modify j (Slip.move stage))[i]? = some slip' ∧ slip.Follows c awaited slip' := by
  rw [List.getElem?_modify, hslip]
  by_cases hj : j = i
  · subst hj
    obtain rfl : own = slip := Option.some.inj (hown.symm.trans hslip)
    exact ⟨own.move stage, by simp, rfl, .inl rfl, hturns⟩
  · exact ⟨slip, by simp [hj], slip.follows_refl⟩

theorem follows_of_giveAll {fault : EvaluatorError} {tickets : List Nat} (hfault : fault.OfClosing)
    (hwaits : i ∈ tickets → awaited) (hslip : slips[i]? = some slip) :
    ∃ slip', (giveAll tickets (.error fault) slips)[i]? = some slip' ∧
      slip.Follows c awaited slip' := by
  rw [getElem?_giveAll, hslip]
  by_cases hi : i ∈ tickets
  · exact ⟨slip.give (.error fault), by simp [hi], slip.follows_give hfault (hwaits hi)⟩
  · exact ⟨slip, by simp [hi], slip.follows_refl⟩

namespace Desk

variable {d d' : Desk α σ} {s : Nat} {id : Int64}

/-- The other call that a withdrawal takes with it waits in the tray. -/
theorem waits_of_mem_found {tray : Pending Nat} (htray : d.trays[s]? = some tray)
    (h : i ∈ (tray.find? id).toList.filter (· ≠ j)) : d.Waits s id i := by
  have hfound : tray.find? id = some i := by
    simpa using (List.mem_filter.1 h).1
  exact ⟨tray, htray, Pending.mem_of_find? hfound⟩

theorem waits_of_mem_tickets {tray : Pending Nat} (htray : d.trays[s]? = some tray)
    (h : i ∈ tray.waiting.map Prod.snd) : ∃ id, d.Waits s id i := by
  obtain ⟨w, hw, rfl⟩ := List.mem_map.1 h
  exact ⟨w.1, tray, htray, hw⟩

/-- Every slip stays, and follows its course. -/
theorem Proceeds.follows (h : d.Proceeds c d') (hslip : d.slips[i]? = some slip) :
    ∃ slip', d'.slips[i]? = some slip' ∧ slip.Follows c (∃ s id, d.Waits s id i) slip' := by
  cases h with
  | kept => exact ⟨slip, hslip, slip.follows_refl⟩
  | begun tray =>
      exact ⟨slip, getElem?_append_of_some hslip _, slip.follows_refl⟩
  | opened => exact ⟨slip, hslip, slip.follows_refl⟩
  | moved hown hgoes => exact follows_of_modify hown (.goes hgoes) hslip
  | abandoned j =>
      by_cases hj : j = i
      · subst hj
        exact follows_of_modify hslip .abandoned hslip
      · exact ⟨slip, by simp [hj, hslip], slip.follows_refl⟩
  | filed hown hfiles _ _ _ => exact follows_of_modify hown (.files _ hfiles) hslip
  | @withdrawn j own stage tray id fault hown hwithdraws htray hfault =>
      -- the call that withdraws is given nothing
      have hgiven : (giveAll ((tray.find? id).toList.filter (· ≠ j)) (.error fault) d.slips)[j]? =
          some own := by
        rw [getElem?_giveAll, hown]
        simp
      by_cases hj : j = i
      · subst hj
        obtain rfl : own = slip := Option.some.inj (hown.symm.trans hslip)
        exact follows_of_modify hgiven (.withdraws _ hwithdraws) hgiven
      · have hothers : i ∈ (tray.find? id).toList.filter (· ≠ j) → ∃ s id, d.Waits s id i :=
          fun hi => ⟨own.tray, id, waits_of_mem_found htray hi⟩
        obtain ⟨slip', hslip', hfollows⟩ := follows_of_giveAll hfault hothers hslip
        exact ⟨slip', (List.getElem?_modify_ne _ _ hj).trans hslip', hfollows⟩
  | @failed s _ _ htray hfault =>
      exact follows_of_giveAll hfault (fun hi => ⟨s, waits_of_mem_tickets htray hi⟩) hslip

/-- A slip that was not there is that of a call that has just begun. -/
theorem Proceeds.first (h : d.Proceeds c d') (hnone : d.slips[i]? = none) {slip' : Slip α σ}
    (hslip : d'.slips[i]? = some slip') : slip'.answer = none ∧ slip'.stage = c.first := by
  -- neither moving a slip nor giving an answer makes a slip where there was none
  have hmodify : ∀ {f : Slip α σ → Slip α σ} {slips : List (Slip α σ)} {j : Nat},
      slips[i]? = none → (slips.modify j f)[i]? ≠ some slip' := by
    intro f slips j hslips hcontra
    rw [List.getElem?_modify, hslips] at hcontra
    simp at hcontra
  have hgive : ∀ {tickets : List Nat} {a : Except EvaluatorError α},
      (giveAll tickets a d.slips)[i]? = none := by
    intro tickets a
    rw [getElem?_giveAll, hnone]
    rfl
  cases h with
  | kept => rw [hnone] at hslip; cases hslip
  | begun tray =>
      obtain rfl := List.mem_singleton.1 (mem_of_getElem?_append hnone hslip)
      exact ⟨rfl, rfl⟩
  | opened => rw [hnone] at hslip; cases hslip
  | moved _ _ => exact absurd hslip (hmodify hnone)
  | abandoned _ => exact absurd hslip (hmodify hnone)
  | filed _ _ _ _ _ => exact absurd hslip (hmodify hnone)
  | withdrawn _ _ _ _ => exact absurd hslip (hmodify hgive)
  | failed _ _ => rw [hgive] at hslip; cases hslip

/-! ## Trays -/

/-- What waits after one tray was replaced. -/
theorem waits_set {slips : List (Slip α σ)} {tray : Pending Nat} {s' : Nat}
    (h : Waits { slips, trays := d.trays.set s tray } s' id i) :
    (s' = s ∧ (id, i) ∈ tray.waiting) ∨ (s' ≠ s ∧ d.Waits s' id i) := by
  obtain ⟨tray', htray', hmem⟩ := h
  by_cases hs : s = s'
  · subst hs
    have heq : tray = tray' := by
      have hlt := (List.getElem?_eq_some_iff.1 htray').1
      rw [List.length_set] at hlt
      rw [List.getElem?_set_self hlt] at htray'
      exact Option.some.inj htray'
    exact .inl ⟨rfl, heq ▸ hmem⟩
  · rw [List.getElem?_set_ne hs] at htray'
    exact .inr ⟨fun h => hs h.symm, tray', htray', hmem⟩

/-- Nothing waits in a tray that is new. -/
theorem waits_of_opened {slips : List (Slip α σ)}
    (h : Waits { slips, trays := d.trays ++ [{}] } s id i) : d.Waits s id i := by
  obtain ⟨tray, htray, hmem⟩ := h
  rcases getElem?_of_append htray with hold | ⟨-, rfl⟩
  · exact ⟨tray, hold, hmem⟩
  · cases hmem

theorem waits_set_erase {slips : List (Slip α σ)} {tray : Pending Nat} {s' : Nat} {id' : Int64}
    (htray : d.trays[s]? = some tray)
    (h : Waits { slips, trays := d.trays.set s (tray.erase id) } s' id' i) :
    d.Waits s' id' i ∧ ¬ (s' = s ∧ id' = id) := by
  rcases waits_set h with ⟨rfl, hmem⟩ | ⟨hne, hwaits⟩
  · obtain ⟨hmem, hid⟩ := Pending.mem_erase.1 hmem
    exact ⟨⟨tray, htray, hmem⟩, fun h => hid h.2⟩
  · exact ⟨hwaits, fun h => hne h.1⟩

/-! ## What all steps keep -/

/-- As its slip says, a call may wait in a tray under an id: it has filed there, and has no answer. -/
def Expects (c : Course α σ ω) (d : Desk α σ) (s : Nat) (id : Int64) (i : Nat) : Prop :=
  ∃ slip, d.slips[i]? = some slip ∧ slip.tray = s ∧ slip.answer = none ∧
    (c.standing slip.stage).MayWait id

theorem expects_modify_ne {trays : List (Pending Nat)} {f : Slip α σ → Slip α σ} (hj : j ≠ i)
    (h : d.Expects c s id i) : Expects c { slips := d.slips.modify j f, trays } s id i := by
  obtain ⟨slip, hslip, hrest⟩ := h
  exact ⟨slip, (List.getElem?_modify_ne _ _ hj).trans hslip, hrest⟩

theorem expects_giveAll {trays : List (Pending Nat)} {tickets : List Nat}
    {a : Except EvaluatorError α} (hi : i ∉ tickets) (h : d.Expects c s id i) :
    Expects c { slips := giveAll tickets a d.slips, trays } s id i := by
  obtain ⟨slip, hslip, hrest⟩ := h
  refine ⟨slip, ?_, hrest⟩
  rw [getElem?_giveAll, hslip]
  simp only [Option.map_some, if_neg hi]

/-- Requests are kept apart; a request that waits belongs to a call that filed it and has no answer; and
no call has an answer before it has filed. -/
structure Tidy (c : Course α σ ω) (d : Desk α σ) : Prop where
  orderly : ∀ {s : Nat} {tray : Pending Nat}, d.trays[s]? = some tray → tray.Orderly
  waits : ∀ {s : Nat} {id : Int64} {i : Nat}, d.Waits s id i → d.Expects c s id i
  unfiled : ∀ {i : Nat} {slip : Slip α σ}, d.slips[i]? = some slip →
    c.standing slip.stage = .unfiled → slip.answer = none

namespace Tidy

/-- A call waits in one tray only, and under one id. -/
theorem waits_unique (h : d.Tidy c) {s' : Nat} {id' : Int64} (hw : d.Waits s id i)
    (hw' : d.Waits s' id' i) : s = s' ∧ id = id' := by
  obtain ⟨slip, hslip, hs, -⟩ := h.waits hw
  obtain ⟨slip', hslip', hs', -⟩ := h.waits hw'
  obtain rfl : slip = slip' := Option.some.inj (hslip.symm.trans hslip')
  obtain rfl : s = s' := hs.symm.trans hs'
  obtain ⟨tray, htray, hmem⟩ := hw
  obtain ⟨tray', htray', hmem'⟩ := hw'
  obtain rfl : tray = tray' := Option.some.inj (htray.symm.trans htray')
  exact ⟨rfl, (h.orderly htray).id_eq hmem hmem'⟩

/-- Whoever waits in a tray under an id is found there. -/
theorem find?_of_waits (h : d.Tidy c) {tray : Pending Nat} (htray : d.trays[s]? = some tray)
    (hw : d.Waits s id i) : tray.find? id = some i := by
  obtain ⟨tray', htray', hmem⟩ := hw
  obtain rfl : tray = tray' := Option.some.inj (htray.symm.trans htray')
  exact (h.orderly htray).find?_of_mem hmem

/-- Nothing waits for a call that has not filed, or waits for nothing. -/
theorem mayWait (h : d.Tidy c) (hslip : d.slips[i]? = some slip) (hw : d.Waits s id i) :
    (c.standing slip.stage).MayWait id := by
  obtain ⟨slip', hslip', -, -, hmay⟩ := h.waits hw
  obtain rfl : slip = slip' := Option.some.inj (hslip.symm.trans hslip')
  exact hmay

end Tidy

/-- A desk without calls at which nothing waits. -/
theorem tidy_of_empty (hslips : d.slips = []) (htrays : ∀ tray ∈ d.trays, tray.waiting = []) :
    d.Tidy c := by
  constructor
  · intro s tray htray
    exact Pending.orderly_of_waiting_eq_nil (htrays tray (List.mem_of_getElem? htray))
  · rintro s id i ⟨tray, htray, hmem⟩
    rw [htrays tray (List.mem_of_getElem? htray)] at hmem
    cases hmem
  · intro i slip hslip
    rw [hslips] at hslip
    cases hslip

/-! ## Steps keep a desk tidy -/

/-- A request that may wait still may when its call, without an answer, goes on by itself. -/
theorem mayWait_goes {s s' : σ} (h : c.Goes none s s') (hmay : (c.standing s).MayWait id) :
    (c.standing s').MayWait id := by
  have hpasses := c.passes h
  generalize c.standing s = before at hmay hpasses
  generalize c.standing s' = after at hpasses
  cases hpasses with
  | stays => exact hmay
  | refused => exact hmay.elim
  | forgets => exact fun own hown => by cases hown
  | settles hanswered => exact absurd rfl hanswered

/-- Only a call that has not filed comes to a stage before filing. -/
theorem standing_of_turns {a : Option (Except EvaluatorError α)} {s s' : σ} (h : c.Turns a s s')
    (hs : c.standing s' = .unfiled) : c.standing s = .unfiled := by
  cases h with
  | stays => exact hs
  | abandoned =>
      rw [c.standing_abandoned] at hs
      cases hs
  | goes hgoes =>
      have hpasses := c.passes hgoes
      rw [hs] at hpasses
      generalize c.standing s = before at hpasses
      cases hpasses with
      | stays => rfl
  | files _ hfiles =>
      rw [(c.files hfiles).2] at hs
      cases hs
  | withdraws _ hwithdraws =>
      rw [(c.withdraws hwithdraws).2] at hs
      cases hs

/-- Whatever waits after a step waited before it, and its slip is such as it was or went on by itself;
or it was filed by the step. -/
theorem Proceeds.waits (ht : d.Tidy c) (h : d.Proceeds c d') (hw : d'.Waits s id i) :
    d'.Expects c s id i := by
  cases h with
  | kept => exact ht.waits hw
  | begun tray =>
      obtain ⟨slip, hslip, hrest⟩ := ht.waits (d := d) hw
      exact ⟨slip, getElem?_append_of_some hslip _, hrest⟩
  | opened => exact ht.waits (waits_of_opened hw)
  | @moved j own stage hown hgoes =>
      have hexpects : d.Expects c s id i := ht.waits hw
      by_cases hj : j = i
      · subst hj
        obtain ⟨slip, hslip, hs, hnone, hmay⟩ := hexpects
        obtain rfl : own = slip := Option.some.inj (hown.symm.trans hslip)
        rw [hnone] at hgoes
        exact ⟨own.move stage, by simp [hslip], hs, hnone, mayWait_goes hgoes hmay⟩
      · exact expects_modify_ne hj hexpects
  | abandoned j =>
      have hexpects : d.Expects c s id i := ht.waits hw
      by_cases hj : j = i
      · subst hj
        obtain ⟨slip, hslip, hs, hnone, -⟩ := hexpects
        refine ⟨slip.move c.abandoned, by simp [hslip], hs, hnone, ?_⟩
        show (c.standing c.abandoned).MayWait id
        rw [c.standing_abandoned]
        trivial
      · exact expects_modify_ne hj hexpects
  | @filed j own stage tray newId hown hfiles htray _ hfree =>
      -- whatever waited before is not the call that files, as that one has filed nothing
      have hold : d.Waits s id i → ∀ trays : List (Pending Nat),
          Expects c { slips := d.slips.modify j (Slip.move stage), trays } s id i := by
        intro hw trays
        refine expects_modify_ne ?_ (ht.waits hw)
        rintro rfl
        have hmay := ht.mayWait hown hw
        rw [(c.files hfiles).1] at hmay
        exact hmay
      rcases waits_set hw with ⟨rfl, hmem⟩ | ⟨-, hw⟩
      · rcases List.mem_append.1 hmem with hmem | hmem
        · exact hold ⟨tray, htray, hmem⟩ _
        · obtain ⟨rfl, rfl⟩ : id = newId ∧ i = j := by simpa using hmem
          have hnone : own.answer = none := ht.unfiled hown (c.files hfiles).1
          refine ⟨own.move stage, by simp [hown], rfl, hnone, ?_⟩
          show (c.standing stage).MayWait id
          rw [(c.files hfiles).2]
          intro mine hmine
          simpa using hmine.symm
      · exact hold hw _
  | @withdrawn j own stage tray taken fault hown hwithdraws htray hfault =>
      obtain ⟨hw, hne⟩ := waits_set_erase htray hw
      have hj : j ≠ i := by
        rintro rfl
        obtain ⟨slip, hslip, hs, -, hmay⟩ := ht.waits hw
        obtain rfl : own = slip := Option.some.inj (hown.symm.trans hslip)
        rw [(c.withdraws hwithdraws).1] at hmay
        exact hne ⟨hs.symm, (hmay taken rfl).symm⟩
      -- nor is it the other call whose request goes with the one withdrawn
      have hgiven : i ∉ (tray.find? taken).toList.filter (· ≠ j) := by
        intro hi
        obtain ⟨rfl, rfl⟩ := ht.waits_unique (waits_of_mem_found htray hi) hw
        exact hne ⟨rfl, rfl⟩
      exact expects_modify_ne (d := { d with slips := giveAll _ _ d.slips }) hj
        (expects_giveAll hgiven (ht.waits hw))
  | @failed s' tray fault htray hfault =>
      rcases waits_set hw with ⟨-, hmem⟩ | ⟨hs', hw⟩
      · cases hmem
      · -- whoever waits in this tray does not wait in the one that fails
        have hgiven : i ∉ tray.waiting.map Prod.snd := by
          intro hi
          obtain ⟨other, hother⟩ := waits_of_mem_tickets htray hi
          exact hs' (ht.waits_unique hw hother).1
        exact expects_giveAll hgiven (ht.waits hw)

/-- Only a call that has not filed can come to wait. -/
theorem Proceeds.waited (h : d.Proceeds c d') (hw : d'.Waits s id i) :
    d.Waits s id i ∨ ∃ slip, d.slips[i]? = some slip ∧ c.standing slip.stage = .unfiled := by
  cases h with
  | kept => exact .inl hw
  | begun tray => exact .inl hw
  | opened => exact .inl (waits_of_opened hw)
  | moved _ _ => exact .inl hw
  | abandoned _ => exact .inl hw
  | @filed j own stage tray newId hown hfiles htray _ hfree =>
      rcases waits_set hw with ⟨rfl, hmem⟩ | ⟨-, hw⟩
      · rcases List.mem_append.1 hmem with hmem | hmem
        · exact .inl ⟨tray, htray, hmem⟩
        · obtain ⟨rfl, rfl⟩ : id = newId ∧ i = j := by simpa using hmem
          exact .inr ⟨own, hown, (c.files hfiles).1⟩
      · exact .inl hw
  | withdrawn _ _ htray _ => exact .inl (waits_set_erase htray hw).1
  | failed _ _ =>
      rcases waits_set hw with ⟨-, hmem⟩ | ⟨-, hw⟩
      · cases hmem
      · exact .inl hw

/-- Replacing a tray by an orderly one leaves all trays orderly. -/
theorem Tidy.orderly_set (ht : d.Tidy c) {n : Nat} {tray tray' : Pending Nat} (htray : tray.Orderly)
    (hget : (d.trays.set n tray)[s]? = some tray') : tray'.Orderly := by
  by_cases hn : n = s
  · subst hn
    have hlt := (List.getElem?_eq_some_iff.1 hget).1
    rw [List.length_set] at hlt
    rw [List.getElem?_set_self hlt] at hget
    rwa [← Option.some.inj hget]
  · rw [List.getElem?_set_ne hn] at hget
    exact ht.orderly hget

theorem Proceeds.orderly (ht : d.Tidy c) (h : d.Proceeds c d') {tray' : Pending Nat}
    (htray' : d'.trays[s]? = some tray') : tray'.Orderly := by
  cases h with
  | kept => exact ht.orderly htray'
  | begun tray => exact ht.orderly (d := d) htray'
  | opened =>
      rcases List.mem_append.1 (List.mem_of_getElem? htray') with hmem | hmem
      · obtain ⟨n, hn⟩ := List.getElem?_of_mem hmem
        exact ht.orderly hn
      · obtain rfl : tray' = {} := by simpa using hmem
        exact Pending.orderly_of_waiting_eq_nil rfl
  | moved _ _ => exact ht.orderly (d := d) htray'
  | abandoned _ => exact ht.orderly (d := d) htray'
  | @filed j own stage tray id hown hfiles htray _ hfree =>
      refine ht.orderly_set ((ht.orderly htray).append hfree ?_) htray'
      -- a call that has not filed does not wait
      rintro w hw rfl
      have hmay := ht.mayWait hown ⟨tray, htray, hw⟩
      rw [(c.files hfiles).1] at hmay
      exact hmay
  | withdrawn _ _ htray _ => exact ht.orderly_set ((ht.orderly htray).erase _) htray'
  | failed _ _ => exact ht.orderly_set (Pending.orderly_of_waiting_eq_nil rfl) htray'

theorem Proceeds.tidy (ht : d.Tidy c) (h : d.Proceeds c d') : d'.Tidy c where
  orderly := h.orderly ht
  waits := h.waits ht
  unfiled := by
    intro i slip' hslip' hs'
    cases hslip : d.slips[i]? with
    | none => exact (h.first hslip hslip').1
    | some slip =>
        obtain ⟨other, hother, hfollows⟩ := h.follows hslip
        obtain rfl : other = slip' := Option.some.inj (hother.symm.trans hslip')
        have hs := standing_of_turns hfollows.stage hs'
        -- given a fault, the call would have waited, and so would have filed
        rcases hfollows.answer with hsame | ⟨⟨s, id, hw⟩, -⟩
        · rw [hsame, ht.unfiled hslip hs]
        · have hmay := ht.mayWait hslip hw
          rw [hs] at hmay
          exact hmay.elim

/-! ## Delivery -/

/-- An answer reaches the call that waits for it, and nothing else changes on the slips. -/
theorem Delivers.reaches (ht : d.Tidy c) {a : Except EvaluatorError α} (h : d.Delivers s id a d')
    (hslip : d.slips[i]? = some slip) :
    (d.Waits s id i ∧ slip.answer = none ∧ d'.slips[i]? = some { slip with answer := some a }) ∨
      (¬ d.Waits s id i ∧ d'.slips[i]? = some slip) := by
  obtain ⟨tray, j, htray, hfound, rfl⟩ := h.found
  have hw : d.Waits s id j := ⟨tray, htray, Pending.mem_of_find? hfound⟩
  by_cases hj : j = i
  · subst hj
    obtain ⟨slip', hslip', -, hnone, -⟩ := ht.waits hw
    obtain rfl : slip = slip' := Option.some.inj (hslip.symm.trans hslip')
    refine .inl ⟨hw, hnone, ?_⟩
    simp [hslip, Slip.give, hnone]
  · refine .inr ⟨?_, by simp [hj, hslip]⟩
    intro hwi
    have := ht.find?_of_waits htray hwi
    exact hj (Option.some.inj (hfound.symm.trans this))

theorem Delivers.tidy (ht : d.Tidy c) {a : Except EvaluatorError α} (h : d.Delivers s id a d') :
    d'.Tidy c := by
  obtain ⟨tray, j, htray, hfound, hd'⟩ := h.found
  constructor
  · intro s' tray' htray'
    rw [hd'] at htray'
    exact ht.orderly_set ((ht.orderly htray).erase id) htray'
  · intro s' id' i hw
    rw [hd'] at hw
    obtain ⟨hw, hne⟩ := waits_set_erase htray hw
    obtain ⟨slip, hslip, hs, hnone, hmay⟩ := ht.waits hw
    -- the call that was answered waits under no other id
    rcases h.reaches ht hslip with ⟨hown, -⟩ | ⟨-, hslip'⟩
    · exact absurd (ht.waits_unique hw hown) hne
    · exact ⟨slip, hslip', hs, hnone, hmay⟩
  · intro i slip' hslip' hs'
    cases hslip : d.slips[i]? with
    | none =>
        rw [hd', List.getElem?_modify, hslip] at hslip'
        simp at hslip'
    | some slip =>
        rcases h.reaches ht hslip with ⟨hw, -, hother⟩ | ⟨-, hother⟩
        · obtain rfl := Option.some.inj (hother.symm.trans hslip')
          have hmay := ht.mayWait hslip hw
          have hs : c.standing slip.stage = .unfiled := hs'
          rw [hs] at hmay
          exact hmay.elim
        · obtain rfl := Option.some.inj (hother.symm.trans hslip')
          exact ht.unfiled hslip hs'

theorem Delivers.waited {a : Except EvaluatorError α} (h : d.Delivers s id a d') {s' : Nat}
    {id' : Int64} (hw : d'.Waits s' id' i) : d.Waits s' id' i := by
  obtain ⟨tray, j, htray, -, rfl⟩ := h.found
  exact (waits_set_erase htray hw).1

/-- A delivery takes nothing away from a call that it is not for. -/
theorem Delivers.waits_iff {a : Except EvaluatorError α} (h : d.Delivers s id a d')
    (hnot : ¬ d.Waits s id i) {s' : Nat} {id' : Int64} : d'.Waits s' id' i ↔ d.Waits s' id' i := by
  refine ⟨h.waited, ?_⟩
  rintro ⟨tray', htray', hmem⟩
  obtain ⟨tray, j, htray, -, rfl⟩ := h.found
  by_cases hs : s = s'
  · subst hs
    obtain rfl : tray = tray' := Option.some.inj (htray.symm.trans htray')
    have hid : id' ≠ id := by
      rintro rfl
      exact hnot ⟨tray, htray, hmem⟩
    have hlt := (List.getElem?_eq_some_iff.1 htray).1
    exact ⟨tray.erase id, List.getElem?_set_self hlt, Pending.mem_erase.2 ⟨hmem, hid⟩⟩
  · exact ⟨tray', by rw [List.getElem?_set_ne hs, htray'], hmem⟩

end Desk

end

end Hub

end PklHost
