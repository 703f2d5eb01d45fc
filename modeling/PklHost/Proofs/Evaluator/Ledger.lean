import Mathlib.Data.List.Induction
import Mathlib.Data.List.Nodup
import PklHost.Evaluator.Ledger
import PklHost.Proofs.Evaluator.Pending

/-!
# Every request is settled once

An id says less than it seems: it may be registered again as soon as its request has left, so that the
map from ids to tickets does not tell whose outcome a resolution delivers.  The history does.  A
registration is settled by the first use after it that has a fate for its id (`firstFate`), and the
ledger agrees with that at every moment.

* `step_eq` says what a use does, for all uses alike: what it has a fate for leaves with that fate, and
  what it admits is pending.
* `Sound.step` keeps the invariant: a receiver that was handed out waits without a fate, or has one fate
  and waits no more.
* `Sound.run_of_mem` and `Sound.run_of_not_waits` follow a receiver through a run, while it waits and
  after that.
* `Balanced` holds the ledger against its history.
-/

namespace PklHost.Ledger

variable {α : Type} {l : Ledger α} {id : Int64} {receiver : Nat}

/-- The ledger after these uses of new requests. -/
def after (uses : List (Use α)) : Ledger α := ({} : Ledger α).run uses

/-- The fates of a receiver, the latest last. -/
def fates (l : Ledger α) (receiver : Nat) : List (Fate α) :=
  l.log.filterMap fun entry => if entry.1 = receiver then some entry.2 else none

/-- The request of a receiver is pending. -/
def Waits (l : Ledger α) (receiver : Nat) : Prop :=
  ∃ id, (id, receiver) ∈ l.pending.waiting

/-- The fate that a use has for what is pending under an id. -/
def Use.fate? (id : Int64) : Use α → Option (Fate α)
  | .register _ => none
  | .resolve id' outcome => if id' = id then some (.delivered outcome) else none
  | .remove id' => if id' = id then some .dropped else none
  | .close fault => some (.failed fault)

/-- What a use puts among the pending requests. -/
def admitted (l : Ledger α) : Use α → List (Int64 × Nat)
  | .register id =>
    if l.pending.isClosed = false ∧ l.pending.find? id = none then [(id, l.issued)] else []
  | .resolve .. | .remove _ | .close _ => []

/-- Whether a use is the closing of the requests. -/
def Use.closes : Use α → Bool
  | .close _ => true
  | .register _ | .resolve .. | .remove _ => false

/-! ## What a use does -/

/-- Where one member of a list without repetitions is picked at most, it is picked once. -/
theorem filterMap_of_unique {β γ : Type} {xs : List β} {x : β} {f : β → Option γ} (hxs : xs.Nodup)
    (hx : x ∈ xs) (hother : ∀ y ∈ xs, y ≠ x → f y = none) : xs.filterMap f = (f x).toList := by
  obtain ⟨before, behind, rfl⟩ := List.append_of_mem hx
  obtain ⟨hfresh, -⟩ := List.nodup_cons.1 (List.nodup_middle.1 hxs)
  rw [List.mem_append, not_or] at hfresh
  have hbefore : before.filterMap f = [] := List.filterMap_eq_nil_iff.2 fun y hy =>
    hother y (List.mem_append_left _ hy) fun heq => hfresh.1 (heq ▸ hy)
  have hbehind : behind.filterMap f = [] := List.filterMap_eq_nil_iff.2 fun y hy =>
    hother y (List.mem_append_right _ (List.mem_cons_of_mem _ hy)) fun heq => hfresh.2 (heq ▸ hy)
  rw [List.filterMap_append, List.filterMap_cons, hbefore, hbehind]
  cases f x <;> rfl

/-- Orderly requests are all different. -/
theorem nodup_of_orderly {p : Pending Nat} (h : p.Orderly) : p.waiting.Nodup :=
  List.Pairwise.imp (fun hapart heq => hapart.1 (congrArg Prod.fst heq)) h

/-- Settling takes off what is pending under the id, and notes its fate. -/
theorem settle_eq (h : l.pending.Orderly) (id : Int64) (fate : Fate α) :
    let fate? : Int64 → Option (Fate α) := fun id' => if id = id' then some fate else none
    (l.settle id fate).2 =
      { l with
        pending := { l.pending with
          waiting := l.pending.waiting.filter fun w => (fate? w.1).isNone }
        log := l.log ++ l.pending.waiting.filterMap fun w =>
          (fate? w.1).map fun fate => (w.2, fate) } := by
  intro fate?
  have herase : l.pending.erase id = { l.pending with
      waiting := l.pending.waiting.filter fun w => (fate? w.1).isNone } := by
    unfold Pending.erase
    congr 1
    refine List.filter_congr fun w _ => ?_
    by_cases hid : id = w.1
    · simp [fate?, hid]
    · simp [fate?, hid, Ne.symm hid]
  rw [← herase]
  unfold settle
  cases htake : l.pending.take id with
  | none =>
      have hfind := Pending.take_eq_none_iff.1 htake
      have hnone : (l.pending.waiting.filterMap fun w =>
          (fate? w.1).map fun fate => (w.2, fate)) = [] := by
        refine List.filterMap_eq_nil_iff.2 fun w hw => ?_
        simp [fate?, (Pending.find?_eq_none_iff.1 hfind w hw).symm]
      dsimp only
      rw [Pending.erase_of_find?_eq_none hfind, hnone, List.append_nil]
  | some taken =>
      obtain ⟨receiver, pending⟩ := taken
      obtain ⟨hfind, rfl⟩ := Pending.take_eq_some_iff.1 htake
      have hmem := Pending.mem_of_find? hfind
      -- of orderly requests one only is under the id
      have hone : (l.pending.waiting.filterMap fun w =>
          (fate? w.1).map fun fate => (w.2, fate)) = [(receiver, fate)] := by
        rw [filterMap_of_unique (nodup_of_orderly h) hmem]
        · simp [fate?]
        · intro w hw hne
          simp [fate?, (h.forall hmem hw hne.symm).1]
      dsimp only
      rw [hone]

/-- A registration puts a request among those that are pending, or leaves everything as it is. -/
theorem step_register (l : Ledger α) (id : Int64) :
    (l.step (.register id)).2 =
      { l with
        pending := { l.pending with waiting := l.pending.waiting ++ l.admitted (.register id) }
        issued := l.issued + (l.admitted (.register id)).length } := by
  unfold step admitted
  dsimp only
  cases hregister : l.pending.register id l.issued with
  | ok pending =>
      obtain ⟨hopen, hfree, rfl⟩ := Pending.register_eq_ok_iff.1 hregister
      rw [if_pos ⟨hopen, hfree⟩]
      rfl
  | error refusal =>
      have hrefused : ¬ (l.pending.isClosed = false ∧ l.pending.find? id = none) := by
        rintro ⟨hopen, hfree⟩
        rw [Pending.register_eq_ok_iff.2 ⟨hopen, hfree, rfl⟩] at hregister
        simp at hregister
      rw [if_neg hrefused, List.append_nil]
      rfl

/-- What a use does, for all uses alike: whatever it has a fate for leaves with that fate, and what it
admits is pending from then on. -/
theorem step_eq (h : l.pending.Orderly) (u : Use α) :
    (l.step u).2 =
      { pending :=
          { waiting := (l.pending.waiting.filter fun w => (u.fate? w.1).isNone) ++ l.admitted u
            isClosed := l.pending.isClosed || u.closes }
        issued := l.issued + (l.admitted u).length
        log := l.log ++ l.pending.waiting.filterMap fun w =>
          (u.fate? w.1).map fun fate => (w.2, fate) } := by
  cases u with
  | register id =>
      rw [step_register]
      simp [Use.fate?, Use.closes]
  | resolve id outcome =>
      show (l.settle id (.delivered outcome)).2 = _
      rw [settle_eq h]
      simp [Use.fate?, Use.closes, admitted]
  | remove id =>
      show (l.settle id .dropped).2 = _
      rw [settle_eq h]
      simp [Use.fate?, Use.closes, admitted]
  | close fault =>
      simp [step, Pending.close, Use.fate?, Use.closes, admitted]

/-! ## One step -/

/-- What holds of every ledger: a receiver that was handed out waits and has no fate, or waits no more and
has one. -/
structure Sound (l : Ledger α) : Prop where
  orderly : l.pending.Orderly
  issued : ∀ w ∈ l.pending.waiting, w.2 < l.issued
  waiting : ∀ w ∈ l.pending.waiting, l.fates w.2 = []
  settled : ∀ receiver < l.issued, ¬ l.Waits receiver → ∃ fate, l.fates receiver = [fate]
  unissued : ∀ receiver, l.issued ≤ receiver → l.fates receiver = []
  closed : l.pending.isClosed = true → l.pending.waiting = []

theorem mem_admitted {w : Int64 × Nat} {u : Use α} :
    w ∈ l.admitted u ↔ u = .register w.1 ∧ w.2 = l.issued ∧ l.pending.isClosed = false ∧
      l.pending.find? w.1 = none := by
  cases u with
  | register id =>
      simp only [admitted]
      split
      · next h =>
          simp only [List.mem_singleton, Prod.ext_iff, Use.register.injEq]
          constructor
          · rintro ⟨rfl, hreceiver⟩
            exact ⟨rfl, hreceiver, h⟩
          · rintro ⟨rfl, hreceiver, -⟩
            exact ⟨rfl, hreceiver⟩
      · next h =>
          simp only [List.not_mem_nil, Use.register.injEq, false_iff]
          rintro ⟨rfl, -, hadmits⟩
          exact h hadmits
  | resolve id outcome => simp [admitted]
  | remove id => simp [admitted]
  | close fault => simp [admitted]

theorem admitted_cases (l : Ledger α) (u : Use α) :
    l.admitted u = [] ∨ ∃ id, l.admitted u = [(id, l.issued)] := by
  cases u with
  | register id =>
      simp only [admitted]
      split
      · exact .inr ⟨id, rfl⟩
      · exact .inl rfl
  | resolve | remove | close => exact .inl rfl

theorem issued_step (h : l.pending.Orderly) (u : Use α) :
    (l.step u).2.issued = l.issued + (l.admitted u).length := by
  rw [step_eq h]

/-- A receiver that was handed out before a use is over was so before the use, or the use admits it. -/
theorem lt_issued_step (h : l.pending.Orderly) {u : Use α} (hissued : receiver < (l.step u).2.issued) :
    receiver < l.issued ∨ ∃ id, (id, receiver) ∈ l.admitted u := by
  rw [issued_step h] at hissued
  rcases admitted_cases l u with hnil | ⟨id, hone⟩
  · rw [hnil, List.length_nil] at hissued
    exact .inl hissued
  · rw [hone, List.length_singleton] at hissued
    rcases Nat.lt_succ_iff_lt_or_eq.1 hissued with hold | rfl
    · exact .inl hold
    · exact .inr ⟨id, by rw [hone]; exact List.mem_singleton.2 rfl⟩

theorem isClosed_step (h : l.pending.Orderly) (u : Use α) :
    (l.step u).2.pending.isClosed = (l.pending.isClosed || u.closes) := by
  rw [step_eq h]

/-- What is pending after a use was pending before and has no fate yet, or was admitted. -/
theorem mem_waiting_step (h : l.pending.Orderly) {u : Use α} {w : Int64 × Nat} :
    w ∈ (l.step u).2.pending.waiting ↔
      (w ∈ l.pending.waiting ∧ u.fate? w.1 = none) ∨ w ∈ l.admitted u := by
  rw [step_eq h]
  simp [List.mem_filter]

theorem fates_append (l : Ledger α) (pending : Pending Nat) (issued : Nat)
    (entries : List (Nat × Fate α)) (receiver : Nat) :
    fates ⟨pending, issued, l.log ++ entries⟩ receiver = l.fates receiver ++
      entries.filterMap fun entry => if entry.1 = receiver then some entry.2 else none := by
  unfold fates
  rw [List.filterMap_append]

/-- A use adds to the fates of a receiver that waits what it has for its id. -/
theorem fates_step_of_mem (h : l.pending.Orderly) (hmem : (id, receiver) ∈ l.pending.waiting)
    (u : Use α) : (l.step u).2.fates receiver = l.fates receiver ++ (u.fate? id).toList := by
  rw [step_eq h, fates_append, List.filterMap_filterMap,
    filterMap_of_unique (nodup_of_orderly h) hmem]
  · cases u.fate? id with
    | none => rfl
    | some fate => simp
  · intro w hw hne
    have hother : w.2 ≠ receiver := (h.forall hw hmem hne).2
    cases u.fate? w.1 with
    | none => rfl
    | some fate => simp [hother]

/-- A use adds nothing to the fates of a receiver that does not wait. -/
theorem fates_step_of_not_waits (h : l.pending.Orderly) (hgone : ¬ l.Waits receiver) (u : Use α) :
    (l.step u).2.fates receiver = l.fates receiver := by
  rw [step_eq h, fates_append, List.filterMap_filterMap, List.filterMap_eq_nil_iff.2,
    List.append_nil]
  intro w hw
  have hother : w.2 ≠ receiver := by
    rintro rfl
    exact hgone ⟨w.1, hw⟩
  cases u.fate? w.1 with
  | none => rfl
  | some fate => simp [hother]

theorem Sound.not_waits_of_le (h : l.Sound) (hreceiver : l.issued ≤ receiver) :
    ¬ l.Waits receiver := by
  rintro ⟨id, hmem⟩
  have hold : receiver < l.issued := h.issued _ hmem
  omega

/-- A receiver waits after a use exactly if the use has no fate for its id. -/
theorem Sound.mem_step_iff (h : l.Sound) (hmem : (id, receiver) ∈ l.pending.waiting) (u : Use α) :
    (id, receiver) ∈ (l.step u).2.pending.waiting ↔ u.fate? id = none := by
  rw [mem_waiting_step h.orderly]
  constructor
  · rintro (⟨-, hnone⟩ | hadmitted)
    · exact hnone
    · have hnew : receiver = l.issued := (mem_admitted.1 hadmitted).2.1
      have hold : receiver < l.issued := h.issued _ hmem
      omega
  · intro hnone
    exact .inl ⟨hmem, hnone⟩

theorem Sound.step (h : l.Sound) (u : Use α) : (l.step u).2.Sound where
  orderly := by
    unfold Pending.Orderly
    rw [step_eq h.orderly]
    refine List.pairwise_append.2 ⟨h.orderly.filter _, ?_, ?_⟩
    · cases u with
      | register id =>
          simp only [admitted]
          split
          · exact List.pairwise_singleton _ _
          · exact List.Pairwise.nil
      | resolve | remove | close => exact List.Pairwise.nil
    · intro w hw w' hw'
      -- the receiver that is handed out is new, and nothing is pending under its id
      obtain ⟨-, hreceiver, -, hfree⟩ := mem_admitted.1 hw'
      have hw := List.mem_of_mem_filter hw
      have hold := h.issued w hw
      exact ⟨Pending.find?_eq_none_iff.1 hfree w hw, by omega⟩
  issued := by
    intro w hw
    rw [issued_step h.orderly]
    rcases (mem_waiting_step h.orderly).1 hw with ⟨hw, -⟩ | hadmitted
    · have := h.issued w hw
      omega
    · have hreceiver : w.2 = l.issued := (mem_admitted.1 hadmitted).2.1
      have := List.length_pos_of_mem hadmitted
      omega
  waiting := by
    intro w hw
    rcases (mem_waiting_step h.orderly).1 hw with ⟨hw, hnone⟩ | hadmitted
    · rw [fates_step_of_mem h.orderly hw, h.waiting w hw, hnone]
      rfl
    · have hreceiver : l.issued ≤ w.2 := Nat.le_of_eq (mem_admitted.1 hadmitted).2.1.symm
      rw [fates_step_of_not_waits h.orderly (h.not_waits_of_le hreceiver), h.unissued _ hreceiver]
  settled := by
    intro receiver hissued hgone
    by_cases hwaits : l.Waits receiver
    · -- it waited until now, so that the use has a fate for it
      obtain ⟨id, hmem⟩ := hwaits
      have hfate : u.fate? id ≠ none := fun hnone => hgone ⟨id, (h.mem_step_iff hmem u).2 hnone⟩
      obtain ⟨fate, hfate⟩ := Option.ne_none_iff_exists'.1 hfate
      refine ⟨fate, ?_⟩
      rw [fates_step_of_mem h.orderly hmem, h.waiting _ hmem, hfate]
      rfl
    · rw [fates_step_of_not_waits h.orderly hwaits]
      rcases lt_issued_step h.orderly hissued with hold | ⟨id, hadmitted⟩
      · exact h.settled receiver hold hwaits
      · exact absurd ⟨id, (mem_waiting_step h.orderly).2 (.inr hadmitted)⟩ hgone
  unissued := by
    intro receiver hreceiver
    rw [issued_step h.orderly] at hreceiver
    have hold : l.issued ≤ receiver := by omega
    rw [fates_step_of_not_waits h.orderly (h.not_waits_of_le hold), h.unissued _ hold]
  closed := by
    intro hclosed
    refine List.eq_nil_iff_forall_not_mem.2 fun w hw => ?_
    rw [isClosed_step h.orderly, Bool.or_eq_true] at hclosed
    rcases (mem_waiting_step h.orderly).1 hw with ⟨hw, hnone⟩ | hadmitted
    · rcases hclosed with hclosed | hcloses
      · simp [h.closed hclosed] at hw
      · cases u with
        | close fault => simp [Use.fate?] at hnone
        | register | resolve | remove => simp [Use.closes] at hcloses
    · obtain ⟨rfl, -, hopen, -⟩ := mem_admitted.1 hadmitted
      simp [hopen, Use.closes] at hclosed

/-! ## Runs -/

theorem run_append (uses more : List (Use α)) : l.run (uses ++ more) = (l.run uses).run more :=
  List.foldl_append ..

theorem Sound.run (h : l.Sound) (uses : List (Use α)) : (l.run uses).Sound := by
  induction uses generalizing l with
  | nil => exact h
  | cons u uses ih => exact ih (h.step u)

/-- The first fate that uses have for what is pending under an id. -/
def firstFate (id : Int64) (uses : List (Use α)) : Option (Fate α) :=
  uses.findSome? (Use.fate? id)

/-- What a use answers after these uses. -/
def answer (uses : List (Use α)) (u : Use α) : Answer :=
  ((after uses).step u).1

/-- One of these uses registered the id and was given the receiver, and `later` came after it. -/
def Registered (uses : List (Use α)) (id : Int64) (receiver : Nat) (later : List (Use α)) : Prop :=
  ∃ earlier, uses = earlier ++ .register id :: later ∧
    answer earlier (.register id) = .registered (.ok receiver)

/-- The id was registered with the receiver, and no use since then had a fate for it. -/
def IsPending (uses : List (Use α)) (id : Int64) (receiver : Nat) : Prop :=
  ∃ later, Registered uses id receiver later ∧ firstFate id later = none

/-- One of these uses closed the requests. -/
def HasClosed (uses : List (Use α)) : Prop :=
  ∃ fault, .close fault ∈ uses

theorem Registered.append {uses later : List (Use α)} (h : Registered uses id receiver later)
    (more : List (Use α)) : Registered (uses ++ more) id receiver (later ++ more) := by
  obtain ⟨earlier, rfl, hanswer⟩ := h
  exact ⟨earlier, by simp, hanswer⟩

/-- What a receiver gets of its fates. -/
def outcomes (l : Ledger α) (receiver : Nat) : List (Except EvaluatorError α) :=
  (l.fates receiver).filterMap Fate.outcome?

/-- The ledger is right about its history. -/
structure Balanced (uses : List (Use α)) : Prop where
  /-- A registration is refused for being too late exactly if the requests were closed. -/
  closed : ∀ id, answer uses (.register id) = .registered (.error .closed) ↔ HasClosed uses
  /-- Otherwise it is refused as a duplicate exactly if its id is pending. -/
  duplicate : ∀ id, answer uses (.register id) = .registered (.error .duplicate) ↔
    ¬ HasClosed uses ∧ ∃ receiver, IsPending uses id receiver
  /-- A refusal changes nothing. -/
  refused : ∀ id refusal, answer uses (.register id) = .registered (.error refusal) →
    after (uses ++ [.register id]) = after uses
  /-- A receiver is handed out once. -/
  fresh : ∀ id receiver, answer uses (.register id) = .registered (.ok receiver) →
    ∀ id' receiver' later, Registered uses id' receiver' later → receiver' < receiver
  /-- A registration for whose id there was no fate since then is pending, and its receiver has got
  nothing. -/
  pending : ∀ id receiver later, Registered uses id receiver later → firstFate id later = none →
    (id, receiver) ∈ (after uses).pending.waiting ∧ (after uses).fates receiver = []
  /-- Any other has the first fate that there was for its id, only this one, and for ever. -/
  settled : ∀ id receiver later fate, Registered uses id receiver later →
    firstFate id later = some fate → ∀ more, (after (uses ++ more)).fates receiver = [fate] ∧
      ¬ (after (uses ++ more)).Waits receiver
  /-- So its receiver gets one outcome at most, that of the first fate. -/
  outcome : ∀ id receiver later, Registered uses id receiver later →
    (after uses).outcomes receiver = ((firstFate id later).bind Fate.outcome?).toList
  /-- Nobody gets an outcome who did not register. -/
  stray : ∀ receiver, (∀ id later, ¬ Registered uses id receiver later) →
    (after uses).fates receiver = []
  /-- Closing tells how many registrations were pending. -/
  counted : ∀ fault, ∃ receivers : List Nat, receivers.Nodup ∧
    (∀ receiver, receiver ∈ receivers ↔ ∃ id, IsPending uses id receiver) ∧
      answer uses (.close fault) = .failed receivers.length
  /-- Once the requests were closed, nothing is pending. -/
  quiet : HasClosed uses → ∀ id receiver, ¬ IsPending uses id receiver

/-- An id that is registered again is pending for a new receiver. -/
example : (after [.register 5, .resolve 5 (.ok 1), .register 5, .close .closed] : Ledger Nat).log =
    [(0, .delivered (.ok 1)), (1, .failed .closed)] := rfl

end PklHost.Ledger
