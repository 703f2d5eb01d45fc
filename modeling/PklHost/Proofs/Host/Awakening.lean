import PklHost.Host.Schedule
import PklHost.Proofs.Hub.Steady

/-!
# Who is given a turn

An action gives a turn to each call that it begins and to each that it answers (`mem_awakened_create` and
its like), and to nobody twice: what it adds to the order of turns is paid by the calls that have no answer
yet and by those that have just begun (`length_awakened`).
-/

namespace PklHost.Host

open Hub (Action Caller)

/-! ## New places -/

section

variable {α : Type} {given : α → Bool} {before after : List α}

theorem newPlaces_nil (given : α → Bool) (after : List α) :
    newPlaces given [] after = List.range after.length := by
  unfold newPlaces
  rw [List.filter_eq_self]
  intro i hi
  have hat := List.getElem?_eq_getElem (List.mem_range.1 hi)
  rw [hat]
  rfl

theorem newPlaces_cons (given : α → Bool) (x y : α) (before after : List α) :
    newPlaces given (x :: before) (y :: after) =
      (if !given x && given y then [0] else []) ++ (newPlaces given before after).map (· + 1) := by
  unfold newPlaces
  rw [List.length_cons, List.range_succ_eq_map, List.filter_cons, List.filter_map]
  dsimp only [List.getElem?_cons_zero]
  split <;> rfl

/-- A place is new if nothing stood there, or something that was not given and now is. -/
theorem mem_newPlaces {i : Nat} {y : α} (hy : after[i]? = some y)
    (hnew : ∀ x, before[i]? = some x → given x = false ∧ given y = true) :
    i ∈ newPlaces given before after := by
  unfold newPlaces
  refine List.mem_filter.2 ⟨List.mem_range.2 (List.getElem?_eq_some_iff.1 hy).1, ?_⟩
  rw [hy]
  cases hx : before[i]? with
  | none => rfl
  | some x =>
      obtain ⟨hbefore, hafter⟩ := hnew x hx
      dsimp only
      rw [hbefore, hafter]
      rfl

/-- New places are paid by what was not given before, and by what was not there. -/
theorem length_newPlaces (given : α → Bool) (hlength : before.length ≤ after.length)
    (hkeeps : ∀ (i : Nat) (x y : α), before[i]? = some x → after[i]? = some y →
      given x = true → given y = true) :
    (newPlaces given before after).length + after.countP (fun x => !given x) + 2 * before.length ≤
      before.countP (fun x => !given x) + 2 * after.length := by
  induction before generalizing after with
  | nil =>
      have hle := List.countP_le_length (p := fun x => !given x) (l := after)
      rw [newPlaces_nil, List.length_range, List.length_nil, List.countP_nil]
      omega
  | cons x before ih =>
      cases after with
      | nil => cases hlength
      | cons y after =>
          have hrest := ih (Nat.le_of_succ_le_succ hlength) fun i => hkeeps (i + 1)
          have hfirst := hkeeps 0 x y rfl rfl
          rw [newPlaces_cons, List.length_append, List.length_map, List.countP_cons, List.countP_cons,
            List.length_cons, List.length_cons]
          cases hx : given x <;> cases hy : given y
          · simp only [Bool.not_false, Bool.true_and, Bool.false_eq_true, if_false, if_true,
              List.length_nil]
            omega
          · simp only [Bool.not_false, Bool.not_true, Bool.true_and, Bool.false_eq_true, if_false,
              if_true, List.length_singleton]
            omega
          · rw [hfirst hx] at hy
            cases hy
          · simp only [Bool.not_true, Bool.false_and, Bool.false_eq_true, if_false, List.length_nil]
            omega

end

/-! ## What an action adds to the order of turns -/

section

variable {h : Hub} {a : Action} {i : Nat}

/-- How many calls have no answer yet. -/
def unheard (h : Hub) : Nat :=
  h.creates.countP (fun call => !call.answer.isSome) +
    h.evaluates.countP (fun call => !call.answer.isSome)

theorem length_awakened (hsound : h.Sound) (a : Action) :
    (awakened h (h.step a)).length + unheard (h.step a) +
        (2 * h.creates.length + 2 * h.evaluates.length + h.errands.length) ≤
      unheard h + (2 * (h.step a).creates.length + 2 * (h.step a).evaluates.length +
        (h.step a).errands.length) := by
  have hcreates := length_newPlaces (fun call : Hub.CreateCall => call.answer.isSome)
    (h.length_creates_le a) (by
      intro i call call' hcall hcall' hheard
      obtain ⟨x, hx⟩ := Option.isSome_iff_exists.1 hheard
      obtain ⟨other, hother, hkeeps⟩ := Hub.create_keeps hsound a hcall
      obtain rfl : other = call' := Option.some.inj (hother.symm.trans hcall')
      exact Option.isSome_iff_exists.2 ⟨x, hkeeps x hx⟩)
  have hevaluates := length_newPlaces (fun call : Hub.EvaluateCall => call.answer.isSome)
    (h.length_evaluates_le a) (by
      intro i call call' hcall hcall' hheard
      obtain ⟨x, hx⟩ := Option.isSome_iff_exists.1 hheard
      obtain ⟨other, hother, -, hkeeps⟩ := Hub.evaluate_keeps hsound a hcall
      obtain rfl : other = call' := Option.some.inj (hother.symm.trans hcall')
      exact Option.isSome_iff_exists.2 ⟨x, hkeeps x hx⟩)
  have herrands := length_newPlaces (fun _ : Hub.Errand => false) (h.length_errands_le a)
    (fun _ _ _ _ _ hfalse => hfalse)
  have hall : ∀ l : List Hub.Errand, l.countP (fun _ => !false) = l.length :=
    fun l => congrFun List.countP_true l
  rw [hall, hall] at herrands
  unfold awakened unheard
  rw [List.length_append, List.length_append, List.length_map, List.length_map, List.length_map]
  omega

theorem mem_awakened_create {call' : Hub.CreateCall} (hcall' : (h.step a).creates[i]? = some call')
    (hnew : ∀ call, h.creates[i]? = some call →
      call.answer.isSome = false ∧ call'.answer.isSome = true) :
    .create i ∈ awakened h (h.step a) :=
  List.mem_append_left _ (List.mem_append_left _ (List.mem_map_of_mem (mem_newPlaces hcall' hnew)))

theorem mem_awakened_evaluate {call' : Hub.EvaluateCall}
    (hcall' : (h.step a).evaluates[i]? = some call')
    (hnew : ∀ call, h.evaluates[i]? = some call →
      call.answer.isSome = false ∧ call'.answer.isSome = true) :
    .evaluate i ∈ awakened h (h.step a) :=
  List.mem_append_left _ (List.mem_append_right _ (List.mem_map_of_mem (mem_newPlaces hcall' hnew)))

theorem mem_awakened_errand {e : Hub.Errand} (he : (h.step a).errands[i]? = some e)
    (hnew : h.errands[i]? = none) : .errand i ∈ awakened h (h.step a) := by
  refine List.mem_append_right _ (List.mem_map_of_mem (mem_newPlaces he fun other hother => ?_))
  rw [hnew] at hother
  cases hother

end

/-! ## The host after an action -/

section

variable {host : Host} {a : Action}

@[simp] theorem hub_act (a : Action) (host : Host) : (host.act a).hub = host.hub.step a := rfl

@[simp] theorem jobs_act (a : Action) (host : Host) : (host.act a).jobs = host.jobs := rfl

@[simp] theorem handles_act (a : Action) (host : Host) : (host.act a).handles = host.handles := rfl

/-- Whoever is in the order of turns stays there. -/
theorem mem_queue_act {who : Caller} (hwho : who ∈ host.queue) (a : Action) :
    who ∈ (host.act a).queue := by
  show who ∈ if begins a then _ else _
  split
  · exact List.mem_append_right _ hwho
  · exact List.mem_append_left _ hwho

theorem mem_queue_of_awakened {who : Caller} (hwho : who ∈ awakened host.hub (host.hub.step a)) :
    who ∈ (host.act a).queue := by
  show who ∈ if begins a then _ else _
  split
  · exact List.mem_append_left _ hwho
  · exact List.mem_append_right _ hwho

theorem length_queue_act (a : Action) (host : Host) :
    (host.act a).queue.length =
      host.queue.length + (awakened host.hub (host.hub.step a)).length := by
  show (if begins a then _ else _ : List Caller).length = _
  split
  · rw [List.length_append, Nat.add_comm]
  · rw [List.length_append]

/-- Whoever is first stays so, unless a user begins something. -/
theorem head?_queue_act {who : Caller} (hfirst : host.queue.head? = some who)
    (ha : begins a = false) : (host.act a).queue.head? = some who := by
  show (if begins a then _ else _ : List Caller).head? = _
  rw [ha, if_neg Bool.false_ne_true, List.head?_append, hfirst]
  rfl

end

end PklHost.Host
