import Mathlib.Data.List.Induction
import PklHost.Proofs.Hub.Runs

/-!
# First replies and returns

Of a run one can say which message was the first reply to a call, and by which action the call returned.
A call returns once, since a call that is over stays so (`Counter.returns_once`).  It has the answer of the
first reply to it if that leaves it deaf, so that nothing can be delivered to it any more (`first_reply`).
-/

namespace PklHost.Hub

variable {h : Hub}

/-- In a run, `m` is the first message that the loop was done with while it was a reply. -/
def FirstReply {μ : Type} (Reply : μ → Hub → Prop) (h : Hub) (actions : List Action) (m : μ) : Prop :=
  ∃ before after, actions = before ++ .loop :: after ∧ Reply m (h.run before) ∧
    ∀ past between m', before = past ++ .loop :: between → ¬ Reply m' (h.run past)

/-- In a run, a call returns by the action that comes after some of the others. -/
def Returns {ω : Type} (outcome? : Hub → Option ω) (h : Hub) (actions before : List Action) (o : ω) :
    Prop :=
  ∃ a after, actions = before ++ a :: after ∧ outcome? (h.run before) = none ∧
    outcome? (h.run (before ++ [a])) = some o

/-! ## Calls return once -/

theorem returns_prefix {ω : Type} {outcome? : Hub → Option ω} {actions before past after : List Action}
    {o : ω} (hreturns : Returns outcome? h actions before o) (hactions : actions = past ++ after)
    (hlt : before.length < past.length) :
    ∃ a rest, past = before ++ a :: rest ∧ outcome? (h.run (before ++ [a])) = some o := by
  obtain ⟨a, later, hsplit, -, hsome⟩ := hreturns
  -- the longer of two prefixes of one run extends the shorter
  rcases List.append_eq_append_iff.1 (hsplit.symm.trans hactions) with
    ⟨more, hpast, hmore⟩ | ⟨more, hbefore, -⟩
  · cases more with
    | nil =>
        rw [hpast, List.append_nil] at hlt
        omega
    | cons b rest =>
        obtain ⟨rfl, -⟩ := List.cons.inj hmore
        exact ⟨a, rest, hpast, hsome⟩
  · rw [hbefore, List.length_append] at hlt
    omega

/-- How a hub serves the calls of one kind. -/
structure Counter (α σ ω : Type) where
  course : Course α σ ω
  desk : Hub → Desk α σ
  Source : Hub → Action → Nat → Int64 → Except EvaluatorError α → Prop
  tidy : ∀ {h : Hub}, h.Sound → (desk h).Tidy course
  steps : ∀ {h : Hub}, h.Sound → ∀ a, (desk h).Steps course (Source h a) (desk (h.step a))

namespace Counter

variable {α σ ω : Type} {k : Counter α σ ω} {i : Nat}

def outcome? (k : Counter α σ ω) (i : Nat) (h : Hub) : Option ω :=
  (k.desk h).outcome? k.course i

/-- The call is over and nothing waits for it, in a sound hub. -/
def Through (k : Counter α σ ω) (i : Nat) (h : Hub) : Prop :=
  h.Sound ∧ (k.desk h).Through k.course i

theorem Through.step (hthrough : k.Through i h) (a : Action) : k.Through i (h.step a) := by
  obtain ⟨hsound, hthrough⟩ := hthrough
  exact ⟨hsound.step a, (k.steps hsound a).through (k.tidy hsound) hthrough⟩

theorem through_of_outcome (hsound : h.Sound) {o : ω} (ho : k.outcome? i h = some o) :
    k.Through i h :=
  ⟨hsound, (k.tidy hsound).through_of_outcome ho⟩

theorem Through.outcome (hthrough : k.Through i h) {a : Action} {o : ω}
    (ho : k.outcome? i (h.step a) = some o) : k.outcome? i h = some o := by
  obtain ⟨hsound, hthrough⟩ := hthrough
  exact (k.steps hsound a).outcome_of_through (k.tidy hsound) hthrough ho

/-- From its return on, a call is over and nothing waits for it. -/
theorem through_of_returns (hsound : h.Sound) {actions before past after : List Action} {o : ω}
    (hreturns : Returns (k.outcome? i) h actions before o) (hactions : actions = past ++ after)
    (hlt : before.length < past.length) : k.Through i (h.run past) := by
  obtain ⟨a, rest, rfl, hsome⟩ := returns_prefix hreturns hactions hlt
  have hsplit : before ++ a :: rest = (before ++ [a]) ++ rest := by simp
  rw [hsplit, run_append]
  exact run_keeps (fun hthrough => hthrough.step) (through_of_outcome (hsound.run _) hsome) rest

/-- A call returns once. -/
theorem returns_once (hsound : h.Sound) {actions before before' : List Action} {o o' : ω}
    (hreturns : Returns (k.outcome? i) h actions before o)
    (hreturns' : Returns (k.outcome? i) h actions before' o') : before = before' := by
  -- of two returns, the later one would be that of a call that has returned
  have hlater : ∀ {before before' : List Action} {o o' : ω},
      Returns (k.outcome? i) h actions before o → Returns (k.outcome? i) h actions before' o' →
      ¬ before.length < before'.length := by
    rintro before before' o o' hfirst ⟨a, after, hsplit, hnone, hsome⟩ hlt
    have hthrough := through_of_returns hsound hfirst hsplit hlt
    rw [run_snoc] at hsome
    rw [hthrough.outcome hsome] at hnone
    cases hnone
  have hlength : before.length = before'.length := by
    have := hlater hreturns hreturns'
    have := hlater hreturns' hreturns
    omega
  obtain ⟨a, after, hsplit, -⟩ := hreturns
  obtain ⟨a', after', hsplit', -⟩ := hreturns'
  exact (List.append_inj (hsplit.symm.trans hsplit') hlength).1

end Counter

/-! ## The first reply -/

/-- Whatever makes a call deaf leaves it so for the rest of the run. -/
theorem deaf_after_reply {μ : Type} {Inv Deaf : Hub → Prop} {Reply : μ → Hub → Prop}
    {actions : List Action} (hinv : ∀ before after, actions = before ++ after → Inv (h.run before))
    (hdeaf : ∀ {h : Hub}, Inv h → Deaf h → ∀ a, Deaf (h.step a))
    (hreply : ∀ {h : Hub} {m : μ}, Inv h → Reply m h → Deaf (h.step .loop))
    {past between : List Action} {m : μ} (hactions : actions = past ++ .loop :: between)
    (hm : Reply m (h.run past)) : Deaf (h.run actions) := by
  -- induction on what follows the reply
  induction between using List.reverseRecOn generalizing actions with
  | nil =>
      rw [hactions, run_snoc]
      exact hreply (hinv past _ hactions) hm
  | append_singleton between a ih =>
      have hsplit : actions = (past ++ .loop :: between) ++ [a] := by simp [hactions]
      rw [hsplit, run_snoc]
      refine hdeaf (hinv _ _ hsplit) (ih (fun before after heq => ?_) rfl) a
      exact hinv before (after ++ [a]) (by rw [hsplit, heq, List.append_assoc])

/-- An answer of the server that a call has is that of the first reply to it. -/
theorem first_reply {μ χ : Type} {Inv : Hub → Prop} {Reply : μ → Hub → Prop} {Served : χ → Prop}
    {value : μ → χ} {actions : List Action} (answer? : Hub → Option χ) (Deaf : Hub → Prop)
    (hinv : ∀ before after, actions = before ++ after → Inv (h.run before))
    (hstart : answer? h = none)
    (hdeaf : ∀ {h : Hub}, Inv h → Deaf h → ∀ a, Deaf (h.step a))
    (hreply : ∀ {h : Hub} {m : μ}, Inv h → Reply m h → Deaf (h.step .loop))
    (hanswer : ∀ {h : Hub} {a : Action} {x : χ}, Inv h → Served x → answer? (h.step a) = some x →
      answer? h = some x ∨ (a = .loop ∧ ¬ Deaf h ∧ ∃ m, Reply m h ∧ x = value m))
    {x : χ} (hx : answer? (h.run actions) = some x) (hserved : Served x) :
    ∃ m, FirstReply Reply h actions m ∧ x = value m := by
  -- induction on the run from its end, for what the last step gave the call
  induction actions using List.reverseRecOn with
  | nil =>
      have hx : answer? h = some x := hx
      rw [hstart] at hx
      cases hx
  | append_singleton actions a ih =>
      have hinv' : ∀ before after, actions = before ++ after → Inv (h.run before) :=
        fun before after heq => hinv before (after ++ [a]) (by rw [heq, List.append_assoc])
      rw [run_snoc] at hx
      rcases hanswer (hinv actions [a] rfl) hserved hx with hold | ⟨rfl, hnot, m, hm, hvalue⟩
      · obtain ⟨m, ⟨before, after, hsplit, hfirst⟩, hvalue⟩ := ih hinv' hold
        exact ⟨m, ⟨before, after ++ [a], by rw [hsplit]; simp, hfirst⟩, hvalue⟩
      · -- the call would be deaf if there had been a reply before
        refine ⟨m, ⟨actions, [], rfl, hm, ?_⟩, hvalue⟩
        intro past between m' hsplit hm'
        exact hnot (@deaf_after_reply h μ Inv Deaf Reply actions hinv' hdeaf hreply past between m'
          hsplit hm')

end PklHost.Hub
