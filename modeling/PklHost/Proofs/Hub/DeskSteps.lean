import PklHost.Proofs.Hub.Desk

/-!
# Steps of a desk

Where the answers that are delivered at a desk come from is for its hub to say (`Desk.Steps`).  Wherever
that is, a call keeps its first answer, an answer of the server is one that was delivered to a call that
waited for it, and a call that has returned stays as it is.
-/

namespace PklHost.Hub.Desk

variable {α σ ω : Type} {c : Course α σ ω} {d d' : Desk α σ} {i : Nat} {slip slip' : Slip α σ}
  {s : Nat} {id : Int64}

/-- What a step can do to a desk: it delivers an answer from a source, to a tray and under an id, or it
proceeds. -/
inductive Steps (c : Course α σ ω) (Source : Nat → Int64 → Except EvaluatorError α → Prop)
    (d d' : Desk α σ) : Prop
  | proceeds (h : d.Proceeds c d')
  | delivers {s : Nat} {id : Int64} {x : Except EvaluatorError α} (hsource : Source s id x)
      (h : d.Delivers s id x d')

variable {Source : Nat → Int64 → Except EvaluatorError α → Prop}

theorem Steps.tidy (ht : d.Tidy c) (h : d.Steps c Source d') : d'.Tidy c := by
  cases h with
  | proceeds hproceeds => exact hproceeds.tidy ht
  | delivers _ hdelivers => exact hdelivers.tidy ht

/-- Every slip stays.  It follows its course, or gets what its call waited for. -/
theorem Steps.slip_cases (ht : d.Tidy c) (h : d.Steps c Source d') (hslip : d.slips[i]? = some slip) :
    ∃ slip', d'.slips[i]? = some slip' ∧ (slip.Follows c (∃ s id, d.Waits s id i) slip' ∨
      ∃ s id x, Source s id x ∧ d.Waits s id i ∧ slip.answer = none ∧
        slip' = { slip with answer := some x }) := by
  cases h with
  | proceeds hproceeds =>
      obtain ⟨slip', hslip', hfollows⟩ := hproceeds.follows hslip
      exact ⟨slip', hslip', .inl hfollows⟩
  | @delivers s id x hsource hdelivers =>
      rcases hdelivers.reaches ht hslip with ⟨hw, hnone, hslip'⟩ | ⟨-, hslip'⟩
      · exact ⟨_, hslip', .inr ⟨s, id, x, hsource, hw, hnone, rfl⟩⟩
      · exact ⟨slip, hslip', .inl slip.follows_refl⟩

/-- A slip that was not there is that of a call that has just begun. -/
theorem Steps.first (h : d.Steps c Source d') (hnone : d.slips[i]? = none)
    (hslip' : d'.slips[i]? = some slip') : slip'.answer = none ∧ slip'.stage = c.first := by
  cases h with
  | proceeds hproceeds => exact hproceeds.first hnone hslip'
  | delivers _ hdelivers =>
      obtain ⟨tray, j, -, -, rfl⟩ := hdelivers.found
      rw [List.getElem?_modify, hnone] at hslip'
      cases hslip'

/-- A call stays with its tray, keeps an answer that it has, and goes along its course. -/
theorem Steps.keeps (ht : d.Tidy c) (h : d.Steps c Source d') (hslip : d.slips[i]? = some slip) :
    ∃ slip', d'.slips[i]? = some slip' ∧ slip'.tray = slip.tray ∧
      (∀ x, slip.answer = some x → slip'.answer = some x) ∧
      c.Turns slip.answer slip.stage slip'.stage := by
  obtain ⟨slip', hslip', hfollows | ⟨s, id, x, -, -, hnone, rfl⟩⟩ := h.slip_cases ht hslip
  · refine ⟨slip', hslip', hfollows.tray, ?_, hfollows.stage⟩
    intro x hx
    rcases hfollows.answer with hsame | ⟨-, hnone, -⟩
    · exact hsame.trans hx
    · rw [hnone] at hx
      cases hx
  · refine ⟨_, hslip', rfl, ?_, .stays⟩
    intro y hy
    rw [hnone] at hy
    cases hy

/-- Only a call that has not filed can come to wait. -/
theorem Steps.waited (h : d.Steps c Source d') (hw : d'.Waits s id i) :
    d.Waits s id i ∨ ∃ slip, d.slips[i]? = some slip ∧ c.standing slip.stage = .unfiled := by
  cases h with
  | proceeds hproceeds => exact hproceeds.waited hw
  | delivers _ hdelivers => exact .inl (hdelivers.waited hw)

/-! ## What holds of every slip -/

/-- What is true of a call at its first stage and when it is given up, and stays so as it goes on and when
it is answered. -/
structure Kept (c : Course α σ ω) (P : Option (Except EvaluatorError α) → σ → Prop) : Prop where
  first : P none c.first
  abandoned : ∀ a, P a c.abandoned
  goes : ∀ {a s s'}, P a s → c.Goes a s s' → P a s'
  files : ∀ {a s s' id}, P a s → c.Files id s s' → P a s'
  withdraws : ∀ {a s s' id}, P a s → c.Withdraws id s s' → P a s'
  answered : ∀ {x s}, P none s → P (some x) s

/-- Every slip has a property. -/
def Everywhere (P : Option (Except EvaluatorError α) → σ → Prop) (d : Desk α σ) : Prop :=
  ∀ {i : Nat} {slip : Slip α σ}, d.slips[i]? = some slip → P slip.answer slip.stage

variable {P : Option (Except EvaluatorError α) → σ → Prop}

theorem everywhere_of_empty (hslips : d.slips = []) : Everywhere P d := by
  intro i slip hslip
  rw [hslips] at hslip
  cases hslip

theorem Kept.turns (hkept : Kept c P) {a : Option (Except EvaluatorError α)} {s s' : σ} (hs : P a s)
    (h : c.Turns a s s') : P a s' := by
  cases h with
  | stays => exact hs
  | abandoned => exact hkept.abandoned a
  | goes hgoes => exact hkept.goes hs hgoes
  | files _ hfiles => exact hkept.files hs hfiles
  | withdraws _ hwithdraws => exact hkept.withdraws hs hwithdraws

theorem Steps.everywhere (hkept : Kept c P) (ht : d.Tidy c) (h : d.Steps c Source d')
    (hall : Everywhere P d) : Everywhere P d' := by
  intro i slip' hslip'
  cases hslip : d.slips[i]? with
  | none =>
      obtain ⟨hanswer, hstage⟩ := h.first hslip hslip'
      rw [hanswer, hstage]
      exact hkept.first
  | some slip =>
      have hold := hall hslip
      obtain ⟨other, hother, hwhy⟩ := h.slip_cases ht hslip
      obtain rfl : other = slip' := Option.some.inj (hother.symm.trans hslip')
      rcases hwhy with hfollows | ⟨s, id, x, -, -, hnone, rfl⟩
      · have hturned := hkept.turns hold hfollows.stage
        rcases hfollows.answer with hsame | ⟨-, hnone, fault, -, hfault⟩
        · rwa [hsame]
        · rw [hnone] at hturned
          rw [hfault]
          exact hkept.answered hturned
      · rw [hnone] at hold
        exact hkept.answered hold

/-! ## Calls that are over -/

theorem not_outcome_abandoned {o : ω} : c.outcome? c.abandoned ≠ some o := by
  intro h
  have hs := c.standing_outcome h
  rw [c.standing_abandoned] at hs
  cases hs

theorem not_outcome_first {o : ω} : c.outcome? c.first ≠ some o := by
  intro h
  have hs := c.standing_outcome h
  rw [c.standing_first] at hs
  cases hs

/-- A call that is over stays as it is, or is given up after the fact. -/
theorem over_turns {a : Option (Except EvaluatorError α)} {s s' : σ} (h : c.Turns a s s')
    (hover : c.Over s) : s' = s ∨ s' = c.abandoned := by
  have hstanding : c.standing s = .settled ∨ c.standing s = .abandoned := by
    rcases hover with ⟨o, ho⟩ | rfl
    · exact .inl (c.standing_outcome ho)
    · exact .inr c.standing_abandoned
  -- from neither standing can a request be filed or withdrawn
  cases h with
  | stays => exact .inl rfl
  | abandoned => exact .inr rfl
  | goes hgoes => exact .inl (c.goes_over hgoes hover)
  | files _ hfiles =>
      rw [(c.files hfiles).1] at hstanding
      rcases hstanding with h | h <;> cases h
  | withdraws _ hwithdraws =>
      rw [(c.withdraws hwithdraws).1] at hstanding
      rcases hstanding with h | h <;> cases h

theorem over_not_unfiled {s : σ} (h : c.Over s) : c.standing s ≠ .unfiled := by
  rcases h with ⟨o, ho⟩ | rfl
  · rw [c.standing_outcome ho]
    exact Standing.noConfusion
  · rw [c.standing_abandoned]
    exact Standing.noConfusion

/-- A call that is over stays so. -/
theorem over_of_turns {a : Option (Except EvaluatorError α)} {s s' : σ} (h : c.Turns a s s')
    (hover : c.Over s) : c.Over s' := by
  rcases over_turns h hover with rfl | rfl
  · exact hover
  · exact .inr rfl

/-- A call that is over, and for which nothing waits. -/
def Through (c : Course α σ ω) (d : Desk α σ) (i : Nat) : Prop :=
  (∃ slip, d.slips[i]? = some slip ∧ c.Over slip.stage) ∧ ∀ s id, ¬ d.Waits s id i

theorem Steps.through (ht : d.Tidy c) (h : d.Steps c Source d') (hthrough : d.Through c i) :
    d'.Through c i := by
  obtain ⟨⟨slip, hslip, hover⟩, hnot⟩ := hthrough
  obtain ⟨slip', hslip', -, -, hturns⟩ := h.keeps ht hslip
  refine ⟨⟨slip', hslip', over_of_turns hturns hover⟩, ?_⟩
  intro s id hw
  rcases h.waited hw with hold | ⟨other, hother, hunfiled⟩
  · exact hnot s id hold
  · obtain rfl : slip = other := Option.some.inj (hslip.symm.trans hother)
    exact over_not_unfiled hover hunfiled

/-! ## Answers and outcomes -/

/-- The answer that a call was given. -/
def answer? (d : Desk α σ) (i : Nat) : Option (Except EvaluatorError α) :=
  d.slips[i]?.bind Slip.answer

/-- What a call returned. -/
def outcome? (c : Course α σ ω) (d : Desk α σ) (i : Nat) : Option ω :=
  d.slips[i]?.bind fun slip => c.outcome? slip.stage

theorem answer?_eq_some {x : Except EvaluatorError α} :
    d.answer? i = some x ↔ ∃ slip, d.slips[i]? = some slip ∧ slip.answer = some x := by
  unfold answer?
  rw [Option.bind_eq_some_iff]

theorem outcome?_eq_some {o : ω} :
    d.outcome? c i = some o ↔ ∃ slip, d.slips[i]? = some slip ∧ c.outcome? slip.stage = some o := by
  unfold outcome?
  rw [Option.bind_eq_some_iff]

theorem Steps.keeps_answer (ht : d.Tidy c) (h : d.Steps c Source d') {x : Except EvaluatorError α}
    (hx : d.answer? i = some x) : d'.answer? i = some x := by
  obtain ⟨slip, hslip, hanswer⟩ := answer?_eq_some.1 hx
  obtain ⟨slip', hslip', -, hkeeps, -⟩ := h.keeps ht hslip
  exact answer?_eq_some.2 ⟨slip', hslip', hkeeps x hanswer⟩

/-- An answer of the server is one that was delivered to a call that waited for it. -/
theorem Steps.answered (ht : d.Tidy c) (h : d.Steps c Source d') {x : Except EvaluatorError α}
    (hx : d'.answer? i = some x) (hserver : FromServer x) :
    d.answer? i = some x ∨ ∃ s id, Source s id x ∧ d.Waits s id i ∧ d.answer? i = none := by
  obtain ⟨slip', hslip', hanswer'⟩ := answer?_eq_some.1 hx
  cases hslip : d.slips[i]? with
  | none =>
      rw [(h.first hslip hslip').1] at hanswer'
      cases hanswer'
  | some slip =>
      obtain ⟨other, hother, hwhy⟩ := h.slip_cases ht hslip
      obtain rfl : other = slip' := Option.some.inj (hother.symm.trans hslip')
      rcases hwhy with hfollows | ⟨s, id, y, hsource, hw, hnone, rfl⟩
      · rcases hfollows.answer with hsame | ⟨-, -, fault, hfault, hgiven⟩
        · exact .inl (answer?_eq_some.2 ⟨slip, hslip, hsame.symm.trans hanswer'⟩)
        · -- what is given on closing is no answer of the server
          obtain rfl : Except.error fault = x := Option.some.inj (hgiven.symm.trans hanswer')
          exact absurd hserver (not_fromServer_of_closing hfault)
      · obtain rfl : y = x := Option.some.inj hanswer'
        refine .inr ⟨s, id, hsource, hw, ?_⟩
        unfold answer?
        rw [hslip]
        exact hnone

/-- An answer that is delivered is that of the call that waited for it. -/
theorem Delivers.answer (ht : d.Tidy c) {x : Except EvaluatorError α} (h : d.Delivers s id x d')
    (hw : d.Waits s id i) : d'.answer? i = some x := by
  obtain ⟨slip, hslip, -⟩ := ht.waits hw
  rcases h.reaches ht hslip with ⟨-, -, hslip'⟩ | ⟨hnot, -⟩
  · exact answer?_eq_some.2 ⟨_, hslip', rfl⟩
  · exact absurd hw hnot

/-- What a call has of the server when it returns, it had before. -/
theorem Steps.answer_of_return (ht : d.Tidy c) (h : d.Steps c Source d') {o : ω}
    (hnone : d.outcome? c i = none) (ho : d'.outcome? c i = some o) {x : Except EvaluatorError α}
    (hx : d'.answer? i = some x) (hserver : FromServer x) : d.answer? i = some x := by
  obtain ⟨slip', hslip', hout⟩ := outcome?_eq_some.1 ho
  cases hslip : d.slips[i]? with
  | none =>
      -- a call that begins does not return in the same step
      rw [(h.first hslip hslip').2] at hout
      exact absurd hout not_outcome_first
  | some slip =>
      obtain ⟨other, hother, hwhy⟩ := h.slip_cases ht hslip
      obtain rfl : other = slip' := Option.some.inj (hother.symm.trans hslip')
      rcases hwhy with hfollows | ⟨_, _, y, -, -, -, rfl⟩
      · obtain ⟨y, hy, hanswer⟩ := answer?_eq_some.1 hx
        obtain rfl : other = y := Option.some.inj (hother.symm.trans hy)
        rcases hfollows.answer with hsame | ⟨-, -, fault, hfault, hgiven⟩
        · exact answer?_eq_some.2 ⟨slip, hslip, hsame.symm.trans hanswer⟩
        · obtain rfl : Except.error fault = x := Option.some.inj (hgiven.symm.trans hanswer)
          exact absurd hserver (not_fromServer_of_closing hfault)
      · -- the step that answers a call does not move it
        have hbefore : d.outcome? c i = some o := outcome?_eq_some.2 ⟨slip, hslip, hout⟩
        rw [hnone] at hbefore
        cases hbefore

/-- Nothing waits for a call that has returned. -/
theorem Tidy.through_of_outcome (ht : d.Tidy c) {o : ω} (ho : d.outcome? c i = some o) :
    d.Through c i := by
  obtain ⟨slip, hslip, hout⟩ := outcome?_eq_some.1 ho
  refine ⟨⟨slip, hslip, .inl ⟨o, hout⟩⟩, ?_⟩
  intro s id hw
  have hmay := ht.mayWait hslip hw
  rw [c.standing_outcome hout] at hmay
  exact hmay

/-- A call that has returned does not return anew. -/
theorem Steps.outcome_of_through (ht : d.Tidy c) (h : d.Steps c Source d')
    (hthrough : d.Through c i) {o : ω} (ho : d'.outcome? c i = some o) :
    d.outcome? c i = some o := by
  obtain ⟨⟨slip, hslip, hover⟩, -⟩ := hthrough
  obtain ⟨slip', hslip', -, -, hturns⟩ := h.keeps ht hslip
  obtain ⟨other, hother, hout⟩ := outcome?_eq_some.1 ho
  obtain rfl : other = slip' := Option.some.inj (hother.symm.trans hslip')
  rcases over_turns hturns hover with hsame | habandoned
  · rw [hsame] at hout
    exact outcome?_eq_some.2 ⟨slip, hslip, hout⟩
  · rw [habandoned] at hout
    exact absurd hout not_outcome_abandoned

/-! ## Trays that are closed -/

/-- Nothing waits in a tray that is closed. -/
def ClosedEmpty (d : Desk α σ) : Prop :=
  ∀ {s : Nat} {tray : Pending Nat}, d.trays[s]? = some tray → tray.isClosed = true → tray.waiting = []

/-- One tray is replaced by another that is empty if it is closed. -/
theorem ClosedEmpty.set (hd : d.ClosedEmpty) {slips : List (Slip α σ)} {n : Nat} {new : Pending Nat}
    (hnew : new.isClosed = true → new.waiting = []) :
    ClosedEmpty { slips, trays := d.trays.set n new } := by
  intro s tray htray hclosed
  by_cases hn : n = s
  · subst hn
    have hlt := (List.getElem?_eq_some_iff.1 htray).1
    rw [List.length_set] at hlt
    rw [List.getElem?_set_self hlt] at htray
    obtain rfl := Option.some.inj htray
    exact hnew hclosed
  · rw [List.getElem?_set_ne hn] at htray
    exact hd htray hclosed

theorem ClosedEmpty.set_erase (hd : d.ClosedEmpty) {slips : List (Slip α σ)} {tray : Pending Nat}
    (htray : d.trays[s]? = some tray) : ClosedEmpty { slips, trays := d.trays.set s (tray.erase id) } := by
  refine hd.set fun hclosed => ?_
  unfold Pending.erase
  rw [hd htray hclosed]
  rfl

theorem Proceeds.closedEmpty (h : d.Proceeds c d') (hd : d.ClosedEmpty) : d'.ClosedEmpty := by
  cases h with
  | kept | begun tray | moved _ _ | abandoned i => exact hd
  | opened =>
      intro s tray htray hclosed
      rcases List.mem_append.1 (List.mem_of_getElem? htray) with hmem | hmem
      · obtain ⟨n, hn⟩ := List.getElem?_of_mem hmem
        exact hd hn hclosed
      · rw [List.mem_singleton.1 hmem]
  | filed _ _ _ hopen _ =>
      refine hd.set fun hclosed => ?_
      rw [hopen] at hclosed
      cases hclosed
  | withdrawn _ _ htray _ => exact hd.set_erase htray
  | failed _ _ => exact hd.set fun _ => rfl

theorem Steps.closedEmpty (h : d.Steps c Source d') (hd : d.ClosedEmpty) : d'.ClosedEmpty := by
  cases h with
  | proceeds hproceeds => exact hproceeds.closedEmpty hd
  | delivers _ hdelivers =>
      obtain ⟨tray, i, htray, -, rfl⟩ := hdelivers.found
      exact hd.set_erase htray

/-! ## Whoever waits for an answer is waited for -/

/-- A call that has filed and has no answer has its request in the tray. -/
def Attended (c : Course α σ ω) (d : Desk α σ) : Prop :=
  ∀ {i : Nat} {slip : Slip α σ} {requestId : Option Int64}, d.slips[i]? = some slip →
    c.standing slip.stage = .filed requestId → slip.answer = none → ∃ id, d.Waits slip.tray id i

theorem attended_of_empty (hslips : d.slips = []) : d.Attended c := by
  intro i slip requestId hslip
  rw [hslips] at hslip
  cases hslip

/-- What waits in one tray still does when another one is replaced, or one that keeps it. -/
theorem Waits.set {slips : List (Slip α σ)} {n : Nat} {tray new : Pending Nat} (hw : d.Waits s id i)
    (htray : d.trays[n]? = some tray)
    (hnew : n = s → (id, i) ∈ tray.waiting → (id, i) ∈ new.waiting) :
    Waits { slips, trays := d.trays.set n new } s id i := by
  obtain ⟨tray', htray', hmem⟩ := hw
  by_cases hn : n = s
  · subst hn
    obtain rfl : tray = tray' := Option.some.inj (htray.symm.trans htray')
    have hlt := (List.getElem?_eq_some_iff.1 htray).1
    exact ⟨new, List.getElem?_set_self hlt, hnew rfl hmem⟩
  · exact ⟨tray', by rw [List.getElem?_set_ne hn, htray'], hmem⟩

/-- A call that has no answer was given none. -/
theorem not_mem_of_giveAll {tickets : List Nat} {a : Except EvaluatorError α}
    {slips : List (Slip α σ)} (hslip' : (giveAll tickets a slips)[i]? = some slip')
    (hnone : slip'.answer = none) : i ∉ tickets ∧ slips[i]? = some slip' := by
  rw [getElem?_giveAll] at hslip'
  obtain ⟨slip, hslip, rfl⟩ := Option.map_eq_some_iff.1 hslip'
  by_cases hi : i ∈ tickets
  · rw [if_pos hi] at hnone
    unfold Slip.give at hnone
    cases hanswer : slip.answer <;> simp [hanswer] at hnone
  · rw [if_neg hi]
    exact ⟨hi, hslip⟩

/-- A slip that one move has changed is that of the call which moved, or was there before. -/
theorem getElem?_move {slips : List (Slip α σ)} {j : Nat} {stage : σ}
    (hslip' : (slips.modify j (Slip.move stage))[i]? = some slip') :
    (j = i ∧ ∃ slip, slips[i]? = some slip ∧ slip' = slip.move stage) ∨
      (j ≠ i ∧ slips[i]? = some slip') := by
  by_cases hj : j = i
  · subst hj
    rw [List.getElem?_modify_eq] at hslip'
    obtain ⟨slip, hslip, rfl⟩ := Option.map_eq_some_iff.1 hslip'
    exact .inl ⟨rfl, slip, hslip, rfl⟩
  · rw [List.getElem?_modify_ne _ _ hj] at hslip'
    exact .inr ⟨hj, hslip'⟩

theorem Proceeds.attended (ht : d.Tidy c) (h : d.Proceeds c d') (hd : d.Attended c) :
    d'.Attended c := by
  intro i slip' requestId hslip' hfiled hnone
  cases h with
  | kept => exact hd hslip' hfiled hnone
  | begun tray =>
      rcases getElem?_of_append hslip' with hold | ⟨-, rfl⟩
      · exact hd hold hfiled hnone
      · rw [c.standing_first] at hfiled
        cases hfiled
  | opened =>
      obtain ⟨id, tray, htray, hmem⟩ := hd hslip' hfiled hnone
      exact ⟨id, tray, by rw [getElem?_append_of_some htray],
        hmem⟩
  | @moved j own stage hown hgoes =>
      rcases getElem?_move hslip' with ⟨rfl, slip, hslip, rfl⟩ | ⟨-, hslip⟩
      · obtain rfl : own = slip := Option.some.inj (hown.symm.trans hslip)
        -- by itself a call comes to stand as one that has filed only if it did before
        have hbefore : ∃ requestId, c.standing own.stage = .filed requestId := by
          have hpasses := c.passes hgoes
          rw [show c.standing stage = .filed requestId from hfiled] at hpasses
          generalize c.standing own.stage = before at hpasses
          cases hpasses with
          | stays => exact ⟨_, rfl⟩
          | forgets own => exact ⟨own, rfl⟩
        obtain ⟨requestId, hbefore⟩ := hbefore
        exact @hd j own _ hslip hbefore hnone
      · exact hd hslip hfiled hnone
  | abandoned j =>
      rcases getElem?_move hslip' with ⟨rfl, slip, -, rfl⟩ | ⟨-, hslip⟩
      · rw [show (slip.move c.abandoned).stage = c.abandoned from rfl, c.standing_abandoned] at hfiled
        cases hfiled
      · exact hd hslip hfiled hnone
  | @filed j own stage tray newId hown hfiles htray hopen hfree =>
      rcases getElem?_move hslip' with ⟨rfl, slip, hslip, rfl⟩ | ⟨-, hslip⟩
      · obtain rfl : own = slip := Option.some.inj (hown.symm.trans hslip)
        have hlt := (List.getElem?_eq_some_iff.1 htray).1
        exact ⟨newId, _, List.getElem?_set_self hlt, List.mem_append_right _ (List.mem_singleton.2 rfl)⟩
      · obtain ⟨id, hw⟩ := hd hslip hfiled hnone
        exact ⟨id, hw.set htray fun _ hmem => List.mem_append_left _ hmem⟩
  | @withdrawn j own stage tray taken fault hown hwithdraws htray hfault =>
      rcases getElem?_move hslip' with ⟨rfl, slip, -, rfl⟩ | ⟨hj, hgiven⟩
      · rw [show (slip.move stage).stage = stage from rfl, (c.withdraws hwithdraws).2] at hfiled
        cases hfiled
      · obtain ⟨hnot, hslip⟩ := not_mem_of_giveAll hgiven hnone
        obtain ⟨id, hw⟩ := hd hslip hfiled hnone
        refine ⟨id, hw.set htray fun hs hmem => Pending.mem_erase.2 ⟨hmem, ?_⟩⟩
        -- were the request the one that is taken, its call would have been given a fault
        rintro rfl
        have hfound := ht.find?_of_waits htray (hs ▸ hw)
        refine hnot (List.mem_filter.2 ⟨?_, by simpa using fun h => hj h.symm⟩)
        rw [hfound]
        exact List.mem_singleton.2 rfl
  | @failed s tray fault htray hfault =>
      obtain ⟨hnot, hslip⟩ := not_mem_of_giveAll hslip' hnone
      obtain ⟨id, hw⟩ := hd hslip hfiled hnone
      exact ⟨id, hw.set htray fun _ hmem => absurd (List.mem_map_of_mem hmem) hnot⟩

theorem Steps.attended (ht : d.Tidy c) (h : d.Steps c Source d') (hd : d.Attended c) :
    d'.Attended c := by
  cases h with
  | proceeds hproceeds => exact hproceeds.attended ht hd
  | @delivers s id x hsource hdelivers =>
      intro i slip' requestId hslip' hfiled hnone
      have hslips : ∃ slip, d.slips[i]? = some slip := by
        obtain ⟨tray, j, -, -, rfl⟩ := hdelivers.found
        rw [List.getElem?_modify] at hslip'
        cases hslip : d.slips[i]? with
        | none =>
            rw [hslip] at hslip'
            cases hslip'
        | some slip => exact ⟨slip, rfl⟩
      obtain ⟨slip, hslip⟩ := hslips
      rcases hdelivers.reaches ht hslip with ⟨-, -, hother⟩ | ⟨hnot, hother⟩
      · obtain rfl := Option.some.inj (hother.symm.trans hslip')
        cases hnone
      · obtain rfl : slip = slip' := Option.some.inj (hother.symm.trans hslip')
        obtain ⟨id', hw⟩ := hd hslip hfiled hnone
        exact ⟨id', (hdelivers.waits_iff hnot).2 hw⟩

/-- Whoever has an answer waits for nothing. -/
theorem Tidy.not_waits_of_answer (ht : d.Tidy c) {x : Except EvaluatorError α}
    (hx : d.answer? i = some x) : ¬ d.Waits s id i := by
  intro hw
  obtain ⟨slip, hslip, -, hnone, -⟩ := ht.waits hw
  unfold answer? at hx
  rw [hslip] at hx
  obtain hx : slip.answer = some x := hx
  rw [hnone] at hx
  cases hx

/-- Whoever waits has no answer yet. -/
theorem Tidy.answer?_of_waits (ht : d.Tidy c) (hw : d.Waits s id i) : d.answer? i = none := by
  obtain ⟨slip, hslip, -, hnone, -⟩ := ht.waits hw
  unfold answer?
  rw [hslip]
  exact hnone

/-- Failing a tray gives the fault to whoever waits in it. -/
theorem answer?_of_failed (ht : d.Tidy c) (hw : d.Waits s id i) {tray : Pending Nat}
    {trays : List (Pending Nat)} (htray : d.trays[s]? = some tray) (fault : EvaluatorError) :
    answer? { slips := giveAll (tray.waiting.map Prod.snd) (.error fault) d.slips, trays } i =
      some (.error fault) := by
  obtain ⟨slip, hslip, -, hnone, -⟩ := ht.waits hw
  obtain ⟨tray', htray', hmem⟩ := hw
  obtain rfl : tray = tray' := Option.some.inj (htray.symm.trans htray')
  have hi : i ∈ tray.waiting.map Prod.snd := List.mem_map_of_mem hmem
  unfold answer?
  dsimp only
  rw [getElem?_giveAll, hslip, Option.map_some, if_pos hi]
  show (slip.answer <|> some (.error fault)) = _
  rw [hnone]
  rfl

end PklHost.Hub.Desk
