import PklHost.Proofs.Host.Solo
import PklHost.Proofs.Hub.Losing

/-!
# What becomes of a job whose connection is lost

A job waits for a call, and the call for its answer, while the connection is about to be lost.  Then the job
is doomed (`Doomed`): the call learns why, the job learns it from the call, and whatever the job has to put
away first, it finishes with that fault (`Doomed.settle`).
-/

namespace PklHost.Host

open Hub (Action Caller)

variable {host host' : Host} {n : Nat} {job : Job} {fault : EvaluatorError} {reason : CloseReason}

/-- The job can finish with nothing but a fault, and has a turn until it does. -/
inductive Fated (fault : EvaluatorError) (host : Host) : Job → Prop
  | told {job : Job} {who : Caller} (hawaits : job.awaits? = some who)
      (htold : host.hub.Told fault who) (hturn : who ∈ host.queue) : Fated fault host job
  /-- The project could not be read, and its loader is put away. -/
  | closing {purpose : Purpose} {s i : Nat} (hthere : i < host.hub.errands.length)
      (hturn : .errand i ∈ host.queue) :
      Fated fault host (.closingLoader purpose s i (.error fault))
  | releasing {purpose : Purpose} {i : Nat} (hthere : i < host.hub.errands.length)
      (hturn : .errand i ∈ host.queue) :
      Fated fault host (.releasingLoader purpose i (.error fault))
  | finished : Fated fault host (.finished (.error fault))

/-! ## Fates do not change -/

theorem Fated.act (hfated : host.Fated fault job) (hsteady : host.hub.Steady) {a : Action}
    (hgive : ∀ other, a ≠ .abandon other) : (host.act a).Fated fault job := by
  cases hfated with
  | told hawaits htold hturn => exact .told hawaits (htold.step hsteady hgive) (mem_queue_act hturn a)
  | closing hthere hturn =>
      exact .closing (Nat.lt_of_lt_of_le hthere (host.hub.length_errands_le a)) (mem_queue_act hturn a)
  | releasing hthere hturn =>
      exact .releasing (Nat.lt_of_lt_of_le hthere (host.hub.length_errands_le a)) (mem_queue_act hturn a)
  | finished => exact .finished

/-- The call that the job waits for, if there is one, has a turn. -/
theorem Fated.mem_queue (hfated : host.Fated fault job) {who : Caller} (hwho : job.awaits? = some who) :
    who ∈ host.queue := by
  cases hfated with
  | told hawaits _ hturn =>
      obtain rfl := Option.some.inj (hawaits.symm.trans hwho)
      exact hturn
  | closing _ hturn =>
      obtain rfl := Option.some.inj hwho
      exact hturn
  | releasing _ hturn =>
      obtain rfl := Option.some.inj hwho
      exact hturn
  | finished => cases hwho

theorem Fated.with_queue (hfated : host.Fated fault job) {queue : List Caller}
    (hturn : ∀ who, job.awaits? = some who → who ∈ queue) :
    ({ host with queue } : Host).Fated fault job := by
  cases hfated with
  | told hawaits htold _ => exact .told hawaits htold (hturn _ hawaits)
  | closing hthere _ => exact .closing hthere (hturn _ rfl)
  | releasing hthere _ => exact .releasing hthere (hturn _ rfl)
  | finished => exact .finished

/-! ## The job goes on to its fate -/

/-- A call that has learnt of its fault, and has nothing to go on with, has returned. -/
theorem returnedWith_of_callAction {who : Caller} (htold : host.hub.Told fault who)
    (hnone : host.callAction? who = none) : host.hub.ReturnedWith fault who := by
  cases htold with
  | returned hreturned => exact hreturned
  | hears hhears =>
      cases who with
      | create i =>
          obtain ⟨call, hcall, hstage, hanswer⟩ := hhears
          have hsome : host.callAction? (.create i) = some (.advance (.create i)) := by
            refine Option.bind_eq_some_iff.2 ⟨call, hcall, ?_⟩
            rw [hstage, hanswer]
            rfl
          rw [hsome] at hnone
          cases hnone
      | evaluate i =>
          obtain ⟨call, hcall, hstage, hanswer⟩ := hhears
          have hsome : host.callAction? (.evaluate i) = some (.advance (.evaluate i)) := by
            refine Option.bind_eq_some_iff.2 ⟨call, hcall, ?_⟩
            rw [hstage, hanswer]
            rfl
          rw [hsome] at hnone
          cases hnone
      | errand i => exact hhears.elim

/-- An errand that has nothing to go on with is over. -/
theorem ended_of_callAction {i : Nat} (hthere : i < host.hub.errands.length)
    (hnone : host.callAction? (.errand i) = none) : Job.ended host.hub i = true := by
  have he := List.getElem?_eq_getElem hthere
  generalize host.hub.errands[i] = e at he
  unfold Job.ended
  rw [he]
  cases e with
  | finished => rfl
  | _ =>
      have hsome : host.callAction? (.errand i) = some (.advance (.errand i)) :=
        Option.bind_eq_some_iff.2 ⟨_, he, rfl⟩
      rw [hsome] at hnone
      cases hnone

theorem created?_of_returnedWith {h : Hub} {i : Nat} (hreturned : h.ReturnedWith fault (.create i)) :
    Job.created? h i = some (.error fault) := by
  obtain ⟨⟨_, _, stage⟩, hcall, rfl⟩ := Hub.createStages_getElem?.1 hreturned
  unfold Job.created?
  rw [hcall]

theorem evaluated?_of_returnedWith {h : Hub} {i : Nat}
    (hreturned : h.ReturnedWith fault (.evaluate i)) : Job.evaluated? h i = some (.error fault) := by
  obtain ⟨⟨_, _, _, _, stage⟩, hcall, rfl⟩ := Hub.evaluateStages_getElem?.1 hreturned
  unfold Job.evaluated?
  rw [hcall]

/-- Where a job goes that learns of its fault. -/
inductive Ends (fault : EvaluatorError) (h : Hub) : Job → List Action → Prop
  | finished : Ends fault h (.finished (.error fault)) []
  | closing (purpose : Purpose) (s : Nat) :
      Ends fault h (.closingLoader purpose s h.errands.length (.error fault)) [.close s false]
  | releasing (purpose : Purpose) (s : Nat) :
      Ends fault h (.releasingLoader purpose h.errands.length (.error fault)) [.release s false]

/-- A job goes on to its fate once the call that it waits for has nothing to go on with. -/
theorem Fated.resume? (hfated : host.Fated fault job) {who : Caller} (hwho : job.awaits? = some who)
    (hnone : host.callAction? who = none) :
    ∃ after actions, job.resume? host.hub = some (after, actions) ∧
      Ends fault host.hub after actions := by
  cases hfated with
  | told hawaits htold _ =>
      obtain rfl := Option.some.inj (hawaits.symm.trans hwho)
      have hreturned := returnedWith_of_callAction htold hnone
      cases job with
      | creating handle i =>
          obtain rfl := Option.some.inj hawaits
          refine ⟨_, _, ?_, .finished⟩
          unfold Job.resume?
          dsimp only
          rw [created?_of_returnedWith hreturned]
          rfl
      | makingLoader purpose source i =>
          obtain rfl := Option.some.inj hawaits
          refine ⟨_, _, ?_, .finished⟩
          unfold Job.resume?
          dsimp only
          rw [created?_of_returnedWith hreturned]
          rfl
      | evaluating s query i =>
          obtain rfl := Option.some.inj hawaits
          refine ⟨_, _, ?_, .finished⟩
          unfold Job.resume?
          dsimp only
          rw [evaluated?_of_returnedWith hreturned]
          rfl
      | loading purpose s i =>
          obtain rfl := Option.some.inj hawaits
          refine ⟨_, _, ?_, .closing purpose s⟩
          unfold Job.resume?
          dsimp only
          rw [evaluated?_of_returnedWith hreturned]
          rfl
      | closingLoader | releasingLoader =>
          obtain rfl := Option.some.inj hawaits
          exact hreturned.elim
      | finished | cancelled => cases hawaits
  | @closing purpose s i hthere _ =>
      obtain rfl := Option.some.inj hwho
      refine ⟨_, _, ?_, .releasing purpose s⟩
      unfold Job.resume?
      dsimp only
      rw [if_pos (ended_of_callAction hthere hnone)]
      rfl
  | @releasing purpose i hthere _ =>
      obtain rfl := Option.some.inj hwho
      refine ⟨_, _, ?_, .finished⟩
      unfold Job.resume?
      dsimp only
      rw [if_pos (ended_of_callAction hthere hnone)]
      rfl
  | finished => cases hwho

theorem fated_of_ends {after : Job} {actions : List Action} (hends : Ends fault host.hub after actions)
    {jobs : List Job} {handles : List Handle} :
    (acts { host with jobs, handles } actions).Fated fault after := by
  -- an errand that is begun is the last one, and is given a turn
  have hbegun : ∀ {a : Action} {e : Hub.Errand}, host.hub.step a = host.hub.beginErrand e →
      host.hub.errands.length < (host.hub.step a).errands.length ∧
        .errand host.hub.errands.length ∈ (act { host with jobs, handles } a).queue := by
    intro a e hstep
    have herrands : (host.hub.step a).errands = host.hub.errands ++ [e] := by rw [hstep]; rfl
    have hlast : (host.hub.step a).errands[host.hub.errands.length]? = some e := by
      rw [herrands, List.getElem?_concat_length]
    refine ⟨(List.getElem?_eq_some_iff.1 hlast).1, mem_queue_of_awakened ?_⟩
    exact mem_awakened_errand hlast (List.getElem?_eq_none (Nat.le_refl _))
  cases hends with
  | finished => exact .finished
  | closing purpose s =>
      obtain ⟨hthere, hturn⟩ := hbegun (a := .close s false) rfl
      exact .closing hthere hturn
  | releasing purpose s =>
      obtain ⟨hthere, hturn⟩ := hbegun (a := .release s false) rfl
      exact .releasing hthere hturn

theorem Solo.resume_ends (hsolo : host.Solo n job) {who : Caller} (hwho : job.awaits? = some who)
    {after : Job} {actions : List Action} (hresume : job.resume? host.hub = some (after, actions))
    (hends : Ends fault host.hub after actions) :
    (Host.resume who host).Solo n after ∧ (Host.resume who host).Fated fault after := by
  have hgoes := hsolo.goes hresume
  obtain ⟨handles, hsame⟩ := hsolo.goes_eq hresume
  rcases hsolo.resume_eq hwho with ⟨hstuck, -⟩ | ⟨after', actions', hresume', heq⟩
  · rw [hstuck] at hresume
    cases hresume
  · obtain ⟨rfl, rfl⟩ := Prod.mk.inj (Option.some.inj (hresume.symm.trans hresume'))
    rw [heq]
    refine ⟨hgoes, ?_⟩
    rw [hsame]
    exact fated_of_ends hends

/-- Every step takes the job on to its fate. -/
theorem Fated.step (hfated : host.Fated fault job) (hsolo : host.Solo n job) (htidy : host.Tidy)
    (hstep : host.step? = some host') : ∃ after, host'.Solo n after ∧ host'.Fated fault after := by
  have hsteady := htidy.steady
  cases htidy.moves hstep with
  | acts hbegins hkeeps _ _ =>
      exact ⟨job, hsolo.act_aside hsteady.watched hbegins, hfated.act hsteady hkeeps⟩
  | @reads who rest a hqueue _ hbegins hkeeps _ _ =>
      -- whoever was first is last now, so that everybody still has a turn
      have hmoved : ({ host with queue := rest ++ [who] } : Host).Fated fault job := by
        refine hfated.with_queue fun other hother => ?_
        have hmem := hfated.mem_queue hother
        rw [hqueue] at hmem
        rcases List.mem_cons.1 hmem with rfl | hrest
        · exact List.mem_append_right _ List.mem_cons_self
        · exact List.mem_append_left _ hrest
      exact ⟨job, (hsolo.with_queue (rest ++ [who])).act_aside hsteady.watched hbegins,
        hmoved.act hsteady hkeeps⟩
  | @ends who rest hqueue _ hnone =>
      by_cases hwho : job.awaits? = some who
      · obtain ⟨after, actions, hresume, hends⟩ := hfated.resume? hwho hnone
        exact ⟨after, (hsolo.with_queue rest).resume_ends hwho hresume hends⟩
      · -- the turn that ends is not the one that the job waits for
        rw [(hsolo.with_queue rest).resume_of_ne hwho]
        refine ⟨job, hsolo.with_queue rest, hfated.with_queue fun other hother => ?_⟩
        have hmem := hfated.mem_queue hother
        rw [hqueue] at hmem
        refine (List.mem_cons.1 hmem).resolve_left fun hsame => hwho ?_
        rw [hother, hsame]

/-! ## Rest -/

theorem queue_of_rest (hrest : host.step? = none) :
    isClosing host.hub = false ∧ loopAction? host.hub = none ∧ host.queue = [] := by
  unfold step? at hrest
  split at hrest
  · cases hrest
  · next hcalm =>
      split at hrest
      · cases hrest
      · next hloop =>
          split at hrest
          · next hqueue => exact ⟨Bool.not_eq_true _ ▸ hcalm, hloop, hqueue⟩
          · cases hrest

/-- A job that can finish with nothing but a fault has done so when nothing can go on. -/
theorem Fated.of_rest (hfated : host.Fated fault job) (hrest : host.step? = none) :
    job = .finished (.error fault) := by
  have hqueue := (queue_of_rest hrest).2.2
  cases hfated with
  | told _ _ hturn | closing _ hturn | releasing _ hturn =>
      rw [hqueue] at hturn
      cases hturn
  | finished => rfl

/-- A call that waits for its answer is the one that the job waits for. -/
theorem Solo.awaits_of_waits (hsolo : host.Solo n job) {who : Caller} (hwaits : host.hub.Waits who) :
    job.awaits? = some who := by
  by_cases hwho : job.awaits? = some who
  · exact hwho
  · exact absurd (hsolo.serial.others who hwho) hwaits.not_rests

/-- The job's call waits for its answer while the connection is about to be lost, or has learnt why. -/
inductive Doomed (reason : CloseReason) (host : Host) (job : Job) : Prop
  | waits {who : Caller} (hawaits : job.awaits? = some who) (hwaits : host.hub.Waits who)
      (hcomes : host.hub.Comes reason)
  | fated (hfated : host.Fated (.connectionClosed reason) job)

theorem step?_of_next {a : Action} (hnext : host.hub.Next a) : host.step? = some (host.act a) := by
  unfold step?
  cases hnext with
  | shutdown hclosing => rw [if_pos hclosing]
  | loop hcalm hloop =>
      rw [if_neg (by rw [hcalm]; exact Bool.false_ne_true), hloop]

/-- A call that has just learnt of a fault is given a turn. -/
theorem mem_awakened_of_hears {h : Hub} {a : Action} {who : Caller} (hwaits : h.Waits who)
    (hhears : (h.step a).Hears fault who) : who ∈ awakened h (h.step a) := by
  cases who with
  | create i =>
      obtain ⟨call, hcall, -, hnone⟩ := hwaits
      obtain ⟨call', hcall', -, hanswer⟩ := hhears
      refine mem_awakened_create hcall' fun other hother => ?_
      obtain rfl : call = other := Option.some.inj (hcall.symm.trans hother)
      rw [hnone, hanswer]
      exact ⟨rfl, rfl⟩
  | evaluate i =>
      obtain ⟨call, hcall, -, hnone⟩ := hwaits
      obtain ⟨call', hcall', -, hanswer⟩ := hhears
      refine mem_awakened_evaluate hcall' fun other hother => ?_
      obtain rfl : call = other := Option.some.inj (hcall.symm.trans hother)
      rw [hnone, hanswer]
      exact ⟨rfl, rfl⟩
  | errand i => exact hwaits.elim

/-- Every step takes the job nearer to its fate. -/
theorem Doomed.step (hdoomed : host.Doomed reason job) (hsolo : host.Solo n job) (htidy : host.Tidy)
    (hstep : host.step? = some host') : ∃ after, host'.Solo n after ∧ host'.Doomed reason after := by
  cases hdoomed with
  | waits hawaits hwaits hcomes =>
      have hw := htidy.steady.watched
      obtain ⟨a, hnext, hnearer⟩ := Hub.coming_step hw (hawaits ▸ hsolo.serial) hwaits hcomes
      obtain rfl := Option.some.inj ((step?_of_next hnext).symm.trans hstep)
      have hbegins : begins a = false := by cases hnext <;> rfl
      refine ⟨job, hsolo.act_aside hw hbegins, ?_⟩
      cases hnearer with
      | waits hstill hlater => exact .waits hawaits hstill hlater
      | hears hhears =>
          exact .fated (.told hawaits (.hears hhears)
            (mem_queue_of_awakened (mem_awakened_of_hears hwaits hhears)))
  | fated hfated =>
      obtain ⟨after, hsolo', hfated'⟩ := hfated.step hsolo htidy hstep
      exact ⟨after, hsolo', .fated hfated'⟩

/-- A doomed job has finished with the reason when nothing can go on. -/
theorem Doomed.of_rest (hdoomed : host.Doomed reason job) (hsolo : host.Solo n job)
    (htidy : host.Tidy) (hrest : host.step? = none) :
    job = .finished (.error (.connectionClosed reason)) := by
  cases hdoomed with
  | waits hawaits hwaits hcomes =>
      obtain ⟨a, hnext, -⟩ :=
        Hub.coming_step htidy.steady.watched (hawaits ▸ hsolo.serial) hwaits hcomes
      rw [step?_of_next hnext] at hrest
      cases hrest
  | fated hfated => exact hfated.of_rest hrest

/-- What every step keeps holds when everything has gone on that can. -/
theorem steps_keeps {P : Host → Prop}
    (hstep : ∀ {host host' : Host}, P host → host.step? = some host' → P host') (count : Nat)
    {host : Host} (hp : P host) : P (host.steps count) := by
  induction count generalizing host with
  | zero => exact hp
  | succ count ih =>
      unfold steps
      split
      · exact hp
      · next host' hsome => exact ih (hstep hp hsome)

/-- A doomed job finishes with the reason for which the connection was lost. -/
theorem Doomed.settle (hdoomed : host.Doomed reason job) (hsolo : host.Solo n job)
    (htidy : host.Tidy) : host.settle.Tidy ∧
      host.settle.Solo n (.finished (.error (.connectionClosed reason))) := by
  obtain ⟨htidy', after, hsolo', hdoomed'⟩ : host.settle.Tidy ∧
      ∃ after, host.settle.Solo n after ∧ host.settle.Doomed reason after := by
    refine steps_keeps (P := fun host => host.Tidy ∧
      ∃ after, host.Solo n after ∧ host.Doomed reason after) ?_ host.patience
      ⟨htidy, job, hsolo, hdoomed⟩
    rintro host host' ⟨htidy, job, hsolo, hdoomed⟩ hstep
    exact ⟨(htidy.step hstep).1, hdoomed.step hsolo htidy hstep⟩
  obtain rfl := hdoomed'.of_rest hsolo' htidy' htidy.settle.2
  exact ⟨htidy', hsolo'⟩

end PklHost.Host
