import PklHost.Proofs.Host.Awakening
import PklHost.Proofs.Hub.Ranks

/-!
# A host settles

Whatever the server wrote, a host comes to a point where nothing can go on (`Tidy.settle`): every step
lowers what there is left to do, in the hub and for the jobs and the handles of the users
(`Tidy.step`), and `patience` is more than that.
-/

namespace PklHost.Host

open Hub (Action Caller total)

variable {host host' : Host}

/-! ## What is left to do -/

/-- A job pays for the calls that it will begin. -/
def jobRank : Job → Nat
  -- from below: `create`, then `release`, `close` and `evaluate` on top of it
  | .makingLoader .. => 40
  | .loading .. => 31
  | .closingLoader .. => 22
  | .releasingLoader .. => 15
  | .creating .. | .evaluating .. | .finished _ | .cancelled => 0

/-- A handle pays for the errand that lets its evaluator go. -/
def handleRank (held : Handle) : Nat := if held.released then 0 else 7

/-- A bound on the steps that are left. -/
def weight (host : Host) : Nat :=
  host.queue.length + unheard host.hub + host.hub.rank + total jobRank host.jobs +
    total handleRank host.handles

/-- What an action that a user or a job begins adds to that. -/
def cost : Action → Nat
  -- the rank of what is begun, with a turn for it and, for a call, another for its answer
  | .create _ => 15
  | .evaluate .. | .close .. => 9
  | .release .. => 7
  | .closeManager => 4
  | .advance _ | .abandon _ | .endLaunch _ | .shutdown | .loop | .haltLoop | .arrive _ | .endInput
  | .endOutput => 0

/-- An action that begins no call leaves less to do if the hub has less to do. -/
theorem weight_act_lt (hsound : host.hub.Sound) {a : Action}
    (hlowers : host.hub.Lowers (host.hub.step a)) (hbegins : begins a = false) :
    (host.act a).weight < host.weight := by
  have hawakened := length_awakened hsound a
  have hqueue := host.length_queue_act a
  have hcreates : (host.hub.step a).creates.length = host.hub.creates.length := by
    refine Hub.length_creates_step fun o => ?_
    rintro rfl
    cases hbegins
  have hevaluates : (host.hub.step a).evaluates.length = host.hub.evaluates.length := by
    refine Hub.length_evaluates_step fun s source expr => ?_
    rintro rfl
    cases hbegins
  unfold Hub.Lowers at hlowers
  unfold weight
  rw [hub_act, jobs_act, handles_act]
  omega

/-- Beginning a call costs what it costs. -/
theorem weight_act_le (hsound : host.hub.Sound) {a : Action} (hbegins : begins a = true) :
    (host.act a).weight ≤ host.weight + cost a := by
  have hawakened := length_awakened hsound a
  have hqueue := host.length_queue_act a
  have herrand : ∀ e : Hub.Errand, host.hub.step a = host.hub.beginErrand e → e.rank + 1 = cost a →
      (host.act a).weight ≤ host.weight + cost a := by
    intro e hstep hcost
    have hrank := Hub.rank_beginErrand e host.hub
    have herrands : (host.hub.beginErrand e).errands.length = host.hub.errands.length + 1 :=
      List.length_append
    have hsame : (host.hub.beginErrand e).creates = host.hub.creates ∧
        (host.hub.beginErrand e).evaluates = host.hub.evaluates := ⟨rfl, rfl⟩
    rw [hstep] at hqueue hawakened
    rw [herrands, hsame.1, hsame.2] at hawakened
    unfold weight
    rw [hub_act, jobs_act, handles_act, hstep]
    omega
  cases a with
  | create o =>
      have hrank : (host.hub.step (.create o)).rank = _ := Hub.rank_beginCreate o host.hub
      have hcreates : (host.hub.step (.create o)).creates.length = host.hub.creates.length + 1 :=
        List.length_append
      have hsame : (host.hub.step (.create o)).evaluates = host.hub.evaluates ∧
          (host.hub.step (.create o)).errands = host.hub.errands := ⟨rfl, rfl⟩
      rw [hcreates, hsame.1, hsame.2] at hawakened
      unfold weight
      rw [hub_act, jobs_act, handles_act]
      show _ ≤ _ + 15
      omega
  | evaluate s source expr =>
      have hrank : (host.hub.step (.evaluate s source expr)).rank = _ :=
        Hub.rank_beginEvaluate s source expr host.hub
      have hevaluates : (host.hub.step (.evaluate s source expr)).evaluates.length =
          host.hub.evaluates.length + 1 := List.length_append
      have hsame : (host.hub.step (.evaluate s source expr)).creates = host.hub.creates ∧
          (host.hub.step (.evaluate s source expr)).errands = host.hub.errands := ⟨rfl, rfl⟩
      rw [hevaluates, hsame.1, hsame.2] at hawakened
      unfold weight
      rw [hub_act, jobs_act, handles_act]
      show _ ≤ _ + 9
      omega
  | close s ownsManager => exact herrand (.close s ownsManager .failing) rfl rfl
  | release s ownsManager => exact herrand (.release s ownsManager) rfl rfl
  | closeManager => exact herrand .closeManager rfl rfl
  | _ => cases hbegins

/-! ## What a host keeps -/

/-- A host in which nobody waits for a turn that cannot come. -/
structure Tidy (host : Host) : Prop where
  steady : host.hub.Steady
  /-- Whoever starts the server is first. -/
  first : ∀ i, host.hub.launch = .underway i → host.queue.head? = some (.create i)
  /-- A handle that has an evaluator has a session. -/
  handled : ∀ held ∈ host.handles, ∀ s, held.session = some s → s < host.hub.sessions.length
  /-- A call is given a turn when it begins and when it is answered. -/
  queued : host.queue.length + unheard host.hub ≤
    2 * host.hub.creates.length + 2 * host.hub.evaluates.length + host.hub.errands.length
  /-- Every handle has a job that made it. -/
  few : host.handles.length ≤ host.jobs.length

theorem Tidy.sound (htidy : host.Tidy) : host.hub.Sound := htidy.steady.sound

/-- A call that starts the server has begun to in its own turn. -/
theorem underway_step {h : Hub} {a : Action} {i : Nat} (hafter : (h.step a).launch = .underway i) :
    h.launch = .underway i ∨ a = .advance (.create i) := by
  cases Hub.stages_step h a with
  | kept _ hlaunch | begun _ hlaunch | abandoned _ _ _ _ hlaunch => exact .inl (hlaunch ▸ hafter)
  | advanced ha _ hturn heq _ =>
      rw [heq, Hub.launch_moveCreate] at hafter
      rcases hturn.step.launch with ⟨-, hbegun, -⟩ | ⟨hsame, -⟩
      · obtain rfl := Hub.Launch.underway.inj (hbegun.symm.trans hafter)
        exact .inr ha
      · exact .inl (hsame ▸ hafter)
  | ended _ _ hends => exact absurd hafter (hends.over i)

/-- What an action keeps, whoever is first after it. -/
theorem Tidy.act_of_first (htidy : host.Tidy) {a : Action}
    (hsession : ∀ s source expr, a = .evaluate s source expr → s < host.hub.sessions.length)
    (hfirst : ∀ i, (host.hub.step a).launch = .underway i →
      (host.act a).queue.head? = some (.create i)) : (host.act a).Tidy where
  steady := htidy.steady.step hsession
  first := hfirst
  handled := by
    intro held hheld s hs
    exact Nat.lt_of_lt_of_le (htidy.handled held hheld s hs) (host.hub.length_sessions_step a)
  queued := by
    have hawakened := length_awakened htidy.sound a
    have hqueue := host.length_queue_act a
    have hbefore := htidy.queued
    rw [hub_act]
    omega
  few := htidy.few

/-- An action that begins no call of a user, by whoever is first if it is about to start the server. -/
theorem Tidy.act_aside (htidy : host.Tidy) {a : Action} (hbegins : begins a = false)
    (hcreate : ∀ i, a = .advance (.create i) → host.queue.head? = some (.create i)) :
    (host.act a).Tidy := by
  refine htidy.act_of_first ?_ fun i hunderway => head?_queue_act ?_ hbegins
  · rintro s source expr rfl
    cases hbegins
  · rcases underway_step hunderway with hbefore | ha
    · exact htidy.first i hbefore
    · exact hcreate i ha

/-- Nobody is starting the server. -/
def Landed (host : Host) : Prop := ∀ i, host.hub.launch ≠ .underway i

theorem Landed.act (hlanded : host.Landed) {a : Action} (ha : ∀ i, a ≠ .advance (.create i)) :
    (host.act a).Landed := by
  intro i hunderway
  rcases underway_step hunderway with hbefore | hcreate
  · exact hlanded i hbefore
  · exact ha i hcreate

/-- An action by which a user begins a call, while nobody is starting the server. -/
theorem Tidy.act_begins (htidy : host.Tidy) (hlanded : host.Landed) {a : Action}
    (hbegins : begins a = true)
    (hsession : ∀ s source expr, a = .evaluate s source expr → s < host.hub.sessions.length) :
    (host.act a).Tidy := by
  refine htidy.act_of_first hsession fun i hunderway => ?_
  refine absurd hunderway (hlanded.act ?_ i)
  rintro j rfl
  cases hbegins

/-- Actions by which a user begins calls, one after the other. -/
theorem Tidy.acts_begin {actions : List Action} (htidy : host.Tidy) (hlanded : host.Landed)
    (hbegin : ∀ a ∈ actions, begins a = true)
    (hsession : ∀ a ∈ actions, ∀ s source expr, a = .evaluate s source expr →
      s < host.hub.sessions.length) :
    (host.acts actions).Tidy ∧ (host.acts actions).Landed ∧
      (host.acts actions).weight ≤ host.weight + total cost actions := by
  induction actions generalizing host with
  | nil => exact ⟨htidy, hlanded, Nat.le_refl _⟩
  | cons a actions ih =>
      have ha := hbegin a List.mem_cons_self
      have hrest := ih (htidy.act_begins hlanded ha (hsession a List.mem_cons_self))
        (hlanded.act fun i => by rintro rfl; cases ha)
        (fun b hb => hbegin b (List.mem_cons_of_mem _ hb))
        (fun b hb s source expr heq => Nat.lt_of_lt_of_le
          (hsession b (List.mem_cons_of_mem _ hb) s source expr heq) (host.hub.length_sessions_step a))
      have hweight := weight_act_le htidy.sound ha
      refine ⟨hrest.1, hrest.2.1, ?_⟩
      show ((host.act a).acts actions).weight ≤ host.weight + (cost a + total cost actions)
      have hle := hrest.2.2
      omega

/-! ## Evaluators that nobody holds -/

theorem stray?_eq_some {i s : Nat} {held : Handle} (hstray : host.stray? = some (i, held, s)) :
    host.handles[i]? = some held ∧ held.session = some s ∧ held.dropped = true ∧
      held.released = false := by
  unfold stray? at hstray
  obtain ⟨j, -, hj⟩ := List.exists_of_findSome?_eq_some hstray
  cases hheld : host.handles[j]? with
  | none =>
      rw [hheld] at hj
      cases hj
  | some other =>
      rw [hheld] at hj
      dsimp only at hj
      cases hsession : other.session with
      | none =>
          rw [hsession] at hj
          cases hj
      | some s' =>
          rw [hsession] at hj
          dsimp only at hj
          split at hj
          · next hloose =>
              obtain ⟨rfl, hpair⟩ := Prod.mk.inj (Option.some.inj hj)
              obtain ⟨rfl, rfl⟩ := Prod.mk.inj hpair
              simp only [Bool.and_eq_true, Bool.not_eq_true'] at hloose
              exact ⟨hheld, hsession, hloose.1.1, hloose.1.2⟩
          · cases hj

/-- A host whose handles change, but not how many there are. -/
theorem Tidy.with_handles (htidy : host.Tidy) {handles : List Handle}
    (hlength : handles.length = host.handles.length)
    (hhandled : ∀ held ∈ handles, ∀ s, held.session = some s → s < host.hub.sessions.length) :
    ({ host with handles } : Host).Tidy where
  steady := htidy.steady
  first := htidy.first
  handled := hhandled
  queued := htidy.queued
  few := Nat.le_trans (Nat.le_of_eq hlength) htidy.few

/-- Letting go of an evaluator that nobody holds costs what its handle paid. -/
theorem Tidy.releaseStrays (htidy : host.Tidy) (hlanded : host.Landed) :
    host.releaseStrays.Tidy ∧ host.releaseStrays.Landed ∧
      host.releaseStrays.weight ≤ host.weight := by
  unfold Host.releaseStrays
  generalize List.range host.handles.length = turns
  induction turns generalizing host with
  | nil => exact ⟨htidy, hlanded, Nat.le_refl _⟩
  | cons turn turns ih =>
      rw [List.foldl_cons]
      split
      · next i held s hstray =>
          obtain ⟨hheld, hsession, -, hreleased⟩ := stray?_eq_some hstray
          have hmarked : ({ host with
              handles := host.handles.set i { held with released := true } } : Host).Tidy := by
            refine htidy.with_handles List.length_set fun other hother s' hs' => ?_
            rcases List.mem_or_eq_of_mem_set hother with hold | rfl
            · exact htidy.handled other hold s' hs'
            · exact htidy.handled held (List.mem_of_getElem? hheld) s' hs'
          have htotal := Hub.total_set (f := handleRank) hheld { held with released := true }
          have hpaid : handleRank held = 7 := by
            unfold handleRank
            rw [hreleased]
            rfl
          have hweight := weight_act_le (a := .release s held.ownsManager) hmarked.sound rfl
          have hcost : cost (.release s held.ownsManager) = 7 := rfl
          have hspent : handleRank { held with released := true } = 0 := rfl
          have hnobody : ({ host with
              handles := host.handles.set i { held with released := true } } : Host).Landed := hlanded
          obtain ⟨hrest, hstill, hle⟩ := ih
            (hmarked.act_begins (a := .release s held.ownsManager) hlanded rfl fun _ _ _ => Hub.Action.noConfusion)
            (hnobody.act fun _ => Hub.Action.noConfusion)
          refine ⟨hrest, hstill, Nat.le_trans hle (Nat.le_trans hweight ?_)⟩
          unfold weight
          dsimp only
          omega
      · exact ih htidy hlanded

/-! ## Jobs that go on -/

/-- The session that a call created is there. -/
theorem created?_session {h : Hub} (hsound : h.Sound) {i s : Nat}
    (hcreated : Job.created? h i = some (.ok s)) : s < h.sessions.length := by
  have hfinished : Hub.createOutcome? i h = some (.ok s) := by
    refine Hub.createOutcome?_eq_some.2 ?_
    unfold Job.created? at hcreated
    split at hcreated
    · next hcall =>
        obtain rfl := Option.some.inj hcreated
        exact Hub.createStages_getElem?.2 ⟨_, hcall, rfl⟩
    · cases hcreated
  obtain ⟨session, hsession⟩ := hsound.returned_session hfinished
  exact (List.getElem?_eq_some_iff.1 hsession).1

/-- What a job begins when it goes on is paid for by its rank, and it asks only in sessions that are there. -/
structure Pays (h : Hub) (job after : Job) (actions : List Action) : Prop where
  rank : jobRank after + total cost actions ≤ jobRank job
  begins : ∀ a ∈ actions, begins a = true
  known : ∀ a ∈ actions, ∀ s source expr, a = .evaluate s source expr → s < h.sessions.length

section

variable {h : Hub} {job after : Job}

theorem pays_nil (hrank : jobRank after ≤ jobRank job) : Pays h job after [] where
  rank := hrank
  begins _ ha := absurd ha List.not_mem_nil
  known _ ha := absurd ha List.not_mem_nil

theorem pays_singleton {a : Action} (hrank : jobRank after + cost a ≤ jobRank job)
    (hbegins : Host.begins a = true)
    (hknown : ∀ s source expr, a = .evaluate s source expr → s < h.sessions.length) :
    Pays h job after [a] where
  rank := hrank
  begins _ hb := List.mem_singleton.1 hb ▸ hbegins
  known _ hb := List.mem_singleton.1 hb ▸ hknown

/-- A job that has read a project ends, or creates an evaluator with its settings. -/
theorem pays_afterLoading {purpose : Purpose} {i : Nat} {loaded loaded' : Except EvaluatorError Project}
    {actions : List Action} (hafter : Job.afterLoading h purpose loaded = (after, actions)) :
    Pays h (.releasingLoader purpose i loaded') after actions := by
  unfold Job.afterLoading at hafter
  split at hafter
  · obtain ⟨rfl, rfl⟩ := Prod.mk.inj hafter
    exact pays_nil (Nat.zero_le _)
  · split at hafter
    · obtain ⟨rfl, rfl⟩ := Prod.mk.inj hafter
      exact pays_nil (Nat.zero_le _)
    · split at hafter
      · obtain ⟨rfl, rfl⟩ := Prod.mk.inj hafter
        exact pays_nil (Nat.zero_le _)
      · obtain ⟨rfl, rfl⟩ := Prod.mk.inj hafter
        exact pays_singleton (Nat.le_refl _) rfl nofun

/-- A job that goes on has paid for what it begins. -/
theorem pays_of_resume? {actions : List Action} (hsound : h.Sound)
    (hresume : job.resume? h = some (after, actions)) : Pays h job after actions := by
  unfold Job.resume? at hresume
  cases job with
  | creating handle i | evaluating s query i =>
      obtain ⟨outcome, -, heq⟩ := Option.map_eq_some_iff.1 hresume
      obtain ⟨rfl, rfl⟩ := Prod.mk.inj heq
      exact pays_nil (Nat.le_refl _)
  | makingLoader purpose source i =>
      obtain ⟨outcome, houtcome, heq⟩ := Option.map_eq_some_iff.1 hresume
      cases outcome with
      | ok s =>
          obtain ⟨rfl, rfl⟩ := Prod.mk.inj heq
          refine pays_singleton (Nat.le_refl _) rfl ?_
          rintro _ _ _ ⟨⟩
          exact created?_session hsound houtcome
      | error e =>
          obtain ⟨rfl, rfl⟩ := Prod.mk.inj heq
          exact pays_nil (Nat.zero_le _)
  | loading purpose s i =>
      obtain ⟨outcome, -, heq⟩ := Option.map_eq_some_iff.1 hresume
      obtain ⟨rfl, rfl⟩ := Prod.mk.inj heq
      exact pays_singleton (Nat.le_refl _) rfl nofun
  | closingLoader purpose s i result =>
      dsimp only at hresume
      split at hresume
      · obtain ⟨rfl, rfl⟩ := Prod.mk.inj (Option.some.inj hresume)
        exact pays_singleton (Nat.le_refl _) rfl nofun
      · cases hresume
  | releasingLoader purpose i loaded =>
      dsimp only at hresume
      split at hresume
      · exact pays_afterLoading (Option.some.inj hresume)
      · cases hresume
  | finished _ | cancelled => cases hresume

end

/-- A handle gets an evaluator at most. -/
theorem fill_eq (job after : Job) (host : Host) :
    fill job after host = host ∨ ∃ handle held i s, job = .creating handle i ∧
      after = .finished (.ok (.evaluator s)) ∧ host.handles[handle]? = some held ∧
      fill job after host =
        { host with handles := host.handles.set handle { held with session := some s } } := by
  unfold fill
  split
  · next handle i s =>
      split
      · next held hheld => exact .inr ⟨handle, held, i, s, rfl, rfl, hheld, rfl⟩
      · exact .inl rfl
  · exact .inl rfl

theorem hub_fill (job after : Job) (host : Host) : (fill job after host).hub = host.hub := by
  rcases fill_eq job after host with hsame | ⟨handle, held, i, s, -, -, -, heq⟩
  · rw [hsame]
  · rw [heq]

/-- A job that finishes with an evaluator has a session for its handle. -/
theorem Tidy.fill (htidy : host.Tidy) {job after : Job} {actions : List Action}
    (hresume : job.resume? host.hub = some (after, actions)) :
    (fill job after host).Tidy ∧ (Host.fill job after host).weight = host.weight := by
  rcases fill_eq job after host with hsame | ⟨handle, held, i, s, rfl, rfl, hheld, heq⟩
  · rw [hsame]
    exact ⟨htidy, rfl⟩
  · have hs : s < host.hub.sessions.length := by
      obtain ⟨outcome, houtcome, hafter⟩ := Option.map_eq_some_iff.1 hresume
      have hpair := (Prod.mk.inj hafter).1
      cases outcome with
      | error e => cases hpair
      | ok s' =>
          obtain rfl := JobResult.evaluator.inj (Except.ok.inj (Job.finished.inj hpair))
          exact created?_session htidy.sound houtcome
    rw [heq]
    refine ⟨htidy.with_handles List.length_set fun other hother s' hs' => ?_, ?_⟩
    · rcases List.mem_or_eq_of_mem_set hother with hold | rfl
      · exact htidy.handled other hold s' hs'
      · obtain rfl := Option.some.inj hs'
        exact hs
    · have htotal := Hub.total_set (f := handleRank) hheld { held with session := some s }
      have hsame : handleRank { held with session := some s } = handleRank held := rfl
      unfold weight
      dsimp only
      omega

/-- The job that waits for a call which is over goes on at its own expense. -/
theorem Tidy.resume (htidy : host.Tidy) (hlanded : host.Landed) (who : Caller) :
    (resume who host).Tidy ∧ (Host.resume who host).weight ≤ host.weight := by
  unfold Host.resume
  split
  · exact ⟨htidy, Nat.le_refl _⟩
  · next n _ =>
      split
      · exact ⟨htidy, Nat.le_refl _⟩
      · next job hjob =>
          split
          · exact ⟨htidy, Nat.le_refl _⟩
          · next after actions hresume =>
              have hset : ({ host with jobs := host.jobs.set n after } : Host).Tidy :=
                { htidy with few := by rw [List.length_set]; exact htidy.few }
              obtain ⟨hpaid, hbegin, hknown⟩ := pays_of_resume? htidy.sound hresume
              have htotal := Hub.total_set (f := jobRank) hjob after
              have hjobs : ({ host with jobs := host.jobs.set n after } : Host).weight + jobRank job =
                  host.weight + jobRank after := by
                unfold weight
                dsimp only
                omega
              obtain ⟨hfilled, hsame⟩ := @Tidy.fill _ hset job after actions hresume
              have hhub := hub_fill job after { host with jobs := host.jobs.set n after }
              obtain ⟨hacted, hstill, hle⟩ := hfilled.acts_begin
                (by rw [Landed, hhub]; exact hlanded) hbegin (by rw [hhub]; exact hknown)
              obtain ⟨hrest, -, hfinal⟩ := hacted.releaseStrays hstill
              exact ⟨hrest, by omega⟩

/-! ## One step -/

theorem isDown_of_isClosed {h : Hub} (hclosed : h.connection.isClosed = true)
    (hcalm : isClosing h = false) : h.connection.isDown = true := by
  unfold isClosing at hcalm
  rw [hclosed] at hcalm
  simpa using hcalm

theorem phase_of_isClosing {h : Hub} (hclosing : isClosing h = true) :
    h.connection.phase.IsClosing := by
  unfold isClosing Hub.Connection.isClosed Hub.Connection.isDown at hclosing
  cases hphase : h.connection.phase with
  | isOpen | closed reason =>
      rw [hphase] at hclosing
      cases hclosing
  | closing reason progress => trivial

/-- The loop does what lowers what there is left to do. -/
theorem lowers_of_loopAction {h : Hub} (hsteady : h.Steady) (hcalm : isClosing h = false) {a : Action}
    (ha : loopAction? h = some a) : (a = .loop ∨ a = .haltLoop) ∧ h.Lowers (h.step a) := by
  have hshuts : h.loop = .shuttingDown → h.connection.isDown = true :=
    fun hloop => isDown_of_isClosed (hsteady.shut .loop hloop) hcalm
  have hbusy : h.loop ≠ .reading → h.loop ≠ .ended → some Action.loop = some a →
      (a = .loop ∨ a = .haltLoop) ∧ h.Lowers (h.step a) := by
    intro hreading hended heq
    obtain rfl := Option.some.inj heq
    exact ⟨.inl rfl, Hub.lowers_loop (fun hloop => absurd hloop hreading) hended hshuts⟩
  unfold loopAction? at ha
  cases hloop : h.loop with
  | reading =>
      rw [hloop] at ha
      dsimp only at ha
      split at ha
      · next hdown =>
          obtain rfl := Option.some.inj ha
          exact ⟨.inr rfl, Hub.lowers_haltLoop hloop hdown⟩
      · split at ha
        · next hready =>
            obtain rfl := Option.some.inj ha
            refine ⟨.inl rfl, Hub.lowers_loop (fun _ => Bool.or_eq_true_iff.1 hready) ?_ hshuts⟩
            rw [hloop]
            exact Hub.Loop.noConfusion
        · cases ha
  | ended =>
      rw [hloop] at ha
      cases ha
  | routed s m | losing reason | shuttingDown =>
      rw [hloop] at ha hbusy
      exact hbusy Hub.Loop.noConfusion Hub.Loop.noConfusion ha

/-- A call that creates and has something to do in its turn ends the start of the server, or goes on. -/
theorem Tidy.callAction_create (htidy : host.Tidy) (hcalm : isClosing host.hub = false) {i : Nat}
    (hfirst : host.queue.head? = some (.create i)) {a : Action}
    (ha : host.callAction? (.create i) = some a) :
    ∃ call, host.hub.creates[i]? = some call ∧
      (call.stage = .launching ∧ a = .endLaunch host.startFault ∨
        call.GoesOn host.hub ∧ a = .advance (.create i)) := by
  have hsteady := htidy.steady
  obtain ⟨call, hcall, haction⟩ := Option.bind_eq_some_iff.1 ha
  have hat := Hub.createStages_getElem?.2 ⟨call, hcall, rfl⟩
  refine ⟨call, hcall, ?_⟩
  by_cases hlaunching : call.stage = .launching
  · rw [hlaunching] at haction
    exact .inl ⟨hlaunching, (Option.some.inj haction).symm⟩
  · have hshuts : call.stage.shuts = true → host.hub.connection.isDown = true :=
      fun hshuts => isDown_of_isClosed (Hub.createStages_shuts hsteady.shut hat hshuts) hcalm
    -- nobody else is first, and whoever starts the server is
    have hentering : call.stage = .entering → ∀ j, host.hub.launch ≠ .underway j := by
      intro hstage j hunderway
      have hother := htidy.first j hunderway
      rw [hfirst] at hother
      obtain rfl := Hub.Caller.create.inj (Option.some.inj hother)
      obtain ⟨other, hcall', hlaunch⟩ := htidy.sound.launcher i hunderway
      obtain rfl : other = call := Option.some.inj (hcall'.symm.trans hcall)
      exact hlaunching hlaunch
    have hwaiting : call.stage = .waiting → call.answer ≠ none := by
      intro hstage hnone
      rw [hstage, hnone] at haction
      cases haction
    have hover : ¬ Hub.createCourse.Over call.stage := by
      rintro (⟨o, ho⟩ | habandoned)
      · rw [Hub.CreateStage.outcome?_eq_some.1 ho] at haction
        cases haction
      · rw [habandoned] at haction
        cases haction
    refine .inr ⟨⟨hentering, hlaunching, hshuts, hwaiting, hover⟩, ?_⟩
    generalize call.stage = stage at haction hlaunching
    cases stage with
    | launching => exact absurd rfl hlaunching
    | waiting =>
        dsimp only at haction
        split at haction
        · exact (Option.some.inj haction).symm
        · cases haction
    | finished outcome => cases haction
    | abandoned => cases haction
    | _ => exact (Option.some.inj haction).symm

/-- A call that evaluates and has something to do in its turn goes on. -/
theorem Tidy.callAction_evaluate (htidy : host.Tidy) (hcalm : isClosing host.hub = false) {i : Nat}
    {a : Action} (ha : host.callAction? (.evaluate i) = some a) :
    ∃ call, host.hub.evaluates[i]? = some call ∧ call.GoesOn host.hub ∧
      a = .advance (.evaluate i) := by
  obtain ⟨call, hcall, haction⟩ := Option.bind_eq_some_iff.1 ha
  have hat := Hub.evaluateStages_getElem?.2 ⟨call, hcall, rfl⟩
  have hshuts : call.stage.shuts = true → host.hub.connection.isDown = true :=
    fun hshuts => isDown_of_isClosed (Hub.evaluateStages_shuts htidy.steady.shut hat hshuts) hcalm
  have hwaiting : call.stage = .waiting → call.answer ≠ none := by
    intro hstage hnone
    rw [hstage, hnone] at haction
    cases haction
  have hover : ¬ Hub.evaluateCourse.Over call.stage := by
    rintro (⟨o, ho⟩ | habandoned)
    · rw [Hub.EvaluateStage.outcome?_eq_some.1 ho] at haction
      cases haction
    · rw [habandoned] at haction
      cases haction
  refine ⟨call, hcall, ⟨hshuts, hwaiting, hover⟩, ?_⟩
  generalize call.stage = stage at haction
  cases stage with
  | waiting =>
      dsimp only at haction
      split at haction
      · exact (Option.some.inj haction).symm
      · cases haction
  | finished outcome => cases haction
  | abandoned => cases haction
  | _ => exact (Option.some.inj haction).symm

/-- A call that has a turn and can go on does what lowers what there is left to do. -/
theorem Tidy.lowers_of_callAction (htidy : host.Tidy) (hcalm : isClosing host.hub = false)
    {who : Caller} (hfirst : host.queue.head? = some who) {a : Action}
    (ha : host.callAction? who = some a) :
    begins a = false ∧ (∀ i, a = .advance (.create i) → who = .create i) ∧
      host.hub.Lowers (host.hub.step a) := by
  cases who with
  | create i =>
      obtain ⟨call, hcall, ⟨hlaunching, rfl⟩ | ⟨hgoes, rfl⟩⟩ :=
        htidy.callAction_create hcalm hfirst ha
      · have hat := Hub.createStages_getElem?.2 ⟨call, hcall, hlaunching⟩
        exact ⟨rfl, fun _ => Hub.Action.noConfusion,
          Hub.lowers_endLaunch (htidy.steady.launched i hat) hat host.startFault⟩
      · refine ⟨rfl, ?_, Hub.lowers_create hcall (Hub.stepCreate_ne hgoes)⟩
        intro j hsame
        exact Hub.Action.advance.inj hsame
  | evaluate i =>
      obtain ⟨call, hcall, hgoes, rfl⟩ := htidy.callAction_evaluate hcalm ha
      have hsession := List.getElem?_eq_getElem (htidy.steady.housed i call hcall)
      refine ⟨rfl, ?_, Hub.lowers_evaluate hcall hsession (Hub.stepEvaluate_ne hgoes)⟩
      rintro j ⟨⟩
  | errand i =>
      obtain ⟨e, he, haction⟩ := Option.bind_eq_some_iff.1 ha
      have hover : e ≠ .finished := by
        rintro rfl
        cases haction
      have haction : a = .advance (.errand i) := by
        cases e with
        | finished => exact absurd rfl hover
        | _ => exact (Option.some.inj haction).symm
      subst haction
      refine ⟨rfl, ?_, Hub.lowers_errand he (Hub.stepErrand_ne (fun hshuts => ?_) hover)⟩
      · rintro j ⟨⟩
      · exact isDown_of_isClosed
          (Hub.errands_shuts htidy.steady.shut (List.mem_of_getElem? he) hshuts) hcalm

/-- Whoever starts the server has something to go on with. -/
theorem Tidy.landed_of_callAction (htidy : host.Tidy) {who : Caller}
    (hfirst : host.queue.head? = some who) (hnone : host.callAction? who = none) : host.Landed := by
  intro i hunderway
  have hother := htidy.first i hunderway
  rw [hfirst] at hother
  obtain rfl := Option.some.inj hother
  obtain ⟨call, hcall, hstage⟩ := htidy.sound.launcher i hunderway
  have hsome : host.callAction? (.create i) = some (.endLaunch host.startFault) := by
    refine Option.bind_eq_some_iff.2 ⟨call, hcall, ?_⟩
    rw [hstage]
  rw [hsome] at hnone
  cases hnone

theorem Tidy.with_queue (htidy : host.Tidy) (hlanded : host.Landed) {queue : List Caller}
    (hlength : queue.length ≤ host.queue.length) : ({ host with queue } : Host).Tidy where
  steady := htidy.steady
  first := fun i hunderway => absurd hunderway (hlanded i)
  handled := htidy.handled
  queued := Nat.le_trans (Nat.add_le_add_right hlength _) htidy.queued
  few := htidy.few

/-- An action that begins nothing keeps the host tidy, and leaves less to do. -/
theorem Tidy.act_lowers (htidy : host.Tidy) {a : Action} (hbegins : begins a = false)
    (hcreate : ∀ i, a = .advance (.create i) → host.queue.head? = some (.create i))
    (hlowers : host.hub.Lowers (host.hub.step a)) :
    (host.act a).Tidy ∧ (host.act a).weight < host.weight :=
  ⟨htidy.act_aside hbegins hcreate, weight_act_lt htidy.sound hlowers hbegins⟩

theorem ne_abandon_of_callAction {who : Caller} {a : Action} (ha : host.callAction? who = some a)
    (other : Caller) : a ≠ .abandon other := by
  rintro rfl
  cases who with
  | create i | evaluate i =>
      obtain ⟨call, -, haction⟩ := Option.bind_eq_some_iff.1 ha
      revert haction
      generalize call.stage = stage
      intro haction
      cases stage with
      | waiting =>
          dsimp only at haction
          split at haction <;> cases haction
      | _ => cases haction
  | errand i =>
      obtain ⟨e, -, haction⟩ := Option.bind_eq_some_iff.1 ha
      cases e <;> cases haction

/-- What a step of a host is: somebody goes on, or goes on while a reader runs for it, or the first call of
the order of turns has nothing to go on with and the job that waits for it may have. -/
inductive Moves (host : Host) : Host → Prop
  | acts {a : Action} (hbegins : begins a = false) (hkeeps : ∀ other, a ≠ .abandon other)
      (hcreate : ∀ i, a = .advance (.create i) → host.queue.head? = some (.create i))
      (hlowers : host.hub.Lowers (host.hub.step a)) : Moves host (host.act a)
  | reads {who : Caller} {rest : List Caller} {a : Action} (hqueue : host.queue = who :: rest)
      (hlanded : host.Landed) (hbegins : begins a = false) (hkeeps : ∀ other, a ≠ .abandon other)
      (hcreate : ∀ i, a ≠ .advance (.create i)) (hlowers : host.hub.Lowers (host.hub.step a)) :
      Moves host (act { host with queue := rest ++ [who] } a)
  | ends {who : Caller} {rest : List Caller} (hqueue : host.queue = who :: rest)
      (hlanded : host.Landed) (hnone : host.callAction? who = none) :
      Moves host (resume who { host with queue := rest })

theorem Tidy.moves_takeTurn (htidy : host.Tidy) (hcalm : isClosing host.hub = false) {who : Caller}
    {rest : List Caller} (hqueue : host.queue = who :: rest) :
    host.Moves (host.takeTurn who rest) := by
  have hfirst : host.queue.head? = some who := by rw [hqueue, List.head?_cons]
  unfold takeTurn
  split
  · next hnone => exact .ends hqueue (htidy.landed_of_callAction hfirst hnone) hnone
  · next a ha =>
      obtain ⟨hbegins, hcreate, hlowers⟩ := htidy.lowers_of_callAction hcalm hfirst ha
      have hkeeps := ne_abandon_of_callAction ha
      split
      · next haside =>
          -- only an errand runs a reader, so that nobody is starting the server
          have hlanded : host.Landed := by
            intro i hunderway
            have hother := htidy.first i hunderway
            rw [hfirst] at hother
            obtain rfl := Option.some.inj hother
            cases haside
          refine .reads hqueue hlanded hbegins hkeeps (fun i hi => ?_) hlowers
          obtain rfl := hcreate i hi
          cases haside
      · refine .acts hbegins hkeeps (fun i hi => ?_) hlowers
        rw [hfirst, hcreate i hi]

theorem Tidy.moves (htidy : host.Tidy) (hstep : host.step? = some host') : host.Moves host' := by
  unfold step? at hstep
  split at hstep
  · next hclosing =>
      -- a shutdown that is under way goes before everybody else
      obtain rfl := Option.some.inj hstep
      exact .acts rfl (fun _ => Hub.Action.noConfusion) (fun _ => Hub.Action.noConfusion)
        (Hub.lowers_shutdown (phase_of_isClosing hclosing))
  · next hcalm =>
      have hcalm := Bool.not_eq_true _ ▸ hcalm
      split at hstep
      · next a ha =>
          obtain rfl := Option.some.inj hstep
          obtain ⟨rfl | rfl, hlowers⟩ := lowers_of_loopAction htidy.steady hcalm ha <;>
            exact .acts rfl (fun _ => Hub.Action.noConfusion) (fun _ => Hub.Action.noConfusion) hlowers
      · split at hstep
        · cases hstep
        · next who rest hqueue =>
            obtain rfl := Option.some.inj hstep
            exact htidy.moves_takeTurn hcalm hqueue

/-- Every step keeps a host tidy, and leaves less to do. -/
theorem Tidy.step (htidy : host.Tidy) (hstep : host.step? = some host') :
    host'.Tidy ∧ host'.weight < host.weight := by
  cases htidy.moves hstep with
  | acts hbegins _ hcreate hlowers => exact htidy.act_lowers hbegins hcreate hlowers
  | @reads who rest a hqueue hlanded hbegins _ hcreate hlowers =>
      have hsame : (rest ++ [who]).length = host.queue.length := by
        rw [hqueue, List.length_append]
        rfl
      have hmoved := htidy.with_queue hlanded (Nat.le_of_eq hsame)
      obtain ⟨hafter, hlt⟩ := hmoved.act_lowers hbegins (fun i hi => absurd hi (hcreate i)) hlowers
      refine ⟨hafter, Nat.lt_of_lt_of_le hlt ?_⟩
      unfold weight
      dsimp only
      omega
  | @ends who rest hqueue hlanded _ =>
      have hshorter : rest.length < host.queue.length := by
        rw [hqueue]
        exact Nat.lt_succ_self _
      obtain ⟨hafter, hle⟩ :=
        (htidy.with_queue hlanded (Nat.le_of_lt hshorter)).resume hlanded who
      refine ⟨hafter, Nat.lt_of_le_of_lt hle ?_⟩
      unfold weight
      dsimp only
      omega

/-! ## Rest -/

/-- What there is left to do is less than the patience that a host has. -/
theorem Tidy.weight_le (htidy : host.Tidy) : host.weight ≤ host.patience := by
  have hqueued := htidy.queued
  have hfew := htidy.few
  have hroomy : host.hub.connection.registry.length + host.hub.connection.phase.left.length ≤
      host.hub.sessions.length := by
    have hroomy := htidy.steady.roomy
    unfold Hub.Doors.Roomy at hroomy
    rwa [Hub.length_doors_sessions] at hroomy
  have hcreates := Hub.total_le Hub.CreateStage.rank_le host.hub.createStages
  have hevaluates := Hub.total_le Hub.EvaluateStage.rank_le host.hub.evaluateStages
  have herrands := Hub.total_le Hub.Errand.rank_le host.hub.errands
  rw [Hub.length_createStages] at hcreates
  rw [Hub.length_evaluateStages] at hevaluates
  have hdoors : host.hub.doors.rank ≤ 4 + host.hub.sessions.length := by
    have hphase : ∀ phase : Hub.Phase, phase.rank ≤ 4 + phase.left.length := by
      intro phase
      cases phase with
      | closing reason progress =>
          cases progress with
          | failingSessions left => exact Nat.add_le_add_right (Nat.le_of_ble_eq_true rfl) _
          | failingCreates | drainingRegistry => exact Nat.le_of_ble_eq_true rfl
      | isOpen | closed reason => exact Nat.le_of_ble_eq_true rfl
    have hle := hphase host.hub.connection.phase
    show host.hub.connection.phase.rank + host.hub.connection.registry.length ≤ _
    omega
  have hloop := Hub.Loop.rank_le host.hub.loop
  have hinput := Hub.inputRank_le host.hub.input
  have hjobs : total jobRank host.jobs ≤ 40 * host.jobs.length := by
    refine Hub.total_le (fun job => ?_) _
    cases job <;> exact Nat.le_of_ble_eq_true rfl
  have hhandles : total handleRank host.handles ≤ 7 * host.handles.length := by
    refine Hub.total_le (fun held => ?_) _
    unfold handleRank
    split <;> exact Nat.le_of_ble_eq_true rfl
  unfold weight patience Hub.rank
  dsimp only
  omega

theorem Tidy.steps_rest (htidy : host.Tidy) {count : Nat} (hcount : host.weight ≤ count) :
    (host.steps count).Tidy ∧ (host.steps count).step? = none := by
  induction count generalizing host with
  | zero =>
      refine ⟨htidy, ?_⟩
      cases hstep : host.step? with
      | none => exact hstep
      | some host' =>
          have hlt := (htidy.step hstep).2
          omega
  | succ count ih =>
      unfold steps
      split
      · next hnone => exact ⟨htidy, hnone⟩
      · next host' hsome =>
          obtain ⟨hafter, hlt⟩ := htidy.step hsome
          exact ih hafter (by omega)

/-- A host comes to a point where nothing can go on. -/
theorem Tidy.settle (htidy : host.Tidy) : host.settle.Tidy ∧ host.settle.step? = none :=
  htidy.steps_rest htidy.weight_le

theorem steps_of_rest (hrest : host.step? = none) (count : Nat) : host.steps count = host := by
  cases count with
  | zero => rfl
  | succ count =>
      unfold steps
      rw [hrest]

theorem steps_of_step (hstep : host.step? = some host') (count : Nat) :
    host.steps (count + 1) = host'.steps count := by
  rw [steps, hstep]

/-- It is the same point after a step on the way. -/
theorem Tidy.settle_step (htidy : host.Tidy) (hstep : host.step? = some host') :
    host.settle = host'.settle := by
  -- all counts of steps that are enough lead to the same point
  have hsame : ∀ {count count' : Nat} {host : Host}, host.Tidy → host.weight ≤ count →
      host.weight ≤ count' → host.steps count = host.steps count' := by
    intro count
    induction count with
    | zero =>
        intro count' host htidy hcount _
        have hrest := (htidy.steps_rest hcount).2
        exact (steps_of_rest hrest count').symm
    | succ count ih =>
        intro count' host htidy hcount hcount'
        cases hnext : host.step? with
        | none => rw [steps_of_rest hnext, steps_of_rest hnext]
        | some next =>
            obtain ⟨hafter, hlt⟩ := htidy.step hnext
            cases count' with
            | zero => omega
            | succ count' =>
                rw [steps_of_step hnext, steps_of_step hnext]
                exact ih hafter (by omega) (by omega)
  obtain ⟨hafter, hlt⟩ := htidy.step hstep
  have hpatience := htidy.weight_le
  have hlater := hafter.weight_le
  show host.steps host.patience = host'.steps host'.patience
  rw [hsame htidy hpatience (Nat.le_succ_of_le (Nat.le_max_left host.weight host'.patience))]
  rw [steps_of_step hstep]
  exact hsame hafter (by omega) hlater

end PklHost.Host
