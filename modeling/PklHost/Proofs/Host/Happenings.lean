import Mathlib.Logic.Relation
import PklHost.Proofs.Host.Dialogues

/-!
# Whatever may happen to a host

`Becomes` leaves everything open but one job: what the server does and when, whose turn it is, and what the
other users of the host do.  Whatever happens, the hub takes actions of its own (`Becomes.runsTo`), and the one
job stays as it is or goes on once its call is over (`Happens.goesFrom`).  A dialogue with a server is one of the
ways in which a host goes on (`becomes_run`).
-/

namespace PklHost.Host

open Hub (Action Caller)

variable {host host' host'' : Host} {n : Nat} {job : Job}

/-- One of the things that may happen to a host whose user does not give the job up that stands at a place. -/
inductive Happens (n : Nat) (host : Host) : Host → Prop
  /-- The server, the loop or a call goes on, or a user begins a call. -/
  | acts (a : Action) : Happens n host (host.act a)
  /-- The calls have their turns in some other order. -/
  | turns (queue : List Caller) : Happens n host { host with queue }
  /-- The job that waits for a call goes on if the call is over. -/
  | resumes (who : Caller) : Happens n host (Host.resume who host)
  | starts (job : Job) : Happens n host (host.addJob job)
  | cancels {m : Nat} (hm : m ≠ n) : Happens n host (host.cancel m)
  /-- Users get evaluators and let them go. -/
  | holds (handles : List Handle) : Happens n host { host with handles }

/-- What a host may become while a job is left to itself. -/
def Becomes (n : Nat) : Host → Host → Prop := Relation.ReflTransGen (Happens n)

/-! ## The hub acts -/

theorem hub_acts (actions : List Action) (host : Host) :
    (host.acts actions).hub = host.hub.run actions := by
  induction actions generalizing host with
  | nil => rfl
  | cons a actions ih => exact ih (host.act a)

theorem jobs_acts (actions : List Action) (host : Host) : (host.acts actions).jobs = host.jobs := by
  induction actions generalizing host with
  | nil => rfl
  | cons a actions ih => exact ih (host.act a)

theorem releaseStrays_acts (host : Host) : host.releaseStrays.jobs = host.jobs ∧
    ∃ strays, host.releaseStrays.hub = host.hub.run strays := by
  unfold releaseStrays
  generalize List.range host.handles.length = turns
  induction turns generalizing host with
  | nil => exact ⟨rfl, [], rfl⟩
  | cons turn turns ih =>
      rw [List.foldl_cons]
      split
      · next i held s _ =>
          obtain ⟨hjobs, strays, hhub⟩ := ih (act { host with
            handles := host.handles.set i { held with released := true } } (.release s held.ownsManager))
          exact ⟨hjobs, .release s held.ownsManager :: strays, hhub⟩
      · exact ih host

theorem jobs_fill (job after : Job) (host : Host) : (fill job after host).jobs = host.jobs := by
  rcases fill_eq job after host with hsame | ⟨handle, held, i, s, -, -, -, heq⟩
  · rw [hsame]
  · rw [heq]

/-- A call that is over lets one job go on at most. -/
theorem resume_acts (who : Caller) (host : Host) : resume who host = host ∨
    ∃ m job after actions strays, host.jobs[m]? = some job ∧ job.awaits? = some who ∧
      job.resume? host.hub = some (after, actions) ∧
      (resume who host).jobs = host.jobs.set m after ∧
      (resume who host).hub = host.hub.run (actions ++ strays) := by
  unfold resume
  split
  · exact .inl rfl
  · next m hfound =>
      split
      · exact .inl rfl
      · next job hjob =>
          split
          · exact .inl rfl
          · next after actions hresume =>
              obtain ⟨hjobs, strays, hhub⟩ := releaseStrays_acts
                (acts (fill job after { host with jobs := host.jobs.set m after }) actions)
              have hawaits : job.awaits? = some who := by
                obtain ⟨hm, hmatches, -⟩ := List.findIdx?_eq_some_iff_getElem.1 hfound
                rw [List.getElem?_eq_getElem hm] at hjob
                rw [Option.some.inj hjob] at hmatches
                exact eq_of_beq hmatches
              refine .inr ⟨m, job, after, actions, strays, hjob, hawaits, hresume, ?_, ?_⟩
              · rw [hjobs, jobs_acts, jobs_fill]
              · rw [hhub, hub_acts, hub_fill, Hub.run_append]

theorem cancel_acts (m : Nat) (host : Host) : ∃ actions, (host.cancel m).hub = host.hub.run actions ∧
    ∀ n, n ≠ m → (host.cancel m).jobs[n]? = host.jobs[n]? := by
  unfold cancel
  split
  · next job _ =>
      obtain ⟨hjobs, strays, hhub⟩ := releaseStrays_acts
        (acts { host with jobs := host.jobs.set m job.cancel.1 } job.cancel.2)
      rw [hub_acts, ← Hub.run_append] at hhub
      refine ⟨job.cancel.2 ++ strays, hhub, fun n hn => ?_⟩
      refine Eq.trans (congrArg (·[n]?) hjobs) ?_
      rw [jobs_acts]
      exact List.getElem?_set_ne hn.symm
  · exact ⟨[], rfl, fun n _ => rfl⟩

/-- The hub of a host comes to be that of another by actions of its own. -/
def RunsTo (host host' : Host) : Prop := ∃ actions, host'.hub = host.hub.run actions

theorem RunsTo.trans (h : host.RunsTo host') (h' : host'.RunsTo host'') : host.RunsTo host'' := by
  obtain ⟨actions, hhub⟩ := h
  obtain ⟨more, hmore⟩ := h'
  refine ⟨actions ++ more, ?_⟩
  rw [hmore, hhub, Hub.run_append]

theorem Happens.runsTo (h : Happens n host host') : host.RunsTo host' := by
  cases h with
  | acts a => exact ⟨[a], rfl⟩
  | turns | starts | holds => exact ⟨[], rfl⟩
  | resumes who =>
      rcases resume_acts who host with hsame | ⟨m, job, after, actions, strays, -, -, -, -, hhub⟩
      · exact ⟨[], congrArg hub hsame⟩
      · exact ⟨actions ++ strays, hhub⟩
  | @cancels m _ =>
      obtain ⟨actions, hhub, -⟩ := cancel_acts m host
      exact ⟨actions, hhub⟩

theorem Becomes.runsTo (h : Becomes n host host') : host.RunsTo host' := by
  induction h with
  | refl => exact ⟨[], rfl⟩
  | tail _ hlast ih => exact ih.trans hlast.runsTo

/-! ## The job goes on -/

/-- What becomes of the job: nothing, or what follows once its call is over. -/
inductive GoesFrom (host : Host) (job after : Job) (hub : Hub) : Prop
  | stays (actions : List Action) (hsame : after = job) (hhub : hub = host.hub.run actions)
  | resumes {actions strays : List Action} (hresume : job.resume? host.hub = some (after, actions))
      (hhub : hub = host.hub.run (actions ++ strays))

theorem Happens.goesFrom (h : Happens n host host') (hjob : host.jobs[n]? = some job) :
    ∃ after, host'.jobs[n]? = some after ∧ GoesFrom host job after host'.hub := by
  cases h with
  | acts a => exact ⟨job, hjob, .stays [a] rfl rfl⟩
  | turns | holds => exact ⟨job, hjob, .stays [] rfl rfl⟩
  | starts other =>
      exact ⟨job, Hub.getElem?_append_of_some hjob [other], .stays [] rfl rfl⟩
  | resumes who =>
      rcases resume_acts who host with hsame | ⟨m, other, after, actions, strays, hother, -, hresume, hjobs, hhub⟩
      · rw [hsame]
        exact ⟨job, hjob, .stays [] rfl rfl⟩
      · rw [hjobs]
        by_cases hm : m = n
        · subst hm
          obtain rfl : other = job := Option.some.inj (hother.symm.trans hjob)
          exact ⟨after, List.getElem?_set_self (List.getElem?_eq_some_iff.1 hjob).1,
            .resumes hresume hhub⟩
        · exact ⟨job, by rw [List.getElem?_set_ne hm, hjob], .stays _ rfl hhub⟩
  | @cancels m hm =>
      obtain ⟨actions, hhub, hjobs⟩ := cancel_acts m host
      exact ⟨job, by rw [hjobs n hm.symm, hjob], .stays _ rfl hhub⟩

/-- What a job keeps from step to step, together with its hub, it keeps to the end. -/
theorem Becomes.keeps {P : Job → Hub → Prop} (h : Becomes n host host')
    (hact : ∀ {job : Job} {hub : Hub} (a : Action), P job hub → P job (hub.step a))
    (hresume : ∀ {job after : Job} {hub : Hub} {actions : List Action}, P job hub →
      job.resume? hub = some (after, actions) → P after (hub.run actions))
    (hjob : host.jobs[n]? = some job) (hp : P job host.hub) :
    ∃ after, host'.jobs[n]? = some after ∧ P after host'.hub := by
  have hrun : ∀ {job : Job} {hub : Hub} (actions : List Action), P job hub → P job (hub.run actions) :=
    fun actions hp => Hub.run_keeps (P := fun hub => P _ hub) (fun hp a => hact a hp) hp actions
  induction h with
  | refl => exact ⟨job, hjob, hp⟩
  | tail _ hlast ih =>
      obtain ⟨mid, hmid, hp⟩ := ih
      obtain ⟨after, hafter, hgoes⟩ := hlast.goesFrom hmid
      refine ⟨after, hafter, ?_⟩
      cases hgoes with
      | stays _ hsame hhub =>
          rw [hsame, hhub]
          exact hrun _ hp
      | resumes hgoes hhub =>
          rw [hhub, Hub.run_append]
          exact hrun _ (hresume hp hgoes)

/-! ## What users do -/

theorem becomes_create (n : Nat) (o : EvaluatorOptions) (host : Host) :
    Becomes n host (host.create o) :=
  ((Relation.ReflTransGen.single (.starts _)).tail (.holds _)).tail (.acts _)

theorem becomes_load (n : Nat) (purpose : Purpose) (dir : FilePath) (host : Host) :
    Becomes n host (host.load purpose dir) := by
  unfold load
  split
  · exact .single (.starts _)
  · exact (Relation.ReflTransGen.single (.starts _)).tail (.acts _)

theorem becomes_createForProject (n : Nat) (dir : FilePath) (upper : EvaluatorOptions) (host : Host) :
    Becomes n host (host.createForProject dir upper) :=
  (becomes_load n _ dir host).tail (.holds _)

theorem becomes_evaluate? (n : Nat) {handle : Nat} {source : Except EvaluatorError ModuleSource}
    {query : Query} (hasks : host.evaluate? handle source query = some host') : Becomes n host host' := by
  obtain ⟨s, -, rfl⟩ := Option.map_eq_some_iff.1 hasks
  cases source with
  | error fault => exact .single (.starts _)
  | ok source => exact (Relation.ReflTransGen.single (.starts _)).tail (.acts _)

theorem becomes_close? (n : Nat) {handle : Nat} (hcloses : host.close? handle = some host') :
    Becomes n host host' := by
  obtain ⟨s, -, hcloses⟩ := Option.bind_eq_some_iff.1 hcloses
  obtain ⟨held, -, rfl⟩ := Option.map_eq_some_iff.1 hcloses
  exact .single (.acts _)

/-! ## Dialogues -/

theorem Becomes.trans (h : Becomes n host host') (h' : Becomes n host' host'') : Becomes n host host'' :=
  Relation.ReflTransGen.trans h h'

theorem becomes_takeTurn (n : Nat) (who : Caller) (rest : List Caller) (host : Host) :
    Becomes n host (host.takeTurn who rest) := by
  have hturns : ∀ queue, Becomes n host { host with queue } := fun queue => .single (.turns queue)
  unfold takeTurn
  split
  · exact (hturns rest).tail (.resumes who)
  · next a _ =>
      split
      · exact (hturns (rest ++ [who])).tail (.acts a)
      · exact .single (.acts a)

theorem becomes_of_step (n : Nat) (hstep : host.step? = some host') : Becomes n host host' := by
  unfold step? at hstep
  split at hstep
  · rw [← Option.some.inj hstep]
    exact .single (.acts .shutdown)
  · split at hstep
    · next a _ =>
        rw [← Option.some.inj hstep]
        exact .single (.acts a)
    · split at hstep
      · cases hstep
      · next who rest _ =>
          rw [← Option.some.inj hstep]
          exact becomes_takeTurn n who rest host

theorem becomes_steps (n count : Nat) (host : Host) : Becomes n host (host.steps count) := by
  induction count generalizing host with
  | zero => exact .refl
  | succ count ih =>
      unfold steps
      split
      · exact .refl
      · next host' hstep => exact (becomes_of_step n hstep).trans (ih host')

theorem becomes_happen (n : Nat) (event : ServerEvent) (host : Host) :
    Becomes n host (Dialogue.happen host event) := by
  rcases Dialogue.happen_eq host event with hsame | ⟨a, -, -, heq⟩
  · rw [hsame]
    exact .refl
  · rw [heq]
    exact .single (.acts a)

theorem becomes_events (n : Nat) (events : List ServerEvent) (host : Host) :
    Becomes n host (events.foldl Dialogue.happen host) := by
  induction events generalizing host with
  | nil => exact .refl
  | cons event events ih => exact (becomes_happen n event host).trans (ih _)

theorem becomes_goOn (n heard : Nat) (server : Server) (host : Host) :
    Becomes n host (Dialogue.goOn heard host server).host := by
  induction server generalizing heard host with
  | nil => exact becomes_steps n host.patience host
  | cons react server ih =>
      have hsettles : Becomes n host host.settle := becomes_steps n host.patience host
      unfold Dialogue.goOn
      dsimp only
      split
      · exact hsettles
      · next m heard' _ => exact (hsettles.trans (becomes_events n (react m) _)).trans (ih heard' _)

/-- No step begins a job. -/
theorem length_jobs_of_step (hstep : host.step? = some host') : host'.jobs.length = host.jobs.length := by
  have hturn : ∀ who rest, (host.takeTurn who rest).jobs.length = host.jobs.length := by
    intro who rest
    unfold takeTurn
    split
    · rcases resume_acts who { host with queue := rest } with
        hsame | ⟨m, job, after, actions, strays, -, -, -, hjobs, -⟩
      · rw [hsame]
      · rw [hjobs, List.length_set]
    · split <;> rfl
  unfold step? at hstep
  split at hstep
  · rw [← Option.some.inj hstep]
    rfl
  · split at hstep
    · rw [← Option.some.inj hstep]
      rfl
    · split at hstep
      · cases hstep
      · rw [← Option.some.inj hstep, hturn]

theorem length_jobs_steps (count : Nat) (host : Host) :
    (host.steps count).jobs.length = host.jobs.length := by
  induction count generalizing host with
  | zero => rfl
  | succ count ih =>
      unfold steps
      split
      · rfl
      · next host' hstep => rw [ih, length_jobs_of_step hstep]

theorem length_jobs_events (events : List ServerEvent) (host : Host) :
    (events.foldl Dialogue.happen host).jobs.length = host.jobs.length := by
  induction events generalizing host with
  | nil => rfl
  | cons event events ih =>
      have hevent : (Dialogue.happen host event).jobs = host.jobs := by
        rcases Dialogue.happen_eq host event with hsame | ⟨a, -, -, heq⟩
        · rw [hsame]
        · rw [heq, jobs_act]
      rw [List.foldl_cons, ih, hevent]

theorem length_jobs_goOn (heard : Nat) (server : Server) (host : Host) :
    (Dialogue.goOn heard host server).host.jobs.length = host.jobs.length := by
  induction server generalizing heard host with
  | nil => exact length_jobs_steps host.patience host
  | cons react server ih =>
      have hsettles : host.settle.jobs.length = host.jobs.length :=
        length_jobs_steps host.patience host
      unfold Dialogue.goOn
      dsimp only
      split
      · exact hsettles
      · rw [ih, length_jobs_events, hsettles]

/-- A dialogue takes its host one of the ways that are open to it. -/
theorem becomes_run (n : Nat) (act : Host → Host) (d : Dialogue) :
    Becomes n (act d.host) (d.run act).host :=
  becomes_goOn n d.heard d.server (act d.host)

end PklHost.Host
