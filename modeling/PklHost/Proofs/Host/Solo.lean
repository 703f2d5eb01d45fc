import PklHost.Proofs.Host.Settling
import PklHost.Proofs.Hub.Serial

/-!
# One job at a time

`Solo n job` says of a host that its users have one job that may be unfinished, the one at place `n`: every
call of the hub is over but the one that this job waits for, and whatever the job and the handles have to do
with a session, it is the one that was entered last.  Every step keeps that (`Solo.step`): a job that goes on
begins its next call when the one before it is over.
-/

namespace PklHost

/-- The session that a job has to do with. -/
def Job.session? : Job → Option Nat
  | .evaluating s _ _ | .loading _ s _ | .closingLoader _ s _ _ => some s
  | .creating .. | .makingLoader .. | .releasingLoader .. | .finished _ | .cancelled => none

/-- A job may still come to create an evaluator. -/
def Job.creates : Job → Bool
  | .creating .. | .makingLoader .. | .loading .. | .closingLoader .. | .releasingLoader .. => true
  | .evaluating .. | .finished _ | .cancelled => false

namespace Host

open Hub (Action Caller)

variable {host host' : Host} {n : Nat} {job after : Job}

/-- The users of a host have one job, and one evaluator. -/
structure Solo (n : Nat) (job : Job) (host : Host) : Prop where
  found : host.jobs[n]? = some job
  others : ∀ m other, m ≠ n → host.jobs[m]? = some other → other.awaits? = none
  serial : host.hub.Serial job.awaits?
  session : ∀ s, job.session? = some s → s + 1 = host.hub.sessions.length
  held : ∀ held ∈ host.handles, held.dropped = false
  unfilled : job.creates = true → ∀ held ∈ host.handles, held.session = none
  filled : ∀ held ∈ host.handles, ∀ s, held.session = some s → s + 1 = host.hub.sessions.length

/-- A job with an outcome is over. -/
theorem Solo.eq_finished (hsolo : host.Solo n job) {outcome : Except EvaluatorError JobResult}
    (houtcome : host.outcome? n = some outcome) : job = .finished outcome := by
  unfold Host.outcome? at houtcome
  rw [hsolo.found] at houtcome
  cases job with
  | finished outcome' => rw [Option.some.inj houtcome]
  | _ => cases houtcome

/-! ## Actions that no user begins -/

/-- While the job does not wait for an evaluator, no session is entered. -/
theorem Solo.length_sessions (hsolo : host.Solo n job) (hawaits : ∀ i, job.awaits? ≠ some (.create i))
    (a : Action) : (host.hub.step a).sessions.length = host.hub.sessions.length :=
  Hub.length_sessions_of_rests (fun i => hsolo.serial.others _ (hawaits i)) a

theorem awaits?_ne_create_of_session? {s : Nat} (hs : job.session? = some s) (i : Nat) :
    job.awaits? ≠ some (.create i) := by
  cases job with
  | evaluating | loading | closingLoader => rintro ⟨⟩
  | _ => cases hs

theorem awaits?_ne_create_of_not_creates (hcreates : job.creates = false) (i : Nat) :
    job.awaits? ≠ some (.create i) := by
  cases job with
  | evaluating | finished | cancelled => rintro ⟨⟩
  | _ => cases hcreates

theorem Solo.act_aside (hsolo : host.Solo n job) (hw : host.hub.Watched) {a : Action}
    (ha : begins a = false) : (host.act a).Solo n job where
  found := hsolo.found
  others := hsolo.others
  serial := hsolo.serial.step hw ha
  session := by
    intro s hs
    rw [hub_act, hsolo.length_sessions (awaits?_ne_create_of_session? hs)]
    exact hsolo.session s hs
  held := hsolo.held
  unfilled := hsolo.unfilled
  filled := by
    intro held hheld s hs
    have hcreates : job.creates = false := by
      cases hcreates : job.creates with
      | false => rfl
      | true =>
          rw [hsolo.unfilled hcreates held hheld] at hs
          cases hs
    rw [hub_act, hsolo.length_sessions (awaits?_ne_create_of_not_creates hcreates)]
    exact hsolo.filled held hheld s hs

theorem Solo.with_queue (hsolo : host.Solo n job) (queue : List Caller) :
    ({ host with queue } : Host).Solo n job :=
  { hsolo with }

/-! ## The job goes on -/

/-- What a job does once the call that it waits for is over. -/
inductive GoesOn (host : Host) (job : Job) : Job → List Action → Prop
  | ends (outcome : Except EvaluatorError JobResult) : GoesOn host job (.finished outcome) []
  | begins {after : Job} {a : Action} {who : Caller} (hopens : host.hub.Opens a who)
      (hawaits : after.awaits? = some who) (hcreates : job.creates = true)
      (hsession : ∀ s, after.session? = some s → s + 1 = host.hub.sessions.length) :
      GoesOn host job after [a]

theorem rests_create {h : Hub} {i : Nat} {outcome : Except EvaluatorError Nat}
    (hover : Job.created? h i = some outcome) : h.createStages[i]? = some (.finished outcome) := by
  unfold Job.created? at hover
  split at hover
  · next hcall =>
      obtain rfl := Option.some.inj hover
      exact Hub.createStages_getElem?.2 ⟨_, hcall, rfl⟩
  · cases hover

theorem rests_evaluate {h : Hub} {i : Nat} {outcome : Except EvaluatorError Bytes}
    (hover : Job.evaluated? h i = some outcome) :
    h.evaluateStages[i]? = some (.finished outcome) := by
  unfold Job.evaluated? at hover
  split at hover
  · next hcall =>
      obtain rfl := Option.some.inj hover
      exact Hub.evaluateStages_getElem?.2 ⟨_, hcall, rfl⟩
  · cases hover

theorem rests_errand {h : Hub} {i : Nat} (hover : Job.ended h i = true) :
    h.errands[i]? = some .finished := by
  unfold Job.ended at hover
  split at hover
  · assumption
  · cases hover

/-- The call that a job waits for is over when the job goes on. -/
theorem rests_of_resume? {h : Hub} {actions : List Action}
    (hresume : job.resume? h = some (after, actions)) :
    ∀ who, job.awaits? = some who → h.Rests who := by
  have hcreate : ∀ {i : Nat} {outcome : Except EvaluatorError Nat},
      Job.created? h i = some outcome → h.Rests (.create i) := by
    intro i outcome hover stage hat
    obtain rfl := Option.some.inj ((rests_create hover).symm.trans hat)
    exact .inl ⟨outcome, rfl⟩
  have hevaluate : ∀ {i : Nat} {outcome : Except EvaluatorError Bytes},
      Job.evaluated? h i = some outcome → h.Rests (.evaluate i) := by
    intro i outcome hover stage hat
    obtain rfl := Option.some.inj ((rests_evaluate hover).symm.trans hat)
    exact .inl ⟨outcome, rfl⟩
  have herrand : ∀ {i : Nat}, Job.ended h i = true → h.Rests (.errand i) := by
    intro i hover e he
    obtain rfl := Option.some.inj ((rests_errand hover).symm.trans he)
    rfl
  intro who hwho
  unfold Job.resume? at hresume
  cases job with
  | creating | makingLoader =>
      obtain rfl := Option.some.inj hwho
      obtain ⟨outcome, hover, -⟩ := Option.map_eq_some_iff.1 hresume
      exact hcreate hover
  | evaluating | loading =>
      obtain rfl := Option.some.inj hwho
      obtain ⟨outcome, hover, -⟩ := Option.map_eq_some_iff.1 hresume
      exact hevaluate hover
  | closingLoader | releasingLoader =>
      obtain rfl := Option.some.inj hwho
      dsimp only at hresume
      split at hresume
      · next hover => exact herrand hover
      · cases hresume
  | finished | cancelled => cases hwho

/-- The session that a call created, once it is over, is the last one. -/
theorem Solo.created (hsolo : host.Solo n job) {i s : Nat} (hawaits : job.awaits? = some (.create i))
    (hover : Job.created? host.hub i = some (.ok s)) : s + 1 = host.hub.sessions.length :=
  hsolo.serial.current _ s hawaits (rests_create hover)

theorem Solo.goesOn (hsolo : host.Solo n job) {actions : List Action}
    (hresume : job.resume? host.hub = some (after, actions)) : host.GoesOn job after actions := by
  unfold Job.resume? at hresume
  cases job with
  | creating handle i | evaluating s query i =>
      obtain ⟨outcome, -, heq⟩ := Option.map_eq_some_iff.1 hresume
      obtain ⟨rfl, rfl⟩ := Prod.mk.inj heq
      exact .ends _
  | makingLoader purpose source i =>
      obtain ⟨outcome, hover, heq⟩ := Option.map_eq_some_iff.1 hresume
      cases outcome with
      | ok s =>
          obtain ⟨rfl, rfl⟩ := Prod.mk.inj heq
          have hs := hsolo.created rfl hover
          refine .begins (.evaluate _ _ hs) rfl rfl fun s' hs' => ?_
          obtain rfl := Option.some.inj hs'
          exact hs
      | error e =>
          obtain ⟨rfl, rfl⟩ := Prod.mk.inj heq
          exact .ends _
  | loading purpose s i =>
      obtain ⟨outcome, -, heq⟩ := Option.map_eq_some_iff.1 hresume
      obtain ⟨rfl, rfl⟩ := Prod.mk.inj heq
      exact .begins (.close _ (hsolo.session s rfl)) rfl rfl hsolo.session
  | closingLoader purpose s i result =>
      dsimp only at hresume
      split at hresume
      · obtain ⟨rfl, rfl⟩ := Prod.mk.inj (Option.some.inj hresume)
        exact .begins (.release _ (hsolo.session s rfl)) rfl rfl fun _ hs => by cases hs
      · cases hresume
  | releasingLoader purpose i loaded =>
      dsimp only at hresume
      split at hresume
      · have heq := Option.some.inj hresume
        unfold Job.afterLoading at heq
        split at heq
        · obtain ⟨rfl, rfl⟩ := Prod.mk.inj heq
          exact .ends _
        · split at heq
          · obtain ⟨rfl, rfl⟩ := Prod.mk.inj heq
            exact .ends _
          · split at heq
            · obtain ⟨rfl, rfl⟩ := Prod.mk.inj heq
              exact .ends _
            · obtain ⟨rfl, rfl⟩ := Prod.mk.inj heq
              exact .begins (.create _) rfl rfl fun _ hs => by cases hs
      · cases hresume
  | finished outcome => cases hresume
  | cancelled => cases hresume

/-- No evaluator is let go that a user holds. -/
theorem releaseStrays_of_held (hheld : ∀ held ∈ host.handles, held.dropped = false) :
    host.releaseStrays = host := by
  have hnone : host.stray? = none := by
    cases hstray : host.stray? with
    | none => rfl
    | some found =>
        obtain ⟨i, held, s⟩ := found
        obtain ⟨hat, -, hdropped, -⟩ := stray?_eq_some hstray
        rw [hheld held (List.mem_of_getElem? hat)] at hdropped
        cases hdropped
  unfold releaseStrays
  generalize List.range host.handles.length = turns
  induction turns with
  | nil => rfl
  | cons turn turns ih =>
      rw [List.foldl_cons, hnone]
      exact ih

/-- Nobody waits for a call but the one job. -/
theorem Solo.resume_of_ne (hsolo : host.Solo n job) {who : Caller} (hwho : job.awaits? ≠ some who) :
    resume who host = host := by
  have hnone : host.jobs.findIdx? (fun job => job.awaits? == some who) = none := by
    refine List.findIdx?_eq_none_iff.2 fun other hmem => ?_
    obtain ⟨m, hm⟩ := List.getElem?_of_mem hmem
    by_cases hplace : m = n
    · subst hplace
      obtain rfl := Option.some.inj (hm.symm.trans hsolo.found)
      exact beq_false_of_ne hwho
    · rw [hsolo.others m other hplace hm]
      rfl
  unfold resume
  rw [hnone]

/-- The job that waits for a call is the one that goes on. -/
theorem Solo.resume_eq (hsolo : host.Solo n job) {who : Caller} (hwho : job.awaits? = some who) :
    job.resume? host.hub = none ∧ resume who host = host ∨
      ∃ after actions, job.resume? host.hub = some (after, actions) ∧
        resume who host =
          releaseStrays (acts (fill job after { host with jobs := host.jobs.set n after }) actions) := by
  have hfirst : host.jobs.findIdx? (fun job => job.awaits? == some who) = some n := by
    have hn := (List.getElem?_eq_some_iff.1 hsolo.found)
    refine List.findIdx?_eq_some_iff_getElem.2 ⟨hn.1, ?_, fun m hm => ?_⟩
    · rw [hn.2, hwho]
      exact beq_self_eq_true _
    · rw [hsolo.others m _ (Nat.ne_of_lt hm) (List.getElem?_eq_getElem (Nat.lt_trans hm hn.1))]
      exact Bool.false_ne_true
  unfold resume
  rw [hfirst]
  dsimp only
  rw [hsolo.found]
  dsimp only
  split
  · next hnone => exact .inl ⟨hnone, rfl⟩
  · next after actions hresume => exact .inr ⟨after, actions, hresume, rfl⟩

/-- The handles after a job has gone on. -/
theorem fill_handles (hsolo : host.Solo n job) {actions : List Action}
    (hresume : job.resume? host.hub = some (after, actions)) :
    ∃ handles, fill job after { host with jobs := host.jobs.set n after } =
        { host with jobs := host.jobs.set n after, handles } ∧
      (∀ held ∈ handles, held.dropped = false) ∧
      (∀ held ∈ handles, ∀ s, held.session = some s → s + 1 = host.hub.sessions.length) ∧
      (after.creates = true → handles = host.handles) := by
  rcases fill_eq job after { host with jobs := host.jobs.set n after } with
    hsame | ⟨handle, held, i, s, rfl, rfl, hheld, heq⟩
  · exact ⟨host.handles, hsame, hsolo.held, hsolo.filled, fun _ => rfl⟩
  · have hs : s + 1 = host.hub.sessions.length := by
      obtain ⟨outcome, hover, hafter⟩ := Option.map_eq_some_iff.1 hresume
      have hpair := (Prod.mk.inj hafter).1
      cases outcome with
      | error e => cases hpair
      | ok s' =>
          obtain rfl := JobResult.evaluator.inj (Except.ok.inj (Job.finished.inj hpair))
          exact hsolo.created rfl hover
    refine ⟨_, heq, fun other hother => ?_, fun other hother s' hs' => ?_, fun hcreates => by cases hcreates⟩
    · rcases List.mem_or_eq_of_mem_set hother with hold | rfl
      · exact hsolo.held other hold
      · exact hsolo.held held (List.mem_of_getElem? hheld)
    · rcases List.mem_or_eq_of_mem_set hother with hold | rfl
      · exact hsolo.filled other hold s' hs'
      · obtain rfl := Option.some.inj hs'
        exact hs

theorem sessions_of_opens {h : Hub} {a : Action} {who : Caller} (hopens : h.Opens a who) :
    (h.step a).sessions = h.sessions := by
  cases hopens <;> rfl

/-- Going on changes the job and perhaps a handle, and begins the next call. -/
theorem Solo.goes_eq (hsolo : host.Solo n job) {actions : List Action}
    (hresume : job.resume? host.hub = some (after, actions)) :
    ∃ handles,
      releaseStrays (acts (fill job after { host with jobs := host.jobs.set n after }) actions) =
        acts { host with jobs := host.jobs.set n after, handles } actions := by
  obtain ⟨handles, hfill, hheld, -, -⟩ := fill_handles hsolo hresume
  refine ⟨handles, ?_⟩
  rw [hfill]
  refine releaseStrays_of_held ?_
  cases hsolo.goesOn hresume <;> exact hheld

/-- The job is taken on, and still the only one. -/
theorem Solo.goes (hsolo : host.Solo n job) {actions : List Action}
    (hresume : job.resume? host.hub = some (after, actions)) :
    (releaseStrays (acts (fill job after { host with jobs := host.jobs.set n after }) actions)).Solo n
      after := by
  have hn := (List.getElem?_eq_some_iff.1 hsolo.found).1
  have hidle := hsolo.serial.idle (rests_of_resume? hresume)
  have hothers : ∀ m other, m ≠ n → (host.jobs.set n after)[m]? = some other →
      other.awaits? = none := by
    intro m other hm hother
    rw [List.getElem?_set_ne hm.symm] at hother
    exact hsolo.others m other hm hother
  obtain ⟨handles, hfill, hheld, hfilled, hkept⟩ := fill_handles hsolo hresume
  have hgoes := hsolo.goesOn hresume
  rw [hfill]
  cases hgoes with
  | ends outcome =>
      rw [releaseStrays_of_held hheld]
      exact ⟨List.getElem?_set_self hn, hothers, hidle, fun _ hs => (by cases hs), hheld,
        fun hcreates => (by cases hcreates), hfilled⟩
  | @begins _ a who hopens hawaits hcreates hsession =>
      have hsessions := sessions_of_opens hopens
      have hstill : (act { host with jobs := host.jobs.set n after, handles } a).Solo n after :=
        { found := List.getElem?_set_self hn
          others := hothers
          serial := by
            rw [hawaits]
            exact hidle.begins hopens
          session := by
            intro s hs
            rw [hub_act, hsessions]
            exact hsession s hs
          held := hheld
          unfilled := by
            intro hafter
            show ∀ held ∈ handles, held.session = none
            rw [hkept hafter]
            exact hsolo.unfilled hcreates
          filled := by
            intro held hmem s hs
            rw [hub_act, hsessions]
            exact hfilled held hmem s hs }
      show (releaseStrays (act _ a)).Solo n after
      rw [releaseStrays_of_held hstill.held]
      exact hstill

theorem Solo.resume (hsolo : host.Solo n job) (who : Caller) :
    ∃ after, (resume who host).Solo n after ∧ (job.awaits? = none → after = job) := by
  by_cases hwho : job.awaits? = some who
  · have hbusy : job.awaits? ≠ none := by
      rw [hwho]
      exact Option.some_ne_none who
    rcases hsolo.resume_eq hwho with ⟨-, hsame⟩ | ⟨after, actions, hresume, heq⟩
    · rw [hsame]
      exact ⟨job, hsolo, fun _ => rfl⟩
    · rw [heq]
      exact ⟨after, hsolo.goes hresume, fun hnone => absurd hnone hbusy⟩
  · rw [hsolo.resume_of_ne hwho]
    exact ⟨job, hsolo, fun _ => rfl⟩

/-- Every step keeps the one job, and leaves it alone once it is over. -/
theorem Solo.step (hsolo : host.Solo n job) (htidy : host.Tidy) (hstep : host.step? = some host') :
    ∃ after, host'.Solo n after ∧ (job.awaits? = none → after = job) := by
  have hw := htidy.steady.watched
  cases htidy.moves hstep with
  | acts hbegins _ _ _ => exact ⟨job, hsolo.act_aside hw hbegins, fun _ => rfl⟩
  | @reads who rest _ _ _ hbegins _ _ _ =>
      exact ⟨job, (hsolo.with_queue (rest ++ [who])).act_aside hw hbegins, fun _ => rfl⟩
  | @ends who rest _ _ _ => exact (hsolo.with_queue rest).resume who

end Host

end PklHost
