import PklHost.Host.Dialogue
import PklHost.Proofs.Host.Fates

/-!
# Steps of a dialogue

`next?` takes a dialogue one step further: the host takes a step, or the server reacts to the next request
while the host rests.  A dialogue that goes on comes to the same end from every point on the way
(`Follows.after`), since a host settles, and a job that is over stays so until then (`goOn_follows`).
-/

namespace PklHost

namespace Host

open Hub (Action Caller)

variable {host : Host} {n : Nat} {job : Job}

/-! ## Hosts and their users -/

theorem Tidy.addJob (htidy : host.Tidy) (job : Job) : (host.addJob job).Tidy where
  steady := htidy.steady
  first := htidy.first
  handled := htidy.handled
  queued := htidy.queued
  few := by
    show host.handles.length ≤ (host.jobs ++ [job]).length
    rw [List.length_append]
    exact Nat.le_trans htidy.few (Nat.le_add_right _ _)

theorem Tidy.addHandle (htidy : host.Tidy) (hfew : host.handles.length < host.jobs.length) :
    host.addHandle.Tidy where
  steady := htidy.steady
  first := htidy.first
  handled := by
    intro held hheld s hs
    rcases List.mem_append.1 hheld with hold | hnew
    · exact htidy.handled held hold s hs
    · rw [List.mem_singleton.1 hnew] at hs
      cases hs
  queued := htidy.queued
  few := by
    show (host.handles ++ [_]).length ≤ host.jobs.length
    rw [List.length_append]
    exact hfew

/-- A host whose server has done nothing yet is tidy, and its users have no job. -/
theorem tidy_ofCommand (environment : Environment) (command : Command)
    (fault : Option TransportError) : (ofCommand environment command fault).Tidy ∧
      (ofCommand environment command fault).hub.Serial none := by
  have hnew : (ofCommand environment command fault).hub.New := Hub.new_init environment.workingDir
  refine ⟨⟨hnew.steady rfl, ?_, ?_, Nat.le_refl _, Nat.le_refl _⟩, hnew.serial⟩
  · intro i hunderway
    cases hunderway
  · intro held hheld
    cases hheld

/-- Nobody starts the server while every call is over. -/
theorem landed_of_serial (hsound : host.hub.Sound) (hserial : host.hub.Serial none) :
    host.Landed := by
  intro i hunderway
  have hat := Hub.createStages_getElem?.2 (hsound.launcher i hunderway)
  have hover := hserial.others (.create i) (Option.some_ne_none _).symm _ hat
  exact Hub.not_over_of_launching rfl hover

/-- A job that begins its first call while nothing else is under way. -/
theorem Solo.start (hserial : host.hub.Serial none)
    (hothers : ∀ other ∈ host.jobs, other.awaits? = none) {a : Action} {who : Caller}
    (hopens : host.hub.Opens a who) (hawaits : job.awaits? = some who)
    (hsession : ∀ s, job.session? = some s → s + 1 = host.hub.sessions.length)
    (hheld : ∀ held ∈ host.handles, held.dropped = false)
    (hunfilled : job.creates = true → ∀ held ∈ host.handles, held.session = none)
    (hfilled : ∀ held ∈ host.handles, ∀ s, held.session = some s →
      s + 1 = host.hub.sessions.length) :
    ((host.addJob job).act a).Solo host.jobs.length job := by
  have hsessions := sessions_of_opens hopens
  refine { found := ?_, others := ?_, serial := ?_, session := ?_, held := hheld,
           unfilled := hunfilled, filled := ?_ }
  · exact List.getElem?_concat_length
  · intro m other hm hother
    rcases Hub.getElem?_of_append (l := host.jobs) hother with hold | ⟨rfl, -⟩
    · exact hothers other (List.mem_of_getElem? hold)
    · exact absurd rfl hm
  · rw [hawaits]
    exact hserial.begins hopens
  · intro s hs
    show s + 1 = (host.hub.step a).sessions.length
    rw [hsessions]
    exact hsession s hs
  · intro held hmem s hs
    show s + 1 = (host.hub.step a).sessions.length
    rw [hsessions]
    exact hfilled held hmem s hs

/-- A job that fails at once. -/
theorem Solo.start_finished (hserial : host.hub.Serial none)
    (hothers : ∀ other ∈ host.jobs, other.awaits? = none)
    (hheld : ∀ held ∈ host.handles, held.dropped = false)
    (hfilled : ∀ held ∈ host.handles, ∀ s, held.session = some s →
      s + 1 = host.hub.sessions.length) (outcome : Except EvaluatorError JobResult) :
    (host.addJob (.finished outcome)).Solo host.jobs.length (.finished outcome) where
  found := List.getElem?_concat_length
  others := by
    intro m other hm hother
    rcases Hub.getElem?_of_append (l := host.jobs) hother with hold | ⟨rfl, -⟩
    · exact hothers other (List.mem_of_getElem? hold)
    · exact absurd rfl hm
  serial := hserial
  session := fun _ hs => by cases hs
  held := hheld
  unfilled := fun hcreates => by cases hcreates
  filled := hfilled

/-- Starting to create the first evaluator of a host. -/
theorem solo_create (environment : Environment) (command : Command) (fault : Option TransportError)
    (o : EvaluatorOptions) : ((ofCommand environment command fault).create o).Tidy ∧
      ∃ job, ((ofCommand environment command fault).create o).Solo 0 job := by
  obtain ⟨htidy, hserial⟩ := tidy_ofCommand environment command fault
  have hlanded := landed_of_serial htidy.sound hserial
  have hfirst : (ofCommand environment command fault).addHandle.hub.Serial none := hserial
  have hready := (htidy.addJob (.creating 0 0)).addHandle (Nat.lt_succ_self 0)
  refine ⟨hready.act_begins (a := .create o) hlanded rfl fun _ _ _ => Hub.Action.noConfusion,
    .creating 0 0, ?_⟩
  exact Solo.start hfirst
    (fun _ hother => by cases hother) (.create o) rfl (fun _ hs => by cases hs)
    (fun held hheld => by rw [List.mem_singleton.1 hheld])
    (fun _ held hheld => by rw [List.mem_singleton.1 hheld])
    (fun held hheld s hs => by rw [List.mem_singleton.1 hheld] at hs; cases hs)

/-- Starting to create the first evaluator of a host for a project. -/
theorem solo_createForProject (environment : Environment) (command : Command)
    (fault : Option TransportError) (dir : FilePath) (o : EvaluatorOptions) :
    ((ofCommand environment command fault).createForProject dir o).Tidy ∧
      ∃ job, ((ofCommand environment command fault).createForProject dir o).Solo 0 job := by
  obtain ⟨htidy, hserial⟩ := tidy_ofCommand environment command fault
  have hlanded := landed_of_serial htidy.sound hserial
  have hfirst : (ofCommand environment command fault).addHandle.hub.Serial none := hserial
  have hhandles : ∀ held ∈ (ofCommand environment command fault).addHandle.handles,
      held = ({} : Handle) := fun held hheld => List.mem_singleton.1 hheld
  unfold createForProject load
  split
  · next e _ =>
      refine ⟨(htidy.addJob _).addHandle (Nat.lt_succ_self 0), .finished (.error e), ?_⟩
      exact Solo.start_finished hfirst
        (fun _ hother => by cases hother) (fun held hheld => by rw [hhandles held hheld])
        (fun held hheld s hs => by rw [hhandles held hheld] at hs; cases hs) _
  · next source _ =>
      have hready := (htidy.addJob (.makingLoader (.evaluator 0 o) source 0)).addHandle
        (Nat.lt_succ_self 0)
      refine ⟨hready.act_begins (a := .create (.preconfigured environment)) hlanded rfl
        fun _ _ _ => Hub.Action.noConfusion, .makingLoader (.evaluator 0 o) source 0, ?_⟩
      exact Solo.start hfirst (fun _ hother => by cases hother)
        (.create (.preconfigured environment)) rfl (fun _ hs => by cases hs)
        (fun held hheld => by rw [hhandles held hheld])
        (fun _ held hheld => by rw [hhandles held hheld])
        (fun held hheld s hs => by rw [hhandles held hheld] at hs; cases hs)

/-- Starting to ask the first evaluator, once there is nothing else to do. -/
theorem Solo.evaluate? (hsolo : host.Solo n job) (htidy : host.Tidy) (hover : job.awaits? = none)
    {handle : Nat} {source : ModuleSource} {query : Query} {host' : Host}
    (hasks : host.evaluate? handle (.ok source) query = some host') :
    host'.Tidy ∧ ∃ job', host'.Solo host.jobs.length job' := by
  obtain ⟨s, hs, rfl⟩ := Option.map_eq_some_iff.1 hasks
  have hserial : host.hub.Serial none := hover ▸ hsolo.serial
  have hothers : ∀ other ∈ host.jobs, other.awaits? = none := by
    intro other hmem
    obtain ⟨m, hm⟩ := List.getElem?_of_mem hmem
    by_cases hplace : m = n
    · subst hplace
      rw [Option.some.inj (hm.symm.trans hsolo.found)]
      exact hover
    · exact hsolo.others m other hplace hm
  have hlast : s + 1 = host.hub.sessions.length := by
    obtain ⟨held, hheld, hsession⟩ := Option.bind_eq_some_iff.1 hs
    rw [hsolo.held held (List.mem_of_getElem? hheld)] at hsession
    exact hsolo.filled held (List.mem_of_getElem? hheld) s hsession
  have hlanded := landed_of_serial htidy.sound hserial
  refine ⟨(htidy.addJob _).act_begins hlanded rfl ?_,
    .evaluating s query host.hub.evaluates.length, ?_⟩
  · rintro s' source' expr' hsame
    rw [← (Action.evaluate.inj hsame).1]
    exact Nat.lt_of_lt_of_eq (Nat.lt_succ_self s) hlast
  · refine Solo.start hserial hothers (.evaluate source query.expr hlast) rfl (fun s' hs' => ?_)
      hsolo.held (fun hcreates => by cases hcreates) hsolo.filled
    obtain rfl := Option.some.inj hs'
    exact hlast

end Host

namespace Dialogue

open Message (FrameError Outgoing)

variable {host : Host} {n : Nat} {job : Job}

/-! ## Events -/

/-- What the server does is an action of its own at most. -/
theorem happen_eq (host : Host) (event : ServerEvent) : happen host event = host ∨
    ∃ a, Host.begins a = false ∧ (∀ i, a ≠ .advance (.create i)) ∧
      happen host event = host.act a := by
  cases event with
  | endsOutput => exact .inr ⟨.endInput, rfl, fun _ => Hub.Action.noConfusion, rfl⟩
  | writes octets =>
      unfold happen Host.receive
      dsimp only
      by_cases hempty : octets.isEmpty = true
      · rw [if_pos hempty]
        exact .inl rfl
      · rw [if_neg hempty]
        by_cases hlistens : host.listens = true
        · rw [if_pos hlistens]
          exact .inr ⟨.arrive octets, rfl, fun _ => Hub.Action.noConfusion, rfl⟩
        · rw [if_neg hlistens]
          exact .inl rfl

theorem events_keep (events : List ServerEvent) (htidy : host.Tidy) (hsolo : host.Solo n job) :
    (events.foldl happen host).Tidy ∧ (events.foldl happen host).Solo n job := by
  induction events generalizing host with
  | nil => exact ⟨htidy, hsolo⟩
  | cons event events ih =>
      have hnext : (happen host event).Tidy ∧ (happen host event).Solo n job := by
        rcases happen_eq host event with hsame | ⟨a, hbegins, hcreate, heq⟩
        · rw [hsame]
          exact ⟨htidy, hsolo⟩
        · rw [heq]
          exact ⟨htidy.act_aside hbegins fun i hi => absurd hi (hcreate i),
            hsolo.act_aside htidy.steady.watched hbegins⟩
      exact ih hnext.1 hnext.2

/-! ## One step at a time -/

/-- The dialogue one step further: the host takes a step, or the server reacts to the next request while the
host rests.  `none` if both wait. -/
def next? (d : Dialogue) : Option Dialogue :=
  match d.host.step? with
  | some host => some { d with host }
  | none =>
    match d.server with
    | [] => none
    | react :: server =>
      (request? d.host.hub.sent d.heard).map fun (m, heard) =>
        { host := (react m).foldl happen d.host, server, heard }

/-- The dialogue after at most `count` steps. -/
def after : (count : Nat) → Dialogue → Dialogue
  | 0, d => d
  | count + 1, d =>
    match d.next? with
    | some d => after count d
    | none => d

/-- The end of a dialogue that goes on. -/
def finish (d : Dialogue) : Dialogue := goOn d.heard d.host d.server

/-- A host with one job that comes from an earlier one.  A job that was over is still the same. -/
def Follows (n : Nat) (job : Job) (host : Host) : Prop :=
  host.Tidy ∧ ∃ after, host.Solo n after ∧ (job.awaits? = none → after = job)

theorem follows_of_solo (htidy : host.Tidy) (hsolo : host.Solo n job) : Follows n job host :=
  ⟨htidy, job, hsolo, fun _ => rfl⟩

theorem Follows.trans {mid : Job} {host' : Host} (hsame : job.awaits? = none → mid = job)
    (hfollows : Follows n mid host') : Follows n job host' := by
  obtain ⟨htidy, after, hsolo, hkept⟩ := hfollows
  refine ⟨htidy, after, hsolo, fun hover => ?_⟩
  obtain rfl := hsame hover
  exact hkept hover

theorem Follows.step {host' : Host} (hfollows : Follows n job host)
    (hstep : host.step? = some host') : Follows n job host' := by
  obtain ⟨htidy, mid, hsolo, hsame⟩ := hfollows
  obtain ⟨after, hsolo', hkept⟩ := hsolo.step htidy hstep
  exact .trans hsame ⟨(htidy.step hstep).1, after, hsolo', hkept⟩

theorem Follows.settle (hfollows : Follows n job host) : Follows n job host.settle :=
  Host.steps_keeps (P := Follows n job) (fun h hstep => h.step hstep) host.patience hfollows

theorem Follows.events (hfollows : Follows n job host) (events : List ServerEvent) :
    Follows n job (events.foldl happen host) := by
  obtain ⟨htidy, mid, hsolo, hsame⟩ := hfollows
  obtain ⟨htidy', hsolo'⟩ := events_keep events htidy hsolo
  exact ⟨htidy', mid, hsolo', hsame⟩

/-- A step of a dialogue keeps the one job, and the end to which the dialogue comes. -/
theorem Follows.next {d d' : Dialogue} (hfollows : Follows n job d.host) (hnext : d.next? = some d') :
    Follows n job d'.host ∧ d.finish = d'.finish := by
  obtain ⟨host, server, heard⟩ := d
  unfold next? at hnext
  dsimp only at hnext hfollows
  split at hnext
  · next host' hstep =>
      obtain rfl := Option.some.inj hnext
      have hsettle := hfollows.1.settle_step hstep
      refine ⟨hfollows.step hstep, ?_⟩
      show goOn heard host server = goOn heard host' server
      cases server with
      | nil | cons react server =>
          unfold goOn
          rw [hsettle]
  · next hrest =>
      split at hnext
      · cases hnext
      · next react server =>
          -- the server reacts when the host rests, and then settling does nothing
          obtain ⟨⟨m, heard'⟩, hrequest, rfl⟩ := Option.map_eq_some_iff.1 hnext
          have hsettle : host.settle = host := Host.steps_of_rest hrest host.patience
          refine ⟨hfollows.events _, ?_⟩
          show goOn heard host (react :: server) = goOn heard' _ server
          rw [goOn, hsettle, hrequest]

/-- From every point on the way a dialogue comes to the same end. -/
theorem Follows.after {d : Dialogue} (hfollows : Follows n job d.host) (count : Nat) :
    Follows n job (d.after count).host ∧ d.finish = (d.after count).finish := by
  induction count generalizing d with
  | zero => exact ⟨hfollows, rfl⟩
  | succ count ih =>
      unfold Dialogue.after
      split
      · next d' hnext =>
          obtain ⟨hfollows', hsame⟩ := hfollows.next hnext
          rw [hsame]
          exact ih hfollows'
      · exact ⟨hfollows, rfl⟩

/-- A dialogue ends with a host that has the one job. -/
theorem goOn_follows (heard : Nat) (server : Server) (hfollows : Follows n job host) :
    Follows n job (goOn heard host server).host := by
  induction server generalizing heard host with
  | nil => exact hfollows.settle
  | cons react server ih =>
      rw [goOn]
      split
      · exact hfollows.settle
      · exact ih _ (hfollows.settle.events _)

/-- A dialogue goes on from where the host has settled. -/
theorem goOn_settle (heard : Nat) (server : Server) (htidy : host.Tidy) :
    goOn heard host server = goOn heard host.settle server := by
  have hsettle : host.settle.settle = host.settle := Host.steps_of_rest htidy.settle.2 _
  cases server with
  | nil | cons react server =>
      unfold goOn
      rw [hsettle]

/-- The outcome of a job that is over at some point on the way is its outcome at the end. -/
theorem outcome?_of_finished {outcome : Except EvaluatorError JobResult}
    (hfollows : Follows n (.finished outcome) host) (heard : Nat) (server : Server) :
    (goOn heard host server).outcome? n = some outcome := by
  obtain ⟨-, after, hsolo, hsame⟩ := goOn_follows heard server hfollows
  have hfound := hsolo.found
  rw [hsame rfl] at hfound
  unfold Dialogue.outcome? Host.outcome?
  rw [hfound]

/-- A job whose call waits while the stream breaks has failed with that at the end. -/
theorem Follows.outcome?_of_breaks {d : Dialogue} (hfollows : Follows n job d.host) {count : Nat}
    {e : FrameError} (hbreaks : (d.after count).host.hub.Breaks e) {who : Hub.Caller}
    (hwaits : (d.after count).host.hub.Waits who) :
    d.finish.outcome? n = some (.error (.connectionClosed (.readFailed e))) := by
  obtain ⟨⟨htidy, last, hsolo, -⟩, hsame⟩ := hfollows.after count
  have hdoomed := Host.Doomed.waits (hsolo.awaits_of_waits hwaits) hwaits (.breaks hbreaks rfl)
  obtain ⟨hsettled, hfinished⟩ := hdoomed.settle hsolo htidy
  rw [hsame]
  unfold finish
  rw [goOn_settle _ _ htidy]
  exact outcome?_of_finished (follows_of_solo hsettled hfinished) _ _

end Dialogue

end PklHost
