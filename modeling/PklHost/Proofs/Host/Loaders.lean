import PklHost.Proofs.Evaluator.Overlays
import PklHost.Proofs.Host.Happenings
import PklHost.Proofs.Hub.Drafting
import PklHost.Proofs.Hub.Partings
import PklHost.Proofs.Hub.Results
import PklHost.Proofs.Project.Reading
import PklHost.Proofs.Value.Decoded

/-!
# Evaluators that read a project

Whoever wants an evaluator for a project has one of its own read the project first, the loader, which has
preconfigured options.  The job is over with the loader before it goes on: whatever the loader returned, it has
left when the job ends, and before the server receives the request that the project's settings make, under the
options of the user (`createForProject_overlays`).
-/

namespace PklHost.Host

open EvaluatorOptions (preconfigured projectFile)
open Hub (Action)
open Message (Incoming)

variable {environment : Environment} {source : ModuleSource} {purpose : Purpose} {job after : Job} {h : Hub}
  {c s : Nat} {result : Except EvaluatorError Bytes}

/-! ## Loaders -/

/-- A call has made a loader, with preconfigured options, and the loader has been asked for the value of a
source and has come back with a result. -/
structure Loads (environment : Environment) (source : ModuleSource) (c s : Nat)
    (result : Except EvaluatorError Bytes) (h : Hub) : Prop where
  ordered : h.orders[c]? = some (preconfigured environment)
  made : h.createStages[c]? = some (Hub.CreateStage.finished (.ok s))
  asked : ∃ i : Nat, h.questions[i]? = some (s, source, Query.value.expr) ∧
    h.evaluateStages[i]? = some (Hub.EvaluateStage.finished result)

theorem Loads.act (hloads : Loads environment source c s result h) (hsound : h.Sound) (a : Action) :
    Loads environment source c s result (h.step a) where
  ordered := Hub.order_step hloads.ordered a
  made := Hub.created_step hsound.launcher hloads.made a
  asked := by
    obtain ⟨i, hquestion, hover⟩ := hloads.asked
    exact ⟨i, Hub.question_step hquestion a, Hub.finished_step hover a⟩

theorem known_of_made (hsound : h.Sound)
    (hmade : h.createStages[c]? = some (Hub.CreateStage.finished (.ok s))) : s < h.sessions.length := by
  obtain ⟨session, hsession⟩ := hsound.returned_session (Hub.createOutcome?_eq_some.2 hmade)
  exact (List.getElem?_eq_some_iff.1 hsession).1

theorem projectOf_eq_ok {p : Project} (h : Job.projectOf result = .ok p) :
    ∃ octets v, result = .ok octets ∧ Value.decode octets = .ok v ∧ Describes v p := by
  obtain ⟨octets, hoctets, h⟩ := bind_eq_ok_iff.1 h
  obtain ⟨v, hv, h⟩ := bind_eq_ok_iff.1 h
  have hdecode := Query.decode_of_valueOf hv
  refine ⟨octets, v, hoctets, hdecode, ?_⟩
  rw [← Project.ofValue_eq_ok_iff (Value.keysDistinct_of_decode hdecode)]
  cases hvalue : Project.ofValue v with
  | ok p' =>
      rw [hvalue] at h
      rw [Except.ok.inj h]
  | error fault =>
      rw [hvalue] at h
      cases h

/-! ## Jobs that read a project -/

/-- How far a job is that reads a project by a loader of its own, which a call makes. -/
inductive Reads (environment : Environment) (source : ModuleSource) (purpose : Purpose) (c : Nat) (h : Hub) :
    Job → Prop
  | making (hordered : h.orders[c]? = some (preconfigured environment)) :
      Reads environment source purpose c h (.makingLoader purpose source c)
  | loading {s i : Nat} (hordered : h.orders[c]? = some (preconfigured environment))
      (hmade : h.createStages[c]? = some (Hub.CreateStage.finished (.ok s)))
      (hquestion : h.questions[i]? = some (s, source, Query.value.expr)) :
      Reads environment source purpose c h (.loading purpose s i)
  | closing {s i : Nat} {result : Except EvaluatorError Bytes} {e : Hub.Errand}
      (hloads : Loads environment source c s result h) (he : h.errands[i]? = some e)
      (hparting : h.Parting s e) : Reads environment source purpose c h (.closingLoader purpose s i result)
  | releasing {s i : Nat} {result : Except EvaluatorError Bytes}
      (hloads : Loads environment source c s result h) (hdeparted : h.Departed s) :
      Reads environment source purpose c h (.releasingLoader purpose i (Job.projectOf result))
  | creating {s handle i : Nat} {result : Except EvaluatorError Bytes} {p : Project}
      {base upper : EvaluatorOptions} (hloads : Loads environment source c s result h)
      (hdeparted : h.Departed s) (hproject : Job.projectOf result = .ok p)
      (hbase : EvaluatorOptions.ofProject p = .ok base) (hpurpose : purpose = .evaluator handle upper)
      (horder : h.orders[i]? = some (base.merge upper)) :
      Reads environment source purpose c h (.creating handle i)
  | unmade {fault : EvaluatorError}
      (hnever : h.createStages[c]? = some (Hub.CreateStage.finished (.error fault))) :
      Reads environment source purpose c h (.finished (.error fault))
  | finished {s : Nat} {outcome : Except EvaluatorError JobResult}
      (hmade : h.createStages[c]? = some (Hub.CreateStage.finished (.ok s)))
      (hdeparted : h.Departed s) : Reads environment source purpose c h (.finished outcome)

theorem Reads.act (hreads : Reads environment source purpose c h job) (hw : h.Watched)
    (hall : h.AllAccounted) (a : Action) : Reads environment source purpose c (h.step a) job := by
  cases hreads with
  | making hordered => exact .making (Hub.order_step hordered a)
  | loading hordered hmade hquestion =>
      exact .loading (Hub.order_step hordered a) (Hub.created_step hw.sound.launcher hmade a)
        (Hub.question_step hquestion a)
  | closing hloads he hparting =>
      obtain ⟨e', he', hparting'⟩ := hparting.step hw hall (known_of_made hw.sound hloads.made) he a
      exact .closing (hloads.act hw.sound a) he' hparting'
  | releasing hloads hdeparted => exact .releasing (hloads.act hw.sound a) (hdeparted.step hw a)
  | creating hloads hdeparted hproject hbase hpurpose horder =>
      exact .creating (hloads.act hw.sound a) (hdeparted.step hw a) hproject hbase hpurpose
        (Hub.order_step horder a)
  | unmade hnever => exact .unmade (Hub.created_step hw.sound.launcher hnever a)
  | finished hmade hdeparted =>
      exact .finished (Hub.created_step hw.sound.launcher hmade a) (hdeparted.step hw a)

/-- What follows the reading of a project is an end, or a call with the options of the project under others. -/
theorem Reads.afterLoading {loaded : Except EvaluatorError Project} {actions : List Action}
    (hloads : Loads environment source c s result h) (hdeparted : h.Departed s) (hw : h.Watched)
    (hloaded : loaded = Job.projectOf result)
    (hafter : Job.afterLoading h purpose loaded = (after, actions)) :
    Reads environment source purpose c (h.run actions) after := by
  have hends : ∀ outcome, Reads environment source purpose c h (.finished outcome) :=
    fun outcome => .finished hloads.made hdeparted
  unfold Job.afterLoading at hafter
  split at hafter
  · obtain ⟨rfl, rfl⟩ := Prod.mk.inj hafter
    exact hends _
  · next p =>
      split at hafter
      · obtain ⟨rfl, rfl⟩ := Prod.mk.inj hafter
        exact hends _
      · next handle upper =>
          split at hafter
          · obtain ⟨rfl, rfl⟩ := Prod.mk.inj hafter
            exact hends _
          · next base hbase =>
              obtain ⟨rfl, rfl⟩ := Prod.mk.inj hafter
              show Reads environment source _ c (h.step (.create (base.merge upper))) _
              exact .creating (hloads.act hw.sound _) (hdeparted.step hw _) hloaded.symm hbase rfl
                (Hub.order_create _ h)

theorem Reads.resume {actions : List Action} (hreads : Reads environment source purpose c h job)
    (hw : h.Watched) (hresume : job.resume? h = some (after, actions)) :
    Reads environment source purpose c (h.run actions) after := by
  cases hreads with
  | making hordered =>
      obtain ⟨outcome, hover, heq⟩ := Option.map_eq_some_iff.1 hresume
      have hmade := rests_create hover
      cases outcome with
      | error fault =>
          obtain ⟨rfl, rfl⟩ := Prod.mk.inj heq
          exact .unmade hmade
      | ok s =>
          obtain ⟨rfl, rfl⟩ := Prod.mk.inj heq
          show Reads environment source purpose c (h.step (.evaluate s source Query.value.expr)) _
          refine .loading (Hub.order_step hordered _) (Hub.created_step hw.sound.launcher hmade _) ?_
          exact Hub.questions_getElem?.2 ⟨_, List.getElem?_concat_length, rfl⟩
  | loading hordered hmade hquestion =>
      obtain ⟨result, hover, heq⟩ := Option.map_eq_some_iff.1 hresume
      obtain ⟨rfl, rfl⟩ := Prod.mk.inj heq
      have hloads : Loads environment source c _ result h :=
        ⟨hordered, hmade, _, hquestion, rests_evaluate hover⟩
      show Reads environment source purpose c (h.step (.close _ false)) _
      exact .closing (hloads.act hw.sound _) List.getElem?_concat_length .failing
  | closing hloads he hparting =>
      unfold Job.resume? at hresume
      dsimp only at hresume
      split at hresume
      · next hended =>
          obtain ⟨rfl, rfl⟩ := Prod.mk.inj (Option.some.inj hresume)
          -- an errand that is over has closed its evaluator
          obtain rfl := Option.some.inj ((rests_errand hended).symm.trans he)
          show Reads environment source purpose c (h.step (.release _ false)) _
          cases hparting with
          | finished hdeparted => exact .releasing (hloads.act hw.sound _) (hdeparted.step hw _)
      · cases hresume
  | releasing hloads hdeparted =>
      unfold Job.resume? at hresume
      dsimp only at hresume
      split at hresume
      · exact .afterLoading hloads hdeparted hw rfl (Option.some.inj hresume)
      · cases hresume
  | creating hloads hdeparted =>
      obtain ⟨outcome, -, heq⟩ := Option.map_eq_some_iff.1 hresume
      obtain ⟨rfl, rfl⟩ := Prod.mk.inj heq
      exact .finished hloads.made hdeparted
  | unmade _ | finished _ _ => cases hresume

/-! ## Evaluators with a project's settings -/

section

variable {host host' : Host} {dir : FilePath} {o : EvaluatorOptions}

theorem createForProject_of_source
    (hsource : ModuleSource.ofFile host.environment.workingDir (projectFile dir) = .ok source) :
    host.createForProject dir o =
      ((host.addJob (.makingLoader (.evaluator host.handles.length o) source host.hub.creates.length)).act
        (.create (preconfigured host.environment))).addHandle := by
  unfold createForProject load
  rw [hsource]

theorem createForProject_of_no_source {fault : EvaluatorError}
    (hsource : ModuleSource.ofFile host.environment.workingDir (projectFile dir) = .error fault) :
    host.createForProject dir o = (host.addJob (.finished (.error fault))).addHandle := by
  unfold createForProject load
  rw [hsource]

/-- Whatever happens to a job that reads a project, it is at one of its stages. -/
theorem reads_of_becomes (hw : host.hub.Watched) (hall : host.hub.AllAccounted)
    (hsource : ModuleSource.ofFile host.environment.workingDir (projectFile dir) = .ok source)
    (hbecomes : Becomes host.jobs.length (host.createForProject dir o) host') :
    ∃ job, host'.jobs[host.jobs.length]? = some job ∧
      Reads host.environment source (.evaluator host.handles.length o) host.hub.creates.length host'.hub
        job := by
  rw [createForProject_of_source hsource] at hbecomes
  have hstarts : (host.hub.step (.create (preconfigured host.environment))).Watched ∧
      (host.hub.step (.create (preconfigured host.environment))).AllAccounted ∧
      Reads host.environment source (.evaluator host.handles.length o) host.hub.creates.length
        (host.hub.step (.create (preconfigured host.environment)))
        (.makingLoader (.evaluator host.handles.length o) source host.hub.creates.length) :=
    ⟨hw.step _, Hub.allAccounted_step hall _, .making (Hub.order_create _ host.hub)⟩
  obtain ⟨job, hjob, -, -, hreads⟩ := hbecomes.keeps
    (P := fun job h => h.Watched ∧ h.AllAccounted ∧ Reads host.environment source
      (.evaluator host.handles.length o) host.hub.creates.length h job)
    (fun a ⟨hw, hall, hreads⟩ => ⟨hw.step a, Hub.allAccounted_step hall a, hreads.act hw hall a⟩)
    (fun ⟨hw, hall, hreads⟩ hresume =>
      ⟨hw.run _, Hub.allAccounted_run hall _, hreads.resume hw hresume⟩)
    List.getElem?_concat_length hstarts
  exact ⟨job, hjob, hreads⟩

/-- Whoever wants an evaluator for a project without a name for its file is told so, and no more happens. -/
theorem finished_of_becomes {fault : EvaluatorError}
    (hsource : ModuleSource.ofFile host.environment.workingDir (projectFile dir) = .error fault)
    (hbecomes : Becomes host.jobs.length (host.createForProject dir o) host') :
    host'.jobs[host.jobs.length]? = some (.finished (.error fault)) := by
  rw [createForProject_of_no_source hsource] at hbecomes
  obtain ⟨job, hjob, rfl⟩ := hbecomes.keeps (P := fun job _ => job = .finished (.error fault))
    (fun _ hsame => hsame) (fun hsame hresume => by subst hsame; cases hresume)
    List.getElem?_concat_length rfl
  exact hjob

end

/-- An evaluator for a project gets the project's settings under the options of the user, whatever the server
does and whoever goes on when.  If the server comes to receive a request for it, the loader has come back with
octets that decode to a value that describes a project, it has left, and the request has the settings of that
project under the options.  And whatever the job ends with, the loader has left if there was one. -/
theorem createForProject_overlays {h : Hub} {past : List Action} {host host' : Host} {dir : FilePath}
    {o : EvaluatorOptions} (hnew : h.New) (hhub : host.hub = h.run past)
    (hbecomes : Becomes host.jobs.length (host.createForProject dir o) host') :
    (∀ handle i m, host'.jobs[host.jobs.length]? = some (.creating handle i) →
      host'.hub.Sends (.create i) m → ∃ source s octets v p,
        ModuleSource.ofFile host.environment.workingDir (projectFile dir) = .ok source ∧
        Loads host.environment source host.hub.creates.length s (.ok octets) host'.hub ∧
        Value.decode octets = .ok v ∧ Describes v p ∧ host'.hub.Departed s ∧
        p.SentUnder h.workingDir o m) ∧
    ∀ source outcome s,
      ModuleSource.ofFile host.environment.workingDir (projectFile dir) = .ok source →
      host'.jobs[host.jobs.length]? = some (.finished outcome) →
      host'.hub.createStages[host.hub.creates.length]? = some (Hub.CreateStage.finished (.ok s)) →
      host'.hub.Departed s := by
  have hw : host.hub.Watched := hhub ▸ hnew.watched.run past
  have hall : host.hub.AllAccounted := hhub ▸ hnew.allAccounted past
  constructor
  · intro handle i m hjob hsends
    cases hsource : ModuleSource.ofFile host.environment.workingDir (projectFile dir) with
    | error fault =>
        rw [finished_of_becomes hsource hbecomes] at hjob
        cases hjob
    | ok source =>
        obtain ⟨job, hat, hreads⟩ := reads_of_becomes hw hall hsource hbecomes
        obtain rfl := Option.some.inj (hat.symm.trans hjob)
        cases hreads with
        | creating hloads hdeparted hproject hbase hpurpose horder =>
            obtain ⟨-, rfl⟩ := Purpose.evaluator.inj hpurpose
            obtain ⟨octets, v, rfl, hdecode, hdescribes⟩ := projectOf_eq_ok hproject
            obtain ⟨actions, hrun⟩ :=
              (becomes_createForProject host.jobs.length dir o host).runsTo.trans hbecomes.runsTo
            rw [hhub, ← Hub.run_append] at hrun
            obtain ⟨id, request, hrequest, rfl⟩ :=
              hsends.request (hrun ▸ hnew.allDrafted (past ++ actions)) horder
            rw [hrun, Hub.workingDir_run] at hrequest
            exact ⟨source, _, octets, v, _, rfl, hloads, hdecode, hdescribes, hdeparted,
              Project.sentUnder_of_createRequest hbase hrequest⟩
  · intro source outcome s hsource hjob hmade
    obtain ⟨job, hat, hreads⟩ := reads_of_becomes hw hall hsource hbecomes
    obtain rfl := Option.some.inj (hat.symm.trans hjob)
    cases hreads with
    | unmade hnever => cases Option.some.inj (hnever.symm.trans hmade)
    | finished hmade' hdeparted =>
        obtain rfl : _ = s := by simpa using Option.some.inj (hmade'.symm.trans hmade)
        exact hdeparted

/-! ### A project that keeps no cache -/

/-- A project that sets properties and an environment, and has switched its cache off. -/
def reef : Value :=
  .object "Project" "pkl:Project"
    [("projectFileUri", .string "file:///reef/PklProject"),
     ("evaluatorSettings", .object "EvaluatorSettings" "pkl:EvaluatorSettings"
       [("externalProperties", .map [(.string "mode", .string "wet")]),
        ("env", .map [(.string "TIDE", .string "high")]),
        ("noCache", .bool true), ("moduleCacheDir", .string "/cache")])]

/-- A host whose server runs. -/
def ashore : Host := .ofStreams ⟨.ofPairs [], FilePath.ofText "/"⟩ ⟨"pkl", []⟩

/-- Options with another environment. -/
def lowTide : EvaluatorOptions := { env := some (.ofPairs [("TIDE", "low")]) }

/-- The loader is there and has been asked. -/
def wading : Host :=
  ((ashore.createForProject (FilePath.ofText "/reef") lowTide).settle.act
    (.arrive (Incoming.encode (.createEvaluatorResponse ⟨0x6220a8397b1dcdaf, some 7, none⟩)))).settle

/-- The server has answered with the project, and the request that its settings make is about to be written. -/
def diving : Host :=
  (wading.act (.arrive (Incoming.encode
    (.evaluateResponse ⟨7191089600892374487, 7, some reef.encode, none⟩)))).steps 18

theorem becomes_diving :
    Becomes 0 (ashore.createForProject (FilePath.ofText "/reef") lowTide) diving := by
  have hwading : Becomes 0 (ashore.createForProject (FilePath.ofText "/reef") lowTide) wading :=
    ((becomes_steps 0 _ _).tail (.acts _)).trans (becomes_steps 0 _ _)
  exact (hwading.tail (.acts _)).trans (becomes_steps 0 18 _)

/-- The server is about to receive the properties of the project and the environment of the options, without a
cache, and the loader has left. -/
theorem createForProject_overlays_reef : ∃ request, ashore.hub.New ∧
    Becomes 0 (ashore.createForProject (FilePath.ofText "/reef") lowTide) diving ∧
    diving.jobs[0]? = some (.creating 0 1) ∧ diving.hub.Sends (.create 1) (.createEvaluator request) ∧
    request.properties.map Dict.pairs = some [("mode", "wet")] ∧
    request.env.map Dict.pairs = some [("TIDE", "low")] ∧ request.cacheDir = none ∧
    ∃ source s octets v p,
      ModuleSource.ofFile (FilePath.ofText "/") (projectFile (FilePath.ofText "/reef")) = .ok source ∧
      Loads ashore.environment source 0 s (.ok octets) diving.hub ∧ Value.decode octets = .ok v ∧
      Describes v p ∧ diving.hub.Departed s ∧
      p.SentUnder (FilePath.ofText "/") lowTide (.createEvaluator request) := by
  have hnew : ashore.hub.New :=
    ⟨⟨rfl, rfl, rfl, rfl, rfl, fun _ => Hub.Launch.noConfusion, fun _ _ => Hub.Loop.noConfusion⟩, rfl, rfl⟩
  have hjob : diving.jobs[0]? = some (.creating 0 1) := by
    have hwaits : diving.jobs[0]?.bind Job.awaits? = some (.create 1) := by decide +kernel
    cases hsource : ModuleSource.ofFile ashore.environment.workingDir
        (projectFile (FilePath.ofText "/reef")) with
    | error fault =>
        have hfinished : diving.jobs[0]? = some _ := finished_of_becomes hsource becomes_diving
        rw [hfinished] at hwaits
        cases hwaits
    | ok source =>
        obtain ⟨job, hjob, hreads⟩ :=
          reads_of_becomes hnew.watched (hnew.allAccounted []) hsource becomes_diving
        have hjob : diving.jobs[0]? = some job := hjob
        rw [hjob] at hwaits ⊢
        -- the call that it waits for is not the one that made the loader
        cases hreads with
        | creating _ _ _ _ hpurpose _ =>
            obtain ⟨rfl, -⟩ := Purpose.evaluator.inj hpurpose
            cases hwaits
            rfl
        | _ => cases hwaits
  have hrequest : (diving.hub.creates[1]?.bind fun call => call.stage.draft?).map
      (fun r => (r.properties.map Dict.pairs, r.env.map Dict.pairs, r.cacheDir)) =
      some (some [("mode", "wet")], some [("TIDE", "low")], none) := by
    decide +kernel
  have hwriting : (diving.hub.creates[1]?.map fun call => call.stage.writes) = some true := by
    decide +kernel
  have hreads : diving.hub.serverReads = true := by decide +kernel
  obtain ⟨request, hdraft, hfields⟩ := Option.map_eq_some_iff.1 hrequest
  obtain ⟨call, hcall, hdraft⟩ := Option.bind_eq_some_iff.1 hdraft
  have hwrites : call.stage.writes = true := by
    rw [hcall] at hwriting
    exact Option.some.inj hwriting
  obtain ⟨hproperties, hfields⟩ := Prod.mk.inj hfields
  obtain ⟨henv, hcache⟩ := Prod.mk.inj hfields
  have hsends : diving.hub.Sends (.create 1) (.createEvaluator request) :=
    Hub.sends_of_writing hcall (Hub.CreateStage.eq_sending_of_writes hwrites hdraft) hreads
  exact ⟨request, hnew, becomes_diving, hjob, hsends, hproperties, henv, hcache,
    (@createForProject_overlays ashore.hub [] ashore diving _ _ hnew rfl becomes_diving).1 0 1 _ hjob hsends⟩

end PklHost.Host
