import PklHost.Proofs.Hub.Performers
import PklHost.Proofs.Hub.Teardown

/-!
# Closing the manager

A call that closes the manager marks it as closed first and looks for a connection afterwards.  A call that
creates asks for the mark, has the server started if nobody has, and asks for the mark again when the
connection is there.  Each does its part in the order opposite to the other's, so that whichever way their
steps fall, one of them sees the other (`caught_step`).

`ClosingWins` says of a run what comes of that.  Once all these calls are over, the server was never started
or the connection is closed, and with it every evaluator that a call returned; and a call that begins when
the manager is closed is refused and starts nothing.
-/

namespace PklHost.Hub

variable {h h' : Hub} {reason : CloseReason}

/-! ## The mark -/

theorem ErrandTurn.flag {e e' : Errand} (hturn : ErrandTurn h e e' h') :
    h'.managerClosed = h.managerClosed ∨ h'.managerClosed = true ∧ e' = .disconnect := by
  cases hturn with
  | flags _ => exact .inr ⟨rfl, rfl⟩
  | gone _ _ | unregisters _ _ | passes _ | leaves _ _ | left _ | reads _ _ | ignores _ | closedBefore _
  | connectionless _ | waits | ended _ | rests => exact .inl rfl
  | fails _ | releases _ => exact .inl (h.posts_failSession _ _).flag
  | tells hsending _ | told hsending _ _ | notices hsending | noticed hsending _ | replies hsending
  | replied hsending => exact .inl (posts_of_stepSending hsending).flag
  | unreplied hsending => exact .inl (posts_of_stepSending hsending).flag
  | closes _ _ => exact .inl (h.posts_beginShutdown .managerClosed).flag

/-- Whoever marks the manager as closed is about to shut its connection down. -/
theorem managerClosed_step (h : Hub) (a : Action) : (h.step a).managerClosed = h.managerClosed ∨
    (h.step a).managerClosed = true ∧ ∃ i : Nat, (h.step a).errands[i]? = some .disconnect := by
  cases h.mail_step a with
  | kept hposts _ | posted _ hposts _ => exact .inl hposts.flag
  | begun _ _ _ hflag _ | called _ _ _ hflag => exact .inl hflag
  | @errand i e e' h₁ _ he hturn heq _ =>
      rw [heq]
      refine hturn.flag.imp_right fun hflags => ⟨hflags.1, i, ?_⟩
      rw [← hflags.2]
      exact List.getElem?_set_self (List.getElem?_eq_some_iff.1 (hturn.errands_getElem? he)).1

theorem managerClosed_keeps (hclosed : h.managerClosed = true) (a : Action) :
    (h.step a).managerClosed = true := by
  rcases managerClosed_step h a with hsame | ⟨hmarked, -⟩
  · rw [hsame, hclosed]
  · exact hmarked

theorem managerClosed_run (hclosed : h.managerClosed = true) (actions : List Action) :
    (h.run actions).managerClosed = true :=
  run_keeps (P := fun h => h.managerClosed = true) (fun hclosed a => managerClosed_keeps hclosed a)
    hclosed actions

/-- A call that closes the manager has yet to take its first step, or the manager is closed. -/
theorem marked_step {i : Nat}
    (hmarked : h.errands[i]? = some .closeManager ∨ h.managerClosed = true) (a : Action) :
    (h.step a).errands[i]? = some .closeManager ∨ (h.step a).managerClosed = true := by
  rcases hmarked with he | hclosed
  · rcases errands_step he a with ⟨-, hstays⟩ | ⟨-, e', h₁, hturn, heq, -⟩
    · exact .inl hstays
    · right
      rw [heq]
      cases hturn with
      | gone hs _ => cases hs
      | closedBefore hclosed => exact hclosed
      | flags _ => rfl
  · exact .inr (managerClosed_keeps hclosed a)

/-! ## The start of the server -/

/-- The call has come past the start of the server. -/
def CreateStage.connected : CreateStage → Bool
  | .confirming | .shuttingDown | .numbering | .registering _ | .sending .. | .withdrawing .. | .waiting
  | .inserting _ | .finished (.ok _) => true
  | .connecting | .entering | .launching | .finished (.error _) | .abandoned => false

/-- Whoever has come past the start of the server has found it started. -/
def Connected (h : Hub) : Prop :=
  ∀ (i : Nat) (stage : CreateStage), h.createStages[i]? = some stage → stage.connected = true →
    h.launch = .started

theorem CreateTurn.connected {i : Nat} {call : CreateCall} {stage : CreateStage}
    (hturn : CreateTurn h i call stage h') (hstage : stage.connected = true) :
    call.stage.connected = true ∨ h.launch = .started := by
  cases hturn with
  | stays => exact .inl hstage
  | enters _ hstarted => exact .inr hstarted
  | connects _ _ | launches _ _ | unnumbered _ _ | withdraws _ | returns _ _ | shutOut _ _
  | refused _ _ _ _ _ => cases hstage
  | closes hbefore _ | confirms hbefore _ | numbers hbefore _ | files hbefore _ _ | sends hbefore _
  | sent hbefore _ | unsent hbefore _ | accepts hbefore _ | inserts hbefore _ =>
      left
      rw [hbefore]
      rfl

/-- A server that was started stays so. -/
theorem launch_keeps (hstarted : h.launch = .started) (a : Action) : (h.step a).launch = .started := by
  cases stages_step h a with
  | kept _ hlaunch | begun _ hlaunch | abandoned _ _ _ _ hlaunch => rw [hlaunch, hstarted]
  | advanced _ _ hturn heq _ =>
      rw [heq, launch_moveCreate]
      rcases hturn.step.launch with ⟨hidle, -⟩ | ⟨hsame, -⟩
      · rw [hstarted] at hidle
        cases hidle
      · rw [hsame, hstarted]
  | ended hunderway _ _ =>
      rw [hstarted] at hunderway
      cases hunderway

theorem connected_step (hconnected : h.Connected) (a : Action) : (h.step a).Connected := by
  intro i stage hat hstage
  cases createOrigin hat with
  | kept hbefore => exact launch_keeps (hconnected i stage hbefore hstage) a
  | begun _ hnew | abandoned hnew =>
      rw [hnew] at hstage
      cases hstage
  | @turned call h₁ _ hcall hturn heq =>
      refine launch_keeps ?_ a
      rcases hturn.connected hstage with hbefore | hstarted
      · exact hconnected i call.stage (createStages_getElem?.2 ⟨call, hcall, rfl⟩) hbefore
      · exact hstarted
  | launched _ hends =>
      generalize (h.step a).launch = launch at hends ⊢
      cases hends with
      | started => rfl
      | failed e => cases hstage

/-- The call that started the server asks for the mark next. -/
theorem launch_step (hlauncher : h.OneLauncher) {a : Action}
    (hstarted : (h.step a).launch = .started) :
    h.launch = .started ∨ ∃ i : Nat, (h.step a).createStages[i]? = some .confirming := by
  cases stages_step h a with
  | kept _ hlaunch | begun _ hlaunch | abandoned _ _ _ _ hlaunch => exact .inl (hlaunch ▸ hstarted)
  | advanced _ _ hturn heq _ =>
      rw [heq, launch_moveCreate] at hstarted
      rcases hturn.step.launch with ⟨-, hunderway, -⟩ | ⟨hsame, -⟩
      · rw [hstarted] at hunderway
        cases hunderway
      · exact .inl (hsame ▸ hstarted)
  | @ended i stage hunderway hstages hends =>
      obtain hat := createStages_getElem?.2 (hlauncher i hunderway)
      rw [hstarted] at hends
      cases hends
      exact .inr ⟨i, by rw [hstages, List.getElem?_modify_eq, hat]; rfl⟩

/-! ## One of them sees the other -/

/-- The connection is closed, or somebody is about to see that it has to be. -/
inductive Closes (h : Hub) : Prop
  | closed (hclosed : h.connection.isClosed = true)
  | confirms {i : Nat} (hat : h.createStages[i]? = some .confirming)
  | disconnects {i : Nat} (he : h.errands[i]? = some .disconnect)

/-- Once the manager is closed and the server started, that is so. -/
def Caught (h : Hub) : Prop :=
  h.managerClosed = true → h.launch = .started → h.Closes

/-- A call that finds the manager closed closes the connection. -/
theorem closes_of_confirming (hclosed : h.managerClosed = true) {i : Nat}
    (hat : h.createStages[i]? = some .confirming) :
    (h.step (.advance (.create i))).Closes := by
  obtain ⟨call, hcall, hstage⟩ := createStages_getElem?.1 hat
  have hturn := h.advance_turn (.create i)
  show (h.advance (.create i)).Closes
  generalize h.advance (.create i) = h' at hturn
  cases hturn with
  | none => exact .confirms hat
  | create hcall' hturn =>
      obtain rfl := Option.some.inj (hcall.symm.trans hcall')
      cases hturn with
      | stays =>
          refine .confirms (i := i) ?_
          rw [createStages_moveCreate, List.getElem?_modify_eq, hat, hstage]
          rfl
      | closes _ hopen =>
          refine .closed ?_
          rw [moveCreate_eq, beginShutdown_of_open hopen]
          rfl
      | confirms _ hopen =>
          rw [hclosed] at hopen
          cases hopen
      | refused _ _ _ hdone _ =>
          refine .closed ?_
          rw [moveCreate_eq]
          exact hdone hstage
      | connects hother _ | launches hother _ | enters hother _ | numbers hother _ | unnumbered hother _
      | files hother _ _ | sends hother _ | sent hother _ | unsent hother _ | withdraws hother
      | accepts hother _ | returns hother _ | inserts hother _ | shutOut hother _ =>
          rw [hstage] at hother
          cases hother

/-- A call that closed the manager closes the connection that is there. -/
theorem closes_of_disconnect (hstarted : h.launch = .started) {i : Nat} {e : Errand}
    (hturn : ErrandTurn h .disconnect e h') : (h'.setErrand i e).connection.isClosed = true := by
  cases hturn with
  | gone hs _ => cases hs
  | closes _ hopen =>
      rw [beginShutdown_of_open hopen]
      rfl
  | connectionless hdone => exact hdone hstarted

theorem Closes.step (hcloses : h.Closes) (hlauncher : h.OneLauncher)
    (hclosed : h.managerClosed = true) (hstarted : h.launch = .started) (a : Action) :
    (h.step a).Closes := by
  cases hcloses with
  | closed hdone => exact .closed (isClosed_step hdone a)
  | @confirms i hat =>
      by_cases ha : a = .advance (.create i)
      · subst ha
        exact closes_of_confirming hclosed hat
      · exact .confirms (createStages_keeps hat ha (fun _ => rfl) hlauncher CreateStage.noConfusion)
  | disconnects he =>
      rcases errands_step he a with ⟨-, hstays⟩ | ⟨-, e', h₁, hturn, heq, -⟩
      · exact .disconnects hstays
      · rw [heq]
        exact .closed (closes_of_disconnect hstarted hturn)

/-- Either the call that creates finds the mark, or the one that closes finds the connection. -/
theorem caught_step (hcaught : h.Caught) (hlauncher : h.OneLauncher) (a : Action) :
    (h.step a).Caught := by
  intro hclosed hstarted
  rcases managerClosed_step h a with hsame | ⟨-, i, he⟩
  · rcases launch_step hlauncher hstarted with hbefore | ⟨i, hat⟩
    · rw [hsame] at hclosed
      exact (hcaught hclosed hbefore).step hlauncher hclosed hbefore a
    · exact .confirms hat
  · exact .disconnects he

/-- What holds in every run of a hub whose manager was open. -/
structure Managed (h : Hub) : Prop where
  sound : h.Sound
  connected : h.Connected
  caught : h.Caught
  found : h.ErrandsFound
  tended : h.Tended

theorem New.managed (hnew : h.New) (hopen : h.managerClosed = false) : h.Managed where
  sound := hnew.sound
  connected := by
    intro i stage hat
    rw [createStages, hnew.creates] at hat
    cases hat
  caught := by
    intro hclosed
    rw [hopen] at hclosed
    cases hclosed
  found := by
    intro e he
    rw [hnew.errands] at he
    cases he
  tended := by
    intro hclosing
    rw [hnew.isOpen] at hclosing
    exact hclosing.elim

theorem Managed.step (hm : h.Managed) (a : Action) : (h.step a).Managed where
  sound := hm.sound.step a
  connected := connected_step hm.connected a
  caught := caught_step hm.caught hm.sound.launcher a
  found := errandsFound_step hm.found a
  tended := tended_step hm.tended hm.sound.launcher hm.found a

theorem Managed.run (hm : h.Managed) (actions : List Action) : (h.run actions).Managed :=
  run_keeps (fun hm a => hm.step a) hm actions

/-! ## Once the calls are over -/

/-- An errand that closes the manager. -/
def Errand.closesManager : Errand → Bool
  | .closeManager | .disconnect | .shuttingDown => true
  | .close .. | .release .. | .leave _ | .notice .. | .read .. | .reply .. | .finished => false

/-- The calls that create and those that close the manager are over. -/
structure Returned (h : Hub) : Prop where
  creates : ∀ call ∈ h.creates, createCourse.Over call.stage
  closes : ∀ e ∈ h.errands, e.closesManager = false

/-- Whoever is in the middle of a shutdown creates an evaluator or closes the manager. -/
def Undisturbed (h : Hub) : Prop :=
  ∀ p, h.Performs p → (∃ i, p = .caller (.create i)) ∨
    ∃ i, p = .caller (.errand i) ∧ h.errands[i]? = some .shuttingDown

theorem createOutcome?_eq_some {i : Nat} {outcome : Except EvaluatorError Nat} :
    createOutcome? i h = some outcome ↔ h.createStages[i]? = some (.finished outcome) := by
  unfold createOutcome? createStages
  rw [List.getElem?_map]
  cases h.creates[i]? with
  | none => exact ⟨(nomatch ·), (nomatch ·)⟩
  | some call =>
      rw [Option.bind_some, CreateStage.outcome?_eq_some, Option.map_some, Option.some_inj]

theorem not_over_of_launching {stage : CreateStage} (hstage : stage = .launching) :
    ¬ createCourse.Over stage := by
  rintro (⟨outcome, ho⟩ | habandoned)
  · rw [hstage] at ho
    cases ho
  · rw [hstage] at habandoned
    cases habandoned

theorem shuts_of_over {stage : CreateStage} (hover : createCourse.Over stage) : stage.shuts = false := by
  rcases hover with ⟨outcome, ho⟩ | rfl
  · rw [CreateStage.outcome?_eq_some.1 ho]
    rfl
  · rfl

/-- Nobody is starting the server any more. -/
theorem Returned.launch (hreturned : h.Returned) (hlauncher : h.OneLauncher) :
    h.launch = .idle ∨ h.launch = .started := by
  cases hlaunch : h.launch with
  | idle => exact .inl rfl
  | started => exact .inr rfl
  | underway i =>
      obtain ⟨call, hcall, hstage⟩ := hlauncher i hlaunch
      exact absurd (hreturned.creates call (List.mem_of_getElem? hcall)) (not_over_of_launching hstage)

/-- If the server was started then, the connection is closed. -/
theorem Returned.isClosed (hreturned : h.Returned) (hm : h.Managed) (hclosed : h.managerClosed = true)
    (hstarted : h.launch = .started) : h.connection.isClosed = true := by
  cases hm.caught hclosed hstarted with
  | closed hdone => exact hdone
  | confirms hat =>
      obtain ⟨call, hcall, hstage⟩ := createStages_getElem?.1 hat
      rcases hreturned.creates call (List.mem_of_getElem? hcall) with ⟨outcome, ho⟩ | habandoned
      · rw [hstage] at ho
        cases ho
      · rw [hstage] at habandoned
        cases habandoned
  | disconnects he =>
      have := hreturned.closes _ (List.mem_of_getElem? he)
      cases this

/-- If nobody else is in the middle of a shutdown then, nobody is. -/
theorem Returned.not_isClosing (hreturned : h.Returned) (hm : h.Managed) (hundisturbed : h.Undisturbed) :
    ¬ h.connection.phase.IsClosing := by
  intro hclosing
  obtain ⟨p, hp⟩ := hm.tended hclosing
  rcases hundisturbed p hp with ⟨i, rfl⟩ | ⟨i, rfl, he⟩
  · obtain ⟨stage, hat, hshuts⟩ := hp
    obtain ⟨call, hcall, rfl⟩ := createStages_getElem?.1 hat
    rw [shuts_of_over (hreturned.creates call (List.mem_of_getElem? hcall))] at hshuts
    cases hshuts
  · have := hreturned.closes _ (List.mem_of_getElem? he)
    cases this

/-- A connection that is closed to callers is down once no shutdown is under way. -/
theorem phase_closed (hclosed : h.connection.isClosed = true)
    (hdone : ¬ h.connection.phase.IsClosing) : ∃ reason, h.connection.phase = .closed reason := by
  unfold Connection.isClosed at hclosed
  split at hclosed
  · cases hclosed
  · next hphase => exact absurd (by rw [hphase]; trivial) hdone
  · next hphase => exact ⟨_, hphase⟩

/-- A session that a call returned is there. -/
theorem Sound.returned_session (hsound : h.Sound) {i s : Nat}
    (hreturned : createOutcome? i h = some (.ok s)) : ∃ session, h.sessions[s]? = some session := by
  obtain ⟨call, hcall, hstage⟩ := createStages_getElem?.1 (createOutcome?_eq_some.1 hreturned)
  obtain ⟨evaluatorId, -, hat⟩ := hsound.enrolled i s call hcall hstage
  have hs := (List.getElem?_eq_some_iff.1 hat).1
  rw [length_evaluatorIds] at hs
  exact ⟨_, List.getElem?_eq_getElem hs⟩

/-- The connection is down, and every evaluator that a call returned is closed. -/
structure ShutFor (h : Hub) (reason : CloseReason) : Prop where
  phase : h.connection.phase = .closed reason
  down : h.Down
  evaluators : ∀ i s, createOutcome? i h = some (.ok s) →
    ∃ session, h.sessions[s]? = some session ∧ session.Over

theorem Sound.shutFor (hsound : h.Sound) (hphase : h.connection.phase = .closed reason)
    (hdown : h.Down) : h.ShutFor reason where
  phase := hphase
  down := hdown
  evaluators := by
    intro i s hreturned
    obtain ⟨session, hsession⟩ := hsound.returned_session hreturned
    exact ⟨session, hsession, hdown.sessions session (List.mem_of_getElem? hsession)⟩

/-- A shutdown that is gone on with ends with everything closed. -/
theorem New.shutFor_of_run (hnew : h.New) {before : List Action}
    (hdistinct : (h.run before).DistinctSessions)
    (hreason : (h.run before).connection.phase.reason? = some reason) :
    ∃ n, (h.run (before ++ List.replicate n .shutdown)).ShutFor reason := by
  obtain ⟨n, hphase⟩ : ∃ n, (h.run (before ++ List.replicate n .shutdown)).connection.phase =
      .closed reason := by
    cases hphase : (h.run before).connection.phase with
    | isOpen =>
        rw [hphase] at hreason
        cases hreason
    | closing other progress =>
        rw [hphase] at hreason
        obtain rfl := Option.some.inj hreason
        obtain ⟨n, hn⟩ := shutdown_ends hphase
        exact ⟨n, by rw [run_append, hn]⟩
    | closed other =>
        rw [hphase] at hreason
        obtain rfl := Option.some.inj hreason
        exact ⟨0, by rw [List.replicate_zero, List.append_nil, hphase]⟩
  -- no session is entered meanwhile
  have hids : (h.run (before ++ List.replicate n .shutdown)).evaluatorIds =
      (h.run before).evaluatorIds := by
    rw [run_append]
    exact evaluatorIds_run_of_reason? hreason _
  have hdistinct : (h.run (before ++ List.replicate n .shutdown)).DistinctSessions := by
    intro s s' evaluatorId hat hat'
    rw [hids] at hat hat'
    exact hdistinct s s' evaluatorId hat hat'
  exact ⟨n, (hnew.sound.run _).shutFor hphase (hnew.down_of_distinct hdistinct hphase)⟩

/-! ## Calls that begin when the manager is closed -/

/-- Where a call that creates is if it begins when the manager is closed. -/
inductive CreateStage.Barred : CreateStage → Prop
  | unasked : Barred .connecting
  | refused : Barred (.finished (.error (.connectionClosed .managerIsClosed)))
  | abandoned : Barred .abandoned

/-- Its turn changes nothing but its own stage, and refuses it unless it was given up. -/
theorem advance_barred (hclosed : h.managerClosed = true) {i : Nat} {call : CreateCall}
    (hcall : h.creates[i]? = some call) (hbarred : call.stage.Barred) :
    ∃ stage, stage.Barred ∧
      (call.stage ≠ .abandoned → stage = .finished (.error (.connectionClosed .managerIsClosed))) ∧
      h.step (.advance (.create i)) = h.moveCreate i stage := by
  have hadvance : h.step (.advance (.create i)) =
      (h.stepCreate i call).2.moveCreate i (h.stepCreate i call).1 := advance_create hcall
  rw [hadvance]
  unfold stepCreate
  generalize call.stage = stage at hbarred
  cases hbarred with
  | unasked =>
      dsimp only
      rw [if_pos hclosed]
      exact ⟨_, .refused, fun _ => rfl, rfl⟩
  | refused => exact ⟨_, .refused, fun _ => rfl, rfl⟩
  | abandoned => exact ⟨_, .abandoned, fun hgoesOn => absurd rfl hgoesOn, rfl⟩

theorem barred_step (hsound : h.Sound) (hclosed : h.managerClosed = true) {i : Nat}
    {call : CreateCall} (hcall : h.creates[i]? = some call) (hbarred : call.stage.Barred)
    (a : Action) : ∃ call', (h.step a).creates[i]? = some call' ∧ call'.stage.Barred := by
  obtain ⟨call', hcall', -, -⟩ := create_step hsound a hcall
  have hat' := createStages_getElem?.2 ⟨call', hcall', rfl⟩
  have hat := createStages_getElem?.2 ⟨call, hcall, rfl⟩
  refine ⟨call', hcall', ?_⟩
  cases createOrigin hat' with
  | kept hsame =>
      rw [hat] at hsame
      rwa [← Option.some.inj hsame]
  | begun hnone _ =>
      rw [hcall] at hnone
      cases hnone
  | turned ha _ _ _ =>
      obtain ⟨stage, hstage, -, heq⟩ := advance_barred hclosed hcall hbarred
      rw [ha, heq, createStages_moveCreate, List.getElem?_modify_eq, hat] at hat'
      rwa [← Option.some.inj hat']
  | abandoned hstage =>
      rw [hstage]
      exact .abandoned
  | launched hunderway _ =>
      -- the call that starts the server is not barred
      obtain ⟨other, hother, hlaunching⟩ := hsound.launcher i hunderway
      obtain rfl := Option.some.inj (hcall.symm.trans hother)
      rw [hlaunching] at hbarred
      cases hbarred

theorem barred_run (hsound : h.Sound) (hclosed : h.managerClosed = true) {i : Nat}
    {call : CreateCall} (hcall : h.creates[i]? = some call) (hbarred : call.stage.Barred)
    (actions : List Action) :
    ∃ call', (h.run actions).creates[i]? = some call' ∧ call'.stage.Barred := by
  induction actions generalizing h call with
  | nil => exact ⟨call, hcall, hbarred⟩
  | cons a actions ih =>
      obtain ⟨next, hnext, hstays⟩ := barred_step hsound hclosed hcall hbarred a
      exact ih (hsound.step a) (managerClosed_keeps hclosed a) hnext hstays

/-! ## Whole runs -/

/-- In a run, closing the manager wins against the calls that create. -/
structure ClosingWins (h : Hub) (actions : List Action) : Prop where
  /-- A call that closes the manager has it closed with its first step, for good. -/
  marked : ∀ before past after, actions = before ++ .closeManager :: past ++ after →
    (h.run (before ++ .closeManager :: past)).errands[(h.run before).errands.length]? =
        some .closeManager ∨
      (h.run (before ++ .closeManager :: past)).managerClosed = true
  /-- Once all calls are over, the server was never started and no call has returned an evaluator, or the
  connection is closed. -/
  closed : ∀ before after, actions = before ++ after → (h.run before).managerClosed = true →
    (h.run before).Returned →
    ((h.run before).launch = .idle ∧ ∀ i s, createOutcome? i (h.run before) ≠ some (.ok s)) ∨
      (h.run before).launch = .started ∧ (h.run before).connection.isClosed = true
  /-- It is down then, and every evaluator that a call returned is closed, unless somebody else is in the
  middle of shutting it down. -/
  down : ∀ before after, actions = before ++ after → (h.run before).managerClosed = true →
    (h.run before).Returned → (h.run before).launch = .started → (h.run before).Undisturbed →
    ∃ reason, (h.run before).ShutFor reason
  /-- And if somebody is, this is so as soon as the shutdown has been gone on with. -/
  ends : ∀ before after, actions = before ++ after → (h.run before).managerClosed = true →
    (h.run before).Returned → (h.run before).launch = .started →
    ∃ reason n, (h.run (before ++ List.replicate n .shutdown)).ShutFor reason
  /-- A call that begins when the manager is closed has not been refused yet, or has been, or was given
  up.  Its turn changes nothing but its own stage, and refuses it unless it was given up. -/
  refused : ∀ before past after o, actions = before ++ .create o :: past ++ after →
    (h.run before).managerClosed = true →
    ∃ call stage, (h.run (before ++ .create o :: past)).creates[(h.run before).creates.length]? =
        some call ∧ call.stage.Barred ∧
      (call.stage ≠ .abandoned → stage = .finished (.error (.connectionClosed .managerIsClosed))) ∧
      h.run (before ++ .create o :: past ++ [.advance (.create (h.run before).creates.length)]) =
        (h.run (before ++ .create o :: past)).moveCreate (h.run before).creates.length stage

/-- In every run of a new hub with an open manager, in which the server hands out no evaluator id twice,
closing the manager wins. -/
theorem closingWins_of_new (hnew : h.New) (hopen : h.managerClosed = false) {actions : List Action}
    (honce : (h.run actions).HandsOutOnce) : h.ClosingWins actions where
  marked := by
    intro before past after _
    rw [run_append h before (.closeManager :: past)]
    refine run_keeps (P := fun later =>
      later.errands[(h.run before).errands.length]? = some .closeManager ∨
        later.managerClosed = true) (fun hmarked a => marked_step hmarked a) (.inl ?_) past
    exact List.getElem?_concat_length
  closed := by
    intro before after _ hclosed hreturned
    have hm := (hnew.managed hopen).run before
    rcases hreturned.launch hm.sound.launcher with hidle | hstarted
    · refine .inl ⟨hidle, fun i s hs => ?_⟩
      have := hm.connected i _ (createOutcome?_eq_some.1 hs) rfl
      rw [hidle] at this
      cases this
    · exact .inr ⟨hstarted, hreturned.isClosed hm hclosed hstarted⟩
  down := by
    intro before after hactions hclosed hreturned hstarted hundisturbed
    have hm := (hnew.managed hopen).run before
    obtain ⟨reason, hphase⟩ := phase_closed (hreturned.isClosed hm hclosed hstarted)
      (hreturned.not_isClosing hm hundisturbed)
    exact ⟨reason, hm.sound.shutFor hphase (hnew.down honce hactions hphase)⟩
  ends := by
    intro before after hactions hclosed hreturned hstarted
    have hm := (hnew.managed hopen).run before
    obtain ⟨reason, hreason⟩ := reason?_of_isClosed (hreturned.isClosed hm hclosed hstarted)
    exact ⟨reason, hnew.shutFor_of_run (hnew.settled honce before after hactions).distinct hreason⟩
  refused := by
    intro before past after o _ hclosed
    have hbegun : (h.run (before ++ [.create o])).creates[(h.run before).creates.length]? =
        some { options := o } := by
      rw [run_snoc]
      exact List.getElem?_concat_length
    have hclosed : (h.run (before ++ [.create o])).managerClosed = true := by
      rw [run_snoc]
      exact managerClosed_keeps hclosed _
    have hlater : h.run (before ++ .create o :: past) = (h.run (before ++ [.create o])).run past := by
      rw [← run_append, List.append_assoc]
      rfl
    obtain ⟨call, hcall, hbarred⟩ := barred_run (hnew.sound.run _) hclosed hbegun .unasked past
    obtain ⟨stage, -, hrefused, heq⟩ :=
      advance_barred (managerClosed_run hclosed past) hcall hbarred
    refine ⟨call, stage, ?_, hbarred, hrefused, ?_⟩
    · rw [hlater, hcall]
    · rw [run_snoc, hlater, heq]

/-- The manager is closed while a call starts the server, and another call begins after that. -/
def latecomers : List Action :=
  let first : Action := .advance (.create 0)
  let second : Action := .advance (.create 1)
  let close : Action := .advance (.errand 0)
  [.create {}, first, first, .closeManager, close, close, .endLaunch none, first, .shutdown, .shutdown,
    .shutdown, first, .create {}, second]

/-- The first call shuts the connection down that it has started, and the second one starts none. -/
theorem latecomers_closingWins :
    let h : Hub := { workingDir := [] }
    h.New ∧ h.managerClosed = false ∧ (h.run latecomers).HandsOutOnce ∧
      (h.run latecomers).launch = .started ∧ (h.run latecomers).connection.isDown = true ∧
      (createOutcome? 0 (h.run latecomers)).map (Except.mapError EvaluatorError.message) =
        some (.error "connection closed: evaluator manager is closed") ∧
      (createOutcome? 1 (h.run latecomers)).map (Except.mapError EvaluatorError.message) =
        some (.error "connection closed: evaluator manager is closed") ∧
      h.ClosingWins latecomers := by
  intro h
  have hnew : h.New := new_init []
  have honce : (h.run latecomers).HandsOutOnce := handsOutOnce_of_pairwise (by decide +kernel)
  exact ⟨hnew, rfl, honce, by decide +kernel, by decide +kernel, by decide +kernel, by decide +kernel,
    closingWins_of_new hnew rfl honce⟩

end PklHost.Hub
