import PklHost.Host.Basic
import PklHost.Proofs.Hub.Steady

/-!
# One call at a time

`Serial busy` says of a hub that every call is over but one, and that this one is about the session that
was entered last.  A reply to the server is no such call, since it takes no session off the registry.
Then the last session is covered, whatever evaluator ids the server hands out: whoever takes an evaluator id
off the registry does it for the last session, and no other session is entered meanwhile
(`Serial.step`).
-/

namespace PklHost.Hub

open Message (Incoming Outgoing)

variable {h h' : Hub} {busy : Option Caller} {a : Action} {s : Nat}

/-! ## Calls that are over -/

/-- An errand that takes no session off the registry, now or later. -/
def Errand.harmless : Errand → Bool
  | .notice .. | .read .. | .reply .. | .finished => true
  | .close .. | .release .. | .leave _ | .closeManager | .disconnect | .shuttingDown => false

/-- A call is over, or is a harmless errand. -/
def Rests (h : Hub) : Caller → Prop
  | .create i => ∀ stage, h.createStages[i]? = some stage → createCourse.Over stage
  | .evaluate i => ∀ stage, h.evaluateStages[i]? = some stage → evaluateCourse.Over stage
  | .errand i => ∀ e, h.errands[i]? = some e → e.harmless = true

theorem ErrandTurn.harmless {e e' : Errand} (hturn : ErrandTurn h e e' h') (he : e.harmless = true) :
    e'.harmless = true := by
  cases hturn with
  | gone _ _ | notices _ | noticed _ _ | reads _ _ | ignores _ | replies _ | replied _ | unreplied _
  | rests => rfl
  | _ => cases he

theorem errand?_of_begins (ha : Host.begins a = false) : a.errand? = none := by
  cases a with
  | close | release | closeManager => cases ha
  | _ => rfl

/-- An errand that no user begins is harmless. -/
theorem harmless_of_new (ha : Host.begins a = false) {i : Nat} (hnew : h.errands[i]? = none) {e : Errand}
    (he : (h.step a).errands[i]? = some e) : e.harmless = true := by
  have hlast : ∀ {more : Errand}, (h.errands ++ [more])[i]? = some e → e = more := fun hmore =>
    List.mem_singleton.1 (mem_of_getElem?_append hnew hmore)
  have hnone : h.errands[i]? ≠ some e := by
    rw [hnew]
    exact (Option.some_ne_none e).symm
  cases mail_step h a with
  | kept hposts _ | posted _ hposts _ _ =>
      rw [hposts.errands] at he
      exact absurd he hnone
  | begun hbegun _ _ _ _ =>
      rw [errand?_of_begins ha] at hbegun
      cases hbegun
  | called _ herrands _ _ =>
      rw [herrands] at he
      rw [hlast he]
      rfl
  | @errand j before after h₁ _ hbefore hturn heq _ =>
      have hj : j ≠ i := by
        rintro rfl
        rw [hnew] at hbefore
        cases hbefore
      rw [heq] at he
      replace he : (h₁.errands.set j after)[i]? = some e := he
      rw [List.getElem?_set_ne hj] at he
      rcases hturn.errands with hsame | ⟨evaluatorId, hmore⟩
      · rw [hsame] at he
        exact absurd he hnone
      · rw [hmore] at he
        rw [hlast he]
        rfl

/-- A call that evaluates stays over once it is over. -/
theorem evaluate_stays_over (hsound : h.Sound) (a : Action) {i : Nat} {call : EvaluateCall}
    (hcall : h.evaluates[i]? = some call) (hover : evaluateCourse.Over call.stage) :
    ∃ call', (h.step a).evaluates[i]? = some call' ∧ evaluateCourse.Over call'.stage := by
  obtain ⟨slip, hslip, -, -, hturns⟩ :=
    (evaluateDesk_step h a).keeps hsound.evaluateTidy (slip_of_evaluate hcall)
  obtain ⟨call', hcall', rfl⟩ := evaluate_of_slip hslip
  exact ⟨call', hcall', Desk.over_of_turns hturns hover⟩

/-- Nobody begins a call that creates. -/
theorem create_known (ha : Host.begins a = false) {i : Nat} {call' : CreateCall}
    (hcall' : (h.step a).creates[i]? = some call') : ∃ call, h.creates[i]? = some call := by
  have hlength : (h.step a).creates.length = h.creates.length :=
    length_creates_step fun o => by rintro rfl; cases ha
  have hi := (List.getElem?_eq_some_iff.1 hcall').1
  rw [hlength] at hi
  exact ⟨_, List.getElem?_eq_getElem hi⟩

/-- Nobody begins a call that evaluates. -/
theorem evaluate_known (ha : Host.begins a = false) {i : Nat} {call' : EvaluateCall}
    (hcall' : (h.step a).evaluates[i]? = some call') : ∃ call, h.evaluates[i]? = some call := by
  have hlength : (h.step a).evaluates.length = h.evaluates.length :=
    length_evaluates_step fun s source expr => by rintro rfl; cases ha
  have hi := (List.getElem?_eq_some_iff.1 hcall').1
  rw [hlength] at hi
  exact ⟨_, List.getElem?_eq_getElem hi⟩

/-- A call that is over stays so. -/
theorem rests_step (hsound : h.Sound) (ha : Host.begins a = false) {who : Caller}
    (hrests : h.Rests who) : (h.step a).Rests who := by
  cases who with
  | create i =>
      intro stage' hat
      obtain ⟨call', hcall', rfl⟩ := createStages_getElem?.1 hat
      obtain ⟨call, hcall⟩ := create_known ha hcall'
      obtain ⟨other, hother, -, hover⟩ := create_step hsound a hcall
      obtain rfl : other = call' := Option.some.inj (hother.symm.trans hcall')
      exact hover (hrests _ (createStages_getElem?.2 ⟨call, hcall, rfl⟩))
  | evaluate i =>
      intro stage' hat
      obtain ⟨call', hcall', rfl⟩ := evaluateStages_getElem?.1 hat
      obtain ⟨call, hcall⟩ := evaluate_known ha hcall'
      obtain ⟨other, hother, hover⟩ := evaluate_stays_over hsound a hcall
        (hrests _ (evaluateStages_getElem?.2 ⟨call, hcall, rfl⟩))
      obtain rfl : other = call' := Option.some.inj (hother.symm.trans hcall')
      exact hover
  | errand i =>
      intro e' he'
      cases he : h.errands[i]? with
      | none => exact harmless_of_new ha he he'
      | some e =>
          rcases errands_step he a with ⟨-, hstays⟩ | ⟨-, turned, h₁, hturn, -, hmoved⟩
          · obtain rfl : e = e' := Option.some.inj (hstays.symm.trans he')
            exact hrests e he
          · obtain rfl : turned = e' := Option.some.inj (hmoved.symm.trans he')
            exact hturn.harmless (hrests e he)

/-! ## What a call is about -/

/-- The session that a call has entered, evaluates in, or takes off the registry. -/
def Concerns (h : Hub) (s : Nat) : Caller → Prop
  | .create i => h.createStages[i]? = some (.finished (.ok s))
  | .evaluate i => ∃ call, h.evaluates[i]? = some call ∧ call.session = s
  | .errand i => ∃ e, h.errands[i]? = some e ∧ e.harmless = false ∧ e.session? = some s

theorem ErrandTurn.concerns {e e' : Errand} (hturn : ErrandTurn h e e' h') (he' : e'.harmless = false)
    (hs : e'.session? = some s) : e.harmless = false ∧ e.session? = some s := by
  cases hturn with
  | fails _ | unregisters _ _ | tells _ _ => exact ⟨rfl, hs⟩
  | @passes _ _ ownsManager _ | @told _ _ ownsManager _ _ _ _ _ _ =>
      cases ownsManager <;> cases hs
  | @releases s' session ownsManager _ =>
      cases ownsManager with
      | false => exact ⟨rfl, hs⟩
      | true => cases hs
  | reads _ _ | notices _ | replies _ => cases he'
  | _ => cases hs

/-- A call is about the session that it was about, or about the one that it has just entered. -/
theorem concerns_step (hsound : h.Sound) (ha : Host.begins a = false) {who : Caller}
    (hconcerns : (h.step a).Concerns s who) :
    h.Concerns s who ∧ (∀ i, who = .create i → h.Rests who) ∨
      s + 1 = (h.step a).sessions.length := by
  cases who with
  | create i =>
      obtain ⟨call', hcall', hstage'⟩ := createStages_getElem?.1 hconcerns
      rcases step_finished_ok hcall' hstage' with ⟨call, hcall, hstage⟩ | ⟨_, id, -, -, rfl, hids⟩
      · have hat := createStages_getElem?.2 ⟨call, hcall, hstage⟩
        refine .inl ⟨hat, fun _ _ stage hstage => .inl ⟨.ok s, ?_⟩⟩
        rw [← Option.some.inj (hat.symm.trans hstage)]
        rfl
      · refine .inr ?_
        rw [← length_evaluatorIds (h.step a), hids, List.length_append, length_evaluatorIds]
        rfl
  | evaluate i =>
      obtain ⟨call', hcall', rfl⟩ := hconcerns
      obtain ⟨call, hcall⟩ := evaluate_known ha hcall'
      obtain ⟨other, hother, hsession, -⟩ := evaluate_keeps hsound a hcall
      obtain rfl : other = call' := Option.some.inj (hother.symm.trans hcall')
      exact .inl ⟨⟨call, hcall, hsession.symm⟩, fun _ => Caller.noConfusion⟩
  | errand i =>
      obtain ⟨e', he', hharmful, hs⟩ := hconcerns
      refine .inl ⟨?_, fun _ => Caller.noConfusion⟩
      cases he : h.errands[i]? with
      | none =>
          rw [harmless_of_new ha he he'] at hharmful
          cases hharmful
      | some e =>
          rcases errands_step he a with ⟨-, hstays⟩ | ⟨-, turned, h₁, hturn, -, hmoved⟩
          · obtain rfl : e = e' := Option.some.inj (hstays.symm.trans he')
            exact ⟨e, he, hharmful, hs⟩
          · obtain rfl : turned = e' := Option.some.inj (hmoved.symm.trans he')
            exact ⟨e, he, hturn.concerns hharmful hs⟩

/-! ## The invariant -/

/-- Every call is over but one, which is about the last session, and that session is covered. -/
structure Serial (busy : Option Caller) (h : Hub) : Prop where
  others : ∀ who, busy ≠ some who → h.Rests who
  current : ∀ who s, busy = some who → h.Concerns s who → s + 1 = h.sessions.length
  covered : ∀ s, s + 1 = h.sessions.length → h.doors.Covered s

theorem New.serial (hnew : h.New) : h.Serial none where
  others := by
    intro who _
    cases who with
    | create i =>
        intro stage hat
        rw [createStages, hnew.creates] at hat
        cases hat
    | evaluate i =>
        intro stage hat
        rw [evaluateStages, hnew.evaluates] at hat
        cases hat
    | errand i =>
        intro e he
        rw [hnew.errands] at he
        cases he
  current := fun _ _ hnone => by cases hnone
  covered := by
    intro s hs
    rw [hnew.sessions] at hs
    cases hs

/-- While no call creates, no session is entered. -/
theorem length_sessions_of_rests (hrests : ∀ i, h.Rests (.create i)) (a : Action) :
    (h.step a).sessions.length = h.sessions.length := by
  rw [← length_evaluatorIds, ← length_evaluatorIds]
  cases routes_step h a with
  | kept hids _ _ | routed _ _ hids _ _ _ | passed hids _ _ _ => rw [hids]
  | @entered i call id hcall hstage _ _ _ _ _ =>
      have hover := hrests i _ (createStages_getElem?.2 ⟨call, hcall, hstage⟩)
      rcases hover with ⟨o, ho⟩ | habandoned
      · cases ho
      · cases habandoned

theorem harmless_of_leaves? {e : Errand} (hs : e.leaves? = some s) :
    e.harmless = false ∧ e.session? = some s := by
  unfold Errand.leaves? at hs
  split at hs
  · exact ⟨rfl, hs⟩
  · exact ⟨rfl, hs⟩
  all_goals cases hs

/-- Whoever is about to take a session off the registry does it for the last one. -/
theorem Serial.leaving (hserial : h.Serial busy) (hleaving : h.Leaving s) :
    s + 1 = h.sessions.length := by
  obtain ⟨e, hmem, hs⟩ := hleaving
  obtain ⟨i, he⟩ := List.getElem?_of_mem hmem
  obtain ⟨hharmful, hsession⟩ := harmless_of_leaves? hs
  have hbusy : busy = some (.errand i) := by
    by_cases hbusy : busy = some (.errand i)
    · exact hbusy
    · rw [hserial.others (.errand i) hbusy e he] at hharmful
      cases hharmful
  exact hserial.current _ s hbusy ⟨e, he, hharmful, hsession⟩

/-- One step in which nobody begins a call. -/
theorem Serial.step (hserial : h.Serial busy) (hw : h.Watched) (ha : Host.begins a = false) :
    (h.step a).Serial busy where
  others := fun who hwho => rests_step hw.sound ha (hserial.others who hwho)
  current := by
    intro who s hbusy hconcerns
    rcases concerns_step hw.sound ha hconcerns with ⟨hbefore, hrests⟩ | hlast
    · rw [length_sessions_of_rests (fun i => ?_) a]
      · exact hserial.current who s hbusy hbefore
      · by_cases hwho : who = .create i
        · exact hwho ▸ hrests i hwho
        · refine hserial.others _ fun heq => hwho ?_
          exact Option.some.inj (hbusy.symm.trans heq)
    · exact hlast
  covered := by
    intro s hs
    have hmoves := h.doors_step a
    have hgrows := h.length_sessions_step a
    have hcount := length_doors_sessions h
    have hlater := length_doors_sessions (h.step a)
    refine hmoves.covered_of_unshared hw.guarded hw.leaving ?_ ?_ ?_ ?_
    -- a session that is entered is the last from then on
    · intro id hids hold
      have hlength := congrArg List.length hids
      rw [List.length_append, Doors.length_ids, Doors.length_ids, List.length_singleton] at hlength
      omega
    -- whoever takes a session off the registry takes the last one, so that no other shares its id
    · intro s' id hleaving hid' hid
      have hlast := hserial.leaving hleaving
      have hold := (List.getElem?_eq_some_iff.1 hid).1
      rw [Doors.length_ids] at hold
      omega
    · omega
    · intro hold
      exact hserial.covered s (by omega)

/-! ## Calls that follow one another -/

/-- The call that was not over is over. -/
theorem Serial.idle (hserial : h.Serial busy) (hrests : ∀ who, busy = some who → h.Rests who) :
    h.Serial none where
  others := by
    intro who _
    by_cases hwho : busy = some who
    · exact hrests who hwho
    · exact hserial.others who hwho
  current := fun _ _ hnone => by cases hnone
  covered := hserial.covered

/-- A call that a user begins, and the session that it is about. -/
inductive Opens (h : Hub) : Action → Caller → Prop
  | create (o : EvaluatorOptions) : Opens h (.create o) (.create h.creates.length)
  | evaluate {s : Nat} (source : ModuleSource) (expr : String) (hs : s + 1 = h.sessions.length) :
      Opens h (.evaluate s source expr) (.evaluate h.evaluates.length)
  | close {s : Nat} (ownsManager : Bool) (hs : s + 1 = h.sessions.length) :
      Opens h (.close s ownsManager) (.errand h.errands.length)
  | release {s : Nat} (ownsManager : Bool) (hs : s + 1 = h.sessions.length) :
      Opens h (.release s ownsManager) (.errand h.errands.length)

theorem Serial.begins_errand (hserial : h.Serial none) {e : Errand}
    (hs : ∀ s, e.session? = some s → s + 1 = h.sessions.length) :
    (h.beginErrand e).Serial (some (.errand h.errands.length)) := by
  have hrests := fun other => hserial.others other (Option.some_ne_none other).symm
  refine ⟨fun other hother => ?_, fun other s hother hconcerns => ?_, hserial.covered⟩
  · cases other with
    | create i => exact hrests (.create i)
    | evaluate i => exact hrests (.evaluate i)
    | errand i =>
        intro e' he'
        rcases getElem?_of_append (l := h.errands) he' with hold | ⟨rfl, -⟩
        · exact hrests (.errand i) e' hold
        · exact absurd rfl hother
  · obtain rfl := Option.some.inj hother
    obtain ⟨e', he', -, hsession⟩ := hconcerns
    rcases getElem?_of_append (l := h.errands) he' with hold | ⟨-, rfl⟩
    · exact absurd (List.getElem?_eq_some_iff.1 hold).1 (Nat.lt_irrefl _)
    · exact hs s hsession

theorem Serial.begins_create (hserial : h.Serial none) (o : EvaluatorOptions) :
    (h.step (.create o)).Serial (some (.create h.creates.length)) := by
  have hrests := fun other => hserial.others other (Option.some_ne_none other).symm
  have hat : ∀ {i : Nat} {stage : CreateStage}, (h.step (.create o)).createStages[i]? = some stage →
      h.createStages[i]? = some stage ∨ i = h.creates.length ∧ stage = .connecting := by
    intro i stage hat
    have hstages : (h.step (.create o)).createStages = h.createStages ++ [.connecting] :=
      List.map_append
    rw [hstages] at hat
    rw [← length_createStages]
    exact getElem?_of_append hat
  refine ⟨fun other hother => ?_, fun other s hother hconcerns => ?_, hserial.covered⟩
  · cases other with
    | create i =>
        intro stage hafter
        rcases hat hafter with hold | ⟨rfl, -⟩
        · exact hrests (.create i) stage hold
        · exact absurd rfl hother
    | evaluate i => exact hrests (.evaluate i)
    | errand i => exact hrests (.errand i)
  · obtain rfl := Option.some.inj hother
    rcases hat hconcerns with hold | ⟨-, hstage⟩
    · have hi := (List.getElem?_eq_some_iff.1 hold).1
      rw [length_createStages] at hi
      exact absurd hi (Nat.lt_irrefl _)
    · cases hstage

theorem Serial.begins_evaluate (hserial : h.Serial none) {s : Nat} (source : ModuleSource)
    (expr : String) (hs : s + 1 = h.sessions.length) :
    (h.step (.evaluate s source expr)).Serial (some (.evaluate h.evaluates.length)) := by
  have hrests := fun other => hserial.others other (Option.some_ne_none other).symm
  refine ⟨fun other hother => ?_, fun other s' hother hconcerns => ?_, hserial.covered⟩
  · cases other with
    | create i => exact hrests (.create i)
    | evaluate i =>
        intro stage hafter
        have hstages : (h.step (.evaluate s source expr)).evaluateStages =
            h.evaluateStages ++ [.opening] := List.map_append
        rw [hstages] at hafter
        rcases getElem?_of_append hafter with hold | ⟨hi, -⟩
        · exact hrests (.evaluate i) stage hold
        · rw [length_evaluateStages] at hi
          exact absurd (by rw [hi]) hother
    | errand i => exact hrests (.errand i)
  · obtain rfl := Option.some.inj hother
    obtain ⟨call, hcall, rfl⟩ := hconcerns
    rcases getElem?_of_append (l := h.evaluates) hcall with hold | ⟨-, rfl⟩
    · exact absurd (List.getElem?_eq_some_iff.1 hold).1 (Nat.lt_irrefl _)
    · exact hs

/-- The next call of a user, once every call is over. -/
theorem Serial.begins (hserial : h.Serial none) {who : Caller} (hopens : h.Opens a who) :
    (h.step a).Serial (some who) := by
  cases hopens with
  | create o => exact hserial.begins_create o
  | @evaluate s source expr hs => exact hserial.begins_evaluate source expr hs
  | close ownsManager hs | release ownsManager hs =>
      refine hserial.begins_errand fun s' hs' => ?_
      obtain rfl := Option.some.inj hs'
      exact hs

end PklHost.Hub
