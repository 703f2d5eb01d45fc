import PklHost.Host.Schedule
import PklHost.Proofs.Hub.Serial

/-!
# A connection that is about to be lost

A call waits for its answer while the stream of the server breaks.  The loop then gives the connection up
for what it met, and the shutdown tells the call so (`coming_step`, one case for each step on the way).  The
call keeps that answer, and returns with it (`Told.step`).
-/

namespace PklHost.Hub

open Message (FrameError)

variable {h : Hub} {who : Caller} {reason : CloseReason} {fault : EvaluatorError} {a : Action}

/-! ## Waiting, and being told -/

/-- A call waits for its answer. -/
def Waits (h : Hub) : Caller → Prop
  | .create i => ∃ call, h.creates[i]? = some call ∧ call.stage = .waiting ∧ call.answer = none
  | .evaluate i => ∃ call, h.evaluates[i]? = some call ∧ call.stage = .waiting ∧ call.answer = none
  | .errand _ => False

/-- A call waits no longer for its answer, which is a fault. -/
def Hears (h : Hub) (fault : EvaluatorError) : Caller → Prop
  | .create i => ∃ call, h.creates[i]? = some call ∧ call.stage = .waiting ∧
      call.answer = some (.error fault)
  | .evaluate i => ∃ call, h.evaluates[i]? = some call ∧ call.stage = .waiting ∧
      call.answer = some (.error fault)
  | .errand _ => False

/-- A call has returned with a fault. -/
def ReturnedWith (h : Hub) (fault : EvaluatorError) : Caller → Prop
  | .create i => h.createStages[i]? = some (.finished (.error fault))
  | .evaluate i => h.evaluateStages[i]? = some (.finished (.error fault))
  | .errand _ => False

/-- A call has learnt of a fault. -/
inductive Told (h : Hub) (fault : EvaluatorError) (who : Caller) : Prop
  | hears (hhears : h.Hears fault who)
  | returned (hreturned : h.ReturnedWith fault who)

/-- The stream of the server breaks: the loop cannot take a message off what is there. -/
structure Breaks (h : Hub) (e : FrameError) : Prop where
  isOpen : h.connection.phase = .isOpen
  reading : h.loop = .reading
  fails : h.attempt.1 = .failed e

/-- What breaks the stream, if it breaks. -/
def fault? (h : Hub) : Option FrameError :=
  match h.connection.phase, h.loop, h.attempt.1 with
  | .isOpen, .reading, .failed e => some e
  | _, _, _ => none

theorem breaks_iff {e : FrameError} : h.Breaks e ↔ h.fault? = some e := by
  constructor
  · rintro ⟨hopen, hloop, hfails⟩
    unfold fault?
    rw [hopen, hloop, hfails]
  · intro hfault
    unfold fault? at hfault
    split at hfault
    · next hopen hloop hfails =>
        rw [Option.some.inj hfault] at hfails
        exact ⟨hopen, hloop, hfails⟩
    · cases hfault

/-- Whether a call waits for its answer. -/
def isWaiting (h : Hub) : Caller → Bool
  | .create i =>
    match h.creates[i]? with
    | some ⟨_, none, .waiting⟩ => true
    | _ => false
  | .evaluate i =>
    match h.evaluates[i]? with
    | some ⟨_, _, _, none, .waiting⟩ => true
    | _ => false
  | .errand _ => false

theorem waits_iff : h.Waits who ↔ h.isWaiting who = true := by
  cases who with
  | create i =>
      constructor
      · rintro ⟨⟨_, _, _⟩, hcall, rfl, rfl⟩
        unfold isWaiting
        dsimp only
        rw [hcall]
      · intro hwaiting
        unfold isWaiting at hwaiting
        dsimp only at hwaiting
        split at hwaiting
        · next hcall => exact ⟨_, hcall, rfl, rfl⟩
        · cases hwaiting
  | evaluate i =>
      constructor
      · rintro ⟨⟨_, _, _, _, _⟩, hcall, rfl, rfl⟩
        unfold isWaiting
        dsimp only
        rw [hcall]
      · intro hwaiting
        unfold isWaiting at hwaiting
        dsimp only at hwaiting
        split at hwaiting
        · next hcall => exact ⟨_, hcall, rfl, rfl⟩
        · cases hwaiting
  | errand i => exact ⟨fun hwaits => hwaits.elim, fun hwaiting => by cases hwaiting⟩

instance (h : Hub) (who : Caller) : Decidable (h.Waits who) :=
  decidable_of_iff _ waits_iff.symm

/-- The connection is about to be lost for a reason. -/
inductive Comes (reason : CloseReason) (h : Hub) : Prop
  | breaks {e : FrameError} (hbreaks : h.Breaks e) (hreason : reason = .readFailed e)
  | losing (hopen : h.connection.phase = .isOpen) (hloop : h.loop = .losing reason)
  | closing {progress : Shutdown} (hphase : h.connection.phase = .closing reason progress)

/-- Once the shutdown is over, the one call that was not over waits no more. -/
theorem Serial.not_waits (hserial : h.Serial (some who)) (hw : h.Watched)
    (hphase : h.connection.phase = .closed reason) : ¬ h.Waits who := by
  intro hwaits
  cases who with
  | create i =>
      obtain ⟨call, hcall, hstage, hnone⟩ := hwaits
      have hclosed : h.connection.creates.isClosed = true :=
        hw.guarded.creates (by rw [show h.doors.phase = _ from hphase]; trivial)
      exact hw.create_heard hcall hstage (hw.createsEmpty (s := 0) rfl hclosed) hnone
  | evaluate i =>
      obtain ⟨call, hcall, hstage, hnone⟩ := hwaits
      have hcovered := hserial.covered _ (hserial.current _ _ rfl ⟨call, hcall, rfl⟩)
      refine hw.evaluate_heard hcall hstage (fun session hsession => ?_) hnone
      exact (hw.session_over hphase hcovered hsession).2
  | errand i => exact hwaits

/-- Nothing waits that is over. -/
theorem Waits.not_rests (hwaits : h.Waits who) : ¬ h.Rests who := by
  intro hrests
  cases who with
  | create i =>
      obtain ⟨call, hcall, hstage, -⟩ := hwaits
      have hover := hrests _ (createStages_getElem?.2 ⟨call, hcall, hstage⟩)
      rcases hover with ⟨o, ho⟩ | habandoned
      · cases ho
      · cases habandoned
  | evaluate i =>
      obtain ⟨call, hcall, hstage, -⟩ := hwaits
      have hover := hrests _ (evaluateStages_getElem?.2 ⟨call, hcall, hstage⟩)
      rcases hover with ⟨o, ho⟩ | habandoned
      · cases ho
      · cases habandoned
  | errand i => exact hwaits

/-! ## The shutdown tells -/

/-- A slip keeps its stage, and the answer that it has, when one answer is given to many. -/
theorem given_of_giveAll {α σ : Type} {slips : List (Slip α σ)} {i : Nat} {slip : Slip α σ}
    (tickets : List Nat) (x : Except EvaluatorError α) (hslip : slips[i]? = some slip) :
    ∃ slip', (giveAll tickets x slips)[i]? = some slip' ∧ slip'.stage = slip.stage ∧
      (slip'.answer = slip.answer ∨ slip'.answer = some x) := by
  rw [getElem?_giveAll, hslip]
  by_cases hi : i ∈ tickets
  · refine ⟨slip.give x, by simp [hi], rfl, ?_⟩
    unfold Slip.give
    cases slip.answer with
    | none => exact .inr rfl
    | some y => exact .inl rfl
  · exact ⟨slip, by simp [hi], rfl, .inl rfl⟩

theorem create_given (tickets : List Nat) (x : Except EvaluatorError Int64) {h : Hub} {i : Nat}
    {call : CreateCall} (hcall : h.creates[i]? = some call) :
    ∃ call', (tickets.foldl (fun h i => h.answerCreate i x) h).creates[i]? = some call' ∧
      call'.stage = call.stage ∧ (call'.answer = call.answer ∨ call'.answer = some x) := by
  have hslips : (tickets.foldl (fun h i => h.answerCreate i x) h).createDesk.slips =
      giveAll tickets x h.createDesk.slips := congrArg Desk.slips (createDesk_answerAll tickets x h)
  obtain ⟨slip', hslip', hrest⟩ := given_of_giveAll tickets x (slip_of_create hcall)
  rw [← hslips] at hslip'
  obtain ⟨call', hcall', rfl⟩ := create_of_slip hslip'
  exact ⟨call', hcall', hrest⟩

theorem evaluate_given (tickets : List Nat) (x : Except EvaluatorError Bytes) {h : Hub} {i : Nat}
    {call : EvaluateCall} (hcall : h.evaluates[i]? = some call) :
    ∃ call', (tickets.foldl (fun h i => h.answerEvaluate i x) h).evaluates[i]? = some call' ∧
      call'.stage = call.stage ∧ (call'.answer = call.answer ∨ call'.answer = some x) := by
  have hslips : (tickets.foldl (fun h i => h.answerEvaluate i x) h).evaluateDesk.slips =
      giveAll tickets x h.evaluateDesk.slips := congrArg Desk.slips (evaluateDesk_answerAll tickets x h)
  obtain ⟨slip', hslip', hrest⟩ := given_of_giveAll tickets x (slip_of_evaluate hcall)
  rw [← hslips] at hslip'
  obtain ⟨call', hcall', rfl⟩ := evaluate_of_slip hslip'
  exact ⟨call', hcall', hrest⟩

/-- Of the calls that create, a step of the shutdown leaves each as it is or tells it the reason. -/
theorem create_stepShutdown {progress : Shutdown} {i : Nat} {call : CreateCall}
    (hphase : h.connection.phase = .closing reason progress) (hcall : h.creates[i]? = some call) :
    ∃ call', h.stepShutdown.creates[i]? = some call' ∧ call'.stage = call.stage ∧
      (call'.answer = call.answer ∨ call'.answer = some (.error (.connectionClosed reason))) := by
  unfold stepShutdown
  rw [hphase]
  -- all that wait for an evaluator are told at once, at the start
  cases progress with
  | failingCreates => exact create_given _ _ hcall
  | drainingRegistry => exact ⟨call, hcall, rfl, .inl rfl⟩
  | failingSessions left =>
      cases left with
      | nil => exact ⟨call, hcall, rfl, .inl rfl⟩
      | cons s left =>
          refine ⟨call, ?_, rfl, .inl rfl⟩
          show (h.failSession s _).creates[i]? = _
          obtain ⟨evaluates, heq⟩ := h.failSession_eq s (.connectionClosed reason)
          rw [heq]
          exact hcall

/-- And so it does with each call that evaluates. -/
theorem evaluate_stepShutdown {progress : Shutdown} {i : Nat} {call : EvaluateCall}
    (hphase : h.connection.phase = .closing reason progress) (hcall : h.evaluates[i]? = some call) :
    ∃ call', h.stepShutdown.evaluates[i]? = some call' ∧ call'.stage = call.stage ∧
      (call'.answer = call.answer ∨ call'.answer = some (.error (.connectionClosed reason))) := by
  unfold stepShutdown
  rw [hphase]
  cases progress with
  | failingCreates =>
      refine ⟨call, ?_, rfl, .inl rfl⟩
      show (h.failCreates _).evaluates[i]? = _
      obtain ⟨creates, waiting, -, heq⟩ := h.failCreates_eq (.connectionClosed reason)
      rw [heq]
      exact hcall
  | drainingRegistry => exact ⟨call, hcall, rfl, .inl rfl⟩
  | failingSessions left =>
      cases left with
      | nil => exact ⟨call, hcall, rfl, .inl rfl⟩
      | cons s left =>
          -- those that evaluate are told when it is their session's turn
          show ∃ call', (h.failSession s _).evaluates[i]? = some call' ∧ _
          unfold failSession
          cases h.sessions[s]? with
          | none => exact ⟨call, hcall, rfl, .inl rfl⟩
          | some session => exact evaluate_given _ _ hcall

/-- A step of the shutdown leaves a call alone that waits, or tells it the reason. -/
theorem waits_stepShutdown {progress : Shutdown}
    (hphase : h.connection.phase = .closing reason progress) (hwaits : h.Waits who) :
    h.stepShutdown.Waits who ∨ h.stepShutdown.Hears (.connectionClosed reason) who := by
  cases who with
  | create i =>
      obtain ⟨call, hcall, hstage, hnone⟩ := hwaits
      obtain ⟨call', hcall', hstage', hsame | hgiven⟩ := create_stepShutdown hphase hcall
      · exact .inl ⟨call', hcall', hstage'.trans hstage, hsame.trans hnone⟩
      · exact .inr ⟨call', hcall', hstage'.trans hstage, hgiven⟩
  | evaluate i =>
      obtain ⟨call, hcall, hstage, hnone⟩ := hwaits
      obtain ⟨call', hcall', hstage', hsame | hgiven⟩ := evaluate_stepShutdown hphase hcall
      · exact .inl ⟨call', hcall', hstage'.trans hstage, hsame.trans hnone⟩
      · exact .inr ⟨call', hcall', hstage'.trans hstage, hgiven⟩
  | errand i => exact hwaits.elim

theorem Waits.of_eq {h' : Hub} (hwaits : h.Waits who) (hcreates : h'.creates = h.creates)
    (hevaluates : h'.evaluates = h.evaluates) : h'.Waits who := by
  cases who with
  | create i =>
      obtain ⟨call, hcall, hrest⟩ := hwaits
      exact ⟨call, by rw [hcreates, hcall], hrest⟩
  | evaluate i =>
      obtain ⟨call, hcall, hrest⟩ := hwaits
      exact ⟨call, by rw [hevaluates, hcall], hrest⟩
  | errand i => exact hwaits

/-! ## On the way to the end -/

/-- What the host does next when the connection is about to be lost. -/
inductive Next (h : Hub) : Action → Prop
  | shutdown (hclosing : Host.isClosing h = true) : Next h .shutdown
  | loop (hcalm : Host.isClosing h = false) (hloop : Host.loopAction? h = some .loop) : Next h .loop

/-- A decoder that fails had something to look at, or the stream had ended. -/
theorem ready_of_failed {e : FrameError} (hfails : h.attempt.1 = .failed e) :
    (h.inputEnded || (!h.input.buffer.isEmpty && h.input.needed ≤ h.input.buffer.length)) = true := by
  unfold attempt at hfails
  cases hended : h.inputEnded with
  | true => rfl
  | false =>
      rw [hended, if_neg Bool.false_ne_true] at hfails
      unfold Message.StreamDecoder.decode at hfails
      split at hfails
      · cases hfails
      · next hready =>
          rw [Bool.or_eq_true, not_or] at hready
          simp only [decide_eq_true_eq, Nat.not_lt] at hready
          simp [hready.1, hready.2]

theorem isClosing_of_isOpen (hopen : h.connection.phase = .isOpen) : Host.isClosing h = false := by
  unfold Host.isClosing Connection.isClosed
  rw [hopen]
  rfl

theorem isDown_of_isOpen (hopen : h.connection.phase = .isOpen) : h.connection.isDown = false := by
  unfold Connection.isDown
  rw [hopen]

/-- The call still waits, and the connection is about to be lost, or the call has been told. -/
inductive Nearer (reason : CloseReason) (who : Caller) (h : Hub) : Prop
  | waits (hwaits : h.Waits who) (hcomes : h.Comes reason)
  | hears (hhears : h.Hears (.connectionClosed reason) who)

/-- The loop that meets a fault is about to give the connection up for it. -/
theorem Breaks.stepLoop {e : FrameError} (hbreaks : h.Breaks e) :
    ∃ input, h.step .loop = { h with input, loop := .losing (.readFailed e) } := by
  obtain ⟨-, hloop, hfails⟩ := hbreaks
  show ∃ input, h.stepLoop = _
  unfold Hub.stepLoop
  rw [hloop]
  dsimp only
  unfold readNext
  rw [show (if h.inputEnded then h.input.decodeEnd else h.input.decode) = h.attempt from rfl]
  generalize h.attempt = found at hfails
  obtain ⟨decoded, input⟩ := found
  obtain rfl : decoded = .failed e := hfails
  exact ⟨input, rfl⟩

/-- The loop that gives an open connection up begins the shutdown. -/
theorem stepLoop_of_losing (hopen : h.connection.phase = .isOpen) (hloop : h.loop = .losing reason) :
    h.step .loop = { h with
      log := h.log ++ [.connectionLost reason]
      loop := .shuttingDown
      connection := { h.connection with phase := .closing reason .failingCreates } } := by
  show h.stepLoop = _
  have hnot : (h.note (.connectionLost reason)).connection.isClosed = false := by
    unfold Connection.isClosed
    rw [show (h.note (.connectionLost reason)).connection.phase = .isOpen from hopen]
  unfold stepLoop
  rw [hloop]
  dsimp only
  rw [beginShutdown_of_open hnot]
  rfl

/-- One step on the way: the loop meets the fault, begins the shutdown for it, and the shutdown goes on. -/
theorem coming_step (hw : h.Watched) (hserial : h.Serial (some who)) (hwaits : h.Waits who)
    (hcomes : h.Comes reason) : ∃ a, h.Next a ∧ Nearer reason who (h.step a) := by
  cases hcomes with
  | breaks hbreaks hreason =>
      have hnext : Host.loopAction? h = some .loop := by
        unfold Host.loopAction?
        rw [hbreaks.reading]
        dsimp only
        rw [isDown_of_isOpen hbreaks.isOpen, ready_of_failed hbreaks.fails]
        rfl
      obtain ⟨input, hstep⟩ := hbreaks.stepLoop
      refine ⟨.loop, .loop (isClosing_of_isOpen hbreaks.isOpen) hnext, ?_⟩
      rw [hstep, hreason]
      exact .waits (hwaits.of_eq rfl rfl) (.losing hbreaks.isOpen rfl)
  | losing hopen hloop =>
      have hnext : Host.loopAction? h = some .loop := by
        unfold Host.loopAction?
        rw [hloop]
      refine ⟨.loop, .loop (isClosing_of_isOpen hopen) hnext, ?_⟩
      rw [stepLoop_of_losing hopen hloop]
      exact .waits (hwaits.of_eq rfl rfl) (.closing rfl)
  | @closing progress hphase =>
      have hclosing : Host.isClosing h = true := by
        unfold Host.isClosing Connection.isClosed Connection.isDown
        rw [hphase]
        rfl
      refine ⟨.shutdown, .shutdown hclosing, ?_⟩
      rcases waits_stepShutdown hphase hwaits with hstill | hhears
      · refine .waits hstill ?_
        have hlater := hserial.step (a := .shutdown) hw rfl
        have hreason := (h.doors_step .shutdown).reason
          (show h.doors.phase.reason? = some reason by rw [show h.doors.phase = _ from hphase]; rfl)
        replace hreason : h.stepShutdown.connection.phase.reason? = some reason := hreason
        cases hafter : h.stepShutdown.connection.phase with
        | isOpen =>
            rw [hafter] at hreason
            cases hreason
        | closing other progress' =>
            rw [hafter] at hreason
            obtain rfl := Option.some.inj hreason
            exact .closing hafter
        -- a shutdown is not over while somebody waits
        | closed other => exact absurd hstill (hlater.not_waits (hw.step .shutdown) hafter)
      · exact .hears hhears

/-! ## What was told -/

theorem returnedWith_advance (hsteady : h.Steady) {i : Nat} {call : EvaluateCall}
    (hcall : h.evaluates[i]? = some call)
    (hturn : ∀ session, h.stepEvaluate i call session = (.finished (.error fault), h)) :
    (h.step (.advance (.evaluate i))).ReturnedWith fault (.evaluate i) := by
  obtain ⟨session, hsession⟩ : ∃ session, h.sessions[call.session]? = some session :=
    ⟨_, List.getElem?_eq_getElem (hsteady.housed i call hcall)⟩
  have hstep : h.step (.advance (.evaluate i)) = h.moveEvaluate i (.finished (.error fault)) := by
    show h.advance (.evaluate i) = _
    rw [advance_evaluate hcall hsession, hturn]
  have hat := evaluateStages_getElem?.2 ⟨call, hcall, rfl⟩
  show (h.step _).evaluateStages[i]? = _
  rw [hstep, evaluateStages_moveEvaluate, List.getElem?_modify_eq, hat]
  rfl

/-- A call that has returned stays so. -/
theorem ReturnedWith.step (hreturned : h.ReturnedWith fault who) (hsteady : h.Steady)
    (hgive : ∀ other, a ≠ .abandon other) : (h.step a).ReturnedWith fault who := by
  cases who with
  | create i =>
      by_cases ha : a = .advance (.create i)
      · subst ha
        obtain ⟨call, hcall, hstage⟩ := createStages_getElem?.1 hreturned
        refine createOutcome?_eq_some.1 (createOutcome?_advance hcall ?_)
        unfold stepCreate
        rw [hstage]
      · exact createStages_keeps hreturned ha (fun habandon => absurd habandon (hgive _))
          hsteady.sound.launcher CreateStage.noConfusion
  | evaluate i =>
      by_cases ha : a = .advance (.evaluate i)
      · subst ha
        obtain ⟨call, hcall, hstage⟩ := evaluateStages_getElem?.1 hreturned
        exact returnedWith_advance hsteady hcall fun session => by
          unfold stepEvaluate
          rw [hstage]
      · exact evaluateStages_keeps hreturned ha fun habandon => absurd habandon (hgive _)
  | errand i => exact hreturned

/-- A call that hears of a fault keeps it, and returns with it in its turn. -/
theorem Hears.step (hhears : h.Hears fault who) (hsteady : h.Steady)
    (hgive : ∀ other, a ≠ .abandon other) : (h.step a).Told fault who := by
  have hsound := hsteady.sound
  cases who with
  | create i =>
      obtain ⟨call, hcall, hstage, hanswer⟩ := hhears
      by_cases ha : a = .advance (.create i)
      · subst ha
        refine .returned (createOutcome?_eq_some.1 (createOutcome?_advance hcall ?_))
        unfold stepCreate
        rw [hstage, hanswer]
      · have hstays := createStages_keeps (createStages_getElem?.2 ⟨call, hcall, hstage⟩) ha
          (fun habandon => absurd habandon (hgive _)) hsound.launcher CreateStage.noConfusion
        obtain ⟨call', hcall', hstage'⟩ := createStages_getElem?.1 hstays
        obtain ⟨other, hother, hkeeps⟩ := create_keeps hsound a hcall
        obtain rfl : other = call' := Option.some.inj (hother.symm.trans hcall')
        exact .hears ⟨other, hother, hstage', hkeeps _ hanswer⟩
  | evaluate i =>
      obtain ⟨call, hcall, hstage, hanswer⟩ := hhears
      by_cases ha : a = .advance (.evaluate i)
      · subst ha
        exact .returned (returnedWith_advance hsteady hcall fun session => by
          unfold stepEvaluate
          rw [hstage, hanswer])
      · have hstays := evaluateStages_keeps (evaluateStages_getElem?.2 ⟨call, hcall, hstage⟩) ha
          fun habandon => absurd habandon (hgive _)
        obtain ⟨call', hcall', hstage'⟩ := evaluateStages_getElem?.1 hstays
        obtain ⟨other, hother, -, hkeeps⟩ := evaluate_keeps hsound a hcall
        obtain rfl : other = call' := Option.some.inj (hother.symm.trans hcall')
        exact .hears ⟨other, hother, hstage', hkeeps _ hanswer⟩
  | errand i => exact hhears.elim

theorem Told.step (htold : h.Told fault who) (hsteady : h.Steady)
    (hgive : ∀ other, a ≠ .abandon other) : (h.step a).Told fault who := by
  cases htold with
  | hears hhears => exact hhears.step hsteady hgive
  | returned hreturned => exact .returned (hreturned.step hsteady hgive)

end PklHost.Hub
