import PklHost.Proofs.Hub.Intake
import PklHost.Proofs.Hub.Performers
import PklHost.Proofs.Hub.Teardown

/-!
# How much is left to do

`rank` is a bound on what the calls of a hub, its shutdown and its loop have left to do, together with the
octets that the loop has not read.  A step of a call lowers it unless the call stays where it is
(`CreateTurn.lowers`, `EvaluateTurn.lowers`, `ErrandTurn.lowers`), a step of a shutdown that is under way
lowers it (`lowers_shutdown`), and so does a step of the loop that has something to do
(`lowers_loop`).  An errand that is begun on the way has been counted before, with one for its place in
the order of turns.
-/

namespace PklHost.Hub

open Message (Incoming Outgoing StreamDecoder)

variable {h h' : Hub}

/-! ## Sums over lists -/

/-- The sum of the values of a function on a list. -/
def total {α : Type} (f : α → Nat) : List α → Nat
  | [] => 0
  | x :: l => f x + total f l

section

variable {α : Type} {f : α → Nat}

theorem total_append (f : α → Nat) (l more : List α) :
    total f (l ++ more) = total f l + total f more := by
  induction l with
  | nil => exact (Nat.zero_add _).symm
  | cons x l ih =>
      show f x + total f (l ++ more) = f x + total f l + total f more
      rw [ih, Nat.add_assoc]

theorem total_singleton (f : α → Nat) (x : α) : total f [x] = f x := rfl

/-- Changing one entry changes its own share. -/
theorem total_modify {l : List α} {i : Nat} {x : α} (hx : l[i]? = some x) (g : α → α) :
    total f (l.modify i g) + f x = total f l + f (g x) := by
  induction l generalizing i with
  | nil => cases hx
  | cons y l ih =>
      cases i with
      | zero =>
          obtain rfl : y = x := Option.some.inj hx
          show f (g y) + total f l + f y = f y + total f l + f (g y)
          omega
      | succ i =>
          have hrest := ih (i := i) hx
          show f y + total f (l.modify i g) + f x = f y + total f l + f (g x)
          omega

theorem total_set {l : List α} {i : Nat} {x : α} (hx : l[i]? = some x) (y : α) :
    total f (l.set i y) + f x = total f l + f y := by
  rw [set_eq_modify hx fun _ => y]
  exact total_modify hx _

theorem total_le {bound : Nat} (hf : ∀ x, f x ≤ bound) (l : List α) :
    total f l ≤ bound * l.length := by
  induction l with
  | nil => exact Nat.zero_le _
  | cons x l ih =>
      show f x + total f l ≤ bound * (l.length + 1)
      have hx := hf x
      rw [Nat.mul_succ]
      omega

end

/-! ## Ranks of the parts -/

def Sending.rank : Sending → Nat
  | .checking => 3
  | .writing => 2
  | .shuttingDown _ => 1

def CreateStage.rank : CreateStage → Nat
  | .connecting => 13
  | .entering => 12
  | .launching => 11
  | .confirming => 10
  | .numbering => 9
  | .registering _ => 8
  | .sending _ progress => 4 + progress.rank
  | .withdrawing .. | .waiting => 4
  | .inserting _ => 3
  | .shuttingDown => 1
  | .finished _ | .abandoned => 0

def EvaluateStage.rank : EvaluateStage → Nat
  | .opening => 7
  | .numbering => 6
  | .registering _ => 5
  | .sending _ progress => 1 + progress.rank
  | .withdrawing .. | .waiting => 1
  | .finished _ | .abandoned => 0

/-- Whoever leaves begins a notice, which is worth four with its place in the order of turns. -/
def Errand.rank : Errand → Nat
  | .close _ _ .failing => 8
  | .close _ _ .unregistering => 7
  | .close _ _ (.sending progress) => 3 + progress.rank
  | .release .. => 6
  | .leave _ => 5
  | .read .. => 4
  | .notice _ progress | .reply _ _ progress => progress.rank
  | .closeManager => 3
  | .disconnect => 2
  | .shuttingDown => 1
  | .finished => 0

def Phase.rank : Phase → Nat
  | .isOpen => 4
  | .closing _ .failingCreates => 3
  | .closing _ .drainingRegistry => 2
  | .closing _ (.failingSessions left) => 1 + left.length
  | .closed _ => 0

/-- A message that is on its way may begin the reading of a module or a resource. -/
def Loop.rank : Loop → Nat
  | .routed .. => 10
  | .reading => 4
  | .losing _ => 2
  | .shuttingDown => 1
  | .ended => 0

/-- An octet is worth a message, and a buffer that can be looked at is worth the look. -/
def inputRank (d : StreamDecoder) : Nat :=
  8 * d.buffer.length + if isReady d then 1 else 0

/-- What the shutdown has left to do: a session that is registered is one that may have to be failed. -/
def Doors.rank (d : Doors) : Nat := d.phase.rank + d.registry.length

def rank (h : Hub) : Nat :=
  total CreateStage.rank h.createStages + total EvaluateStage.rank h.evaluateStages +
    total Errand.rank h.errands + h.doors.rank + h.loop.rank + inputRank h.input

theorem Sending.rank_le (progress : Sending) : progress.rank ≤ 3 := by
  cases progress <;> exact Nat.le_of_ble_eq_true rfl

theorem CreateStage.rank_le (stage : CreateStage) : stage.rank ≤ 13 := by
  cases stage with
  | sending request progress => cases progress <;> exact Nat.le_of_ble_eq_true rfl
  | _ => exact Nat.le_of_ble_eq_true rfl

theorem EvaluateStage.rank_le (stage : EvaluateStage) : stage.rank ≤ 7 := by
  cases stage with
  | sending requestId progress => cases progress <;> exact Nat.le_of_ble_eq_true rfl
  | _ => exact Nat.le_of_ble_eq_true rfl

theorem Errand.rank_le (e : Errand) : e.rank ≤ 8 := by
  cases e with
  | close s ownsManager stage =>
      cases stage with
      | sending progress => cases progress <;> exact Nat.le_of_ble_eq_true rfl
      | failing | unregistering => exact Nat.le_of_ble_eq_true rfl
  | notice evaluatorId progress | reply evaluatorId m progress => cases progress <;> exact Nat.le_of_ble_eq_true rfl
  | _ => exact Nat.le_of_ble_eq_true rfl

theorem Loop.rank_le (loop : Loop) : loop.rank ≤ 10 := by
  cases loop <;> exact Nat.le_of_ble_eq_true rfl

theorem inputRank_le (d : StreamDecoder) : inputRank d ≤ 8 * d.buffer.length + 1 := by
  unfold inputRank
  split <;> omega

theorem le_inputRank (d : StreamDecoder) : 8 * d.buffer.length ≤ inputRank d := Nat.le_add_right _ _

/-- Whoever waits for octets has no attempt left. -/
theorem inputRank_of_waiting {d : StreamDecoder} (hwaits : d.decode.1 = .waiting) :
    inputRank d.decode.2 = 8 * d.buffer.length := by
  have hsame : d.decode.2.buffer = d.buffer := by
    rcases buffer_decode d with ⟨x, hx, -⟩ | ⟨-, hsame⟩
    · rw [hwaits] at hx
      cases hx
    · exact hsame
  unfold inputRank
  rw [not_isReady_of_waiting hwaits, hsame]
  rfl

/-- The octets of a message pay for what is done with it. -/
theorem inputRank_of_item {d : StreamDecoder} {x : Message.StreamItem} (hitem : d.decode.1 = .item x) :
    inputRank d.decode.2 + 7 ≤ inputRank d := by
  have hle := inputRank_le d.decode.2
  have hhad := le_inputRank d
  rcases buffer_decode d with ⟨-, -, hshorter⟩ | ⟨hnone, -⟩
  · omega
  · exact absurd hitem (hnone x)

theorem inputRank_decode_le (d : StreamDecoder) : inputRank d.decode.2 ≤ inputRank d + 1 := by
  have hle := inputRank_le d.decode.2
  have hhad := le_inputRank d
  rcases buffer_decode d with ⟨-, -, hshorter⟩ | ⟨-, hsame⟩
  · omega
  · rw [hsame] at hle
    omega

/-! ## What begins -/

theorem rank_beginCreate (o : EvaluatorOptions) (h : Hub) : (h.beginCreate o).rank = h.rank + 13 := by
  have hstages : (h.beginCreate o).createStages = h.createStages ++ [.connecting] := List.map_append
  unfold Hub.rank
  rw [hstages, total_append, total_singleton]
  show total CreateStage.rank h.createStages + 13 + total EvaluateStage.rank h.evaluateStages +
    total Errand.rank h.errands + h.doors.rank + h.loop.rank + inputRank h.input = _
  omega

theorem rank_beginEvaluate (s : Nat) (source : ModuleSource) (expr : String) (h : Hub) :
    (h.beginEvaluate s source expr).rank = h.rank + 7 := by
  have hstages : (h.beginEvaluate s source expr).evaluateStages = h.evaluateStages ++ [.opening] :=
    List.map_append
  unfold Hub.rank
  rw [hstages, total_append, total_singleton]
  show total CreateStage.rank h.createStages + (total EvaluateStage.rank h.evaluateStages + 7) +
    total Errand.rank h.errands + h.doors.rank + h.loop.rank + inputRank h.input = _
  omega

theorem rank_beginErrand (e : Errand) (h : Hub) : (h.beginErrand e).rank = h.rank + e.rank := by
  have herrands : (h.beginErrand e).errands = h.errands ++ [e] := rfl
  unfold Hub.rank
  rw [herrands, total_append, total_singleton]
  show total CreateStage.rank h.createStages + total EvaluateStage.rank h.evaluateStages +
    (total Errand.rank h.errands + e.rank) + h.doors.rank + h.loop.rank + inputRank h.input = _
  omega

/-! ## Calls -/

/-- A sending that goes on is nearer to its end. -/
theorem rank_of_going {m : Outgoing} {progress progress' : Sending}
    (hsending : h.stepSending m progress = (.going progress', h')) (hmoves : progress' ≠ progress) :
    progress'.rank < progress.rank := by
  generalize hsent : Sent.going progress' = sent at hsending
  cases sendingTurn hsending with
  | passes hopen =>
      obtain rfl := Sent.going.inj hsent
      exact Nat.lt_of_lt_of_le (Nat.lt_succ_self 2) (Nat.le_refl 3)
  | breaks hunread hopen =>
      obtain rfl := Sent.going.inj hsent
      exact Nat.lt_succ_self 1
  | waits fault => exact absurd (Sent.going.inj hsent) hmoves
  | _ => cases hsent

/-- A call that creates and does not stay where it is comes nearer to its end, though it may enter a
session. -/
theorem CreateTurn.lowers {i : Nat} {call : CreateCall} {stage : CreateStage}
    (hturn : CreateTurn h i call stage h') (hmoves : stage ≠ call.stage) :
    stage.rank + h'.sessions.length < call.stage.rank + h.sessions.length := by
  have hlower : ∀ {before : CreateStage}, call.stage = before → stage.rank < before.rank →
      h'.sessions = h.sessions →
      stage.rank + h'.sessions.length < call.stage.rank + h.sessions.length := by
    rintro before rfl hrank hsessions
    rw [hsessions]
    exact Nat.add_lt_add_right hrank _
  cases hturn with
  | stays => exact absurd rfl hmoves
  | connects hstage _ | launches hstage _ | enters hstage _ | confirms hstage _ | numbers hstage _
  | unnumbered hstage _ | accepts hstage _ | returns hstage _ | shutOut hstage _ =>
      exact hlower hstage (Nat.le_of_ble_eq_true rfl) rfl
  | files hstage _ _ => exact hlower hstage (Nat.le_of_ble_eq_true rfl) rfl
  | closes hstage _ =>
      exact hlower hstage (Nat.le_of_ble_eq_true rfl) (h.beginShutdown_quiet _).sessions
  | @sends request progress progress' _ hstage hsending =>
      refine hlower hstage ?_ (quiet_of_stepSending hsending).sessions
      refine Nat.add_lt_add_left (rank_of_going hsending ?_) 4
      rintro rfl
      exact hmoves hstage.symm
  | @sent request progress _ hstage hsending =>
      refine hlower hstage ?_ (quiet_of_stepSending hsending).sessions
      cases progress <;> exact Nat.le_of_ble_eq_true rfl
  | @unsent request progress fault _ hstage hsending =>
      refine hlower hstage ?_ (quiet_of_stepSending hsending).sessions
      cases progress <;> exact Nat.le_of_ble_eq_true rfl
  | @withdraws requestId _ hstage =>
      obtain ⟨creates, waiting, -, heq⟩ := h.withdrawCreate_eq requestId i
      exact hlower hstage (Nat.le_of_ble_eq_true rfl) (by rw [heq])
  | inserts hstage hinsert =>
      rw [insertSession_eq_ok hinsert, hstage]
      show 0 + (h.sessions ++ [_]).length < 3 + h.sessions.length
      rw [List.length_append, List.length_singleton]
      omega
  | refused hunfiled _ _ _ _ =>
      refine hlower rfl ?_ rfl
      generalize call.stage = before at hunfiled
      cases before with
      | sending _ _ | withdrawing _ _ | waiting | inserting _ | finished _ | abandoned => cases hunfiled
      | _ => exact Nat.le_of_ble_eq_true rfl

theorem EvaluateTurn.lowers {i : Nat} {call : EvaluateCall} {session : Session}
    {stage : EvaluateStage} (hturn : EvaluateTurn h i call session stage h')
    (hmoves : stage ≠ call.stage) : stage.rank < call.stage.rank := by
  have hlower : ∀ {before : EvaluateStage}, call.stage = before → stage.rank < before.rank →
      stage.rank < call.stage.rank := by
    rintro before rfl hrank
    exact hrank
  cases hturn with
  | stays => exact absurd rfl hmoves
  | refusedAtOnce hstage | opens hstage | numbers _ _ hstage | refused hstage _ | files hstage _ _
  | withdraws hstage | returns hstage _ => exact hlower hstage (Nat.le_of_ble_eq_true rfl)
  | @sends requestId progress progress' _ hstage hsending =>
      refine hlower hstage (Nat.add_lt_add_left (rank_of_going hsending ?_) 1)
      rintro rfl
      exact hmoves hstage.symm
  | @sent requestId progress _ hstage hsending =>
      refine hlower hstage ?_
      cases progress <;> exact Nat.le_of_ble_eq_true rfl
  | @unsent requestId progress fault _ hstage hsending =>
      refine hlower hstage ?_
      cases progress <;> exact Nat.le_of_ble_eq_true rfl

theorem rank_afterClose (ownsManager : Bool) : (afterClose ownsManager).rank ≤ 3 := by
  cases ownsManager <;> exact Nat.le_of_ble_eq_true rfl

/-- An errand that does not stay where it is comes nearer to its end, counting the errand that it may
begin. -/
theorem ErrandTurn.lowers {e e' : Errand} (hturn : ErrandTurn h e e' h') (hmoves : e' ≠ e) :
    e'.rank + total Errand.rank h'.errands + h'.errands.length <
      e.rank + total Errand.rank h.errands + h.errands.length := by
  have hlower : e'.rank < e.rank → h'.errands = h.errands →
      e'.rank + total Errand.rank h'.errands + h'.errands.length <
        e.rank + total Errand.rank h.errands + h.errands.length := by
    intro hrank herrands
    rw [herrands]
    omega
  have hended : ∀ {progress : Sending}, 0 < progress.rank := by
    intro progress
    cases progress <;> exact Nat.le_of_ble_eq_true rfl
  cases hturn with
  | @gone e s he _ =>
      refine hlower ?_ rfl
      cases e with
      | close s ownsManager stage =>
          cases stage with
          | sending progress => exact Nat.add_pos_left (Nat.le_of_ble_eq_true rfl) _
          | failing | unregistering => exact Nat.le_of_ble_eq_true rfl
      | release _ _ | leave _ | read _ _ => exact Nat.le_of_ble_eq_true rfl
      | _ => cases he
  | @fails s _ _ _ =>
      exact hlower (Nat.le_of_ble_eq_true rfl) (h.posts_failSession s .closed).errands
  | unregisters _ _ => exact hlower (Nat.le_of_ble_eq_true rfl) rfl
  | @passes _ _ ownsManager _ =>
      exact hlower (Nat.lt_of_le_of_lt (rank_afterClose ownsManager) (Nat.le_of_ble_eq_true rfl)) rfl
  | @tells s _ ownsManager progress progress' _ hsending _ =>
      refine hlower ?_ (posts_of_stepSending hsending).errands
      refine Nat.add_lt_add_left (rank_of_going hsending ?_) 3
      rintro rfl
      exact hmoves rfl
  | @told _ _ ownsManager progress _ _ hsending _ _ =>
      refine hlower ?_ (posts_of_stepSending hsending).errands
      exact Nat.lt_of_le_of_lt (rank_afterClose ownsManager) (Nat.lt_add_of_pos_right hended)
  | @releases s _ ownsManager _ =>
      refine hlower ?_ (h.posts_failSession s .closed).errands
      cases ownsManager <;> exact Nat.le_of_ble_eq_true rfl
  | @leaves s session _ _ =>
      show 0 + total Errand.rank (h.errands ++ [_]) + (h.errands ++ [_]).length < 5 + _ + _
      rw [total_append, total_singleton, List.length_append, List.length_singleton]
      show 0 + (total Errand.rank h.errands + 3) + _ < _
      omega
  | left _ | ignores _ | closedBefore _ | connectionless _ | reads _ _ | flags _ =>
      exact hlower (Nat.le_of_ble_eq_true rfl) rfl
  | @notices evaluatorId progress progress' _ hsending | @replies evaluatorId _ progress progress' _ hsending =>
      refine hlower (rank_of_going hsending ?_) (posts_of_stepSending hsending).errands
      rintro rfl
      exact hmoves rfl
  | noticed hsending _ | replied hsending => exact hlower hended (posts_of_stepSending hsending).errands
  | unreplied hsending => exact hlower hended (posts_of_stepSending hsending).errands
  | closes _ _ => exact hlower (Nat.le_of_ble_eq_true rfl) (h.posts_beginShutdown _).errands
  | ended _ => exact hlower (Nat.le_of_ble_eq_true rfl) rfl
  | waits | rests => exact absurd rfl hmoves

/-! ## The shutdown -/

theorem Doors.length_unregister (id : Int64) (d : Doors) :
    (d.unregister id).registry.length ≤ d.registry.length :=
  List.length_filter_le _ _

/-- No move leaves a shutdown more to do, but for a session that is entered. -/
theorem Doors.Moves.rank {Leaves : Nat → Prop} {d d' : Doors} (hmoves : d.Moves Leaves d') :
    d'.rank + d.sessions.length ≤ d.rank + d'.sessions.length := by
  unfold Doors.rank
  cases hmoves with
  | stays => exact Nat.le_refl _
  | enters id _ =>
      have hle := d.length_unregister id
      simp only [List.length_append, List.length_singleton]
      omega
  | closes s => simp [Doors.closeSession]
  | @unregisters s id _ _ =>
      have hle := d.length_unregister id
      show d.phase.rank + _ + d.sessions.length ≤ d.phase.rank + _ + d.sessions.length
      omega
  | begins reason hopen | failsCreates hopen | ends hopen =>
      rw [hopen]
      simp only [Phase.rank]
      omega
  | drains hphase =>
      rw [hphase]
      simp only [Phase.rank, List.length_map, List.length_nil]
      omega
  | failsSession hphase =>
      rw [hphase]
      simp only [Phase.rank, Doors.closeSession, List.length_modify, List.length_cons]
      omega

/-- What a shutdown that is under way does next lowers what it has left to do. -/
theorem Doors.rank_stepShutdown (hclosing : h.connection.phase.IsClosing) :
    h.stepShutdown.doors.rank < h.doors.rank := by
  unfold stepShutdown
  split
  · next hphase =>
      rw [hphase] at hclosing
      exact hclosing.elim
  · next hphase =>
      rw [hphase] at hclosing
      exact hclosing.elim
  · next reason hphase =>
      have hregistry : (h.failCreates (.connectionClosed reason)).doors.registry =
          h.doors.registry := by
        rw [doors_failCreates]
      show 2 + (h.failCreates (.connectionClosed reason)).doors.registry.length < h.doors.rank
      unfold Doors.rank
      rw [hregistry, show h.doors.phase = _ from hphase]
      simp only [Phase.rank]
      omega
  · next reason hphase =>
      show 1 + (h.connection.registry.map Prod.snd).length + 0 < h.doors.rank
      unfold Doors.rank
      rw [show h.doors.phase = _ from hphase, List.length_map]
      simp only [Phase.rank]
      show _ < 2 + h.connection.registry.length
      omega
  · next reason hphase =>
      show 0 + h.connection.registry.length < h.doors.rank
      unfold Doors.rank
      rw [show h.doors.phase = _ from hphase]
      simp only [Phase.rank]
      show _ < 1 + _ + h.connection.registry.length
      omega
  · next reason s left hphase =>
      have hregistry : (h.failSession s (.connectionClosed reason)).doors.registry =
          h.doors.registry := by
        rw [doors_failSession]
        rfl
      show 1 + left.length + (h.failSession s (.connectionClosed reason)).doors.registry.length <
        h.doors.rank
      unfold Doors.rank
      rw [hregistry, show h.doors.phase = _ from hphase]
      simp only [Phase.rank, List.length_cons]
      omega

/-! ## Turns of the calls -/

/-- Less is left to do, counting the errands that have begun. -/
def Lowers (h h' : Hub) : Prop :=
  h'.rank + h'.errands.length < h.rank + h.errands.length

theorem intakeRank_eq (hintake : h'.intake = h.intake) :
    h'.loop.rank + inputRank h'.input = h.loop.rank + inputRank h.input := by
  obtain ⟨hloop, hrest⟩ := Prod.mk.inj hintake
  rw [hloop, (Prod.mk.inj hrest).1]

/-- A call that creates and leaves its stage in its turn. -/
theorem lowers_create {i : Nat} {call : CreateCall} (hcall : h.creates[i]? = some call)
    (hmoves : (h.stepCreate i call).1 ≠ call.stage) : h.Lowers (h.advance (.create i)) := by
  have hadvance := advance_create hcall
  have hturn := h.stepCreate_turn i call
  generalize h.stepCreate i call = next at hadvance hturn hmoves
  obtain ⟨stage, h₁⟩ := next
  dsimp only at hadvance hturn hmoves
  have hat := createStages_getElem?.2 ⟨call, hcall, rfl⟩
  have hcreates := total_modify (f := CreateStage.rank) hat fun _ => stage
  have hstages : (h.advance (.create i)).createStages = h.createStages.modify i fun _ => stage := by
    rw [hadvance, createStages_moveCreate, hturn.step.createStages]
  have hevaluates : (h.advance (.create i)).evaluateStages = h.evaluateStages := by
    rw [hadvance, evaluateStages_moveCreate, hturn.step.evaluateStages]
  have herrands : (h.advance (.create i)).errands = h.errands := by
    obtain ⟨posted, hposts, -⟩ := hturn.requests
    rw [hadvance]
    exact (posts_moveCreate hposts i stage).errands
  have hdoors : (h.advance (.create i)).doors = h₁.doors := by
    rw [hadvance, doors_moveCreate]
  have hrank := (hturn.moves : h.doors.Moves (fun _ => False) h₁.doors).rank
  have hlower := hturn.lowers hmoves
  have hintake := intakeRank_eq (h.intake_advance (.create i))
  rw [length_doors_sessions, length_doors_sessions] at hrank
  unfold Lowers Hub.rank
  rw [hstages, hevaluates, herrands, hdoors]
  omega

/-- A call that evaluates and leaves its stage in its turn. -/
theorem lowers_evaluate {i : Nat} {call : EvaluateCall} {session : Session}
    (hcall : h.evaluates[i]? = some call) (hsession : h.sessions[call.session]? = some session)
    (hmoves : (h.stepEvaluate i call session).1 ≠ call.stage) :
    h.Lowers (h.advance (.evaluate i)) := by
  have hadvance := advance_evaluate hcall hsession
  have hturn := h.stepEvaluate_turn i call session
  generalize h.stepEvaluate i call session = next at hadvance hturn hmoves
  obtain ⟨stage, h₁⟩ := next
  dsimp only at hadvance hturn hmoves
  have hat := evaluateStages_getElem?.2 ⟨call, hcall, rfl⟩
  have hevaluates := total_modify (f := EvaluateStage.rank) hat fun _ => stage
  have hstages : (h.advance (.evaluate i)).evaluateStages =
      h.evaluateStages.modify i fun _ => stage := by
    rw [hadvance, evaluateStages_moveEvaluate, hturn.step.evaluateStages hsession]
  have hcreates : (h.advance (.evaluate i)).createStages = h.createStages := by
    rw [hadvance, createStages_moveEvaluate, hturn.step.createStages hsession]
  have herrands : (h.advance (.evaluate i)).errands = h.errands := by
    obtain ⟨posted, hposts, -⟩ := hturn.requests hsession
    rw [hadvance]
    exact (posts_moveEvaluate hposts i stage).errands
  have hdoors : (h.advance (.evaluate i)).doors = h₁.doors := by
    rw [hadvance, doors_moveEvaluate]
  have hsessions : h₁.sessions.length = h.sessions.length := by
    obtain ⟨evaluates, sessions, hfaces, hquiet⟩ := hturn.step.touches hsession
    have hlength := congrArg List.length hfaces
    unfold Hub.faces at hlength
    rw [List.length_map, List.length_map] at hlength
    rw [hquiet.sessions]
    exact hlength
  have hrank := (hturn.moves hsession : h.doors.Moves (fun _ => False) h₁.doors).rank
  have hlower := hturn.lowers hmoves
  have hintake := intakeRank_eq (h.intake_advance (.evaluate i))
  rw [length_doors_sessions, length_doors_sessions] at hrank
  unfold Lowers Hub.rank
  rw [hstages, hcreates, herrands, hdoors]
  omega

/-- What an errand leaves alone: the stages of the other calls, and how many sessions there are. -/
theorem ErrandTurn.keeps {e e' : Errand} (hturn : ErrandTurn h e e' h') :
    h'.createStages = h.createStages ∧ h'.evaluateStages = h.evaluateStages ∧
      h'.sessions.length = h.sessions.length := by
  obtain ⟨h₁, heffect, hquiet⟩ := hturn.effect
  rw [hquiet.createStages, hquiet.evaluateStages, hquiet.sessions]
  cases heffect with
  | none | unregistered _ => exact ⟨rfl, rfl, rfl⟩
  | failed s =>
      have hids := congrArg List.length (h.evaluatorIds_failSession s .closed)
      rw [length_evaluatorIds, length_evaluatorIds] at hids
      exact ⟨h.createStages_failSession s _, h.evaluateStages_failSession s _, hids⟩

/-- An errand that leaves its stage in its turn. -/
theorem lowers_errand {i : Nat} {e : Errand} (he : h.errands[i]? = some e)
    (hmoves : (h.stepErrand e).1 ≠ e) : h.Lowers (h.advance (.errand i)) := by
  have hadvance := advance_errand he
  have hturn := h.stepErrand_turn e
  generalize h.stepErrand e = next at hadvance hturn hmoves
  obtain ⟨e', h₁⟩ := next
  dsimp only at hadvance hturn hmoves
  obtain ⟨hcreates, hevaluates, hsessions⟩ := hturn.keeps
  have herrands := total_set (f := Errand.rank) (hturn.errands_getElem? he) e'
  have hmove : h.doors.Moves (fun _ => True) h₁.doors := hturn.moves fun _ _ => trivial
  have hrank := hmove.rank
  have hlower := hturn.lowers hmoves
  have hintake := intakeRank_eq (h.intake_advance (.errand i))
  rw [length_doors_sessions, length_doors_sessions] at hrank
  rw [hadvance] at hintake ⊢
  unfold Lowers Hub.rank
  show total CreateStage.rank h₁.createStages + total EvaluateStage.rank h₁.evaluateStages +
    total Errand.rank (h₁.errands.set i e') + h₁.doors.rank + h₁.loop.rank + inputRank h₁.input +
    (h₁.errands.set i e').length < _
  replace hintake : h₁.loop.rank + inputRank h₁.input = h.loop.rank + inputRank h.input := hintake
  rw [hcreates, hevaluates, List.length_set]
  omega

/-! ## The shutdown and the loop -/

/-- A shutdown that is under way goes on. -/
theorem lowers_shutdown (hclosing : h.connection.phase.IsClosing) : h.Lowers (h.step .shutdown) := by
  have hrank := Doors.rank_stepShutdown hclosing
  have hintake := intakeRank_eq h.intake_stepShutdown
  have herrands := h.posts_stepShutdown.errands
  have hcreates : h.stepShutdown.createStages = h.createStages := by
    obtain ⟨h₁, heffect, hquiet⟩ := h.stepShutdown_effect
    rw [hquiet.createStages]
    cases heffect with
    | none | drained => rfl
    | failedCreates reason => exact h.createStages_failCreates _
    | failedSession s reason => exact h.createStages_failSession s _
  have hevaluates : h.stepShutdown.evaluateStages = h.evaluateStages := by
    obtain ⟨h₁, heffect, hquiet⟩ := h.stepShutdown_effect
    rw [hquiet.evaluateStages]
    cases heffect with
    | none | drained => rfl
    | failedCreates reason => exact h.evaluateStages_failCreates _
    | failedSession s reason => exact h.evaluateStages_failSession s _
  show h.stepShutdown.rank + h.stepShutdown.errands.length < h.rank + h.errands.length
  unfold Hub.rank
  rw [hcreates, hevaluates, herrands]
  omega

/-- What the loop, its input and the errands have left to do. -/
def readingRank (h : Hub) : Nat :=
  h.loop.rank + inputRank h.input + total Errand.rank h.errands + h.errands.length

theorem readingRank_readNext (hloop : h.loop = .reading)
    (hready : h.inputEnded = true ∨ isReady h.input = true) :
    h.readNext.readingRank < h.readingRank := by
  have hbefore : h.readingRank =
      4 + inputRank h.input + total Errand.rank h.errands + h.errands.length := by
    unfold readingRank
    rw [hloop]
    rfl
  have hsnd := h.attempt_snd
  have hitem := fun {x : Message.StreamItem} (hx : h.attempt.1 = .item x) => item_of_attempt hx
  have hwaits := fun (hx : h.attempt.1 = .waiting) => waiting_of_attempt hx
  rw [hbefore]
  unfold readNext
  rw [show (if h.inputEnded then h.input.decodeEnd else h.input.decode) = h.attempt from rfl]
  generalize h.attempt = found at hsnd hitem hwaits ⊢
  obtain ⟨decoded, input⟩ := found
  obtain rfl : input = h.input.decode.2 := hsnd
  cases decoded with
  | waiting =>
      unfold readingRank
      dsimp only
      rw [inputRank_of_waiting (hwaits rfl)]
      rcases hready with hended | hready
      · have hhad := le_inputRank h.input
        rw [if_pos hended]
        show 2 + _ + _ + _ < _
        omega
      · have hhad : inputRank h.input = 8 * h.input.buffer.length + 1 := by
          unfold inputRank
          rw [hready]
          rfl
        rw [hhad]
        have hloop : Loop.rank (if h.inputEnded then .losing .serverClosedOutput else .reading) ≤ 4 := by
          split <;> exact Nat.le_of_ble_eq_true rfl
        omega
  | failed e =>
      have hle := inputRank_decode_le h.input
      show 2 + inputRank h.input.decode.2 + total Errand.rank h.errands + h.errands.length < _
      omega
  | item x =>
      have hpaid := inputRank_of_item (hitem rfl)
      cases x with
      | ok m =>
          have hposts := (posts_dispatch m { h with input := h.input.decode.2 }).errands
          have hinput := input_dispatch m { h with input := h.input.decode.2 }
          have hrank := Loop.rank_le (dispatch m { h with input := h.input.decode.2 }).loop
          unfold readingRank
          dsimp only
          rw [hposts, hinput]
          dsimp only
          omega
      | error e =>
          show h.loop.rank + inputRank h.input.decode.2 + total Errand.rank h.errands +
            h.errands.length < _
          rw [hloop]
          show 4 + _ + _ + _ < _
          omega

theorem readingRank_receive {s : Nat} {m : Incoming} (hloop : h.loop = .routed s m) :
    (receive s m { h with loop := .reading }).readingRank < h.readingRank := by
  have hbefore : h.readingRank =
      10 + inputRank h.input + total Errand.rank h.errands + h.errands.length := by
    unfold readingRank
    rw [hloop]
    rfl
  have hsame : ∀ {h₁ : Hub}, h₁.loop = .reading → h₁.input = h.input → h₁.errands = h.errands →
      h₁.readingRank < h.readingRank := by
    intro h₁ hreading hinput herrands
    unfold readingRank at hbefore ⊢
    rw [hbefore, hreading, hinput, herrands]
    show 4 + _ + _ + _ < _
    omega
  -- a request to read or list begins an errand
  have hread : ∀ m', (beginErrand (.read s m') { h with loop := .reading }).readingRank <
      h.readingRank := by
    intro m'
    rw [hbefore]
    show 4 + inputRank h.input + total Errand.rank (h.errands ++ [.read s m']) +
      (h.errands ++ [_]).length < _
    rw [total_append, total_singleton, List.length_append, List.length_singleton]
    show 4 + _ + (_ + 4) + _ < _
    omega
  unfold receive
  split
  · exact hsame rfl rfl rfl
  · next session hsession =>
      split
      · next r =>
          unfold deliverEvaluate
          cases session.pending.take r.requestId with
          | none => exact hsame rfl rfl rfl
          | some found =>
              show (answerEvaluate found.1 _ _).readingRank < _
              rw [answerEvaluate_eq]
              exact hsame rfl rfl rfl
      · exact hsame rfl rfl rfl
      · exact hsame rfl rfl rfl
      all_goals exact hread _

theorem readingRank_stepLoop
    (hready : h.loop = .reading → h.inputEnded = true ∨ isReady h.input = true)
    (hended : h.loop ≠ .ended) (hshuts : h.loop = .shuttingDown → h.connection.isDown = true) :
    h.stepLoop.readingRank < h.readingRank := by
  cases hloop : h.loop with
  | reading =>
      rw [stepLoop_of_reading hloop]
      exact readingRank_readNext hloop (hready hloop)
  | routed s m =>
      rw [stepLoop_of_routed hloop]
      exact readingRank_receive hloop
  | losing reason =>
      have hsame : ∀ {begun : Bool} {h₁ : Hub},
          (h.note (.connectionLost reason)).beginShutdown reason = (begun, h₁) →
          h₁.input = h.input ∧ h₁.errands = h.errands := by
        intro begun h₁ heq
        have hintake := (h.note (.connectionLost reason)).intake_beginShutdown reason
        have herrands := ((h.note (.connectionLost reason)).posts_beginShutdown reason).errands
        rw [heq] at hintake herrands
        exact ⟨(Prod.mk.inj (Prod.mk.inj hintake).2).1, herrands⟩
      unfold stepLoop
      rw [hloop]
      dsimp only
      split <;> next heq =>
        obtain ⟨hinput, herrands⟩ := hsame heq
        unfold readingRank
        dsimp only
        rw [hinput, herrands, hloop]
        simp only [Loop.rank]
        omega
  | shuttingDown =>
      unfold stepLoop
      rw [hloop]
      dsimp only
      rw [if_pos (hshuts hloop)]
      unfold readingRank
      dsimp only
      rw [hloop]
      simp only [Loop.rank]
      omega
  | ended => exact absurd hloop hended

/-- What the loop leaves alone. -/
theorem stages_stepLoop (h : Hub) :
    h.stepLoop.createStages = h.createStages ∧ h.stepLoop.evaluateStages = h.evaluateStages := by
  obtain ⟨h₁, heffect, hquiet⟩ := h.stepLoop_effect
  rw [hquiet.createStages, hquiet.evaluateStages]
  exact ⟨heffect.createStages, heffect.evaluateStages⟩

/-- The loop goes on if it has something to do. -/
theorem lowers_loop (hready : h.loop = .reading → h.inputEnded = true ∨ isReady h.input = true)
    (hended : h.loop ≠ .ended) (hshuts : h.loop = .shuttingDown → h.connection.isDown = true) :
    h.Lowers (h.step .loop) := by
  have hreading := readingRank_stepLoop hready hended hshuts
  obtain ⟨hcreates, hevaluates⟩ := h.stages_stepLoop
  have hrank := (h.moves_stepLoop : h.doors.Moves (fun _ => True) h.stepLoop.doors).rank
  have hids := congrArg List.length h.evaluatorIds_stepLoop
  rw [length_evaluatorIds, length_evaluatorIds] at hids
  rw [length_doors_sessions, length_doors_sessions, hids] at hrank
  show h.stepLoop.rank + h.stepLoop.errands.length < h.rank + h.errands.length
  unfold readingRank at hreading
  unfold Hub.rank
  rw [hcreates, hevaluates]
  omega

/-- A loop that waits for the next message ends once the connection is down. -/
theorem lowers_haltLoop (hloop : h.loop = .reading) (hdown : h.connection.isDown = true) :
    h.Lowers (h.step .haltLoop) := by
  have hstep : h.step .haltLoop = { h with loop := .ended } := by
    show h.haltLoop = _
    unfold haltLoop
    rw [hloop]
    dsimp only
    rw [if_pos hdown]
  have hrank : h.loop.rank = 4 := by rw [hloop]; rfl
  rw [hstep]
  show total CreateStage.rank h.createStages + total EvaluateStage.rank h.evaluateStages +
    total Errand.rank h.errands + h.doors.rank + 0 + inputRank h.input + h.errands.length < _
  unfold Hub.rank
  omega

/-- The start of the server ends. -/
theorem lowers_endLaunch {i : Nat} (hunderway : h.launch = .underway i)
    (hat : h.createStages[i]? = some .launching) (fault : Option TransportError) :
    h.Lowers (h.step (.endLaunch fault)) := by
  have hmoves : ∀ {launch : Launch} {stage : CreateStage}, stage.rank < 11 →
      h.Lowers (moveCreate i stage { h with launch }) := by
    intro launch stage hrank
    have hcreates := total_modify (f := CreateStage.rank) hat fun _ => stage
    have hstages : (moveCreate i stage { h with launch }).createStages =
        h.createStages.modify i fun _ => stage := createStages_moveCreate i stage _
    rw [show CreateStage.launching.rank = 11 from rfl] at hcreates
    rw [moveCreate_eq] at hstages ⊢
    unfold Lowers Hub.rank
    rw [hstages]
    show _ + total EvaluateStage.rank h.evaluateStages + total Errand.rank h.errands + h.doors.rank +
      h.loop.rank + inputRank h.input + h.errands.length < _
    omega
  show h.Lowers (h.endLaunch fault)
  unfold endLaunch
  rw [hunderway]
  cases fault with
  | none => exact hmoves (Nat.le_of_ble_eq_true rfl)
  | some e => exact hmoves (Nat.le_of_ble_eq_true rfl)

/-! ## Who has something to go on with -/

/-- A sending stays where it is only while the shutdown that it began is under way. -/
theorem ne_of_going {m : Outgoing} {progress progress' : Sending}
    (hsending : h.stepSending m progress = (.going progress', h'))
    (hshuts : progress.shuts = true → h.connection.isDown = true) : progress' ≠ progress := by
  rintro rfl
  cases progress' with
  | shuttingDown fault =>
      unfold stepSending at hsending
      dsimp only at hsending
      rw [if_pos (hshuts rfl)] at hsending
      cases (Prod.mk.inj hsending).1
  | checking | writing =>
      generalize hsent : Sent.going _ = sent at hsending
      cases sendingTurn hsending <;> cases hsent

/-- A call that creates has something to go on with. -/
structure CreateCall.GoesOn (h : Hub) (call : CreateCall) : Prop where
  /-- Nobody else starts the server. -/
  entering : call.stage = .entering → ∀ i, h.launch ≠ .underway i
  launching : call.stage ≠ .launching
  shuts : call.stage.shuts = true → h.connection.isDown = true
  waiting : call.stage = .waiting → call.answer ≠ none
  unfinished : ¬ createCourse.Over call.stage

theorem stepCreate_ne {i : Nat} {call : CreateCall} (hgoes : call.GoesOn h) :
    (h.stepCreate i call).1 ≠ call.stage := by
  obtain ⟨hentering, hlaunching, hshuts, hwaiting, hover⟩ := hgoes
  unfold stepCreate
  cases hstage : call.stage with
  | connecting =>
      dsimp only
      split <;> exact CreateStage.noConfusion
  | entering =>
      dsimp only
      split
      · exact CreateStage.noConfusion
      · next j hunderway => exact absurd hunderway (hentering hstage j)
      · exact CreateStage.noConfusion
  | launching => exact absurd hstage hlaunching
  | confirming =>
      dsimp only
      split
      · split <;> exact CreateStage.noConfusion
      · exact CreateStage.noConfusion
  | shuttingDown =>
      dsimp only
      rw [if_pos (hshuts (by rw [hstage]; rfl))]
      exact CreateStage.noConfusion
  | numbering =>
      dsimp only
      split <;> exact CreateStage.noConfusion
  | registering request =>
      dsimp only
      split <;> exact CreateStage.noConfusion
  | sending request progress =>
      dsimp only
      split
      · next hsending =>
          intro hsame
          refine ne_of_going hsending (fun h => hshuts (by rw [hstage]; exact h)) ?_
          exact (CreateStage.sending.inj hsame).2
      · exact CreateStage.noConfusion
      · exact CreateStage.noConfusion
  | withdrawing requestId fault => exact CreateStage.noConfusion
  | waiting =>
      dsimp only
      split
      · exact CreateStage.noConfusion
      · exact CreateStage.noConfusion
      · next hnone => exact absurd hnone (hwaiting hstage)
  | inserting evaluatorId =>
      dsimp only
      split <;> exact CreateStage.noConfusion
  | finished outcome => exact absurd (.inl ⟨outcome, by rw [hstage]; rfl⟩) hover
  | abandoned => exact absurd (.inr hstage) hover

/-- A call that evaluates has something to go on with. -/
structure EvaluateCall.GoesOn (h : Hub) (call : EvaluateCall) : Prop where
  shuts : call.stage.shuts = true → h.connection.isDown = true
  waiting : call.stage = .waiting → call.answer ≠ none
  unfinished : ¬ evaluateCourse.Over call.stage

theorem stepEvaluate_ne {i : Nat} {call : EvaluateCall} {session : Session}
    (hgoes : call.GoesOn h) : (h.stepEvaluate i call session).1 ≠ call.stage := by
  obtain ⟨hshuts, hwaiting, hover⟩ := hgoes
  unfold stepEvaluate
  cases hstage : call.stage with
  | opening =>
      dsimp only
      split <;> exact EvaluateStage.noConfusion
  | numbering => exact EvaluateStage.noConfusion
  | registering requestId =>
      dsimp only
      split <;> exact EvaluateStage.noConfusion
  | sending requestId progress =>
      dsimp only
      split
      · next hsending =>
          intro hsame
          refine ne_of_going hsending (fun h => hshuts (by rw [hstage]; exact h)) ?_
          exact (EvaluateStage.sending.inj hsame).2
      · exact EvaluateStage.noConfusion
      · exact EvaluateStage.noConfusion
  | withdrawing requestId fault => exact EvaluateStage.noConfusion
  | waiting =>
      dsimp only
      split
      · exact EvaluateStage.noConfusion
      · next hnone => exact absurd hnone (hwaiting hstage)
  | finished outcome => exact absurd (.inl ⟨outcome, by rw [hstage]; rfl⟩) hover
  | abandoned => exact absurd (.inr hstage) hover

theorem afterClose_ne (ownsManager ownsManager' : Bool) (s : Nat) (stage : CloseStage) :
    afterClose ownsManager ≠ .close s ownsManager' stage := by
  cases ownsManager <;> exact Errand.noConfusion

/-- An errand that closes a session goes on. -/
theorem stepClose_ne {s : Nat} {ownsManager : Bool} {stage : CloseStage} {session : Session}
    (hshuts : (Errand.close s ownsManager stage).shuts = true → h.connection.isDown = true) :
    (h.stepClose s session ownsManager stage).1 ≠ .close s ownsManager stage := by
  unfold stepClose
  cases stage with
  | failing =>
      intro hsame
      cases (Errand.close.inj hsame).2.2
  | unregistering =>
      dsimp only
      split
      · intro hsame
        cases (Errand.close.inj hsame).2.2
      · exact afterClose_ne _ _ _ _
  | sending progress =>
      unfold stepClosing
      dsimp only
      split
      · next hsending =>
          intro hsame
          refine ne_of_going hsending hshuts ?_
          exact CloseStage.sending.inj (Errand.close.inj hsame).2.2
      · exact afterClose_ne _ _ _ _
      · exact afterClose_ne _ _ _ _

/-- An errand goes on until it is over. -/
theorem stepErrand_ne {e : Errand} (hshuts : e.shuts = true → h.connection.isDown = true)
    (hover : e ≠ .finished) : (h.stepErrand e).1 ≠ e := by
  unfold stepErrand
  cases e with
  | close s ownsManager stage =>
      dsimp only
      split
      · next session hsession =>
          exact stepClose_ne hshuts
      · exact Errand.noConfusion
  | release s ownsManager =>
      dsimp only
      split
      · cases ownsManager <;> exact Errand.noConfusion
      · exact Errand.noConfusion
  | leave s =>
      dsimp only
      split <;> exact Errand.noConfusion
  | notice evaluatorId progress =>
      unfold stepClosing
      dsimp only
      split
      · next hsending =>
          intro hsame
          exact ne_of_going hsending hshuts (Errand.notice.inj hsame).2
      · exact Errand.noConfusion
      · exact Errand.noConfusion
  | read s m =>
      dsimp only
      split
      · split <;> exact Errand.noConfusion
      · exact Errand.noConfusion
  | reply evaluatorId m progress =>
      unfold stepReply
      dsimp only
      split
      · next hsending =>
          intro hsame
          exact ne_of_going hsending hshuts (Errand.reply.inj hsame).2.2
      · exact Errand.noConfusion
      · exact Errand.noConfusion
  | closeManager =>
      unfold flagManager
      dsimp only
      split <;> exact Errand.noConfusion
  | disconnect =>
      unfold disconnect
      dsimp only
      split
      · split <;> exact Errand.noConfusion
      · exact Errand.noConfusion
  | shuttingDown =>
      dsimp only
      rw [if_pos (hshuts rfl)]
      exact Errand.noConfusion
  | finished => exact absurd rfl hover

end PklHost.Hub
