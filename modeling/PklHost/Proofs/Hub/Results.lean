import PklHost.Proofs.Hub.Effects
import PklHost.Proofs.Hub.Matching

/-!
# Where a result comes from

A call that evaluates keeps what it asks, and of whom (`questions_step`), and once it is over it keeps its
outcome (`finished_step`).  Octets that it returns are those of a message with a result and no error, which
the loop took while the call waited for it (`Fresh.brings`).
-/

namespace PklHost.Hub

open Message (EvaluateOutcome)

variable {h h' : Hub} {i : Nat}

/-! ## What is asked -/

/-- What a call asks: the session, the module and the expression. -/
def EvaluateCall.question (call : EvaluateCall) : Nat × ModuleSource × String :=
  (call.session, call.source, call.expr)

def questions (h : Hub) : List (Nat × ModuleSource × String) := h.evaluates.map EvaluateCall.question

theorem questions_getElem? {question : Nat × ModuleSource × String} :
    h.questions[i]? = some question ↔ ∃ call, h.evaluates[i]? = some call ∧ call.question = question := by
  rw [questions, List.getElem?_map, Option.map_eq_some_iff]

theorem Quiet.questions (q : Quiet h h') : h'.questions = h.questions := by
  rw [Hub.questions, Hub.questions, q.evaluates]

/-- Changing one call leaves the questions of all. -/
theorem map_modify_question {f : EvaluateCall → EvaluateCall}
    (hf : ∀ call, (f call).question = call.question) (i : Nat) (h : Hub) :
    (h.evaluates.modify i f).map EvaluateCall.question = h.questions := by
  have hsame : (h.evaluates.modify i f).map EvaluateCall.question = h.questions.modify i id := by
    apply map_modify
    exact hf
  rw [hsame, List.modify_id]

theorem questions_answerEvaluate (i : Nat) (a : Except EvaluatorError Bytes) (h : Hub) :
    (h.answerEvaluate i a).questions = h.questions := by
  rw [answerEvaluate_eq]
  apply map_modify_question
  intro call
  rfl

theorem questions_moveEvaluate (i : Nat) (stage : EvaluateStage) (h : Hub) :
    (h.moveEvaluate i stage).questions = h.questions := by
  rw [moveEvaluate_eq]
  apply map_modify_question
  intro call
  rfl

theorem questions_moveCreate (i : Nat) (stage : CreateStage) (h : Hub) :
    (h.moveCreate i stage).questions = h.questions := by
  rw [moveCreate_eq]
  rfl

theorem questions_answerAll (tickets : List Nat) (a : Except EvaluatorError Bytes) (h : Hub) :
    (tickets.foldl (fun h i => h.answerEvaluate i a) h).questions = h.questions := by
  induction tickets generalizing h with
  | nil => rfl
  | cons i tickets ih => rw [List.foldl_cons, ih, questions_answerEvaluate]

theorem questions_failSession (s : Nat) (fault : EvaluatorError) (h : Hub) :
    (h.failSession s fault).questions = h.questions := by
  unfold failSession
  split
  · exact questions_answerAll _ _ _
  · rfl

theorem questions_withdrawEvaluate (s : Nat) (session : Session) (requestId : Int64) (own : Nat)
    (h : Hub) : (h.withdrawEvaluate s session requestId own).questions = h.questions := by
  unfold withdrawEvaluate
  split
  · dsimp only
    split
    · rfl
    · exact questions_answerEvaluate _ _ _
  · rfl

theorem EvaluateStep.questions {call : EvaluateCall} {session : Session} {stage : EvaluateStage}
    (hstep : EvaluateStep h i call session stage h') : h'.questions = h.questions := by
  cases hstep with
  | goes _ hquiet => exact hquiet.questions
  | numbers | files => rfl
  | withdraws _ => exact questions_withdrawEvaluate _ _ _ _ _

theorem CreateStep.questions {call : CreateCall} {stage : CreateStage}
    (hstep : CreateStep h i call stage h') : h'.questions = h.questions := by
  cases hstep with
  | goes _ _ _ hquiet => exact hquiet.questions
  | launches | files => rfl
  | withdraws _ =>
      obtain ⟨creates, waiting, -, heq⟩ := h.withdrawCreate_eq _ i
      rw [heq]
      rfl
  | inserts _ hinsert =>
      rw [insertSession_eq_ok hinsert]
      rfl

theorem LoopEffect.questions (heffect : LoopEffect h h') : h'.questions = h.questions := by
  cases heffect with
  | passed | routed => rfl
  | create _ _ =>
      rw [answerCreate_eq]
      rfl
  | evaluate _ _ _ => exact questions_answerEvaluate _ _ _

/-- Calls that evaluate keep their questions. -/
theorem questions_step (h : Hub) (a : Action) : h.questions <+: (h.step a).questions := by
  obtain ⟨h₁, heffect, hquiet⟩ := h.step_effect a
  have hkept : ∀ {h₁ : Hub}, h₁.questions = h.questions → h.questions <+: h₁.questions :=
    fun hsame => hsame ▸ List.prefix_refl _
  rw [hquiet.questions]
  cases heffect with
  | begunEvaluate s source expr =>
      unfold beginEvaluate Hub.questions
      rw [List.map_append]
      exact List.prefix_append _ _
  | none | begunCreate | unregistered | halted => exact hkept rfl
  | create _ hturn _ => exact hkept ((questions_moveCreate _ _ _).trans hturn.step.questions)
  | evaluate _ _ hturn _ => exact hkept ((questions_moveEvaluate _ _ _).trans hturn.step.questions)
  | failedSession s _ => exact hkept (questions_failSession _ _ _)
  | failedCreates _ =>
      obtain ⟨creates, waiting, -, heq⟩ := h.failCreates_eq _
      rw [heq]
      exact hkept rfl
  | abandonedCreate | launched => exact hkept (questions_moveCreate _ _ _)
  | abandonedEvaluate => exact hkept (questions_moveEvaluate _ _ _)
  | loop heffect => exact hkept heffect.questions

theorem question_step {question : Nat × ModuleSource × String} (hat : h.questions[i]? = some question)
    (a : Action) : (h.step a).questions[i]? = some question := by
  obtain ⟨more, hmore⟩ := h.questions_step a
  rw [← hmore, getElem?_append_of_some hat]

/-! ## What is returned -/

/-- A call that creates and is over stays so, with its outcome. -/
theorem created_step {outcome : Except EvaluatorError Nat} (hlauncher : h.OneLauncher)
    (hat : h.createStages[i]? = some (.finished outcome)) (a : Action) :
    (h.step a).createStages[i]? = some (.finished outcome) := by
  by_cases ha : a = .advance (.create i)
  · subst ha
    obtain ⟨call, hcall, hstage⟩ := createStages_getElem?.1 hat
    have hrests : h.stepCreate i call = (.finished outcome, h) := by
      unfold stepCreate
      rw [hstage]
    show (h.advance (.create i)).createStages[i]? = _
    rw [advance_create hcall, hrests, createStages_moveCreate, List.getElem?_modify_eq, hat]
    rfl
  · exact createStages_keeps hat ha (fun _ => rfl) hlauncher CreateStage.noConfusion

/-- A call that evaluates and is over stays so, with its outcome. -/
theorem finished_step {outcome : Except EvaluatorError Bytes}
    (hat : h.evaluateStages[i]? = some (.finished outcome)) (a : Action) :
    (h.step a).evaluateStages[i]? = some (.finished outcome) := by
  cases evaluateStages_step h a with
  | kept hstages => rw [hstages, hat]
  | begun hstages =>
      rw [hstages, getElem?_append_of_some hat]
  | @advanced j call session stage h₁ _ hcall _ hturn _ hstages =>
      rw [hstages]
      by_cases hj : j = i
      · -- its own steps lead nowhere else
        subst hj
        obtain ⟨other, hother, hstage⟩ := evaluateStages_getElem?.1 hat
        obtain rfl : call = other := Option.some.inj (hcall.symm.trans hother)
        have hstays : stage = .finished outcome := by
          cases hturn with
          | stays => exact hstage
          | refusedAtOnce h | opens h | numbers _ _ h | refused h _ | files h _ _ | sends h _ | sent h _
          | unsent h _ | withdraws h | returns h _ =>
              rw [hstage] at h
              cases h
        rw [List.getElem?_modify_eq, hat, hstays]
        rfl
      · rw [List.getElem?_modify_ne _ _ hj, hat]
  | @abandoned j call _ hcall hpauses hstages =>
      have hj : j ≠ i := by
        rintro rfl
        obtain ⟨other, hother, hstage⟩ := evaluateStages_getElem?.1 hat
        obtain rfl : call = other := Option.some.inj (hcall.symm.trans hother)
        rw [hstage] at hpauses
        cases hpauses
      rw [hstages, List.getElem?_modify_ne _ _ hj, hat]

/-- In a run, a message with these octets for a result, and with no error, was an answer for which a call
waited when the loop was done with it. -/
def Brings (h : Hub) (actions : List Action) (i : Nat) (octets : Bytes) : Prop :=
  ∃ before after m, actions = before ++ .loop :: after ∧ EvaluateReply i m (h.run before) ∧
    m.error = none ∧ m.result = some octets

theorem Brings.append {actions : List Action} {octets : Bytes} (hbrings : h.Brings actions i octets)
    (more : List Action) : h.Brings (actions ++ more) i octets := by
  obtain ⟨before, after, m, hactions, hm⟩ := hbrings
  exact ⟨before, after ++ more, m, by rw [hactions]; simp, hm⟩

theorem result_of_evaluateAnswer {m : EvaluateOutcome} {octets : Bytes}
    (hanswer : evaluateAnswer m = .ok octets) : m.error = none ∧ m.result = some octets := by
  cases hanswer ▸ evaluateTells_evaluateAnswer m with
  | result herror hresult => exact ⟨herror, hresult⟩

/-- An answer with a result that a call has was brought to it. -/
theorem Fresh.brings_of_answer (hfresh : h.Fresh) {actions : List Action} {octets : Bytes}
    (hanswer : (h.run actions).evaluateDesk.answer? i = some (.ok octets)) :
    h.Brings actions i octets := by
  -- induction on the run from its end, for the step that gave the answer
  induction actions using List.reverseRecOn with
  | nil =>
      have hnobody : h.evaluateDesk.answer? i = none := by
        unfold Desk.answer?
        rw [hfresh.evaluateDesk_slips]
        rfl
      have hnone := hnobody.symm.trans hanswer
      cases hnone
  | append_singleton actions a ih =>
      rw [run_snoc] at hanswer
      have hserver : FromServer (.ok octets : Except EvaluatorError Bytes) := trivial
      rcases evaluate_answered (hfresh.sound.run actions) hserver hanswer with
        hold | ⟨rfl, -, m, hm, hvalue⟩
      · exact (ih hold).append [a]
      · exact ⟨actions, [], m, rfl, hm, result_of_evaluateAnswer hvalue.symm⟩

/-- Octets that a call has returned were brought to it. -/
theorem Fresh.brings (hfresh : h.Fresh) {actions : List Action} {octets : Bytes}
    (hover : (h.run actions).evaluateStages[i]? = some (.finished (.ok octets))) :
    h.Brings actions i octets := by
  obtain ⟨call, hcall, hstage⟩ := evaluateStages_getElem?.1 hover
  have hslip := slip_of_evaluate hcall
  have hearned : EvaluateStage.Earned call.answer call.stage :=
    (hfresh.sound.run actions).evaluateEarned hslip
  rw [hstage] at hearned
  exact hfresh.brings_of_answer (Desk.answer?_eq_some.2 ⟨call.slip, hslip, hearned trivial⟩)

end PklHost.Hub
