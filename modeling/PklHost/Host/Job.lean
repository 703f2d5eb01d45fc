import PklHost.Evaluator.Query
import PklHost.Hub.Step
import PklHost.Project.Value

/-!
# Jobs

A job is what a user of the library asks for: an evaluator, an answer, or a project. It is a chain of
calls, each begun when the one before it is over. A project is read by an evaluator of its own, its
loader, which is closed before anything is made of what it read.
-/

namespace PklHost

/-- What a finished job gives. -/
inductive JobResult where
  | evaluator (session : Nat)
  | answer (a : Answer)
  | project (p : Project)

/-- What a project is read for. -/
inductive Purpose where
  | project
  /-- An evaluator with the project's options, under these. -/
  | evaluator (handle : Nat) (upper : EvaluatorOptions)

/-- How far a job is. -/
inductive Job where
  | creating (handle create : Nat)
  | evaluating (session : Nat) (query : Query) (evaluate : Nat)
  | makingLoader (purpose : Purpose) (source : ModuleSource) (create : Nat)
  | loading (purpose : Purpose) (session evaluate : Nat)
  | closingLoader (purpose : Purpose) (session errand : Nat) (result : Except EvaluatorError Bytes)
  | releasingLoader (purpose : Purpose) (errand : Nat) (loaded : Except EvaluatorError Project)
  | finished (outcome : Except EvaluatorError JobResult)
  | cancelled

namespace Job

open Hub (Action Caller)

/-- The call that a job waits for. -/
def awaits? : Job → Option Caller
  | .creating _ i | .makingLoader _ _ i => some (.create i)
  | .evaluating _ _ i | .loading _ _ i => some (.evaluate i)
  | .closingLoader _ _ i _ | .releasingLoader _ i _ => some (.errand i)
  | .finished _ | .cancelled => none

/-- The session of the user's evaluator that a job uses. -/
def uses? : Job → Option Nat
  | .evaluating s _ _ => some s
  | .creating .. | .makingLoader .. | .loading .. | .closingLoader .. | .releasingLoader ..
  | .finished _ | .cancelled => none

/-- The outcome of a call that creates, once it is over. -/
def created? (h : Hub) (i : Nat) : Option (Except EvaluatorError Nat) :=
  match h.creates[i]? with
  | some ⟨_, _, .finished outcome⟩ => some outcome
  | _ => none

/-- The outcome of a call that evaluates, once it is over. -/
def evaluated? (h : Hub) (i : Nat) : Option (Except EvaluatorError Bytes) :=
  match h.evaluates[i]? with
  | some ⟨_, _, _, _, .finished outcome⟩ => some outcome
  | _ => none

/-- Whether an errand is over. -/
def ended (h : Hub) (i : Nat) : Bool :=
  match h.errands[i]? with
  | some .finished => true
  | _ => false

/-- The project of a result. -/
def projectOf (result : Except EvaluatorError Bytes) : Except EvaluatorError Project := do
  match Project.ofValue (← Query.valueOf (← result)) with
  | .ok p => return p
  | .error fault => throw (.project fault)

/-- What follows the reading of a project. -/
def afterLoading (h : Hub) (purpose : Purpose) (loaded : Except EvaluatorError Project) :
    Job × List Action :=
  match loaded with
  | .error e => (.finished (.error e), [])
  | .ok p =>
    match purpose with
    | .project => (.finished (.ok (.project p)), [])
    | .evaluator handle upper =>
      match EvaluatorOptions.ofProject p with
      | .error e => (.finished (.error e), [])
      | .ok o => (.creating handle h.creates.length, [.create (o.merge upper)])

/-- What a job does when the call that it waits for is over: the job after it, and the action that begins
its next call. `none` while the call goes on. -/
def resume? (h : Hub) : Job → Option (Job × List Action)
  | .creating _ i =>
    (created? h i).map fun outcome => (.finished (outcome.map .evaluator), [])
  | .evaluating _ query i =>
    (evaluated? h i).map fun outcome =>
      (.finished ((outcome.bind query.answer).map .answer), [])
  | .makingLoader purpose source i =>
    (created? h i).map fun
      | .ok s => (.loading purpose s h.evaluates.length, [.evaluate s source Query.value.expr])
      | .error e => (.finished (.error e), [])
  | .loading purpose s i =>
    (evaluated? h i).map fun result =>
      (.closingLoader purpose s h.errands.length result, [.close s false])
  | .closingLoader purpose s i result =>
    if ended h i then
      some (.releasingLoader purpose h.errands.length (projectOf result), [.release s false])
    else none
  | .releasingLoader purpose i loaded =>
    if ended h i then some (afterLoading h purpose loaded) else none
  | .finished _ | .cancelled => none

/-- What giving a job up does. A loader goes with its job. -/
def cancel : Job → Job × List Action
  | .creating _ i | .makingLoader _ _ i => (.cancelled, [.abandon (.create i)])
  | .evaluating _ _ i => (.cancelled, [.abandon (.evaluate i)])
  | .loading _ s i => (.cancelled, [.abandon (.evaluate i), .release s false])
  | .closingLoader _ s _ _ => (.cancelled, [.release s false])
  | .releasingLoader .. => (.cancelled, [])
  | .finished outcome => (.finished outcome, [])
  | .cancelled => (.cancelled, [])

end Job

end PklHost
