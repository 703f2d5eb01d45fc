import PklHost.Evaluator.Error
import PklHost.Evaluator.Pending

/-!
# Pending requests and their receivers

A registration hands out a receiver for the outcome of its request.  Receivers are numbered in the order
in which they are handed out, and the number is the ticket under which the request is pending.  The
ledger keeps the pending requests together with what became of each receiver that no longer waits: an
outcome was delivered to it, its request was dropped, or closing failed it.
-/

namespace PklHost

namespace Ledger

/-- How a receiver's wait ends. -/
inductive Fate (α : Type) where
  | delivered (outcome : Except EvaluatorError α)
  | dropped
  | failed (fault : EvaluatorError)

/-- What a receiver gets of a fate: an outcome, or nothing if its request was dropped. -/
def Fate.outcome? {α : Type} : Fate α → Option (Except EvaluatorError α)
  | .delivered outcome => some outcome
  | .dropped => none
  | .failed fault => some (.error fault)

/-- A use of pending requests. -/
inductive Use (α : Type) where
  | register (id : Int64)
  | resolve (id : Int64) (outcome : Except EvaluatorError α)
  | remove (id : Int64)
  | close (fault : EvaluatorError)

/-- What a use answers. -/
inductive Answer where
  | registered (receiver : Except Refusal Nat)
  /-- Whether a request was pending under the id. -/
  | taken (found : Bool)
  /-- The number of requests that closing failed. -/
  | failed (count : Nat)

end Ledger

open Ledger in
/-- Pending requests, the receivers handed out for them, and the fates of those that wait no longer. -/
structure Ledger (α : Type) where
  pending : Pending Nat := {}
  /-- How many receivers were handed out. -/
  issued : Nat := 0
  /-- Receivers with their fates, the latest last. -/
  log : List (Nat × Fate α) := []

namespace Ledger

variable {α : Type}

/-- Takes the request under an id off, with a fate for its receiver. -/
def settle (id : Int64) (fate : Fate α) (l : Ledger α) : Answer × Ledger α :=
  match l.pending.take id with
  | some (receiver, pending) => (.taken true, { l with pending, log := l.log ++ [(receiver, fate)] })
  | none => (.taken false, l)

/-- One use. -/
def step (l : Ledger α) : Use α → Answer × Ledger α
  | .register id =>
    match l.pending.register id l.issued with
    | .ok pending => (.registered (.ok l.issued), { l with pending, issued := l.issued + 1 })
    | .error refusal => (.registered (.error refusal), l)
  | .resolve id outcome => l.settle id (.delivered outcome)
  | .remove id => l.settle id .dropped
  | .close fault =>
    let (receivers, pending) := l.pending.close
    (.failed receivers.length,
      { l with pending, log := l.log ++ receivers.map fun receiver => (receiver, .failed fault) })

/-- One use after another. -/
def run (uses : List (Use α)) (l : Ledger α) : Ledger α :=
  uses.foldl (fun l u => (l.step u).2) l

end Ledger

end PklHost
