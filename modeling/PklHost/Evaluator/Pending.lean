/-!
# Pending requests

Before a request is sent it is registered here under its id; whoever waits for its outcome is known
by a ticket. A request leaves in one of three ways: an outcome is delivered to its ticket, it is
dropped, or closing fails it together with all the others. Once closed, nothing is registered again.

An id may be registered again after it has left, so an id alone does not say which registration an
outcome is for; the ticket does.
-/

namespace PklHost

/-- Requests that wait for an outcome, each by its id and the ticket of who waits. -/
structure Pending (τ : Type) where
  waiting : List (Int64 × τ) := []
  isClosed : Bool := false
  deriving Repr

/-- Why a registration is refused. -/
inductive Refusal where
  | closed
  | duplicate
  deriving DecidableEq, Repr

namespace Pending

variable {τ : Type}

def empty : Pending τ := {}

/-- The ticket under an id. -/
def find? (id : Int64) (p : Pending τ) : Option τ :=
  (p.waiting.find? fun w => w.1 == id).map Prod.snd

/-- The requests without the one under an id. -/
def erase (id : Int64) (p : Pending τ) : Pending τ :=
  { p with waiting := p.waiting.filter fun w => w.1 != id }

/-- Registers a ticket. -/
def register (id : Int64) (ticket : τ) (p : Pending τ) : Except Refusal (Pending τ) :=
  if p.isClosed then .error .closed
  else if (p.find? id).isSome then .error .duplicate
  else .ok { p with waiting := p.waiting ++ [(id, ticket)] }

/-- Takes the ticket under an id, to deliver an outcome to it or to drop it. -/
def take (id : Int64) (p : Pending τ) : Option (τ × Pending τ) :=
  (p.find? id).map fun ticket => (ticket, p.erase id)

/-- Closes: the tickets that are to fail, and the requests after them. -/
def close (p : Pending τ) : List τ × Pending τ :=
  (p.waiting.map Prod.snd, { waiting := [], isClosed := true })

end Pending

end PklHost
