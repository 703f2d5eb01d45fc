import PklHost.Host.Dialogue

/-!
# Evaluators with a server of their own

Such an evaluator owns the manager that was made for it: closing the evaluator closes the manager, and
when it cannot be created the manager is closed at once.
-/

namespace PklHost.Dialogue

/-- Makes the evaluator of a handle the owner of its manager. -/
def own (handle : Nat) (host : Host) : Host :=
  match host.handles[handle]? with
  | some held => { host with handles := host.handles.set handle { held with ownsManager := true } }
  | none => host

/-- Creates the evaluator of a server of its own, which gets the first handle. Its manager is closed if
that fails. `none` if the server is silent for ever. -/
def startExclusive (o : EvaluatorOptions) (d : Dialogue) :
    Option (Except EvaluatorError Unit × Dialogue) :=
  let d := d.run fun host => host.create o
  match d.outcome? 0 with
  | none => none
  | some (.error e) => some (.error e, d.run Host.closeManager)
  | some (.ok _) => some (.ok (), { d with host := own 0 d.host })

end PklHost.Dialogue
