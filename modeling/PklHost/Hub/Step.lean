import PklHost.Hub.Create
import PklHost.Hub.Errands
import PklHost.Hub.Evaluate
import PklHost.Hub.Routing

/-!
# Runs of a hub

Whatever happens to a hub is one of a few actions: a call begins, is taken one step further or is
abandoned, the start of the server ends, the shutdown or the loop goes on, or the server does something
to a stream. A run is any sequence of actions; an action that is not possible changes nothing.
-/

namespace PklHost.Hub

/-- What can happen to a hub. -/
inductive Action where
  | create (o : EvaluatorOptions)
  | evaluate (session : Nat) (source : ModuleSource) (expr : String)
  /-- Closes an evaluator. -/
  | close (session : Nat) (ownsManager : Bool)
  /-- Lets an evaluator go. -/
  | release (session : Nat) (ownsManager : Bool)
  | closeManager
  | advance (who : Caller)
  /-- Gives a call up; whatever it registered stays. -/
  | abandon (who : Caller)
  | endLaunch (fault : Option TransportError)
  | shutdown
  | loop
  | haltLoop
  /-- Octets that the server wrote. -/
  | arrive (octets : Bytes)
  | endInput
  /-- The server takes no more messages. -/
  | endOutput

/-- Takes a call one step further. -/
def advance (who : Caller) (h : Hub) : Hub :=
  match who with
  | .create i =>
    match h.creates[i]? with
    | some call =>
      let (stage, h) := h.stepCreate i call
      h.moveCreate i stage
    | none => h
  | .evaluate i =>
    match h.evaluates[i]? with
    | some call =>
      match h.sessions[call.session]? with
      | some session =>
        let (stage, h) := h.stepEvaluate i call session
        h.moveEvaluate i stage
      | none => h
    | none => h
  | .errand i =>
    match h.errands[i]? with
    | some e =>
      let (e, h) := h.stepErrand e
      h.setErrand i e
    | none => h

/-- Gives a call up that waits for something. Errands run to their end. -/
def abandon (who : Caller) (h : Hub) : Hub :=
  match who with
  | .create i =>
    match h.creates[i]? with
    | some call => if call.stage.pauses then h.moveCreate i .abandoned else h
    | none => h
  | .evaluate i =>
    match h.evaluates[i]? with
    | some call => if call.stage.pauses then h.moveEvaluate i .abandoned else h
    | none => h
  | .errand _ => h

/-- The hub after an action. -/
def step (h : Hub) : Action → Hub
  | .create o => h.beginCreate o
  | .evaluate session source expr => h.beginEvaluate session source expr
  | .close session ownsManager => h.beginErrand (.close session ownsManager .failing)
  | .release session ownsManager => h.beginErrand (.release session ownsManager)
  | .closeManager => h.beginErrand .closeManager
  | .advance who => h.advance who
  | .abandon who => h.abandon who
  | .endLaunch fault => h.endLaunch fault
  | .shutdown => h.stepShutdown
  | .loop => h.stepLoop
  | .haltLoop => h.haltLoop
  | .arrive octets => { h with input := h.input.feed octets }
  | .endInput => { h with inputEnded := true }
  | .endOutput => { h with serverReads := false }

/-- The hub after a sequence of actions. -/
def run (h : Hub) (actions : List Action) : Hub :=
  actions.foldl step h

end PklHost.Hub
