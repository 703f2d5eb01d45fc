import PklHost.Host.Schedule

/-!
# Dialogues with a server

A server reacts to each request to create an evaluator or to evaluate by writing octets or by ending
its output. Its reactions are given in order; with none left it is silent. A dialogue goes on until
the host waits and the server has nothing to say to what it heard.
-/

namespace PklHost

open Message (Outgoing)

/-- What a server does. -/
inductive ServerEvent where
  | writes (octets : Bytes)
  | endsOutput

/-- A server by its reactions to the requests that it receives, the first one first. -/
abbrev Server := List (Outgoing → List ServerEvent)

/-- A host and its server, with the number of messages that the server has heard. -/
structure Dialogue where
  host : Host
  server : Server
  heard : Nat := 0

namespace Dialogue

/-- Whether a message is a request that the server reacts to. -/
def isRequest : Outgoing → Bool
  | .createEvaluator _ | .evaluate _ => true
  | .closeEvaluator _ | .readResourceResponse _ | .readModuleResponse _ | .listResourcesResponse _
  | .listModulesResponse _ => false

/-- The first request from a place on, and the place behind it. -/
def request? (sent : List Outgoing) (heard : Nat) : Option (Outgoing × Nat) :=
  go heard (sent.drop heard)
where
  /-- Searches from a place. -/
  go (place : Nat) : List Outgoing → Option (Outgoing × Nat)
    | [] => none
    | m :: rest => if isRequest m then some (m, place + 1) else go (place + 1) rest

/-- The host after the server did something. What nobody reads is lost. -/
def happen (host : Host) : ServerEvent → Host
  | .writes octets =>
    match host.receive octets with
    | .ok host => host
    | .error _ => host
  | .endsOutput => host.endInput

/-- Host and server in turn, until both wait. -/
def goOn (heard : Nat) (host : Host) : Server → Dialogue
  | [] => { host := host.settle, server := [], heard }
  | react :: server =>
    let host := host.settle
    match request? host.hub.sent heard with
    | none => { host, server := react :: server, heard }
    | some (m, heard) => goOn heard ((react m).foldl happen host) server

/-- A dialogue in which the host does something more. -/
def run (act : Host → Host) (d : Dialogue) : Dialogue :=
  goOn d.heard (act d.host) d.server

/-- The outcome of a job. -/
def outcome? (job : Nat) (d : Dialogue) : Option (Except EvaluatorError JobResult) :=
  d.host.outcome? job

/-- The answer or the fault of a job that asked for an answer. -/
def answer? (job : Nat) (d : Dialogue) : Option (Except EvaluatorError Answer) :=
  match d.outcome? job with
  | some (.ok (.answer a)) => some (.ok a)
  | some (.error e) => some (.error e)
  | some (.ok (.evaluator _)) | some (.ok (.project _)) | none => none

/-! ## The evaluator of the first handle -/

/-- Asks the evaluator. -/
def ask (source : Except EvaluatorError ModuleSource) (query : Query) (d : Dialogue) : Dialogue :=
  d.run fun host => (host.evaluate? 0 source query).getD host

/-- Closes the evaluator. -/
def close (d : Dialogue) : Dialogue :=
  d.run fun host => (host.close? 0).getD host

end Dialogue

end PklHost
