import PklHost.Hub.Delivery

/-!
# Shutdown

The first call that shuts the connection down closes it to all callers at once and then, one step at
a time, fails the create requests, empties the registry and fails each session that was in it. Any
later call finds the connection closed and does nothing, and the first reason stands.
-/

namespace PklHost.Hub

/-- Begins a shutdown, unless one has begun. Gives whether it did. -/
def beginShutdown (reason : CloseReason) (h : Hub) : Bool × Hub :=
  if h.connection.isClosed then (false, h)
  else (true, { h with connection := { h.connection with phase := .closing reason .failingCreates } })

def setPhase (phase : Phase) (h : Hub) : Hub :=
  { h with connection := { h.connection with phase } }

/-- One step of the shutdown that is under way. -/
def stepShutdown (h : Hub) : Hub :=
  match h.connection.phase with
  | .isOpen | .closed _ => h
  | .closing reason .failingCreates =>
    (h.failCreates (.connectionClosed reason)).setPhase (.closing reason .drainingRegistry)
  | .closing reason .drainingRegistry =>
    let left := h.connection.registry.map Prod.snd
    { h with connection :=
      { h.connection with registry := [], phase := .closing reason (.failingSessions left) } }
  | .closing reason (.failingSessions []) => h.setPhase (.closed reason)
  | .closing reason (.failingSessions (s :: left)) =>
    (h.failSession s (.connectionClosed reason)).setPhase (.closing reason (.failingSessions left))

/-! ## Sending -/

/-- Where one step of a sending leads. -/
inductive Sent where
  | going (progress : Sending)
  | done
  | failed (fault : EvaluatorError)

/-- The fault of a write to a server that takes no more messages. -/
def writeFault : Message.FrameError := .io .brokenPipe

/-- One step of the sending of a message: a closed connection refuses it, and a write that fails shuts
the connection down. -/
def stepSending (m : Message.Outgoing) (progress : Sending) (h : Hub) : Sent × Hub :=
  match progress with
  | .checking =>
    if h.connection.isClosed then (.failed (.connectionClosed .shutDown), h) else (.going .writing, h)
  | .writing =>
    if h.serverReads then (.done, { h with sent := h.sent ++ [m] })
    else
      match h.beginShutdown (.writeFailed writeFault) with
      | (true, h) => (.going (.shuttingDown writeFault), h)
      | (false, h) => (.failed (.frame writeFault), h)
  | .shuttingDown fault =>
    if h.connection.isDown then (.failed (.frame fault), h) else (.going (.shuttingDown fault), h)

end PklHost.Hub
