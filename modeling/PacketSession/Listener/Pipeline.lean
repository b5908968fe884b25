import PacketSession.Compression.Basic
import PacketSession.Delivery
import PacketSession.Listener.Chain
import PacketSession.Packet.Schema

/-!
# Listeners on the way in and on the way out

A received message passes through the inbound chain one listener after the other; each may
pass on a message, consume it or refuse it. A message to be sent passes through the outbound
chain stage by stage: all messages that reach a stage pass through it before the next stage
starts, and each may become any number of messages.

Listeners run in a monad `m` of the caller's choice. With `Id` they are functions of the
message; sessions run them with effects on the session itself.
-/

namespace PacketSession

variable {S : Schema} {m : Type → Type}

/-- A stage on the way in: the message passed on, or none if it is consumed. -/
abbrev InboundListener (S : Schema) (m : Type → Type) :=
  Delivery → Message S → ExceptT ProtocolError m (Option (Message S))

/-- A stage on the way out: the messages passed on. -/
abbrev OutboundListener (S : Schema) (m : Type → Type) :=
  Delivery → Message S → ExceptT ProtocolError m (List (Message S))

/-- The listeners of a protocol. -/
structure Pipeline (S : Schema) (m : Type → Type) where
  /-- The stages on the way in. -/
  inbound : Chain (InboundListener S m)
  /-- The stages on the way out. -/
  outbound : Chain (OutboundListener S m)

namespace Pipeline

/-- A pipeline without listeners. -/
def empty : Pipeline S m := ⟨.empty, .empty⟩

/-- The text of a pipeline where structures are shown. -/
def shown (p : Pipeline S m) : String :=
  structured "Pipeline" [("inbound", p.inbound.shown), ("outbound", p.outbound.shown)] false

/-- Passes a received message through the given stages, giving what the last one passes on,
or none if one of them consumes the message. -/
def receiveThrough [Monad m] (delivery : Delivery) :
    List (InboundListener S m) → Message S → ExceptT ProtocolError m (Option (Message S))
  | [], message => return some message
  | stage :: stages, message => do
    match ← stage delivery message with
    | some next => receiveThrough delivery stages next
    | none => return none

/-- Passes all messages that reach a stage through it, in order. -/
def runStage [Monad m] (delivery : Delivery) (stage : OutboundListener S m) :
    List (Message S) → ExceptT ProtocolError m (List (Message S))
  | [] => return []
  | message :: messages => do
    let passed ← stage delivery message
    let later ← runStage delivery stage messages
    return passed ++ later

/-- Passes messages to be sent through the given stages. -/
def sendThrough [Monad m] (delivery : Delivery) :
    List (OutboundListener S m) → List (Message S) → ExceptT ProtocolError m (List (Message S))
  | [], messages => return messages
  | stage :: stages, messages => do
    sendThrough delivery stages (← runStage delivery stage messages)

/-- Passes a received message through the inbound chain; `terminal` gets what comes out. -/
def receive [Monad m] (p : Pipeline S m) (delivery : Delivery) (message : Message S)
    (terminal : Message S → ExceptT ProtocolError m Unit) : ExceptT ProtocolError m Unit := do
  match ← receiveThrough delivery p.inbound.listeners message with
  | some message => terminal message
  | none => return ()

/-- Passes a message to be sent through the outbound chain, adding what reaches the end to
the messages collected before. -/
def send [Monad m] (p : Pipeline S m) (delivery : Delivery) (message : Message S)
    (collected : List (Message S)) : ExceptT ProtocolError m (List (Message S)) := do
  return collected ++ (← sendThrough delivery p.outbound.listeners [message])

end Pipeline

/-! ### Compression as a stage -/

namespace Compression

/-- Compresses frames on the way out; packets pass unchanged. -/
def outbound [Monad m] (c : Compression) : OutboundListener S m := fun _ message =>
  match message with
  | .bytes frame =>
    match c.compress frame with
    | .ok encoded => return [.bytes encoded]
    | .error e => throw e.toProtocolError
  | .packet _ => return [message]

/-- Inflates frames on the way in; packets pass unchanged. -/
def inbound [Monad m] (c : Compression) : InboundListener S m := fun _ message =>
  match message with
  | .bytes data =>
    match c.decompress data with
    | .ok frame => return some (.bytes frame)
    | .error e => throw e.toProtocolError
  | .packet _ => return some message

end Compression

end PacketSession
