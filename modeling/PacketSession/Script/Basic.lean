import PacketSession.Session.Receiving
import PacketSession.Session.Sending

/-!
# What callbacks may do

A `Script` is a program of the application that runs at an endpoint: it calls the session,
reads and writes the state outside, writes notes, and decides by the answers how to go on.
Nothing else is in its reach, so whatever holds of every call holds of every script.

A `Request` is one call on a session, with the type of its answer.
-/

namespace PacketSession

variable {S : Schema}

/-- A call on a session. -/
inductive Request (S : Schema)
  /-- Opens it with a connection. -/
  | openWith (connection : ConnectionId)
  /-- Turns a connection away. -/
  | refuse (connection : ConnectionId) (reason : String)
  /-- Closes it. -/
  | close (reason : String)
  /-- Closes it because of a failure. -/
  | fail (cause : ProtocolError)
  /-- Reports a frame from the connection. -/
  | receive (frame : WireFrame)
  /-- Reports what reading from the connection found. -/
  | arrive (arrival : Arrival)
  /-- Reports that the connection went away. -/
  | transportClosed
  /-- Reports that the connection failed. -/
  | transportFailed (cause : TransportError)
  /-- Sends a packet. -/
  | send (packet : Packet S) (delivery : Delivery)
  /-- Sends packets in batches. -/
  | sendBatch (packets : List (Packet S)) (delivery : Delivery)
  /-- Sends an encoded frame. -/
  | sendFrame (frame : Bytes) (delivery : Delivery)
  /-- Begins to wait for a reply. -/
  | awaitReply
  /-- Settles a wait. -/
  | settleReply (id : Nat) (outcome : Reply S)
  /-- Replaces what is attached. -/
  | setAttachment (value : Option S.Attachment)
  /-- Looks at the state. -/
  | inspect

/-- The type of the answer to a call. -/
abbrev Request.Answer : Request S → Type
  | .openWith _ | .refuse _ _ => Except SessionError Unit
  | .close _ | .fail _ | .receive _ | .transportClosed | .transportFailed _ => Unit
  | .arrive _ => Bool
  | .send _ _ | .sendBatch _ _ | .sendFrame _ _ => Except SessionError SendHandle
  | .awaitReply => Nat
  | .settleReply _ _ => Bool
  | .setAttachment _ => Unit
  | .inspect => Session S

/-- A program of the application with result `α`. -/
inductive Script (S : Schema) (N X : Type) (α : Type)
  /-- It ends. -/
  | done (result : α)
  /-- It calls the session and goes on with the answer. -/
  | ask (request : Request S) (next : request.Answer → Script S N X α)
  /-- It looks at the state outside. -/
  | look (next : X → Script S N X α)
  /-- It replaces the state outside. -/
  | put (outside : X) (next : Script S N X α)
  /-- It writes a note. -/
  | write (note : N) (next : Script S N X α)

namespace Script

variable {N X : Type} {α β : Type}

/-- One script after the other. -/
def bind (first : Script S N X α) (second : α → Script S N X β) : Script S N X β :=
  match first with
  | done result => second result
  | ask request next => ask request fun answer => (next answer).bind second
  | look next => look fun outside => (next outside).bind second
  | put outside next => put outside (next.bind second)
  | write note next => write note (next.bind second)

instance : Monad (Script S N X) where
  pure := done
  bind := bind

/-- A call on the session. -/
def call (request : Request S) : Script S N X request.Answer := ask request done

/-- The state outside. -/
def outside : Script S N X X := look done

/-- Changes the state outside, giving an answer. -/
def modifyGet (f : X → α × X) : Script S N X α :=
  look fun x => put (f x).2 (done (f x).1)

/-- Changes the state outside. -/
def modify (f : X → X) : Script S N X Unit := look fun x => put (f x) (done ())

/-- Writes a note. -/
def note (n : N) : Script S N X Unit := write n (done ())

/-- Runs a script at an endpoint, where `answer` performs the calls. -/
def run (answer : (request : Request S) → SessionM S N X request.Answer) :
    Script S N X α → SessionM S N X α
  | done result => pure result
  | ask request next => do run answer (next (← answer request))
  | look next => do run answer (next (← get).outside)
  | put x next => do
    MonadState.modifyGet fun e => ((), { e with outside := x })
    run answer next
  | write n next => do
    SessionM.record (.note n)
    run answer next

end Script

end PacketSession
