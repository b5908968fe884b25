import PacketSession.Listener.Pipeline
import PacketSession.Packet.Registry
import PacketSession.Protocol.Handlers
import PacketSession.Protocol.Settings

/-!
# Protocols

A protocol is what two peers have to agree on: codecs, handlers, listeners, what happens
when a session opens, closes or fails, and the settings. It is put together step by step from
`Protocol.initial`, which knows the three kinds of packet that sessions exchange on their own
account; each step may be refused, and a protocol does not change once sessions use it.

Everything that runs on behalf of the application runs in a monad `m`. `Protocol.map` moves a
protocol to another monad.
-/

namespace PacketSession

variable {S : Schema} {m n : Type → Type}

/-- What the application does at the turning points of a session. -/
structure Lifecycle (m : Type → Type) where
  /-- The session is open now. -/
  onOpened : m Unit
  /-- The session is closed now. -/
  onClosed : m Unit
  /-- The session failed; it is closed now. -/
  onException : ProtocolError → m Unit

/-- Nothing happens at the turning points. -/
def Lifecycle.silent [Monad m] : Lifecycle m := ⟨pure (), pure (), fun _ => pure ()⟩

/-- What two peers agree on. -/
structure Protocol (S : Schema) (m : Type → Type) where
  /-- The codecs, those of the protocol itself included. -/
  codecs : Registry S
  /-- The handlers of received packets. -/
  handlers : HandlerTable S m
  /-- The listeners on the way in and out. -/
  pipeline : Pipeline S m
  /-- What happens at the turning points of a session. -/
  lifecycle : Lifecycle m
  /-- The settings. -/
  settings : Settings

namespace Protocol

/-- The protocol to start from: no codecs but those of the protocol itself, no handlers and
no listeners. -/
def initial [Monad m] : Protocol S m where
  codecs := .reserved
  handlers := .empty
  pipeline := .empty
  lifecycle := .silent
  settings := {}

/-- Registers a codec under an identifier. -/
def register (p : Protocol S m) (id : PacketId) {kind : PacketKind S.Kind}
    (codec : Codec S kind) : Except RegistrationError (Protocol S m) :=
  return { p with codecs := ← p.codecs.register id codec }

/-- Binds a handler to an identifier. -/
def bind (p : Protocol S m) (id : PacketId) (handler : Handler S m) :
    Except RegistrationError (Protocol S m) :=
  return { p with handlers := ← p.handlers.insert id handler }

/-- Adds a listener on the way in. -/
def addInbound (p : Protocol S m) (name : String) (listener : InboundListener S m)
    (position : Position) : Except RegistrationError (Protocol S m) := do
  let inbound ← p.pipeline.inbound.add name listener position
  return { p with pipeline := { p.pipeline with inbound } }

/-- Adds a listener on the way out. -/
def addOutbound (p : Protocol S m) (name : String) (listener : OutboundListener S m)
    (position : Position) : Except RegistrationError (Protocol S m) := do
  let outbound ← p.pipeline.outbound.add name listener position
  return { p with pipeline := { p.pipeline with outbound } }

/-- The protocol whose callbacks are those of `p`, run in another monad by `run`. -/
def map (run : {α : Type} → m α → n α) (p : Protocol S m) : Protocol S n where
  codecs := p.codecs
  handlers := ⟨p.handlers.entries.map fun entry => (entry.1, entry.2.map run)⟩
  pipeline :=
    { inbound := p.pipeline.inbound.map fun listener delivery message =>
        ExceptT.mk (run (listener delivery message).run)
      outbound := p.pipeline.outbound.map fun listener delivery message =>
        ExceptT.mk (run (listener delivery message).run) }
  lifecycle :=
    { onOpened := run p.lifecycle.onOpened
      onClosed := run p.lifecycle.onClosed
      onException := fun cause => run (p.lifecycle.onException cause) }
  settings := p.settings

theorem inbound_map {p : Protocol S m} (h : p.pipeline.inbound = .empty)
    (run : {α : Type} → m α → n α) : (p.map run).pipeline.inbound = .empty := by
  simp only [map, h]
  rfl

theorem outbound_map {p : Protocol S m} (h : p.pipeline.outbound = .empty)
    (run : {α : Type} → m α → n α) : (p.map run).pipeline.outbound = .empty := by
  simp only [map, h]
  rfl

/-- The text of a protocol that is being put together. -/
def draftShown (p : Protocol S m) : String :=
  structured "ProtocolBuilder" [("codecs", p.codecs.shown), ("handlers", p.handlers.shown),
    ("config", p.settings.shown)] true

/-- The text of a protocol where structures are shown. -/
def shown (p : Protocol S m) : String :=
  structured "Protocol" [("codecs", p.codecs.shown), ("handlers", p.handlers.shown),
    ("pipeline", p.pipeline.shown), ("config", p.settings.shown)] true

end Protocol

end PacketSession
