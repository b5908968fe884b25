import PacketSession.Session.Basic

/-!
# From a frame to the connection

A frame up to the fragment threshold goes out whole, a longer one as chunks. Each of them
passes through the outbound listeners, and every message that comes out is handed to the
connection at once. A refusal stops the frame where it is; the writes of what was handed over
before are kept, so that the caller can tell whether part of the frame is under way.

The announcement of a close takes the same way, but nobody waits for it and its failure does
not matter.
-/

namespace PacketSession

variable {S : Schema} {N X : Type}

/-- Actions that hand frames to a connection, collecting the writes also when they fail. -/
abbrev SendingM (S : Schema) (N X : Type) :=
  ExceptT ProtocolError (StateT SendHandle (SessionM S N X))

namespace SendingM

/-- Takes a result, or fails with its error. -/
def ofExcept {α : Type} : Except ProtocolError α → SendingM S N X α
  | .ok a => pure a
  | .error e => throw e

/-- Runs sending actions, giving the result and all writes. -/
def collect {α : Type} (action : SendingM S N X α) :
    SessionM S N X (Except ProtocolError α × SendHandle) :=
  action.run.run .empty

end SendingM

namespace Host

variable (h : Host S N X)

/-- Hands a frame to a connection and writes that into the journal. -/
def hand (connection : ConnectionId) (frame : WireFrame) :
    SessionM S N X (Except TransportError WriteHandle) := do
  let result ← h.carrier.send connection frame
  match result with
  | .ok _ => SessionM.record (.sent connection frame none)
  | .error e => SessionM.record (.sent connection frame (some e))
  return result

/-- Asks a connection to go away and writes that into the journal. -/
def disconnect (connection : ConnectionId) (reason : String) : SessionM S N X Unit := do
  SessionM.record (.disconnecting connection reason)
  h.carrier.disconnect connection reason

/-- Hands over one message that the listeners passed on. -/
def deliver (connection : ConnectionId) (delivery : Delivery) (message : Message S) :
    SendingM S N X Unit := do
  let payload ← match message with
    | .bytes frame => pure frame
    | .packet packet => SendingM.ofExcept (h.protocol.codecs.encode packet)
  match ← (h.hand connection ⟨delivery, payload⟩ : SessionM S N X _) with
  | .ok write => modifyThe SendHandle fun handle => handle.push write
  | .error e => throw (.transport e)

/-- Passes a frame through the listeners and hands over what comes out. -/
def emit (connection : ConnectionId) (delivery : Delivery) (frame : Bytes) :
    SendingM S N X Unit := do
  let outputs ← ((h.protocol.pipeline.send delivery (.bytes frame) []).run : SessionM S N X _)
  (← SendingM.ofExcept outputs).forM (h.deliver connection delivery)

/-- Encodes a chunk and emits it. -/
def emitChunk (connection : ConnectionId) (delivery : Delivery) (chunk : Chunk) :
    SendingM S N X Unit := do
  h.emit connection delivery (← SendingM.ofExcept (h.protocol.codecs.encode (.ofChunk chunk)))

/-- Emits a frame, in chunks if it is longer than the threshold. -/
def transmit (connection : ConnectionId) (delivery : Delivery) (frame : Bytes) :
    SendingM S N X Unit := do
  let settings := h.protocol.settings
  if settings.maxMessage < frame.length then
    throw (.payloadTooLarge frame.length settings.maxMessage)
  else if frame.length ≤ settings.fragmentThreshold then
    h.emit connection delivery frame
  else
    let chunks ← SendingM.ofExcept ((Fragmenter.ofSize settings.fragmentThreshold).split frame)
    chunks.forM (h.emitChunk connection delivery)

/-- Announces a close, for what it is worth. -/
def announce (connection : ConnectionId) (reason : String) : SessionM S N X Unit := do
  SessionM.record (.announcing reason)
  match h.protocol.codecs.encode (.ofDisconnect ⟨reason⟩) with
  | .error _ => return ()
  | .ok frame =>
    let delivery : Delivery := ⟨h.protocol.settings.controlChannel, .reliableOrdered⟩
    let _ ← (h.transmit connection delivery frame).collect

/-- Announces a close if the connection still takes frames. -/
def announceIfConnected (connection : ConnectionId) (reason : String) :
    SessionM S N X Unit := do
  if ← h.carrier.isConnected connection then h.announce connection reason

end Host

end PacketSession
