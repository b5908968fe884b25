import PacketSession.Session.Lifecycle

/-!
# From the connection to the handlers

A received frame passes through the inbound listeners and is then opened. A chunk joins the
payload of its channel, and a complete payload is opened in its place. A batch is opened as a
whole before any of its frames counts. Envelopes nest in one way only: a payload put together
from chunks may be a batch, while neither a payload nor a batch may hold chunks, and a batch
holds no batch. So there are at most three layers, and each has a function of its own:
`processLeaf`, `processPayload` and `processPacket`.

Frames that arrive while the session is not open are dropped, and so is the rest of a batch
once the session is not open any more. Every error fails the session.
-/

namespace PacketSession

variable {S : Schema} {N X : Type}

/-- Actions that may find traffic which cannot be processed. -/
abbrev ReceivingM (S : Schema) (N X : Type) := ExceptT ProtocolError (SessionM S N X)

/-- An envelope where there must not be one. -/
def nestedEnvelope (id : PacketId) (outer : String) : ProtocolError :=
  .malformedPacket (some id) (.invalid ("envelope " ++ id.text ++ " nested in a " ++ outer))

/-- What a packet under a reserved identifier holds; a packet of another kind has no business
there. -/
def Packet.expect {α : Type} (p : Packet S) (content : Option α) : Except ProtocolError α :=
  match content with
  | some a => .ok a
  | none => .error (.unknownPacketType p.typeName)

/-- The packets of the frames of a batch, if every one of them may be in a batch. -/
def Registry.decodeBatch (r : Registry S) (b : Batch) : Except ProtocolError (List (Decoded S)) :=
  b.frames.mapM fun frame =>
    match r.decode frame with
    | .error e => .error e
    | .ok d =>
      if d.id = .batch ∨ d.id = .fragment then .error (nestedEnvelope d.id "batch") else .ok d

/-- The packet of a payload put together from chunks, if it may be in one. -/
def Registry.decodePayload (r : Registry S) (payload : Bytes) :
    Except ProtocolError (Decoded S) :=
  match r.decode payload with
  | .error e => .error e
  | .ok d => if d.id = .fragment then .error (nestedEnvelope d.id "fragment") else .ok d

namespace ReceivingM

/-- Takes a result, or fails with its error. -/
def ofExcept {α : Type} : Except ProtocolError α → ReceivingM S N X α
  | .ok a => pure a
  | .error e => throw e

/-- Accepts the next chunk of a channel, giving the payload if it is complete. -/
def accept (channel : Channel) (c : Chunk) : ReceivingM S N X (Option Bytes) := ExceptT.mk do
  let (result, reassembler) := (← SessionM.current).reassembler.accept channel c
  SessionM.update fun s => { s with reassembler }
  return result

end ReceivingM

/-- Runs a handler on a packet, unless it is for another kind. -/
def Handler.invoke (handler : Handler S (SessionM S N X)) (delivery : Delivery)
    (d : Decoded S) : SessionM S N X Unit := do
  if handler.takes d.packet.kind then
    SessionM.record (.handling d.id d.packet delivery)
    handler.run d.packet delivery

namespace Host

variable (h : Host S N X)

/-- Processes an announcement or a packet of the application. -/
def processLeaf (delivery : Delivery) (d : Decoded S) : ReceivingM S N X Unit := do
  if !(← (SessionM.current : SessionM S N X _)).isOpen then return ()
  if d.id = .disconnect then
    let announcement ← ReceivingM.ofExcept (d.packet.expect d.packet.disconnect?)
    (h.peerDisconnected announcement.reason : SessionM S N X Unit)
  else
    match h.protocol.handlers.get? d.id with
    | some handler => (handler.invoke delivery d : SessionM S N X Unit)
    | none => return ()

/-- Processes a batch or a leaf. -/
def processPayload (delivery : Delivery) (d : Decoded S) : ReceivingM S N X Unit := do
  if !(← (SessionM.current : SessionM S N X _)).isOpen then return ()
  if d.id = .batch then
    let batch ← ReceivingM.ofExcept (d.packet.expect d.packet.batch?)
    let packets ← ReceivingM.ofExcept (h.protocol.codecs.decodeBatch batch)
    packets.forM (h.processLeaf delivery)
  else
    h.processLeaf delivery d

/-- Processes any packet. -/
def processPacket (delivery : Delivery) (d : Decoded S) : ReceivingM S N X Unit := do
  if !(← (SessionM.current : SessionM S N X _)).isOpen then return ()
  if d.id = .fragment then
    let chunk ← ReceivingM.ofExcept (d.packet.expect d.packet.chunk?)
    match ← ReceivingM.accept delivery.channel chunk with
    | some payload =>
      h.processPayload delivery (← ReceivingM.ofExcept (h.protocol.codecs.decodePayload payload))
    | none => return ()
  else
    h.processPayload delivery d

/-- The packet of a message, with its identifier. -/
def decodeMessage : Message S → Except ProtocolError (Decoded S)
  | .bytes frame => h.protocol.codecs.decode frame
  | .packet packet =>
    match h.protocol.codecs.idOf? packet.kind with
    | some id => .ok ⟨id, packet⟩
    | none => .error (.unknownPacketType packet.typeName)

/-- Processes a message that passed all listeners. -/
def dispatch (delivery : Delivery) (message : Message S) : ReceivingM S N X Unit := do
  h.processPacket delivery (← ReceivingM.ofExcept (h.decodeMessage message))

/-- Processes a frame from the connection. -/
def receive (frame : WireFrame) : SessionM S N X Unit := do
  if !(← SessionM.current).isOpen then return ()
  let result ← (h.protocol.pipeline.receive frame.delivery (.bytes frame.payload)
    (h.dispatch frame.delivery)).run
  match result with
  | .ok () => return ()
  | .error e => h.fail e

end Host

/-! ### Driving a session -/

/-- What a connection reports to the session that reads from it. -/
inductive Arrival
  /-- A frame arrived. -/
  | frame (frame : WireFrame)
  /-- Reading failed. -/
  | failed (cause : TransportError)
  /-- There is nothing more to read. -/
  | ended
deriving DecidableEq

namespace Host

variable (h : Host S N X)

/-- Passes an arrival to the session, telling whether reading is over: after the end, after a
failure, and once the session is closed. -/
def step : Arrival → SessionM S N X Bool
  | .frame frame => do
    h.receive frame
    return (← SessionM.current).phase = .closed
  | .failed cause => do
    h.transportFailed cause
    return true
  | .ended => do
    h.transportClosed
    return true

/-- Passes arrivals to the session until reading is over. -/
def drive : List Arrival → SessionM S N X Unit
  | [] => return ()
  | arrival :: arrivals => do
    if ← h.step arrival then return ()
    drive arrivals

end Host

end PacketSession
