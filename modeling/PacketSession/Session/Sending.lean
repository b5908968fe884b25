import PacketSession.Session.Lifecycle

/-!
# Sending packets

Packets are encoded before anything is written, so a packet without a codec is refused and
changes nothing. If writing fails after part of a send is under way, or if the connection
itself fails, the peer can no longer make sense of the stream and the session fails;
otherwise a failed send leaves the session as it was.
-/

namespace PacketSession

variable {S : Schema} {N X : Type}

namespace Host

variable (h : Host S N X)

/-- The connection of a session that is open, or why there is none. -/
def writable (s : Session S) : Except SessionError ConnectionId :=
  match s.phase, s.connection with
  | .opened, some connection => .ok connection
  | .closing, _ | .closed, _ => .error (.closed s.reasonText)
  | _, _ => .error .notOpen

/-- Whether a failed send leaves a stream that the peer can no longer make sense of. -/
def breaksStream (handle : SendHandle) : ProtocolError → Bool
  | .transport e => e.isFatal || handle.frames > 0
  | _ => handle.frames > 0

/-- The error of a failed send. -/
def sendError : ProtocolError → SessionError
  | .transport e => .transport e
  | e => .protocol e

/-- Writes encoded frames one after the other. -/
def submit (delivery : Delivery) (frames : List Bytes) :
    SessionM S N X (Except SessionError SendHandle) := do
  match writable (← SessionM.current) with
  | .error e => return .error e
  | .ok connection =>
    match ← (frames.forM (h.transmit connection delivery)).collect with
    | (.ok (), handle) => return .ok handle
    | (.error e, handle) =>
      if breaksStream handle e then h.fail e
      return .error (sendError e)

/-- Sends a packet. -/
def send (packet : Packet S) (delivery : Delivery) :
    SessionM S N X (Except SessionError SendHandle) := do
  match h.protocol.codecs.encode packet with
  | .error e => return .error (.protocol e)
  | .ok frame => h.submit delivery [frame]

/-- The frames of the batches that carry some packets. -/
def encodeBatches (packets : List (Packet S)) : Except ProtocolError (List Bytes) := do
  let codecs := h.protocol.codecs
  let frames ← packets.mapM codecs.encode
  (Batch.pack h.protocol.settings.batching frames).mapM fun batch => codecs.encode (.ofBatch batch)

/-- Sends packets in as few batches as the settings allow. -/
def sendBatch (packets : List (Packet S)) (delivery : Delivery) :
    SessionM S N X (Except SessionError SendHandle) := do
  match h.encodeBatches packets with
  | .error e => return .error (.protocol e)
  | .ok frames => h.submit delivery frames

/-- Sends a frame that is encoded already, whatever it holds. -/
def sendFrame (frame : Bytes) (delivery : Delivery) :
    SessionM S N X (Except SessionError SendHandle) :=
  h.submit delivery [frame]

end Host

end PacketSession
