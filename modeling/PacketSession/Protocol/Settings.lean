import PacketSession.Delivery
import PacketSession.Packet.Batch
import PacketSession.Packet.Chunk
import PacketSession.Wire.Varint

/-!
# Settings of a protocol

Frames above the fragment threshold travel in chunks of the size of the threshold. Settings
are consistent if such a chunk, with its identifier, the header of a first chunk, one byte
that a listener may add and the header of the transport, fits the largest frame that the
transport carries.
-/

namespace PacketSession

/-- The settings that all sessions of a protocol share. -/
structure Settings where
  /-- Frames larger than this are sent in chunks. -/
  fragmentThreshold : Nat := 64 * 1024
  /-- The longest frame that is sent or put together. -/
  maxMessage : Nat := 64 * 1024 * 1024
  /-- The largest frame of a stream transport. -/
  maxFrame : Nat := 16 * 1024 * 1024
  /-- The limits of one batch. -/
  batching : BatchLimits := .standard
  /-- The channel on which a close is announced. -/
  controlChannel : Channel := .unset
deriving DecidableEq

namespace Settings

/-- The bytes of channel and delivery class in front of a frame on a stream. -/
def wireHeaderSize : Nat := 4 + 1

/-- The bytes that a listener may add to a frame. -/
def listenerHeadroom : Nat := 1

/-- The most bytes that a chunk adds to its data. -/
def fragmentOverhead : Nat :=
  Varint.maxLength + Chunk.firstHeaderSize + listenerHeadroom + wireHeaderSize

/-- Refuses settings that contradict each other, naming the first fault. -/
def validate (s : Settings) : Except Error Unit :=
  if s.fragmentThreshold = 0 then
    .error (.config "fragment_threshold must be positive")
  else if s.maxMessage = 0 then
    .error (.config "max_message_size must be positive")
  else if s.maxFrame < s.fragmentThreshold + fragmentOverhead then
    .error (.config ("max_frame_size " ++ toString s.maxFrame ++ " cannot carry a "
      ++ toString s.fragmentThreshold ++ " byte fragment"))
  else if s.batching.maxFrames = 0 then
    .error (.config "batching.max_batch_size must be positive")
  else .ok ()

/-- The settings, if they are consistent. -/
def validated (s : Settings) : Except Error Settings :=
  match s.validate with
  | .ok () => .ok s
  | .error e => .error e

/-- The text of settings where structures are shown. -/
def shown (s : Settings) : String :=
  structured "ProtocolConfig" [
    ("fragment_threshold", toString s.fragmentThreshold),
    ("max_message_size", toString s.maxMessage),
    ("max_frame_size", toString s.maxFrame),
    ("batching", structured "BatchingConfig" [
      ("max_batch_size", toString s.batching.maxFrames),
      ("max_batch_bytes", toString s.batching.maxBytes)] false),
    ("control_channel", s.controlChannel.shown)] false

end Settings

end PacketSession
