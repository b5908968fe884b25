import PacketSession.Delivery
import PacketSession.Error
import PacketSession.Protocol.Settings
import PacketSession.Wire.Scalar

/-!
# Frames on a byte stream

On a stream a frame is preceded by its length (32 bits), which counts everything that
follows, its channel (32 bits, signed) and its delivery class (one byte). A reader checks
each of these as soon as it has arrived. A stream may end between two frames and inside the
length of the next one; if it ends later than that, the last frame is broken.
-/

namespace PacketSession

namespace Framing

/-- The written form of a frame. -/
def encode (frame : WireFrame) : Bytes :=
  Bytes.size (Settings.wireHeaderSize + frame.payload.length) ++
    (Bytes.i32 frame.delivery.channel.raw ++
      (frame.delivery.reliability.toByte :: frame.payload))

/-- What a reader finds at the front of a stream. -/
inductive Reading
  /-- A frame, and what follows it. -/
  | frame (frame : WireFrame) (rest : Bytes)
  /-- More bytes have to arrive first. -/
  | pending
  /-- The stream ended properly. -/
  | ended
  /-- The stream is broken. -/
  | failed (cause : TransportError)
deriving DecidableEq

/-- The stream ended inside the header of a frame. -/
def endInHeader : TransportError := .io "unexpected end of file"

/-- The stream ended inside the payload of a frame. -/
def endInPayload : TransportError := .io "early eof"

/-- Takes `count` bytes and goes on with `next`; if they are not there, the stream is broken
by `cause` once it has `ended`. -/
def need (count : Nat) (ended : Bool) (cause : TransportError) (input : Bytes)
    (next : Bytes → Bytes → Reading) : Reading :=
  let (front, rest) := input.splitAt count
  if front.length < count then (if ended then .failed cause else .pending)
  else next front rest

/-- Reads what is behind the length of a frame. -/
def readBody (length : Nat) (ended : Bool) (input : Bytes) : Reading :=
  need 4 ended endInHeader input fun word input =>
    let raw := (UInt32.ofNat (Bytes.value word)).toInt32
    match Channel.ofRaw? raw with
    | none => .failed (.invalidFrame ("invalid channel " ++ toString raw.toInt))
    | some channel =>
      need 1 ended endInHeader input fun mark input =>
        let byte := UInt8.ofNat (Bytes.value mark)
        match Reliability.ofByte? byte with
        | none => .failed (.invalidFrame ("invalid reliability " ++ toString byte.toNat))
        | some reliability =>
          need (length - Settings.wireHeaderSize) ended endInPayload input fun payload rest =>
            .frame ⟨⟨channel, reliability⟩, payload⟩ rest

/-- Reads the next frame of a stream that refuses frames above `limit`; `ended` says that no
more bytes will arrive. -/
def read (limit : Nat) (input : Bytes) (ended : Bool) : Reading :=
  let (word, input) := input.splitAt 4
  if word.length < 4 then (if ended then .ended else .pending)
  else
    let length := Bytes.value word
    if length < Settings.wireHeaderSize then
      .failed (.invalidFrame ("frame length " ++ toString length ++ " shorter than header"))
    else if limit < length then .failed (.frameTooLarge length limit)
    else readBody length ended input

/-- How reading a whole stream ends. -/
inductive Ending
  | ended
  | failed (cause : TransportError)
deriving DecidableEq

/-- Reads at most `fuel` frames behind those already read, which come latest first. -/
def readFrames (limit : Nat) :
    (fuel : Nat) → (input : Bytes) → (latest : List WireFrame) → List WireFrame × Ending
  | 0, _, latest => (latest.reverse, .ended)
  | fuel + 1, input, latest =>
    match read limit input true with
    | .frame frame rest => readFrames limit fuel rest (frame :: latest)
    | .failed cause => (latest.reverse, .failed cause)
    | .pending | .ended => (latest.reverse, .ended)

/-- The frames of a whole stream, and how it ends. A frame takes more than one byte, so a
stream has fewer frames than bytes. -/
def readAll (limit : Nat) (stream : Bytes) : List WireFrame × Ending :=
  readFrames limit (stream.length + 1) stream []

end Framing

end PacketSession
