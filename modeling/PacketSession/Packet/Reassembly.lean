import PacketSession.Delivery
import PacketSession.Packet.Chunk

/-!
# Putting chunks together again

A `Reassembler` holds at most one unfinished payload for each channel. Chunks have to arrive
in order: a first chunk opens a payload on an idle channel, every further chunk continues at
the offset reached so far, and the chunk that completes the payload frees the channel. A
chunk that does not fit is refused. Refusals leave everything as it was, with one exception:
a first chunk that carries more data than the payload it announces leaves an empty payload
of that length open.
-/

namespace PacketSession

/-- An unfinished payload. -/
structure Assembly where
  /-- The announced length of the payload. -/
  total : Nat
  /-- The data received so far, latest piece first. -/
  pieces : List Bytes
  /-- The number of bytes received so far. -/
  received : Nat
  /-- The count agrees with the pieces. -/
  received_eq : received = pieces.flatten.length
deriving DecidableEq

namespace Assembly

/-- A payload of which nothing was received. -/
def opened (total : Nat) : Assembly := ⟨total, [], 0, rfl⟩

/-- A payload with one more piece. -/
def extend (a : Assembly) (data : Bytes) : Assembly where
  total := a.total
  pieces := data :: a.pieces
  received := a.received + data.length
  received_eq := by simp [a.received_eq, Nat.add_comm]

/-- The bytes received so far, in order. -/
def buffer (a : Assembly) : Bytes := a.pieces.reverse.flatten

theorem length_buffer (a : Assembly) : a.buffer.length = a.received := by
  simp [buffer, a.received_eq]

theorem buffer_extend (a : Assembly) (data : Bytes) :
    (a.extend data).buffer = a.buffer ++ data := by
  simp [buffer, extend]

end Assembly

/-- The unfinished payloads of one session. -/
structure Reassembler where
  /-- The longest payload that may be announced. -/
  limit : Nat
  /-- The unfinished payloads by channel. -/
  inFlight : List (Channel × Assembly)
deriving DecidableEq

namespace Reassembler

/-- A reassembler without unfinished payloads. -/
def ofLimit (limit : Nat) : Reassembler := ⟨limit, []⟩

/-- The unfinished payload on a channel. -/
def assembly? (r : Reassembler) (channel : Channel) : Option Assembly :=
  r.inFlight.lookup channel

/-- Frees a channel. -/
def erase (r : Reassembler) (channel : Channel) : Reassembler :=
  { r with inFlight := r.inFlight.filter fun entry => entry.1 ≠ channel }

/-- Sets the unfinished payload on a channel. -/
def put (r : Reassembler) (channel : Channel) (a : Assembly) : Reassembler :=
  { r with inFlight := (channel, a) :: (r.erase channel).inFlight }

/-- Drops every unfinished payload. -/
def clear (r : Reassembler) : Reassembler := { r with inFlight := [] }

/-- The number of unfinished payloads. -/
def count (r : Reassembler) : Nat := r.inFlight.length

/-- The bytes held for all unfinished payloads. -/
def bufferedBytes (r : Reassembler) : Nat :=
  r.inFlight.foldr (fun entry bytes => entry.2.received + bytes) 0

/-- A chunk whose fields contradict each other. -/
def malformed (what : String) : ProtocolError :=
  .malformedPacket (some .fragment) (.invalid what)

/-- Opens a payload of `total` bytes, as far as the channel, the offset of its first chunk
and the announced length allow. -/
def start (r : Reassembler) (channel : Channel) (total offset : UInt32) :
    Except ProtocolError Reassembler :=
  match r.assembly? channel with
  | some a => .error (.fragmentOutOfOrder (UInt32.ofNat a.received) offset)
  | none =>
    if offset ≠ 0 then .error (.fragmentOutOfOrder 0 offset)
    else if total = 0 then .error (malformed "zero total length")
    else if r.limit < total.toNat then .error (.payloadTooLarge total.toNat r.limit)
    else .ok (r.put channel (.opened total.toNat))

/-- Adds data to the unfinished payload of a channel; the payload, if that completes it. -/
def grow (r : Reassembler) (channel : Channel) (offset : UInt32) (data : Bytes) :
    Except ProtocolError (Option Bytes × Reassembler) :=
  match r.assembly? channel with
  | none => .error (.fragmentOutOfOrder 0 offset)
  | some a =>
    if offset.toNat ≠ a.received then
      .error (.fragmentOutOfOrder (UInt32.ofNat a.received) offset)
    else if a.total < a.received + data.length then
      .error (malformed ("chunk overflows total length " ++ toString a.total))
    else if a.received + data.length < a.total then
      .ok (none, r.put channel (a.extend data))
    else
      .ok (some (a.extend data).buffer, r.erase channel)

/-- Accepts the next chunk of a channel, giving the payload if it is complete, and what is
then in flight. -/
def accept (r : Reassembler) (channel : Channel) (c : Chunk) :
    Except ProtocolError (Option Bytes) × Reassembler :=
  match c.total with
  | none => resume r
  | some total =>
    match r.start channel total c.offset with
    | .error e => (.error e, r)
    | .ok r => resume r
where
  /-- Continues the payload on the channel; a refusal changes nothing. -/
  resume (r : Reassembler) : Except ProtocolError (Option Bytes) × Reassembler :=
    match r.grow channel c.offset c.data with
    | .error e => (.error e, r)
    | .ok (payload, r) => (.ok payload, r)

/-- Accepts chunks of one channel in order up to the first that is refused, giving what the
last one completed. -/
def acceptAll (r : Reassembler) (channel : Channel) (chunks : List Chunk)
    (last : Option Bytes) : Except ProtocolError (Option Bytes) × Reassembler :=
  match chunks with
  | [] => (.ok last, r)
  | c :: chunks =>
    match r.accept channel c with
    | (.ok payload, r) => r.acceptAll channel chunks payload
    | (.error e, r) => (.error e, r)

end Reassembler

end PacketSession
