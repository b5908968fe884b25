import PacketSession.Scenario.Reading
import PacketSession.Scenario.Report

/-!
# Values in scenarios

Readings of deliveries, packets, errors and settings. What is not said is as it is by default.
-/

namespace PacketSession

namespace Scenario

/-! ### Deliveries and packets -/

/-- A channel, by its raw number. -/
def channel : Reading Channel := found Channel.ofRaw? i32

/-- A delivery. -/
def delivery : Reading Delivery :=
  return ⟨← fieldOr .unset "ch" channel,
    ← fieldOr .reliableOrdered "rel" (found Reliability.ofByte? u8)⟩

/-- A socket address. -/
def socketAddress : Reading SocketAddress := found SocketAddress.ofText? text

/-- A packet identifier. -/
def packetId : Reading PacketId := PacketId.mk <$> u32

/-- A kind of packet, by its short name. -/
def kind : Reading (PacketKind Sample.Kind) := found (fun s => Sample.kinds.lookup s) name

/-- A chunk. -/
def chunk : Reading Chunk :=
  return ⟨← field? "total" u32, ← field "offset" u32, ← field "data" bytes⟩

/-- A value of the sample application, given a reading of boxed values. -/
def value (boxed : Reading Data) : (k : Sample.Kind) → Reading (k.Value Data)
  | .position => return (← field "x" i32, ← field "y" i32)
  | .chat => field "text" text
  | .pair => return (← field "from" text, ← field "text" text)
  | .blob => field "data" bytes
  | .greedy => field "data" bytes
  | .request => return (← field "ticket" u64, ← field "n" i32)
  | .response => return (← field "ticket" u64, ← field "n" i32)
  | .unit => return ()
  | .picky => field "n" u32
  | .short => field "n" u16
  | .scalars => return {
      byte := ← field "a" u8
      flag := ← field "b" bool
      half := ← field "c" u16
      signed := ← field "d" i32
      word := ← field "e" u32
      signedLong := ← field "f" i64
      long := ← field "g" u64
      single := UInt32.ofNat (← field "h" bits)
      double := UInt64.ofNat (← field "i" bits)
      varint := ← field "j" u32 }
  | .boxed => field "inner" boxed

section Packets

variable [Sample.TypeNames]

/-- A packet; packets in boxes may be nested to the given depth. -/
def packetWithin (depth : Nat) : Reading (Packet schema) := do
  match ← field "t" kind with
  | .application k => return ⟨.application k, ← value boxed k⟩
  | .chunk => return .ofChunk (← chunk)
  | .batch => return .ofBatch ⟨← many "frames" bytes⟩
  | .disconnect => return .ofDisconnect ⟨← field "reason" text⟩
where
  /-- The report of the packet in a box. -/
  boxed : Reading Data :=
    match depth with
    | 0 => unsuitable
    | depth + 1 => toData <$> packetWithin depth

/-- A packet. -/
def packet : Reading (Packet schema) := do
  packetWithin (← asIs).depth

/-- A message. -/
def message : Reading (Message schema) := do
  match ← field? "p" packet with
  | some p => return .packet p
  | none => return .bytes (← field "data" bytes)

end Packets

/-! ### Errors -/

/-- A decoding error. -/
def decodeError : Reading DecodeError := choose "kind" [
  ("UnexpectedEof", .unexpectedEnd <$> field "needed" nat),
  ("VarIntTooLong", return .varintTooLong),
  ("InvalidBool", .invalidBool <$> field "byte" u8),
  ("InvalidUtf8", return .invalidUtf8),
  ("NegativeLength", .negativeLength <$> field "n" i32),
  ("TrailingBytes", .trailingBytes <$> field "n" nat),
  ("Invalid", .invalid <$> field "msg" text)]

/-- A transport error. -/
def transportError : Reading TransportError := choose "kind" [
  ("Io", .io <$> field "msg" text),
  ("ConnectionClosed", return .connectionClosed),
  ("FrameTooLarge", .frameTooLarge <$> field "size" nat <*> field "limit" nat),
  ("InvalidFrame", .invalidFrame <$> field "msg" text),
  ("WriterGone", return .writerGone)]

/-- The name of a type of packets. -/
def typeName [Sample.TypeNames] : Reading String := schema.typeName <$> kind

/-- A protocol error. -/
def protocolError [Sample.TypeNames] : Reading ProtocolError := choose "kind" [
  ("Transport", .transport <$> field "cause" transportError),
  ("UnknownPacketId", .unknownPacketId <$> field "id" packetId),
  ("UnknownPacketType", .unknownPacketType <$> field "type" typeName),
  ("MalformedPacket", .malformedPacket <$> field? "id" packetId <*> field "cause" decodeError),
  ("FragmentationOrderViolation",
    .fragmentOutOfOrder <$> field "expected" u32 <*> field "actual" u32),
  ("PayloadTooLarge", .payloadTooLarge <$> field "size" nat <*> field "limit" nat)]

/-- A session error. -/
def sessionError [Sample.TypeNames] : Reading SessionError := choose "kind" [
  ("NotOpen", return .notOpen),
  ("AlreadyOpened", return .alreadyOpened),
  ("Closed", .closed <$> field "reason" text),
  ("Protocol", .protocol <$> field "cause" protocolError),
  ("Transport", .transport <$> field "cause" transportError),
  ("ReplyDropped", return .replyDropped)]

/-- A registration error. -/
def registrationError [Sample.TypeNames] : Reading RegistrationError := choose "kind" [
  ("DuplicatePacketId", .duplicatePacketId <$> field "id" packetId),
  ("DuplicatePacketType",
    .duplicatePacketType <$> field "type" typeName <*> field "id" packetId),
  ("ReservedPacketId", .reservedPacketId <$> field "id" packetId),
  ("DuplicateHandler", .duplicateHandler <$> field "id" packetId),
  ("DuplicateListener", .duplicateListener <$> field "name" text),
  ("UnknownListener", .unknownListener <$> field "name" text)]

/-- An error of any layer. -/
def anyError [Sample.TypeNames] : Reading Error := choose "kind" [
  ("Registration", .registration <$> field "cause" registrationError),
  ("Session", .session <$> field "cause" sessionError),
  ("Transport", .transport <$> field "cause" transportError),
  ("Config", .config <$> field "msg" text),
  ("Io", .io <$> field "msg" text)]

/-- A compression error. -/
def compressionError : Reading CompressionError := choose "kind" [
  ("CompressionFailed", .compressionFailed <$> field "msg" text),
  ("DecompressionFailed", .decompressionFailed <$> field "msg" text),
  ("InvalidFlag", return .invalidFlag),
  ("SizeExceeded", .sizeExceeded <$> field "size" nat <*> field "limit" nat)]

/-! ### Settings -/

/-- Limits of batches, which may go by a name. -/
def batchLimits : Reading BatchLimits := do
  let default := BatchLimits.standard
  match ← asIs with
  | .text "low_latency" => return .lowLatency
  | .text "high_throughput" => return .highThroughput
  | .text _ => return default
  | _ => return ⟨← fieldOr default.maxFrames "size" nat, ← fieldOr default.maxBytes "bytes" nat⟩

/-- Settings of a protocol. -/
def settings : Reading Settings := do
  let default : Settings := {}
  return {
    fragmentThreshold := ← fieldOr default.fragmentThreshold "fragment" nat
    maxMessage := ← fieldOr default.maxMessage "message" nat
    maxFrame := ← fieldOr default.maxFrame "frame" nat
    batching := ← fieldOr default.batching "batching" batchLimits
    controlChannel := ← fieldOr default.controlChannel "control" channel }

/-- Settings of a compression. -/
def compressionSettings : Reading CompressionSettings := do
  let default : CompressionSettings := {}
  return {
    minSize := ← fieldOr default.minSize "min" nat
    level := ← fieldOr default.level "level" int
    maxInflated := ← fieldOr default.maxInflated "max" nat }

/-- A compression, by its settings. -/
def compression : Reading Compression :=
  return .withSettings .zstd (← fieldOr {} "config" compressionSettings)

end Scenario

end PacketSession
