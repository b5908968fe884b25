import PacketSession.Compression.Basic
import PacketSession.Connection.Address
import PacketSession.Protocol.Settings
import PacketSession.Sample.Packets
import PacketSession.Scenario.Data

/-!
# Reports

What is reported of errors, addresses, deliveries, settings and packets. The report of an
error names its kind, gives its message and contains the report of the error inside it, if
there is one.
-/

namespace PacketSession

namespace Scenario

/-! ### Errors -/

/-- The report of an error. -/
def fault (message kind : String) (cause : Option Data) : Data :=
  .record ([entry "error" kind, ("message", .prose message)]
    ++ (cause.map (entry "cause")).toList)

instance : ToData DecodeError where
  toData e := fault e.message (match e with
    | .unexpectedEnd _ => "UnexpectedEof"
    | .varintTooLong => "VarIntTooLong"
    | .invalidBool _ => "InvalidBool"
    | .invalidUtf8 => "InvalidUtf8"
    | .negativeLength _ => "NegativeLength"
    | .trailingBytes _ => "TrailingBytes"
    | .invalid _ => "Invalid") none

instance : ToData TransportError where
  toData e := fault e.message (match e with
    | .io _ => "Io"
    | .connectionClosed => "ConnectionClosed"
    | .frameTooLarge _ _ => "FrameTooLarge"
    | .invalidFrame _ => "InvalidFrame"
    | .writerGone => "WriterGone") none

instance : ToData ProtocolError where
  toData e := match e with
    | .transport cause => fault e.message "Transport" (some (toData cause))
    | .unknownPacketId _ => fault e.message "UnknownPacketId" none
    | .unknownPacketType _ => fault e.message "UnknownPacketType" none
    | .malformedPacket _ cause => fault e.message "MalformedPacket" (some (toData cause))
    | .fragmentOutOfOrder _ _ => fault e.message "FragmentationOrderViolation" none
    | .payloadTooLarge _ _ => fault e.message "PayloadTooLarge" none

instance : ToData SessionError where
  toData e := match e with
    | .notOpen => fault e.message "NotOpen" none
    | .alreadyOpened => fault e.message "AlreadyOpened" none
    | .closed _ => fault e.message "Closed" none
    | .protocol cause => fault e.message "Protocol" (some (toData cause))
    | .transport cause => fault e.message "Transport" (some (toData cause))
    | .replyDropped => fault e.message "ReplyDropped" none

instance : ToData RegistrationError where
  toData e := fault e.message (match e with
    | .duplicatePacketId _ => "DuplicatePacketId"
    | .duplicatePacketType _ _ => "DuplicatePacketType"
    | .reservedPacketId _ => "ReservedPacketId"
    | .duplicateHandler _ => "DuplicateHandler"
    | .duplicateListener _ => "DuplicateListener"
    | .unknownListener _ => "UnknownListener") none

instance : ToData Error where
  toData e := match e with
    | .registration cause => fault e.message "Registration" (some (toData cause))
    | .session cause => fault e.message "Session" (some (toData cause))
    | .transport cause => fault e.message "Transport" (some (toData cause))
    | .config _ => fault e.message "Config" none
    | .io _ => fault e.message "Io" none

instance : ToData CompressionError where
  toData e := fault e.message (match e with
    | .compressionFailed _ => "CompressionFailed"
    | .decompressionFailed _ => "DecompressionFailed"
    | .invalidFlag => "InvalidFlag"
    | .sizeExceeded _ _ => "SizeExceeded") none

/-! ### Addresses, deliveries and settings -/

instance : ToData SocketAddress := ⟨fun a => toData a.text⟩

instance : ToData Channel := ⟨fun c => toData c.raw⟩

/-- The fields that report a delivery. -/
def deliveryFields (d : Delivery) : List (String × Data) :=
  [entry "ch" d.channel, entry "rel" d.reliability.toByte]

instance : ToData Settings where
  toData s := .record [entry "fragment" s.fragmentThreshold, entry "message" s.maxMessage,
    entry "frame" s.maxFrame, entry "control" s.controlChannel,
    ("batching", .record [entry "size" s.batching.maxFrames,
      entry "bytes" s.batching.maxBytes])]

instance : ToData CompressionSettings where
  toData s := .record [entry "min" s.minSize, entry "level" s.level, entry "max" s.maxInflated]

/-! ### Packets of the sample application -/

/-- The fields that report a chunk. -/
def chunkFields (c : Chunk) : List (String × Data) :=
  [entry "total" c.total, entry "offset" c.offset, entry "data" c.data]

/-- The fields that report a value of the sample application; a boxed value is its report. -/
def valueFields : (k : Sample.Kind) → k.Value Data → List (String × Data)
  | .position, (x, y) => [entry "x" x, entry "y" y]
  | .chat, s => [("text", .prose s)]
  | .pair, (a, b) => [("from", .prose a), ("text", .prose b)]
  | .blob, data => [("data", .bytes data)]
  | .greedy, data => [("data", .bytes data)]
  | .request, (ticket, n) => [entry "ticket" ticket, entry "n" n]
  | .response, (ticket, n) => [entry "ticket" ticket, entry "n" n]
  | .unit, () => []
  | .picky, n => [entry "n" n]
  | .short, n => [entry "n" n]
  | .scalars, s =>
    [entry "a" s.byte, entry "b" s.flag, entry "c" s.half, entry "d" s.signed,
      entry "e" s.word, entry "f" s.signedLong, entry "g" s.long,
      entry "h" (hex 8 s.single.toNat), entry "i" (hex 16 s.double.toNat), entry "j" s.varint]
  | .boxed, inner => [("inner", inner)]

variable [Sample.TypeNames]

/-- The sample application with reports as boxed values. -/
abbrev schema : Schema := Sample.schema Data

/-- The fields that report the content of a packet. -/
def contentFields : (kind : PacketKind Sample.Kind) → schema.Content kind →
    List (String × Data)
  | .application k, v => valueFields k v
  | .chunk, c => chunkFields c
  | .batch, b => [entry "frames" b.frames, entry "encoded_len" b.encodedSize]
  | .disconnect, d => [("reason", .prose d.reason)]

instance : ToData (Packet schema) where
  toData p := .record (entry "t" (Sample.kindName p.kind) :: contentFields p.kind p.content)

instance : ToData (Message schema) where
  toData
    | .bytes frame => .record [entry "data" frame]
    | .packet p => .record [entry "p" p]

instance : ToData Sample.Attachment where
  toData
    | .number n => toData n
    | .text s => toData s

end Scenario

end PacketSession
