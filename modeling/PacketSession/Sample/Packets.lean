import PacketSession.Packet.Registry

/-!
# A sample application

The packets of a small application, which between them use every kind of field, together with
codecs that are well behaved (`position`, `chat`), greedy (`greedy` reads all that is left),
demanding (`picky` refuses odd numbers) and careless (`short` reads back less than it writes).
A boxed value is passed around and has no written form.

The application attaches a number or a text to its sessions.
-/

namespace PacketSession

namespace Sample

/-- The kinds of packet of the application. -/
inductive Kind
  | position | chat | pair | blob | greedy | request | response | unit | picky | short
  | scalars | boxed
deriving DecidableEq

/-- The short names of all kinds, those of the protocol included. -/
def kinds : List (String × PacketKind Kind) :=
  [("position", .application .position), ("chat", .application .chat),
    ("pair", .application .pair), ("blob", .application .blob),
    ("greedy", .application .greedy), ("request", .application .request),
    ("response", .application .response), ("unit", .application .unit),
    ("picky", .application .picky), ("short", .application .short),
    ("scalars", .application .scalars), ("boxed", .application .boxed),
    ("fragment", .chunk), ("batch", .batch), ("disconnect", .disconnect)]

/-- The short name of a kind. -/
def kindName (kind : PacketKind Kind) : String :=
  ((kinds.find? fun entry => entry.2 = kind).map (·.1)).getD ""

/-- One field of each width and sign. -/
structure Scalars where
  byte : UInt8
  flag : Bool
  half : UInt16
  signed : Int32
  word : UInt32
  signedLong : Int64
  long : UInt64
  /-- The bit pattern of a 32-bit float. -/
  single : UInt32
  /-- The bit pattern of a 64-bit float. -/
  double : UInt64
  /-- A number that is written as a varint. -/
  varint : UInt32

/-- The values of each kind; boxed values are of type `W`. -/
abbrev Kind.Value (W : Type) : Kind → Type
  | .position => Int32 × Int32
  | .chat => String
  | .pair => String × String
  | .blob | .greedy => Bytes
  | .request | .response => UInt64 × Int32
  | .unit => Unit
  | .picky => UInt32
  | .short => UInt16
  | .scalars => Scalars
  | .boxed => W

/-- What is attached to a session. -/
inductive Attachment
  | number (value : UInt32)
  | text (value : String)

namespace Attachment

/-- A number with another one added to it. -/
def plus? (n : UInt32) : Attachment → Option Attachment
  | number value => some (number (value + n))
  | text _ => none

/-- A text with another one behind it. -/
def append? (s : String) : Attachment → Option Attachment
  | number _ => none
  | text value => some (text (value ++ s))

end Attachment

/-- The names of the types of packets in messages. -/
class TypeNames where
  /-- The name of the type of each kind. -/
  name : PacketKind Kind → String

/-- What the application exchanges. -/
abbrev schema (W : Type) [TypeNames] : Schema where
  Kind := Kind
  decEq := inferInstance
  Value := Kind.Value W
  typeName := TypeNames.name
  Attachment := Attachment

/-- What an application exchanges that goes by the short names and boxes nothing. -/
abbrev plain : Schema :=
  letI : TypeNames := ⟨kindName⟩
  schema Unit

/-- The fields of a value. -/
def encode (W : Type) : (k : Kind) → k.Value W → Bytes
  | .position, (x, y) => Bytes.i32 x ++ Bytes.i32 y
  | .chat, s => Bytes.text s
  | .pair, (a, b) => Bytes.text a ++ Bytes.text b
  | .blob, data => Bytes.counted data
  | .greedy, data => data
  | .request, (ticket, n) => Bytes.u64 ticket ++ Bytes.i32 n
  | .response, (ticket, n) => Bytes.u64 ticket ++ Bytes.i32 n
  | .unit, () => []
  | .picky, n => Varint.encode n
  | .short, n => Bytes.u16 n
  | .scalars, s =>
    Bytes.u8 s.byte ++ Bytes.bool s.flag ++ Bytes.u16 s.half ++ Bytes.i32 s.signed
      ++ Bytes.u32 s.word ++ Bytes.i64 s.signedLong ++ Bytes.u64 s.long ++ Bytes.u32 s.single
      ++ Bytes.u64 s.double ++ Varint.encode s.varint
  | .boxed, _ => []

/-- Reads a ticket and a number. -/
def decodeTicket : Decoder (UInt64 × Int32) := do
  let ticket ← Decoder.u64
  return (ticket, ← Decoder.i32)

/-- Reads the fields of a value. -/
def decode (W : Type) : (k : Kind) → Decoder (k.Value W)
  | .position => do
    let x ← Decoder.i32
    return (x, ← Decoder.i32)
  | .chat => Decoder.text
  | .pair => do
    let a ← Decoder.text
    return (a, ← Decoder.text)
  | .blob => Decoder.counted
  | .greedy => Decoder.takeRest
  | .request => decodeTicket
  | .response => decodeTicket
  | .unit => return ()
  | .picky => do
    let n ← Varint.decode
    if n % 2 = 1 then throw (.invalid ("odd " ++ toString n.toNat))
    return n
  | .short => return (← Decoder.byte).toUInt16
  | .scalars => do
    let byte ← Decoder.byte
    let flag ← Decoder.bool
    let half ← Decoder.u16
    let signed ← Decoder.i32
    let word ← Decoder.u32
    let signedLong ← Decoder.i64
    let long ← Decoder.u64
    let single ← Decoder.u32
    let double ← Decoder.u64
    let varint ← Varint.decode
    return ⟨byte, flag, half, signed, word, signedLong, long, single, double, varint⟩
  | .boxed => throw (.invalid "boxed")

section Packets

variable {W : Type} [TypeNames]

/-- The codec of each kind. -/
def codec : (kind : PacketKind Kind) → Codec (schema W) kind
  | .application k => ⟨encode W k, decode W k⟩
  | .disconnect => .disconnect
  | .chunk => .chunk
  | .batch => .batch

/-- The answer to a request: its ticket with the number doubled. -/
def answer? : Packet (schema W) → Option (Packet (schema W))
  | ⟨.application .request, (ticket, n)⟩ => some ⟨.application .response, (ticket, n + n)⟩
  | _ => none

/-- The ticket of a response. -/
def ticket? : Packet (schema W) → Option Nat
  | ⟨.application .response, (ticket, _)⟩ => some ticket.toNat
  | _ => none

end Packets

end Sample

end PacketSession
