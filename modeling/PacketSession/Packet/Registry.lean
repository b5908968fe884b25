import PacketSession.Packet.Schema

/-!
# Codecs by identifier and by kind

A `Registry` is a list of codecs, each under an identifier and for a kind of packet; no
identifier and no kind occurs twice. The frame of a packet is the identifier of its kind as a
varint, followed by the fields that the codec writes. Decoding a frame reports the first of
these that goes wrong: the identifier cannot be read, it has no codec, the codec refuses the
fields, bytes are left over. The codec goes on at the place where the identifier ended.
-/

namespace PacketSession

variable {S : Schema}

/-- How the values of one kind of packet are written and read. -/
structure Codec (S : Schema) (kind : PacketKind S.Kind) where
  /-- The fields of a value. -/
  encode : S.Content kind → Bytes
  /-- Reads the fields of a value. -/
  decode : Decoder (S.Content kind)

namespace Codec

/-- The codec of announcements. -/
def disconnect : Codec S .disconnect := ⟨Disconnect.encode, Disconnect.decode⟩

/-- The codec of chunks. -/
def chunk : Codec S .chunk := ⟨Chunk.encode, Chunk.decode⟩

/-- The codec of batches. -/
def batch : Codec S .batch := ⟨Batch.encode, Batch.decode⟩

end Codec

/-- A codec under its identifier. -/
structure CodecEntry (S : Schema) where
  /-- The identifier of the kind on the wire. -/
  id : PacketId
  /-- The kind of packet. -/
  kind : PacketKind S.Kind
  /-- The codec of the kind. -/
  codec : Codec S kind

/-- A packet with the identifier that it was read with. -/
structure Decoded (S : Schema) where
  /-- The identifier on the wire. -/
  id : PacketId
  /-- The packet. -/
  packet : Packet S

/-- The codecs of a protocol, in the order in which they were registered. -/
structure Registry (S : Schema) where
  /-- The codecs with their identifiers and kinds. -/
  entries : List (CodecEntry S)

namespace Registry

/-- A registry without codecs. -/
def empty : Registry S := ⟨[]⟩

/-- The registry of the three kinds of packet that sessions exchange on their own account. -/
def reserved : Registry S :=
  ⟨[⟨.disconnect, .disconnect, .disconnect⟩, ⟨.fragment, .chunk, .chunk⟩,
    ⟨.batch, .batch, .batch⟩]⟩

/-- The number of codecs. -/
def count (r : Registry S) : Nat := r.entries.length

/-- The codec under an identifier, with its kind. -/
def entry? (r : Registry S) (id : PacketId) : Option (CodecEntry S) :=
  r.entries.find? fun e => e.id = id

/-- Whether an identifier has a codec. -/
def contains (r : Registry S) (id : PacketId) : Bool := (r.entry? id).isSome

/-- The name of the kind under an identifier. -/
def typeName? (r : Registry S) (id : PacketId) : Option String :=
  (r.entry? id).map fun e => S.typeName e.kind

/-- The codec of an entry as a codec of `kind`, if that is its kind. -/
def CodecEntry.codecFor? (kind : PacketKind S.Kind) (e : CodecEntry S) :
    Option (PacketId × Codec S kind) :=
  if h : e.kind = kind then some (e.id, h ▸ e.codec) else none

/-- The codec of a kind, with its identifier. -/
def codec? (r : Registry S) (kind : PacketKind S.Kind) : Option (PacketId × Codec S kind) :=
  r.entries.findSome? (CodecEntry.codecFor? kind)

/-- The identifier of a kind. -/
def idOf? (r : Registry S) (kind : PacketKind S.Kind) : Option PacketId :=
  (r.codec? kind).map (·.1)

/-- Registers the codec of a kind under an identifier. A reserved identifier is refused
first, then an identifier in use, then a kind in use. -/
def register (r : Registry S) (id : PacketId) {kind : PacketKind S.Kind}
    (codec : Codec S kind) : Except RegistrationError (Registry S) :=
  if id.isReserved then .error (.reservedPacketId id)
  else if r.contains id then .error (.duplicatePacketId id)
  else
    match r.idOf? kind with
    | some other => .error (.duplicatePacketType (S.typeName kind) other)
    | none => .ok ⟨r.entries ++ [⟨id, kind, codec⟩]⟩

/-- The frame of a packet. -/
def encode (r : Registry S) (p : Packet S) : Except ProtocolError Bytes :=
  match r.codec? p.kind with
  | some (id, codec) => .ok (Varint.encode id.raw ++ codec.encode p.content)
  | none => .error (.unknownPacketType p.typeName)

/-- Reads the fields of an entry from the place behind its identifier, down to the last byte. -/
def decodeBody (e : CodecEntry S) (c : Cursor) : Except ProtocolError (Decoded S) :=
  match e.codec.decode.readFrom c with
  | .error cause => .error (.malformedPacket (some e.id) cause)
  | .ok (content, []) => .ok ⟨e.id, e.kind, content⟩
  | .ok (_, left) => .error (.malformedPacket (some e.id) (.trailingBytes left.length))

/-- The packet of a frame. -/
def decode (r : Registry S) (frame : Bytes) : Except ProtocolError (Decoded S) :=
  match Varint.decode.runAt (.start frame) with
  | (.error cause, _) => .error (.malformedPacket none cause)
  | (.ok raw, c) =>
    match r.entry? ⟨raw⟩ with
    | none => .error (.unknownPacketId ⟨raw⟩)
    | some e => decodeBody e c

/-- The text of a registry where structures are shown: identifiers and names, in the order
of the identifiers. -/
def shown (r : Registry S) : String :=
  let sorted := r.entries.mergeSort fun a b => a.id.raw.toNat ≤ b.id.raw.toNat
  structured "CodecRegistry" [("codecs", bracketed (sorted.map fun e =>
    "(" ++ toString e.id.raw.toNat ++ ", " ++ quoted (S.typeName e.kind) ++ ")"))] false

end Registry

end PacketSession
