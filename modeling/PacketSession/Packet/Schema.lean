import PacketSession.Packet.Batch
import PacketSession.Packet.Chunk
import PacketSession.Packet.Disconnect

/-!
# Packets

A `Schema` names what an application exchanges: its own kinds of packet with the values of
each kind, the names that messages use for all kinds, and the state that it may attach to a
session. A `Packet` is a value together with its kind, so that a packet can be handled
without knowing its kind in advance; besides the kinds of the application there are the three
that sessions exchange on their own account.
-/

namespace PacketSession

/-- A kind of packet: one of the application's or one of the protocol's own. -/
inductive PacketKind (κ : Type)
  | application (kind : κ)
  | disconnect
  | chunk
  | batch
deriving DecidableEq

/-- What an application exchanges. -/
structure Schema where
  /-- The kinds of packet of the application. -/
  Kind : Type
  /-- Kinds can be told apart. -/
  decEq : DecidableEq Kind
  /-- The values of each kind. -/
  Value : Kind → Type
  /-- The name of each kind in messages. -/
  typeName : PacketKind Kind → String
  /-- The state that the application may attach to a session. -/
  Attachment : Type

attribute [instance] Schema.decEq

/-- The values of each kind of packet. -/
def Schema.Content (S : Schema) : PacketKind S.Kind → Type
  | .application kind => S.Value kind
  | .disconnect => Disconnect
  | .chunk => Chunk
  | .batch => Batch

/-- A value with its kind. -/
structure Packet (S : Schema) where
  /-- The kind of packet. -/
  kind : PacketKind S.Kind
  /-- The value. -/
  content : S.Content kind

namespace Packet

variable {S : Schema}

/-- An announcement of a close. -/
def ofDisconnect (d : Disconnect) : Packet S := ⟨.disconnect, d⟩

/-- A chunk of a large payload. -/
def ofChunk (c : Chunk) : Packet S := ⟨.chunk, c⟩

/-- A batch of small frames. -/
def ofBatch (b : Batch) : Packet S := ⟨.batch, b⟩

/-- The name of the kind of a packet. -/
def typeName (p : Packet S) : String := S.typeName p.kind

/-- The announcement in a packet. -/
def disconnect? : Packet S → Option Disconnect
  | ⟨.disconnect, d⟩ => some d
  | _ => none

/-- The chunk in a packet. -/
def chunk? : Packet S → Option Chunk
  | ⟨.chunk, c⟩ => some c
  | _ => none

/-- The batch in a packet. -/
def batch? : Packet S → Option Batch
  | ⟨.batch, b⟩ => some b
  | _ => none

end Packet

/-- What travels through the listeners of a session: an encoded frame or a packet. -/
inductive Message (S : Schema)
  /-- The encoded frame of one packet. -/
  | bytes (frame : Bytes)
  /-- A packet, decoded already or not encoded yet. -/
  | packet (packet : Packet S)

namespace Message

variable {S : Schema}

/-- Whether a message is a packet. -/
def isPacket : Message S → Bool
  | bytes _ => false
  | packet _ => true

end Message

end PacketSession
