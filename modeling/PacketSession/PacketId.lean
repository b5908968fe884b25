import PacketSession.Text.Hex

/-!
# Packet identifiers

A packet is identified on the wire by a 32-bit number. The numbers from `reservedStart` on
belong to the protocol itself; three of them are in use, for the packets that sessions
exchange on their own account.
-/

namespace PacketSession

/-- The number that identifies a kind of packet on the wire. -/
structure PacketId where
  /-- The number itself. -/
  raw : UInt32
deriving DecidableEq

namespace PacketId

/-- The first number of the reserved range. -/
def reservedStart : UInt32 := 0xFFFFFF00

/-- Announces why a session closes. -/
def disconnect : PacketId := ⟨0xFFFFFFFD⟩

/-- Carries one chunk of a payload that does not fit a frame. -/
def fragment : PacketId := ⟨0xFFFFFFFE⟩

/-- Carries several small frames. -/
def batch : PacketId := ⟨0xFFFFFFFF⟩

/-- Whether an identifier is out of reach for applications. -/
def isReserved (id : PacketId) : Bool := reservedStart ≤ id.raw

/-- The text of an identifier in messages. -/
def text (id : PacketId) : String := "0x" ++ hex 8 id.raw.toNat

/-- The text of an identifier where structures are shown. -/
def shown (id : PacketId) : String := "PacketId(" ++ toString id.raw.toNat ++ ")"

/-- Identifiers are ordered by number. -/
def order (a b : PacketId) : Ordering := compare a.raw.toNat b.raw.toNat

end PacketId

end PacketSession
