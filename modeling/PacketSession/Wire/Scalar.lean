import PacketSession.Wire.Varint

/-!
# Written forms of scalars, byte strings and texts

Each kind of value has an encoder, named for the kind in the namespace `Bytes`, and a
decoder of the same name in the namespace `Decoder`. Fixed-width words are big-endian and
signed words are written as their bit patterns; floats are handled as bit patterns
throughout. Byte strings and texts are preceded by their length as a varint.
-/

namespace PacketSession

namespace Bytes

/-- One byte. -/
def u8 (n : UInt8) : Bytes := [n]

/-- A truth value: one byte, zero or one. -/
def bool (b : Bool) : Bytes := [if b then 1 else 0]

/-- A 16-bit word. -/
def u16 (n : UInt16) : Bytes := bigEndian 2 n.toNat

/-- A 32-bit word. -/
def u32 (n : UInt32) : Bytes := bigEndian 4 n.toNat

/-- A signed 32-bit word. -/
def i32 (n : Int32) : Bytes := u32 n.toUInt32

/-- A 64-bit word. -/
def u64 (n : UInt64) : Bytes := bigEndian 8 n.toNat

/-- A signed 64-bit word. -/
def i64 (n : Int64) : Bytes := u64 n.toUInt64

/-- A count or size as a 32-bit word; sizes of 2³² and more wrap. -/
def size (n : Nat) : Bytes := bigEndian 4 n

/-- A byte string behind its length. -/
def counted (bytes : Bytes) : Bytes :=
  Varint.encode (UInt32.ofNat bytes.length) ++ bytes

/-- A text behind the length of its UTF-8 form. -/
def text (s : String) : Bytes := counted (ofText s)

end Bytes

namespace Decoder

/-- A 16-bit word. -/
def u16 : Decoder UInt16 := return UInt16.ofNat (← word 2)

/-- A 32-bit word. -/
def u32 : Decoder UInt32 := return UInt32.ofNat (← word 4)

/-- A signed 32-bit word. -/
def i32 : Decoder Int32 := return (← u32).toInt32

/-- A 64-bit word. -/
def u64 : Decoder UInt64 := return UInt64.ofNat (← word 8)

/-- A signed 64-bit word. -/
def i64 : Decoder Int64 := return (← u64).toInt64

/-- A byte string behind its length. -/
def counted : Decoder Bytes := do
  take (← Varint.decode).toNat

/-- A text behind the length of its UTF-8 form; ill-formed bytes are consumed and refused. -/
def text : Decoder String := do
  match Bytes.toText? (← counted) with
  | some s => return s
  | none => throw .invalidUtf8

end Decoder

end PacketSession
