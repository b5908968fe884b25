import PacketSession.Wire.Scalar

/-!
# Typed fields

A packet body is a sequence of fields. `Field` is a value together with the way it is
written, `FieldKind` the way it is read; writing a field and reading its kind are the two
sides of one format. Raw bytes carry no length, so their kind names it.
-/

namespace PacketSession

/-- How a field is read. -/
inductive FieldKind
  | u8 | bool | u16 | i32 | u32 | i64 | u64
  /-- The bit pattern of a 32-bit float. -/
  | f32
  /-- The bit pattern of a 64-bit float. -/
  | f64
  | varint
  /-- This many bytes, without a length in front. -/
  | raw (count : Nat)
  | bytes | text
deriving DecidableEq

/-- A value and the way it is written. -/
inductive Field
  | u8 (value : UInt8)
  | bool (value : Bool)
  | u16 (value : UInt16)
  | i32 (value : Int32)
  | u32 (value : UInt32)
  | i64 (value : Int64)
  | u64 (value : UInt64)
  | f32 (bits : UInt32)
  | f64 (bits : UInt64)
  | varint (value : UInt32)
  | raw (value : Bytes)
  | bytes (value : Bytes)
  | text (value : String)
deriving DecidableEq

namespace Field

/-- The kind that reads a field back. -/
def kind : Field → FieldKind
  | u8 _ => .u8
  | bool _ => .bool
  | u16 _ => .u16
  | i32 _ => .i32
  | u32 _ => .u32
  | i64 _ => .i64
  | u64 _ => .u64
  | f32 _ => .f32
  | f64 _ => .f64
  | varint _ => .varint
  | raw value => .raw value.length
  | bytes _ => .bytes
  | text _ => .text

/-- The written form of a field. -/
def encode : Field → Bytes
  | u8 value => Bytes.u8 value
  | bool value => Bytes.bool value
  | u16 value => Bytes.u16 value
  | i32 value => Bytes.i32 value
  | u32 value => Bytes.u32 value
  | i64 value => Bytes.i64 value
  | u64 value => Bytes.u64 value
  | f32 bits => Bytes.u32 bits
  | f64 bits => Bytes.u64 bits
  | varint value => Varint.encode value
  | raw value => value
  | bytes value => Bytes.counted value
  | text value => Bytes.text value

/-- The number of bytes of the written form. -/
def width : Field → Nat
  | u8 _ | bool _ => 1
  | u16 _ => 2
  | i32 _ | u32 _ | f32 _ => 4
  | i64 _ | u64 _ | f64 _ => 8
  | varint value => Varint.size value
  | raw value => value.length
  | bytes value => Varint.size (UInt32.ofNat value.length) + value.length
  | text value =>
    Varint.size (UInt32.ofNat (Bytes.ofText value).length) + (Bytes.ofText value).length

end Field

/-- Reads a field of this kind. -/
def FieldKind.decode : FieldKind → Decoder Field
  | u8 => return .u8 (← Decoder.byte)
  | bool => return .bool (← Decoder.bool)
  | u16 => return .u16 (← Decoder.u16)
  | i32 => return .i32 (← Decoder.i32)
  | u32 => return .u32 (← Decoder.u32)
  | i64 => return .i64 (← Decoder.i64)
  | u64 => return .u64 (← Decoder.u64)
  | f32 => return .f32 (← Decoder.u32)
  | f64 => return .f64 (← Decoder.u64)
  | varint => return .varint (← Varint.decode)
  | raw count => return .raw (← Decoder.take count)
  | bytes => return .bytes (← Decoder.counted)
  | text => return .text (← Decoder.text)

/-- One call on a reader: a field, a length that must not be negative, everything left, or
the demand that nothing is left. -/
inductive ReaderCall
  | field (kind : FieldKind)
  | length
  | rest
  | finish
deriving DecidableEq

/-- What a call on a reader yields. -/
inductive ReaderAnswer
  | field (value : Field)
  | length (count : Nat)
  | rest (bytes : Bytes)
  | finished
deriving DecidableEq

/-- Performs one call on a reader. -/
def ReaderCall.perform : ReaderCall → Decoder ReaderAnswer
  | field kind => return .field (← kind.decode)
  | length => return .length (← Decoder.length)
  | rest => return .rest (← Decoder.takeRest)
  | finish => do
    Decoder.finish
    return .finished

end PacketSession
