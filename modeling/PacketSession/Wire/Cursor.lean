import PacketSession.Wire.Bytes
import PacketSession.Text.Hex

/-!
# Reading bytes in order

A `Cursor` is a place in a byte string: how many bytes were consumed and which ones are
left. A `Decoder` consumes bytes from the front and may be refused; it leaves the cursor
where it stopped also when it fails, so that reading can go on from there. Only `take`
moves the cursor, and it moves it either by exactly the number of bytes asked for or not at
all.
-/

namespace PacketSession

/-- Why bytes could not be read as the value they should hold. -/
inductive DecodeError
  /-- The data ended this many bytes too early. -/
  | unexpectedEnd (missing : Nat)
  /-- A varint of more than five bytes, or of more than 32 bits. -/
  | varintTooLong
  /-- A truth value other than zero and one. -/
  | invalidBool (byte : UInt8)
  /-- The bytes of a text are not well-formed UTF-8. -/
  | invalidUtf8
  /-- A length or count below zero. -/
  | negativeLength (length : Int32)
  /-- This many bytes follow the last field of a packet. -/
  | trailingBytes (count : Nat)
  /-- A well-formed value that its packet does not allow. -/
  | invalid (what : String)
deriving DecidableEq

/-- The wording of a decoding error. -/
def DecodeError.message : DecodeError → String
  | unexpectedEnd missing => "unexpected end of data: needed " ++ toString missing ++ " more bytes"
  | varintTooLong => "varint too long"
  | invalidBool byte => "invalid bool byte: 0x" ++ hex 2 byte.toNat
  | invalidUtf8 => "invalid UTF-8 string"
  | negativeLength length => "negative length: " ++ toString length.toInt
  | trailingBytes count => toString count ++ " trailing bytes after packet"
  | invalid what => "invalid value: " ++ what

/-- A place in a byte string. -/
structure Cursor where
  /-- How many bytes were consumed. -/
  position : Nat
  /-- The bytes still to be read. -/
  rest : Bytes
deriving DecidableEq

namespace Cursor

/-- The place before the first byte. -/
def start (data : Bytes) : Cursor := ⟨0, data⟩

/-- The place behind the first ones of some bytes, with the others still to be read. -/
def behind (front rest : Bytes) : Cursor := ⟨front.length, rest⟩

/-- How many bytes are still to be read. -/
def remaining (c : Cursor) : Nat := c.rest.length

/-- Whether everything was consumed. -/
def atEnd (c : Cursor) : Bool := c.rest.isEmpty

end Cursor

/-- A reader of values from the front of a byte string; a failing reader keeps its place. -/
abbrev Decoder := ExceptT DecodeError (StateM Cursor)

namespace Decoder

/-- Runs a reader from a place, giving its answer and the place it stopped at. -/
def runAt {α : Type} (d : Decoder α) (c : Cursor) : Except DecodeError α × Cursor :=
  d.run.run c

/-- Reads a value from a place on, giving what is left behind it. -/
def readFrom {α : Type} (d : Decoder α) (c : Cursor) : Except DecodeError (α × Bytes) :=
  match d.runAt c with
  | (.ok value, c) => .ok (value, c.rest)
  | (.error e, _) => .error e

/-- Reads a value from the front of `data`, giving what is left. -/
def read {α : Type} (d : Decoder α) (data : Bytes) : Except DecodeError (α × Bytes) :=
  d.readFrom (.start data)

/-- Consumes exactly `count` bytes, or none if there are fewer. -/
def take (count : Nat) : Decoder Bytes := ExceptT.mk fun c =>
  let (front, back) := c.rest.splitAt count
  if front.length < count then
    (.error (.unexpectedEnd (count - front.length)), c)
  else
    (.ok front, ⟨c.position + count, back⟩)

/-- Consumes everything left. -/
def takeRest : Decoder Bytes := ExceptT.mk fun c =>
  (.ok c.rest, ⟨c.position + c.rest.length, []⟩)

/-- Refuses leftover bytes. -/
def finish : Decoder Unit := ExceptT.mk fun c =>
  match c.rest.length with
  | 0 => (.ok (), c)
  | count => (.error (.trailingBytes count), c)

/-- One byte. -/
def byte : Decoder UInt8 := do
  return UInt8.ofNat (← take 1).value

/-- An unsigned big-endian word of `width` bytes. -/
def word (width : Nat) : Decoder Nat := do
  return (← take width).value

/-- A truth value: one byte, zero or one. -/
def bool : Decoder Bool := do
  match ← byte with
  | 0 => return false
  | 1 => return true
  | other => throw (.invalidBool other)

/-- A length or count: a signed big-endian word that must not be negative. -/
def length : Decoder Nat := do
  let raw := (UInt32.ofNat (← word 4)).toInt32
  if raw < 0 then throw (.negativeLength raw)
  return raw.toInt.toNat

/-! ### What taking does -/

theorem runAt_take_of_le {count : Nat} {c : Cursor} (h : count ≤ c.rest.length) :
    (take count).runAt c
      = (.ok (c.rest.take count), ⟨c.position + count, c.rest.drop count⟩) := by
  simp [runAt, take, ExceptT.run, ExceptT.mk, StateT.run, List.splitAt_eq, h]

theorem runAt_take_of_lt {count : Nat} {c : Cursor} (h : c.rest.length < count) :
    (take count).runAt c = (.error (.unexpectedEnd (count - c.rest.length)), c) := by
  have : min count c.rest.length = c.rest.length := by omega
  simp [runAt, take, ExceptT.run, ExceptT.mk, StateT.run, List.splitAt_eq, this, h]

end Decoder

end PacketSession
