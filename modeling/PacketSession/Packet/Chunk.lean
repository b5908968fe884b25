import PacketSession.Error
import PacketSession.Wire.Scalar

/-!
# Chunks of a large payload

A payload that does not fit a frame travels as chunks. Each chunk says where its data
belongs, and the first one also how long the payload is:

* one byte, 1 for the first chunk and 0 for the others;
* the length of the payload (32 bits), on the first chunk only;
* the offset of the data (32 bits);
* the length of the data (32 bits) and the data itself.

The three numbers are written as unsigned words and read as lengths, so a number above
2³¹ - 1 is refused by the reader instead of being misread.

`Fragmenter.split` cuts a payload into chunks of one size, the last one possibly shorter.
-/

namespace PacketSession

/-- One chunk of a payload. -/
structure Chunk where
  /-- The length of the whole payload, on its first chunk. -/
  total : Option UInt32
  /-- Where the data belongs in the payload. -/
  offset : UInt32
  /-- The bytes of this chunk. -/
  data : Bytes
deriving DecidableEq

namespace Chunk

/-- Whether a payload starts with this chunk. -/
def isFirst (c : Chunk) : Bool := c.total.isSome

/-- The bytes in front of the data of a first chunk. -/
def firstHeaderSize : Nat := 1 + 4 + 4 + 4

/-- The bytes in front of the data of any other chunk. -/
def headerSize : Nat := 1 + 4 + 4

/-- The fields of a chunk. -/
def encode (c : Chunk) : Bytes :=
  Bytes.bool c.isFirst ++ ((c.total.map Bytes.u32).getD [] ++
    (Bytes.u32 c.offset ++ (Bytes.size c.data.length ++ c.data)))

/-- Reads the fields of a chunk. -/
def decode : Decoder Chunk := do
  let total ← if ← Decoder.bool then some <$> Decoder.length else pure none
  let offset ← Decoder.length
  let data ← Decoder.take (← Decoder.length)
  return ⟨total.map UInt32.ofNat, UInt32.ofNat offset, data⟩

end Chunk

/-- Cuts payloads into chunks of one size. -/
structure Fragmenter where
  /-- The bytes in a full chunk. -/
  chunkSize : Nat
  /-- A chunk carries at least one byte. -/
  chunkSize_pos : 0 < chunkSize
deriving DecidableEq

namespace Fragmenter

/-- The longest payload that the fields of a chunk can describe. -/
def maxPayload : Nat := 0x7FFFFFFF

/-- The fragmenter for a wanted chunk size, brought into the range from one byte to the
longest payload. -/
def ofSize (wanted : Nat) : Fragmenter where
  chunkSize := max 1 (min wanted maxPayload)
  chunkSize_pos := by omega

/-- Whether a payload of this length takes more than one chunk. -/
def needsSplitting (f : Fragmenter) (length : Nat) : Bool := f.chunkSize < length

/-- The number of chunks that a payload of this length takes. -/
def chunkCount (f : Fragmenter) (length : Nat) : Nat :=
  (length + f.chunkSize - 1) / f.chunkSize

/-- The first `count` pieces of `size` bytes, behind those already cut off, which come
latest first. -/
def cut (size : Nat) : (count : Nat) → (rest : Bytes) → (done : List Bytes) → List Bytes
  | 0, _, done => done.reverse
  | count + 1, rest, done =>
    let (piece, rest) := rest.splitAt size
    cut size count rest (piece :: done)

/-- The chunk that carries piece number `index` of a payload. -/
def chunk (f : Fragmenter) (total : Nat) (piece : Bytes) (index : Nat) : Chunk where
  total := if index = 0 then some (UInt32.ofNat total) else none
  offset := UInt32.ofNat (index * f.chunkSize)
  data := piece

/-- Cuts a payload into chunks, in order. -/
def split (f : Fragmenter) (payload : Bytes) : Except ProtocolError (List Chunk) :=
  if maxPayload < payload.length then
    .error (.payloadTooLarge payload.length maxPayload)
  else
    let pieces := cut f.chunkSize (f.chunkCount payload.length) payload []
    .ok (pieces.zipIdx.map fun (piece, index) => f.chunk payload.length piece index)

end Fragmenter

end PacketSession
