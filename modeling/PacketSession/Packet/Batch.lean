import PacketSession.Error
import PacketSession.Wire.Scalar

/-!
# Batches of small frames

A batch carries several frames in one: their number (32 bits), then each frame behind its
length (32 bits). Reading is all or nothing. `Batch.pack` distributes a list of frames over
as few batches as the limits allow, in order; a frame that exceeds the limits travels alone.
-/

namespace PacketSession

/-- The limits of one batch. -/
structure BatchLimits where
  /-- The most frames in one batch. -/
  maxFrames : Nat
  /-- The most bytes in the written form of one batch. -/
  maxBytes : Nat
deriving DecidableEq

namespace BatchLimits

/-- The limits unless others are asked for: 256 frames and 60 KiB. -/
def standard : BatchLimits := ⟨256, 60 * 1024⟩

/-- Small batches, which wait for few frames. -/
def lowLatency : BatchLimits := ⟨8, 4096⟩

/-- Large batches, which cost the least for each frame. -/
def highThroughput : BatchLimits := ⟨1024, 1024 * 1024⟩

end BatchLimits

/-- Frames that travel as one. -/
structure Batch where
  /-- The frames, in order. -/
  frames : List Bytes
deriving DecidableEq

namespace Batch

/-- The bytes that the number of frames takes. -/
def headerSize : Nat := 4

/-- The bytes that the length of one frame takes. -/
def entryHeaderSize : Nat := 4

/-- A batch without frames. -/
def empty : Batch := ⟨[]⟩

/-- The number of frames. -/
def count (b : Batch) : Nat := b.frames.length

/-- Whether there is no frame. -/
def isEmpty (b : Batch) : Bool := b.frames.isEmpty

/-- The length of the written form. -/
def encodedSize (b : Batch) : Nat :=
  headerSize + entryHeaderSize * b.count + b.frames.flatten.length

/-- A batch with one more frame, whatever its size. -/
def push (b : Batch) (frame : Bytes) : Batch := ⟨b.frames ++ [frame]⟩

/-- Whether one more frame may join `count` frames that take `size` bytes so far; the first
frame always may. -/
def mayJoin (limits : BatchLimits) (count size length : Nat) : Bool :=
  count = 0 ||
    (count < limits.maxFrames && size + entryHeaderSize + length ≤ limits.maxBytes)

/-- Whether a frame of this length may join a batch. -/
def fits (b : Batch) (length : Nat) (limits : BatchLimits) : Bool :=
  mayJoin limits b.count b.encodedSize length

/-- A batch with one more frame, if it fits. -/
def add? (b : Batch) (frame : Bytes) (limits : BatchLimits) : Option Batch :=
  if b.fits frame.length limits then some (b.push frame) else none

/-! ### Packing -/

/-- A batch being filled: its frames, latest first, how many there are and how many bytes
they take. -/
structure Filling where
  /-- The frames, latest first. -/
  latest : List Bytes
  /-- The number of frames. -/
  count : Nat
  /-- The length of the written form. -/
  size : Nat

namespace Filling

/-- A batch without frames. -/
def empty : Filling := ⟨[], 0, headerSize⟩

/-- A batch with one more frame. -/
def push (f : Filling) (frame : Bytes) : Filling :=
  ⟨frame :: f.latest, f.count + 1, f.size + (entryHeaderSize + frame.length)⟩

/-- The finished batch. -/
def toBatch (f : Filling) : Batch := ⟨f.latest.reverse⟩

end Filling

/-- Distributes frames over batches: each frame joins the batch being filled if it fits, and
opens the next batch otherwise. Finished batches come latest first. -/
def distribute (limits : BatchLimits) :
    (frames : List Bytes) → (filling : Filling) → (finished : List Batch) → List Batch
  | [], filling, finished =>
    (if filling.count = 0 then finished else filling.toBatch :: finished).reverse
  | frame :: frames, filling, finished =>
    if mayJoin limits filling.count filling.size frame.length then
      distribute limits frames (filling.push frame) finished
    else
      distribute limits frames (Filling.empty.push frame) (filling.toBatch :: finished)

/-- Distributes frames over as few batches as the limits allow, in order. -/
def pack (limits : BatchLimits) (frames : List Bytes) : List Batch :=
  distribute limits frames .empty []

/-! ### Written form -/

/-- The fields of a batch. -/
def encode (b : Batch) : Bytes :=
  Bytes.size b.count ++ b.frames.flatMap fun frame => Bytes.size frame.length ++ frame

/-- Reads `count` more frames behind those already read, which come latest first. -/
def decodeFrames : (count : Nat) → (latest : List Bytes) → Decoder (List Bytes)
  | 0, latest => return latest.reverse
  | count + 1, latest => do
    let frame ← Decoder.take (← Decoder.length)
    decodeFrames count (frame :: latest)

/-- Reads the fields of a batch. -/
def decode : Decoder Batch := do
  return ⟨← decodeFrames (← Decoder.length) []⟩

end Batch

end PacketSession
