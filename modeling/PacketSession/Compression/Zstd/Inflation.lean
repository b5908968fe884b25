import PacketSession.Compression.Zstd.Frame
import PacketSession.Compression.Zstd.Receiver

/-!
# Inflating Zstandard streams

The content of a stream is the content of its frames. Blocks of plain bytes and of one byte
repeated are understood; they need no entropy coding.

A frame is decoded in one of two ways. If the stream has all of it, and the receiver has room
for all the content it declares, it is decoded in one piece. Otherwise it is decoded block by
block, through buffers that are made for its window and are kept for later frames if those
need no larger ones. The two ways differ in the limits they check: a block that is too large
for a window does no harm to a frame in one piece.

Inflating ends as soon as the receiver has what it wanted, so a small stream cannot make it
produce more than it was asked for. A fault behind that point may go unnoticed; one that is
met while the last wanted bytes are still being gathered does not.
-/

namespace PacketSession

namespace Zstd

/-! ### Frames in one piece -/

/-- The bytes that a block produces, if there is room for them. -/
def Block.expand (room : Nat) (block : Block) : Except Fault Bytes :=
  match block.kind, block.stored with
  | .plain, stored => if room < block.size then .error .roomExceeded else .ok stored
  | .repeated, byte :: _ =>
    if room < block.size then .error .roomExceeded else .ok (List.replicate block.size byte)
  | _, _ => .error .corrupt

/-- The content of blocks, if it fits into the room and has the declared size. -/
def expandBlocks (room declared : Nat) (blocks : List Block) : Except Fault Bytes :=
  let expandNext (pieces : List Bytes × Nat) (block : Block) : Except Fault (List Bytes × Nat) :=
    (block.expand pieces.2).map fun piece => (piece :: pieces.1, pieces.2 - piece.length)
  match blocks.foldlM expandNext ([], room) with
  | .error fault => .error fault
  | .ok (latest, left) =>
    if room - left = declared then .ok latest.reverse.flatten else .error .corrupt

/-! ### Buffers -/

/-- The sizes of the buffers for the stored bytes of a block and for content. -/
structure Buffers where
  /-- The room for stored bytes. -/
  stored : Nat := 0
  /-- The room for content. -/
  content : Nat := 0
deriving DecidableEq

/-- The smallest window that buffers are made for. -/
def minWindow : Nat := 1024

/-- The largest window that buffers are made for. -/
def maxWindow : Nat := 0x8000001

/-- The bytes kept free behind the content. -/
def contentMargin : Nat := 64

/-- The buffers that a frame needs: a window and two blocks of content, or all the content if
that is less. -/
def Header.buffers (header : Header) : Buffers :=
  let ring := max header.window minWindow + 2 * header.maxBlock + contentMargin
  ⟨max header.maxBlock Frame.checksumSize, header.contentSize.elim ring (min · ring)⟩

/-- The buffers at hand if they are large enough for a frame, and new ones otherwise. -/
def Buffers.fitting (buffers : Buffers) (header : Header) : Buffers :=
  let needed := header.buffers
  if buffers.stored < needed.stored ∨ buffers.content < needed.content then needed
  else buffers

/-! ### Frames block by block -/

/-- A stream on its way to its receiver. -/
structure Inflation where
  /-- The receiver. -/
  receiver : Receiver
  /-- The pieces of content so far, latest first. -/
  latest : List Bytes := []
  /-- The buffers at hand. -/
  buffers : Buffers := {}

/-- Why inflating ends before the stream does. -/
inductive Stop
  /-- The stream has a fault. -/
  | fault (fault : Fault)
  /-- The receiver has all it wanted; these are the pieces of content, latest first. -/
  | satisfied (latest : List Bytes)

namespace Inflation

/-- Goes on with the receiver, if it wants more. -/
def continueWith (s : Inflation) (receiver : Option Receiver) : Except Stop Inflation :=
  match receiver with
  | none => .error (.satisfied s.latest)
  | some receiver => .ok { s with receiver }

/-- Hands a piece of content to the receiver. -/
def deliver (s : Inflation) (piece : Bytes) : Except Stop Inflation :=
  { s with latest := piece :: s.latest }.continueWith (s.receiver.take piece.length)

/-- The stream ends inside a frame, which is a fault if the receiver wants more. -/
def starve {α : Type} (s : Inflation) : Except Stop α :=
  .error (if s.receiver.isSatisfied then .satisfied s.latest else .fault .incompleteFrame)

/-- Ends a frame, of which the stream may not have all. -/
def endFrame (s : Inflation) (isWhole : Bool) : Except Stop Inflation :=
  if isWhole then s.continueWith s.receiver.pause else s.starve

/-- How far the content of a frame has come. -/
structure Progress where
  /-- Where the next piece goes in the buffer. -/
  start : Nat := 0
  /-- The number of bytes so far. -/
  total : Nat := 0

/-- The room behind the last piece. -/
def roomAt (s : Inflation) (progress : Progress) : Nat := s.buffers.content - progress.start

/-- Moves on past a piece. The buffer starts again where it has no room for a whole block,
unless it has room for all the content. -/
def advance (s : Inflation) (header : Header) (progress : Progress) (count : Nat) : Progress :=
  let start := progress.start + count
  let isRing := header.contentSize.all (s.buffers.content < ·)
  let isAtEnd := s.buffers.content < start + header.maxBlock
  ⟨if isRing && isAtEnd then 0 else start, progress.total + count⟩

/-- Adds what a block has produced. The last block settles whether the content has its
declared size. -/
def addPiece (s : Inflation) (header : Header) (progress : Progress) (block : Block)
    (piece : Bytes) : Except Stop (Inflation × Progress) :=
  let progress := s.advance header progress piece.length
  if block.isLast ∧ block.isWhole ∧ header.contentSize.any (· ≠ progress.total) then
    .error (.fault .corrupt)
  else
    match s.deliver piece with
    | .error stop => .error stop
    | .ok s => if block.isWhole then .ok (s, progress) else s.starve

/-- Adds one block. A block that stores nothing is passed over; a plain one that the stream
does not have all of produces what there is. -/
def addBlock (header : Header) (state : Inflation × Progress) (block : Block) :
    Except Stop (Inflation × Progress) :=
  let (s, progress) := state
  if block.kind = .reserved ∨ header.maxBlock < block.storedSize then .error (.fault .corrupt)
  else if block.storedSize = 0 then .ok state
  else
    match block.kind, block.stored with
    | _, [] => s.starve
    | .plain, stored =>
      if s.roomAt progress < stored.length then .error (.fault .roomExceeded)
      else s.addPiece header progress block stored
    | .repeated, byte :: _ =>
      if s.roomAt progress < block.size then .error (.fault .roomExceeded)
      else if header.maxBlock < block.size then .error (.fault .corrupt)
      else s.addPiece header progress block (List.replicate block.size byte)
    | _, _ => if block.isWhole then .error (.fault .corrupt) else s.starve

/-- Adds the content of a frame block by block. -/
def addBlocks (s : Inflation) (header : Header) (blocks : List Block) :
    Except Stop Inflation :=
  if maxWindow < header.window then .error (.fault .windowTooLarge)
  else
    (blocks.foldlM (addBlock header)
      ({ s with buffers := s.buffers.fitting header }, {})).map (·.1)

/-- The declared size of a frame that is decoded in one piece. -/
def onePieceSize? (s : Inflation) (header : Header) (blocks : List Block) (isWhole : Bool) :
    Option Nat :=
  header.contentSize.filter fun size =>
    size ≤ s.receiver.room && isWhole && blocks.all (·.kind ≠ .reserved)

/-- Adds one frame. -/
def addFrame (s : Inflation) (frame : Except Fault Frame) : Except Stop Inflation :=
  match frame with
  | .error fault => .error (.fault fault)
  | .ok ⟨header, .skipped isWhole⟩ =>
    { s with buffers := s.buffers.fitting header }.endFrame isWhole
  | .ok ⟨header, .content blocks isWhole⟩ =>
    match s.onePieceSize? header blocks isWhole with
    | none => do (← s.addBlocks header blocks).endFrame isWhole
    | some size =>
      match expandBlocks s.receiver.room size blocks with
      | .error fault => .error (.fault fault)
      | .ok content => do (← s.deliver content).endFrame true

end Inflation

/-- The first `limit` bytes of the content of a stream, or all of it if it is shorter. -/
def inflate (limit : Nat) (stream : Bytes) : Except Fault Bytes :=
  match (frames stream).foldlM Inflation.addFrame ⟨{ wanted := limit }, [], {}⟩ with
  | .ok s => .ok (content s.latest)
  | .error (.satisfied latest) => .ok (content latest)
  | .error (.fault fault) => .error fault
where
  /-- The wanted part of the content. -/
  content (latest : List Bytes) : Bytes := latest.reverse.flatten.take limit

end Zstd

end PacketSession
