import PacketSession.Wire.Bytes

/-!
# Zstandard frames

A Zstandard stream is a sequence of frames. Each starts with a four-byte magic number. One of
them, with any value in the low half of its first byte, marks a frame to skip: a size and
that many bytes that are no content. The other one is followed by a descriptor, by the
optional fields that the descriptor announces, and by blocks, up to one marked as the last.
A block has a three-byte header with the last-block mark, its kind and a size. All numbers are
written least significant byte first.

`frames` cuts a stream into its frames. It looks at no more than the cutting needs: a frame
that the stream ends inside of is kept as far as it goes, and so is one whose blocks make no
sense. What a frame stands for is a matter of inflating it.
-/

namespace PacketSession

namespace Zstd

/-- A number whose base-256 digits are `bytes`, least significant first. -/
def littleEndian (bytes : Bytes) : Nat := Bytes.value bytes.reverse

/-- Why a stream cannot be inflated. -/
inductive Fault
  /-- A frame starts with other bytes than a magic number. -/
  | unknownFrame
  /-- The stream ends inside a frame. -/
  | incompleteFrame
  /-- A reserved bit of a descriptor is set. -/
  | unsupported
  /-- The window of a frame is too large. -/
  | windowTooLarge
  /-- The content of a frame refers to a dictionary. -/
  | dictionaryMissing
  /-- A block produces more bytes than there is room for. -/
  | roomExceeded
  /-- A block is not what its frame allows, or the content has not the size it should have. -/
  | corrupt
deriving DecidableEq

/-- The wording of a fault. -/
def Fault.message : Fault → String
  | unknownFrame => "Unknown frame descriptor"
  | incompleteFrame => "incomplete frame"
  | unsupported => "Unsupported frame parameter"
  | windowTooLarge => "Frame requires too much memory for decoding"
  | dictionaryMissing => "Dictionary mismatch"
  | roomExceeded => "Destination buffer is too small"
  | corrupt => "Data corruption detected"

/-! ### Headers -/

/-- The four bytes in front of a frame with content. -/
def magic : Bytes := [0x28, 0xB5, 0x2F, 0xFD]

/-- Whether a frame to skip can start with these bytes, at most four. -/
def opensSkipped : Bytes → Bool
  | [] => true
  | byte :: mark => byte.toNat / 16 = 5 && mark.isPrefixOf [0x2A, 0x4D, 0x18]

/-- The most bytes that a block may produce in any frame. -/
def maxBlock : Nat := 128 * 1024

/-- What the header of a frame says. -/
structure Header where
  /-- How far back the content may refer to itself. -/
  window : Nat
  /-- The size of the content, if it is declared. -/
  contentSize : Option Nat
  /-- Whether a checksum follows the blocks; it is skipped, not checked. -/
  isChecked : Bool
deriving DecidableEq

/-- The most bytes that one block of a frame may store or produce. -/
def Header.maxBlock (header : Header) : Nat := min header.window Zstd.maxBlock

/-- Whether the content is in one segment: the window is then as large as the content. -/
def isOneSegment (descriptor : Nat) : Bool := descriptor / 32 % 2 = 1

/-- The sizes of the optional fields behind a descriptor: the window unless the content is in
one segment, the identifier of a dictionary, and the size of the content. -/
def fieldSizes (descriptor : Nat) : Nat × Nat × Nat :=
  let dictionary := match descriptor % 4 with
    | 0 => 0
    | 1 => 1
    | 2 => 2
    | _ => 4
  let content := match descriptor / 64 with
    | 0 => if isOneSegment descriptor then 1 else 0
    | 1 => 2
    | 2 => 4
    | _ => 8
  (if isOneSegment descriptor then 0 else 1, dictionary, content)

/-- The declared content size that stands for an unknown one. -/
def unknownSize : Nat := 0xFFFFFFFFFFFFFFFF

/-- The declared size of the content. Two bytes count from 256, because one byte would do for
less. -/
def declaredSize (content : Bytes) : Nat :=
  match content.length with
  | 0 => unknownSize
  | 2 => littleEndian content + 256
  | _ => littleEndian content

/-- The window that a byte stands for: a power of two and some eighths of it. -/
def windowOf (byte : Nat) : Nat :=
  let base := 1 <<< (byte / 8 + 10)
  base + base / 8 * (byte % 8)

/-- The largest power of two that a window byte may name. -/
def maxWindowExponent : Nat := 31

/-- The header with these fields behind its descriptor. -/
def Header.ofFields (descriptor : Nat) (window dictionary content : Bytes) :
    Except Fault Header :=
  let size := declaredSize content
  let header (window : Nat) : Header :=
    ⟨window, if size = unknownSize then none else some size, descriptor / 4 % 2 = 1⟩
  if descriptor / 8 % 2 = 1 then .error .unsupported
  else if maxWindowExponent < littleEndian window / 8 + 10 then .error .windowTooLarge
  else if littleEndian dictionary ≠ 0 then .error .dictionaryMissing
  else if isOneSegment descriptor then .ok (header size)
  else .ok (header (windowOf (littleEndian window)))

/-- Reads the fields behind a descriptor; gives the header and the rest. -/
def Header.read (descriptor : Nat) (input : Bytes) : Except Fault (Header × Bytes) :=
  let (window, dictionary, content) := fieldSizes descriptor
  let size := window + dictionary + content
  let fields := input.take size
  if fields.length < size then .error .incompleteFrame
  else
    match Header.ofFields descriptor (fields.take window)
        ((fields.drop window).take dictionary) (fields.drop (window + dictionary)) with
    | .error fault => .error fault
    | .ok header => .ok (header, input.drop size)

/-! ### Blocks -/

/-- What a block does with the bytes it stores. -/
inductive BlockKind
  /-- It produces them. -/
  | plain
  /-- It produces the one byte it stores again and again. -/
  | repeated
  /-- It produces what they are the entropy code of; such blocks are not read here. -/
  | compressed
  /-- No such block is defined. -/
  | reserved
deriving DecidableEq

/-- The number of bytes that a block with this size in its header stores. -/
def BlockKind.storedSize : BlockKind → Nat → Nat
  | plain, size => size
  | repeated, _ => 1
  | compressed, size => size
  | reserved, _ => 0

/-- A block as it stands in the stream. -/
structure Block where
  /-- Whether it is marked as the last one of its frame. -/
  isLast : Bool
  /-- Its kind. -/
  kind : BlockKind
  /-- The size in its header. -/
  size : Nat
  /-- The bytes it stores, as far as the stream has them. -/
  stored : Bytes
deriving DecidableEq

namespace Block

/-- The number of bytes that the block should store. -/
def storedSize (block : Block) : Nat := block.kind.storedSize block.size

/-- Whether the stream has all the bytes that the block should store. -/
def isWhole (block : Block) : Bool := block.stored.length = block.storedSize

/-- The first block and the rest of a stream; there is none in less than three bytes. -/
def ofBytes? : Bytes → Option (Block × Bytes)
  | a :: b :: c :: input =>
    let header := littleEndian [a, b, c]
    let size := header / 8
    let kind : BlockKind := match header / 2 % 4 with
      | 0 => .plain
      | 1 => .repeated
      | 2 => .compressed
      | _ => .reserved
    let storedSize := kind.storedSize size
    some (⟨header % 2 = 1, kind, size, input.take storedSize⟩, input.drop storedSize)
  | _ => none

theorem length_lt_of_ofBytes? {input rest : Bytes} {block : Block}
    (h : ofBytes? input = some (block, rest)) : rest.length < input.length := by
  match input with
  | [] | [_] | [_, _] => simp [ofBytes?] at h
  | a :: b :: c :: input =>
    simp only [ofBytes?, Option.some.injEq, Prod.mk.injEq] at h
    simp only [← h.2, List.length_drop, List.length_cons]
    omega

end Block

/-- The blocks up to one marked as the last, or up to the end of the stream, and the rest. -/
def blocks (input : Bytes) : List Block × Bytes :=
  match h : Block.ofBytes? input with
  | none => ([], input)
  | some (block, rest) =>
    have := Block.length_lt_of_ofBytes? h
    if block.isLast then ([block], rest)
    else
      let (more, rest) := blocks rest
      (block :: more, rest)
termination_by input.length

theorem length_blocks_le (input : Bytes) : (blocks input).2.length ≤ input.length := by
  induction input using blocks.induct with
  | case1 input h => rw [blocks]; split <;> simp_all
  | case2 input block rest h shorter isLast =>
    rw [blocks]
    split
    · simp
    · simp_all; omega
  | case3 input block rest h shorter notLast more =>
    rw [blocks]
    split
    · simp
    · simp_all; omega

/-! ### Frames -/

/-- What follows the header of a frame. `isWhole` tells whether the stream has all of it. -/
inductive Body
  /-- Bytes to skip. -/
  | skipped (isWhole : Bool)
  /-- Content. -/
  | content (blocks : List Block) (isWhole : Bool)
deriving DecidableEq

/-- One frame of a stream. A frame to skip has no window, and declares the size of what is
skipped. -/
structure Frame where
  /-- Its header. -/
  header : Header
  /-- What follows the header. -/
  body : Body
deriving DecidableEq

namespace Frame

/-- The number of bytes in a checksum. -/
def checksumSize : Nat := 4

/-- Reads what follows the descriptor of a frame with content. -/
def ofDescriptor (descriptor : Nat) (input : Bytes) : Except Fault (Frame × Bytes) :=
  match Header.read descriptor input with
  | .error fault => .error fault
  | .ok (header, input) =>
    let (blocks, input) := blocks input
    let size := if header.isChecked then checksumSize else 0
    let isWhole := match blocks.getLast? with
      | none => false
      | some block => block.isLast && block.isWhole && (input.take size).length = size
    .ok (⟨header, .content blocks isWhole⟩, input.drop size)

/-- Reads what follows the magic number of a frame to skip. -/
def ofSkipped (input : Bytes) : Except Fault (Frame × Bytes) :=
  if (input.take 4).length < 4 then .error .incompleteFrame
  else
    let size := littleEndian (input.take 4)
    let input := input.drop 4
    let isWhole := (input.take size).length = size
    .ok (⟨⟨0, some size, false⟩, .skipped isWhole⟩, input.drop size)

/-- Reads the first frame of a stream; gives the frame and the rest. -/
def ofBytes (stream : Bytes) : Except Fault (Frame × Bytes) :=
  let mark := stream.take 4
  if mark.isPrefixOf magic then
    match stream.drop 4 with
    | [] => .error .incompleteFrame
    | descriptor :: input => ofDescriptor descriptor.toNat input
  else if opensSkipped mark then ofSkipped (stream.drop 4)
  else .error .unknownFrame

theorem length_le_of_readHeader {descriptor : Nat} {input rest : Bytes} {header : Header}
    (h : Header.read descriptor input = .ok (header, rest)) : rest.length ≤ input.length := by
  simp only [Header.read] at h
  split at h
  · nomatch h
  · split at h
    · nomatch h
    · simp only [Except.ok.injEq, Prod.mk.injEq] at h
      simp [← h.2]

theorem length_le_of_ofDescriptor {descriptor : Nat} {input rest : Bytes} {frame : Frame}
    (h : ofDescriptor descriptor input = .ok (frame, rest)) : rest.length ≤ input.length := by
  simp only [ofDescriptor] at h
  split at h
  · nomatch h
  · rename_i header input' hread
    simp only [Except.ok.injEq, Prod.mk.injEq] at h
    have hheader := length_le_of_readHeader hread
    have hblocks := length_blocks_le input'
    simp only [← h.2, List.length_drop]
    omega

/-- Every frame takes some bytes off its stream. -/
theorem length_lt_of_ofBytes {stream rest : Bytes} {frame : Frame}
    (h : ofBytes stream = .ok (frame, rest)) : rest.length < stream.length := by
  simp only [ofBytes] at h
  split at h
  · split at h
    · nomatch h
    · rename_i descriptor input hdrop
      have hlength := congrArg List.length hdrop
      have hrest := length_le_of_ofDescriptor h
      simp only [List.length_drop, List.length_cons] at hlength
      omega
  · split at h
    · simp only [ofSkipped] at h
      split at h
      · nomatch h
      · rename_i hsize
        simp only [Except.ok.injEq, Prod.mk.injEq] at h
        simp only [← h.2, List.length_drop]
        simp only [List.length_take, List.length_drop] at hsize
        omega
    · nomatch h

end Frame

/-- The frames of a stream, at least one; one that cannot be read is the last one. -/
def frames (stream : Bytes) : List (Except Fault Frame) :=
  match h : Frame.ofBytes stream with
  | .error fault => [.error fault]
  | .ok (frame, []) => [.ok frame]
  | .ok (frame, rest) =>
    have := Frame.length_lt_of_ofBytes h
    .ok frame :: frames rest
termination_by stream.length

end Zstd

end PacketSession
