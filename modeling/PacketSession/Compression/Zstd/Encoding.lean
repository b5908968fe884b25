import PacketSession.Compression.Zstd.Frame

/-!
# Writing Zstandard frames

Content becomes one frame, without a declared size or a checksum. Its long runs of one byte
become repeated blocks, and what is between them becomes plain ones. The first bytes of the
first run are written out, so that a frame costs what it costs to write a few bytes and refer
back to them; the higher the effort level, the fewer.
-/

namespace PacketSession

namespace Zstd

/-- Content of one block: plain bytes, or one byte repeated. -/
inductive Segment
  /-- Plain bytes. -/
  | plain (bytes : Bytes)
  /-- One byte repeated. -/
  | repeated (byte : UInt8) (count : Nat)
deriving DecidableEq

/-- The written form of the block with a segment; the last one of a frame is marked. -/
def Segment.encode (isLast : Bool) : Segment → Bytes
  | plain bytes => header 0 bytes.length ++ bytes
  | repeated byte count => header 1 count ++ [byte]
where
  /-- The three bytes in front of a block. -/
  header (kind size : Nat) : Bytes :=
    (Bytes.bigEndian 3 (size * 8 + kind * 2 + if isLast then 1 else 0)).reverse

/-- The maximal runs of equal bytes, latest first, behind those given. -/
def addToRuns (latest : List (UInt8 × Nat)) (byte : UInt8) : List (UInt8 × Nat) :=
  match latest with
  | (other, count) :: before =>
    if other = byte then (byte, count + 1) :: before else (byte, 1) :: latest
  | [] => [(byte, 1)]

/-- A run becomes a segment of its own from this length on. -/
def minRun : Nat := 8

/-- Short runs are gathered into segments of at most this length. -/
def maxPlain : Nat := 256

/-- A long run in segments that are no larger than a block may be. -/
def repeatedSegments (byte : UInt8) (count : Nat) : List Segment :=
  let rest := count % maxBlock
  List.replicate (count / maxBlock) (.repeated byte maxBlock) ++
    if rest = 0 then [] else [.repeated byte rest]

/-- A run in front of the given segments: as segments of its own if it is long enough, and
otherwise gathered with its neighbours. -/
def addRun (run : UInt8 × Nat) (segments : List Segment) : List Segment :=
  let (byte, count) := run
  let short := List.replicate count byte
  if minRun ≤ count then repeatedSegments byte count ++ segments
  else
    match segments with
    | .plain bytes :: segments =>
      if bytes.length + count ≤ maxPlain then .plain (short ++ bytes) :: segments
      else .plain short :: .plain bytes :: segments
    | segments => .plain short :: segments

/-- How many bytes of the first run are written out at an effort level. -/
def leadSize (level : Int) : Nat := if level < 6 then 4 else 3

/-- Writes out the first bytes of a run behind the given ones. -/
def withLead (size : Nat) (before : Bytes) (byte : UInt8) (count : Nat) : List Segment :=
  let lead := min size count
  [.plain (before ++ List.replicate lead byte), .repeated byte (count - lead)]

/-- Writes out the first bytes of the first run, if no more than one plain segment comes before
it. -/
def addLead (size : Nat) : List Segment → List Segment
  | .repeated byte count :: segments => withLead size [] byte count ++ segments
  | .plain bytes :: .repeated byte count :: segments =>
    withLead size bytes byte count ++ segments
  | segments => segments

/-- The segments of some content, at least one. -/
def segments (level : Int) (content : Bytes) : List Segment :=
  match (content.foldl addToRuns []).foldl (fun segments run => addRun run segments) [] with
  | [] => [.plain []]
  | segments => addLead (leadSize level) segments

/-- The written form of segments as blocks; only the last one is marked. -/
def encodeSegments (segments : List Segment) : Bytes :=
  let last := segments.length - 1
  segments.zipIdx.flatMap fun (segment, index) => segment.encode (index = last)

/-- The descriptor and the window of every frame written here: two mebibytes, and no other
optional fields. -/
def plainHeader : Bytes := [0x00, 0x58]

/-- A stream of one frame with the given content. -/
def compress (level : Int) (content : Bytes) : Bytes :=
  magic ++ plainHeader ++ encodeSegments (segments level content)

end Zstd

end PacketSession
