import PacketSession.Compression.Zstd.Encoding
import PacketSession.Compression.Zstd.Inflation
import PacketSession.Error

/-!
# Compressed frames

A compressed connection puts one byte in front of every frame: 0 for a frame stored as it
is, 1 for a compressed one. A frame is compressed only if it has a minimum size and only if
that makes it shorter. Inflating is bounded: one byte past the limit is enough to refuse a
frame, whatever the stream would produce.

The compressed form itself comes from a `Compressor`; nothing here depends on more than its
two functions.
-/

namespace PacketSession

/-- A way to compress and inflate byte strings. -/
structure Compressor where
  /-- The compressed form at an effort level. -/
  compress : (level : Int) → Bytes → Except String Bytes
  /-- The first `limit` bytes of the content of a compressed form. -/
  inflate : (limit : Nat) → Bytes → Except String Bytes

/-- Zstandard frames of plain and repeated blocks. It stands in for a full compressor where a
scenario has to be run; what is proved of compression is proved of every compressor. -/
def Compressor.zstd : Compressor where
  compress := fun level content => .ok (Zstd.compress level content)
  inflate := fun limit stream => (Zstd.inflate limit stream).mapError Zstd.Fault.message

/-- Why a frame could not be compressed or inflated. -/
inductive CompressionError
  /-- The compressor failed. -/
  | compressionFailed (what : String)
  /-- The compressed form makes no sense. -/
  | decompressionFailed (what : String)
  /-- The first byte is missing or is neither 0 nor 1. -/
  | invalidFlag
  /-- The frame inflates past the limit. -/
  | sizeExceeded (size limit : Nat)
deriving DecidableEq

namespace CompressionError

/-- The wording of a compression error. -/
def message : CompressionError → String
  | compressionFailed what => "compression failed: " ++ what
  | decompressionFailed what => "decompression failed: " ++ what
  | invalidFlag => "invalid compression flag"
  | sizeExceeded size limit =>
    "inflated frame too large: " ++ toString size ++ " > " ++ toString limit

/-- The error that a session fails with. -/
def toProtocolError : CompressionError → ProtocolError
  | sizeExceeded size limit => .payloadTooLarge size limit
  | e => .malformedPacket none (.invalid e.message)

end CompressionError

/-- The settings of compression. -/
structure CompressionSettings where
  /-- The smallest frame worth compressing. -/
  minSize : Nat := 64
  /-- The effort level. -/
  level : Int := 3
  /-- The most bytes that one frame may inflate to. -/
  maxInflated : Nat := 1024 * 1024
deriving DecidableEq

/-- The settings with the level brought into the range from 1 to 22. -/
def CompressionSettings.clamped (s : CompressionSettings) : CompressionSettings :=
  { s with level := max 1 (min s.level 22) }

/-- A compressor with its settings. -/
structure Compression where
  /-- How frames are compressed. -/
  compressor : Compressor
  /-- When, and how far they may inflate. -/
  settings : CompressionSettings

namespace Compression

/-- Compression by a compressor with the given settings, the level clamped. -/
def withSettings (compressor : Compressor) (settings : CompressionSettings) : Compression :=
  ⟨compressor, settings.clamped⟩

/-- The first byte of a frame stored as it is. -/
def storedFlag : UInt8 := 0

/-- The first byte of a compressed frame. -/
def compressedFlag : UInt8 := 1

/-- A frame stored as it is. -/
def stored (frame : Bytes) : Bytes := storedFlag :: frame

/-- Encodes a frame, compressed if that makes it shorter. -/
def compress (c : Compression) (frame : Bytes) : Except CompressionError Bytes :=
  if frame.length < c.settings.minSize then .ok (stored frame)
  else
    match c.compressor.compress c.settings.level frame with
    | .error what => .error (.compressionFailed what)
    | .ok short =>
      if short.length < frame.length then .ok (compressedFlag :: short) else .ok (stored frame)

/-- Inflates a compressed frame, up to one byte past the limit. -/
def inflate (c : Compression) (body : Bytes) : Except CompressionError Bytes :=
  let limit := c.settings.maxInflated
  match c.compressor.inflate (limit + 1) body with
  | .error what => .error (.decompressionFailed what)
  | .ok frame =>
    if limit < frame.length then .error (.sizeExceeded frame.length limit) else .ok frame

/-- Decodes a frame that `compress` encoded. -/
def decompress (c : Compression) (data : Bytes) : Except CompressionError Bytes :=
  match data with
  | [] => .error .invalidFlag
  | flag :: body =>
    if flag = storedFlag then .ok body
    else if flag = compressedFlag then c.inflate body
    else .error .invalidFlag

end Compression

end PacketSession
