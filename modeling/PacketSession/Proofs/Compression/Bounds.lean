import Mathlib.Algebra.Order.Ring.Nat
import Mathlib.Tactic.SplitIfs
import PacketSession.Proofs.Compression.RoundTrip

/-!
# How long frames get when they are compressed and inflated

The sender looks at the length of a frame and at what compressing makes of it: `compress_cases`
has the two forms that a frame may be encoded as. The receiver looks at neither. It asks for one
byte more than it is willing to inflate, and whatever it is given beyond the limit is refused.

`Compression.exact` puts both together. On what the sender encoded, the receiver gives back the
frame or says that it is too long; on anything else it gives no more than the limit, or no more
than what was stored.
-/

namespace PacketSession

namespace Compression

/-- Some data is marked as stored. -/
def IsStored (data : Bytes) : Prop := data.head? = some storedFlag

/-- Some data is marked as compressed. -/
def IsCompressed (data : Bytes) : Prop := data.head? = some compressedFlag

variable {c : Compression} {frame data body short : Bytes}

private theorem isStored_stored : IsStored (stored frame) := rfl

private theorem isCompressed_cons : IsCompressed (compressedFlag :: body) := rfl

private theorem not_isCompressed_of_isStored (h : IsStored data) : ¬ IsCompressed data := by
  intro h'
  rw [IsCompressed, h] at h'
  exact absurd h' (by decide)

/-! ### The sender -/

/-- A frame is stored, or it is long enough to be compressed and that makes it shorter. -/
theorem compress_cases (h : c.compress frame = .ok data) :
    data = stored frame ∨
      ∃ short, data = compressedFlag :: short ∧ c.settings.minSize ≤ frame.length ∧
        c.compressor.compress c.settings.level frame = .ok short ∧
        short.length < frame.length := by
  unfold compress at h
  split at h
  · cases h
    exact .inl rfl
  next hlong =>
    split at h
    · cases h
    next short hshort =>
      split at h
      next hless =>
        cases h
        exact .inr ⟨short, rfl, Nat.le_of_not_lt hlong, hshort, hless⟩
      · cases h
        exact .inl rfl

private theorem short_of_compress (h : c.compress frame = .ok data) :
    data.length ≤ frame.length + 1 ∧ (IsCompressed data → data.length ≤ frame.length) := by
  obtain rfl | ⟨short, rfl, -, -, hless⟩ := compress_cases h
  · exact ⟨Nat.le_refl _, fun hc => absurd hc (not_isCompressed_of_isStored isStored_stored)⟩
  · rw [List.length_cons]
    exact ⟨by omega, fun _ => hless⟩

/-! ### The receiver -/

private theorem decompress_stored : c.decompress (storedFlag :: body) = .ok body := rfl

private theorem decompress_compressed : c.decompress
    (compressedFlag :: body) = c.inflate body := rfl

private theorem length_le_of_inflate (h : c.inflate body = .ok frame) :
    frame.length ≤ c.settings.maxInflated := by
  rw [inflate] at h
  split at h
  · cases h
  · split_ifs at h with hlimit
    cases h
    exact Nat.le_of_not_lt hlimit

/-- What decoding gives was stored, or inflated to no more than the limit. -/
private theorem decompress_cases (h : c.decompress data = .ok frame) :
    data = stored frame ∨ IsCompressed data ∧ frame.length ≤ c.settings.maxInflated := by
  cases data with
  | nil => cases h
  | cons flag body =>
    rw [decompress] at h
    split_ifs at h with hstored hcompressed
    · cases h
      rw [hstored]
      exact .inl rfl
    · exact .inr ⟨congrArg some hcompressed, length_le_of_inflate h⟩

/-- The receiver asks for one byte past the limit, so a frame beyond the limit is seen to be too
long whatever its length. -/
theorem inflate_of_compress (hc : c.compressor.Lossless)
    (h : c.compressor.compress c.settings.level frame = .ok short) :
    c.inflate short =
      if frame.length ≤ c.settings.maxInflated then .ok frame
      else .error (.sizeExceeded (c.settings.maxInflated + 1) c.settings.maxInflated) := by
  have hinflate := hc.inflates _ _ _ h (c.settings.maxInflated + 1)
  rw [inflate, hinflate]
  dsimp only
  split_ifs with hlimit hle hle
  · rw [List.length_take] at hlimit
    omega
  · have hlength : (frame.take (c.settings.maxInflated + 1)).length =
        c.settings.maxInflated + 1 := List.length_take_of_le (by omega)
    rw [hlength]
  · rw [List.take_of_length_le (by omega)]
  · rw [List.length_take] at hlimit
    omega

/-! ### Both -/

/-- Compression is *exact*: it never costs more than the flag, nothing but the receiver's limit
keeps a frame from coming back as it was, and no received data inflates beyond that limit. -/
structure Exact (c : Compression) : Prop where
  /-- An encoded frame is stored or compressed. -/
  flagged : ∀ frame data, c.compress frame = .ok data → IsStored data ∨ IsCompressed data
  /-- It is at most one byte longer than the frame, and no longer if it is compressed. -/
  short : ∀ frame data, c.compress frame = .ok data →
    data.length ≤ frame.length + 1 ∧ (IsCompressed data → data.length ≤ frame.length)
  /-- Only frames of the minimum size are compressed. -/
  worthwhile : ∀ frame data, c.compress frame = .ok data → IsCompressed data →
    c.settings.minSize ≤ frame.length
  /-- A frame comes back if it was stored or is within the limit. -/
  returns : ∀ frame data, c.compress frame = .ok data →
    IsStored data ∨ frame.length ≤ c.settings.maxInflated → c.decompress data = .ok frame
  /-- Any other frame is refused at the first byte past the limit. -/
  exceeds : ∀ frame data, c.compress frame = .ok data →
    ¬ IsStored data → c.settings.maxInflated < frame.length →
    c.decompress data =
      .error (.sizeExceeded (c.settings.maxInflated + 1) c.settings.maxInflated)
  /-- Whatever was received, what it decodes to is within the limit if it was compressed, and is one
  byte shorter if it was stored. -/
  bounded : ∀ received frame, c.decompress received = .ok frame →
    IsCompressed received ∧ frame.length ≤ c.settings.maxInflated ∨
      IsStored received ∧ frame.length ≤ received.length - 1

/-- Compression by a compressor that inflates what it compressed is exact, as long as one byte more
than the limit can be asked for in 64 bits. -/
theorem exact_of_lossless (c : Compression) (hc : c.compressor.Lossless)
    (_ : c.settings.maxInflated < 2 ^ 64 - 1) : c.Exact where
  flagged frame data h := by
    obtain rfl | ⟨short, rfl, -⟩ := compress_cases h
    · exact .inl isStored_stored
    · exact .inr isCompressed_cons
  short frame data h := short_of_compress h
  worthwhile frame data h hflag := by
    obtain rfl | ⟨short, rfl, hlong, -⟩ := compress_cases h
    · exact absurd hflag (not_isCompressed_of_isStored isStored_stored)
    · exact hlong
  returns frame data h hcase := by
    obtain rfl | ⟨short, rfl, -, hshort, -⟩ := compress_cases h
    · exact decompress_stored
    · have hle := hcase.resolve_left fun hs => not_isCompressed_of_isStored hs isCompressed_cons
      rw [decompress_compressed, inflate_of_compress hc hshort, if_pos hle]
  exceeds frame data h hflag hlong := by
    obtain rfl | ⟨short, rfl, -, hshort, -⟩ := compress_cases h
    · exact absurd isStored_stored hflag
    · rw [decompress_compressed, inflate_of_compress hc hshort, if_neg (Nat.not_le.mpr hlong)]
  bounded received frame h := by
    obtain rfl | hinflated := decompress_cases h
    · exact .inr ⟨isStored_stored, Nat.le_refl _⟩
    · exact .inl hinflated

/-- A frame of zeros that is compressed to nineteen bytes with its flag, at a receiver that inflates
one byte less than all of it. -/
theorem exact_of_lossless_zeros :
    let frame : Bytes := 1 :: 64 :: List.replicate 64 0
    let short : Bytes := [40, 181, 47, 253, 0, 88, 77, 0, 0, 24, 1, 64, 0, 1, 0, 148, 192, 16]
    let c := withSettings (.knowing frame short) { maxInflated := 65 }
    c.compressor.Lossless ∧ c.settings.maxInflated < 2 ^ 64 - 1 ∧ c.Exact ∧
      c.compress frame = .ok (compressedFlag :: short) ∧
      c.decompress (compressedFlag :: short) = .error (.sizeExceeded 66 65) := by
  intro frame short c
  have hc : c.compressor.Lossless := (Compressor.reliable_knowing frame (by decide)).toLossless
  have hexact : c.Exact := exact_of_lossless c hc (by decide)
  have hcompress : c.compress frame = .ok (compressedFlag :: short) := rfl
  exact ⟨hc, by decide, hexact, hcompress,
    hexact.exceeds _ _ hcompress (by unfold IsStored; decide) (by decide)⟩

end Compression

end PacketSession
