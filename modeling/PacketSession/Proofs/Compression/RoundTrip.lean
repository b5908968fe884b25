import PacketSession.Compression.Basic

/-!
# Compressed frames come back as they were

The sender decides between a stored and a compressed form by one rule, and the receiver bounds what
it inflates by another. If inflating undoes compressing (`Compressor.Lossless`), then both agree on
every frame that is not longer than the receiver is willing to inflate.
-/

namespace PacketSession

/-- Inflating undoes compressing: it gives back the content, as far as it is asked for. -/
structure Compressor.Lossless (c : Compressor) : Prop where
  inflates : ∀ level frame short, c.compress level frame = .ok short →
    ∀ limit, c.inflate limit short = .ok (frame.take limit)

/-- A lossless compressor that never fails to compress. -/
structure Compressor.Reliable (c : Compressor) : Prop extends c.Lossless where
  compresses : ∀ level frame, ∃ short, c.compress level frame = .ok short

/-- The compressor that knows what one frame is compressed to, and marks all others. -/
def Compressor.knowing (frame short : Bytes) : Compressor where
  compress _ other := .ok (if other = frame then short else 0xFF :: other)
  inflate limit body := .ok ((if body = short then frame else body.tail).take limit)

theorem Compressor.reliable_knowing (frame : Bytes) {short : Bytes} (h : short.head? ≠ some 0xFF) :
    (knowing frame short).Reliable where
  compresses _ _ := ⟨_, rfl⟩
  inflates _ other body hbody limit := by
    cases hbody
    by_cases ho : other = frame
    · simp [knowing, ho]
    · have hmark : 0xFF :: other ≠ short := by
        rintro rfl
        exact h rfl
      simp [knowing, ho, hmark]

namespace Compression

variable {c : Compression} {frame data : Bytes}

/-- The encoded form of a frame, or the frame itself if it cannot be encoded. -/
def encoded (c : Compression) (frame : Bytes) : Bytes :=
  match c.compress frame with
  | .ok data => data
  | .error _ => frame

theorem compress_eq (hc : c.compressor.Reliable) (frame : Bytes) :
    c.compress frame = .ok (c.encoded frame) := by
  obtain ⟨data, hdata⟩ : ∃ data, c.compress frame = .ok data := by
    obtain ⟨short, hshort⟩ := hc.compresses c.settings.level frame
    rw [compress, hshort]
    dsimp only
    split
    · exact ⟨_, rfl⟩
    · split <;> exact ⟨_, rfl⟩
  rw [encoded, hdata]

/-- A frame that the receiver is willing to inflate comes back as it was. -/
private theorem decompress_of_compress (hc : c.compressor.Lossless)
    (h : c.compress frame = .ok data)
    (hs : frame.length ≤ c.settings.maxInflated) : c.decompress data = .ok frame := by
  unfold compress at h
  split at h
  · cases h
    rfl
  · split at h
    · cases h
    next short hshort =>
      split at h
      · cases h
        have hinflate := hc.inflates _ _ _ hshort (c.settings.maxInflated + 1)
        rw [List.take_of_length_le (by omega)] at hinflate
        change c.inflate short = .ok frame
        rw [inflate, hinflate]
        exact if_neg (Nat.not_lt.mpr hs)
      · cases h
        rfl

theorem decompress_encoded (hc : c.compressor.Reliable)
    (hs : frame.length ≤ c.settings.maxInflated) : c.decompress (c.encoded frame) = .ok frame :=
  decompress_of_compress hc.toLossless (compress_eq hc frame) hs

end Compression

end PacketSession
