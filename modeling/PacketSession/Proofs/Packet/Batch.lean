import PacketSession.Packet.Batch
import PacketSession.Proofs.Wire.Reads

/-!
# Batches keep their frames

A batch whose written form is shorter than `2 ^ 31` bytes is read back as it was written, and
packing neither loses nor reorders a frame, whatever the limits.
-/

namespace PacketSession

open Decoder

namespace Batch

/-! ### Written form -/

/-- The numbers of a batch fit signed words. -/
structure Fits (b : Batch) : Prop where
  count : b.count < 2 ^ 31
  frame : ∀ frame ∈ b.frames, frame.length < 2 ^ 31

instance (b : Batch) : Decidable b.Fits :=
  decidable_of_iff (b.count < 2 ^ 31 ∧ ∀ frame ∈ b.frames, frame.length < 2 ^ 31)
    ⟨fun ⟨hcount, hframe⟩ => ⟨hcount, hframe⟩, fun h => ⟨h.count, h.frame⟩⟩

theorem reads_decodeFrames {frames : List Bytes} (h : ∀ frame ∈ frames, frame.length < 2 ^ 31)
    (latest : List Bytes) :
    Reads (decodeFrames frames.length latest)
      (frames.flatMap fun frame => Bytes.size frame.length ++ frame)
      (latest.reverse ++ frames) := by
  induction frames generalizing latest with
  | nil =>
    rw [List.append_nil]
    exact .pure _
  | cons frame frames ih =>
    obtain ⟨hf, hfs⟩ := List.forall_mem_cons.mp h
    have hnext := ih hfs (frame :: latest)
    rw [List.reverse_cons, List.append_assoc, List.singleton_append] at hnext
    rw [List.flatMap_cons, List.append_assoc]
    exact (Reads.length hf).bind ((Reads.take rfl).bind hnext)

/-- A batch that fits is read back as it was written. -/
theorem Fits.reads {b : Batch} (h : b.Fits) : Reads decode b.encode b :=
  (Reads.length h.count).bind ((reads_decodeFrames h.frame []).bind_nil (.pure _))

/-- The frames of a batch, and how many there are, are bounded by its written form. -/
private theorem le_length_flatMap (frames : List Bytes) :
    frames.length ≤ (frames.flatMap fun frame => Bytes.size frame.length ++ frame).length ∧
      ∀ frame ∈ frames,
        frame.length ≤ (frames.flatMap fun frame => Bytes.size frame.length ++ frame).length := by
  induction frames with
  | nil => simp
  | cons first frames ih =>
    simp only [List.flatMap_cons, List.length_append, Bytes.size, Bytes.length_bigEndian,
      List.length_cons, List.forall_mem_cons] at ih ⊢
    refine ⟨by omega, by omega, fun frame hf => ?_⟩
    have := ih.2 frame hf
    omega

theorem fits_of_length {b : Batch} (h : b.encode.length < 2 ^ 31) : b.Fits := by
  have hb := le_length_flatMap b.frames
  rw [encode, List.length_append] at h
  refine ⟨?_, fun frame hf => ?_⟩
  · rw [count]
    omega
  · have := hb.2 frame hf
    omega

/-! ### Packing -/

/-- Nothing is lost while a batch is being filled: the invariant is that an empty count means no
frames. -/
private theorem flatMap_distribute (limits : BatchLimits) (frames : List Bytes) (filling : Filling)
    (finished : List Batch) (h : filling.count = filling.latest.length) :
    (distribute limits frames filling finished).flatMap Batch.frames =
      finished.reverse.flatMap Batch.frames ++ (filling.latest.reverse ++ frames) := by
  induction frames generalizing filling finished with
  | nil =>
    rw [distribute]
    split
    case isTrue h₀ =>
      rw [h] at h₀
      simp [List.eq_nil_of_length_eq_zero h₀]
    case isFalse => simp [Filling.toBatch]
  | cons frame frames ih =>
    rw [distribute]
    split
    · rw [ih _ _ (by simp [Filling.push, h])]
      simp [Filling.push]
    · rw [ih _ _ (by simp [Filling.push, Filling.empty])]
      simp [Filling.push, Filling.empty, Filling.toBatch]

/-- The batches that frames are packed into hold exactly these frames, in order. -/
theorem flatMap_pack (limits : BatchLimits) (frames : List Bytes) :
    (pack limits frames).flatMap Batch.frames = frames :=
  flatMap_distribute limits frames .empty [] rfl

end Batch

end PacketSession
