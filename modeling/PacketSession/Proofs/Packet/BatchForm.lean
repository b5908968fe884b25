import PacketSession.Proofs.Packet.Packing
import PacketSession.Proofs.Wire.Exact

/-!
# The written form of a batch

A batch that fits is read back whatever follows, and nothing else is accepted
(`Batch.runAt_decode_eq_ok_iff`). Its size is kept up to date while it changes: a `Batch.Filling`
is a batch with its numbers, and whatever calls are made on one, its numbers are those of the batch
and its size is that of the written form (`Batch.Filling.Tracks`).

How many entries a batch has is said by whoever wrote it. Reading begins no more of them than there
can be in the bytes at hand, and one that is cut (`Batch.snd_decodeCounted_le`).
-/

namespace PacketSession

open Decoder

namespace Batch

/-! ### Calls on a batch -/

/-- One call on a batch. -/
inductive Call
  /-- One more frame, whatever its size. -/
  | push (frame : Bytes)
  /-- One more frame, if it fits. -/
  | add (frame : Bytes) (limits : BatchLimits)
  /-- Away with all frames. -/
  | clear
  /-- The batch at the front of these bytes instead, if there is one. -/
  | decode (data : Bytes)

/-- What a call makes of a batch. -/
def perform (b : Batch) : Call → Batch
  | .push frame => b.push frame
  | .add frame limits => (b.add? frame limits).getD b
  | .clear => .empty
  | .decode data =>
    match Batch.decode.read data with
    | .ok (b, _) => b
    | .error _ => b

/-- What calls make of an empty batch. -/
def ofCalls (calls : List Call) : Batch := calls.foldl perform .empty

/-- Reads one entry: a frame behind its length. -/
def decodeEntry : Decoder Bytes := do
  take (← Decoder.length)

namespace Filling

/-- Reads `count` more frames into a batch. -/
def decodeFrames : (count : Nat) → (f : Filling) → Decoder Filling
  | 0, f => return f
  | count + 1, f => do
    decodeFrames count (f.push (← decodeEntry))

/-- Reads the fields of a batch. -/
def decode : Decoder Filling := do
  decodeFrames (← Decoder.length) .empty

/-- What a call makes of a batch that keeps count. -/
def perform (f : Filling) : Call → Filling
  | .push frame => f.push frame
  | .add frame limits =>
    if mayJoin limits f.count f.size frame.length then f.push frame else f
  | .clear => .empty
  | .decode data =>
    match decode.read data with
    | .ok (f, _) => f
    | .error _ => f

/-- What calls make of an empty batch that keeps count. -/
def ofCalls (calls : List Call) : Filling := calls.foldl perform .empty

end Filling

/-! ### Reading that keeps count -/

/-- Reads frames as `decodeFrames` does and counts the entries that it begins to read. -/
def decodeFramesCounted : (count : Nat) → (latest : List Bytes) → Cursor →
    (Except DecodeError (List Bytes) × Cursor) × Nat
  | 0, latest, c => ((.ok latest.reverse, c), 0)
  | count + 1, latest, c =>
    match decodeEntry.runAt c with
    | (.ok frame, c) =>
      let (outcome, entries) := decodeFramesCounted count (frame :: latest) c
      (outcome, entries + 1)
    | (.error cause, c) => ((.error cause, c), 1)

/-- Reads a batch as `decode` does and counts the entries that it begins to read. -/
def decodeCounted (c : Cursor) : (Except DecodeError Batch × Cursor) × Nat :=
  match Decoder.length.runAt c with
  | (.ok count, c) =>
    let ((frames, c), entries) := decodeFramesCounted count [] c
    ((frames.map Batch.mk, c), entries)
  | (.error cause, c) => ((.error cause, c), 0)

/-! ### What writing and reading come to -/

/-- What a batch that keeps count has to do with the batch that it stands for. -/
structure Filling.Tracks (f : Filling) (b : Batch) : Prop where
  /-- They have the same frames. -/
  toBatch_eq : f.toBatch = b
  /-- The size that is kept is the size of the batch. -/
  size_eq : f.size = b.encodedSize
  /-- That is the length of the written form. -/
  length_eq : b.encode.length = b.encodedSize
  /-- A decoder comes to the batch and its numbers just if it fits and its written form is what was
  consumed. -/
  accepts (before after : Cursor) : Filling.decode.runAt before = (.ok f, after) ↔
    b.Fits ∧ before.rest = b.encode ++ after.rest ∧ after.position = before.position + f.size

/-- What reading a batch comes to, wherever it begins. -/
structure Deciphers (before : Cursor) : Prop where
  /-- A decoder comes to a batch just if it fits and its written form is what was consumed. -/
  accepts (b : Batch) (after : Cursor) : decode.runAt before = (.ok b, after) ↔
    b.Fits ∧ before.rest = b.encode ++ after.rest ∧
      after.position = before.position + b.encode.length
  /-- Keeping the numbers of the batch changes nothing. -/
  numbers : (Filling.toBatch <$> Filling.decode).runAt before = decode.runAt before
  /-- Counting the entries changes nothing. -/
  counting : (decodeCounted before).1 = decode.runAt before
  /-- A batch has as many frames as entries were begun. -/
  count_eq (b : Batch) (after : Cursor) :
    decode.runAt before = (.ok b, after) → (decodeCounted before).2 = b.count
  /-- However many entries there should be, no more are begun than there can be behind the number of
  them, and one that is cut. -/
  entries_le : (decodeCounted before).2 ≤ (before.rest.length - headerSize) / entryHeaderSize + 1

/-! ### What is accepted -/

private theorem decodeFrames_succ (count : Nat) (latest : List Bytes) :
    decodeFrames (count + 1) latest =
      decodeEntry >>= fun frame => decodeFrames count (frame :: latest) := by
  rw [decodeFrames, decodeEntry, bind_assoc]

private theorem consumes_decodeEntry : Consumes decodeEntry fun written frame =>
    written = Bytes.size frame.length ++ frame ∧ frame.length < 2 ^ 31 := by
  refine Consumes.length.bind ?_
  rintro _ length ⟨rfl, hlength⟩
  refine (Consumes.take length).imp ?_
  rintro frame _ ⟨rfl, rfl⟩
  exact ⟨rfl, hlength⟩

private theorem consumes_decodeFrames (count : Nat) (latest : List Bytes) :
    Consumes (decodeFrames count latest) fun written frames => ∃ next,
      frames = latest.reverse ++ next ∧ next.length = count ∧
        (∀ frame ∈ next, frame.length < 2 ^ 31) ∧
        written = next.flatMap fun frame => Bytes.size frame.length ++ frame := by
  induction count generalizing latest with
  | zero => exact .pure ⟨[], by simp⟩
  | succ count ih =>
    rw [decodeFrames_succ]
    refine consumes_decodeEntry.bind ?_
    rintro _ frame ⟨rfl, hframe⟩
    refine (ih (frame :: latest)).imp ?_
    rintro _ _ ⟨next, rfl, rfl, hnext, rfl⟩
    refine ⟨frame :: next, ?_, rfl, List.forall_mem_cons.mpr ⟨hframe, hnext⟩, rfl⟩
    rw [List.reverse_cons, List.append_assoc, List.singleton_append]

/-- Only written forms of batches that fit are accepted. -/
theorem consumes_decode : Consumes decode fun written b => written = b.encode ∧ b.Fits := by
  refine Consumes.length.bind ?_
  rintro _ count ⟨rfl, hcount⟩
  refine (consumes_decodeFrames count []).bind ?_
  rintro _ _ ⟨frames, rfl, rfl, hframes, rfl⟩
  refine .pure ⟨?_, hcount, hframes⟩
  rw [List.append_nil]
  rfl

/-- A decoder comes to a batch just if it fits and its written form is what was consumed. -/
theorem runAt_decode_eq_ok_iff {b : Batch} {before after : Cursor} :
    decode.runAt before = (.ok b, after) ↔
      b.Fits ∧ before.rest = b.encode ++ after.rest ∧
        after.position = before.position + b.encode.length :=
  runAt_eq_ok_iff (fun _ hfits => hfits.reads) consumes_decode

/-! ### Batches that keep count -/

namespace Filling

variable {f g : Filling}

/-- Batches with the same frames that are counted right are the same. -/
private theorem Counted.eq_of_toBatch_eq (hf : f.Counted) (hg : g.Counted)
    (h : f.toBatch = g.toBatch) : f = g := by
  have hcount : f.count = g.count := by rw [hf.count, hg.count, h]
  have hsize : f.size = g.size := by rw [hf.size, hg.size, h]
  have hlatest : f.latest = g.latest := List.reverse_inj.mp (congrArg Batch.frames h)
  obtain ⟨latest, count, size⟩ := f
  obtain ⟨latest', count', size'⟩ := g
  obtain rfl : latest = latest' := hlatest
  obtain rfl : count = count' := hcount
  obtain rfl : size = size' := hsize
  rfl

private theorem map_frames_decodeFrames (count : Nat) (f : Filling) :
    (fun g => g.toBatch.frames) <$> decodeFrames count f = Batch.decodeFrames count f.latest := by
  induction count generalizing f with
  | zero => rfl
  | succ count ih =>
    simp only [decodeFrames, decodeFrames_succ, map_bind, ih]
    rfl

/-- Without its numbers, what is read is the batch. -/
theorem map_toBatch_decode : toBatch <$> decode = Batch.decode := by
  simp only [decode, Batch.decode, map_bind]
  refine bind_congr fun count => ?_
  have hframes : _ = Batch.decodeFrames count [] := map_frames_decodeFrames count .empty
  rw [← hframes, bind_map_left]
  rfl

private theorem consumes_decodeFrames (hf : f.Counted) (count : Nat) :
    Consumes (decodeFrames count f) fun _ g => g.Counted := by
  induction count generalizing f with
  | zero => exact .pure hf
  | succ count ih =>
    exact consumes_decodeEntry.bind fun _ frame _ => ih (hf.push frame)

/-- What is read is counted right. -/
theorem counted_decode : Consumes decode fun _ f => f.Counted :=
  Consumes.length.bind fun _ count _ => consumes_decodeFrames counted_empty count

/-- A batch that is counted right is read back with its numbers. -/
theorem Counted.runAt_decode_eq_ok_iff (hf : f.Counted) {before after : Cursor} :
    decode.runAt before = (.ok f, after) ↔ Batch.decode.runAt before = (.ok f.toBatch, after) := by
  rw [← map_toBatch_decode, runAt_map]
  constructor
  · intro hr
    rw [hr]
  · intro hr
    rcases hd : decode.runAt before with ⟨cause | g, c⟩
    · rw [hd] at hr
      cases hr
    · rw [hd] at hr
      obtain ⟨hbatch, rfl⟩ : g.toBatch = f.toBatch ∧ c = after := by simpa using hr
      obtain ⟨-, -, -, hg⟩ := counted_decode _ _ _ hd
      rw [hg.eq_of_toBatch_eq hf hbatch]

/-- A call keeps the numbers of a batch right, and the frames are those that it makes of the batch
without numbers. -/
theorem Counted.perform (hf : f.Counted) (call : Call) :
    (f.perform call).Counted ∧ (f.perform call).toBatch = f.toBatch.perform call := by
  cases call with
  | push frame => exact ⟨hf.push frame, toBatch_push f frame⟩
  | add frame limits =>
    have hfits : mayJoin limits f.count f.size frame.length =
        f.toBatch.fits frame.length limits := by
      rw [fits, hf.count, hf.size]
    rw [Filling.perform, Batch.perform, add?, hfits]
    split
    · exact ⟨hf.push frame, toBatch_push f frame⟩
    · exact ⟨hf, rfl⟩
  | clear => exact ⟨counted_empty, rfl⟩
  | decode data =>
    rw [Filling.perform, Batch.perform, ← map_toBatch_decode, read_map]
    rcases hr : decode.read data with cause | ⟨g, rest⟩
    · exact ⟨hf, rfl⟩
    · obtain ⟨-, -, hg⟩ := counted_decode.readFrom hr
      exact ⟨hg, rfl⟩

/-- Whatever calls are made, the numbers of the batch are right. -/
private theorem counted_ofCalls (calls : List Call) :
    (ofCalls calls).Counted ∧ (ofCalls calls).toBatch = Batch.ofCalls calls := by
  induction calls using List.reverseRecOn with
  | nil => exact ⟨counted_empty, rfl⟩
  | append_singleton calls call ih =>
    obtain ⟨hcounted, hbatch⟩ := ih
    have hcall := hcounted.perform call
    rw [hbatch] at hcall
    rw [ofCalls, Batch.ofCalls, List.foldl_append, List.foldl_append]
    exact hcall

end Filling

/-! ### How many entries are read -/

private theorem fst_decodeFramesCounted (count : Nat) (latest : List Bytes) (c : Cursor) :
    (decodeFramesCounted count latest c).1 = (decodeFrames count latest).runAt c := by
  induction count generalizing latest c with
  | zero => rfl
  | succ count ih =>
    rw [decodeFrames_succ, runAt_bind, decodeFramesCounted]
    rcases decodeEntry.runAt c with ⟨cause | frame, c'⟩
    · rfl
    · exact ih _ _

/-- Counting changes nothing. -/
private theorem fst_decodeCounted (c : Cursor) : (decodeCounted c).1 = decode.runAt c := by
  -- `decodeFramesCounted` is compared with the loop alone, so the rest of `decode` comes last
  have hmap : decode = Decoder.length >>= fun count => Batch.mk <$> decodeFrames count [] := by
    simp only [decode, map_eq_pure_bind]
  rw [hmap, runAt_bind, decodeCounted]
  rcases Decoder.length.runAt c with ⟨cause | count, c'⟩
  · rfl
  · dsimp only
    rw [runAt_map, ← fst_decodeFramesCounted]
    rcases decodeFramesCounted count [] c' with ⟨⟨_ | _, _⟩, _⟩ <;> rfl

/-- If all frames are read, so many entries were begun. -/
private theorem snd_decodeFramesCounted_of_ok {count : Nat} {latest frames : List Bytes}
    {c c' : Cursor} (hr : (decodeFrames count latest).runAt c = (.ok frames, c')) :
    (decodeFramesCounted count latest c).2 = count := by
  rw [← fst_decodeFramesCounted] at hr
  induction count generalizing latest c with
  | zero => rfl
  | succ count ih =>
    rw [decodeFramesCounted] at hr ⊢
    rcases hentry : decodeEntry.runAt c with ⟨cause | frame, c₁⟩
    · rw [hentry] at hr
      cases hr
    · rw [hentry] at hr
      exact congrArg (· + 1) (ih hr)

/-- If a batch is read, as many entries were begun as it has frames. -/
private theorem snd_decodeCounted_of_ok {b : Batch} {c c' : Cursor}
    (hr : decode.runAt c = (.ok b, c')) : (decodeCounted c).2 = b.count := by
  obtain ⟨hfits, hrest, -⟩ := runAt_decode_eq_ok_iff.mp hr
  obtain ⟨position, bytes⟩ := c
  dsimp only at hrest
  rw [encode, List.append_assoc] at hrest
  -- the number of frames is read back, so that the loop is asked for just these
  rw [decodeCounted, hrest, Reads.length hfits.count position]
  exact snd_decodeFramesCounted_of_ok (reads_decodeFrames hfits.frame [] _ c'.rest)

/-- Every entry but one that is cut takes the bytes of its length. -/
private theorem snd_decodeFramesCounted_le (count : Nat) (latest : List Bytes) (c : Cursor) :
    (decodeFramesCounted count latest c).2 ≤ c.rest.length / entryHeaderSize + 1 := by
  induction count generalizing latest c with
  | zero => exact Nat.zero_le _
  | succ count ih =>
    rw [decodeFramesCounted]
    rcases hr : decodeEntry.runAt c with ⟨cause | frame, c'⟩
    · exact Nat.le_add_left 1 _
    -- whatever number is left, the bound comes from the bytes: this entry took four of them or more
    · obtain ⟨_, hrest, -, rfl, -⟩ := consumes_decodeEntry _ _ _ hr
      have hnext := ih (frame :: latest) c'
      have hlength : entryHeaderSize + c'.rest.length ≤ c.rest.length := by
        rw [hrest, List.length_append, List.length_append, Bytes.size, Bytes.length_bigEndian,
          entryHeaderSize]
        omega
      dsimp only
      rw [entryHeaderSize] at hlength hnext ⊢
      omega

/-- No more entries are begun than there can be behind the number of them, and one that is cut. -/
theorem snd_decodeCounted_le (c : Cursor) :
    (decodeCounted c).2 ≤ (c.rest.length - headerSize) / entryHeaderSize + 1 := by
  rw [decodeCounted]
  rcases hr : Decoder.length.runAt c with ⟨cause | count, c'⟩
  · exact Nat.zero_le _
  · obtain ⟨written, hrest, -, rfl, -⟩ := Consumes.length _ _ _ hr
    have hbehind : c.rest.length - headerSize = c'.rest.length := by
      rw [hrest, List.length_append, Bytes.size, Bytes.length_bigEndian, headerSize,
        Nat.add_sub_cancel_left]
    rw [hbehind]
    exact snd_decodeFramesCounted_le count [] c'

/-! ### All together -/

/-- Whatever calls made a batch, its size is that of its written form and it is read back with its
numbers; and from whatever bytes a batch is read, they begin with its written form, and no more
entries are begun than there can be and one that is cut. -/
theorem exact_batch (calls : List Call) (before : Cursor) :
    (Filling.ofCalls calls).Tracks (ofCalls calls) ∧ Deciphers before := by
  obtain ⟨hcounted, hbatch⟩ := Filling.counted_ofCalls calls
  have hsize : (Filling.ofCalls calls).size = (ofCalls calls).encodedSize := by
    rw [hcounted.size, hbatch]
  constructor
  · refine ⟨hbatch, hsize, length_encode _, fun before after => ?_⟩
    rw [hcounted.runAt_decode_eq_ok_iff, hbatch, runAt_decode_eq_ok_iff, length_encode, hsize]
  · refine ⟨fun b after => runAt_decode_eq_ok_iff, ?_, fst_decodeCounted before,
      fun b after => snd_decodeCounted_of_ok, snd_decodeCounted_le before⟩
    rw [Filling.map_toBatch_decode]

/-- Calls that leave two frames: the third finds no room, and the bytes at the end are no batch. -/
def eventful : List Call :=
  [.push [7], .clear, .push [1, 2], .add [3] ⟨2, 64⟩, .add [4] ⟨2, 64⟩, .decode [0, 0, 0, 1]]

/-- The two frames are read back in front of another byte, with their number and size. Of a batch
that claims to have as many frames as can be said, in five bytes, no more than two are begun. -/
theorem exact_batch_eventful :
    (ofCalls eventful).Fits ∧
      Filling.decode.runAt (.start ((ofCalls eventful).encode ++ [9])) =
        (.ok ⟨[[3], [1, 2]], 2, 15⟩, ⟨15, [9]⟩) ∧
      (decodeCounted (.start [0x7F, 0xFF, 0xFF, 0xFF, 0, 0, 0, 1, 5])).2 ≤ 2 := by
  have hfits : (ofCalls eventful).Fits := by decide
  obtain ⟨htracks, hdeciphers⟩ :=
    exact_batch eventful (.start [0x7F, 0xFF, 0xFF, 0xFF, 0, 0, 0, 1, 5])
  exact ⟨hfits, (htracks.accepts _ _).mpr ⟨hfits, rfl, rfl⟩, hdeciphers.entries_le⟩

end Batch

end PacketSession
