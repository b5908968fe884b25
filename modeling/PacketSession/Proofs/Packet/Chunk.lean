import PacketSession.Packet.Chunk
import PacketSession.Proofs.Wire.Reads

/-!
# Chunks and the payloads they were cut from

A chunk whose numbers fit signed words is read back as it was written. The chunks that a payload was
split into carry its pieces in order: all but the last one are full, each says where it belongs, and
all of them fit.
-/

namespace PacketSession

open Decoder

/-! ### Written form -/

namespace Chunk

/-- The numbers of a chunk fit signed words. -/
structure Fits (c : Chunk) : Prop where
  total : ∀ total ∈ c.total, total.toNat < 2 ^ 31
  offset : c.offset.toNat < 2 ^ 31
  data : c.data.length < 2 ^ 31

/-- The header is as long as its constants say. -/
theorem length_encode (c : Chunk) :
    c.encode.length = (if c.isFirst then firstHeaderSize else headerSize) + c.data.length := by
  have htotal : ((c.total.map Bytes.u32).getD []).length = if c.isFirst then 4 else 0 := by
    rw [isFirst]
    cases c.total with
    | none => rfl
    | some n => exact Bytes.length_bigEndian 4 n.toNat
  simp only [encode, List.length_append, htotal, Bytes.bool, Bytes.u32, Bytes.size,
    List.length_singleton, Bytes.length_bigEndian, firstHeaderSize, headerSize]
  split <;> omega

/-- Reads the fields behind the length of the payload. -/
def decodeTail (total : Option Nat) : Decoder Chunk := do
  let offset ← Decoder.length
  let data ← take (← Decoder.length)
  return ⟨total.map UInt32.ofNat, UInt32.ofNat offset, data⟩

/-- Only a first chunk says how long the payload is. -/
theorem decode_eq : decode = Decoder.bool >>= fun first =>
    if first then Decoder.length >>= fun total => decodeTail (some total) else decodeTail none := by
  refine bind_congr fun first => ?_
  cases first with
  | false => rfl
  | true => exact bind_map_left _ _ _

/-- The fields behind the length of the payload are read back. -/
theorem Fits.reads_tail {c : Chunk} (h : c.Fits) {total : Option Nat}
    (ht : total.map UInt32.ofNat = c.total) :
    Reads (decodeTail total)
      (Bytes.u32 c.offset ++ (Bytes.size c.data.length ++ c.data)) c := by
  refine (Reads.length h.offset).bind ((Reads.length h.data).bind
    ((Reads.take rfl).bind_nil ?_))
  rw [UInt32.ofNat_toNat, ht]
  exact .pure c

/-- A chunk that fits is read back as it was written. -/
theorem Fits.reads {c : Chunk} (h : c.Fits) : Reads decode c.encode c := by
  rw [decode_eq]
  obtain ⟨total, offset, data⟩ := c
  cases total with
  | none => exact (Reads.bool false).bind (h.reads_tail rfl)
  | some total =>
    have ht : Reads Decoder.length (Bytes.u32 total) total.toNat := Reads.length (h.total total rfl)
    exact (Reads.bool true).bind (ht.bind (h.reads_tail (by simp)))

end Chunk

/-! ### Pieces -/

namespace Fragmenter

/-- The first `count` pieces of `size` bytes, in order. -/
def pieces (size : Nat) : (count : Nat) → Bytes → List Bytes
  | 0, _ => []
  | count + 1, rest => rest.take size :: pieces size count (rest.drop size)

private theorem cut_eq (size count : Nat) (rest : Bytes) (done : List Bytes) :
    cut size count rest done = done.reverse ++ pieces size count rest := by
  induction count generalizing rest done with
  | zero => simp [cut, pieces]
  | succ count ih => simp [cut, pieces, ih]

/-- All chunks but the last are full, and the last one is not empty. -/
theorem lt_of_chunkCount (f : Fragmenter) {length : Nat} (hl : 0 < length) :
    ∃ count, f.chunkCount length = count + 1 ∧ count * f.chunkSize < length ∧
      length ≤ (count + 1) * f.chunkSize := by
  have hs := f.chunkSize_pos
  refine ⟨(length - 1) / f.chunkSize, ?_, ?_, ?_⟩
  · rw [chunkCount, show length + f.chunkSize - 1 = length - 1 + f.chunkSize by omega,
      Nat.add_div_right _ hs]
  · have := Nat.div_mul_le_self (length - 1) f.chunkSize
    omega
  · have := Nat.lt_mul_div_succ (length - 1) hs
    rw [Nat.mul_comm] at this
    omega

private theorem length_pieces (size count : Nat) (rest : Bytes) :
    (pieces size count rest).length = count := by
  induction count generalizing rest with
  | zero => rfl
  | succ count ih => simp [pieces, ih]

private theorem getElem?_pieces {size count index : Nat} (h : index < count) (rest : Bytes) :
    (pieces size count rest)[index]? = some ((rest.drop (index * size)).take size) := by
  induction count generalizing index rest with
  | zero => omega
  | succ count ih =>
    cases index with
    | zero => simp [pieces]
    | succ index =>
      rw [pieces, List.getElem?_cons_succ, ih (by omega), List.drop_drop, Nat.succ_mul,
        Nat.add_comm]

/-- The pieces that were cut off make up the front of the payload. -/
theorem flatten_take_pieces (size : Nat) {index count : Nat} (h : index ≤ count) (rest : Bytes) :
    ((pieces size count rest).take index).flatten = rest.take (index * size) := by
  induction index generalizing count rest with
  | zero => simp
  | succ index ih =>
    obtain ⟨count, rfl⟩ : ∃ k, count = k + 1 := ⟨count - 1, by omega⟩
    rw [pieces, List.take_succ_cons, List.flatten_cons, ih (by omega), Nat.succ_mul, Nat.add_comm,
      ← List.take_add]

theorem toNat_ofNat {n : Nat} (hn : n ≤ maxPayload) : (UInt32.ofNat n).toNat = n := by
  rw [UInt32.toNat_ofNat']
  exact Nat.mod_eq_of_lt (Nat.lt_of_le_of_lt hn (by decide))

variable (f : Fragmenter) {payload : Bytes} {chunks : List Chunk}

/-- The pieces before one of them are all full, and they are not yet the whole payload. -/
theorem mul_lt_of_lt_chunkCount {index length : Nat} (h : index < f.chunkCount length) :
    index * f.chunkSize < length := by
  have hl : 0 < length := by
    rcases Nat.eq_zero_or_pos length with rfl | hl
    · have hzero : f.chunkCount 0 = 0 :=
        Nat.div_eq_of_lt (by have := f.chunkSize_pos; omega)
      omega
    · exact hl
  obtain ⟨count, hcount, hlo, -⟩ := f.lt_of_chunkCount hl
  have hle : index * f.chunkSize ≤ count * f.chunkSize := Nat.mul_le_mul_right _ (by omega)
  omega

/-! ### Splitting -/

theorem length_le_of_split (hs : f.split payload = .ok chunks) :
    payload.length ≤ maxPayload := by
  rw [split] at hs
  split at hs
  · cases hs
  · omega

theorem split_eq (hm : payload.length ≤ maxPayload) :
    f.split payload = .ok
      ((pieces f.chunkSize (f.chunkCount payload.length) payload).zipIdx.map fun entry =>
        f.chunk payload.length entry.1 entry.2) := by
  rw [split, if_neg (by omega), cut_eq]
  rfl

theorem map_data_split (hs : f.split payload = .ok chunks) :
    chunks.map Chunk.data = pieces f.chunkSize (f.chunkCount payload.length) payload := by
  rw [f.split_eq (f.length_le_of_split hs)] at hs
  cases hs
  rw [List.map_map]
  exact List.zipIdx_map_fst 0 _

theorem length_split (hs : f.split payload = .ok chunks) :
    chunks.length = f.chunkCount payload.length := by
  rw [← List.length_map (f := Chunk.data), f.map_data_split hs, length_pieces]

/-- The chunk at a place carries the piece at that place. -/
theorem getElem?_split (hs : f.split payload = .ok chunks) {index : Nat}
    (hi : index < f.chunkCount payload.length) :
    chunks[index]? =
      some (f.chunk payload.length ((payload.drop (index * f.chunkSize)).take f.chunkSize)
        index) := by
  rw [f.split_eq (f.length_le_of_split hs)] at hs
  cases hs
  rw [List.getElem?_map, List.getElem?_zipIdx, getElem?_pieces hi]
  simp

theorem exists_of_mem_split (hs : f.split payload = .ok chunks) {c : Chunk} (hc : c ∈ chunks) :
    ∃ index, index < f.chunkCount payload.length ∧
      c = f.chunk payload.length ((payload.drop (index * f.chunkSize)).take f.chunkSize) index := by
  obtain ⟨index, hi, rfl⟩ := List.mem_iff_getElem.mp hc
  rw [f.length_split hs] at hi
  refine ⟨index, hi, Option.some.inj ?_⟩
  rw [← f.getElem?_split hs hi, List.getElem?_eq_getElem]

/-- The chunks of a payload fit: every offset is below the length of the payload. -/
theorem fits_of_mem_split (hs : f.split payload = .ok chunks) {c : Chunk} (hc : c ∈ chunks) :
    c.Fits := by
  have hm := f.length_le_of_split hs
  obtain ⟨index, hi, rfl⟩ := f.exists_of_mem_split hs hc
  have hoff := f.mul_lt_of_lt_chunkCount hi
  have hmax : maxPayload < 2 ^ 31 := by decide
  refine ⟨fun total ht => ?_, ?_, ?_⟩
  · simp only [chunk] at ht
    split at ht
    · cases ht
      rw [toNat_ofNat hm]
      omega
    · cases ht
  · simp only [chunk]
    rw [toNat_ofNat (by omega)]
    omega
  · have hlen := List.length_take_le' f.chunkSize (payload.drop (index * f.chunkSize))
    rw [List.length_drop] at hlen
    simp only [chunk]
    omega

end Fragmenter

end PacketSession
