import PacketSession.Proofs.Packet.Chunk
import PacketSession.Proofs.Wire.Exact

/-!
# The written form of a chunk

A chunk is written as a header of one of two sizes and its data. The numbers in the header are
written as unsigned words and read as signed ones. A chunk whose numbers fit signed words is read
back, every other one is refused, and nothing is accepted but what was written for a chunk that fits
(`Chunk.exact_chunk`).
-/

namespace PacketSession

open Decoder

namespace Chunk

variable {c : Chunk}

/-- The numbers in the header of a chunk, in the order in which they are written. -/
def numbers (c : Chunk) : List Nat :=
  (c.total.map UInt32.toNat).toList ++ [c.offset.toNat, c.data.length]

/-- Writing and reading agree on a chunk, whether it fits or not. -/
structure Exact (c : Chunk) : Prop where
  /-- The header is as long as the limits on chunks suppose. -/
  length_eq : c.encode.length = (if c.isFirst then firstHeaderSize else headerSize) + c.data.length
  /-- A decoder comes to this chunk just if it fits and its written form is what was consumed. -/
  accepts (before after : Cursor) : decode.runAt before = (.ok c, after) ↔
    c.Fits ∧ before.rest = c.encode ++ after.rest ∧
      after.position = before.position + c.encode.length
  /-- The first number that does not fit is refused as the negative number that its word is. -/
  refuses : ¬ c.Fits → c.data.length < 2 ^ 32 → ∃ n, c.numbers.find? (2 ^ 31 ≤ ·) = some n ∧
    ∀ position suffix, (decode.runAt ⟨position, c.encode ++ suffix⟩).1 =
      .error (.negativeLength (UInt32.ofNat n).toInt32)

private theorem fits_iff_numbers : c.Fits ↔ ∀ n ∈ c.numbers, n < 2 ^ 31 := by
  have hsplit : (∀ n ∈ c.numbers, n < 2 ^ 31) ↔ (∀ total ∈ c.total, total.toNat < 2 ^ 31) ∧
      c.offset.toNat < 2 ^ 31 ∧ c.data.length < 2 ^ 31 := by
    simp [numbers, or_imp, forall_and]
  rw [hsplit]
  exact ⟨fun h => ⟨h.total, h.offset, h.data⟩, fun h => ⟨h.1, h.2.1, h.2.2⟩⟩

/-! ### What is accepted -/

private theorem size_eq_u32 {n : Nat} (hn : n < 2 ^ 32) : Bytes.size n = Bytes.u32
    (UInt32.ofNat n) := by
  rw [Bytes.size, Bytes.u32, UInt32.toNat_ofNat', Nat.mod_eq_of_lt hn]

/-- Behind the length of the payload, just the offset, the length of the data and the data are
consumed. -/
theorem consumes_decodeTail (total : Option Nat) :
    Consumes (decodeTail total) fun written c => c.total = total.map UInt32.ofNat ∧
      c.offset.toNat < 2 ^ 31 ∧ c.data.length < 2 ^ 31 ∧
      written = Bytes.u32 c.offset ++ (Bytes.size c.data.length ++ c.data) := by
  refine Consumes.length.bind ?_
  rintro _ offset ⟨rfl, hoffset⟩
  refine Consumes.length.bind ?_
  rintro _ length ⟨rfl, hlength⟩
  refine (Consumes.take length).bind ?_
  rintro data _ ⟨rfl, rfl⟩
  refine .pure ⟨rfl, ?_, hlength, ?_⟩
  · rwa [Fragmenter.toNat_ofNat (Nat.le_of_lt_succ hoffset)]
  · rw [List.append_nil, size_eq_u32 (by omega)]

/-- Only written forms of chunks that fit are accepted. -/
theorem consumes_decode : Consumes decode fun written c => written = c.encode ∧ c.Fits := by
  rw [decode_eq]
  refine Consumes.bool.bind ?_
  rintro _ first rfl
  cases first with
  | false =>
    refine (consumes_decodeTail none).imp ?_
    rintro _ ⟨_, offset, data⟩ ⟨rfl, hoffset, hdata, rfl⟩
    exact ⟨rfl, nofun, hoffset, hdata⟩
  | true =>
    refine Consumes.length.bind ?_
    rintro _ total ⟨rfl, htotal⟩
    refine (consumes_decodeTail (some total)).imp ?_
    rintro _ ⟨_, offset, data⟩ ⟨rfl, hoffset, hdata, rfl⟩
    refine ⟨?_, ?_, hoffset, hdata⟩
    · rw [size_eq_u32 (by omega)]
      rfl
    · rintro _ ⟨rfl⟩
      rwa [Fragmenter.toNat_ofNat (Nat.le_of_lt_succ htotal)]

/-! ### What is refused -/

/-- Of numbers that are read as lengths, the first that does not fit is refused. -/
theorem refuses_decodeTail (total : Option Nat) (offset : UInt32) {data : Bytes} {n : Nat}
    (hdata : data.length < 2 ^ 32) (hn : [offset.toNat, data.length].find? (2 ^ 31 ≤ ·) = some n) :
    Refuses (decodeTail total) (Bytes.u32 offset ++ (Bytes.size data.length ++ data))
      (.negativeLength (UInt32.ofNat n).toInt32) := by
  by_cases hoffset : 2 ^ 31 ≤ offset.toNat
  · rw [List.find?_cons_of_pos (by simpa using hoffset)] at hn
    cases hn
    exact (Refuses.length offset.toNat_lt hoffset).bind _
  · rw [List.find?_cons_of_neg (by simpa using hoffset)] at hn
    obtain ⟨hmem, hle⟩ : n ∈ [data.length] ∧ 2 ^ 31 ≤ n :=
      ⟨List.mem_of_find?_eq_some hn, by simpa using List.find?_some hn⟩
    obtain rfl := List.mem_singleton.mp hmem
    exact (Reads.length (Nat.lt_of_not_le hoffset)).refuses ((Refuses.length hdata hle).bind _)

/-- The first number in a header that does not fit is refused. -/
private theorem refuses_decode {n : Nat} (hdata : c.data.length < 2 ^ 32)
    (hn : c.numbers.find? (2 ^ 31 ≤ ·) = some n) :
    Refuses decode c.encode (.negativeLength (UInt32.ofNat n).toInt32) := by
  rw [decode_eq]
  obtain ⟨total, offset, data⟩ := c
  cases total with
  | none => exact (Reads.bool false).refuses (refuses_decodeTail none offset hdata hn)
  | some total =>
    change (total.toNat :: [offset.toNat, data.length]).find? (2 ^ 31 ≤ ·) = some n at hn
    refine (Reads.bool true).refuses ?_
    -- numbers in front of the first that does not fit are read, which leaves a shorter header
    by_cases htotal : 2 ^ 31 ≤ total.toNat
    · rw [List.find?_cons_of_pos (by simpa using htotal)] at hn
      cases hn
      exact (Refuses.length total.toNat_lt htotal).bind _
    · rw [List.find?_cons_of_neg (by simpa using htotal)] at hn
      exact (Reads.length (Nat.lt_of_not_le htotal)).refuses
        (refuses_decodeTail (some total.toNat) offset hdata hn)

/-! ### Both together -/

/-- Chunks that fit are read back, all others are refused, and nothing else is accepted. -/
theorem exact_chunk (c : Chunk) : c.Exact where
  length_eq := c.length_encode
  accepts _ _ := runAt_eq_ok_iff (fun _ hfits => hfits.reads) consumes_decode
  refuses hfits hdata := by
    obtain ⟨n, hn⟩ : ∃ n, c.numbers.find? (2 ^ 31 ≤ ·) = some n := by
      rw [fits_iff_numbers, not_forall₂] at hfits
      obtain ⟨n, hmem, hlt⟩ := hfits
      rw [← Option.isSome_iff_exists, List.find?_isSome]
      exact ⟨n, hmem, by simpa using hlt⟩
    exact ⟨n, hn, refuses_decode hdata hn⟩

/-- A chunk with two numbers that do not fit: its payload is as long as can be, its offset is above
that, and the length of its data is fine. -/
def astray : Chunk := ⟨some 0x7FFFFFFF, 0x80000001, [1, 2]⟩

/-- The offset is refused as the negative number that its word is, and the same chunk at the last
offset that can be read is read back. -/
theorem exact_chunk_astray :
    ¬ astray.Fits ∧
      (decode.runAt (.start (astray.encode ++ [9]))).1 = .error (.negativeLength (-0x7FFFFFFF)) ∧
      ({ astray with offset := 0x7FFFFFFF } : Chunk).Fits ∧
      decode.runAt (.start (({ astray with offset := 0x7FFFFFFF } : Chunk).encode ++ [9])) =
        (.ok { astray with offset := 0x7FFFFFFF }, ⟨15, [9]⟩) := by
  have hastray : ¬ astray.Fits := by
    rw [fits_iff_numbers]
    decide
  have hfits : ({ astray with offset := 0x7FFFFFFF } : Chunk).Fits := by
    rw [fits_iff_numbers]
    decide
  obtain ⟨n, hn, hrefuses⟩ := (exact_chunk astray).refuses hastray (by decide)
  obtain rfl : 0x80000001 = n := Option.some.inj hn
  refine ⟨hastray, hrefuses 0 [9], hfits, ?_⟩
  exact ((exact_chunk { astray with offset := 0x7FFFFFFF }).accepts _ _).mpr ⟨hfits, rfl, rfl⟩

end Chunk

end PacketSession
