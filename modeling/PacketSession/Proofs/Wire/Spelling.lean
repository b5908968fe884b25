import PacketSession.Proofs.Wire.Varint

/-!
# Where a varint ends, and its shortest spelling

Read byte by byte, a varint ends with the first byte whose top bit is clear (`Varint.EndsAt`), and
its number is the sum of the groups of seven bits, each shifted to its place (`Varint.groupSum`).
Decoding accepts just these byte strings, and tells those that are cut from all others
(`Varint.Deciphers`). A number has several spellings, but what is written for it is shorter than any
other (`Varint.Shortest`).
-/

namespace PacketSession

namespace Varint

variable {bytes : Bytes} {k : Nat} {n : UInt32}

/-- A varint at the front of `bytes` ends with byte number `k`: that byte is the first whose top bit
is clear, it is at most the fifth, and a fifth byte has no more than four bits. -/
structure EndsAt (bytes : Bytes) (k : Nat) : Prop where
  pos : 1 ≤ k
  le : k ≤ maxLength
  more : ∀ byte ∈ bytes.take (k - 1), 128 ≤ byte.toNat
  last : ∃ byte, bytes[k - 1]? = some byte ∧ byte.toNat < 128 ∧ (k = maxLength → byte.toNat ≤ 0x0F)

/-- The sum of the lower seven bits of each byte, shifted by seven for each byte before it. -/
def groupSum (bytes : Bytes) : Nat :=
  (bytes.zipIdx.map fun (byte, index) => (byte.toNat % 128) <<< (7 * index)).sum

/-- What decoding makes of a byte string, wherever it stands. -/
structure Deciphers (position : Nat) (bytes : Bytes) : Prop where
  /-- It succeeds after `k` bytes just if a varint ends there. -/
  accepts (k : Nat) :
    (∃ n, decode.runAt ⟨position, bytes⟩ = (.ok n, ⟨position + k, bytes.drop k⟩)) ↔
      EndsAt bytes k
  /-- Then no bit of the sum is lost. -/
  value (k : Nat) (n : UInt32) :
    decode.runAt ⟨position, bytes⟩ = (.ok n, ⟨position + k, bytes.drop k⟩) →
      n.toNat = groupSum (bytes.take k)
  /-- It misses a byte just if fewer than five are there and each has its top bit set. -/
  cut : (decode.runAt ⟨position, bytes⟩).1 = .error (.unexpectedEnd 1) ↔ Truncated bytes
  /-- In every other case the varint is too long. -/
  tooLong : (decode.runAt ⟨position, bytes⟩).1 = .error .varintTooLong ↔
    ¬ Truncated bytes ∧ ∀ k, ¬ EndsAt bytes k

/-- What is written for a number is read back, takes as many bytes as the table says, and is the
only form of this length or less. -/
structure Shortest (n : UInt32) : Prop where
  length_eq : (encode n).length = size n
  reads (position : Nat) (rest : Bytes) :
    decode.runAt ⟨position, encode n ++ rest⟩ = (.ok n, ⟨position + size n, rest⟩)
  lt_length (position : Nat) (form : Bytes) : (decode.runAt ⟨position, form⟩).1 = .ok n →
    form ≠ encode n → size n < form.length

/-! ### Where it ends -/

private theorem groupSum_eq_number (bytes : Bytes) : groupSum bytes = number bytes := by
  have hshift : ∀ index, ((bytes.zipIdx index).map fun (byte, index) =>
      (byte.toNat % 128) <<< (7 * index)).sum = number bytes * 2 ^ (7 * index) := by
    induction bytes with
    | nil => simp [number]
    | cons byte bytes ih =>
      intro index
      rw [List.zipIdx_cons, List.map_cons, List.sum_cons, ih, number]
      dsimp only
      rw [Nat.shiftLeft_eq, Nat.mul_succ, Nat.pow_add]
      ring
  exact (hshift 0).trans (Nat.mul_one _)

private theorem Spells.number_eq {form : Bytes} (h : Spells form n) : number form = n.toNat := by
  obtain ⟨-, -, -, hn⟩ := h
  exact hn

/-- A varint ends with byte number `k` just if the bytes up to there spell a number. -/
theorem endsAt_iff_spells : EndsAt bytes k ↔ k ≤ bytes.length ∧ ∃ n, Spells (bytes.take k) n := by
  constructor
  · rintro ⟨hpos, hle, hmore, last, hlast, hclear, hroom⟩
    obtain ⟨hlt, -⟩ := List.getElem?_eq_some_iff.mp hlast
    have htake : bytes.take k = bytes.take (k - 1) ++ [last] := by
      rw [← Nat.sub_add_cancel hpos, List.take_add_one, Nat.add_sub_cancel, hlast]
      rfl
    have hfront : (bytes.take (k - 1)).length = k - 1 := List.length_take_of_le (by omega)
    rw [htake]
    refine ⟨by omega, _, spells_ofNat (by omega) hmore hclear fun hfifth => ?_⟩
    have := hroom (by omega)
    omega
  · rintro ⟨hle, n, hs⟩
    generalize hform : bytes.take k = form at hs
    obtain @⟨front, last, n, hshort, hmore, hclear, hn⟩ := hs
    have hk : k = front.length + 1 := by
      rw [← List.length_take_of_le hle, hform, List.length_append, List.length_singleton]
    have hbytes : bytes = front ++ last :: bytes.drop k := by
      rw [← List.singleton_append, ← List.append_assoc, ← hform, List.take_append_drop]
    have hfront : bytes.take (k - 1) = front := by
      rw [hk, Nat.add_sub_cancel, hbytes, List.take_left]
    have hlast : bytes[k - 1]? = some last := by
      rw [hk, Nat.add_sub_cancel, hbytes, List.getElem?_append_right le_rfl, Nat.sub_self]
      rfl
    refine ⟨by omega, by omega, hfront ▸ hmore, last, hlast, hclear, fun hfifth => ?_⟩
    -- `Spells` bounds the number and `EndsAt` the fifth byte: more than four bits there are 2 ^ 32
    have := last_lt_of_number_lt hclear (by rw [hn]; exact n.toNat_lt) (by omega)
    omega

theorem runAt_decode_eq_ok_iff {position : Nat} :
    decode.runAt ⟨position, bytes⟩ = (.ok n, ⟨position + k, bytes.drop k⟩) ↔
      k ≤ bytes.length ∧ Spells (bytes.take k) n := by
  constructor
  · intro hr
    obtain ⟨form, hbytes, hposition, hs⟩ := consumes_decode _ _ _ hr
    dsimp only at hbytes hposition
    obtain rfl : k = form.length := by omega
    rw [hbytes, List.take_left, List.length_append]
    exact ⟨Nat.le_add_right _ _, hs⟩
  · rintro ⟨hle, hs⟩
    have hr := hs.reads position (bytes.drop k)
    rwa [List.take_append_drop, List.length_take_of_le hle] at hr

/-- Decoding tells apart where a varint ends, where it is cut and where it goes on for too long. -/
theorem deciphers (position : Nat) (bytes : Bytes) : Deciphers position bytes where
  accepts k := by
    rw [endsAt_iff_spells, ← exists_and_left]
    exact exists_congr fun n => runAt_decode_eq_ok_iff
  value k n hr := by
    rw [groupSum_eq_number, (runAt_decode_eq_ok_iff.mp hr).2.number_eq]
  cut := by
    refine ⟨fun hr => ?_, fun ht => ht.runAt position⟩
    -- of the three kinds of bytes, only those that are cut give this error
    obtain ⟨form, rest, n, rfl, hs⟩ | ht | ho := spells_or bytes
    · rw [hs.reads position rest] at hr
      cases hr
    · exact ht
    · rw [ho.runAt position] at hr
      cases hr
  tooLong := by
    constructor
    · refine fun hr => ⟨fun ht => ?_, fun k he => ?_⟩
      · rw [ht.runAt position] at hr
        cases hr
      · obtain ⟨hle, n, hs⟩ := endsAt_iff_spells.mp he
        rw [runAt_decode_eq_ok_iff.mpr ⟨hle, hs⟩] at hr
        cases hr
    · rintro ⟨hcut, hends⟩
      obtain ⟨form, rest, n, rfl, hs⟩ | ht | ho := spells_or bytes
      · refine absurd (endsAt_iff_spells.mpr ⟨?_, n, ?_⟩) (hends form.length)
        · rw [List.length_append]
          exact Nat.le_add_right _ _
        · rwa [List.take_left]
      · exact absurd ht hcut
      · exact ho.runAt position

/-! ### Its shortest spelling -/

private theorem groups_of_lt {m : Nat} (hm : m < 128) (more : Nat) : groups more m =
    [UInt8.ofNat m] := by
  cases more with
  | zero => rfl
  | succ more => rw [groups, if_pos hm]

/-- Groups that make up a number are the ones that are written for it, or they are more: then all
behind some place are zero. -/
private theorem eq_groups_or_length_lt {front : Bytes} {last : UInt8} {more : Nat}
    (hle : front.length ≤ more) (hmore : ∀ byte ∈ front, 128 ≤ byte.toNat)
    (hclear : last.toNat < 128) :
    front ++ [last] = groups more (number (front ++ [last])) ∨
      (groups more (number (front ++ [last]))).length < (front ++ [last]).length := by
  induction front generalizing more with
  | nil =>
    have hnumber : number [last] = last.toNat := Nat.mod_eq_of_lt hclear
    left
    rw [List.nil_append, hnumber, groups_of_lt hclear, UInt8.ofNat_toNat]
  | cons byte front ih =>
    obtain ⟨more, rfl⟩ : ∃ m, more = m + 1 := ⟨more - 1, by simp at hle; omega⟩
    obtain ⟨hbyte, hfront⟩ := List.forall_mem_cons.mp hmore
    rw [List.cons_append, number]
    -- below 128 writing ends with this byte, although its top bit is set here
    by_cases hlt : byte.toNat % 128 + 128 * number (front ++ [last]) < 128
    · right
      rw [groups_of_lt hlt]
      simp
    · have hlow : (byte.toNat % 128 + 128 * number (front ++ [last])) % 128 + 128 = byte.toNat := by
        have := byte.toNat_lt
        omega
      have hhigh : (byte.toNat % 128 + 128 * number (front ++ [last])) / 128 =
          number (front ++ [last]) := by
        omega
      rw [groups, if_neg hlt, hlow, hhigh, UInt8.ofNat_toNat]
      refine (ih (Nat.le_of_succ_le_succ hle) hfront).imp (congrArg _) fun hlength => ?_
      exact Nat.succ_lt_succ hlength

/-- A spelling of a number is the one that is written, or it is longer. -/
private theorem Spells.eq_encode_or_length_lt {form : Bytes} (h : Spells form n) :
    form = encode n ∨ (encode n).length < form.length := by
  obtain @⟨front, last, n, hshort, hmore, hclear, hn⟩ := h
  rw [encode, ← hn]
  exact eq_groups_or_length_lt (Nat.le_sub_one_of_lt hshort) hmore hclear

theorem shortest (n : UInt32) : Shortest n where
  length_eq := length_encode n
  reads position rest := by
    rw [← length_encode]
    exact Decoder.Reads.varint n position rest
  lt_length position form hr hne := by
    rcases hd : decode.runAt ⟨position, form⟩ with ⟨answer, c⟩
    rw [hd] at hr
    obtain rfl : answer = .ok n := hr
    obtain ⟨spelled, hform, -, hs⟩ := consumes_decode _ _ _ hd
    dsimp only at hform
    rw [← length_encode, hform, List.length_append]
    obtain rfl | hlt := hs.eq_encode_or_length_lt
    -- the spelling is the written one, so that something else must follow in `form`
    · have hrest : c.rest ≠ [] := fun hnil => hne (by rw [hform, hnil, List.append_nil])
      have := List.length_pos_iff.mpr hrest
      omega
    · omega

/-- Decoding accepts just the varints of 32 bits, and a number is written with the one shortest of
its spellings. -/
theorem deciphers_and_shortest (position : Nat) (bytes : Bytes) (n : UInt32) :
    Deciphers position bytes ∧ Shortest n :=
  ⟨deciphers position bytes, shortest n⟩

/-- A longer spelling of one is read as well. -/
example : decode.read [0x81, 0x80, 0x00, 0x07] = .ok (1, [0x07]) := by decide

end Varint

end PacketSession
