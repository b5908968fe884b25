import Mathlib.Tactic.Ring
import PacketSession.Proofs.Wire.Exact

/-!
# Which bytes are a varint

A number has several spellings as a varint: groups of seven bits, least significant first, in at
most five bytes, of which all but the last say that another one follows. Every byte string begins
with a spelling, ends too early (`Varint.Truncated`) or goes on for too long (`Varint.Overlong`),
and decoding tells these apart: `Varint.Spells.reads`, `Varint.Truncated.runAt_eq` and
`Varint.Overlong.runAt_eq` say what comes of each and where the cursor stops.
-/

namespace PacketSession

namespace Varint

/-- The number that groups of seven bits make up, least significant first. -/
def number : Bytes → Nat
  | [] => 0
  | byte :: bytes => byte.toNat % 128 + 128 * number bytes

/-- Bytes spell a number: all but the last say that another one follows, there are at most five,
and their groups make up the number. -/
inductive Spells : Bytes → UInt32 → Prop
  | intro {front : Bytes} {last : UInt8} {n : UInt32} :
      front.length < maxLength → (∀ byte ∈ front, 128 ≤ byte.toNat) → last.toNat < 128 →
      number (front ++ [last]) = n.toNat → Spells (front ++ [last]) n

/-- Fewer than five bytes are there, and each says that another one follows. -/
structure Truncated (bytes : Bytes) : Prop where
  short : bytes.length < maxLength
  more : ∀ byte ∈ bytes, 128 ≤ byte.toNat

/-- Four bytes say that another one follows, and the fifth says so as well or holds more than the
four bits that are left. -/
inductive Overlong : Bytes → Prop
  | intro {front : Bytes} {fifth : UInt8} {rest : Bytes} :
      front.length + 1 = maxLength → (∀ byte ∈ front, 128 ≤ byte.toNat) → 16 ≤ fifth.toNat →
      Overlong (front ++ fifth :: rest)

/-! ### The number in a spelling -/

private theorem number_append_singleton (front : Bytes) (last : UInt8) :
    number (front ++ [last]) = number front + 128 ^ front.length * (last.toNat % 128) := by
  induction front with
  | nil => simp [number]
  | cons byte front ih =>
    rw [List.cons_append, number, ih, number, List.length_cons, Nat.pow_succ']
    ring

private theorem number_lt (bytes : Bytes) : number bytes < 128 ^ bytes.length := by
  induction bytes with
  | nil => simp [number]
  | cons byte bytes ih =>
    have hb := Nat.mod_lt byte.toNat (show 0 < 128 by decide)
    rw [number, List.length_cons, Nat.pow_succ']
    omega

/-- The last byte of a spelling with five bytes holds at most four bits. -/
theorem last_lt_of_number_lt {front : Bytes} {last : UInt8} (h : last.toNat < 128)
    (hn : number (front ++ [last]) < 2 ^ 32) (hf : front.length + 1 = maxLength) :
    last.toNat < 16 := by
  obtain hl : front.length = 4 := by simpa [maxLength] using hf
  rw [number_append_singleton, hl, Nat.mod_eq_of_lt h] at hn
  omega

/-! ### Reading group by group -/

section Groups

open Decoder

variable {left weight sum position : Nat} {byte : UInt8} {rest : Bytes}

private theorem runAt_decodeGroups_nil :
    (decodeGroups (left + 1) weight sum).runAt ⟨position, []⟩ =
      (.error (.unexpectedEnd 1), ⟨position, []⟩) := by
  rw [decodeGroups, runAt_bind, Decoder.byte, runAt_bind, runAt_take_of_lt (by simp)]
  rfl

private theorem runAt_decodeGroups_cons :
    (decodeGroups (left + 1) weight sum).runAt ⟨position, byte :: rest⟩ =
      if left = 0 ∧ 15 < byte.toNat % 128 then (.error .varintTooLong, ⟨position + 1, rest⟩)
      else if byte.toNat < 128 then
        (.ok (sum + byte.toNat % 128 * weight), ⟨position + 1, rest⟩)
      else (decodeGroups left (weight * 128) (sum + byte.toNat % 128 * weight)).runAt
        ⟨position + 1, rest⟩ := by
  have hb : Decoder.byte.runAt ⟨position, byte :: rest⟩ = (.ok byte, ⟨position + 1, rest⟩) :=
    Reads.byte byte position rest
  rw [decodeGroups, runAt_bind, hb]
  dsimp only
  split_ifs <;> rfl

/-- Bytes that say that another one follows are added up, as long as a further group has room. -/
theorem runAt_decodeGroups_append {front : Bytes} (hm : ∀ byte ∈ front, 128 ≤ byte.toNat) :
    (decodeGroups (left + 1 + front.length) weight sum).runAt ⟨position, front ++ rest⟩ =
      (decodeGroups (left + 1) (128 ^ front.length * weight) (sum + number front * weight)).runAt
        ⟨position + front.length, rest⟩ := by
  induction front generalizing weight sum position with
  | nil => simp [number]
  | cons byte front ih =>
    obtain ⟨hb, hfront⟩ := List.forall_mem_cons.mp hm
    rw [List.length_cons, List.cons_append, ← Nat.add_assoc, runAt_decodeGroups_cons,
      if_neg (by omega), if_neg (by omega), ih hfront]
    have hw : 128 ^ front.length * (weight * 128) = 128 ^ (front.length + 1) * weight := by ring
    have hs : sum + byte.toNat % 128 * weight + number front * (weight * 128) =
        sum + number (byte :: front) * weight := by
      rw [number]
      ring
    rw [hw, hs, Nat.add_right_comm, Nat.add_assoc]

end Groups

/-! ### What decoding accepts -/

theorem Spells.reads {form : Bytes} {n : UInt32} (h : Spells form n) :
    Decoder.Reads decode form n := by
  obtain @⟨front, last, n, hf, hm, hlast, hn⟩ := h
  intro position rest
  obtain ⟨left, hleft⟩ : ∃ left, maxLength = left + 1 + front.length :=
    ⟨maxLength - 1 - front.length, by omega⟩
  have hroom : ¬ (left = 0 ∧ 15 < last.toNat % 128) := by
    rintro ⟨rfl, hlt⟩
    have := last_lt_of_number_lt hlast (by rw [hn]; exact n.toNat_lt) (by omega)
    omega
  have hsum : 0 + number front * 1 + last.toNat % 128 * (128 ^ front.length * 1) = n.toNat := by
    rw [← hn, number_append_singleton]
    ring
  rw [decode, Decoder.runAt_bind, hleft, List.append_assoc, runAt_decodeGroups_append hm,
    List.singleton_append, runAt_decodeGroups_cons, if_neg hroom, if_pos hlast, hsum,
    List.length_append, List.length_singleton, ← Nat.add_assoc]
  dsimp only
  rw [UInt32.ofNat_toNat]
  rfl

private theorem runAt_eq_error_of_groups {c c' : Cursor} {cause : DecodeError}
    (h : (decodeGroups maxLength 1 0).runAt c = (.error cause, c')) :
    decode.runAt c = (.error cause, c') := by
  rw [decode, Decoder.runAt_bind, h]

/-- Everything was consumed when the next byte is missing. -/
theorem Truncated.runAt_eq {bytes : Bytes} (h : Truncated bytes) (position : Nat) :
    decode.runAt ⟨position, bytes⟩ =
      (.error (.unexpectedEnd 1), ⟨position + bytes.length, []⟩) := by
  have hshort := h.short
  obtain ⟨left, hleft⟩ : ∃ left, maxLength = left + 1 + bytes.length :=
    ⟨maxLength - 1 - bytes.length, by omega⟩
  have hr : (decodeGroups maxLength 1 0).runAt ⟨position, bytes ++ []⟩ =
      (.error (.unexpectedEnd 1), ⟨position + bytes.length, []⟩) := by
    rw [hleft, runAt_decodeGroups_append h.more, runAt_decodeGroups_nil]
  rw [List.append_nil] at hr
  exact runAt_eq_error_of_groups hr

/-- Five bytes were consumed when there are too many of them, or too many bits. -/
theorem Overlong.runAt_eq {bytes : Bytes} (h : Overlong bytes) (position : Nat) :
    decode.runAt ⟨position, bytes⟩ =
      (.error .varintTooLong, ⟨position + maxLength, bytes.drop maxLength⟩) := by
  obtain @⟨front, fifth, rest, hf, hm, hfifth⟩ := h
  have hr : (decodeGroups (0 + 1 + front.length) 1 0).runAt ⟨position, front ++ fifth :: rest⟩ =
      (.error .varintTooLong, ⟨position + front.length + 1, rest⟩) := by
    rw [runAt_decodeGroups_append hm, runAt_decodeGroups_cons]
    split_ifs with hover hlast
    · rfl
    · omega
    · rfl
  have hrest : (front ++ fifth :: rest).drop (front.length + 1) = rest := by
    rw [← List.drop_drop, List.drop_left]
    rfl
  rw [Nat.zero_add, Nat.add_comm 1, Nat.add_assoc, hf] at hr
  rw [hf] at hrest
  rw [hrest]
  exact runAt_eq_error_of_groups hr

theorem Truncated.runAt {bytes : Bytes} (h : Truncated bytes) (position : Nat) :
    (decode.runAt ⟨position, bytes⟩).1 = .error (.unexpectedEnd 1) :=
  congrArg Prod.fst (h.runAt_eq position)

theorem Overlong.runAt {bytes : Bytes} (h : Overlong bytes) (position : Nat) :
    (decode.runAt ⟨position, bytes⟩).1 = .error .varintTooLong :=
  congrArg Prod.fst (h.runAt_eq position)

/-- Bytes of the form of a spelling are one, unless the fifth byte holds too much. -/
theorem spells_ofNat {front : Bytes} {last : UInt8} (hf : front.length < maxLength)
    (hm : ∀ byte ∈ front, 128 ≤ byte.toNat) (hlast : last.toNat < 128)
    (hroom : front.length + 1 = maxLength → last.toNat < 16) :
    Spells (front ++ [last]) (UInt32.ofNat (number (front ++ [last]))) := by
  refine .intro hf hm hlast ?_
  rw [UInt32.toNat_ofNat', Nat.mod_eq_of_lt]
  have hn := number_lt (front ++ [last])
  rw [List.length_append, List.length_singleton] at hn
  by_cases hl : front.length + 1 = maxLength
  · have hfront := number_lt front
    have hlast := hroom hl
    obtain hl : front.length = 4 := by simpa [maxLength] using hl
    rw [hl] at hfront
    rw [number_append_singleton, hl]
    omega
  · have hpow : 128 ^ (front.length + 1) ≤ 128 ^ 4 :=
      Nat.pow_le_pow_right (by decide) (by rw [maxLength] at hf hl; omega)
    omega

private theorem overlong_of_le {front : Bytes} (hf : maxLength ≤ front.length)
    (hm : ∀ byte ∈ front, 128 ≤ byte.toNat) (rest : Bytes) : Overlong (front ++ rest) := by
  have hlt : 4 < front.length := hf
  have hsplit : front ++ rest = front.take 4 ++ front[4] :: (front.drop 5 ++ rest) := by
    rw [← List.cons_append, ← List.drop_eq_getElem_cons hlt, ← List.append_assoc,
      List.take_append_drop]
  have hfifth := hm front[4] (List.getElem_mem hlt)
  rw [hsplit]
  refine .intro ?_ (fun byte hb => hm byte (List.mem_of_mem_take hb)) (by omega)
  rw [List.length_take, Nat.min_eq_left (by omega), maxLength]

/-- Either every byte says that another one follows, or a first one does not. -/
private theorem forall_or_exists_last (bytes : Bytes) :
    (∀ byte ∈ bytes, 128 ≤ byte.toNat) ∨
      ∃ front last rest, bytes = front ++ last :: rest ∧ (∀ byte ∈ front, 128 ≤ byte.toNat) ∧
        last.toNat < 128 := by
  induction bytes with
  | nil => exact .inl (by simp)
  | cons byte bytes ih =>
    obtain hb | hb := Nat.lt_or_ge byte.toNat 128
    · exact .inr ⟨[], byte, bytes, rfl, by simp, hb⟩
    obtain hall | ⟨front, last, rest, rfl, hm, hlast⟩ := ih
    · exact .inl (List.forall_mem_cons.mpr ⟨hb, hall⟩)
    · exact .inr ⟨byte :: front, last, rest, rfl, List.forall_mem_cons.mpr ⟨hb, hm⟩, hlast⟩

/-- Every byte string begins with a number, ends within one or goes on for too long. -/
theorem spells_or (bytes : Bytes) :
    (∃ form rest n, bytes = form ++ rest ∧ Spells form n) ∨ Truncated bytes ∨ Overlong bytes := by
  obtain hall | ⟨front, last, rest, rfl, hm, hlast⟩ := forall_or_exists_last bytes
  · obtain hlt | hle := Nat.lt_or_ge bytes.length maxLength
    · exact .inr (.inl ⟨hlt, hall⟩)
    · have := overlong_of_le hle hall []
      rw [List.append_nil] at this
      exact .inr (.inr this)
  · obtain hlt | hle := Nat.lt_or_ge front.length maxLength
    · by_cases hroom : front.length + 1 = maxLength → last.toNat < 16
      · exact .inl ⟨front ++ [last], rest, _, by simp, spells_ofNat hlt hm hlast hroom⟩
      · obtain ⟨hl, hover⟩ := Classical.not_imp.mp hroom
        exact .inr (.inr (.intro hl hm (by omega)))
    · exact .inr (.inr (overlong_of_le hle hm _))

/-- What decoding consumed spells the number that it gives. -/
theorem consumes_decode : Decoder.Consumes decode Spells := by
  rintro ⟨position, bytes⟩ n c' hr
  obtain ⟨form, rest, n', rfl, hs⟩ | ht | ho := spells_or bytes
  · rw [hs.reads position rest] at hr
    cases hr
    exact ⟨form, rfl, rfl, hs⟩
  · have hcut := ht.runAt position
    rw [hr] at hcut
    cases hcut
  · have hlong := ho.runAt position
    rw [hr] at hlong
    cases hlong

/-- Decoding gives a number just if the bytes begin with a spelling of it. -/
private theorem read_decode_eq_ok_iff {bytes rest : Bytes} {n : UInt32} :
    decode.read bytes = .ok (n, rest) ↔ ∃ form, bytes = form ++ rest ∧ Spells form n := by
  refine ⟨consumes_decode.readFrom, ?_⟩
  rintro ⟨form, rfl, hs⟩
  exact hs.reads.read rest

/-- What is written for a number is one of its spellings. -/
theorem spells_encode (n : UInt32) : Spells (encode n) n := by
  have hr := (Decoder.Reads.varint n).read []
  obtain ⟨form, hform, hs⟩ := read_decode_eq_ok_iff.mp hr
  rw [List.append_nil, List.append_nil] at hform
  rwa [hform]

end Varint

end PacketSession
