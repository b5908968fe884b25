import Mathlib.Data.Nat.Bitwise
import PacketSession.Wire.Field
import PacketSession.Proofs.Wire.Exact

/-!
# Reading by index

A `Cursor` holds the bytes that are left, so that there is nothing outside of them to be touched. A
`Scan` holds all of the bytes and an index into them. Every access through it says which bytes it
means, and one that is not in the data ends everything: it has no answer, and there is nothing to go
on with (`ScanM`). Varints are put together bit by bit here, in a word of 32 bits.

Whatever is called, a scan within its data stays within, and finds what a cursor at the same place
finds (`ScanM.follows_perform`).
-/

namespace PacketSession

variable {α β : Type}

/-- A byte string and an index into it. -/
structure Scan where
  /-- All of the bytes. -/
  data : Bytes
  /-- The index of the next one. -/
  position : Nat
deriving DecidableEq

/-- The index of the first byte. -/
def Scan.start (data : Bytes) : Scan := ⟨data, 0⟩

/-- Readers by index; there is no answer once bytes outside of the data were asked for. -/
abbrev ScanM := ExceptT DecodeError (StateT Scan Option)

namespace ScanM

/-! ### What asks for bytes -/

/-- Everything ends. -/
def leave : ScanM α := ExceptT.mk fun _ => none

/-- The bytes from one index up to another, both of which have to be in the data. -/
def slice (first last : Nat) : ScanM Bytes := do
  let data := (← get).data
  if first ≤ last ∧ last ≤ data.length then return (data.take last).drop first
  leave

/-- The number of bytes behind the index, which has to be in the data. -/
def remaining : ScanM Nat := do
  let s ← get
  if s.position ≤ s.data.length then return s.data.length - s.position
  leave

/-- A byte, which has to be there. -/
def pick (bytes : Bytes) (index : Nat) : ScanM UInt8 :=
  match bytes[index]? with
  | some byte => return byte
  | none => leave

/-- Consumes exactly `count` bytes, or none if there are fewer. -/
def take (count : Nat) : ScanM Bytes := do
  let left ← remaining
  if left < count then throw (.unexpectedEnd (count - left))
  let position := (← get).position
  let front ← slice position (position + count)
  modify fun s => { s with position := position + count }
  return front

/-- Consumes everything left. -/
def takeRest : ScanM Bytes := do
  let s ← get
  let rest ← slice s.position s.data.length
  set { s with position := s.data.length }
  return rest

/-- Refuses leftover bytes. -/
def finish : ScanM Unit := do
  match ← remaining with
  | 0 => return ()
  | count => throw (.trailingBytes count)

/-! ### What is read of them -/

/-- One byte. -/
def byte : ScanM UInt8 := do pick (← take 1) 0

/-- An unsigned big-endian word, copied into exactly as many bytes as it has. -/
def word (width : Nat) : ScanM Nat := do
  let front ← take width
  if front.length = width then return front.value
  leave

/-- A truth value. -/
def bool : ScanM Bool := do
  let byte ← byte
  if byte = 0 then return false
  if byte = 1 then return true
  throw (.invalidBool byte)

/-- A 16-bit word. -/
def u16 : ScanM UInt16 := return UInt16.ofNat (← word 2)

/-- A 32-bit word. -/
def u32 : ScanM UInt32 := return UInt32.ofNat (← word 4)

/-- A signed 32-bit word. -/
def i32 : ScanM Int32 := return (← u32).toInt32

/-- A 64-bit word. -/
def u64 : ScanM UInt64 := return UInt64.ofNat (← word 8)

/-- A signed 64-bit word. -/
def i64 : ScanM Int64 := return (← u64).toInt64

/-- A length or count, which must not be negative. -/
def length : ScanM Nat := do
  let raw ← i32
  if raw < 0 then throw (.negativeLength raw)
  return raw.toInt.toNat

/-- At most `left` more groups of a varint; each is shifted behind those before it. -/
def groups : (left : Nat) → (value : UInt32) → ScanM UInt32
  | 0, _ => throw .varintTooLong
  | left + 1, value => do
    let index := Varint.maxLength - (left + 1)
    let byte ← byte
    let group := (byte &&& 0x7F).toUInt32
    if index = Varint.maxLength - 1 ∧ 0x0F < group then throw .varintTooLong
    let value := value ||| group <<< UInt32.ofNat (7 * index)
    if byte &&& 0x80 = 0 then return value
    groups left value

/-- A varint. -/
def varint : ScanM UInt32 := groups Varint.maxLength 0

/-- A byte string behind its length. -/
def counted : ScanM Bytes := do
  take (← varint).toNat

/-- A text behind the length of its UTF-8 form. -/
def text : ScanM String := do
  match Bytes.toText? (← counted) with
  | some s => return s
  | none => throw .invalidUtf8

/-- A field of this kind. -/
def field : FieldKind → ScanM Field
  | .u8 => return .u8 (← byte)
  | .bool => return .bool (← bool)
  | .u16 => return .u16 (← u16)
  | .i32 => return .i32 (← i32)
  | .u32 => return .u32 (← u32)
  | .i64 => return .i64 (← i64)
  | .u64 => return .u64 (← u64)
  | .f32 => return .f32 (← u32)
  | .f64 => return .f64 (← u64)
  | .varint => return .varint (← varint)
  | .raw count => return .raw (← take count)
  | .bytes => return .bytes (← counted)
  | .text => return .text (← text)

/-- Performs one call on a reader. -/
def perform : ReaderCall → ScanM ReaderAnswer
  | .field kind => return .field (← field kind)
  | .length => return .length (← length)
  | .rest => return .rest (← takeRest)
  | .finish => do
    finish
    return .finished

/-! ### Runs -/

section

variable {m : ScanM α} {f : α → ScanM β} {s s' : Scan} {data : Bytes} {position : Nat}

theorem run_get_bind (f : Scan → ScanM α) (s : Scan) :
    (get >>= f : ScanM α).run.run s = (f s).run.run s := rfl

theorem run_bind_of_ok {a : α} (h : m.run.run s = some (.ok a, s')) :
    (m >>= f).run.run s = (f a).run.run s' := by
  rw [ExceptT.run_bind, StateT.run_bind, h]
  rfl

/-- A reader that fails ends the whole call, with the index where it stopped. -/
theorem run_bind_of_error {cause : DecodeError} (h : m.run.run s = some (.error cause, s')) :
    (m >>= f).run.run s = some (.error cause, s') := by
  rw [ExceptT.run_bind, StateT.run_bind, h]
  rfl

/-- Within the data, the number of bytes that are left has an answer, and asking for it moves
nothing. -/
theorem run_remaining (h : position ≤ data.length) :
    remaining.run.run ⟨data, position⟩ = some (.ok (data.length - position), ⟨data, position⟩) := by
  rw [remaining, run_get_bind, if_pos h]
  rfl

/-- A slice has an answer if both of its indices are in the data and in order. -/
private theorem run_slice {first last : Nat} (h : first ≤ last) (hl : last ≤ data.length) :
    (slice first last).run.run ⟨data, position⟩ =
      some (.ok ((data.take last).drop first), ⟨data, position⟩) := by
  rw [slice, run_get_bind, if_pos ⟨h, hl⟩]
  rfl

end

/-! ### Scans and cursors -/

/-- Wherever a scan is in its data, it has an answer and stays there without going back, and both
are what a cursor with the bytes behind the index comes to. -/
def Follows (m : ScanM α) (d : Decoder α) : Prop :=
  ∀ data position, position ≤ data.length → ∃ answer after,
    position ≤ after ∧ after ≤ data.length ∧
    m.run.run ⟨data, position⟩ = some (answer, ⟨data, after⟩) ∧
    d.runAt ⟨position, data.drop position⟩ = (answer, ⟨after, data.drop after⟩)

namespace Follows

theorem pure (a : α) : Follows (Pure.pure a) (Pure.pure a) :=
  fun _ _ h => ⟨.ok a, _, le_rfl, h, rfl, rfl⟩

theorem throw (cause : DecodeError) : Follows (throw cause : ScanM α) (throw cause) :=
  fun _ _ h => ⟨.error cause, _, le_rfl, h, rfl, rfl⟩

/-- What goes on may rely on what the first reader gives. -/
theorem bind_of {m : ScanM α} {d : Decoder α} {f : α → ScanM β} {g : α → Decoder β}
    (hd : Follows m d) (hg : ∀ a c c', d.runAt c = (.ok a, c') → Follows (f a) (g a)) :
    Follows (m >>= f) (d >>= g) := by
  intro data position h
  obtain ⟨answer, middle, hle, hmiddle, hm, hd⟩ := hd data position h
  cases answer with
  | error cause =>
    refine ⟨.error cause, middle, hle, hmiddle, run_bind_of_error hm, ?_⟩
    rw [Decoder.runAt_bind, hd]
  | ok a =>
    obtain ⟨answer, after, hle', hafter, hf, hg⟩ := hg a _ _ hd data middle hmiddle
    refine ⟨answer, after, hle.trans hle', hafter, (run_bind_of_ok hm).trans hf, ?_⟩
    rw [Decoder.runAt_bind, hd]
    exact hg

/-- A scan and a cursor that agree on two readers agree on the one behind the other. -/
theorem bind {m : ScanM α} {d : Decoder α} {f : α → ScanM β} {g : α → Decoder β}
    (hd : Follows m d) (hg : ∀ a, Follows (f a) (g a)) : Follows (m >>= f) (d >>= g) :=
  hd.bind_of fun a _ _ _ => hg a

theorem ite {p : Prop} [Decidable p] {m n : ScanM α} {d e : Decoder α} (hm : p → Follows m d)
    (hn : ¬ p → Follows n e) : Follows (if p then m else n) (if p then d else e) := by
  split
  next hp => exact hm hp
  next hp => exact hn hp

end Follows

/-- Only as many bytes are asked for as there are. -/
theorem follows_take (count : Nat) : Follows (take count) (Decoder.take count) := by
  intro data position h
  have hlength : (data.drop position).length = data.length - position := List.length_drop
  have hrun : (take count).run.run ⟨data, position⟩ = _ := run_bind_of_ok (run_remaining h)
  rw [hrun]
  obtain hlt | hle := Nat.lt_or_ge (data.length - position) count
  · refine ⟨.error (.unexpectedEnd (count - (data.length - position))), position, le_rfl, h, ?_, ?_⟩
    · rw [if_pos hlt]
      rfl
    · rw [Decoder.runAt_take_of_lt (hlength.trans_lt hlt), hlength]
  · have hfits : position + count ≤ data.length := by omega
    refine ⟨.ok ((data.drop position).take count), position + count, Nat.le_add_right _ _, hfits,
      ?_, ?_⟩
    · rw [if_neg (Nat.not_lt.mpr hle), run_get_bind,
        run_bind_of_ok (run_slice (Nat.le_add_right _ _) hfits), List.take_drop]
      rfl
    · rw [Decoder.runAt_take_of_le (hle.trans_eq hlength.symm), List.drop_drop]

/-- All that is left may be empty, and the index then stays at the end of the data. -/
private theorem follows_takeRest : Follows takeRest Decoder.takeRest := by
  intro data position h
  refine ⟨.ok (data.drop position), data.length, h, le_rfl, ?_, ?_⟩
  · rw [takeRest, run_get_bind, run_bind_of_ok (run_slice h le_rfl), List.take_length]
    rfl
  · change (Except.ok _, Cursor.mk (position + (data.drop position).length) []) = _
    rw [List.length_drop, List.drop_length, Nat.add_sub_cancel' h]

/-- Leftover bytes are refused with their number, and stay where they are. -/
theorem follows_finish : Follows finish Decoder.finish := by
  intro data position h
  have hlength : (data.drop position).length = data.length - position := List.length_drop
  have hrun : finish.run.run ⟨data, position⟩ = _ := run_bind_of_ok (run_remaining h)
  have hcursor : Decoder.finish.runAt ⟨position, data.drop position⟩ =
      (match (data.drop position).length with
        | 0 => (.ok (), ⟨position, data.drop position⟩)
        | count => (.error (.trailingBytes count), ⟨position, data.drop position⟩)) := rfl
  rw [hrun, hcursor, hlength]
  cases data.length - position with
  | zero => exact ⟨.ok (), position, le_rfl, h, rfl, rfl⟩
  | succ count => exact ⟨.error (.trailingBytes (count + 1)), position, le_rfl, h, rfl, rfl⟩

/-- A cursor that gives bytes gives as many as it was asked for. -/
private theorem length_of_take {count : Nat} {bytes : Bytes} {c c' : Cursor}
    (h : (Decoder.take count).runAt c = (.ok bytes, c')) : bytes.length = count := by
  obtain ⟨_, -, -, -, hlength⟩ := Decoder.Consumes.take count c bytes c' h
  exact hlength

/-- A byte that was consumed is there. -/
theorem follows_byte : Follows byte Decoder.byte := by
  refine (follows_take 1).bind_of fun bytes _ _ h => ?_
  obtain ⟨b, rfl⟩ := List.length_eq_one_iff.mp (length_of_take h)
  have hb : UInt8.ofNat (Bytes.value [b]) = b := by simp [Bytes.value]
  rw [hb]
  exact .pure b

/-- As many bytes are copied as were consumed. -/
theorem follows_word (width : Nat) : Follows (word width) (Decoder.word width) := by
  refine (follows_take width).bind_of fun bytes _ _ h => ?_
  rw [if_pos (length_of_take h)]
  exact .pure bytes.value

/-- One byte is consumed in any case, also if it is no truth value. -/
private theorem follows_bool : Follows bool Decoder.bool := by
  refine follows_byte.bind fun b => ?_
  by_cases hzero : b = 0
  · subst hzero
    exact .pure false
  by_cases hone : b = 1
  · subst hone
    exact .pure true
  rw [if_neg hzero, if_neg hone]
  split
  · exact absurd rfl hzero
  · exact absurd rfl hone
  · exact .throw _

private theorem follows_u16 : Follows u16 Decoder.u16 := (follows_word 2).bind fun _ => .pure _

private theorem follows_u32 : Follows u32 Decoder.u32 := (follows_word 4).bind fun _ => .pure _

private theorem follows_i32 : Follows i32 Decoder.i32 := follows_u32.bind fun _ => .pure _

private theorem follows_u64 : Follows u64 Decoder.u64 := (follows_word 8).bind fun _ => .pure _

private theorem follows_i64 : Follows i64 Decoder.i64 := follows_u64.bind fun _ => .pure _

/-- The four bytes of a length are consumed before its sign is looked at. -/
private theorem follows_length : Follows length Decoder.length := by
  have hword : Decoder.length = do
      let raw ← Decoder.i32
      if raw < 0 then throw (.negativeLength raw)
      return raw.toInt.toNat := by
    simp only [Decoder.length, Decoder.i32, Decoder.u32, bind_assoc, pure_bind]
  rw [hword]
  exact follows_i32.bind fun raw => .ite (fun _ => .throw _) fun _ => .pure _

/-! ### Varints -/

private theorem toNat_lower (b : UInt8) : (b &&& 0x7F).toUInt32.toNat = b.toNat % 128 := by
  rw [UInt8.toNat_toUInt32, UInt8.toNat_and]
  exact Nat.and_two_pow_sub_one_eq_mod b.toNat 7

/-- The top bit says whether a group is the last one, and it is clear just below 128. -/
private theorem and_top_eq_zero (b : UInt8) : b &&& 0x80 = 0 ↔ b.toNat < 128 := by
  have htop : (b &&& 0x80).toNat = (b.toNat.testBit 7).toNat * 2 ^ 7 :=
    (UInt8.toNat_and b 0x80).trans (Nat.and_two_pow b.toNat 7)
  rw [← UInt8.toNat_inj, htop]
  obtain hlt | hle := Nat.lt_or_ge b.toNat 128
  · rw [Nat.testBit_lt_two_pow hlt]
    exact iff_of_true rfl hlt
  · rw [Nat.testBit_of_two_pow_le_and_two_pow_add_one_gt hle b.toNat_lt]
    exact iff_of_false (by decide) (Nat.not_lt.mpr hle)

/-- A group that is shifted behind what is there does not overlap it, so putting the bits together
is addition, and there is no carry out of the word. -/
private theorem toNat_or_shiftLeft {value group : UInt32} {index : Nat} (hi : index < 32)
    (hv : value.toNat < 2 ^ index) (hg : group.toNat * 2 ^ index < 2 ^ 32) :
    (value ||| group <<< UInt32.ofNat index).toNat = value.toNat + group.toNat * 2 ^ index := by
  have hindex : (UInt32.ofNat index).toNat % 32 = index := by
    rw [UInt32.toNat_ofNat']
    omega
  rw [UInt32.toNat_or, UInt32.toNat_shiftLeft, hindex, Nat.shiftLeft_eq, Nat.mod_eq_of_lt hg,
    Nat.or_comm, ← Nat.shiftLeft_eq, ← Nat.shiftLeft_add_eq_or_of_lt hv, Nat.add_comm]

/-- What is shifted together is what is added up. -/
private theorem follows_groups (left : Nat) (hl : left ≤ Varint.maxLength) (value : UInt32)
    (hv : value.toNat < 2 ^ (7 * (Varint.maxLength - left))) :
    Follows (groups left value) do
      return UInt32.ofNat
        (← Varint.decodeGroups left (2 ^ (7 * (Varint.maxLength - left))) value.toNat) := by
  induction left generalizing value with
  | zero => exact .throw _
  | succ left ih =>
    rw [groups, Varint.decodeGroups]
    simp only [bind_assoc]
    refine follows_byte.bind fun b => ?_
    -- speak of how many groups were read, not of how many may follow
    obtain ⟨index, hindex⟩ : ∃ index, index + (left + 1) = 5 :=
      ⟨5 - (left + 1), Nat.sub_add_cancel hl⟩
    obtain hthis : Varint.maxLength - (left + 1) = index := Nat.sub_eq_of_eq_add hindex.symm
    obtain hnext : Varint.maxLength - left = index + 1 := Nat.sub_eq_of_eq_add (by omega)
    rw [hthis] at hv ⊢
    rw [hnext] at ih
    -- only the fifth group can be too large for a word
    have hover : (index = Varint.maxLength - 1 ∧ 0x0F < (b &&& 0x7F).toUInt32) ↔
        left = 0 ∧ 15 < b.toNat % 128 := by
      rw [UInt32.lt_iff_toNat_lt, toNat_lower, Varint.maxLength]
      exact and_congr (by omega) Iff.rfl
    by_cases hlong : left = 0 ∧ 15 < b.toNat % 128
    · rw [if_pos (hover.mpr hlong), if_pos hlong]
      exact .throw _
    -- any other group fits behind those that were read, so shifting it loses nothing
    have hgroup : b.toNat % 128 * 2 ^ (7 * index) < 2 ^ 32 := by
      obtain rfl | hle : index = 4 ∨ index ≤ 3 := by omega
      · omega
      · have hpow : 2 ^ (7 * index) ≤ 2 ^ 21 := Nat.pow_le_pow_right (by decide) (by omega)
        have hprod := Nat.mul_le_mul (Nat.mod_lt b.toNat (show 0 < 128 by decide)).le hpow
        omega
    have hsum : (value ||| (b &&& 0x7F).toUInt32 <<< UInt32.ofNat (7 * index)).toNat =
        value.toNat + b.toNat % 128 * 2 ^ (7 * index) := by
      rw [← toNat_lower] at hgroup ⊢
      exact toNat_or_shiftLeft (by omega) hv hgroup
    rw [if_neg (mt hover.mp hlong), if_neg hlong]
    by_cases hend : b.toNat < 128
    · rw [if_pos ((and_top_eq_zero b).mpr hend), if_pos hend, ← hsum]
      change Follows _ (pure (UInt32.ofNat _))
      rw [UInt32.ofNat_toNat]
      exact .pure _
    · rw [if_neg (mt (and_top_eq_zero b).mp hend), if_neg hend, ← hsum]
      -- the next group weighs as much more as this one holds
      have hweight : 2 ^ (7 * index) * 128 = 2 ^ (7 * (index + 1)) := by
        rw [Nat.mul_add, Nat.pow_add]
      rw [hweight]
      refine ih (by omega) _ ?_
      have hprod := Nat.mul_le_mul_right (2 ^ (7 * index))
        (Nat.mod_lt b.toNat (show 0 < 128 by decide))
      rw [Nat.succ_mul] at hprod
      rw [hsum, ← hweight]
      omega

private theorem follows_varint : Follows varint Varint.decode :=
  follows_groups Varint.maxLength le_rfl 0 (by decide)

/-- The length in front decides how many bytes are asked for, and it is at most what a varint
holds. -/
private theorem follows_counted : Follows counted Decoder.counted :=
  follows_varint.bind fun _ => follows_take _

/-- A text is read as bytes first, so bytes that are no text are consumed. -/
private theorem follows_text : Follows text Decoder.text := by
  refine follows_counted.bind fun bytes => ?_
  cases Bytes.toText? bytes with
  | none => exact .throw _
  | some s => exact .pure s

/-! ### Calls -/

/-- Every kind of field is read by index as it is by a cursor; one case for each kind. -/
private theorem follows_field (kind : FieldKind) : Follows (field kind) kind.decode := by
  cases kind with
  | u8 => exact follows_byte.bind fun _ => .pure _
  | bool => exact follows_bool.bind fun _ => .pure _
  | u16 => exact follows_u16.bind fun _ => .pure _
  | i32 => exact follows_i32.bind fun _ => .pure _
  | u32 => exact follows_u32.bind fun _ => .pure _
  | i64 => exact follows_i64.bind fun _ => .pure _
  | u64 => exact follows_u64.bind fun _ => .pure _
  | f32 => exact follows_u32.bind fun _ => .pure _
  | f64 => exact follows_u64.bind fun _ => .pure _
  | varint => exact follows_varint.bind fun _ => .pure _
  | raw count => exact (follows_take count).bind fun _ => .pure _
  | bytes => exact follows_counted.bind fun _ => .pure _
  | text => exact follows_text.bind fun _ => .pure _

/-- Every call stays within the data, and is what a cursor makes of it. -/
theorem follows_perform (call : ReaderCall) : Follows (perform call) call.perform := by
  cases call with
  | field kind => exact (follows_field kind).bind fun _ => .pure _
  | length => exact follows_length.bind fun _ => .pure _
  | rest => exact follows_takeRest.bind fun _ => .pure _
  | finish => exact follows_finish.bind fun _ => .pure _

end ScanM

end PacketSession
