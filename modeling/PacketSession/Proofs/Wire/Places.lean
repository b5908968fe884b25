import PacketSession.Proofs.Wire.Fields
import PacketSession.Proofs.Wire.Indexed
import PacketSession.Proofs.Wire.Varint

/-!
# Keeping one's place

A reader can be called for anything at any place, also behind a call that failed. What one call
comes to, and how many bytes it consumes, is settled by the bytes that are left
(`ReaderCall.Outcome`). Whatever is called one after the other, a `Scan` is never asked for bytes
outside of its data, and every call starts where the one before it stopped
(`ScanM.keepsPlace_makeCalls`).
-/

namespace PacketSession

open Decoder

variable {α β : Type}

/-! ### What a call comes to -/

/-- How many bytes a field of this kind takes, if there is only one possibility. -/
def FieldKind.width? : FieldKind → Option Nat
  | u8 | bool => some 1
  | u16 => some 2
  | i32 | u32 | f32 => some 4
  | i64 | u64 | f64 => some 8
  | raw count => some count
  | varint | bytes | text => none

/-- How many bytes a call asks for, if it is the same number wherever it is made. -/
def ReaderCall.width? : ReaderCall → Option Nat
  | field kind => kind.width?
  | length => some 4
  | rest | finish => none

/-- The answer of a call when these bytes are left, and how many of them it consumes. -/
inductive ReaderCall.Outcome (left : Bytes) :
    ReaderCall → Except DecodeError ReaderAnswer → (consumed : Nat) → Prop
  /-- The written form of a field of a fixed width comes first. -/
  | fixed {value : Field} {width : Nat} : value.kind.width? = some width →
      value.encode.length = width → value.encode <+: left →
      Outcome left (.field value.kind) (.ok (.field value)) width
  /-- A spelling comes first. -/
  | varint {form : Bytes} {n : UInt32} : Varint.Spells form n → form <+: left →
      Outcome left (.field .varint) (.ok (.field (.varint n))) form.length
  /-- A length comes first, and as many bytes. -/
  | bytes {form body : Bytes} {n : UInt32} : Varint.Spells form n → body.length = n.toNat →
      form ++ body <+: left →
      Outcome left (.field .bytes) (.ok (.field (.bytes body))) (form.length + body.length)
  /-- A length comes first, and as many bytes, which are UTF-8. -/
  | text {form body : Bytes} {n : UInt32} {s : String} : Varint.Spells form n →
      body.length = n.toNat → Bytes.toText? body = some s → form ++ body <+: left →
      Outcome left (.field .text) (.ok (.field (.text s))) (form.length + body.length)
  /-- A word without its top bit comes first. -/
  | length {n : Nat} : n < 2 ^ 31 → Bytes.size n <+: left →
      Outcome left .length (.ok (.length n)) 4
  /-- Everything is taken. -/
  | rest : Outcome left .rest (.ok (.rest left)) left.length
  /-- Nothing is left. -/
  | finished : left = [] → Outcome left .finish (.ok .finished) 0
  /-- Fewer bytes are left than are asked for: nothing is consumed. -/
  | short {call : ReaderCall} {width : Nat} : call.width? = some width → left.length < width →
      Outcome left call (.error (.unexpectedEnd (width - left.length))) 0
  /-- A byte other than zero and one is consumed. -/
  | notBool {byte : UInt8} : 2 ≤ byte.toNat → [byte] <+: left →
      Outcome left (.field .bool) (.error (.invalidBool byte)) 1
  /-- A word with its top bit is consumed. -/
  | negative {n : Nat} : 2 ^ 31 ≤ n → n < 2 ^ 32 → Bytes.size n <+: left →
      Outcome left .length (.error (.negativeLength (UInt32.ofNat n).toInt32)) 4
  /-- Everything is consumed in front of a group that is missing. -/
  | cut {kind : FieldKind} : kind = .varint ∨ kind = .bytes ∨ kind = .text →
      Varint.Truncated left →
      Outcome left (.field kind) (.error (.unexpectedEnd 1)) left.length
  /-- Five groups are consumed when there are more of them or the fifth has too many bits. -/
  | overlong {kind : FieldKind} : kind = .varint ∨ kind = .bytes ∨ kind = .text →
      Varint.Overlong left →
      Outcome left (.field kind) (.error .varintTooLong) Varint.maxLength
  /-- The length is consumed when too few bytes come behind it. -/
  | shortBody {kind : FieldKind} {form body : Bytes} {n : UInt32} : kind = .bytes ∨ kind = .text →
      Varint.Spells form n → left = form ++ body → body.length < n.toNat →
      Outcome left (.field kind) (.error (.unexpectedEnd (n.toNat - body.length))) form.length
  /-- The length is consumed and the bytes behind it, which are not UTF-8. -/
  | illFormed {form body : Bytes} {n : UInt32} : Varint.Spells form n → body.length = n.toNat →
      Bytes.toText? body = none → form ++ body <+: left →
      Outcome left (.field .text) (.error .invalidUtf8) (form.length + body.length)
  /-- Something is left. -/
  | trailing : left ≠ [] → Outcome left .finish (.error (.trailingBytes left.length)) 0

/-- A cursor with these bytes left makes of a call what has to come of it. -/
def ReaderCall.Settled (call : ReaderCall) (position : Nat) (left : Bytes) : Prop :=
  ∃ answer consumed, consumed ≤ left.length ∧
    call.perform.runAt ⟨position, left⟩ = (answer, ⟨position + consumed, left.drop consumed⟩) ∧
    call.Outcome left answer consumed

/-! ### How decoders fail -/

namespace Decoder

/-- A decoder that fails is the last one that runs, and the cursor stays where it failed. -/
private theorem runAt_bind_of_error {d : Decoder α} {f : α → Decoder β} {c c' : Cursor}
    {cause : DecodeError} (h : d.runAt c = (.error cause, c')) :
    (d >>= f).runAt c = (.error cause, c') := by
  rw [runAt_bind, h]

/-- Fewer than `width` bytes are refused, and none of them is consumed. -/
def Short (d : Decoder α) (width : Nat) : Prop :=
  ∀ position left, left.length < width →
    d.runAt ⟨position, left⟩ = (.error (.unexpectedEnd (width - left.length)), ⟨position, left⟩)

namespace Short

theorem take (width : Nat) : Short (Decoder.take width) width := fun _ _ h => runAt_take_of_lt h

theorem bind {d : Decoder α} {f : α → Decoder β} {width : Nat} (h : Short d width) :
    Short (d >>= f) width :=
  fun position left hlt => runAt_bind_of_error (h position left hlt)

end Short

/-- These bytes are consumed and then refused, whatever follows. -/
def Stops (d : Decoder α) (written : Bytes) (cause : DecodeError) : Prop :=
  ∀ position rest,
    d.runAt ⟨position, written ++ rest⟩ = (.error cause, ⟨position + written.length, rest⟩)

namespace Stops

theorem throw (cause : DecodeError) : Stops (throw cause : Decoder α) [] cause := fun _ _ => rfl

theorem bind {d : Decoder α} {f : α → Decoder β} {written : Bytes} {cause : DecodeError}
    (h : Stops d written cause) : Stops (d >>= f) written cause :=
  fun position rest => runAt_bind_of_error (h position rest)

end Stops

/-- What was read before was consumed as well. -/
theorem Reads.stops {d : Decoder α} {f : α → Decoder β} {written : Bytes} {a : α}
    {cause : DecodeError} (hd : Reads d written a) (hf : Stops (f a) [] cause) :
    Stops (d >>= f) written cause := by
  intro position rest
  rw [runAt_bind, hd]
  exact hf _ rest

/-- A byte that is no truth value is consumed before it is refused. -/
theorem Stops.bool {byte : UInt8} (h : 2 ≤ byte.toNat) :
    Stops Decoder.bool [byte] (.invalidBool byte) := by
  refine (Reads.byte byte).stops ?_
  split
  · exact absurd h (by decide)
  · exact absurd h (by decide)
  · exact .throw _

/-- The sign of a length is looked at after its four bytes were consumed. -/
theorem Stops.length {n : Nat} (hle : 2 ^ 31 ≤ n) (hn : n < 2 ^ 32) :
    Stops Decoder.length (Bytes.size n) (.negativeLength (UInt32.ofNat n).toInt32) := by
  refine (Reads.word_of_lt hn).stops ?_
  dsimp only
  rw [if_pos ((toInt32_neg_iff hn).mpr hle)]
  exact .throw _

end Decoder

/-! ### Fields of a fixed width -/

namespace Bytes

variable {bytes : Bytes} {width : Nat}

/-- Bytes are a word that is as wide as they are. -/
theorem bigEndian_value_of_length (h : bytes.length = width) :
    value bytes < 256 ^ width ∧ bigEndian width (value bytes) = bytes := by
  subst h
  exact ⟨value_lt bytes, bigEndian_value bytes⟩

private theorem exists_u16_eq (h : bytes.length = 2) : ∃ n, u16 n = bytes := by
  obtain ⟨hlt, heq⟩ := bigEndian_value_of_length h
  refine ⟨UInt16.ofNat (value bytes), ?_⟩
  rw [u16, UInt16.toNat_ofNat', Nat.mod_eq_of_lt (by omega), heq]

private theorem exists_u32_eq (h : bytes.length = 4) : ∃ n, u32 n = bytes := by
  obtain ⟨hlt, heq⟩ := bigEndian_value_of_length h
  refine ⟨UInt32.ofNat (value bytes), ?_⟩
  rw [u32, UInt32.toNat_ofNat', Nat.mod_eq_of_lt (by omega), heq]

private theorem exists_u64_eq (h : bytes.length = 8) : ∃ n, u64 n = bytes := by
  obtain ⟨hlt, heq⟩ := bigEndian_value_of_length h
  refine ⟨UInt64.ofNat (value bytes), ?_⟩
  rw [u64, UInt64.toNat_ofNat', Nat.mod_eq_of_lt (by omega), heq]

end Bytes

namespace FieldKind

/-- Of a field with a fixed width, nothing is consumed if bytes are missing: they are asked for all
at once. -/
theorem short {kind : FieldKind} {width : Nat} (h : kind.width? = some width) :
    Short kind.decode width := by
  cases kind with
  | varint | bytes | text => cases h
  | u8 => cases h; exact (Short.take 1).bind.bind
  | bool => cases h; exact (Short.take 1).bind.bind.bind
  | u16 => cases h; exact (Short.take 2).bind.bind.bind
  | u32 => cases h; exact (Short.take 4).bind.bind.bind
  | f32 => cases h; exact (Short.take 4).bind.bind.bind
  | i32 => cases h; exact (Short.take 4).bind.bind.bind.bind
  | u64 => cases h; exact (Short.take 8).bind.bind.bind
  | f64 => cases h; exact (Short.take 8).bind.bind.bind
  | i64 => cases h; exact (Short.take 8).bind.bind.bind.bind
  | raw count => cases h; exact (Short.take _).bind

/-- As many bytes as a field has are the written form of one, unless they are no truth value. -/
private theorem exists_encode_eq {kind : FieldKind} {bytes : Bytes}
    (h : kind.width? = some bytes.length) :
    (∃ value : Field, value.kind = kind ∧ value.Fits ∧ value.encode = bytes) ∨
      kind = .bool ∧ ∃ byte : UInt8, bytes = [byte] ∧ 2 ≤ byte.toNat := by
  cases kind with
  | varint | bytes | text => cases h
  | raw count =>
    obtain rfl := Option.some.inj h
    exact .inl ⟨.raw bytes, rfl, trivial, rfl⟩
  | u8 =>
    obtain ⟨b, rfl⟩ := List.length_eq_one_iff.mp (Option.some.inj h).symm
    exact .inl ⟨.u8 b, rfl, trivial, rfl⟩
  | bool =>
    obtain ⟨b, rfl⟩ := List.length_eq_one_iff.mp (Option.some.inj h).symm
    -- only zero and one are truth values
    by_cases hzero : b.toNat = 0
    · obtain rfl : b = 0 := UInt8.toNat_inj.mp hzero
      exact .inl ⟨.bool false, rfl, trivial, rfl⟩
    by_cases hone : b.toNat = 1
    · obtain rfl : b = 1 := UInt8.toNat_inj.mp hone
      exact .inl ⟨.bool true, rfl, trivial, rfl⟩
    exact .inr ⟨rfl, b, rfl, by omega⟩
  | u16 =>
    obtain ⟨n, rfl⟩ := Bytes.exists_u16_eq (Option.some.inj h).symm
    exact .inl ⟨.u16 n, rfl, trivial, rfl⟩
  | u32 =>
    obtain ⟨n, rfl⟩ := Bytes.exists_u32_eq (Option.some.inj h).symm
    exact .inl ⟨.u32 n, rfl, trivial, rfl⟩
  | f32 =>
    obtain ⟨n, rfl⟩ := Bytes.exists_u32_eq (Option.some.inj h).symm
    exact .inl ⟨.f32 n, rfl, trivial, rfl⟩
  | i32 =>
    obtain ⟨n, rfl⟩ := Bytes.exists_u32_eq (Option.some.inj h).symm
    exact .inl ⟨.i32 n.toInt32, rfl, trivial, congrArg Bytes.u32 n.toUInt32_toInt32⟩
  | u64 =>
    obtain ⟨n, rfl⟩ := Bytes.exists_u64_eq (Option.some.inj h).symm
    exact .inl ⟨.u64 n, rfl, trivial, rfl⟩
  | f64 =>
    obtain ⟨n, rfl⟩ := Bytes.exists_u64_eq (Option.some.inj h).symm
    exact .inl ⟨.f64 n, rfl, trivial, rfl⟩
  | i64 =>
    obtain ⟨n, rfl⟩ := Bytes.exists_u64_eq (Option.some.inj h).symm
    exact .inl ⟨.i64 n.toInt64, rfl, trivial, congrArg Bytes.u64 n.toUInt64_toInt64⟩

end FieldKind

/-! ### Every call comes to one of the outcomes -/

namespace ReaderCall

variable {call : ReaderCall} {answer : ReaderAnswer} {cause : DecodeError} {written rest : Bytes}
  {position width : Nat} {left : Bytes}

/-- Bytes that are read back settle a call with what is read. -/
private theorem settled_of_reads (hr : Reads call.perform written answer)
    (ho : call.Outcome (written ++ rest) (.ok answer) written.length) :
    call.Settled position (written ++ rest) := by
  refine ⟨_, _, by simp, ?_, ho⟩
  rw [hr, List.drop_left]

/-- Bytes that are refused settle a call with the error, and with how far they were consumed. -/
private theorem settled_of_stops (hr : Stops call.perform written cause)
    (ho : call.Outcome (written ++ rest) (.error cause) written.length) :
    call.Settled position (written ++ rest) := by
  refine ⟨_, _, by simp, ?_, ho⟩
  rw [hr, List.drop_left]

/-- The calls with a fixed width are refused as a whole if bytes are missing. -/
private theorem short_perform (h : call.width? = some width) : Short call.perform width := by
  cases call with
  | field kind => exact (FieldKind.short h).bind
  | length => cases h; exact (Short.take 4).bind.bind.bind
  | rest | finish => cases h

private theorem settled_of_short (h : call.width? = some width) (hlt : left.length < width) :
    call.Settled position left :=
  ⟨_, 0, Nat.zero_le _, short_perform h position left hlt, .short h hlt⟩

/-- For a field of a fixed width, either bytes are missing, or the written form of one is in front,
or a byte that is no truth value. -/
private theorem settled_fixed {kind : FieldKind} (h : kind.width? = some width) :
    (field kind).Settled position left := by
  obtain hlt | hle := Nat.lt_or_ge left.length width
  · exact settled_of_short h hlt
  have hlength : (left.take width).length = width := List.length_take_of_le hle
  rw [← List.take_append_drop width left]
  obtain ⟨value, rfl, hfits, hvalue⟩ | ⟨rfl, byte, hbyte, htwo⟩ :=
    FieldKind.exists_encode_eq (h.trans (congrArg some hlength.symm))
  · rw [← hvalue] at hlength ⊢
    refine settled_of_reads (hfits.reads.bind_nil (.pure _)) ?_
    exact .fixed (hlength ▸ h) rfl (List.prefix_append _ _)
  · rw [hbyte]
    exact settled_of_stops (Stops.bool htwo).bind.bind
      (.notBool htwo (List.prefix_append _ _))

private theorem settled_length : length.Settled position left := by
  obtain hlt | hle := Nat.lt_or_ge left.length 4
  · exact settled_of_short rfl hlt
  have hlength : (left.take 4).length = 4 := List.length_take_of_le hle
  obtain ⟨hn, hword⟩ := Bytes.bigEndian_value_of_length hlength
  rw [← List.take_append_drop 4 left]
  generalize Bytes.value (left.take 4) = n at hn hword
  rw [← hword] at hlength ⊢
  obtain hlow | hhigh := Nat.lt_or_ge n (2 ^ 31)
  · refine settled_of_reads ((Reads.length hlow).bind_nil (.pure _)) ?_
    rw [hlength]
    exact .length hlow (List.prefix_append _ _)
  · refine settled_of_stops (Stops.length hhigh hn).bind ?_
    rw [hlength]
    exact .negative hhigh hn (List.prefix_append _ _)

/-- A failing varint is all that is read. -/
theorem runAt_of_varint {kind : FieldKind} (h : kind = .varint ∨ kind = .bytes ∨ kind = .text)
    {c c' : Cursor} (hr : Varint.decode.runAt c = (.error cause, c')) :
    (field kind).perform.runAt c = (.error cause, c') := by
  obtain rfl | rfl | rfl := h
  · exact runAt_bind_of_error (runAt_bind_of_error hr)
  · exact runAt_bind_of_error (runAt_bind_of_error (runAt_bind_of_error hr))
  · exact runAt_bind_of_error (runAt_bind_of_error (runAt_bind_of_error (runAt_bind_of_error hr)))

/-- Without a varint at the front, the three kinds of field that start with one fail as it does. -/
private theorem settled_of_not_spells {kind : FieldKind}
    (h : kind = .varint ∨ kind = .bytes ∨ kind = .text)
    (hleft : Varint.Truncated left ∨ Varint.Overlong left) :
    (field kind).Settled position left := by
  obtain hcut | hlong := hleft
  · refine ⟨_, left.length, le_rfl, ?_, .cut h hcut⟩
    rw [List.drop_length]
    exact runAt_of_varint h (hcut.runAt_eq position)
  · refine ⟨_, Varint.maxLength, ?_, runAt_of_varint h (hlong.runAt_eq position), .overlong h hlong⟩
    obtain ⟨hf, -, -⟩ := hlong
    rw [List.length_append, List.length_cons]
    omega

private theorem settled_varint : (field .varint).Settled position left := by
  obtain ⟨form, rest, n, rfl, hs⟩ | hfail := Varint.spells_or left
  · have hr : Reads (FieldKind.decode .varint) form (.varint n) := hs.reads.bind_nil (.pure _)
    exact settled_of_reads (hr.bind_nil (.pure _)) (.varint hs (List.prefix_append _ _))
  · exact settled_of_not_spells (.inl rfl) hfail

/-- Behind a length come too few bytes, or as many as it says. -/
theorem counted_or {form : Bytes} {n : UInt32} (hs : Varint.Spells form n) (position : Nat)
    (rest : Bytes) :
    rest.length < n.toNat ∧ Decoder.counted.runAt ⟨position, form ++ rest⟩ =
        (.error (.unexpectedEnd (n.toNat - rest.length)), ⟨position + form.length, rest⟩) ∨
      ∃ body behind, rest = body ++ behind ∧ body.length = n.toNat ∧
        Reads Decoder.counted (form ++ body) body := by
  obtain hlt | hle := Nat.lt_or_ge rest.length n.toNat
  · refine .inl ⟨hlt, ?_⟩
    rw [Decoder.counted, runAt_bind, hs.reads]
    exact runAt_take_of_lt hlt
  · have hbody : (rest.take n.toNat).length = n.toNat := List.length_take_of_le hle
    exact .inr ⟨_, _, (List.take_append_drop n.toNat rest).symm, hbody, hs.reads.bind (.take hbody)⟩

/-- Behind the length, the bytes are all there or are refused without being consumed. -/
private theorem settled_bytes : (field .bytes).Settled position left := by
  obtain ⟨form, rest, n, rfl, hs⟩ | hfail := Varint.spells_or left
  · obtain ⟨hlt, hr⟩ | ⟨body, behind, rfl, hbody, hr⟩ :=
        counted_or hs position rest
    · refine ⟨_, form.length, by simp, ?_, .shortBody (.inl rfl) hs rfl hlt⟩
      rw [List.drop_left]
      exact runAt_bind_of_error (runAt_bind_of_error hr)
    · rw [← List.append_assoc]
      have hr : Reads (FieldKind.decode .bytes) (form ++ body) (.bytes body) :=
        hr.bind_nil (.pure _)
      refine settled_of_reads (hr.bind_nil (.pure _)) ?_
      rw [List.length_append]
      exact .bytes hs hbody (List.prefix_append _ _)
  · exact settled_of_not_spells (.inr (.inl rfl)) hfail

/-- A text is a byte string first, and it may be ill-formed even if all of its bytes are there. -/
private theorem settled_text : (field .text).Settled position left := by
  obtain ⟨form, rest, n, rfl, hs⟩ | hfail := Varint.spells_or left
  · obtain ⟨hlt, hr⟩ | ⟨body, behind, rfl, hbody, hr⟩ :=
        counted_or hs position rest
    · refine ⟨_, form.length, by simp, ?_, .shortBody (.inr rfl) hs rfl hlt⟩
      rw [List.drop_left]
      exact runAt_bind_of_error (runAt_bind_of_error (runAt_bind_of_error hr))
    · rw [← List.append_assoc]
      cases htext : Bytes.toText? body with
      | none =>
        have hr : Stops Decoder.text (form ++ body) .invalidUtf8 := by
          refine hr.stops ?_
          rw [htext]
          exact .throw _
        refine settled_of_stops hr.bind.bind ?_
        rw [List.length_append]
        exact .illFormed hs hbody htext (List.prefix_append _ _)
      | some s =>
        have hr : Reads Decoder.text (form ++ body) s := by
          refine hr.bind_nil ?_
          rw [htext]
          exact .pure s
        have hr : Reads (FieldKind.decode .text) (form ++ body) (.text s) := hr.bind_nil (.pure _)
        refine settled_of_reads (hr.bind_nil (.pure _)) ?_
        rw [List.length_append]
        exact .text hs hbody htext (List.prefix_append _ _)
  · exact settled_of_not_spells (.inr (.inr rfl)) hfail

private theorem settled_finish : finish.Settled position left := by
  cases left with
  | nil => exact ⟨_, 0, le_rfl, rfl, .finished rfl⟩
  | cons byte left => exact ⟨_, 0, Nat.zero_le _, rfl, .trailing (List.cons_ne_nil _ _)⟩

/-- A call comes to one of the outcomes, wherever it is made. -/
theorem settled (call : ReaderCall) (position : Nat) (left : Bytes) :
    call.Settled position left := by
  cases call with
  | length => exact settled_length
  | rest =>
    refine ⟨_, left.length, le_rfl, ?_, .rest⟩
    rw [List.drop_length]
    rfl
  | finish => exact settled_finish
  | field kind =>
    cases kind with
    | varint => exact settled_varint
    | bytes => exact settled_bytes
    | text => exact settled_text
    | u8 | bool | u16 | i32 | u32 | f32 | i64 | u64 | f64 | raw => exact settled_fixed rfl

end ReaderCall

/-! ### Calls in a row -/

/-- A call on a scan. -/
structure Reading where
  call : ReaderCall
  /-- The index when it was made. -/
  before : Nat
  answer : Except DecodeError ReaderAnswer
  /-- The index when it was answered. -/
  after : Nat
  /-- How many bytes were left then. -/
  left : Nat

/-- The bytes that a call went past. -/
def Reading.covered (data : Bytes) (v : Reading) : Bytes := (data.take v.after).drop v.before

namespace ScanM

/-- Makes a call; a failure is an answer. -/
def makeCall (call : ReaderCall) : ScanM Reading := do
  let before := (← get).position
  let answer ← ExceptT.lift (perform call).run
  let after := (← get).position
  return ⟨call, before, answer, after, ← remaining⟩

/-- Makes calls one after the other, whatever they come to. -/
def makeCalls (calls : List ReaderCall) : ScanM (List Reading) := calls.mapM makeCall

end ScanM

/-- A call does not leave its data. -/
structure Reading.InPlace (data : Bytes) (v : Reading) : Prop where
  /-- The index does not go back. -/
  forward : v.before ≤ v.after
  within : v.after ≤ data.length
  conserved : v.after + v.left = data.length
  /-- A cursor at the same place gives the same answer, and stops at the same place. -/
  runAt_eq : v.call.perform.runAt ⟨v.before, data.drop v.before⟩ =
    (v.answer, ⟨v.after, data.drop v.after⟩)
  /-- What it answers and consumes is what has to come of it. -/
  outcome : v.call.Outcome (data.drop v.before) v.answer (v.after - v.before)

/-- Calls in a row, from one index to another, do not lose their place. -/
structure KeepsPlace (data : Bytes) (first last : Nat) (calls : List ReaderCall)
    (readings : List Reading) : Prop where
  forward : first ≤ last
  within : last ≤ data.length
  /-- All of the calls were made. -/
  calls_eq : readings.map Reading.call = calls
  inPlace : ∀ v ∈ readings, v.InPlace data
  /-- Each is made where the one before it stopped. -/
  chained : readings.map Reading.before ++ [last] = first :: readings.map Reading.after
  /-- Together they went past every byte once. -/
  covered : readings.flatMap (Reading.covered data) = (data.take last).drop first

namespace ScanM

/-- A call that is noted with its answer and the places around it has an answer, and it is in
place. -/
private theorem run_makeCall (call : ReaderCall) {data : Bytes} {position : Nat}
    (h : position ≤ data.length) :
    ∃ v : Reading, (makeCall call).run.run ⟨data, position⟩ = some (.ok v, ⟨data, v.after⟩) ∧
      v.call = call ∧ v.before = position ∧ v.InPlace data := by
  obtain ⟨answer, after, hforward, hwithin, hrun, hcursor⟩ := follows_perform call data position h
  refine ⟨⟨call, position, answer, after, data.length - after⟩, ?_, rfl, rfl, ?_⟩
  · have hlift : (ExceptT.lift (perform call).run : ScanM _).run.run ⟨data, position⟩ =
        some (.ok answer, ⟨data, after⟩) := by
      rw [ExceptT.run_lift, StateT.run_map, hrun]
      rfl
    rw [makeCall, run_get_bind, run_bind_of_ok hlift, run_get_bind,
      run_bind_of_ok (run_remaining hwithin)]
    rfl
  · refine ⟨hforward, hwithin, Nat.add_sub_cancel' hwithin, hcursor, ?_⟩
    obtain ⟨answer', consumed, -, hsettled, houtcome⟩ :=
      call.settled position (data.drop position)
    obtain ⟨rfl, hafter⟩ := Prod.mk.inj (hcursor.symm.trans hsettled)
    obtain rfl : after = position + consumed := congrArg Cursor.position hafter
    rwa [Nat.add_sub_cancel_left]

private theorem exists_keepsPlace (calls : List ReaderCall) {data : Bytes} {first : Nat}
    (h : first ≤ data.length) :
    ∃ readings last, (makeCalls calls).run.run ⟨data, first⟩ = some (.ok readings, ⟨data, last⟩) ∧
      KeepsPlace data first last calls readings := by
  induction calls generalizing first with
  | nil =>
    refine ⟨[], first, rfl, le_rfl, h, rfl, by simp, rfl, ?_⟩
    rw [List.drop_take, Nat.sub_self, List.take_zero]
    rfl
  | cons call calls ih =>
    obtain ⟨v, hv, rfl, rfl, hin⟩ := run_makeCall call h
    obtain ⟨readings, last, hreadings, hkeeps⟩ := ih hin.within
    refine ⟨v :: readings, last, ?_, hin.forward.trans hkeeps.forward, hkeeps.within, ?_, ?_, ?_,
      ?_⟩
    · rw [makeCalls, List.mapM_cons, run_bind_of_ok hv]
      exact run_bind_of_ok hreadings
    · rw [List.map_cons, hkeeps.calls_eq]
    · exact List.forall_mem_cons.mpr ⟨hin, hkeeps.inPlace⟩
    · rw [List.map_cons, List.map_cons, List.cons_append, hkeeps.chained]
    -- what the first call covered lies in front of what the others cover
    · have hlength : v.before ≤ ((data.take last).take v.after).length := by
        have := hin.forward
        have := hin.within
        have := hkeeps.forward
        rw [List.length_take, List.length_take]
        omega
      rw [List.flatMap_cons, hkeeps.covered, Reading.covered]
      conv_rhs => rw [← List.take_append_drop v.after (data.take last)]
      rw [List.drop_append_of_le_length hlength, List.take_take, Nat.min_eq_left hkeeps.forward]

/-- Whatever is called one after the other, no byte outside of the data is asked for, and every call
starts where the one before it stopped. -/
theorem keepsPlace_makeCalls (data : Bytes) (calls : List ReaderCall) :
    ∃ readings last, (makeCalls calls).run.run (.start data) = some (.ok readings, ⟨data, last⟩) ∧
      KeepsPlace data 0 last calls readings :=
  exists_keepsPlace calls (Nat.zero_le _)

end ScanM

end PacketSession
