import Mathlib.Algebra.Order.Ring.Nat
import PacketSession.Wire.Scalar

/-!
# Reading back what was written

A decoder *reads* a written form as a value if it consumes exactly those bytes, wherever they
stand and whatever follows. That is what makes written forms compose: what reads the parts one
after the other reads their concatenation. Lengths are signed on the wire, so they are read back
only below `2 ^ 31`.
-/

namespace PacketSession

variable {α β : Type}

namespace Bytes

/-- One more byte moves the digits of a word up and becomes the lowest of them. -/
theorem value_append_singleton (bytes : Bytes) (byte : UInt8) :
    value (bytes ++ [byte]) = value bytes * 256 + byte.toNat := by
  simp [value]

/-- Reading the digits back gives the number modulo the range of the word. -/
theorem value_bigEndian (width n : Nat) : value (bigEndian width n) = n % 256 ^ width := by
  induction width generalizing n with
  | zero => simp [bigEndian, value, Nat.mod_one]
  | succ width ih =>
    have split : n % 256 ^ (width + 1) = n % 256 + 256 * (n / 256 % 256 ^ width) := by
      rw [Nat.pow_succ', Nat.mod_mul]
    rw [bigEndian, value_append_singleton, ih, UInt8.toNat_ofNat', split]
    omega

/-- Turning a byte array into a list puts the bytes from a position on behind those collected. -/
private theorem toList_loop (bytes : ByteArray) (i : Nat) (collected : Bytes) :
    ByteArray.toList.loop bytes i collected = collected.reverse ++ bytes.data.toList.drop i := by
  fun_induction ByteArray.toList.loop bytes i collected with
  | case1 i collected h ih =>
    have hi : i < bytes.data.toList.length := by simpa using h
    rw [ih, List.drop_eq_getElem_cons hi]
    simp [ByteArray.get!, h]
  | case2 i collected h =>
    rw [List.drop_eq_nil_of_le (by simpa using Nat.le_of_not_lt h), List.append_nil]

/-- A text comes back from its UTF-8 bytes. -/
private theorem toText?_ofText (text : String) : toText? (ofText text) = some text := by
  have hbytes : (ofText text).toByteArray = text.toUTF8 := by
    have hlist : ofText text = text.toUTF8.data.toList := by
      rw [ofText, ByteArray.toList, toList_loop, List.drop_zero, List.reverse_nil, List.nil_append]
    refine ByteArray.ext ?_
    rw [hlist, List.data_toByteArray, Array.toArray_toList]
  have hvalid : text.toUTF8.IsValidUTF8 := text.isValidUTF8
  rw [toText?, hbytes, String.fromUTF8?, dif_pos hvalid]
  rfl

end Bytes

namespace Decoder

/-- A decoder consumes exactly `written` and gives `value`, whatever follows. -/
def Reads (d : Decoder α) (written : Bytes) (value : α) : Prop :=
  ∀ position rest,
    d.runAt ⟨position, written ++ rest⟩ = (.ok value, ⟨position + written.length, rest⟩)

/-- What follows a decoder runs where that stopped, if it succeeded. -/
theorem runAt_bind (d : Decoder α) (f : α → Decoder β) (c : Cursor) :
    (d >>= f).runAt c =
      match d.runAt c with
      | (.ok a, c) => (f a).runAt c
      | (.error e, c) => (.error e, c) := by
  change (ExceptT.bindCont f (d.runAt c).1).run (d.runAt c).2 = _
  rcases d.runAt c with ⟨_ | _, _⟩ <;> rfl

theorem runAt_map (g : α → β) (d : Decoder α) (c : Cursor) :
    (g <$> d).runAt c =
      match d.runAt c with
      | (.ok a, c) => (.ok (g a), c)
      | (.error e, c) => (.error e, c) := by
  rw [map_eq_pure_bind, runAt_bind]
  rfl

theorem read_map (g : α → β) (d : Decoder α) (data : Bytes) :
    (g <$> d).read data = (d.read data).map fun (a, rest) => (g a, rest) := by
  rw [Decoder.read, Decoder.read, readFrom, readFrom, runAt_map]
  rcases d.runAt (.start data) with ⟨_ | _, _⟩ <;> rfl

namespace Reads

theorem pure (a : α) : Reads (Pure.pure a) [] a := fun _ _ => rfl

/-- Parts that are read back are read back one behind the other. -/
theorem bind {d : Decoder α} {f : α → Decoder β} {front back : Bytes} {a : α} {b : β}
    (hd : Reads d front a) (hf : Reads (f a) back b) : Reads (d >>= f) (front ++ back) b := by
  intro position rest
  rw [runAt_bind, List.append_assoc, hd, List.length_append, ← Nat.add_assoc]
  exact hf _ _

/-- What comes after the last byte is read reads nothing. -/
theorem bind_nil {d : Decoder α} {f : α → Decoder β} {written : Bytes} {a : α} {b : β}
    (hd : Reads d written a) (hf : Reads (f a) [] b) : Reads (d >>= f) written b := by
  have h := hd.bind hf
  rwa [List.append_nil] at h

theorem take {count : Nat} {data : Bytes} (h : data.length = count) :
    Reads (Decoder.take count) data data := by
  intro position rest
  subst h
  rw [runAt_take_of_le (by simp)]
  simp

/-- Reading at the front of some bytes stops at the place behind what was read. -/
theorem runAt_start {d : Decoder α} {written : Bytes} {a : α} (hd : Reads d written a)
    (rest : Bytes) : d.runAt (.start (written ++ rest)) = (.ok a, .behind written rest) := by
  rw [Cursor.start, hd, Nat.zero_add, Cursor.behind]

/-- What is read at some place leaves the bytes behind it. -/
theorem readFrom {d : Decoder α} {written : Bytes} {a : α} (hd : Reads d written a)
    (position : Nat) (rest : Bytes) :
    d.readFrom ⟨position, written ++ rest⟩ = .ok (a, rest) := by
  rw [Decoder.readFrom, hd]

/-- What is read at the front of some bytes leaves the others. -/
theorem read {d : Decoder α} {written : Bytes} {a : α} (hd : Reads d written a) (rest : Bytes) :
    d.read (written ++ rest) = .ok (a, rest) :=
  hd.readFrom 0 rest

/-! ### Words -/

/-- A word is read back up to the width that it is written with. -/
theorem word (width n : Nat) :
    Reads (Decoder.word width) (Bytes.bigEndian width n) (n % 256 ^ width) := by
  rw [← Bytes.value_bigEndian]
  exact (take (Bytes.length_bigEndian width n)).bind_nil (.pure _)

/-- A number that fits a word is read back. -/
theorem word_of_lt {width n : Nat} (hn : n < 256 ^ width) :
    Reads (Decoder.word width) (Bytes.bigEndian width n) n := by
  have h := word width n
  rwa [Nat.mod_eq_of_lt hn] at h

theorem byte (b : UInt8) : Reads Decoder.byte [b] b := by
  have hb : UInt8.ofNat (Bytes.value [b]) = b := by simp [Bytes.value]
  have ht : Reads (Decoder.take 1) [b] [b] := take rfl
  have h : Reads Decoder.byte [b] (UInt8.ofNat (Bytes.value [b])) := ht.bind_nil (.pure _)
  rwa [hb] at h

theorem bool (b : Bool) : Reads Decoder.bool (Bytes.bool b) b := by
  cases b with
  | false => exact (byte 0).bind_nil (.pure false)
  | true => exact (byte 1).bind_nil (.pure true)

/-- A number below `2 ^ 31` is the same as a signed word. -/
theorem toInt_ofNat {n : Nat} (hn : n < 2 ^ 31) : (UInt32.ofNat n).toInt32.toInt = n := by
  have hb : (BitVec.ofNat 32 n).toNat = n := by
    rw [BitVec.toNat_ofNat]
    omega
  change (BitVec.ofNat 32 n).toInt = n
  rw [BitVec.toInt_eq_toNat_of_lt (by omega), hb]

/-- A length below `2 ^ 31` is read back. -/
theorem length {n : Nat} (hn : n < 2 ^ 31) : Reads Decoder.length (Bytes.size n) n := by
  refine (word_of_lt (by omega)).bind_nil ?_
  have hi := toInt_ofNat hn
  have hpos : ¬ (UInt32.ofNat n).toInt32 < 0 := by
    rw [Int32.lt_iff_toInt_lt, hi]
    simp
  simp only [if_neg hpos, hi]
  exact .pure n

/-! ### Varints -/

/-- The groups of a number that fits in them are read back, on top of what was read before. -/
theorem groups (more n weight sum : Nat) (hn : n < 2 ^ (7 * more + 4)) :
    Reads (Varint.decodeGroups (more + 1) weight sum) (Varint.groups more n)
      (sum + n * weight) := by
  induction more generalizing n weight sum with
  | zero =>
    -- the last group that is allowed has four bits, and nothing of the number is left behind it
    have hb : (UInt8.ofNat n).toNat = n := by
      rw [UInt8.toNat_ofNat']
      omega
    refine (byte _).bind_nil ?_
    have hm : n % 128 = n := by omega
    simp only [hb, hm]
    rw [if_neg (by omega), if_pos (by omega)]
    exact .pure _
  | succ more ih =>
    rw [Varint.groups]
    split
    case isTrue hlt =>
      have hb : (UInt8.ofNat n).toNat = n := by
        rw [UInt8.toNat_ofNat']
        omega
      refine (byte _).bind_nil ?_
      rw [if_neg (by omega), hb, if_pos hlt, Nat.mod_eq_of_lt hlt]
      exact .pure _
    case isFalse hge =>
      have hb : (UInt8.ofNat (n % 128 + 128)).toNat = n % 128 + 128 := by
        rw [UInt8.toNat_ofNat']
        omega
      -- the lower seven bits now, the others with the weight of the next group
      have hsum : sum + n * weight = sum + n % 128 * weight + n / 128 * (weight * 128) := by
        have := Nat.mod_add_div n 128
        grind
      have hn' : n / 128 < 2 ^ (7 * more + 4) := by
        have hpow : 2 ^ (7 * (more + 1) + 4) = 2 ^ (7 * more + 4) * 128 := by
          rw [Nat.mul_succ, Nat.add_right_comm, Nat.pow_add 2 _ 7]
        rw [Nat.div_lt_iff_lt_mul (by decide), ← hpow]
        exact hn
      refine (byte (UInt8.ofNat (n % 128 + 128))).bind ?_
      rw [if_neg (by omega), hb, if_neg (by omega), Nat.add_mod_right, Nat.mod_mod, hsum]
      exact ih (n / 128) (weight * 128) _ hn'

/-- The written form of a varint is read back, whatever follows it. -/
theorem varint (n : UInt32) : Reads Varint.decode (Varint.encode n) n := by
  have h := groups 4 n.toNat 1 0 n.toNat_lt
  rw [Nat.zero_add, Nat.mul_one] at h
  have hd : Reads Varint.decode (Varint.encode n) (UInt32.ofNat n.toNat) := h.bind_nil (.pure _)
  rwa [UInt32.ofNat_toNat] at hd

/-! ### Texts -/

/-- A byte string is read back if its length fits a word. -/
theorem counted {data : Bytes} (h : data.length < 2 ^ 32) :
    Reads Decoder.counted (Bytes.counted data) data := by
  have hn : (UInt32.ofNat data.length).toNat = data.length := by
    rw [UInt32.toNat_ofNat']
    exact Nat.mod_eq_of_lt h
  exact (varint _).bind (take hn.symm)

/-- A text is read back if the length of its UTF-8 form fits a word. -/
theorem text {s : String} (h : (Bytes.ofText s).length < 2 ^ 32) :
    Reads Decoder.text (Bytes.text s) s := by
  refine (counted h).bind_nil ?_
  rw [Bytes.toText?_ofText]
  exact .pure s

end Reads

end Decoder

end PacketSession
