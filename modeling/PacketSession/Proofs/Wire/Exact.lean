import Mathlib.Data.List.Induction
import PacketSession.Proofs.Wire.Reads

/-!
# Accepting nothing but written forms

`Decoder.Reads` says that a written form is read back. Its converse is `Decoder.Consumes`: whatever
a decoder accepts, the bytes that it consumed are the ones that stand for the value. A decoder with
both properties for one written form is exact (`Decoder.runAt_eq_ok_iff`), and `Decoder.Refuses`
says that bytes are refused whatever follows. All three compose along the parts of a form.
-/

namespace PacketSession

variable {α β : Type}

namespace Bytes

theorem value_lt (bytes : Bytes) : value bytes < 256 ^ bytes.length := by
  induction bytes using List.reverseRecOn with
  | nil => simp [value]
  | append_singleton front byte ih =>
    have hbyte := byte.toNat_lt
    rw [value_append_singleton, List.length_append, List.length_singleton, Nat.pow_succ]
    omega

/-- A word is written with the digits it was read from. -/
theorem bigEndian_value (bytes : Bytes) : bigEndian bytes.length (value bytes) = bytes := by
  induction bytes using List.reverseRecOn with
  | nil => rfl
  | append_singleton front byte ih =>
    have hbyte := byte.toNat_lt
    have hdiv : (value front * 256 + byte.toNat) / 256 = value front := by omega
    have hlast : UInt8.ofNat (value front * 256 + byte.toNat) = byte := by
      apply UInt8.toNat_inj.mp
      rw [UInt8.toNat_ofNat']
      omega
    rw [value_append_singleton, List.length_append, List.length_singleton, bigEndian, hdiv, ih,
      hlast]

end Bytes

namespace Decoder

/-- Whatever a decoder accepts, the bytes that it consumed are of the form that is asked of the
value. -/
def Consumes (d : Decoder α) (form : Bytes → α → Prop) : Prop :=
  ∀ c a c', d.runAt c = (.ok a, c') → ∃ written,
    c.rest = written ++ c'.rest ∧ c'.position = c.position + written.length ∧ form written a

/-- A decoder fails with `cause` on these bytes, whatever follows. -/
def Refuses (d : Decoder α) (written : Bytes) (cause : DecodeError) : Prop :=
  ∀ position rest, (d.runAt ⟨position, written ++ rest⟩).1 = .error cause

/-! ### What was consumed -/

namespace Consumes

variable {form : Bytes → α → Prop}

theorem pure {a : α} (h : form [] a) : Consumes (Pure.pure a) form := by
  intro c b c' hr
  obtain ⟨rfl, rfl⟩ : a = b ∧ c = c' := by
    change (Except.ok a, c) = (Except.ok b, c') at hr
    simpa using hr
  exact ⟨[], rfl, rfl, h⟩

theorem throw (cause : DecodeError) : Consumes (throw cause) form :=
  fun _ _ _ hr => nomatch hr

theorem imp {d : Decoder α} {form' : Bytes → α → Prop} (hd : Consumes d form)
    (h : ∀ written a, form written a → form' written a) : Consumes d form' := by
  intro c a c' hr
  obtain ⟨written, hrest, hposition, hform⟩ := hd c a c' hr
  exact ⟨written, hrest, hposition, h written a hform⟩

/-- What was consumed by two decoders, one after the other, stands in this order. -/
theorem bind {d : Decoder α} {f : α → Decoder β} {form' : Bytes → β → Prop} (hd : Consumes d form)
    (hf : ∀ front a, form front a → Consumes (f a) fun back b => form' (front ++ back) b) :
    Consumes (d >>= f) form' := by
  intro c b c' hr
  rw [runAt_bind] at hr
  rcases hd' : d.runAt c with ⟨cause | a, c₁⟩
  · rw [hd'] at hr
    cases hr
  · rw [hd'] at hr
    obtain ⟨front, hfront, hposition, hform⟩ := hd c a c₁ hd'
    obtain ⟨back, hback, hposition', hform'⟩ := hf front a hform c₁ b c' hr
    refine ⟨front ++ back, ?_, ?_, hform'⟩
    · rw [hfront, hback, List.append_assoc]
    · rw [hposition', hposition, List.length_append, Nat.add_assoc]

/-- What was read from a place on stood there. -/
theorem readFrom {d : Decoder α} (hd : Consumes d form) {c : Cursor} {rest : Bytes} {a : α}
    (hr : d.readFrom c = .ok (a, rest)) :
    ∃ written, c.rest = written ++ rest ∧ form written a := by
  rw [Decoder.readFrom] at hr
  rcases hd' : d.runAt c with ⟨cause | a', c'⟩
  · rw [hd'] at hr
    cases hr
  · rw [hd'] at hr
    cases hr
    obtain ⟨written, hdata, -, hform⟩ := hd _ _ _ hd'
    exact ⟨written, hdata, hform⟩

theorem take (count : Nat) :
    Consumes (Decoder.take count) fun written data => written = data ∧ data.length = count := by
  intro c data c' hr
  obtain hlt | hle := Nat.lt_or_ge c.rest.length count
  · rw [runAt_take_of_lt hlt] at hr
    cases hr
  · rw [runAt_take_of_le hle] at hr
    cases hr
    have hlength := List.length_take_of_le hle
    refine ⟨c.rest.take count, (List.take_append_drop count c.rest).symm, ?_, rfl, hlength⟩
    rw [hlength]

theorem word (width : Nat) :
    Consumes (Decoder.word width) fun written n =>
      written = Bytes.bigEndian width n ∧ n < 256 ^ width := by
  refine (take width).bind ?_
  rintro front data ⟨rfl, rfl⟩
  refine .pure ⟨?_, Bytes.value_lt front⟩
  rw [List.append_nil, Bytes.bigEndian_value]

theorem byte : Consumes Decoder.byte fun written b => written = [b] := by
  refine (take 1).bind ?_
  rintro front data ⟨rfl, hlength⟩
  obtain ⟨b, rfl⟩ := List.length_eq_one_iff.mp hlength
  exact .pure (by simp [Bytes.value])

theorem bool : Consumes Decoder.bool fun written b => written = Bytes.bool b := by
  refine byte.bind ?_
  rintro front b rfl
  split
  · exact .pure rfl
  · exact .pure rfl
  · exact .throw _

end Consumes

/-! ### Lengths -/

/-- A word is negative as a signed one just if its top bit is set. -/
theorem toInt32_neg_iff {n : Nat} (hn : n < 2 ^ 32) :
    (UInt32.ofNat n).toInt32 < 0 ↔ 2 ^ 31 ≤ n := by
  constructor
  · intro hneg
    by_contra hlt
    rw [Int32.lt_iff_toInt_lt, Reads.toInt_ofNat (by omega)] at hneg
    change (n : Int) < 0 at hneg
    omega
  · intro hle
    have hb : (BitVec.ofNat 32 n).toNat = n := by
      rw [BitVec.toNat_ofNat]
      omega
    rw [Int32.lt_iff_toInt_lt]
    change (BitVec.ofNat 32 n).toInt < 0
    rw [BitVec.toInt_eq_toNat_cond, hb]
    split <;> omega

theorem Consumes.length :
    Consumes Decoder.length fun written n => written = Bytes.size n ∧ n < 2 ^ 31 := by
  refine (word 4).bind ?_
  rintro front n ⟨rfl, hn⟩
  dsimp only
  split
  case isTrue => exact .throw _
  case isFalse hneg =>
    have hlt : n < 2 ^ 31 := by
      rw [toInt32_neg_iff hn] at hneg
      omega
    refine .pure ?_
    rw [List.append_nil, Reads.toInt_ofNat hlt, Int.toNat_natCast]
    exact ⟨rfl, hlt⟩

/-! ### What is refused -/

namespace Refuses

variable {d : Decoder α} {f : α → Decoder β} {front : Bytes} {cause : DecodeError}

/-- What refuses the front of some bytes refuses all of them. -/
theorem bind (hd : Refuses d front cause) (back : Bytes) :
    Refuses (d >>= f) (front ++ back) cause := by
  intro position rest
  have hr := hd position (back ++ rest)
  rw [List.append_assoc, runAt_bind]
  rcases hd' : d.runAt ⟨position, front ++ (back ++ rest)⟩ with ⟨answer, c⟩
  rw [hd'] at hr
  obtain rfl : answer = .error cause := hr
  rfl

/-- A number of `2 ^ 31` or more is refused as the negative number that its word is. -/
theorem length {n : Nat} (hn : n < 2 ^ 32) (hle : 2 ^ 31 ≤ n) :
    Refuses Decoder.length (Bytes.size n) (.negativeLength (UInt32.ofNat n).toInt32) := by
  intro position rest
  rw [Decoder.length, runAt_bind, Bytes.size, Reads.word_of_lt hn]
  dsimp only
  rw [if_pos ((toInt32_neg_iff hn).mpr hle)]
  rfl

end Refuses

/-- What is read at the front of some bytes leaves the others to be refused. -/
theorem Reads.refuses {d : Decoder α} {f : α → Decoder β} {front back : Bytes} {a : α}
    {cause : DecodeError} (hd : Reads d front a) (hf : Refuses (f a) back cause) :
    Refuses (d >>= f) (front ++ back) cause := by
  intro position rest
  rw [runAt_bind, List.append_assoc, hd]
  exact hf _ _

/-! ### Exact decoders -/

/-- A decoder that reads every written form back and consumes nothing else accepts just the written
forms. -/
theorem runAt_eq_ok_iff {d : Decoder α} {encode : α → Bytes} {Fits : α → Prop}
    (hreads : ∀ a, Fits a → Reads d (encode a) a)
    (hconsumes : Consumes d fun written a => written = encode a ∧ Fits a) {c c' : Cursor} {a : α} :
    d.runAt c = (.ok a, c') ↔
      Fits a ∧ c.rest = encode a ++ c'.rest ∧ c'.position = c.position + (encode a).length := by
  constructor
  · intro hr
    obtain ⟨_, hrest, hposition, rfl, hfits⟩ := hconsumes c a c' hr
    exact ⟨hfits, hrest, hposition⟩
  · obtain ⟨position, bytes⟩ := c
    obtain ⟨position', rest⟩ := c'
    rintro ⟨hfits, hrest, hposition⟩
    dsimp only at hrest hposition
    subst hrest hposition
    exact hreads a hfits position rest

end Decoder

end PacketSession
