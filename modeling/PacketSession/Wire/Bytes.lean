/-!
# Byte strings and big-endian words

A frame is a list of bytes, so that a reader can be described by what it takes off the
front and a writer by what it appends. Words travel most significant byte first:
`bigEndian width n` writes the `width` lowest base-256 digits of `n`, and `value` reads any
number of digits back. The two are inverse as long as `n` fits in `width` digits.
-/

namespace PacketSession

/-- A byte string. -/
abbrev Bytes := List UInt8

namespace Bytes

/-- The `width` lowest base-256 digits of `n`, most significant first. -/
def bigEndian : (width n : Nat) → Bytes
  | 0, _ => []
  | width + 1, n => bigEndian width (n / 256) ++ [UInt8.ofNat n]

/-- The number whose base-256 digits are `bytes`, most significant first. -/
def value (bytes : Bytes) : Nat :=
  bytes.foldl (fun n byte => n * 256 + byte.toNat) 0

/-- The UTF-8 bytes of a text. -/
def ofText (text : String) : Bytes :=
  text.toUTF8.toList

/-- The text with these UTF-8 bytes, if they are well formed. -/
def toText? (bytes : Bytes) : Option String :=
  String.fromUTF8? bytes.toByteArray

/-! ### Digits -/

@[simp] theorem length_bigEndian (width n : Nat) : (bigEndian width n).length = width := by
  induction width generalizing n with
  | zero => rfl
  | succ width ih => simp [bigEndian, ih]

end Bytes

end PacketSession
