import PacketSession.Wire.Cursor

/-!
# Variable-length unsigned words

A varint holds 32 bits in one to five bytes: seven bits a byte, least significant group
first, the top bit saying that another byte follows. The fifth byte has room for four bits
only. A number is always written with the fewest groups; longer spellings of the same
number are read as well.
-/

namespace PacketSession

namespace Varint

/-- The most bytes a varint takes. -/
def maxLength : Nat := 5

/-- At most `more + 1` groups of seven bits of `n`, least significant first. -/
def groups : (more n : Nat) → Bytes
  | 0, n => [UInt8.ofNat n]
  | more + 1, n =>
    if n < 128 then [UInt8.ofNat n] else UInt8.ofNat (n % 128 + 128) :: groups more (n / 128)

/-- The written form of a 32-bit number. -/
def encode (n : UInt32) : Bytes :=
  groups (maxLength - 1) n.toNat

/-- The number of bytes in the written form. -/
def size (n : UInt32) : Nat :=
  if n.toNat < 0x80 then 1
  else if n.toNat < 0x4000 then 2
  else if n.toNat < 0x200000 then 3
  else if n.toNat < 0x10000000 then 4
  else maxLength

/-- Reads at most `left` more groups; the next one counts `weight` for each unit, on top of
the `sum` of those before it. -/
def decodeGroups : (left weight sum : Nat) → Decoder Nat
  | 0, _, _ => throw .varintTooLong
  | left + 1, weight, sum => do
    let byte ← Decoder.byte
    let group := byte.toNat % 128
    if left = 0 ∧ 15 < group then throw .varintTooLong
    if byte.toNat < 128 then return sum + group * weight
    decodeGroups left (weight * 128) (sum + group * weight)

/-- Reads a varint. -/
def decode : Decoder UInt32 := do
  return UInt32.ofNat (← decodeGroups maxLength 1 0)

/-! ### Lengths -/

theorem length_groups_le (more n : Nat) : (groups more n).length ≤ more + 1 := by
  induction more generalizing n with
  | zero => simp [groups]
  | succ more ih =>
    rw [groups]
    split
    · simp
    · have := ih (n / 128)
      simp only [List.length_cons]
      omega

/-- The size of a varint is the number of bytes written for it. -/
theorem length_encode (n : UInt32) : (encode n).length = size n := by
  simp only [encode, size, maxLength, groups]
  repeat' split
  all_goals simp_all
  all_goals omega

end Varint

end PacketSession
