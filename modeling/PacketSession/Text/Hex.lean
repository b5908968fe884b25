/-!
# Hexadecimal digits

Numbers in messages are padded on the left to a fixed count of lower-case digits.
-/

namespace PacketSession

/-- The lower-case base-16 digits of `n`, padded with zeros to at least `width` of them. -/
def hex (width n : Nat) : String :=
  String.ofList ((Nat.toDigits 16 n).leftpad width '0')

end PacketSession
