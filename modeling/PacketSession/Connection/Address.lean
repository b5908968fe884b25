/-!
# Socket addresses

A socket address is an Internet address and a port. It is written `a.b.c.d:port` with an address
of version 4 and `[address]:port` with one of version 6, where a scope follows the address behind
a percent sign unless it is zero.

An address of version 6 is eight groups of hexadecimal digits between colons. Two colons stand
for the longest run of at least two groups that are zero, the first one of several. An address
that contains one of version 4 is written with that at its end. Reading takes any run of zeros
for two colons, and an address of version 4 in place of the last two groups of any address.
-/

namespace PacketSession

/-- An address of version 4. -/
structure IPv4 where
  a : UInt8
  b : UInt8
  c : UInt8
  d : UInt8
deriving DecidableEq

/-- An address of version 6, by its groups. -/
structure IPv6 where
  /-- The groups. -/
  groups : List UInt16
  /-- There are eight of them. -/
  length_groups : groups.length = 8
deriving DecidableEq

/-- A socket address. -/
inductive SocketAddress
  | v4 (address : IPv4) (port : UInt16)
  | v6 (address : IPv6) (scope : UInt32) (port : UInt16)
deriving DecidableEq

/-! ### Writing -/

/-- The written form of an address of version 4. -/
def IPv4.text (address : IPv4) : String :=
  String.intercalate "." ([address.a, address.b, address.c, address.d].map fun byte =>
    toString byte.toNat)

namespace IPv6

/-- The length of the run of zeros at the front. -/
def zerosInFront (groups : List UInt16) : Nat := (groups.takeWhile (· == 0)).length

/-- The place and the length of the first longest run of zeros. -/
def longestZeros : List UInt16 → Nat × Nat
  | [] => (0, 0)
  | group :: groups =>
    let here := zerosInFront (group :: groups)
    let (place, length) := longestZeros groups
    if length ≤ here then (0, here) else (place + 1, length)

/-- The written form of groups between colons. -/
def groupsText (groups : List UInt16) : String :=
  String.intercalate ":" (groups.map fun group => String.ofList (Nat.toDigits 16 group.toNat))

/-- The address of version 4 that groups contain, if they do. -/
def mapped? : List UInt16 → Option IPv4
  | [0, 0, 0, 0, 0, 0xFFFF, high, low] =>
    some ⟨(high / 256).toUInt8, high.toUInt8, (low / 256).toUInt8, low.toUInt8⟩
  | _ => none

/-- The written form of an address of version 6. -/
def text (address : IPv6) : String :=
  match mapped? address.groups with
  | some inner => "::ffff:" ++ inner.text
  | none =>
    let (place, length) := longestZeros address.groups
    if length < 2 then groupsText address.groups
    else
      groupsText (address.groups.take place) ++ "::" ++
        groupsText (address.groups.drop (place + length))

end IPv6

/-- The written form of a socket address. -/
def SocketAddress.text : SocketAddress → String
  | v4 address port => address.text ++ ":" ++ toString port.toNat
  | v6 address scope port =>
    let scope := if scope = 0 then "" else "%" ++ toString scope.toNat
    "[" ++ address.text ++ scope ++ "]:" ++ toString port.toNat

/-! ### Reading -/

namespace SocketAddress

/-- Takes something off the front of some characters. -/
abbrev Taking := StateT (List Char) Option

/-- The value of a digit to a base. -/
def digit? (base : Nat) (c : Char) : Option Nat :=
  let value :=
    if c.isDigit then c.toNat - '0'.toNat
    else if 'a' ≤ c ∧ c ≤ 'f' then c.toNat - 'a'.toNat + 10
    else if 'A' ≤ c ∧ c ≤ 'F' then c.toNat - 'A'.toNat + 10
    else base
  if value < base then some value else none

/-- Takes a given character. -/
def takeChar (c : Char) : Taking Unit := fun input =>
  match input with
  | [] => none
  | first :: rest => if first = c then some ((), rest) else none

/-- Takes digits, giving how many there are and their value, which is below `bound`. -/
def takeDigits (base bound : Nat) : Taking (Nat × Nat) := fun input =>
  let digits := input.takeWhile fun c => (digit? base c).isSome
  let value := digits.foldl (fun value c => value * base + (digit? base c).getD 0) 0
  if digits.isEmpty || bound ≤ value then none
  else some ((digits.length, value), input.drop digits.length)

/-- Takes a byte in decimal digits without a zero in front. -/
def takeByte : Taking UInt8 := do
  let (length, value) ← takeDigits 10 256
  guard (length = (Nat.toDigits 10 value).length)
  return UInt8.ofNat value

/-- Takes a group of at most four hexadecimal digits. -/
def takeGroup : Taking UInt16 := do
  let (length, value) ← takeDigits 16 65536
  guard (length ≤ 4)
  return UInt16.ofNat value

/-- Takes an address of version 4. -/
def takeIPv4 : Taking IPv4 := do
  let a ← takeByte
  takeChar '.'
  let b ← takeByte
  takeChar '.'
  let c ← takeByte
  takeChar '.'
  return ⟨a, b, c, ← takeByte⟩

/-- The two groups that an address of version 4 takes up. -/
def halves (address : IPv4) : List UInt16 :=
  [address.a.toUInt16 * 256 + address.b.toUInt16, address.c.toUInt16 * 256 + address.d.toUInt16]

/-- Takes at most `room` groups, with colons between them and in front of the first one unless
`isFirst`. An address of version 4 takes the room of two groups and is the last thing taken;
the flag tells whether there was one. -/
def takeGroups : (room : Nat) → (isFirst : Bool) → List Char → (List UInt16 × Bool) × List Char
  | 0, _, input => (([], false), input)
  | room + 1, isFirst, input =>
    let colon : Taking Unit := if isFirst then pure () else takeChar ':'
    match (if room = 0 then none else (colon *> takeIPv4).run input) with
    | some (address, rest) => ((halves address, true), rest)
    | none =>
      match (colon *> takeGroup).run input with
      | none => (([], false), input)
      | some (group, rest) =>
        let ((groups, ended), rest) := takeGroups room false rest
        ((group :: groups, ended), rest)

/-- Takes eight groups: all of them, or those around two colons that stand for zeros. -/
def takeIPv6 : Taking IPv6 := do
  let (head, ended) ← modifyGet (takeGroups 8 true)
  let groups ← if head.length = 8 then pure head else do
    guard !ended
    takeChar ':'
    takeChar ':'
    let (tail, _) ← modifyGet (takeGroups (7 - head.length) true)
    pure (head ++ List.replicate (8 - head.length - tail.length) 0 ++ tail)
  if h : groups.length = 8 then return ⟨groups, h⟩ else failure

/-- Takes a colon and a port. -/
def takePort : Taking UInt16 := do
  takeChar ':'
  return UInt16.ofNat (← takeDigits 10 65536).2

/-- Takes a scope behind a percent sign; without one it is zero. -/
def takeScope : Taking UInt32 := do
  if (← get).head? = some '%' then
    takeChar '%'
    return UInt32.ofNat (← takeDigits 10 0x100000000).2
  else return 0

/-- Takes a socket address with an address of version 4. -/
def takeV4 : Taking SocketAddress := do
  let address ← takeIPv4
  return .v4 address (← takePort)

/-- Takes a socket address with an address of version 6. -/
def takeV6 : Taking SocketAddress := do
  takeChar '['
  let address ← takeIPv6
  let scope ← takeScope
  takeChar ']'
  return .v6 address scope (← takePort)

/-- The socket address that a text stands for, if it stands for one. -/
def ofText? (s : String) : Option SocketAddress :=
  match (takeV4 <|> takeV6).run s.toList with
  | some (address, []) => some address
  | _ => none

end SocketAddress

end PacketSession
