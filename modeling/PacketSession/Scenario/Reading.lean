import PacketSession.Scenario.Data

/-!
# Reading structured data

A `Reading` looks at one piece of structured data. Readings of records are put together from
readings of their fields; a field that may be missing counts as missing when it holds nothing.
-/

namespace PacketSession

namespace Scenario

/-- Why data could not be read. -/
inductive Misreading
  /-- A record lacks a field. -/
  | missing (key : String)
  /-- A field holds a name that stands for nothing. -/
  | unknownName (key : String)
  /-- The data is not of the kind that is wanted. -/
  | unsuitable

/-- Reads the data at hand. -/
abbrev Reading := ReaderT Data (Except Misreading)

variable {α β : Type}

/-- Fails. -/
def unsuitable : Reading α := throw .unsuitable

/-- The data itself. -/
def asIs : Reading Data := read

/-- Reads the field of a record. -/
def field (key : String) (r : Reading α) : Reading α := do
  match (← asIs).field? key with
  | some value => r value
  | none => throw (.missing key)

/-- Reads the field of a record that may be missing. -/
def field? (key : String) (r : Reading α) : Reading (Option α) := do
  match (← asIs).field? key with
  | none | some .nothing => return none
  | some value => some <$> r value

/-- Reads the field of a record that stands for `default` when it is missing. -/
def fieldOr (default : α) (key : String) (r : Reading α) : Reading α :=
  return (← field? key r).getD default

/-- Reads each item of a list. -/
def items (r : Reading α) : Reading (List α) := do
  match ← asIs with
  | .list all => all.mapM fun item => r item
  | _ => unsuitable

/-- Reads each item of a list in a field; without the field the list is empty. -/
def many (key : String) (r : Reading α) : Reading (List α) := fieldOr [] key (items r)

/-- Reads an item of a list by its place. -/
def nth (index : Nat) (r : Reading α) : Reading α := do
  match ← asIs with
  | .list all => r ((all[index]?).getD .nothing)
  | _ => unsuitable

/-- Finds what something stands for. -/
def found (f : α → Option β) (r : Reading α) : Reading β := do
  match f (← r) with
  | some b => return b
  | none => unsuitable

/-! ### Scalars -/

/-- A short text. -/
def name : Reading String := do
  match ← asIs with
  | .text s => return s
  | _ => unsuitable

/-- Goes by the name in a field. -/
def choose {m : Type → Type} [Monad m] [MonadLiftT Reading m] (key : String)
    (cases : List (String × m α)) : m α := do
  match cases.lookup (← (field key name : Reading String)) with
  | some r => r
  | none => (throw (.unknownName key) : Reading α)

/-- A number. -/
def int : Reading Int := do
  match ← asIs with
  | .number n => return n
  | _ => unsuitable

/-- A number; below zero it counts as zero. -/
def nat : Reading Nat := Int.toNat <$> int

/-- A number modulo 2⁸. -/
def u8 : Reading UInt8 := UInt8.ofInt <$> int

/-- A number modulo 2¹⁶. -/
def u16 : Reading UInt16 := UInt16.ofInt <$> int

/-- A number modulo 2³². -/
def u32 : Reading UInt32 := UInt32.ofInt <$> int

/-- A number modulo 2³², read as a signed word. -/
def i32 : Reading Int32 := Int32.ofInt <$> int

/-- A number in decimal digits. -/
def digits : Reading Int := found String.toInt? name

/-- A number in decimal digits modulo 2⁶⁴. -/
def u64 : Reading UInt64 := UInt64.ofInt <$> digits

/-- A number in decimal digits modulo 2⁶⁴, read as a signed word. -/
def i64 : Reading Int64 := Int64.ofInt <$> digits

/-- The number of a wait. -/
def ticket : Reading Nat := UInt64.toNat <$> u64

/-- A truth value. -/
def bool : Reading Bool := do
  match ← asIs with
  | .flag b => return b
  | _ => unsuitable

/-- Whether a field is set. -/
def flag (key : String) : Reading Bool := fieldOr false key bool

/-! ### Texts and byte strings -/

/-- The value of a hexadecimal digit; zero of anything else. -/
def hexDigit (c : Char) : Nat :=
  if c.isDigit then c.toNat - '0'.toNat
  else if 'a' ≤ c ∧ c ≤ 'f' then c.toNat - 'a'.toNat + 10
  else if 'A' ≤ c ∧ c ≤ 'F' then c.toNat - 'A'.toNat + 10
  else 0

/-- A bit pattern in hexadecimal digits. -/
def bits : Reading Nat := return (← name).toList.foldl (fun n c => n * 16 + hexDigit c) 0

/-- The bytes that pairs of hexadecimal digits stand for, behind those already read, which
come latest first. -/
def ofHex : (digits : List Char) → (done : Bytes) → Bytes
  | high :: low :: rest, done =>
    ofHex rest (UInt8.ofNat (hexDigit high * 16 + hexDigit low) :: done)
  | _, done => done.reverse

/-- A text, which may be given as a shorter one that is repeated. -/
def text : Reading String := do
  match ← asIs with
  | .text s => return s
  | _ => return String.join (List.replicate (← field "n" nat) (← field "s" name))

/-- A byte string: hexadecimal digits, the bytes of a text, a piece that is repeated, numbers
counted up modulo a period, the leading bytes of the multiples of an odd constant, or pieces
one after the other. Pieces may be nested to the given depth. -/
def bytesWithin : (depth : Nat) → Reading Bytes
  | 0 => return ofHex (← name).toList []
  | depth + 1 => do
    if let .text s ← asIs then return ofHex s.toList []
    if let some piece ← field? "rep" (bytesWithin depth) then
      return (List.replicate (← field "n" nat) piece).flatten
    if let some count ← field? "seq" nat then
      let period ← field "mod" nat
      return (List.range count).map fun i => UInt8.ofNat (i % period)
    if let some count ← field? "noise" nat then
      return (List.range count).map fun i => UInt8.ofNat (i * 2654435761 % 0x100000000 / 0x1000000)
    if let some s ← field? "utf8" text then return Bytes.ofText s
    return (← field "cat" (items (bytesWithin depth))).flatten

/-- A byte string. -/
def bytes : Reading Bytes := do
  bytesWithin (← asIs).depth

end Scenario

end PacketSession
