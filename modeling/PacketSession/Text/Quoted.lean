import PacketSession.Text.Glyph

/-!
# Quoted text

Names and reasons appear in messages between double quotes. Inside, the quote and the
backslash carry a backslash, four control characters have short names, and every other
character without a glyph of its own is given by its code point.
-/

namespace PacketSession

namespace Quoted

/-- The written form of one character between double quotes. -/
def escape (c : Char) : List Char :=
  match c with
  | '\x22' => ['\x5c', '\x22']
  | '\x5c' => ['\x5c', '\x5c']
  | '\n' => ['\x5c', 'n']
  | '\t' => ['\x5c', 't']
  | '\r' => ['\x5c', 'r']
  | '\x00' => ['\x5c', '0']
  | c =>
    if Glyph.isOwn c then [c]
    else ['\x5c', 'u', '\x7b'] ++ Nat.toDigits 16 c.toNat ++ ['\x7d']

end Quoted

/-- A text between double quotes. -/
def quoted (s : String) : String :=
  String.ofList ('\x22' :: s.toList.flatMap Quoted.escape ++ ['\x22'])

/-- The written form of a list: its members between brackets, separated by commas. -/
def bracketed (members : List String) : String :=
  "[" ++ String.intercalate ", " members ++ "]"

/-- The written form of a structure: its name and its named fields, `open` if there are more
fields than shown. -/
def structured (name : String) (fields : List (String × String)) (isOpen : Bool) : String :=
  let shown := fields.map fun field => field.1 ++ ": " ++ field.2
  let shown := if isOpen then shown ++ [".."] else shown
  name ++ " \x7b " ++ String.intercalate ", " shown ++ " \x7d"

/-- The written form of a value that may be missing. -/
def optional (value : Option String) : String :=
  match value with
  | some value => "Some(" ++ value ++ ")"
  | none => "None"

end PacketSession
