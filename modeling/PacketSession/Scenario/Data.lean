import PacketSession.Wire.Bytes

/-!
# Structured data

Scenarios are read from structured data, and what happens in them is reported as structured
data: numbers, texts, byte strings, lists and records of named fields. How such data is written
down outside is not decided here.
-/

namespace PacketSession

namespace Scenario

/-- Structured data. -/
inductive Data
  /-- The absence of a value. -/
  | nothing
  | flag (value : Bool)
  | number (value : Int)
  | text (value : String)
  /-- A text of any length, of which a summary may do. -/
  | prose (value : String)
  | bytes (value : Bytes)
  | list (items : List Data)
  | record (fields : List (String × Data))
deriving Inhabited

namespace Data

/-- The field of this name in a record. -/
def field? (key : String) : Data → Option Data
  | record fields => fields.lookup key
  | _ => none

/-- A record with more fields. -/
def and (fields : List (String × Data)) : Data → Data
  | record own => record (own ++ fields)
  | other => other

mutual

/-- How deeply lists and records are nested. -/
def depth : Data → Nat
  | list items => depthOfItems items + 1
  | record fields => depthOfFields fields + 1
  | _ => 0

/-- How deeply the items of a list are nested. -/
def depthOfItems : List Data → Nat
  | [] => 0
  | item :: items => max item.depth (depthOfItems items)

/-- How deeply the fields of a record are nested. -/
def depthOfFields : List (String × Data) → Nat
  | [] => 0
  | (_, value) :: fields => max value.depth (depthOfFields fields)

end

end Data

/-- Values that are reported as structured data. -/
class ToData (α : Type) where
  /-- The report of a value. -/
  toData : α → Data

export ToData (toData)

/-- A named field of a record. -/
def entry {α : Type} [ToData α] (key : String) (a : α) : String × Data := (key, toData a)

section Instances

variable {α β : Type} [ToData α] [ToData β]

instance : ToData Data := ⟨id⟩

instance : ToData Unit := ⟨fun _ => .nothing⟩

instance : ToData Bool := ⟨.flag⟩

instance : ToData Nat := ⟨fun n => .number n⟩

instance : ToData Int := ⟨.number⟩

instance : ToData UInt8 := ⟨fun n => .number n.toNat⟩

instance : ToData UInt16 := ⟨fun n => .number n.toNat⟩

instance : ToData UInt32 := ⟨fun n => .number n.toNat⟩

instance : ToData Int32 := ⟨fun n => .number n.toInt⟩

/-- Long words are reported in decimal digits. -/
instance : ToData UInt64 := ⟨fun n => .text (toString n.toNat)⟩

/-- Long words are reported in decimal digits. -/
instance : ToData Int64 := ⟨fun n => .text (toString n.toInt)⟩

/-- Texts are reported in full unless they are said to be prose. -/
instance : ToData String := ⟨.text⟩

instance : ToData (Option α) where
  toData
    | some a => toData a
    | none => .nothing

instance : ToData (List α) := ⟨fun items => .list (items.map toData)⟩

instance : ToData (α × β) := ⟨fun (a, b) => .list [toData a, toData b]⟩

instance : ToData (Except α β) where
  toData
    | .ok b => .record [entry "ok" b]
    | .error a => toData a

instance : ToData Bytes := ⟨.bytes⟩

end Instances

end Scenario

end PacketSession
