import PacketSession.Error

/-!
# Named chains

A chain is an ordered list of listeners under distinct names. A new listener goes to either
end or next to a listener that is there already. A name in use is refused before a missing
neighbour is, and a refusal leaves the chain as it was.
-/

namespace PacketSession

/-- Where a new listener goes. -/
inductive Position
  /-- In front of all others. -/
  | first
  /-- Behind all others. -/
  | last
  /-- Right in front of the listener of this name. -/
  | before (name : String)
  /-- Right behind the listener of this name. -/
  | after (name : String)
deriving DecidableEq

/-- Listeners under distinct names, in the order in which they run. -/
structure Chain (L : Type) where
  /-- The names and listeners. -/
  entries : List (String × L)

namespace Chain

variable {L : Type}

/-- A chain without listeners. -/
def empty : Chain L := ⟨[]⟩

/-- The names, in order. -/
def names (c : Chain L) : List String := c.entries.map (·.1)

/-- The listeners, in order. -/
def listeners (c : Chain L) : List L := c.entries.map (·.2)

/-- The number of listeners. -/
def count (c : Chain L) : Nat := c.entries.length

/-- Whether there is no listener. -/
def isEmpty (c : Chain L) : Bool := c.entries.isEmpty

/-- The place of the listener of a name. -/
def index? (c : Chain L) (name : String) : Option Nat :=
  c.entries.findIdx? fun entry => entry.1 = name

/-- The listener of a name. -/
def get? (c : Chain L) (name : String) : Option L :=
  (c.entries.find? fun entry => entry.1 = name).map (·.2)

/-- The place that a position stands for. -/
def place (c : Chain L) : Position → Except RegistrationError Nat
  | .first => .ok 0
  | .last => .ok c.count
  | .before name =>
    match c.index? name with
    | some index => .ok index
    | none => .error (.unknownListener name)
  | .after name =>
    match c.index? name with
    | some index => .ok (index + 1)
    | none => .error (.unknownListener name)

/-- Adds a listener under a new name. -/
def add (c : Chain L) (name : String) (listener : L) (position : Position) :
    Except RegistrationError (Chain L) :=
  match c.index? name with
  | some _ => .error (.duplicateListener name)
  | none =>
    match c.place position with
    | .error e => .error e
    | .ok index => .ok ⟨c.entries.insertIdx index (name, listener)⟩

/-- Removes the listener of a name, giving it back. -/
def remove (c : Chain L) (name : String) : Option L × Chain L :=
  match c.index? name with
  | some index => (c.entries[index]?.map (·.2), ⟨c.entries.eraseIdx index⟩)
  | none => (none, c)

/-- The chain of the listeners that `f` makes of the listeners of a chain. -/
def map {M : Type} (f : L → M) (c : Chain L) : Chain M :=
  ⟨c.entries.map fun entry => (entry.1, f entry.2)⟩

/-- The text of a chain where structures are shown: the names in order. -/
def shown (c : Chain L) : String := bracketed (c.names.map quoted)

end Chain

end PacketSession
