import PacketSession.Delivery
import PacketSession.Packet.Schema

/-!
# Handlers of received packets

An application binds at most one handler to an identifier below the reserved range. A
handler may be bound for one kind of packet; a packet of any other kind that arrives under
its identifier is then dropped.
-/

namespace PacketSession

variable {S : Schema} {m : Type → Type}

/-- What an application does with a packet. -/
structure Handler (S : Schema) (m : Type → Type) where
  /-- The kind it is for, if it is for one kind only. -/
  accepts : Option (PacketKind S.Kind)
  /-- What it does. -/
  run : Packet S → Delivery → m Unit

/-- Whether a handler takes packets of a kind. -/
def Handler.takes (h : Handler S m) (kind : PacketKind S.Kind) : Bool :=
  match h.accepts with
  | none => true
  | some accepted => accepted = kind

/-- The handler whose action is that of `h`, run in another monad by `run`. -/
def Handler.map {n : Type → Type} (run : {α : Type} → m α → n α) (h : Handler S m) :
    Handler S n where
  accepts := h.accepts
  run := fun packet delivery => run (h.run packet delivery)

/-- Handlers by identifier. -/
structure HandlerTable (S : Schema) (m : Type → Type) where
  /-- The identifiers and handlers, in the order in which they were bound. -/
  entries : List (PacketId × Handler S m)

namespace HandlerTable

/-- A table without handlers. -/
def empty : HandlerTable S m := ⟨[]⟩

/-- The number of handlers. -/
def count (t : HandlerTable S m) : Nat := t.entries.length

/-- The handler bound to an identifier. -/
def get? (t : HandlerTable S m) (id : PacketId) : Option (Handler S m) :=
  t.entries.lookup id

/-- Whether an identifier has a handler. -/
def contains (t : HandlerTable S m) (id : PacketId) : Bool := (t.get? id).isSome

/-- Binds a handler to an identifier. -/
def insert (t : HandlerTable S m) (id : PacketId) (handler : Handler S m) :
    Except RegistrationError (HandlerTable S m) :=
  if id.isReserved then .error (.reservedPacketId id)
  else if t.contains id then .error (.duplicateHandler id)
  else .ok ⟨t.entries ++ [(id, handler)]⟩

/-- The text of a table where structures are shown: the identifiers in order. -/
def shown (t : HandlerTable S m) : String :=
  let ids := (t.entries.map fun entry => entry.1.raw.toNat).mergeSort
  structured "HandlerRegistry" [("ids", bracketed (ids.map toString))] false

end HandlerTable

end PacketSession
