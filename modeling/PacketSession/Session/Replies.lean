import PacketSession.Packet.Schema

/-!
# Awaited replies

An application that expects an answer to a packet asks for a number to recognise it by, and
waits. Whoever sees the answer settles the wait of that number, once; closing a session
settles all that are left. The outcome of a wait does not change afterwards.
-/

namespace PacketSession

variable {S : Schema}

/-- The outcome of waiting for a reply. -/
abbrev Reply (S : Schema) := Except SessionError (Packet S)

/-- The waits of one session. -/
structure Replies (S : Schema) where
  /-- How many waits were begun; they are numbered from 1. A session counts them in a word of 64
  bits; the number without a bound here is the same while there are fewer than `2 ^ 64` of them. -/
  issued : Nat
  /-- The waits without an outcome. -/
  waiting : List Nat
  /-- The outcomes so far. -/
  outcomes : List (Nat × Reply S)

namespace Replies

/-- No wait was begun yet. -/
def empty : Replies S := ⟨0, [], []⟩

/-- The number of waits without an outcome. -/
def count (r : Replies S) : Nat := r.waiting.length

/-- Begins a wait, giving its number. -/
def create (r : Replies S) : Nat × Replies S :=
  (r.issued + 1, { r with issued := r.issued + 1, waiting := (r.issued + 1) :: r.waiting })

/-- The outcome of a wait, once it has one. -/
def outcome? (r : Replies S) (id : Nat) : Option (Reply S) := r.outcomes.lookup id

/-- Settles the wait of a number, telling whether there was one. -/
def settle (r : Replies S) (id : Nat) (outcome : Reply S) : Bool × Replies S :=
  if r.waiting.contains id then
    (true, { r with waiting := r.waiting.erase id, outcomes := (id, outcome) :: r.outcomes })
  else (false, r)

/-- Settles all waits with the same error, telling how many there were. -/
def failAll (r : Replies S) (e : SessionError) : Nat × Replies S :=
  (r.count,
    { r with waiting := [], outcomes := r.waiting.map (fun id => (id, .error e)) ++ r.outcomes })

/-- Gives up all waits: nobody is left who could settle them. -/
def abandon (r : Replies S) : Replies S := (r.failAll .replyDropped).2

end Replies

end PacketSession
