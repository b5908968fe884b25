/-!
# The receiver of inflated content

The receiver wants a number of bytes, and fetches them in calls. A call makes room for more
bytes than the receiver holds, but not for all that are wanted: the space at least doubles
whenever it is full, and a call asks for a burst at most, which doubles when calls keep being
filled. So the space that is made stays near the size of the content, whatever is wanted.

A call goes on until it is filled or its source has a reason to end it. Bytes that find no
room are kept and fetched by calls of their own.
-/

namespace PacketSession

namespace Zstd

/-- A receiver in the middle of a call. -/
structure Receiver where
  /-- How many bytes were wanted when the call began. -/
  wanted : Nat
  /-- How many bytes earlier calls fetched. -/
  held : Nat := 0
  /-- How many bytes there was space for when the call began. -/
  capacity : Nat := 0
  /-- The most bytes that one call asks for. -/
  burst : Nat := 8192
  /-- How many bytes the call has fetched. -/
  taken : Nat := 0
deriving DecidableEq

namespace Receiver

/-- The least space made at all. -/
def minSpace : Nat := 8

/-- The least space added to a full one. -/
def minGrowth : Nat := 32

/-- The space during the call. -/
def space (r : Receiver) : Nat :=
  if r.held = r.capacity then max (2 * r.capacity) (r.held + minGrowth) else r.capacity

/-- The number of bytes that the call asks for. -/
def offer (r : Receiver) : Nat := min (r.space - r.held) r.burst

/-- The number of bytes that still find room in the call. -/
def room (r : Receiver) : Nat := min r.offer r.wanted - r.taken

/-- Whether no more bytes are wanted. -/
def isSatisfied (r : Receiver) : Bool := r.wanted ≤ r.taken

/-- Ends the call, and begins another one if more bytes are wanted. The first call keeps only
the space that it used. -/
def endCall (r : Receiver) : Option Receiver :=
  if r.isSatisfied then none
  else some {
    wanted := r.wanted - r.taken
    held := r.held + r.taken
    capacity := if r.capacity = 0 then max r.taken minSpace else r.space
    burst := if r.burst ≤ r.offer ∧ r.taken = r.offer then 2 * r.burst else r.burst }

/-- Fetches `count` kept bytes in calls of their own, and begins another call if more bytes
are wanted. -/
def drain (r : Receiver) (count : Nat) : Option Receiver :=
  if r.room = 0 ∨ count = 0 then some r
  else
    let taken := min r.room count
    match { r with taken := r.taken + taken }.endCall with
    | none => none
    | some r => r.drain (count - taken)
termination_by count

/-- Takes `count` bytes as far as they find room in the call, and the others behind it. There
is no receiver left once all wanted bytes were fetched by calls that have ended. -/
def take (r : Receiver) (count : Nat) : Option Receiver :=
  if count ≤ r.room then some { r with taken := r.taken + count }
  else
    match { r with taken := r.taken + r.room }.endCall with
    | none => none
    | some next => next.drain (count - r.room)

/-- Ends the call if it has fetched anything, as the end of a frame does. -/
def pause (r : Receiver) : Option Receiver :=
  if r.taken = 0 then some r else r.endCall

end Receiver

end Zstd

end PacketSession
