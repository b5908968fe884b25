import PacketSession.Connection.Queue
import PacketSession.Delivery
import PacketSession.Error

/-!
# Connections in memory

Two ends are joined by a queue in each direction. A frame goes to the queue of the other end.
Hanging up puts a mark behind everything queued so far, in both queues, and ends sending; an
end that reads a mark has read everything and stays at the end. An end that no longer reads
takes no frames.
-/

namespace PacketSession

namespace Memory

/-- The two ends of a pair. -/
inductive Side
  | left | right
deriving DecidableEq

/-- The end at the other side. -/
def Side.other : Side → Side
  | left => right
  | right => left

/-- What a queue holds. -/
inductive Item
  | frame (frame : WireFrame)
  /-- One of the ends hung up here. -/
  | mark
deriving DecidableEq

/-- One end of a pair. -/
structure End where
  /-- What was queued to be read here. -/
  inbox : Queue Item
  /-- Whether this end hung up. -/
  hungUp : Bool
  /-- Whether anyone still reads here. -/
  reading : Bool
  /-- Whether a mark was read here. -/
  ended : Bool

/-- An end at which nothing happened yet. -/
def End.fresh : End := ⟨.empty, false, true, false⟩

/-- Queues an item to be read here. -/
def End.queue (e : End) (item : Item) : End :=
  if e.reading then { e with inbox := e.inbox.push item } else e

end Memory

/-- Two joined ends. -/
structure MemoryPair where
  /-- One end. -/
  left : Memory.End
  /-- The other end. -/
  right : Memory.End

namespace MemoryPair

open Memory

/-- Two joined ends at which nothing happened yet. -/
def fresh : MemoryPair := ⟨.fresh, .fresh⟩

/-- The end at a side. -/
def get (p : MemoryPair) : Side → End
  | .left => p.left
  | .right => p.right

/-- The pair with another end at a side. -/
def set (p : MemoryPair) (side : Side) (e : End) : MemoryPair :=
  match side with
  | .left => { p with left := e }
  | .right => { p with right := e }

/-- Sends a frame to the other end. -/
def send (p : MemoryPair) (side : Side) (frame : WireFrame) :
    Except TransportError Unit × MemoryPair :=
  let peer := p.get side.other
  if (p.get side).hungUp || !peer.reading then (.error .connectionClosed, p)
  else (.ok (), p.set side.other (peer.queue (.frame frame)))

/-- Hangs up; doing so again changes nothing. -/
def disconnect (p : MemoryPair) (side : Side) : MemoryPair :=
  let own := p.get side
  if own.hungUp then p
  else
    let p := p.set side.other ((p.get side.other).queue .mark)
    p.set side ({ own with hungUp := true }.queue .mark)

/-- Whether an end still takes frames. -/
def isConnected (p : MemoryPair) (side : Side) : Bool :=
  let own := p.get side
  !own.hungUp && own.reading

/-- What reading finds: a frame, the end, or nothing yet. -/
inductive Reading
  | frame (frame : WireFrame)
  | ended
  | pending
deriving DecidableEq

/-- Reads the next frame of an end. -/
def next (p : MemoryPair) (side : Side) : Reading × MemoryPair :=
  let own := p.get side
  if own.ended then (.ended, p)
  else
    match own.inbox.pop? with
    | none => (.pending, p)
    | some (.frame frame, inbox) => (.frame frame, p.set side { own with inbox })
    | some (.mark, inbox) => (.ended, p.set side { own with inbox, ended := true })

/-- Stops reading at an end; what was queued there is lost. -/
def stopReading (p : MemoryPair) (side : Side) : MemoryPair :=
  p.set side { p.get side with inbox := .empty, reading := false }

end MemoryPair

end PacketSession
