/-!
# Channels and delivery classes

Every message names a channel, a logical sub-stream of its session, and a delivery class.
Both are advice to the transport: the session itself neither reorders nor drops messages
because of them, but fragments are put together channel by channel.
-/

namespace PacketSession

/-- A logical sub-stream: an application number, or `-1` for "not set". -/
structure Channel where
  /-- The signed number that stands for the channel on the wire. -/
  raw : Int32
  /-- Nothing below `-1` names a channel. -/
  ge_neg_one : -1 ≤ raw := by decide
deriving DecidableEq

namespace Channel

/-- The channel that is not set. -/
def unset : Channel := { raw := -1 }

/-- The channel with this wire number, if there is one. -/
def ofRaw? (raw : Int32) : Option Channel :=
  if h : -1 ≤ raw then some ⟨raw, h⟩ else none

/-- The application channel of a 16-bit number. -/
def ofUInt16 (n : UInt16) : Channel :=
  (ofRaw? (Int32.ofNat n.toNat)).getD unset

/-- Whether the channel is not set. -/
def isUnset (c : Channel) : Bool := c.raw = -1

/-- The text of a channel in messages. -/
def text (c : Channel) : String :=
  if c.isUnset then "default" else toString c.raw.toInt

/-- The text of a channel where structures are shown. -/
def shown (c : Channel) : String := "Channel(" ++ toString c.raw.toInt ++ ")"

/-- Channels are ordered by wire number, with the absence of a channel in front. -/
def order : Option Channel → Option Channel → Ordering
  | none, none => .eq
  | none, some _ => .lt
  | some _, none => .gt
  | some a, some b => compare a.raw.toInt b.raw.toInt

end Channel

/-- How a message wants to be delivered. -/
inductive Reliability
  /-- It may be lost and may overtake. -/
  | unreliable
  /-- It may be lost; what comes late is discarded. -/
  | unreliableSequenced
  /-- It always arrives, in any order. -/
  | reliable
  /-- It always arrives, in the order of sending. -/
  | reliableOrdered
  /-- It always arrives; what comes late is discarded. -/
  | reliableSequenced
deriving DecidableEq

namespace Reliability

/-- The byte that stands for a delivery class. -/
def toByte : Reliability → UInt8
  | unreliable => 0
  | unreliableSequenced => 1
  | reliable => 2
  | reliableOrdered => 3
  | reliableSequenced => 4

/-- The delivery class that a byte stands for. -/
def ofByte? : UInt8 → Option Reliability
  | 0 => some unreliable
  | 1 => some unreliableSequenced
  | 2 => some reliable
  | 3 => some reliableOrdered
  | 4 => some reliableSequenced
  | _ => none

/-- Whether the class promises arrival. -/
def isReliable : Reliability → Bool
  | reliable | reliableOrdered | reliableSequenced => true
  | unreliable | unreliableSequenced => false

/-- Whether the class promises the order of sending. -/
def isOrdered (r : Reliability) : Bool := r = reliableOrdered

/-- The name of a delivery class. -/
def shown : Reliability → String
  | unreliable => "Unreliable"
  | unreliableSequenced => "UnreliableSequenced"
  | reliable => "Reliable"
  | reliableOrdered => "ReliableOrdered"
  | reliableSequenced => "ReliableSequenced"

theorem ofByte?_toByte (r : Reliability) : ofByte? r.toByte = some r := by
  cases r <;> rfl

end Reliability

/-- The channel and delivery class of one message. -/
structure Delivery where
  /-- The logical sub-stream. -/
  channel : Channel := .unset
  /-- The delivery class. -/
  reliability : Reliability := .reliableOrdered
deriving DecidableEq

/-- The text of a delivery where structures are shown. -/
def Delivery.shown (d : Delivery) : String :=
  "Delivery \x7b channel: " ++ d.channel.shown ++ ", reliability: " ++ d.reliability.shown
    ++ " \x7d"

/-- The unit that a transport carries: one frame with its channel and delivery class. -/
structure WireFrame where
  /-- The channel and delivery class, which the transport frames by itself. -/
  delivery : Delivery
  /-- The bytes of the frame. -/
  payload : List UInt8
deriving DecidableEq

end PacketSession
