import PacketSession.Simulation.Action

/-!
# Listeners of a simulated network

What a listener does is laid down in advance as well. Most listeners work in both directions
and make of each message any number of messages; on the way in only the first of them travels
on. Those that change bytes pass packets on unchanged. Those that act reach other stations
through a network.
-/

namespace PacketSession

namespace Simulation

variable {S : Schema}

/-- What a listener does with each message. -/
inductive ListenerPlan (S : Schema)
  /-- It passes the message on. -/
  | pass
  /-- It writes the message down. -/
  | log
  /-- It writes its context down. -/
  | describe
  /-- It refuses the message. -/
  | reject (what : String)
  /-- It refuses one message, counted from zero. -/
  | rejectNth (n : Nat)
  /-- It fails. -/
  | fail (cause : ProtocolError)
  /-- It consumes the message. -/
  | swallow
  /-- It consumes the messages of one channel. -/
  | swallowChannel (channel : Channel)
  /-- It passes a packet on instead. -/
  | replace (packet : Packet S)
  /-- It acts on the session when it sees the first message. -/
  | act (actions : List (String × Action S))
  /-- It decodes frames. -/
  | decode
  /-- It adds a byte at the end. -/
  | tag (byte : UInt8)
  /-- It adds a byte in front. -/
  | lead (byte : UInt8)
  /-- It combines every byte with a mask. -/
  | mask (byte : UInt8)
  /-- It drops bytes from the front, refusing shorter frames. -/
  | strip (count : Nat)
  /-- It adds the lowest byte of the channel and the delivery class at the end. -/
  | stamp
  /-- It doubles a frame. -/
  | double
  /-- It cuts a frame in the middle. -/
  | halve
  /-- It compresses on the way out and inflates on the way in. -/
  | compress (compression : Compression)

/-- Results of listeners in a simulated network. -/
abbrev ActE (S : Schema) := ExceptT ProtocolError (Act S)

/-- The error of a listener that refuses a message. -/
def rejection (what : String) : ProtocolError := .malformedPacket none (.invalid what)

/-- The text of the context of a listener where structures are shown. -/
def contextText (delivery : Delivery) : String :=
  structured "ListenerContext" [("session", "SessionId(#)"), ("delivery", delivery.shown)] false

namespace ListenerPlan

/-- What becomes of the bytes of a frame. -/
def onBytes (plan : ListenerPlan S) (delivery : Delivery) (frame : Bytes) :
    Except ProtocolError (List Bytes) :=
  match plan with
  | tag byte => .ok [frame ++ [byte]]
  | lead byte => .ok [byte :: frame]
  | mask byte => .ok [frame.map fun b => b ^^^ byte]
  | strip count =>
    if frame.length < count then .error (rejection "short frame") else .ok [frame.drop count]
  | stamp =>
    .ok [frame ++ [UInt8.ofNat delivery.channel.raw.toUInt32.toNat,
      delivery.reliability.toByte]]
  | double => .ok [frame, frame]
  | halve =>
    let (front, back) := frame.splitAt (frame.length / 2)
    .ok [front, back]
  | _ => .ok [frame]

/-- What becomes of a message. -/
def transform (n : Network S) (plan : ListenerPlan S) (direction : Direction) (name : String)
    (number : Nat) (delivery : Delivery) (message : Message S) : ActE S (List (Message S)) := do
  let seen ← (Script.modifyGet fun w => w.countMessage number : Act S Nat)
  match plan with
  | pass => return [message]
  | log =>
    (Script.note (.heard direction name delivery message) : Act S Unit)
    return [message]
  | describe =>
    (Script.note (.context name (contextText delivery)) : Act S Unit)
    return [message]
  | reject what => throw (rejection what)
  | rejectNth place => if seen = place then throw (rejection "nth") else return [message]
  | fail cause => throw cause
  | swallow => return []
  | swallowChannel channel => return (if delivery.channel = channel then [] else [message])
  | replace packet => return [.packet packet]
  | act actions =>
    if seen = 0 then (runActions n actions : Act S Unit)
    return [message]
  | decode =>
    match message with
    | .packet _ => return [message]
    | .bytes frame =>
      match (← (codecs : Act S _)).decode frame with
      | .ok d => return [.packet d.packet]
      | .error e => throw e
  | compress compression =>
    match direction with
    | .outward => compression.outbound delivery message
    | .inward => return (← compression.inbound delivery message).toList
  | tag _ | lead _ | mask _ | strip _ | stamp | double | halve =>
    match message with
    | .packet _ => return [message]
    | .bytes frame =>
      match plan.onBytes delivery frame with
      | .ok frames => return frames.map .bytes
      | .error e => throw e

/-- The stage on the way in; `number` identifies the listener. -/
def inbound (n : Network S) (plan : ListenerPlan S) (name : String) (number : Nat) :
    InboundListener S (Act S) :=
  fun delivery message =>
    return (← plan.transform n .inward name number delivery message).head?

/-- The stage on the way out; `number` identifies the listener. -/
def outbound (n : Network S) (plan : ListenerPlan S) (name : String) (number : Nat) :
    OutboundListener S (Act S) :=
  fun delivery message => plan.transform n .outward name number delivery message

end ListenerPlan

end Simulation

end PacketSession
