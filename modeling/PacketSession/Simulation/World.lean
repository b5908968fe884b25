import PacketSession.Connection.Memory
import PacketSession.Connection.Stream
import PacketSession.Script.Host

/-!
# A simulated network

A `World` holds sessions at their stations together with everything they are connected by:
connections whose fate is laid down in advance, pairs of ends in memory, and ends of byte
streams. At every moment at most one station is active, the one whose session runs; its
callbacks find the world outside of that session.

`Action` lists what can be done at a station, from outside as well as from a callback, and
`Outcome` what comes of it.
-/

namespace PacketSession

namespace Simulation

variable {S : Schema}

/-! ### Connections -/

/-- The fate of a connection, laid down in advance. -/
structure ConnectionPlan where
  /-- Whether it takes frames at all. -/
  connected : Bool := true
  /-- The call, counted from zero, that fails, and how. -/
  failure : Option (Nat × TransportError) := none
  /-- The longest payload that it takes. -/
  maxPayload : Option Nat := none
  /-- Whether writes complete later, when they are told to. -/
  pending : Bool := false
  /-- Whether it goes away as soon as it is asked to. -/
  closesAtOnce : Bool := false
  /-- Whether its frames are looked at inflated. -/
  inflated : Bool := false
  /-- Where its peer is. -/
  address : Option SocketAddress := none

/-- A connection with a fate laid down in advance. -/
structure PlannedConnection where
  /-- Its fate. -/
  plan : ConnectionPlan
  /-- How many frames were handed to it. -/
  calls : Nat
  /-- Whether it was asked to go away. -/
  closed : Bool
  /-- The writes to be completed later, in order; a completed one is gone. -/
  writes : List (Option WriteId)

/-- The connection that a connection number stands for. -/
inductive Link
  /-- A connection with a fate laid down in advance. -/
  | planned (connection : PlannedConnection)
  /-- An end in memory: the number of the pair and the side. Of the plan only
  `closesAtOnce` and `inflated` matter. -/
  | memory (pair : Nat) (side : Memory.Side) (plan : ConnectionPlan)
  /-- An end of a byte stream, by its number. -/
  | stream (index : Nat)

/-! ### Stations -/

/-- What a source with a fate laid down in advance yields. -/
inductive SourceItem
  | arrival (arrival : Arrival)
  /-- It yields nothing once. -/
  | wait

/-- Where the arrivals of a session come from. -/
inductive Source
  /-- They are laid down in advance; after the last one nothing more comes. -/
  | planned (items : List SourceItem)
  /-- From an end in memory. -/
  | memory (pair : Nat) (side : Memory.Side)
  /-- From an end of a byte stream. -/
  | stream (index : Nat)
deriving Inhabited

/-- A session and what is kept for it. -/
structure Station (S : Schema) where
  /-- The name of the session. -/
  name : String
  /-- The number of its protocol. -/
  protocol : Nat
  /-- The codecs of its protocol. -/
  codecs : Registry S
  /-- The session; while the station is active, its state as it was before. -/
  session : Session S
  /-- The last connection that it was to be opened with, as long as anybody knows it. -/
  connection : Option ConnectionId
  /-- Where its arrivals come from, while they wait for somebody to read them. -/
  source : Option Source
  /-- The end of a byte stream whose arrivals are passed on by themselves. -/
  stream : Option Nat
  /-- The sends that somebody waits for, by label. -/
  sends : List (String × SendHandle)
  /-- The numbers of the replies that somebody waits for. -/
  awaited : List Nat

/-- Sessions and what connects them. -/
structure World (S : Schema) where
  /-- The stations. -/
  stations : List (Station S)
  /-- The number of the station whose session runs. -/
  active : Nat
  /-- The connections by their numbers. -/
  links : List Link
  /-- The pairs of ends in memory. -/
  pairs : List MemoryPair
  /-- The ends of byte streams; the ends of one stream are neighbours. -/
  streams : List StreamEnd
  /-- The outcomes of writes. -/
  writes : WriteTable
  /-- The writes of sends that are under way. -/
  underWay : List WriteId
  /-- The connections that calls under way hold on to. -/
  held : List ConnectionId
  /-- How many messages each listener has seen, by the number of the listener. -/
  seen : List (Nat × Nat)

/-! ### Actions -/

/-- What can be done at a station. -/
inductive Action (S : Schema)
  /-- Opens the session with a new connection, to be read from the given source. -/
  | openWith (plan : ConnectionPlan) (source : Option (List SourceItem))
  /-- Turns a new connection away. -/
  | refuse (reason : String) (plan : ConnectionPlan)
  | close (reason : String)
  | fail (cause : ProtocolError)
  | transportClosed
  | transportFailed (cause : TransportError)
  | receive (frame : WireFrame)
  /-- Encodes a packet and has it arrive. -/
  | receivePacket (packet : Packet S) (delivery : Delivery)
  | send (packet : Packet S) (delivery : Delivery) (label : Option String)
  | sendBatch (packets : List (Packet S)) (delivery : Delivery) (label : Option String)
  | sendFrame (frame : Bytes) (delivery : Delivery) (label : Option String)
  /-- Asks whether a labelled send is done. -/
  | pollSend (label : String)
  /-- Completes a write of the connection. -/
  | completeWrite (index : Nat) (result : WriteResult)
  /-- Gives up a write of the connection. -/
  | abandonWrite (index : Nat)
  /-- Has the connection go away unasked. -/
  | sever
  | awaitReply
  | settleReply (id : Nat) (outcome : Reply S)
  /-- Asks for the outcome of a wait. -/
  | pollReply (id : Nat)
  /-- Stops waiting. -/
  | dropReply (id : Nat)
  | attach (value : S.Attachment)
  /-- Changes what is attached, if it is as wanted. -/
  | changeAttachment (view : S.Attachment → Option S.Attachment)
  /-- Removes what is attached, if it is as wanted. -/
  | takeAttachment (view : S.Attachment → Option S.Attachment)
  /-- Looks at the session. -/
  | inspect
  /-- Compares the session with another one. -/
  | compare (other : String)
  | countCodecs
  /-- Passes on all arrivals there are. -/
  | poll
  /-- Nobody reads the arrivals any more. -/
  | dropSource
  /-- Nobody knows the connection any more. -/
  | dropConnection
  /-- Opens two sessions with the ends of a pair in memory. -/
  | link (peer : String) (plan : ConnectionPlan)

/-- What comes of an action. -/
inductive Outcome (S : Schema)
  /-- Nothing to report. -/
  | done
  | flag (value : Bool)
  | opened (result : Except SessionError Unit)
  /-- The number of frames of a send. -/
  | sent (result : Except SessionError Nat)
  | notEncoded (cause : ProtocolError)
  | written (result : WriteResult)
  /-- It is not there. -/
  | missing
  /-- It is not done yet. -/
  | pending
  /-- Reading is over. -/
  | finished
  | awaiting (id : Nat)
  | reply (outcome : Reply S)
  | attachment (value : Option S.Attachment)
  | state (name : String) (session : Session S)
  | compared (same : Bool)
  | count (n : Nat)
  | linked (own peer : Except SessionError Unit)

/-- The direction in which a listener works. -/
inductive Direction
  | inward | outward

/-- What callbacks write down. -/
inductive Note (S : Schema)
  /-- A callback did something, which goes by this name. -/
  | acted (name : String) (outcome : Outcome S)
  /-- A handler answered a request. -/
  | answered (result : Except SessionError Nat)
  /-- A handler settled a wait. -/
  | resolved (found : Bool)
  /-- A listener saw a message. -/
  | heard (direction : Direction) (listener : String) (delivery : Delivery) (message : Message S)
  /-- A listener described its context. -/
  | context (listener : String) (text : String)
  /-- Meanwhile something was seen at another station. -/
  | elsewhere (station : Nat) (event : Event S (Note S))

/-- Scripts in a simulated network. -/
abbrev Act (S : Schema) := Script S (Note S) (World S)

/-- Actions of a session in a simulated network. -/
abbrev Run (S : Schema) := SessionM S (Note S) (World S)

namespace World

/-- A world without stations. -/
def empty : World S where
  stations := []
  active := 0
  links := []
  pairs := []
  streams := []
  writes := .empty
  underWay := []
  held := []
  seen := []

/-- The number of the station with this name. -/
def find? (w : World S) (name : String) : Option Nat :=
  w.stations.findIdx? fun station => station.name = name

/-- Changes a station. -/
def modifyStation (w : World S) (index : Nat) (f : Station S → Station S) : World S :=
  { w with stations := w.stations.modify index f }

/-- Changes the active station. -/
def modifyActive (w : World S) (f : Station S → Station S) : World S :=
  w.modifyStation w.active f

/-- Adds a station for a fresh session. -/
def addStation (w : World S) (name : String) (protocol : Nat) (codecs : Registry S)
    (settings : Settings) : World S :=
  { w with
    stations := w.stations ++
      [⟨name, protocol, codecs, .fresh settings, none, none, none, [], []⟩] }

/-- Adds a connection, giving its number. -/
def addLink (w : World S) (link : Link) : ConnectionId × World S :=
  (w.links.length, { w with links := w.links ++ [link] })

/-- Adds a connection with a fate laid down in advance, giving its number. -/
def addPlanned (w : World S) (plan : ConnectionPlan) : ConnectionId × World S :=
  w.addLink (.planned ⟨plan, 0, false, []⟩)

/-- Counts one more message for a listener, giving the number of those before. -/
def countMessage (w : World S) (listener : Nat) : Nat × World S :=
  let before := (w.seen.lookup listener).getD 0
  (before, { w with
    seen := (listener, before + 1) :: w.seen.filter fun entry => entry.1 ≠ listener })

/-- Whether anyone still waits for a write. -/
def isAwaited (w : World S) (id : WriteId) : Bool :=
  w.underWay.contains id ||
    w.stations.any fun station => station.sends.any fun send => send.2.waitsFor id

/-- The plan of a connection, if it has one. -/
def plan? (w : World S) (connection : ConnectionId) : Option ConnectionPlan :=
  match w.links[connection]? with
  | some (.planned planned) => some planned.plan
  | some (.memory _ _ plan) => some plan
  | _ => none

end World

end Simulation

end PacketSession
