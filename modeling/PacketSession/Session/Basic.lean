import PacketSession.Connection.Address
import PacketSession.Connection.Write
import PacketSession.Packet.Reassembly
import PacketSession.Protocol.Basic
import PacketSession.Session.Replies

/-!
# The state of a session

A session starts without a connection, is open while it has one and traffic flows, and ends
closed; in between it may be closing, waiting for its connection to go away. A session runs
as one of two parties at an `Endpoint`: what it did that can be seen from outside is kept in
a journal, together with every turn that it took from one phase to another, and everything
else that callbacks may look at or change is the `outside`.

A `Host` is what the session relies on: the protocol, whose callbacks are actions on the
endpoint, and the `Carrier` that knows its connections. Callbacks and carriers may call the
session themselves, so every call on them may change the session. Only the address of a
connection is asked for while the session is locked; it is read off the state outside.
-/

namespace PacketSession

/-- How far a session has come. -/
inductive Phase
  /-- There is no connection yet. -/
  | connecting
  /-- There is a connection and traffic flows. -/
  | opened
  /-- The connection is asked to go away. -/
  | closing
  /-- Everything is over. -/
  | closed
deriving DecidableEq

namespace Phase

/-- The name of a phase. -/
def shown : Phase → String
  | connecting => "Connecting"
  | opened => "Open"
  | closing => "Closing"
  | closed => "Closed"

/-- Phases only ever advance; this counts the steps. -/
def rank : Phase → Nat
  | connecting => 0
  | opened => 1
  | closing => 2
  | closed => 3

end Phase

/-- How a session turns from one phase to another. -/
inductive Turn
  /-- It gets a connection. -/
  | opens
  /-- It turns a connection away. -/
  | refuses
  /-- Its own side closes it. -/
  | closes
  /-- The peer announced a close. -/
  | hangsUp
  /-- It fails. -/
  | fails (cause : ProtocolError)
  /-- It is over. -/
  | ends
deriving DecidableEq

/-- The phase that a turn leads to. -/
def Turn.phase : Turn → Phase
  | opens => .opened
  | closes | hangsUp | fails _ => .closing
  | refuses | ends => .closed

/-- The number of a connection at its carrier. -/
abbrev ConnectionId := Nat

/-- The state of a session. -/
structure Session (S : Schema) where
  /-- How far it has come. -/
  phase : Phase
  /-- Its connection, while it has one. -/
  connection : Option ConnectionId
  /-- Where the peer is, if the connection knew. -/
  address : Option SocketAddress
  /-- Why it closes or closed, once that is known. -/
  reason : Option String
  /-- The unfinished payloads. -/
  reassembler : Reassembler
  /-- The awaited replies. -/
  replies : Replies S
  /-- What the application attached to it. -/
  attachment : Option S.Attachment

namespace Session

variable {S : Schema}

/-- A session without a connection. -/
def fresh (settings : Settings) : Session S where
  phase := .connecting
  connection := none
  address := none
  reason := none
  reassembler := .ofLimit settings.maxMessage
  replies := .empty
  attachment := none

/-- Whether traffic flows. -/
def isOpen (s : Session S) : Bool := s.phase = .opened

/-- The recorded reason, or no text if there is none. -/
def reasonText (s : Session S) : String := s.reason.getD ""

/-- The text of a session of a given name where structures are shown. -/
def shown (s : Session S) (name : String) : String :=
  structured "Session" [("id", "SessionId(" ++ name ++ ")"), ("state", s.phase.shown),
    ("remote_addr", optional (s.address.map SocketAddress.text)),
    ("disconnect_reason", optional (s.reason.map quoted))] false

end Session

/-- What can be seen of a session from outside; `N` are the notes of the application. -/
inductive Event (S : Schema) (N : Type)
  /-- The callback for an open session is about to run. -/
  | opened (phase : Phase)
  /-- The callback for a failed session is about to run. -/
  | failed (phase : Phase) (cause : ProtocolError)
  /-- The callback for a closed session is about to run. -/
  | closed (phase : Phase)
  /-- The close is about to be announced to the peer. -/
  | announcing (reason : String)
  /-- A frame was handed to a connection, which took or refused it. -/
  | sent (connection : ConnectionId) (frame : WireFrame) (refusal : Option TransportError)
  /-- A connection is asked to go away. -/
  | disconnecting (connection : ConnectionId) (reason : String)
  /-- A handler is about to run. -/
  | handling (id : PacketId) (packet : Packet S) (delivery : Delivery)
  /-- The application wrote something down. -/
  | note (note : N)

/-- What the journal of a session holds. -/
inductive Entry (S : Schema) (N : Type)
  /-- Something could be seen from outside. -/
  | seen (event : Event S N)
  /-- The session turned to another phase. -/
  | turned (turn : Turn)

/-- The event of an entry that could be seen from outside. -/
def Entry.event? {S : Schema} {N : Type} : Entry S N → Option (Event S N)
  | seen event => some event
  | turned _ => none

/-- A session, its journal, latest entry first, and everything else. -/
structure Endpoint (S : Schema) (N X : Type) where
  /-- The session. -/
  session : Session S
  /-- What was seen of it and which turns it took, latest first. -/
  journal : List (Entry S N)
  /-- Everything else that callbacks may look at or change. -/
  outside : X

namespace Endpoint

variable {S : Schema} {N X : Type}

/-- A session without a connection, nothing of which was seen yet. -/
def fresh (settings : Settings) (outside : X) : Endpoint S N X := ⟨.fresh settings, [], outside⟩

/-- Changes the state of the session. -/
def update (e : Endpoint S N X) (f : Session S → Session S) : Endpoint S N X :=
  { e with session := f e.session }

/-- Writes an event into the journal. -/
def record (e : Endpoint S N X) (event : Event S N) : Endpoint S N X :=
  { e with journal := .seen event :: e.journal }

/-- Takes a turn, which changes the phase and, by `f`, the rest of the state, and writes it
into the journal. -/
def turn (e : Endpoint S N X) (turn : Turn) (f : Session S → Session S) : Endpoint S N X :=
  { e with
    session := { f e.session with phase := turn.phase }
    journal := .turned turn :: e.journal }

end Endpoint

/-- Actions at an endpoint. -/
abbrev SessionM (S : Schema) (N X : Type) := StateM (Endpoint S N X)

/-- The connections that sessions are opened with; `X` is the state outside. -/
structure Carrier (X : Type) (m : Type → Type) where
  /-- Takes a frame to be written, in the order of the calls. -/
  send : ConnectionId → WireFrame → m (Except TransportError WriteHandle)
  /-- Asks a connection to go away once everything taken so far is written. -/
  disconnect : ConnectionId → String → m Unit
  /-- Whether a connection still takes frames. -/
  isConnected : ConnectionId → m Bool
  /-- Where the peer is, if the connection knows. -/
  address : X → ConnectionId → Option SocketAddress

/-- The carrier with the actions of another one, run in another monad by `run`. -/
def Carrier.map {X : Type} {m n : Type → Type} (run : {α : Type} → m α → n α)
    (c : Carrier X m) : Carrier X n where
  send connection frame := run (c.send connection frame)
  disconnect connection reason := run (c.disconnect connection reason)
  isConnected connection := run (c.isConnected connection)
  address := c.address

/-- What a session relies on. -/
structure Host (S : Schema) (N X : Type) where
  /-- What it agreed on with its peer. -/
  protocol : Protocol S (SessionM S N X)
  /-- The connections. -/
  carrier : Carrier X (SessionM S N X)

namespace SessionM

variable {S : Schema} {N X : Type}

/-- The state of the session. -/
def current : SessionM S N X (Session S) := return (← get).session

/-- Changes the state of the session. -/
def update (f : Session S → Session S) : SessionM S N X Unit := modify fun e => e.update f

/-- Takes a turn. -/
def turn (turn : Turn) (f : Session S → Session S) : SessionM S N X Unit :=
  modify fun e => e.turn turn f

/-- Writes an event into the journal. -/
def record (event : Event S N) : SessionM S N X Unit := modify fun e => e.record event

end SessionM

end PacketSession
