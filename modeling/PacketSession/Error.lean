import PacketSession.PacketId
import PacketSession.Text.Quoted
import PacketSession.Wire.Cursor

/-!
# Errors

Errors are split by the moment at which they arise. A `RegistrationError` arises while a
protocol is put together, a `TransportError` comes from a connection, a `ProtocolError` from
processing traffic, and a `SessionError` answers a call on a session. Each has one function
`message` for its wording, which quotes the message of the error inside it, and one function
`causes` for the messages of the errors inside it, from the outside in.
-/

namespace PacketSession

/-! ### Connections -/

/-- Why a connection could not carry a frame. -/
inductive TransportError
  /-- The stream underneath failed. -/
  | io (what : String)
  /-- Nothing can be written any more. -/
  | connectionClosed
  /-- A frame is larger than the connection carries. -/
  | frameTooLarge (size limit : Nat)
  /-- The framing of the stream makes no sense. -/
  | invalidFrame (what : String)
  /-- The writer ended before it came to this frame. -/
  | writerGone
deriving DecidableEq

namespace TransportError

/-- The wording of a transport error. -/
def message : TransportError → String
  | io what => "i/o error: " ++ what
  | connectionClosed => "connection closed"
  | frameTooLarge size limit => "frame too large: " ++ toString size ++ " > " ++ toString limit
  | invalidFrame what => "invalid frame: " ++ what
  | writerGone => "writer task gone"

/-- The messages of the errors inside. -/
def causes : TransportError → List String
  | io what => [what]
  | _ => []

/-- Whether the byte stream can no longer be trusted; a frame that is merely too large is
the caller's problem. -/
def isFatal : TransportError → Bool
  | frameTooLarge _ _ => false
  | _ => true

end TransportError

/-! ### Traffic -/

/-- Why traffic could not be processed. -/
inductive ProtocolError
  /-- The connection failed. -/
  | transport (cause : TransportError)
  /-- A frame names an identifier without a codec. -/
  | unknownPacketId (id : PacketId)
  /-- A packet is of a type without a codec. -/
  | unknownPacketType (name : String)
  /-- A frame could not be decoded; the identifier is there once it was read. -/
  | malformedPacket (id : Option PacketId) (cause : DecodeError)
  /-- A chunk does not continue the payload it belongs to. -/
  | fragmentOutOfOrder (expected actual : UInt32)
  /-- A payload is longer than the protocol carries. -/
  | payloadTooLarge (size limit : Nat)
deriving DecidableEq

namespace ProtocolError

/-- The wording of a protocol error. -/
def message : ProtocolError → String
  | transport cause => "transport error: " ++ cause.message
  | unknownPacketId id => "unknown packet id: " ++ id.text
  | unknownPacketType name => "unknown packet type: " ++ name
  | malformedPacket id cause =>
    "malformed packet " ++ optional (id.map PacketId.shown) ++ ": " ++ cause.message
  | fragmentOutOfOrder expected actual =>
    "fragmentation order violation: expected offset " ++ toString expected.toNat ++ ", got "
      ++ toString actual.toNat
  | payloadTooLarge size limit =>
    "payload too large: " ++ toString size ++ " > " ++ toString limit

/-- The messages of the errors inside. -/
def causes : ProtocolError → List String
  | transport cause => cause.message :: cause.causes
  | malformedPacket _ cause => [cause.message]
  | _ => []

/-- Whether the connection itself failed, so that nothing more can be written on it. -/
def isTransport : ProtocolError → Bool
  | transport _ => true
  | _ => false

end ProtocolError

/-! ### Setting up -/

/-- Why a protocol could not be put together. -/
inductive RegistrationError
  /-- The identifier has a codec already. -/
  | duplicatePacketId (id : PacketId)
  /-- The packet type has a codec under another identifier. -/
  | duplicatePacketType (name : String) (id : PacketId)
  /-- The identifier belongs to the protocol. -/
  | reservedPacketId (id : PacketId)
  /-- The identifier has a handler already. -/
  | duplicateHandler (id : PacketId)
  /-- The chain has a listener of this name already. -/
  | duplicateListener (name : String)
  /-- The chain has no listener of this name. -/
  | unknownListener (name : String)
deriving DecidableEq

/-- The wording of a registration error. -/
def RegistrationError.message : RegistrationError → String
  | duplicatePacketId id => "packet id " ++ id.text ++ " already registered"
  | duplicatePacketType name id =>
    "packet type " ++ name ++ " already registered as " ++ id.text
  | reservedPacketId id => "packet id " ++ id.text ++ " is reserved"
  | duplicateHandler id => "handler for packet id " ++ id.text ++ " already registered"
  | duplicateListener name => "listener " ++ quoted name ++ " already registered"
  | unknownListener name => "listener " ++ quoted name ++ " not found"

/-! ### Sessions -/

/-- Why a call on a session was refused. -/
inductive SessionError
  /-- The session has no connection yet. -/
  | notOpen
  /-- The session had its connection already. -/
  | alreadyOpened
  /-- The session is closing or closed. -/
  | closed (reason : String)
  /-- Traffic could not be processed. -/
  | protocol (cause : ProtocolError)
  /-- A frame could not be written. -/
  | transport (cause : TransportError)
  /-- An awaited reply was given up. -/
  | replyDropped
deriving DecidableEq

namespace SessionError

/-- The wording of a session error. -/
def message : SessionError → String
  | notOpen => "session is not open"
  | alreadyOpened => "session already opened"
  | closed reason => "session closed: " ++ reason
  | protocol cause => "protocol error: " ++ cause.message
  | transport cause => "transport error: " ++ cause.message
  | replyDropped => "pending reply dropped"

/-- The messages of the errors inside. -/
def causes : SessionError → List String
  | protocol cause => cause.message :: cause.causes
  | transport cause => cause.message :: cause.causes
  | _ => []

end SessionError

/-! ### Any of them -/

/-- An error of any layer, or a configuration that makes no sense. -/
inductive Error
  | registration (cause : RegistrationError)
  | session (cause : SessionError)
  | transport (cause : TransportError)
  /-- Settings contradict each other. -/
  | config (what : String)
  /-- The system underneath failed. -/
  | io (what : String)
deriving DecidableEq

namespace Error

/-- The wording of an error. -/
def message : Error → String
  | registration cause => "registration error: " ++ cause.message
  | session cause => "session error: " ++ cause.message
  | transport cause => "transport error: " ++ cause.message
  | config what => "configuration error: " ++ what
  | io what => "i/o error: " ++ what

/-- The messages of the errors inside. -/
def causes : Error → List String
  | registration cause => [cause.message]
  | session cause => cause.message :: cause.causes
  | transport cause => cause.message :: cause.causes
  | config _ => []
  | io what => [what]

end Error

end PacketSession
