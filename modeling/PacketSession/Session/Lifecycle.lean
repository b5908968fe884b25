import PacketSession.Session.Outbound

/-!
# Opening, closing and failing

A session opens once. It closes in one of these ways, and whichever comes first determines
the reason:

* its own side closes it: the close is announced, and the connection goes away;
* the peer announces a close: the connection goes away without an answer;
* processing traffic fails: the close is announced unless the connection itself is to blame;
* the connection goes away on its own;
* the connection is turned away before the session opens.

In the end `finish` makes the session closed: it settles all awaited replies, drops unfinished
payloads, lets go of the connection, and runs the callbacks. A closed session does nothing
any more.
-/

namespace PacketSession

variable {S : Schema} {N X : Type}

namespace Host

variable (h : Host S N X)

/-- Runs the callback for an open session. -/
def notifyOpened : SessionM S N X Unit := do
  SessionM.record (.opened (← SessionM.current).phase)
  h.protocol.lifecycle.onOpened

/-- Runs the callback for a failed session. -/
def notifyException (cause : ProtocolError) : SessionM S N X Unit := do
  SessionM.record (.failed (← SessionM.current).phase cause)
  h.protocol.lifecycle.onException cause

/-- Runs the callback for a closed session. -/
def notifyClosed : SessionM S N X Unit := do
  SessionM.record (.closed (← SessionM.current).phase)
  h.protocol.lifecycle.onClosed

/-- The error that awaited replies get when a session closes with this reason, or because of
this failure. -/
def closingError (reason : String) : Option ProtocolError → SessionError
  | some cause => .protocol cause
  | none => .closed reason

/-- A session without everything that it lets go of in the end. -/
def released (s : Session S) (cause : Option ProtocolError) : Session S :=
  { s with
    connection := none
    reassembler := s.reassembler.clear
    replies := (s.replies.failAll (closingError s.reasonText cause)).2 }

/-- Makes a session closed, once. -/
def finish (cause : Option ProtocolError) : SessionM S N X Unit := do
  let s ← SessionM.current
  if s.phase = .closed then return ()
  SessionM.turn .ends fun s => released s cause
  if let some connection := s.connection then h.disconnect connection s.reasonText
  if let some cause := cause then h.notifyException cause
  h.notifyClosed

/-- Why a session does not take a connection, if it does not. -/
def openRefusal? (s : Session S) : Option SessionError :=
  match s.phase with
  | .connecting => none
  | .opened | .closing => some .alreadyOpened
  | .closed => some (.closed s.reasonText)

/-- Opens a session with a connection. -/
def openWith (connection : ConnectionId) : SessionM S N X (Except SessionError Unit) := do
  match openRefusal? (← SessionM.current) with
  | some e => return .error e
  | none =>
    let address := h.carrier.address (← get).outside connection
    SessionM.turn .opens fun s => { s with connection := some connection, address }
    h.notifyOpened
    return .ok ()

/-- Turns a connection away: the session is closed without having been open, and no callback
runs. -/
def refuse (connection : ConnectionId) (reason : String) :
    SessionM S N X (Except SessionError Unit) := do
  match openRefusal? (← SessionM.current) with
  | some e => return .error e
  | none =>
    let address := h.carrier.address (← get).outside connection
    SessionM.turn .refuses fun s => { s with reason := some reason, address }
    h.announceIfConnected connection reason
    h.disconnect connection reason
    return .ok ()

/-- Closes a session. An open one waits for its connection to go away; one without a
connection is closed at once; for all others there is nothing left to do. -/
def close (reason : String) : SessionM S N X Unit := do
  let s ← SessionM.current
  match s.phase with
  | .closing | .closed => return ()
  | .connecting =>
    SessionM.update fun s => { s with reason := some reason }
    h.finish none
  | .opened =>
    SessionM.turn .closes fun s => { s with reason := some reason }
    if let some connection := s.connection then
      h.announceIfConnected connection reason
      h.disconnect connection reason

/-- Closes a session because of a failure, without waiting for its connection. -/
def fail (cause : ProtocolError) : SessionM S N X Unit := do
  let s ← SessionM.current
  if s.phase = .closed then return ()
  let reason := s.reason.getD cause.message
  SessionM.turn (.fails cause) fun s => { s with reason := some reason }
  if let some connection := s.connection then
    if s.phase = .opened && !cause.isTransport then h.announceIfConnected connection reason
    h.disconnect connection reason
  h.finish (some cause)

/-- The connection went away. -/
def transportClosed : SessionM S N X Unit := do
  if (← SessionM.current).phase = .closed then return ()
  SessionM.update fun s => { s with reason := some (s.reason.getD "connection closed") }
  h.finish none

/-- The connection failed. -/
def transportFailed (cause : TransportError) : SessionM S N X Unit :=
  h.fail (.transport cause)

/-- The peer announced a close. -/
def peerDisconnected (reason : String) : SessionM S N X Unit := do
  let s ← SessionM.current
  if s.phase = .opened then
    SessionM.turn .hangsUp fun s => { s with reason := some reason }
    if let some connection := s.connection then h.disconnect connection reason

end Host

/-! ### Awaited replies and attachments -/

namespace Session

variable {S : Schema}

/-- Begins to wait for a reply; at a closed session the wait is over at once. -/
def awaitReply (s : Session S) : Nat × Session S :=
  let (id, replies) := s.replies.create
  let replies :=
    if s.phase = .closed then (replies.settle id (.error (.closed s.reasonText))).2 else replies
  (id, { s with replies })

/-- Settles a wait, telling whether there was one. -/
def settleReply (s : Session S) (id : Nat) (outcome : Reply S) : Bool × Session S :=
  let (found, replies) := s.replies.settle id outcome
  (found, { s with replies })

/-- Attaches state of the application, in place of what was attached before. -/
def attach (s : Session S) (value : S.Attachment) : Session S :=
  { s with attachment := some value }

/-- Changes what is attached, if it is as `view` wants it, giving the answer of `view`. -/
def withAttachment {α : Type} (s : Session S) (view : S.Attachment → Option (α × S.Attachment)) :
    Option α × Session S :=
  match s.attachment.bind view with
  | some (answer, value) => (some answer, { s with attachment := some value })
  | none => (none, s)

/-- Removes what is attached, if it is as `view` wants it. -/
def takeAttachment {α : Type} (s : Session S) (view : S.Attachment → Option α) :
    Option α × Session S :=
  match s.attachment.bind view with
  | some answer => (some answer, { s with attachment := none })
  | none => (none, s)

end Session

end PacketSession
