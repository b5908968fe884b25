import PacketSession.Connection.Framing
import PacketSession.Connection.Write

/-!
# Connections on a byte stream

One end of a stream connection has a writer and a reader. Senders only queue commands, and
the writer carries them out one at a time, so frames of different senders never mix and
hanging up comes after every frame queued before it. The writer ends when it is told to, or
when a write fails; frames still queued then are given up. The reader learns of the writer's
end before it looks at the stream again: a failed write ends the connection with that error,
anything else ends it properly.
-/

namespace PacketSession

/-- What the writer is told to do. -/
inductive StreamCommand
  /-- Write a frame, then complete the write of this number. -/
  | write (frame : WireFrame) (id : WriteId)
  /-- End. -/
  | shutdown
deriving DecidableEq

/-- The writes that a command completes if it is never carried out. -/
def StreamCommand.abandoned : StreamCommand → List (WriteId × WriteResult)
  | write _ id => [(id, .error .writerGone)]
  | shutdown => []

/-- One end of a stream connection. -/
structure StreamEnd where
  /-- The largest frame taken or read, header included. -/
  limit : Nat
  /-- Whether this end hung up. -/
  closing : Bool
  /-- Whether the writer has not ended. -/
  writerAlive : Bool
  /-- The commands to be carried out. -/
  commands : Queue StreamCommand
  /-- The failure that ended the writer, until the reader took it. -/
  failure : Option TransportError
  /-- Whether the writer ended and the reader has not seen it. -/
  writerExit : Bool
  /-- The bytes that arrived and were not read. -/
  input : Bytes
  /-- Whether no more bytes will arrive. -/
  inputEnded : Bool
  /-- Whether the reader reached its end. -/
  done : Bool

namespace StreamEnd

/-- An end at which nothing happened yet. -/
def fresh (limit : Nat) : StreamEnd where
  limit := limit
  closing := false
  writerAlive := true
  commands := .empty
  failure := none
  writerExit := false
  input := []
  inputEnded := false
  done := false

/-! ### Sending -/

/-- Whether frames can still be queued. -/
def isConnected (e : StreamEnd) : Bool := !e.closing && e.writerAlive

/-- Why a frame cannot be queued, if it cannot. -/
def refusal? (e : StreamEnd) (frame : WireFrame) : Option TransportError :=
  let size := Settings.wireHeaderSize + frame.payload.length
  if !e.isConnected then some .connectionClosed
  else if e.limit < size then some (.frameTooLarge size e.limit)
  else none

/-- Queues a frame as the write of this number. -/
def send (e : StreamEnd) (frame : WireFrame) (id : WriteId) :
    Except TransportError Unit × StreamEnd :=
  match e.refusal? frame with
  | some cause => (.error cause, e)
  | none => (.ok (), { e with commands := e.commands.push (.write frame id) })

/-- Hangs up behind every frame queued so far; doing so again changes nothing. -/
def disconnect (e : StreamEnd) : StreamEnd :=
  if e.closing then e
  else { e with closing := true, commands := e.commands.push .shutdown }

/-! ### Writing -/

/-- What one step of the writer brought about. -/
structure WriterStep where
  /-- The end after the step. -/
  after : StreamEnd
  /-- The bytes that went onto the stream. -/
  written : Bytes
  /-- The writes that got their outcome. -/
  settled : List (WriteId × WriteResult)

/-- The writer ends: everything still queued is given up. -/
def endWriter (e : StreamEnd) (failure : Option TransportError) (commands : Queue StreamCommand)
    (settled : List (WriteId × WriteResult)) : WriterStep where
  after :=
    { e with
      writerAlive := false, commands := .empty, failure := failure, writerExit := true }
  written := []
  settled := settled ++ commands.toList.flatMap StreamCommand.abandoned

/-- Carries out the next command, if there is one; `fate` is the failure that a write would
meet. -/
def writerStep? (e : StreamEnd) (fate : Option TransportError) : Option WriterStep :=
  if !e.writerAlive then none
  else
    match e.commands.pop?, fate with
    | none, _ => none
    | some (.shutdown, commands), _ => some (e.endWriter none commands [])
    | some (.write frame id, commands), none =>
      some ⟨{ e with commands }, Framing.encode frame, [(id, .ok ())]⟩
    | some (.write _ id, commands), some cause =>
      some (e.endWriter (some cause) commands [(id, .error cause)])

/-! ### Reading -/

/-- More bytes arrive. -/
def receive (e : StreamEnd) (bytes : Bytes) : StreamEnd :=
  { e with input := e.input ++ bytes }

/-- No more bytes will arrive. -/
def endInput (e : StreamEnd) : StreamEnd := { e with inputEnded := true }

/-- What the reader finds: a frame, the end, a failure, or nothing yet. -/
inductive Reading
  | frame (frame : WireFrame)
  | ended
  | failed (cause : TransportError)
  | pending
deriving DecidableEq

/-- Reads the next frame. -/
def next (e : StreamEnd) : Reading × StreamEnd :=
  if e.done then (.ended, e)
  else if e.writerExit then
    let after := { e with done := true, writerExit := false, failure := none }
    match e.failure with
    | some cause => (.failed cause, after)
    | none => (.ended, after)
  else
    match Framing.read e.limit e.input e.inputEnded with
    | .frame frame rest => (.frame frame, { e with input := rest })
    | .pending => (.pending, e)
    | .ended => (.ended, { e with done := true })
    | .failed cause => (.failed cause, { e with done := true })

end StreamEnd

end PacketSession
