import PacketSession.Proofs.Connection.Memory
import PacketSession.Proofs.Session.Quiet
import PacketSession.Proofs.Session.Sending

/-!
# Two sessions on the two ends of a pair in memory

A conversation is two sessions of one protocol, opened on the two ends of a pair in memory, each
with a driver that reads from its end. In a `Step` somebody calls one of the sessions, or one of the
drivers reads what is next at its end and passes it on. A driver whose session needs no more
stops reading for good. Any order of steps is a run of the conversation.

The callbacks of the protocol know at which side they run. They share a state of the application,
and reach the pair only by calling their session.
-/

namespace PacketSession

open Memory

variable {S : Schema} {N Y : Type}

/-! ### Ends as connections -/

/-- What is outside of two sessions: the pair that joins them and the state of the application. -/
structure Joint (Y : Type) where
  /-- The pair. -/
  pair : MemoryPair
  /-- The state of the application. -/
  state : Y

/-- Scripts that know at which side they run. -/
abbrev Sided (S : Schema) (N Y : Type) : Type → Type := ReaderT Side (Script S N Y)

/-- A script of the application, which reaches only the state of the application. -/
def Script.joined {α : Type} : Script S N Y α → Script S N (Joint Y) α
  | done result => done result
  | ask request next => ask request fun answer => (next answer).joined
  | look next => look fun joint => (next joint.state).joined
  | put state next => look fun joint => put { joint with state } next.joined
  | write note next => write note next.joined

/-- The end of the pair at a side, as a connection. -/
def Joint.carrier (side : Side) : Carrier (Joint Y) (Script S N (Joint Y)) where
  send _ frame := Script.modifyGet fun joint =>
    let (result, pair) := joint.pair.send side frame
    (result.map fun () => .ready (.ok ()), { joint with pair })
  disconnect _ _ := Script.modify fun joint => { joint with pair := joint.pair.disconnect side }
  isConnected _ := do return (← Script.outside).pair.isConnected side
  address _ _ := none

/-- The application at a side. -/
def Protocol.application (p : Protocol S (Sided S N Y)) (side : Side) :
    Application S N (Joint Y) where
  protocol := p.map fun script => (script.run side).joined
  carrier := Joint.carrier side

/-! ### Conversations -/

/-- One of two sessions, with its journal. -/
structure Party (S : Schema) (N : Type) where
  /-- The session. -/
  session : Session S
  /-- What was seen of it and which turns it took, latest first. -/
  journal : List (Entry S N)

/-- Two sessions and what is outside of both. -/
structure Conversation (S : Schema) (N Y : Type) where
  /-- The session at one side. -/
  left : Party S N
  /-- The session at the other side. -/
  right : Party S N
  /-- What is outside of both. -/
  joint : Joint Y

namespace Conversation

/-- The session at a side. -/
def party (c : Conversation S N Y) : Side → Party S N
  | .left => c.left
  | .right => c.right

/-- The session at a side with everything that is outside of it. -/
def endpoint (c : Conversation S N Y) (side : Side) : Endpoint S N (Joint Y) :=
  ⟨(c.party side).session, (c.party side).journal, c.joint⟩

/-- The conversation after something happened at a side. -/
def put (c : Conversation S N Y) (side : Side) (e : Endpoint S N (Joint Y)) :
    Conversation S N Y :=
  match side with
  | .left => { c with left := ⟨e.session, e.journal⟩, joint := e.outside }
  | .right => { c with right := ⟨e.session, e.journal⟩, joint := e.outside }

/-- The end of the pair at a side. -/
def side (c : Conversation S N Y) (side : Side) : End := c.joint.pair.get side

/-- The conversation with another pair. -/
def withPair (c : Conversation S N Y) (pair : MemoryPair) : Conversation S N Y :=
  { c with joint := { c.joint with pair } }

end Conversation

/-- Something that happens in a conversation. -/
inductive Step (S : Schema)
  /-- Somebody sends packets at a side. -/
  | send (side : Side) (call : Sending S)
  /-- Somebody closes the session at a side. -/
  | close (side : Side) (reason : String)
  /-- The driver at a side reads what is next, if it still reads. -/
  | drive (side : Side)

namespace Conversation

variable (p : Protocol S (Sided S N Y)) (depth : Nat)

/-- Performs an action at a side. -/
def visit {α : Type} (c : Conversation S N Y) (side : Side) (action : SessionM S N (Joint Y) α) :
    Conversation S N Y :=
  c.put side (action.after (c.endpoint side))

/-- Passes on what a driver read; it stops reading if that is over. -/
def arrive (c : Conversation S N Y) (side : Side) (arrival : Arrival) : Conversation S N Y :=
  let action := (p.application side).perform depth (.arrive arrival)
  let next := c.visit side action
  if action.answer (c.endpoint side) then next.withPair (next.joint.pair.stopReading side) else next

/-- The driver at a side reads what is next, and passes it on. -/
def drive (c : Conversation S N Y) (side : Side) : Conversation S N Y :=
  if (c.side side).reading then
    match c.joint.pair.next side with
    | (.pending, _) => c
    | (.frame frame, pair) => arrive p depth (c.withPair pair) side (.frame frame)
    | (.ended, pair) => arrive p depth (c.withPair pair) side .ended
  else c

/-- Makes a step. -/
def make (c : Conversation S N Y) : Step S → Conversation S N Y
  | .send side call => c.visit side ((p.application side).sendOne depth call)
  | .close side reason => c.visit side ((p.application side).perform depth (.close reason))
  | .drive side => c.drive p depth side

/-- Makes steps one after the other. -/
def follow (c : Conversation S N Y) (steps : List (Step S)) : Conversation S N Y :=
  steps.foldl (make p depth) c

/-- Both sessions were opened, and nothing else happened. -/
def start (state : Y) : Conversation S N Y :=
  let fresh : Conversation S N Y :=
    ⟨⟨.fresh p.settings, []⟩, ⟨.fresh p.settings, []⟩, ⟨.fresh, state⟩⟩
  let left := fresh.visit .left ((p.application .left).perform depth (.openWith 0))
  left.visit .right ((p.application .right).perform depth (.openWith 0))

/-- Whether a step is not a call to send that fails. -/
def succeeds (c : Conversation S N Y) : Step S → Bool
  | .send side call => (((p.application side).sendOne depth call).answer (c.endpoint side)).isOk
  | _ => true

/-- Whether all calls to send among some steps succeed. -/
def sendsSucceed (c : Conversation S N Y) : List (Step S) → Bool
  | [] => true
  | step :: steps => c.succeeds p depth step && sendsSucceed (c.make p depth step) steps

/-- The reason of the first call to close the session at a side that found it open. -/
def closing? (c : Conversation S N Y) (side : Side) : List (Step S) → Option String
  | [] => none
  | step :: steps =>
    match step with
    | .close place reason =>
      if place = side ∧ (c.party side).session.phase = .opened then some reason
      else closing? (c.make p depth step) side steps
    | _ => closing? (c.make p depth step) side steps

/-- The driver at a side stopped reading. -/
def Finished (c : Conversation S N Y) (side : Side) : Prop := (c.side side).reading = false

instance (c : Conversation S N Y) (side : Side) : Decidable (c.Finished side) :=
  inferInstanceAs (Decidable ((c.side side).reading = false))

end Conversation

/-- The calls to send at a side, in order. -/
def sendings (side : Side) (steps : List (Step S)) : List (Sending S) :=
  steps.filterMap fun
    | .send place call => if place = side then some call else none
    | _ => none

end PacketSession
