import PacketSession.Proofs.Conversation.Basic
import PacketSession.Proofs.Session.Opening

/-!
# What a conversation sees of a session

A conversation depends on little of its sessions: how far they have come, what their connections
took, what their handlers were run on. That is a `Face`, together with the pair that joins the two.
Every operation that a session comes to in a conversation has one equation here that says what it
does to the face: the session hands over frames (`Face.say`), it begins to close (`Face.depart`), or
it is over (`Face.conclude`).

Calls on a session that is closed leave its face as it is, whatever callbacks make of them
(`Application.inert_perform`). So the callbacks at the end of a session may be any scripts.
-/

namespace PacketSession

open Memory

variable {S : Schema} {N Y : Type}

/-- What counts of a session in a conversation, and the pair that joins it to the other one. -/
structure Face (S : Schema) (N : Type) where
  /-- How far the session has come. -/
  phase : Phase
  /-- Its connection, while it has one. -/
  connection : Option ConnectionId
  /-- Why it closes or closed. -/
  reason : Option String
  /-- Its unfinished payloads. -/
  reassembler : Reassembler
  /-- The frames that its connection took. -/
  taken : List WireFrame
  /-- The packets that its handlers were run on. -/
  handled : List (PacketId × Packet S × Delivery)
  /-- The callbacks at its turning points. -/
  callbacks : List (Event S N)
  /-- The pair. -/
  pair : MemoryPair

/-- The failure of a session whose connection refuses a frame. -/
def ProtocolError.refusal : ProtocolError := .transport .connectionClosed

namespace Face

variable (f : Face S N) (side : Side)

/-- Frames were handed over, and the connection took them. -/
def say (frames : List WireFrame) : Face S N :=
  { f with taken := f.taken ++ frames, pair := f.pair.pass side frames }

/-- The session is closing for a reason. -/
def depart (reason : String) : Face S N :=
  { f with phase := .closing, reason := some reason, pair := f.pair.disconnect side }

/-- A reason is there. -/
def explain (reason : String) : Face S N := { f with reason := some (f.reason.getD reason) }

/-- The session is over, because of a failure if there was any. -/
def conclude (failure : Option ProtocolError) : Face S N :=
  { f with
    phase := .closed
    connection := none
    reassembler := f.reassembler.clear
    callbacks := f.callbacks ++ (failure.map (.failed .closed)).toList ++ [.closed .closed]
    pair := f.pair.disconnect side }

/-- The session failed because a frame was refused. -/
def lose : Face S N :=
  (f.explain ProtocolError.refusal.message).conclude side (some .refusal)

/-- A frame was read, which changed what is in flight and queued, and handlers were run on
packets. -/
def read (reassembler : Reassembler) (pair : MemoryPair)
    (packets : List (PacketId × Packet S × Delivery)) : Face S N :=
  { f with reassembler, pair, handled := f.handled ++ packets }

/-- Handlers were run on packets. -/
def hear (packets : List (PacketId × Packet S × Delivery)) : Face S N :=
  { f with handled := f.handled ++ packets }

/-- The session is open, and its end of the pair is in use. -/
structure Live : Prop where
  opened : f.phase = .opened
  connected : f.connection = some 0
  sending : (f.pair.get side).hungUp = false
  reading : (f.pair.get side).reading = true

variable {f side}

/-- Sending leaves the own end of the pair alone, so the session stays live. -/
theorem Live.say (h : f.Live side) (frames : List WireFrame) : (f.say side frames).Live side where
  opened := h.opened
  connected := h.connected
  sending := (congrArg End.hungUp (f.pair.get_pass_self side frames)).trans h.sending
  reading := (congrArg End.reading (f.pair.get_pass_self side frames)).trans h.reading

theorem Live.hear (h : f.Live side) (packets : List (PacketId × Packet S × Delivery)) :
    (f.hear packets).Live side :=
  ⟨h.opened, h.connected, h.sending, h.reading⟩

@[simp] theorem say_nil : f.say side [] = f := by
  rw [Face.say, List.append_nil, MemoryPair.pass_nil]

theorem say_say (first second : List WireFrame) :
    (f.say side first).say side second = f.say side (first ++ second) := by
  simp only [Face.say, MemoryPair.pass_append, List.append_assoc]

theorem hear_say (frames : List WireFrame) (packets : List (PacketId × Packet S × Delivery)) :
    (f.say side frames).hear packets = (f.hear packets).say side frames := rfl

theorem hear_hear (first second : List (PacketId × Packet S × Delivery)) :
    (f.hear first).hear second = f.hear (first ++ second) := by
  simp only [Face.hear, List.append_assoc]

end Face

/-! ### Faces of endpoints -/

namespace Endpoint

/-- What counts of a session with what is outside of it. -/
def face (e : Endpoint S N (Joint Y)) : Face S N where
  phase := e.session.phase
  connection := e.session.connection
  reason := e.session.reason
  reassembler := e.session.reassembler
  taken := e.taken
  handled := e.handled
  callbacks := e.callbacks
  pair := e.outside.pair

variable (e : Endpoint S N (Joint Y))

/-- A turn shows only in the state of the session. -/
theorem face_turn (t : Turn) (g : Session S → Session S) :
    (e.turn t g).face =
      { e.face with
        phase := t.phase
        connection := (g e.session).connection
        reason := (g e.session).reason
        reassembler := (g e.session).reassembler } := by
  simp [face, turn, taken, handled, callbacks, callbacksIn, Entry.callback?]

theorem face_record_announcing (reason : String) :
    (e.record (.announcing reason)).face = e.face := by
  simp [face, record, taken, handled, callbacks, callbacksIn, Entry.callback?, Event.isCallback]

theorem face_record_disconnecting (connection : ConnectionId) (reason : String) :
    (e.record (.disconnecting connection reason)).face = e.face := by
  simp [face, record, taken, handled, callbacks, callbacksIn, Entry.callback?, Event.isCallback]

theorem face_record_note (note : N) : (e.record (.note note)).face = e.face := by
  simp [face, record, taken, handled, callbacks, callbacksIn, Entry.callback?, Event.isCallback]

theorem face_record_refused (connection : ConnectionId) (frame : WireFrame)
    (cause : TransportError) : (e.record (.sent connection frame (some cause))).face = e.face := by
  simp [face, record, taken, handled, callbacks, callbacksIn, Entry.callback?, Event.isCallback]

theorem face_record_taken (connection : ConnectionId) (frame : WireFrame) :
    (e.record (.sent connection frame none)).face =
      { e.face with taken := e.face.taken ++ [frame] } := by
  simp [face, record, taken, handled, callbacks, callbacksIn, Entry.callback?, Event.isCallback]

theorem face_record_handling (id : PacketId) (packet : Packet S) (delivery : Delivery) :
    (e.record (.handling id packet delivery)).face = e.face.hear [(id, packet, delivery)] := by
  simp [face, Face.hear, record, taken, handled, callbacks, callbacksIn, Entry.callback?,
    Event.isCallback]

theorem face_record_callback {event : Event S N} (h : event.isCallback = true) :
    (e.record event).face = { e.face with callbacks := e.face.callbacks ++ [event] } := by
  cases event with
  | opened | failed | closed =>
    simp [face, record, taken, handled, callbacks, callbacksIn, Entry.callback?, Event.isCallback]
  | _ => cases h

/-- Nothing changes in the face of a closed session. -/
def Inert (e e' : Endpoint S N (Joint Y)) : Prop := e.session.phase = .closed → e'.face = e.face

instance : IsPreorder (Endpoint S N (Joint Y)) Inert where
  refl _ := fun _ => rfl
  trans e e₁ e₂ h₁ h₂ := by
    intro hp
    have hface := h₁ hp
    have hp₁ : e₁.session.phase = .closed := (congrArg Face.phase hface).trans hp
    exact (h₂ hp₁).trans hface

end Endpoint

/-! ### Calls on closed sessions -/

section Inert

open Endpoint

variable {e : Endpoint S N (Joint Y)}

/-- No call changes the face of a closed session. -/
private theorem Host.face_execute_of_closed (h : Host S N (Joint Y))
    (hp : e.session.phase = .closed)
    (request : Request S) : ((request.execute h).after e).face = e.face := by
  have hrefused := Host.openRefusal?_of_closed hp
  have hfail : ∀ cause, (h.fail cause).after e = e := Host.after_fail_of_closed hp
  have hended : h.transportClosed.after e = e := Host.after_transportClosed_of_closed hp
  have hreceive : ∀ frame, (h.receive frame).after e = e :=
    h.after_receive_of_not_open (by rw [hp]; decide)
  cases request with
  | openWith connection => exact congrArg face (h.openWith_of_refused hrefused connection).2
  | refuse connection reason =>
    exact congrArg face (h.refuse_of_refused hrefused connection reason).2
  | close reason => exact congrArg face (Host.after_close_of_over (.inr hp) reason)
  | fail cause => exact congrArg face (hfail cause)
  | receive frame => exact congrArg face (hreceive frame)
  | arrive arrival =>
    cases arrival with
    | frame frame => exact congrArg face (hreceive frame)
    | failed cause => exact congrArg face (hfail (.transport cause))
    | ended => exact congrArg face hended
  | transportClosed => exact congrArg face hended
  | transportFailed cause => exact congrArg face (hfail (.transport cause))
  -- a packet that has no written form is refused before the session is asked
  | send packet delivery =>
    rw [Request.execute, Host.send]
    split
    · rfl
    · exact congrArg face (Host.submit_of_closed hp delivery _).2
  | sendBatch packets delivery =>
    rw [Request.execute, Host.sendBatch]
    split
    · rfl
    · exact congrArg face (Host.submit_of_closed hp delivery _).2
  | sendFrame frame delivery => exact congrArg face (Host.submit_of_closed hp delivery [frame]).2
  | awaitReply | settleReply | setAttachment | inspect => rfl

/-- Calls on a closed session leave its face as it is, to whatever depth they nest. -/
theorem Application.inert_perform (a : Application S N (Joint Y)) (depth : Nat)
    (request : Request S) : (a.perform depth request).Follows Inert := by
  cases depth with
  | zero =>
    intro e hp
    cases request <;> rfl
  | succ depth => exact fun e hp => Host.face_execute_of_closed _ hp request

/-- A script of the application does not change the face of a closed session if the answers to its
calls do not. -/
theorem Script.inert_joined {α : Type}
    {answer : (request : Request S) → SessionM S N (Joint Y) request.Answer}
    (ha : ∀ request, (answer request).Follows Inert) :
    ∀ script : Script S N Y α, (script.joined.run answer).Follows Inert
  | done result => .pure result
  | ask request next => .bind (ha request) fun a => inert_joined ha (next a)
  | look next => .bind .get fun e => inert_joined ha (next e.outside.state)
  | put state next => fun e hp =>
    inert_joined ha next { e with outside := { e.outside with state } } hp
  | write note next => by
    intro e hp
    have hnext := inert_joined ha next (e.record (.note note)) hp
    exact hnext.trans (e.face_record_note note)

end Inert

end PacketSession
