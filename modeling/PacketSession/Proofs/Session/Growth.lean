import PacketSession.Proofs.Session.Calls

/-!
# What calls write into the journal

Whatever a session does apart from its traffic is allowed by every relation that allows the steps
it consists of: changes of its state, turns, and entries in the journal other than a frame that was
handed over and the start of a handler. `Host.follows_execute` says so for every call, once it is
known of frames on their way out and of received ones.

The relation that this is for is `Endpoint.Grows`: only entries with a given property join the
journal.
-/

namespace PacketSession

variable {S : Schema} {N X : Type}

/-- Whether an event is a part of the traffic: a frame that was handed over, or the start of a
handler. -/
def Event.isTraffic : Event S N → Bool
  | sent _ _ _ | handling _ _ _ => true
  | _ => false

namespace Endpoint

/-- A relation allows everything that a session does apart from its traffic. -/
structure Allowed (R : Endpoint S N X → Endpoint S N X → Prop) : Prop where
  elsewhere : ∀ (e : Endpoint S N X) (x : X), R e { e with outside := x }
  updates : ∀ (e : Endpoint S N X) (f : Session S → Session S), R e (e.update f)
  turns : ∀ (e : Endpoint S N X) (t : Turn) (f : Session S → Session S), R e (e.turn t f)
  records : ∀ (e : Endpoint S N X) (event : Event S N), event.isTraffic = false →
    R e (e.record event)

namespace Allowed

variable {R : Endpoint S N X → Endpoint S N X → Prop} (ha : Allowed R)

include ha

private theorem follows_update (f : Session S → Session S) :
    (SessionM.update f : SessionM S N X Unit).Follows R :=
  fun e => ha.updates e f

private theorem follows_turn (t : Turn) (f : Session S → Session S) :
    (SessionM.turn t f : SessionM S N X Unit).Follows R :=
  fun e => ha.turns e t f

private theorem follows_record {event : Event S N} (h : event.isTraffic = false) :
    (SessionM.record event : SessionM S N X Unit).Follows R :=
  fun e => ha.records e event h

end Allowed

/-- Only entries with a property joined the journal. -/
def Grows (P : Entry S N → Prop) (e e' : Endpoint S N X) : Prop :=
  ∃ entries, e'.journal = entries ++ e.journal ∧ ∀ entry ∈ entries, P entry

variable {P : Entry S N → Prop} {e e' : Endpoint S N X}

theorem Grows.of_journal_eq (h : e'.journal = e.journal) : Grows P e e' := ⟨[], h, by simp⟩

theorem Grows.of_journal_eq_cons {entry : Entry S N} (h : e'.journal = entry :: e.journal)
    (hp : P entry) : Grows P e e' :=
  ⟨[entry], h, by simpa using hp⟩

instance : IsPreorder (Endpoint S N X) (Grows P) where
  refl _ := .of_journal_eq rfl
  trans := by
    rintro e₁ e₂ e₃ ⟨first, hj₁, hp₁⟩ ⟨second, hj₂, hp₂⟩
    refine ⟨second ++ first, ?_, List.forall_mem_append.mpr ⟨hp₂, hp₁⟩⟩
    rw [hj₂, hj₁, List.append_assoc]

/-- A journal may grow by whatever is no traffic, if all of that has the property. -/
theorem allowed_grows (ht : ∀ t : Turn, P (.turned t))
    (hs : ∀ event : Event S N, event.isTraffic = false → P (.seen event)) :
    Allowed (Grows P : Endpoint S N X → Endpoint S N X → Prop) where
  elsewhere _ _ := .of_journal_eq rfl
  updates _ _ := .of_journal_eq rfl
  turns _ t _ := .of_journal_eq_cons rfl (ht t)
  records _ event h := .of_journal_eq_cons rfl (hs event h)

end Endpoint

/-- What frames do on their way out follows a relation. -/
def Host.Transmits (h : Host S N X) (R : Endpoint S N X → Endpoint S N X → Prop) : Prop :=
  ∀ connection delivery frame, (h.transmit connection delivery frame).Follows R

namespace Host

open Endpoint

variable {R : Endpoint S N X → Endpoint S N X → Prop} [IsPreorder (Endpoint S N X) R]
  {h : Host S N X} (ha : Allowed R) (hc : h.CallbacksFollow R)

include hc in
/-- Frames on their way out follow a relation that allows any frame to be handed over. -/
theorem transmits_of_records (hs : ∀ (e : Endpoint S N X) connection frame refusal,
    R e (e.record (.sent connection frame refusal))) : h.Transmits R :=
  fun connection delivery _ => follows_transmit
    { outbound := hc.outbound
      hands := fun payload => follows_hand (hc.carries connection ⟨delivery, payload⟩)
        fun e refusal => hs e _ _ refusal } _

include ha hc

/-- Asking a connection to go away is not traffic, so every relation that allows the rest follows
it. -/
private theorem follows_disconnect_of_allowed (connection : ConnectionId) (reason : String) :
    (h.disconnect connection reason).Follows R :=
  follows_disconnect (hc.hangsUp connection reason) fun e => ha.records e _ rfl

/-- Letting go of a connection is asking it to go away, if there is one. -/
private theorem follows_letGo (connection : Option ConnectionId) (reason : String) :
    (h.letGo connection reason).Follows R := by
  match connection with
  | some connection => exact follows_disconnect_of_allowed ha hc connection reason
  | none => exact .pure ()

/-- Finishing is a turn, callbacks and their entries, and none of these is traffic. -/
theorem follows_finish (cause : Option ProtocolError) : (h.finish cause).Follows R := by
  intro e
  by_cases hp : e.session.phase = .closed
  · rw [after_finish_of_closed hp]
    exact Std.Refl.refl e
  · have hleft : R e ((h.letGo e.session.connection e.session.reasonText).after
        (e.turn .ends fun s => released s cause)) :=
      IsTrans.trans _ _ _ (ha.turns e _ _) (follows_letGo ha hc _ _ _)
    match cause with
    | none =>
      rw [after_finish_none hp]
      exact IsTrans.trans _ _ _ hleft (IsTrans.trans _ _ _ (ha.records _ _ rfl) (hc.closed _))
    | some cause =>
      rw [after_finish_some hp]
      refine IsTrans.trans _ _ _ ?_ (IsTrans.trans _ _ _ (ha.records _ _ rfl) (hc.closed _))
      exact IsTrans.trans _ _ _ hleft (IsTrans.trans _ _ _ (ha.records _ _ rfl) (hc.failed cause _))

/-- A session whose connection goes away is given its reason and finishes. -/
private theorem follows_transportClosed : h.transportClosed.Follows R := by
  refine .bind .current fun s => ?_
  split
  · exact .pure ()
  · exact .bind (ha.follows_update _) fun _ => follows_finish ha hc none

/-- What the peer announces makes an open session take a turn and let go of its connection. -/
theorem follows_peerDisconnected (reason : String) : (h.peerDisconnected reason).Follows R := by
  refine .bind .current fun s => ?_
  split
  · refine .bind (ha.follows_turn _ _) fun _ => ?_
    split
    · exact follows_disconnect_of_allowed ha hc _ reason
    · exact .pure ()
  · exact .pure ()

private theorem follows_openWith (connection : ConnectionId) :
    (h.openWith connection).Follows R := by
  refine .bind .current fun s => ?_
  split
  · exact .pure _
  · refine .bind .get fun e => .bind (ha.follows_turn _ _) fun _ => .bind ?_ fun _ => .pure _
    exact .bind .current fun s => .bind (ha.follows_record rfl) fun _ => hc.opened

variable (ht : h.Transmits R)

include ht

/-- An announcement is an entry and a frame that is transmitted, so what frames may do is all that
has to be known. -/
private theorem follows_announceIfConnected_of_allowed (connection : ConnectionId)
    (reason : String) : (h.announceIfConnected connection reason).Follows R :=
  follows_announceIfConnected (hc.connected connection) (fun e => ha.records e _ rfl) (ht _ _)

/-- A failure is a turn, an announcement if there is one to make, and the end. -/
theorem follows_fail (cause : ProtocolError) : (h.fail cause).Follows R := by
  intro e
  by_cases hp : e.session.phase = .closed
  · rw [after_fail_of_closed hp]
    exact Std.Refl.refl e
  · obtain ⟨e₁, hleft, heq⟩ := exists_finish_of_fail hp cause
      (fun connection => follows_announceIfConnected_of_allowed ha hc ht connection _)
      (fun connection => follows_disconnect_of_allowed ha hc connection _)
    rw [heq]
    exact IsTrans.trans _ _ _ (IsTrans.trans _ _ _ (ha.turns e _ _) hleft)
      (follows_finish ha hc (some cause) e₁)

/-- Turning a connection away is a turn, the announcement of the reason and the request to go
away. -/
private theorem follows_refuse (connection : ConnectionId) (reason : String) :
    (h.refuse connection reason).Follows R := by
  refine .bind .current fun s => ?_
  split
  · exact .pure _
  · exact .bind .get fun e => .bind (ha.follows_turn _ _) fun _ =>
      .bind (follows_announceIfConnected_of_allowed ha hc ht connection reason) fun _ =>
        .bind (follows_disconnect_of_allowed ha hc connection reason) fun _ => .pure _

/-- Closing does what its phase asks for, and in no phase more than a turn, an announcement, or the
end. -/
private theorem follows_close (reason : String) : (h.close reason).Follows R := by
  refine .bind .current fun s => ?_
  split
  · exact .pure ()
  · exact .pure ()
  · exact .bind (ha.follows_update _) fun _ => follows_finish ha hc none
  · refine .bind (ha.follows_turn _ _) fun _ => ?_
    split
    · exact .bind (follows_announceIfConnected_of_allowed ha hc ht _ reason) fun _ =>
        follows_disconnect_of_allowed ha hc _ reason
    · exact .pure ()

/-- Frames that are submitted are transmitted, and the session may fail over them. -/
private theorem follows_submit_of_allowed (delivery : Delivery) (frames : List Bytes) :
    (h.submit delivery frames).Follows R :=
  follows_submit (fun connection => ht connection delivery) (follows_fail ha hc ht) frames

/-- Received frames follow a relation that allows handlers to start. -/
theorem receives_of_records (hh : ∀ (e : Endpoint S N X) id packet delivery,
    R e (e.record (.handling id packet delivery))) : h.Receives R where
  inbound := hc.inbound
  accepts e channel c _ := ha.updates e fun s =>
    { s with reassembler := (s.reassembler.accept channel c).2 }
  handles entry he delivery d := by
    rw [Handler.invoke]
    split
    · exact .bind (fun e => hh e _ _ _) fun _ => hc.handler entry he _ _
    · exact .pure ()
  hangsUp := follows_peerDisconnected ha hc
  fails := follows_fail ha hc ht

/-- Every call is allowed if received frames are. -/
theorem follows_execute (hr : ∀ frame, (h.receive frame).Follows R) :
    (request : Request S) → (request.execute h).Follows R
  | .openWith connection => follows_openWith ha hc connection
  | .refuse connection reason => follows_refuse ha hc ht connection reason
  | .close reason => follows_close ha hc ht reason
  | .fail cause => follows_fail ha hc ht cause
  | .receive frame => hr frame
  | .arrive arrival =>
    follows_step hr (follows_fail ha hc ht) (follows_transportClosed ha hc) arrival
  | .transportClosed => follows_transportClosed ha hc
  | .transportFailed cause => follows_fail ha hc ht (.transport cause)
  | .send packet delivery =>
    follows_send (follows_submit_of_allowed ha hc ht delivery) packet
  | .sendBatch packets delivery =>
    follows_sendBatch (follows_submit_of_allowed ha hc ht delivery) packets
  | .sendFrame frame delivery => follows_submit_of_allowed ha hc ht delivery [frame]
  | .awaitReply => fun e => ha.updates e fun s => s.awaitReply.2
  | .settleReply id outcome => fun e => ha.updates e fun s => (s.settleReply id outcome).2
  | .setAttachment value => fun e => ha.updates e fun s => { s with attachment := value }
  | .inspect => .current

end Host

/-- Every call of an application is allowed, to whatever depth the calls of callbacks nest, if its
traffic is as long as its callbacks are. -/
theorem Application.follows_perform (a : Application S N X)
    {R : Endpoint S N X → Endpoint S N X → Prop} [IsPreorder (Endpoint S N X) R]
    (ha : Endpoint.Allowed R)
    (ht : ∀ depth, (a.host (a.perform depth)).CallbacksFollow R →
      (a.host (a.perform depth)).Transmits R)
    (hr : ∀ depth, (a.host (a.perform depth)).CallbacksFollow R →
      (a.host (a.perform depth)).Transmits R →
      ∀ frame, ((a.host (a.perform depth)).receive frame).Follows R) :
    ∀ depth request, (a.perform depth request).Follows R
  | 0, request => request.follows_unanswered
  | depth + 1, request => by
    have hc := a.callbacksFollow_host (follows_perform a ha ht hr depth) ha.elsewhere
      fun e n => ha.records e (.note n) rfl
    exact Host.follows_execute ha hc (ht depth hc) (hr depth hc (ht depth hc)) request

end PacketSession
