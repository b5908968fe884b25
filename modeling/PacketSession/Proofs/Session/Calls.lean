import PacketSession.Proofs.Session.Course

/-!
# Every call is on course

A host whose callbacks and connections are on course performs every operation on course; this is
`Host.onCourse_execute`, with one lemma for each operation before it. The callbacks of an
application are scripts, so they are on course once the answers to their calls are, and by
induction on the depth of calls every call of an application is (`Application.onCourse_perform`).

What scripts, frames on their way out and received frames do is the same for every relation that
their parts follow: `Script.follows_run`, `Host.follows_transmit`, `Host.follows_receive`.
-/

namespace PacketSession

variable {S : Schema} {N X : Type}

/-- The callbacks and the connections of a host follow a relation. -/
structure Host.CallbacksFollow (h : Host S N X) (R : Endpoint S N X → Endpoint S N X → Prop) :
    Prop where
  handler : ∀ entry ∈ h.protocol.handlers.entries, ∀ packet delivery,
    (entry.2.run packet delivery).Follows R
  inbound : ∀ stage ∈ h.protocol.pipeline.inbound.listeners, ∀ delivery message,
    ReceivingM.Follows R (stage delivery message)
  outbound : ∀ stage ∈ h.protocol.pipeline.outbound.listeners, ∀ delivery message,
    ReceivingM.Follows R (stage delivery message)
  opened : h.protocol.lifecycle.onOpened.Follows R
  closed : h.protocol.lifecycle.onClosed.Follows R
  failed : ∀ cause, (h.protocol.lifecycle.onException cause).Follows R
  carries : ∀ connection frame, (h.carrier.send connection frame).Follows R
  hangsUp : ∀ connection reason, (h.carrier.disconnect connection reason).Follows R
  connected : ∀ connection, (h.carrier.isConnected connection).Follows R

/-- The callbacks and the connections of a host are on course. -/
structure Host.CallbacksOnCourse (h : Host S N X) : Prop where
  handler : ∀ entry ∈ h.protocol.handlers.entries, ∀ packet delivery,
    (entry.2.run packet delivery).OnCourse
  inbound : ∀ stage ∈ h.protocol.pipeline.inbound.listeners, ∀ delivery message,
    ReceivingM.OnCourse (stage delivery message)
  outbound : ∀ stage ∈ h.protocol.pipeline.outbound.listeners, ∀ delivery message,
    ReceivingM.OnCourse (stage delivery message)
  opened : h.protocol.lifecycle.onOpened.OnCourse
  closed : h.protocol.lifecycle.onClosed.OnCourse
  failed : ∀ cause, (h.protocol.lifecycle.onException cause).OnCourse
  carries : ∀ connection frame, (h.carrier.send connection frame).OnCourse
  hangsUp : ∀ connection reason, (h.carrier.disconnect connection reason).OnCourse
  connected : ∀ connection, (h.carrier.isConnected connection).OnCourse

/-! ### Listeners -/

section Listeners

variable {R : Endpoint S N X → Endpoint S N X → Prop} [IsPreorder (Endpoint S N X) R]

/-- Stages that keep to a relation keep to it one behind the other, whether or not the message comes
through. -/
theorem Pipeline.follows_receiveThrough (delivery : Delivery) :
    ∀ (stages : List (InboundListener S (SessionM S N X))),
      (∀ stage ∈ stages, ∀ delivery message, ReceivingM.Follows R (stage delivery message)) →
      ∀ message, ReceivingM.Follows R (receiveThrough delivery stages message)
  | [], _, message => .pure (some message)
  | stage :: stages, hs, message => by
    refine .bind (hs stage List.mem_cons_self delivery message) fun passed => ?_
    cases passed with
    | some next =>
      exact follows_receiveThrough delivery stages
        (fun s h => hs s (List.mem_cons_of_mem _ h)) next
    | none => exact .pure none

/-- A stage that keeps to a relation for every message keeps to it for a list of them. -/
private theorem Pipeline.follows_runStage (delivery : Delivery)
    {stage : OutboundListener S (SessionM S N X)}
    (hs : ∀ delivery message, ReceivingM.Follows R (stage delivery message)) :
    ∀ messages, ReceivingM.Follows R (runStage delivery stage messages)
  | [] => .pure []
  | message :: messages =>
    .bind (hs delivery message) fun _ =>
      .bind (follows_runStage delivery hs messages) fun _ => .pure _

/-- All messages go through one stage before the next starts, and each of these steps keeps to the
relation. -/
theorem Pipeline.follows_sendThrough (delivery : Delivery) :
    ∀ (stages : List (OutboundListener S (SessionM S N X))),
      (∀ stage ∈ stages, ∀ delivery message, ReceivingM.Follows R (stage delivery message)) →
      ∀ messages, ReceivingM.Follows R (sendThrough delivery stages messages)
  | [], _, messages => .pure messages
  | stage :: stages, hs, messages =>
    .bind (follows_runStage delivery (hs stage List.mem_cons_self) messages) fun passed =>
      follows_sendThrough delivery stages (fun s h => hs s (List.mem_cons_of_mem _ h)) passed

/-- Sending a message through the outbound chain keeps to a relation that all listeners keep to. -/
theorem Pipeline.follows_send {p : Pipeline S (SessionM S N X)} (delivery : Delivery)
    (hs : ∀ stage ∈ p.outbound.listeners, ∀ delivery message,
      ReceivingM.Follows R (stage delivery message))
    (message : Message S) (collected : List (Message S)) :
    ReceivingM.Follows R (p.send delivery message collected) :=
  .bind (follows_sendThrough delivery _ hs [message]) fun _ => .pure _

end Listeners

/-! ### Operations -/

/-- A handler that is found for an identifier was registered under it, so what holds of all entries
holds of it. -/
theorem HandlerTable.mem_of_get? {m : Type → Type} {t : HandlerTable S m} {id : PacketId}
    {handler : Handler S m} (h : t.get? id = some handler) : (id, handler) ∈ t.entries := by
  obtain ⟨before, after, hsplit, -⟩ := List.lookup_eq_some_iff.mp h
  rw [hsplit]
  exact List.mem_append_right _ List.mem_cons_self

section Traffic

variable {R : Endpoint S N X → Endpoint S N X → Prop} {h : Host S N X}

/-- What connections and listeners do to a frame on its way out follows a relation. -/
structure Host.Sends (h : Host S N X) (R : Endpoint S N X → Endpoint S N X → Prop)
    (connection : ConnectionId) (delivery : Delivery) : Prop where
  outbound : ∀ stage ∈ h.protocol.pipeline.outbound.listeners, ∀ delivery message,
    ReceivingM.Follows R (stage delivery message)
  hands : ∀ payload, (h.hand connection ⟨delivery, payload⟩).Follows R

/-- Everything that a received frame may lead to follows a relation. -/
structure Host.Receives (h : Host S N X) (R : Endpoint S N X → Endpoint S N X → Prop) : Prop where
  inbound : ∀ stage ∈ h.protocol.pipeline.inbound.listeners, ∀ delivery message,
    ReceivingM.Follows R (stage delivery message)
  accepts : ∀ (e : Endpoint S N X) channel c, e.session.phase = .opened →
    R e (e.update fun s => { s with reassembler := (s.reassembler.accept channel c).2 })
  handles : ∀ entry ∈ h.protocol.handlers.entries, ∀ delivery d,
    (entry.2.invoke delivery d).Follows R
  hangsUp : ∀ reason, (h.peerDisconnected reason).Follows R
  fails : ∀ cause, (h.fail cause).Follows R

namespace Host

variable [IsPreorder (Endpoint S N X) R]

section Sending

variable {connection : ConnectionId} {delivery : Delivery}

/-- Handing a payload over and noting the write in the handle touch the endpoint only in `hand`,
since the handle is not part of it. -/
theorem follows_handOver {payload : Bytes}
    (hh : (h.hand connection ⟨delivery, payload⟩).Follows R) :
    (do match ← (h.hand connection ⟨delivery, payload⟩ : SessionM S N X _) with
        | .ok write => modifyThe SendHandle fun handle => handle.push write
        | .error e => throw (.transport e) : SendingM S N X Unit).Follows R := by
  refine .bind (.lift hh) fun result => ?_
  cases result with
  | ok write => exact .modifyThe _
  | error e => exact .throw _

variable (hs : h.Sends R connection delivery)

include hs

private theorem follows_deliver (message : Message S) :
    (h.deliver connection delivery message).Follows R := by
  cases message with
  | bytes frame => exact follows_handOver (hs.hands frame)
  | packet packet => exact .bind (.ofExcept _) fun frame => follows_handOver (hs.hands frame)

/-- Emitting a frame is running the listeners and delivering what they pass on, so it keeps to a
relation that both keep to. -/
private theorem follows_emit (frame : Bytes) : (h.emit connection delivery frame).Follows R := by
  refine .bind (.lift ?_) fun _ => .bind (.ofExcept _) fun _ => .forM (follows_deliver hs) _
  exact Pipeline.follows_send delivery hs.outbound _ _

private theorem follows_emitChunk (chunk : Chunk) :
    (h.emitChunk connection delivery chunk).Follows R :=
  .bind (.ofExcept _) fun _ => follows_emit hs _

/-- Transmitting a frame, whole or in chunks, keeps to a relation that listeners and handing over
keep to. No other step of it touches the endpoint. -/
theorem follows_transmit (frame : Bytes) : (h.transmit connection delivery frame).Follows R := by
  rw [transmit]
  split
  · exact .throw _
  · split
    · exact follows_emit hs frame
    · exact .bind (.ofExcept _) fun _ => .forM (follows_emitChunk hs) _

end Sending

section Leaving

variable {connection : ConnectionId} {reason : String}

/-- Handing a frame over follows a relation if the connection does and the record of it. -/
theorem follows_hand {frame : WireFrame} (hs : (h.carrier.send connection frame).Follows R)
    (hr : ∀ e refusal, R e (e.record (.sent connection frame refusal))) :
    (h.hand connection frame).Follows R := by
  refine .bind hs fun result => ?_
  cases result with
  | ok _ => exact .bind (fun e => hr e none) fun _ => .pure _
  | error cause => exact .bind (fun e => hr e (some cause)) fun _ => .pure _

/-- Asking a connection to go away is one entry in the journal and then the answer of the carrier,
so it follows a relation that both do. -/
theorem follows_disconnect (hd : (h.carrier.disconnect connection reason).Follows R)
    (hr : ∀ e, R e (e.record (.disconnecting connection reason))) :
    (h.disconnect connection reason).Follows R :=
  .bind hr fun _ => hd

/-- An announcement follows a relation if the connection does, the record of it and the frames that
it travels in. -/
theorem follows_announceIfConnected (hc : (h.carrier.isConnected connection).Follows R)
    (hr : ∀ e, R e (e.record (.announcing reason)))
    (ht : ∀ frame, (h.transmit connection
      ⟨h.protocol.settings.controlChannel, .reliableOrdered⟩ frame).Follows R) :
    (h.announceIfConnected connection reason).Follows R := by
  refine .bind hc fun connected => ?_
  split
  · refine .bind hr fun _ => ?_
    split
    · exact .pure _
    · refine .bind (m := SendingM.collect _) (SendingM.Follows.collect ?_) fun _ => .pure _
      exact ht _
  · exact .pure _

/-- What happens between the turn for a failure and the end is that the failure is announced and the
connection is asked to go away, as far as they are. -/
theorem exists_finish_of_fail {e : Endpoint S N X} (hp : e.session.phase ≠ .closed)
    (cause : ProtocolError)
    (ha : ∀ connection, (h.announceIfConnected connection
      (e.session.reason.getD cause.message)).Follows R)
    (hd : ∀ connection, (h.disconnect connection
      (e.session.reason.getD cause.message)).Follows R) :
    ∃ e₁, R (e.turn (.fails cause) fun s =>
        { s with reason := some (s.reason.getD cause.message) }) e₁ ∧
      (h.fail cause).after e = (h.finish (some cause)).after e₁ := by
  rw [fail, SessionM.after_bind, SessionM.answer_current, SessionM.after_current, if_neg hp]
  cases hconn : e.session.connection with
  | none => exact ⟨_, Std.Refl.refl _, rfl⟩
  | some connection =>
    have hgoes := hd connection
    -- a failure of the connection itself is not announced to it
    by_cases hq : (decide (e.session.phase = .opened) && !cause.isTransport) = true
    · simp only [hq]
      exact ⟨_, IsTrans.trans _ _ _ (ha connection _) (hgoes _), rfl⟩
    · simp only [Bool.not_eq_true] at hq
      simp only [hq]
      exact ⟨_, hgoes _, rfl⟩

end Leaving

section Submitting

/-- What may come of frames that are submitted: they are refused before any of them is transmitted,
all of them are transmitted, or transmitting them fails, which the session survives if nothing is
under way on a connection that can be trusted. -/
inductive Submitted (h : Host S N X) (delivery : Delivery) (frames : List Bytes)
    (e : Endpoint S N X) : Except SessionError SendHandle → Endpoint S N X → Prop
  /-- There is no connection to write to. -/
  | refused {refusal : SessionError} : writable e.session = .error refusal →
      Submitted h delivery frames e (.error refusal) e
  /-- All frames are transmitted. -/
  | sent {connection : ConnectionId} {handle : SendHandle} :
      writable e.session = .ok connection →
      (frames.forM (h.transmit connection delivery)).collect.answer e = (.ok (), handle) →
      Submitted h delivery frames e (.ok handle)
        ((frames.forM (h.transmit connection delivery)).collect.after e)
  /-- Transmitting fails, and the session with it. -/
  | broken {connection : ConnectionId} {handle : SendHandle} {cause : ProtocolError} :
      writable e.session = .ok connection →
      (frames.forM (h.transmit connection delivery)).collect.answer e = (.error cause, handle) →
      breaksStream handle cause = true →
      Submitted h delivery frames e (.error (sendError cause))
        ((h.fail cause).after ((frames.forM (h.transmit connection delivery)).collect.after e))
  /-- Transmitting fails, and the session goes on. -/
  | survived {connection : ConnectionId} {handle : SendHandle} {cause : ProtocolError} :
      writable e.session = .ok connection →
      (frames.forM (h.transmit connection delivery)).collect.answer e = (.error cause, handle) →
      breaksStream handle cause = false →
      Submitted h delivery frames e (.error (sendError cause))
        ((frames.forM (h.transmit connection delivery)).collect.after e)

/-- Every call to submit frames falls under one of the cases of `Submitted`, whatever listeners and
connections do. -/
theorem submitted (h : Host S N X) (delivery : Delivery) (frames : List Bytes)
    (e : Endpoint S N X) :
    h.Submitted delivery frames e ((h.submit delivery frames).answer e)
      ((h.submit delivery frames).after e) := by
  rw [submit, SessionM.answer_bind, SessionM.after_bind, SessionM.answer_current,
    SessionM.after_current]
  cases hw : writable e.session with
  | error refusal => exact .refused hw
  | ok connection =>
    dsimp only
    rw [SessionM.answer_bind, SessionM.after_bind]
    rcases hr : (frames.forM (h.transmit connection delivery)).collect.answer e
      with ⟨cause | _, handle⟩
    · cases hb : breaksStream handle cause with
      | true =>
        simp only [hb]
        exact .broken hw hr hb
      | false =>
        simp only [hb]
        exact .survived hw hr hb
    · exact .sent hw hr

/-- A session without a connection to write to refuses all frames. -/
theorem submit_of_refused {e : Endpoint S N X} {refusal : SessionError}
    (hw : writable e.session = .error refusal) (delivery : Delivery) (frames : List Bytes) :
    (h.submit delivery frames).answer e = .error refusal ∧
      (h.submit delivery frames).after e = e := by
  rw [submit, SessionM.answer_bind, SessionM.after_bind, SessionM.answer_current,
    SessionM.after_current, hw]
  exact ⟨rfl, rfl⟩

variable {delivery : Delivery}

/-- Submitting frames follows a relation if transmitting them does and failing. -/
theorem follows_submit
    (ht : ∀ connection frame, (h.transmit connection delivery frame).Follows R)
    (hf : ∀ cause, (h.fail cause).Follows R) (frames : List Bytes) :
    (h.submit delivery frames).Follows R := by
  intro e
  have hsub := h.submitted delivery frames e
  have hall := fun connection => (SendingM.Follows.forM (ht connection) frames).collect e
  generalize (h.submit delivery frames).answer e = answer at hsub
  generalize (h.submit delivery frames).after e = e' at hsub ⊢
  cases hsub with
  | refused => exact Std.Refl.refl e
  | sent | survived => exact hall _
  | broken => exact IsTrans.trans _ _ _ (hall _) (hf _ _)

variable (hs : ∀ frames, (h.submit delivery frames).Follows R)

include hs

/-- Sending a packet touches the endpoint only where its frame is submitted; a packet without a
frame touches nothing. -/
theorem follows_send (packet : Packet S) : (h.send packet delivery).Follows R := by
  rw [send]
  split
  · exact .pure _
  · exact hs _

/-- Sending a batch touches the endpoint only where the envelopes are submitted. -/
theorem follows_sendBatch (packets : List (Packet S)) :
    (h.sendBatch packets delivery).Follows R := by
  rw [sendBatch]
  split
  · exact .pure _
  · exact hs _

end Submitting

section Receiving

variable (hr : h.Receives R)

include hr

/-- At an open session, a chunk is accepted before its payload counts. -/
private theorem follows_acceptThen {e : Endpoint S N X} (hp : e.session.phase = .opened)
    (channel : Channel) (c : Chunk) {next : Option Bytes → ReceivingM S N X Unit}
    (hn : ∀ payload, (next payload).Follows R) :
    R e (SessionM.after (ReceivingM.accept channel c >>= next).run e) := by
  have hx := hr.accepts e channel c hp
  -- accepting is one step for the session, whether the chunk is taken or refused
  change R e (SessionM.after (ExceptT.bindCont next
    (e.session.reassembler.accept channel c).1) (e.update _))
  cases (e.session.reassembler.accept channel c).1 with
  | ok payload => exact IsTrans.trans _ _ _ hx (hn payload _)
  | error cause => exact hx

/-- Processing a leaf either does nothing, hears an announcement or runs a handler. -/
private theorem follows_processLeaf (delivery : Delivery) (d : Decoded S) :
    (h.processLeaf delivery d).Follows R := by
  refine .bind (.lift .current) fun s => ?_
  split
  · exact .pure ()
  · split
    · exact .bind (.ofExcept _) fun a => .lift (hr.hangsUp a.reason)
    · cases hg : h.protocol.handlers.get? d.id with
      | none => exact .pure ()
      | some handler => exact .lift (hr.handles _ (HandlerTable.mem_of_get? hg) delivery d)

/-- Processing a batch is processing its members as leaves, after all of them were decoded. -/
private theorem follows_processPayload (delivery : Delivery) (d : Decoded S) :
    (h.processPayload delivery d).Follows R := by
  refine .bind (.lift .current) fun s => ?_
  split
  · exact .pure ()
  · split
    · exact .bind (.ofExcept _) fun _ => .bind (.ofExcept _) fun packets =>
        .forM (follows_processLeaf hr delivery) packets
    · exact follows_processLeaf hr delivery d

/-- Processing any packet keeps to the relation: a chunk is accepted first, and what it completes is
processed like a packet that came whole. -/
private theorem follows_processPacket (delivery : Delivery) (d : Decoded S) :
    (h.processPacket delivery d).Follows R := by
  intro e
  by_cases hp : e.session.phase = .opened
  · rw [processPacket, SessionM.after, ReceivingM.run_ifOpen_of_open hp]
    split
    · cases d.packet.expect d.packet.chunk? with
      | error _ => exact Std.Refl.refl e
      | ok chunk =>
        refine follows_acceptThen hr hp delivery.channel chunk fun payload => ?_
        cases payload with
        | none => exact .pure ()
        | some payload => exact .bind (.ofExcept _) fun d => follows_processPayload hr delivery d
    · exact follows_processPayload hr delivery d e
  · rw [processPacket, SessionM.after, ReceivingM.run_ifOpen_of_not_open hp]
    exact Std.Refl.refl e

private theorem follows_dispatch (delivery : Delivery) (message : Message S) :
    (h.dispatch delivery message).Follows R :=
  .bind (.ofExcept _) fun d => follows_processPacket hr delivery d

/-- Receiving a frame keeps to a relation that inbound listeners, the reassembler, handlers,
announcements and failures keep to. -/
theorem follows_receive (frame : WireFrame) : (h.receive frame).Follows R := by
  refine .bind .current fun s => ?_
  split
  · exact .pure ()
  · refine .bind ?_ fun result => ?_
    · refine ReceivingM.Follows.bind
        (Pipeline.follows_receiveThrough frame.delivery _ hr.inbound _) fun passed => ?_
      cases passed with
      | some message => exact follows_dispatch hr frame.delivery message
      | none => exact .pure ()
    · cases result with
      | ok _ => exact .pure ()
      | error cause => exact hr.fails cause

end Receiving

/-- Processing an arrival follows a relation if the three kinds of arrival do. -/
theorem follows_step (hr : ∀ frame, (h.receive frame).Follows R)
    (hf : ∀ cause, (h.fail cause).Follows R) (hc : h.transportClosed.Follows R) :
    ∀ arrival, (h.step arrival).Follows R
  | .frame frame => .bind (hr frame) fun _ => .bind .current fun _ => .pure _
  | .failed cause => .bind (hf (.transport cause)) fun _ => .pure true
  | .ended => .bind hc fun _ => .pure true

end Host

end Traffic

namespace Host

/-- Lets go of a connection, if there is one. -/
def letGo (h : Host S N X) (connection : Option ConnectionId) (reason : String) :
    SessionM S N X Unit :=
  match connection with
  | some connection => h.disconnect connection reason
  | none => pure ()

section Finish

variable {h : Host S N X} {e : Endpoint S N X}

/-- A closed session refuses to be opened with the reason it was closed for. -/
theorem openRefusal?_of_closed (hp : e.session.phase = .closed) :
    openRefusal? e.session = some (.closed e.session.reasonText) := by
  rw [openRefusal?, hp]

private theorem writable_of_closed (hp : e.session.phase = .closed) :
    writable e.session = .error (.closed e.session.reasonText) := by
  rw [writable, hp]

/-- A closed session refuses all frames. -/
theorem submit_of_closed (hp : e.session.phase = .closed) (delivery : Delivery)
    (frames : List Bytes) :
    (h.submit delivery frames).answer e = .error (.closed e.session.reasonText) ∧
      (h.submit delivery frames).after e = e :=
  submit_of_refused (writable_of_closed hp) delivery frames

/-- Finishing a closed session does nothing, so callbacks of an end run once. -/
theorem after_finish_of_closed (hp : e.session.phase = .closed) (cause : Option ProtocolError) :
    (h.finish cause).after e = e := by
  rw [finish, SessionM.after_bind, SessionM.answer_current, SessionM.after_current, if_pos hp]
  rfl

/-- Only an open session looks at frames. -/
theorem after_receive_of_not_open (hp : e.session.phase ≠ .opened) (frame : WireFrame) :
    (h.receive frame).after e = e := by
  have ho : (!e.session.isOpen) = true := by simp [Session.isOpen, hp]
  rw [receive, SessionM.after_bind, SessionM.answer_current, SessionM.after_current, if_pos ho]
  rfl

/-- Only a session without a connection takes one. -/
theorem openWith_of_refused {refusal : SessionError} (hr : openRefusal? e.session = some refusal)
    (connection : ConnectionId) :
    (h.openWith connection).answer e = .error refusal ∧ (h.openWith connection).after e = e := by
  rw [openWith, SessionM.answer_bind, SessionM.after_bind, SessionM.answer_current,
    SessionM.after_current, hr]
  exact ⟨rfl, rfl⟩

/-- Only a session without a connection turns one away. -/
theorem refuse_of_refused {refusal : SessionError} (hr : openRefusal? e.session = some refusal)
    (connection : ConnectionId) (reason : String) :
    (h.refuse connection reason).answer e = .error refusal ∧
      (h.refuse connection reason).after e = e := by
  rw [refuse, SessionM.answer_bind, SessionM.after_bind, SessionM.answer_current,
    SessionM.after_current, hr]
  exact ⟨rfl, rfl⟩

/-- A session that is closing or closed cannot be closed again. -/
theorem after_close_of_over (hp : e.session.phase = .closing ∨ e.session.phase = .closed)
    (reason : String) : (h.close reason).after e = e := by
  rw [close, SessionM.after_bind, SessionM.answer_current, SessionM.after_current]
  obtain hp | hp := hp <;>
  · rw [hp]
    rfl

/-- A closed session does not fail any more. -/
theorem after_fail_of_closed (hp : e.session.phase = .closed) (cause : ProtocolError) :
    (h.fail cause).after e = e := by
  rw [fail, SessionM.after_bind, SessionM.answer_current, SessionM.after_current, if_pos hp]
  rfl

/-- What becomes of its connection does not matter to a closed session. -/
theorem after_transportClosed_of_closed (hp : e.session.phase = .closed) :
    h.transportClosed.after e = e := by
  rw [transportClosed, SessionM.after_bind, SessionM.answer_current, SessionM.after_current,
    if_pos hp]
  rfl

/-- Only an open session cares for what the peer announces. -/
theorem after_peerDisconnected_of_not_open (hp : e.session.phase ≠ .opened) (reason : String) :
    (h.peerDisconnected reason).after e = e := by
  rw [peerDisconnected, SessionM.after_bind, SessionM.answer_current, SessionM.after_current,
    if_neg hp]
  rfl

/-- A session that ends without a failure lets go of its connection and runs one callback. -/
theorem after_finish_none (hp : e.session.phase ≠ .closed) :
    (h.finish none).after e =
      let e₁ := (h.letGo e.session.connection e.session.reasonText).after
        (e.turn .ends fun s => released s none)
      h.protocol.lifecycle.onClosed.after (e₁.record (.closed e₁.session.phase)) := by
  rw [finish, SessionM.after_bind, SessionM.answer_current, SessionM.after_current, if_neg hp]
  cases hconn : e.session.connection <;> rfl

/-- A session that ends with a failure lets go of its connection and runs two callbacks. -/
theorem after_finish_some (hp : e.session.phase ≠ .closed) (cause : ProtocolError) :
    (h.finish (some cause)).after e =
      let e₁ := (h.letGo e.session.connection e.session.reasonText).after
        (e.turn .ends fun s => released s (some cause))
      let e₂ := (h.protocol.lifecycle.onException cause).after
        (e₁.record (.failed e₁.session.phase cause))
      h.protocol.lifecycle.onClosed.after (e₂.record (.closed e₂.session.phase)) := by
  rw [finish, SessionM.after_bind, SessionM.answer_current, SessionM.after_current, if_neg hp]
  cases hconn : e.session.connection <;> rfl

end Finish

/-- Only a session that has no connection yet may be opened or turned away. -/
theorem openRefusal?_eq_none {s : Session S} : openRefusal? s = none ↔ s.phase = .connecting := by
  cases hp : s.phase <;> simp [openRefusal?, hp]

variable {h : Host S N X} (hc : h.CallbacksOnCourse) {e : Endpoint S N X}

include hc

private theorem onCourse_hand (connection : ConnectionId) (frame : WireFrame) :
    (h.hand connection frame).OnCourse :=
  follows_hand (hc.carries connection frame) fun e _ => .sees e _ rfl

theorem onCourse_disconnect (connection : ConnectionId) (reason : String) :
    (h.disconnect connection reason).OnCourse :=
  follows_disconnect (hc.hangsUp connection reason) fun e => .sees e _ rfl

/-- Listeners and connections that are on course during a send keep the whole send on course. -/
theorem sends_course (connection : ConnectionId) (delivery : Delivery) :
    h.Sends Course connection delivery where
  outbound := hc.outbound
  hands _ := onCourse_hand hc connection _

theorem onCourse_announceIfConnected (connection : ConnectionId) (reason : String) :
    (h.announceIfConnected connection reason).OnCourse :=
  follows_announceIfConnected (hc.connected connection) (fun e => .sees e _ rfl)
    (follows_transmit (sends_course hc connection _))

/-- Letting go of a connection, if there is one, is on course. -/
theorem onCourse_letGo (connection : Option ConnectionId) (reason : String) :
    (h.letGo connection reason).OnCourse := by
  cases connection with
  | some connection => exact onCourse_disconnect hc connection reason
  | none => exact .pure ()

/-- Finishing is on course: the turn to end is taken before any callback runs, and a second call
finds the session closed. -/
theorem onCourse_finish (cause : Option ProtocolError) : (h.finish cause).OnCourse := by
  intro e
  by_cases hp : e.session.phase = .closed
  · rw [after_finish_of_closed hp]
    exact .refl e
  · -- the turn comes first, so whatever the connection does belongs to the end
    have hl := onCourse_letGo hc e.session.connection e.session.reasonText
      (e.turn .ends fun s => released s cause)
    cases cause with
    | none =>
      rw [after_finish_none hp]
      exact (Course.ends hp hl).trans (hc.closed _)
    | some cause =>
      rw [after_finish_some hp]
      exact (Course.breaks cause hp hl (hc.failed cause _)).trans (hc.closed _)

/-- What becomes of a session after its turn for a connection. -/
theorem course_openWith (hr : openRefusal? e.session = none) (connection : ConnectionId) :
    Course ((e.turn .opens fun s => { s with
        connection := some connection
        address := h.carrier.address e.outside connection }).record (.opened .opened))
      ((h.openWith connection).after e) := by
  rw [openWith, SessionM.after_bind, SessionM.answer_current, SessionM.after_current, hr]
  exact hc.opened _

/-- Opening is on course, also if the callback for opened sessions closes the session again. -/
theorem onCourse_openWith (connection : ConnectionId) : (h.openWith connection).OnCourse := by
  intro e
  cases hr : openRefusal? e.session with
  | some refusal =>
    rw [(openWith_of_refused hr connection).2]
    exact .refl e
  | none =>
    exact (Course.opens e connection _ (openRefusal?_eq_none.mp hr)).trans
      (course_openWith hc hr connection)

/-- What becomes of a session after its turn against a connection. -/
theorem course_refuse (hr : openRefusal? e.session = none) (connection : ConnectionId)
    (reason : String) :
    Course (e.turn .refuses fun s => { s with
        reason := some reason
        address := h.carrier.address e.outside connection })
      ((h.refuse connection reason).after e) := by
  rw [refuse, SessionM.after_bind, SessionM.answer_current, SessionM.after_current, hr]
  exact (onCourse_announceIfConnected hc connection reason _).trans
    (onCourse_disconnect hc connection reason _)

/-- Turning a connection away is on course: the turn is taken first, so what happens while the
refusal is announced finds the session closed. -/
theorem onCourse_refuse (connection : ConnectionId) (reason : String) :
    (h.refuse connection reason).OnCourse := by
  intro e
  cases hr : openRefusal? e.session with
  | some refusal =>
    rw [(refuse_of_refused hr connection reason).2]
    exact .refl e
  | none =>
    exact (Course.refuses e reason _ (openRefusal?_eq_none.mp hr)).trans
      (course_refuse hc hr connection reason)

/-- What becomes of an open session after its turn for a close. -/
theorem course_close (hp : e.session.phase = .opened) (reason : String) :
    Course (e.turn .closes fun s => { s with reason := some reason })
      ((h.close reason).after e) := by
  rw [close, SessionM.after_bind, SessionM.answer_current, SessionM.after_current, hp]
  cases hconn : e.session.connection with
  | none => exact .refl _
  | some connection =>
    exact (onCourse_announceIfConnected hc connection reason _).trans
      (onCourse_disconnect hc connection reason _)

/-- Closing is on course in every phase, and does nothing in the last two. -/
theorem onCourse_close (reason : String) : (h.close reason).OnCourse := by
  intro e
  cases hp : e.session.phase with
  | opened => exact (Course.closes e reason hp).trans (course_close hc hp reason)
  | connecting =>
    rw [close, SessionM.after_bind, SessionM.answer_current, SessionM.after_current, hp]
    have hx := Course.explains e reason (.inl hp) (by rw [hp]; decide)
    exact hx.trans (onCourse_finish hc none _)
  | closing | closed =>
    rw [after_close_of_over (by simp [hp])]
    exact .refl e

/-- What becomes of a session after its turn for a failure. -/
theorem course_fail (hp : e.session.phase ≠ .closed) (cause : ProtocolError) :
    Course (e.turn (.fails cause) fun s =>
        { s with reason := some (s.reason.getD cause.message) })
      ((h.fail cause).after e) := by
  obtain ⟨e₁, hleft, heq⟩ := exists_finish_of_fail hp cause
    (fun connection => onCourse_announceIfConnected hc connection _)
    (fun connection => onCourse_disconnect hc connection _)
  rw [heq]
  exact hleft.trans (onCourse_finish hc (some cause) e₁)

/-- Failing is on course: the turn for the failure comes before the announcement and before the
callbacks. -/
theorem onCourse_fail (cause : ProtocolError) : (h.fail cause).OnCourse := by
  intro e
  by_cases hp : e.session.phase = .closed
  · rw [after_fail_of_closed hp]
    exact .refl e
  · exact (Course.fails e cause hp).trans (course_fail hc hp cause)

/-- A connection that goes away ends the session once, with the reason that is set already if there
is one. -/
theorem onCourse_transportClosed : h.transportClosed.OnCourse := by
  intro e
  by_cases hp : e.session.phase = .closed
  · rw [after_transportClosed_of_closed hp]
    exact .refl e
  · rw [transportClosed, SessionM.after_bind, SessionM.answer_current, SessionM.after_current,
      if_neg hp]
    refine Course.trans ?_ (onCourse_finish hc none _)
    cases hr : e.session.reason with
    | none => simpa [Endpoint.update, hr] using Course.explains e "connection closed" (.inr hr) hp
    | some reason =>
      -- a recorded reason stays, so nothing changes
      have hs : ({ e.session with reason := e.session.reason } : Session S) = e.session := rfl
      rw [hr] at hs
      simpa [Endpoint.update, hr, hs] using Course.refl e

private theorem onCourse_transportFailed (cause : TransportError) :
    (h.transportFailed cause).OnCourse :=
  onCourse_fail hc _

/-- An announcement from the peer only matters to an open session. -/
private theorem onCourse_peerDisconnected (reason : String) :
    (h.peerDisconnected reason).OnCourse := by
  intro e
  by_cases hp : e.session.phase = .opened
  · rw [peerDisconnected, SessionM.after_bind, SessionM.answer_current, SessionM.after_current,
      if_pos hp]
    have ht := Course.hangsUp e reason hp
    cases hconn : e.session.connection with
    | none => exact ht
    | some connection => exact ht.trans (onCourse_disconnect hc connection reason _)
  · rw [after_peerDisconnected_of_not_open hp]
    exact .refl e

private theorem onCourse_submit (delivery : Delivery) (frames : List Bytes) :
    (h.submit delivery frames).OnCourse :=
  follows_submit (fun _ => follows_transmit (sends_course hc _ _)) (onCourse_fail hc) frames

/-- What receiving is made of is on course, so receiving is. -/
private theorem receives_course : h.Receives Course where
  inbound := hc.inbound
  accepts := .accepts
  handles entry he delivery d := by
    rw [Handler.invoke]
    split
    · exact .bind (SessionM.OnCourse.record rfl) fun _ => hc.handler entry he d.packet delivery
    · exact .pure ()
  hangsUp := onCourse_peerDisconnected hc
  fails := onCourse_fail hc

private theorem onCourse_receive (frame : WireFrame) : (h.receive frame).OnCourse :=
  follows_receive (receives_course hc) frame

theorem onCourse_step (arrival : Arrival) : (h.step arrival).OnCourse :=
  follows_step (onCourse_receive hc) (onCourse_fail hc) (onCourse_transportClosed hc) arrival

/-- Every request is on course, given that callbacks are. -/
theorem onCourse_execute : (request : Request S) → (request.execute h).OnCourse
  | .openWith connection => onCourse_openWith hc connection
  | .refuse connection reason => onCourse_refuse hc connection reason
  | .close reason => onCourse_close hc reason
  | .fail cause => onCourse_fail hc cause
  | .receive frame => onCourse_receive hc frame
  | .arrive arrival => onCourse_step hc arrival
  | .transportClosed => onCourse_transportClosed hc
  | .transportFailed cause => onCourse_transportFailed hc cause
  | .send packet delivery => follows_send (onCourse_submit hc delivery) packet
  | .sendBatch packets delivery => follows_sendBatch (onCourse_submit hc delivery) packets
  | .sendFrame frame delivery => onCourse_submit hc delivery [frame]
  | .awaitReply => Course.awaits
  | .settleReply id outcome => fun e => .settles e id outcome
  | .setAttachment value => fun e => .attaches e value
  | .inspect => .current

end Host

/-! ### Applications -/

/-- An answer without an effect follows every relation. -/
theorem Request.follows_unanswered {R : Endpoint S N X → Endpoint S N X → Prop}
    [IsPreorder (Endpoint S N X) R] (request : Request S) :
    (request.unanswered : SessionM S N X _).Follows R := by
  intro e
  cases request <;> exact Std.Refl.refl e

/-- A script follows a relation if the answers to its calls do. -/
theorem Script.follows_run {α : Type} {R : Endpoint S N X → Endpoint S N X → Prop}
    [IsPreorder (Endpoint S N X) R]
    {answer : (request : Request S) → SessionM S N X request.Answer}
    (ha : ∀ request, (answer request).Follows R)
    (hx : ∀ (e : Endpoint S N X) (x : X), R e { e with outside := x })
    (hn : ∀ (e : Endpoint S N X) (n : N), R e (e.record (.note n))) :
    ∀ script : Script S N X α, (script.run answer).Follows R
  | done result => .pure result
  | ask request next => .bind (ha request) fun a => follows_run ha hx hn (next a)
  | look next => .bind .get fun e => follows_run ha hx hn (next e.outside)
  | put x next => .bind (fun e => hx e x) fun _ => follows_run ha hx hn next
  | write n next => .bind (fun e => hn e n) fun _ => follows_run ha hx hn next

/-- A script is on course if the answers to its calls are. -/
theorem Script.onCourse_run {α : Type}
    {answer : (request : Request S) → SessionM S N X request.Answer}
    (ha : ∀ request, (answer request).OnCourse) (script : Script S N X α) :
    (script.run answer).OnCourse :=
  script.follows_run ha .elsewhere fun e _ => .sees e _ rfl

namespace Application

variable (a : Application S N X)

/-- The callbacks and the connections of an application follow a relation if the answers to their
calls do. -/
theorem callbacksFollow_host {R : Endpoint S N X → Endpoint S N X → Prop}
    [IsPreorder (Endpoint S N X) R]
    {answer : (request : Request S) → SessionM S N X request.Answer}
    (ha : ∀ request, (answer request).Follows R)
    (hx : ∀ (e : Endpoint S N X) (x : X), R e { e with outside := x })
    (hn : ∀ (e : Endpoint S N X) (n : N), R e (e.record (.note n))) :
    (a.host answer).CallbacksFollow R where
  handler := by
    intro entry he packet delivery
    obtain ⟨original, -, rfl⟩ := List.mem_map.mp he
    exact Script.follows_run ha hx hn _
  inbound := by
    intro stage hs delivery message
    obtain ⟨entry, he, rfl⟩ := List.mem_map.mp hs
    obtain ⟨original, -, rfl⟩ := List.mem_map.mp he
    exact Script.follows_run ha hx hn _
  outbound := by
    intro stage hs delivery message
    obtain ⟨entry, he, rfl⟩ := List.mem_map.mp hs
    obtain ⟨original, -, rfl⟩ := List.mem_map.mp he
    exact Script.follows_run ha hx hn _
  opened := Script.follows_run ha hx hn _
  closed := Script.follows_run ha hx hn _
  failed _ := Script.follows_run ha hx hn _
  carries _ _ := Script.follows_run ha hx hn _
  hangsUp _ _ := Script.follows_run ha hx hn _
  connected _ := Script.follows_run ha hx hn _

/-- If all answers to requests are on course, so are the callbacks of the host that are run with
them. -/
theorem callbacksOnCourse_host {answer : (request : Request S) → SessionM S N X request.Answer}
    (ha : ∀ request, (answer request).OnCourse) : (a.host answer).CallbacksOnCourse := by
  have hf : (a.host answer).CallbacksFollow Course :=
    a.callbacksFollow_host ha .elsewhere fun e _ => .sees e _ rfl
  exact ⟨hf.handler, hf.inbound, hf.outbound, hf.opened, hf.closed, hf.failed, hf.carries,
    hf.hangsUp, hf.connected⟩

/-- Every call is on course, to whatever depth the calls of callbacks nest. -/
theorem onCourse_perform : ∀ depth request, (a.perform depth request).OnCourse
  | 0, request => request.follows_unanswered
  | depth + 1, request =>
    Host.onCourse_execute (a.callbacksOnCourse_host (onCourse_perform depth)) request

/-- Every script is on course. -/
theorem onCourse_run {α : Type} (depth : Nat) (script : Script S N X α) :
    (a.run depth script).OnCourse :=
  script.onCourse_run (a.onCourse_perform depth)

end Application

/-! ### Runs -/

/-- What may happen to a session at a time when none of its calls is under way. -/
inductive Move (S : Schema) (X : Type)
  /-- Somebody calls it. -/
  | call (request : Request S)
  /-- The state outside changes. -/
  | elsewhere (change : X → X)

namespace Application

variable (a : Application S N X) (depth : Nat)

/-- Makes a move. -/
def make : Move S X → SessionM S N X Unit
  | .call request => do let _ ← a.perform depth request
  | .elsewhere change => modify fun e => { e with outside := change e.outside }

/-- Makes moves one after the other. -/
def follow : List (Move S X) → SessionM S N X Unit
  | [] => pure ()
  | move :: moves => do
    a.make depth move
    follow moves

/-- A move is a call or a change of the world around the session, and both are on course. -/
theorem onCourse_make (move : Move S X) : (a.make depth move).OnCourse := by
  cases move with
  | call request => exact .bind (a.onCourse_perform depth request) fun _ => .pure ()
  | elsewhere change => exact fun e => .elsewhere e _

/-- So is a run of moves, by induction. -/
theorem onCourse_follow : ∀ moves, (a.follow depth moves).OnCourse
  | [] => .pure ()
  | move :: moves => .bind (a.onCourse_make depth move) fun _ => onCourse_follow moves

/-- Moves behind others go on where those stopped. -/
theorem after_follow_append (moves later : List (Move S X)) (e : Endpoint S N X) :
    (a.follow depth (moves ++ later)).after e =
      (a.follow depth later).after ((a.follow depth moves).after e) := by
  induction moves generalizing e with
  | nil => rfl
  | cons move moves ih => exact ih _

end Application

end PacketSession
