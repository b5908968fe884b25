import PacketSession.Proofs.Listener.Composition
import PacketSession.Proofs.Listener.Naming
import PacketSession.Proofs.Packet.BatchForm
import PacketSession.Proofs.Packet.Frames
import PacketSession.Proofs.Session.Batching

/-!
# The two forms of a message

A message is a frame or a packet, and it makes no difference which of the two it is. On the way in,
a frame is dispatched as the packet that it is decoded to (`Host.dispatch_packet`). So a listener
behind all others that decodes early cannot be noticed, whatever the application does
(`Application.perform_decodingLast`), and one in front of all others fails the session as it would
have failed anyway. On the way out, what a session makes of packets is *stable*: decoded and encoded
again it is the same. So a listener that puts packets in the place of frames leaves what is handed
over as it was (`Host.emit_speaking`).

The one kind of frame that has no packet to be replaced by is that of a batch of `2 ^ 31` bytes or
more, whose numbers need not fit. Such a frame does not come to be another one either, since the
codec of batches accepts nothing but what it would have written; so if the listener passes on what
has no packet, everything that is sent goes out as it would have (`Application.FormsAgree.sends`).
-/

namespace PacketSession

variable {S : Schema} {N X : Type}

/-! ### Stable frames -/

namespace Registry

variable {r : Registry S}

/-- A packet comes back from its frame. -/
def Recoverable (r : Registry S) (packet : Packet S) : Prop := ∃ id, r.Recovers id packet

/-- If a frame has a packet, it is the frame of this packet. -/
def Canonical (r : Registry S) (frame : Bytes) : Prop :=
  ∀ d, r.decode frame = .ok d → r.encode d.packet = .ok frame

/-- A frame has a packet and is the frame of this packet. -/
def Stable (r : Registry S) (frame : Bytes) : Prop :=
  ∃ d, r.decode frame = .ok d ∧ r.encode d.packet = .ok frame

/-- A frame whose packet is written as that frame again is canonical. -/
private theorem Stable.canonical {frame : Bytes} (h : r.Stable frame) : r.Canonical frame := by
  obtain ⟨d, hd, he⟩ := h
  intro d' hd'
  rw [hd] at hd'
  cases hd'
  exact he

/-- A codec that accepts nothing but what it writes makes of a packet no frame of another one. -/
private theorem canonical_of_consumes (hd : r.Distinct) {id : PacketId} {kind : PacketKind S.Kind}
    {codec : Codec S kind} (hm : ⟨id, kind, codec⟩ ∈ r.entries)
    (hc : codec.decode.Consumes fun written content => written = codec.encode content)
    {content : S.Content kind} {frame : Bytes} (he : r.encode ⟨kind, content⟩ = .ok frame) :
    r.Canonical frame := by
  have hcodec := hd.codec?_of_mem hm
  obtain rfl : Varint.encode id.raw ++ codec.encode content = frame := by
    simp only [encode, hcodec] at he
    exact Except.ok.inj he
  intro d hdec
  rw [decode_of_entry (Varint.spells_encode id.raw) (hd.entry?_of_mem hm)] at hdec
  dsimp only [decodeBody] at hdec
  split at hdec
  · cases hdec
  · rename_i content' hr
    cases hdec
    -- everything behind the identifier was consumed, so it is what the codec would write
    obtain ⟨written, hsplit, hwritten⟩ := hc.readFrom hr
    have hsame : codec.encode content = codec.encode content' := by
      rwa [Cursor.behind, List.append_nil, hwritten] at hsplit
    simp only [encode, hcodec, hsame]
  · cases hdec

/-- The packets of a call come back from their frames. -/
def RecoversAll (r : Registry S) (call : Sending S) : Prop :=
  ∀ packet ∈ call.packets, r.Recoverable packet

variable (hw : r.WellFormed)

include hw

/-- What is written for a packet that is read back is stable. -/
private theorem stable_of_recoverable {packet : Packet S} (hp : r.Recoverable packet)
    {frame : Bytes} (he : r.encode packet = .ok frame) : r.Stable frame := by
  obtain ⟨id, codec, hc, hr⟩ := hp
  exact ⟨⟨id, packet⟩, hw.decode_encode hc hr he, he⟩

private theorem stable_chunk {c : Chunk} (hc : c.Fits) {frame : Bytes}
    (he : r.encode (.ofChunk c) = .ok frame) : r.Stable frame :=
  ⟨_, decode_chunk hw hc he, he⟩

/-- A batch whose frame can travel is read back from it, so the frame is stable. -/
private theorem stable_batch {b : Batch} {frame : Bytes} (he : r.encode (.ofBatch b) = .ok frame)
    (hs : frame.length < 2 ^ 31) : r.Stable frame :=
  ⟨_, decode_batch hw (fits_of_encode hw he hs) he, he⟩

/-- Whatever packet is read from the frame of a batch is written as that frame again, also where the
batch is too large to be read back. -/
theorem canonical_batch {b : Batch} {frame : Bytes} (he : r.encode (.ofBatch b) = .ok frame) :
    r.Canonical frame := by
  have hm : ⟨.batch, .batch, .batch⟩ ∈ r.entries := hw.own (by simp [reserved])
  exact canonical_of_consumes hw.toDistinct hm (Batch.consumes_decode.imp fun _ _ h => h.1) he

/-- The frames of a call are stable, unless they are those of very large batches, and none of them
has a packet with another frame. -/
theorem stable_framesOf {settings : Settings} {call : Sending S} (hp : r.RecoversAll call)
    {frames : List Bytes} (he : r.framesOf settings call = .ok frames) :
    ∀ frame ∈ frames, r.Canonical frame ∧ (r.Stable frame ∨
      2 ^ 31 ≤ frame.length ∧ ∃ packets delivery, call = .batch packets delivery) := by
  cases call with
  | single packet delivery =>
    obtain ⟨frame, hf, he⟩ := exists_of_bind_eq_ok he
    cases he
    have hs := stable_of_recoverable hw (hp packet List.mem_cons_self) hf
    exact List.forall_mem_singleton.mpr ⟨hs.canonical, .inl hs⟩
  | batch packets delivery =>
    obtain ⟨members, -, he⟩ := exists_of_bind_eq_ok he
    intro frame hframe
    obtain ⟨b, -, hb⟩ := exists_of_mem_of_mapM_eq_ok he frame hframe
    refine ⟨canonical_batch hw hb, ?_⟩
    rcases Nat.lt_or_ge frame.length (2 ^ 31) with hlt | hge
    · exact .inl (stable_batch hw hb hlt)
    · exact .inr ⟨hge, packets, delivery, rfl⟩

/-- A frame up to the threshold travels whole, and all others in pieces that are stable. -/
theorem stable_payloads {settings : Settings} {frame : Bytes} {pieces : List Bytes}
    (hp : r.payloads settings frame = .ok pieces) :
    if frame.length ≤ settings.fragmentThreshold then pieces = [frame]
    else ∀ piece ∈ pieces, r.Stable piece := by
  unfold payloads at hp
  split_ifs at hp ⊢
  · exact (Except.ok.inj hp).symm
  · intro piece hpiece
    obtain ⟨chunks, hsplit, hpieces⟩ := exists_of_bind_eq_ok hp
    obtain ⟨c, hc, he⟩ := exists_of_mem_of_mapM_eq_ok hpieces piece hpiece
    exact stable_chunk hw (Fragmenter.fits_of_mem_split _ hsplit hc) he

end Registry

/-! ### Listeners that change the form -/

section Listeners

variable {m : Type → Type} [Monad m]

/-- Decodes frames on the way in; packets pass unchanged. -/
def Registry.decoding (r : Registry S) : InboundListener S m := fun _ message =>
  match message with
  | .bytes frame =>
    match r.decode frame with
    | .ok d => return some (.packet d.packet)
    | .error cause => throw cause
  | .packet _ => return some message

/-- A listener on the way out puts the packet of a frame in the place of the frame, if it has
one. -/
def Registry.Substitutes (r : Registry S) (listener : OutboundListener S m) : Prop :=
  ∀ delivery frame d, r.decode frame = .ok d →
    listener delivery (.bytes frame) = pure [.packet d.packet]

/-- A listener on the way out passes on a frame that has no packet. -/
def Registry.Spares (r : Registry S) (listener : OutboundListener S m) : Prop :=
  ∀ delivery frame cause, r.decode frame = .error cause →
    listener delivery (.bytes frame) = pure [.bytes frame]

/-- What a listener on the way out puts in the place of a frame is written as the frame. -/
def Registry.Keeps (r : Registry S) (listener : OutboundListener S m) (delivery : Delivery)
    (frame : Bytes) : Prop :=
  ∃ message, listener delivery (.bytes frame) = pure [message] ∧ r.written message = .ok frame

/-- A listener that puts the packet in place of a stable frame changes nothing about what is
written. -/
theorem Registry.Stable.keeps {r : Registry S} {frame : Bytes} (hs : r.Stable frame)
    {listener : OutboundListener S m} (hl : r.Substitutes listener) (delivery : Delivery) :
    r.Keeps listener delivery frame := by
  obtain ⟨d, hd, he⟩ := hs
  exact ⟨.packet d.packet, hl delivery frame d hd, he⟩

theorem Registry.Canonical.keeps {r : Registry S} {frame : Bytes} (hc : r.Canonical frame)
    {listener : OutboundListener S m} (hl : r.Substitutes listener) (hp : r.Spares listener)
    (delivery : Delivery) : r.Keeps listener delivery frame := by
  cases hd : r.decode frame with
  | ok d => exact ⟨.packet d.packet, hl delivery frame d hd, hc d hd⟩
  | error cause => exact ⟨.bytes frame, hp delivery frame cause hd, rfl⟩

/-- Decodes frames on the way out; packets pass unchanged. -/
def Registry.substituting (r : Registry S) : OutboundListener S m := fun _ message =>
  match message with
  | .bytes frame =>
    match r.decode frame with
    | .ok d => return [.packet d.packet]
    | .error cause => throw cause
  | .packet _ => return [message]

/-- The listener that decodes and passes the packet on puts a packet in place of its frame, as its
name says. -/
private theorem Registry.substitutes_substituting (r : Registry S) :
    r.Substitutes (r.substituting : OutboundListener S m) := by
  intro delivery frame d hd
  rw [substituting, hd]

variable [LawfulMonad m]

/-- One more listener behind all others works on what is passed to the end. -/
private theorem Pipeline.receive_concat (p : Pipeline S m) (name : String)
    (listener : InboundListener S m) (delivery : Delivery) (message : Message S)
    (terminal : Message S → ExceptT ProtocolError m Unit) :
    ({ p with inbound := ⟨p.inbound.entries ++ [(name, listener)]⟩ } : Pipeline S m).receive
        delivery message terminal =
      p.receive delivery message fun message => do
        match ← listener delivery message with
        | some next => terminal next
        | none => return () := by
  rw [receive_append]
  refine congrArg (p.receive delivery message) (funext fun message => ?_)
  change (receiveThrough delivery [listener] message >>= fun passed => _) = _
  rw [receiveThrough, bind_assoc]
  refine bind_congr fun passed => ?_
  cases passed <;> simp [receiveThrough]

/-- One more listener behind all others works on what comes out of them. -/
private theorem Pipeline.send_append (p : Pipeline S m) (name : String)
    (listener : OutboundListener S m) (delivery : Delivery) (message : Message S) :
    ({ p with outbound := ⟨p.outbound.entries ++ [(name, listener)]⟩ } : Pipeline S m).send delivery
        message [] = p.send delivery message [] >>= runStage delivery listener := by
  have hlisteners : (Chain.listeners ⟨p.outbound.entries ++ [(name, listener)]⟩) =
      p.outbound.listeners ++ [listener] := by simp [Chain.listeners]
  have hlast : sendThrough delivery [listener] = runStage delivery listener := by
    funext messages
    exact bind_pure _
  simp only [send, hlisteners, sendThrough_append, hlast, List.nil_append, bind_pure]

end Listeners

/-! ### Hosts with other listeners -/

namespace Host

variable (h : Host S N X)

/-- A host with other listeners on the way in. -/
def hearing (inbound : Chain (InboundListener S (SessionM S N X))) : Host S N X :=
  { h with protocol.pipeline.inbound := inbound }

/-- A host with one more listener on the way out, behind all others. -/
def speaking (name : String) (listener : OutboundListener S (SessionM S N X)) : Host S N X :=
  { h with
    protocol.pipeline.outbound := ⟨h.protocol.pipeline.outbound.entries ++ [(name, listener)]⟩ }

variable {h}

/-- Listeners on the way in only matter to what is received. -/
private theorem execute_hearing {inbound : Chain (InboundListener S (SessionM S N X))}
    (hr : ∀ frame, (h.hearing inbound).receive frame = h.receive frame) (request : Request S) :
    request.execute (h.hearing inbound) = request.execute h := by
  cases request with
  | receive frame => exact hr frame
  | arrive arrival =>
    cases arrival with
    | frame frame => exact congrArg (· >>= fun _ => _) (hr frame)
    | failed cause => rfl
    | ended => rfl
  | _ => rfl

/-! ### On the way in -/

section Inbound

variable (hd : h.protocol.codecs.Distinct)

include hd

/-- A packet that a frame was decoded to has the identifier that it was decoded with. -/
private theorem decodeMessage_packet {frame : Bytes} {d : Decoded S}
    (hf : h.protocol.codecs.decode frame = .ok d) :
    h.decodeMessage (.packet d.packet) = .ok d := by
  obtain ⟨codec, hm⟩ := Registry.tagged_of_decode hf
  rw [decodeMessage, Registry.idOf?, hd.codec?_of_mem hm]
  rfl

/-- A frame is dispatched as its packet is. -/
theorem dispatch_packet {frame : Bytes} {d : Decoded S}
    (hf : h.protocol.codecs.decode frame = .ok d) (delivery : Delivery) :
    h.dispatch delivery (.packet d.packet) = h.dispatch delivery (.bytes frame) := by
  rw [dispatch, dispatch, decodeMessage_packet hd hf, decodeMessage, hf]

omit hd in
/-- A frame that cannot be decoded fails before anything is processed. -/
private theorem dispatch_of_error {frame : Bytes} {cause : ProtocolError}
    (hf : h.protocol.codecs.decode frame = .error cause) (delivery : Delivery) :
    h.dispatch delivery (.bytes frame) = throw cause := by
  rw [dispatch, decodeMessage, hf]
  rfl

/-- Decoding in front of dispatching changes nothing. -/
private theorem decoding_bind_dispatch (delivery : Delivery) (message : Message S) :
    (h.protocol.codecs.decoding delivery message >>= fun passed =>
      match passed with
      | some next => h.dispatch delivery next
      | none => return ()) = h.dispatch delivery message := by
  cases message with
  | packet packet => exact pure_bind _ _
  | bytes frame =>
    rw [Registry.decoding]
    cases hf : h.protocol.codecs.decode frame with
    | ok d => exact (pure_bind _ _).trans (dispatch_packet hd hf delivery)
    | error cause => exact (dispatch_of_error hf delivery).symm

/-- A listener behind all others that decodes early makes no difference. -/
private theorem receive_decodingLast (name : String) (frame : WireFrame) :
    (h.hearing ⟨h.protocol.pipeline.inbound.entries ++
      [(name, h.protocol.codecs.decoding)]⟩).receive frame = h.receive frame := by
  have hpasses := Pipeline.receive_concat h.protocol.pipeline name h.protocol.codecs.decoding
    frame.delivery (.bytes frame.payload) (h.dispatch frame.delivery)
  rw [funext (decoding_bind_dispatch hd frame.delivery)] at hpasses
  have hsame : (h.hearing ⟨h.protocol.pipeline.inbound.entries ++
      [(name, h.protocol.codecs.decoding)]⟩).protocol.pipeline.receive frame.delivery
      (.bytes frame.payload) (h.dispatch frame.delivery) =
      h.protocol.pipeline.receive frame.delivery (.bytes frame.payload)
        (h.dispatch frame.delivery) := hpasses
  unfold receive
  rw [← hsame]
  rfl

omit hd in
/-- An open session fails with the error that its listeners end with. -/
theorem run_receive_of_throw {frame : WireFrame} {cause : ProtocolError}
    (ht : h.protocol.pipeline.receive frame.delivery (.bytes frame.payload)
      (h.dispatch frame.delivery) = throw cause) {e : Endpoint S N X}
    (hp : e.session.phase = .opened) : (h.receive frame).run e = (h.fail cause).run e := by
  rw [receive, ht]
  change (ite ((!e.session.isOpen) = true) (pure ()) (h.fail cause) : SessionM S N X Unit).run e = _
  simp [Session.isOpen, hp]

end Inbound

/-! ### On the way out -/

section Outbound

/-- The listeners on the way out pass a frame on as it is, if they pass it on. -/
def Relays (h : Host S N X) (delivery : Delivery) (frame : Bytes) : Prop :=
  ∀ (e : Endpoint S N X) outputs,
    (h.protocol.pipeline.send delivery (.bytes frame) []).run.answer e = .ok outputs →
      outputs = [.bytes frame]

/-- Without listeners, a frame goes out as it came. -/
private theorem relays_of_empty (hout : h.protocol.pipeline.outbound = .empty) (delivery : Delivery)
    (frame : Bytes) : h.Relays delivery frame := by
  intro e outputs ho
  rw [run_send_of_empty hout] at ho
  exact (Except.ok.inj ho).symm

variable {listener : OutboundListener S (SessionM S N X)} (name : String)
  (connection : ConnectionId) (delivery : Delivery)

/-- A frame is handed over as it was if what is put in its place is written as the frame. -/
theorem emit_speaking {frame : Bytes} (hk : h.protocol.codecs.Keeps listener delivery frame)
    (hr : h.Relays delivery frame) :
    (h.speaking name listener).emit connection delivery frame =
      h.emit connection delivery frame := by
  obtain ⟨message, hl, he⟩ := hk
  have hputs : Pipeline.runStage delivery listener [.bytes frame] =
      (pure [message] : ReceivingM S N X _) := by
    rw [Pipeline.runStage, hl]
    rfl
  have hdelivers : List.forM [message] (h.deliver connection delivery) =
      List.forM [Message.bytes frame] (h.deliver connection delivery) := by
    rw [SendingM.forM_cons, SendingM.forM_cons, deliver_eq delivery connection message, he]
    rfl
  have hsend := Pipeline.send_append h.protocol.pipeline name listener delivery (.bytes frame)
  funext handle e
  change ((emit _ connection delivery frame).run.run handle).run e =
    ((emit h connection delivery frame).run.run handle).run e
  rw [emit, emit, SendingM.run_lift_bind, SendingM.run_lift_bind, speaking]
  dsimp only
  rw [hsend]
  simp only [SessionM.answer, SessionM.after, ReceivingM.run_bind]
  rcases ho : (h.protocol.pipeline.send delivery (.bytes frame) []).run.run e with
    ⟨cause | outputs, e'⟩
  · rfl
  -- the listeners before passed the frame on as it was, so the last one gets it
  · obtain rfl := hr e outputs (congrArg Prod.fst ho)
    dsimp only
    rw [hputs]
    exact congrArg (fun action : SendingM S N X Unit => (action.run.run handle).run e') hdelivers

/-- A frame is transmitted as it was if it would be handed over as it was, or if it is cut into
pieces. -/
private theorem transmit_speaking (hw : h.protocol.codecs.WellFormed)
    (hl : h.protocol.codecs.Substitutes listener) {frame : Bytes}
    (hk : h.protocol.codecs.Keeps listener delivery frame ∨
      h.protocol.settings.fragmentThreshold < frame.length)
    (hr : ∀ piece, h.Relays delivery piece) :
    (h.speaking name listener).transmit connection delivery frame =
      h.transmit connection delivery frame := by
  have hpieces : ∀ pieces, h.protocol.codecs.payloads h.protocol.settings frame = .ok pieces →
      ∀ piece ∈ pieces, h.protocol.codecs.Keeps listener delivery piece := by
    intro pieces hp piece hpiece
    have hstable := Registry.stable_payloads hw hp
    split_ifs at hstable with hle
    · rw [hstable, List.mem_singleton] at hpiece
      rw [hpiece]
      exact hk.resolve_right (Nat.not_lt.mpr hle)
    · exact (hstable piece hpiece).keeps hl delivery
  refine (transmit_eq (h := h.speaking name listener) delivery connection frame).trans ?_
  rw [transmit_eq delivery connection]
  change SendingM.ofExcept (h.protocol.codecs.payloads h.protocol.settings frame) >>= _ = _
  cases hp : h.protocol.codecs.payloads h.protocol.settings frame with
  | error cause => rfl
  | ok pieces =>
    exact forM_congr fun piece hpiece =>
      emit_speaking name connection delivery (hpieces pieces hp piece hpiece) (hr piece)

end Outbound

end Host

/-! ### Applications with other listeners -/

namespace Application

variable {a : Application S N X} {name : String} {q : Protocol S (Script S N X)}
  (answer : (request : Request S) → SessionM S N X request.Answer)

/-- Decoding is the same, whatever it is run by. -/
theorem run_decoding (r : Registry S) :
    (fun delivery message => ExceptT.mk (Script.run answer (r.decoding delivery message).run)) =
      (r.decoding : InboundListener S (SessionM S N X)) := by
  funext delivery message
  cases message with
  | packet packet => rfl
  | bytes frame =>
    simp only [Registry.decoding]
    cases r.decode frame <;> rfl

/-- Adding a listener to an application is adding it, run by scripts, to the host. -/
private theorem host_decodingLast
    (ha : a.protocol.addInbound name a.protocol.codecs.decoding .last = .ok q) :
    ({ a with protocol := q } : Application S N X).host answer =
      (a.host answer).hearing ⟨(a.host answer).protocol.pipeline.inbound.entries ++
        [(name, a.protocol.codecs.decoding)]⟩ := by
  obtain ⟨inbound, hadd, hq⟩ := exists_of_bind_eq_ok ha
  cases hq
  obtain rfl := Chain.add_last hadd
  simp only [host, Host.hearing, Protocol.map, Chain.map, List.map_append, List.map_cons,
    List.map_nil, run_decoding]

private theorem host_decodingFirst
    (ha : a.protocol.addInbound name a.protocol.codecs.decoding .first = .ok q) :
    ({ a with protocol := q } : Application S N X).host answer =
      (a.host answer).hearing ⟨(name, a.protocol.codecs.decoding) ::
        (a.host answer).protocol.pipeline.inbound.entries⟩ := by
  obtain ⟨inbound, hadd, hq⟩ := exists_of_bind_eq_ok ha
  cases hq
  obtain rfl := Chain.add_first hadd
  simp only [host, Host.hearing, Protocol.map, Chain.map, List.map_cons, run_decoding]

private theorem host_substituting {listener : OutboundListener S (Script S N X)}
    (ha : a.protocol.addOutbound name listener .last = .ok q) :
    ({ a with protocol := q } : Application S N X).host answer =
      (a.host answer).speaking name fun delivery message =>
        ExceptT.mk (Script.run answer (listener delivery message).run) := by
  obtain ⟨outbound, hadd, hq⟩ := exists_of_bind_eq_ok ha
  cases hq
  obtain rfl := Chain.add_last hadd
  simp only [host, Host.speaking, Protocol.map, Chain.map, List.map_append, List.map_cons,
    List.map_nil]

/-- A listener that is run as a script substitutes as the script does. -/
private theorem substitutes_run {r : Registry S} {listener : OutboundListener S (Script S N X)}
    (hl : r.Substitutes listener) :
    r.Substitutes fun delivery message =>
      ExceptT.mk (Script.run answer (listener delivery message).run) := by
  intro delivery frame d hd
  dsimp only
  rw [hl delivery frame d hd]
  rfl

private theorem keeps_run {r : Registry S} {listener : OutboundListener S (Script S N X)}
    {delivery : Delivery} {frame : Bytes} (hk : r.Keeps listener delivery frame) :
    r.Keeps (fun delivery message =>
      ExceptT.mk (Script.run answer (listener delivery message).run)) delivery frame := by
  obtain ⟨message, hl, he⟩ := hk
  refine ⟨message, ?_, he⟩
  dsimp only
  rw [hl]
  rfl

private theorem transmit_substituting {listener : OutboundListener S (Script S N X)}
    (hw : a.protocol.codecs.WellFormed) (hl : a.protocol.codecs.Substitutes listener)
    (ha : a.protocol.addOutbound name listener .last = .ok q)
    (hout : a.protocol.pipeline.outbound = .empty) (connection : ConnectionId)
    {delivery : Delivery} {frame : Bytes}
    (hk : a.protocol.codecs.Keeps listener delivery frame ∨
      a.protocol.settings.fragmentThreshold < frame.length) :
    (({ a with protocol := q } : Application S N X).host answer).transmit connection delivery
      frame = (a.host answer).transmit connection delivery frame := by
  have hempty : (a.host answer).protocol.pipeline.outbound = .empty := Protocol.outbound_map hout _
  rw [host_substituting answer ha]
  exact Host.transmit_speaking name connection delivery hw (substitutes_run answer hl)
    (hk.imp_left (keeps_run answer)) (Host.relays_of_empty hempty delivery)

/-- A listener behind all others that decodes early makes no difference to anything that the
application does. -/
theorem perform_decodingLast (hd : a.protocol.codecs.Distinct)
    (ha : a.protocol.addInbound name a.protocol.codecs.decoding .last = .ok q) (depth : Nat)
    (request : Request S) :
    ({ a with protocol := q } : Application S N X).perform depth request =
      a.perform depth request := by
  induction depth generalizing request with
  | zero => rfl
  | succ depth ih =>
    have hanswers : ({ a with protocol := q } : Application S N X).perform depth =
        a.perform depth := funext ih
    rw [perform, perform, hanswers, host_decodingLast _ ha]
    exact Host.execute_hearing (Host.receive_decodingLast hd name) request

/-- Without listeners a frame that has no packet fails an open session. -/
private theorem run_receive_of_empty (hin : a.protocol.pipeline.inbound = .empty)
    {frame : WireFrame}
    {cause : ProtocolError} (hf : a.protocol.codecs.decode frame.payload = .error cause)
    {e : Endpoint S N X} (hp : e.session.phase = .opened) :
    ((a.host answer).receive frame).run e = ((a.host answer).fail cause).run e := by
  refine Host.run_receive_of_throw ?_ hp
  have hempty : (a.host answer).protocol.pipeline.inbound = .empty := Protocol.inbound_map hin _
  rw [Pipeline.receive, hempty]
  exact Host.dispatch_of_error hf frame.delivery

/-- So it does if a listener in front of all others decodes it. -/
private theorem run_receive_decodingFirst
    (ha : a.protocol.addInbound name a.protocol.codecs.decoding .first = .ok q) {frame : WireFrame}
    {cause : ProtocolError} (hf : a.protocol.codecs.decode frame.payload = .error cause)
    {e : Endpoint S N X} (hp : e.session.phase = .opened) :
    ((({ a with protocol := q } : Application S N X).host answer).receive frame).run e =
      ((a.host answer).fail cause).run e := by
  rw [host_decodingFirst answer ha]
  refine Host.run_receive_of_throw ?_ hp
  rw [Pipeline.receive, Host.hearing]
  simp only [Chain.listeners, List.map_cons, Pipeline.receiveThrough, Registry.decoding, hf]
  rfl

/-! ### Both directions -/

/-- The two forms of a message agree in an application, whatever answers its calls get. -/
structure FormsAgree (a : Application S N X) : Prop where
  /-- A frame is dispatched as the packet that it is decoded to. -/
  dispatches (answer : (request : Request S) → SessionM S N X request.Answer) (delivery : Delivery)
    (frame : Bytes) (d : Decoded S) : a.protocol.codecs.decode frame = .ok d →
      (a.host answer).dispatch delivery (.packet d.packet) =
        (a.host answer).dispatch delivery (.bytes frame)
  /-- A listener behind all others that decodes early makes no difference to any call. -/
  decodesLast (name : String) (q : Protocol S (Script S N X)) :
    a.protocol.addInbound name a.protocol.codecs.decoding .last = .ok q →
      ∀ depth request, ({ a with protocol := q } : Application S N X).perform depth request =
        a.perform depth request
  /-- A frame that has no packet fails an open session with the error of decoding it, both if there
  are no listeners and if one in front of all others decodes it. -/
  fails (answer : (request : Request S) → SessionM S N X request.Answer) (frame : WireFrame)
    (cause : ProtocolError) (e : Endpoint S N X) :
    a.protocol.codecs.decode frame.payload = .error cause → e.session.phase = .opened →
      (a.protocol.pipeline.inbound = .empty →
        ((a.host answer).receive frame).run e = ((a.host answer).fail cause).run e) ∧
      ∀ name q, a.protocol.addInbound name a.protocol.codecs.decoding .first = .ok q →
        ((({ a with protocol := q } : Application S N X).host answer).receive frame).run e =
          ((a.host answer).fail cause).run e
  /-- The frames of a call whose packets come back from theirs are stable, unless they are those of
  batches of `2 ^ 31` bytes or more; and no frame of such a call has a packet of another frame. -/
  frames (call : Sending S) (frames : List Bytes) : a.protocol.codecs.RecoversAll call →
    a.protocol.codecs.framesOf a.protocol.settings call = .ok frames →
      ∀ frame ∈ frames, a.protocol.codecs.Canonical frame ∧ (a.protocol.codecs.Stable frame ∨
        2 ^ 31 ≤ frame.length ∧ ∃ packets delivery, call = .batch packets delivery)
  /-- A frame up to the threshold travels whole, and all others in pieces that are stable. -/
  pieces (frame : Bytes) (pieces : List Bytes) :
    a.protocol.codecs.payloads a.protocol.settings frame = .ok pieces →
      if frame.length ≤ a.protocol.settings.fragmentThreshold then pieces = [frame]
      else ∀ piece ∈ pieces, a.protocol.codecs.Stable piece
  /-- A listener that puts packets in the place of stable frames, behind listeners that pass these
  on as they are, leaves everything that is handed over for them as it was. -/
  emits (listener : OutboundListener S (Script S N X)) (name : String)
    (q : Protocol S (Script S N X)) : a.protocol.codecs.Substitutes listener →
      a.protocol.addOutbound name listener .last = .ok q → ∀ answer connection delivery frame,
        a.protocol.codecs.Stable frame → (a.host answer).Relays delivery frame →
          (({ a with protocol := q } : Application S N X).host answer).emit connection delivery
            frame = (a.host answer).emit connection delivery frame
  /-- And where there are no other listeners, also everything that is transmitted of a frame that is
  stable or travels in pieces. -/
  transmits (listener : OutboundListener S (Script S N X)) (name : String)
    (q : Protocol S (Script S N X)) : a.protocol.codecs.Substitutes listener →
      a.protocol.addOutbound name listener .last = .ok q → a.protocol.pipeline.outbound = .empty →
        ∀ answer connection delivery frame,
          a.protocol.codecs.Stable frame ∨
              a.protocol.settings.fragmentThreshold < frame.length →
            (({ a with protocol := q } : Application S N X).host answer).transmit connection
              delivery frame = (a.host answer).transmit connection delivery frame
  /-- If the listener passes on the frames that have no packet, this is so for all frames of a call
  whose packets come back from theirs. -/
  sends (listener : OutboundListener S (Script S N X)) (name : String)
    (q : Protocol S (Script S N X)) : a.protocol.codecs.Substitutes listener →
      a.protocol.codecs.Spares listener → a.protocol.addOutbound name listener .last = .ok q →
        a.protocol.pipeline.outbound = .empty → ∀ answer connection call frames,
          a.protocol.codecs.RecoversAll call →
            a.protocol.codecs.framesOf a.protocol.settings call = .ok frames →
              frames.forM ((({ a with protocol := q } : Application S N X).host answer).transmit
                connection call.delivery) =
              frames.forM ((a.host answer).transmit connection call.delivery)

/-- In every protocol that was put together the two forms of a message agree. -/
theorem formsAgree (a : Application S N X) (hb : a.protocol.Built) : a.FormsAgree := by
  have hw := hb.wellFormed
  exact {
    dispatches := fun answer delivery frame d hf =>
      Host.dispatch_packet (h := a.host answer) hw.toDistinct hf delivery
    decodesLast := fun _ _ ha => perform_decodingLast hw.toDistinct ha
    fails := fun answer _ _ _ hf hp => ⟨fun hin => run_receive_of_empty answer hin hf hp,
      fun _ _ ha => run_receive_decodingFirst answer ha hf hp⟩
    frames := fun _ _ hp he => Registry.stable_framesOf hw hp he
    pieces := fun _ _ hp => Registry.stable_payloads hw hp
    emits := by
      intro listener name q hl ha answer connection delivery frame hs hr
      rw [host_substituting answer ha]
      exact Host.emit_speaking name connection delivery (keeps_run answer (hs.keeps hl delivery)) hr
    transmits := fun _ _ _ hl ha hout answer connection delivery _ hs =>
      transmit_substituting answer hw hl ha hout connection
        (hs.imp_left fun hstable => hstable.keeps hl delivery)
    sends := by
      intro listener name q hl hspares ha hout answer connection call frames hp he
      refine forM_congr fun frame hframe => ?_
      have hcanonical := (Registry.stable_framesOf hw hp he frame hframe).1
      exact transmit_substituting answer hw hl ha hout connection
        (.inl (hcanonical.keeps hl hspares call.delivery)) }

/-- Two signals in a batch. -/
def signalPair : Sending Sample.plain :=
  .batch [⟨.application .unit, ()⟩, ⟨.application .unit, ()⟩] {}

/-- The frame of the batch. -/
def pairFrame : Bytes := [255, 255, 255, 255, 15, 0, 0, 0, 2, 0, 0, 0, 1, 1, 0, 0, 0, 1, 1]

/-- A signal closes a session in either form, a frame of an unknown kind fails it with or without a
listener that decodes, and a batch that is cut in two is transmitted as it was. -/
theorem formsAgree_quitter :
    quitter.protocol.Built ∧
      (∀ answer, (quitter.host answer).dispatch {} (.packet ⟨.application .unit, ()⟩) =
        (quitter.host answer).dispatch {} (.bytes [1])) ∧
      (∃ q, quitting.addInbound "decode" quitting.codecs.decoding .last = .ok q ∧
        ((({ quitter with protocol := q } : Application _ _ _).perform 2 (.receive ⟨{}, [1]⟩)).after
          (begun quitter)).session.reason = some "enough") ∧
      (∃ q, quitting.addInbound "decode" quitting.codecs.decoding .first = .ok q ∧
        ∀ answer, ((({ quitter with protocol := q } : Application _ _ _).host answer).receive
          ⟨{}, [2]⟩).run (begun quitter) =
            ((quitter.host answer).fail (.unknownPacketId ⟨2⟩)).run (begun quitter)) ∧
      quitting.codecs.RecoversAll signalPair ∧
      quitting.codecs.framesOf quitting.settings signalPair = .ok [pairFrame] ∧
      quitting.settings.fragmentThreshold < pairFrame.length ∧
      quitting.codecs.Stable pairFrame ∧
      ∃ q, quitting.addOutbound "packets" quitting.codecs.substituting .last = .ok q ∧
        ∀ answer connection delivery,
          (({ quitter with protocol := q } : Application _ _ _).host answer).transmit connection
            delivery pairFrame = (quitter.host answer).transmit connection delivery pairFrame := by
  have hagree := formsAgree quitter built_quitting
  have hrecovers : quitting.codecs.RecoversAll signalPair := by
    intro packet hpacket
    have hunit : packet = ⟨.application .unit, ()⟩ := by
      simpa [signalPair, Sending.packets] using hpacket
    rw [hunit]
    exact ⟨⟨1⟩, signal, rfl, rfl⟩
  have hframes : quitting.codecs.framesOf quitting.settings signalPair = .ok [pairFrame] := by
    decide +kernel
  have hlong : quitting.settings.fragmentThreshold < pairFrame.length := by decide
  -- the frame is too long to travel whole, so no other case is left
  have hstable : quitting.codecs.Stable pairFrame :=
    (hagree.frames signalPair [pairFrame] hrecovers hframes pairFrame
      List.mem_cons_self).2.resolve_right fun h => absurd h.1 (by decide)
  obtain ⟨last, hlast⟩ : ∃ q, quitting.addInbound "decode" quitting.codecs.decoding .last = .ok q :=
    ⟨_, rfl⟩
  obtain ⟨first, hfirst⟩ :
    ∃ q, quitting.addInbound "decode" quitting.codecs.decoding .first = .ok q := ⟨_, rfl⟩
  obtain ⟨out, hout⟩ :
    ∃ q, quitting.addOutbound "packets" quitting.codecs.substituting .last = .ok q := ⟨_, rfl⟩
  refine ⟨built_quitting, fun answer => hagree.dispatches answer {} [1] _ rfl, ⟨last, hlast, ?_⟩,
    ⟨first, hfirst, fun answer => ?_⟩, hrecovers, hframes, hlong, hstable, out, hout, ?_⟩
  · rw [hagree.decodesLast "decode" last hlast]
    decide +kernel
  · exact (hagree.fails answer ⟨{}, [2]⟩ _ (begun quitter) rfl rfl).2 "decode" first hfirst
  · exact fun answer connection delivery => hagree.transmits _ "packets" out
      quitting.codecs.substitutes_substituting hout rfl answer connection delivery pairFrame
        (.inl hstable)

end Application

end PacketSession
