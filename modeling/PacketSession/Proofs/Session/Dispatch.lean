import PacketSession.Proofs.Protocol.Built
import PacketSession.Proofs.Script.Silent
import PacketSession.Proofs.Session.Replies

/-!
# A frame is opened before anything in it counts

Processing a received frame interleaves decoding, reassembly and delivery. Here it is put side by
side with a reference in two phases. `Registry.read` opens a frame: it yields the packets in it,
the *leaves*, or the error, and only the reassembler has a part in that. `Host.processInOrder`
processes leaves one after the other as long as the session is open. `Application.receive_eq`
says that processing a frame is the one after the other, or failing the session with the error.

The reference tells envelopes by what a packet holds, the session by the identifier. They agree
because the registry of a protocol that was put together is well formed.
-/

namespace PacketSession

variable {S : Schema} {N X : Type}

/-! ### The first phase -/

/-- Whether a packet holds other packets, or a part of one. -/
def Packet.isEnvelope (p : Packet S) : Bool := p.kind = .chunk || p.kind = .batch

namespace Registry

variable (r : Registry S)

/-- The packets of the frames of a batch, none of which may be an envelope. -/
def members : List Bytes → Except ProtocolError (List (Decoded S))
  | [] => .ok []
  | frame :: frames =>
    match r.decode frame with
    | .error cause => .error cause
    | .ok d =>
      if d.packet.isEnvelope then .error (nestedEnvelope d.id "batch")
      else
        match members frames with
        | .error cause => .error cause
        | .ok rest => .ok (d :: rest)

/-- The leaves of a packet that is not a chunk. -/
def leaves (d : Decoded S) : Except ProtocolError (List (Decoded S)) :=
  match d.packet.batch? with
  | some b => r.members b.frames
  | none => .ok [d]

/-- The leaves of the payload that a chunk completed, if it did. -/
def payloadLeaves : Option Bytes → Except ProtocolError (List (Decoded S))
  | none => .ok []
  | some payload =>
    match r.decode payload with
    | .error cause => .error cause
    | .ok d =>
      if d.packet.kind = .chunk then .error (nestedEnvelope d.id "fragment") else r.leaves d

/-- The leaves of a packet, and what is in flight after it was opened. -/
def unwrap (reassembler : Reassembler) (channel : Channel) (d : Decoded S) :
    Except ProtocolError (List (Decoded S)) × Reassembler :=
  match d.packet.chunk? with
  | none => (r.leaves d, reassembler)
  | some chunk =>
    match reassembler.accept channel chunk with
    | (.error cause, reassembler) => (.error cause, reassembler)
    | (.ok payload, reassembler) => (r.payloadLeaves payload, reassembler)

/-- The leaves of a frame, and what is in flight after it was opened. -/
def read (reassembler : Reassembler) (frame : WireFrame) :
    Except ProtocolError (List (Decoded S)) × Reassembler :=
  match r.decode frame.payload with
  | .error cause => (.error cause, reassembler)
  | .ok d => r.unwrap reassembler frame.delivery.channel d

end Registry

/-! ### The second phase -/

namespace Host

variable (h : Host S N X)

/-- Processes a leaf: an announcement of the peer, or a packet for the handler of its identifier. -/
def processOne (delivery : Delivery) (d : Decoded S) : SessionM S N X Unit :=
  match d.packet.disconnect? with
  | some announcement => h.peerDisconnected announcement.reason
  | none =>
    match h.protocol.handlers.get? d.id with
    | some handler => handler.invoke delivery d
    | none => pure ()

/-- Processes leaves one after the other, up to the first that finds the session not open. -/
def processInOrder (delivery : Delivery) : List (Decoded S) → SessionM S N X Unit
  | [] => pure ()
  | d :: ds => do
    if !(← SessionM.current).isOpen then return ()
    h.processOne delivery d
    processInOrder delivery ds

end Host

/-! ### Both tell envelopes alike -/

namespace Packet

variable {p : Packet S}

theorem disconnect?_eq_none : p.disconnect? = none ↔ p.kind ≠ .disconnect := by
  obtain ⟨kind, content⟩ := p
  cases kind <;> simp [disconnect?]

theorem chunk?_eq_none : p.chunk? = none ↔ p.kind ≠ .chunk := by
  obtain ⟨kind, content⟩ := p
  cases kind <;> simp [chunk?]

theorem batch?_eq_none : p.batch? = none ↔ p.kind ≠ .batch := by
  obtain ⟨kind, content⟩ := p
  cases kind <;> simp [batch?]

private theorem kind_of_disconnect? {d : Disconnect} (h : p.disconnect? = some d) :
    p.kind = .disconnect :=
  Decidable.not_not.mp (mt disconnect?_eq_none.mpr (by simp [h]))

private theorem kind_of_chunk? {c : Chunk} (h : p.chunk? = some c) : p.kind = .chunk :=
  Decidable.not_not.mp (mt chunk?_eq_none.mpr (by simp [h]))

private theorem kind_of_batch? {b : Batch} (h : p.batch? = some b) : p.kind = .batch :=
  Decidable.not_not.mp (mt batch?_eq_none.mpr (by simp [h]))

end Packet

namespace Registry

variable {r : Registry S} (hw : r.WellFormed)

include hw

/-- The frames of a batch are opened as the reference opens them. -/
theorem decodeBatch_eq_members (frames : List Bytes) :
    r.decodeBatch ⟨frames⟩ = r.members frames := by
  induction frames with
  | nil => rfl
  | cons frame frames ih =>
    rw [decodeBatch] at ih ⊢
    rw [List.mapM_cons, members, ih]
    cases hd : r.decode frame with
    | error cause => rfl
    | ok d =>
      have hc := hw.coherent_of_decode hd
      -- the session looks at the identifier, the reference at the kind
      have he : d.packet.isEnvelope = true ↔ d.id = .batch ∨ d.id = .fragment := by
        simp [Packet.isEnvelope, hc.batch, hc.fragment, or_comm]
      simp only [he]
      split
      · rfl
      · cases r.members frames <;> rfl

omit hw in
/-- Every packet of a batch was decoded from one of its frames. -/
theorem exists_decode_of_members {frames : List Bytes} {ds : List (Decoded S)}
    (h : r.members frames = .ok ds) : ∀ d ∈ ds, ∃ frame ∈ frames, r.decode frame = .ok d := by
  induction frames generalizing ds with
  | nil =>
    cases h
    simp
  | cons frame frames ih =>
    rw [members] at h
    split at h
    · cases h
    rename_i d hd
    split at h
    · cases h
    split at h
    · cases h
    rename_i rest hr
    cases h
    intro d' hd'
    obtain rfl | hd' := List.mem_cons.mp hd'
    · exact ⟨frame, List.mem_cons_self, hd⟩
    · obtain ⟨frame', hf, hdec⟩ := ih hr d' hd'
      exact ⟨frame', List.mem_cons_of_mem _ hf, hdec⟩

/-- Members of a batch are decoded by the registry, and what it decodes is coherent. -/
private theorem coherent_of_members {frames : List Bytes} {ds : List (Decoded S)}
    (h : r.members frames = .ok ds) : ∀ d ∈ ds, d.Coherent := by
  intro d hd
  obtain ⟨frame, -, hdec⟩ := exists_decode_of_members h d hd
  exact hw.coherent_of_decode hdec

end Registry

namespace Host

variable {h : Host S N X} {e : Endpoint S N X} (delivery : Delivery)

/-- At a session that is not open, no leaf counts. -/
theorem after_processInOrder_of_not_open (hp : e.session.phase ≠ .opened) (ds : List (Decoded S)) :
    (h.processInOrder delivery ds).after e = e := by
  cases ds with
  | nil => rfl
  | cons d ds =>
    have ho : (!e.session.isOpen) = true := by simp [Session.isOpen, hp]
    rw [processInOrder, SessionM.after_bind, SessionM.answer_current, SessionM.after_current,
      if_pos ho]
    rfl

/-- At an open session, the first leaf counts before the others. -/
theorem after_processInOrder_of_open (hp : e.session.phase = .opened) (d : Decoded S)
    (ds : List (Decoded S)) :
    (h.processInOrder delivery (d :: ds)).after e =
      (h.processInOrder delivery ds).after ((h.processOne delivery d).after e) := by
  have ho : ¬ (!e.session.isOpen) = true := by simp [Session.isOpen, hp]
  rw [processInOrder, SessionM.after_bind, SessionM.answer_current, SessionM.after_current,
    if_neg ho]
  rfl

/-- Leaves are processed in two goes as they are in one. -/
theorem after_processInOrder_append (ds later : List (Decoded S)) (e : Endpoint S N X) :
    (h.processInOrder delivery (ds ++ later)).after e =
      (h.processInOrder delivery later).after ((h.processInOrder delivery ds).after e) := by
  induction ds generalizing e with
  | nil => rfl
  | cons d ds ih =>
    by_cases hp : e.session.phase = .opened
    · rw [List.cons_append, after_processInOrder_of_open delivery hp,
        after_processInOrder_of_open delivery hp, ih]
    · rw [after_processInOrder_of_not_open delivery hp,
        after_processInOrder_of_not_open delivery hp, after_processInOrder_of_not_open delivery hp]

/-- At an open session, a coherent leaf never fails: it is processed, or nobody is there for it. -/
private theorem run_processLeaf (hp : e.session.phase = .opened) {d : Decoded S} (hd : d.Coherent) :
    (h.processLeaf delivery d).run.run e = (.ok (), (h.processOne delivery d).after e) := by
  rw [processLeaf, ReceivingM.run_ifOpen_of_open hp, processOne]
  cases ha : d.packet.disconnect? with
  | none =>
    have hid : d.id ≠ .disconnect := fun hi =>
      Packet.disconnect?_eq_none.mp ha (hd.disconnect.mp hi)
    rw [if_neg hid]
    cases h.protocol.handlers.get? d.id <;> rfl
  | some announcement =>
    rw [if_pos (hd.disconnect.mpr (Packet.kind_of_disconnect? ha))]
    rfl

/-- The leaves of a batch are processed in order. -/
private theorem run_processLeaves {ds : List (Decoded S)} (hd : ∀ d ∈ ds, d.Coherent) :
    (ds.forM (h.processLeaf delivery)).run.run e =
      (.ok (), (h.processInOrder delivery ds).after e) := by
  induction ds generalizing e with
  | nil => rfl
  | cons d ds ih =>
    obtain ⟨hd, hds⟩ := List.forall_mem_cons.mp hd
    change (h.processLeaf delivery d >>= fun _ => ds.forM (h.processLeaf delivery)).run.run e = _
    rw [ReceivingM.run_bind]
    by_cases hp : e.session.phase = .opened
    · rw [run_processLeaf delivery hp hd, after_processInOrder_of_open delivery hp]
      exact ih hds
    · -- every other leaf finds the session as closed as this one does
      rw [processLeaf, ReceivingM.run_ifOpen_of_not_open hp, after_processInOrder_of_not_open _ hp]
      dsimp only
      rw [ih hds, after_processInOrder_of_not_open _ hp]

variable (hw : h.protocol.codecs.WellFormed)

include hw

/-- At an open session, a payload fails just if its leaves cannot be read, and then nothing happens.
Otherwise they are processed in order. -/
private theorem run_processPayload (hp : e.session.phase = .opened) {d : Decoded S}
    (hd : d.Coherent) : (h.processPayload delivery d).run.run e =
      match h.protocol.codecs.leaves d with
      | .error cause => (.error cause, e)
      | .ok ds => (.ok (), (h.processInOrder delivery ds).after e) := by
  rw [processPayload, ReceivingM.run_ifOpen_of_open hp, Registry.leaves]
  cases hb : d.packet.batch? with
  | none =>
    have hid : d.id ≠ .batch := fun hi => Packet.batch?_eq_none.mp hb (hd.batch.mp hi)
    rw [if_neg hid, run_processLeaf delivery hp hd]
    dsimp only
    rw [after_processInOrder_of_open delivery hp]
    rfl
  | some b =>
    rw [if_pos (hd.batch.mpr (Packet.kind_of_batch? hb)), ReceivingM.run_bind]
    change (ReceivingM.ofExcept (h.protocol.codecs.decodeBatch b) >>= _).run.run e = _
    rw [Registry.decodeBatch_eq_members hw b.frames, ReceivingM.run_bind]
    dsimp only
    cases hm : h.protocol.codecs.members b.frames with
    | error cause => rfl
    | ok ds => exact run_processLeaves delivery (Registry.coherent_of_members hw hm)

/-- A payload put together from chunks is opened as the reference opens it. -/
private theorem run_processDecoded (hp : e.session.phase = .opened) (payload : Bytes) :
    (ReceivingM.ofExcept (h.protocol.codecs.decodePayload payload) >>=
        h.processPayload delivery).run.run e =
      match h.protocol.codecs.payloadLeaves (some payload) with
      | .error cause => (.error cause, e)
      | .ok ds => (.ok (), (h.processInOrder delivery ds).after e) := by
  rw [Registry.decodePayload, Registry.payloadLeaves]
  cases hd : h.protocol.codecs.decode payload with
  | error cause => rfl
  | ok d =>
    have hc := hw.coherent_of_decode hd
    dsimp only
    by_cases hk : d.packet.kind = .chunk
    · rw [if_pos (hc.fragment.mpr hk), if_pos hk]
      rfl
    · rw [if_neg (mt hc.fragment.mp hk), if_neg hk]
      exact run_processPayload delivery hw hp hc

omit hw in
/-- Accepting a chunk answers what the reassembler answers, and leaves the reassembler that it
leaves. -/
theorem run_accept (channel : Channel) (chunk : Chunk) :
    (ReceivingM.accept channel chunk).run.run e =
      ((e.session.reassembler.accept channel chunk).1,
        e.update fun s =>
          { s with reassembler := (e.session.reassembler.accept channel chunk).2 }) := rfl

/-- Processing a packet is opening it to its leaves, which only changes the reassembler, and then
processing these in order. -/
theorem run_processPacket (hp : e.session.phase = .opened) {d : Decoded S} (hd : d.Coherent) :
    (h.processPacket delivery d).run.run e =
      match h.protocol.codecs.unwrap e.session.reassembler delivery.channel d with
      | (.error cause, reassembler) => (.error cause, e.update fun s => { s with reassembler })
      | (.ok ds, reassembler) => (.ok (),
          (h.processInOrder delivery ds).after (e.update fun s => { s with reassembler })) := by
  rw [processPacket, ReceivingM.run_ifOpen_of_open hp, Registry.unwrap]
  cases hc : d.packet.chunk? with
  | none =>
    have hid : d.id ≠ .fragment := fun hi => Packet.chunk?_eq_none.mp hc (hd.fragment.mp hi)
    rw [if_neg hid, run_processPayload delivery hw hp hd]
    dsimp only
    cases h.protocol.codecs.leaves d <;> rfl
  | some chunk =>
    rw [if_pos (hd.fragment.mpr (Packet.kind_of_chunk? hc))]
    change (ReceivingM.accept delivery.channel chunk >>= _).run.run e = _
    rw [ReceivingM.run_bind, run_accept]
    dsimp only
    rcases e.session.reassembler.accept delivery.channel chunk with ⟨_ | _ | payload, reassembler⟩
    · rfl
    · rfl
    · refine (run_processDecoded delivery hw (by exact hp) payload).trans ?_
      dsimp only
      cases h.protocol.codecs.payloadLeaves (some payload) <;> rfl

/-- What arrives at the end of the chain as bytes is read as a whole before any of it is
processed. -/
private theorem run_dispatch (frame : WireFrame) (hp : e.session.phase = .opened) :
    (h.dispatch frame.delivery (.bytes frame.payload)).run.run e =
      match h.protocol.codecs.read e.session.reassembler frame with
      | (.error cause, reassembler) => (.error cause, e.update fun s => { s with reassembler })
      | (.ok ds, reassembler) => (.ok (),
          (h.processInOrder frame.delivery ds).after
            (e.update fun s => { s with reassembler })) := by
  change (ReceivingM.ofExcept (h.protocol.codecs.decode frame.payload) >>= _).run.run e = _
  rw [ReceivingM.run_bind, Registry.read]
  cases hd : h.protocol.codecs.decode frame.payload with
  | error cause => rfl
  | ok d => exact run_processPacket frame.delivery hw hp (hw.coherent_of_decode hd)

/-- Processing a frame is opening what the listeners make of it and processing the leaves, or
failing with the error. -/
theorem after_receive_of_passes {frame : WireFrame} {payload : Bytes}
    (hpass : h.protocol.pipeline.receive frame.delivery (.bytes frame.payload)
      (h.dispatch frame.delivery) = h.dispatch frame.delivery (.bytes payload))
    (hp : e.session.phase = .opened) :
    (h.receive frame).after e =
      match h.protocol.codecs.read e.session.reassembler { frame with payload } with
      | (.error cause, reassembler) =>
        (h.fail cause).after (e.update fun s => { s with reassembler })
      | (.ok ds, reassembler) =>
        (h.processInOrder frame.delivery ds).after (e.update fun s => { s with reassembler }) := by
  have ho : ¬ (!e.session.isOpen) = true := by simp [Session.isOpen, hp]
  have hrun := run_dispatch hw { frame with payload } hp
  have hanswer : SessionM.answer (h.dispatch frame.delivery (.bytes payload)).run e = _ :=
    congrArg Prod.fst hrun
  have hafter : SessionM.after (h.dispatch frame.delivery (.bytes payload)).run e = _ :=
    congrArg Prod.snd hrun
  rw [receive, SessionM.after_bind, SessionM.answer_current, SessionM.after_current, if_neg ho,
    hpass, SessionM.after_bind, hanswer, hafter]
  rcases h.protocol.codecs.read e.session.reassembler { frame with payload } with ⟨_ | _, _⟩ <;> rfl

omit hw in
/-- Without listeners a frame is dispatched as it is. -/
private theorem passes_of_empty (hi : h.protocol.pipeline.inbound = .empty) (payload : Bytes) :
    h.protocol.pipeline.receive delivery (.bytes payload) (h.dispatch delivery) =
      h.dispatch delivery (.bytes payload) := by
  rw [Pipeline.receive, hi]
  rfl

/-- Without listeners, processing a frame is opening it and processing its leaves, or failing with
the error. -/
theorem after_receive (hi : h.protocol.pipeline.inbound = .empty) (frame : WireFrame)
    (hp : e.session.phase = .opened) :
    (h.receive frame).after e =
      match h.protocol.codecs.read e.session.reassembler frame with
      | (.error cause, reassembler) =>
        (h.fail cause).after (e.update fun s => { s with reassembler })
      | (.ok ds, reassembler) =>
        (h.processInOrder frame.delivery ds).after (e.update fun s => { s with reassembler }) :=
  after_receive_of_passes hw (passes_of_empty frame.delivery hi frame.payload) hp

end Host

namespace Application

/-- Processing a received frame at an open session opens it as a whole, which runs nothing and
changes nothing but the reassembler. If that is an error the session fails with it; otherwise the
leaves of the frame are processed in order, up to the first that finds the session not open. -/
theorem receive_eq (a : Application S N X) (hb : a.protocol.Built)
    (hi : a.protocol.pipeline.inbound = .empty) (depth : Nat) (frame : WireFrame)
    (e : Endpoint S N X) (hp : e.session.phase = .opened) :
    (a.perform (depth + 1) (.receive frame)).after e =
      match a.protocol.codecs.read e.session.reassembler frame with
      | (.error cause, reassembler) =>
        ((a.host (a.perform depth)).fail cause).after (e.update fun s => { s with reassembler })
      | (.ok ds, reassembler) =>
        ((a.host (a.perform depth)).processInOrder frame.delivery ds).after
          (e.update fun s => { s with reassembler }) := by
  have hi' : (a.host (a.perform depth)).protocol.pipeline.inbound = .empty := by
    simp only [host, Protocol.map, hi]
    rfl
  exact Host.after_receive (h := a.host (a.perform depth)) hb.wellFormed hi' frame hp

/-- The codec of a kind of packet that says nothing but that it was sent. -/
def signal : Codec Sample.plain (.application .unit) where
  encode := Sample.encode Unit .unit
  decode := Sample.decode Unit .unit

/-- A protocol that knows signals. -/
def registered : Protocol Sample.plain (Script Sample.plain Unit Unit) :=
  { Protocol.initial with
    codecs := ⟨Registry.reserved.entries ++ [⟨⟨1⟩, .application .unit, signal⟩]⟩ }

/-- A protocol that knows signals and has a handler for them. -/
def signals : Protocol Sample.plain (Script Sample.plain Unit Unit) :=
  { registered with handlers := ⟨[(⟨1⟩, ⟨none, fun _ _ => .note ()⟩)]⟩ }

theorem built_signals : signals.Built := by
  have hr : Protocol.initial.register ⟨1⟩ signal = .ok registered := rfl
  have hb : registered.bind ⟨1⟩ ⟨none, fun _ _ => .note ()⟩ = .ok signals := rfl
  exact (Protocol.Built.initial.register hr).bind hb

/-- Connections that take every frame. -/
def taker : Carrier Unit (Script Sample.plain Unit Unit) where
  send _ _ := pure (.ok (.ready (.ok ())))
  disconnect _ _ := pure ()
  isConnected _ := pure true
  address _ _ := none

/-- A session that was opened with a connection. -/
def opened : Endpoint Sample.plain Unit Unit :=
  ((Application.mk signals taker).perform 1 (.openWith 0)).after (.fresh {} ())

/-- A protocol of small messages that knows signals and closes a session when one arrives. -/
def quitting : Protocol Sample.plain (Script Sample.plain Unit Unit) :=
  { registered with
    handlers := ⟨[(⟨1⟩, ⟨none, fun _ _ => .call (.close "enough")⟩)]⟩
    settings := { fragmentThreshold := 16, maxMessage := 64, batching := ⟨2, 64⟩ } }

theorem built_quitting : quitting.Built := by
  have hr : Protocol.initial.register ⟨1⟩ signal = .ok registered := rfl
  have hb : registered.bind ⟨1⟩ ⟨none, fun _ _ => .call (.close "enough")⟩ =
      .ok { quitting with settings := {} } := rfl
  exact ((Protocol.Built.initial.register hr).bind hb).settings quitting.settings

/-- An application of this protocol. -/
def quitter : Application Sample.plain Unit Unit := ⟨quitting, taker⟩

/-- A session of an application, opened with a connection. -/
def begun (a : Application Sample.plain Unit Unit) : Endpoint Sample.plain Unit Unit :=
  (a.perform 1 (.openWith 0)).after (.fresh a.protocol.settings ())

/-- A batch of frames on its way. -/
def batchOf (frames : List Bytes) : WireFrame where
  delivery := ⟨.unset, .reliable⟩
  payload := Varint.encode PacketId.batch.raw ++ Batch.encode ⟨frames⟩

/-- A batch of three signals. -/
def fullBatch : WireFrame := batchOf [[1], [1], [1]]

/-- A batch of two signals with a frame between them that cannot be read. -/
def spoiledBatch : WireFrame := batchOf [[1], [], [1]]

/-- A batch of three packets opens to all of them, and only the first one is handled, since its
handler closes the session. Of a batch with a frame in it that cannot be read, not even the good one
in front is handled: the session fails with the error of reading the other. -/
theorem receive_eq_spoiledBatch :
    let e := quitter.begun
    e.session.phase = .opened ∧
      ((quitter.perform 2 (.receive fullBatch)).after e =
          ((quitter.host (quitter.perform 1)).processInOrder fullBatch.delivery
            (List.replicate 3 ⟨⟨1⟩, ⟨.application .unit, ()⟩⟩)).after e ∧
        ((quitter.perform 2 (.receive fullBatch)).after e).handled.map (·.1) = [⟨1⟩]) ∧
      (quitter.perform 2 (.receive spoiledBatch)).after e =
          ((quitter.host (quitter.perform 1)).fail
            (.malformedPacket none (.unexpectedEnd 1))).after e ∧
        ((quitter.perform 2 (.receive spoiledBatch)).after e).handled.map (·.1) = [] := by
  intro e
  have hreceive (frame : WireFrame) := quitter.receive_eq built_quitting rfl 1 frame e rfl
  exact ⟨rfl, ⟨(hreceive fullBatch).trans rfl, by decide +kernel⟩,
    (hreceive spoiledBatch).trans rfl, by decide +kernel⟩

end Application

end PacketSession
