import PacketSession.Proofs.Packet.Tables
import PacketSession.Proofs.Session.Dispatch
import PacketSession.Proofs.Session.Growth

/-!
# Handlers get what they are for

A packet reaches a handler from the bytes of a frame, from a listener that put it in the place of
one, from a batch or from a payload that came in chunks. By each of these ways it is of the kind
registered under its identifier, since the codecs of a protocol never clash. So a handler is only
run with packets of that kind, and never with one of the protocol's own; a handler that is bound
for that kind drops nothing; and the packets under the reserved identifiers always hold what they
are expected to (`Application.typeSound`).
-/

namespace PacketSession

variable {S : Schema} {N X : Type}

/-! ### Leaves are of the kind under their identifier -/

namespace Registry

variable {r : Registry S}

/-- A packet that is given the identifier of its kind is tagged with it. -/
private theorem tagged_of_idOf? {packet : Packet S} {id : PacketId}
    (h : r.idOf? packet.kind = some id) : r.Tagged ⟨id, packet⟩ := by
  obtain ⟨⟨id', codec⟩, hc, rfl⟩ := Option.map_eq_some_iff.mp h
  exact ⟨codec, mem_of_codec? hc⟩

/-- The members of a batch are decoded one by one, so each is tagged. -/
private theorem tagged_of_members {frames : List Bytes} {ds : List (Decoded S)}
    (h : r.members frames = .ok ds) : ∀ d ∈ ds, r.Tagged d := by
  intro d hd
  obtain ⟨frame, -, hdec⟩ := exists_decode_of_members h d hd
  exact tagged_of_decode hdec

/-- The leaves of a packet are the packet itself or the members that it holds. -/
private theorem tagged_of_leaves {d : Decoded S} (hd : r.Tagged d) {ds : List (Decoded S)}
    (h : r.leaves d = .ok ds) : ∀ d ∈ ds, r.Tagged d := by
  unfold leaves at h
  split at h
  · exact tagged_of_members h
  · cases h
    simpa using hd

/-- What a completed payload holds was decoded, and is tagged because of that; without a payload
there are no leaves. -/
private theorem tagged_of_payloadLeaves {payload : Option Bytes} {ds : List (Decoded S)}
    (h : r.payloadLeaves payload = .ok ds) : ∀ d ∈ ds, r.Tagged d := by
  unfold payloadLeaves at h
  split at h
  · cases h
    simp
  split at h
  · cases h
  rename_i d hd
  split at h
  · cases h
  · exact tagged_of_leaves (tagged_of_decode hd) h

/-- A payload is decoded like a frame, so its packet is tagged. -/
private theorem tagged_of_decodePayload {payload : Bytes} {d : Decoded S}
    (h : r.decodePayload payload = .ok d) : r.Tagged d := by
  unfold decodePayload at h
  split at h
  · cases h
  rename_i d' hd
  split at h
  · cases h
  · cases h
    exact tagged_of_decode hd

/-- Whatever a packet is opened to is of the kind under its identifier if the packet is. -/
private theorem tagged_of_unwrap {d : Decoded S} (hd : r.Tagged d)
    {reassembler reassembler' : Reassembler} {channel : Channel} {ds : List (Decoded S)}
    (h : r.unwrap reassembler channel d = (.ok ds, reassembler')) : ∀ d ∈ ds, r.Tagged d := by
  unfold unwrap at h
  split at h
  · exact tagged_of_leaves hd (congrArg Prod.fst h)
  split at h
  · cases h
  · exact tagged_of_payloadLeaves (congrArg Prod.fst h)

end Registry

/-! ### Processing leaves -/

namespace Host

open Endpoint

variable {R : Endpoint S N X → Endpoint S N X → Prop} [IsPreorder (Endpoint S N X) R]
  {h : Host S N X}

/-- What listeners pass on is of the kind under its identifier, also if it never was in a frame. -/
theorem tagged_of_decodeMessage {message : Message S} {d : Decoded S}
    (hd : h.decodeMessage message = .ok d) : h.protocol.codecs.Tagged d := by
  match message with
  | .bytes frame => exact Registry.tagged_of_decode hd
  | .packet packet =>
    obtain hn | ⟨id, hi⟩ := Option.eq_none_or_eq_some (h.protocol.codecs.idOf? packet.kind)
    · rw [decodeMessage, hn] at hd
      cases hd
    · rw [decodeMessage, hi] at hd
      cases hd
      exact Registry.tagged_of_idOf? hi

/-- Packets that are processed one after the other follow what each of them does. -/
private theorem follows_processInOrder {delivery : Delivery} {ds : List (Decoded S)}
    (hd : ∀ d ∈ ds, (h.processOne delivery d).Follows R) :
    (h.processInOrder delivery ds).Follows R := by
  induction ds with
  | nil => exact .pure ()
  | cons d ds ih =>
    obtain ⟨hone, hrest⟩ := List.forall_mem_cons.mp hd
    refine .bind .current fun s => ?_
    split
    · exact .pure ()
    · exact .bind hone fun _ => ih hrest

variable (ha : Allowed R) (hc : h.CallbacksFollow R) (hw : h.protocol.codecs.WellFormed)
  (hone : ∀ delivery d, h.protocol.codecs.Tagged d → (h.processOne delivery d).Follows R)

include ha hw hone

/-- A tagged packet has tagged leaves, and these are all that handlers are given. -/
private theorem follows_processPacket_of_tagged (delivery : Delivery) {d : Decoded S}
    (hd : h.protocol.codecs.Tagged d) : (h.processPacket delivery d).Follows R := by
  intro e
  by_cases hp : e.session.phase = .opened
  · rw [SessionM.after, run_processPacket delivery hw hp (hw.coherent_of_tagged hd)]
    rcases hu : h.protocol.codecs.unwrap e.session.reassembler delivery.channel d with
      ⟨cause | ds, reassembler⟩
    · exact ha.updates e fun s => { s with reassembler }
    · have hds := Registry.tagged_of_unwrap hd hu
      have hleaves : (h.processInOrder delivery ds).Follows R :=
        follows_processInOrder fun d hd => hone delivery d (hds d hd)
      exact IsTrans.trans _ _ _ (ha.updates e fun s => { s with reassembler }) (hleaves _)
  · rw [processPacket, SessionM.after, ReceivingM.run_ifOpen_of_not_open hp]
    exact Std.Refl.refl e

/-- A frame is decoded before it is processed, and a packet that a listener put in its place gets
the identifier of its kind. -/
private theorem follows_dispatch_of_tagged (delivery : Delivery) (message : Message S) :
    (h.dispatch delivery message).Follows R := by
  rw [dispatch]
  rcases hm : h.decodeMessage message with cause | d
  · exact .throw cause
  · exact follows_processPacket_of_tagged ha hw hone delivery (tagged_of_decodeMessage hm)

include hc

/-- Receiving a frame gives handlers nothing but tagged packets. -/
private theorem follows_receive_of_tagged (ht : h.Transmits R) (frame : WireFrame) :
    (h.receive frame).Follows R := by
  refine .bind .current fun s => ?_
  split
  · exact .pure ()
  · refine .bind ?_ fun result => ?_
    · refine ReceivingM.Follows.bind
        (Pipeline.follows_receiveThrough frame.delivery _ hc.inbound _) fun passed => ?_
      split
      · exact follows_dispatch_of_tagged ha hw hone frame.delivery _
      · exact .pure ()
    · split
      · exact .pure ()
      · exact follows_fail ha hc ht _

end Host

/-! ### What handlers are run with -/

/-- The packet under an identifier, `kind`, is the one registered for it. -/
def Registry.IsRegistered (r : Registry S) (id : PacketId) (kind : PacketKind S.Kind) : Prop :=
  (r.entry? id).map (·.kind) = some kind

/-- If an entry is the start of a handler, then the identifier of the handler is not reserved, and
the packet is one of the application and of the kind registered under that identifier. -/
def Entry.WellTyped (r : Registry S) : Entry S N → Prop
  | .seen (.handling id packet _) =>
    r.IsRegistered id packet.kind ∧ id.isReserved = false ∧
      ∃ kind, packet.kind = .application kind
  | _ => True

namespace Registry

variable {r : Registry S}

/-- A tag is an identifier under which the kind of the packet is registered. -/
private theorem WellFormed.isRegistered (hw : r.WellFormed) {d : Decoded S} (hd : r.Tagged d) :
    r.IsRegistered d.id d.packet.kind := by
  obtain ⟨codec, he⟩ := hd
  have hi := hw.entry?_of_mem he
  dsimp only at hi
  rw [IsRegistered, hi, Option.map_some]

/-- Every entry but the start of a handler is well typed, whatever it is about, so only handlers
have to be looked at. -/
private theorem allowed_wellTyped (r : Registry S) :
    Endpoint.Allowed (Endpoint.Grows (Entry.WellTyped r) :
      Endpoint S N X → Endpoint S N X → Prop) := by
  refine Endpoint.allowed_grows (fun _ => trivial) fun event h => ?_
  match event, h with
  | .opened _, _ | .failed _ _, _ | .closed _, _ | .announcing _, _ | .disconnecting _ _, _
  | .note _, _ => trivial

end Registry

namespace Host

open Endpoint

variable {h : Host S N X}

/-- A leaf of the kind under its identifier is handled by a handler for this kind. -/
private theorem wellTyped_processOne (hw : h.protocol.codecs.WellFormed)
    (hc : h.CallbacksFollow (Grows (Entry.WellTyped h.protocol.codecs)))
    (hf : ∀ entry ∈ h.protocol.handlers.entries, entry.1.isReserved = false)
    (delivery : Delivery) (d : Decoded S) (hd : h.protocol.codecs.Tagged d) :
    (h.processOne delivery d).Follows (Grows (Entry.WellTyped h.protocol.codecs)) := by
  have ha := h.protocol.codecs.allowed_wellTyped (N := N) (X := X)
  rw [processOne]
  split
  · exact follows_peerDisconnected ha hc _
  split
  case h_2 => exact .pure ()
  case h_1 handler hg =>
    have hm := HandlerTable.mem_of_get? hg
    have hr := hf _ hm
    have happ := (hw.coherent_of_tagged hd).isApplication hr
    rw [Handler.invoke]
    split
    · refine .bind (fun e => .of_journal_eq_cons rfl ?_) fun _ => hc.handler _ hm _ _
      exact ⟨hw.isRegistered hd, hr, happ⟩
    · exact .pure ()

end Host

/-! ### Branches that nothing reaches -/

/-- What might be done where a packet under a reserved identifier does not hold what it should, and
where a handler for the kind registered under its identifier does not take a packet. -/
structure Strays (S : Schema) (N X : Type) where
  /-- A packet does not hold what it should. -/
  envelope : {α : Type} → Packet S → ReceivingM S N X α
  /-- A handler does not take a packet. -/
  mismatch : Decoded S → SessionM S N X Unit

namespace Strays

/-- What sessions do there: they refuse the packet, and they drop it. -/
def own : Strays S N X where
  envelope p := throw (.unknownPacketType p.typeName)
  mismatch _ := pure ()

/-- What a packet under a reserved identifier holds. -/
def expect {α : Type} (strays : Strays S N X) (p : Packet S) :
    Option α → ReceivingM S N X α
  | some a => pure a
  | none => strays.envelope p

end Strays

namespace Host

variable (h : Host S N X) (strays : Strays S N X)

/-- Runs a handler on a packet. -/
def invokeOr (handler : Handler S (SessionM S N X)) (delivery : Delivery) (d : Decoded S) :
    SessionM S N X Unit := do
  if handler.takes d.packet.kind then
    SessionM.record (.handling d.id d.packet delivery)
    handler.run d.packet delivery
  else if handler.accepts = (h.protocol.codecs.entry? d.id).map (·.kind) then
    strays.mismatch d

/-- Processes an announcement or a packet of the application. -/
def processLeafOr (delivery : Delivery) (d : Decoded S) : ReceivingM S N X Unit := do
  if !(← (SessionM.current : SessionM S N X _)).isOpen then return ()
  if d.id = .disconnect then
    let announcement ← strays.expect d.packet d.packet.disconnect?
    (h.peerDisconnected announcement.reason : SessionM S N X Unit)
  else
    match h.protocol.handlers.get? d.id with
    | some handler => (h.invokeOr strays handler delivery d : SessionM S N X Unit)
    | none => return ()

/-- Processes a batch or a leaf. -/
def processPayloadOr (delivery : Delivery) (d : Decoded S) : ReceivingM S N X Unit := do
  if !(← (SessionM.current : SessionM S N X _)).isOpen then return ()
  if d.id = .batch then
    let batch ← strays.expect d.packet d.packet.batch?
    let packets ← ReceivingM.ofExcept (h.protocol.codecs.decodeBatch batch)
    packets.forM (h.processLeafOr strays delivery)
  else
    h.processLeafOr strays delivery d

/-- Processes any packet. -/
def processPacketOr (delivery : Delivery) (d : Decoded S) : ReceivingM S N X Unit := do
  if !(← (SessionM.current : SessionM S N X _)).isOpen then return ()
  if d.id = .fragment then
    let chunk ← strays.expect d.packet d.packet.chunk?
    match ← ReceivingM.accept delivery.channel chunk with
    | some payload =>
      h.processPayloadOr strays delivery
        (← ReceivingM.ofExcept (h.protocol.codecs.decodePayload payload))
    | none => return ()
  else
    h.processPayloadOr strays delivery d

/-- Processes a message that passed all listeners. -/
def dispatchOr (delivery : Delivery) (message : Message S) : ReceivingM S N X Unit := do
  h.processPacketOr strays delivery (← ReceivingM.ofExcept (h.decodeMessage message))

/-- Processes a frame from the connection as a session does, but for what `strays` does. -/
def receiveOr (frame : WireFrame) : SessionM S N X Unit := do
  if !(← SessionM.current).isOpen then return ()
  let result ← (h.protocol.pipeline.receive frame.delivery (.bytes frame.payload)
    (h.dispatchOr strays frame.delivery)).run
  match result with
  | .ok () => return ()
  | .error e => h.fail e

variable {h} {strays}

private theorem expect_own {α : Type} (p : Packet S) (content : Option α) :
    (Strays.own : Strays S N X).expect p content = ReceivingM.ofExcept (p.expect content) := by
  match content with
  | some a => rfl
  | none => rfl

private theorem invokeOr_own (handler : Handler S (SessionM S N X)) (delivery : Delivery)
    (d : Decoded S) : h.invokeOr .own handler delivery d = handler.invoke delivery d := by
  rw [invokeOr, Handler.invoke]
  split_ifs <;> rfl

/-- With what sessions do there, frames are processed as sessions do. -/
private theorem receiveOr_own (frame : WireFrame) : h.receiveOr .own frame = h.receive frame := by
  have hleaf : h.processLeafOr .own = h.processLeaf := by
    funext delivery d
    simp only [processLeafOr, expect_own, invokeOr_own]
    rfl
  have hpayload : h.processPayloadOr .own = h.processPayload := by
    funext delivery d
    simp only [processPayloadOr, processPayload, expect_own, hleaf]
  have hpacket : h.processPacketOr .own = h.processPacket := by
    funext delivery d
    simp only [processPacketOr, expect_own, hpayload]
    rfl
  have hdispatch : h.dispatchOr .own = h.dispatch := by
    funext delivery message
    rw [dispatchOr, dispatch, hpacket]
  rw [receiveOr, hdispatch]
  rfl

/-- A packet under a reserved identifier holds what it should. -/
theorem expect_of_isSome {α : Type} (strays : Strays S N X) (p : Packet S) {content : Option α}
    (hs : content.isSome) : strays.expect p content = Strays.own.expect p content := by
  obtain ⟨a, rfl⟩ := Option.isSome_iff_exists.mp hs
  rfl

/-- What goes on behind a result only matters where there is one. -/
private theorem bind_ofExcept_congr {α : Type} {x : Except ProtocolError α}
    {f g : α → ReceivingM S N X Unit} (hfg : ∀ a, x = .ok a → f a = g a) :
    ReceivingM.ofExcept x >>= f = ReceivingM.ofExcept x >>= g := by
  match x with
  | .ok a => exact hfg a rfl
  | .error cause => rfl

variable (strays) (hw : h.protocol.codecs.WellFormed) (delivery : Delivery) {d : Decoded S}
  (hd : h.protocol.codecs.Tagged d)

include hw

section

include hd

/-- A handler that is bound for the kind registered under its identifier takes every packet. -/
private theorem invokeOr_eq (handler : Handler S (SessionM S N X)) :
    h.invokeOr strays handler delivery d = h.invokeOr .own handler delivery d := by
  rw [invokeOr, invokeOr, hw.isRegistered hd]
  split_ifs with htakes haccepts
  · rfl
  · simp [Handler.takes, haccepts] at htakes
  · rfl

/-- A tagged leaf never strays, so it makes no difference what strays come to. -/
private theorem processLeafOr_eq :
    h.processLeafOr strays delivery d = h.processLeafOr .own delivery d := by
  have hc := hw.coherent_of_tagged hd
  by_cases hid : d.id = .disconnect
  · have hs : d.packet.disconnect?.isSome := by
      rw [Option.isSome_iff_ne_none]
      exact fun hn => Packet.disconnect?_eq_none.mp hn (hc.disconnect.mp hid)
    simp only [processLeafOr, if_pos hid, expect_of_isSome strays d.packet hs]
  · simp only [processLeafOr, if_neg hid, invokeOr_eq strays hw delivery hd]

/-- Nor does a tagged batch, whose members are tagged. -/
private theorem processPayloadOr_eq :
    h.processPayloadOr strays delivery d = h.processPayloadOr .own delivery d := by
  have hc := hw.coherent_of_tagged hd
  by_cases hid : d.id = .batch
  · have hs : d.packet.batch?.isSome := by
      rw [Option.isSome_iff_ne_none]
      exact fun hn => Packet.batch?_eq_none.mp hn (hc.batch.mp hid)
    have hmembers : ∀ b, (ReceivingM.ofExcept (h.protocol.codecs.decodeBatch b) >>= fun packets =>
        packets.forM (h.processLeafOr strays delivery)) =
        (ReceivingM.ofExcept (h.protocol.codecs.decodeBatch b) >>= fun packets =>
        packets.forM (h.processLeafOr .own delivery)) := by
      intro b
      refine bind_ofExcept_congr fun packets hp => forM_congr fun d hd => ?_
      rw [Registry.decodeBatch_eq_members hw b.frames] at hp
      exact processLeafOr_eq strays hw delivery (Registry.tagged_of_members hp d hd)
    simp only [processPayloadOr, if_pos hid, expect_of_isSome strays d.packet hs, hmembers]
  · simp only [processPayloadOr, if_neg hid, processLeafOr_eq strays hw delivery hd]

/-- Nor does a tagged chunk, whose payload is decoded and tagged again. -/
private theorem processPacketOr_eq :
    h.processPacketOr strays delivery d = h.processPacketOr .own delivery d := by
  have hc := hw.coherent_of_tagged hd
  by_cases hid : d.id = .fragment
  · have hs : d.packet.chunk?.isSome := by
      rw [Option.isSome_iff_ne_none]
      exact fun hn => Packet.chunk?_eq_none.mp hn (hc.fragment.mp hid)
    have hpayload : ∀ payload,
        ReceivingM.ofExcept (h.protocol.codecs.decodePayload payload) >>=
          h.processPayloadOr strays delivery =
        ReceivingM.ofExcept (h.protocol.codecs.decodePayload payload) >>=
          h.processPayloadOr .own delivery := by
      intro payload
      exact bind_ofExcept_congr fun d hp =>
        processPayloadOr_eq strays hw delivery (Registry.tagged_of_decodePayload hp)
    simp only [processPacketOr, if_pos hid, expect_of_isSome strays d.packet hs, hpayload]
  · simp only [processPacketOr, if_neg hid, processPayloadOr_eq strays hw delivery hd]

end

/-- Whatever message reaches the end of the chain, its packet is tagged and does not stray. -/
private theorem dispatchOr_eq (message : Message S) :
    h.dispatchOr strays delivery message = h.dispatchOr .own delivery message :=
  bind_ofExcept_congr fun _ hd => processPacketOr_eq strays hw delivery (tagged_of_decodeMessage hd)

/-- Whatever is done there, frames are processed as sessions do: nothing ever gets there. -/
private theorem receiveOr_eq (frame : WireFrame) : h.receiveOr strays frame = h.receive frame := by
  have hdispatch : h.dispatchOr strays frame.delivery = h.dispatchOr .own frame.delivery :=
    funext fun message => dispatchOr_eq strays hw frame.delivery message
  rw [← receiveOr_own, receiveOr, hdispatch, receiveOr]

end Host

namespace Application

open Endpoint

/-- Whatever is called, and to whatever depth the calls of callbacks nest, handlers are only run
with packets that they are for. -/
private theorem wellTyped_perform (a : Application S N X) (hb : a.protocol.Built) :
    ∀ depth request,
      (a.perform depth request).Follows (Grows (Entry.WellTyped a.protocol.codecs)) := by
  have hf : ∀ depth, ∀ entry ∈ (a.host (a.perform depth)).protocol.handlers.entries,
      entry.1.isReserved = false := by
    intro depth entry he
    obtain ⟨original, ho, rfl⟩ := List.mem_map.mp he
    exact hb.isReserved_handlers original ho
  have ha := a.protocol.codecs.allowed_wellTyped (N := N) (X := X)
  refine a.follows_perform ha (fun depth hc => ?_) fun depth hc ht => ?_
  · exact Host.transmits_of_records hc fun _ _ _ _ => .of_journal_eq_cons rfl trivial
  · exact Host.follows_receive_of_tagged ha hc hb.wellFormed
      (Host.wellTyped_processOne hb.wellFormed hc (hf depth)) ht

/-- In a protocol that was put together, with any listeners: whatever is called, and to whatever
depth the calls of callbacks nest, a handler is only run with a packet of the kind registered under
its identifier, which is not reserved, and with a packet of the application. When a frame is
processed, no packet under a reserved identifier fails to hold what it should, and no handler for
the kind registered under its identifier drops a packet: it makes no difference what is done
there. -/
theorem typeSound (a : Application S N X) (hb : a.protocol.Built) (depth : Nat) :
    (∀ request (e : Endpoint S N X), ∃ entries,
        ((a.perform depth request).after e).journal = entries ++ e.journal ∧
          ∀ entry ∈ entries, entry.WellTyped a.protocol.codecs) ∧
      ∀ strays frame, (a.host (a.perform depth)).receiveOr strays frame =
        (a.host (a.perform depth)).receive frame :=
  ⟨a.wellTyped_perform hb depth, fun strays frame => Host.receiveOr_eq strays hb.wellFormed frame⟩

/-- A protocol that knows one kind of packet. -/
def knowing : Protocol Sample.plain (Script Sample.plain Unit Unit) :=
  { Protocol.initial with
    codecs := ⟨Registry.reserved.entries ++ [Registry.sampleCall ⟨1⟩ .unit]⟩ }

/-- A handler for this kind of packet. -/
def forUnit : Handler Sample.plain (Script Sample.plain Unit Unit) :=
  ⟨some (.application .unit), fun _ _ => .note ()⟩

/-- A listener that puts a batch of such a packet in the place of whatever arrives. -/
def batchingUnit : InboundListener Sample.plain (Script Sample.plain Unit Unit) :=
  fun _ _ => return some (.packet (.ofBatch ⟨[[1]]⟩))

/-- A protocol with this handler and this listener. -/
def substituting : Protocol Sample.plain (Script Sample.plain Unit Unit) :=
  { knowing with
    handlers := ⟨[(⟨1⟩, forUnit)]⟩
    pipeline := ⟨⟨[("batching", batchingUnit)]⟩, .empty⟩ }

private theorem built_substituting : substituting.Built := by
  have hr : Protocol.initial.register ⟨1⟩ (Registry.sampleCall ⟨1⟩ .unit).codec = .ok knowing := rfl
  have hb : knowing.bind ⟨1⟩ forUnit = .ok { knowing with handlers := ⟨[(⟨1⟩, forUnit)]⟩ } := rfl
  have hl : Protocol.addInbound { knowing with handlers := ⟨[(⟨1⟩, forUnit)]⟩ } "batching"
      batchingUnit .last = .ok substituting := rfl
  exact ((Protocol.Built.initial.register hr).bind hb).addInbound hl

/-- Bytes that are the frame of no packet. -/
def replaced : WireFrame := ⟨⟨.unset, .reliable⟩, []⟩

/-- What is put in the place of these bytes reaches the handler, and it is what the handler is
for. -/
theorem typeSound_substituting :
    let a : Application Sample.plain Unit Unit := ⟨substituting, unconnected.carrier⟩
    let e := (a.perform 1 (.openWith 0)).after (.fresh {} ())
    Entry.seen (.handling ⟨1⟩ (⟨.application .unit, ()⟩ : Packet Sample.plain) replaced.delivery) ∈
        ((a.perform 1 (.receive replaced)).after e).journal ∧
      (∃ entries, ((a.perform 1 (.receive replaced)).after e).journal = entries ++ e.journal ∧
        ∀ entry ∈ entries, entry.WellTyped substituting.codecs) ∧
      ∀ strays, (a.host (a.perform 1)).receiveOr strays replaced =
        (a.host (a.perform 1)).receive replaced := by
  intro a e
  obtain ⟨hgrows, hstrays⟩ := a.typeSound built_substituting 1
  have hj : ((a.perform 1 (.receive replaced)).after e).journal =
      [.seen (.note ()), .seen (.handling ⟨1⟩ ⟨.application .unit, ()⟩ replaced.delivery),
        .seen (.opened .opened), .turned .opens] := rfl
  refine ⟨?_, hgrows _ _, fun strays => hstrays strays replaced⟩
  rw [hj]
  exact List.mem_cons_of_mem _ List.mem_cons_self

end Application

end PacketSession
