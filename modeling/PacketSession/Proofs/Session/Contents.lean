import PacketSession.Proofs.Packet.Batch
import PacketSession.Proofs.Packet.Stream
import PacketSession.Proofs.Session.Dispatch
import PacketSession.Proofs.Session.Sending

/-!
# What the frames of a call hold

`Registry.Holds` says which leaves a frame has. The frames of a call to send, single packets or
batches, have exactly the packets of the call for leaves, in order, provided the codecs of the
packets read back what they write. A chunk has the leaves of the frame that it completes, so for
the receiver a frame that came in chunks is as good as one that came whole.
-/

namespace PacketSession

variable {S : Schema}

/-! ### Frames of packets -/

/-- Of a list that was mapped, the first element was mapped, and then the others. -/
theorem mapM_cons_eq_ok {α β ε : Type} {f : α → Except ε β} {a : α} {l : List α} {out : List β}
    (h : (a :: l).mapM f = .ok out) : ∃ b bs, f a = .ok b ∧ l.mapM f = .ok bs ∧ out = b :: bs := by
  rw [List.mapM_cons] at h
  obtain ⟨b, ha, h⟩ := exists_of_bind_eq_ok h
  obtain ⟨bs, hl, h⟩ := exists_of_bind_eq_ok h
  exact ⟨b, bs, ha, hl, (Except.ok.inj h).symm⟩

/-- What came of a list that was mapped came of one of its members. -/
theorem exists_of_mem_of_mapM_eq_ok {α β ε : Type} {f : α → Except ε β} {l : List α}
    {out : List β} (h : l.mapM f = .ok out) : ∀ b ∈ out, ∃ a ∈ l, f a = .ok b := by
  induction l generalizing out with
  | nil =>
    cases h
    simp
  | cons a l ih =>
    obtain ⟨b, bs, ha, hl, rfl⟩ := mapM_cons_eq_ok h
    refine List.forall_mem_cons.mpr ⟨⟨a, List.mem_cons_self, ha⟩, fun b' hb => ?_⟩
    obtain ⟨a', ha', hb'⟩ := ih hl b' hb
    exact ⟨a', List.mem_cons_of_mem a ha', hb'⟩

namespace Registry

variable {r : Registry S}

/-- A packet is of a kind that the application registered, with a codec that reads back exactly
what it writes. -/
def Faithful (r : Registry S) (packet : Packet S) : Prop :=
  ∃ id codec, r.codec? packet.kind = some (id, codec) ∧ id.isReserved = false ∧
    codec.Recovers id packet.content

/-- A packet with the identifier of its kind, if that is registered. -/
def tagged? (r : Registry S) (packet : Packet S) : Option (Decoded S) :=
  (r.idOf? packet.kind).map (⟨·, packet⟩)

/-- The packet of a frame, if it has one. -/
def packet? (r : Registry S) (frame : Bytes) : Option (Decoded S) := (r.decode frame).toOption

/-- A frame that is no chunk has these leaves. -/
def Holds (r : Registry S) (frame : Bytes) (ds : List (Decoded S)) : Prop :=
  ∃ d, r.decode frame = .ok d ∧ d.packet.kind ≠ .chunk ∧ r.leaves d = .ok ds

/-- Frames that are no chunks have these leaves, one frame after the other. -/
inductive HoldsAll (r : Registry S) : List Bytes → List (Decoded S) → Prop
  | nil : HoldsAll r [] []
  | cons {frame : Bytes} {frames : List Bytes} {front back : List (Decoded S)} :
      r.Holds frame front → HoldsAll r frames back → HoldsAll r (frame :: frames) (front ++ back)

/-- A call to send whose packets come back from their frames: their codecs read back what they
write, and batches, which count their members and the bytes of each in signed words, are shorter
than `2 ^ 31` bytes. A packet that is sent by itself may be of any length. -/
structure Returns (r : Registry S) (settings : Settings) (call : Sending S) : Prop where
  /-- Each packet is read back from what its codec writes. -/
  faithful : ∀ packet ∈ call.packets, r.Faithful packet
  /-- The frames of batches are short enough for their numbers. -/
  short : call.IsBatch → ∀ frames, r.framesOf settings call = .ok frames →
    ∀ frame ∈ frames, frame.length < 2 ^ 31

/-- The packets of calls to send, in order, each with its identifier and delivery. -/
def sent (r : Registry S) (calls : List (Sending S)) : List (Decoded S × Delivery) :=
  calls.flatMap fun call => (call.packets.filterMap r.tagged?).map (·, call.delivery)

theorem sent_cons (call : Sending S) (calls : List (Sending S)) :
    r.sent (call :: calls) =
      (call.packets.filterMap r.tagged?).map (·, call.delivery) ++ r.sent calls := rfl

/-- Frames that hold one packet of the application each are the members of a batch. -/
private theorem members_eq {frames : List Bytes}
    (h : ∀ frame ∈ frames, ∃ d, r.decode frame = .ok d ∧ d.IsApplication) :
    r.members frames = .ok (frames.filterMap r.packet?) := by
  induction frames with
  | nil => rfl
  | cons frame frames ih =>
    obtain ⟨⟨d, hd, kind, hk⟩, hframes⟩ := List.forall_mem_cons.mp h
    have he : d.packet.isEnvelope = false := by simp [Packet.isEnvelope, hk]
    have hp : r.packet? frame = some d := by
      rw [packet?, hd]
      rfl
    rw [members, hd, ih hframes, List.filterMap_cons_some hp]
    simp [he]

variable (hw : r.WellFormed)

include hw

theorem decode_chunk {c : Chunk} (hc : c.Fits) {frame : Bytes}
    (he : r.encode (.ofChunk c) = .ok frame) : r.decode frame = .ok ⟨.fragment, .ofChunk c⟩ := by
  have hm : ⟨.fragment, .chunk, .chunk⟩ ∈ r.entries := hw.own (by simp [reserved])
  exact hw.decode_encode (hw.codec?_of_mem hm) (Codec.recovers_of_reads hc.reads _) he

theorem decode_batch {b : Batch} (hb : b.Fits) {frame : Bytes}
    (he : r.encode (.ofBatch b) = .ok frame) : r.decode frame = .ok ⟨.batch, .ofBatch b⟩ := by
  have hm : ⟨.batch, .batch, .batch⟩ ∈ r.entries := hw.own (by simp [reserved])
  exact hw.decode_encode (hw.codec?_of_mem hm) (Codec.recovers_of_reads hb.reads _) he

/-- What a batch is written as is part of its frame. -/
theorem fits_of_encode {b : Batch} {frame : Bytes} (he : r.encode (.ofBatch b) = .ok frame)
    (hs : frame.length < 2 ^ 31) : b.Fits := by
  have hm : ⟨.batch, .batch, .batch⟩ ∈ r.entries := hw.own (by simp [reserved])
  have hf : frame = Varint.encode PacketId.batch.raw ++ b.encode := by
    simp only [encode, Packet.ofBatch, hw.codec?_of_mem hm] at he
    exact (Except.ok.inj he).symm
  refine Batch.fits_of_length ?_
  rw [hf, List.length_append] at hs
  omega

private theorem fits_of_mapM_encode {batches : List Batch} {frames : List Bytes}
    (he : (batches.mapM fun b => r.encode (.ofBatch b)) = .ok frames)
    (hs : ∀ frame ∈ frames, frame.length < 2 ^ 31) : ∀ b ∈ batches, b.Fits := by
  induction batches generalizing frames with
  | nil => simp
  | cons b batches ih =>
    obtain ⟨frame, rest, hf, hfs, rfl⟩ := mapM_cons_eq_ok he
    obtain ⟨hframe, hrest⟩ := List.forall_mem_cons.mp hs
    exact List.forall_mem_cons.mpr ⟨fits_of_encode hw hf hframe, ih hfs hrest⟩

theorem decode_disconnect {reason : String} {frame : Bytes}
    (he : r.encode (.ofDisconnect ⟨reason⟩) = .ok frame) (hs : frame.length < 2 ^ 32) :
    r.decode frame = .ok ⟨.disconnect, .ofDisconnect ⟨reason⟩⟩ := by
  have hm : ⟨.disconnect, .disconnect, .disconnect⟩ ∈ r.entries := hw.own (by simp [reserved])
  have hc := hw.codec?_of_mem hm
  have ht : (Bytes.ofText reason).length < 2 ^ 32 := by
    have hf : frame = Varint.encode PacketId.disconnect.raw ++
        (Varint.encode (UInt32.ofNat (Bytes.ofText reason).length) ++ Bytes.ofText reason) := by
      simp only [encode, Packet.ofDisconnect, hc] at he
      exact (Except.ok.inj he).symm
    rw [hf, List.length_append, List.length_append] at hs
    omega
  have hr : Decoder.Reads Disconnect.decode (Disconnect.encode ⟨reason⟩) ⟨reason⟩ :=
    (Decoder.Reads.text ht).bind_nil (.pure _)
  exact hw.decode_encode hc (Codec.recovers_of_reads hr _) he

/-- A faithful packet is known under an identifier, and is of a kind of the application. -/
theorem isApplication_of_tagged? {packet : Packet S} (hp : r.Faithful packet) {d : Decoded S}
    (ht : r.tagged? packet = some d) : d.IsApplication := by
  obtain ⟨id, codec, hc, hr, -⟩ := hp
  rw [tagged?, idOf?, hc] at ht
  cases ht
  exact (hw.coherent_of_tagged ⟨codec, mem_of_codec? hc⟩).isApplication hr

theorem isApplication_of_mem_tagged {packets : List (Packet S)}
    (hp : ∀ packet ∈ packets, r.Faithful packet) :
    ∀ d ∈ packets.filterMap r.tagged?, d.IsApplication := by
  intro d hd
  obtain ⟨packet, hpacket, ht⟩ := List.mem_filterMap.mp hd
  exact isApplication_of_tagged? hw (hp packet hpacket) ht

/-- A faithful packet comes back from its frame. -/
theorem decode_faithful {packet : Packet S} (hp : r.Faithful packet) {frame : Bytes}
    (he : r.encode packet = .ok frame) :
    ∃ d, r.tagged? packet = some d ∧ r.decode frame = .ok d ∧ d.IsApplication := by
  have hf := hp
  obtain ⟨id, codec, hc, -, hrecovers⟩ := hf
  have ht : r.tagged? packet = some ⟨id, packet⟩ := by
    rw [tagged?, idOf?, hc]
    rfl
  exact ⟨_, ht, hw.decode_encode hc hrecovers he, isApplication_of_tagged? hw hp ht⟩

/-- Faithful packets come back from their frames, in order. -/
private theorem decode_faithfulAll {packets : List (Packet S)}
    (hp : ∀ packet ∈ packets, r.Faithful packet)
    {frames : List Bytes} (he : packets.mapM r.encode = .ok frames) :
    (∀ frame ∈ frames, ∃ d, r.decode frame = .ok d ∧ d.IsApplication) ∧
      frames.filterMap r.packet? = packets.filterMap r.tagged? := by
  induction packets generalizing frames with
  | nil =>
    cases he
    simp
  | cons packet packets ih =>
    obtain ⟨hpacket, hpackets⟩ := List.forall_mem_cons.mp hp
    obtain ⟨frame, rest, hf, hfs, rfl⟩ := mapM_cons_eq_ok he
    obtain ⟨d, ht, hd, ha⟩ := decode_faithful hw hpacket hf
    obtain ⟨hrest, heq⟩ := ih hpackets hfs
    have hq : r.packet? frame = some d := by
      rw [packet?, hd]
      rfl
    exact ⟨List.forall_mem_cons.mpr ⟨⟨d, hd, ha⟩, hrest⟩,
      by rw [List.filterMap_cons_some hq, List.filterMap_cons_some ht, heq]⟩

omit hw in
/-- The frame of a packet of the application has this packet for its only leaf. -/
theorem holds_application {frame : Bytes} {d : Decoded S} (hd : r.decode frame = .ok d)
    (ha : d.IsApplication) : r.Holds frame [d] := by
  obtain ⟨kind, hk⟩ := ha
  have hb : d.packet.batch? = none := Packet.batch?_eq_none.mpr (by simp [hk])
  refine ⟨d, hd, by simp [hk], ?_⟩
  rw [leaves, hb]

/-- The frames of batches have the packets of all their members for leaves. -/
private theorem holdsAll_batches {batches : List Batch} (hb : ∀ b ∈ batches, b.Fits)
    (hm : ∀ b ∈ batches, ∀ member ∈ b.frames, ∃ d, r.decode member = .ok d ∧ d.IsApplication)
    {frames : List Bytes} (he : (batches.mapM fun b => r.encode (.ofBatch b)) = .ok frames) :
    r.HoldsAll frames ((batches.flatMap Batch.frames).filterMap r.packet?) := by
  induction batches generalizing frames with
  | nil =>
    cases he
    exact .nil
  | cons b batches ih =>
    obtain ⟨hfirst, hrest⟩ := List.forall_mem_cons.mp hb
    obtain ⟨hmembers, hothers⟩ := List.forall_mem_cons.mp hm
    obtain ⟨frame, rest, hf, hfs, rfl⟩ := mapM_cons_eq_ok he
    have hd := decode_batch hw hfirst hf
    rw [List.flatMap_cons, List.filterMap_append]
    exact .cons ⟨_, hd, by simp [Packet.ofBatch], members_eq hmembers⟩ (ih hrest hothers hfs)

/-- The frames of batches that packets were packed into have these packets for leaves. -/
theorem holdsAll_pack {limits : BatchLimits} {packets : List (Packet S)}
    (hp : ∀ packet ∈ packets, r.Faithful packet) {members : List Bytes}
    (hm : packets.mapM r.encode = .ok members) (hb : ∀ b ∈ Batch.pack limits members, b.Fits)
    {frames : List Bytes}
    (he : ((Batch.pack limits members).mapM fun b => r.encode (.ofBatch b)) = .ok frames) :
    r.HoldsAll frames (packets.filterMap r.tagged?) := by
  obtain ⟨hd, heq⟩ := decode_faithfulAll hw hp hm
  have hpack := Batch.flatMap_pack limits members
  -- packing keeps the frames, so a member of a batch is the frame of one of the packets
  have hall := holdsAll_batches hw hb (fun b hb member hmember => hd member (by
    rw [← hpack]
    exact List.mem_flatMap.mpr ⟨b, hb, hmember⟩)) he
  rwa [hpack, heq] at hall

/-- The frames of a call to send have exactly its packets for leaves, in order. -/
theorem holdsAll_framesOf {settings : Settings} {call : Sending S} {frames : List Bytes}
    (he : r.framesOf settings call = .ok frames) (hp : ∀ packet ∈ call.packets, r.Faithful packet)
    (hs : call.IsBatch → ∀ frame ∈ frames, frame.length < 2 ^ 31) :
    r.HoldsAll frames (call.packets.filterMap r.tagged?) := by
  cases call with
  | single packet delivery =>
    rw [Sending.packets, List.forall_mem_singleton] at hp
    obtain ⟨frame, hf, he⟩ := exists_of_bind_eq_ok he
    cases he
    obtain ⟨d, ht, hd, ha⟩ := decode_faithful hw hp hf
    rw [Sending.packets, List.filterMap_cons_some ht]
    exact .cons (holds_application hd ha) .nil
  | batch packets delivery =>
    obtain ⟨members, hm, he⟩ := exists_of_bind_eq_ok he
    exact holdsAll_pack hw hp hm (fits_of_mapM_encode hw he (hs trivial)) he

/-! ### Opening what arrives -/

omit hw in
/-- A frame that is no chunk is opened at once. -/
theorem Holds.read {frame : Bytes} {ds : List (Decoded S)} (h : r.Holds frame ds)
    (reassembler : Reassembler) (delivery : Delivery) :
    r.read reassembler ⟨delivery, frame⟩ = (.ok ds, reassembler) := by
  obtain ⟨d, hd, hk, hl⟩ := h
  rw [Registry.read, hd]
  dsimp only
  rw [unwrap, Packet.chunk?_eq_none.mpr hk, hl]

omit hw in
/-- A frame that came in chunks is opened once it is complete. -/
theorem Holds.payloadLeaves {frame : Bytes} {ds : List (Decoded S)} (h : r.Holds frame ds) :
    r.payloadLeaves (some frame) = .ok ds := by
  obtain ⟨d, hd, hk, hl⟩ := h
  rw [Registry.payloadLeaves, hd]
  dsimp only
  rw [if_neg hk, hl]

/-- The frame of a chunk gives the leaves of what the chunk completes. -/
theorem read_chunk {c : Chunk} (hc : c.Fits) {frame : Bytes}
    (he : r.encode (.ofChunk c) = .ok frame) {reassembler reassembler' : Reassembler}
    {delivery : Delivery} {payload : Option Bytes}
    (ha : reassembler.accept delivery.channel c = (.ok payload, reassembler')) :
    r.read reassembler ⟨delivery, frame⟩ = (r.payloadLeaves payload, reassembler') := by
  rw [Registry.read, decode_chunk hw hc he]
  simp only [unwrap, Packet.chunk?, Packet.ofChunk, ha]

end Registry

end PacketSession
