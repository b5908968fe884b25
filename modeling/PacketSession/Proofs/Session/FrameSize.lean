import PacketSession.Proofs.Compression.RoundTrip
import PacketSession.Proofs.Connection.Framing
import PacketSession.Proofs.Packet.Chunk
import PacketSession.Proofs.Session.Delivery
import PacketSession.Proofs.Session.Growth

/-!
# Frames are never too large for the transport

Settings that are consistent leave room in the largest frame of the transport for a full chunk with
its identifier and its headers, and for one byte more. So a chain that lengthens a frame by at most
one byte never makes one that the transport refuses: not a frame that goes out whole, not the first
chunk of one, and not an announcement (`Application.fitsTransport`). Compression is such a chain,
since a frame that does not get shorter is stored behind one byte.
-/

namespace PacketSession

variable {S : Schema} {N X : Type}

/-! ### Sizes -/

private theorem Varint.length_encode_le (n : UInt32) : (encode n).length ≤ maxLength :=
  length_groups_le _ _

/-- A chunk adds at most the header of a first chunk to its data. -/
theorem Chunk.length_encode_le (c : Chunk) :
    c.encode.length ≤ firstHeaderSize + c.data.length := by
  rw [length_encode, firstHeaderSize, headerSize]
  split <;> omega

theorem Fragmenter.length_data_le (f : Fragmenter) {payload : Bytes} {chunks : List Chunk}
    (hs : f.split payload = .ok chunks) {c : Chunk} (hc : c ∈ chunks) :
    c.data.length ≤ f.chunkSize := by
  obtain ⟨index, -, rfl⟩ := f.exists_of_mem_split hs hc
  exact List.length_take_le _ _

theorem Fragmenter.chunkSize_ofSize_le {wanted : Nat} (h : 0 < wanted) :
    (ofSize wanted).chunkSize ≤ wanted := by
  simp only [ofSize]
  omega

/-- The frame of a chunk is at most an identifier and a header longer than its data. -/
theorem Registry.length_le_of_encode_chunk {r : Registry S} (hw : r.WellFormed) {c : Chunk}
    {frame : Bytes} (he : r.encode (.ofChunk c) = .ok frame) :
    frame.length ≤ Varint.maxLength + Chunk.firstHeaderSize + c.data.length := by
  have hm : ⟨.fragment, .chunk, .chunk⟩ ∈ r.entries := hw.own (by simp [reserved])
  have hcodec := hw.codec?_of_mem hm
  obtain rfl : Varint.encode PacketId.fragment.raw ++ c.encode = frame := by
    simp only [encode, Packet.ofChunk, hcodec] at he
    exact Except.ok.inj he
  have hid := Varint.length_encode_le PacketId.fragment.raw
  have hchunk := c.length_encode_le
  rw [List.length_append]
  omega

/-- A compressed frame is at most one byte longer than the frame. -/
private theorem Compression.length_le_of_compress {c : Compression} {frame encoded : Bytes}
    (h : c.compress frame = .ok encoded) :
    encoded.length ≤ frame.length + Settings.listenerHeadroom := by
  unfold compress at h
  split at h
  · cases h
    exact le_rfl
  · split at h
    · exact nomatch h
    · split at h
      next hshort =>
        cases h
        exact Nat.succ_le_succ hshort.le
      next =>
        cases h
        exact le_rfl

/-- What consistent settings leave room for. -/
theorem Settings.room_of_validate {s : Settings} (h : s.validate = .ok ()) :
    0 < s.fragmentThreshold ∧ s.fragmentThreshold + fragmentOverhead ≤ s.maxFrame := by
  unfold validate at h
  split at h
  · exact nomatch h
  · split at h
    · exact nomatch h
    · split at h
      · exact nomatch h
      · omega

/-! ### Chains -/

/-- What comes out of the outbound chain is bytes, at most as many more than go in as a listener
may add. -/
def Host.Slim (h : Host S N X) : Prop :=
  ∀ delivery frame (e : Endpoint S N X) outputs,
    SessionM.answer (h.protocol.pipeline.send delivery (.bytes frame) []).run e = .ok outputs →
      ∀ output ∈ outputs, ∃ bytes : Bytes, output = .bytes bytes ∧
        bytes.length ≤ frame.length + Settings.listenerHeadroom

/-- The outbound chain of an application lengthens frames by at most as much as a listener may. -/
def Application.Slim (a : Application S N X) : Prop :=
  ∀ depth, (a.host (a.perform depth)).Slim

namespace Application

variable (a : Application S N X)

private theorem slim_of_empty (h : a.protocol.pipeline.outbound = .empty) : a.Slim := by
  intro depth delivery frame e outputs ho
  rw [Host.run_send_of_empty (Protocol.outbound_map h _)] at ho
  cases ho
  intro output hmem
  rw [List.mem_singleton] at hmem
  exact ⟨frame, hmem, Nat.le_add_right _ _⟩

/-- A chain that only compresses makes of a frame its compressed form, or fails as that does. -/
theorem run_send_of_compression {name : String} {c : Compression}
    (h : a.protocol.pipeline.outbound = ⟨[(name, c.outbound)]⟩) (depth : Nat) (delivery : Delivery)
    (frame : Bytes) :
    ((a.host (a.perform depth)).protocol.pipeline.send delivery (.bytes frame) []).run =
      (pure (match c.compress frame with
        | .ok encoded => .ok [.bytes encoded]
        | .error cause => .error cause.toProtocolError) : SessionM S N X _) := by
  have hstages : (a.host (a.perform depth)).protocol.pipeline.outbound.listeners =
      [fun delivery message => ExceptT.mk (Script.run (a.perform depth)
        (c.outbound delivery message).run)] := by
    simp only [host, Protocol.map, h]
    rfl
  rw [Pipeline.send, hstages]
  simp only [Pipeline.sendThrough, Pipeline.runStage, Compression.outbound]
  cases c.compress frame <;> rfl

/-- A chain that only compresses lengthens frames by at most one byte. -/
theorem slim_of_compression {name : String} {c : Compression}
    (h : a.protocol.pipeline.outbound = ⟨[(name, c.outbound)]⟩) : a.Slim := by
  intro depth delivery frame e outputs ho output hmem
  rw [a.run_send_of_compression h] at ho
  cases hcompress : c.compress frame with
  | ok encoded =>
    rw [hcompress] at ho
    cases ho
    rw [List.mem_singleton] at hmem
    exact ⟨encoded, hmem, Compression.length_le_of_compress hcompress⟩
  | error cause =>
    rw [hcompress] at ho
    cases ho

end Application

/-! ### Frames on their way out -/

namespace Host

variable {R : Endpoint S N X → Endpoint S N X → Prop} [IsPreorder (Endpoint S N X) R]
  {h : Host S N X} (hc : h.CallbacksFollow R) (hs : h.Slim) {connection : ConnectionId}
  {delivery : Delivery}

include hc hs

/-- A frame that is emitted becomes frames that are at most a little longer. -/
theorem follows_emit_of_slim {frame : Bytes} {bound : Nat} (hframe : frame.length ≤ bound)
    (hr : ∀ (e : Endpoint S N X) (bytes : Bytes) refusal,
      bytes.length ≤ bound + Settings.listenerHeadroom →
        R e (e.record (.sent connection ⟨delivery, bytes⟩ refusal))) :
    (h.emit connection delivery frame).Follows R := by
  refine .lift_bind ?_ fun e => ?_
  · exact ReceivingM.Follows.bind (Pipeline.follows_sendThrough delivery _ hc.outbound _)
      fun _ => .pure _
  · cases hout : SessionM.answer (h.protocol.pipeline.send delivery (.bytes frame) []).run e with
    | error cause => exact .throw _
    | ok outputs =>
      refine SendingM.Follows.forM_of_mem fun output hmem => ?_
      obtain ⟨bytes, rfl, hlength⟩ := hs delivery frame e outputs hout output hmem
      have hhand := follows_hand (hc.carries connection ⟨delivery, bytes⟩)
        fun e refusal => hr e bytes refusal (by omega)
      exact follows_handOver hhand

/-- Whatever is transmitted goes out in frames that are as long as a full chunk at most. -/
private theorem transmits_of_slim (hw : h.protocol.codecs.WellFormed)
    (hpos : 0 < h.protocol.settings.fragmentThreshold)
    (hr : ∀ (e : Endpoint S N X) connection delivery (bytes : Bytes) refusal,
      Settings.wireHeaderSize + bytes.length ≤
          h.protocol.settings.fragmentThreshold + Settings.fragmentOverhead →
        R e (e.record (.sent connection ⟨delivery, bytes⟩ refusal))) : h.Transmits R := by
  intro connection delivery frame
  -- what a full chunk has in front of it is what the overhead leaves room for
  have hroom : Settings.fragmentOverhead = Varint.maxLength + Chunk.firstHeaderSize +
      Settings.listenerHeadroom + Settings.wireHeaderSize := rfl
  rw [transmit]
  split
  · exact .throw _
  · split
    next hwhole =>
      refine follows_emit_of_slim hc hs hwhole fun e bytes refusal hlength => ?_
      exact hr e connection delivery bytes refusal (by omega)
    next =>
      cases hsplit : (Fragmenter.ofSize h.protocol.settings.fragmentThreshold).split frame with
      | error cause => exact .throw _
      | ok chunks =>
        refine SendingM.Follows.forM_of_mem fun c hmem => ?_
        rw [emitChunk]
        cases hencode : h.protocol.codecs.encode (.ofChunk c) with
        | error cause => exact .throw _
        | ok bytes =>
          have hdata := Fragmenter.length_data_le _ hsplit hmem
          have hsize := Fragmenter.chunkSize_ofSize_le hpos
          have hbytes := Registry.length_le_of_encode_chunk hw hencode
          refine follows_emit_of_slim hc hs hbytes fun e bytes refusal hlength => ?_
          exact hr e connection delivery bytes refusal (by omega)

end Host

/-! ### Frames and the transport -/

/-- A stream whose ends have a limit carries a frame: it is never too large to be sent, and it is
read back. -/
structure WireFrame.Carried (limit : Nat) (frame : WireFrame) : Prop where
  fits : frame.Fits limit
  accepted : ∀ (e : StreamEnd) id size bound, e.limit = limit →
    (e.send frame id).1 ≠ .error (.frameTooLarge size bound)
  read : ∀ rest ended,
    Framing.read limit (Framing.encode frame ++ rest) ended = .frame frame rest

theorem WireFrame.Fits.carried {limit : Nat} {frame : WireFrame} (h : frame.Fits limit)
    (hlimit : limit < 2 ^ 32) : frame.Carried limit where
  fits := h
  accepted := by
    rintro e id size bound rfl hsend
    have hfits : ¬ e.limit < Settings.wireHeaderSize + frame.payload.length := Nat.not_lt.mpr h
    unfold StreamEnd.send StreamEnd.refusal? at hsend
    simp only [if_neg hfits] at hsend
    split_ifs at hsend
    simp at hsend
  read rest ended := (Framing.read_eq_frame_iff hlimit).mpr ⟨rfl, h⟩

/-- If an entry is a frame that was handed over, then the frame is within a limit. -/
def Entry.Fits (limit : Nat) : Entry S N → Prop
  | .seen (.sent _ frame _) => frame.Fits limit
  | _ => True

namespace Application

open Endpoint

variable (a : Application S N X)

private theorem allowed_fits (limit : Nat) :
    Allowed (Grows (Entry.Fits limit) : Endpoint S N X → Endpoint S N X → Prop) := by
  refine allowed_grows (fun _ => trivial) fun event h => ?_
  match event, h with
  | .opened _, _ | .failed _ _, _ | .closed _, _ | .announcing _, _ | .disconnecting _ _, _
  | .note _, _ => trivial

/-- Whatever is called, and to whatever depth the calls of callbacks nest, only frames within the
limit of the transport are handed over. -/
private theorem fits_perform (hb : a.protocol.Built) (hv : a.protocol.settings.validate = .ok ())
    (hs : a.Slim) : ∀ depth request,
      (a.perform depth request).Follows (Grows (Entry.Fits a.protocol.settings.maxFrame)) := by
  obtain ⟨hpos, hroom⟩ := Settings.room_of_validate hv
  have ha := allowed_fits (S := S) (N := N) (X := X) a.protocol.settings.maxFrame
  refine a.follows_perform ha (fun depth hc => ?_) fun depth hc ht => ?_
  · refine Host.transmits_of_slim hc (hs depth) hb.wellFormed hpos ?_
    intro e connection delivery bytes refusal hlength
    exact .of_journal_eq_cons rfl (hlength.trans hroom)
  · exact Host.follows_receive (Host.receives_of_records ha hc ht
      fun _ _ _ _ => .of_journal_eq_cons rfl trivial)

/-- In a protocol that was put together with consistent settings, and with a chain on the way out
that lengthens frames by at most one byte: whatever is called, and to whatever depth the calls of
callbacks nest, every frame that is handed to a connection fits the largest frame of the transport
together with its header, so a stream with that limit carries it. A chain without listeners and one
that only compresses are such chains. -/
theorem fitsTransport (hb : a.protocol.Built) (hv : a.protocol.settings.validate = .ok ())
    (hlimit : a.protocol.settings.maxFrame < 2 ^ 32) :
    (a.Slim → ∀ depth request (e : Endpoint S N X), ∃ entries,
        ((a.perform depth request).after e).journal = entries ++ e.journal ∧
          ∀ connection frame refusal, .seen (.sent connection frame refusal) ∈ entries →
            frame.Carried a.protocol.settings.maxFrame) ∧
      (a.protocol.pipeline.outbound = .empty → a.Slim) ∧
      ∀ name (c : Compression), a.protocol.pipeline.outbound = ⟨[(name, c.outbound)]⟩ →
        a.Slim := by
  refine ⟨fun hs depth request e => ?_, a.slim_of_empty, fun _ _ => a.slim_of_compression⟩
  obtain ⟨entries, hjournal, hentries⟩ := a.fits_perform hb hv hs depth request e
  refine ⟨entries, hjournal, fun connection frame refusal hmem => ?_⟩
  have hfits : frame.Fits a.protocol.settings.maxFrame := hentries _ hmem
  exact hfits.carried hlimit

/-- The frame of the chunk behind the first four bytes of a message of five. -/
def lastOfFive : Bytes := [254, 255, 255, 255, 15, 0, 0, 0, 0, 4, 0, 0, 0, 1, 5]

/-- Compression of frames of any size, by a compressor that makes one byte of this chunk and makes
all other frames longer. -/
def compressing : OutboundListener Sample.plain (Script Sample.plain Unit Unit) :=
  (Compression.withSettings (.knowing lastOfFive [7]) { minSize := 0 }).outbound

/-- A protocol that compresses chunks of four bytes, with no room to spare in a frame. -/
def tight : Protocol Sample.plain (Script Sample.plain Unit Unit) :=
  { Protocol.initial with
    settings := { fragmentThreshold := 4, maxFrame := 28 }
    pipeline := ⟨.empty, ⟨[("compression", compressing)]⟩⟩ }

private theorem built_tight : tight.Built := by
  have hl : Protocol.addOutbound
      { Protocol.initial with settings := { fragmentThreshold := 4, maxFrame := 28 } }
      "compression" compressing .last = .ok tight := rfl
  exact (Protocol.Built.initial.settings _).addOutbound hl

/-- A session that is open in this protocol. -/
def tightened : Endpoint Sample.plain Unit Unit :=
  ((Application.mk tight taker).perform 1 (.openWith 0)).after (.fresh tight.settings ())

/-- A chunk that does not get shorter fills a frame to the last byte; the one behind it travels
compressed, in two bytes behind the header of the transport. -/
theorem fitsTransport_tight :
    tight.settings.validate = .ok () ∧
      (((Application.mk tight taker).perform 1 (.sendFrame [1, 2, 3, 4, 5] {})).after
        tightened).taken.map (fun frame => Settings.wireHeaderSize + frame.payload.length) =
          [28, 7] ∧
      ∃ entries, (((Application.mk tight taker).perform 1 (.sendFrame [1, 2, 3, 4, 5] {})).after
          tightened).journal = entries ++ tightened.journal ∧
        ∀ connection frame refusal, .seen (.sent connection frame refusal) ∈ entries →
          frame.Carried 28 := by
  obtain ⟨hcarried, -, hslim⟩ :=
    (Application.mk tight taker).fitsTransport built_tight rfl (by decide)
  exact ⟨rfl, by decide +kernel, hcarried (hslim _ _ rfl) 1 (.sendFrame [1, 2, 3, 4, 5] {}) _⟩

end Application

end PacketSession
