import PacketSession.Proofs.Packet.Tables
import PacketSession.Proofs.Wire.Varint

/-!
# Which frames have a packet

A frame is a spelling of an identifier with the fields of a packet behind it. `Registry.Outcome`
says what decoding has to make of every frame, case by case, without a word on how it goes about
it; the codec starts at the place behind the identifier (`Cursor.behind`). Whatever codecs were
registered, decoding does just that, a packet whose codec reads back what it writes comes back from
its frame, and two such packets never share a frame (`Registry.unambiguous`).
-/

namespace PacketSession

namespace Registry

variable {S : Schema} {r : Registry S}

/-- The packet is of the kind under `id`, and its codec, given the fields that it writes, reads the
packet back and leaves nothing. -/
def Recovers (r : Registry S) (id : PacketId) (packet : Packet S) : Prop :=
  ∃ codec, r.codec? packet.kind = some (id, codec) ∧ codec.Recovers id packet.content

/-- What decoding has to make of a frame. -/
inductive Outcome (r : Registry S) : Bytes → Except ProtocolError (Decoded S) → Prop
  /-- The frame ends within the identifier. -/
  | truncated {frame : Bytes} : Varint.Truncated frame →
      Outcome r frame (.error (.malformedPacket none (.unexpectedEnd 1)))
  /-- The identifier goes on for too long. -/
  | overlong {frame : Bytes} : Varint.Overlong frame →
      Outcome r frame (.error (.malformedPacket none .varintTooLong))
  /-- The identifier has no codec. -/
  | unknown {form body : Bytes} {id : PacketId} : Varint.Spells form id.raw →
      (∀ e ∈ r.entries, e.id ≠ id) → Outcome r (form ++ body) (.error (.unknownPacketId id))
  /-- The codec refuses the fields. -/
  | refused {form body : Bytes} {e : CodecEntry S} {cause : DecodeError} :
      Varint.Spells form e.id.raw → e ∈ r.entries →
      e.codec.decode.readFrom (.behind form body) = .error cause →
      Outcome r (form ++ body) (.error (.malformedPacket (some e.id) cause))
  /-- The codec leaves bytes over. -/
  | trailing {form body left : Bytes} {e : CodecEntry S} {content : S.Content e.kind} :
      Varint.Spells form e.id.raw → e ∈ r.entries →
      e.codec.decode.readFrom (.behind form body) = .ok (content, left) → left ≠ [] →
      Outcome r (form ++ body)
        (.error (.malformedPacket (some e.id) (.trailingBytes left.length)))
  /-- The codec consumes everything behind the identifier. -/
  | accepted {form body : Bytes} {e : CodecEntry S} {content : S.Content e.kind} :
      Varint.Spells form e.id.raw → e ∈ r.entries →
      e.codec.decode.readFrom (.behind form body) = .ok (content, []) →
      Outcome r (form ++ body) (.ok ⟨e.id, e.kind, content⟩)

/-- Frames stand for packets without loss and without clashes. -/
structure Unambiguous (r : Registry S) : Prop where
  /-- A packet that its codec recovers comes back from its frame, under the identifier of its
  kind. -/
  returns (id : PacketId) (packet : Packet S) : r.Recovers id packet →
    ∃ frame, r.encode packet = .ok frame ∧ r.decode frame = .ok ⟨id, packet⟩
  /-- Two such packets with the same frame are the same. -/
  apart (id id' : PacketId) (packet packet' : Packet S) : r.Recovers id packet →
    r.Recovers id' packet' → r.encode packet = r.encode packet' → packet = packet'
  /-- Every frame is decoded to its outcome. -/
  outcome (frame : Bytes) (result : Except ProtocolError (Decoded S)) :
    r.decode frame = result ↔ r.Outcome frame result

/-- Behind the identifier of an entry, however it is spelled, its codec goes on. -/
theorem decode_of_entry {form : Bytes} {id : PacketId} (h : Varint.Spells form id.raw)
    {e : CodecEntry S} (he : r.entry? id = some e) (body : Bytes) :
    r.decode (form ++ body) = decodeBody e (.behind form body) := by
  simp only [decode, h.reads.runAt_start body, he]

/-- Behind an identifier without a codec nothing is read. -/
theorem decode_of_unknown {form : Bytes} {id : PacketId} (h : Varint.Spells form id.raw)
    (he : r.entry? id = none) (body : Bytes) :
    r.decode (form ++ body) = .error (.unknownPacketId id) := by
  simp only [decode, h.reads.runAt_start body, he]

private theorem entry?_eq_none_iff {id : PacketId} :
    r.entry? id = none ↔ ∀ e ∈ r.entries, e.id ≠ id := by
  unfold entry?
  simp

/-- Every frame has the outcome that decoding it gives. -/
private theorem outcome_decode (r : Registry S) (frame : Bytes) : r.Outcome frame
    (r.decode frame) := by
  obtain ⟨form, body, n, rfl, hs⟩ | ht | ho := Varint.spells_or frame
  · obtain ⟨id, rfl⟩ : ∃ id : PacketId, n = id.raw := ⟨⟨n⟩, rfl⟩
    obtain hn | ⟨e, he⟩ := Option.eq_none_or_eq_some (r.entry? id)
    · rw [decode_of_unknown hs hn]
      exact .unknown hs (entry?_eq_none_iff.mp hn)
    · obtain ⟨hm, rfl⟩ := mem_of_entry he
      rw [decode_of_entry hs he, decodeBody]
      rcases hr : e.codec.decode.readFrom (.behind form body) with
        cause | ⟨content, _ | ⟨byte, left⟩⟩
      · exact .refused hs hm hr
      · exact .accepted hs hm hr
      · exact .trailing hs hm hr (List.cons_ne_nil byte left)
  · rw [decode, Cursor.start, ht.runAt_eq]
    exact .truncated ht
  · rw [decode, Cursor.start, ho.runAt_eq]
    exact .overlong ho

/-- Decoding gives the outcome of the frame. -/
private theorem Distinct.decode_of_outcome (hd : r.Distinct) {frame : Bytes}
    {result : Except ProtocolError (Decoded S)} (h : r.Outcome frame result) :
    r.decode frame = result := by
  have hbody : ∀ {form body : Bytes} {e : CodecEntry S}, Varint.Spells form e.id.raw →
      e ∈ r.entries → r.decode (form ++ body) = decodeBody e (.behind form body) := by
    intro form body e hs he
    exact decode_of_entry hs (hd.entry?_of_mem he) body
  match h with
  | .truncated ht => rw [decode, Cursor.start, ht.runAt_eq]
  | .overlong ho => rw [decode, Cursor.start, ho.runAt_eq]
  | .unknown hs hn => rw [decode_of_unknown hs (entry?_eq_none_iff.mpr hn)]
  | .refused hs he hr => rw [hbody hs he, decodeBody, hr]
  | .trailing hs he hr hleft =>
    rw [hbody hs he, decodeBody, hr]
    obtain ⟨byte, left, rfl⟩ := List.exists_cons_of_ne_nil hleft
    rfl
  | .accepted hs he hr => rw [hbody hs he, decodeBody, hr]

theorem Distinct.decode_eq_iff (hd : r.Distinct) {frame : Bytes}
    {result : Except ProtocolError (Decoded S)} :
    r.decode frame = result ↔ r.Outcome frame result := by
  constructor
  · rintro rfl
    exact r.outcome_decode frame
  · exact hd.decode_of_outcome

/-- A packet that its codec recovers has a frame, and comes back from it. -/
theorem Distinct.exists_frame (hd : r.Distinct) {id : PacketId} {packet : Packet S}
    (h : r.Recovers id packet) :
    ∃ frame, r.encode packet = .ok frame ∧ r.decode frame = .ok ⟨id, packet⟩ := by
  obtain ⟨codec, hc, hr⟩ := h
  have he : r.encode packet = .ok (Varint.encode id.raw ++ codec.encode packet.content) := by
    rw [encode, hc]
  exact ⟨_, he, hd.decode_encode hc hr he⟩

/-- Packets that their codecs recover never share a frame. -/
private theorem Distinct.eq_of_encode_eq (hd : r.Distinct) {id id' : PacketId}
    {packet packet' : Packet S} (h : r.Recovers id packet) (h' : r.Recovers id' packet')
    (he : r.encode packet = r.encode packet') : packet = packet' := by
  obtain ⟨frame, hf, hdec⟩ := hd.exists_frame h
  obtain ⟨frame', hf', hdec'⟩ := hd.exists_frame h'
  rw [hf, hf'] at he
  cases he
  rw [hdec] at hdec'
  cases hdec'
  rfl

/-- Whatever codecs were registered, by calls that were refused or not, frames stand for packets
without loss and without clashes. -/
theorem unambiguous (origin : Origin) (calls : List (CodecEntry S)) :
    (attemptAll origin.registry calls).Unambiguous := by
  have hd := origin.distinct_registry.attemptAll calls
  exact ⟨fun _ _ h => hd.exists_frame h, fun _ _ _ _ h h' he => hd.eq_of_encode_eq h h' he,
    fun _ _ => hd.decode_eq_iff⟩

/-- A packet whose codec reads all that is left comes back from its frame, behind an identifier of
two bytes, and an identifier of one byte is read as well if it is spelled with two. -/
theorem unambiguous_clashing :
    (∃ frame, (reserved.attemptAll clashing).encode ⟨.application .greedy, [7, 8]⟩ = .ok frame ∧
      (reserved.attemptAll clashing).decode frame =
        .ok ⟨⟨300⟩, ⟨.application .greedy, [7, 8]⟩⟩) ∧
      (reserved.attemptAll clashing).Outcome [0x81, 0x00]
        (.ok ⟨⟨1⟩, ⟨.application .unit, ()⟩⟩) := by
  have hu := unambiguous (S := Sample.plain) .ofProtocol clashing
  exact ⟨hu.returns _ _ ⟨_, rfl, rfl⟩, (hu.outcome _ _).mp rfl⟩

end Registry

end PacketSession
