import Mathlib.Data.List.Nodup
import PacketSession.Packet.Registry
import PacketSession.Proofs.Wire.Reads

/-!
# Well-formed registries

In a registry that was put together by registering codecs no identifier and no kind occurs twice,
so a packet whose codec reads back what it writes comes back from its frame. The registry of a
protocol is well formed besides: the codecs of the protocol itself are there, and nothing else has
a reserved identifier. So an identifier tells the kind of every decoded packet, in particular
whether it is an envelope.
-/

namespace PacketSession

variable {S : Schema}

/-- What two fallible steps give was given by the second one, after the first one gave something. -/
theorem exists_of_bind_eq_ok {ε α β : Type} {x : Except ε α} {f : α → Except ε β} {b : β}
    (h : (x >>= f) = .ok b) : ∃ a, x = .ok a ∧ f a = .ok b := by
  cases x with
  | error e => cases h
  | ok a => exact ⟨a, rfl, h⟩

/-- The identifier of a decoded packet tells whether it is one of the protocol's own kinds. -/
structure Decoded.Coherent (d : Decoded S) : Prop where
  disconnect : d.id = .disconnect ↔ d.packet.kind = .disconnect
  fragment : d.id = .fragment ↔ d.packet.kind = .chunk
  batch : d.id = .batch ↔ d.packet.kind = .batch

/-- A packet is of a kind of the application. -/
def Decoded.IsApplication (d : Decoded S) : Prop := ∃ kind, d.packet.kind = .application kind

theorem Decoded.Coherent.isApplication {d : Decoded S} (hd : d.Coherent)
    (hr : d.id.isReserved = false) : d.IsApplication := by
  cases hk : d.packet.kind with
  | application kind => exact ⟨kind, hk⟩
  | disconnect =>
    rw [hd.disconnect.mpr hk] at hr
    cases hr
  | chunk =>
    rw [hd.fragment.mpr hk] at hr
    cases hr
  | batch =>
    rw [hd.batch.mpr hk] at hr
    cases hr

/-- Given the fields that it writes for a value, behind the identifier that they are found under,
the codec reads the value back and leaves nothing. -/
def Codec.Recovers {kind : PacketKind S.Kind} (codec : Codec S kind) (id : PacketId)
    (content : S.Content kind) : Prop :=
  codec.decode.readFrom (.behind (Varint.encode id.raw) (codec.encode content)) =
    .ok (content, [])

/-- A codec that reads its fields back wherever they stand recovers them behind any identifier. -/
theorem Codec.recovers_of_reads {kind : PacketKind S.Kind} {codec : Codec S kind}
    {content : S.Content kind} (h : codec.decode.Reads (codec.encode content) content)
    (id : PacketId) : codec.Recovers id content := by
  have hr := h.readFrom (Varint.encode id.raw).length []
  rwa [List.append_nil] at hr

namespace Registry

/-- A registry of codecs that were registered one after the other. -/
structure Distinct (r : Registry S) : Prop where
  /-- No identifier occurs twice. -/
  ids : (r.entries.map (·.id)).Nodup
  /-- No kind occurs twice. -/
  kinds : (r.entries.map (·.kind)).Nodup

/-- A registry of codecs that were registered after those of the protocol itself. -/
structure WellFormed (r : Registry S) : Prop extends r.Distinct where
  /-- The codecs of the protocol itself are there. -/
  own : reserved.entries ⊆ r.entries
  /-- Nothing else has a reserved identifier. -/
  free : ∀ e ∈ r.entries, e ∈ reserved.entries ∨ e.id.isReserved = false

variable {r r' : Registry S}

theorem distinct_empty : (empty : Registry S).Distinct := ⟨List.nodup_nil, List.nodup_nil⟩

theorem wellFormed_reserved : (reserved : Registry S).WellFormed where
  ids := by simp [reserved, PacketId.disconnect, PacketId.fragment, PacketId.batch]
  kinds := by simp [reserved]
  own := List.Subset.refl _
  free _ he := .inl he

theorem mem_of_entry {id : PacketId} {e : CodecEntry S} (h : r.entry? id = some e) :
    e ∈ r.entries ∧ e.id = id :=
  ⟨List.mem_of_find?_eq_some h, by simpa using List.find?_some h⟩

private theorem codecFor?_eq_some {kind : PacketKind S.Kind} {e : CodecEntry S} {id : PacketId}
    {codec : Codec S kind} :
    CodecEntry.codecFor? kind e = some (id, codec) ↔ e = ⟨id, kind, codec⟩ := by
  obtain ⟨id', kind', codec'⟩ := e
  by_cases hk : kind' = kind
  · subst hk
    simp [CodecEntry.codecFor?]
  · simp [CodecEntry.codecFor?, hk]

theorem mem_of_codec? {kind : PacketKind S.Kind} {id : PacketId} {codec : Codec S kind}
    (h : r.codec? kind = some (id, codec)) : ⟨id, kind, codec⟩ ∈ r.entries := by
  obtain ⟨e, he, hc⟩ := List.exists_of_findSome?_eq_some h
  rwa [codecFor?_eq_some.mp hc] at he

private theorem kind_ne_of_idOf? {kind : PacketKind S.Kind} (h : r.idOf? kind = none) :
    ∀ e ∈ r.entries, e.kind ≠ kind := by
  rintro ⟨id, kind', codec⟩ he rfl
  have hn := List.findSome?_eq_none_iff.mp (Option.map_eq_none_iff.mp h) _ he
  rw [codecFor?_eq_some.mpr rfl] at hn
  cases hn

/-- A packet is of the kind under its identifier. -/
def Tagged (r : Registry S) (d : Decoded S) : Prop :=
  ∃ codec, ⟨d.id, d.packet.kind, codec⟩ ∈ r.entries

/-- Every decoded packet is of the kind under its identifier. -/
theorem tagged_of_decode {frame : Bytes} {d : Decoded S} (h : r.decode frame = .ok d) :
    r.Tagged d := by
  unfold decode at h
  split at h
  · cases h
  split at h
  · cases h
  rename_i e he
  unfold decodeBody at h
  split at h
  · cases h
  · cases h
    exact ⟨e.codec, (mem_of_entry he).1⟩
  · cases h

/-- What is registered is new. -/
theorem eq_of_register {id : PacketId} {kind : PacketKind S.Kind} {codec : Codec S kind}
    (h : r.register id codec = .ok r') :
    id.isReserved = false ∧ (∀ e ∈ r.entries, e.id ≠ id) ∧ (∀ e ∈ r.entries, e.kind ≠ kind) ∧
      r' = ⟨r.entries ++ [⟨id, kind, codec⟩]⟩ := by
  unfold register at h
  split at h
  · cases h
  rename_i hr
  split at h
  · cases h
  rename_i hc
  split at h
  · cases h
  rename_i hk
  cases h
  refine ⟨by simpa using hr, fun e he hi => hc ?_, kind_ne_of_idOf? hk, rfl⟩
  rw [contains, entry?, List.find?_isSome]
  exact ⟨e, he, by simpa using hi⟩

/-- Registering a codec adds a new identifier and a new kind. -/
theorem Distinct.register (hd : r.Distinct) {id : PacketId} {kind : PacketKind S.Kind}
    {codec : Codec S kind} (h : r.register id codec = .ok r') : r'.Distinct := by
  obtain ⟨-, hid, hk, rfl⟩ := eq_of_register h
  constructor
  · simpa [List.nodup_append, hd.ids] using hid
  · simpa [List.nodup_append, hd.kinds] using hk

/-- Registering a codec keeps a registry well formed. -/
theorem WellFormed.register (hw : r.WellFormed) {id : PacketId} {kind : PacketKind S.Kind}
    {codec : Codec S kind} (h : r.register id codec = .ok r') : r'.WellFormed := by
  have hd := hw.toDistinct.register h
  obtain ⟨hr, -, -, rfl⟩ := eq_of_register h
  refine { hd with own := fun e he => ?_, free := fun e he => ?_ }
  · exact List.mem_append_left _ (hw.own he)
  · obtain he | he := List.mem_append.mp he
    · exact hw.free e he
    · rw [List.mem_singleton.mp he]
      exact .inr hr

namespace Distinct

variable (hd : r.Distinct)

include hd

theorem entry?_of_mem {e : CodecEntry S} (he : e ∈ r.entries) : r.entry? e.id = some e := by
  cases h : r.entry? e.id with
  | none =>
    have := List.find?_eq_none.mp h e he
    simp at this
  | some other =>
    obtain ⟨ho, hi⟩ := mem_of_entry h
    rw [List.inj_on_of_nodup_map hd.ids ho he hi]

theorem codec?_of_mem {id : PacketId} {kind : PacketKind S.Kind} {codec : Codec S kind}
    (he : ⟨id, kind, codec⟩ ∈ r.entries) : r.codec? kind = some (id, codec) := by
  cases h : r.codec? kind with
  | none =>
    have hn := List.findSome?_eq_none_iff.mp h _ he
    rw [codecFor?_eq_some.mpr rfl] at hn
    cases hn
  | some other =>
    have ho := List.inj_on_of_nodup_map hd.kinds (mem_of_codec? h) he rfl
    cases ho
    rfl

/-- A packet whose codec reads back what it writes comes back from its frame, under the identifier
of its kind. -/
theorem decode_encode {p : Packet S} {id : PacketId} {codec : Codec S p.kind} {frame : Bytes}
    (hc : r.codec? p.kind = some (id, codec))
    (hr : codec.Recovers id p.content)
    (he : r.encode p = .ok frame) : r.decode frame = .ok ⟨id, p⟩ := by
  rw [encode, hc] at he
  cases he
  have hm := hd.entry?_of_mem (mem_of_codec? hc)
  rw [decode, (Decoder.Reads.varint id.raw).runAt_start]
  dsimp only at hm ⊢
  rw [hm]
  dsimp only
  rw [decodeBody, hr]

/-- The frame of a packet has a packet of this kind, if any. -/
theorem kind_of_decode {packet : Packet S} {frame : Bytes}
    (he : r.encode packet = .ok frame) {d : Decoded S} (h : r.decode frame = .ok d) :
    d.packet.kind = packet.kind := by
  rw [encode] at he
  cases hc : r.codec? packet.kind with
  | none =>
    rw [hc] at he
    cases he
  | some found =>
    rw [hc] at he
    cases he
    have hm := hd.entry?_of_mem (mem_of_codec? hc)
    rw [decode, (Decoder.Reads.varint found.1.raw).runAt_start] at h
    dsimp only at hm h
    rw [hm] at h
    dsimp only [decodeBody] at h
    split at h <;> cases h
    rfl

end Distinct

namespace WellFormed

variable (hw : r.WellFormed)

include hw

/-- Of an identifier and a kind in use, one tells the other. -/
theorem id_eq_iff (own : CodecEntry S) {e : CodecEntry S} (ho : own ∈ reserved.entries)
    (he : e ∈ r.entries) : e.id = own.id ↔ e.kind = own.kind := by
  constructor
  · intro hi
    rw [List.inj_on_of_nodup_map hw.ids he (hw.own ho) hi]
  · intro hk
    rw [List.inj_on_of_nodup_map hw.kinds he (hw.own ho) hk]

/-- A packet of the kind under its identifier goes by its identifier. -/
theorem coherent_of_tagged {d : Decoded S} (hd : r.Tagged d) : d.Coherent := by
  obtain ⟨codec, he⟩ := hd
  exact ⟨hw.id_eq_iff ⟨.disconnect, .disconnect, .disconnect⟩ (by simp [reserved]) he,
    hw.id_eq_iff ⟨.fragment, .chunk, .chunk⟩ (by simp [reserved]) he,
    hw.id_eq_iff ⟨.batch, .batch, .batch⟩ (by simp [reserved]) he⟩

/-- Every decoded packet goes by its identifier. -/
theorem coherent_of_decode {frame : Bytes} {d : Decoded S} (h : r.decode frame = .ok d) :
    d.Coherent :=
  hw.coherent_of_tagged (tagged_of_decode h)

end WellFormed

end Registry

end PacketSession
