import PacketSession.Proofs.Session.Contents

/-!
# Frames that are opened one after the other

`Registry.Opens` says which leaves frames have if they are opened in order by one receiver, without
anything being done with the leaves. Only the reassembler goes from one frame to the next, so frames
can be opened in two goes (`Registry.Opens.append`, `Registry.opens_append_iff`), and what is there
so far never depends on what comes later.

The frames that carry calls to send open to the packets of the calls, in order, and leave nothing
in flight. So does an announcement, which opens to itself.

`Registry.payloads` computes what a frame travels in, for senders that have to know beforehand.
-/

namespace PacketSession

variable {S : Schema}

namespace Settings

/-- A frame is not longer than the longest message and, in case it has to be split, not longer than
what can be split. -/
def Admits (s : Settings) (frame : Bytes) : Prop :=
  frame.length ≤ s.maxMessage ∧
    (frame.length ≤ s.fragmentThreshold ∨ frame.length ≤ Fragmenter.maxPayload)

instance (s : Settings) (frame : Bytes) : Decidable (s.Admits frame) :=
  inferInstanceAs (Decidable (_ ∧ _))

theorem Admits.of_length_lt {s : Settings} {frame : Bytes} (hmax : frame.length ≤ s.maxMessage)
    (hs : frame.length < 2 ^ 31) : s.Admits frame :=
  ⟨hmax, .inr (by simp only [Fragmenter.maxPayload]; omega)⟩

end Settings

namespace Registry

/-- Frames that are opened in order have these leaves, each with the delivery of its frame; the
reassemblers are what is in flight before and after. -/
inductive Opens (r : Registry S) :
    Reassembler → List WireFrame → List (Decoded S × Delivery) → Reassembler → Prop
  | nil {reassembler : Reassembler} : Opens r reassembler [] [] reassembler
  | cons {before between after : Reassembler} {frame : WireFrame} {frames : List WireFrame}
      {ds : List (Decoded S)} {later : List (Decoded S × Delivery)} :
      r.read before frame = (.ok ds, between) → Opens r between frames later after →
      Opens r before (frame :: frames) (ds.map (·, frame.delivery) ++ later) after

variable {r : Registry S} {before between after : Reassembler} {frames more : List WireFrame}
  {leaves : List (Decoded S × Delivery)}

namespace Opens

theorem append {first second : List (Decoded S × Delivery)}
    (h : r.Opens before frames first between) (h' : r.Opens between more second after) :
    r.Opens before (frames ++ more) (first ++ second) after := by
  induction h with
  | nil => exact h'
  | cons hread _ ih =>
    rw [List.cons_append, List.append_assoc]
    exact .cons hread (ih h')

theorem singleton {frame : WireFrame} {ds : List (Decoded S)}
    (h : r.read before frame = (.ok ds, after)) :
    r.Opens before [frame] (ds.map (·, frame.delivery)) after := by
  have hcons := Opens.cons h (.nil (r := r))
  rwa [List.append_nil] at hcons

/-- Frames have only one list of leaves. -/
theorem unique {other : List (Decoded S × Delivery)} {after' : Reassembler}
    (h : r.Opens before frames leaves after) (h' : r.Opens before frames other after') :
    leaves = other ∧ after = after' := by
  induction h generalizing other with
  | nil =>
    cases h'
    exact ⟨rfl, rfl⟩
  | cons hread _ ih =>
    cases h' with
    | cons hread' hrest =>
      obtain ⟨hds, hbetween⟩ := Prod.mk.inj (hread.symm.trans hread')
      cases hds
      subst hbetween
      obtain ⟨rfl, rfl⟩ := ih hrest
      exact ⟨rfl, rfl⟩

end Opens

/-- Frames are opened in two goes as they are in one. -/
theorem opens_append_iff :
    r.Opens before (frames ++ more) leaves after ↔
      ∃ first second between, leaves = first ++ second ∧
        r.Opens before frames first between ∧ r.Opens between more second after := by
  constructor
  · intro h
    induction frames generalizing before leaves with
    | nil => exact ⟨[], leaves, before, rfl, .nil, h⟩
    | cons frame frames ih =>
      cases h with
      | cons hread hrest =>
        obtain ⟨first, second, between, rfl, hfirst, hsecond⟩ := ih hrest
        exact ⟨_, second, between, (List.append_assoc _ _ _).symm, .cons hread hfirst, hsecond⟩
  · rintro ⟨first, second, between, rfl, hfirst, hsecond⟩
    exact hfirst.append hsecond

/-! ### What carries a frame -/

/-- What a frame that is no chunk has for leaves comes out whole. -/
private theorem opens_whole {frame : Bytes} {ds : List (Decoded S)} (h : r.Holds frame ds)
    (reassembler : Reassembler) (delivery : Delivery) :
    r.Opens reassembler [⟨delivery, frame⟩] (ds.map (·, delivery)) reassembler :=
  .singleton (h.read reassembler delivery)

variable (hw : r.WellFormed) {settings : Settings}

include hw

/-- The chunks of a frame open to nothing but the last, which opens to the leaves of the frame. -/
private theorem opens_chunks {delivery : Delivery} {chunks : List Chunk} {frame : Bytes}
    (hc : Reassembler.Completes delivery.channel before chunks frame after)
    (hf : ∀ c ∈ chunks, c.Fits) {payloads : List Bytes}
    (he : (chunks.mapM fun c => r.encode (.ofChunk c)) = .ok payloads)
    {ds : List (Decoded S)} (hd : r.Holds frame ds) :
    r.Opens before (payloads.map (⟨delivery, ·⟩)) (ds.map (·, delivery)) after := by
  induction hc generalizing payloads with
  | @last before after c frame ha =>
    obtain ⟨payload, rest, hpayload, hrest, rfl⟩ := mapM_cons_eq_ok he
    cases hrest
    refine .singleton ?_
    rw [read_chunk hw (hf c List.mem_cons_self) hpayload ha, hd.payloadLeaves]
  | @more before between after c cs frame ha _ ih =>
    obtain ⟨payload, rest, hpayload, hrest, rfl⟩ := mapM_cons_eq_ok he
    have hfirst : r.read before ⟨delivery, payload⟩ = (.ok [], between) :=
      read_chunk hw (hf c List.mem_cons_self) hpayload ha
    have hlater := ih (fun c hc => hf c (List.mem_cons_of_mem _ hc)) hrest hd
    exact .cons hfirst hlater

/-- What a frame travels in opens to the leaves of the frame. -/
theorem opens_carries (delivery : Delivery) {frame : Bytes} {payloads : List Bytes}
    (hk : r.Carries settings frame payloads) {ds : List (Decoded S)} (hd : r.Holds frame ds) :
    r.Opens (.ofLimit settings.maxMessage) (payloads.map (⟨delivery, ·⟩)) (ds.map (·, delivery))
      (.ofLimit settings.maxMessage) := by
  cases hk with
  | whole => exact opens_whole hd _ delivery
  | chunks hmax hgt hsplit hpayloads =>
    have hidle : (Reassembler.ofLimit settings.maxMessage).assembly? delivery.channel = none := rfl
    obtain ⟨hc, hf⟩ := Fragmenter.completes_split _ hidle hsplit (by omega) hmax
    exact opens_chunks hw hc hf hpayloads hd

private theorem opens_carriesAll (delivery : Delivery) {frames payloads : List Bytes}
    (hk : r.CarriesAll settings frames payloads) {ds : List (Decoded S)}
    (hd : r.HoldsAll frames ds) :
    r.Opens (.ofLimit settings.maxMessage) (payloads.map (⟨delivery, ·⟩)) (ds.map (·, delivery))
      (.ofLimit settings.maxMessage) := by
  induction hk generalizing ds with
  | nil =>
    cases hd
    exact .nil
  | @cons frame frames front back hfront hback ih =>
    cases hd with
    | @cons _ _ first rest hfirst hrest =>
      rw [List.map_append, List.map_append]
      exact (opens_carries hw delivery hfront hfirst).append (ih hrest)

/-- What calls travel in opens to the packets of the calls. -/
theorem opens_carriesCalls {calls : List (Sending S)} {wire : List WireFrame}
    (hk : r.CarriesCalls settings calls wire) (hs : ∀ call ∈ calls, r.Returns settings call) :
    r.Opens (.ofLimit settings.maxMessage) wire (r.sent calls) (.ofLimit settings.maxMessage) := by
  induction hk with
  | nil => exact .nil
  | @cons call calls frames payloads wire hframes hpayloads _ ih =>
    obtain ⟨hcall, hcalls⟩ := List.forall_mem_cons.mp hs
    have hd := holdsAll_framesOf hw hframes hcall.faithful (hcall.short · frames hframes)
    rw [sent_cons]
    exact (opens_carriesAll hw call.delivery hpayloads hd).append (ih hcalls)

/-- The frame of an announcement has the announcement for its only leaf. -/
theorem holds_disconnect {reason : String} {frame : Bytes}
    (he : r.encode (.ofDisconnect ⟨reason⟩) = .ok frame) (hs : frame.length < 2 ^ 32) :
    r.Holds frame [⟨.disconnect, .ofDisconnect ⟨reason⟩⟩] :=
  ⟨_, decode_disconnect hw he hs, by simp [Packet.ofDisconnect], rfl⟩

/-! ### What a frame travels in -/

omit hw in
/-- The payloads that a frame travels in, or why it cannot travel. -/
def payloads (r : Registry S) (settings : Settings) (frame : Bytes) :
    Except ProtocolError (List Bytes) :=
  if settings.maxMessage < frame.length then
    .error (.payloadTooLarge frame.length settings.maxMessage)
  else if frame.length ≤ settings.fragmentThreshold then .ok [frame]
  else do
    let chunks ← (Fragmenter.ofSize settings.fragmentThreshold).split frame
    chunks.mapM fun c => r.encode (.ofChunk c)

omit hw in
theorem carries_of_payloads {frame : Bytes} {bs : List Bytes}
    (h : r.payloads settings frame = .ok bs) : r.Carries settings frame bs := by
  unfold payloads at h
  split at h
  · cases h
  rename_i hmax
  split at h
  · cases h
    exact .whole
  · rename_i hgt
    obtain ⟨chunks, hsplit, hpayloads⟩ := exists_of_bind_eq_ok h
    exact .chunks (Nat.le_of_not_lt hmax) (Nat.lt_of_not_le hgt) hsplit hpayloads

omit hw in
theorem carriesAll_of_payloads {frames : List Bytes} {bs : List (List Bytes)}
    (h : frames.mapM (r.payloads settings) = .ok bs) : r.CarriesAll settings frames bs.flatten := by
  induction frames generalizing bs with
  | nil =>
    cases h
    exact .nil
  | cons frame frames ih =>
    obtain ⟨front, back, hfront, hback, rfl⟩ := mapM_cons_eq_ok h
    exact .cons (carries_of_payloads hfront) (ih hback)

omit hw in
/-- What succeeds on every member of a list succeeds on the list. -/
theorem exists_mapM_eq_ok {α β ε : Type} {f : α → Except ε β} {l : List α}
    (h : ∀ a ∈ l, ∃ b, f a = .ok b) : ∃ bs, l.mapM f = .ok bs := by
  induction l with
  | nil => exact ⟨[], rfl⟩
  | cons a l ih =>
    obtain ⟨⟨b, ha⟩, hl⟩ := List.forall_mem_cons.mp h
    obtain ⟨bs, hbs⟩ := ih hl
    refine ⟨b :: bs, ?_⟩
    rw [List.mapM_cons, ha, hbs]
    rfl

omit hw in
/-- What succeeds on a list succeeds on every member. -/
private theorem exists_of_mapM_eq_ok {α β ε : Type} {f : α → Except ε β} {l : List α} {bs : List β}
    (h : l.mapM f = .ok bs) : ∀ a ∈ l, ∃ b, f a = .ok b := by
  induction l generalizing bs with
  | nil => simp
  | cons a l ih =>
    obtain ⟨b, rest, ha, hrest, rfl⟩ := mapM_cons_eq_ok h
    exact List.forall_mem_cons.mpr ⟨⟨b, ha⟩, ih hrest⟩

/-- A packet of a kind of the protocol itself can always be encoded. -/
theorem exists_encode_own {id : PacketId} {kind : PacketKind S.Kind} {codec : Codec S kind}
    (hm : ⟨id, kind, codec⟩ ∈ (reserved : Registry S).entries) (content : S.Content kind) :
    ∃ frame, r.encode ⟨kind, content⟩ = .ok frame := by
  have hc := hw.codec?_of_mem (hw.own hm)
  refine ⟨Varint.encode id.raw ++ codec.encode content, ?_⟩
  simp only [encode, hc]

private theorem exists_encode_chunks (chunks : List Chunk) :
    ∃ bs, (chunks.mapM fun c => r.encode (.ofChunk c)) = .ok bs := by
  have hm : ⟨.fragment, .chunk, .chunk⟩ ∈ (reserved : Registry S).entries := by simp [reserved]
  exact exists_mapM_eq_ok fun c _ => exists_encode_own hw hm c

/-- An announcement can always be encoded. -/
theorem exists_encode_disconnect (reason : String) :
    ∃ frame, r.encode (.ofDisconnect ⟨reason⟩) = .ok frame := by
  have hm : ⟨.disconnect, .disconnect, .disconnect⟩ ∈ (reserved : Registry S).entries := by
    simp [reserved]
  exact exists_encode_own hw hm ⟨reason⟩

/-- A call to send has frames if its packets can be encoded. -/
theorem exists_framesOf_of_encode (settings : Settings) {call : Sending S}
    (hp : ∀ packet ∈ call.packets, ∃ frame, r.encode packet = .ok frame) :
    ∃ frames, r.framesOf settings call = .ok frames := by
  cases call with
  | single packet delivery =>
    obtain ⟨frame, hframe⟩ := hp packet List.mem_cons_self
    refine ⟨[frame], ?_⟩
    rw [framesOf, hframe]
    rfl
  | batch packets delivery =>
    obtain ⟨frames, hframes⟩ := exists_mapM_eq_ok hp
    have hm : ⟨.batch, .batch, .batch⟩ ∈ (reserved : Registry S).entries := by simp [reserved]
    rw [framesOf, show packets.mapM r.encode = _ from hframes]
    exact exists_mapM_eq_ok fun batch _ => exists_encode_own hw hm batch

/-- The packets of a call to send can be encoded if they are faithful. -/
theorem exists_framesOf (settings : Settings) {call : Sending S}
    (hp : ∀ packet ∈ call.packets, r.Faithful packet) :
    ∃ frames, r.framesOf settings call = .ok frames := by
  refine exists_framesOf_of_encode hw settings fun packet hpacket => ?_
  obtain ⟨id, codec, hc, -⟩ := hp packet hpacket
  refine ⟨Varint.encode id.raw ++ codec.encode packet.content, ?_⟩
  simp only [encode, hc]

/-- A frame can travel just if the settings admit it. -/
theorem exists_payloads_iff {frame : Bytes} :
    (∃ bs, r.payloads settings frame = .ok bs) ↔ settings.Admits frame := by
  unfold payloads Settings.Admits
  split_ifs with hmax hle
  · exact iff_of_false (by simp) (by omega)
  · exact iff_of_true ⟨_, rfl⟩ ⟨by omega, .inl hle⟩
  · rw [Fragmenter.split]
    split_ifs with hlong
    · refine iff_of_false ?_ (by omega)
      rintro ⟨_, h⟩
      cases h
    · exact iff_of_true (exists_encode_chunks hw _) ⟨by omega, .inr (by omega)⟩

/-- Frames can travel just if the settings admit all of them. -/
theorem exists_payloadsAll_iff {frames : List Bytes} :
    (∃ bs, frames.mapM (r.payloads settings) = .ok bs) ↔
      ∀ frame ∈ frames, settings.Admits frame := by
  constructor
  · rintro ⟨bs, hbs⟩ frame hframe
    exact (exists_payloads_iff hw).mp (exists_of_mapM_eq_ok hbs frame hframe)
  · intro hf
    exact exists_mapM_eq_ok fun frame hframe => (exists_payloads_iff hw).mpr (hf frame hframe)

omit hw in
/-- A call to send whose packets come back from their frames, where the settings admit all of the
frames: none of them is refused for its length, whole or in chunks. -/
structure Sendable (r : Registry S) (settings : Settings) (call : Sending S) : Prop
    extends r.Returns settings call where
  /-- No frame is too long to travel. -/
  admits : ∀ frames, r.framesOf settings call = .ok frames →
    ∀ frame ∈ frames, settings.Admits frame

/-- What is sendable can travel. -/
theorem Sendable.exists_payloads {call : Sending S} (hs : r.Sendable settings call) :
    ∃ frames bs, r.framesOf settings call = .ok frames ∧
      frames.mapM (r.payloads settings) = .ok bs := by
  obtain ⟨frames, hframes⟩ := exists_framesOf hw settings hs.faithful
  obtain ⟨bs, hbs⟩ := (exists_payloadsAll_iff hw).mpr (hs.admits frames hframes)
  exact ⟨frames, bs, hframes, hbs⟩

end Registry

end PacketSession
