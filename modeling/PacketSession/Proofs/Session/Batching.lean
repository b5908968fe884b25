import PacketSession.Proofs.Session.Handing
import PacketSession.Proofs.Session.MessageLimit

/-!
# Sending in batches and sending one by one

Packets that can be sent one by one cannot always be sent in batches, since the limit on messages
applies to the frames of the batches, which are longer than their members. That is the only thing
that may go wrong (`Application.sendBatch_agrees`). If it does not, the peer cannot tell the
difference: it ends as if each packet had been sent in turn, whatever its handlers do, unless they
leave something in flight on the channel.

The proof goes through what both ways have in common: the frames that were handed over hold the
packets, in order, and such frames are received as the packets are processed
(`Host.after_receive_holdsAll`).
-/

namespace PacketSession

variable {S : Schema} {N X : Type}

/-- An open session has a connection to write to. -/
private theorem Course.exists_writable {settings : Settings} {x : X} {e : Endpoint S N X}
    (h : Course (.fresh settings x) e) (hp : e.session.phase = .opened) :
    ∃ connection, Host.writable e.session = .ok connection := by
  have hkeeps : ∀ {e e' : Endpoint S N X}, Course e e' →
      (e.session.phase = .opened → e.session.connection.isSome) →
      e'.session.phase = .opened → e'.session.connection.isSome := by
    intro e e' hc
    induction hc with
    | trans _ _ ih ih' => exact fun ho => ih' (ih ho)
    | opens => exact fun _ _ => rfl
    -- until the callback for the end a session that ends is not open
    | ends _ _ ih => exact fun _ => ih nofun
    | breaks _ _ _ _ ih ih' => exact fun _ => ih' (ih nofun)
    | refuses | closes | hangsUp | fails => exact fun _ => nofun
    | _ => exact id
  obtain ⟨connection, hconnection⟩ := Option.isSome_iff_exists.mp (hkeeps h nofun hp)
  exact ⟨connection, by rw [Host.writable, hp, hconnection]⟩

/-! ### What single packets travel in -/

namespace Registry

variable {r : Registry S} {settings : Settings}

/-- What packets travel in that are sent one by one are their frames, one after the other. -/
private theorem exists_of_carries_singles {packets : List (Packet S)} {delivery : Delivery}
    {wire : List WireFrame}
    (hk : r.CarriesCalls settings (packets.map (.single · delivery)) wire) :
    ∃ frames payloads, packets.mapM r.encode = .ok frames ∧
      r.CarriesAll settings frames payloads ∧ wire = payloads.map (⟨delivery, ·⟩) := by
  induction packets generalizing wire with
  | nil =>
    cases hk
    exact ⟨[], [], rfl, .nil, rfl⟩
  | cons packet packets ih =>
    obtain _ | ⟨hframes, hpayloads, hwire⟩ := hk
    obtain ⟨frame, hframe, hsingle⟩ := exists_of_bind_eq_ok hframes
    cases hsingle
    obtain _ | ⟨hfront, hnil⟩ := hpayloads
    cases hnil
    obtain ⟨frames, payloads, he, hrest, rfl⟩ := ih hwire
    refine ⟨frame :: frames, _ ++ payloads, ?_, .cons hfront hrest, ?_⟩
    · rw [List.mapM_cons, hframe, he]
      rfl
    · rw [List.append_nil, List.map_append]
      rfl

/-- The frames of packets that are sent one by one hold these packets. -/
private theorem holdsAll_singles (hw : r.WellFormed) {packets : List (Packet S)}
    (hp : ∀ packet ∈ packets, r.Faithful packet) {frames : List Bytes}
    (he : packets.mapM r.encode = .ok frames) :
    r.HoldsAll frames (packets.filterMap r.tagged?) := by
  induction packets generalizing frames with
  | nil =>
    cases he
    exact .nil
  | cons packet packets ih =>
    obtain ⟨hpacket, hpackets⟩ := List.forall_mem_cons.mp hp
    obtain ⟨frame, rest, hframe, hrest, rfl⟩ := mapM_cons_eq_ok he
    obtain ⟨d, ht, hd, ha⟩ := decode_faithful hw hpacket hframe
    rw [List.filterMap_cons_some ht]
    exact .cons (holds_application hd ha) (ih hpackets hrest)

end Registry

/-! ### Calls that succeed -/

namespace Application

variable (a : Application S N X) (depth : Nat)

/-- The connections take every frame. -/
def Takes : Prop :=
  ∀ connection frame e,
    ∃ write, (a.run depth (a.carrier.send connection frame)).answer e = .ok write

/-- Handlers that find nothing in flight on a channel of an open session leave it so, unless the
session is open no more. -/
def LeavesIdle (channel : Channel) : Prop :=
  ∀ entry ∈ a.protocol.handlers.entries, ∀ packet delivery (e : Endpoint S N X),
    e.session.phase = .opened → e.session.reassembler.assembly? channel = none →
    ((a.run depth (entry.2.run packet delivery)).after e).session.phase = .opened →
    ((a.run depth (entry.2.run packet delivery)).after e).session.reassembler.assembly? channel =
      none

variable {a depth}

theorem LeavesIdle.keepsReady {channel : Channel} (hl : a.LeavesIdle depth channel) :
    (a.host (a.perform depth)).KeepsReady channel := by
  intro entry he packet delivery e hp hr hp'
  obtain ⟨original, ho, rfl⟩ := List.mem_map.mp he
  obtain ⟨hlimit, hidle⟩ := hr hp
  have hcourse := a.onCourse_run depth (original.2.run packet delivery) e
  exact ⟨hcourse.limit_eq.trans hlimit, hl original ho packet delivery e hp hidle hp'⟩

variable (hw : a.protocol.codecs.WellFormed) (hout : a.protocol.pipeline.outbound = .empty)
  (ht : a.Takes depth)

include hw hout ht

/-- A call to send succeeds just if its packets can be encoded and the settings admit all of its
frames. -/
theorem sendOne_ok_iff {e : Endpoint S N X} {connection : ConnectionId}
    (hc : Host.writable e.session = .ok connection) (call : Sending S) :
    (∃ handle, (a.sendOne (depth + 1) call).answer e = .ok handle) ↔
      ∃ frames, a.protocol.codecs.framesOf a.protocol.settings call = .ok frames ∧
        ∀ frame ∈ frames, a.protocol.settings.Admits frame := by
  have hout' : (a.host (a.perform depth)).protocol.pipeline.outbound = .empty :=
    Protocol.outbound_map hout _
  rw [sendOne_succ]
  cases hf : a.protocol.codecs.framesOf a.protocol.settings call with
  | error cause =>
    constructor
    · rintro ⟨_, h⟩
      cases h
    · rintro ⟨_, h, _⟩
      cases h
  | ok frames =>
    have hiff := Host.submit_ok_iff (h := a.host (a.perform depth)) hout' ht call.delivery hw hc
      frames
    constructor
    · intro hs
      exact ⟨frames, rfl, hiff.mp hs⟩
    · rintro ⟨_, hsame, hadmits⟩
      cases hsame
      exact hiff.mpr hadmits

/-- Calls that would succeed if each were the only one succeed one after the other. -/
private theorem sendAll_of_forall
    (hs : ∀ connection frame, (a.carrier.send connection frame).Silent)
    {e : Endpoint S N X} {connection : ConnectionId}
    (hc : Host.writable e.session = .ok connection) {calls : List (Sending S)}
    (ho : ∀ call ∈ calls, ∃ handle, (a.sendOne (depth + 1) call).answer e = .ok handle) :
    (a.sendAll (depth + 1) calls).answer e = true := by
  induction calls generalizing e with
  | nil => rfl
  | cons call calls ih =>
    obtain ⟨⟨handle, hfirst⟩, hrest⟩ := List.forall_mem_cons.mp ho
    obtain ⟨_, _, _, _, hsession, _⟩ := sendOne_ok hs hout hfirst
    -- the first call leaves the session as it was, so the others succeed after it
    have hc' : Host.writable ((a.sendOne (depth + 1) call).after e).session = .ok connection := by
      rw [hsession, hc]
    rw [sendAll, SessionM.answer_bind, hfirst]
    exact ih hc' fun later hl => (sendOne_ok_iff hw hout ht hc' later).mpr
      ((sendOne_ok_iff hw hout ht hc later).mp (hrest later hl))

end Application

/-! ### The same to the peer -/

/-- Sessions of a protocol that have nothing in flight on a channel end the same whichever of two
lists of frames is passed to them: the endpoints are equal, with all that handlers and callbacks
were run on. The sessions came about from fresh ones in whatever way, and handlers may do anything
but leave something in flight on the channel. -/
def Protocol.ReceivesAlike (p : Protocol S (Script S N X)) (channel : Channel)
    (frames frames' : List WireFrame) : Prop :=
  ∀ (receiver : Carrier X (Script S N X)) (depth : Nat) (x : X) (e : Endpoint S N X),
    Course (.fresh p.settings x) e → e.session.reassembler.assembly? channel = none →
    (Application.mk p receiver).LeavesIdle depth channel →
    ((Application.mk p receiver).receiveAll (depth + 1) frames).after e =
      ((Application.mk p receiver).receiveAll (depth + 1) frames').after e

namespace Application

variable {a : Application S N X} {depth : Nat}

/-- Frames that hold packets of the application are received as these are processed in order, if
nothing is in flight on the channel. -/
theorem after_receiveAll_of_holdsAll (hb : a.protocol.Built)
    (hin : a.protocol.pipeline.inbound = .empty) {delivery : Delivery}
    (hl : a.LeavesIdle depth delivery.channel) {x : X} {e : Endpoint S N X}
    (he : Course (.fresh a.protocol.settings x) e)
    (hn : e.session.reassembler.assembly? delivery.channel = none) {frames payloads : List Bytes}
    (hk : a.protocol.codecs.CarriesAll a.protocol.settings frames payloads) {ds : List (Decoded S)}
    (hd : a.protocol.codecs.HoldsAll frames ds) (ha : ∀ d ∈ ds, d.IsApplication) :
    (a.receiveAll (depth + 1) (payloads.map (⟨delivery, ·⟩))).after e =
      ((a.host (a.perform depth)).processInOrder delivery ds).after e := by
  have hready : e.Ready a.protocol.settings.maxMessage delivery.channel :=
    fun _ => ⟨he.limit_eq, hn⟩
  exact Host.after_receive_holdsAll hb.wellFormed (Protocol.inbound_map hin _) hl.keepsReady hready
    hk hd ha

/-- Different frames that hold the same packets are received alike. -/
private theorem receivesAlike_of_holdsAll (hb : a.protocol.Built)
    (hin : a.protocol.pipeline.inbound = .empty) (delivery : Delivery)
    {frames payloads frames' payloads' : List Bytes}
    (hk : a.protocol.codecs.CarriesAll a.protocol.settings frames payloads)
    (hk' : a.protocol.codecs.CarriesAll a.protocol.settings frames' payloads')
    {ds : List (Decoded S)} (hd : a.protocol.codecs.HoldsAll frames ds)
    (hd' : a.protocol.codecs.HoldsAll frames' ds) (ha : ∀ d ∈ ds, d.IsApplication) :
    a.protocol.ReceivesAlike delivery.channel (payloads.map (⟨delivery, ·⟩))
      (payloads'.map (⟨delivery, ·⟩)) := by
  intro receiver depth x e he hn hl
  have hfirst := after_receiveAll_of_holdsAll (a := ⟨a.protocol, receiver⟩) hb hin hl he hn hk hd ha
  have hsecond :=
    after_receiveAll_of_holdsAll (a := ⟨a.protocol, receiver⟩) hb hin hl he hn hk' hd' ha
  exact hfirst.trans hsecond.symm

/-- Packets that can be sent one by one, whose codecs read back what they write, can be sent in
batches just if the settings admit the frames of the batches. Then the session is as it was, and
what the connection took is received as what it would have taken for the packets one by one; the
numbers in the batches have to fit signed words for that. The session came about from a fresh one
in whatever way, its connection takes every frame without calling it, and there are no
listeners. -/
theorem sendBatch_agrees (a : Application S N X) (hb : a.protocol.Built)
    (hin : a.protocol.pipeline.inbound = .empty) (hout : a.protocol.pipeline.outbound = .empty)
    (hc : ∀ connection frame, (a.carrier.send connection frame).Silent) (depth : Nat)
    (ht : a.Takes depth) (packets : List (Packet S))
    (hp : ∀ packet ∈ packets, a.protocol.codecs.Faithful packet) (delivery : Delivery) (x : X)
    (e : Endpoint S N X) (he : Course (.fresh a.protocol.settings x) e)
    (ho : e.session.phase = .opened)
    (hs : ∀ packet ∈ packets,
      ∃ handle, (a.perform (depth + 1) (.send packet delivery)).answer e = .ok handle) :
    ∃ members frames, packets.mapM a.protocol.codecs.encode = .ok members ∧
      a.protocol.codecs.framesOf a.protocol.settings (.batch packets delivery) = .ok frames ∧
      ((∃ handle, (a.perform (depth + 1) (.sendBatch packets delivery)).answer e = .ok handle) ↔
        ∀ frame ∈ frames, a.protocol.settings.Admits frame) ∧
      ((∀ frame ∈ frames, a.protocol.settings.Admits frame) →
        ((a.perform (depth + 1) (.sendBatch packets delivery)).after e).session = e.session ∧
        (a.sendAll (depth + 1) (packets.map (.single · delivery))).answer e = true ∧
        ∃ together apart,
          ((a.perform (depth + 1) (.sendBatch packets delivery)).after e).taken =
            e.taken ++ together ∧
          ((a.sendAll (depth + 1) (packets.map (.single · delivery))).after e).taken =
            e.taken ++ apart ∧
          ((∀ b ∈ Batch.pack a.protocol.settings.batching members, b.Fits) →
            a.protocol.ReceivesAlike delivery.channel together apart)) := by
  have hw := hb.wellFormed
  obtain ⟨connection, hwritable⟩ := he.exists_writable ho
  obtain ⟨frames, hframes⟩ :
      ∃ frames, a.protocol.codecs.framesOf a.protocol.settings (.batch packets delivery) =
        .ok frames :=
    Registry.exists_framesOf hw a.protocol.settings hp
  obtain ⟨members, hmembers, hpack⟩ := exists_of_bind_eq_ok hframes
  have hiff := sendOne_ok_iff hw hout ht hwritable (.batch packets delivery)
  simp only [hframes, Except.ok.injEq, exists_eq_left'] at hiff
  refine ⟨members, frames, hmembers, hframes, hiff, fun hadmits => ?_⟩
  obtain ⟨handle, hbatch⟩ := hiff.mpr hadmits
  obtain ⟨frames', payloads, hf, hk, hsession, htogether⟩ := sendOne_ok hc hout hbatch
  obtain rfl : frames = frames' := Except.ok.inj (hframes.symm.trans hf)
  have hsingles : (a.sendAll (depth + 1) (packets.map (.single · delivery))).answer e = true := by
    refine sendAll_of_forall hw hout ht hc hwritable fun call hcall => ?_
    obtain ⟨packet, hpacket, rfl⟩ := List.mem_map.mp hcall
    exact hs packet hpacket
  obtain ⟨wire, hcarries, -, hapart⟩ := sendAll_ok hc hout hsingles
  obtain ⟨members', payloads', hm, hk', rfl⟩ := Registry.exists_of_carries_singles hcarries
  obtain rfl : members = members' := Except.ok.inj (hmembers.symm.trans hm)
  refine ⟨hsession, hsingles, _, _, htogether, hapart, fun hfits => ?_⟩
  -- in whatever frames, what was taken holds the packets in order
  have happlication := Registry.isApplication_of_mem_tagged hw hp
  have hholds := Registry.holdsAll_pack hw hp hmembers hfits hpack
  have hholds' := Registry.holdsAll_singles hw hp hmembers
  exact receivesAlike_of_holdsAll hb hin delivery hk hk' hholds hholds' happlication

private theorem course_begun (a : Application Sample.plain Unit Unit) :
    Course (.fresh a.protocol.settings ()) (begun a) :=
  onCourse_perform a 1 (.openWith 0) _

/-- A session that a handler closed is not open. -/
private theorem leavesIdle_quitter (depth : Nat) (channel : Channel) :
    quitter.LeavesIdle (depth + 1) channel := by
  intro entry he packet delivery e hp _ hopen
  obtain rfl := List.mem_singleton.mp he
  have hcourse := Host.course_close (quitter.callbacksOnCourse_host
    (quitter.onCourse_perform depth)) hp "enough"
  have hrank : Phase.closing.rank ≤ Phase.opened.rank := hopen ▸ hcourse.rank_le
  exact absurd hrank (by decide)

/-- Three signals. -/
def several : List (Packet Sample.plain) := List.replicate 3 ⟨.application .unit, ()⟩

/-- On no particular channel, everything in order. -/
def inOrder : Delivery := ⟨.unset, .reliableOrdered⟩

/-- Three signals travel in two batches, the first of which is split, or one by one: either way the
peer handles the first of them and then closes. -/
theorem sendBatch_agrees_quitter :
    (∃ handle, (quitter.perform 1 (.sendBatch several inOrder)).answer quitter.begun = .ok handle) ∧
      ∃ together apart,
        ((quitter.perform 1 (.sendBatch several inOrder)).after quitter.begun).taken = together ∧
        ((quitter.sendAll 1 (several.map (.single · inOrder))).after quitter.begun).taken = apart ∧
        together.map (·.payload.length) = [34, 17, 14] ∧
        apart.map (·.payload.length) = [1, 1, 1] ∧
        (quitter.receiveAll 2 together).after quitter.begun =
          (quitter.receiveAll 2 apart).after quitter.begun ∧
        ((quitter.receiveAll 2 together).after quitter.begun).handled.map (·.1) = [⟨1⟩] := by
  have hone : ∀ packet ∈ several, packet = ⟨.application .unit, ()⟩ :=
    fun packet hp => List.eq_of_mem_replicate hp
  have hfaithful : ∀ packet ∈ several, quitting.codecs.Faithful packet := by
    intro packet hp
    rw [hone packet hp]
    exact ⟨⟨1⟩, _, rfl, rfl, rfl⟩
  have hsends : ∀ packet ∈ several, ∃ handle,
      (quitter.perform 1 (.send packet inOrder)).answer quitter.begun = .ok handle := by
    intro packet hp
    rw [hone packet hp]
    exact ⟨_, rfl⟩
  obtain ⟨members, frames, hmembers, hframes, hiff, hagree⟩ :=
    sendBatch_agrees quitter built_quitting rfl rfl (fun _ _ => .done _) 0 (fun _ _ _ => ⟨_, rfl⟩)
      several hfaithful inOrder () quitter.begun quitter.course_begun rfl hsends
  cases hmembers
  cases hframes
  obtain ⟨-, -, together, apart, htogether, hapart, hsame⟩ := hagree (by decide)
  have hreceive := hsame (by decide) taker 1 () quitter.begun quitter.course_begun rfl
    (leavesIdle_quitter 0 _)
  -- the frames are those that the two ways of sending are known to hand over
  obtain rfl : _ = together := htogether
  obtain rfl : _ = apart := hapart
  refine ⟨hiff.mpr (by decide), _, _, rfl, rfl, by decide +kernel, by decide +kernel, hreceive, ?_⟩
  decide +kernel

/-- A protocol that knows positions and signals. -/
def locating : Protocol Sample.plain (Script Sample.plain Unit Unit) :=
  { charted with
    codecs := ⟨charted.codecs.entries ++ [⟨⟨2⟩, .application .unit, signal⟩]⟩ }

/-- Its messages are at most 14 bytes long, and its batches hold one frame. -/
def narrow : Protocol Sample.plain (Script Sample.plain Unit Unit) :=
  { locating with settings := { maxMessage := 14, batching := ⟨1, 64⟩ } }

theorem built_narrow : narrow.Built := by
  have hp : Protocol.initial.register ⟨1⟩ position = .ok charted := rfl
  have hs : charted.register ⟨2⟩ signal = .ok locating := rfl
  exact ((Protocol.Built.initial.register hp).register hs).settings narrow.settings

/-- An application of this protocol. -/
def packer : Application Sample.plain Unit Unit := ⟨narrow, taker⟩

/-- A signal and a position. -/
def pair : List (Packet Sample.plain) :=
  [⟨.application .unit, ()⟩, ⟨.application .position, (5, 6)⟩]

/-- Either packet can be sent alone, in 1 byte and in 9 bytes, and a batch of the signal alone is as
long as a message may be; but a batch of the position is longer, so sending both in batches fails
when one of them is under way, and the session with it. -/
theorem not_sendBatch_agrees :
    (narrow.Built ∧ narrow.settings.validate = .ok () ∧ narrow.pipeline = .empty ∧
      packer.Takes 0 ∧ (∀ packet ∈ pair, narrow.codecs.Faithful packet) ∧
      Course (.fresh narrow.settings ()) packer.begun ∧
      packer.begun.session.phase = .opened ∧
      ∀ packet ∈ pair, ∃ handle,
        (packer.perform 1 (.send packet inOrder)).answer packer.begun = .ok handle) ∧
    (packer.perform 1 (.sendBatch pair inOrder)).answer packer.begun =
      .error (.protocol (.payloadTooLarge 22 14)) ∧
    ((packer.perform 1 (.sendBatch pair inOrder)).after packer.begun).session.phase =
      .closed := by
  have hfaithful : ∀ packet ∈ pair, narrow.codecs.Faithful packet := by
    refine List.forall_mem_cons.mpr ⟨⟨⟨2⟩, _, rfl, rfl, rfl⟩, List.forall_mem_singleton.mpr ?_⟩
    exact ⟨⟨1⟩, _, rfl, rfl, rfl⟩
  have hsends : ∀ packet ∈ pair, ∃ handle,
      (packer.perform 1 (.send packet inOrder)).answer packer.begun = .ok handle :=
    List.forall_mem_cons.mpr ⟨⟨_, rfl⟩, List.forall_mem_singleton.mpr ⟨_, rfl⟩⟩
  have hbegun := packer.course_begun
  exact ⟨⟨built_narrow, rfl, rfl, fun _ _ _ => ⟨_, rfl⟩, hfaithful, hbegun, rfl, hsends⟩, rfl,
    by decide +kernel⟩

end Application

end PacketSession
