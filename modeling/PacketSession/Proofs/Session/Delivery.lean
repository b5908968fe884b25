import PacketSession.Proofs.Session.Contents
import PacketSession.Sample.Packets

/-!
# What is sent is handled

Two sessions of one protocol without listeners: whatever one of them sends successfully, the
handlers of the other one are run on, once each and in order, when the frames that the connection
took are passed to it. The frames may be single packets, batches or chunks, on any channels.

On the side of the sender, `Application.sendAll_ok` says what travels. On the side of the receiver
there is one lemma for each of the ways in which packets are put together, from the chunks of a
frame up to the calls of a sender, and each says that the frames are received as if the handlers
had been run directly.
-/

namespace PacketSession

variable {S : Schema} {N X : Type}

/-! ### What is in flight -/

/-- The longest payload that may be announced never changes. -/
theorem Course.limit_eq {e e' : Endpoint S N X} (h : Course e e') :
    e'.session.reassembler.limit = e.session.reassembler.limit := by
  induction h with
  | trans _ _ ih ih' => exact ih'.trans ih
  | accepts e channel c hp => exact Reassembler.limit_accept _ channel c
  | ends _ _ ih => exact ih
  | breaks _ _ _ _ ih ih' => exact ih'.trans ih
  | _ => rfl

/-- A session with nothing in flight has the reassembler it started with. -/
private theorem Course.reassembler_eq {settings : Settings} {x : X} {e : Endpoint S N X}
    (h : Course (.fresh settings x) e) (hn : e.session.reassembler.inFlight = []) :
    e.session.reassembler = .ofLimit settings.maxMessage := by
  have hl : e.session.reassembler.limit = settings.maxMessage := h.limit_eq
  cases hr : e.session.reassembler with
  | mk limit inFlight =>
    rw [hr] at hl hn
    rw [Reassembler.ofLimit, ← hl, ← hn]

/-! ### Running handlers -/

/-- Whether a packet has a handler that takes it. -/
def HandlerTable.takes {m : Type → Type} (t : HandlerTable S m) (d : Decoded S) : Bool :=
  (t.get? d.id).any fun handler => handler.takes d.packet.kind

/-- The packets that have a handler, each with its identifier and delivery. -/
def HandlerTable.taking {m : Type → Type} (t : HandlerTable S m)
    (sent : List (Decoded S × Delivery)) : List (PacketId × Packet S × Delivery) :=
  (sent.filter fun s => t.takes s.1).map fun s => (s.1.id, s.1.packet, s.2)

private theorem Endpoint.handled_record_handling (e : Endpoint S N X) (id : PacketId)
    (packet : Packet S) (delivery : Delivery) :
    (e.record (.handling id packet delivery)).handled = e.handled ++ [(id, packet, delivery)] := by
  simp [handled, record]

/-- If the session is open, nothing is in flight on a channel, and payloads up to a limit may be
announced. -/
def Endpoint.Ready (limit : Nat) (channel : Channel) (e : Endpoint S N X) : Prop :=
  e.session.phase = .opened →
    e.session.reassembler.limit = limit ∧ e.session.reassembler.assembly? channel = none

namespace Host

variable (h : Host S N X)

/-- Runs the handler for a packet, if there is one. -/
def handle (sent : Decoded S × Delivery) : SessionM S N X Unit :=
  match h.protocol.handlers.get? sent.1.id with
  | some handler => handler.invoke sent.2 sent.1
  | none => pure ()

/-- Runs the handlers for packets, one after the other. -/
def handleAll (sent : List (Decoded S × Delivery)) : SessionM S N X Unit := sent.forM h.handle

/-- Handlers leave the session alone. -/
def HandlesApart (h : Host S N X) : Prop :=
  ∀ entry ∈ h.protocol.handlers.entries, ∀ packet delivery (e : Endpoint S N X),
    e.Apart ((entry.2.run packet delivery).after e)

/-- Handlers that find a channel with nothing in flight leave it so. -/
def KeepsReady (h : Host S N X) (channel : Channel) : Prop :=
  ∀ entry ∈ h.protocol.handlers.entries, ∀ packet delivery (e : Endpoint S N X),
    e.session.phase = .opened → e.Ready h.protocol.settings.maxMessage channel →
      ((entry.2.run packet delivery).after e).Ready h.protocol.settings.maxMessage channel

theorem HandlesApart.keepsReady {h : Host S N X} (hh : h.HandlesApart) (channel : Channel) :
    h.KeepsReady channel := by
  intro entry he packet delivery e _ hr
  rw [Endpoint.Ready, (hh entry he packet delivery e).session]
  exact hr

variable {h} (hh : h.HandlesApart) (e : Endpoint S N X)

include hh

/-- A packet is handled if a handler takes it, and that is all that happens. -/
theorem handle_apart (sent : Decoded S × Delivery) :
    ((h.handle sent).after e).session = e.session ∧
      ((h.handle sent).after e).handled = e.handled ++ h.protocol.handlers.taking [sent] := by
  rw [handle]
  cases hg : h.protocol.handlers.get? sent.1.id with
  | none => simp [HandlerTable.taking, HandlerTable.takes, hg]
  | some handler =>
    cases ht : handler.takes sent.1.packet.kind with
    | false => simp [HandlerTable.taking, HandlerTable.takes, Handler.invoke, hg, ht]
    | true =>
      have ha := hh _ (HandlerTable.mem_of_get? hg) sent.1.packet sent.2
        (e.record (.handling sent.1.id sent.1.packet sent.2))
      have hrun : (handler.invoke sent.2 sent.1).after e = (handler.run sent.1.packet sent.2).after
          (e.record (.handling sent.1.id sent.1.packet sent.2)) := by
        simp [Handler.invoke, ht]
      dsimp only
      rw [hrun, ha.handled, Endpoint.handled_record_handling]
      exact ⟨ha.session, by simp [HandlerTable.taking, HandlerTable.takes, hg, ht]⟩

/-- Packets are handled in order, and that is all that happens. -/
theorem handleAll_apart (sent : List (Decoded S × Delivery)) :
    ((h.handleAll sent).after e).session = e.session ∧
      ((h.handleAll sent).after e).handled = e.handled ++ h.protocol.handlers.taking sent := by
  induction sent generalizing e with
  | nil => exact ⟨rfl, (List.append_nil e.handled).symm⟩
  | cons first sent ih =>
    obtain ⟨hs, hf⟩ := handle_apart hh e first
    obtain ⟨hs', hf'⟩ := ih ((h.handle first).after e)
    refine ⟨hs'.trans hs, hf'.trans ?_⟩
    rw [hf, List.append_assoc, HandlerTable.taking, HandlerTable.taking, ← List.map_append,
      ← List.filter_append]
    rfl

omit hh in
private theorem after_handleAll_append (sent later : List (Decoded S × Delivery)) :
    (h.handleAll (sent ++ later)).after e =
      (h.handleAll later).after ((h.handleAll sent).after e) := by
  rw [handleAll, SessionM.after_forM_append]
  rfl

omit hh in
/-- A packet of the application is for the handler of its identifier. -/
theorem processOne_of_isApplication {d : Decoded S} (ha : d.IsApplication) (delivery : Delivery) :
    h.processOne delivery d = h.handle (d, delivery) := by
  obtain ⟨kind, hk⟩ := ha
  have hn : d.packet.disconnect? = none := Packet.disconnect?_eq_none.mpr (by simp [hk])
  rw [processOne, hn]
  rfl

omit hh in
private theorem ready_handle {channel : Channel} (hr : h.KeepsReady channel) {e : Endpoint S N X}
    (hp : e.session.phase = .opened) (he : e.Ready h.protocol.settings.maxMessage channel)
    (sent : Decoded S × Delivery) :
    ((h.handle sent).after e).Ready h.protocol.settings.maxMessage channel := by
  rw [handle]
  split
  · rename_i handler hg
    rw [Handler.invoke]
    split
    · exact hr _ (HandlerTable.mem_of_get? hg) _ _ _ hp he
    · exact he
  · exact he

omit hh in
/-- Nothing is in flight after packets of the application were processed that was not before. -/
private theorem ready_processInOrder {channel : Channel} (hr : h.KeepsReady channel)
    {e : Endpoint S N X} (he : e.Ready h.protocol.settings.maxMessage channel)
    {delivery : Delivery} {ds : List (Decoded S)} (ha : ∀ d ∈ ds, d.IsApplication) :
    ((h.processInOrder delivery ds).after e).Ready h.protocol.settings.maxMessage channel := by
  induction ds generalizing e with
  | nil => exact he
  | cons d ds ih =>
    obtain ⟨hd, hds⟩ := List.forall_mem_cons.mp ha
    by_cases hp : e.session.phase = .opened
    · rw [after_processInOrder_of_open delivery hp, processOne_of_isApplication hd]
      exact ih (ready_handle hr hp he _) hds
    · rw [after_processInOrder_of_not_open delivery hp]
      exact he

/-- Processing packets of the application at an open session runs the handlers. -/
private theorem after_processInOrder {e : Endpoint S N X} (hp : e.session.phase = .opened)
    (delivery : Delivery) {ds : List (Decoded S)} (ha : ∀ d ∈ ds, d.IsApplication) :
    (h.processInOrder delivery ds).after e = (h.handleAll (ds.map (·, delivery))).after e := by
  induction ds generalizing e with
  | nil => rfl
  | cons d ds ih =>
    obtain ⟨hd, hds⟩ := List.forall_mem_cons.mp ha
    have hs := (handle_apart hh e (d, delivery)).1
    rw [after_processInOrder_of_open delivery hp, processOne_of_isApplication hd,
      ih (by rw [hs, hp]) hds]
    rfl

end Host

/-! ### Receiving frames -/

namespace Host

variable {h : Host S N X} (hw : h.protocol.codecs.WellFormed)
  (hi : h.protocol.pipeline.inbound = .empty)

include hw hi

/-- The chunks of a frame are received as the frame is processed in the end: the chunks before the
last one only change what is in flight. -/
private theorem after_receive_chunks {e : Endpoint S N X} (hp : e.session.phase = .opened)
    {delivery : Delivery} {r r' : Reassembler} {chunks : List Chunk} {frame : Bytes}
    (hc : Reassembler.Completes delivery.channel r chunks frame r') (hr : e.session.reassembler = r)
    (hf : ∀ c ∈ chunks, c.Fits) {payloads : List Bytes}
    (he : (chunks.mapM fun c => h.protocol.codecs.encode (.ofChunk c)) = .ok payloads)
    {ds : List (Decoded S)} (hd : h.protocol.codecs.Holds frame ds) :
    SessionM.after ((payloads.map (⟨delivery, ·⟩)).forM h.receive) e =
      (h.processInOrder delivery ds).after (e.update fun s => { s with reassembler := r' }) := by
  induction hc generalizing e payloads with
  | @last r r' c frame ha =>
    obtain ⟨payload, rest, hpayload, hrest, rfl⟩ := mapM_cons_eq_ok he
    cases hrest
    change (h.receive ⟨delivery, payload⟩).after e = _
    rw [after_receive hw hi _ hp, hr, Registry.read_chunk hw (hf c (by simp)) hpayload ha,
      hd.payloadLeaves]
  | @more r r₁ r' c cs frame ha hcs ih =>
    obtain ⟨payload, rest, hpayload, hrest, rfl⟩ := mapM_cons_eq_ok he
    have hfirst : (h.receive ⟨delivery, payload⟩).after e =
        e.update fun s => { s with reassembler := r₁ } := by
      rw [after_receive hw hi _ hp, hr,
        Registry.read_chunk hw (hf c (by simp)) hpayload ha]
      rfl
    rw [List.map_cons, SessionM.after_forM_cons, hfirst]
    exact ih (by exact hp) rfl (fun c hc => hf c (List.mem_cons_of_mem _ hc)) hrest hd

/-- What a frame travels in is received as the frame is processed, if nothing is in flight on its
channel. -/
private theorem after_receive_carries {e : Endpoint S N X} (hp : e.session.phase = .opened)
    {delivery : Delivery} (hl : e.session.reassembler.limit = h.protocol.settings.maxMessage)
    (hidle : e.session.reassembler.assembly? delivery.channel = none)
    {frame : Bytes} {payloads : List Bytes}
    (hk : h.protocol.codecs.Carries h.protocol.settings frame payloads) {ds : List (Decoded S)}
    (hd : h.protocol.codecs.Holds frame ds) :
    SessionM.after ((payloads.map (⟨delivery, ·⟩)).forM h.receive) e =
      (h.processInOrder delivery ds).after e := by
  cases hk with
  | whole =>
    change (h.receive ⟨delivery, frame⟩).after e = _
    rw [after_receive hw hi _ hp, hd.read]
    rfl
  | chunks hmax hgt hsplit hpayloads =>
    obtain ⟨hc, hf⟩ := Fragmenter.completes_split _ hidle hsplit (by omega) (hl ▸ hmax)
    -- what is in flight in the end is what was in flight in the beginning
    rw [after_receive_chunks hw hi hp hc rfl hf hpayloads hd]
    rfl

omit hw hi in
/-- Frames that find the session not open are dropped. -/
private theorem after_receiveAll_of_not_open {e : Endpoint S N X} (hp : e.session.phase ≠ .opened)
    (frames : List WireFrame) : SessionM.after (frames.forM h.receive) e = e := by
  induction frames with
  | nil => rfl
  | cons frame frames ih => rw [SessionM.after_forM_cons, after_receive_of_not_open hp, ih]

/-- What frames travel in is received as their leaves are processed, up to the first that finds the
session not open. The handlers may do anything but leave something in flight on the channel. -/
theorem after_receive_holdsAll {delivery : Delivery} (hh : h.KeepsReady delivery.channel)
    {e : Endpoint S N X} (hr : e.Ready h.protocol.settings.maxMessage delivery.channel)
    {frames payloads : List Bytes}
    (hk : h.protocol.codecs.CarriesAll h.protocol.settings frames payloads)
    {ds : List (Decoded S)} (hd : h.protocol.codecs.HoldsAll frames ds)
    (ha : ∀ d ∈ ds, d.IsApplication) :
    SessionM.after ((payloads.map (⟨delivery, ·⟩)).forM h.receive) e =
      (h.processInOrder delivery ds).after e := by
  induction hk generalizing e ds with
  | nil =>
    cases hd
    rfl
  | @cons frame frames front back hfront hback ih =>
    cases hd with
    | @cons _ _ first rest hfirst hrest =>
      obtain ⟨hafirst, harest⟩ := List.forall_mem_append.mp ha
      by_cases hp : e.session.phase = .opened
      · obtain ⟨hl, hidle⟩ := hr hp
        rw [List.map_append, SessionM.after_forM_append,
          after_receive_carries hw hi hp hl hidle hfront hfirst, after_processInOrder_append]
        exact ih (ready_processInOrder hh hr hafirst) hrest harest
      · rw [after_receiveAll_of_not_open hp, after_processInOrder_of_not_open delivery hp]

/-- What frames travel in is received as the handlers for their leaves are run. -/
private theorem after_receive_carriesAll (hh : h.HandlesApart) {e : Endpoint S N X}
    (hp : e.session.phase = .opened)
    (hr : e.session.reassembler = .ofLimit h.protocol.settings.maxMessage) (delivery : Delivery)
    {frames payloads : List Bytes}
    (hk : h.protocol.codecs.CarriesAll h.protocol.settings frames payloads)
    {ds : List (Decoded S)} (hd : h.protocol.codecs.HoldsAll frames ds)
    (ha : ∀ d ∈ ds, d.IsApplication) :
    SessionM.after ((payloads.map (⟨delivery, ·⟩)).forM h.receive) e =
      (h.handleAll (ds.map (·, delivery))).after e := by
  have hready : e.Ready h.protocol.settings.maxMessage delivery.channel := by
    intro _
    rw [hr]
    exact ⟨rfl, rfl⟩
  rw [after_receive_holdsAll hw hi (hh.keepsReady _) hready hk hd ha,
    after_processInOrder hh hp delivery ha]

variable (hh : h.HandlesApart)

include hh

/-- What calls travel in is received as the handlers for their packets are run. -/
private theorem after_receive_carriesCalls {e : Endpoint S N X} (hp : e.session.phase = .opened)
    (hr : e.session.reassembler = .ofLimit h.protocol.settings.maxMessage)
    {calls : List (Sending S)} {wire : List WireFrame}
    (hk : h.protocol.codecs.CarriesCalls h.protocol.settings calls wire)
    (hs : ∀ call ∈ calls, h.protocol.codecs.Returns h.protocol.settings call) :
    SessionM.after (wire.forM h.receive) e =
      (h.handleAll (h.protocol.codecs.sent calls)).after e := by
  induction hk generalizing e with
  | nil => rfl
  | @cons call calls frames payloads wire hframes hpayloads hwire ih =>
    obtain ⟨hcall, hcalls⟩ := List.forall_mem_cons.mp hs
    -- the handlers leave the session alone, so the next call finds it as this one did
    have hd := Registry.holdsAll_framesOf hw hframes hcall.faithful (hcall.short · frames hframes)
    have ha := Registry.isApplication_of_mem_tagged hw hcall.faithful
    have hsession :=
      (handleAll_apart hh e ((call.packets.filterMap h.protocol.codecs.tagged?).map
        (·, call.delivery))).1
    rw [SessionM.after_forM_append,
      after_receive_carriesAll hw hi hh hp hr call.delivery hpayloads hd ha, Registry.sent_cons,
      after_handleAll_append]
    exact ih (by rw [hsession, hp]) (by rw [hsession, hr]) hcalls

end Host

/-! ### Two applications of one protocol -/

namespace Protocol

variable {m n : Type → Type} (run : {α : Type} → m α → n α) (p : Protocol S m)

/-- What is handled of a packet: nothing, unless its identifier has a handler that takes it. -/
def handling? (delivery : Delivery) (packet : Packet S) :
    Option (PacketId × Packet S × Delivery) :=
  match p.codecs.idOf? packet.kind with
  | none => none
  | some id =>
    match p.handlers.get? id with
    | none => none
    | some handler => if handler.takes packet.kind then some (id, packet, delivery) else none

/-- What is handled of the packets of a call to send, in order. -/
def handlings (call : Sending S) : List (PacketId × Packet S × Delivery) :=
  call.packets.filterMap (p.handling? call.delivery)

private theorem taking_tagged (delivery : Delivery) (packets : List (Packet S)) :
    p.handlers.taking ((packets.filterMap p.codecs.tagged?).map (·, delivery)) =
      packets.filterMap (p.handling? delivery) := by
  induction packets with
  | nil => rfl
  | cons packet packets ih =>
    rw [HandlerTable.taking] at ih ⊢
    rw [List.filterMap_cons, List.filterMap_cons, Registry.tagged?, handling?, ← ih]
    cases p.codecs.idOf? packet.kind with
    | none => rfl
    | some id =>
      cases hg : p.handlers.get? id with
      | none => simp [HandlerTable.takes, hg]
      | some handler => cases ht : handler.takes packet.kind <;> simp [HandlerTable.takes, hg, ht]

/-- Of the packets of calls to send, those with a handler are what is handled. -/
theorem taking_sent (calls : List (Sending S)) :
    p.handlers.taking (p.codecs.sent calls) = calls.flatMap p.handlings := by
  induction calls with
  | nil => rfl
  | cons call calls ih =>
    rw [Registry.sent_cons, List.flatMap_cons, ← ih, handlings, ← taking_tagged]
    simp [HandlerTable.taking]

theorem get?_map (id : PacketId) :
    (p.map run).handlers.get? id = (p.handlers.get? id).map (Handler.map run) := by
  simp only [Protocol.map, HandlerTable.get?]
  induction p.handlers.entries with
  | nil => rfl
  | cons entry entries ih =>
    obtain ⟨other, handler⟩ := entry
    rw [List.map_cons, List.lookup_cons, List.lookup_cons, ih]
    cases id == other <;> rfl

private theorem taking_map (sent : List (Decoded S × Delivery)) :
    (p.map run).handlers.taking sent = p.handlers.taking sent := by
  have ht : (p.map run).handlers.takes = p.handlers.takes := by
    funext d
    rw [HandlerTable.takes, get?_map, Option.any_map]
    rfl
  rw [HandlerTable.taking, ht, HandlerTable.taking]

end Protocol

namespace Application

/-- Passes frames to the session, one after the other. -/
def receiveAll (a : Application S N X) (depth : Nat) (frames : List WireFrame) :
    SessionM S N X Unit :=
  frames.forM fun frame => a.perform depth (.receive frame)

/-- Runs the handlers for packets, one after the other. -/
def handleAll (a : Application S N X) (depth : Nat) (sent : List (Decoded S × Delivery)) :
    SessionM S N X Unit :=
  (a.host (a.perform depth)).handleAll sent

private theorem handlesApart_host {a : Application S N X} (depth : Nat)
    (hh : ∀ entry ∈ a.protocol.handlers.entries, ∀ packet delivery,
      (entry.2.run packet delivery).Silent) : (a.host (a.perform depth)).HandlesApart := by
  intro entry he packet delivery e
  obtain ⟨original, ho, rfl⟩ := List.mem_map.mp he
  exact (hh original ho packet delivery).apart (a.after_inspect depth) e

/-- Packets that are sent one call after the other with success are handled once each and in order
by a session of the same protocol that takes the frames, and that session stays as it is. It came
about from a fresh one in whatever way, is open and has nothing in flight. There are no listeners,
and neither the handlers of the receiver nor the connection of the sender call their session. -/
theorem delivers (p : Protocol S (Script S N X)) (hb : p.Built)
    (hin : p.pipeline.inbound = .empty) (hout : p.pipeline.outbound = .empty)
    (sender receiver : Carrier X (Script S N X))
    (hc : ∀ connection frame, (sender.send connection frame).Silent)
    (hh : ∀ entry ∈ p.handlers.entries, ∀ packet delivery,
      (entry.2.run packet delivery).Silent)
    (calls : List (Sending S)) (hs : ∀ call ∈ calls, p.codecs.Returns p.settings call)
    (depth depth' : Nat) (e e' : Endpoint S N X)
    (ho : (sendAll ⟨p, sender⟩ depth calls).answer e = true)
    (x : X) (he' : Course (.fresh p.settings x) e') (hp : e'.session.phase = .opened)
    (hn : e'.session.reassembler.inFlight = []) :
    ∃ wire, ((sendAll ⟨p, sender⟩ depth calls).after e).taken = e.taken ++ wire ∧
      (receiveAll ⟨p, receiver⟩ (depth' + 1) wire).after e' =
        (handleAll ⟨p, receiver⟩ depth' (p.codecs.sent calls)).after e' ∧
      ((receiveAll ⟨p, receiver⟩ (depth' + 1) wire).after e').session = e'.session ∧
      ((receiveAll ⟨p, receiver⟩ (depth' + 1) wire).after e').handled =
        e'.handled ++ calls.flatMap p.handlings := by
  let a : Application S N X := ⟨p, receiver⟩
  obtain ⟨wire, hk, -, ht⟩ := sendAll_ok (a := ⟨p, sender⟩) hc hout ho
  have hi : (a.host (a.perform depth')).protocol.pipeline.inbound = .empty := by
    simp only [a, host, Protocol.map, hin]
    rfl
  have hh' : (a.host (a.perform depth')).HandlesApart := handlesApart_host depth' hh
  -- receiving the frames is handling the packets, and handlers leave the session alone
  have hrun : (a.receiveAll (depth' + 1) wire).after e' =
      (a.handleAll depth' (p.codecs.sent calls)).after e' :=
    Host.after_receive_carriesCalls (h := a.host (a.perform depth')) hb.wellFormed hi hh' hp
      (he'.reassembler_eq hn) hk hs
  obtain ⟨hsession, hhandled⟩ := Host.handleAll_apart hh' e' (p.codecs.sent calls)
  refine ⟨wire, ht, hrun, (congrArg _ hrun).trans hsession, (congrArg _ hrun).trans ?_⟩
  rw [handleAll, hhandled, ← p.taking_sent, ← p.taking_map (Script.run (a.perform depth'))]
  rfl

/-- One packet by itself and two in a batch. -/
def exchange : List (Sending Sample.plain) :=
  [.single ⟨.application .unit, ()⟩ ⟨{ raw := 7 }, .unreliable⟩,
    .batch [⟨.application .unit, ()⟩, ⟨.application .unit, ()⟩] ⟨.unset, .reliableOrdered⟩]

private theorem returns_exchange : ∀ call ∈ exchange, signals.codecs.Returns {} call := by
  have hf : signals.codecs.Faithful ⟨.application .unit, ()⟩ := ⟨⟨1⟩, _, rfl, rfl, rfl⟩
  intro call hc
  simp only [exchange, List.mem_cons, List.not_mem_nil, or_false] at hc
  obtain rfl | rfl := hc
  · exact ⟨by simpa [Sending.packets] using hf, nofun⟩
  · refine ⟨by simpa [Sending.packets] using hf, fun _ frames he => ?_⟩
    cases he
    decide

/-- The three packets of an exchange arrive. -/
theorem delivers_exchange :
    (sendAll ⟨signals, taker⟩ 1 exchange).answer opened = true ∧
      opened.session.phase = .opened ∧
      ∃ wire, ((sendAll ⟨signals, taker⟩ 1 exchange).after opened).taken = wire ∧
        ((receiveAll ⟨signals, taker⟩ 1 wire).after opened).session = opened.session ∧
        ((receiveAll ⟨signals, taker⟩ 1 wire).after opened).handled =
          [(⟨1⟩, ⟨.application .unit, ()⟩, ⟨{ raw := 7 }, .unreliable⟩),
            (⟨1⟩, ⟨.application .unit, ()⟩, ⟨.unset, .reliableOrdered⟩),
            (⟨1⟩, ⟨.application .unit, ()⟩, ⟨.unset, .reliableOrdered⟩)] := by
  have hh : ∀ entry ∈ signals.handlers.entries, ∀ packet delivery,
      (entry.2.run packet delivery).Silent := by
    intro entry he packet delivery
    rw [List.mem_singleton.mp he]
    exact .write () (.done ())
  obtain ⟨wire, ht, -, hs, hd⟩ := delivers signals built_signals rfl rfl taker taker
    (fun _ _ => .done _) hh exchange returns_exchange 1 0 opened opened rfl ()
    (onCourse_perform _ 1 (.openWith 0) _) rfl rfl
  exact ⟨rfl, rfl, wire, ht, hs, hd⟩

end Application

end PacketSession
