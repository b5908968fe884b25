import PacketSession.Proofs.Session.Delivery

/-!
# How long a logical frame may be

A peer sends a logical frame whole, in one frame of the connection, or in chunks. The settings give
the longest logical frame, and the reassembler keeps to it, whatever the peer sends and did before:
nothing longer is ever put together, and an announcement of more fails the session
(`Application.receive_limited`). A frame that arrives whole is not measured at all. It is processed
however long it is, although the session itself refuses to send such a frame
(`Application.not_limited_overlong`).
-/

namespace PacketSession

variable {S : Schema} {N X : Type}

/-! ### Payloads that are put together -/

namespace Reassembler

variable {r : Reassembler} {channel : Channel} {c : Chunk}

/-- A payload that is completed is within the limit. -/
theorem Sound.length_le (hs : r.Sound) {payload : Bytes}
    (h : (r.accept channel c).1 = .ok (some payload)) : payload.length ≤ r.limit := by
  have ha := r.acceptance channel c
  rw [h] at ha
  generalize (r.accept channel c).2 = r' at ha
  cases ha with
  | @last a hc _ hlast =>
    have hfull : (a.extend c.data).buffer.length = a.received + c.data.length :=
      Assembly.length_buffer _
    rw [hfull, hlast]
    exact hc.total_le hs

/-- An announcement of more than the limit is refused, and nothing changes. -/
private theorem accept_of_limit_lt {total : UInt32} (ht : c.total = some total)
    (hi : r.assembly? channel = none) (ho : c.offset = 0) (hl : r.limit < total.toNat) :
    r.accept channel c = (.error (.payloadTooLarge total.toNat r.limit), r) := by
  have hz : total ≠ 0 := by
    rintro rfl
    exact absurd hl (Nat.not_lt_zero _)
  rw [accept, ht]
  dsimp only [start]
  rw [hi]
  dsimp only
  rw [if_neg (not_not.mpr ho), if_neg hz, if_pos hl]

end Reassembler

/-- What is in flight stays sound, whatever happens to the session. -/
theorem Course.sound {e e' : Endpoint S N X} (h : Course e e')
    (hs : e.session.reassembler.Sound) : e'.session.reassembler.Sound := by
  -- chunks that are accepted keep it sound, and a session that ends or breaks starts over
  induction h with
  | trans _ _ ih ih' => exact ih' (ih hs)
  | accepts e channel c _ => exact hs.accept channel c
  | ends _ _ ih => exact ih (Reassembler.sound_ofLimit _)
  | breaks _ _ _ _ ih ih' => exact ih' (ih (Reassembler.sound_ofLimit _))
  | _ => exact hs

/-! ### Logical frames -/

namespace Registry

variable (r : Registry S)

/-- A received frame holds a chunk. -/
def HoldsChunk (frame : WireFrame) (c : Chunk) : Prop :=
  ∃ d, r.decode frame.payload = .ok d ∧ d.packet.chunk? = some c

/-- A received frame is a logical frame that came whole. -/
def IsWhole (frame : WireFrame) : Prop :=
  ∃ d, r.decode frame.payload = .ok d ∧ d.packet.chunk? = none

/-- A received frame yields a logical frame: itself, or the payload that it completes. -/
inductive Yields (reassembler : Reassembler) (frame : WireFrame) : Bytes → Prop
  /-- It came whole. -/
  | whole : r.IsWhole frame → Yields reassembler frame frame.payload
  /-- It holds the last of the chunks of a payload. -/
  | completed {c : Chunk} {payload : Bytes} : r.HoldsChunk frame c →
      (reassembler.accept frame.delivery.channel c).1 = .ok (some payload) →
      Yields reassembler frame payload

variable {r} {reassembler : Reassembler} {frame : WireFrame}

theorem HoldsChunk.read {c : Chunk} (h : r.HoldsChunk frame c) :
    r.read reassembler frame =
      ((reassembler.accept frame.delivery.channel c).1.bind r.payloadLeaves,
        (reassembler.accept frame.delivery.channel c).2) := by
  obtain ⟨d, hd, hc⟩ := h
  rw [Registry.read, hd]
  dsimp only
  rw [unwrap, hc]
  dsimp only
  generalize reassembler.accept frame.delivery.channel c = accepted
  obtain ⟨cause | payload, after⟩ := accepted <;> rfl

theorem IsWhole.read (h : r.IsWhole frame) :
    r.read reassembler frame = (r.payloadLeaves (some frame.payload), reassembler) := by
  obtain ⟨d, hd, hc⟩ := h
  have hk : d.packet.kind ≠ .chunk := Packet.chunk?_eq_none.mp hc
  rw [Registry.read, payloadLeaves, hd]
  dsimp only
  rw [unwrap, hc, if_neg hk]

/-- The leaves of a frame that yields a logical frame are those of the logical frame. -/
private theorem Yields.leaves_eq {logical : Bytes} (h : r.Yields reassembler frame logical) :
    (r.read reassembler frame).1 = r.payloadLeaves (some logical) := by
  cases h with
  | whole hw => rw [hw.read]
  | completed hc ha =>
    rw [hc.read, ha]
    rfl

/-- A frame that yields nothing has no leaves, or cannot be opened. -/
private theorem leaves_of_not_yields (h : ∀ logical, ¬ r.Yields reassembler frame logical) :
    (r.read reassembler frame).1 = .ok [] ∨
      ∃ cause, (r.read reassembler frame).1 = .error cause := by
  cases hd : r.decode frame.payload with
  | error cause =>
    refine .inr ⟨cause, ?_⟩
    rw [Registry.read, hd]
  | ok d =>
    cases hc : d.packet.chunk? with
    | none => exact absurd (.whole ⟨d, hd, hc⟩) (h frame.payload)
    | some c =>
      have hholds : r.HoldsChunk frame c := ⟨d, hd, hc⟩
      rw [hholds.read]
      cases ha : (reassembler.accept frame.delivery.channel c).1 with
      | error cause => exact .inr ⟨cause, rfl⟩
      | ok payload =>
        cases payload with
        | none => exact .inl rfl
        | some payload => exact absurd (.completed hholds ha) (h payload)

end Registry

/-! ### Receiving -/

/-- A session at which a frame was opened, and nothing in it processed yet. -/
def Endpoint.opening (e : Endpoint S N X) (r : Registry S) (frame : WireFrame) : Endpoint S N X :=
  e.update fun s => { s with reassembler := (r.read s.reassembler frame).2 }

/-- Opening a frame that leaves everything in flight changes nothing. -/
private theorem Endpoint.opening_eq_self {e : Endpoint S N X} {r : Registry S} {frame : WireFrame}
    (h : (r.read e.session.reassembler frame).2 = e.session.reassembler) :
    e.opening r frame = e := by
  rw [opening, update, h]

namespace Host

variable (h : Host S N X)

/-- Processes the leaves that a frame was opened to, or fails with the error of opening it. -/
def processOpened (delivery : Delivery) :
    Except ProtocolError (List (Decoded S)) → SessionM S N X Unit
  | .error cause => h.fail cause
  | .ok ds => h.processInOrder delivery ds

variable {h}

private theorem after_receive_eq_processOpened (hw : h.protocol.codecs.WellFormed)
    (hi : h.protocol.pipeline.inbound = .empty) (frame : WireFrame) {e : Endpoint S N X}
    (hp : e.session.phase = .opened) :
    (h.receive frame).after e =
      (h.processOpened frame.delivery
        (h.protocol.codecs.read e.session.reassembler frame).1).after
          (e.opening h.protocol.codecs frame) := by
  have hopening : e.opening h.protocol.codecs frame = e.update fun s =>
      { s with reassembler := (h.protocol.codecs.read e.session.reassembler frame).2 } := rfl
  rw [after_receive hw hi frame hp, hopening]
  generalize h.protocol.codecs.read e.session.reassembler frame = opened
  obtain ⟨cause | ds, reassembler⟩ := opened <;> rfl

end Host

namespace Application

/-- A received frame that yields a logical frame above the limit fails the session for that. -/
def Limited (a : Application S N X) (depth : Nat) (e : Endpoint S N X) (frame : WireFrame) : Prop :=
  ∀ logical, a.protocol.codecs.Yields e.session.reassembler frame logical →
    a.protocol.settings.maxMessage < logical.length →
    (a.perform (depth + 1) (.receive frame)).after e =
      ((a.host (a.perform depth)).fail
        (.payloadTooLarge logical.length a.protocol.settings.maxMessage)).after e

/-- Whatever a peer sent before, and whatever was done with it, the limit holds of every frame at
an open session but for one that is a logical frame above the limit and came whole:
* if a frame yields a logical frame, the leaves of that are processed, or the session fails with
  the error of opening it; and a logical frame that did not come whole is within the limit;
* if it yields none, the session fails, or nothing but what is in flight changes;
* if it announces more than the limit on an idle channel, the session fails for that and is closed.
-/
theorem receive_limited (a : Application S N X) (hb : a.protocol.Built)
    (hi : a.protocol.pipeline.inbound = .empty) (x : X) (depth : Nat) (e : Endpoint S N X)
    (he : Course (.fresh a.protocol.settings x) e) (hp : e.session.phase = .opened)
    (frame : WireFrame) :
    let codecs := a.protocol.codecs
    let host := a.host (a.perform depth)
    let limit := a.protocol.settings.maxMessage
    let after := (a.perform (depth + 1) (.receive frame)).after e
    ((codecs.IsWhole frame → frame.payload.length ≤ limit) → a.Limited depth e frame) ∧
    (∀ logical, codecs.Yields e.session.reassembler frame logical →
      (¬ codecs.IsWhole frame → logical.length ≤ limit) ∧
      after = (host.processOpened frame.delivery (codecs.payloadLeaves (some logical))).after
        (e.opening codecs frame)) ∧
    ((∀ logical, ¬ codecs.Yields e.session.reassembler frame logical) →
      after = e.opening codecs frame ∨
        ∃ cause, after = (host.fail cause).after (e.opening codecs frame)) ∧
    ∀ c total, codecs.HoldsChunk frame c → c.total = some total → c.offset = 0 →
      e.session.reassembler.assembly? frame.delivery.channel = none → limit < total.toNat →
      after = (host.fail (.payloadTooLarge total.toNat limit)).after e ∧
        after.session.phase = .closed := by
  intro codecs host limit after
  have hi' : host.protocol.pipeline.inbound = .empty := by
    simp only [host, Application.host, Protocol.map, hi]
    rfl
  have hrun : after = (host.processOpened frame.delivery
      (codecs.read e.session.reassembler frame).1).after (e.opening codecs frame) :=
    Host.after_receive_eq_processOpened (h := host) hb.wellFormed hi' frame hp
  have hlimit : e.session.reassembler.limit = limit := he.limit_eq
  have hsound : e.session.reassembler.Sound := he.sound (Reassembler.sound_ofLimit _)
  -- what was put together is within the limit in any case, so only a whole frame can be above it
  have hbound : (codecs.IsWhole frame → frame.payload.length ≤ limit) →
      ∀ logical, codecs.Yields e.session.reassembler frame logical → logical.length ≤ limit := by
    intro hwhole logical hy
    cases hy with
    | whole hw => exact hwhole hw
    | completed _ ha => exact hlimit ▸ hsound.length_le ha
  refine ⟨?_, fun logical hy => ⟨fun hn => ?_, ?_⟩, fun hn => ?_, ?_⟩
  · intro hwhole logical hy hlong
    exact absurd (hbound hwhole logical hy) (Nat.not_le.mpr hlong)
  · exact hbound (fun hw => absurd hw hn) logical hy
  · rw [hrun, hy.leaves_eq]
  · obtain hnil | ⟨cause, herror⟩ := Registry.leaves_of_not_yields hn
    · refine .inl ?_
      rw [hrun, hnil]
      rfl
    · refine .inr ⟨cause, ?_⟩
      rw [hrun, herror]
      rfl
  · intro c total hc ht ho hidle hl
    have hread : codecs.read e.session.reassembler frame = _ := hc.read
    rw [Reassembler.accept_of_limit_lt ht hidle ho (hlimit.symm ▸ hl), hlimit] at hread
    have hfails : after = (host.fail (.payloadTooLarge total.toNat limit)).after e := by
      rw [hrun, Endpoint.opening_eq_self (congrArg Prod.snd hread), hread]
      rfl
    refine ⟨hfails, ?_⟩
    rw [hfails]
    exact Host.closed_fail (a.callbacksOnCourse_host (a.onCourse_perform depth)) _

/-- The codec of positions. -/
def position : Codec Sample.plain (.application .position) where
  encode := Sample.encode Unit .position
  decode := Sample.decode Unit .position

/-- A protocol that knows positions. -/
def charted : Protocol Sample.plain (Script Sample.plain Unit Unit) :=
  { Protocol.initial with
    codecs := ⟨Registry.reserved.entries ++ [⟨⟨1⟩, .application .position, position⟩]⟩ }

/-- A protocol that has a handler for positions, and allows logical frames of one byte less than
those of positions. -/
def terse : Protocol Sample.plain (Script Sample.plain Unit Unit) :=
  { charted with
    handlers := ⟨[(⟨1⟩, ⟨none, fun _ _ => .note ()⟩)]⟩
    settings := { maxMessage := 8 } }

private theorem built_terse : terse.Built := by
  have hr : Protocol.initial.register ⟨1⟩ position = .ok charted := rfl
  have hb : charted.bind ⟨1⟩ ⟨none, fun _ _ => .note ()⟩ =
      .ok { charted with handlers := ⟨[(⟨1⟩, ⟨none, fun _ _ => .note ()⟩)]⟩ } := rfl
  exact ((Protocol.Built.initial.register hr).bind hb).settings { maxMessage := 8 }

/-- A session of that protocol that was just opened. -/
def welcomed : Endpoint Sample.plain Unit Unit :=
  ((Application.mk terse taker).perform 1 (.openWith 0)).after (.fresh terse.settings ())

/-- A first chunk that announces the frame of a position. -/
def announced : WireFrame where
  delivery := ⟨.unset, .reliableOrdered⟩
  payload := Varint.encode PacketId.fragment.raw ++ Chunk.encode ⟨some 9, 0, [1]⟩

/-- The frame of a position is refused as soon as it is announced. -/
theorem receive_limited_announced :
    welcomed.session.phase = .opened ∧
      ((Application.mk terse taker).perform 1 (.receive announced)).after welcomed =
        (((Application.mk terse taker).host ((Application.mk terse taker).perform 0)).fail
          (.payloadTooLarge 9 8)).after welcomed := by
  have hcourse : Course (.fresh terse.settings ()) welcomed := onCourse_perform _ 1 (.openWith 0) _
  obtain ⟨-, -, -, hrefused⟩ :=
    receive_limited ⟨terse, taker⟩ built_terse rfl () 0 welcomed hcourse rfl announced
  have hchunk : terse.codecs.HoldsChunk announced ⟨some 9, 0, [1]⟩ := ⟨_, rfl, rfl⟩
  exact ⟨rfl, (hrefused _ 9 hchunk rfl rfl rfl (by decide)).1⟩

/-- The frame of a position. -/
def overlong : WireFrame where
  delivery := ⟨.unset, .reliableOrdered⟩
  payload := [1, 0, 0, 0, 5, 0, 0, 0, 6]

/-- The frame of a position is above the limit, and yet its handler is run, and the session stays
open, if it comes whole. -/
theorem not_limited_overlong :
    terse.Built ∧ terse.pipeline.inbound = .empty ∧ terse.settings.validate = .ok () ∧
      Course (.fresh terse.settings ()) welcomed ∧ welcomed.session.phase = .opened ∧
      terse.codecs.Yields welcomed.session.reassembler overlong overlong.payload ∧
      terse.settings.maxMessage < overlong.payload.length ∧
      (((Application.mk terse taker).perform 1 (.receive overlong)).after welcomed).handled =
        [(⟨1⟩, ⟨.application .position, ((5, 6) : Int32 × Int32)⟩, overlong.delivery)] ∧
      ¬ (Application.mk terse taker).Limited 0 welcomed overlong := by
  have hwhole : terse.codecs.IsWhole overlong := ⟨_, rfl, rfl⟩
  refine ⟨built_terse, rfl, rfl, onCourse_perform _ 1 (.openWith 0) _, rfl, .whole hwhole,
    by decide, rfl, fun h => ?_⟩
  -- the limit would have it that the session fails and is closed, and it is still open
  have hfails := h overlong.payload (.whole hwhole) (by decide)
  have hopen : (((Application.mk terse taker).perform 1 (.receive overlong)).after
      welcomed).session.phase = .opened := rfl
  have hclosed : ((((Application.mk terse taker).host ((Application.mk terse taker).perform 0)).fail
      (.payloadTooLarge 9 8)).after welcomed).session.phase = .closed := by decide +kernel
  have hphase := congrArg (fun e => e.session.phase) hfails
  exact absurd (hopen.symm.trans (hphase.trans hclosed)) (by decide)

end Application

end PacketSession
