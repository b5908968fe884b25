import PacketSession.Proofs.Compression.RoundTrip
import PacketSession.Proofs.Session.Accepting
import PacketSession.Proofs.Session.Alike
import PacketSession.Proofs.Session.Delivery

/-!
# Compression is transparent

Compression sits next to the connection: behind all other listeners on the way out, in front of them
on the way in (`Protocol.compressed`). To a sender it is a coat that each piece is handed over in,
so what becomes of calls is computed as if there was none. A receiver takes the coat off before
anything else happens to a frame. It has to be willing to inflate as much as the longest piece takes
(`CompressionSettings.Suits`), for whether a piece was compressed is a matter of what is in it.
-/

namespace PacketSession

variable {S : Schema} {N X : Type}

/-- Whatever is as long as the longest piece is inflated, and one byte more can be asked for in 64
bits. -/
structure CompressionSettings.Suits (c : CompressionSettings) (s : Settings) : Prop where
  fits : s.longestPiece ≤ c.maxInflated
  bounded : c.maxInflated < 2 ^ 64 - 1

/-! ### Installing compression -/

section Installing

variable {m : Type → Type} [Monad m]

/-- The listeners of compression alone. -/
def Compression.pipeline (c : Compression) (name : String) : Pipeline S m :=
  ⟨⟨[(name, c.inbound)]⟩, ⟨[(name, c.outbound)]⟩⟩

namespace Protocol

/-- Adds compression, behind all other listeners on the way out and in front of them on the way
in. -/
def compressed (p : Protocol S m) (name : String) (c : Compression) :
    Except RegistrationError (Protocol S m) := do
  let p ← p.addOutbound name c.outbound .last
  p.addInbound name c.inbound .first

/-- Compression can be added wherever there are no listeners. -/
theorem compressed_eq {p : Protocol S m} (h : p.pipeline = .empty) (name : String)
    (c : Compression) : p.compressed name c = .ok { p with pipeline := c.pipeline name } := by
  obtain ⟨codecs, handlers, pipeline, lifecycle, settings⟩ := p
  cases h
  rfl

end Protocol

end Installing

/-! ### Senders -/

/-- Connections take every frame, stay connected, and leave the session alone until they are asked
to go away. -/
structure Carrier.Accepting (c : Carrier X (Script S N X)) : Prop where
  carries : ∀ connection frame, (c.send connection frame).Silent
  connected : ∀ connection, (c.isConnected connection).Silent
  takes : ∀ (a : Application S N X) depth connection frame e,
    ∃ write, (a.run depth (c.send connection frame)).answer e = .ok write
  stays : ∀ (a : Application S N X) depth connection e,
    (a.run depth (c.isConnected connection)).answer e = true

namespace Application

variable (a : Application S N X) (depth : Nat)

private theorem accepting_host (h : a.carrier.Accepting) :
    (a.host (a.perform depth)).Accepting where
  carries connection frame e := (h.carries connection frame).apart (a.after_inspect depth) e
  connected connection e := (h.connected connection).apart (a.after_inspect depth) e
  takes connection frame e := h.takes a depth connection frame e
  stays connection e := h.stays a depth connection e

private theorem coats_of_empty (h : a.protocol.pipeline.outbound = .empty) :
    (a.host (a.perform depth)).Coats id :=
  Host.emit_eq (Protocol.outbound_map h _)

/-- Compression that never fails hands every piece over in its encoded form. -/
private theorem coats_of_compression {name : String} {c : Compression} (hc : c.compressor.Reliable)
    (h : a.protocol.pipeline.outbound = ⟨[(name, c.outbound)]⟩) :
    (a.host (a.perform depth)).Coats c.encoded := by
  intro connection delivery piece
  have hone : List.forM [Message.bytes (c.encoded piece)]
      ((a.host (a.perform depth)).deliver connection delivery) =
        (a.host (a.perform depth)).deliver connection delivery (.bytes (c.encoded piece)) :=
    bind_pure_unit
  rw [Host.emit, a.run_send_of_compression h, Compression.compress_eq hc]
  exact hone

/-! ### Receivers -/

/-- Compression makes the frame of its encoded form, unless the frame is too long. -/
private theorem makes_of_compression {name : String} {c : Compression} (hc : c.compressor.Reliable)
    (h : a.protocol.pipeline.inbound = ⟨[(name, c.inbound)]⟩) {frame : WireFrame}
    (hl : frame.payload.length ≤ c.settings.maxInflated) :
    (a.host (a.perform depth)).Makes (frame.coated c.encoded) frame where
  delivery := rfl
  passes := by
    have hstages : (a.host (a.perform depth)).protocol.pipeline.inbound.listeners =
        [fun delivery message => ExceptT.mk (Script.run (a.perform depth)
          (c.inbound delivery message).run)] := by
      simp only [host, Protocol.map, h]
      rfl
    rw [Pipeline.receive, hstages]
    simp only [Pipeline.receiveThrough, Compression.inbound, WireFrame.coated,
      Compression.decompress_encoded hc hl]
    rfl

variable {a} {b : Application S N X}

/-- Silent handlers do not depend on what else their application consists of. -/
private theorem handlers_host_eq (hb : b.protocol.handlers = a.protocol.handlers)
    (hh : ∀ entry ∈ a.protocol.handlers.entries, ∀ packet delivery,
      (entry.2.run packet delivery).Silent) :
    (b.host (b.perform depth)).protocol.handlers =
      (a.host (a.perform depth)).protocol.handlers := by
  have hinspect : b.perform depth .inspect = a.perform depth .inspect := by
    rw [perform_inspect, perform_inspect]
  simp only [host, Protocol.map, hb]
  refine congrArg HandlerTable.mk (List.map_congr_left fun entry he => ?_)
  refine congrArg (Prod.mk entry.1) (congrArg (Handler.mk entry.2.accepts) ?_)
  funext packet delivery
  exact (hh entry he packet delivery).run_eq hinspect

private theorem matches_host (hc : b.protocol.codecs = a.protocol.codecs)
    (hb : b.protocol.handlers = a.protocol.handlers)
    (hh : ∀ entry ∈ a.protocol.handlers.entries, ∀ packet delivery,
      (entry.2.run packet delivery).Silent) :
    (a.host (a.perform depth)).Matches (b.host (b.perform depth)) where
  codecs := hc
  handlers := handlers_host_eq depth hb hh
  quiet := a.keepsQuiet_host depth
  quiet' := b.keepsQuiet_host depth

end Application

/-! ### Both ends -/

namespace Application

/-- Compression at both ends changes nothing that the applications can tell. Whatever calls to send
are made at an open session over connections that take every frame: they have the same answers as
without compression, up to the writes, which are the connection's, as many frames are handed over,
and when the other end receives these its handlers are run on the same packets in the same order and
with the same delivery. The compressor never fails and inflates what it compressed, the settings of
the sender are consistent, and what pieces they lead to is within what compression inflates. Of the
receiver, only the handlers have to leave their session alone. -/
theorem compression_transparent (p q : Protocol S (Script S N X)) (hp : p.Built) (hq : q.Built)
    (hv : p.settings.validate = .ok ()) (hnone : p.pipeline = .empty)
    (hnone' : q.pipeline = .empty) (c : Compression) (hc : c.compressor.Reliable)
    (hs : c.settings.Suits p.settings) (name : String) (sender receiver : Carrier X (Script S N X))
    (ha : sender.Accepting)
    (hh : ∀ entry ∈ q.handlers.entries, ∀ packet delivery,
      (entry.2.run packet delivery).Silent)
    (calls : List (Submission S)) (depth depth' : Nat) (e e' : Endpoint S N X)
    (he : e.session.Consistent) (ho : e.session.phase = .opened) :
    ∃ p' q' wire wire', p.compressed name c = .ok p' ∧ q.compressed name c = .ok q' ∧
      ((submitAll ⟨p, sender⟩ (depth + 1) calls).after e).taken = e.taken ++ wire ∧
      ((submitAll ⟨p', sender⟩ (depth + 1) calls).after e).taken = e.taken ++ wire' ∧
      wire'.length = wire.length ∧
      ((submitAll ⟨p', sender⟩ (depth + 1) calls).answer e).map (Except.map SendHandle.frames) =
        ((submitAll ⟨p, sender⟩ (depth + 1) calls).answer e).map (Except.map SendHandle.frames) ∧
      ((receiveAll ⟨q', receiver⟩ (depth' + 1) wire').after e').handled =
        ((receiveAll ⟨q, receiver⟩ (depth' + 1) wire).after e').handled := by
  let p' := { p with pipeline := c.pipeline name }
  let q' := { q with pipeline := c.pipeline name }
  let wire := (p.codecs.effects p.settings none calls).2
  have hended : e.Ended none := ⟨he, ho⟩
  -- the sender: without compression the coat is nothing
  obtain ⟨hanswers, htaken⟩ := submitAll_eq_effects (a := ⟨p, sender⟩)
    (accepting_host _ depth ha) (coats_of_empty _ depth (by rw [hnone]; rfl)) hended calls
  obtain ⟨hanswers', htaken'⟩ := submitAll_eq_effects (a := ⟨p', sender⟩)
    (accepting_host _ depth ha) (coats_of_compression _ depth hc rfl) hended calls
  rw [WireFrame.coated_id, List.map_id] at htaken
  -- the receiver: every frame is short enough to be inflated
  have hmakes : List.Forall₂ (Host.Makes (host ⟨q', receiver⟩ (perform ⟨q', receiver⟩ depth')))
      (wire.map (WireFrame.coated c.encoded)) wire := by
    rw [List.forall₂_map_left_iff, List.forall₂_same]
    intro frame hf
    have hlength := Registry.length_le_of_mem_effects hp.wellFormed hv none calls frame hf
    exact makes_of_compression ⟨q', receiver⟩ depth' hc rfl (hlength.trans hs.fits)
  have halike := Host.alike_receiveAll
    (matches_host (a := ⟨q, receiver⟩) (b := ⟨q', receiver⟩) depth' rfl rfl hh) hq.wellFormed
    (Protocol.inbound_map (by rw [hnone']; rfl) _) (.same (e := e')) hmakes
  exact ⟨p', q', wire, wire.map (WireFrame.coated c.encoded), Protocol.compressed_eq hnone name c,
    Protocol.compressed_eq hnone' name c, htaken, htaken', List.length_map ..,
    hanswers'.trans hanswers.symm, halike.handled_eq⟩

/-- The codec of blobs. -/
def blob : Codec Sample.plain (.application .blob) where
  encode := Sample.encode Unit .blob
  decode := Sample.decode Unit .blob

/-- A protocol that knows blobs. -/
def storing : Protocol Sample.plain (Script Sample.plain Unit Unit) :=
  { Protocol.initial with
    codecs := ⟨Registry.reserved.entries ++ [⟨⟨1⟩, .application .blob, blob⟩]⟩ }

/-- A protocol that knows blobs and has a handler for them. -/
def blobs : Protocol Sample.plain (Script Sample.plain Unit Unit) :=
  { storing with handlers := ⟨[(⟨1⟩, ⟨none, fun _ _ => .note ()⟩)]⟩ }

private theorem built_blobs : blobs.Built := by
  have hr : Protocol.initial.register ⟨1⟩ blob = .ok storing := rfl
  have hb : storing.bind ⟨1⟩ ⟨none, fun _ _ => .note ()⟩ = .ok blobs := rfl
  exact (Protocol.Built.initial.register hr).bind hb

private theorem accepting_taker : taker.Accepting where
  carries _ _ := .done _
  connected _ := .done _
  takes _ _ _ _ _ := ⟨_, rfl⟩
  stays _ _ _ _ := rfl

/-- A session that was opened with a connection, in the protocol of blobs. -/
def storage : Endpoint Sample.plain Unit Unit :=
  ((Application.mk blobs taker).perform 1 (.openWith 0)).after (.fresh {} ())

/-- A blob of zeros. -/
def zeros : Packet Sample.plain := ⟨.application .blob, List.replicate 64 0⟩

/-- The frame of the blob of zeros. -/
def zeroFrame : Bytes := 1 :: 64 :: List.replicate 64 0

/-- What the frame is compressed to at the standard level. -/
def zeroStream : Bytes := [40, 181, 47, 253, 0, 88, 77, 0, 0, 24, 1, 64, 0, 1, 0, 148, 192, 16]

/-- Sixty-six bytes travel in nineteen. -/
theorem compression_transparent_zeros :
    let c := Compression.withSettings (.knowing zeroFrame zeroStream) {}
    blobs.settings.validate = .ok () ∧ c.compressor.Reliable ∧ c.settings.Suits blobs.settings ∧
      taker.Accepting ∧ storage.session.Consistent ∧ storage.session.phase = .opened ∧
      ∃ p' wire wire', blobs.compressed "compression" c = .ok p' ∧
        ((submitAll ⟨blobs, taker⟩ 1 [.packets (.single zeros {})]).after storage).taken = wire ∧
        ((submitAll ⟨p', taker⟩ 1 [.packets (.single zeros {})]).after storage).taken = wire' ∧
        wire.map (fun frame => frame.payload.length) = [66] ∧
        wire'.map (fun frame => frame.payload.length) = [19] ∧
        ((receiveAll ⟨p', taker⟩ 1 wire').after storage).handled = [(⟨1⟩, zeros, {})] := by
  intro c
  have hc : c.compressor.Reliable := Compressor.reliable_knowing zeroFrame (by decide)
  have hs : c.settings.Suits blobs.settings := ⟨by decide, by decide⟩
  have he : storage.session.Consistent :=
    ((Application.mk blobs taker).staysConsistent_perform 1 (.openWith 0) _ (.fresh _)).consistent
      (.fresh _)
  have hh : ∀ entry ∈ blobs.handlers.entries, ∀ packet delivery,
      (entry.2.run packet delivery).Silent := by
    intro entry he packet delivery
    rw [List.mem_singleton.mp he]
    exact .write () (.done ())
  obtain ⟨p', q', wire, wire', hp', hq', ht, ht', -, -, hhandled⟩ :=
    compression_transparent blobs blobs built_blobs built_blobs rfl rfl rfl c hc hs "compression"
      taker taker accepting_taker hh [.packets (.single zeros {})] 0 0 storage storage he rfl
  -- both sides build the same pipeline
  cases hp'
  cases hq'
  have htaken : ((submitAll ⟨blobs, taker⟩ 1 [.packets (.single zeros {})]).after storage).taken =
      [⟨{}, zeroFrame⟩] := by decide +kernel
  have htaken' : ((submitAll ⟨{ blobs with pipeline := c.pipeline "compression" }, taker⟩ 1
      [.packets (.single zeros {})]).after storage).taken = [⟨{}, 1 :: zeroStream⟩] := by
    decide +kernel
  obtain rfl : [⟨{}, zeroFrame⟩] = wire := htaken.symm.trans ht
  obtain rfl : [⟨{}, 1 :: zeroStream⟩] = wire' := htaken'.symm.trans ht'
  exact ⟨rfl, hc, hs, accepting_taker, he, rfl, _, _, _, rfl, ht, ht', rfl, rfl, hhandled.trans rfl⟩

end Application

end PacketSession
