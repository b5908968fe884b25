import PacketSession.Proofs.Protocol.Built
import PacketSession.Proofs.Script.Silent
import PacketSession.Proofs.Session.Calls

/-!
# What a successful send hands to the connection

`Protocol.Carries` says which payloads a frame travels in: itself, or the frames of its chunks.
A call to send that succeeds has handed over, in order, the payloads of the frames that its
packets were encoded to, and has left the session as it was. The outbound chain has to be empty
for that, and the connection must not call the session while it takes a frame.
-/

namespace PacketSession

variable {S : Schema} {N X : Type}

/-! ### What travels -/

/-- A call to send. -/
inductive Sending (S : Schema)
  /-- One packet. -/
  | single (packet : Packet S) (delivery : Delivery)
  /-- Packets in batches. -/
  | batch (packets : List (Packet S)) (delivery : Delivery)

namespace Sending

/-- The packets of a call, in order. -/
def packets : Sending S → List (Packet S)
  | single packet _ => [packet]
  | batch packets _ => packets

/-- The channel and delivery class of a call. -/
def delivery : Sending S → Delivery
  | single _ delivery | batch _ delivery => delivery

/-- The packets of the call travel in batches. -/
def IsBatch : Sending S → Prop
  | single .. => False
  | batch .. => True

end Sending

namespace Registry

variable (r : Registry S) (settings : Settings)

/-- The frames that the packets of a call are encoded to, for a batch those of its envelopes. -/
def framesOf : Sending S → Except ProtocolError (List Bytes)
  | .single packet _ => do return [← r.encode packet]
  | .batch packets _ => do
    let frames ← packets.mapM r.encode
    (Batch.pack settings.batching frames).mapM fun batch => r.encode (.ofBatch batch)

/-- A frame travels in payloads. -/
inductive Carries : Bytes → List Bytes → Prop
  /-- It travels whole. -/
  | whole {frame : Bytes} : Carries frame [frame]
  /-- It travels in chunks. -/
  | chunks {frame : Bytes} {chunks : List Chunk} {payloads : List Bytes} :
      frame.length ≤ settings.maxMessage → settings.fragmentThreshold < frame.length →
      (Fragmenter.ofSize settings.fragmentThreshold).split frame = .ok chunks →
      (chunks.mapM fun c => r.encode (.ofChunk c)) = .ok payloads →
      Carries frame payloads

/-- Frames travel one after the other. -/
inductive CarriesAll : List Bytes → List Bytes → Prop
  | nil : CarriesAll [] []
  | cons {frame : Bytes} {frames front back : List Bytes} : r.Carries settings frame front →
      CarriesAll frames back → CarriesAll (frame :: frames) (front ++ back)

/-- The packets of calls travel one call after the other. -/
inductive CarriesCalls : List (Sending S) → List WireFrame → Prop
  | nil : CarriesCalls [] []
  | cons {call : Sending S} {calls : List (Sending S)} {frames payloads : List Bytes}
      {wire : List WireFrame} : r.framesOf settings call = .ok frames →
      r.CarriesAll settings frames payloads → CarriesCalls calls wire →
      CarriesCalls (call :: calls) (payloads.map (⟨call.delivery, ·⟩) ++ wire)

end Registry

/-! ### Sending actions -/

namespace SendingM

/-- If a sending action succeeds, connections took frames of a given description, and the session
is as it was. -/
def Hands (m : SendingM S N X Unit) (wire : List WireFrame → Prop) : Prop :=
  ∀ handle e, ((m.run.run handle).answer e).1 = .ok () →
    ∃ frames, wire frames ∧ ((m.run.run handle).after e).session = e.session ∧
      ((m.run.run handle).after e).taken = e.taken ++ frames

variable {wire wire' : List WireFrame → Prop} {α : Type}

theorem Hands.mono {m : SendingM S N X Unit} (h : m.Hands wire)
    (hw : ∀ frames, wire frames → wire' frames) : m.Hands wire' := by
  intro handle e ho
  obtain ⟨frames, hf, hs, ht⟩ := h handle e ho
  exact ⟨frames, hw frames hf, hs, ht⟩

theorem Hands.pure : Hands (pure () : SendingM S N X Unit) (· = []) :=
  fun _ e _ => ⟨[], rfl, rfl, (List.append_nil e.taken).symm⟩

theorem Hands.throw (cause : ProtocolError) : Hands (throw cause : SendingM S N X Unit) wire := by
  intro _ _ ho
  cases ho

/-- If both of two actions succeed, connections took the frames of the first and then those of the
second. -/
theorem Hands.bind {m n : SendingM S N X Unit} (hm : m.Hands wire) (hn : n.Hands wire') :
    Hands (m >>= fun _ => n)
      (fun frames => ∃ front back, wire front ∧ wire' back ∧ frames = front ++ back) := by
  intro handle e ho
  have hrun : (m >>= fun _ => n).run.run handle =
      (m.run.run handle >>= fun r => (ExceptT.bindCont (fun _ => n) r.1).run r.2) := rfl
  rw [hrun] at ho ⊢
  rw [SessionM.answer_bind] at ho
  rw [SessionM.after_bind]
  -- if the first action fails, so does the whole
  rcases hr : (m.run.run handle).answer e with ⟨_ | _, handle₁⟩
  · rw [hr] at ho
    cases ho
  · rw [hr] at ho
    obtain ⟨front, hf, hs₁, ht₁⟩ := hm handle e (by rw [hr])
    obtain ⟨back, hb, hs₂, ht₂⟩ := hn handle₁ _ ho
    exact ⟨front ++ back, ⟨front, back, hf, hb, rfl⟩, hs₂.trans hs₁,
      by rw [← List.append_assoc, ← ht₁]; exact ht₂⟩

theorem answer_lift_bind (m : SessionM S N X α) (f : α → SendingM S N X Unit)
    (handle : SendHandle) (e : Endpoint S N X) :
    ((m >>= f : SendingM S N X Unit).run.run handle).answer e =
      ((f (m.answer e)).run.run handle).answer (m.after e) := rfl

theorem after_lift_bind (m : SessionM S N X α) (f : α → SendingM S N X Unit)
    (handle : SendHandle) (e : Endpoint S N X) :
    ((m >>= f : SendingM S N X Unit).run.run handle).after e =
      ((f (m.answer e)).run.run handle).after (m.after e) := rfl

/-- Only a result that is there has to be looked at, since an action that has none fails. -/
theorem Hands.ofExcept {r : Except ProtocolError α} {f : α → SendingM S N X Unit}
    (h : ∀ a, r = .ok a → (f a).Hands wire) : Hands (SendingM.ofExcept r >>= f) wire := by
  cases r with
  | ok a => exact h a rfl
  | error cause => exact .throw cause

end SendingM

/-- A frame is taken when the journal says that it was sent without being refused. -/
theorem Endpoint.taken_record_sent (e : Endpoint S N X) (connection : ConnectionId)
    (frame : WireFrame) : (e.record (.sent connection frame none)).taken = e.taken ++ [frame] := by
  simp [taken, record]

namespace Host

variable {h : Host S N X}

/-- The connection leaves the session alone while it takes a frame. -/
def SendsApart (h : Host S N X) : Prop :=
  ∀ connection frame (e : Endpoint S N X), e.Apart ((h.carrier.send connection frame).after e)

/-- Without listeners exactly the frame comes out. -/
theorem run_send_of_empty (hout : h.protocol.pipeline.outbound = .empty) (delivery : Delivery)
    (frame : Bytes) : (h.protocol.pipeline.send delivery (.bytes frame) []).run =
      (pure (.ok [.bytes frame]) : SessionM S N X _) := by
  rw [Pipeline.send, hout]
  rfl

variable (hc : h.SendsApart) (hout : h.protocol.pipeline.outbound = .empty)
  (connection : ConnectionId) (delivery : Delivery)

include hc

/-- A frame that is handed over successfully is taken, as the only one, and the session is as it
was. -/
theorem hand_ok (frame : WireFrame) {e : Endpoint S N X} {write : WriteHandle}
    (ho : (h.hand connection frame).answer e = .ok write) :
    ((h.hand connection frame).after e).session = e.session ∧
      ((h.hand connection frame).after e).taken = e.taken ++ [frame] := by
  have ha := hc connection frame e
  rw [hand, SessionM.answer_bind] at ho
  rw [hand, SessionM.after_bind]
  cases hr : (h.carrier.send connection frame).answer e with
  | error cause =>
    rw [hr] at ho
    cases ho
  | ok write' =>
    refine ⟨ha.session, ?_⟩
    rw [← ha.taken]
    exact Endpoint.taken_record_sent _ connection frame

private theorem hands_deliver (frame : Bytes) :
    (h.deliver connection delivery (.bytes frame)).Hands (· = [⟨delivery, frame⟩]) := by
  intro handle e ho
  refine ⟨_, rfl, ?_⟩
  rw [deliver, pure_bind, SendingM.answer_lift_bind] at ho
  rw [deliver, pure_bind, SendingM.after_lift_bind]
  cases hr : (h.hand connection ⟨delivery, frame⟩).answer e with
  | error cause =>
    rw [hr] at ho
    cases ho
  | ok write => exact hand_ok hc connection _ hr

include hout

/-- With no listener on the way out, a frame that is emitted is delivered as it is. -/
private theorem hands_emit (frame : Bytes) :
    (h.emit connection delivery frame).Hands (· = [⟨delivery, frame⟩]) := by
  -- exactly the frame comes out, and it is the only one to deliver
  have hd := (hands_deliver hc connection delivery frame).bind .pure
  intro handle e ho
  rw [emit, run_send_of_empty hout] at ho ⊢
  obtain ⟨frames, ⟨_, _, rfl, rfl, rfl⟩, hs⟩ := hd handle e ho
  exact ⟨_, rfl, hs⟩

/-- A chunk is emitted as the frame that it is encoded to. -/
private theorem hands_emitChunk (c : Chunk) :
    (h.emitChunk connection delivery c).Hands fun frames =>
      ∃ payload, h.protocol.codecs.encode (.ofChunk c) = .ok payload ∧
        frames = [⟨delivery, payload⟩] :=
  .ofExcept fun payload hp =>
    (hands_emit hc hout connection delivery payload).mono fun _ hf => ⟨payload, hp, hf⟩

/-- Chunks are emitted in order, each as its frame, by induction on the list. -/
private theorem hands_emitChunks : ∀ chunks : List Chunk,
    SendingM.Hands (chunks.forM (h.emitChunk connection delivery)) fun frames =>
      ∃ payloads, (chunks.mapM fun c => h.protocol.codecs.encode (.ofChunk c)) = .ok payloads ∧
        frames = payloads.map (⟨delivery, ·⟩)
  | [] => SendingM.Hands.pure.mono fun _ hf => ⟨[], rfl, hf⟩
  | c :: chunks => by
    refine ((hands_emitChunk hc hout connection delivery c).bind
      (hands_emitChunks chunks)).mono ?_
    rintro _ ⟨_, _, ⟨payload, hp, rfl⟩, ⟨payloads, hps, rfl⟩, rfl⟩
    refine ⟨payload :: payloads, ?_, rfl⟩
    rw [List.mapM_cons, hp, hps]
    rfl

/-- What is handed over for a frame is what the frame travels in. -/
private theorem hands_transmit (frame : Bytes) :
    (h.transmit connection delivery frame).Hands fun wire =>
      ∃ payloads, h.protocol.codecs.Carries h.protocol.settings frame payloads ∧
        wire = payloads.map (⟨delivery, ·⟩) := by
  rw [transmit]
  split
  · exact .throw _
  rename_i hmax
  split
  · refine (hands_emit hc hout connection delivery frame).mono ?_
    rintro _ rfl
    exact ⟨[frame], .whole, rfl⟩
  · rename_i hgt
    refine .ofExcept fun chunks hs => (hands_emitChunks hc hout connection delivery chunks).mono ?_
    rintro _ ⟨payloads, hp, rfl⟩
    exact ⟨payloads, .chunks (Nat.le_of_not_lt hmax) (Nat.lt_of_not_le hgt) hs hp, rfl⟩

/-- Frames are transmitted one after the other, so what is taken are their payloads in this
order. -/
private theorem hands_transmitAll : ∀ frames : List Bytes,
    SendingM.Hands (frames.forM (h.transmit connection delivery)) fun wire =>
      ∃ payloads, h.protocol.codecs.CarriesAll h.protocol.settings frames payloads ∧
        wire = payloads.map (⟨delivery, ·⟩)
  | [] => SendingM.Hands.pure.mono fun _ hf => ⟨[], .nil, hf⟩
  | frame :: frames => by
    refine ((hands_transmit hc hout connection delivery frame).bind
      (hands_transmitAll frames)).mono ?_
    rintro _ ⟨_, _, ⟨front, hf, rfl⟩, ⟨back, hb, rfl⟩, rfl⟩
    exact ⟨front ++ back, .cons hf hb, (List.map_append).symm⟩

omit connection in
/-- Frames that were submitted travel to the connection, and the session is as it was. -/
private theorem submit_ok {frames : List Bytes} {e : Endpoint S N X} {handle : SendHandle}
    (ho : (h.submit delivery frames).answer e = .ok handle) :
    ∃ payloads, h.protocol.codecs.CarriesAll h.protocol.settings frames payloads ∧
      ((h.submit delivery frames).after e).session = e.session ∧
      ((h.submit delivery frames).after e).taken =
        e.taken ++ payloads.map (⟨delivery, ·⟩) := by
  have hsub := h.submitted delivery frames e
  rw [ho] at hsub
  generalize (h.submit delivery frames).after e = e' at hsub ⊢
  cases hsub with
  | sent hw hr =>
    obtain ⟨wire, ⟨payloads, hp, rfl⟩, hs, ht⟩ :=
      hands_transmitAll hc hout _ delivery frames .empty e (congrArg Prod.fst hr)
    exact ⟨payloads, hp, hs, ht⟩

end Host

/-! ### Calls of an application -/

namespace Application

variable (a : Application S N X) (depth : Nat)

/-- Silent listeners on the way out leave the session alone. -/
theorem apart_outbound_host {a : Application S N X}
    (hout : ∀ listener ∈ a.protocol.pipeline.outbound.listeners, ∀ delivery message,
      Script.Silent (listener delivery message).run) (depth : Nat) :
    ∀ stage ∈ (a.host (a.perform depth)).protocol.pipeline.outbound.listeners,
      ∀ delivery message, ReceivingM.Follows Endpoint.Apart (stage delivery message) := by
  intro stage hs delivery message e
  obtain ⟨entry, he, rfl⟩ := List.mem_map.mp hs
  obtain ⟨original, ho, rfl⟩ := List.mem_map.mp he
  exact (hout _ (List.mem_map_of_mem ho) delivery message).apart (a.after_inspect depth) e

/-- Makes a call to send. -/
def sendOne : Sending S → SessionM S N X (Except SessionError SendHandle)
  | .single packet delivery => a.perform depth (.send packet delivery)
  | .batch packets delivery => a.perform depth (.sendBatch packets delivery)

/-- Makes calls to send up to the first that fails, telling whether all succeeded. -/
def sendAll : List (Sending S) → SessionM S N X Bool
  | [] => pure true
  | call :: calls => do
    match ← a.sendOne depth call with
    | .ok _ => sendAll calls
    | .error _ => return false

/-- A call to send submits the frames of its packets, if these can be encoded. -/
theorem sendOne_succ (call : Sending S) :
    a.sendOne (depth + 1) call =
      match a.protocol.codecs.framesOf a.protocol.settings call with
      | .ok frames => (a.host (a.perform depth)).submit call.delivery frames
      | .error cause => pure (.error (.protocol cause)) := by
  cases call with
  | single packet delivery =>
    have hsend : a.sendOne (depth + 1) (.single packet delivery) =
        (a.host (a.perform depth)).send packet delivery := rfl
    have hencode : (a.host (a.perform depth)).protocol.codecs.encode packet =
        a.protocol.codecs.encode packet := rfl
    rw [hsend, Host.send, hencode, Registry.framesOf]
    cases a.protocol.codecs.encode packet <;> rfl
  | batch packets delivery =>
    have hsend : a.sendOne (depth + 1) (.batch packets delivery) =
        (a.host (a.perform depth)).sendBatch packets delivery := rfl
    have hencode : (a.host (a.perform depth)).encodeBatches packets =
        a.protocol.codecs.framesOf a.protocol.settings (.batch packets delivery) := rfl
    rw [hsend, Host.sendBatch, hencode]
    cases a.protocol.codecs.framesOf a.protocol.settings (.batch packets delivery) <;> rfl

variable {a depth} (hc : ∀ connection frame, (a.carrier.send connection frame).Silent)
  (hout : a.protocol.pipeline.outbound = .empty) {e : Endpoint S N X}

include hc

/-- Silent connections leave the session alone while they take a frame. -/
private theorem sendsApart_host : (a.host (a.perform depth)).SendsApart :=
  fun connection frame e => (hc connection frame).apart (a.after_inspect depth) e

include hout

/-- What a call that succeeds was to send travels to the connection. -/
theorem sendOne_ok {call : Sending S} {handle : SendHandle}
    (ho : (a.sendOne depth call).answer e = .ok handle) :
    ∃ frames payloads, a.protocol.codecs.framesOf a.protocol.settings call = .ok frames ∧
      a.protocol.codecs.CarriesAll a.protocol.settings frames payloads ∧
      ((a.sendOne depth call).after e).session = e.session ∧
      ((a.sendOne depth call).after e).taken = e.taken ++ payloads.map (⟨call.delivery, ·⟩) := by
  cases depth with
  | zero => cases call <;> cases ho
  | succ depth =>
    have hout' : (a.host (a.perform depth)).protocol.pipeline.outbound = .empty :=
      Protocol.outbound_map hout _
    rw [sendOne_succ] at ho ⊢
    cases hf : a.protocol.codecs.framesOf a.protocol.settings call with
    | error cause =>
      rw [hf] at ho
      cases ho
    | ok frames =>
      rw [hf] at ho
      obtain ⟨payloads, hp⟩ := Host.submit_ok (sendsApart_host hc) hout' call.delivery ho
      exact ⟨frames, payloads, rfl, hp⟩

/-- What calls that succeed were to send travels to the connection, one call after the other, and
the session is as it was. -/
theorem sendAll_ok {calls : List (Sending S)} (ho : (a.sendAll depth calls).answer e = true) :
    ∃ wire, a.protocol.codecs.CarriesCalls a.protocol.settings calls wire ∧
      ((a.sendAll depth calls).after e).session = e.session ∧
      ((a.sendAll depth calls).after e).taken = e.taken ++ wire := by
  induction calls generalizing e with
  | nil => exact ⟨[], .nil, rfl, (List.append_nil e.taken).symm⟩
  | cons call calls ih =>
    rw [sendAll, SessionM.answer_bind] at ho
    rw [sendAll, SessionM.after_bind]
    cases hr : (a.sendOne depth call).answer e with
    | error refusal =>
      rw [hr] at ho
      cases ho
    | ok handle =>
      rw [hr] at ho
      obtain ⟨frames, payloads, hf, hp, hs, ht⟩ := sendOne_ok hc hout hr
      obtain ⟨wire, hw, hs', ht'⟩ := ih ho
      refine ⟨_, .cons hf hp hw, hs'.trans hs, ht'.trans ?_⟩
      rw [ht, List.append_assoc]

end Application

end PacketSession
