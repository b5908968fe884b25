import PacketSession.Proofs.Session.Emission
import PacketSession.Proofs.Session.Lifecycle
import PacketSession.Sample.Packets

/-!
# What is left of a call to send

A call to send passes frames through listeners and hands what comes out to the connection, one
frame after the other, and it may be refused at any of them. Its handle counts the frames that
the connection took, also when the call fails (`Host.exists_taken_transmitAll`). By that count, and
by whether the connection itself failed, a failed call either leaves the session as it was or fails
it: the session never stays open with a part of a message under way
(`Application.accounted_perform`).
Listeners and connections must not call the session for that; the callbacks of a session that
fails may call whatever they like.
-/

namespace PacketSession

variable {S : Schema} {N X : Type}

/-! ### Sessions that are left alone -/

/-- Whether an event is neither the start of a callback nor that of a handler. -/
def Event.isAside : Event S N → Bool
  | announcing _ | sent _ _ _ | disconnecting _ _ | note _ => true
  | _ => false

namespace Endpoint

/-- Nothing happened to the session, no callback started and no handler ran. -/
structure Unmoved (e e' : Endpoint S N X) : Prop where
  session : e'.session = e.session
  callbacks : e'.callbacks = e.callbacks
  handled : e'.handled = e.handled

variable {e e₁ : Endpoint S N X}

/-- A callback that leaves the session alone writes notes only, and a note is the start of
nothing. -/
theorem Apart.callbacks (h : e.Apart e₁) : e₁.callbacks = e.callbacks := by
  obtain ⟨notes, hj⟩ := h.journal
  have hnone : ∀ note : N, (Entry.seen (.note note) : Entry S N).callback? = none := fun _ => rfl
  simp [Endpoint.callbacks, callbacksIn, hj, hnone]

theorem Unmoved.of_apart (h : e.Apart e₁) : e.Unmoved e₁ := ⟨h.session, h.callbacks, h.handled⟩

/-- An entry about frames, announcements or notes says of no callback and no handler that it ran. -/
theorem Unmoved.record (e : Endpoint S N X) {event : Event S N} (h : event.isAside = true) :
    e.Unmoved (e.record event) := by
  cases event with
  | opened | failed | closed | handling => cases h
  | announcing | sent | disconnecting | note =>
    refine ⟨rfl, ?_, ?_⟩
    · simp [callbacks_eq, milestones_record, Event.isCallback]
    · simp [Endpoint.handled, Endpoint.record]

instance : IsPreorder (Endpoint S N X) Unmoved where
  refl _ := ⟨rfl, rfl, rfl⟩
  trans _ _ _ h₁ h₂ := ⟨h₂.session.trans h₁.session, h₂.callbacks.trans h₁.callbacks,
    h₂.handled.trans h₁.handled⟩

end Endpoint

open Endpoint

/-! ### Hosts that leave the session alone -/

namespace Host

/-- Listeners on the way out and connections leave the session alone. -/
structure Reserved (h : Host S N X) : Prop where
  outbound : ∀ stage ∈ h.protocol.pipeline.outbound.listeners, ∀ delivery message,
    ReceivingM.Follows Apart (stage delivery message)
  carries : h.SendsApart
  hangsUp : ∀ connection reason, (h.carrier.disconnect connection reason).Follows Apart
  connected : ∀ connection, (h.carrier.isConnected connection).Follows Apart

variable {h : Host S N X} (hr : h.Reserved) (connection : ConnectionId) (delivery : Delivery)

include hr

/-- At a reserved host, what runs in the middle of a send leaves the session unmoved. -/
private theorem sends_unmoved : h.Sends Unmoved connection delivery where
  outbound stage hs delivery message e := .of_apart (hr.outbound stage hs delivery message e)
  hands _ := follows_hand (fun e => .of_apart (hr.carries connection _ e)) fun e _ => .record e rfl

omit delivery in
/-- A passive connection that is asked to go away leaves the session unmoved. -/
private theorem unmoved_disconnect (reason : String) :
    (h.disconnect connection reason).Follows Unmoved :=
  follows_disconnect (fun e => .of_apart (hr.hangsUp _ _ e)) fun e => .record e rfl

omit delivery in
/-- An announcement is an entry and some frames, and none of these moves the session. -/
private theorem unmoved_announceIfConnected (reason : String) :
    (h.announceIfConnected connection reason).Follows Unmoved :=
  follows_announceIfConnected (fun e => .of_apart (hr.connected connection e))
    (fun e => .record e rfl) (follows_transmit (sends_unmoved hr connection _))

omit delivery in
/-- Connections that leave the session alone take no other frame while they take one. -/
private theorem takesSingly_of_reserved : h.TakesSingly :=
  fun connection frame e => (hr.carries connection frame e).taken

omit delivery in
/-- Listeners that leave the session alone hand nothing over while they run. -/
private theorem listensMutely_of_reserved : h.ListensMutely :=
  fun stage hs delivery message e => (hr.outbound stage hs delivery message e).taken

variable (hc : h.CallbacksOnCourse)

include hc

/-- Whether a piece goes out or not, nothing is handed over aside. -/
private theorem aside_emit (piece : Bytes) :
    (h.emit connection delivery piece).Adds fun _ rounds => ∀ round ∈ rounds, round.aside = [] := by
  refine (adds_emit delivery (takesSingly_of_reserved hr) connection hc.outbound piece).mono ?_
  rintro _ _ ⟨round, rfl, -, hmute⟩
  exact List.forall_mem_singleton.mpr (hmute (listensMutely_of_reserved hr))

/-- Nor is there anything aside for a frame, whether it travels whole or in chunks. -/
private theorem aside_transmit (frame : Bytes) :
    (h.transmit connection delivery frame).Adds fun _ rounds =>
      ∀ round ∈ rounds, round.aside = [] := by
  rw [transmit]
  split
  · exact .throw (by simp)
  · split
    · exact aside_emit hr connection delivery hc frame
    · exact .ofExcept_bind (by simp) fun chunks _ => .forM (fun chunk => .ofExcept_bind (by simp)
        fun piece _ => aside_emit hr connection delivery hc piece) chunks

/-- The handle counts what the connection takes of frames. -/
theorem exists_taken_transmitAll (frames : List Bytes) {e : Endpoint S N X}
    {r : Except ProtocolError Unit} {handle : SendHandle}
    (ho : (SendingM.collect (frames.forM (h.transmit connection delivery))).answer e =
      (r, handle)) :
    ∃ taken, ((SendingM.collect (frames.forM (h.transmit connection delivery))).after e).taken =
        e.taken ++ taken ∧ handle.frames = taken.length := by
  obtain ⟨rounds, haside, ht, hcount⟩ :=
    (SendingM.Adds.forM (aside_transmit hr connection delivery hc) frames).collect ho
  rw [Round.flatMap_wire haside] at ht
  exact ⟨_, ht, hcount⟩

/-! ### Sessions that fail -/

variable {e : Endpoint S N X}

omit hr connection delivery in
/-- A session that ends with a failure starts the two callbacks for that, and no other one. -/
theorem callbacks_finish_some (hp : e.session.phase ≠ .closed) (cause : ProtocolError) :
    ((h.finish (some cause)).after e).callbacks =
      e.callbacks ++ [.failed .closed cause, .closed .closed] := by
  have hl := onCourse_letGo hc e.session.connection e.session.reasonText
    (e.turn .ends fun s => released s (some cause))
  -- the callbacks may act on the session in any way, so each state between them is kept general
  -- and only its phase is followed
  rw [after_finish_some hp]
  dsimp only
  generalize (h.letGo e.session.connection e.session.reasonText).after
    (e.turn .ends fun s => released s (some cause)) = e₁ at hl ⊢
  have hp₁ : e₁.session.phase = .closed := hl.closed rfl
  have hf := hc.failed cause (e₁.record (.failed e₁.session.phase cause))
  generalize (h.protocol.lifecycle.onException cause).after
    (e₁.record (.failed e₁.session.phase cause)) = e₂ at hf ⊢
  have hp₂ : e₂.session.phase = .closed := hf.closed hp₁
  have hd := hc.closed (e₂.record (.closed e₂.session.phase))
  -- the session is closed by now, so what the callbacks do starts no other ones
  calc (h.protocol.lifecycle.onClosed.after (e₂.record (.closed e₂.session.phase))).callbacks
      = e₂.callbacks ++ [.closed e₂.session.phase] :=
        (hd.callbacks_of_closed hp₂).trans (callbacks_record e₂ rfl)
    _ = e₁.callbacks ++ [.failed e₁.session.phase cause] ++ [.closed e₂.session.phase] := by
        rw [hf.callbacks_of_closed hp₁, callbacks_record e₁ rfl]
    _ = e.callbacks ++ [.failed .closed cause, .closed .closed] := by
        rw [hl.callbacks_of_closed rfl, callbacks_turn, hp₁, hp₂, List.append_assoc]
        rfl

omit connection delivery in
/-- A session that fails starts the same two callbacks: nothing happens to it between its turn and
its end. -/
private theorem callbacks_fail (hp : e.session.phase ≠ .closed) (cause : ProtocolError) :
    ((h.fail cause).after e).callbacks =
      e.callbacks ++ [.failed .closed cause, .closed .closed] := by
  obtain ⟨e₁, hu, heq⟩ := exists_finish_of_fail hp cause
    (fun connection => unmoved_announceIfConnected hr connection _)
    (fun connection => unmoved_disconnect hr connection _)
  have hp₁ : e₁.session.phase ≠ .closed := by
    rw [hu.session]
    exact Phase.noConfusion
  rw [heq, ← callbacks_turn e, ← hu.callbacks]
  exact callbacks_finish_some hc hp₁ cause

end Host

/-! ### Calls to send -/

/-- Whether an error says that the connection can no longer be trusted. -/
def SessionError.IsFatal (error : SessionError) : Prop :=
  ∃ cause, error = .transport cause ∧ cause.isFatal = true

/-- What a call to send may leave behind, by its answer. If it succeeds, nothing happens to the
session, and the handle counts what connections took. If it fails, nothing happens to the session
exactly if connections took nothing and can still be trusted; otherwise the session is closed, and
the callbacks for its failure and its end start, and no others. -/
def Accounted (e e' : Endpoint S N X) : Except SessionError SendHandle → Prop
  | .ok handle => e.Unmoved e' ∧ ∃ frames, e'.taken = e.taken ++ frames ∧
      handle.frames = frames.length
  | .error error => (e.Unmoved e' ↔ e'.taken = e.taken ∧ ¬ error.IsFatal) ∧
      (e.Unmoved e' ∨ e'.session.phase = .closed ∧ ∃ cause, error = Host.sendError cause ∧
        e'.callbacks = e.callbacks ++ [.failed .closed cause, .closed .closed])

/-- A call that is refused before anything is sent leaves nothing behind. -/
theorem accounted_refusal {e : Endpoint S N X} {error : SessionError} (hn : ¬ error.IsFatal) :
    Accounted e e (.error error) :=
  ⟨iff_of_true (Std.Refl.refl e) ⟨rfl, hn⟩, .inl (Std.Refl.refl e)⟩

/-- Errors about the packet that is sent leave the session open. -/
private theorem not_isFatal_protocol (cause : ProtocolError) : ¬
    (SessionError.protocol cause).IsFatal := by
  rintro ⟨_, h, -⟩
  cases h

namespace Host

/-- A failed send takes the session with it if a part of it went out, or if the connection itself
failed. -/
theorem breaksStream_iff {handle : SendHandle} {cause : ProtocolError} :
    breaksStream handle cause = true ↔ 0 < handle.frames ∨ (sendError cause).IsFatal := by
  cases cause with
  | transport cause => simp [breaksStream, sendError, SessionError.IsFatal, or_comm]
  | _ => simp [breaksStream, sendError, SessionError.IsFatal]

/-- A session that has no connection to write to refuses without failing. -/
private theorem not_isFatal_of_writable {s : Session S} {refusal : SessionError}
    (hw : writable s = .error refusal) : ¬ refusal.IsFatal := by
  rintro ⟨cause, rfl, -⟩
  unfold writable at hw
  split at hw <;> cases hw

variable {h : Host S N X} (hr : h.Reserved) (hc : h.CallbacksOnCourse) (delivery : Delivery)
  {e : Endpoint S N X} (hp : e.session.phase = .opened)

include hr hc hp

/-- A failure after frames were taken, or one of the connection, ends the session. -/
private theorem accounted_fail {e₁ : Endpoint S N X} {frames : List WireFrame}
    {cause : ProtocolError} (hu : e.Unmoved e₁) (ht : e₁.taken = e.taken ++ frames)
    (hb : 0 < frames.length ∨ (sendError cause).IsFatal) :
    Accounted e ((h.fail cause).after e₁) (.error (sendError cause)) := by
  have hp₁ : e₁.session.phase ≠ .closed := by
    rw [hu.session, hp]
    exact Phase.noConfusion
  have hclosed := closed_fail hc cause (e := e₁)
  have hcallbacks := callbacks_fail hr hc hp₁ cause
  rw [hu.callbacks] at hcallbacks
  refine ⟨iff_of_false ?_ ?_, .inr ⟨hclosed, cause, rfl, hcallbacks⟩⟩
  · intro hmoved
    rw [hmoved.session, hp] at hclosed
    cases hclosed
  · rintro ⟨hsame, hn⟩
    -- what was taken stays taken, so there was nothing
    have hgrow := (onCourse_fail hc cause e₁).taken_grow.length_le
    rw [hsame, ht, List.length_append] at hgrow
    have hpos := hb.resolve_right hn
    omega

/-- Frames that are submitted at an open session are accounted for. -/
theorem accounted_submit (frames : List Bytes) :
    Accounted e ((h.submit delivery frames).after e) ((h.submit delivery frames).answer e) := by
  have hsub := h.submitted delivery frames e
  generalize (h.submit delivery frames).answer e = answer at hsub ⊢
  generalize (h.submit delivery frames).after e = e' at hsub ⊢
  have hu : ∀ connection, e.Unmoved
      ((SendingM.collect (frames.forM (h.transmit connection delivery))).after e) :=
    fun connection => SendingM.Follows.collect (SendingM.Follows.forM
      (follows_transmit (sends_unmoved hr connection delivery)) frames) e
  -- the handle alone decides what becomes of the session, and it counts what was taken
  cases hsub with
  | refused hw => exact accounted_refusal (not_isFatal_of_writable hw)
  | @sent connection handle _ hresult =>
    obtain ⟨taken, ht, hcount⟩ := exists_taken_transmitAll hr connection delivery hc frames hresult
    exact ⟨hu connection, taken, ht, hcount⟩
  | @broken connection handle cause _ hresult hb =>
    obtain ⟨taken, ht, hcount⟩ := exists_taken_transmitAll hr connection delivery hc frames hresult
    have hbreaks := breaksStream_iff.mp hb
    rw [hcount] at hbreaks
    exact accounted_fail hr hc hp (hu connection) ht hbreaks
  | @survived connection handle cause _ hresult hb =>
    obtain ⟨taken, ht, hcount⟩ := exists_taken_transmitAll hr connection delivery hc frames hresult
    obtain ⟨hnone, hn⟩ := not_or.mp (mt breaksStream_iff.mpr (Bool.eq_false_iff.mp hb))
    rw [hcount] at hnone
    have hnil : taken = [] := List.length_eq_zero_iff.mp (by omega)
    rw [hnil, List.append_nil] at ht
    exact ⟨iff_of_true (hu connection) ⟨ht, hn⟩, .inl (hu connection)⟩

/-- A packet without a frame is refused before anything happens; otherwise the accounts are those of
its frame. -/
private theorem accounted_send (packet : Packet S) :
    Accounted e ((h.send packet delivery).after e) ((h.send packet delivery).answer e) := by
  rw [send]
  cases h.protocol.codecs.encode packet with
  | error cause => exact accounted_refusal (not_isFatal_protocol cause)
  | ok frame => exact accounted_submit hr hc delivery hp [frame]

/-- Packets that cannot be packed are refused before anything happens; otherwise the accounts are
those of the envelopes. -/
private theorem accounted_sendBatch (packets : List (Packet S)) :
    Accounted e ((h.sendBatch packets delivery).after e)
      ((h.sendBatch packets delivery).answer e) := by
  rw [sendBatch]
  cases h.encodeBatches packets with
  | error cause => exact accounted_refusal (not_isFatal_protocol cause)
  | ok frames => exact accounted_submit hr hc delivery hp frames

end Host

/-! ### Applications -/

/-- Connections take or refuse frames and go away, and never call the session. -/
structure Carrier.Passive (c : Carrier X (Script S N X)) : Prop where
  carries : ∀ connection frame, (c.send connection frame).Silent
  hangsUp : ∀ connection reason, (c.disconnect connection reason).Silent
  connected : ∀ connection, (c.isConnected connection).Silent

namespace Application

variable {a : Application S N X}

/-- Silent listeners and passive connections make a host reserved, to whatever depth calls nest. -/
private theorem reserved_host (hc : a.carrier.Passive)
    (hout : ∀ listener ∈ a.protocol.pipeline.outbound.listeners, ∀ delivery message,
      Script.Silent (listener delivery message).run) (depth : Nat) :
    (a.host (a.perform depth)).Reserved where
  outbound := apart_outbound_host hout depth
  carries connection frame e := (hc.carries connection frame).apart (a.after_inspect depth) e
  hangsUp connection reason e := (hc.hangsUp connection reason).apart (a.after_inspect depth) e
  connected connection e := (hc.connected connection).apart (a.after_inspect depth) e

/-- Whatever is sent at an open session, in whatever way, and whatever frames its connection takes
or refuses: the call is accounted for. The session is as it was exactly if the call succeeded or
nothing of it is under way on a connection that can still be trusted, and otherwise it is closed
with its callbacks. Listeners on the way out and connections do not call the session; the callbacks
may do anything. -/
theorem accounted_perform (a : Application S N X) (hc : a.carrier.Passive)
    (hout : ∀ listener ∈ a.protocol.pipeline.outbound.listeners, ∀ delivery message,
      Script.Silent (listener delivery message).run)
    (depth : Nat) (e : Endpoint S N X) (hp : e.session.phase = .opened) (delivery : Delivery) :
    (∀ packet, Accounted e ((a.perform (depth + 1) (.send packet delivery)).after e)
      ((a.perform (depth + 1) (.send packet delivery)).answer e)) ∧
    (∀ packets, Accounted e ((a.perform (depth + 1) (.sendBatch packets delivery)).after e)
      ((a.perform (depth + 1) (.sendBatch packets delivery)).answer e)) ∧
    (∀ frame, Accounted e ((a.perform (depth + 1) (.sendFrame frame delivery)).after e)
      ((a.perform (depth + 1) (.sendFrame frame delivery)).answer e)) := by
  have hr := reserved_host hc hout depth
  have hcourse := a.callbacksOnCourse_host (a.onCourse_perform depth)
  refine ⟨fun packet => ?_, fun packets => ?_, fun frame => ?_⟩
  · exact Host.accounted_send hr hcourse delivery hp packet
  · exact Host.accounted_sendBatch hr hcourse delivery hp packets
  · exact Host.accounted_submit hr hcourse delivery hp [frame]

/-- Connections that have room for some frames and refuse all others as too large. -/
def cramped : Carrier Nat (Script Sample.plain Unit Nat) where
  send _ frame := .look fun room =>
    if room = 0 then .done (.error (.frameTooLarge frame.payload.length 0))
    else .put (room - 1) (.done (.ok (.ready (.ok ()))))
  disconnect _ _ := pure ()
  isConnected _ := pure true
  address _ _ := none

/-- A protocol that sends everything in chunks of one byte. -/
def crumbling : Protocol Sample.plain (Script Sample.plain Unit Nat) :=
  { Protocol.initial with settings := { fragmentThreshold := 1 } }

/-- A session on a connection that has room for one frame. -/
def squeezed : Endpoint Sample.plain Unit Nat :=
  ((Application.mk crumbling cramped).perform 1 (.openWith 0)).after (.fresh crumbling.settings 1)

/-- Two bytes are sent where there is room for one. The connection can still be trusted after it
refused the second one, but the first one is under way. -/
theorem accounted_perform_squeezed :
    (perform ⟨crumbling, cramped⟩ 1 (.sendFrame [8, 9] ⟨.unset, .reliable⟩)).answer squeezed =
        .error (.transport (.frameTooLarge 15 0)) ∧
      ((perform ⟨crumbling, cramped⟩ 1 (.sendFrame [8, 9] ⟨.unset, .reliable⟩)).after
        squeezed).session.phase = .closed ∧
      ∃ cause, SessionError.transport (.frameTooLarge 15 0) = Host.sendError cause ∧
        ((perform ⟨crumbling, cramped⟩ 1 (.sendFrame [8, 9] ⟨.unset, .reliable⟩)).after
          squeezed).callbacks = [.opened .opened, .failed .closed cause, .closed .closed] := by
  have hpassive : cramped.Passive := by
    refine ⟨fun connection frame => .look fun room => ?_, fun _ _ => .done _, fun _ => .done _⟩
    by_cases hroom : room = 0
    · rw [if_pos hroom]
      exact .done _
    · rw [if_neg hroom]
      exact .put _ (.done _)
  have haccount := (accounted_perform ⟨crumbling, cramped⟩ hpassive
    (fun listener hl => absurd hl List.not_mem_nil) 0 squeezed rfl ⟨.unset, .reliable⟩).2.2 [8, 9]
  have hanswer : (perform ⟨crumbling, cramped⟩ 1 (.sendFrame [8, 9] ⟨.unset, .reliable⟩)).answer
      squeezed = .error (.transport (.frameTooLarge 15 0)) := rfl
  have htaken : ((perform ⟨crumbling, cramped⟩ 1 (.sendFrame [8, 9] ⟨.unset, .reliable⟩)).after
      squeezed).taken ≠ squeezed.taken := by
    decide +kernel
  rw [hanswer] at haccount
  -- something was taken, so the session cannot be as it was
  obtain ⟨hiff, hu | hfailed⟩ := haccount
  · exact absurd (hiff.mp hu).1 htaken
  · exact ⟨hanswer, hfailed⟩

end Application

end PacketSession
