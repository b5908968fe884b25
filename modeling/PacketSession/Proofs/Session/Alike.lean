import PacketSession.Proofs.Session.Dispatch
import PacketSession.Proofs.Session.Quiet
import PacketSession.Proofs.Session.SendOutcome

/-!
# Receivers that read the same

Two receivers have the same codecs and the same handlers, and differ in whatever else they rely on.
If the listeners of one make of its frames what the other one gets without listeners, then both
handle the same packets (`Host.alike_receiveAll`).

As long as their sessions are open, the endpoints are equal, which takes handlers that leave the
session alone. What can tell them apart is that a session is about to be over, because the peer
announced a close or because traffic could not be processed: connections and callbacks run then, and
they may do anything. But no handler runs any more (`Endpoint.Retired`).
-/

namespace PacketSession

variable {S : Schema} {N X : Type}

namespace Endpoint

/-- The session is over or about to be, and no handler ran. -/
structure Retired (e e' : Endpoint S N X) : Prop where
  isOver : 2 ≤ e'.session.phase.rank
  handled : e'.handled = e.handled

/-- A session that is over or about to be stays so and runs no handler. -/
def KeepsRetired (e e' : Endpoint S N X) : Prop := 2 ≤ e.session.phase.rank → e.Retired e'

/-- Two endpoints are equal, or the sessions of both are over or about to be and the same packets
were handled. -/
inductive Alike (e : Endpoint S N X) : Endpoint S N X → Prop
  | same : Alike e e
  | retired {e' : Endpoint S N X} : 2 ≤ e.session.phase.rank → 2 ≤ e'.session.phase.rank →
      e'.handled = e.handled → Alike e e'

variable {e e₁ e₂ : Endpoint S N X}

private theorem Quieted.retired (h : e.Quieted e₁) : e.Retired e₁ := ⟨h.isOver, h.handled⟩

theorem Retired.trans (h₁ : e.Retired e₁) (h₂ : e₁.KeepsRetired e₂) : e.Retired e₂ := by
  have hnext := h₂ h₁.isOver
  exact ⟨hnext.isOver, hnext.handled.trans h₁.handled⟩

theorem KeepsRetired.record (event : Event S N) (h : event.isAside = true) :
    e.KeepsRetired (e.record event) :=
  fun hp => ⟨hp, (Unmoved.record e h).handled⟩

instance : IsPreorder (Endpoint S N X) KeepsRetired where
  refl _ := fun hp => ⟨hp, rfl⟩
  trans _ _ _ h₁ h₂ := fun hp => (h₁ hp).trans h₂

private theorem Retired.alike (h₁ : e.Retired e₁) (h₂ : e.Retired e₂) : e₁.Alike e₂ :=
  .retired h₁.isOver h₂.isOver (h₂.handled.trans h₁.handled.symm)

theorem Alike.handled_eq (h : e.Alike e₁) : e₁.handled = e.handled := by
  cases h with
  | same => rfl
  | retired _ _ hh => exact hh

end Endpoint

open Endpoint

namespace Host

section Retiring

variable {h : Host S N X} (hq : h.CallbacksFollow KeepsQuiet) {e : Endpoint S N X}

include hq

private theorem keepsRetired_announceIfConnected (connection : ConnectionId) (reason : String) :
    (h.announceIfConnected connection reason).Follows KeepsRetired := by
  have hsends : h.Sends KeepsRetired connection
      ⟨h.protocol.settings.controlChannel, .reliableOrdered⟩ := {
    outbound := fun stage hs delivery message e hp =>
      (hq.outbound stage hs delivery message e hp).retired
    hands := fun payload => follows_hand (fun e hp => (hq.carries connection _ e hp).retired)
      fun _ _ => .record _ rfl }
  exact follows_announceIfConnected (fun e hp => (hq.connected connection e hp).retired)
    (fun _ => .record _ rfl) (follows_transmit hsends)

/-- A session that fails runs no handler any more. -/
theorem retired_fail (hp : e.session.phase ≠ .closed) (cause : ProtocolError) :
    e.Retired ((h.fail cause).after e) := by
  obtain ⟨e₁, hgoes, hfail⟩ := exists_finish_of_fail hp cause
    (fun connection => keepsRetired_announceIfConnected hq connection _)
    (fun connection e hp => (keepsQuiet_disconnect hq connection _ e hp).retired)
  have hturn : e.Quieted (e.turn (.fails cause) fun s =>
      { s with reason := some (s.reason.getD cause.message) }) :=
    quieted_turn (t := .fails cause) (Nat.le_refl 2) _
  rw [hfail]
  exact (hturn.retired.trans hgoes).trans fun hp =>
    (keepsQuiet_finish hq (some cause) e₁ hp).retired

/-- A session whose peer announced a close runs no handler any more. -/
theorem retired_peerDisconnected (hp : e.session.phase = .opened) (reason : String) :
    e.Retired ((h.peerDisconnected reason).after e) := by
  have hturn : e.Quieted (e.turn .hangsUp fun s => { s with reason := some reason }) :=
    quieted_turn (t := .hangsUp) (Nat.le_refl 2) _
  rw [peerDisconnected, SessionM.after_bind, SessionM.answer_current, SessionM.after_current,
    if_pos hp]
  cases hconn : e.session.connection with
  | none => exact hturn.retired
  | some connection => exact (hturn.trans (keepsQuiet_disconnect hq connection reason _)).retired

end Retiring

/-! ### Two receivers -/

/-- Two hosts read frames and handle packets in the same way, and their callbacks are quiet at
sessions that are over. -/
structure Matches (h h' : Host S N X) : Prop where
  codecs : h'.protocol.codecs = h.protocol.codecs
  handlers : h'.protocol.handlers = h.protocol.handlers
  quiet : h.CallbacksFollow KeepsQuiet
  quiet' : h'.CallbacksFollow KeepsQuiet

/-- Of a frame that comes from the connection, the listeners make another one. -/
structure Makes (h : Host S N X) (arrived frame : WireFrame) : Prop where
  delivery : arrived.delivery = frame.delivery
  passes : h.protocol.pipeline.receive arrived.delivery (.bytes arrived.payload)
    (h.dispatch arrived.delivery) = h.dispatch arrived.delivery (.bytes frame.payload)

variable {h h' : Host S N X} (hm : h.Matches h') {e e' : Endpoint S N X}

include hm

/-- The first leaf that two sessions go different ways at is one that both of them retire from. -/
private theorem alike_processInOrder (delivery : Delivery) (ds : List (Decoded S)) :
    ((h.processInOrder delivery ds).after e).Alike ((h'.processInOrder delivery ds).after e) := by
  induction ds generalizing e with
  | nil => exact .same
  | cons d ds ih =>
    by_cases hp : e.session.phase = .opened
    · rw [after_processInOrder_of_open delivery hp, after_processInOrder_of_open delivery hp,
        processOne, processOne]
      cases d.packet.disconnect? with
      | none =>
        rw [hm.handlers]
        exact ih
      | some announcement =>
        have hr := retired_peerDisconnected hm.quiet hp announcement.reason
        have hr' := retired_peerDisconnected hm.quiet' hp announcement.reason
        dsimp only
        rw [after_processInOrder_of_not_open delivery (Phase.ne_opened_of_over hr.isOver),
          after_processInOrder_of_not_open delivery (Phase.ne_opened_of_over hr'.isOver)]
        exact hr.alike hr'
    · rw [after_processInOrder_of_not_open delivery hp,
        after_processInOrder_of_not_open delivery hp]
      exact .same

variable (hw : h.protocol.codecs.WellFormed) (hi : h.protocol.pipeline.inbound = .empty)

include hw hi

private theorem alike_receive (he : e.Alike e') {frame arrived : WireFrame}
    (hf : h'.Makes arrived frame) :
    ((h.receive frame).after e).Alike ((h'.receive arrived).after e') := by
  cases he with
  | same =>
    by_cases hp : e.session.phase = .opened
    · have hread : ({ arrived with payload := frame.payload } : WireFrame) = frame := by
        rw [hf.delivery]
      rw [after_receive hw hi frame hp,
        after_receive_of_passes (hm.codecs ▸ hw) hf.passes hp, hread, hm.codecs, hf.delivery]
      rcases h.protocol.codecs.read e.session.reassembler frame with ⟨cause | ds, reassembler⟩
      · have hopen : (e.update fun s => { s with reassembler }).session.phase ≠ .closed := by
          simp [Endpoint.update, hp]
        exact (retired_fail hm.quiet hopen cause).alike (retired_fail hm.quiet' hopen cause)
      · exact alike_processInOrder hm frame.delivery ds
    · rw [after_receive_of_not_open hp, after_receive_of_not_open hp]
      exact .same
  | retired hp hp' hh =>
    rw [after_receive_of_not_open (Phase.ne_opened_of_over hp),
      after_receive_of_not_open (Phase.ne_opened_of_over hp')]
    exact .retired hp hp' hh

/-- Frames that listeners make the same of leave two sessions alike. -/
theorem alike_receiveAll (he : e.Alike e') {frames arrived : List WireFrame}
    (hf : List.Forall₂ h'.Makes arrived frames) :
    (SessionM.after (frames.forM h.receive) e).Alike
      (SessionM.after (arrived.forM h'.receive) e') := by
  induction hf generalizing e e' with
  | nil => exact he
  | cons hfirst _ ih =>
    rw [SessionM.after_forM_cons, SessionM.after_forM_cons]
    exact ih (alike_receive hm hw hi he hfirst)

end Host

end PacketSession
