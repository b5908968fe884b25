import PacketSession.Proofs.Session.Emission

/-!
# Sending as handing over payloads

Without listeners a frame that is transmitted is what it travels in, handed over piece by piece
(`Host.transmit_eq_deliverAll`); a frame that cannot travel fails before anything of it is handed
over. So over connections that take every frame it only depends on the frames whether a call to
send succeeds (`Host.submit_ok_iff`).
-/

namespace PacketSession

variable {S : Schema} {N X : Type}

namespace Host

variable {h : Host S N X} (hout : h.protocol.pipeline.outbound = .empty)
  (connection : ConnectionId) (delivery : Delivery)

/-- Hands over payloads one after the other. -/
def deliverAll (h : Host S N X) (connection : ConnectionId) (delivery : Delivery)
    (payloads : List Bytes) : SendingM S N X Unit :=
  payloads.forM fun payload => h.deliver connection delivery (.bytes payload)

include hout in
/-- Without listeners a frame is handed over as it is. -/
theorem emit_eq (frame : Bytes) :
    h.emit connection delivery frame = h.deliver connection delivery (.bytes frame) := by
  have hone : List.forM [Message.bytes frame] (h.deliver connection delivery) =
      h.deliver connection delivery (.bytes frame) := bind_pure_unit
  rw [emit, run_send_of_empty hout]
  exact hone

include hout

/-- Transmitting a frame is handing over what it travels in, or failing at once. -/
theorem transmit_eq_deliverAll (frame : Bytes) :
    h.transmit connection delivery frame =
      SendingM.ofExcept (h.protocol.codecs.payloads h.protocol.settings frame) >>=
        h.deliverAll connection delivery := by
  rw [transmit_eq delivery connection, funext (emit_eq hout connection delivery)]
  rfl

theorem transmitAll_eq {frames : List Bytes} {payloads : List (List Bytes)}
    (hp : frames.mapM (h.protocol.codecs.payloads h.protocol.settings) = .ok payloads) :
    frames.forM (h.transmit connection delivery) =
      h.deliverAll connection delivery payloads.flatten := by
  induction frames generalizing payloads with
  | nil =>
    cases hp
    rfl
  | cons frame frames ih =>
    obtain ⟨front, back, hfront, hback, rfl⟩ := mapM_cons_eq_ok hp
    have hfirst : h.transmit connection delivery frame =
        h.deliverAll connection delivery front := by
      rw [transmit_eq_deliverAll hout, hfront]
      exact pure_bind _ _
    rw [SendingM.forM_cons, hfirst, ih hback, List.flatten_cons]
    exact (SendingM.forM_append _ front back.flatten).symm

/-- If frames were transmitted, there is something that each of them travels in. -/
theorem exists_payloads_of_transmitAll {frames : List Bytes} {handle handle' : SendHandle}
    {e e' : Endpoint S N X}
    (hr : ((frames.forM (h.transmit connection delivery)).run.run handle).run e =
      ((.ok (), handle'), e')) :
    ∃ payloads, frames.mapM (h.protocol.codecs.payloads h.protocol.settings) = .ok payloads := by
  induction frames generalizing handle e with
  | nil => exact ⟨[], rfl⟩
  | cons frame frames ih =>
    -- a frame that cannot travel fails the transmission before any of its pieces is handed over
    rw [SendingM.forM_cons, SendingM.run_bind, transmit_eq_deliverAll hout] at hr
    cases hp : h.protocol.codecs.payloads h.protocol.settings frame with
    | error cause =>
      rw [hp] at hr
      cases hr
    | ok front =>
      rcases hfirst :
        (((SendingM.ofExcept (h.protocol.codecs.payloads h.protocol.settings frame) >>=
          h.deliverAll connection delivery).run.run handle).run e) with ⟨⟨cause | _, handle₁⟩, e₁⟩
      · rw [hfirst] at hr
        cases hr
      · rw [hfirst] at hr
        obtain ⟨back, hback⟩ := ih hr
        refine ⟨front :: back, ?_⟩
        rw [List.mapM_cons, hp, hback]
        rfl

/-! ### Connections that take every frame -/

omit hout connection delivery

/-- The connections take every frame. -/
def Takes (h : Host S N X) : Prop :=
  ∀ connection frame (e : Endpoint S N X),
    ∃ write, (h.carrier.send connection frame).answer e = .ok write

variable (ht : h.Takes) (connection : ConnectionId) (delivery : Delivery)

include ht

private theorem run_deliver_of_takes (payload : Bytes) (handle : SendHandle) (e : Endpoint S N X) :
    ∃ handle' e', ((h.deliver connection delivery (.bytes payload)).run.run handle).run e =
      ((.ok (), handle'), e') := by
  obtain ⟨write, hw⟩ := ht connection ⟨delivery, payload⟩ e
  have hanswer : (h.hand connection ⟨delivery, payload⟩).answer e = .ok write := by
    rw [hand, SessionM.answer_bind, hw]
    rfl
  rw [deliver, pure_bind, SendingM.run_lift_bind, hanswer]
  exact ⟨_, _, rfl⟩

private theorem run_deliverAll_of_takes (payloads : List Bytes) (handle : SendHandle)
    (e : Endpoint S N X) :
    ∃ handle' e', ((h.deliverAll connection delivery payloads).run.run handle).run e =
      ((.ok (), handle'), e') := by
  induction payloads generalizing handle e with
  | nil => exact ⟨handle, e, rfl⟩
  | cons payload payloads ih =>
    obtain ⟨handle₁, e₁, hfirst⟩ := run_deliver_of_takes ht connection delivery payload handle e
    rw [deliverAll, SendingM.forM_cons, SendingM.run_bind, hfirst]
    exact ih handle₁ e₁

omit connection in
include hout in
/-- Over connections that take every frame, frames are submitted with success just if the settings
admit all of them. -/
theorem submit_ok_iff (hw : h.protocol.codecs.WellFormed) {e : Endpoint S N X}
    {connection : ConnectionId} (hc : writable e.session = .ok connection) (frames : List Bytes) :
    (∃ handle, (h.submit delivery frames).answer e = .ok handle) ↔
      ∀ frame ∈ frames, h.protocol.settings.Admits frame := by
  rw [← Registry.exists_payloadsAll_iff hw, submit, SessionM.answer_bind,
    SessionM.answer_current, SessionM.after_current, hc]
  dsimp only
  rw [SessionM.answer_bind]
  constructor
  -- an error of the transmission is an error of the call
  · rintro ⟨handle, ho⟩
    rcases hr : ((frames.forM (h.transmit connection delivery)).run.run .empty).run e with
      ⟨⟨cause | _, handle'⟩, e'⟩
    · have hcollect : (frames.forM (h.transmit connection delivery)).collect.answer e =
          (.error cause, handle') := congrArg Prod.fst hr
      rw [hcollect] at ho
      dsimp only at ho
      split at ho <;> cases ho
    · exact exists_payloads_of_transmitAll hout connection delivery hr
  · rintro ⟨payloads, hp⟩
    obtain ⟨handle, e', hr⟩ :=
      run_deliverAll_of_takes ht connection delivery payloads.flatten .empty e
    have hcollect : (frames.forM (h.transmit connection delivery)).collect.answer e =
        (.ok (), handle) := by
      rw [transmitAll_eq hout connection delivery hp]
      exact congrArg Prod.fst hr
    rw [hcollect]
    exact ⟨handle, rfl⟩

end Host

end PacketSession
