import PacketSession.Proofs.Session.Consistency
import PacketSession.Proofs.Session.Delivery
import PacketSession.Proofs.Session.Opening

/-!
# A closed session is inert

Calls on a closed session that are about its life or its traffic change nothing at all: neither the
session nor its journal nor anything outside (`Application.Inert`). What they answer is determined
by the recorded reason and, for calls to send, by whether the packets can be encoded
(`Request.closedAnswer`). So neither the callbacks of the application nor its connections matter,
which is to say that none of them runs.

Each of the operations looks at the phase for itself, and what it does when it comes too late is a
lemma of its own in `PacketSession.Proofs.Session.Calls`.
-/

namespace PacketSession

variable {S : Schema} {N X : Type}

/-- Whether a call is about the life or the traffic of a session, rather than about what it keeps
for the application. -/
def Request.isVital : Request S → Bool
  | .awaitReply | .settleReply _ _ | .setAttachment _ => false
  | _ => true

/-- Why a call to send is refused by a session that is closed for a reason. -/
def Registry.closedRefusal (r : Registry S) (settings : Settings) (reason : String)
    (call : Sending S) : SessionError :=
  match r.framesOf settings call with
  | .ok _ => .closed reason
  | .error cause => .protocol cause

/-- The answer of a closed session. -/
def Request.closedAnswer (r : Registry S) (settings : Settings) (s : Session S) :
    (request : Request S) → request.Answer
  | .openWith _ | .refuse _ _ => .error (.closed s.reasonText)
  | .close _ | .fail _ | .receive _ | .transportClosed | .transportFailed _ => ()
  | .arrive _ => true
  | .send packet delivery =>
    .error (r.closedRefusal settings s.reasonText (.single packet delivery))
  | .sendBatch packets delivery =>
    .error (r.closedRefusal settings s.reasonText (.batch packets delivery))
  | .sendFrame _ _ => .error (.closed s.reasonText)
  | .awaitReply => s.awaitReply.1
  | .settleReply id outcome => (s.settleReply id outcome).1
  | .setAttachment _ => ()
  | .inspect => s

/-- A session that is inert, for a reason. -/
structure Application.Inert (a : Application S N X) (e : Endpoint S N X) (reason : String) :
    Prop where
  unchanged : ∀ depth (calls : List (Request S)), (∀ call ∈ calls, call.isVital = true) →
    (a.follow depth (calls.map .call)).after e = e
  alone : ∀ b : Application S N X, b.protocol.codecs = a.protocol.codecs →
    b.protocol.settings = a.protocol.settings →
    ∀ depth (call : Request S), call.isVital = true →
      (b.perform depth call).run e = (a.perform depth call).run e
  opens : ∀ depth connection,
    (a.perform (depth + 1) (.openWith connection)).answer e = .error (.closed reason)
  refuses : ∀ depth connection text,
    (a.perform (depth + 1) (.refuse connection text)).answer e = .error (.closed reason)
  sends : ∀ depth (call : Sending S),
    (∀ packet ∈ call.packets, ∃ frame, a.protocol.codecs.encode packet = .ok frame) →
    (a.sendOne (depth + 1) call).answer e = .error (.closed reason)
  sendsFrame : ∀ depth frame delivery,
    (a.perform (depth + 1) (.sendFrame frame delivery)).answer e = .error (.closed reason)

namespace Host

variable {h : Host S N X} {e : Endpoint S N X}

/-- A closed session reads nothing and asks for nothing more to read. -/
theorem step_of_closed (hp : e.session.phase = .closed) (arrival : Arrival) :
    (h.step arrival).answer e = true ∧ (h.step arrival).after e = e := by
  cases arrival with
  | frame frame =>
    have hr : (h.receive frame).after e = e := after_receive_of_not_open (by simp [hp]) frame
    change decide (((h.receive frame).after e).session.phase = .closed) = true ∧
      (h.receive frame).after e = e
    simp [hr, hp]
  | failed cause => exact ⟨rfl, after_fail_of_closed hp _⟩
  | ended => exact ⟨rfl, after_transportClosed_of_closed hp⟩

end Host

namespace Application

open Host

section Closed

variable (a : Application S N X) {e : Endpoint S N X} (hp : e.session.phase = .closed)

include hp

private theorem sendOne_of_closed (depth : Nat) (call : Sending S) :
    (a.sendOne (depth + 1) call).answer e =
        .error (a.protocol.codecs.closedRefusal a.protocol.settings e.session.reasonText call) ∧
      (a.sendOne (depth + 1) call).after e = e := by
  rw [sendOne_succ, Registry.closedRefusal]
  cases a.protocol.codecs.framesOf a.protocol.settings call with
  | ok frames => exact submit_of_closed hp _ frames
  | error cause => exact ⟨rfl, rfl⟩

private theorem answer_perform_of_closed (depth : Nat) (call : Request S) :
    (a.perform (depth + 1) call).answer e =
      call.closedAnswer a.protocol.codecs a.protocol.settings e.session := by
  cases call with
  | openWith connection => exact (openWith_of_refused (openRefusal?_of_closed hp) connection).1
  | refuse connection reason =>
    exact (refuse_of_refused (openRefusal?_of_closed hp) connection reason).1
  | arrive arrival => exact (step_of_closed hp arrival).1
  | send packet delivery => exact (a.sendOne_of_closed hp depth (.single packet delivery)).1
  | sendBatch packets delivery => exact (a.sendOne_of_closed hp depth (.batch packets delivery)).1
  | sendFrame frame delivery => exact (submit_of_closed hp delivery [frame]).1
  | close | fail | receive | transportClosed | transportFailed => rfl
  | awaitReply | settleReply | setAttachment | inspect => rfl

private theorem after_perform_of_closed (depth : Nat) {call : Request S}
    (hv : call.isVital = true) : (a.perform depth call).after e = e := by
  cases depth with
  | zero => cases call <;> rfl
  | succ depth =>
    cases call with
    | openWith connection => exact (openWith_of_refused (openRefusal?_of_closed hp) connection).2
    | refuse connection reason =>
      exact (refuse_of_refused (openRefusal?_of_closed hp) connection reason).2
    | close reason => exact after_close_of_over (.inr hp) reason
    | fail cause => exact after_fail_of_closed hp cause
    | receive frame => exact after_receive_of_not_open (by simp [hp]) frame
    | arrive arrival => exact (step_of_closed hp arrival).2
    | transportClosed => exact after_transportClosed_of_closed hp
    | transportFailed cause => exact after_fail_of_closed hp (.transport cause)
    | send packet delivery => exact (a.sendOne_of_closed hp depth (.single packet delivery)).2
    | sendBatch packets delivery => exact (a.sendOne_of_closed hp depth (.batch packets delivery)).2
    | sendFrame frame delivery =>
      exact (submit_of_closed hp delivery [frame]).2
    | awaitReply | settleReply | setAttachment => cases hv
    | inspect => rfl

private theorem after_follow_of_closed (depth : Nat) {calls : List (Request S)}
    (hv : ∀ call ∈ calls, call.isVital = true) :
    (a.follow depth (calls.map .call)).after e = e := by
  induction calls with
  | nil => rfl
  | cons call calls ih =>
    obtain ⟨hc, hcs⟩ := List.forall_mem_cons.mp hv
    have hmake : (a.make depth (.call call)).after e = e := a.after_perform_of_closed hp depth hc
    rw [List.map_cons, follow, SessionM.after_bind, hmake]
    exact ih hcs

/-- What a closed session does is a matter of its codecs and its settings. -/
private theorem run_perform_of_closed {b : Application S N X}
    (hc : b.protocol.codecs = a.protocol.codecs) (hs : b.protocol.settings = a.protocol.settings)
    (depth : Nat) {call : Request S} (hv : call.isVital = true) :
    (b.perform depth call).run e = (a.perform depth call).run e := by
  cases depth with
  | zero => rfl
  | succ depth =>
    refine Prod.ext ?_ ?_
    · exact (b.answer_perform_of_closed hp depth call).trans
        (hc ▸ hs ▸ (a.answer_perform_of_closed hp depth call).symm)
    · exact (b.after_perform_of_closed hp (depth + 1) hv).trans
        (a.after_perform_of_closed hp (depth + 1) hv).symm

/-- A closed session is inert, whatever state it is in otherwise; if it came about by calls, the
reason that it answers with is recorded. -/
theorem inert_of_closed (hb : a.protocol.Built) :
    a.Inert e e.session.reasonText ∧
      ∀ (settings : Settings) (x : X) (depth : Nat) (moves : List (Move S X)),
        e = (a.follow depth moves).after (.fresh settings x) →
          e.session.reason = some e.session.reasonText := by
  refine ⟨⟨fun depth _ => a.after_follow_of_closed hp depth,
    fun b hc hs depth _ => a.run_perform_of_closed hp hc hs depth,
    fun depth connection => a.answer_perform_of_closed hp depth (.openWith connection),
    fun depth connection text => a.answer_perform_of_closed hp depth (.refuse connection text),
    fun depth call hpackets => ?_,
    fun depth frame delivery => a.answer_perform_of_closed hp depth (.sendFrame frame delivery)⟩,
    ?_⟩
  · obtain ⟨frames, hframes⟩ := Registry.exists_framesOf_of_encode hb.wellFormed
      a.protocol.settings hpackets
    rw [(a.sendOne_of_closed hp depth call).1, Registry.closedRefusal, hframes]
  · rintro settings x depth moves rfl
    have hgoes := a.staysConsistent_follow depth moves (.fresh settings x) (.fresh settings)
    have hs := hgoes.consistent (.fresh settings)
    obtain ⟨reason, hr⟩ := Option.isSome_iff_exists.mp (hs.closed hp).2.1
    rw [Session.reasonText, hr]
    rfl

end Closed

/-- A session that was open and whose connection went away. -/
theorem inert_signals :
    let gone := ((Application.mk signals taker).perform 1 .transportClosed).after opened
    signals.Built ∧ gone.session.phase = .closed ∧
      (Application.mk signals taker).Inert gone "connection closed" :=
  ⟨built_signals, rfl, (inert_of_closed (Application.mk signals taker) rfl built_signals).1⟩

end Application

end PacketSession
