import PacketSession.Proofs.Script.Asking
import PacketSession.Proofs.Session.Consistency
import PacketSession.Proofs.Session.ReplyTable
import PacketSession.Proofs.Session.SendOutcome

/-!
# What becomes of the waits of a session

When a session finishes, it settles all waits that are left: with the failure if it finished because
of one, and otherwise as closed for the reason that is recorded (`Host.outcome?_finish`). Whatever
its connection and its callbacks do then, these outcomes stay, since all that happens to the waits
of a session are calls on their table (`Course.exists_calls`).

Between the moment when a wait is outstanding and the moment when its session is found closed,
anything may have happened, calls of callbacks on the session included. The wait still waits, or it
was settled by somebody who asked for it, or the session finished in between (`Endpoint.Fate`). What
somebody may ask for is a parameter: `P id outcome` holds of every wait and outcome that the
application ever calls the session with. Whether a session finished because of a failure can be told
from the callbacks that ran.
-/

namespace PacketSession

variable {S : Schema} {N X : Type} {P : Nat → Reply S → Prop}

namespace Endpoint

/-- The failure that the session finished because of, as far as the callbacks tell. -/
def failure? (e : Endpoint S N X) : Option ProtocolError :=
  e.callbacks.findSome? fun
    | .failed _ cause => some cause
    | _ => none

/-- The outcome of a wait. -/
def outcome? (e : Endpoint S N X) (id : Nat) : Option (Reply S) :=
  e.session.replies.outcome? id

/-- The outcome of the waits that are left when a session finishes, as far as it can be told
afterwards. -/
def closingOutcome (e : Endpoint S N X) : Reply S :=
  .error (Host.closingError e.session.reasonText e.failure?)

/-- The waits are in order, and no session fails before it is closed. -/
structure Sane (e : Endpoint S N X) : Prop where
  sound : e.session.replies.Sound
  unfailed : e.session.phase ≠ .closed → e.failure? = none

private theorem sane_fresh (settings : Settings) (x : X) :
    (fresh settings x : Endpoint S N X).Sane :=
  ⟨Replies.sound_empty, fun _ => rfl⟩

/-- What lasts at a closed session: it is closed, it has its reason, and all waits have the outcomes
that they have. -/
structure Lasts (e e' : Endpoint S N X) : Prop where
  closed : e.session.phase = .closed → e'.session.phase = .closed
  reason : e.session.phase = .closed → e'.session.reason = e.session.reason
  sound : e.session.replies.Sound → e'.session.replies.Sound
  outcome : e.session.replies.Sound →
    ∀ id outcome, e.outcome? id = some outcome → e'.outcome? id = some outcome

instance : IsPreorder (Endpoint S N X) Lasts where
  refl _ := ⟨id, fun _ => rfl, id, fun _ _ _ => id⟩
  trans _ _ _ h₁ h₂ :=
    { closed hp := h₂.closed (h₁.closed hp)
      reason hp := (h₂.reason (h₁.closed hp)).trans (h₁.reason hp)
      sound hs := h₂.sound (h₁.sound hs)
      outcome hs id outcome ho :=
        h₂.outcome (h₁.sound hs) id outcome (h₁.outcome hs id outcome ho) }

theorem Lasts.record (e : Endpoint S N X) (event : Event S N) : e.Lasts (e.record event) :=
  ⟨id, fun _ => rfl, id, fun _ _ _ => id⟩

end Endpoint

open Endpoint

/-! ### Courses -/

namespace Course

variable {e e' : Endpoint S N X}

/-- All that happens to the waits of a session are calls on their table. -/
theorem exists_calls (h : Course e e') : ∃ calls : List (Replies.Call S),
    e'.session.replies = calls.foldl Replies.perform e.session.replies := by
  induction h with
  | trans _ _ ih₁ ih₂ =>
    obtain ⟨calls₁, h₁⟩ := ih₁
    obtain ⟨calls₂, h₂⟩ := ih₂
    exact ⟨calls₁ ++ calls₂, by rw [h₂, h₁, List.foldl_append]⟩
  | awaits e =>
    -- a wait at a closed session is begun and rejected at once
    by_cases hp : e.session.phase = .closed
    · refine ⟨[.create, .reject (e.session.replies.issued + 1) (.closed e.session.reasonText)], ?_⟩
      simp [Endpoint.update, Session.awaitReply, hp, Replies.perform]
    · exact ⟨[.create], by simp [Endpoint.update, Session.awaitReply, hp, Replies.perform]⟩
  | settles e id outcome =>
    cases outcome with
    | ok packet => exact ⟨[.resolve id packet], rfl⟩
    | error cause => exact ⟨[.reject id cause], rfl⟩
  | @ends e _ _ _ ih =>
    obtain ⟨calls, h⟩ := ih
    exact ⟨.failAll (Host.closingError e.session.reasonText none) :: calls, h⟩
  | @breaks e _ _ cause _ _ _ ih₁ ih₂ =>
    obtain ⟨calls₁, h₁⟩ := ih₁
    obtain ⟨calls₂, h₂⟩ := ih₂
    refine ⟨.failAll (Host.closingError e.session.reasonText (some cause)) :: (calls₁ ++ calls₂),
      ?_⟩
    rw [List.foldl_cons, List.foldl_append]
    exact h₂.trans (congrArg (fun r => calls₂.foldl Replies.perform r) h₁)
  | _ => exact ⟨[], rfl⟩

/-- An outcome stays, whatever happens to the session. -/
theorem outcome?_eq (h : Course e e') (hs : e.session.replies.Sound) {id : Nat} {o : Reply S}
    (ho : e.outcome? id = some o) : e'.outcome? id = some o := by
  obtain ⟨calls, hcalls⟩ := h.exists_calls
  rw [Endpoint.outcome?, hcalls]
  exact hs.outcome?_foldl ho calls

/-- A closed session keeps its reason. -/
theorem reason_of_closed (h : Course e e') (hp : e.session.phase = .closed) :
    e'.session.reason = e.session.reason := by
  induction h with
  | trans h₁ _ ih₁ ih₂ => exact (ih₂ (h₁.closed hp)).trans (ih₁ hp)
  | explains _ _ _ hne => exact absurd hp hne
  | opens _ _ _ hq | refuses _ _ _ hq | closes _ _ hq | hangsUp _ _ hq =>
    exact absurd (hp.symm.trans hq) (by decide)
  | fails _ _ hne | ends hne | breaks _ hne => exact absurd hp hne
  | _ => rfl

/-- Every course keeps what lasts at a closed session, so nothing that runs behind the turn to end
can change what the waits were told. -/
private theorem lasts (h : Course e e') : e.Lasts e' :=
  ⟨h.closed, h.reason_of_closed, h.sound_replies, fun hs _ _ => h.outcome?_eq hs⟩

/-- Callbacks for a failure start only when the session is over. -/
private theorem failure?_eq_none (h : Course e e') (hn : e.failure? = none)
    (hp : e'.session.phase ≠ .closed) : e'.failure? = none := by
  obtain ⟨l, hl, path⟩ := h.path
  have hq : e.session.phase ≠ .closed := fun hq => hp (h.closed hq)
  have hends : .ends ∉ turnsIn l := fun he => hp ((path.eq_closed_iff hq).mpr (.inl he))
  obtain ⟨failure, hcallbacks⟩ := path.callbacksIn_eq
  rw [if_neg hends, List.append_nil] at hcallbacks
  have hnew : e'.callbacks = e.callbacks ++ callbacksIn l := by
    rw [Endpoint.callbacks_eq, Endpoint.callbacks_eq, hl, callbacksIn, List.filterMap_append]
    rfl
  rw [Endpoint.failure?, hnew, hcallbacks, List.findSome?_append, ← Endpoint.failure?, hn]
  split <;> rfl

/-- Waits stay in order, and a callback for a failure belongs to a closed session, along every
course. -/
private theorem sane (h : Course e e') (hs : e.Sane) : e'.Sane where
  sound := h.sound_replies hs.sound
  unfailed hp := h.failure?_eq_none (hs.unfailed fun hq => hp (h.closed hq)) hp

/-- What the waits that were left were told does not change any more. -/
private theorem closingOutcome_eq (h : Course e e') (hp : e.session.phase = .closed) :
    e'.closingOutcome = e.closingOutcome := by
  rw [closingOutcome, closingOutcome, Session.reasonText, Session.reasonText, h.reason_of_closed hp,
    Endpoint.failure?, h.callbacks_of_closed hp, ← Endpoint.failure?]

end Course

/-! ### Sessions that finish -/

namespace Host

variable {h : Host S N X} {e : Endpoint S N X}

/-- What a session that fails does before it finishes. -/
def failing (h : Host S N X) (cause : ProtocolError) : SessionM S N X Unit := do
  let s ← SessionM.current
  let reason := s.reason.getD cause.message
  SessionM.turn (.fails cause) fun s => { s with reason := some reason }
  if let some connection := s.connection then
    if s.phase = .opened && !cause.isTransport then h.announceIfConnected connection reason
    h.disconnect connection reason

/-- A session that fails finishes with its failure. -/
theorem after_fail (hp : e.session.phase ≠ .closed) (cause : ProtocolError) :
    (h.fail cause).after e = (h.finish (some cause)).after ((h.failing cause).after e) := by
  conv_lhs =>
    rw [fail, SessionM.after_bind, SessionM.answer_current, SessionM.after_current, if_neg hp]
  conv_rhs =>
    rw [failing, SessionM.after_bind, SessionM.answer_current, SessionM.after_current]
  cases hconn : e.session.connection with
  | none => rfl
  | some connection =>
    by_cases hq : (decide (e.session.phase = .opened) && !cause.isTransport) = true
    · simp only [hq]
      rfl
    · simp only [Bool.not_eq_true] at hq
      simp only [hq]
      rfl

/-- A session that is closed before it has a connection finishes at once. -/
theorem after_close_of_connecting (hp : e.session.phase = .connecting) (reason : String) :
    (h.close reason).after e = (h.finish none).after (e.because reason) := by
  rw [close, SessionM.after_bind, SessionM.answer_current, SessionM.after_current, hp]
  rfl

variable (hc : h.CallbacksOnCourse) (hp : e.session.phase ≠ .closed)

include hc hp

/-- From the turn of a session that finishes on, everything lasts. -/
theorem lasts_finish (cause : Option ProtocolError) :
    (e.turn .ends fun s => released s cause).Lasts ((h.finish cause).after e) := by
  have hgoes := (onCourse_letGo hc e.session.connection e.session.reasonText
    (e.turn .ends fun s => released s cause)).lasts
  have hover (e : Endpoint S N X) : e.Lasts
      (h.protocol.lifecycle.onClosed.after (e.record (.closed e.session.phase))) :=
    IsTrans.trans _ _ _ (.record e _) (hc.closed _).lasts
  cases cause with
  | none =>
    rw [after_finish_none hp]
    exact IsTrans.trans _ _ _ hgoes (hover _)
  | some cause =>
    have hbreaks (e : Endpoint S N X) : e.Lasts
        ((h.protocol.lifecycle.onException cause).after
          (e.record (.failed e.session.phase cause))) :=
      IsTrans.trans _ _ _ (.record e _) (hc.failed cause _).lasts
    rw [after_finish_some hp]
    exact IsTrans.trans _ _ _ hgoes (IsTrans.trans _ _ _ (hbreaks _) (hover _))

/-- Finishing does not touch the reason: it is set before, and nothing replaces it at a closed
session. -/
private theorem reason_finish (cause : Option ProtocolError) :
    ((h.finish cause).after e).session.reason = e.session.reason :=
  (lasts_finish hc hp cause).reason rfl

/-- A session that finishes settles the waits that are left. -/
theorem outcome?_finish (hs : e.session.replies.Sound) (cause : Option ProtocolError) {id : Nat}
    (hw : id ∈ e.session.replies.waiting) :
    ((h.finish cause).after e).outcome? id =
      some (.error (closingError e.session.reasonText cause)) := by
  refine (lasts_finish hc hp cause).outcome (hs.failAll _) id _ ?_
  exact (Replies.outcome?_failAll _ id).trans (if_pos hw)

/-- A session that finishes starts the callback for that, behind the one for its failure if there is
one. -/
theorem callbacks_finish (cause : Option ProtocolError) :
    ((h.finish cause).after e).callbacks =
      e.callbacks ++ ((cause.map (.failed .closed)).toList ++ [.closed .closed]) := by
  cases cause with
  | some cause => exact callbacks_finish_some hc hp cause
  | none =>
    have hl := onCourse_letGo hc e.session.connection e.session.reasonText
      (e.turn .ends fun s => released s none)
    rw [after_finish_none hp]
    dsimp only
    generalize (h.letGo e.session.connection e.session.reasonText).after
      (e.turn .ends fun s => released s none) = e₁ at hl ⊢
    have hp₁ : e₁.session.phase = .closed := hl.closed rfl
    have hd := hc.closed (e₁.record (.closed e₁.session.phase))
    rw [hd.callbacks_of_closed hp₁, callbacks_record e₁ rfl, hl.callbacks_of_closed rfl,
      callbacks_turn, hp₁]
    rfl

/-- Which failure a session finished with can be read off its callbacks afterwards. -/
private theorem failure?_finish (hn : e.failure? = none) (cause : Option ProtocolError) :
    ((h.finish cause).after e).failure? = cause := by
  rw [failure?, callbacks_finish hc hp cause, List.findSome?_append, ← failure?, hn]
  cases cause <;> rfl

/-- Afterwards it can be told what the waits that were left were told. -/
private theorem closingOutcome_finish (hn : e.failure? = none) (cause : Option ProtocolError) :
    ((h.finish cause).after e).closingOutcome =
      .error (closingError e.session.reasonText cause) := by
  rw [closingOutcome, failure?_finish hc hp hn cause, Session.reasonText,
    reason_finish hc hp cause, ← Session.reasonText]

end Host

/-! ### From one endpoint to another -/

namespace Endpoint

/-- What became of a wait that was outstanding before. -/
inductive Fate (P : Nat → Reply S → Prop) (e : Endpoint S N X) (id : Nat) : Prop
  /-- It still waits. -/
  | waits : id ∈ e.session.replies.waiting → Fate P e id
  /-- Somebody settled it. -/
  | settled {outcome : Reply S} : P id outcome → e.outcome? id = some outcome → Fate P e id
  /-- The session finished. -/
  | ended : e.session.phase = .closed → e.outcome? id = some e.closingOutcome → Fate P e id

/-- Whatever was outstanding at an endpoint has met a fate at another one that came about from
it. -/
structure Settles (P : Nat → Reply S → Prop) (e e' : Endpoint S N X) : Prop where
  course : Course e e'
  fate : e.Sane → ∀ id ∈ e.session.replies.waiting, e'.Fate P id

variable {e e' : Endpoint S N X}

/-- A fate is final: an outcome stays, and at a closed session so do the reason and the failure that
the closing outcome is told from. -/
private theorem Fate.of_settles {id : Nat} (hf : e.Fate P id) (h : e.Settles P e') (hs : e.Sane) :
    e'.Fate P id := by
  cases hf with
  | waits hw => exact h.fate hs id hw
  | settled ha ho => exact .settled ha (h.course.outcome?_eq hs.sound ho)
  | ended hp ho =>
    refine .ended (h.course.closed hp) ?_
    rw [h.course.closingOutcome_eq hp]
    exact h.course.outcome?_eq hs.sound ho

instance : IsPreorder (Endpoint S N X) (Settles P) where
  refl e := ⟨.refl e, fun _ _ => .waits⟩
  trans _ _ _ h₁ h₂ := ⟨h₁.course.trans h₂.course, fun hs id hw =>
    (h₁.fate hs id hw).of_settles h₂ (h₁.course.sane hs)⟩

/-- All waits still wait. -/
theorem Settles.of_waits (h : Course e e')
    (hw : e.session.replies.waiting ⊆ e'.session.replies.waiting) : e.Settles P e' :=
  ⟨h, fun _ _ hid => .waits (hw hid)⟩

theorem Settles.sees {event : Event S N} (he : event.isCallback = false) :
    e.Settles P (e.record event) :=
  .of_waits (.sees e event he) (List.Subset.refl _)

theorem Settles.elsewhere (x : X) : e.Settles P { e with outside := x } :=
  .of_waits (.elsewhere e x) (List.Subset.refl _)

/-- A new wait leaves the others as they are. -/
theorem Settles.awaits : e.Settles P (e.update fun s => s.awaitReply.2) := by
  refine ⟨.awaits e, fun hs id hw => .waits ?_⟩
  simp only [Endpoint.update, Session.awaitReply]
  split
  · -- at a closed session the new wait is settled at once
    rw [Replies.mem_waiting_settle hs.sound.create.nodup, Replies.id_create, Replies.waiting_create]
    have hle := (hs.sound.begun id (.inl hw)).2
    exact ⟨by omega, List.mem_cons_of_mem _ hw⟩
  · exact List.mem_cons_of_mem _ hw

/-- Settling a wait leaves the others as they are. -/
theorem Settles.settles {id : Nat} {outcome : Reply S} (ha : P id outcome) :
    e.Settles P (e.update fun s => (s.settleReply id outcome).2) := by
  refine ⟨.settles e id outcome, fun hs other hw => ?_⟩
  by_cases hother : other = id
  · subst hother
    exact .settled ha ((Replies.outcome?_settle _ _ _).trans (if_pos ⟨rfl, hw⟩))
  · exact .waits ((Replies.mem_waiting_settle hs.sound.nodup _ _ _).mpr ⟨hother, hw⟩)

end Endpoint

/-! ### Operations -/

/-- A call settles waits only as it may. -/
def Request.SettlesBy (P : Nat → Reply S → Prop) : Request S → Prop
  | .settleReply id outcome => P id outcome
  | _ => True

/-- A move settles waits only as it may. -/
def Move.SettlesBy (P : Nat → Reply S → Prop) : Move S X → Prop
  | .call request => request.SettlesBy P
  | .elsewhere _ => True

namespace Host

variable {h : Host S N X} (hk : h.CallbacksFollow (Settles P)) {e : Endpoint S N X}

include hk

/-- Callbacks that settle waits only as they may are on course in particular. -/
private theorem callbacksOnCourse_of_settles : h.CallbacksOnCourse where
  handler entry he packet delivery e := (hk.handler entry he packet delivery e).course
  inbound stage hs delivery message e := (hk.inbound stage hs delivery message e).course
  outbound stage hs delivery message e := (hk.outbound stage hs delivery message e).course
  opened e := (hk.opened e).course
  closed e := (hk.closed e).course
  failed cause e := (hk.failed cause e).course
  carries connection frame e := (hk.carries connection frame e).course
  hangsUp connection reason e := (hk.hangsUp connection reason e).course
  connected connection e := (hk.connected connection e).course

/-- Finishing gives every wait that is left the closing outcome. A session that is closed already
leaves them alone. -/
private theorem settles_finish (cause : Option ProtocolError) : (h.finish cause).Follows
    (Settles P) := by
  have hc := callbacksOnCourse_of_settles hk
  refine fun e => ⟨onCourse_finish hc cause e, fun hs id hw => ?_⟩
  by_cases hp : e.session.phase = .closed
  · rw [after_finish_of_closed hp]
    exact .waits hw
  · refine .ended (closed_finish hc cause) ?_
    rw [closingOutcome_finish hc hp (hs.unfailed hp)]
    exact outcome?_finish hc hp hs.sound cause hw

/-- Asking a connection to go away settles what its answer settles, and nothing by itself. -/
private theorem settles_disconnect (connection : ConnectionId) (reason : String) :
    (h.disconnect connection reason).Follows (Settles P) :=
  follows_disconnect (hk.hangsUp _ _) fun _ => .sees rfl

private theorem sends_settles (connection : ConnectionId) (delivery : Delivery) :
    h.Sends (Settles P) connection delivery where
  outbound := hk.outbound
  hands _ := follows_hand (hk.carries connection _) fun _ _ => .sees rfl

/-- An announcement settles what listeners and the connection settle while it is sent. -/
private theorem settles_announceIfConnected (connection : ConnectionId) (reason : String) :
    (h.announceIfConnected connection reason).Follows (Settles P) :=
  follows_announceIfConnected (hk.connected connection) (fun _ => .sees rfl)
    (follows_transmit (sends_settles hk connection _))

/-- What a failing session does before it finishes settles only what callbacks settle: all waits
that are left at the turn are still there. -/
private theorem settles_failing (hp : e.session.phase ≠ .closed) (cause : ProtocolError) :
    e.Settles P ((h.failing cause).after e) := by
  have hturn : e.Settles P (e.turn (.fails cause) fun s =>
      { s with reason := some (e.session.reason.getD cause.message) }) :=
    .of_waits (.fails e cause hp) (List.Subset.refl _)
  rw [failing, SessionM.after_bind, SessionM.answer_current, SessionM.after_current]
  cases hconn : e.session.connection with
  | none => exact hturn
  | some connection =>
    have hgoes := settles_disconnect hk connection (e.session.reason.getD cause.message)
    -- a failure of the connection itself is not announced to it
    by_cases hq : (decide (e.session.phase = .opened) && !cause.isTransport) = true
    · simp only [hq]
      exact IsTrans.trans _ _ _ hturn
        (IsTrans.trans _ _ _ (settles_announceIfConnected hk connection _ _) (hgoes _))
    · simp only [Bool.not_eq_true] at hq
      simp only [hq]
      exact IsTrans.trans _ _ _ hturn (hgoes _)

/-- A failure settles what callbacks settle on the way, and then all that is left. -/
private theorem settles_fail (cause : ProtocolError) : (h.fail cause).Follows (Settles P) := by
  intro e
  by_cases hp : e.session.phase = .closed
  · rw [after_fail_of_closed hp]
    exact Std.Refl.refl e
  · rw [after_fail hp]
    exact IsTrans.trans _ _ _ (settles_failing hk hp cause) (settles_finish hk (some cause) _)

/-- A session may be given a reason right before it finishes. -/
theorem settles_because {e' : Endpoint S N X} (reason : String) (hcourse : Course e e')
    (heq : e' = (h.finish none).after (e.because reason)) : e.Settles P e' :=
  ⟨hcourse, fun hs id hw => by
    rw [heq]
    exact (settles_finish hk none (e.because reason)).fate ⟨hs.sound, hs.unfailed⟩ id hw⟩

/-- When the connection goes away, the reason is set first and the session finishes with it. -/
private theorem settles_transportClosed : h.transportClosed.Follows (Settles P) := by
  intro e
  by_cases hp : e.session.phase = .closed
  · rw [after_transportClosed_of_closed hp]
    exact Std.Refl.refl e
  · exact settles_because hk _ (onCourse_transportClosed (callbacksOnCourse_of_settles hk) e)
      (after_transportClosed hp)

/-- Closing an open session only announces it; the waits are settled when the session finishes.
Before there is a connection, it finishes at once. -/
private theorem settles_close (reason : String) : (h.close reason).Follows (Settles P) := by
  intro e
  cases hp : e.session.phase with
  | connecting =>
    exact settles_because hk reason (onCourse_close (callbacksOnCourse_of_settles hk) reason e)
      (after_close_of_connecting hp reason)
  | opened =>
    have hturn : e.Settles P (e.turn .closes fun s => { s with reason := some reason }) :=
      .of_waits (.closes e reason hp) (List.Subset.refl _)
    rw [close, SessionM.after_bind, SessionM.answer_current, SessionM.after_current, hp]
    cases hconn : e.session.connection with
    | none => exact hturn
    | some connection =>
      exact IsTrans.trans _ _ _ hturn (IsTrans.trans _ _ _
        (settles_announceIfConnected hk connection reason _)
        (settles_disconnect hk connection reason _))
  | closing | closed =>
    rw [after_close_of_over (by simp [hp])]
    exact Std.Refl.refl e

/-- Turning a connection away settles nothing by itself, so waits stay outstanding at the closed
session. -/
private theorem settles_refuse (connection : ConnectionId) (reason : String) :
    (h.refuse connection reason).Follows (Settles P) := by
  intro e
  cases hr : openRefusal? e.session with
  | some refusal =>
    rw [(refuse_of_refused hr connection reason).2]
    exact Std.Refl.refl e
  | none =>
    rw [refuse, SessionM.after_bind, SessionM.answer_current, SessionM.after_current, hr]
    exact IsTrans.trans _ _ _
      (.of_waits (.refuses e reason _ (openRefusal?_eq_none.mp hr)) (List.Subset.refl _))
      (IsTrans.trans _ _ _ (settles_announceIfConnected hk connection reason _)
        (settles_disconnect hk connection reason _))

/-- Opening settles only what the callback for opened sessions settles. -/
private theorem settles_openWith (connection : ConnectionId) :
    (h.openWith connection).Follows (Settles P) := by
  intro e
  cases hr : openRefusal? e.session with
  | some refusal =>
    rw [(openWith_of_refused hr connection).2]
    exact Std.Refl.refl e
  | none =>
    rw [openWith, SessionM.after_bind, SessionM.answer_current, SessionM.after_current, hr]
    exact IsTrans.trans _ _ _
      (.of_waits (.opens e connection _ (openRefusal?_eq_none.mp hr)) (List.Subset.refl _))
      (hk.opened _)

/-- An announcement of the peer is a turn and a request to the connection, and neither settles a
wait. -/
private theorem settles_peerDisconnected (reason : String) :
    (h.peerDisconnected reason).Follows (Settles P) := by
  intro e
  by_cases hp : e.session.phase = .opened
  · have hturn : e.Settles P (e.turn .hangsUp fun s => { s with reason := some reason }) :=
      .of_waits (.hangsUp e reason hp) (List.Subset.refl _)
    rw [peerDisconnected, SessionM.after_bind, SessionM.answer_current, SessionM.after_current,
      if_pos hp]
    cases hconn : e.session.connection with
    | none => exact hturn
    | some connection =>
      exact IsTrans.trans _ _ _ hturn (settles_disconnect hk connection reason _)
  · rw [after_peerDisconnected_of_not_open hp]
    exact Std.Refl.refl e

private theorem settles_submit (delivery : Delivery) (frames : List Bytes) :
    (h.submit delivery frames).Follows (Settles P) :=
  follows_submit (fun _ => follows_transmit (sends_settles hk _ _)) (settles_fail hk) frames

/-- No part of receiving settles a wait, but for handlers, and for failures, which finish the
session. -/
private theorem receives_settles : h.Receives (Settles P) where
  inbound := hk.inbound
  accepts e channel c hp := .of_waits (.accepts e channel c hp) (List.Subset.refl _)
  handles entry he delivery d := by
    rw [Handler.invoke]
    split
    · exact .bind (fun _ => .sees rfl) fun _ => hk.handler entry he d.packet delivery
    · exact .pure ()
  hangsUp := settles_peerDisconnected hk
  fails := settles_fail hk

/-- Every request settles waits only as it may, given that callbacks do; one case for each
request. -/
private theorem settles_execute : (request : Request S) → request.SettlesBy P →
    (request.execute h).Follows (Settles P)
  | .openWith connection, _ => settles_openWith hk connection
  | .refuse connection reason, _ => settles_refuse hk connection reason
  | .close reason, _ => settles_close hk reason
  | .fail cause, _ => settles_fail hk cause
  | .receive frame, _ => follows_receive (receives_settles hk) frame
  | .arrive arrival, _ => follows_step (follows_receive (receives_settles hk)) (settles_fail hk)
      (settles_transportClosed hk) arrival
  | .transportClosed, _ => settles_transportClosed hk
  | .transportFailed cause, _ => settles_fail hk (.transport cause)
  | .send packet delivery, _ => follows_send (settles_submit hk delivery) packet
  | .sendBatch packets delivery, _ => follows_sendBatch (settles_submit hk delivery) packets
  | .sendFrame frame delivery, _ => settles_submit hk delivery [frame]
  | .awaitReply, _ => fun _ => .awaits
  | .settleReply _ _, ha => fun _ => .settles ha
  | .setAttachment value, _ => fun e => .of_waits (.attaches e value) (List.Subset.refl _)
  | .inspect, _ => .current

end Host

/-! ### Every run -/

namespace Application

variable {a : Application S N X} (ha : a.Asks (Request.SettlesBy P))

include ha

/-- By induction on how deep calls nest, requests from outside and from callbacks settle waits only
as the application may. -/
private theorem settles_perform : ∀ depth request, request.SettlesBy P →
    (a.perform depth request).Follows (Settles P)
  | 0, request, _ => request.follows_unanswered
  | depth + 1, request, hr =>
    Host.settles_execute (ha.callbacksFollow_host (settles_perform depth)
      (fun _ x => .elsewhere x) fun _ _ => .sees rfl) request hr

/-- And so does a run of moves, of which none settles a wait in another way. -/
private theorem settles_follow (depth : Nat) : ∀ moves : List (Move S X),
    (∀ move ∈ moves, move.SettlesBy P) → (a.follow depth moves).Follows (Settles P)
  | [], _ => .pure ()
  | .call request :: moves, hm =>
    .bind (.bind (settles_perform ha depth request (hm _ List.mem_cons_self)) fun _ => .pure ())
      fun _ => settles_follow depth moves fun move hmem => hm move (List.mem_cons_of_mem _ hmem)
  | .elsewhere change :: moves, hm =>
    .bind (fun e => .elsewhere (change e.outside)) fun _ =>
      settles_follow depth moves fun move hmem => hm move (List.mem_cons_of_mem _ hmem)

end Application

/-- A session that ended did not turn its connection away. -/
private theorem Course.not_refuses_of_ends {settings : Settings} {x : X} {e : Endpoint S N X}
    (h : Course (.fresh settings x) e) (he : .ends ∈ e.turns) : .refuses ∉ e.turns := by
  obtain ⟨l, hl, path⟩ := h.path
  rw [Endpoint.turns_eq, hl, Endpoint.milestones_fresh, List.nil_append] at he ⊢
  intro hr
  rw [path.turnsIn_eq_of_refuses hr, List.mem_singleton] at he
  cases he

namespace Application

/-- An application settles the waits of its sessions by calls on their tables. Those that are left
when a session finishes fail with it if it fails, and are closed for its reason otherwise; `P` holds
of the outcomes that are asked for before. -/
structure SettlesWaits (a : Application S N X) (P : Nat → Reply S → Prop) : Prop where
  /-- The table of a session is one that calls were made on, and nothing else. -/
  table (settings : Settings) (x : X) (depth : Nat) (moves : List (Move S X)) :
    ∃ calls, ((a.follow depth moves).after (.fresh settings x)).session.replies =
      Replies.ofCalls calls
  /-- A session that finishes is closed, runs its callbacks, and gives all waits that are left
  their outcome for good. -/
  finishes (depth : Nat) (cause : Option ProtocolError) (e : Endpoint S N X) :
    e.session.replies.Sound → e.session.phase ≠ .closed →
      let e' := ((a.host (a.perform depth)).finish cause).after e
      e'.session.phase = .closed ∧ e'.session.reason = e.session.reason ∧
        e'.callbacks = e.callbacks ++ ((cause.map (.failed .closed)).toList ++ [.closed .closed]) ∧
        ∀ id ∈ e.session.replies.waiting, ∀ nesting later,
          ((a.follow nesting later).after e').outcome? id =
            some (.error (Host.closingError e.session.reasonText cause))
  /-- A session that fails finishes with its failure. -/
  fails (depth : Nat) (cause : ProtocolError) (e : Endpoint S N X) : e.session.phase ≠ .closed →
    (a.perform (depth + 1) (.fail cause)).after e =
      ((a.host (a.perform depth)).finish (some cause)).after
        (((a.host (a.perform depth)).failing cause).after e)
  /-- A session whose connection goes away finishes without one, for the reason it had or else
  because of that. -/
  vanishes (depth : Nat) (e : Endpoint S N X) : e.session.phase ≠ .closed →
    (a.perform (depth + 1) .transportClosed).after e =
      ((a.host (a.perform depth)).finish none).after
        (e.because (e.session.reason.getD "connection closed"))
  /-- So does one that is closed before it has a connection. -/
  closes (depth : Nat) (reason : String) (e : Endpoint S N X) : e.session.phase = .connecting →
    (a.perform (depth + 1) (.close reason)).after e =
      ((a.host (a.perform depth)).finish none).after (e.because reason)
  /-- Whatever moves a session to its end, a wait that was outstanding before them was settled by
  one who asked for it, or has the outcome of those that were left. -/
  runs (settings : Settings) (x : X) (depth : Nat) (before later : List (Move S X)) :
    (∀ move ∈ later, move.SettlesBy P) →
      let e := (a.follow depth before).after (.fresh settings x)
      let e' := (a.follow depth later).after e
      e.session.phase ≠ .closed → .ends ∈ e'.turns → ∀ id ∈ e.session.replies.waiting,
        (∃ outcome, P id outcome ∧ e'.outcome? id = some outcome) ∨
          e'.outcome? id = some (.error (Host.closingError e'.session.reasonText e'.failure?))

/-- Whatever calls are made on a table of waits, it completes every wait at most once; and an
application that calls its session only to settle waits as `P` says settles the waits of its
sessions by such calls, all that are left when a session finishes included. -/
theorem repliesExactlyOnce (a : Application S N X) (ha : a.Asks (Request.SettlesBy P)) :
    (∀ calls : List (Replies.Call S), Replies.ExactlyOnce calls) ∧ a.SettlesWaits P := by
  have hc (depth : Nat) : (a.host (a.perform depth)).CallbacksOnCourse :=
    a.callbacksOnCourse_host (a.onCourse_perform depth)
  refine ⟨Replies.exactlyOnce, ?_⟩
  constructor
  case table =>
    intro settings x depth moves
    exact (a.onCourse_follow depth moves _).exists_calls
  case finishes =>
    intro depth cause e hs hp e'
    have hclosed : e'.session.phase = .closed := Host.closed_finish (hc depth) cause
    refine ⟨hclosed, Host.reason_finish (hc depth) hp cause,
      Host.callbacks_finish (hc depth) hp cause, fun id hw nesting later => ?_⟩
    have hs' : e'.session.replies.Sound :=
      (Host.onCourse_finish (hc depth) cause e).sound_replies hs
    exact (a.onCourse_follow nesting later e').outcome?_eq hs'
      (Host.outcome?_finish (hc depth) hp hs cause hw)
  case fails => exact fun depth cause e hp => Host.after_fail hp cause
  case vanishes => exact fun depth e hp => Host.after_transportClosed hp
  case closes => exact fun depth reason e hp => Host.after_close_of_connecting hp reason
  case runs =>
    intro settings x depth before later hm e e' hp hends id hw
    have hcourse : Course (.fresh settings x) e := a.onCourse_follow depth before _
    have hcourse' : Course e e' := a.onCourse_follow depth later e
    have hfate : e'.Fate P id :=
      (settles_follow ha depth later hm e).fate (hcourse.sane (sane_fresh settings x)) id hw
    cases hfate with
    | waits hw' =>
      -- a session that ended has no waits left
      have hall := hcourse.trans hcourse'
      have hp' : e'.session.phase = .closed := hall.safeLifecycle.closed_iff.mpr (.inl hends)
      have hnone := (hcourse'.waiting_eq_nil hp hp').resolve_left (hall.not_refuses_of_ends hends)
      rw [hnone] at hw'
      cases hw'
    | settled ha ho => exact .inl ⟨_, ha, ho⟩
    | ended _ ho => exact .inr ho

/-- An application without connections that gives up the first wait when its session opens. -/
def forgetful : Application Sample.plain Unit Unit :=
  { unconnected with
    protocol := { Protocol.initial with
      lifecycle := { Lifecycle.silent with
        onOpened := do let _ ← Script.call (.settleReply 1 (.error .replyDropped)) } } }

/-- The one call in the callbacks of this application gives up the first wait. -/
private theorem asks_forgetful : forgetful.Asks
    (Request.SettlesBy fun id outcome => id = 1 ∧ outcome = .error .replyDropped) where
  handler := nofun
  inbound := nofun
  outbound := nofun
  opened := .ask ⟨rfl, rfl⟩ fun _ => .done ()
  closed := .done ()
  failed _ := .done ()
  carries _ _ := .done _
  hangsUp _ _ := .done ()
  connected _ := .done _

/-- Of two waits, the first is given up when the session opens, and the second is left when it
fails. -/
theorem repliesExactlyOnce_forgetful :
    forgetful.SettlesWaits (fun id outcome => id = 1 ∧ outcome = .error .replyDropped) ∧
      (let e := (forgetful.follow 2 [.call .awaitReply, .call .awaitReply]).after (.fresh {} ())
      let e' := (forgetful.follow 2 [.call (.openWith 0),
        .call (.fail (.unknownPacketId ⟨7⟩))]).after e
      e.session.phase ≠ .closed ∧ .ends ∈ e'.turns ∧ e.session.replies.waiting = [2, 1] ∧
        e'.outcome? 1 = some (.error .replyDropped) ∧
        e'.outcome? 2 = some (.error (.protocol (.unknownPacketId ⟨7⟩)))) := by
  have hsettles := (repliesExactlyOnce forgetful asks_forgetful).2
  refine ⟨hsettles, by decide, by decide, rfl, rfl, ?_⟩
  obtain ⟨outcome, ⟨hid, -⟩, -⟩ | hleft := hsettles.runs {} () 2
    [.call .awaitReply, .call .awaitReply]
    [.call (.openWith 0), .call (.fail (.unknownPacketId ⟨7⟩))]
    (by simp [Move.SettlesBy, Request.SettlesBy]) (by decide) (by decide) 2 (by decide)
  · cases hid
  · exact hleft

end Application

end PacketSession
