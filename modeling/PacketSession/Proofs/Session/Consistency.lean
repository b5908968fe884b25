import Mathlib.Logic.Relation
import PacketSession.Proofs.Session.Calls

/-!
# The state of a session is consistent, and its reason is written once

A session keeps its phase, its connection, its reason and its unfinished payloads in fields of
their own, which seven operations write. They always agree (`Session.Consistent`): a session has a
connection while it is open or closing, and a reason from then on.

There are five ways to end a session (`Ending`). A session has a reason from the first of them that
takes effect, and the reason is the one that this ending gives.

Both facts are read off the changes that a consistent session goes through one after the other
(`Endpoint.Change`). Every operation is a sequence of them, and so is everything that callbacks do
in the middle of one (`Application.staysConsistent_perform`). Where an operation writes several
fields and no callback runs before the last of them, this is one change: a session that fails or
closes before it has a connection has a reason but not yet the phase for it in between, and nobody
ever sees it so.
-/

namespace PacketSession

variable {S : Schema} {N X : Type}

/-- The fields of a session agree with its phase. -/
structure Session.Consistent (s : Session S) : Prop where
  connecting : s.phase = .connecting →
    s.connection = none ∧ s.reason = none ∧ s.reassembler.inFlight = []
  opened : s.phase = .opened → s.connection.isSome ∧ s.reason = none
  closing : s.phase = .closing → s.connection.isSome ∧ s.reason.isSome
  closed : s.phase = .closed →
    s.connection = none ∧ s.reason.isSome ∧ s.reassembler.inFlight = []

namespace Session.Consistent

variable {s s' : Session S}

/-- A fresh session is consistent: it has no connection, no reason and nothing in flight. -/
theorem fresh (settings : Settings) : (fresh settings : Session S).Consistent where
  connecting _ := ⟨rfl, rfl, rfl⟩
  opened := nofun
  closing := nofun
  closed := nofun

/-- An open session is consistent if it has a connection and no reason yet. -/
private theorem of_opened (hp : s.phase = .opened) (hc : s.connection.isSome)
    (hn : s.reason = none) : s.Consistent where
  connecting h := absurd (hp.symm.trans h) (by decide)
  opened _ := ⟨hc, hn⟩
  closing h := absurd (hp.symm.trans h) (by decide)
  closed h := absurd (hp.symm.trans h) (by decide)

/-- A closing session is consistent if it still has its connection and knows the reason. -/
private theorem of_closing (hp : s.phase = .closing) (hc : s.connection.isSome)
    (hr : s.reason.isSome) : s.Consistent where
  connecting h := absurd (hp.symm.trans h) (by decide)
  opened h := absurd (hp.symm.trans h) (by decide)
  closing _ := ⟨hc, hr⟩
  closed h := absurd (hp.symm.trans h) (by decide)

/-- A closed session is consistent if it has let go of everything but the reason. -/
theorem of_closed (hp : s.phase = .closed) (hc : s.connection = none) (hr : s.reason.isSome)
    (hf : s.reassembler.inFlight = []) : s.Consistent where
  connecting h := absurd (hp.symm.trans h) (by decide)
  opened h := absurd (hp.symm.trans h) (by decide)
  closing h := absurd (hp.symm.trans h) (by decide)
  closed _ := ⟨hc, hr, hf⟩

/-- What the fields do not depend on may change. -/
theorem of_eq (h : s.Consistent) (hphase : s'.phase = s.phase)
    (hconnection : s'.connection = s.connection) (hreason : s'.reason = s.reason)
    (hreassembler : s'.reassembler = s.reassembler) : s'.Consistent := by
  obtain ⟨h₁, h₂, h₃, h₄⟩ := h
  constructor <;> rw [hphase, hconnection, hreason]
  · rwa [hreassembler]
  · exact h₂
  · exact h₃
  · rwa [hreassembler]

/-- A session has no reason as long as it has not begun to end. -/
theorem reason_eq_none (h : s.Consistent) (hp : s.phase = .connecting ∨ s.phase = .opened) :
    s.reason = none := by
  obtain hp | hp := hp
  · exact (h.connecting hp).2.1
  · exact (h.opened hp).2

end Session.Consistent

/-! ### Endings -/

/-- The ways to end a session. -/
inductive Ending
  /-- Its own side closes it. -/
  | closes (reason : String)
  /-- It turns a connection away. -/
  | refuses (connection : ConnectionId) (reason : String)
  /-- It fails. -/
  | fails (cause : ProtocolError)
  /-- Its connection goes away. -/
  | vanishes
  /-- The peer announced a close. -/
  | hangsUp (reason : String)

namespace Endpoint

/-- A session gets a reason. -/
def because (e : Endpoint S N X) (reason : String) : Endpoint S N X :=
  e.update fun s => { s with reason := some reason }

private theorem because_eq {e : Endpoint S N X} {reason : String}
    (hr : e.session.reason = some reason) : e.because reason = e := by
  rw [because, update, ← hr]

end Endpoint

namespace Ending

/-- The operation that ends a session in this way. -/
def perform (h : Host S N X) : Ending → SessionM S N X Unit
  | closes reason => h.close reason
  | refuses connection reason => do let _ ← h.refuse connection reason
  | fails cause => h.fail cause
  | vanishes => h.transportClosed
  | hangsUp reason => h.peerDisconnected reason

/-- The reason that it gives. -/
def reason : Ending → String
  | closes reason | refuses _ reason | hangsUp reason => reason
  | fails cause => cause.message
  | vanishes => "connection closed"

/-- Whether it takes effect on a session in this phase as the first of its endings. -/
def TakesEffect : Ending → Phase → Prop
  | closes _, phase | fails _, phase | vanishes, phase => phase = .connecting ∨ phase = .opened
  | refuses _ _, phase => phase = .connecting
  | hangsUp _, phase => phase = .opened

/-- What it makes of an endpoint that it takes effect on, before anything else runs. -/
def takeEffect (ending : Ending) (e : Endpoint S N X) : Endpoint S N X :=
  let told := e.because ending.reason
  match ending, e.session.phase with
  | closes _, .connecting | vanishes, _ => told.turn .ends fun s => Host.released s none
  | closes _, _ => told.turn .closes id
  | refuses _ _, _ => told.turn .refuses id
  | fails cause, .connecting =>
    (told.turn (.fails cause) id).turn .ends fun s => Host.released s (some cause)
  | fails cause, _ => told.turn (.fails cause) id
  | hangsUp _, _ => told.turn .hangsUp id

variable {ending : Ending} {e : Endpoint S N X}

/-- An ending takes effect only at a session that is not over yet. -/
theorem TakesEffect.started {phase : Phase} (h : ending.TakesEffect phase) :
    phase = .connecting ∨ phase = .opened := by
  cases ending with
  | closes | fails | vanishes => exact h
  | refuses => exact .inl h
  | hangsUp => exact .inr h

/-- A session that ends gets the reason that the ending gives. -/
theorem reason_takeEffect (ending : Ending) (e : Endpoint S N X) :
    (ending.takeEffect e).session.reason = some ending.reason := by
  rw [takeEffect.eq_def]
  split <;> rfl

/-- What was seen of a session before it ends is what was seen when it does. -/
private theorem seen_mem_takeEffect {event : Event S N} :
    .seen event ∈ (ending.takeEffect e).journal ↔ .seen event ∈ e.journal := by
  rw [takeEffect.eq_def]
  split <;> simp [Endpoint.turn, Endpoint.because, Endpoint.update]

/-- An ending that takes effect on a consistent session leaves a consistent one. -/
theorem consistent_takeEffect (hs : e.session.Consistent)
    (ht : ending.TakesEffect e.session.phase) : (ending.takeEffect e).session.Consistent := by
  cases ending with
  | closes reason =>
    obtain hp | hp := ht <;> simp only [takeEffect, hp]
    · exact .of_closed rfl rfl rfl rfl
    · exact .of_closing rfl (hs.opened hp).1 rfl
  | refuses connection reason =>
    obtain ⟨hconn, -, hflight⟩ := hs.connecting ht
    exact .of_closed rfl hconn rfl hflight
  | fails cause =>
    obtain hp | hp := ht <;> simp only [takeEffect, hp]
    · exact .of_closed rfl rfl rfl rfl
    · exact .of_closing rfl (hs.opened hp).1 rfl
  | vanishes => exact .of_closed rfl rfl rfl rfl
  | hangsUp reason => exact .of_closing rfl (hs.opened ht).1 rfl

end Ending

/-! ### Changes of a consistent session -/

/-- The reason that an event gives for the end of a session, if it gives one. -/
def Event.reason? : Event S N → Option String
  | announcing reason | disconnecting _ reason => some reason
  | _ => none

namespace Endpoint

/-- What may happen to a consistent session at once. -/
inductive Change : Endpoint S N X → Endpoint S N X → Prop
  /-- Something changes that has nothing to do with how far the session has come. -/
  | idles {e e'} : e'.session.phase = e.session.phase →
      e'.session.connection = e.session.connection → e'.session.reason = e.session.reason →
      e'.session.reassembler = e.session.reassembler → e'.journal = e.journal → Change e e'
  /-- Something is seen. If it gives a reason, this is the reason of the session. -/
  | sees (e) (event : Event S N) :
      (∀ reason, event.reason? = some reason → e.session.reason = some reason) →
      Change e (e.record event)
  /-- An open session accepts a chunk. -/
  | accepts (e) (channel : Channel) (c : Chunk) : e.session.phase = .opened →
      Change e (e.update fun s => { s with reassembler := (s.reassembler.accept channel c).2 })
  /-- The session gets a connection. -/
  | opens (e) (connection : ConnectionId) (address : Option SocketAddress) :
      e.session.phase = .connecting →
      Change e (e.turn .opens fun s => { s with connection := some connection, address })
  /-- The session begins to end, which gives it a reason. -/
  | ends (e) (ending : Ending) : ending.TakesEffect e.session.phase →
      Change e (ending.takeEffect e)
  /-- A closing session fails. -/
  | fails (e) (cause : ProtocolError) : e.session.phase = .closing →
      Change e (e.turn (.fails cause) id)
  /-- A closing session is over. -/
  | finishes (e) (cause : Option ProtocolError) : e.session.phase = .closing →
      Change e (e.turn .ends fun s => Host.released s cause)

/-- An endpoint may become another one, by one change after the other. -/
abbrev Becomes (e e' : Endpoint S N X) : Prop := Relation.ReflTransGen Change e e'

/-- A reason goes back to an ending: on the way from one endpoint to another, this took effect on a
session that had no reason, and the reason is the one that it gave. -/
def Told (e : Endpoint S N X) (reason : String) (e' : Endpoint S N X) : Prop :=
  ∃ (ending : Ending) (e₁ : Endpoint S N X),
    ending.reason = reason ∧ e.Becomes e₁ ∧ e₁.session.reason = none ∧
      ending.TakesEffect e₁.session.phase ∧ (ending.takeEffect e₁).Becomes e'

/-- Whenever a session gave a reason to its peer or to its connection, it was the one it has. -/
def Truthful (e : Endpoint S N X) : Prop :=
  ∀ event reason, .seen event ∈ e.journal → event.reason? = some reason →
    e.session.reason = some reason

variable {e e' e₁ e₂ e₃ : Endpoint S N X} {reason : String}

namespace Change

/-- Every change keeps a session consistent: the fields of each phase are what it leaves there. -/
theorem consistent (h : Change e e') (hs : e.session.Consistent) : e'.session.Consistent := by
  cases h with
  | idles hphase hconnection hreason hreassembler =>
    exact hs.of_eq hphase hconnection hreason hreassembler
  | sees => exact hs
  | accepts _ _ hp => exact .of_opened hp (hs.opened hp).1 (hs.opened hp).2
  | opens _ _ hp => exact .of_opened rfl rfl (hs.connecting hp).2.1
  | ends ending ht => exact Ending.consistent_takeEffect hs ht
  | fails _ hp => exact .of_closing rfl (hs.closing hp).1 (hs.closing hp).2
  | finishes _ hp => exact .of_closed rfl rfl (hs.closing hp).2 rfl

/-- Only an ending that takes effect changes the reason. -/
theorem reason_eq_or (h : Change e e') : e'.session.reason = e.session.reason ∨
    ∃ ending : Ending, ending.TakesEffect e.session.phase ∧ e' = ending.takeEffect e := by
  cases h with
  | idles _ _ hreason => exact .inl hreason
  | ends ending ht => exact .inr ⟨ending, ht, rfl⟩
  | sees | accepts | opens | fails | finishes => exact .inl rfl

/-- A reason that is there stays. -/
theorem reason_eq (h : Change e e') (hs : e.session.Consistent)
    (hr : e.session.reason = some reason) : e'.session.reason = some reason := by
  obtain heq | ⟨ending, ht, -⟩ := h.reason_eq_or
  · exact heq.trans hr
  · rw [hs.reason_eq_none ht.started] at hr
    cases hr

/-- What is given as a reason is the reason that the session has at that moment, and this one stays,
so a change keeps the journal true. -/
private theorem truthful (h : Change e e') (hs : e.session.Consistent) (ht : e.Truthful) :
    e'.Truthful := by
  intro event reason hseen hreason
  refine h.reason_eq hs ?_
  cases h with
  | idles _ _ _ _ hjournal => exact ht event reason (hjournal ▸ hseen) hreason
  | sees seen hgiven =>
    obtain heq | hseen := List.mem_cons.mp hseen
    · cases heq
      exact hgiven reason hreason
    · exact ht event reason hseen hreason
  | accepts => exact ht event reason hseen hreason
  | ends => exact ht event reason (Ending.seen_mem_takeEffect.mp hseen) hreason
  | opens | fails | finishes =>
    exact ht event reason (List.mem_of_ne_of_mem (by nofun) hseen) hreason

end Change

namespace Becomes

/-- What becomes of a consistent session by changes is consistent. -/
theorem consistent (h : e.Becomes e') (hs : e.session.Consistent) : e'.session.Consistent := by
  induction h with
  | refl => exact hs
  | tail _ hchange ih => exact hchange.consistent ih

/-- A reason that is there is never replaced. -/
theorem reason_eq (h : e.Becomes e') (hs : e.session.Consistent)
    (hr : e.session.reason = some reason) : e'.session.reason = some reason := by
  induction h with
  | refl => exact hr
  | tail hbefore hchange ih => exact hchange.reason_eq (Becomes.consistent hbefore hs) ih

/-- The reasons in the journal of a consistent session stay true, by induction on the changes. -/
private theorem truthful (h : e.Becomes e') (hs : e.session.Consistent) (ht : e.Truthful) :
    e'.Truthful := by
  induction h with
  | refl => exact ht
  | tail hbefore hchange ih => exact hchange.truthful (Becomes.consistent hbefore hs) ih

/-- A reason that was not there goes back to an ending. -/
theorem told (h : e.Becomes e') (hs : e.session.Consistent) (hn : e.session.reason = none)
    (hr : e'.session.reason = some reason) : e.Told reason e' := by
  induction h with
  | refl =>
    rw [hn] at hr
    cases hr
  | @tail e₁ e₂ hbefore hchange ih =>
    have hs₁ := Becomes.consistent hbefore hs
    cases hr₁ : e₁.session.reason with
    | some first =>
      obtain rfl : first = reason := Option.some.inj ((hchange.reason_eq hs₁ hr₁).symm.trans hr)
      obtain ⟨ending, e₀, hreason, hgoes, hnone, ht, hrest⟩ := ih hr₁
      exact ⟨ending, e₀, hreason, hgoes, hnone, ht, hrest.tail hchange⟩
    | none =>
      obtain heq | ⟨ending, ht, rfl⟩ := hchange.reason_eq_or
      · rw [heq, hr₁] at hr
        cases hr
      · rw [ending.reason_takeEffect] at hr
        exact ⟨ending, e₁, Option.some.inj hr, hbefore, hr₁, ht, .refl⟩

end Becomes

/-- A consistent session goes through changes only. -/
def StaysConsistent (e e' : Endpoint S N X) : Prop := e.session.Consistent → e.Becomes e'

/-- A consistent session with this reason goes through changes only. -/
def StaysSo (reason : String) (e e' : Endpoint S N X) : Prop :=
  e.session.Consistent → e.session.reason = some reason → e.Becomes e'

namespace StaysConsistent

/-- Consistency is a matter of four fields and the journal. -/
theorem of_eq (hphase : e₁.session.phase = e.session.phase)
    (hconnection : e₁.session.connection = e.session.connection)
    (hreason : e₁.session.reason = e.session.reason)
    (hreassembler : e₁.session.reassembler = e.session.reassembler)
    (hjournal : e₁.journal = e.journal) : e.StaysConsistent e₁ :=
  fun _ => .single (.idles hphase hconnection hreason hreassembler hjournal)

/-- What gives no reason may always be seen. -/
theorem record {event : Event S N} (he : event.reason? = none) :
    e.StaysConsistent (e.record event) :=
  fun _ => .single (.sees e event (by rw [he]; nofun))

instance : IsPreorder (Endpoint S N X) StaysConsistent where
  refl _ _ := .refl
  trans _ _ _ h₁ h₂ := fun hs => (h₁ hs).trans (h₂ ((h₁ hs).consistent hs))

/-- A step that keeps sessions consistent keeps them so whatever the reason is. -/
private theorem staysSo (h : e.StaysConsistent e₁) : e.StaysSo reason e₁ := fun hs _ => h hs

end StaysConsistent

namespace StaysSo

/-- A session may give the reason that it has. -/
theorem record {event : Event S N} (he : event.reason? = some reason) :
    e.StaysSo reason (e.record event) := by
  refine fun _ hr => .single (.sees e event ?_)
  rw [he, hr]
  exact fun _ => id

/-- Steps that leave a reason as it is compose. -/
theorem trans (h₁ : e₁.StaysSo reason e₂) (h₂ : e₂.StaysSo reason e₃) : e₁.StaysSo reason e₃ :=
  fun hs hr => (h₁ hs hr).trans (h₂ ((h₁ hs hr).consistent hs) ((h₁ hs hr).reason_eq hs hr))

instance : IsPreorder (Endpoint S N X) (StaysSo reason) where
  refl _ _ _ := .refl
  trans _ _ _ := StaysSo.trans

end StaysSo

end Endpoint

/-! ### Every operation -/

namespace Host

open Endpoint

variable {h : Host S N X} (hk : h.CallbacksFollow StaysConsistent) {e : Endpoint S N X}
  {reason : String}

include hk

private theorem staysConsistent_hand (connection : ConnectionId) (frame : WireFrame) :
    (h.hand connection frame).Follows StaysConsistent :=
  follows_hand (hk.carries connection frame) fun _ _ => .record rfl

/-- Transmitting a frame keeps a session consistent, since only listeners and connections touch the
session meanwhile. -/
private theorem staysConsistent_transmit (connection : ConnectionId) (delivery : Delivery)
    (frame : Bytes) : (h.transmit connection delivery frame).Follows StaysConsistent :=
  follows_transmit ⟨hk.outbound, fun _ => staysConsistent_hand hk connection _⟩ frame

private theorem staysSo_disconnect (connection : ConnectionId) (reason : String) :
    (h.disconnect connection reason).Follows (StaysSo reason) :=
  follows_disconnect (fun e => (hk.hangsUp connection reason e).staysSo) fun _ => .record rfl

/-- Letting go of a connection does not touch the reason. -/
private theorem staysSo_letGo (connection : Option ConnectionId) (reason : String) :
    (h.letGo connection reason).Follows (StaysSo reason) := by
  cases connection with
  | some connection => exact staysSo_disconnect hk connection reason
  | none => exact .pure ()

/-- Announcing a close does not touch the reason that is announced. -/
private theorem staysSo_announceIfConnected (connection : ConnectionId) (reason : String) :
    (h.announceIfConnected connection reason).Follows (StaysSo reason) :=
  follows_announceIfConnected (fun e => (hk.connected connection e).staysSo) (fun _ => .record rfl)
    fun frame handle e => (staysConsistent_transmit hk connection _ frame handle e).staysSo

/-- The close of a connection is announced to it before it is asked to go away. -/
theorem staysSo_announce_disconnect (connection : ConnectionId) (reason : String) :
    e.StaysSo reason ((h.disconnect connection reason).after
      ((h.announceIfConnected connection reason).after e)) :=
  (staysSo_announceIfConnected hk connection reason e).trans
    (staysSo_disconnect hk connection reason _)

/-- What happens after the turn of a session that is over. -/
theorem staysSo_finish (hp : e.session.phase ≠ .closed) (hr : e.session.reason = some reason)
    (cause : Option ProtocolError) :
    (e.turn .ends fun s => released s cause).StaysSo reason ((h.finish cause).after e) := by
  have htext : e.session.reasonText = reason := by rw [Session.reasonText, hr, Option.getD]
  have hgoes := staysSo_letGo hk e.session.connection reason
    (e.turn .ends fun s => released s cause)
  have hover (e : Endpoint S N X) : e.StaysConsistent
      (h.protocol.lifecycle.onClosed.after (e.record (.closed e.session.phase))) :=
    IsTrans.trans _ _ _ (.record rfl) (hk.closed _)
  cases cause with
  | none =>
    rw [after_finish_none hp, htext]
    exact hgoes.trans (hover _).staysSo
  | some cause =>
    have hbreaks (e : Endpoint S N X) : e.StaysConsistent
        ((h.protocol.lifecycle.onException cause).after
          (e.record (.failed e.session.phase cause))) :=
      IsTrans.trans _ _ _ (.record rfl) (hk.failed cause _)
    rw [after_finish_some hp, htext]
    exact (hgoes.trans (hbreaks _).staysSo).trans (hover _).staysSo

/-- A session that has a reason may be over at any time. -/
theorem becomes_finish (hs : e.session.Consistent) (hr : e.session.reason = some reason)
    (cause : Option ProtocolError) : e.Becomes ((h.finish cause).after e) := by
  cases hp : e.session.phase with
  | connecting | opened =>
    have hn := hs.reason_eq_none (by simp [hp])
    rw [hr] at hn
    cases hn
  | closing =>
    have hchange := Change.finishes e cause hp
    exact .head hchange
      (staysSo_finish hk (by simp [hp]) hr cause (hchange.consistent hs) (hchange.reason_eq hs hr))
  | closed =>
    rw [after_finish_of_closed hp]

omit hk in
/-- A session whose connection goes away is over, for the reason it had or else because of that. -/
theorem after_transportClosed (hp : e.session.phase ≠ .closed) :
    h.transportClosed.after e = (h.finish none).after
      (e.because (e.session.reason.getD "connection closed")) := by
  rw [transportClosed, SessionM.after_bind, SessionM.answer_current, SessionM.after_current,
    if_neg hp]
  rfl

/-- What happens after the turn of a session that fails and is still to be over. -/
theorem becomes_fail (hp : e.session.phase ≠ .closed) (cause : ProtocolError)
    (hs : ((e.because (e.session.reason.getD cause.message)).turn (.fails cause)
      id).session.Consistent) :
    ((e.because (e.session.reason.getD cause.message)).turn (.fails cause) id).Becomes
      ((h.fail cause).after e) := by
  obtain ⟨e₁, hleft, heq⟩ := exists_finish_of_fail hp cause
    (fun connection => staysSo_announceIfConnected hk connection _)
    (fun connection => staysSo_disconnect hk connection _)
  have hgoes := hleft hs rfl
  rw [heq]
  exact hgoes.trans (becomes_finish hk (hgoes.consistent hs) (hgoes.reason_eq hs rfl) (some cause))

/-! What happens after an ending took effect. -/

section TookEffect

variable (hs : e.session.Consistent)

include hs

/-- Closing takes effect at once, and what follows it, the announcement and the end, leaves the
reason alone. -/
private theorem becomes_closes (ht : (Ending.closes reason).TakesEffect e.session.phase) :
    ((Ending.closes reason).takeEffect e).Becomes ((h.close reason).after e) := by
  have hs' := Ending.consistent_takeEffect hs ht
  rw [close, SessionM.after_bind, SessionM.answer_current, SessionM.after_current]
  obtain hp | hp := ht <;> simp only [Ending.takeEffect, hp] at hs' ⊢
  · have hnext : (e.because reason).session.phase ≠ .closed := by simp [because, update, hp]
    exact staysSo_finish hk hnext rfl none hs' rfl
  · obtain ⟨connection, hconn⟩ := Option.isSome_iff_exists.mp (hs.opened hp).1
    rw [hconn]
    exact staysSo_announce_disconnect hk connection reason hs' rfl

/-- A refusal takes effect before it is announced. -/
private theorem becomes_refuses {connection : ConnectionId}
    (ht : (Ending.refuses connection reason).TakesEffect e.session.phase) :
    ((Ending.refuses connection reason).takeEffect e).Becomes
      ((h.refuse connection reason).after e) := by
  have hs' := Ending.consistent_takeEffect hs ht
  rw [refuse, SessionM.after_bind, SessionM.answer_current, SessionM.after_current,
    openRefusal?_eq_none.mpr ht]
  -- the turn also notes where the peer is
  have hnotes : ((Ending.refuses connection reason).takeEffect e).StaysConsistent
      (e.turn .refuses fun s => { s with
        reason := some reason
        address := h.carrier.address e.outside connection }) :=
    .of_eq rfl rfl rfl rfl rfl
  exact hnotes.staysSo.trans (staysSo_announce_disconnect hk connection reason) hs' rfl

/-- A failure takes effect before it is announced, and the callbacks that follow find the reason
set. -/
private theorem becomes_fails {cause : ProtocolError}
    (ht : (Ending.fails cause).TakesEffect e.session.phase) :
    ((Ending.fails cause).takeEffect e).Becomes ((h.fail cause).after e) := by
  have hs' := Ending.consistent_takeEffect hs ht
  have hn := hs.reason_eq_none ht.started
  have hp : e.session.phase ≠ .closed := by obtain hp | hp := ht <;> simp [hp]
  obtain hp' | hp' := ht <;> simp only [Ending.takeEffect, hp'] at hs' ⊢
  · -- the fields disagree until the end, but no callback runs before it
    have hfails : (h.fail cause).after e = (h.finish (some cause)).after
        ((e.because (e.session.reason.getD cause.message)).turn (.fails cause) id) := by
      rw [fail, SessionM.after_bind, SessionM.answer_current, SessionM.after_current, if_neg hp,
        (hs.connecting hp').1]
      rfl
    rw [hfails, hn]
    exact staysSo_finish hk Phase.noConfusion rfl (some cause) hs' rfl
  · have hfails := becomes_fail hk hp cause
    rw [hn] at hfails
    exact hfails hs'

/-- A connection that goes away takes effect by the end of the session, and the reason that it gives
is there before the callbacks run. -/
private theorem becomes_vanishes (ht : Ending.vanishes.TakesEffect e.session.phase) :
    (Ending.vanishes.takeEffect e).Becomes (h.transportClosed.after e) := by
  have hp : e.session.phase ≠ .closed := by obtain hp | hp := ht <;> simp [hp]
  rw [after_transportClosed hp, hs.reason_eq_none ht]
  exact staysSo_finish hk (e := e.because "connection closed") hp rfl none
    (Ending.consistent_takeEffect hs ht) rfl

/-- An announcement of the peer takes effect before the connection is let go. -/
private theorem becomes_hangsUp (ht : (Ending.hangsUp reason).TakesEffect e.session.phase) :
    ((Ending.hangsUp reason).takeEffect e).Becomes ((h.peerDisconnected reason).after e) := by
  have hp : e.session.phase = .opened := ht
  obtain ⟨connection, hconn⟩ := Option.isSome_iff_exists.mp (hs.opened hp).1
  rw [peerDisconnected, SessionM.after_bind, SessionM.answer_current, SessionM.after_current,
    if_pos hp, hconn]
  exact staysSo_disconnect hk connection reason _ (Ending.consistent_takeEffect hs ht) rfl

/-- Whatever ends a session, its effect comes first, and everything else that the call does leaves
the reason as it is. -/
theorem becomes_perform {ending : Ending} (ht : ending.TakesEffect e.session.phase) :
    (ending.takeEffect e).Becomes ((ending.perform h).after e) := by
  cases ending with
  | closes reason => exact becomes_closes hk hs ht
  | refuses connection reason => exact becomes_refuses hk hs ht
  | fails cause => exact becomes_fails hk hs ht
  | vanishes => exact becomes_vanishes hk hs ht
  | hangsUp reason => exact becomes_hangsUp hk hs ht

/-- An ending that takes effect goes through changes only. -/
theorem becomes_of_takesEffect (ending : Ending) (ht : ending.TakesEffect e.session.phase) :
    e.Becomes ((ending.perform h).after e) :=
  .head (.ends e ending ht) (becomes_perform hk hs ht)

end TookEffect

/-- Failing keeps a session consistent, whether it takes effect or comes too late. -/
private theorem staysConsistent_fail (cause : ProtocolError) :
    (h.fail cause).Follows StaysConsistent := by
  intro e hs
  cases hp : e.session.phase with
  | connecting => exact becomes_of_takesEffect hk hs (.fails cause) (.inl hp)
  | opened => exact becomes_of_takesEffect hk hs (.fails cause) (.inr hp)
  | closing =>
    obtain ⟨reason, hr⟩ := Option.isSome_iff_exists.mp (hs.closing hp).2
    have hchange := Change.fails e cause hp
    have hfails := becomes_fail hk (e := e) (by simp [hp]) cause
    rw [hr, Option.getD_some, because_eq hr] at hfails
    exact .head hchange (hfails (hchange.consistent hs))
  | closed => rw [after_fail_of_closed hp]

/-- So does a connection that goes away. -/
private theorem staysConsistent_transportClosed : h.transportClosed.Follows StaysConsistent := by
  intro e hs
  cases hp : e.session.phase with
  | connecting => exact becomes_of_takesEffect hk hs .vanishes (.inl hp)
  | opened => exact becomes_of_takesEffect hk hs .vanishes (.inr hp)
  | closing =>
    obtain ⟨reason, hr⟩ := Option.isSome_iff_exists.mp (hs.closing hp).2
    rw [after_transportClosed (by simp [hp]), hr, Option.getD_some, because_eq hr]
    exact becomes_finish hk hs hr none
  | closed => rw [after_transportClosed_of_closed hp]

/-- So does closing, in every phase. -/
private theorem staysConsistent_close (reason : String) :
    (h.close reason).Follows StaysConsistent := by
  intro e hs
  cases hp : e.session.phase with
  | connecting => exact becomes_of_takesEffect hk hs (.closes reason) (.inl hp)
  | opened => exact becomes_of_takesEffect hk hs (.closes reason) (.inr hp)
  | closing => rw [after_close_of_over (.inl hp)]
  | closed => rw [after_close_of_over (.inr hp)]

/-- So does turning a connection away. -/
private theorem staysConsistent_refuse (connection : ConnectionId) (reason : String) :
    (h.refuse connection reason).Follows StaysConsistent := by
  intro e hs
  cases hr : openRefusal? e.session with
  | some refusal => rw [(refuse_of_refused hr connection reason).2]
  | none =>
    exact becomes_of_takesEffect hk hs (.refuses connection reason)
      (openRefusal?_eq_none.mp hr)

/-- So does the announcement of the peer. -/
private theorem staysConsistent_peerDisconnected (reason : String) :
    (h.peerDisconnected reason).Follows StaysConsistent := by
  intro e hs
  by_cases hp : e.session.phase = .opened
  · exact becomes_of_takesEffect hk hs (.hangsUp reason) hp
  · rw [after_peerDisconnected_of_not_open hp]

/-- Opening gives a session its connection, and the callback after that keeps it consistent. -/
private theorem staysConsistent_openWith (connection : ConnectionId) :
    (h.openWith connection).Follows StaysConsistent := by
  intro e hs
  cases hr : openRefusal? e.session with
  | some refusal => rw [(openWith_of_refused hr connection).2]
  | none =>
    rw [openWith, SessionM.after_bind, SessionM.answer_current, SessionM.after_current, hr]
    have hchange := Change.opens e connection (h.carrier.address e.outside connection)
      (openRefusal?_eq_none.mp hr)
    have hnotifies (e : Endpoint S N X) : e.StaysConsistent (h.notifyOpened.after e) :=
      IsTrans.trans _ _ _ (.record rfl) (hk.opened (e.record (.opened e.session.phase)))
    exact .head hchange (hnotifies _ (hchange.consistent hs))

/-- Submitting frames may end in a failure, which keeps the session consistent. -/
private theorem staysConsistent_submit (delivery : Delivery) (frames : List Bytes) :
    (h.submit delivery frames).Follows StaysConsistent :=
  follows_submit (fun connection => staysConsistent_transmit hk connection delivery)
    (staysConsistent_fail hk) frames

/-- Everything that receiving is made of keeps a session consistent. -/
private theorem receives_staysConsistent : h.Receives StaysConsistent where
  inbound := hk.inbound
  accepts e channel c hp _ := .single (.accepts e channel c hp)
  handles entry he delivery d := by
    rw [Handler.invoke]
    split
    · exact .bind (fun _ => .record rfl) fun _ => hk.handler entry he d.packet delivery
    · exact .pure ()
  hangsUp := staysConsistent_peerDisconnected hk
  fails := staysConsistent_fail hk

/-- Every request keeps a session consistent, given that callbacks do. -/
private theorem staysConsistent_execute : (request : Request S) →
    (request.execute h).Follows StaysConsistent
  | .openWith connection => staysConsistent_openWith hk connection
  | .refuse connection reason => staysConsistent_refuse hk connection reason
  | .close reason => staysConsistent_close hk reason
  | .fail cause => staysConsistent_fail hk cause
  | .receive frame => follows_receive (receives_staysConsistent hk) frame
  | .arrive arrival =>
    follows_step (follows_receive (receives_staysConsistent hk)) (staysConsistent_fail hk)
      (staysConsistent_transportClosed hk) arrival
  | .transportClosed => staysConsistent_transportClosed hk
  | .transportFailed cause => staysConsistent_fail hk (.transport cause)
  | .send packet delivery => follows_send (staysConsistent_submit hk delivery) packet
  | .sendBatch packets delivery => follows_sendBatch (staysConsistent_submit hk delivery) packets
  | .sendFrame frame delivery => staysConsistent_submit hk delivery [frame]
  | .awaitReply | .settleReply _ _ | .setAttachment _ =>
    fun _ => .of_eq rfl rfl rfl rfl rfl
  | .inspect => .current

end Host

/-! ### Every run -/

namespace Application

open Endpoint

variable (a : Application S N X)

/-- The callbacks of an application keep its session consistent if the answers to their calls do. -/
theorem staysConsistent_host {answer : (request : Request S) → SessionM S N X request.Answer}
    (ha : ∀ request, (answer request).Follows StaysConsistent) :
    (a.host answer).CallbacksFollow StaysConsistent :=
  a.callbacksFollow_host ha (fun _ _ => .of_eq rfl rfl rfl rfl rfl) fun _ _ => .record rfl

/-- To whatever depth calls of callbacks nest, they keep a session consistent. -/
theorem staysConsistent_perform : ∀ depth request,
    (a.perform depth request).Follows StaysConsistent
  | 0, request => request.follows_unanswered
  | depth + 1, request =>
    Host.staysConsistent_execute (a.staysConsistent_host (staysConsistent_perform depth)) request

/-- Runs of moves keep a session consistent. -/
theorem staysConsistent_follow (depth : Nat) : ∀ moves : List (Move S X),
    (a.follow depth moves).Follows StaysConsistent
  | [] => .pure ()
  | .call request :: moves =>
    .bind (.bind (a.staysConsistent_perform depth request) fun _ => .pure ()) fun _ =>
      staysConsistent_follow depth moves
  | .elsewhere _ :: moves =>
    .bind (fun _ => .of_eq rfl rfl rfl rfl rfl) fun _ => staysConsistent_follow depth moves

/-- The reason of a session does not change any more once it is set. -/
private theorem reason_follow {e : Endpoint S N X} (hs : e.session.Consistent) {reason : String}
    (hr : e.session.reason = some reason) (depth : Nat) (moves : List (Move S X)) :
    ((a.follow depth moves).after e).session.reason = some reason :=
  (a.staysConsistent_follow depth moves e hs).reason_eq hs hr

/-- Between the calls on a session its fields agree with its phase. If it has a reason, this is the
one of an ending that took effect when there was none; it is the only one that the session ever
gave to anybody, and it is the reason after all further calls. And an ending that takes effect at a
consistent session, be it called from a callback, gives its own reason for good. -/
theorem consistent_follow (settings : Settings) (x : X) (depth : Nat) (moves : List (Move S X)) :
    let start : Endpoint S N X := .fresh settings x
    let e := (a.follow depth moves).after start
    e.session.Consistent ∧ e.Truthful ∧
      (∀ reason, e.session.reason = some reason →
        start.Told reason e ∧
          ∀ later, ((a.follow depth later).after e).session.reason = some reason) ∧
      ∀ (ending : Ending) (e₁ : Endpoint S N X) (nesting : Nat),
        e₁.session.Consistent → ending.TakesEffect e₁.session.phase →
          let e₂ := (ending.perform (a.host (a.perform nesting))).after e₁
          e₂.session.Consistent ∧
            ∀ later, ((a.follow nesting later).after e₂).session.reason = some ending.reason := by
  intro start e
  have hstart : start.session.Consistent := .fresh settings
  have hgoes : start.Becomes e := a.staysConsistent_follow depth moves start hstart
  refine ⟨hgoes.consistent hstart, hgoes.truthful hstart nofun,
    fun reason hr => ⟨hgoes.told hstart rfl hr, ?_⟩, fun ending e₁ nesting hs ht => ?_⟩
  · exact a.reason_follow (hgoes.consistent hstart) hr depth
  · have hs' := Ending.consistent_takeEffect hs ht
    have hends := Host.becomes_perform (a.staysConsistent_host (a.staysConsistent_perform nesting))
      hs ht
    exact ⟨hends.consistent hs', a.reason_follow (hends.consistent hs')
      (hends.reason_eq hs' (ending.reason_takeEffect e₁)) nesting⟩

end Application

end PacketSession
