import PacketSession.Proofs.Script.Silent
import PacketSession.Proofs.Session.Lifecycle

/-!
# A session that is over keeps quiet

Once a session is closing or closed it hands no frame to a connection, announces nothing and runs
no handler, whatever is called on it and whatever its callbacks call in turn. Its journal still
grows, by *quiet* entries only: turns, requests to a connection to go away, callbacks and notes.

Ending a session and failing it are quiet in whatever state they find it, since they take their
turn first. The one exception is the failure of an open session that is announced to the peer.
-/

namespace PacketSession

variable {S : Schema} {N X : Type}

/-! ### Quiet changes -/

/-- Whether an entry neither announces a close nor is about a frame that was handed over. -/
def Entry.isQuiet : Entry S N → Bool
  | .seen (.announcing _) | .seen (.sent _ _ _) => false
  | _ => true

/-- Whether an event neither announces a close nor is about a frame or a packet. -/
def Event.isIdle : Event S N → Bool
  | announcing _ | sent _ _ _ | handling _ _ _ => false
  | _ => true

namespace Endpoint

/-- Nothing but quiet entries joined the journal. -/
def Hush (e e' : Endpoint S N X) : Prop :=
  ∃ entries, e'.journal = entries ++ e.journal ∧ ∀ entry ∈ entries, entry.isQuiet = true

/-- The session is over or about to be, nothing but quiet entries joined the journal, and no handler
ran. -/
structure Quieted (e e' : Endpoint S N X) : Prop where
  isOver : 2 ≤ e'.session.phase.rank
  hush : e.Hush e'
  handled : e'.handled = e.handled

/-- A session that is over or about to be stays so, and quiet. -/
def KeepsQuiet (e e' : Endpoint S N X) : Prop := 2 ≤ e.session.phase.rank → e.Quieted e'

variable {e e₁ e₂ e₃ : Endpoint S N X}

namespace Hush

theorem of_journal_eq (h : e₁.journal = e.journal) : e.Hush e₁ := ⟨[], h, by simp⟩

theorem record (event : Event S N) (h : (Entry.seen event).isQuiet = true) :
    e.Hush (e.record event) :=
  ⟨[.seen event], rfl, by simpa using h⟩

theorem turn (t : Turn) (f : Session S → Session S) : e.Hush (e.turn t f) :=
  ⟨[.turned t], rfl, by simp [Entry.isQuiet]⟩

/-- Quiet stretches of a run make a quiet run. -/
theorem trans (h₁ : e₁.Hush e₂) (h₂ : e₂.Hush e₃) : e₁.Hush e₃ := by
  obtain ⟨first, hj₁, hq₁⟩ := h₁
  obtain ⟨second, hj₂, hq₂⟩ := h₂
  refine ⟨second ++ first, ?_, List.forall_mem_append.mpr ⟨hq₂, hq₁⟩⟩
  rw [hj₂, hj₁, List.append_assoc]

/-- What is read off other entries does not change. -/
theorem filterMap_eq {α : Type} (f : Entry S N → Option α)
    (hf : ∀ entry, entry.isQuiet = true → f entry = none) (h : e.Hush e₁) :
    e₁.journal.reverse.filterMap f = e.journal.reverse.filterMap f := by
  obtain ⟨entries, hj, hq⟩ := h
  have hnone : entries.reverse.filterMap f = [] :=
    List.filterMap_eq_nil_iff.mpr fun entry he => hf entry (hq entry (List.mem_reverse.mp he))
  rw [hj, List.reverse_append, List.filterMap_append, hnone, List.append_nil]

/-- No connection takes a frame while a session is quiet. -/
theorem taken_eq (h : e.Hush e₁) : e₁.taken = e.taken := by
  refine h.filterMap_eq _ fun entry hq => ?_
  cases entry with
  | turned => rfl
  | seen event =>
    cases event with
    | sent => cases hq
    | _ => rfl

end Hush

/-- After a turn that ends a session or is about to, it is over or about to be. -/
theorem quieted_turn {t : Turn} (ht : 2 ≤ t.phase.rank) (f : Session S → Session S) :
    e.Quieted (e.turn t f) :=
  ⟨ht, .turn t f, by simp [handled, Endpoint.turn]⟩

/-- Once a session is over and quiet, what keeps it quiet may follow. -/
theorem Quieted.trans (h₁ : e₁.Quieted e₂) (h₂ : e₂.KeepsQuiet e₃) : e₁.Quieted e₃ := by
  have hnext := h₂ h₁.isOver
  exact ⟨hnext.isOver, h₁.hush.trans hnext.hush, hnext.handled.trans h₁.handled⟩

namespace KeepsQuiet

theorem of_eq (hs : e₁.session.phase = e.session.phase) (hj : e₁.journal = e.journal) :
    e.KeepsQuiet e₁ :=
  fun hp => ⟨hs ▸ hp, .of_journal_eq hj, by rw [handled, hj, ← handled]⟩

theorem record (event : Event S N) (h : event.isIdle = true) : e.KeepsQuiet (e.record event) := by
  intro hp
  cases event with
  | announcing | sent | handling => cases h
  | _ => exact ⟨hp, .record _ rfl, by simp [handled, Endpoint.record]⟩

instance : IsPreorder (Endpoint S N X) KeepsQuiet where
  refl _ := .of_eq rfl rfl
  trans _ _ _ h₁ h₂ := fun hp => (h₁ hp).trans h₂

end KeepsQuiet

end Endpoint

/-! ### A session that is over keeps quiet -/

/-- The phases of a session that is over or about to be are the last two. -/
theorem Phase.over_iff {p : Phase} : 2 ≤ p.rank ↔ p = .closing ∨ p = .closed := by
  cases p <;> decide

theorem Phase.ne_opened_of_over {p : Phase} (h : 2 ≤ p.rank) : p ≠ .opened := by
  rintro rfl
  exact absurd h (by decide)

namespace Host

open Endpoint

variable {h : Host S N X} (hq : h.CallbacksFollow KeepsQuiet) {e : Endpoint S N X}

/-- A session that is over is neither opened nor turned away from a connection any more. -/
theorem openRefusal?_of_over (hp : 2 ≤ e.session.phase.rank) :
    ∃ refusal, openRefusal? e.session = some refusal := by
  obtain hp | hp := Phase.over_iff.mp hp <;> simp [openRefusal?, hp]

/-- A session that is over has no connection to write to. -/
private theorem writable_of_over (hp : 2 ≤ e.session.phase.rank) :
    ∃ refusal, writable e.session = .error refusal := by
  obtain hp | hp := Phase.over_iff.mp hp <;> simp [writable, hp]

/-- A session that is over sends nothing. -/
private theorem after_submit_of_over (hp : 2 ≤ e.session.phase.rank) (delivery : Delivery)
    (frames : List Bytes) : (h.submit delivery frames).after e = e := by
  obtain ⟨refusal, hw⟩ := writable_of_over hp
  exact (submit_of_refused hw delivery frames).2

include hq

/-- A request to a connection to go away is quiet, as long as the connection is. -/
theorem keepsQuiet_disconnect (connection : ConnectionId) (reason : String) :
    (h.disconnect connection reason).Follows KeepsQuiet :=
  follows_disconnect (hq.hangsUp connection reason) fun _ => .record _ rfl

private theorem keepsQuiet_letGo (connection : Option ConnectionId) (reason : String) :
    (h.letGo connection reason).Follows KeepsQuiet := by
  cases connection with
  | some connection => exact keepsQuiet_disconnect hq connection reason
  | none => exact .pure ()

/-- Whatever state a session is in, it is quiet while it ends. -/
theorem quieted_finish (hp : e.session.phase ≠ .closed) (cause : Option ProtocolError) :
    e.Quieted ((h.finish cause).after e) := by
  have hturn : e.Quieted (e.turn .ends fun s => released s cause) := quieted_turn (by decide) _
  have hl := hturn.trans (keepsQuiet_letGo hq e.session.connection e.session.reasonText _)
  cases cause with
  | none =>
    rw [after_finish_none hp]
    refine Quieted.trans ?_ (hq.closed _)
    exact hl.trans (.record _ rfl)
  | some cause =>
    rw [after_finish_some hp]
    refine Quieted.trans (Quieted.trans ?_ (.record _ rfl)) (hq.closed _)
    refine Quieted.trans ?_ (hq.failed cause _)
    exact hl.trans (.record _ rfl)

/-- Finishing keeps a closing session quiet, and at a closed one it does nothing. -/
theorem keepsQuiet_finish (cause : Option ProtocolError) : (h.finish cause).Follows KeepsQuiet := by
  intro e hp
  by_cases hc : e.session.phase = .closed
  · rw [after_finish_of_closed hc]
    exact Std.Refl.refl (r := KeepsQuiet) e hp
  · exact quieted_finish hq hc cause

/-- A failure that is not announced is quiet. -/
theorem quieted_fail (hp : e.session.phase ≠ .closed) {cause : ProtocolError}
    (hn : e.session.phase ≠ .opened ∨ cause.isTransport = true) :
    e.Quieted ((h.fail cause).after e) := by
  have hturn : e.Quieted (e.turn (.fails cause) fun s =>
      { s with reason := some (s.reason.getD cause.message) }) :=
    quieted_turn (t := .fails cause) (Nat.le_refl 2) _
  have hcond : (decide (e.session.phase = .opened) && !cause.isTransport) = false := by
    obtain hn | hn := hn <;> simp [hn]
  rw [fail, SessionM.after_bind, SessionM.answer_current, SessionM.after_current, if_neg hp]
  cases hconn : e.session.connection with
  | none => exact hturn.trans (keepsQuiet_finish hq (some cause) _)
  | some connection =>
    simp only [hcond]
    have hd := keepsQuiet_disconnect hq connection (e.session.reason.getD cause.message)
    exact (hturn.trans (hd _)).trans (keepsQuiet_finish hq (some cause) _)

/-- A failure is announced by open sessions only, so one that is over fails quietly. -/
private theorem keepsQuiet_fail (cause : ProtocolError) : (h.fail cause).Follows KeepsQuiet := by
  intro e hp
  by_cases hc : e.session.phase = .closed
  · rw [after_fail_of_closed hc]
    exact Std.Refl.refl (r := KeepsQuiet) e hp
  · exact quieted_fail hq hc (.inl (Phase.ne_opened_of_over hp))

/-- A session whose connection goes away ends quietly, whatever state it was in. -/
theorem quieted_transportClosed (hp : e.session.phase ≠ .closed) :
    e.Quieted (h.transportClosed.after e) := by
  rw [transportClosed, SessionM.after_bind, SessionM.answer_current, SessionM.after_current,
    if_neg hp]
  have hf := quieted_finish hq (e := e.update fun s =>
    { s with reason := some (s.reason.getD "connection closed") }) hp none
  exact ⟨hf.isOver, hf.hush, hf.handled⟩

private theorem keepsQuiet_transportClosed : h.transportClosed.Follows KeepsQuiet := by
  intro e hp
  by_cases hc : e.session.phase = .closed
  · rw [after_transportClosed_of_closed hc]
    exact Std.Refl.refl (r := KeepsQuiet) e hp
  · exact quieted_transportClosed hq hc

omit hq in
/-- Whoever closes a session that is over is ignored. -/
private theorem keepsQuiet_close (reason : String) : (h.close reason).Follows KeepsQuiet := by
  intro e hp
  rw [after_close_of_over (Phase.over_iff.mp hp)]
  exact Std.Refl.refl (r := KeepsQuiet) e hp

omit hq in
private theorem keepsQuiet_openWith (connection : ConnectionId) :
    (h.openWith connection).Follows KeepsQuiet := by
  intro e hp
  obtain ⟨refusal, hr⟩ := openRefusal?_of_over hp
  rw [(openWith_of_refused hr connection).2]
  exact Std.Refl.refl (r := KeepsQuiet) e hp

omit hq in
private theorem keepsQuiet_refuse (connection : ConnectionId) (reason : String) :
    (h.refuse connection reason).Follows KeepsQuiet := by
  intro e hp
  obtain ⟨refusal, hr⟩ := openRefusal?_of_over hp
  rw [(refuse_of_refused hr connection reason).2]
  exact Std.Refl.refl (r := KeepsQuiet) e hp

omit hq in
private theorem keepsQuiet_submit (delivery : Delivery) (frames : List Bytes) :
    (h.submit delivery frames).Follows KeepsQuiet := by
  intro e hp
  rw [after_submit_of_over hp]
  exact Std.Refl.refl (r := KeepsQuiet) e hp

omit hq in
/-- A session that is over does not look at frames, so no handler runs. -/
private theorem keepsQuiet_receive (frame : WireFrame) : (h.receive frame).Follows KeepsQuiet := by
  intro e hp
  rw [after_receive_of_not_open (Phase.ne_opened_of_over hp)]
  exact Std.Refl.refl (r := KeepsQuiet) e hp

/-- Every request keeps a session that is over quiet, given that callbacks do. Most of them find the
phase wrong and do nothing. -/
private theorem keepsQuiet_execute : (request : Request S) → (request.execute h).Follows KeepsQuiet
  | .openWith connection => keepsQuiet_openWith connection
  | .refuse connection reason => keepsQuiet_refuse connection reason
  | .close reason => keepsQuiet_close reason
  | .fail cause => keepsQuiet_fail hq cause
  | .receive frame => keepsQuiet_receive frame
  | .arrive arrival =>
    follows_step keepsQuiet_receive (keepsQuiet_fail hq) (keepsQuiet_transportClosed hq) arrival
  | .transportClosed => keepsQuiet_transportClosed hq
  | .transportFailed cause => keepsQuiet_fail hq (.transport cause)
  | .send packet delivery => follows_send (keepsQuiet_submit delivery) packet
  | .sendBatch packets delivery => follows_sendBatch (keepsQuiet_submit delivery) packets
  | .sendFrame frame delivery => keepsQuiet_submit delivery [frame]
  | .awaitReply | .settleReply _ _ | .setAttachment _ => fun _ => .of_eq rfl rfl
  | .inspect => .current

end Host

namespace Application

open Endpoint

variable (a : Application S N X)

/-- Calls on a session that is over or about to be hand over no frame, announce nothing and run no
handler, to whatever depth the calls of callbacks nest. -/
theorem keepsQuiet_perform : ∀ depth request, (a.perform depth request).Follows KeepsQuiet
  | 0, request => request.follows_unanswered
  | depth + 1, request => by
    refine Host.keepsQuiet_execute (a.callbacksFollow_host (keepsQuiet_perform depth) ?_ ?_) request
    · exact fun _ _ => .of_eq rfl rfl
    · exact fun _ _ => .record _ rfl

/-- The callbacks of an application keep quiet, since all they can do is to make calls. -/
theorem keepsQuiet_host (depth : Nat) :
    (a.host (a.perform depth)).CallbacksFollow KeepsQuiet :=
  a.callbacksFollow_host (a.keepsQuiet_perform depth) (fun _ _ => .of_eq rfl rfl)
    fun _ _ => .record _ rfl

end Application

end PacketSession
