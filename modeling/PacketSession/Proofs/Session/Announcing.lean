import PacketSession.Proofs.Session.Delivery
import PacketSession.Proofs.Session.Emission
import PacketSession.Proofs.Session.Quiet

/-!
# A close is announced once, and nothing is sent after it

If a session answered an announcement with another one, or announced its close twice, two sessions
could keep each other busy. `Endpoint.AnnouncesOnce` excludes that: there is one announcement at
most, it belongs to one of three turns, and its frames are the last that any connection is handed.
Which frames these are is told by `Host.Announces`: what comes out of the listeners for the
announcement, up to where handing it over ended.

Every operation that announces takes its turn first. So when the announcement begins, the session is
over or about to be, and what callbacks may do in between is quiet. A session that is not that far
announced nothing yet. The two together are `Endpoint.Discreet`, and every call keeps to it
(`Application.conduct_perform`).

Listeners on the way out, and connections while they take a frame, are taken not to call their
session: they run in the middle of a send, and a close from there would be announced between two
chunks of a frame.
-/

namespace PacketSession

variable {S : Schema} {N X : Type}

/-! ### Announcements in the journal -/

/-- The reason that an entry announces, if it announces a close. -/
def Entry.announcement? : Entry S N → Option String
  | .seen (.announcing reason) => some reason
  | _ => none

/-- An entry that is written while a frame is handed to a connection. -/
inductive Entry.OfHanding (connection : ConnectionId) (delivery : Delivery) : Entry S N → Prop
  /-- A listener or the connection wrote a note. -/
  | note (note : N) : OfHanding connection delivery (.seen (.note note))
  /-- The connection took or refused a message. -/
  | sent (payload : Bytes) (refusal : Option TransportError) :
      OfHanding connection delivery (.seen (.sent connection ⟨delivery, payload⟩ refusal))

/-- The frame that a connection took, if an entry says that it took one. -/
def Entry.taken? : Entry S N → Option WireFrame
  | .seen (.sent _ frame none) => some frame
  | _ => none

private theorem Endpoint.taken_eq_filterMap (e : Endpoint S N X) :
    e.taken = e.journal.reverse.filterMap Entry.taken? := rfl

private theorem Entry.announcement?_of_isQuiet {entry : Entry S N} (h : entry.isQuiet = true) :
    entry.announcement? = none := by
  cases entry with
  | turned t => rfl
  | seen event =>
    cases event with
    | announcing reason => cases h
    | _ => rfl

/-- Nothing that is written while a frame is handed over announces a close. -/
private theorem Entry.OfHanding.announcement? {connection : ConnectionId} {delivery : Delivery}
    {entry : Entry S N} (h : entry.OfHanding connection delivery) : entry.announcement? = none := by
  cases h <;> rfl

/-- Turns that begin with one that announces a close to a peer. -/
inductive MayAnnounce : List Turn → Prop
  /-- A connection is turned away. -/
  | refuses {later : List Turn} : MayAnnounce (.refuses :: later)
  /-- An open session is closed by its own side. -/
  | closes {later : List Turn} : MayAnnounce (.opens :: .closes :: later)
  /-- An open session fails, and not because of its connection. -/
  | fails {cause : ProtocolError} {later : List Turn} : cause.isTransport = false →
      MayAnnounce (.opens :: .fails cause :: later)

/-- Which turns a session began with does not change when it takes others. -/
theorem MayAnnounce.mono {turns later : List Turn} (h : MayAnnounce turns)
    (hp : turns <+: later) : MayAnnounce later := by
  obtain ⟨more, rfl⟩ := hp
  cases h with
  | refuses => exact .refuses
  | closes => exact .closes
  | fails hc => exact .fails hc

/-! ### What an announcement comes to -/

/-- The channel and delivery class of announcements. -/
def Settings.announcement (s : Settings) : Delivery := ⟨s.controlChannel, .reliableOrdered⟩

/-- The payloads that the announcement of a close travels in, or why there are none. -/
def Registry.announcementPieces (r : Registry S) (settings : Settings) (reason : String) :
    Except ProtocolError (List Bytes) := do
  r.payloads settings (← r.encode (.ofDisconnect ⟨reason⟩))

/-- These frames may be handed over when a close is announced for a reason. -/
inductive Host.Announces (h : Host S N X) (reason : String) : List WireFrame → Prop
  /-- The announcement has no frame, or its frame cannot travel. -/
  | cannot {cause : ProtocolError} :
      h.protocol.codecs.announcementPieces h.protocol.settings reason = .error cause →
      Announces h reason []
  /-- They are what came out of the listeners for the pieces of its frame, in order, up to where
  sending ended. -/
  | goesOut {pieces : List Bytes} {finished : Bool} {rounds : List Round} :
      h.protocol.codecs.announcementPieces h.protocol.settings reason = .ok pieces →
      h.Emits h.protocol.settings.announcement finished pieces rounds →
      Announces h reason (rounds.flatMap Round.own)

/-- How closes are announced: on which channel and in which delivery class, and in which frames for
a reason. -/
structure Farewell where
  /-- The channel and delivery class of the frames. -/
  delivery : Delivery
  /-- The frames that connections may take for a reason. -/
  allows : String → List WireFrame → Prop

/-- How sessions of an application announce closes, to whatever depth the calls of callbacks
nest. -/
def Application.farewell (a : Application S N X) : Farewell where
  delivery := a.protocol.settings.announcement
  allows reason frames := ∃ depth, (a.host (a.perform depth)).Announces reason frames

namespace Endpoint

/-- The reasons of the closes that were announced, in order. -/
def announcements (e : Endpoint S N X) : List String :=
  e.journal.reverse.filterMap Entry.announcement?

/-- A session announces its close at most once, only for some turns, and last of all that it
sends. -/
structure AnnouncesOnce (farewell : Farewell) (e : Endpoint S N X) : Prop where
  /-- There is one announcement at most. -/
  once : e.announcements.length ≤ 1
  /-- It belongs to a refusal, to a close by the own side of an open session, or to a failure of an
  open session that is not a failure of its connection. -/
  cause : e.announcements ≠ [] → MayAnnounce e.turns
  /-- A session that was open until its peer announced a close, until its connection failed or until
  its connection went away announces nothing, whatever happens to it afterwards. -/
  never : [.opens, .hangsUp] <+: e.turns ∨
    (∃ cause, [.opens, .fails (.transport cause)] <+: e.turns) ∨
    [.opens, .ends] <+: e.turns → e.announcements = []
  /-- After an announcement, the connection is handed the frames of the announcement. It is asked to
  go away then, and no connection is handed a frame any more. -/
  last : ∀ before reason after, e.journal.reverse = before ++ .seen (.announcing reason) :: after →
    ∃ connection own rest, after = own ++ .seen (.disconnecting connection reason) :: rest ∧
      (∀ entry ∈ own, entry.OfHanding connection farewell.delivery) ∧
      farewell.allows reason (own.filterMap Entry.taken?) ∧ ∀ entry ∈ rest, entry.isQuiet = true

end Endpoint

/-! ### Sessions that are discreet -/

namespace Endpoint

/-- The journal goes on quietly after an announcement, its frames and the request to go away. -/
def SaidFarewell (farewell : Farewell) (e : Endpoint S N X) : Prop :=
  ∃ connection reason rest own before,
    e.journal =
      rest ++ .seen (.disconnecting connection reason) ::
        (own ++ .seen (.announcing reason) :: before) ∧
    (∀ entry ∈ rest, entry.isQuiet = true) ∧
    (∀ entry ∈ own, entry.OfHanding connection farewell.delivery) ∧
    farewell.allows reason (own.reverse.filterMap Entry.taken?) ∧
    before.filterMap Entry.announcement? = []

/-- A session announced nothing, or it did so once and is over or about to be. -/
def Discreet (farewell : Farewell) (e : Endpoint S N X) : Prop :=
  e.announcements = [] ∨
    2 ≤ e.session.phase.rank ∧ MayAnnounce e.turns ∧ e.SaidFarewell farewell

/-- A discreet session that came about from a fresh one stays discreet. -/
structure Conduct (settings : Settings) (x : X) (farewell : Farewell)
    (e e' : Endpoint S N X) : Prop where
  course : Course e e'
  discreet : Course (.fresh settings x) e → e.Discreet farewell → e'.Discreet farewell

variable {e e₁ : Endpoint S N X} {settings : Settings} {x : X} {farewell : Farewell}

/-- Quiet entries announce nothing. -/
theorem Hush.announcements_eq (h : e.Hush e₁) : e₁.announcements = e.announcements :=
  h.filterMap_eq _ fun _ => Entry.announcement?_of_isQuiet

/-- A journal is read from its end, but whether it holds an announcement does not depend on that. -/
private theorem announcements_eq_nil :
    e.announcements = [] ↔ e.journal.filterMap Entry.announcement? = [] := by
  rw [announcements, List.filterMap_reverse, List.reverse_eq_nil_iff]

/-- Quiet entries that come later belong to what stands behind the request to go away. -/
theorem SaidFarewell.hush (h : e.SaidFarewell farewell) (hq : e.Hush e₁) :
    e₁.SaidFarewell farewell := by
  obtain ⟨connection, reason, rest, own, before, hj, hrest, hown, hallowed, hbefore⟩ := h
  obtain ⟨entries, hj₁, hentries⟩ := hq
  refine ⟨connection, reason, entries ++ rest, own, before, ?_,
    List.forall_mem_append.mpr ⟨hentries, hrest⟩, hown, hallowed, hbefore⟩
  rw [hj₁, hj, List.append_assoc]

/-- Quiet steps keep a session discreet. -/
theorem Discreet.hush (h : e.Discreet farewell) (hc : Course e e₁) (hq : e.Hush e₁) :
    e₁.Discreet farewell := by
  obtain hn | ⟨hp, ht, hf⟩ := h
  · exact .inl (hq.announcements_eq.trans hn)
  · exact .inr ⟨Nat.le_trans hp hc.rank_le, ht.mono hc.turns_grow, hf.hush hq⟩

/-- A session that is not over announced nothing yet. -/
theorem Discreet.announcements_eq (h : e.Discreet farewell) (hp : e.session.phase.rank < 2) :
    e.announcements = [] :=
  h.resolve_right fun ho => Nat.not_le_of_lt hp ho.1

namespace Conduct

/-- A quiet step on course is one that keeps sessions discreet. -/
private theorem of_hush (hc : Course e e₁) (hq : e.Hush e₁) : Conduct settings x farewell e e₁ :=
  ⟨hc, fun _ hd => hd.hush hc hq⟩

instance : IsPreorder (Endpoint S N X) (Conduct settings x farewell) where
  refl e := .of_hush (.refl e) (.of_journal_eq rfl)
  trans _ _ _ h₁ h₂ := by
    refine ⟨h₁.course.trans h₂.course, fun hc hd => ?_⟩
    exact h₂.discreet (hc.trans h₁.course) (h₁.discreet hc hd)

end Conduct

/-- A frame, or a part of one, is handed to a connection: nothing happens to the session, and only
that is seen. -/
structure Handing (connection : ConnectionId) (delivery : Delivery)
    (e e' : Endpoint S N X) : Prop where
  session : e'.session = e.session
  journal : ∃ entries, e'.journal = entries ++ e.journal ∧
    ∀ entry ∈ entries, entry.OfHanding connection delivery

namespace Handing

variable {connection : ConnectionId} {delivery : Delivery}

/-- A callback that leaves the session alone writes notes and nothing else. -/
theorem of_apart (h : e.Apart e₁) : Handing connection delivery e e₁ := by
  obtain ⟨notes, hj⟩ := h.journal
  refine ⟨h.session, _, hj, fun entry he => ?_⟩
  obtain ⟨n, -, rfl⟩ := List.mem_map.mp he
  exact .note n

private theorem record_sent (payload : Bytes) (refusal : Option TransportError) :
    Handing connection delivery e (e.record (.sent connection ⟨delivery, payload⟩ refusal)) :=
  ⟨rfl, [.seen (.sent connection ⟨delivery, payload⟩ refusal)], rfl, by
    simpa using Entry.OfHanding.sent payload refusal⟩

instance : IsPreorder (Endpoint S N X) (Handing connection delivery) where
  refl _ := ⟨rfl, [], rfl, by simp⟩
  trans _ _ _ h₁ h₂ := by
    obtain ⟨first, hj₁, ho₁⟩ := h₁.journal
    obtain ⟨second, hj₂, ho₂⟩ := h₂.journal
    refine ⟨h₂.session.trans h₁.session, second ++ first, ?_,
      List.forall_mem_append.mpr ⟨ho₂, ho₁⟩⟩
    rw [hj₂, hj₁, List.append_assoc]

/-- Nothing is announced while a frame is handed over. -/
private theorem announcements_eq_nil (h : Handing connection delivery e e₁)
    (hn : e.announcements = []) : e₁.announcements = [] := by
  obtain ⟨entries, hj, ho⟩ := h.journal
  rw [Endpoint.announcements_eq_nil] at hn ⊢
  rw [hj, List.filterMap_append, hn, List.append_nil]
  exact List.filterMap_eq_nil_iff.mpr fun entry he => (ho entry he).announcement?

end Handing

end Endpoint

/-! ### Where a session stands -/

namespace Path

variable {p q : Phase} {l : List (Entry S N)}

/-- A session that has no connection yet took no turn. -/
private theorem turnsIn_of_connecting (h : Path p l .connecting) : turnsIn l = [] := by
  cases h with
  | still => rfl
  | opens rest => exact absurd rest.rank_le (by decide)
  | closes rest => exact absurd rest.rank_le (by decide)
  | hangsUp rest => exact absurd rest.rank_le (by decide)
  | fails cause hp rest => exact absurd rest.rank_le (by decide)

/-- A session that is open took the turn to open last. -/
private theorem turnsIn_of_opened (h : Path p l .opened) :
    turnsIn l = if p = .connecting then [.opens] else [] := by
  cases h with
  | still => rfl
  | opens rest =>
    cases rest with
    | still => rfl
    | closes rest => exact absurd rest.rank_le (by decide)
    | hangsUp rest => exact absurd rest.rank_le (by decide)
    | fails cause hp rest => exact absurd rest.rank_le (by decide)
  | closes rest => exact absurd rest.rank_le (by decide)
  | hangsUp rest => exact absurd rest.rank_le (by decide)
  | fails cause hp rest => exact absurd rest.rank_le (by decide)

end Path

section Turns

variable {settings : Settings} {x : X} {e : Endpoint S N X} (h : Course (.fresh settings x) e)

include h

/-- A session in its first phase has taken no turn since it was fresh. -/
private theorem Course.turns_of_connecting (hp : e.session.phase = .connecting) : e.turns = [] := by
  obtain ⟨l, hl, path⟩ := h.path
  rw [hp] at path
  rw [Endpoint.turns_eq, hl, Endpoint.milestones_fresh, List.nil_append]
  exact path.turnsIn_of_connecting

/-- A session that is open has taken one turn, the one to open. -/
private theorem Course.turns_of_opened (hp : e.session.phase = .opened) : e.turns = [.opens] := by
  obtain ⟨l, hl, path⟩ := h.path
  rw [hp] at path
  rw [Endpoint.turns_eq, hl, Endpoint.milestones_fresh, List.nil_append]
  exact path.turnsIn_of_opened

/-- A discreet session that is open took the turn for that, and announced nothing yet. -/
theorem Course.unannounced {farewell : Farewell} (hd : e.Discreet farewell)
    (hp : e.session.phase = .opened) : e.turns = [.opens] ∧ e.announcements = [] :=
  ⟨h.turns_of_opened hp, hd.announcements_eq (by rw [hp]; decide)⟩

end Turns

/-! ### Every operation is discreet -/

namespace Host

open Endpoint

variable {settings : Settings} {x : X} {farewell : Farewell}

/-- What the callbacks of a host have to keep to, for its sessions to be discreet: they are on
course, quiet at a session that is over, discreet themselves, and those that run in the middle of a
send leave the session alone. -/
structure Mannered (h : Host S N X) (settings : Settings) (x : X) (farewell : Farewell) : Prop where
  /-- Callbacks only do what calls can do. -/
  course : h.CallbacksOnCourse
  /-- At a session that is over they are quiet. -/
  quiet : h.CallbacksFollow KeepsQuiet
  /-- They keep a session discreet. -/
  conduct : h.CallbacksFollow (Conduct settings x farewell)
  /-- What runs in the middle of a send does nothing but that. -/
  sends : ∀ connection delivery, h.Sends (Handing connection delivery) connection delivery
  /-- Connections hand nothing over while they take a frame. -/
  singly : h.TakesSingly
  /-- Listeners hand nothing over while they run. -/
  mutely : h.ListensMutely
  /-- The channel and delivery class of announcements are those of the host. -/
  delivers : farewell.delivery = h.protocol.settings.announcement
  /-- Whatever the host may say when it announces a close is allowed. -/
  allows : ∀ reason frames, h.Announces reason frames → farewell.allows reason frames

variable {h : Host S N X} (hm : h.Mannered settings x farewell) {e : Endpoint S N X}

include hm

/-- An announcement is its entry and the entries of handing over its frames, and what connections
took of these is what it may come to. -/
private theorem exists_after_announce (connection : ConnectionId) (reason : String) :
    ∃ own, ((h.announce connection reason).after e).journal =
        own ++ .seen (.announcing reason) :: e.journal ∧
      (∀ entry ∈ own, entry.OfHanding connection farewell.delivery) ∧
      farewell.allows reason (own.reverse.filterMap Entry.taken?) ∧
      ((h.announce connection reason).after e).session = e.session := by
  rw [announce, SessionM.after_bind, SessionM.after_record]
  cases hframe : h.protocol.codecs.encode (.ofDisconnect ⟨reason⟩) with
  | error cause =>
    have hpieces : h.protocol.codecs.announcementPieces h.protocol.settings reason =
        .error cause := by
      rw [Registry.announcementPieces, hframe]
      rfl
    exact ⟨[], rfl, by simp, hm.allows reason [] (.cannot hpieces), rfl⟩
  | ok frame =>
    let told := e.record (.announcing reason)
    have ht := SendingM.Follows.collect
      (follows_transmit (hm.sends connection h.protocol.settings.announcement) frame) told
    obtain ⟨own, hj, ho⟩ := ht.journal
    refine ⟨own, hj, hm.delivers ▸ ho, hm.allows reason _ ?_, ht.session⟩
    -- what connections took meanwhile is in these entries, and it is what the rounds hold
    obtain ⟨rounds, hrounds, htaken, -⟩ := (adds_transmit h.protocol.settings.announcement hm.singly
      connection hm.course.outbound frame).collect (e := told) rfl
    have hown : own.reverse.filterMap Entry.taken? = rounds.flatMap Round.wire := by
      rw [taken_eq_filterMap, hj, List.reverse_append, List.filterMap_append] at htaken
      exact List.append_cancel_left htaken
    have hpieces : h.protocol.codecs.announcementPieces h.protocol.settings reason =
        h.protocol.codecs.payloads h.protocol.settings frame := by
      rw [Registry.announcementPieces, hframe]
      rfl
    rw [hown]
    cases hp : h.protocol.codecs.payloads h.protocol.settings frame with
    | error cause =>
      rw [hp] at hrounds hpieces
      rw [hrounds.2]
      exact .cannot hpieces
    | ok pieces =>
      rw [hp] at hrounds hpieces
      rw [Round.flatMap_wire (hrounds.2 hm.mutely)]
      exact .goesOut hpieces hrounds.1

/-- A session that took a turn for it announces its close discreetly before it lets go of its
connection, whatever the connection does meanwhile. -/
theorem discreet_farewell (hp : 2 ≤ e.session.phase.rank) (hn : e.announcements = [])
    (ht : MayAnnounce e.turns) (connection : ConnectionId) (reason : String) :
    ((do h.announceIfConnected connection reason
         h.disconnect connection reason : SessionM S N X Unit).after e).Discreet
      farewell := by
  have hcourse : Course e ((do
      h.announceIfConnected connection reason
      h.disconnect connection reason : SessionM S N X Unit).after e) :=
    (onCourse_announceIfConnected hm.course connection reason e).trans
      (onCourse_disconnect hm.course connection reason _)
  have hasked := hm.quiet.connected connection e hp
  rw [SessionM.after_bind, announceIfConnected, SessionM.after_bind] at hcourse ⊢
  generalize hconnected : (h.carrier.isConnected connection).answer e = connected at hcourse ⊢
  generalize (h.carrier.isConnected connection).after e = e₁ at hasked hcourse ⊢
  cases connected with
  | false =>
    have hd := hasked.trans (keepsQuiet_disconnect hm.quiet connection reason e₁)
    exact .inl (hd.hush.announcements_eq.trans hn)
  | true =>
    -- the callbacks of the connection run on both sides of the frames, and add only quiet entries
    obtain ⟨own, hj, hown, hallowed, hs⟩ := exists_after_announce hm (e := e₁) connection reason
    have hgone := hm.quiet.hangsUp connection reason
      (((h.announce connection reason).after e₁).record (.disconnecting connection reason))
      (by rw [record, hs]; exact hasked.isOver)
    obtain ⟨rest, hj', hrest⟩ := hgone.hush
    have hbefore := announcements_eq_nil.mp (hasked.hush.announcements_eq.trans hn)
    refine .inr ⟨hgone.isOver, ht.mono hcourse.turns_grow, connection, reason, rest, own,
      e₁.journal, ?_, hrest, hown, hallowed, hbefore⟩
    rw [← hj]
    exact hj'

/-- A request to go away is quiet by itself; what the connection does with it is its own conduct. -/
private theorem conduct_disconnect (connection : ConnectionId) (reason : String) :
    (h.disconnect connection reason).Follows
      (Conduct settings x farewell) := by
  refine .bind (fun e => ?_) fun _ => hm.conduct.hangsUp connection reason
  exact .of_hush (.sees e _ rfl) (.record _ rfl)

/-- Finishing announces nothing, so at a session that announced its close before it only adds quiet
entries. -/
private theorem conduct_finish (cause : Option ProtocolError) :
    (h.finish cause).Follows (Conduct settings x farewell) := by
  intro e
  by_cases hc : e.session.phase = .closed
  · rw [after_finish_of_closed hc]
    exact Std.Refl.refl e
  · exact .of_hush (onCourse_finish hm.course cause e) (quieted_finish hm.quiet hc cause).hush

/-- A failure of an open session is announced behind its turn, as a session takes it once; any other
failure is quiet. -/
private theorem conduct_fail (cause : ProtocolError) :
    (h.fail cause).Follows (Conduct settings x farewell) := by
  intro e
  refine ⟨onCourse_fail hm.course cause e, fun hc hd => ?_⟩
  have hcourse := onCourse_fail hm.course cause e
  by_cases hp : e.session.phase = .closed
  · rw [after_fail_of_closed hp]
    exact hd
  by_cases hq : e.session.phase ≠ .opened ∨ cause.isTransport = true
  · exact hd.hush hcourse (quieted_fail hm.quiet hp hq).hush
  obtain ⟨ho, ht⟩ := not_or.mp hq
  replace ho := not_not.mp ho
  replace ht : cause.isTransport = false := by simpa using ht
  obtain ⟨hturns, hn⟩ := hc.unannounced hd ho
  have hcond : (decide (e.session.phase = .opened) && !cause.isTransport) = true := by
    simp [ho, ht]
  -- the turn for the failure comes first
  let e₁ := e.turn (.fails cause) fun s => { s with reason := some (s.reason.getD cause.message) }
  have hcourse₁ : Course (.fresh settings x) e₁ := hc.trans (.fails e cause hp)
  have hn₁ : e₁.announcements = [] := (Hush.turn (.fails cause) _).announcements_eq.trans hn
  have hturns₁ : e₁.turns = [.opens, .fails cause] := by rw [turns_turn, hturns]; rfl
  rw [fail, SessionM.after_bind, SessionM.answer_current, SessionM.after_current, if_neg hp]
  cases hconn : e.session.connection with
  | none => exact (conduct_finish hm (some cause) e₁).discreet hcourse₁ (.inl hn₁)
  | some connection =>
    simp only [hcond]
    let reason := e.session.reason.getD cause.message
    have hmay : MayAnnounce e₁.turns := by rw [hturns₁]; exact .fails ht
    have hf := discreet_farewell hm (e := e₁) (Nat.le_refl 2) hn₁ hmay connection reason
    have hcourse₂ := (onCourse_announceIfConnected hm.course connection reason e₁).trans
      (onCourse_disconnect hm.course connection reason _)
    exact (conduct_finish hm (some cause) _).discreet (hcourse₁.trans hcourse₂) hf

/-- An open session takes the turn to close and announces it then. Closed by anyone before it was
opened, it has nobody to tell. -/
private theorem conduct_close (reason : String) :
    (h.close reason).Follows (Conduct settings x farewell) := by
  intro e
  refine ⟨onCourse_close hm.course reason e, fun hc hd => ?_⟩
  have hcourse := onCourse_close hm.course reason e
  rw [close, SessionM.after_bind, SessionM.answer_current, SessionM.after_current] at hcourse ⊢
  cases hp : e.session.phase with
  | connecting =>
    rw [hp] at hcourse
    have hq := quieted_finish hm.quiet (e := e.update fun s => { s with reason := some reason })
      (by simp [update, hp]) none
    exact hd.hush hcourse hq.hush
  | opened =>
    obtain ⟨hturns, hn⟩ := hc.unannounced hd hp
    let e₁ := e.turn .closes fun s => { s with reason := some reason }
    have hn₁ : e₁.announcements = [] := (Hush.turn .closes _).announcements_eq.trans hn
    have hmay : MayAnnounce e₁.turns := by
      rw [turns_turn, hturns]
      exact .closes
    -- without a connection, the turn is all that happens
    cases hconn : e.session.connection with
    | none => exact .inl hn₁
    | some connection =>
      exact discreet_farewell hm (e := e₁) (Nat.le_refl 2) hn₁ hmay connection reason
  | closing => exact hd
  | closed => exact hd

/-- A connection is told the reason why it is turned away, behind the turn for that. -/
private theorem conduct_refuse (connection : ConnectionId) (reason : String) :
    (h.refuse connection reason).Follows
      (Conduct settings x farewell) := by
  intro e
  refine ⟨onCourse_refuse hm.course connection reason e, fun hc hd => ?_⟩
  rw [refuse, SessionM.after_bind, SessionM.answer_current, SessionM.after_current]
  cases hr : openRefusal? e.session with
  | some refusal => exact hd
  | none =>
    have hp := openRefusal?_eq_none.mp hr
    have hn := hd.announcements_eq (by rw [hp]; decide)
    let e₁ := e.turn .refuses fun s =>
      { s with reason := some reason, address := h.carrier.address e.outside connection }
    have hn₁ : e₁.announcements = [] := (Hush.turn .refuses _).announcements_eq.trans hn
    have hmay : MayAnnounce e₁.turns := by
      rw [turns_turn, hc.turns_of_connecting hp]
      exact .refuses
    exact discreet_farewell hm (e := e₁) (Nat.le_of_ble_eq_true rfl) hn₁ hmay connection reason

/-- Opening is quiet by itself, and the callback for it is discreet. -/
private theorem conduct_openWith (connection : ConnectionId) :
    (h.openWith connection).Follows (Conduct settings x farewell) := by
  intro e
  rw [openWith, SessionM.after_bind, SessionM.answer_current, SessionM.after_current]
  cases hr : openRefusal? e.session with
  | some refusal => exact Std.Refl.refl e
  | none =>
    have hopens := Course.opens e connection (h.carrier.address e.outside connection)
      (openRefusal?_eq_none.mp hr)
    exact IsTrans.trans _ _ _
      (Conduct.of_hush hopens ((Hush.turn .opens _).trans (.record _ rfl)))
      (hm.conduct.opened _)

/-- What the peer announces is not announced back. -/
private theorem conduct_peerDisconnected (reason : String) :
    (h.peerDisconnected reason).Follows
      (Conduct settings x farewell) := by
  intro e
  rw [peerDisconnected, SessionM.after_bind, SessionM.answer_current, SessionM.after_current]
  by_cases hp : e.session.phase = .opened
  · rw [if_pos hp]
    have hturn : Conduct settings x farewell e _ :=
      .of_hush (.hangsUp e reason hp) (.turn .hangsUp _)
    cases hconn : e.session.connection with
    | none => exact hturn
    | some connection => exact IsTrans.trans _ _ _ hturn (conduct_disconnect hm connection reason _)
  · rw [if_neg hp]
    exact Std.Refl.refl e

/-- When the connection is gone there is nobody to tell. -/
private theorem conduct_transportClosed :
    h.transportClosed.Follows (Conduct settings x farewell) := by
  intro e
  by_cases hp : e.session.phase = .closed
  · rw [after_transportClosed_of_closed hp]
    exact Std.Refl.refl e
  · exact .of_hush (onCourse_transportClosed hm.course e) (quieted_transportClosed hm.quiet hp).hush

omit hm in
/-- Only an open session has a connection to write to. -/
private theorem opened_of_writable {connection : ConnectionId}
    (hw : writable e.session = .ok connection) : e.session.phase = .opened := by
  unfold writable at hw
  split at hw
  · assumption
  all_goals cases hw

/-- Frames are handed over only while the session is open, when nothing has been announced yet. -/
private theorem conduct_submit (delivery : Delivery) (frames : List Bytes) :
    (h.submit delivery frames).Follows (Conduct settings x farewell) := by
  intro e
  have hsub := h.submitted delivery frames e
  generalize (h.submit delivery frames).answer e = answer at hsub
  generalize (h.submit delivery frames).after e = e' at hsub ⊢
  -- whether they all go out or not, transmitting them announces nothing
  have hgoes {connection : ConnectionId} (hw : writable e.session = .ok connection) :
      Conduct settings x farewell e
        ((frames.forM (h.transmit connection delivery)).collect.after e) := by
    have hhanding := SendingM.Follows.collect
      (.forM (follows_transmit (hm.sends connection delivery)) frames) e
    have hcourse := SendingM.Follows.collect
      (.forM (follows_transmit (sends_course hm.course connection delivery)) frames) e
    exact ⟨hcourse, fun hc hd =>
      .inl (hhanding.announcements_eq_nil (hc.unannounced hd (opened_of_writable hw)).2)⟩
  cases hsub with
  | refused => exact Std.Refl.refl e
  | sent hw | survived hw => exact hgoes hw
  | broken hw => exact IsTrans.trans _ _ _ (hgoes hw) (conduct_fail hm _ _)

/-- Of what a received frame leads to, only failures may announce a close. -/
private theorem receives_conduct :
    h.Receives (Conduct settings x farewell) where
  inbound := hm.conduct.inbound
  accepts e channel c hp := .of_hush (.accepts e channel c hp) (.of_journal_eq rfl)
  handles entry he delivery d := by
    rw [Handler.invoke]
    split
    · refine .bind (fun e => ?_) fun _ => hm.conduct.handler entry he d.packet delivery
      exact .of_hush (.sees e _ rfl) (.record _ rfl)
    · exact .pure ()
  hangsUp := conduct_peerDisconnected hm
  fails := conduct_fail hm

private theorem conduct_receive (frame : WireFrame) :
    (h.receive frame).Follows (Conduct settings x farewell) :=
  follows_receive (receives_conduct hm) frame

/-- Every request keeps a session discreet, given that callbacks do; one case for each request. -/
private theorem conduct_execute : (request : Request S) →
    (request.execute h).Follows (Conduct settings x farewell)
  | .openWith connection => conduct_openWith hm connection
  | .refuse connection reason => conduct_refuse hm connection reason
  | .close reason => conduct_close hm reason
  | .fail cause => conduct_fail hm cause
  | .receive frame => conduct_receive hm frame
  | .arrive arrival =>
    follows_step (conduct_receive hm) (conduct_fail hm) (conduct_transportClosed hm) arrival
  | .transportClosed => conduct_transportClosed hm
  | .transportFailed cause => conduct_fail hm (.transport cause)
  | .send packet delivery => follows_send (conduct_submit hm delivery) packet
  | .sendBatch packets delivery => follows_sendBatch (conduct_submit hm delivery) packets
  | .sendFrame frame delivery => conduct_submit hm delivery [frame]
  | .awaitReply => fun e => .of_hush (.awaits e) (.of_journal_eq rfl)
  | .settleReply id outcome => fun e => .of_hush (.settles e id outcome) (.of_journal_eq rfl)
  | .setAttachment value => fun e => .of_hush (.attaches e value) (.of_journal_eq rfl)
  | .inspect => .current

end Host

/-! ### What a discreet session did -/

/-- The only element of a list with a given property stands in one place. -/
private theorem append_cons_inj_of_filterMap {α β : Type} {f : α → Option β}
    {front back front' back' : List α} {a a' : α}
    (h : front ++ a :: back = front' ++ a' :: back') (hf : front.filterMap f = [])
    (hb : back.filterMap f = []) (ha : (f a').isSome) : front = front' ∧ a = a' ∧ back = back' := by
  rw [List.filterMap_eq_nil_iff] at hf hb
  obtain ⟨between, hs, ht⟩ | ⟨between, hs, ht⟩ := List.append_eq_append_iff.mp h
  · cases between with
    | nil =>
      obtain ⟨rfl, rfl⟩ := List.cons.inj ht
      exact ⟨by simpa using hs.symm, rfl, rfl⟩
    | cons b between =>
      obtain ⟨rfl, rfl⟩ := List.cons.inj ht
      rw [hb a' (by simp)] at ha
      cases ha
  · cases between with
    | nil =>
      obtain ⟨rfl, rfl⟩ := List.cons.inj ht
      exact ⟨by simpa using hs, rfl, rfl⟩
    | cons b between =>
      obtain ⟨rfl, rfl⟩ := List.cons.inj ht
      rw [hf a' (by simp [hs])] at ha
      cases ha

namespace Endpoint

variable {e : Endpoint S N X} {farewell : Farewell}

/-- A session announces a close only behind a turn that calls for it. -/
private theorem Discreet.mayAnnounce (h : e.Discreet farewell) (hn : e.announcements ≠ []) :
    MayAnnounce e.turns :=
  (h.resolve_left hn).2.1

/-- No entry around the announcement is another one, so there is one at most. -/
private theorem Discreet.length_announcements_le (h : e.Discreet farewell) :
    e.announcements.length ≤ 1 := by
  obtain hn | ⟨-, -, connection, reason, rest, own, before, hj, hrest, hown, -, hbefore⟩ := h
  · simp [hn]
  · have hr : rest.filterMap Entry.announcement? = [] :=
      List.filterMap_eq_nil_iff.mpr fun entry he => Entry.announcement?_of_isQuiet (hrest entry he)
    have ho : own.filterMap Entry.announcement? = [] :=
      List.filterMap_eq_nil_iff.mpr fun entry he => (hown entry he).announcement?
    rw [announcements, hj, List.filterMap_reverse, List.length_reverse]
    simp [List.filterMap_cons, Entry.announcement?, hr, ho, hbefore]

/-- What follows the announcement in the journal of a discreet session. -/
private theorem Discreet.after_announcing (h : e.Discreet farewell)
    {before after : List (Entry S N)}
    {reason : String} (hs : e.journal.reverse = before ++ .seen (.announcing reason) :: after) :
    ∃ connection own rest, after = own ++ .seen (.disconnecting connection reason) :: rest ∧
      (∀ entry ∈ own, entry.OfHanding connection farewell.delivery) ∧
      farewell.allows reason (own.filterMap Entry.taken?) ∧
      ∀ entry ∈ rest, entry.isQuiet = true := by
  obtain hn | ⟨-, -, connection, reason', rest, own, before', hj, hrest, hown, hallowed,
    hbefore⟩ := h
  · rw [announcements, hs] at hn
    simp [Entry.announcement?] at hn
  · have hj' : e.journal.reverse = before'.reverse ++ .seen (.announcing reason') ::
        (own.reverse ++ .seen (.disconnecting connection reason') :: rest.reverse) := by
      simp [hj]
    -- there is one announcement in the journal, so it is the one in question
    have hfront : before'.reverse.filterMap Entry.announcement? = [] := by
      rw [List.filterMap_reverse, hbefore, List.reverse_nil]
    have hback : (own.reverse ++ .seen (.disconnecting connection reason') ::
        rest.reverse).filterMap Entry.announcement? = [] := by
      refine List.filterMap_eq_nil_iff.mpr fun entry he => ?_
      obtain he | he := List.mem_append.mp he
      · exact (hown entry (List.mem_reverse.mp he)).announcement?
      · obtain rfl | he := List.mem_cons.mp he
        · rfl
        · exact Entry.announcement?_of_isQuiet (hrest entry (List.mem_reverse.mp he))
    have hsome : (Entry.seen (.announcing reason) : Entry S N).announcement?.isSome := rfl
    obtain ⟨-, hr, rfl⟩ := append_cons_inj_of_filterMap (hj'.symm.trans hs) hfront hback hsome
    cases hr
    exact ⟨connection, own.reverse, rest.reverse, rfl,
      fun entry he => hown entry (List.mem_reverse.mp he), hallowed,
      fun entry he => hrest entry (List.mem_reverse.mp he)⟩

/-- A discreet session announces its close as `AnnouncesOnce` says; its turns exclude the cases
where nothing may be announced. -/
private theorem Discreet.announcesOnce (h : e.Discreet farewell) : e.AnnouncesOnce farewell where
  once := h.length_announcements_le
  cause := h.mayAnnounce
  never hleft := by
    by_contra hn
    have hmay := h.mayAnnounce hn
    obtain ⟨later, hl⟩ | ⟨cause, later, hl⟩ | ⟨later, hl⟩ := hleft
    · rw [← hl] at hmay
      cases hmay
    · rw [← hl] at hmay
      cases hmay with
      | fails ht => cases ht
    · rw [← hl] at hmay
      cases hmay
  last _ _ _ hs := h.after_announcing hs

end Endpoint

/-! ### Applications -/

namespace Application

open Endpoint

section Silent

variable (a : Application S N X) (hc : ∀ connection frame, (a.carrier.send connection frame).Silent)
  (hout : ∀ listener ∈ a.protocol.pipeline.outbound.listeners, ∀ delivery message,
    Script.Silent (listener delivery message).run)

include hc hout

/-- Silent listeners and connections leave the session alone in the middle of a send. -/
private theorem sends_host (depth : Nat) (connection : ConnectionId) (delivery : Delivery) :
    (a.host (a.perform depth)).Sends (Handing connection delivery) connection delivery where
  outbound stage hs delivery' message e :=
    .of_apart (apart_outbound_host hout depth stage hs delivery' message e)
  hands payload := Host.follows_hand
    (fun e => .of_apart ((hc connection _).apart (a.after_inspect depth) e))
    fun _ refusal => .record_sent payload refusal

/-- Every call is discreet, to whatever depth the calls of callbacks nest. -/
theorem conduct_perform (settings : Settings) (x : X) : ∀ depth request,
    (a.perform depth request).Follows (Conduct settings x a.farewell)
  | 0, request => by
    intro e
    cases request <;> exact Std.Refl.refl e
  | depth + 1, request => by
    have hm : (a.host (a.perform depth)).Mannered settings x a.farewell := {
      course := a.callbacksOnCourse_host (a.onCourse_perform depth)
      quiet := a.keepsQuiet_host depth
      conduct := a.callbacksFollow_host (conduct_perform settings x depth)
        (fun e x => .of_hush (.elsewhere e x) (.of_journal_eq rfl))
        fun e _ => .of_hush (.sees e _ rfl) (.record _ rfl)
      sends := a.sends_host hc hout depth
      singly connection frame e := ((hc connection frame).apart (a.after_inspect depth) e).taken
      mutely stage hs delivery message e :=
        (apart_outbound_host hout depth stage hs delivery message e).taken
      delivers := rfl
      allows _ _ h := ⟨depth, h⟩ }
    exact Host.conduct_execute hm request

/-- Whatever is called on a session and by its callbacks, in whatever order: it announces a close at
most once, only when it leaves its opened state on its own account or turns a connection away, in
the frames that its announcement comes to, and no frame is sent after them. Listeners on the way out
do not call the session, and neither do connections while they take a frame. -/
theorem announcesOnce_run {α : Type} (settings : Settings) (x : X) (depth : Nat)
    (script : Script S N X α) :
    ((a.run depth script).after (.fresh settings x)).AnnouncesOnce a.farewell := by
  have hrun : (a.run depth script).Follows (Conduct settings x a.farewell) :=
    script.follows_run (a.conduct_perform hc hout settings x depth)
      (fun e x => .of_hush (.elsewhere e x) (.of_journal_eq rfl))
      fun e _ => .of_hush (.sees e _ rfl) (.record _ rfl)
  have hd := (hrun (.fresh settings x)).discreet (.refl _) (.inl rfl)
  exact hd.announcesOnce

end Silent

/-- A session is opened, closed twice by its own side and ends. -/
def parting : Script Sample.plain Unit Unit Unit :=
  .ask (.openWith 0) fun _ => .ask (.close "bye") fun _ => .ask (.close "again") fun _ =>
    .ask .transportClosed fun _ => .done ()

/-- Only the first of two closes is announced, in a single frame. -/
theorem announcesOnce_run_farewell :
    ((run ⟨signals, taker⟩ 1 parting).after (.fresh {} ())).announcements = ["bye"] ∧
      ((run ⟨signals, taker⟩ 1 parting).after (.fresh {} ())).taken.map (·.payload.length) = [9] ∧
      ((run ⟨signals, taker⟩ 1 parting).after (.fresh {} ())).AnnouncesOnce
        (farewell ⟨signals, taker⟩) := by
  refine ⟨by decide +kernel, by decide +kernel,
    announcesOnce_run ⟨signals, taker⟩ ?_ ?_ {} () 1 parting⟩
  · exact fun _ _ => .done _
  · exact fun listener hl => absurd hl List.not_mem_nil

end Application

end PacketSession
