import PacketSession.Proofs.Session.Delivery
import PacketSession.Proofs.Session.Replies
import PacketSession.Simulation.Action

/-!
# Reading to the end closes the session

`Host.drive` passes on what is read from a connection until reading is over: behind the end, behind
a failure, and behind the first frame that leaves the session closed. Whatever the session was
before and whatever handlers and listeners do to it, it is closed then and holds on to nothing, and
the callback for a closed session ran once unless the session had turned its connection away
(`Application.closed_drive`). A session that is closed or never had a connection holds on to nothing
at any time (`Course.holdsNothing`).

Stations of a simulated network read in this way, too (`Simulation.after_readFrom_planned`).
-/

namespace PacketSession

variable {S : Schema} {N X : Type}

/-! ### What sessions hold on to -/

/-- A session has neither a connection nor an unfinished payload. -/
structure Session.HoldsNothing (s : Session S) : Prop where
  connection : s.connection = none
  inFlight : s.reassembler.inFlight = []

/-- Before it has a connection and once it is closed, a session holds on to nothing. -/
theorem Course.holdsNothing {settings : Settings} {x : X} {e : Endpoint S N X}
    (h : Course (.fresh settings x) e)
    (hp : e.session.phase = .connecting ∨ e.session.phase = .closed) :
    e.session.HoldsNothing := by
  have hkeeps : ∀ {e e' : Endpoint S N X}, Course e e' →
      (e.session.phase = .connecting ∨ e.session.phase = .closed → e.session.HoldsNothing) →
      e'.session.phase = .connecting ∨ e'.session.phase = .closed →
      e'.session.HoldsNothing := by
    intro e e' hc
    induction hc with
    | trans _ _ ih ih' => exact fun hn => ih' (ih hn)
    | opens | closes | hangsUp | fails => exact fun _ => by rintro (h | h) <;> exact nomatch h
    | accepts e channel c ho => exact fun _ hp => by simp [Endpoint.update, ho] at hp
    | refuses e reason address hc => exact fun hn _ => ⟨(hn (.inl hc)).1, (hn (.inl hc)).2⟩
    | attaches | awaits | settles | explains => exact fun hn hp => ⟨(hn hp).1, (hn hp).2⟩
    -- what a session lets go of in the end, nothing gives back
    | ends _ _ ih => exact fun _ => ih fun _ => ⟨rfl, rfl⟩
    | breaks _ _ _ _ ih ih' => exact fun _ => ih' (ih fun _ => ⟨rfl, rfl⟩)
    | _ => exact id
  exact hkeeps h (fun _ => ⟨rfl, rfl⟩) hp

/-! ### Reading to the end -/

/-- Whether an arrival is behind the last frame. -/
def Arrival.IsLast : Arrival → Prop
  | .frame _ => False
  | .failed _ | .ended => True

namespace Host

variable (h : Host S N X) {e : Endpoint S N X}

/-- Reading goes on behind a frame unless the frame left the session closed. -/
private theorem after_drive_frame (frame : WireFrame) (arrivals : List Arrival) :
    (h.drive (.frame frame :: arrivals)).after e =
      if ((h.receive frame).after e).session.phase = .closed then (h.receive frame).after e
      else (h.drive arrivals).after ((h.receive frame).after e) := by
  have hstep : (h.drive (.frame frame :: arrivals)).after e =
      (if decide (((h.receive frame).after e).session.phase = .closed) = true then
        pure () else h.drive arrivals : SessionM S N X Unit).after
          ((h.receive frame).after e) := rfl
  rw [hstep]
  by_cases hp : ((h.receive frame).after e).session.phase = .closed
  · rw [if_pos (decide_eq_true hp), if_pos hp, SessionM.after_pure]
  · rw [if_neg (by simpa using hp), if_neg hp]

/-- Reading is over behind the last arrival. -/
private theorem after_drive_last {last : Arrival} (hlast : last.IsLast) :
    (h.drive [last]).after e = (h.step last).after e := by
  cases last with
  | frame frame => exact hlast.elim
  | failed cause => rfl
  | ended => rfl

/-- The session behind the first frames, whatever becomes of it. -/
def heard (e : Endpoint S N X) (frames : List WireFrame) : Endpoint S N X :=
  (frames.forM h.receive).after e

/-- Frames are passed on in order up to the first one that leaves the session closed, and the last
arrival is passed on if there is no such frame. -/
private theorem exists_heard (frames : List WireFrame) {last : Arrival} (hlast : last.IsLast) :
    ∃ n ≤ frames.length,
      (∀ m < n, 0 < m → (h.heard e (frames.take m)).session.phase ≠ .closed) ∧
      (0 < n ∧ (h.heard e (frames.take n)).session.phase = .closed ∧
          (h.drive (frames.map .frame ++ [last])).after e = h.heard e (frames.take n) ∨
        n = frames.length ∧ (0 < n → (h.heard e frames).session.phase ≠ .closed) ∧
          (h.drive (frames.map .frame ++ [last])).after e =
            (h.step last).after (h.heard e frames)) := by
  induction frames generalizing e with
  | nil =>
    refine ⟨0, Nat.le_refl 0, nofun, .inr ⟨rfl, nofun, ?_⟩⟩
    exact h.after_drive_last hlast
  | cons frame frames ih =>
    have hheard : ∀ more, h.heard e (frame :: more) = h.heard ((h.receive frame).after e) more :=
      fun more => SessionM.after_forM_cons h.receive frame more e
    rw [List.map_cons, List.cons_append, after_drive_frame]
    by_cases hp : ((h.receive frame).after e).session.phase = .closed
    · refine ⟨1, Nat.succ_le_succ (Nat.zero_le _), fun m hm hm' => by omega, .inl ?_⟩
      rw [if_pos hp, List.take_succ_cons, List.take_zero, hheard]
      exact ⟨Nat.one_pos, hp, rfl⟩
    · obtain ⟨n, hn, hbefore, hend⟩ := ih (e := (h.receive frame).after e)
      have hbefore' : ∀ m < n + 1, 0 < m →
          (h.heard e ((frame :: frames).take m)).session.phase ≠ .closed := by
        rintro (_ | _ | m) hm hm'
        · exact absurd hm' (Nat.lt_irrefl 0)
        · rw [List.take_succ_cons, List.take_zero, hheard]
          exact hp
        · rw [List.take_succ_cons, hheard]
          exact hbefore (m + 1) (Nat.lt_of_succ_lt_succ hm) (Nat.succ_pos m)
      refine ⟨n + 1, Nat.succ_le_succ hn, hbefore', ?_⟩
      rw [if_neg hp, List.take_succ_cons, hheard, hheard]
      rcases hend with ⟨-, hclosed, hdrive⟩ | ⟨rfl, hopen, hdrive⟩
      · exact .inl ⟨Nat.succ_pos n, hclosed, hdrive⟩
      · refine .inr ⟨rfl, fun _ => ?_, hdrive⟩
        -- without further frames the session is as the first frame left it
        cases frames with
        | nil => exact hp
        | cons next frames => exact hopen (Nat.succ_pos _)

variable {h} (hc : h.CallbacksOnCourse)

include hc

private theorem onCourse_drive (arrivals : List Arrival) : (h.drive arrivals).OnCourse := by
  induction arrivals with
  | nil => exact .pure ()
  | cons arrival arrivals ih =>
    refine .bind (onCourse_step hc arrival) fun finished => ?_
    split
    · exact .pure ()
    · exact ih

/-- A session whose connection went away is closed. -/
private theorem closed_transportClosed : (h.transportClosed.after e).session.phase = .closed := by
  rw [transportClosed, SessionM.after_bind, SessionM.answer_current, SessionM.after_current]
  split
  next hp => exact hp
  next => exact closed_finish hc none

/-- The last arrival closes the session. -/
private theorem closed_step {last : Arrival} (hlast : last.IsLast) :
    ((h.step last).after e).session.phase = .closed := by
  cases last with
  | frame frame => exact hlast.elim
  | failed cause => exact closed_fail hc (.transport cause)
  | ended => exact closed_transportClosed hc

/-- Nothing that is read makes a session turn its connection away. -/
private theorem not_refuses_step (hr : .refuses ∉ e.turns) (arrival : Arrival) :
    .refuses ∉ ((h.step arrival).after e).turns := by
  intro hr'
  by_cases hp : e.session.phase = .connecting
  · obtain ⟨_, _, heq⟩ := refuses_of_execute hc hp hr (.arrive arrival) hr'
    exact nomatch heq
  · exact hr ((onCourse_step hc arrival e).refuses_of_ne hp hr')

private theorem refuses_drive_iff (arrivals : List Arrival) :
    .refuses ∈ ((h.drive arrivals).after e).turns ↔ .refuses ∈ e.turns := by
  refine ⟨fun hr' => ?_, fun hr => (onCourse_drive hc arrivals e).turns_grow.subset hr⟩
  by_contra hr
  induction arrivals generalizing e with
  | nil => exact hr hr'
  | cons arrival arrivals ih =>
    have hnext := not_refuses_step hc hr arrival
    rw [drive, SessionM.after_bind] at hr'
    split at hr'
    · exact hnext hr'
    · exact ih hr' hnext

end Host

/-! ### The callback for a closed session -/

/-- Whether an event is the start of the callback for a closed session. -/
def Event.isClosed : Event S N → Bool
  | closed _ => true
  | _ => false

/-- A session that turned its connection away did nothing else. -/
private theorem Course.turns_eq_of_refuses {settings : Settings} {x : X} {e : Endpoint S N X}
    (h : Course (.fresh settings x) e) (hr : .refuses ∈ e.turns) : e.turns = [.refuses] := by
  obtain ⟨l, hl, path⟩ := h.path
  rw [Endpoint.milestones_fresh, List.nil_append] at hl
  rw [Endpoint.turns_eq, hl] at hr ⊢
  exact path.turnsIn_eq_of_refuses hr

/-- For a session that is closed the callback for that ran once, unless the session turned its
connection away. -/
private theorem Course.countP_isClosed {settings : Settings} {x : X} {e : Endpoint S N X}
    (h : Course (.fresh settings x) e) (hp : e.session.phase = .closed) :
    e.callbacks.countP Event.isClosed = if .refuses ∈ e.turns then 0 else 1 := by
  have hsafe := h.safeLifecycle
  obtain ⟨failure, hcallbacks⟩ := hsafe.callbacks
  by_cases hr : .refuses ∈ e.turns
  · rw [hcallbacks, h.turns_eq_of_refuses hr]
    rfl
  · have hends : .ends ∈ e.turns := by
      rcases hsafe.closed_iff.mp hp with hends | hturns
      · exact hends
      · rw [hturns] at hr
        exact absurd List.mem_cons_self hr
    rw [hcallbacks, if_pos hends, if_neg hr, List.countP_append, List.countP_append]
    cases failure <;> split <;> rfl

/-! ### Applications -/

namespace Application

variable (a : Application S N X)

/-- Whatever the session was before, and whatever handlers, listeners and the connection do to it:
reading frames up to the end or a failure leaves it closed, without a connection and with nothing in
flight. The frames were passed on in order, up to the first one that left the session closed, and
the callback for a closed session ran once, unless the session had turned its connection away. -/
theorem closed_drive (depth : Nat) {x : X} {e : Endpoint S N X}
    (hreach : Course (.fresh a.protocol.settings x) e) (frames : List WireFrame) {last : Arrival}
    (hlast : last.IsLast) :
    let h := a.host (a.perform depth)
    let after := (h.drive (frames.map .frame ++ [last])).after e
    after.session.phase = .closed ∧ after.session.connection = none ∧
      after.session.reassembler.inFlight = [] ∧
      (∃ n ≤ frames.length,
        (∀ m < n, 0 < m → (h.heard e (frames.take m)).session.phase ≠ .closed) ∧
        (0 < n ∧ (h.heard e (frames.take n)).session.phase = .closed ∧
            after = h.heard e (frames.take n) ∨
          n = frames.length ∧ (0 < n → (h.heard e frames).session.phase ≠ .closed) ∧
            after = (h.step last).after (h.heard e frames))) ∧
      after.callbacks.countP Event.isClosed = if .refuses ∈ e.turns then 0 else 1 := by
  intro h after
  have hc : h.CallbacksOnCourse := a.callbacksOnCourse_host (a.onCourse_perform depth)
  have hcourse : Course (.fresh a.protocol.settings x) after :=
    hreach.trans (Host.onCourse_drive hc _ e)
  obtain ⟨n, hn, hbefore, hend⟩ := h.exists_heard (e := e) frames hlast
  have hclosed : after.session.phase = .closed := by
    -- some frame left the session closed, or the last arrival did
    rcases hend with ⟨-, hclosed, hdrive⟩ | ⟨-, -, hdrive⟩
    · exact (congrArg (·.session.phase) hdrive).trans hclosed
    · exact (congrArg (·.session.phase) hdrive).trans (Host.closed_step hc hlast)
  have hnothing := hcourse.holdsNothing (.inr hclosed)
  refine ⟨hclosed, hnothing.connection, hnothing.inFlight, ⟨n, hn, hbefore, hend⟩, ?_⟩
  rw [hcourse.countP_isClosed hclosed]
  exact if_congr (Host.refuses_drive_iff hc _) rfl rfl

/-- A protocol with a handler for signals that fails the session. -/
def touchy : Protocol Sample.plain (Script Sample.plain Unit Unit) :=
  { registered with
    handlers := ⟨[(⟨1⟩, ⟨none, fun _ _ => .call (.fail (.unknownPacketId ⟨9⟩))⟩)]⟩ }

/-- A session that is open in this protocol. -/
def touched : Endpoint Sample.plain Unit Unit :=
  ((Application.mk touchy taker).perform 2 (.openWith 0)).after (.fresh {} ())

/-- A frame with a signal. -/
def signalled : WireFrame := ⟨⟨.unset, .reliable⟩, [1]⟩

/-- Of two signals the first one fails the session, and the second one is not passed on. -/
theorem closed_drive_touchy :
    let h := (Application.mk touchy taker).host ((Application.mk touchy taker).perform 1)
    let after := (h.drive [.frame signalled, .frame signalled, .ended]).after touched
    touched.session.phase = .opened ∧ after.handled.length = 1 ∧ after.session.phase = .closed ∧
      after.session.connection = none ∧ after.session.reassembler.inFlight = [] ∧
      after.callbacks.countP Event.isClosed = 1 := by
  intro h after
  have hreach : Course (.fresh touchy.settings ()) touched :=
    (Application.mk touchy taker).onCourse_perform 2 (.openWith 0) _
  have hlast : Arrival.ended.IsLast := trivial
  obtain ⟨hclosed, hconnection, hinFlight, -, hcount⟩ :=
    (Application.mk touchy taker).closed_drive 1 hreach [signalled, signalled] hlast
  exact ⟨rfl, by decide +kernel, hclosed, hconnection, hinFlight, hcount⟩

end Application

/-! ### Sources of a simulated network -/

namespace Simulation

/-- What a station reads from a source that is laid down in advance is passed on as `drive` does. -/
theorem after_readFrom_planned (a : Application S (Note S) (World S)) (depth : Nat)
    {arrivals : List Arrival} {fuel : Nat} (hfuel : arrivals.length ≤ fuel)
    (e : Endpoint S (Note S) (World S)) :
    ((readFrom fuel (.planned (arrivals.map .arrival))).run (a.perform (depth + 1))).after e =
      ((a.host (a.perform depth)).drive arrivals).after e := by
  induction arrivals generalizing fuel e with
  | nil => cases fuel <;> rfl
  | cons arrival arrivals ih =>
    obtain ⟨fuel, rfl⟩ : ∃ less, fuel = less + 1 := ⟨fuel - 1, by simp at hfuel; omega⟩
    have hread : ((readFrom (fuel + 1) (.planned ((arrival :: arrivals).map .arrival))).run
        (a.perform (depth + 1))).after e =
          ((if ((a.host (a.perform depth)).step arrival).answer e = true then
            pure (true, .planned (arrivals.map .arrival))
          else readFrom fuel (.planned (arrivals.map .arrival)) : Act S _).run
            (a.perform (depth + 1))).after
              (((a.host (a.perform depth)).step arrival).after e) := rfl
    rw [hread, Host.drive, SessionM.after_bind]
    split
    next => rfl
    next => exact ih (Nat.le_of_succ_le_succ hfuel) _

end Simulation

end PacketSession
