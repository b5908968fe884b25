import Mathlib.Data.List.Chain
import PacketSession.Proofs.Session.Calls

/-!
# The lifecycle of a session

The turns of a session and the callbacks at its turning points are its *milestones*. Whatever
happens to a session, its milestones follow a `Path`: from each phase there are only a few ways
on, an ending comes with its callbacks, and nothing leads away from a closed session. So the
courses that run while a session ends add no milestones, although they may call anything.

The main result, `Application.safeLifecycle_run`, reads off what applications rely on: phases
advance, the callback for an open session runs once if the session opens, the callback for a
closed one runs once if it ends other than by being refused, right after the one for a failure
if there was any, and no callback follows it.
-/

namespace PacketSession

variable {S : Schema} {N X : Type}

/-! ### Milestones -/

namespace Entry

/-- The turn of an entry that is one. -/
def turn? : Entry S N → Option Turn
  | seen _ => none
  | turned turn => some turn

/-- The callback at a turning point of an entry that is the start of one. -/
def callback? : Entry S N → Option (Event S N)
  | seen event => if event.isCallback then some event else none
  | turned _ => none

/-- Whether an entry is a turn or the start of a callback at a turning point. -/
def isMilestone : Entry S N → Bool
  | seen event => event.isCallback
  | turned _ => true

end Entry

/-- The turns among some entries. -/
def turnsIn (l : List (Entry S N)) : List Turn := l.filterMap Entry.turn?

/-- The callbacks at turning points that start among some entries. -/
def callbacksIn (l : List (Entry S N)) : List (Event S N) := l.filterMap Entry.callback?

@[simp]
theorem Entry.isMilestone_seen (event : Event S N) :
    (Entry.seen event).isMilestone = event.isCallback := rfl

@[simp]
theorem Entry.isMilestone_turned (t : Turn) : (Entry.turned t : Entry S N).isMilestone = true := rfl

section Among

variable (l : List (Entry S N)) (event : Event S N) (t : Turn)

@[simp]
theorem turnsIn_nil : turnsIn ([] : List (Entry S N)) = [] := rfl

@[simp]
theorem turnsIn_seen_cons : turnsIn (.seen event :: l) = turnsIn l := rfl

@[simp]
theorem turnsIn_turned_cons : turnsIn (.turned t :: l) = t :: turnsIn l := rfl

@[simp]
theorem callbacksIn_nil : callbacksIn ([] : List (Entry S N)) = [] := rfl

@[simp]
theorem callbacksIn_seen_cons :
    callbacksIn (.seen event :: l) =
      if event.isCallback then event :: callbacksIn l else callbacksIn l := by
  cases h : event.isCallback <;> simp [callbacksIn, Entry.callback?, h]

@[simp]
theorem callbacksIn_turned_cons : callbacksIn (.turned t :: l) = callbacksIn l := rfl

/-- Turns of two parts of a journal are those of the one and then those of the other. -/
theorem turnsIn_append (l' : List (Entry S N)) : turnsIn (l ++ l') = turnsIn l ++ turnsIn l' :=
  List.filterMap_append

/-- Milestones are all that turns are read off. -/
private theorem turnsIn_filter_isMilestone : turnsIn (l.filter Entry.isMilestone) = turnsIn l := by
  induction l with
  | nil => rfl
  | cons entry l ih =>
    cases entry with
    | seen event => cases h : event.isCallback <;> simpa [h] using ih
    | turned t => exact congrArg (t :: ·) ih

/-- And all that callbacks are read off. -/
private theorem callbacksIn_filter_isMilestone :
    callbacksIn (l.filter Entry.isMilestone) = callbacksIn l := by
  induction l with
  | nil => rfl
  | cons entry l ih =>
    cases entry with
    | seen event => cases h : event.isCallback <;> simpa [h] using ih
    | turned t => exact ih

end Among

namespace Endpoint

/-- The turns and the callbacks at turning points, in order. -/
def milestones (e : Endpoint S N X) : List (Entry S N) := e.journal.reverse.filter Entry.isMilestone

/-- The turns, in order. -/
def turns (e : Endpoint S N X) : List Turn := turnsIn e.journal.reverse

/-- The callbacks at turning points that started, in order. -/
def callbacks (e : Endpoint S N X) : List (Event S N) := callbacksIn e.journal.reverse

/-- A turn that is taken comes last of the turns so far. -/
@[simp]
theorem turns_turn (e : Endpoint S N X) (t : Turn) (f : Session S → Session S) :
    (e.turn t f).turns = e.turns ++ [t] := by
  simp [turns, turn, turnsIn_append]

@[simp]
theorem turns_record (e : Endpoint S N X) (event : Event S N) :
    (e.record event).turns = e.turns := by
  simp [turns, record, turnsIn_append]

theorem callbacks_turn (e : Endpoint S N X) (t : Turn) (f : Session S → Session S) :
    (e.turn t f).callbacks = e.callbacks := by
  simp [callbacks, turn, callbacksIn, Entry.callback?]

/-- A callback that is recorded comes last of the callbacks so far. -/
theorem callbacks_record (e : Endpoint S N X) {event : Event S N} (h : event.isCallback = true) :
    (e.record event).callbacks = e.callbacks ++ [event] := by
  simp [callbacks, record, callbacksIn, Entry.callback?, h]

theorem turns_eq (e : Endpoint S N X) : e.turns = turnsIn e.milestones :=
  (turnsIn_filter_isMilestone _).symm

theorem callbacks_eq (e : Endpoint S N X) : e.callbacks = callbacksIn e.milestones :=
  (callbacksIn_filter_isMilestone _).symm

@[simp]
theorem milestones_fresh (settings : Settings) (x : X) :
    (fresh settings x : Endpoint S N X).milestones = [] := rfl

@[simp]
theorem milestones_update (e : Endpoint S N X) (f : Session S → Session S) :
    (e.update f).milestones = e.milestones := rfl

@[simp]
theorem milestones_turn (e : Endpoint S N X) (t : Turn) (f : Session S → Session S) :
    (e.turn t f).milestones = e.milestones ++ [.turned t] := by
  simp [milestones, turn]

theorem milestones_record (e : Endpoint S N X) (event : Event S N) :
    (e.record event).milestones =
      e.milestones ++ if event.isCallback then [.seen event] else [] := by
  cases h : event.isCallback <;> simp [milestones, record, h]

end Endpoint

/-! ### Paths -/

/-- The ways of a session from one phase to another, with the milestones on the way. -/
inductive Path : Phase → List (Entry S N) → Phase → Prop
  /-- The session stays where it is. -/
  | still (p) : Path p [] p
  /-- It opens, and the callback for that starts. -/
  | opens {l q} : Path .opened l q →
      Path .connecting (.turned .opens :: .seen (.opened .opened) :: l) q
  /-- It turns its connection away and is over. -/
  | refuses : Path .connecting [.turned .refuses] .closed
  /-- Its own side closes it. -/
  | closes {l q} : Path .closing l q → Path .opened (.turned .closes :: l) q
  /-- The peer announced a close. -/
  | hangsUp {l q} : Path .closing l q → Path .opened (.turned .hangsUp :: l) q
  /-- It fails. -/
  | fails {p l q} (cause) : p ≠ .closed → Path .closing l q →
      Path p (.turned (.fails cause) :: l) q
  /-- It is over, and the callback for that starts. -/
  | ends {p} : p ≠ .closed → Path p [.turned .ends, .seen (.closed .closed)] .closed
  /-- It is over after a failure, and the two callbacks for that start. -/
  | breaks {p} (cause) : p ≠ .closed →
      Path p [.turned .ends, .seen (.failed .closed cause), .seen (.closed .closed)] .closed

namespace Path

variable {p q r : Phase} {l l' : List (Entry S N)}

/-- Nothing leads away from a closed session. -/
theorem of_closed (h : Path .closed l q) : l = [] ∧ q = .closed := by
  cases h with
  | still => exact ⟨rfl, rfl⟩
  | fails _ hp => exact absurd rfl hp
  | ends hp => exact absurd rfl hp
  | breaks _ hp => exact absurd rfl hp

/-- A path may be continued where it ends. -/
theorem trans (h : Path p l q) (h' : Path q l' r) : Path p (l ++ l') r := by
  induction h with
  | still => exact h'
  | opens _ ih => exact .opens (ih h')
  | closes _ ih => exact .closes (ih h')
  | hangsUp _ ih => exact .hangsUp (ih h')
  | fails cause hp _ ih => exact .fails cause hp (ih h')
  | refuses =>
    obtain ⟨rfl, rfl⟩ := h'.of_closed
    exact .refuses
  | ends hp =>
    obtain ⟨rfl, rfl⟩ := h'.of_closed
    exact .ends hp
  | breaks cause hp =>
    obtain ⟨rfl, rfl⟩ := h'.of_closed
    exact .breaks cause hp

end Path

/-- The milestones of an endpoint that another one can come from follow a path. -/
theorem Course.path {e e' : Endpoint S N X} (h : Course e e') :
    ∃ l, e'.milestones = e.milestones ++ l ∧ Path e.session.phase l e'.session.phase := by
  induction h with
  | refl e => exact ⟨[], by simp, .still _⟩
  | trans _ _ ih₁ ih₂ =>
    obtain ⟨l₁, h₁, p₁⟩ := ih₁
    obtain ⟨l₂, h₂, p₂⟩ := ih₂
    exact ⟨l₁ ++ l₂, by rw [h₂, h₁, List.append_assoc], p₁.trans p₂⟩
  | elsewhere e x => exact ⟨[], (List.append_nil _).symm, .still _⟩
  | sees e event he => exact ⟨[], by simp [Endpoint.milestones_record, he], .still _⟩
  | attaches e value => exact ⟨[], by simp, .still _⟩
  | awaits e => exact ⟨[], by simp, .still _⟩
  | settles e id outcome => exact ⟨[], by simp, .still _⟩
  | accepts e channel c _ => exact ⟨[], by simp, .still _⟩
  | explains e reason _ _ => exact ⟨[], by simp, .still _⟩
  | opens e connection address hp =>
    refine ⟨[.turned .opens, .seen (.opened .opened)], ?_, hp ▸ .opens (.still _)⟩
    simp [Endpoint.milestones_record, Event.isCallback]
  | refuses e reason address hp => exact ⟨[.turned .refuses], by simp, hp ▸ .refuses⟩
  | closes e reason hp => exact ⟨[.turned .closes], by simp, hp ▸ .closes (.still _)⟩
  | hangsUp e reason hp => exact ⟨[.turned .hangsUp], by simp, hp ▸ .hangsUp (.still _)⟩
  | fails e cause hp => exact ⟨[.turned (.fails cause)], by simp, .fails cause hp (.still _)⟩
  | @ends e e₁ hp _ ih =>
    obtain ⟨l, hl, path⟩ := ih
    -- nothing leads away from the closed session, so there is no milestone in between
    obtain ⟨rfl, hq⟩ := path.of_closed
    refine ⟨[.turned .ends, .seen (.closed .closed)], ?_, ?_⟩
    · simp [Endpoint.milestones_record, Event.isCallback, hl, hq]
    · have : (e₁.record (.closed e₁.session.phase)).session.phase = .closed := hq
      rw [this]
      exact .ends hp
  | @breaks e e₁ e₂ cause hp _ _ ih₁ ih₂ =>
    obtain ⟨l₁, hl₁, path₁⟩ := ih₁
    obtain ⟨rfl, hq₁⟩ := path₁.of_closed
    obtain ⟨l₂, hl₂, path₂⟩ := ih₂
    have hq : (e₁.record (.failed e₁.session.phase cause)).session.phase = .closed := hq₁
    rw [hq] at path₂
    obtain ⟨rfl, hq₂⟩ := path₂.of_closed
    refine ⟨[.turned .ends, .seen (.failed .closed cause), .seen (.closed .closed)], ?_, ?_⟩
    · simp [Endpoint.milestones_record, Event.isCallback, hl₁, hq₁, hl₂, hq₂]
    · have : (e₂.record (.closed e₂.session.phase)).session.phase = .closed := hq₂
      rw [this]
      exact .breaks cause hp

/-! ### What paths have in common -/

/-- No phase comes after the last one. -/
private theorem Phase.rank_le_closed (p : Phase) : p.rank ≤ closed.rank := by cases p <;> decide

private theorem Phase.rank_le_closing {p : Phase} (hp : p ≠ .closed) : p.rank ≤ closing.rank := by
  cases p with
  | closed => exact absurd rfl hp
  | _ => decide

namespace Path

variable {p q : Phase} {l : List (Entry S N)}

/-- The phases that a path comes through advance. -/
private theorem isChain_phases (h : Path p l q) :
    (p :: (turnsIn l).map Turn.phase).IsChain fun p q => p.rank ≤ q.rank := by
  induction h with
  | still => simp
  | opens _ ih => simpa [Turn.phase, Phase.rank] using ih
  | refuses => simp [Turn.phase, Phase.rank]
  | closes _ ih => simpa [Turn.phase, Phase.rank] using ih
  | hangsUp _ ih => simpa [Turn.phase, Phase.rank] using ih
  | fails _ hp _ ih => simpa [Turn.phase, Phase.rank_le_closing hp] using ih
  | @ends p _ => simpa [Turn.phase] using p.rank_le_closed
  | @breaks p _ _ => simpa [Turn.phase] using p.rank_le_closed

/-- The last phase that a path comes through is where it ends. -/
private theorem getLast?_phases (h : Path p l q) :
    (p :: (turnsIn l).map Turn.phase).getLast? = some q := by
  induction h with
  | still => rfl
  | opens _ ih => simpa [Turn.phase] using ih
  | refuses => rfl
  | closes _ ih => simpa [Turn.phase] using ih
  | hangsUp _ ih => simpa [Turn.phase] using ih
  | fails _ _ _ ih => simpa [Turn.phase] using ih
  | ends => rfl
  | breaks => rfl

/-- A path that does not start at the beginning neither opens nor refuses. -/
theorem not_mem_turnsIn (h : Path p l q) (hp : p ≠ .connecting) :
    .opens ∉ turnsIn l ∧ .refuses ∉ turnsIn l := by
  induction h with
  | still => simp
  | opens => exact absurd rfl hp
  | refuses => exact absurd rfl hp
  | closes _ ih => simpa using ih (by decide)
  | hangsUp _ ih => simpa using ih (by decide)
  | fails _ _ _ ih => simpa using ih (by decide)
  | ends => simp
  | breaks => simp

/-- A path that does not start at the beginning has callbacks only if it ends the session. -/
theorem callbacksIn_of_ne (h : Path p l q) (hp : p ≠ .connecting) :
    ∃ failure : Option ProtocolError, callbacksIn l =
      if .ends ∈ turnsIn l then (failure.map (.failed .closed)).toList ++ [.closed .closed]
      else [] := by
  induction h with
  | still => exact ⟨none, by simp⟩
  | opens => exact absurd rfl hp
  | refuses => exact absurd rfl hp
  | closes _ ih => simpa using ih (by decide)
  | hangsUp _ ih => simpa using ih (by decide)
  | fails _ _ _ ih => simpa using ih (by decide)
  | ends => exact ⟨none, by simp [Event.isCallback]⟩
  | breaks cause => exact ⟨some cause, by simp [Event.isCallback]⟩

/-- The callbacks on a path are those that its turns call for. -/
theorem callbacksIn_eq (h : Path p l q) :
    ∃ failure : Option ProtocolError, callbacksIn l =
      (if .opens ∈ turnsIn l then [.opened .opened] else []) ++
        if .ends ∈ turnsIn l then (failure.map (.failed .closed)).toList ++ [.closed .closed]
        else [] := by
  by_cases hp : p = .connecting
  · subst hp
    cases h with
    | still => exact ⟨none, by simp⟩
    -- behind the first milestone, the path does not start at the beginning any more
    | opens rest => simpa [Event.isCallback] using rest.callbacksIn_of_ne (by decide)
    | refuses => exact ⟨none, by simp⟩
    | fails cause _ rest =>
      have ho := (rest.not_mem_turnsIn (by decide)).1
      simpa [ho] using rest.callbacksIn_of_ne (by decide)
    | ends => exact ⟨none, by simp [Event.isCallback]⟩
    | breaks cause => exact ⟨some cause, by simp [Event.isCallback]⟩
  · have ho := (h.not_mem_turnsIn hp).1
    simpa [ho] using h.callbacksIn_of_ne hp

/-- A session that has left its first phase does not take the turn to open. -/
private theorem count_opens_of_ne (h : Path p l q) (hp : p ≠ .connecting) :
    (turnsIn l).count .opens = 0 :=
  List.count_eq_zero.mpr (h.not_mem_turnsIn hp).1

/-- A session opens at most once: after the turn to open it is not in its first phase any more. -/
private theorem count_opens_le_one (h : Path p l q) : (turnsIn l).count .opens ≤ 1 := by
  by_cases hp : p = .connecting
  · subst hp
    cases h with
    | opens rest => simp [rest.count_opens_of_ne]
    | fails cause _ rest => simp [rest.count_opens_of_ne]
    | _ => simp
  · simp [h.count_opens_of_ne hp]

/-- A session that turns its connection away does nothing else. -/
theorem turnsIn_eq_of_refuses (h : Path p l q) (hr : .refuses ∈ turnsIn l) :
    turnsIn l = [.refuses] := by
  by_cases hp : p = .connecting
  · subst hp
    cases h with
    | opens rest => exact absurd (by simpa using hr) (rest.not_mem_turnsIn (by decide)).2
    | refuses => rfl
    | fails cause _ rest => exact absurd (by simpa using hr) (rest.not_mem_turnsIn (by decide)).2
    | _ => simp at hr
  · exact absurd hr (h.not_mem_turnsIn hp).2

/-- A path ends in the closed phase just if a turn on it closes the session. -/
theorem eq_closed_iff (h : Path p l q) (hp : p ≠ .closed) :
    q = .closed ↔ .ends ∈ turnsIn l ∨ .refuses ∈ turnsIn l := by
  induction h with
  | still => simp [hp]
  | opens _ ih => simpa using ih (by decide)
  | refuses => simp
  | closes _ ih => simpa using ih (by decide)
  | hangsUp _ ih => simpa using ih (by decide)
  | fails _ _ _ ih => simpa using ih (by decide)
  | ends => simp
  | breaks => simp

/-- Phases only go forward. -/
theorem rank_le (h : Path p l q) : p.rank ≤ q.rank := by
  induction h with
  | still => exact Nat.le_refl _
  | opens _ ih => exact Nat.le_trans (by decide) ih
  | refuses => decide
  | closes _ ih => exact Nat.le_trans (by decide) ih
  | hangsUp _ ih => exact Nat.le_trans (by decide) ih
  | @fails p _ _ _ hp _ ih => exact Nat.le_trans (Phase.rank_le_closing hp) ih
  | @ends p _ => exact p.rank_le_closed
  | @breaks p _ _ => exact p.rank_le_closed

end Path

/-! ### Runs -/

/-- Whatever happens to a session on course, it does not go back to an earlier phase. -/
theorem Course.rank_le {e e' : Endpoint S N X} (h : Course e e') :
    e.session.phase.rank ≤ e'.session.phase.rank :=
  let ⟨_, _, path⟩ := h.path
  path.rank_le

/-- A closed session stays closed. -/
theorem Course.closed {e e' : Endpoint S N X} (h : Course e e') (hp : e.session.phase = .closed) :
    e'.session.phase = .closed := by
  obtain ⟨_, -, path⟩ := h.path
  rw [hp] at path
  exact path.of_closed.2

/-- No callback starts at a closed session. -/
theorem Course.callbacks_of_closed {e e' : Endpoint S N X} (h : Course e e')
    (hp : e.session.phase = .closed) : e'.callbacks = e.callbacks := by
  obtain ⟨l, hl, path⟩ := h.path
  rw [hp] at path
  rw [Endpoint.callbacks_eq, Endpoint.callbacks_eq, hl, path.of_closed.1, List.append_nil]

/-- Turns are never taken back. -/
theorem Course.turns_grow {e e' : Endpoint S N X} (h : Course e e') : e.turns <+: e'.turns := by
  obtain ⟨l, hl, -⟩ := h.path
  rw [Endpoint.turns_eq, Endpoint.turns_eq, hl, turnsIn_append]
  exact List.prefix_append _ _

/-- The turns and callbacks of a session since it was fresh are as applications rely on. -/
structure Endpoint.SafeLifecycle (e : Endpoint S N X) : Prop where
  /-- The phases advance. -/
  advances : (.connecting :: e.turns.map Turn.phase).IsChain fun p q => p.rank ≤ q.rank
  /-- There are no other phases than those of the turns. -/
  current : (.connecting :: e.turns.map Turn.phase).getLast? = some e.session.phase
  /-- The session opens at most once. -/
  opensOnce : e.turns.count .opens ≤ 1
  /-- It is closed if it ended, or if all it ever did was to turn a connection away. -/
  closed_iff : e.session.phase = .closed ↔ .ends ∈ e.turns ∨ e.turns = [.refuses]
  /-- The callback for an open session ran once if the session opened. If it ended, the callback
  for a closed one ran once and last, with at most one for a failure right in front of it. No
  other callback ran. -/
  callbacks : ∃ failure : Option ProtocolError, e.callbacks =
    (if .opens ∈ e.turns then [.opened .opened] else []) ++
      if .ends ∈ e.turns then (failure.map (.failed .closed)).toList ++ [.closed .closed] else []

/-- A session that came about on course keeps to the life cycle: the path from the first phase says
which turns it took, and callbacks go with turns. -/
theorem Course.safeLifecycle {settings : Settings} {x : X} {e : Endpoint S N X}
    (h : Course (.fresh settings x) e) : e.SafeLifecycle := by
  obtain ⟨l, hl, path⟩ := h.path
  rw [Endpoint.milestones_fresh, List.nil_append] at hl
  have ht : e.turns = turnsIn l := by rw [Endpoint.turns_eq, hl]
  have hcb : e.callbacks = callbacksIn l := by rw [Endpoint.callbacks_eq, hl]
  refine ⟨?_, ?_, ?_, ?_, ?_⟩
  · rw [ht]
    exact path.isChain_phases
  · rw [ht]
    exact path.getLast?_phases
  · rw [ht]
    exact path.count_opens_le_one
  · rw [ht, path.eq_closed_iff Phase.noConfusion]
    refine or_congr_right ⟨path.turnsIn_eq_of_refuses, fun hr => ?_⟩
    simp [hr]
  · rw [ht, hcb]
    exact path.callbacksIn_eq

namespace Host

variable {h : Host S N X} (hc : h.CallbacksOnCourse) {e : Endpoint S N X}

include hc

/-- A session that ends is closed, whatever its connection and its callbacks do. -/
theorem closed_finish (cause : Option ProtocolError) :
    ((h.finish cause).after e).session.phase = .closed := by
  by_cases hp : e.session.phase = .closed
  · rw [after_finish_of_closed hp]
    exact hp
  · have hl := (onCourse_letGo hc e.session.connection e.session.reasonText
      (e.turn .ends fun s => released s cause)).closed rfl
    cases cause with
    | none =>
      rw [after_finish_none hp]
      exact (hc.closed _).closed hl
    | some cause =>
      rw [after_finish_some hp]
      exact (hc.closed _).closed ((hc.failed cause _).closed hl)

/-- A session that fails is closed. -/
theorem closed_fail (cause : ProtocolError) : ((h.fail cause).after e).session.phase = .closed := by
  by_cases hp : e.session.phase = .closed
  · exact (onCourse_fail hc cause e).closed hp
  · obtain ⟨e₁, -, heq⟩ := exists_finish_of_fail hp cause
      (fun connection => onCourse_announceIfConnected hc connection _)
      (fun connection => onCourse_disconnect hc connection _)
    rw [heq]
    exact closed_finish hc (some cause)

/-- A session that may be opened takes the turn for it before its callback runs. -/
theorem turns_openWith (hr : openRefusal? e.session = none) (connection : ConnectionId) :
    e.turns ++ [.opens] <+: ((h.openWith connection).after e).turns := by
  simpa using (course_openWith hc hr connection).turns_grow

/-- A session that opens had no connection before, and takes a turn for it. -/
private theorem openWith_ok {connection : ConnectionId}
    (ho : (h.openWith connection).answer e = .ok ()) : e.session.phase = .connecting ∧
      e.turns ++ [.opens] <+: ((h.openWith connection).after e).turns := by
  cases hr : openRefusal? e.session with
  | some refusal =>
    rw [(openWith_of_refused hr connection).1] at ho
    cases ho
  | none => exact ⟨openRefusal?_eq_none.mp hr, turns_openWith hc hr connection⟩

end Host

/-- Every script leaves a session that was fresh with a safe lifecycle. All calls, those of
callbacks included, only advance the phase, and a call opens the session only if it had no
connection, taking a turn for it. -/
theorem Application.safeLifecycle_run {α : Type} (a : Application S N X) (settings : Settings)
    (x : X) (depth : Nat) (script : Script S N X α) :
    ((a.run depth script).after (.fresh settings x)).SafeLifecycle ∧
      (∀ depth request e, e.session.phase.rank ≤
        ((a.perform depth request).after e).session.phase.rank) ∧
      ∀ depth connection e, (a.perform depth (.openWith connection)).answer e = .ok () →
        e.session.phase = .connecting ∧
          e.turns ++ [.opens] <+: ((a.perform depth (.openWith connection)).after e).turns := by
  refine ⟨(a.onCourse_run depth script _).safeLifecycle,
    fun depth request e => (a.onCourse_perform depth request e).rank_le, ?_⟩
  intro depth connection e ho
  cases depth with
  | zero => cases ho
  | succ depth =>
    exact Host.openWith_ok (a.callbacksOnCourse_host (a.onCourse_perform depth)) ho

end PacketSession
