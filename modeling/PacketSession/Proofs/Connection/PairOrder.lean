import Mathlib.Logic.Function.Basic
import PacketSession.Proofs.Connection.Memory

/-!
# A pair in memory keeps order

`MemoryPair.disconnect` puts both marks at once. In truth a call to hang up first sees to it that
nothing more is sent, then puts a mark behind what is queued at the other end and then one behind
what is queued at its own, and everybody else may come in between. A `LivePair` is a pair at which
calls to hang up are under way, and any actions one after the other are a run.

Whatever the run, what is read at an end is the beginning of what was sent from the other one, and
nothing that was queued before anyone hung up is missing when the end is found
(`LivePair.faithful`).
-/

namespace PacketSession

open Memory

/-! ### Runs -/

/-- How far a call to hang up has come. -/
inductive HangUpStage
  /-- None is under way. -/
  | idle
  /-- It has put no mark yet. -/
  | begun
  /-- It has put its mark at the other end. -/
  | halfway
deriving DecidableEq

/-- A pair and the calls to hang up at its ends. -/
structure LivePair where
  pair : MemoryPair
  stage : Side → HangUpStage

/-- What is done without anybody coming in between. -/
inductive PairAction
  /-- A frame is sent from a side. -/
  | send (side : Side) (frame : WireFrame)
  /-- A call to hang up begins. -/
  | hangUp (side : Side)
  /-- A call to hang up goes on. -/
  | goOn (side : Side)
  /-- Someone reads at a side. -/
  | read (side : Side)
deriving DecidableEq

/-- What came of an action. -/
inductive PairEvent
  | sent (side : Side) (frame : WireFrame) (result : Except TransportError Unit)
  /-- A call to hang up was the first one, or there was nothing to do. -/
  | hungUp (side : Side) (first : Bool)
  /-- The call of a side put a mark at a place. -/
  | marked (side place : Side)
  /-- No call was under way. -/
  | rested (side : Side)
  | found (side : Side) (reading : MemoryPair.Reading)

namespace LivePair

/-- A pair at which nothing happened yet. -/
def fresh : LivePair := ⟨.fresh, fun _ => .idle⟩

variable (s : LivePair)

/-- The end at a side. -/
def get (side : Side) : End := s.pair.get side

/-- Carries out an action. -/
def act : PairAction → PairEvent × LivePair
  | .send side frame =>
    let called := s.pair.send side frame
    (.sent side frame called.1, { s with pair := called.2 })
  | .hangUp side =>
    if (s.get side).hungUp then (.hungUp side false, s)
    else (.hungUp side true, {
      pair := s.pair.set side { s.get side with hungUp := true }
      stage := Function.update s.stage side .begun })
  | .goOn side =>
    match s.stage side with
    | .idle => (.rested side, s)
    | .begun => (.marked side side.other, {
        pair := s.pair.set side.other ((s.get side.other).queue .mark)
        stage := Function.update s.stage side .halfway })
    | .halfway => (.marked side side, {
        pair := s.pair.set side ((s.get side).queue .mark)
        stage := Function.update s.stage side .idle })
  | .read side =>
    let looked := s.pair.next side
    (.found side looked.1, { s with pair := looked.2 })

/-- Carries out actions one after the other. -/
def follow (actions : List PairAction) : LivePair :=
  actions.foldl (fun s action => (s.act action).2) s

/-- What came of them. -/
def history (s : LivePair) : List PairAction → List PairEvent
  | [] => []
  | action :: actions => (s.act action).1 :: (s.act action).2.history actions

private theorem history_append (actions later : List PairAction) :
    s.history (actions ++ later) = s.history actions ++ (s.follow actions).history later := by
  induction actions generalizing s with
  | nil => rfl
  | cons action actions ih => exact congrArg _ (ih _)

end LivePair

/-! ### What a history tells -/

namespace PairEvent

/-- The frame that was taken from a side. -/
def accepted? (side : Side) : PairEvent → Option WireFrame
  | sent place frame (.ok ()) => if place = side then some frame else none
  | _ => none

/-- The frame that was read at a side. -/
def read? (side : Side) : PairEvent → Option WireFrame
  | found place (.frame frame) => if place = side then some frame else none
  | _ => none

/-- The item that was queued to be read at a side. -/
def queued? (side : Side) : PairEvent → Option Item
  | sent place frame (.ok ()) => if place = side.other then some (.frame frame) else none
  | marked _ place => if place = side then some .mark else none
  | _ => none

/-- Where a call to hang up of a side put a mark. -/
def mark? (side : Side) : PairEvent → Option Side
  | marked by_ place => if by_ = side then some place else none
  | _ => none

end PairEvent

/-- The frame that an item is. -/
def Memory.Item.frame? : Item → Option WireFrame
  | .frame f => some f
  | .mark => none

namespace PairHistory

variable (side : Side) (history : List PairEvent)

/-- The frames that were taken from a side, in order. -/
def accepted : List WireFrame := history.filterMap (PairEvent.accepted? side)

/-- The frames that were read at a side, in order. -/
def read : List WireFrame := history.filterMap (PairEvent.read? side)

/-- The items that were queued to be read at a side, in order. -/
def queued : List Item := history.filterMap (PairEvent.queued? side)

/-- Where calls to hang up of a side put marks, in order. -/
def marks : List Side := history.filterMap (PairEvent.mark? side)

/-- The frames that were taken from the other side are those that were queued. -/
theorem accepted_other :
    accepted side.other history = (queued side history).filterMap Item.frame? := by
  rw [accepted, queued, List.filterMap_filterMap]
  congr
  funext event
  cases event with
  | sent place frame result =>
    cases result with
    | error cause => rfl
    | ok => by_cases h : place = side.other <;>
        simp [PairEvent.accepted?, PairEvent.queued?, h, Item.frame?]
  | marked by_ place =>
    by_cases h : place = side <;> simp [PairEvent.accepted?, PairEvent.queued?, h, Item.frame?]
  | hungUp | rested | found => rfl

variable {history} {event : PairEvent}

private theorem read_concat : read side (history ++ [event]) =
    read side history ++ (event.read? side).toList := by
  rw [read, List.filterMap_append, read]
  cases h : event.read? side <;> simp [h]

/-- An event adds to what is queued for an end only if it is about that end. -/
private theorem queued_concat : queued side (history ++ [event]) =
    queued side history ++ (event.queued? side).toList := by
  rw [queued, List.filterMap_append, queued]
  cases h : event.queued? side <;> simp [h]

private theorem marks_concat : marks side (history ++ [event]) =
    marks side history ++ (event.mark? side).toList := by
  rw [marks, List.filterMap_append, marks]
  cases h : event.mark? side <;> simp [h]

end PairHistory

/-- Where the call to hang up of a side still has to put marks. -/
def HangUpStage.owed (side : Side) : HangUpStage → List Side
  | idle => []
  | begun => [side.other, side]
  | halfway => [side]

/-- The mark that was read at an end. -/
def Memory.End.passed (e : End) : List Item := if e.ended then [.mark] else []

/-- Whether the mark was read at an end does not change when something is queued there. -/
private theorem Memory.End.passed_queue (e : End) (item : Item) :
    (e.queue item).passed = e.passed := by
  rw [passed, ended_queue, passed]

theorem MemoryPair.next_of_ended {p : MemoryPair} {side : Side} (h : (p.get side).ended = true) :
    p.next side = (.ended, p) := by
  rw [next, h]
  rfl

namespace LivePair

open PairHistory

variable {h : List PairEvent} {s s' : LivePair} {side place : Side} {event : PairEvent}

/-! ### What a run keeps up -/

/-- What a history has to do with the end at a side. -/
structure Kept (h : List PairEvent) (s : LivePair) (side : Side) : Prop where
  reading : (s.get side).reading = true
  /-- What was queued was read, or is the mark that was read, or is still there. -/
  queued : queued side h = (read side h).map .frame ++ ((s.get side).passed ++ (s.get side).items)
  /-- An end that hung up has put its marks or is about to. -/
  marks : marks side h ++ (s.stage side).owed side =
    if (s.get side).hungUp then [side.other, side] else []

theorem kept_fresh (side : Side) : Kept [] fresh side := by
  cases side <;> exact ⟨rfl, rfl, rfl⟩

/-- Neither marks nor the call to hang up of a side have changed. -/
theorem marks_unchanged (hstage : s'.stage side = s.stage side) (hmark : event.mark? side = none) :
    marks side (h ++ [event]) ++ (s'.stage side).owed side =
      marks side h ++ (s.stage side).owed side := by
  rw [marks_concat, hmark, hstage, Option.toList_none, List.append_nil]

/-- An end where nothing is queued or read. -/
theorem Kept.elsewhere (hk : Kept h s side) (hget : s'.get side = s.get side)
    (hread : event.read? side = none) (hqueued : event.queued? side = none)
    (hmarks : PairHistory.marks side (h ++ [event]) ++ (s'.stage side).owed side =
      PairHistory.marks side h ++ (s.stage side).owed side) : Kept (h ++ [event]) s' side where
  reading := by rw [hget, hk.reading]
  queued := by
    rw [queued_concat, read_concat, hget, hread, hqueued, Option.toList_none, Option.toList_none,
      List.append_nil, List.append_nil, hk.queued]
  marks := by rw [hmarks, hget, hk.marks]

/-- An end where an item is queued. -/
theorem Kept.enqueue {item : Item} (hk : Kept h s side)
    (hget : s'.get side = (s.get side).queue item) (hread : event.read? side = none)
    (hqueued : event.queued? side = some item)
    (hmarks : PairHistory.marks side (h ++ [event]) ++ (s'.stage side).owed side =
      PairHistory.marks side h ++ (s.stage side).owed side) : Kept (h ++ [event]) s' side where
  reading := by rw [hget, End.reading_queue, hk.reading]
  queued := by
    rw [queued_concat, read_concat, hget, hread, hqueued, hk.queued, End.passed_queue,
      End.items_queue_of_reading _ _ hk.reading, Option.toList_none, List.append_nil,
      List.append_assoc, List.append_assoc, Option.toList_some]
  marks := by rw [hmarks, hget, End.hungUp_queue, hk.marks]

/-- An end that hung up refuses to send, and its peer notices nothing. -/
private theorem act_send_of_hungUp (hh : (s.get side).hungUp = true) (frame : WireFrame) :
    s.act (.send side frame) = (.sent side frame (.error .connectionClosed), s) := by
  have hsend : s.pair.send side frame = (.error .connectionClosed, s.pair) := by
    rw [get] at hh
    simp only [MemoryPair.send, hh, Bool.true_or, if_true]
  rw [act, hsend]

/-- A frame that is taken stands behind all that is queued for the other end. -/
private theorem act_send_of_not_hungUp (hh : (s.get side).hungUp = false)
    (hr : (s.get side.other).reading = true) (frame : WireFrame) :
    s.act (.send side frame) =
      (.sent side frame (.ok ()), { s with pair := s.pair.pass side [frame] }) := by
  rw [act, MemoryPair.send_of_reading s.pair side frame hh hr]

/-- Sending keeps the invariant at both ends: it leaves the own end alone, and at the other end the
history and the queue grow by the same frame. -/
private theorem kept_send (hk : ∀ side, Kept h s side) (place : Side) (frame : WireFrame)
    (side : Side) :
    Kept (h ++ [(s.act (.send place frame)).1]) (s.act (.send place frame)).2 side := by
  cases hh : (s.get place).hungUp with
  | true =>
    rw [act_send_of_hungUp hh]
    exact (hk side).elsewhere rfl rfl rfl (marks_unchanged rfl rfl)
  | false =>
    rw [act_send_of_not_hungUp hh (hk place.other).reading]
    obtain rfl | rfl := Side.eq_or_eq_other place side
    · refine (hk side).elsewhere (MemoryPair.get_pass_self _ _ _) rfl ?_ (marks_unchanged rfl rfl)
      exact if_neg (Side.other_ne side).symm
    · refine (hk place.other).enqueue (MemoryPair.get_pass_other _ _ _) rfl ?_
        (marks_unchanged rfl rfl)
      exact if_pos (Side.other_other place).symm

private theorem act_hangUp_of_hungUp (hh : (s.get side).hungUp = true) :
    s.act (.hangUp side) = (.hungUp side false, s) := if_pos hh

/-- Hanging up begins by raising the flag. Both marks are still owed then. -/
private theorem act_hangUp_of_not_hungUp (hh : (s.get side).hungUp = false) :
    s.act (.hangUp side) = (.hungUp side true, {
      pair := s.pair.set side { s.get side with hungUp := true }
      stage := Function.update s.stage side .begun }) :=
  if_neg (by rw [hh]; exact Bool.false_ne_true)

private theorem act_goOn_of_idle (hs : s.stage side = .idle) :
    s.act (.goOn side) = (.rested side, s) := by
  rw [act, hs]

private theorem act_goOn_of_begun (hs : s.stage side = .begun) :
    s.act (.goOn side) = (.marked side side.other, {
      pair := s.pair.set side.other ((s.get side.other).queue .mark)
      stage := Function.update s.stage side .halfway }) := by
  rw [act, hs]

/-- The third step queues the mark for the own end, and hanging up is done. -/
private theorem act_goOn_of_halfway (hs : s.stage side = .halfway) :
    s.act (.goOn side) = (.marked side side, {
      pair := s.pair.set side ((s.get side).queue .mark)
      stage := Function.update s.stage side .idle }) := by
  rw [act, hs]

/-- Beginning to hang up keeps the invariant. An end that hung up before is left as it is. -/
private theorem kept_hangUp (hk : ∀ side, Kept h s side) (place side : Side) :
    Kept (h ++ [(s.act (.hangUp place)).1]) (s.act (.hangUp place)).2 side := by
  cases hh : (s.get place).hungUp with
  | true =>
    rw [act_hangUp_of_hungUp hh]
    exact (hk side).elsewhere rfl rfl rfl (marks_unchanged rfl rfl)
  | false =>
    rw [act_hangUp_of_not_hungUp hh]
    obtain rfl | rfl := Side.eq_or_eq_other place side
    · have hkept := hk side
      have hmarks := hkept.marks
      rw [hh, if_neg Bool.false_ne_true] at hmarks
      obtain ⟨hnone, -⟩ := List.append_eq_nil_iff.mp hmarks
      refine ⟨?_, ?_, ?_⟩
      · simpa only [get, MemoryPair.get_set_self] using hkept.reading
      · simp only [get, MemoryPair.get_set_self, queued_concat, read_concat, PairEvent.queued?,
          PairEvent.read?, Option.toList_none, List.append_nil]
        exact hkept.queued
      · simp only [get, MemoryPair.get_set_self, marks_concat, hnone, Function.update_self]
        rfl
    · refine (hk place.other).elsewhere (MemoryPair.get_set_other _ _ _) rfl rfl
        (marks_unchanged ?_ rfl)
      exact Function.update_of_ne (Side.other_ne place) _ _

/-- Each further step of hanging up queues one mark at one end, notes it in the history and owes one
mark less. -/
private theorem kept_goOn (hk : ∀ side, Kept h s side) (place side : Side) :
    Kept (h ++ [(s.act (.goOn place)).1]) (s.act (.goOn place)).2 side := by
  cases hstage : s.stage place with
  | idle =>
    rw [act_goOn_of_idle hstage]
    exact (hk side).elsewhere rfl rfl rfl (marks_unchanged rfl rfl)
  | begun =>
    rw [act_goOn_of_begun hstage]
    obtain rfl | rfl := Side.eq_or_eq_other place side
    · refine (hk side).elsewhere (MemoryPair.get_other_set _ _ _) rfl ?_ ?_
      · exact if_neg (Side.other_ne side)
      · simp [marks_concat, hstage, PairEvent.mark?, HangUpStage.owed]
    -- the first mark goes to the other end
    · refine (hk place.other).enqueue (MemoryPair.get_set_self _ _ _) rfl ?_ (marks_unchanged ?_ ?_)
      · exact if_pos rfl
      · exact Function.update_of_ne (Side.other_ne place) _ _
      · exact if_neg (Side.other_ne place).symm
  | halfway =>
    rw [act_goOn_of_halfway hstage]
    obtain rfl | rfl := Side.eq_or_eq_other place side
    -- and the second one to the own end
    · refine (hk side).enqueue (MemoryPair.get_set_self _ _ _) rfl ?_ ?_
      · exact if_pos rfl
      · simp [marks_concat, hstage, PairEvent.mark?, HangUpStage.owed]
    · refine (hk place.other).elsewhere (MemoryPair.get_set_other _ _ _) rfl ?_
        (marks_unchanged ?_ ?_)
      · exact if_neg (Side.other_ne place).symm
      · exact Function.update_of_ne (Side.other_ne place) _ _
      · exact if_neg (Side.other_ne place).symm

/-- An end where the oldest item is read. -/
theorem Kept.dequeue {item : Item} {items : List Item} (hk : Kept h s side)
    (hended : (s.get side).ended = false) (hitems : (s.get side).items = item :: items)
    (hreading : (s'.get side).reading = (s.get side).reading)
    (hhungUp : (s'.get side).hungUp = (s.get side).hungUp)
    (hleft : (event.read? side).toList.map Item.frame ++
      ((s'.get side).passed ++ (s'.get side).items) = item :: items)
    (hqueued : event.queued? side = none)
    (hmarks : PairHistory.marks side (h ++ [event]) ++ (s'.stage side).owed side =
      PairHistory.marks side h ++ (s.stage side).owed side) : Kept (h ++ [event]) s' side where
  reading := hreading.trans hk.reading
  queued := by
    -- nothing was passed over at an end that still reads
    have hpassed : (s.get side).passed = [] := by
      rw [End.passed, hended]
      rfl
    rw [queued_concat, read_concat, hqueued, hk.queued, hpassed, hitems, ← hleft]
    simp
  marks := by rw [hmarks, hhungUp, hk.marks]

/-- Reading moves what is in front of a queue to what was read; a mark in front of it ends the
reading for good. -/
private theorem kept_read (hk : ∀ side, Kept h s side) (place side : Side) :
    Kept (h ++ [(s.act (.read place)).1]) (s.act (.read place)).2 side := by
  rw [act]
  cases hended : (s.get place).ended with
  | true =>
    rw [MemoryPair.next_of_ended hended]
    exact (hk side).elsewhere rfl rfl rfl (marks_unchanged rfl rfl)
  | false =>
    cases hitems : (s.get place).items with
    | nil =>
      rw [MemoryPair.next_of_items_eq_nil hended hitems]
      exact (hk side).elsewhere rfl rfl rfl (marks_unchanged rfl rfl)
    | cons item items =>
      obtain ⟨inbox, rfl, hnext⟩ := MemoryPair.next_of_items_eq_cons hended hitems
      rw [hnext]
      obtain rfl | rfl := Side.eq_or_eq_other place side
      · cases item with
        | frame frame =>
          refine (hk side).dequeue hended hitems ?_ ?_ ?_ rfl (marks_unchanged rfl rfl)
          · simp [get]
          · simp [get]
          · simpa [get, PairEvent.read?, End.passed, End.items] using hended
        | mark =>
          refine (hk side).dequeue hended hitems ?_ ?_ ?_ rfl (marks_unchanged rfl rfl)
          · simp [get]
          · simp [get]
          · simp [get, PairEvent.read?, End.passed, End.items]
      · cases item with
        | frame frame =>
          exact (hk place.other).elsewhere (MemoryPair.get_set_other _ _ _)
            (if_neg (Side.other_ne place).symm) rfl (marks_unchanged rfl rfl)
        | mark =>
          exact (hk place.other).elsewhere (MemoryPair.get_set_other _ _ _) rfl rfl
            (marks_unchanged rfl rfl)

private theorem kept_act (hk : ∀ side, Kept h s side) (action : PairAction) (side : Side) :
    Kept (h ++ [(s.act action).1]) (s.act action).2 side := by
  cases action with
  | send place frame => exact kept_send hk place frame side
  | hangUp place => exact kept_hangUp hk place side
  | goOn place => exact kept_goOn hk place side
  | read place => exact kept_read hk place side

/-- So the invariant holds after every run, by induction on the actions. -/
theorem kept_follow (hk : ∀ side, Kept h s side) (actions : List PairAction) (side : Side) :
    Kept (h ++ s.history actions) (s.follow actions) side := by
  induction actions generalizing h s with
  | nil =>
    rw [history, List.append_nil]
    exact hk side
  | cons action actions ih =>
    have hnext := ih (kept_act hk action)
    rwa [List.append_assoc] at hnext

/-- What every history of a pair has to do with what became of it. -/
theorem kept (actions : List PairAction) (side : Side) :
    Kept (fresh.history actions) (fresh.follow actions) side :=
  kept_follow kept_fresh actions side

/-! ### What stays -/

/-- Sending changes at most what is queued. -/
theorem alike_act_send (place side : Side) (frame : WireFrame) :
    (s.get side).Alike ((s.act (.send place frame)).2.get side) := by
  change (s.pair.get side).Alike ((s.pair.send place frame).2.get side)
  rw [MemoryPair.send]
  split
  · exact .refl _
  · obtain rfl | rfl := Side.eq_or_eq_other place side
    · rw [MemoryPair.get_other_set]
      exact .refl _
    · rw [MemoryPair.get_set_self]
      exact End.alike_queue _ _

/-- So does a call to hang up that goes on. -/
theorem alike_act_goOn (place side : Side) :
    (s.get side).Alike ((s.act (.goOn place)).2.get side) := by
  cases hstage : s.stage place with
  | idle =>
    rw [act_goOn_of_idle hstage]
    exact .refl _
  | begun =>
    rw [act_goOn_of_begun hstage]
    obtain rfl | rfl := Side.eq_or_eq_other place side
    · simp only [get, MemoryPair.get_other_set]
      exact .refl _
    · simp only [get, MemoryPair.get_set_self]
      exact End.alike_queue _ _
  | halfway =>
    rw [act_goOn_of_halfway hstage]
    obtain rfl | rfl := Side.eq_or_eq_other place side
    · simp only [get, MemoryPair.get_set_self]
      exact End.alike_queue _ _
    · simp only [get, MemoryPair.get_set_other]
      exact .refl _

/-- Nobody hangs up by reading, and an end that was found stays. -/
theorem get_act_read (place side : Side) :
    ((s.act (.read place)).2.get side).hungUp = (s.get side).hungUp ∧
      ((s.get side).ended = true → ((s.act (.read place)).2.get side).ended = true) := by
  change ((s.pair.next place).2.get side).hungUp = (s.pair.get side).hungUp ∧
    ((s.pair.get side).ended = true → ((s.pair.next place).2.get side).ended = true)
  rw [MemoryPair.next]
  split
  · exact ⟨rfl, id⟩
  split
  · exact ⟨rfl, id⟩
  all_goals
    obtain rfl | rfl := Side.eq_or_eq_other place side
    · rw [MemoryPair.get_set_self]
      exact ⟨rfl, by simp⟩
    · rw [MemoryPair.get_set_other]
      exact ⟨rfl, id⟩

/-- The flag of an end is raised by its own call to hang up and by nothing else, and it is never
lowered. -/
private theorem hungUp_act_iff (action : PairAction) :
    ((s.act action).2.get side).hungUp = true ↔
      (s.get side).hungUp = true ∨ action = .hangUp side := by
  cases action with
  | send place frame => simp [(alike_act_send place side frame).hungUp]
  | goOn place => simp [(alike_act_goOn place side).hungUp]
  | read place => simp [(get_act_read place side).1]
  | hangUp place =>
    cases hh : (s.get place).hungUp with
    | true =>
      rw [act_hangUp_of_hungUp hh]
      refine ⟨.inl, ?_⟩
      rintro (hside | hplace)
      · exact hside
      · obtain rfl := PairAction.hangUp.inj hplace
        exact hh
    | false =>
      rw [act_hangUp_of_not_hungUp hh]
      obtain rfl | rfl := Side.eq_or_eq_other place side
      · simp [get]
      · simp [get, (Side.other_ne place).symm]

/-- An end hung up if it was ever called to. -/
private theorem hungUp_follow_iff (actions : List PairAction) :
    ((s.follow actions).get side).hungUp = true ↔
      (s.get side).hungUp = true ∨ .hangUp side ∈ actions := by
  induction actions generalizing s with
  | nil => simp [follow]
  | cons action actions ih =>
    have hstep : s.follow (action :: actions) = (s.act action).2.follow actions := rfl
    rw [hstep, ih, hungUp_act_iff, List.mem_cons, or_assoc, @eq_comm _ action]

/-- An end that has ended stays so, whatever is done at either end. -/
private theorem ended_act (action : PairAction) (he : (s.get side).ended = true) :
    ((s.act action).2.get side).ended = true := by
  cases action with
  | send place frame => exact (alike_act_send place side frame).ended.trans he
  | goOn place => exact (alike_act_goOn place side).ended.trans he
  | hangUp place =>
    cases hh : (s.get place).hungUp with
    | true =>
      rw [act_hangUp_of_hungUp hh]
      exact he
    | false =>
      rw [act_hangUp_of_not_hungUp hh]
      obtain rfl | rfl := Side.eq_or_eq_other place side <;> simpa [get] using he
  | read place => exact (get_act_read place side).2 he

private theorem ended_follow (actions : List PairAction) (he : (s.get side).ended = true) :
    ((s.follow actions).get side).ended = true := by
  induction actions generalizing s with
  | nil => exact he
  | cons action actions ih => exact ih (ended_act action he)

/-! ### What a source finds -/

/-- A mark is put by a call to hang up. -/
theorem exists_mark_of_mem_queued (hm : .mark ∈ queued side h) :
    ∃ place, side ∈ marks place h := by
  obtain ⟨event, hevent, hqueued⟩ := List.mem_filterMap.mp hm
  cases event with
  | sent from_ frame result =>
    cases result with
    | error cause => cases hqueued
    | ok =>
      rw [PairEvent.queued?] at hqueued
      split at hqueued <;> cases hqueued
  | marked by_ place =>
    obtain rfl : place = side := by
      by_contra hne
      rw [PairEvent.queued?, if_neg hne] at hqueued
      cases hqueued
    exact ⟨by_, List.mem_filterMap.mpr ⟨_, hevent, if_pos rfl⟩⟩
  | hungUp | rested | found => cases hqueued

/-- Without a call to hang up there is no mark. -/
private theorem Kept.marks_eq_nil (hk : Kept h s side) (hh : (s.get side).hungUp = false) :
    PairHistory.marks side h = [] := by
  have hmarks := hk.marks
  rw [hh, if_neg Bool.false_ne_true] at hmarks
  exact (List.append_eq_nil_iff.mp hmarks).1

/-- Whoever finds the end has found a mark, now or before. -/
theorem exists_of_next_ended (hnext : (s.pair.next side).1 = .ended) :
    (∃ behind, (s.get side).passed ++ (s.get side).items = .mark :: behind) ∧
      ((s.act (.read side)).2.get side).ended = true := by
  cases hended : (s.get side).ended with
  | true =>
    rw [End.passed, hended]
    exact ⟨⟨_, rfl⟩, ended_act _ hended⟩
  | false =>
    rw [End.passed, hended]
    cases hitems : (s.get side).items with
    | nil =>
      rw [MemoryPair.next_of_items_eq_nil hended hitems] at hnext
      cases hnext
    | cons item items =>
      obtain ⟨inbox, rfl, heq⟩ := MemoryPair.next_of_items_eq_cons hended hitems
      rw [heq] at hnext
      cases item with
      | frame frame => cases hnext
      | mark =>
        refine ⟨⟨_, rfl⟩, ?_⟩
        rw [act, heq]
        simp [get]

/-- A reader is told to wait only if it has found no mark and nothing is left in its queue. -/
private theorem items_of_next_pending (hnext : (s.pair.next side).1 = .pending) :
    (s.get side).passed ++ (s.get side).items = [] := by
  cases hended : (s.get side).ended with
  | true =>
    rw [MemoryPair.next_of_ended hended] at hnext
    cases hnext
  | false =>
    cases hitems : (s.get side).items with
    | nil =>
      rw [End.passed, hended]
      rfl
    | cons item items =>
      obtain ⟨inbox, rfl, heq⟩ := MemoryPair.next_of_items_eq_cons hended hitems
      rw [heq] at hnext
      cases item <;> cases hnext

private theorem filterMap_frame? (frames : List WireFrame) :
    (frames.map Item.frame).filterMap Item.frame? = frames := by
  rw [List.filterMap_map]
  exact List.filterMap_some

/-- Items in front of the first mark are frames in front of it. -/
private theorem prefix_of_notMem_mark {items behind : List Item} {frames : List WireFrame}
    (hp : items <+: frames.map .frame ++ .mark :: behind) (hm : .mark ∉ items) :
    items <+: frames.map .frame := by
  obtain hframes | ⟨rest, rfl⟩ := List.prefix_or_prefix_of_prefix hp (List.prefix_append _ _)
  · exact hframes
  · cases rest with
    | nil => exact ⟨[], by simp⟩
    | cons item rest =>
      obtain ⟨rfl, -⟩ := List.cons_prefix_cons.mp ((List.prefix_append_right_inj _).mp hp)
      exact absurd (List.mem_append_right _ List.mem_cons_self) hm

/-- A call to hang up that nobody comes in between puts both marks at once. -/
private theorem follow_hangUp (hstage : s.stage side = .idle) :
    s.follow [.hangUp side, .goOn side, .goOn side] =
      { s with pair := s.pair.disconnect side } := by
  change (((s.act (.hangUp side)).2.act (.goOn side)).2.act (.goOn side)).2 = _
  cases hh : (s.get side).hungUp with
  | true =>
    rw [act_hangUp_of_hungUp hh, act_goOn_of_idle hstage, act_goOn_of_idle hstage,
      MemoryPair.disconnect_of_hungUp _ _ hh]
  | false =>
    have hstages : Function.update s.stage side .idle = s.stage := by
      rw [← hstage, Function.update_eq_self]
    have hbegun : (s.act (.hangUp side)).2.stage side = .begun := by
      rw [act_hangUp_of_not_hungUp hh]
      exact Function.update_self _ _ _
    have hhalfway : ((s.act (.hangUp side)).2.act (.goOn side)).2.stage side = .halfway := by
      rw [act_goOn_of_begun hbegun]
      exact Function.update_self _ _ _
    rw [act_goOn_of_halfway hhalfway, act_goOn_of_begun hbegun, act_hangUp_of_not_hungUp hh]
    dsimp only
    rw [Function.update_idem, Function.update_idem, hstages, MemoryPair.disconnect]
    rw [get] at hh
    rw [hh, if_neg Bool.false_ne_true]
    congr 1
    cases side <;> rfl

/-! ### Every run -/

/-- A pair is a faithful way for frames in both directions, whatever is sent, read and hung up at
its ends, and in whichever order. -/
structure Faithful : Prop where
  /-- What was read at an end is the beginning of what was taken from the other one. -/
  inOrder (actions : List PairAction) (side : Side) :
    let h := fresh.history actions
    read side h <+: accepted side.other h
  /-- Reading finds nothing only if everything that was queued was read. -/
  waits (actions : List PairAction) (side : Side) :
    let h := fresh.history actions
    let s := fresh.follow actions
    (s.act (.read side)).1 = .found side .pending → queued side h = (read side h).map .frame
  /-- The end is found just behind what was queued in front of the first mark, and not before
  someone hung up. -/
  ends (actions : List PairAction) (side : Side) :
    let h := fresh.history actions
    let s := fresh.follow actions
    (s.act (.read side)).1 = .found side .ended →
      (∃ behind, queued side h = (read side h).map .frame ++ .mark :: behind) ∧
        ∃ place, .hangUp place ∈ actions
  /-- So nothing is missing of what was taken before anyone hung up. -/
  complete (before later : List PairAction) (side : Side) :
    let s := fresh.follow (before ++ later)
    (∀ place, .hangUp place ∉ before) → (s.act (.read side)).1 = .found side .ended →
      accepted side.other (fresh.history before) <+: read side (fresh.history (before ++ later))
  /-- From then on there is nothing but the end. -/
  silence (actions later : List PairAction) (side : Side) :
    let s := fresh.follow actions
    let s' := (s.act (.read side)).2.follow later
    (s.act (.read side)).1 = .found side .ended →
      s'.act (.read side) = (.found side .ended, s')
  /-- Frames are taken from an end that did not hang up. -/
  accepts (actions : List PairAction) (side : Side) (frame : WireFrame) :
    let s := fresh.follow actions
    .hangUp side ∉ actions → (s.act (.send side frame)).1 = .sent side frame (.ok ())
  /-- None are taken from one that did. -/
  refuses (actions : List PairAction) (side : Side) (frame : WireFrame) :
    let s := fresh.follow actions
    .hangUp side ∈ actions →
      s.act (.send side frame) = (.sent side frame (.error .connectionClosed), s)
  /-- Whoever hangs up again changes nothing. -/
  hangsUpOnce (actions : List PairAction) (side : Side) :
    let s := fresh.follow actions
    .hangUp side ∈ actions → s.act (.hangUp side) = (.hungUp side false, s)
  /-- However often an end hangs up, it puts one mark at the other end, and then one at its own. -/
  marks (actions : List PairAction) (side : Side) :
    PairHistory.marks side (fresh.history actions) <+: [side.other, side]
  /-- Without interruption, hanging up is what is said of a pair at which it happens at once. -/
  uninterrupted (actions : List PairAction) (side : Side) :
    let s := fresh.follow actions
    s.stage side = .idle →
      s.follow [.hangUp side, .goOn side, .goOn side] = { s with pair := s.pair.disconnect side }

/-- In a run from a fresh pair, an end hung up just if its call to hang up is among the actions. -/
private theorem hungUp_follow_fresh (actions : List PairAction) (side : Side) :
    ((fresh.follow actions).get side).hungUp = true ↔ .hangUp side ∈ actions := by
  have hfresh : ¬ (fresh.get side).hungUp = true := by cases side <;> exact Bool.false_ne_true
  rw [hungUp_follow_iff, or_iff_right hfresh]

private theorem marks_of_notMem (actions : List PairAction) (hm : .hangUp side ∉ actions) :
    PairHistory.marks side (fresh.history actions) = [] :=
  (kept actions side).marks_eq_nil
    (Bool.eq_false_iff.mpr (mt (hungUp_follow_fresh actions side).mp hm))

/-- A pair in memory is faithful. -/
theorem faithful : Faithful where
  inOrder actions side := by
    have hqueued := (kept actions side).queued
    dsimp only
    rw [accepted_other, hqueued, List.filterMap_append, filterMap_frame?]
    exact List.prefix_append _ _
  waits actions side hread := by
    have hnext : ((fresh.follow actions).pair.next side).1 = .pending :=
      (PairEvent.found.inj hread).2
    have hqueued := (kept actions side).queued
    rwa [items_of_next_pending hnext, List.append_nil] at hqueued
  ends actions side hread := by
    have hnext : ((fresh.follow actions).pair.next side).1 = .ended := (PairEvent.found.inj hread).2
    obtain ⟨⟨behind, hbehind⟩, -⟩ := exists_of_next_ended hnext
    have hqueued := (kept actions side).queued
    rw [hbehind] at hqueued
    obtain ⟨place, hplace⟩ : ∃ place, side ∈ PairHistory.marks place (fresh.history actions) :=
      exists_mark_of_mem_queued (by simp [hqueued])
    refine ⟨⟨behind, hqueued⟩, place, ?_⟩
    by_contra hm
    rw [marks_of_notMem actions hm] at hplace
    cases hplace
  complete before later side hnone hread := by
    have hnext : ((fresh.follow (before ++ later)).pair.next side).1 = .ended :=
      (PairEvent.found.inj hread).2
    obtain ⟨⟨behind, hbehind⟩, -⟩ := exists_of_next_ended hnext
    have hqueued := (kept (before ++ later) side).queued
    rw [hbehind] at hqueued
    -- no mark is queued before somebody hangs up, so all frames until then stand before the first
    have hmark : .mark ∉ queued side (fresh.history before) := by
      intro hm
      obtain ⟨place, hplace⟩ := exists_mark_of_mem_queued hm
      rw [marks_of_notMem before (hnone place)] at hplace
      cases hplace
    have hprefix : queued side (fresh.history before) <+:
        queued side (fresh.history (before ++ later)) := by
      rw [history_append, queued, queued, List.filterMap_append]
      exact List.prefix_append _ _
    rw [hqueued] at hprefix
    have hframes := (prefix_of_notMem_mark hprefix hmark).filterMap Item.frame?
    rwa [filterMap_frame?, ← accepted_other] at hframes
  silence actions later side hread := by
    have hnext : ((fresh.follow actions).pair.next side).1 = .ended := (PairEvent.found.inj hread).2
    have hended := ended_follow later (exists_of_next_ended hnext).2
    rw [act, MemoryPair.next_of_ended hended]
  accepts actions side frame hm := by
    have hh := Bool.eq_false_iff.mpr (mt (hungUp_follow_fresh actions side).mp hm)
    rw [act_send_of_not_hungUp hh (kept actions side.other).reading]
  refuses actions side frame hm :=
    act_send_of_hungUp ((hungUp_follow_fresh actions side).mpr hm) frame
  hangsUpOnce actions side hm := act_hangUp_of_hungUp ((hungUp_follow_fresh actions side).mpr hm)
  marks actions side := by
    have hmarks := (kept actions side).marks
    split at hmarks
    · exact ⟨_, hmarks⟩
    · rw [(List.append_eq_nil_iff.mp hmarks).1]
      exact List.nil_prefix
  uninterrupted actions side hstage := follow_hangUp hstage

/-- A frame gets in front of both marks although the other end hangs up already. What is sent behind
the first mark is queued and never read. -/
example :
    let frame (n : UInt8) : WireFrame := ⟨{}, [n]⟩
    let h := fresh.history [.send .left (frame 1), .hangUp .right, .send .left (frame 2),
      .goOn .right, .goOn .right, .send .left (frame 3), .read .right, .hangUp .right,
      .read .right, .read .right, .read .right]
    accepted .left h = [frame 1, frame 2, frame 3] ∧ read .right h = [frame 1, frame 2] ∧
      queued .right h = [.frame (frame 1), .frame (frame 2), .mark, .frame (frame 3)] := by
  decide

end LivePair

end PacketSession
