import PacketSession.Connection.Memory

/-!
# The two queues of a pair

Everything that the ends of a pair do is put down to the list of what is queued at each end.
`MemoryPair.pass` is what frames that are handed over one after the other come to: they join the
queue at the other end, as long as anyone reads there. Hanging up puts a mark behind everything at
both ends, and reading takes the oldest item.
-/

namespace PacketSession

namespace Memory

namespace Side

@[simp] theorem other_other (side : Side) : side.other.other = side := by cases side <;> rfl

@[simp] theorem other_ne (side : Side) : side.other ≠ side := by cases side <;> decide

/-- There are two sides. -/
theorem eq_or_eq_other (side other : Side) : other = side ∨ other = side.other := by
  cases side <;> cases other <;> simp [Side.other]

end Side

namespace End

variable (e : End) (item : Item) (more : List Item)

/-- What is queued at an end, oldest first. -/
def items (e : End) : List Item := e.inbox.toList

@[simp] theorem hungUp_queue : (e.queue item).hungUp = e.hungUp := by rw [queue]; split <;> rfl

@[simp] theorem reading_queue : (e.queue item).reading = e.reading := by rw [queue]; split <;> rfl

@[simp] theorem ended_queue : (e.queue item).ended = e.ended := by rw [queue]; split <;> rfl

/-- What is queued for an end that is read at stands behind everything that is there. -/
theorem items_queue_of_reading (h : e.reading = true) :
    (e.queue item).items = e.items ++ [item] := by
  rw [queue, if_pos h, items, Queue.toList_push, items]

/-- Queues items one after the other. -/
def queueAll (e : End) (more : List Item) : End := more.foldl queue e

@[simp] theorem hungUp_queueAll : (e.queueAll more).hungUp = e.hungUp := by
  induction more generalizing e with
  | nil => rfl
  | cons item more ih => exact (ih _).trans (hungUp_queue e item)

@[simp] theorem reading_queueAll : (e.queueAll more).reading = e.reading := by
  induction more generalizing e with
  | nil => rfl
  | cons item more ih => exact (ih _).trans (reading_queue e item)

@[simp] theorem ended_queueAll : (e.queueAll more).ended = e.ended := by
  induction more generalizing e with
  | nil => rfl
  | cons item more ih => exact (ih _).trans (ended_queue e item)

/-- Two ends differ at most in what is queued. -/
structure Alike (e e' : End) : Prop where
  hungUp : e'.hungUp = e.hungUp
  reading : e'.reading = e.reading
  ended : e'.ended = e.ended

theorem Alike.refl : e.Alike e := ⟨rfl, rfl, rfl⟩

/-- Queueing changes neither whether an end is read at nor whether it ended or hung up. -/
theorem alike_queue : e.Alike (e.queue item) :=
  ⟨e.hungUp_queue item, e.reading_queue item, e.ended_queue item⟩

private theorem alike_queueAll : e.Alike (e.queueAll more) :=
  ⟨e.hungUp_queueAll more, e.reading_queueAll more, e.ended_queueAll more⟩

variable {e} in
theorem Alike.trans {e₁ e₂ : End} (h₁ : e.Alike e₁) (h₂ : e₁.Alike e₂) : e.Alike e₂ :=
  ⟨h₂.hungUp.trans h₁.hungUp, h₂.reading.trans h₁.reading, h₂.ended.trans h₁.ended⟩

/-- Items queued one after the other stand behind everything that is there, in their order. -/
theorem items_queueAll_of_reading (h : e.reading = true) :
    (e.queueAll more).items = e.items ++ more := by
  induction more generalizing e with
  | nil => exact (List.append_nil _).symm
  | cons item more ih =>
    have hnext := ih (e.queue item) (by rw [reading_queue, h])
    rw [items_queue_of_reading e item h, List.append_assoc] at hnext
    exact hnext

end End

end Memory

namespace MemoryPair

open Memory

variable (p : MemoryPair) (side : Side)

@[simp] theorem get_set_self (e : End) : (p.set side e).get side = e := by cases side <;> rfl

@[simp] theorem get_set_other (e : End) : (p.set side e).get side.other = p.get side.other := by
  cases side <;> rfl

@[simp] theorem get_other_set (e : End) : (p.set side.other e).get side = p.get side := by
  cases side <;> rfl

@[simp] theorem set_get : p.set side (p.get side) = p := by cases side <;> rfl

@[simp] theorem set_set (e e' : End) : (p.set side e).set side e' = p.set side e' := by
  cases side <;> rfl

/-! ### Handing over -/

/-- Queues frames from a side, one after the other, at the other end. -/
def pass (frames : List WireFrame) : MemoryPair :=
  p.set side.other ((p.get side.other).queueAll (frames.map .frame))

@[simp] theorem pass_nil : p.pass side [] = p := set_get p side.other

/-- Frames that are passed after others are passed behind them. -/
theorem pass_append (frames more : List WireFrame) :
    (p.pass side frames).pass side more = p.pass side (frames ++ more) := by
  simp only [pass, get_set_self, set_set, End.queueAll, List.map_append, List.foldl_append]

@[simp] theorem get_pass_self (frames : List WireFrame) :
    (p.pass side frames).get side = p.get side := get_other_set p side _

@[simp] theorem get_pass_other (frames : List WireFrame) :
    (p.pass side frames).get side.other = (p.get side.other).queueAll (frames.map .frame) :=
  get_set_self p side.other _

/-- An end that did not hang up hands a frame to an end where someone reads. -/
theorem send_of_reading (frame : WireFrame) (hh : (p.get side).hungUp = false)
    (hr : (p.get side.other).reading = true) :
    p.send side frame = (.ok (), p.pass side [frame]) := by
  simp only [send, hh, hr, pass, End.queueAll]
  rfl

/-- A frame is refused if nobody reads it at the other end. -/
theorem send_of_not_reading (frame : WireFrame) (hr : (p.get side.other).reading = false) :
    p.send side frame = (.error .connectionClosed, p) := by
  simp only [send, hr]
  simp

/-! ### Hanging up -/

/-- Hanging up a second time does nothing. -/
theorem disconnect_of_hungUp (h : (p.get side).hungUp = true) : p.disconnect side = p := by
  simp only [disconnect, h, if_true]

/-- The mark of an end that hangs up is queued for that end as well. -/
private theorem get_disconnect_self (h : (p.get side).hungUp = false) :
    (p.disconnect side).get side = { p.get side with hungUp := true }.queue .mark := by
  simp [disconnect, h]

/-- And it is queued for the other end, behind every frame that was passed to it. -/
theorem get_disconnect_other (h : (p.get side).hungUp = false) :
    (p.disconnect side).get side.other = (p.get side.other).queue .mark := by
  simp [disconnect, h]

/-- An end that hung up has nothing left to hang up. -/
theorem hungUp_disconnect : ((p.disconnect side).get side).hungUp = true := by
  cases h : (p.get side).hungUp with
  | true => rw [disconnect_of_hungUp p side h, h]
  | false => rw [get_disconnect_self p side h, End.hungUp_queue]

@[simp] theorem disconnect_disconnect : (p.disconnect side).disconnect side = p.disconnect side :=
  disconnect_of_hungUp (p.disconnect side) side (hungUp_disconnect p side)

@[simp] theorem reading_disconnect_self :
    ((p.disconnect side).get side).reading = (p.get side).reading := by
  cases h : (p.get side).hungUp with
  | true => rw [disconnect_of_hungUp p side h]
  | false => rw [get_disconnect_self p side h, End.reading_queue]

@[simp] theorem ended_disconnect_self :
    ((p.disconnect side).get side).ended = (p.get side).ended := by
  cases h : (p.get side).hungUp with
  | true => rw [disconnect_of_hungUp p side h]
  | false => rw [get_disconnect_self p side h, End.ended_queue]

/-- Passing frames leaves the flags of the other end alone. -/
theorem alike_pass_other (frames : List WireFrame) :
    (p.get side.other).Alike ((p.pass side frames).get side.other) := by
  rw [get_pass_other]
  exact End.alike_queueAll _ _

/-- So does hanging up. -/
theorem alike_disconnect_other :
    (p.get side.other).Alike ((p.disconnect side).get side.other) := by
  cases h : (p.get side).hungUp with
  | true =>
    rw [disconnect_of_hungUp p side h]
    exact End.Alike.refl _
  | false =>
    rw [get_disconnect_other p side h]
    exact End.alike_queue _ _

/-! ### Reading -/

@[simp] theorem get_stopReading_self :
    (p.stopReading side).get side = { p.get side with inbox := .empty, reading := false } :=
  get_set_self p side _

@[simp] theorem get_stopReading_other : (p.stopReading side).get side.other = p.get side.other :=
  get_set_other p side _

/-- Only what is queued at one end is different. -/
structure Dequeued (p : MemoryPair) (side : Side) (q : MemoryPair) : Prop where
  own : (p.get side).Alike (q.get side)
  other : q.get side.other = p.get side.other

variable {p side}

/-- What one side reads and what it passes on do not get in each other's way. -/
theorem Dequeued.pass {q : MemoryPair} (h : p.Dequeued side q) (frames : List WireFrame) :
    (p.pass side frames).Dequeued side (q.pass side frames) where
  own := by
    rw [get_pass_self, get_pass_self]
    exact h.own
  other := by rw [get_pass_other, get_pass_other, h.other]

/-- Items that are taken from a queue are seen by nobody else. -/
theorem dequeued_set (inbox : Queue Item) :
    p.Dequeued side (p.set side { p.get side with inbox }) where
  own := by
    rw [get_set_self]
    exact ⟨rfl, rfl, rfl⟩
  other := get_set_other p side _

/-- An end with nothing queued is told to wait. -/
theorem next_of_items_eq_nil (he : (p.get side).ended = false) (hi : (p.get side).items = []) :
    p.next side = (.pending, p) := by
  have hpop := Queue.toList_pop? (p.get side).inbox
  rw [End.items] at hi
  rw [hi] at hpop
  have hnone := Option.map_eq_none_iff.mp hpop
  simp [next, he, hnone]

/-- Reading takes the oldest item from the queue. -/
theorem next_of_items_eq_cons {item : Item} {items : List Item} (he : (p.get side).ended = false)
    (hi : (p.get side).items = item :: items) :
    ∃ inbox : Queue Item, inbox.toList = items ∧ p.next side =
      match item with
      | .frame frame => (.frame frame, p.set side { p.get side with inbox })
      | .mark => (.ended, p.set side { p.get side with inbox, ended := true }) := by
  have hpop := Queue.toList_pop? (p.get side).inbox
  rw [End.items] at hi
  rw [hi] at hpop
  obtain ⟨⟨taken, inbox⟩, hp, heq⟩ := Option.map_eq_some_iff.mp hpop
  obtain ⟨rfl, hrest⟩ := Prod.mk.inj heq
  refine ⟨inbox, hrest, ?_⟩
  cases taken with
  | frame frame => simp [next, he, hp]
  | mark => simp [next, he, hp]

end MemoryPair

end PacketSession
