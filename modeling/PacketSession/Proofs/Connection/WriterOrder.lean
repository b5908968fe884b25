import Mathlib.Algebra.Order.Ring.Nat
import PacketSession.Proofs.Connection.Interleaving

/-!
# The writer keeps order and accounts for every write

What is kept up at a live end (`LiveEnd.Kept`) says what has become of every write at any time. A
write that was carried out succeeded, the one that the writer could not carry out failed with its
cause, and all behind the command that the writer ended with are given up when it is gone. Outcomes
stay, and so does it that an end hung up, that its writer is dead and that its reader is done
(`LiveEnd.Onward`).

Each action of the writer uses up some of its work (`LiveEnd.work`), and as long as it is not idle
there is one that does. So however it is interrupted, the writer comes to a point where it is idle,
and there every write has its outcome.

If nobody comes between the actions of a call, of the writer carrying out a command or of a reading,
they are together what `StreamEnd` says (`LiveEnd.uninterrupted`).
-/

namespace PacketSession

/-! ### What stays -/

/-- What stays of what callers, the writer and the reader of an end share. -/
structure StreamEnd.Onward (e e' : StreamEnd) : Prop where
  closing : e.closing = true → e'.closing = true
  dead : e.writerAlive = false → e'.writerAlive = false
  done : e.done = true → e'.done = true

/-- What stays of a live end. -/
structure LiveEnd.Onward (s s' : LiveEnd) : Prop where
  shared : s.shared.Onward s'.shared
  outcome : ∀ id result, s.writes.outcome? id = some result → s'.writes.outcome? id = some result

theorem StreamEnd.Onward.refl (e : StreamEnd) : e.Onward e := ⟨id, id, id⟩

theorem LiveEnd.Onward.refl (s : LiveEnd) : s.Onward s := ⟨.refl _, fun _ _ => id⟩

/-- What stays over one stretch of a run and over the next stays over both. -/
theorem LiveEnd.Onward.trans {s₁ s₂ s₃ : LiveEnd} (h₁ : s₁.Onward s₂) (h₂ : s₂.Onward s₃) :
    s₁.Onward s₃ where
  shared :=
    { closing h := h₂.shared.closing (h₁.shared.closing h)
      dead h := h₂.shared.dead (h₁.shared.dead h)
      done h := h₂.shared.done (h₁.shared.done h) }
  outcome id result h := h₂.outcome id result (h₁.outcome id result h)

/-- A write that has its outcome keeps it when others are settled, even if it is among them. -/
private theorem WriteTable.outcome?_settleAll_of_some {t : WriteTable} {id : WriteId}
    {result : WriteResult}
    (h : t.outcome? id = some result) (settled : List (WriteId × WriteResult)) :
    (t.settleAll settled).outcome? id = some result := by
  rw [outcome?_settleAll_eq, h, Option.some_or]

namespace StreamEnd

variable {e : StreamEnd}

private theorem next_of_done (h : e.done = true) : e.next = (.ended, e) := by rw [next, if_pos h]

/-- A reader that looks for a sign of the writer first finds what is on the stream if there is
none. -/
private theorem next_eq_scan (h : (e.done || e.writerExit) = false) : e.next = e.scan := by
  obtain ⟨hdone, hexit⟩ := Bool.or_eq_false_iff.mp h
  exact next_of_reading hdone hexit

/-- A scan changes nothing but what it takes off the stream, and whether the reader is done. -/
private theorem onward_scan (e : StreamEnd) : e.Onward e.scan.2 := by
  rw [scan]
  split
  · exact ⟨id, id, id⟩
  · exact .refl e
  · exact ⟨id, id, fun _ => rfl⟩
  · exact ⟨id, id, fun _ => rfl⟩

/-- Reading takes nothing back: it at most makes the reader done, with the end of the stream or with
the failure of the writer. -/
private theorem onward_next (e : StreamEnd) : e.Onward e.next.2 := by
  rw [next]
  split
  · exact .refl e
  · split
    · cases e.failure <;> exact ⟨id, id, fun _ => rfl⟩
    · exact onward_scan e

/-- Whoever is asked to send after hanging up, or after the writer is dead, refuses. -/
private theorem refusal?_of_over (h : e.closing = true ∨ e.writerAlive = false)
    (frame : WireFrame) : e.refusal? frame = some .connectionClosed := by
  have hconnected : e.isConnected = false := by
    obtain h | h := h <;> simp [isConnected, h]
  rw [refusal?, hconnected]
  rfl

/-- At an end that is connected, a frame is refused for its size alone, and the error names both
sizes. -/
private theorem refusal?_of_oversized {frame : WireFrame} (hc : e.isConnected = true)
    (hf : ¬ frame.Fits e.limit) : e.refusal? frame =
      some (.frameTooLarge (Settings.wireHeaderSize + frame.payload.length) e.limit) := by
  have hlt : e.limit < Settings.wireHeaderSize + frame.payload.length := Nat.lt_of_not_le hf
  simp [refusal?, hc, hlt]

end StreamEnd

namespace LiveEnd

variable {limit : Nat} {s : LiveEnd}

/-- No action takes back what stays, whoever performs it. Flags are only ever raised, and outcomes
are only settled for writes that have none. -/
private theorem onward_act (s : LiveEnd) : (action : Action) → s.Onward (s.act action)
  | .beginSend frame => by
    rw [act, beginSend]
    split
    · exact .refl s
    · exact ⟨.refl _, fun _ _ => id⟩
  | .endSend frame write => by
    rw [act, endSend]
    split
    · split <;> exact ⟨⟨id, id, id⟩, fun _ _ => id⟩
    · exact .refl s
  | .beginHangUp => by
    rw [act, beginHangUp]
    split
    · exact .refl s
    · exact ⟨⟨fun _ => rfl, id, id⟩, fun _ _ => id⟩
  | .endHangUp => by
    rw [act, endHangUp]
    split
    · split <;> exact ⟨⟨id, id, id⟩, fun _ _ => id⟩
    · exact .refl s
  | .take => by
    rw [act, take]
    split
    · exact ⟨⟨id, id, id⟩, fun _ _ => id⟩
    · exact .refl s
  | .put count => by
    rw [act, put]
    split
    · exact ⟨.refl _, fun _ _ => id⟩
    · exact .refl s
  | .complete => by
    rw [act, complete]
    split
    · exact ⟨.refl _, fun _ _ h => WriteTable.outcome?_settle_of_some h _ _⟩
    · exact .refl s
  | .fail cause => by
    rw [act, fail]
    split
    · exact ⟨⟨id, id, id⟩, fun _ _ h => WriteTable.outcome?_settle_of_some h _ _⟩
    · exact .refl s
  | .advance => by
    rw [act, advance]
    split
    · exact ⟨⟨id, fun _ => rfl, id⟩, fun _ _ => id⟩
    · exact ⟨.refl _, fun _ _ => id⟩
    · exact ⟨⟨id, id, id⟩, fun _ _ => id⟩
    · exact ⟨⟨id, id, id⟩, fun _ _ h => WriteTable.outcome?_settleAll_of_some h _⟩
    · exact .refl s
  | .arrive _ | .endInput => ⟨⟨id, id, id⟩, fun _ _ => id⟩
  | .ask => by
    rw [act, ask]
    split
    · exact ⟨StreamEnd.onward_next _, fun _ _ => id⟩
    · exact ⟨.refl _, fun _ _ => id⟩
  | .look => by
    rw [act, look]
    split
    · exact ⟨StreamEnd.onward_scan _, fun _ _ => id⟩
    · exact .refl s
  | .breakDown => by
    rw [act, breakDown]
    split
    · exact ⟨⟨id, id, fun _ => rfl⟩, fun _ _ => id⟩
    · exact .refl s

/-- And neither does a run, by induction on its actions. -/
private theorem onward_follow (s : LiveEnd) (actions : List Action) : s.Onward
    (s.follow actions) := by
  induction actions generalizing s with
  | nil => exact .refl s
  | cons action actions ih => exact (onward_act s action).trans (ih _)

/-! ### What is queued -/

/-- What an action queues: the frame of a call to send that goes well, and what a call to hang up
leaves for a writer that listens. -/
def queues (s : LiveEnd) : Action → List StreamCommand
  | .endSend frame id =>
    if s.sending.contains (frame, id) && (s.endSend frame id).1.isOk then [.write frame id] else []
  | .endHangUp => if s.hangingUp && s.writer.listens then [.shutdown] else []
  | _ => []

/-- What actions queue one after the other. -/
def submitted (s : LiveEnd) : List Action → List StreamCommand
  | [] => []
  | action :: actions => s.queues action ++ (s.act action).submitted actions

/-- The ghost list `queued` grows behind its end, by just what the action queues. -/
private theorem queued_act (s : LiveEnd) (action : Action) :
    (s.act action).queued = s.queued ++ s.queues action := by
  cases action with
  | endSend frame id =>
    by_cases hsending : (frame, id) ∈ s.sending
    · cases hlistens : s.writer.listens <;>
        simp [act, queues, endSend, queue, hsending, hlistens, Except.isOk, Except.toBool]
    · simp [act, queues, hsending]
  | endHangUp =>
    rw [act, queues, endHangUp]
    cases s.hangingUp <;> cases s.writer.listens <;> simp [queue]
  | arrive | endInput => exact (List.append_nil _).symm
  | beginSend | beginHangUp | take | put | complete | fail | advance | ask | look | breakDown =>
    simp only [act, beginSend, beginHangUp, take, put, complete, fail, advance, ask, look,
      breakDown, queues, List.append_nil]
    split <;> rfl

/-- So what was queued in a run is what its actions submitted, in their order. -/
theorem queued_follow (s : LiveEnd) (actions : List Action) :
    (s.follow actions).queued = s.queued ++ s.submitted actions := by
  induction actions generalizing s with
  | nil => exact (List.append_nil _).symm
  | cons action actions ih =>
    have hfollow : s.follow (action :: actions) = (s.act action).follow actions := rfl
    rw [hfollow, ih, queued_act, submitted, List.append_assoc]

/-! ### What has become of writes -/

/-- The frames that are on the stream in full. -/
def landed (s : LiveEnd) : List WireFrame :=
  s.written.map Prod.fst ++
    match s.writer with
    | .writing frame _ [] => [frame]
    | _ => []

/-- Whether the writer has nothing to do. -/
def Idle (s : LiveEnd) : Prop :=
  s.writer = .waiting ∧ s.shared.commands.toList = [] ∨ s.writer.isGone = true

namespace Kept

variable (h : Kept limit s)

include h

/-- A write that the writer completed has succeeded, and its handle can tell. -/
theorem succeeded {frame : WireFrame} {id : WriteId} (hw : (frame, id) ∈ s.written) :
    s.writes.outcome? id = some (.ok ()) := by
  rw [h.outcome, settled, List.append_assoc]
  exact List.mem_append_left _ (List.mem_map.mpr ⟨_, hw, rfl⟩)

/-- The write that the writer ended with has failed for the cause that the writer ended for. -/
theorem failed {stage : EndStage} {frame : WireFrame} {id : WriteId} {left : Bytes}
    {cause : TransportError} (hw : s.writer = .ending stage (.failed frame id left cause)) :
    s.writes.outcome? id = some (.error cause) := by
  rw [h.outcome, settled, hw]
  exact List.mem_append_left _ (List.mem_append_right _ List.mem_cons_self)

/-- Writes that were still queued when the writer was gone are settled as given up. -/
theorem abandoned {frame : WireFrame} {id : WriteId} (hw : .write frame id ∈ s.dropped) :
    s.writes.outcome? id = some (.error .writerGone) := by
  rw [h.outcome, settled]
  exact List.mem_append_right _ (List.mem_flatMap.mpr ⟨_, hw, List.mem_cons_self⟩)

/-- What was queued last has no outcome yet: a frame that is being written, and whatever is still
queued. -/
private theorem undecided {frame : WireFrame} {id : WriteId}
    (hw : (∃ left, s.writer = .writing frame id left) ∨
      .write frame id ∈ s.shared.commands.toList) : s.writes.outcome? id = none := by
  refine Option.eq_none_iff_forall_ne_some.mpr fun result hresult => ?_
  have hsettled := List.mem_map_of_mem (f := Prod.fst) ((h.outcome id result).mp hresult)
  have hnodup := (List.nodup_append'.mp h.nodup).1
  rw [h.ids_queued] at hnodup
  rw [ids_settled] at hsettled
  obtain ⟨left, hwriting⟩ | hqueued := hw
  · have hdropped := h.dropped (by rw [hwriting]; rfl)
    rw [hwriting] at hnodup hsettled
    rw [hdropped] at hsettled
    have hwritten : id ∈ s.written.map Prod.snd := by
      simpa [WriterStage.settled] using hsettled
    exact (List.nodup_append'.mp hnodup).2.2 hwritten (List.mem_append_left _ List.mem_cons_self)
  · have hcommand : id ∈ s.shared.commands.toList.filterMap StreamCommand.id? :=
      List.mem_filterMap.mpr ⟨_, hqueued, rfl⟩
    rw [← List.append_assoc, ← List.append_assoc] at hnodup
    refine (List.nodup_append'.mp hnodup).2.2 ?_ hcommand
    have hsub := (s.writer.ids_settled_sublist.append_right
      (s.dropped.filterMap StreamCommand.id?)).append_left (s.written.map Prod.snd)
    rw [List.append_assoc]
    exact hsub.subset hsettled

/-- Once the writer is idle, every write that was queued has its outcome. -/
theorem decided (hidle : s.Idle) {frame : WireFrame} {id : WriteId}
    (hw : .write frame id ∈ s.queued) : ∃ result, s.writes.outcome? id = some result := by
  have hcommands : s.shared.commands.toList = [] := hidle.elim And.right h.gone
  rw [h.order, hcommands, List.append_nil] at hw
  -- everything that was queued was written, taken or given up
  obtain hwritten | hw := List.mem_append.mp hw
  · obtain ⟨⟨_, _⟩, hmem, heq⟩ := List.mem_map.mp hwritten
    cases heq
    exact ⟨_, h.succeeded hmem⟩
  obtain htaken | hdropped := List.mem_append.mp hw
  · -- an idle writer that took a command has ended with it
    cases hwriter : s.writer with
    | waiting =>
      rw [hwriter] at htaken
      cases htaken
    | writing =>
      rw [Idle, hwriter] at hidle
      exact absurd hidle (by simp [WriterStage.isGone])
    | ending stage exit =>
      rw [hwriter] at htaken
      cases exit with
      | told => cases List.mem_singleton.mp htaken
      | failed =>
        cases List.mem_singleton.mp htaken
        exact ⟨_, h.failed hwriter⟩
  · exact ⟨_, h.abandoned hdropped⟩

/-- A frame that the writer took was checked against the limit when the call to send began. -/
private theorem fits_taken {frame : WireFrame} (id : WriteId)
    (hw : .write frame id ∈ s.writer.taken) : frame.Fits limit := by
  refine h.fits frame id (.inl ?_)
  rw [h.order]
  exact List.mem_append_right _ (List.mem_append_left _ hw)

/-- The stream holds the frames that landed, and behind them at most a part of another one. -/
theorem exists_wire : ∃ part, s.wire = Framing.written s.landed ++ part ∧
    (part = [] ∨ ∃ frame id left, s.writer.taken = [.write frame id] ∧
      part ++ left = Framing.encode frame ∧ left ≠ []) := by
  obtain ⟨part, hwire, hpart⟩ := h.wire
  have hshort := h.short
  rw [landed]
  revert hpart hshort
  -- all that matters is how much of its frame the writer has put onto the stream
  rcases s.writer with _ | ⟨frame, id, _ | ⟨byte, left⟩⟩ | ⟨stage, _ | ⟨frame, id, left, cause⟩⟩ <;>
    intro hpart hshort
  · obtain rfl : part = [] := (List.append_eq_nil_iff.mp hpart).1
    exact ⟨[], by simpa using hwire, .inl rfl⟩
  · obtain rfl : part = Framing.encode frame := by
      simpa [WriterStage.left, WriterStage.taken, StreamCommand.frame?] using hpart
    exact ⟨[], by simpa [Framing.written] using hwire, .inl rfl⟩
  · have hcut : part ++ (byte :: left) = Framing.encode frame := by
      simpa [WriterStage.left, WriterStage.taken, StreamCommand.frame?] using hpart
    exact ⟨part, by simpa using hwire, .inr ⟨frame, id, _, rfl, hcut, List.cons_ne_nil _ _⟩⟩
  · obtain rfl : part = [] := (List.append_eq_nil_iff.mp hpart).1
    exact ⟨[], by simpa using hwire, .inl rfl⟩
  · have hcut : part ++ left = Framing.encode frame := by
      simpa [WriterStage.left, WriterExit.left, WriterStage.taken, WriterExit.command,
        StreamCommand.frame?] using hpart
    exact ⟨part, by simpa using hwire,
      .inr ⟨frame, id, left, rfl, hcut, hshort stage frame id left cause rfl⟩⟩

/-- Every frame on the stream fits the limit, since all of them were taken from the queue. -/
private theorem fits_landed {frame : WireFrame} (hw : frame ∈ s.landed) : frame.Fits limit := by
  rw [landed] at hw
  obtain hwritten | hw := List.mem_append.mp hw
  · obtain ⟨⟨_, id⟩, hmem, rfl⟩ := List.mem_map.mp hwritten
    refine h.fits _ id (.inl ?_)
    rw [h.order]
    exact List.mem_append_left _ (List.mem_map.mpr ⟨_, hmem, rfl⟩)
  · split at hw
    next other id hwriter =>
      obtain rfl := List.mem_singleton.mp hw
      exact h.fits_taken id (by rw [hwriter]; exact List.mem_cons_self)
    next => cases hw

/-- Whoever reads the stream to its end finds just the frames that landed. -/
private theorem exists_readings {reader : Nat} (hle : limit ≤ reader) (hlt : reader < 2 ^ 32) :
    ∃ last : StreamEnd.Reading, (∀ frame, last ≠ .frame frame) ∧ ∀ later,
      (StreamEnd.readings (s.landed.length + (1 + later)) (.complete reader s.wire)).1 =
        s.landed.map .frame ++ last :: List.replicate later .ended := by
  obtain ⟨rest, hwire, hpart⟩ := h.exists_wire
  have hrest : Framing.read reader rest false = .pending := by
    obtain rfl | ⟨frame, id, left, htaken, hcut, hleft⟩ := hpart
    · rfl
    · have hfits : frame.Fits limit := h.fits_taken id (by rw [htaken]; simp)
      exact Framing.read_of_append_eq_encode hlt (hfits.trans hle) hcut hleft
  obtain ⟨last, hshort, hlong, hlast⟩ := StreamEnd.exists_last_of_cut hrest
  refine ⟨last, fun frame hframe => ?_, fun later => ?_⟩
  · rcases Nat.lt_or_ge 3 rest.length with hlt | hle
    · obtain ⟨what, hwhat⟩ := hlong hlt
      cases hwhat.symm.trans hframe
    · cases (hshort hle).symm.trans hframe
  · have hfits : ∀ frame ∈ s.landed, frame.Fits reader :=
      fun frame hmem => (h.fits_landed hmem).trans hle
    rw [hwire, StreamEnd.readings_complete_written hlt hfits, hlast]

/-! ### What the reader is told -/

/-- A reader that has not reached its end finds that the writer ended, and why. -/
theorem next_of_ended {stage : EndStage} {exit : WriterExit}
    (hwriter : s.writer = .ending stage exit) (hended : s.writer.hasEnded = true)
    (hdone : s.shared.done = false) :
    s.shared.next.1 = (match exit.cause? with
      | some cause => .failed cause
      | none => .ended) ∧ (s.act .ask).shared.done = true := by
  obtain ⟨hexit, hfailure⟩ := h.signs hdone
  rw [hended] at hexit
  rw [hwriter, WriterStage.cause?] at hfailure
  have hask : (s.act .ask).shared = s.shared.next.2 := by
    simp [LiveEnd.act, LiveEnd.ask, hexit]
  have hnext : s.shared.next = (match exit.cause? with
      | some cause => .failed cause
      | none => .ended, { s.shared with done := true, writerExit := false, failure := none }) := by
    rw [StreamEnd.next, if_neg (by simp [hdone]), if_pos hexit, hfailure]
    cases exit.cause? <;> rfl
  rw [hask, hnext]
  exact ⟨rfl, rfl⟩

end Kept

end LiveEnd

/-! ### The work of the writer -/

/-- How much a writer has to do with a command. -/
def StreamCommand.work : StreamCommand → Nat
  | write frame _ => (Framing.encode frame).length + 7
  | shutdown => 6

/-- How much a writer has to do to end. -/
def EndStage.work : EndStage → Nat
  | leaving => 5
  | dead => 4
  | deaf => 3
  | ended => 2
  | gone => 0

/-- How much a writer has still to do with the command that it took. -/
def WriterStage.work : WriterStage → Nat
  | waiting => 0
  | writing _ _ left => left.length + 6
  | ending stage _ => stage.work

namespace LiveEnd

/-- How much the writer has to do. -/
def work (s : LiveEnd) : Nat :=
  s.writer.work + (s.shared.commands.toList.map StreamCommand.work).sum

/-- Whatever the writer does takes it closer to its end. -/
private theorem work_act (s : LiveEnd) {action : Action} (ha : action.isWriters = true) :
    s.act action = s ∨ (s.act action).work < s.work := by
  obtain ⟨shared, writer, sending, hangingUp, looking, writes, queued, written, dropped, wire⟩ := s
  cases writer with
  | waiting =>
    cases action with
    | take =>
      cases hpop : shared.commands.pop? with
      | none =>
        left
        rw [act, take, hpop]
      | some taken =>
        obtain ⟨command, commands⟩ := taken
        right
        rw [act, take, hpop, work, work, Queue.toList_of_pop? hpop]
        cases command <;>
          simp [WriterStage.ofCommand, WriterStage.work, StreamCommand.work, EndStage.work]
    | put | complete | fail | advance => exact .inl rfl
    | _ => cases ha
  | writing frame id left =>
    cases action with
    | put count =>
      -- writing nothing, or nothing more, is no step
      rcases left with _ | ⟨byte, left⟩
      · left
        simp [act, put]
      · cases count with
        | zero =>
          left
          simp [act, put]
        | succ count =>
          right
          have hlength := (List.drop_sublist count left).length_le
          simp only [act, put, work, WriterStage.work, List.drop_succ_cons, List.length_cons]
          omega
    | complete =>
      rcases left with _ | ⟨byte, left⟩
      · right
        simp [act, complete, work, WriterStage.work]
      · exact .inl rfl
    | fail cause =>
      rcases left with _ | ⟨byte, left⟩
      · exact .inl rfl
      · right
        simp [act, fail, work, WriterStage.work, EndStage.work]
    | take | advance => exact .inl rfl
    | _ => cases ha
  | ending stage exit =>
    cases action with
    | advance =>
      cases stage with
      | gone => exact .inl rfl
      | leaving | dead | deaf | ended =>
        right
        simp [act, advance, work, WriterStage.work, EndStage.work]
    | take | put | complete | fail => exact .inl rfl
    | _ => cases ha

/-- A writer that is not idle can do something. -/
private theorem exists_act {s : LiveEnd} (hs : ¬ s.Idle) :
    ∃ action : Action, action.isWriters = true ∧ s.act action ≠ s := by
  obtain ⟨shared, writer, sending, hangingUp, looking, writes, queued, written, dropped, wire⟩ := s
  cases writer with
  | waiting =>
    refine ⟨.take, rfl, fun h => ?_⟩
    cases hpop : shared.commands.pop? with
    | none => exact hs (.inl ⟨rfl, Queue.toList_of_pop?_none hpop⟩)
    | some taken =>
      obtain ⟨command, commands⟩ := taken
      rw [act, take, hpop] at h
      have hwriter := congrArg writer h
      cases command <;> cases hwriter
  | writing frame id left =>
    rcases left with _ | ⟨byte, left⟩
    · exact ⟨.complete, rfl, fun h => by cases congrArg writer h⟩
    · exact ⟨.put 1, rfl, fun h => by simpa [act, put] using congrArg writer h⟩
  | ending stage exit =>
    refine ⟨.advance, rfl, fun h => ?_⟩
    cases stage with
    | gone => exact hs (.inr rfl)
    | leaving | dead | deaf | ended => cases congrArg writer h

/-! ### Without interruption -/

/-- If nobody comes between them, the actions of a call, of the writer carrying out a command or of
a reading are together what is said of an end at which all of this happens at once. -/
structure Uninterrupted (s : LiveEnd) : Prop where
  /-- A call to send. -/
  sends (frame : WireFrame) :
    (s.beginSend frame).1.map (fun _ => ()) = (s.shared.send frame s.writes.next).1 ∧
      ((s.act (.beginSend frame)).act (.endSend frame s.writes.next)).shared =
        (s.shared.send frame s.writes.next).2
  /-- A call to hang up. Nothing is queued for a writer that does not listen. -/
  hangsUp : s.hangingUp = false → ((s.act .beginHangUp).act .endHangUp).shared =
    if s.writer.listens then s.shared.disconnect
    else { s.shared.disconnect with commands := s.shared.commands }
  /-- The writer carrying out a command. -/
  writes (fate : Option TransportError) (step : StreamEnd.WriterStep) : s.writer = .waiting →
    s.shared.writerStep? fate = some step →
      ∃ actions : List Action, (∀ action ∈ actions, action.isWriters = true) ∧
        let s' := s.follow actions
        s'.shared = step.after ∧ s'.wire = s.wire ++ step.written ∧
          s'.writes = s.writes.settleAll step.settled ∧
            (s'.writer = .waiting ∨ s'.writer.isGone = true)
  /-- A writer that waits has something to carry out just if a command is queued, whatever fate a
  write would meet. -/
  works (fate : Option TransportError) : s.writer = .waiting →
    ((s.shared.writerStep? fate).isSome ↔ s.shared.commands.toList ≠ [])
  /-- The writer having nothing to carry out. -/
  rests (fate : Option TransportError) : s.Idle → s.shared.writerStep? fate = none
  /-- A reading. -/
  reads : ((s.act .ask).act .look).shared = s.shared.next.2

/-- The writer of a connected end is alive, and a living writer listens to its queue. -/
private theorem isConnected_imp_listens {limit : Nat} {s : LiveEnd} (h : Kept limit s)
    (hc : s.shared.isConnected = true) : s.writer.listens = true := by
  refine WriterStage.listens_of_isAlive ?_
  rw [← h.alive]
  exact (Bool.and_eq_true_iff.mp hc).2

/-- A call to send whose two actions follow on each other is `StreamEnd.send`: the refusals are the
same, and so is what both share afterwards. -/
private theorem act_send {limit : Nat} {s : LiveEnd} (h : Kept limit s) (frame : WireFrame) :
    (s.beginSend frame).1.map (fun _ => ()) = (s.shared.send frame s.writes.next).1 ∧
      ((s.act (.beginSend frame)).act (.endSend frame s.writes.next)).shared =
        (s.shared.send frame s.writes.next).2 := by
  cases hr : s.shared.refusal? frame with
  | some cause =>
    have hbegin : s.beginSend frame = (.error cause, s) := by rw [beginSend, hr]
    have hnew : (frame, s.writes.next) ∉ s.sending := fun hmem =>
      Nat.lt_irrefl _ (h.begun _ (List.mem_append_right _ (List.mem_map_of_mem hmem)))
    rw [act, act, hbegin, if_neg hnew, StreamEnd.send, hr]
    exact ⟨rfl, rfl⟩
  | none =>
    have hlistens := isConnected_imp_listens h (StreamEnd.refusal?_eq_none hr).1
    have hbegin : s.beginSend frame = (.ok s.writes.next, { s with
        writes := s.writes.create.2, sending := (frame, s.writes.next) :: s.sending }) := by
      rw [beginSend, hr]
      rfl
    have hact : s.act (.beginSend frame) = (s.beginSend frame).2 := rfl
    rw [hact, hbegin, StreamEnd.send, hr]
    refine ⟨rfl, (congrArg shared (if_pos List.mem_cons_self)).trans ?_⟩
    rw [endSend, if_pos hlistens]
    rfl

/-- A call to hang up whose two actions follow on each other is `StreamEnd.disconnect`, but that
nothing is queued for a writer that does not listen any more. -/
private theorem act_hangUp {s : LiveEnd} (hh : s.hangingUp = false) :
    ((s.act .beginHangUp).act .endHangUp).shared =
      if s.writer.listens then s.shared.disconnect
      else { s.shared.disconnect with commands := s.shared.commands } := by
  have hend (s : LiveEnd) (hs : s.hangingUp = true) : (s.act .endHangUp).shared =
      if s.writer.listens then { s.shared with commands := s.shared.commands.push .shutdown }
      else s.shared := by
    rw [act, if_pos hs, endHangUp]
    split <;> rfl
  cases hclosing : s.shared.closing with
  | true =>
    have hbegin : s.act .beginHangUp = s := by rw [act, beginHangUp, if_pos hclosing]
    rw [hbegin, act, hh, StreamEnd.disconnect, if_pos hclosing]
    exact (ite_self _).symm
  | false =>
    have hbegin : s.act .beginHangUp =
        { s with shared := { s.shared with closing := true }, hangingUp := true } := by
      rw [act, beginHangUp, hclosing]
      rfl
    rw [hbegin, hend _ rfl, StreamEnd.disconnect, hclosing]
    rfl

/-- A reading whose two actions follow on each other is `StreamEnd.next`. The reader asks for the
end first and looks at the stream afterwards. -/
private theorem act_read (s : LiveEnd) : ((s.act .ask).act .look).shared = s.shared.next.2 := by
  rw [act, ask]
  split
  next hends => rfl
  next hends =>
    rw [StreamEnd.next_eq_scan (Bool.eq_false_iff.mpr hends)]
    rfl

section Commands

variable {s : LiveEnd} {frame : WireFrame} {id : WriteId} {commands : Queue StreamCommand}

/-- A waiting writer takes the command in front of the queue. -/
private theorem take_eq {command : StreamCommand} (hwriter : s.writer = .waiting)
    (hpop : s.shared.commands.pop? = some (command, commands)) :
    s.take = { s with
      shared := { s.shared with commands }
      writer := .ofCommand command } := by
  rw [take, hwriter, hpop]

/-- What a writer does that is about to end. -/
def leave : List Action := [.advance, .advance, .advance, .advance]

/-- A writer that is about to end closes its queue, gives up what was left there, and is gone. This
takes four actions. -/
private theorem follow_leave (exit : WriterExit) (hw : s.writer = .ending .leaving exit) :
    s.follow leave = { s with
      shared := { s.shared with writerAlive := false, commands := .empty, writerExit := true }
      writer := .ending .gone exit
      writes := s.writes.settleAll (s.shared.commands.toList.flatMap StreamCommand.abandoned)
      dropped := s.shared.commands.toList } := by
  obtain ⟨shared, writer, sending, hangingUp, looking, writes, queued, written, dropped, wire⟩ := s
  obtain rfl : writer = _ := hw
  rfl

/-- A writer that is told to end does so. -/
private theorem follow_told (hwriter : s.writer = .waiting)
    (hpop : s.shared.commands.pop? = some (.shutdown, commands)) :
    s.follow (.take :: leave) = { s with
      shared := { s.shared with writerAlive := false, commands := .empty, writerExit := true }
      writer := .ending .gone .told
      writes := s.writes.settleAll (commands.toList.flatMap StreamCommand.abandoned)
      dropped := commands.toList } := by
  have htake := take_eq hwriter hpop
  have hall : s.follow (.take :: leave) = s.take.follow leave := rfl
  rw [hall, follow_leave .told (by rw [htake]; rfl), htake]

/-- A writer writes a frame as a whole. -/
private theorem follow_written (hwriter : s.writer = .waiting)
    (hpop : s.shared.commands.pop? = some (.write frame id, commands)) :
    s.follow [.take, .put (Framing.encode frame).length, .complete] = { s with
      shared := { s.shared with commands }
      writer := .waiting
      writes := s.writes.settle id (.ok ())
      written := s.written ++ [(frame, id)]
      wire := s.wire ++ Framing.encode frame } := by
  have hput : s.take.put (Framing.encode frame).length = { s with
      shared := { s.shared with commands }
      writer := .writing frame id []
      wire := s.wire ++ Framing.encode frame } := by
    simp [take_eq hwriter hpop, put, WriterStage.ofCommand]
  exact congrArg complete hput

/-- A writer that cannot write a frame at all ends. -/
private theorem follow_failed (hwriter : s.writer = .waiting)
    (hpop : s.shared.commands.pop? = some (.write frame id, commands)) (cause : TransportError) :
    s.follow (.take :: .fail cause :: leave) = { s with
      shared := { s.shared with
        writerAlive := false, commands := .empty, failure := some cause, writerExit := true }
      writer := .ending .gone (.failed frame id (Framing.encode frame) cause)
      writes := (s.writes.settle id (.error cause)).settleAll
        (commands.toList.flatMap StreamCommand.abandoned)
      dropped := commands.toList } := by
  obtain ⟨byte, left, hframe⟩ : ∃ byte left, Framing.encode frame = byte :: left := by
    refine List.exists_cons_of_ne_nil fun hnil => ?_
    have hlength := Framing.length_encode frame
    rw [hnil, List.length_nil] at hlength
    omega
  have hfail : s.take.fail cause = { s with
      shared := { s.shared with commands, failure := some cause }
      writer := .ending .leaving (.failed frame id (Framing.encode frame) cause)
      writes := s.writes.settle id (.error cause) } := by
    rw [take_eq hwriter hpop, fail]
    simp only [WriterStage.ofCommand, hframe]
  have hall : s.follow (.take :: .fail cause :: leave) = (s.take.fail cause).follow leave := rfl
  rw [hall, follow_leave _ (by rw [hfail]), hfail]

end Commands

/-- Each step of the writer at an end without interruptions is a run of actions of the writer, which
leaves the same shared state, puts the same bytes onto the stream and settles the same writes. -/
private theorem exists_follow_writerStep {limit : Nat} {s : LiveEnd} (h : Kept limit s)
    {fate : Option TransportError} {step : StreamEnd.WriterStep} (hwriter : s.writer = .waiting)
    (hstep : s.shared.writerStep? fate = some step) :
    ∃ actions : List Action, (∀ action ∈ actions, action.isWriters = true) ∧
      let s' := s.follow actions
      s'.shared = step.after ∧ s'.wire = s.wire ++ step.written ∧
        s'.writes = s.writes.settleAll step.settled ∧
          (s'.writer = .waiting ∨ s'.writer.isGone = true) := by
  have halive : s.shared.writerAlive = true := by rw [h.alive, hwriter]; rfl
  have hunfailed : s.shared.failure = none := h.unfailed (by rw [hwriter]; rfl)
  cases hpop : s.shared.commands.pop? with
  | none =>
    simp only [StreamEnd.writerStep?, halive, hpop] at hstep
    cases hstep
  | some taken =>
    obtain ⟨command, commands⟩ := taken
    simp only [StreamEnd.writerStep?, halive, hpop] at hstep
    cases command with
    | shutdown =>
      obtain rfl : s.shared.endWriter none commands [] = step := Option.some.inj hstep
      refine ⟨.take :: leave, by decide, ?_⟩
      rw [follow_told hwriter hpop]
      exact ⟨by simp [StreamEnd.endWriter, hunfailed], (List.append_nil _).symm, rfl, .inr rfl⟩
    | write frame id =>
      -- a write that succeeds is one piece and its completion; one that fails puts nothing down
      cases fate with
      | none =>
        obtain rfl := Option.some.inj hstep
        refine ⟨[.take, .put (Framing.encode frame).length, .complete],
          by simp [Action.isWriters], ?_⟩
        rw [follow_written hwriter hpop]
        exact ⟨by simp [halive], rfl, rfl, .inl rfl⟩
      | some cause =>
        obtain rfl := Option.some.inj hstep
        refine ⟨.take :: .fail cause :: leave, by simp [Action.isWriters, leave], ?_⟩
        rw [follow_failed hwriter hpop]
        exact ⟨rfl, (List.append_nil _).symm, rfl, .inr rfl⟩

/-- A writer that waits has a step to take just if something is queued, whatever becomes of it. -/
private theorem isSome_writerStep?_iff {limit : Nat} {s : LiveEnd} (h : Kept limit s)
    (hwriter : s.writer = .waiting) (fate : Option TransportError) :
    (s.shared.writerStep? fate).isSome ↔ s.shared.commands.toList ≠ [] := by
  have halive : s.shared.writerAlive = true := by rw [h.alive, hwriter]; rfl
  cases hpop : s.shared.commands.pop? with
  | none =>
    have hnone : s.shared.writerStep? fate = none := by
      simp [StreamEnd.writerStep?, hpop]
    rw [hnone, Queue.toList_of_pop?_none hpop]
    simp
  | some taken =>
    obtain ⟨command, commands⟩ := taken
    have hsome : (s.shared.writerStep? fate).isSome = true := by
      simp only [StreamEnd.writerStep?, halive, hpop]
      cases command <;> cases fate <;> rfl
    exact iff_of_true hsome (by simp [Queue.toList_of_pop? hpop])

/-- An idle writer has no step to take: nothing is queued, or it is not alive any more. -/
private theorem writerStep?_of_idle {limit : Nat} {s : LiveEnd} (h : Kept limit s) (hidle : s.Idle)
    (fate : Option TransportError) : s.shared.writerStep? fate = none := by
  obtain ⟨-, hcommands⟩ | hgone := hidle
  · cases hpop : s.shared.commands.pop? with
    | none => simp [StreamEnd.writerStep?, hpop]
    | some taken =>
      rw [Queue.toList_of_pop? hpop] at hcommands
      cases hcommands
  · have hdead : s.shared.writerAlive = false := by
      rw [h.alive]
      exact WriterStage.isAlive_of_isGone hgone
    simp [StreamEnd.writerStep?, hdead]

/-- Whatever holds throughout a run is enough for every call and every command to come to what
`StreamEnd` says, as long as nobody comes in between. -/
theorem uninterrupted {limit : Nat} {s : LiveEnd} (h : Kept limit s) : s.Uninterrupted where
  sends := act_send h
  hangsUp := act_hangUp
  writes _ _ := exists_follow_writerStep h
  works fate hwriter := isSome_writerStep?_iff h hwriter fate
  rests fate hidle := writerStep?_of_idle h hidle fate
  reads := act_read s

/-! ### Every run -/

/-- An end of a stream with this limit keeps order and accounts for every write, whatever its
callers, its writer and its reader do and however they come between each other. -/
structure Accountable (limit : Nat) : Prop where
  /-- Queued is what the calls brought that went well, in their order. No two writes have one
  handle. -/
  accepts (actions : List Action) :
    let s := (fresh limit).follow actions
    s.queued = (fresh limit).submitted actions ∧ (s.queued.filterMap StreamCommand.id?).Nodup
  /-- Commands are carried out in the order in which they were queued: first the writes that were
  completed, then the command that the writer is at or ended with, then what was given up or is
  still queued. Nothing is given up before the writer is gone, and nothing is left afterwards. -/
  order (actions : List Action) :
    let s := (fresh limit).follow actions
    s.queued = s.written.map (fun write => .write write.1 write.2) ++
        (s.writer.taken ++ (s.dropped ++ s.shared.commands.toList)) ∧
      (s.writer.isGone = false → s.dropped = []) ∧
      (s.writer.isGone = true → s.shared.commands.toList = [])
  /-- The stream holds the frames of these writes, and that of the last one once all of it is there,
  and behind them at most a part of another one. -/
  wire (actions : List Action) :
    let s := (fresh limit).follow actions
    ∃ part, s.wire = Framing.written s.landed ++ part ∧
      (part = [] ∨ ∃ frame id left, s.writer.taken = [.write frame id] ∧
        part ++ left = Framing.encode frame ∧ left ≠ [])
  /-- So whoever reads the stream finds these frames and no others. -/
  stream (actions : List Action) (reader : Nat) : limit ≤ reader → reader < 2 ^ 32 →
    let s := (fresh limit).follow actions
    ∃ last : StreamEnd.Reading, (∀ frame, last ≠ .frame frame) ∧ ∀ later,
      (StreamEnd.readings (s.landed.length + (1 + later)) (.complete reader s.wire)).1 =
        s.landed.map .frame ++ last :: List.replicate later .ended
  /-- A write that was completed succeeded. -/
  succeeds (actions : List Action) (frame : WireFrame) (id : WriteId) :
    let s := (fresh limit).follow actions
    (frame, id) ∈ s.written → s.writes.outcome? id = some (.ok ())
  /-- The one that failed has its cause, and was not all on the stream. -/
  fails (actions : List Action) (stage : EndStage) (frame : WireFrame) (id : WriteId) (left : Bytes)
    (cause : TransportError) :
    let s := (fresh limit).follow actions
    s.writer = .ending stage (.failed frame id left cause) →
      s.writes.outcome? id = some (.error cause) ∧ left ≠ []
  /-- What was given up has no writer any more. -/
  abandons (actions : List Action) (frame : WireFrame) (id : WriteId) :
    let s := (fresh limit).follow actions
    .write frame id ∈ s.dropped → s.writes.outcome? id = some (.error .writerGone)
  /-- No other write has an outcome. -/
  waits (actions : List Action) (frame : WireFrame) (id : WriteId) :
    let s := (fresh limit).follow actions
    (∃ left, s.writer = .writing frame id left) ∨ .write frame id ∈ s.shared.commands.toList →
      s.writes.outcome? id = none
  /-- Outcomes stay. -/
  stays (actions later : List Action) (id : WriteId) (result : WriteResult) :
    let s := (fresh limit).follow actions
    s.writes.outcome? id = some result → (s.follow later).writes.outcome? id = some result
  /-- The writer comes to an end with its work, and then every write has its outcome. -/
  resolves (actions : List Action) :
    let s := (fresh limit).follow actions
    (∀ action : Action, action.isWriters = true →
        s.act action = s ∨ (s.act action).work < s.work) ∧
      (¬ s.Idle → ∃ action : Action, action.isWriters = true ∧ s.act action ≠ s) ∧
      (s.Idle → ∀ frame id, .write frame id ∈ s.queued →
        ∃ result, s.writes.outcome? id = some result)
  /-- Whoever is asked to send after a call to hang up, or after the writer is dead, refuses. -/
  refuses (actions later : List Action) (frame : WireFrame) :
    let s := (fresh limit).follow actions
    let s' := s.follow later
    s.shared.closing = true ∨ s.writer.isAlive = false →
      s'.beginSend frame = (.error .connectionClosed, s')
  /-- A frame that was taken before is refused if nothing can be queued any more. -/
  refusesLate (actions : List Action) (frame : WireFrame) (id : WriteId) :
    let s := (fresh limit).follow actions
    s.writer.listens = false → (s.endSend frame id).1 = .error .connectionClosed ∧
      (s.endSend frame id).2 = { s with sending := s.sending.erase (frame, id) }
  /-- A frame that is too large is refused, and nothing changes. -/
  refusesOversized (actions : List Action) (frame : WireFrame) :
    let s := (fresh limit).follow actions
    s.shared.isConnected = true → ¬ frame.Fits limit → s.beginSend frame =
      (.error (.frameTooLarge (Settings.wireHeaderSize + frame.payload.length) limit), s)
  /-- Whoever hangs up again changes nothing. -/
  hangsUpOnce (actions later : List Action) :
    let s := ((fresh limit).follow actions).act .beginHangUp
    s.shared.closing = true ∧ (s.follow later).act .beginHangUp = s.follow later
  /-- A reader that has not reached its end when the writer has ended finds the failure of the
  writer, or the end if there was none, and reaches its end with that. -/
  tells (actions : List Action) (stage : EndStage) (exit : WriterExit) :
    let s := (fresh limit).follow actions
    s.writer = .ending stage exit → s.writer.hasEnded = true → s.shared.done = false →
      s.shared.next.1 = (match exit.cause? with
        | some cause => .failed cause
        | none => .ended) ∧ (s.act .ask).shared.done = true
  /-- From then on it finds nothing but the end. -/
  silence (actions later : List Action) :
    let s := (fresh limit).follow actions
    s.shared.done = true →
      (s.follow later).shared.next = (.ended, (s.follow later).shared)
  /-- What happens without interruption is what is said of an end at which it happens at once. -/
  uninterrupted (actions : List Action) : ((fresh limit).follow actions).Uninterrupted

/-- After a call to hang up began, the end is closing, whether or not it was before. -/
private theorem closing_beginHangUp (s : LiveEnd) : (s.act .beginHangUp).shared.closing = true := by
  rw [act, beginHangUp]
  split
  next hclosing => exact hclosing
  next => rfl

/-- The writer of a stream connection keeps order and accounts for every write. -/
theorem accountable (limit : Nat) : Accountable limit where
  accepts actions := ⟨queued_follow (fresh limit) actions,
    (List.nodup_append'.mp (kept_follow limit actions).nodup).1⟩
  order actions := ⟨(kept_follow limit actions).order, (kept_follow limit actions).dropped,
    (kept_follow limit actions).gone⟩
  wire actions := (kept_follow limit actions).exists_wire
  stream actions reader hle hlt := (kept_follow limit actions).exists_readings hle hlt
  succeeds actions frame id hw := (kept_follow limit actions).succeeded hw
  fails actions stage frame id left cause hw :=
    ⟨(kept_follow limit actions).failed hw,
      (kept_follow limit actions).short stage frame id left cause hw⟩
  abandons actions frame id hw := (kept_follow limit actions).abandoned hw
  waits actions frame id hw := (kept_follow limit actions).undecided hw
  stays actions later id result h := (onward_follow _ later).outcome id result h
  resolves actions := ⟨fun action ha => work_act _ ha, exists_act,
    fun hidle frame id hw => (kept_follow limit actions).decided hidle hw⟩
  refuses actions later frame hover := by
    have hkept := kept_follow limit actions
    have honward := (onward_follow ((fresh limit).follow actions) later).shared
    rw [← hkept.alive] at hover
    have hover' := hover.imp honward.closing honward.dead
    rw [beginSend, StreamEnd.refusal?_of_over hover']
  refusesLate actions frame id hl := by
    rw [endSend, hl]
    exact ⟨rfl, rfl⟩
  refusesOversized actions frame hc hf := by
    have hkept := kept_follow limit actions
    rw [← hkept.limited] at hf
    rw [beginSend, StreamEnd.refusal?_of_oversized hc hf, hkept.limited]
  hangsUpOnce actions later := by
    have hclosing := closing_beginHangUp ((fresh limit).follow actions)
    exact ⟨hclosing, if_pos ((onward_follow _ later).shared.closing hclosing)⟩
  tells actions stage exit hw hended hdone :=
    (kept_follow limit actions).next_of_ended hw hended hdone
  silence actions later hdone := StreamEnd.next_of_done ((onward_follow _ later).shared.done hdone)
  uninterrupted actions := LiveEnd.uninterrupted (kept_follow limit actions)

/-- A frame is written while the next ones are sent. Writing the second one fails after two bytes,
and the third one, which was taken before the end hung up and queued afterwards, is given up. -/
example :
    let frame : WireFrame := ⟨{}, [7]⟩
    let s := (fresh 16).follow ([.beginSend frame, .endSend frame 0, .take, .beginSend frame,
      .put 4, .beginSend frame, .beginHangUp, .endSend frame 1, .put 6, .complete, .endHangUp,
      .endSend frame 2, .take, .put 2, .fail (.io "broken pipe")] ++ leave ++ [.ask])
    s.writes.outcomes = [(2, .error .writerGone), (1, .error (.io "broken pipe")), (0, .ok ())] ∧
      s.wire = [0, 0, 0, 6, 255, 255, 255, 255, 3, 7, 0, 0] ∧ s.landed = [frame] ∧
        s.shared.done = true := by
  decide

end LiveEnd

end PacketSession
