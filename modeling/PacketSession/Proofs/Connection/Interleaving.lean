import Mathlib.Data.List.Nodup
import PacketSession.Proofs.Connection.Framing

/-!
# An end of a stream whose parties come between each other

`StreamEnd` takes calls, commands and readings one at a time. In truth the callers, the writer and
the reader of an end run side by side. A call to send finds the end connected and queues its frame
later; a call to hang up is noticed before its command is queued; a frame goes onto the stream in
pieces; a writer that ends does so in several steps; and a reader may be past the point where it
would have noticed.

A `LiveEnd` is an end in the midst of this, together with what was queued, written and given up so
far. In an `Action` one of the parties does what nobody can come between, and any actions one after
the other are a run. What a run keeps up is `LiveEnd.Kept`: every command that was queued was
carried out, is being carried out, was given up or is still queued, in this order, and the outcomes
of writes and the signals to the reader say so.
-/

namespace PacketSession

/-! ### Commands and outcomes -/

namespace StreamCommand

/-- The number of the write that a command completes, if it is one. -/
def id? : StreamCommand → Option WriteId
  | write _ id => some id
  | shutdown => none

/-- The frame that a command writes, if it does. -/
def frame? : StreamCommand → Option WireFrame
  | write frame _ => some frame
  | shutdown => none

end StreamCommand

/-! ### Live ends -/

/-- Why a writer ended. -/
inductive WriterExit
  /-- It was told to. -/
  | told
  /-- It could not write a frame, of which some bytes were left. -/
  | failed (frame : WireFrame) (id : WriteId) (left : Bytes) (cause : TransportError)

/-- How far a writer has come that ends. -/
inductive EndStage
  /-- It will carry out no more commands. -/
  | leaving
  /-- Frames are not taken for it any more. -/
  | dead
  /-- Nothing can be queued for it any more. -/
  | deaf
  /-- It has told the reader. -/
  | ended
  /-- It has given up all that was still queued. -/
  | gone
deriving DecidableEq

/-- What a writer is at. -/
inductive WriterStage
  /-- It waits for a command. -/
  | waiting
  /-- It writes a frame, of which some bytes are left. -/
  | writing (frame : WireFrame) (id : WriteId) (left : Bytes)
  /-- It ends. -/
  | ending (stage : EndStage) (exit : WriterExit)

/-- An end of a stream connection at which callers, the writer and the reader are under way, and
what they have done so far. -/
structure LiveEnd where
  /-- What all of them share. -/
  shared : StreamEnd
  /-- What the writer is at. -/
  writer : WriterStage
  /-- The frames of calls to send that found the end connected and have queued nothing yet. -/
  sending : List (WireFrame × WriteId)
  /-- Whether a call to hang up has queued nothing yet. -/
  hangingUp : Bool
  /-- Whether the reader found no sign of the writer and has not looked at the stream yet. -/
  looking : Bool
  /-- The outcomes of writes. -/
  writes : WriteTable
  /-- Every command that was queued, in order. -/
  queued : List StreamCommand
  /-- The frames that were written, in order, and the numbers of their writes. -/
  written : List (WireFrame × WriteId)
  /-- The commands that were given up, in order. -/
  dropped : List StreamCommand
  /-- The bytes that were put onto the stream. -/
  wire : Bytes

namespace WriterExit

/-- The command that a writer ended with. -/
def command : WriterExit → StreamCommand
  | told => .shutdown
  | failed frame id _ _ => .write frame id

/-- The bytes that were left of its frame. -/
def left : WriterExit → Bytes
  | told => []
  | failed _ _ left _ => left

/-- The failure that it ended with, if it did. -/
def cause? : WriterExit → Option TransportError
  | told => none
  | failed _ _ _ cause => some cause

/-- The write that it could not complete, with its outcome. -/
def settled : WriterExit → List (WriteId × WriteResult)
  | told => []
  | failed _ id _ cause => [(id, .error cause)]

theorem ids_settled (exit : WriterExit) :
    exit.settled.map Prod.fst = [exit.command].filterMap StreamCommand.id? := by
  cases exit <;> rfl

end WriterExit

namespace WriterStage

/-- What a writer is at that has just taken a command. -/
def ofCommand : StreamCommand → WriterStage
  | .write frame id => writing frame id (Framing.encode frame)
  | .shutdown => ending .leaving .told

/-- The command that a writer took and has not carried out. -/
def taken : WriterStage → List StreamCommand
  | waiting => []
  | writing frame id _ => [.write frame id]
  | ending _ exit => [exit.command]

/-- The bytes that are left of the frame that it took. -/
def left : WriterStage → Bytes
  | waiting => []
  | writing _ _ left => left
  | ending _ exit => exit.left

/-- The write that it could not complete, with its outcome. -/
def settled : WriterStage → List (WriteId × WriteResult)
  | waiting | writing _ _ _ => []
  | ending _ exit => exit.settled

/-- The failure that it ended with, if it did. -/
def cause? : WriterStage → Option TransportError
  | waiting | writing _ _ _ => none
  | ending _ exit => exit.cause?

/-- Whether frames are still taken for it. -/
def isAlive : WriterStage → Bool
  | waiting | writing _ _ _ | ending .leaving _ => true
  | ending _ _ => false

/-- Whether commands can still be queued for it. -/
def listens : WriterStage → Bool
  | waiting | writing _ _ _ | ending .leaving _ | ending .dead _ => true
  | ending _ _ => false

/-- Whether it has told the reader that it ended. -/
def hasEnded : WriterStage → Bool
  | ending .ended _ | ending .gone _ => true
  | _ => false

/-- Whether it has given up what was still queued. -/
def isGone : WriterStage → Bool
  | ending .gone _ => true
  | _ => false

/-- What a writer has settled is what it took, as far as it has come with it. -/
theorem ids_settled_sublist (w : WriterStage) :
    (w.settled.map Prod.fst).Sublist (w.taken.filterMap StreamCommand.id?) := by
  cases w with
  | ending stage exit =>
    rw [settled, exit.ids_settled]
    exact .refl _
  | waiting | writing => exact List.nil_sublist _

private theorem isGone_of_listens : {w : WriterStage} → w.listens = true → w.isGone = false
  | waiting, _ | writing _ _ _, _ | ending .leaving _, _ | ending .dead _, _ => rfl

/-- A writer that is alive listens: it stops listening after it is marked as dead. -/
theorem listens_of_isAlive : {w : WriterStage} → w.isAlive = true → w.listens = true
  | waiting, _ | writing _ _ _, _ | ending .leaving _, _ => rfl

theorem isAlive_of_isGone : {w : WriterStage} → w.isGone = true → w.isAlive = false
  | ending .gone _, _ => rfl

end WriterStage

/-- What a reader finds on the stream, whatever has become of the writer. -/
def StreamEnd.scan (e : StreamEnd) : StreamEnd.Reading × StreamEnd :=
  match Framing.read e.limit e.input e.inputEnded with
  | .frame frame rest => (.frame frame, { e with input := rest })
  | .pending => (.pending, e)
  | .ended => (.ended, { e with done := true })
  | .failed cause => (.failed cause, { e with done := true })

namespace LiveEnd

/-- An end at which nothing happened yet. -/
def fresh (limit : Nat) : LiveEnd where
  shared := .fresh limit
  writer := .waiting
  sending := []
  hangingUp := false
  looking := false
  writes := .empty
  queued := []
  written := []
  dropped := []
  wire := []

variable (s : LiveEnd)

/-! ### What nobody comes between -/

/-- Queues a command. -/
def queue (command : StreamCommand) : LiveEnd :=
  { s with
    shared := { s.shared with commands := s.shared.commands.push command }
    queued := s.queued ++ [command] }

/-- A call to send finds out whether its frame is taken. -/
def beginSend (frame : WireFrame) : Except TransportError WriteId × LiveEnd :=
  match s.shared.refusal? frame with
  | some cause => (.error cause, s)
  | none =>
    let (id, writes) := s.writes.create
    (.ok id, { s with writes, sending := (frame, id) :: s.sending })

/-- A call to send queues its frame, if that is still possible. -/
def endSend (frame : WireFrame) (id : WriteId) : Except TransportError Unit × LiveEnd :=
  let called := { s with sending := s.sending.erase (frame, id) }
  if s.writer.listens then (.ok (), called.queue (.write frame id))
  else (.error .connectionClosed, called)

/-- A call to hang up is noticed; another one is not. -/
def beginHangUp : LiveEnd :=
  if s.shared.closing then s
  else { s with shared := { s.shared with closing := true }, hangingUp := true }

/-- A call to hang up queues its command, if that is still possible. -/
def endHangUp : LiveEnd :=
  let called := { s with hangingUp := false }
  if s.writer.listens then called.queue .shutdown else called

/-- The writer takes a command from the queue. -/
def take : LiveEnd :=
  match s.writer, s.shared.commands.pop? with
  | .waiting, some (command, commands) =>
    { s with
      shared := { s.shared with commands }
      writer := .ofCommand command }
  | _, _ => s

/-- The writer puts some more bytes of its frame onto the stream. -/
def put (count : Nat) : LiveEnd :=
  match s.writer with
  | .writing frame id left =>
    { s with writer := .writing frame id (left.drop count), wire := s.wire ++ left.take count }
  | _ => s

/-- The writer is done with its frame. -/
def complete : LiveEnd :=
  match s.writer with
  | .writing frame id [] =>
    { s with
      writer := .waiting
      writes := s.writes.settle id (.ok ())
      written := s.written ++ [(frame, id)] }
  | _ => s

/-- The writer cannot put the next byte onto the stream. It leaves a note for the reader, which
nobody looks for before the reader is told. -/
def fail (cause : TransportError) : LiveEnd :=
  match s.writer with
  | .writing frame id (byte :: left) =>
    { s with
      shared := { s.shared with failure := some cause }
      writer := .ending .leaving (.failed frame id (byte :: left) cause)
      writes := s.writes.settle id (.error cause) }
  | _ => s

/-- The writer goes on to end. -/
def advance : LiveEnd :=
  match s.writer with
  | .ending .leaving exit =>
    { s with shared := { s.shared with writerAlive := false }, writer := .ending .dead exit }
  | .ending .dead exit => { s with writer := .ending .deaf exit }
  | .ending .deaf exit =>
    { s with shared := { s.shared with writerExit := true }, writer := .ending .ended exit }
  | .ending .ended exit =>
    { s with
      shared := { s.shared with commands := .empty }
      writer := .ending .gone exit
      writes := s.writes.settleAll
        (s.shared.commands.toList.flatMap StreamCommand.abandoned)
      dropped := s.shared.commands.toList }
  | _ => s

/-- The reader looks for a sign of the writer, before it looks at the stream. -/
def ask : LiveEnd :=
  if s.shared.done || s.shared.writerExit then
    { s with shared := s.shared.next.2, looking := false }
  else { s with looking := true }

/-- The reader looks at the stream. -/
def look : LiveEnd :=
  if s.looking then { s with shared := s.shared.scan.2, looking := false } else s

/-- The reader cannot look at the stream. -/
def breakDown : LiveEnd :=
  if s.looking then { s with shared := { s.shared with done := true }, looking := false } else s

/-- What one of the parties does without anybody coming between. -/
inductive Action
  | beginSend (frame : WireFrame)
  | endSend (frame : WireFrame) (id : WriteId)
  | beginHangUp
  | endHangUp
  | take
  | put (count : Nat)
  | complete
  | fail (cause : TransportError)
  | advance
  | arrive (bytes : Bytes)
  | endInput
  | ask
  | look
  | breakDown

/-- Whether an action is one of the writer. -/
def Action.isWriters : Action → Bool
  | take | put _ | complete | fail _ | advance => true
  | _ => false

/-- Carries out an action; one that does not apply changes nothing. -/
def act : Action → LiveEnd
  | .beginSend frame => (s.beginSend frame).2
  | .endSend frame id => if (frame, id) ∈ s.sending then (s.endSend frame id).2 else s
  | .beginHangUp => s.beginHangUp
  | .endHangUp => if s.hangingUp then s.endHangUp else s
  | .take => s.take
  | .put count => s.put count
  | .complete => s.complete
  | .fail cause => s.fail cause
  | .advance => s.advance
  | .arrive bytes => { s with shared := s.shared.receive bytes }
  | .endInput => { s with shared := s.shared.endInput }
  | .ask => s.ask
  | .look => s.look
  | .breakDown => s.breakDown

/-- Carries out actions one after the other. -/
def follow (actions : List Action) : LiveEnd := actions.foldl act s

/-! ### What is kept up -/

/-- The writes that have their outcome, in the order of their commands. -/
def settled : List (WriteId × WriteResult) :=
  s.written.map (fun write => (write.2, .ok ())) ++ s.writer.settled ++
    s.dropped.flatMap StreamCommand.abandoned

/-- The numbers of the writes that were queued, and of those that are still to be queued. -/
def ids : List WriteId := s.queued.filterMap StreamCommand.id? ++ s.sending.map Prod.snd

/-- What callers, the writer and the reader keep up between them. -/
structure Kept (limit : Nat) (s : LiveEnd) : Prop where
  /-- Commands are carried out and given up in the order in which they were queued. -/
  order : s.queued = s.written.map (fun write => .write write.1 write.2) ++
    (s.writer.taken ++ (s.dropped ++ s.shared.commands.toList))
  /-- Nothing is given up before the writer is gone. -/
  dropped : s.writer.isGone = false → s.dropped = []
  /-- Nothing is queued for a writer that is gone. -/
  gone : s.writer.isGone = true → s.shared.commands.toList = []
  /-- All bytes on the stream are those of written frames, and of the one that is under way. -/
  wire : ∃ part, s.wire = Framing.written (s.written.map Prod.fst) ++ part ∧
    part ++ s.writer.left = Framing.written (s.writer.taken.filterMap StreamCommand.frame?)
  /-- A write fails before all of its frame is on the stream. -/
  short : ∀ stage frame id left cause,
    s.writer = .ending stage (.failed frame id left cause) → left ≠ []
  limited : s.shared.limit = limit
  /-- All frames that were taken are within the limit. -/
  fits : ∀ frame id, .write frame id ∈ s.queued ∨ (frame, id) ∈ s.sending → frame.Fits limit
  /-- No two writes have one number. -/
  nodup : s.ids.Nodup
  begun : ∀ id ∈ s.ids, id < s.writes.next
  outcome : ∀ id result, s.writes.outcome? id = some result ↔ (id, result) ∈ s.settled
  alive : s.shared.writerAlive = s.writer.isAlive
  /-- The reader learns nothing before the writer ended. -/
  unseen : s.writer.hasEnded = false → s.shared.writerExit = false
  unfailed : s.writer.cause? = none → s.shared.failure = none
  /-- Until the reader reaches its end, the signs of the writer are there for it. -/
  signs : s.shared.done = false →
    s.shared.writerExit = s.writer.hasEnded ∧ s.shared.failure = s.writer.cause?

end LiveEnd

namespace WriteTable

variable {t : WriteTable}

/-- Writes that wait get their outcomes, and all others keep them. -/
private theorem outcome?_settleAll {settled : List (WriteId × WriteResult)}
    (hnodup : (settled.map Prod.fst).Nodup)
    (hwait : ∀ id ∈ settled.map Prod.fst, id < t.next ∧ t.outcome? id = none) (id : WriteId)
    (result : WriteResult) :
    (t.settleAll settled).outcome? id = some result ↔
      (id, result) ∈ settled ∨ t.outcome? id = some result := by
  rw [outcome?_settleAll_eq, Option.or_eq_some_iff]
  by_cases hid : id ∈ settled.map Prod.fst
  · obtain ⟨hlt, hnone⟩ := hwait id hid
    rw [if_pos hlt, lookup_eq_some_iff_mem hnodup]
    simp [hnone]
  · have hnotin : (id, result) ∉ settled := fun hmem => hid (List.mem_map_of_mem hmem)
    split <;> simp [lookup_eq_some_iff_mem hnodup, hnotin]

end WriteTable

/-- A frame is taken only at a connected end, and only within the limit. -/
theorem StreamEnd.refusal?_eq_none {e : StreamEnd} {frame : WireFrame}
    (h : e.refusal? frame = none) : e.isConnected = true ∧ frame.Fits e.limit := by
  unfold refusal? at h
  split at h
  · cases h
  next hconnected =>
    dsimp only at h
    split at h
    · cases h
    next hfits => exact ⟨by simpa using hconnected, Nat.le_of_not_lt hfits⟩

namespace LiveEnd

variable {limit : Nat} {s : LiveEnd}

private theorem ids_written (written : List (WireFrame × WriteId)) :
    (written.map fun write => StreamCommand.write write.1 write.2).filterMap StreamCommand.id? =
      written.map Prod.snd := by
  rw [List.filterMap_map, ← List.filterMap_eq_map]
  rfl

/-- Giving up commands settles the writes among them, each once and in order. -/
private theorem ids_abandoned (commands : List StreamCommand) :
    (commands.flatMap StreamCommand.abandoned).map Prod.fst =
      commands.filterMap StreamCommand.id? := by
  induction commands with
  | nil => rfl
  | cons command commands ih =>
    rw [List.flatMap_cons, List.map_append, ih]
    cases command <;> rfl

theorem ids_settled (s : LiveEnd) : s.settled.map Prod.fst =
    s.written.map Prod.snd ++
      (s.writer.settled.map Prod.fst ++ s.dropped.filterMap StreamCommand.id?) := by
  rw [settled, List.map_append, List.map_append, ids_abandoned, List.map_map, List.append_assoc]
  rfl

theorem kept_fresh (limit : Nat) : Kept limit (fresh limit) where
  order := rfl
  dropped _ := rfl
  gone := nofun
  wire := ⟨[], rfl, rfl⟩
  short := nofun
  limited := rfl
  fits := by simp [fresh]
  nodup := .nil
  begun := by simp [fresh, ids]
  outcome := by simp [fresh, settled, WriterStage.settled, WriteTable.empty, WriteTable.outcome?]
  alive := rfl
  unseen _ := rfl
  unfailed _ := rfl
  signs _ := ⟨rfl, rfl⟩

namespace Kept

variable (h : Kept limit s)

include h

/-! #### Calls -/

/-- Beginning to send takes the next number, which no write has, for a frame within the limit. -/
theorem beginSend (frame : WireFrame) : Kept limit (s.beginSend frame).2 := by
  rw [LiveEnd.beginSend]
  split
  · exact h
  next hrefusal =>
    have hfits := (StreamEnd.refusal?_eq_none hrefusal).2
    rw [h.limited] at hfits
    have hids : ∀ id, id ∈ s.queued.filterMap StreamCommand.id? ++ s.writes.next ::
        s.sending.map Prod.snd ↔ id = s.writes.next ∨ id ∈ s.ids := by
      intro id
      simp only [ids, List.mem_append, List.mem_cons]
      exact or_left_comm
    refine { h with fits := ?_, nodup := ?_, begun := ?_ }
    · rintro other id (hmem | hmem)
      · exact h.fits other id (.inl hmem)
      · obtain heq | hmem := List.mem_cons.mp hmem
        · cases heq
          exact hfits
        · exact h.fits other id (.inr hmem)
    · -- the number was not used so far
      refine List.nodup_middle.mpr (List.nodup_cons.mpr ⟨fun hmem => ?_, h.nodup⟩)
      exact Nat.lt_irrefl _ (h.begun _ hmem)
    · intro id hmem
      obtain rfl | hmem := (hids id).mp hmem
      · exact Nat.lt_succ_self _
      · exact Nat.lt_succ_of_lt (h.begun id hmem)

/-- A command that is queued for a writer that listens stands behind all others. Its number, if it
has one, is a new one. -/
theorem queue {command : StreamCommand} (hl : s.writer.listens = true)
    (hfits : ∀ frame id, command = .write frame id → frame.Fits limit)
    (hid : ∀ id, command.id? = some id → id ∉ s.ids ∧ id < s.writes.next) :
    Kept limit (s.queue command) := by
  have hgone := WriterStage.isGone_of_listens hl
  have hids : (s.queue command).ids = s.queued.filterMap StreamCommand.id? ++
      (command.id?.toList ++ s.sending.map Prod.snd) := by
    rw [ids, LiveEnd.queue, List.filterMap_append, List.append_assoc]
    cases command <;> rfl
  refine { h with order := ?_, gone := ?_, fits := ?_, nodup := ?_, begun := ?_ }
  · simp only [LiveEnd.queue, Queue.toList_push, ← List.append_assoc]
    rw [h.order]
    simp only [List.append_assoc]
  · intro hg
    exact absurd hg (by simp [LiveEnd.queue, hgone])
  · rintro frame id (hmem | hmem)
    · obtain hmem | hmem := List.mem_append.mp hmem
      · exact h.fits frame id (.inl hmem)
      · exact hfits frame id (List.mem_singleton.mp hmem).symm
    · exact h.fits frame id (.inr hmem)
  · rw [hids]
    -- a write brings a new number with it, a shutdown none
    cases hc : command.id? with
    | none => exact h.nodup
    | some id => exact List.nodup_middle.mpr (List.nodup_cons.mpr ⟨(hid id hc).1, h.nodup⟩)
  · intro id hmem
    rw [hids] at hmem
    cases hc : command.id? with
    | none =>
      rw [hc] at hmem
      exact h.begun id hmem
    | some other =>
      rw [hc] at hmem
      simp only [Option.toList_some, List.mem_append, List.mem_cons, List.not_mem_nil,
        or_false] at hmem
      obtain hmem | rfl | hmem := hmem
      · exact h.begun id (List.mem_append_left _ hmem)
      · exact (hid id hc).2
      · exact h.begun id (List.mem_append_right _ hmem)

/-- A call that was to queue a frame is over. -/
theorem erase (entry : WireFrame × WriteId) :
    Kept limit { s with sending := s.sending.erase entry } := by
  have hsub : ((s.sending.erase entry).map Prod.snd).Sublist (s.sending.map Prod.snd) :=
    List.erase_sublist.map Prod.snd
  refine { h with fits := ?_, nodup := ?_, begun := ?_ }
  · exact fun frame id hmem => h.fits frame id (hmem.imp_right List.mem_of_mem_erase)
  · exact h.nodup.sublist (hsub.append_left _)
  · exact fun id hmem => h.begun id ((hsub.append_left _).subset hmem)

/-- A call to send ends by queueing its frame, or without that if the writer does not listen any
more; in both cases its number leaves the list of those under way. -/
theorem endSend {frame : WireFrame} {id : WriteId} (hmem : (frame, id) ∈ s.sending) :
    Kept limit (s.endSend frame id).2 := by
  have herase := h.erase (frame, id)
  rw [LiveEnd.endSend]
  split
  next hl =>
    refine herase.queue hl ?_ ?_
    · rintro _ _ ⟨⟩
      exact h.fits frame id (.inr hmem)
    · rintro _ ⟨⟩
      refine ⟨fun hid => ?_, h.begun id (List.mem_append_right _ (List.mem_map_of_mem hmem))⟩
      -- the number of the call is the only one of its kind
      have hperm := ((List.perm_cons_erase hmem).map Prod.snd).append_left
        (s.queued.filterMap StreamCommand.id?)
      have hnodup := hperm.nodup_iff.mp h.nodup
      exact (List.nodup_cons.mp (List.nodup_middle.mp hnodup)).1 hid
  next => exact herase

/-- A call to hang up ends by queueing a shutdown, if the writer listens. -/
theorem endHangUp : Kept limit s.endHangUp := by
  have hcalled : Kept limit { s with hangingUp := false } := { h with }
  rw [LiveEnd.endHangUp]
  split
  next hl => exact hcalled.queue hl nofun nofun
  next => exact hcalled

/-! #### The writer -/

/-- The numbers of queued writes, in the order in which the writer comes to them. -/
theorem ids_queued : s.queued.filterMap StreamCommand.id? =
    s.written.map Prod.snd ++ (s.writer.taken.filterMap StreamCommand.id? ++
      (s.dropped.filterMap StreamCommand.id? ++
        s.shared.commands.toList.filterMap StreamCommand.id?)) := by
  rw [h.order, List.filterMap_append, List.filterMap_append, List.filterMap_append, ids_written]

/-- Outcomes are given to writes that wait for them, in the order of their commands. -/
theorem outcome_settleAll (more : List (WriteId × WriteResult))
    (hsub : ((s.settled ++ more).map Prod.fst).Sublist (s.queued.filterMap StreamCommand.id?))
    (id : WriteId) (result : WriteResult) :
    (s.writes.settleAll more).outcome? id = some result ↔ (id, result) ∈ s.settled ++ more := by
  have hnodup := (List.nodup_append'.mp h.nodup).1.sublist hsub
  rw [List.map_append] at hsub hnodup
  obtain ⟨-, hmore, hdisjoint⟩ := List.nodup_append'.mp hnodup
  rw [WriteTable.outcome?_settleAll hmore, h.outcome, List.mem_append, or_comm]
  intro other hother
  have hqueued := hsub.subset (List.mem_append_right _ hother)
  refine ⟨h.begun other (List.mem_append_left _ hqueued), ?_⟩
  refine Option.eq_none_iff_forall_ne_some.mpr fun first hfirst => ?_
  have hsettled := (h.outcome other first).mp hfirst
  exact hdisjoint (List.mem_map.mpr ⟨_, hsettled, rfl⟩) hother

/-- The writer takes the oldest command. Nothing of its frame is on the stream yet. -/
theorem take : Kept limit s.take := by
  obtain ⟨shared, writer, sending, hangingUp, looking, writes, queued, written, dropped, wire⟩ := s
  cases writer with
  | waiting =>
    cases hpop : shared.commands.pop? with
    | none =>
      rw [LiveEnd.take, hpop]
      exact h
    | some taken =>
      obtain ⟨command, commands⟩ := taken
      have hlist := Queue.toList_of_pop? hpop
      obtain rfl : dropped = [] := h.dropped rfl
      have horder := h.order
      rw [hlist] at horder
      obtain ⟨part, hwire, hpart⟩ := h.wire
      obtain ⟨rfl, -⟩ := List.append_eq_nil_iff.mp hpart
      rw [LiveEnd.take, hpop]
      cases command with
      | write frame id =>
        exact { h with
          order := horder
          gone := nofun
          wire := ⟨[], hwire, (List.append_nil _).symm⟩
          short := nofun }
      | shutdown => exact { h with order := horder, gone := nofun, short := nofun }
  | writing | ending => exact h

/-- What the writer puts onto the stream is taken off what is left of the frame, so both together
stay the frame. -/
theorem put (count : Nat) : Kept limit (s.put count) := by
  obtain ⟨shared, writer, sending, hangingUp, looking, writes, queued, written, dropped, wire⟩ := s
  cases writer with
  | writing frame id left =>
    obtain ⟨part, hwire, hpart⟩ := h.wire
    -- the part on the stream grows by what is taken off the rest
    have hall : part ++ left.take count ++ left.drop count = part ++ left := by
      rw [List.append_assoc, List.take_append_drop]
    exact { h with
      wire := ⟨part ++ left.take count,
        (congrArg (· ++ left.take count) hwire).trans (List.append_assoc _ _ _), hall.trans hpart⟩
      short := nofun }
  | waiting | ending => exact h

/-- A write is completed only with all of its frame on the stream, and is settled with success
then. -/
theorem complete : Kept limit s.complete := by
  obtain ⟨shared, writer, sending, hangingUp, looking, writes, queued, written, dropped, wire⟩ := s
  cases writer with
  | writing frame id left =>
    cases left with
    | nil =>
      obtain rfl : dropped = [] := h.dropped rfl
      obtain ⟨part, hwire, hpart⟩ := h.wire
      -- all of the frame is on the stream
      obtain rfl : part = Framing.encode frame := by
        simpa [WriterStage.left, WriterStage.taken, StreamCommand.frame?] using hpart
      refine { h with
        order := ?_
        gone := nofun
        wire := ⟨[], ?_, rfl⟩
        short := nofun
        begun := fun other hmem => (h.begun other hmem).trans_eq (writes.next_settle id _).symm
        outcome := fun other result =>
          (h.outcome_settleAll [(id, .ok ())] ?_ other result).trans ?_ }
      · exact h.order.trans (by simp [LiveEnd.complete, WriterStage.taken])
      · exact hwire.trans (by simp [LiveEnd.complete, Framing.written])
      · rw [List.map_append, ids_settled, h.ids_queued]
        simp [WriterStage.settled, WriterStage.taken, StreamCommand.id?]
      · simp [LiveEnd.complete, settled, WriterStage.settled]
    | cons => exact h
  | waiting | ending => exact h

/-- A write that fails is settled with its cause, and the writer leaves with the part that is
missing. -/
theorem fail (cause : TransportError) : Kept limit (s.fail cause) := by
  obtain ⟨shared, writer, sending, hangingUp, looking, writes, queued, written, dropped, wire⟩ := s
  cases writer with
  | writing frame id left =>
    cases left with
    | nil => exact h
    | cons byte left =>
      obtain rfl : dropped = [] := h.dropped rfl
      refine { h with
        gone := nofun
        short := by rintro _ _ _ _ _ ⟨⟩; exact List.cons_ne_nil _ _
        begun := fun other hmem => (h.begun other hmem).trans_eq (writes.next_settle id _).symm
        outcome := fun other result =>
          (h.outcome_settleAll [(id, .error cause)] ?_ other result).trans ?_
        unfailed := nofun
        signs := fun hdone => ⟨(h.signs hdone).1, rfl⟩ }
      · rw [List.map_append, ids_settled, h.ids_queued]
        simp [WriterStage.settled, WriterStage.taken, StreamCommand.id?]
      · simp [LiveEnd.fail, settled, WriterStage.settled, WriterExit.settled]
  | waiting | ending => exact h

/-- A writer that ends raises its signs one by one. The last step gives up what is still queued, and
settles it. -/
theorem advance : Kept limit s.advance := by
  obtain ⟨shared, writer, sending, hangingUp, looking, writes, queued, written, dropped, wire⟩ := s
  cases writer with
  | ending stage exit =>
    have hshort (next : EndStage) : ∀ stage frame id left cause,
        WriterStage.ending next exit = .ending stage (.failed frame id left cause) →
          left ≠ [] := by
      rintro _ frame id left cause ⟨⟩
      exact h.short stage frame id left cause rfl
    cases stage with
    | leaving => exact { h with alive := rfl, short := hshort .dead, gone := nofun }
    | dead => exact { h with short := hshort .deaf, gone := nofun }
    | deaf =>
      exact { h with
        short := hshort .ended
        gone := nofun
        unseen := nofun
        signs := fun hdone => ⟨rfl, (h.signs hdone).2⟩ }
    | ended =>
      obtain rfl : dropped = [] := h.dropped rfl
      refine { h with
        order := ?_
        dropped := nofun
        gone := fun _ => rfl
        short := hshort .gone
        begun := fun other hmem => (h.begun other hmem).trans_eq (writes.next_settleAll _).symm
        outcome := fun other result => (h.outcome_settleAll
          (shared.commands.toList.flatMap StreamCommand.abandoned) ?_ other result).trans ?_
        unseen := nofun }
      · exact h.order.trans (by simp [LiveEnd.advance, WriterStage.taken])
      · rw [List.map_append, ids_settled, ids_abandoned, h.ids_queued]
        simp [WriterStage.settled, WriterStage.taken, WriterExit.ids_settled]
      · simp [LiveEnd.advance, settled, WriterStage.settled]
    | gone => exact h
  | waiting | writing => exact h

/-! #### The reader -/

/-- A reader that finds a sign of the writer takes it along and is done, so the sign need not be
there any longer. -/
theorem ask : Kept limit s.ask := by
  rw [LiveEnd.ask]
  split
  next hends =>
    cases hdone : s.shared.done with
    | true =>
      have hnext : s.shared.next.2 = s.shared := by rw [StreamEnd.next, if_pos hdone]
      rw [hnext]
      exact { h with }
    | false =>
      have hexit : s.shared.writerExit = true := by simpa [hdone] using hends
      -- the reader takes the signs of the writer with it
      have hnext : s.shared.next.2 =
          { s.shared with done := true, writerExit := false, failure := none } := by
        rw [StreamEnd.next, if_neg (by simp [hdone]), if_pos hexit]
        cases s.shared.failure <;> rfl
      rw [hnext]
      exact { h with
        unseen := fun _ => rfl
        unfailed := fun _ => rfl
        signs := fun hsign => absurd hsign.symm Bool.false_ne_true }
  next => exact { h with }

/-- Looking at the stream may end the reading, and touches nothing that the writer keeps up. -/
theorem look : Kept limit s.look := by
  rw [LiveEnd.look]
  split
  · rw [StreamEnd.scan]
    split
    · exact { h with }
    · exact { h with }
    -- the reading is done, so the signs of the writer need not be there any longer
    · exact { h with signs := nofun }
    · exact { h with signs := nofun }
  · exact h

/-- A stream that cannot be read ends the reading. -/
theorem breakDown : Kept limit s.breakDown := by
  rw [LiveEnd.breakDown]
  split
  · exact { h with signs := nofun }
  · exact h

/-! #### Runs -/

/-- Every action keeps everything up; one case for each. -/
theorem act : (action : Action) → Kept limit (s.act action)
  | .beginSend frame => h.beginSend frame
  | .endSend frame id => by
    rw [LiveEnd.act]
    split
    next hmem => exact h.endSend hmem
    next => exact h
  | .beginHangUp => by
    rw [LiveEnd.act, LiveEnd.beginHangUp]
    split
    · exact h
    · exact { h with }
  | .endHangUp => by
    rw [LiveEnd.act]
    split
    · exact h.endHangUp
    · exact h
  | .take => h.take
  | .put count => h.put count
  | .complete => h.complete
  | .fail cause => h.fail cause
  | .advance => h.advance
  | .arrive _ | .endInput => { h with }
  | .ask => h.ask
  | .look => h.look
  | .breakDown => h.breakDown

/-- So does every run of actions, by induction. -/
theorem follow (actions : List Action) : Kept limit (s.follow actions) := by
  induction actions generalizing s with
  | nil => exact h
  | cons action actions ih => exact ih (h.act action)

end Kept

/-- Whatever callers, the writer and the reader of a fresh end do, and however they come between
each other, everything is kept up. -/
theorem kept_follow (limit : Nat) (actions : List Action) :
    Kept limit ((fresh limit).follow actions) :=
  (kept_fresh limit).follow actions

end LiveEnd

end PacketSession
