import Mathlib.Data.List.Perm.Basic
import PacketSession.Connection.Write

/-!
# How a send ends

The handle of a send waits for its writes, and takes them off as it finds them done. It is asked
again and again while these are completed in any order. What it answers in the end does not depend
on that, nor on when it was asked: it fails as the first write in order of submission that fails,
even if later ones failed earlier, and only once all in front of this one are done
(`SendHandle.firstFailureWins`).
-/

namespace PacketSession

namespace SendHandle

/-! ### What is known from the writes alone -/

/-- All writes in front of one with this outcome are done. -/
def FirstUndone (known : WriteId → Option WriteResult) (writes : List WriteHandle)
    (outcome : Option WriteResult) : Prop :=
  ∃ before write later, writes = before ++ write :: later ∧ write.outcome? known = outcome ∧
    ∀ other ∈ before, other.outcome? known = some (.ok ())

/-- How the handle of a send is built. -/
inductive Draft
  /-- It has no writes. -/
  | empty
  /-- One more write is put into it. -/
  | push (draft : Draft) (write : WriteHandle)
  /-- All writes of another one are put into it. -/
  | append (draft other : Draft)

namespace Draft

/-- The handle. -/
def handle : Draft → SendHandle
  | empty => .empty
  | push draft write => draft.handle.push write
  | append draft other => draft.handle.append other.handle

/-- The writes that were put into it, in order. -/
def writes : Draft → List WriteHandle
  | empty => []
  | push draft write => draft.writes ++ [write]
  | append draft other => draft.writes ++ other.writes

end Draft

/-- What may happen while a send is under way. -/
inductive Step
  /-- A write is completed. -/
  | complete (id : WriteId) (result : WriteResult)
  /-- Nobody is left who could complete a write. -/
  | drop (id : WriteId)
  /-- The handle is asked. -/
  | poll

/-- What a step completes a write with, and which one. -/
def Step.completion? : Step → Option (WriteId × WriteResult)
  | complete id result => some (id, result)
  | drop id => some (id, .error .writerGone)
  | poll => none

/-- What writes are completed with, in order of completion. -/
def completions (steps : List Step) : List (WriteId × WriteResult) :=
  steps.filterMap Step.completion?

/-- What a write that was begun is completed with first. -/
def completion? (begun : Nat) (steps : List Step) (id : WriteId) : Option WriteResult :=
  if id < begun then (completions steps).lookup id else none

/-! ### Handles under way -/

/-- A handle together with the outcomes of writes. -/
structure Underway where
  /-- The outcomes. -/
  table : WriteTable
  /-- The handle. -/
  handle : SendHandle

namespace Underway

/-- A new handle, with some writes begun and none of them completed. -/
def start (begun : Nat) (draft : Draft) : Underway := ⟨⟨begun, []⟩, draft.handle⟩

/-- What the handle answers when it is asked. -/
def answer (u : Underway) : Option WriteResult := (u.handle.poll u.table.outcome?).1

/-- What a step makes of it. -/
def perform (u : Underway) : Step → Underway
  | .complete id result => { u with table := u.table.settle id result }
  | .drop id => { u with table := u.table.abandon id }
  | .poll => { u with handle := (u.handle.poll u.table.outcome?).2 }

/-- What some steps make of it. -/
def after (u : Underway) (steps : List Step) : Underway := steps.foldl perform u

/-- What the handle answers whenever it is asked. -/
def answers (u : Underway) : List Step → List (Option WriteResult)
  | [] => []
  | .poll :: steps => u.answer :: (u.perform .poll).answers steps
  | step :: steps => (u.perform step).answers steps

/-- What the handle comes to if it is asked once more after these steps: its first answer other than
that it waits. -/
def resolution (u : Underway) (steps : List Step) : Option WriteResult :=
  (u.answers (steps ++ [.poll])).findSome? id

end Underway

/-- Asks the writes of a queue in place: one that is done is taken off, one that waits stays in
front, and a failure empties the queue. -/
def pollInPlace (known : WriteId → Option WriteResult) (q : Queue WriteHandle) :
    Option WriteResult × Queue WriteHandle :=
  match _h : q.pop? with
  | none => (some (.ok ()), q)
  | some (write, rest) =>
    match write.poll known with
    | (none, waiting) => (none, { rest with front := waiting :: rest.front })
    | (some (.ok ()), _) => pollInPlace known rest
    | (some (.error e), _) => (some (.error e), .empty)
termination_by q.toList.length
decreasing_by simp [Queue.toList_of_pop? _h]

open Underway

/-- The handle of a send reports the first failure in order of submission, whatever the order of
completion. -/
structure FirstFailureWins (begun : Nat) (draft : Draft) (steps : List Step) : Prop where
  /-- It has as many frames as writes were put into it. -/
  frames : ((start begun draft).after steps).handle.frames = draft.writes.length
  /-- As long as it only waited, it fails just if some write fails like that and all in front of it
  are done. -/
  fails_iff (e : TransportError) : (∀ answer ∈ (start begun draft).answers steps, answer = none) →
    (((start begun draft).after steps).answer = some (.error e) ↔
      FirstUndone (completion? begun steps) draft.writes (some (.error e)))
  /-- It is done just if all writes are. -/
  done_iff : (∀ answer ∈ (start begun draft).answers steps, answer = none) →
    (((start begun draft).after steps).answer = some (.ok ()) ↔
      ∀ write ∈ draft.writes, write.outcome? (completion? begun steps) = some (.ok ()))
  /-- It waits just if the first write that is not done waits. -/
  waits_iff : (∀ answer ∈ (start begun draft).answers steps, answer = none) →
    (((start begun draft).after steps).answer = none ↔
      FirstUndone (completion? begun steps) draft.writes none)
  /-- This is what the queue of writes answers and keeps if it is asked in place. -/
  inPlace :
    (pollInPlace ((start begun draft).after steps).table.outcome?
        ((start begun draft).after steps).handle.writes).1 =
      ((start begun draft).after steps).answer ∧
    (pollInPlace ((start begun draft).after steps).table.outcome?
        ((start begun draft).after steps).handle.writes).2.toList =
      (((start begun draft).after steps).perform .poll).handle.writes.toList
  /-- Other steps by which the writes get the same outcomes lead to the same end. -/
  agrees (other : List Step) :
    (∀ write ∈ draft.writes,
      write.outcome? (completion? begun steps) = write.outcome? (completion? begun other)) →
    (start begun draft).resolution steps = (start begun draft).resolution other
  /-- So do the same completions in another order. -/
  commutes (other : List Step) : ((completions steps).map Prod.fst).Nodup →
    (completions steps).Perm (completions other) →
      (start begun draft).resolution steps = (start begun draft).resolution other

section Polling

variable {known known' : WriteId → Option WriteResult} {writes : List WriteHandle}
  {write : WriteHandle} {outcome : Option WriteResult}

/-- The write in front is asked, and if it is done, the ones behind it. -/
theorem pollWrites_cons (known : WriteId → Option WriteResult) (write : WriteHandle)
    (writes : List WriteHandle) :
    pollWrites known (write :: writes) =
      match write.poll known with
      | (none, waiting) => (none, waiting :: writes)
      | (some (.ok ()), _) => pollWrites known writes
      | (some (.error e), _) => (some (.error e), []) := by
  rw [pollWrites]
  cases write with
  | pending id =>
    simp only [WriteHandle.outcome?, WriteHandle.poll]
    match known id with
    | none => rfl
    | some (.ok ()) => rfl
    | some (.error e) => rfl
  | ready result => cases result <;> rfl
  | spent => rfl

/-- What becomes of a queue is decided by the write in front of it. -/
private theorem pollInPlace_of_pop? {q rest : Queue WriteHandle} (h : q.pop? = some (write, rest)) :
    pollInPlace known q =
      match write.poll known with
      | (none, waiting) => (none, { rest with front := waiting :: rest.front })
      | (some (.ok ()), _) => pollInPlace known rest
      | (some (.error e), _) => (some (.error e), .empty) := by
  rw [pollInPlace]
  split
  next hnone => cases hnone.symm.trans h
  next hsome =>
    cases hsome.symm.trans h
    rfl

/-- A queue that is asked in place answers as the list of its members, and keeps the same ones. -/
private theorem pollInPlace_eq (known : WriteId → Option WriteResult) (q : Queue WriteHandle) :
    ((pollInPlace known q).1, (pollInPlace known q).2.toList) = pollWrites known q.toList := by
  induction q using pollInPlace.induct known with
  | case1 q hpop =>
    have hempty : q.toList = [] := Queue.toList_of_pop?_none hpop
    rw [pollInPlace]
    split
    next => rw [hempty, pollWrites]
    next hsome => cases hsome.symm.trans hpop
  | case2 q write rest hpop waiting hw =>
    rw [pollInPlace_of_pop? hpop, Queue.toList_of_pop? hpop, pollWrites_cons, hw]
    rfl
  | case3 q write rest hpop _ hw ih =>
    rw [pollInPlace_of_pop? hpop, Queue.toList_of_pop? hpop, pollWrites_cons, hw]
    exact ih
  | case4 q write rest hpop e _ hw =>
    rw [pollInPlace_of_pop? hpop, Queue.toList_of_pop? hpop, pollWrites_cons, hw]
    rfl

/-- The first write that is not done is the one in front, or it is behind one that is done. -/
private theorem firstUndone_cons :
    FirstUndone known (write :: writes) outcome ↔
      write.outcome? known = outcome ∨
        (write.outcome? known = some (.ok ()) ∧ FirstUndone known writes outcome) := by
  constructor
  · rintro ⟨before, found, later, hsplit, hfound, hbefore⟩
    cases before with
    | nil =>
      obtain ⟨rfl, -⟩ := List.cons.inj hsplit
      exact .inl hfound
    | cons first before =>
      obtain ⟨rfl, rfl⟩ := List.cons.inj hsplit
      obtain ⟨hwrite, hbefore⟩ := List.forall_mem_cons.mp hbefore
      exact .inr ⟨hwrite, before, found, later, rfl, hfound, hbefore⟩
  · rintro (hwrite | ⟨hwrite, before, found, later, rfl, hfound, hbefore⟩)
    · exact ⟨[], write, writes, rfl, hwrite, List.forall_mem_nil _⟩
    · exact ⟨write :: before, found, later, rfl, hfound, List.forall_mem_cons.mpr ⟨hwrite, hbefore⟩⟩

/-- Writes that are asked answer like the first of them that is not done. -/
theorem fst_pollWrites_eq_iff (ho : outcome ≠ some (.ok ())) :
    (pollWrites known writes).1 = outcome ↔ FirstUndone known writes outcome := by
  induction writes with
  | nil => simp [pollWrites, FirstUndone, ho.symm]
  | cons write writes ih =>
    rw [firstUndone_cons, pollWrites]
    match write.outcome? known with
    | none => simp
    | some (.ok ()) => simp [ih, ho.symm]
    | some (.error e) => simp

/-- They answer that they are done if all of them are. -/
theorem fst_pollWrites_eq_ok_iff :
    (pollWrites known writes).1 = some (.ok ()) ↔
      ∀ write ∈ writes, write.outcome? known = some (.ok ()) := by
  induction writes with
  | nil => simp [pollWrites]
  | cons write writes ih =>
    rw [List.forall_mem_cons, pollWrites]
    match write.outcome? known with
    | none => simp
    | some (.ok ()) => simp [ih]
    | some (.error e) => simp

/-- Writes that are done at the front do not matter to the answer. -/
private theorem pollWrites_append {before : List WriteHandle}
    (hb : ∀ write ∈ before, write.outcome? known = some (.ok ())) :
    pollWrites known (before ++ writes) = pollWrites known writes := by
  induction before with
  | nil => rfl
  | cons write before ih =>
    obtain ⟨hwrite, hb⟩ := List.forall_mem_cons.mp hb
    rw [List.cons_append, pollWrites, hwrite]
    exact ih hb

/-- While they wait, only writes that are done are taken off. -/
private theorem exists_append_of_waiting (h : (pollWrites known writes).1 = none) :
    ∃ before, writes = before ++ (pollWrites known writes).2 ∧
      ∀ write ∈ before, write.outcome? known = some (.ok ()) := by
  obtain ⟨before, write, later, rfl, hwrite, hb⟩ :=
    (fst_pollWrites_eq_iff (by simp)).mp h
  refine ⟨before, ?_, hb⟩
  rw [pollWrites_append hb, pollWrites, hwrite]

section Mono

variable (hk : ∀ id result, known id = some result → known' id = some result)

include hk

/-- A write keeps its outcome when more outcomes are known. -/
private theorem outcome?_mono {result : WriteResult} (h : write.outcome? known = some result) :
    write.outcome? known' = some result := by
  cases write with
  | pending id => exact hk id result h
  | ready _ => exact h
  | spent => exact h

/-- More outcomes do not change an answer other than that they wait. -/
private theorem fst_pollWrites_mono {result : WriteResult}
    (h : (pollWrites known writes).1 = some result) :
    (pollWrites known' writes).1 = some result := by
  match result with
  | .ok () =>
    rw [fst_pollWrites_eq_ok_iff] at h ⊢
    exact fun write hw => outcome?_mono hk (h write hw)
  | .error e =>
    rw [fst_pollWrites_eq_iff (by simp)] at h ⊢
    obtain ⟨before, write, later, rfl, hwrite, hb⟩ := h
    exact ⟨before, write, later, rfl, outcome?_mono hk hwrite,
      fun other ho => outcome?_mono hk (hb other ho)⟩

end Mono

end Polling

/-! ### Runs -/

/-- A handle that is put together from a draft holds the writes of the draft, in order. -/
private theorem toList_writes_handle (draft : Draft) :
    draft.handle.writes.toList = draft.writes := by
  induction draft with
  | empty => rfl
  | push draft write ih => simp [Draft.handle, Draft.writes, push, ih]
  | append draft other ih iho => simp [Draft.handle, Draft.writes, append, ih, iho]

private theorem frames_handle (draft : Draft) : draft.handle.frames = draft.writes.length := by
  induction draft with
  | empty => rfl
  | push draft write ih => simp [Draft.handle, Draft.writes, push, ih]
  | append draft other ih iho => simp [Draft.handle, Draft.writes, append, ih, iho]

namespace Underway

variable {u : Underway} {writes : List WriteHandle} {steps : List Step}

/-- The handle stands for these writes: those that it does not wait for any more are done. -/
def Tracks (u : Underway) (writes : List WriteHandle) : Prop :=
  ∃ before, writes = before ++ u.handle.writes.toList ∧
    ∀ write ∈ before, write.outcome? u.table.outcome? = some (.ok ())

/-- A handle that was not asked yet tracks all writes of its draft. -/
private theorem tracks_start (begun : Nat) (draft : Draft) :
    (start begun draft).Tracks draft.writes :=
  ⟨[], (toList_writes_handle draft).symm, List.forall_mem_nil _⟩

/-- A handle answers as its writes do, although it no longer holds those that were found to be
done. -/
private theorem Tracks.answer_eq (h : u.Tracks writes) :
    u.answer = (pollWrites u.table.outcome? writes).1 := by
  obtain ⟨before, rfl, hb⟩ := h
  rw [pollWrites_append hb]
  rfl

/-- Writes that complete meanwhile do not lose track of the others. -/
theorem Tracks.settle (h : u.Tracks writes) (id : WriteId) (result : WriteResult) :
    Tracks { u with table := u.table.settle id result } writes := by
  obtain ⟨before, hsplit, hb⟩ := h
  exact ⟨before, hsplit, fun write hw => outcome?_mono
    (fun _ _ ho => WriteTable.outcome?_settle_of_some ho id result) (hb write hw)⟩

/-- A handle that is asked and waits stands for the same writes. -/
theorem Tracks.poll (h : u.Tracks writes) (hwait : u.answer = none) :
    (u.perform .poll).Tracks writes := by
  obtain ⟨before, rfl, hb⟩ := h
  obtain ⟨taken, hsplit, ht⟩ := exists_append_of_waiting hwait
  refine ⟨before ++ taken, ?_, List.forall_mem_append.mpr ⟨hb, ht⟩⟩
  rw [List.append_assoc, perform, SendHandle.poll, Queue.toList_ofList, ← hsplit]

/-- The writes are completed one after the other. -/
theorem table_after (steps : List Step) :
    (u.after steps).table = u.table.settleAll (completions steps) := by
  induction steps generalizing u with
  | nil => rfl
  | cons step steps ih =>
    refine ih.trans ?_
    cases step <;> rfl

/-- Neither polls nor completions take an outcome back. -/
private theorem outcome?_after {id : WriteId} {result : WriteResult}
    (h : u.table.outcome? id = some result) (steps : List Step) :
    (u.after steps).table.outcome? id = some result := by
  rw [table_after, WriteTable.outcome?_settleAll_eq, h, Option.some_or]

/-- Whenever a handle is asked, it comes to what its writes come to. -/
private theorem Tracks.resolution_eq (h : u.Tracks writes) (steps : List Step) :
    u.resolution steps = (pollWrites (u.after steps).table.outcome? writes).1 := by
  induction steps generalizing u with
  | nil =>
    have hone : u.resolution [] = u.answer := by
      cases ha : u.answer <;> simp [resolution, answers, ha]
    exact hone.trans h.answer_eq
  | cons step steps ih =>
    cases step with
    | complete id result => exact ih (h.settle id result)
    | drop id => exact ih (h.settle id _)
    | poll =>
      rw [resolution, List.cons_append, answers]
      cases ha : u.answer with
      | none => exact ih (h.poll ha)
      | some result =>
        -- this answer stands, since no later step takes an outcome back
        rw [h.answer_eq] at ha
        exact (fst_pollWrites_mono (fun _ _ ho => outcome?_after ho _) ha).symm

/-- Nor do they change how many frames were handed over. -/
private theorem frames_after (steps : List Step) :
    (u.after steps).handle.frames = u.handle.frames := by
  induction steps generalizing u with
  | nil => rfl
  | cons step steps ih =>
    refine ih.trans ?_
    cases step <;> rfl

/-- A handle that only waited comes to what it answers next. -/
theorem resolution_eq_answer (hw : ∀ answer ∈ u.answers steps, answer = none) :
    u.resolution steps = (u.after steps).answer := by
  induction steps generalizing u with
  | nil => cases ha : u.answer <;> simp [resolution, answers, after, ha]
  | cons step steps ih =>
    cases step with
    | complete id result => exact ih hw
    | drop id => exact ih hw
    | poll =>
      obtain ⟨ha, hw⟩ := List.forall_mem_cons.mp hw
      rw [resolution, List.cons_append, answers, ha]
      exact ih hw

/-- The writes of a new handle have the outcomes that they are completed with. -/
private theorem outcome?_start (begun : Nat) (draft : Draft) (steps : List Step) :
    ((start begun draft).after steps).table.outcome? = completion? begun steps := by
  funext id
  rw [table_after, WriteTable.outcome?_settleAll_eq]
  rfl

/-- A new handle comes to what its writes are completed with. -/
theorem resolution_start (begun : Nat) (draft : Draft) (steps : List Step) :
    (start begun draft).resolution steps =
      (pollWrites (completion? begun steps) draft.writes).1 := by
  rw [(tracks_start begun draft).resolution_eq, outcome?_start]

end Underway

/-- Where no write is completed twice, the order of completion does not matter. -/
private theorem completion?_of_perm {begun : Nat} {steps other : List Step}
    (hd : ((completions steps).map Prod.fst).Nodup)
    (hp : (completions steps).Perm (completions other)) :
    completion? begun steps = completion? begun other := by
  have hd' : ((completions other).map Prod.fst).Nodup := (hp.map Prod.fst).nodup hd
  have hlookup (id : WriteId) : (completions steps).lookup id = (completions other).lookup id :=
    Option.ext fun result => by
      rw [WriteTable.lookup_eq_some_iff_mem hd, WriteTable.lookup_eq_some_iff_mem hd', hp.mem_iff]
  funext id
  rw [completion?, completion?, hlookup]

/-- An answer depends only on the outcomes of the writes that are asked. -/
private theorem pollWrites_congr {known known' : WriteId → Option WriteResult}
    {writes : List WriteHandle}
    (h : ∀ write ∈ writes, write.outcome? known = write.outcome? known') :
    pollWrites known writes = pollWrites known' writes := by
  induction writes with
  | nil => rfl
  | cons write writes ih =>
    obtain ⟨hwrite, h⟩ := List.forall_mem_cons.mp h
    rw [pollWrites, pollWrites, hwrite, ih h]

/-- Whatever is completed when, and whenever it is asked in between, the handle of a send waits, is
done or fails as the first of its writes that is not done. -/
theorem firstFailureWins (begun : Nat) (draft : Draft) (steps : List Step) :
    FirstFailureWins begun draft steps where
  frames := (frames_after steps).trans (frames_handle draft)
  fails_iff e hw := by
    rw [← resolution_eq_answer hw, resolution_start, fst_pollWrites_eq_iff (by simp)]
  done_iff hw := by
    rw [← resolution_eq_answer hw, resolution_start, fst_pollWrites_eq_ok_iff]
  waits_iff hw := by
    rw [← resolution_eq_answer hw, resolution_start, fst_pollWrites_eq_iff (by simp)]
  inPlace := by
    rw [← Prod.mk.injEq, pollInPlace_eq, perform, SendHandle.poll, Queue.toList_ofList]
    rfl
  agrees other h := by
    rw [resolution_start, resolution_start, pollWrites_congr h]
  commutes other hd hp := by
    rw [resolution_start, resolution_start, completion?_of_perm hd hp]

/-- A later write fails first, but the handle still waits for the one in front of it. -/
example : (start 2 ((Draft.empty.push (.pending 0)).push (.pending 1))).answers
    [.complete 1 (.error .connectionClosed), .poll, .drop 0, .poll] =
      [none, some (.error .writerGone)] := rfl

end SendHandle

end PacketSession
