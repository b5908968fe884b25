import Mathlib.Algebra.Order.Ring.Nat
import Mathlib.Data.List.Induction
import PacketSession.Proofs.Session.Replies

/-!
# Calls on a table of waits

Whatever calls are made on a table, one after the other, every wait that was begun gets at most one
outcome: that of the first call behind its beginning that concerns it. `Replies.Outstanding` says so
of the calls alone: a wait is outstanding if it was begun and no call concerned it since. A table
keeps exactly these waits (`Replies.mem_waiting_iff`), so a call to settle one finds it just if it
is outstanding, and is then the one that decides it for good (`Replies.exactlyOnce`).
-/

namespace PacketSession

variable {S : Schema}

namespace Replies

/-- One call on a table of waits. -/
inductive Call (S : Schema)
  /-- Begins a wait. -/
  | create
  /-- Settles a wait with a packet. -/
  | resolve (id : Nat) (packet : Packet S)
  /-- Settles a wait with an error. -/
  | reject (id : Nat) (e : SessionError)
  /-- Settles all waits with the same error. -/
  | failAll (e : SessionError)

/-- What a call is answered. -/
inductive Answer
  /-- The number of the wait that was begun. -/
  | begun (id : Nat)
  /-- Whether there was a wait to be settled. -/
  | found (done : Bool)
  /-- How many waits were settled. -/
  | settled (count : Nat)
deriving DecidableEq

namespace Answer

/-- The number of the wait that was begun, if one was. -/
def begun? : Answer → Option Nat
  | begun id => some id
  | found _ | settled _ => none

/-- How many waits a call says that it completed. -/
def completed : Answer → Nat
  | begun _ => 0
  | found done => done.toNat
  | settled count => count

end Answer

namespace Call

/-- Whether a call begins a wait. -/
def creates : Call S → Bool
  | create => true
  | resolve _ _ | reject _ _ | failAll _ => false

/-- The outcome that a call has in store for a wait, if it concerns it. -/
def verdict? (id : Nat) : Call S → Option (Reply S)
  | create => none
  | resolve other packet => if id = other then some (.ok packet) else none
  | reject other e => if id = other then some (.error e) else none
  | failAll e => some (.error e)

end Call

/-- What a call is answered. -/
def answer (r : Replies S) : Call S → Answer
  | .create => .begun r.create.1
  | .resolve id packet => .found (r.settle id (.ok packet)).1
  | .reject id e => .found (r.settle id (.error e)).1
  | .failAll e => .settled (r.failAll e).1

/-- What a call makes of a table. -/
def perform (r : Replies S) : Call S → Replies S
  | .create => r.create.2
  | .resolve id packet => (r.settle id (.ok packet)).2
  | .reject id e => (r.settle id (.error e)).2
  | .failAll e => (r.failAll e).2

/-- A table after some calls. -/
def ofCalls (calls : List (Call S)) : Replies S := calls.foldl perform empty

/-- What calls on a table are answered, in order. -/
def answers (r : Replies S) : List (Call S) → List Answer
  | [] => []
  | call :: calls => r.answer call :: (r.perform call).answers calls

/-! ### What is known from the calls alone -/

/-- How many waits were begun. -/
def created (calls : List (Call S)) : Nat := calls.countP Call.creates

/-- A wait was begun, and no call concerned it since. -/
def Outstanding (calls : List (Call S)) (id : Nat) : Prop :=
  ∃ before later, calls = before ++ .create :: later ∧ id = created before + 1 ∧
    ∀ call ∈ later, call.verdict? id = none

/-- A table completes every wait at most once, by the first call that concerns it, whatever calls
were made on it. -/
structure ExactlyOnce (calls : List (Call S)) : Prop where
  /-- The waits are numbered in the order in which they are begun. -/
  numbers : (empty.answers calls).filterMap Answer.begun? = List.range' 1 (created calls)
  /-- No number is given twice. -/
  distinct : ((empty.answers calls).filterMap Answer.begun?).Nodup
  /-- A wait is outstanding just if it was begun and has no outcome. -/
  outstanding_iff (id : Nat) : Outstanding calls id ↔
    id ∈ (empty.answers calls).filterMap Answer.begun? ∧ (ofCalls calls).outcome? id = none
  /-- A call to settle a wait finds it just if it is outstanding. -/
  found (call : Call S) (id : Nat) : (∃ packet, call = .resolve id packet) ∨
    (∃ e, call = .reject id e) →
      ∃ done, (ofCalls calls).answer call = .found done ∧ (done = true ↔ Outstanding calls id)
  /-- A call to settle all waits says how many were outstanding. -/
  settled (e : SessionError) : ∃ ids : List Nat, ids.Nodup ∧
    (∀ id, id ∈ ids ↔ Outstanding calls id) ∧
      (ofCalls calls).answer (.failAll e) = .settled ids.length
  /-- A call that concerns an outstanding wait gives it its outcome for good. -/
  decides (id : Nat) (call : Call S) (outcome : Reply S) (later : List (Call S)) :
    Outstanding calls id → call.verdict? id = some outcome →
      (ofCalls (calls ++ call :: later)).outcome? id = some outcome
  /-- There is no other way to an outcome. -/
  decided (id : Nat) (outcome : Reply S) : (ofCalls calls).outcome? id = some outcome →
    ∃ before call later, calls = before ++ call :: later ∧ Outstanding before id ∧
      call.verdict? id = some outcome
  /-- No later call changes an outcome. -/
  stays (id : Nat) (outcome : Reply S) (later : List (Call S)) :
    (ofCalls calls).outcome? id = some outcome →
      (ofCalls (calls ++ later)).outcome? id = some outcome
  /-- Every wait that was begun is either outstanding or was completed. -/
  count : (ofCalls calls).count + ((empty.answers calls).map Answer.completed).sum = created calls

section Steps

variable {r : Replies S}

/-- The table after some calls and one more is the table that the last call leaves. -/
theorem ofCalls_concat (calls : List (Call S)) (call : Call S) :
    ofCalls (calls ++ [call]) = (ofCalls calls).perform call := by
  rw [ofCalls, List.foldl_append]
  rfl

private theorem ofCalls_append (calls later : List (Call S)) :
    ofCalls (calls ++ later) = later.foldl perform (ofCalls calls) :=
  List.foldl_append

/-- Later calls are answered at the table that those before have left. -/
private theorem answers_append (calls later : List (Call S)) :
    r.answers (calls ++ later) = r.answers calls ++ (calls.foldl perform r).answers later := by
  induction calls generalizing r with
  | nil => rfl
  | cons call calls ih => exact congrArg (r.answer call :: ·) ih

/-- The last answer of a history is the one at the table of all calls before. -/
private theorem answers_concat (calls : List (Call S)) (call : Call S) :
    empty.answers (calls ++ [call]) = empty.answers calls ++ [(ofCalls calls).answer call] :=
  answers_append calls [call]

private theorem created_concat (calls : List (Call S)) (call : Call S) :
    created (calls ++ [call]) = created calls + call.creates.toNat := by
  rw [created, List.countP_append, List.countP_singleton]
  cases call.creates <;> rfl

/-- Only a call that begins a wait uses a number up. -/
private theorem issued_perform (call : Call S) :
    (r.perform call).issued = r.issued + call.creates.toNat := by
  cases call with
  | create => rfl
  | resolve id packet => exact issued_settle id _
  | reject id e => exact issued_settle id _
  | failAll e => rfl

theorem Sound.perform (hr : r.Sound) (call : Call S) : (r.perform call).Sound := by
  cases call with
  | create => exact hr.create
  | resolve id packet => exact hr.settle id _
  | reject id e => exact hr.settle id _
  | failAll e => exact hr.failAll e

variable (hr : r.Sound)

include hr

/-- A call keeps the waits that it does not concern, and may begin one. -/
private theorem mem_waiting_perform (call : Call S) (id : Nat) :
    id ∈ (r.perform call).waiting ↔
      (call = .create ∧ id = r.issued + 1) ∨ (id ∈ r.waiting ∧ call.verdict? id = none) := by
  cases call with
  | create => simp [perform, Call.verdict?]
  | resolve other packet => simp [perform, mem_waiting_settle hr.nodup, Call.verdict?, and_comm]
  | reject other e => simp [perform, mem_waiting_settle hr.nodup, Call.verdict?, and_comm]
  | failAll e => simp [perform, Call.verdict?]

/-- Settling a wait by its number gives it this outcome, if it waits. -/
theorem outcome?_settle_of_sound (id other : Nat) (outcome : Reply S) :
    (r.settle other outcome).2.outcome? id =
      if id ∈ r.waiting then (if id = other then some outcome else none) else r.outcome? id := by
  rw [outcome?_settle]
  by_cases ho : id = other
  · subst ho
    by_cases hw : id ∈ r.waiting <;> simp [hw]
  · by_cases hw : id ∈ r.waiting
    · simp [ho, hw, hr.unsettled id hw]
    · simp [ho, hw]

/-- What waits gets the outcome that a call has in store for it, and nothing else changes. -/
theorem outcome?_perform (call : Call S) (id : Nat) :
    (r.perform call).outcome? id =
      if id ∈ r.waiting then call.verdict? id else r.outcome? id := by
  cases call with
  | create =>
    rw [perform, outcome?_create]
    split
    next hw => exact hr.unsettled id hw
    next => rfl
  | resolve other packet => exact outcome?_settle_of_sound hr id other _
  | reject other e => exact outcome?_settle_of_sound hr id other _
  | failAll e => exact outcome?_failAll e id

/-- No calls change an outcome that is there. -/
theorem Sound.outcome?_foldl {id : Nat} {outcome : Reply S} (ho : r.outcome? id = some outcome)
    (calls : List (Call S)) : (calls.foldl Replies.perform r).outcome? id = some outcome := by
  induction calls generalizing r with
  | nil => exact ho
  | cons call calls ih =>
    refine ih (hr.perform call) ?_
    rw [outcome?_perform hr, if_neg fun hw => ?_, ho]
    rw [hr.unsettled id hw] at ho
    cases ho

omit hr in
/-- Settling a wait takes it off the waits, if it is one. -/
theorem count_settle (id : Nat) (outcome : Reply S) :
    (r.settle id outcome).2.count + (r.settle id outcome).1.toNat = r.count := by
  unfold settle
  split
  next hw =>
    have hmem : id ∈ r.waiting := by simpa using hw
    have hpos := List.length_pos_of_mem hmem
    simp only [count, List.length_erase_of_mem hmem, Bool.toNat_true]
    omega
  next => rfl

omit hr in
/-- The number of waits changes by what a call begins and by what it says that it completed. -/
private theorem count_perform (call : Call S) :
    (r.perform call).count + (r.answer call).completed = r.count + call.creates.toNat := by
  cases call with
  | create => rfl
  | resolve id packet => exact count_settle id _
  | reject id e => exact count_settle id _
  | failAll e => exact Nat.zero_add _

end Steps

/-! ### Runs -/

section Runs

variable (calls : List (Call S))

/-- So the table of any history is sound. -/
private theorem sound_ofCalls : (ofCalls calls).Sound := by
  induction calls using List.reverseRecOn with
  | nil => exact sound_empty
  | append_singleton calls call ih =>
    rw [ofCalls_concat]
    exact ih.perform call

/-- As many numbers are used up as waits were begun. -/
private theorem issued_ofCalls : (ofCalls calls).issued = created calls := by
  induction calls using List.reverseRecOn with
  | nil => rfl
  | append_singleton calls call ih =>
    rw [ofCalls_concat, issued_perform, created_concat, ih]

/-- The numbers that are handed out are 1, 2 and so on, each of them once. -/
private theorem begun_answers :
    (empty.answers calls).filterMap Answer.begun? = List.range' 1 (created calls) := by
  induction calls using List.reverseRecOn with
  | nil => rfl
  | append_singleton calls call ih =>
    rw [answers_concat, List.filterMap_append, ih, created_concat]
    cases call with
    | create =>
      -- the next number is one more than how many were begun
      have hnext : (ofCalls calls).answer .create = .begun (1 + created calls) := by
        rw [answer, id_create, issued_ofCalls, Nat.add_comm]
      rw [hnext]
      exact List.range'_1_concat.symm
    | resolve id packet => exact List.append_nil _
    | reject id e => exact List.append_nil _
    | failAll e => exact List.append_nil _

/-- A wait is outstanding if it has just been begun, or was outstanding and is not concerned. -/
private theorem outstanding_concat (call : Call S) (id : Nat) :
    Outstanding (calls ++ [call]) id ↔
      (call = .create ∧ id = created calls + 1) ∨
        (Outstanding calls id ∧ call.verdict? id = none) := by
  constructor
  · rintro ⟨before, later, hcalls, hid, hlater⟩
    obtain rfl | ⟨later, last, rfl⟩ := List.eq_nil_or_concat later
    · obtain ⟨rfl, hlast⟩ := List.append_inj' hcalls rfl
      exact .inl ⟨by simpa using hlast, hid⟩
    · rw [List.concat_eq_append, ← List.cons_append, ← List.append_assoc] at hcalls
      obtain ⟨rfl, hlast⟩ := List.append_inj' hcalls rfl
      obtain rfl : call = last := by simpa using hlast
      rw [List.concat_eq_append, List.forall_mem_append, List.forall_mem_singleton] at hlater
      exact .inr ⟨⟨before, later, rfl, hid, hlater.1⟩, hlater.2⟩
  · rintro (⟨rfl, hid⟩ | ⟨⟨before, later, rfl, hid, hlater⟩, hcall⟩)
    · exact ⟨calls, [], rfl, hid, nofun⟩
    · refine ⟨before, later ++ [call], by simp, hid, ?_⟩
      exact List.forall_mem_append.mpr ⟨hlater, List.forall_mem_singleton.mpr hcall⟩

/-- A table keeps just the waits that are outstanding. -/
theorem mem_waiting_iff (id : Nat) : id ∈ (ofCalls calls).waiting ↔ Outstanding calls id := by
  induction calls using List.reverseRecOn with
  | nil =>
    refine iff_of_false List.not_mem_nil ?_
    rintro ⟨before, later, hcalls, -⟩
    simp at hcalls
  | append_singleton calls call ih =>
    rw [ofCalls_concat, mem_waiting_perform (sound_ofCalls calls), outstanding_concat, ih,
      issued_ofCalls]

/-- An outcome comes from a call that concerned a wait while it was outstanding. -/
private theorem exists_of_outcome? {id : Nat} {outcome : Reply S}
    (ho : (ofCalls calls).outcome? id = some outcome) :
    ∃ before call later, calls = before ++ call :: later ∧ Outstanding before id ∧
      call.verdict? id = some outcome := by
  induction calls using List.reverseRecOn with
  | nil => cases ho
  | append_singleton calls call ih =>
    rw [ofCalls_concat, outcome?_perform (sound_ofCalls calls)] at ho
    split at ho
    next hw => exact ⟨calls, call, [], rfl, (mem_waiting_iff calls id).mp hw, ho⟩
    next =>
      obtain ⟨before, decider, later, rfl, hout, hv⟩ := ih ho
      exact ⟨before, decider, later ++ [call], by simp, hout, hv⟩

/-- An outcome stays, whatever calls follow. -/
theorem outcome?_append {id : Nat} {outcome : Reply S}
    (ho : (ofCalls calls).outcome? id = some outcome) (later : List (Call S)) :
    (ofCalls (calls ++ later)).outcome? id = some outcome := by
  rw [ofCalls_append]
  exact (sound_ofCalls calls).outcome?_foldl ho later

/-- The first verdict on an outstanding wait is its outcome for good, whatever is called later. -/
private theorem outcome?_of_verdict? {id : Nat} (hout : Outstanding calls id) {call : Call S}
    {outcome : Reply S} (hv : call.verdict? id = some outcome) (later : List (Call S)) :
    (ofCalls (calls ++ call :: later)).outcome? id = some outcome := by
  have hcall : (ofCalls (calls ++ [call])).outcome? id = some outcome := by
    rw [ofCalls_concat, outcome?_perform (sound_ofCalls calls),
      if_pos ((mem_waiting_iff calls id).mpr hout), hv]
  have hlater := outcome?_append (calls ++ [call]) hcall later
  rwa [List.append_assoc] at hlater

/-- Every wait is outstanding or was completed by one call, so the two numbers add up to those
begun. -/
private theorem count_add_completed :
    (ofCalls calls).count + ((empty.answers calls).map Answer.completed).sum = created calls := by
  induction calls using List.reverseRecOn with
  | nil => rfl
  | append_singleton calls call ih =>
    have hcall := count_perform (r := ofCalls calls) call
    rw [ofCalls_concat, answers_concat, created_concat, List.map_append, List.sum_append,
      List.map_singleton, List.sum_singleton]
    omega

/-- Whatever calls are made on a table, every wait that was begun is completed at most once. -/
theorem exactlyOnce : ExactlyOnce calls where
  numbers := begun_answers calls
  distinct := by
    rw [begun_answers]
    exact List.nodup_range'
  outstanding_iff id := by
    have hs := sound_ofCalls calls
    rw [← mem_waiting_iff, begun_answers, List.mem_range'_1, ← issued_ofCalls]
    constructor
    · intro hw
      -- numbers are given out in order, so those in use are an interval
      obtain ⟨hpos, hle⟩ := hs.begun id (.inl hw)
      exact ⟨⟨hpos, by omega⟩, hs.unsettled id hw⟩
    · rintro ⟨⟨hpos, hlt⟩, hnone⟩
      refine (hs.covered id hpos (by omega)).resolve_right ?_
      simp [hnone]
  found call id hcall := by
    have hfound (outcome : Reply S) :
        ((ofCalls calls).settle id outcome).1 = true ↔ Outstanding calls id := by
      rw [← mem_waiting_iff, settle]
      split <;> simp_all
    obtain ⟨packet, rfl⟩ | ⟨e, rfl⟩ := hcall <;> exact ⟨_, rfl, hfound _⟩
  settled e := ⟨(ofCalls calls).waiting, (sound_ofCalls calls).nodup, mem_waiting_iff calls, rfl⟩
  decides id call outcome later hout hv := outcome?_of_verdict? calls hout hv later
  decided id outcome ho := exists_of_outcome? calls ho
  stays id outcome later ho := outcome?_append calls ho later
  count := count_add_completed calls

end Runs

end Replies

end PacketSession
