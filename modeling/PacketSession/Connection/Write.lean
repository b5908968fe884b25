import PacketSession.Connection.Queue
import PacketSession.Error

/-!
# Waiting for writes

A connection answers a frame at once, but may write it later. A `WriteHandle` stands for one
such write; writes still to be completed are numbered, and a `WriteTable` knows their
outcomes. A `SendHandle` stands for all writes of one send, in the order of submission. It is
done when the last write is, or with the first failure in that order, whatever the order of
completion; a write that is given up counts as failed.
-/

namespace PacketSession

/-- The number of a write that completes later. -/
abbrev WriteId := Nat

/-- The outcome of a write. -/
abbrev WriteResult := Except TransportError Unit

/-- One write. -/
inductive WriteHandle
  /-- It completes later. -/
  | pending (id : WriteId)
  /-- It completed at once. -/
  | ready (result : WriteResult)
  /-- Its outcome was taken already. -/
  | spent

/-- The outcomes of numbered writes. -/
structure WriteTable where
  /-- The number of the next write. -/
  next : WriteId
  /-- The outcomes so far. -/
  outcomes : List (WriteId × WriteResult)

namespace WriteTable

/-- A table without writes. -/
def empty : WriteTable := ⟨0, []⟩

/-- A new write that completes later. -/
def create (t : WriteTable) : WriteId × WriteTable := (t.next, { t with next := t.next + 1 })

/-- The outcome of a write, once it has one. -/
def outcome? (t : WriteTable) (id : WriteId) : Option WriteResult := t.outcomes.lookup id

/-- Whether a write was begun and has no outcome yet. -/
def isWaiting (t : WriteTable) (id : WriteId) : Bool :=
  decide (id < t.next) && (t.outcome? id).isNone

/-- Gives a write its outcome, if it has none yet. -/
def settle (t : WriteTable) (id : WriteId) (result : WriteResult) : WriteTable :=
  if t.isWaiting id then { t with outcomes := (id, result) :: t.outcomes } else t

/-- Gives up a write: nobody is left who could complete it. -/
def abandon (t : WriteTable) (id : WriteId) : WriteTable := t.settle id (.error .writerGone)

/-- Gives writes their outcomes, one after the other. -/
def settleAll (t : WriteTable) (settled : List (WriteId × WriteResult)) : WriteTable :=
  settled.foldl (fun t entry => t.settle entry.1 entry.2) t

variable {t : WriteTable} {id : WriteId}

theorem next_settle (t : WriteTable) (id : WriteId) (result : WriteResult) :
    (t.settle id result).next = t.next := by
  unfold settle
  split <;> rfl

/-- A write keeps the outcome that it has; otherwise it gets the one that it is given, if it was
begun. -/
theorem outcome?_settle_eq (t : WriteTable) (id : WriteId) (result : WriteResult)
    (other : WriteId) :
    (t.settle id result).outcome? other =
      (t.outcome? other).or (if other = id ∧ other < t.next then some result else none) := by
  rw [settle]
  by_cases ho : other = id
  · subst ho
    cases hn : t.outcome? other with
    | some first => simp [isWaiting, hn]
    | none =>
      have hwaiting : t.isWaiting other = decide (other < t.next) := by simp [isWaiting, hn]
      rw [hwaiting]
      by_cases hlt : other < t.next
      · simp [hlt, outcome?]
      · simp [hlt, hn]
  · have hne : (other == id) = false := by simpa using ho
    split <;> simp [outcome?, ho, List.lookup_cons, hne]

theorem outcome?_settle (hid : id < t.next) (hn : t.outcome? id = none)
    (result : WriteResult) (other : WriteId) :
    (t.settle id result).outcome? other = if other = id then some result else t.outcome? other := by
  rw [outcome?_settle_eq]
  by_cases ho : other = id
  · subst ho
    simp [hid, hn]
  · simp [ho]

theorem outcome?_settle_of_some {result : WriteResult} (h : t.outcome? id = some result)
    (other : WriteId) (more : WriteResult) :
    (t.settle other more).outcome? id = some result := by
  rw [outcome?_settle_eq, h, Option.some_or]

theorem next_settleAll (t : WriteTable) (settled : List (WriteId × WriteResult)) :
    (t.settleAll settled).next = t.next := by
  induction settled generalizing t with
  | nil => rfl
  | cons entry settled ih => exact (ih _).trans (t.next_settle entry.1 entry.2)

/-- Of several outcomes that a write is given, the first one counts. -/
theorem outcome?_settleAll_eq (t : WriteTable) (settled : List (WriteId × WriteResult))
    (id : WriteId) :
    (t.settleAll settled).outcome? id =
      (t.outcome? id).or (if id < t.next then settled.lookup id else none) := by
  induction settled generalizing t with
  | nil => simp [settleAll]
  | cons entry settled ih =>
    obtain ⟨other, first⟩ := entry
    rw [settleAll, List.foldl_cons, ← settleAll, ih, next_settle, outcome?_settle_eq,
      Option.or_assoc, List.lookup_cons]
    congr 1
    by_cases ho : id = other
    · subst ho
      by_cases hlt : id < t.next <;> simp [hlt]
    · have hne : (id == other) = false := by simpa using ho
      simp [ho, hne]

/-- Where no write is named twice, the outcome of each is the one that it is named with. -/
theorem lookup_eq_some_iff_mem {settled : List (WriteId × WriteResult)}
    (hd : (settled.map Prod.fst).Nodup) {result : WriteResult} :
    settled.lookup id = some result ↔ (id, result) ∈ settled := by
  induction settled with
  | nil => simp
  | cons entry settled ih =>
    obtain ⟨other, first⟩ := entry
    obtain ⟨hnew, hd⟩ := List.nodup_cons.mp hd
    rw [List.lookup_cons, List.mem_cons, Prod.mk.injEq]
    by_cases ho : id = other
    · subst ho
      have hnotin : (id, result) ∉ settled := fun hmem =>
        hnew (List.mem_map.mpr ⟨_, hmem, rfl⟩)
      simp [hnotin, eq_comm]
    · have hne : (id == other) = false := by simpa using ho
      simp [ho, hne, ih hd]

end WriteTable

namespace WriteHandle

/-- The outcome of a write, given the outcomes of numbered ones. -/
def outcome? (outcomes : WriteId → Option WriteResult) : WriteHandle → Option WriteResult
  | pending id => outcomes id
  | ready result => some result
  | spent => some (.error .writerGone)

/-- Asks for the outcome; an outcome that was there at once is given only once. -/
def poll (outcomes : WriteId → Option WriteResult) (h : WriteHandle) :
    Option WriteResult × WriteHandle :=
  match h with
  | ready _ => (h.outcome? outcomes, spent)
  | _ => (h.outcome? outcomes, h)

/-- Whether a handle waits for the write of this number. -/
def waitsFor (id : WriteId) : WriteHandle → Bool
  | pending other => other = id
  | _ => false

end WriteHandle

/-- All writes of one send. -/
structure SendHandle where
  /-- The writes whose outcome is still to be taken, in order of submission. -/
  writes : Queue WriteHandle
  /-- The number of frames that the send produced. -/
  frames : Nat

namespace SendHandle

/-- A send without frames. -/
def empty : SendHandle := ⟨.empty, 0⟩

/-- Adds the next write. -/
def push (h : SendHandle) (write : WriteHandle) : SendHandle :=
  ⟨h.writes.push write, h.frames + 1⟩

/-- Adds the writes of another send behind those of the first. -/
def append (h other : SendHandle) : SendHandle :=
  ⟨.ofList (h.writes.toList ++ other.writes.toList), h.frames + other.frames⟩

/-- Takes outcomes from the front up to the first that is missing or a failure. -/
def pollWrites (outcomes : WriteId → Option WriteResult) :
    List WriteHandle → Option WriteResult × List WriteHandle
  | [] => (some (.ok ()), [])
  | write :: writes =>
    match write.outcome? outcomes with
    | none => (none, write :: writes)
    | some (.ok ()) => pollWrites outcomes writes
    | some (.error e) => (some (.error e), [])

/-- Asks whether all writes are done; a failure ends the waiting. -/
def poll (outcomes : WriteId → Option WriteResult) (h : SendHandle) :
    Option WriteResult × SendHandle :=
  let (result, writes) := pollWrites outcomes h.writes.toList
  (result, ⟨.ofList writes, h.frames⟩)

/-- Whether a handle waits for the write of this number. -/
def waitsFor (id : WriteId) (h : SendHandle) : Bool :=
  h.writes.toList.any (WriteHandle.waitsFor id)

end SendHandle

end PacketSession
