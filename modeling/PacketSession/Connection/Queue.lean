/-!
# Queues

A first-in first-out queue as two lists, so that both ends are cheap. Its meaning is the list
`toList` of its members, oldest first.
-/

namespace PacketSession

/-- A queue: the members to be taken next, and behind them the latest, latest first. -/
structure Queue (α : Type) where
  /-- The oldest members, oldest first. -/
  front : List α
  /-- The latest members, latest first. -/
  back : List α

namespace Queue

variable {α : Type}

/-- A queue without members. -/
def empty : Queue α := ⟨[], []⟩

/-- The members, oldest first. -/
def toList (q : Queue α) : List α := q.front ++ q.back.reverse

/-- The queue of these members, oldest first. -/
def ofList (members : List α) : Queue α := ⟨members, []⟩

/-- Adds a member at the end. -/
def push (q : Queue α) (a : α) : Queue α := ⟨q.front, a :: q.back⟩

/-- Takes the oldest member. -/
def pop? (q : Queue α) : Option (α × Queue α) :=
  match q.front with
  | a :: front => some (a, ⟨front, q.back⟩)
  | [] =>
    match q.back.reverse with
    | a :: front => some (a, ⟨front, []⟩)
    | [] => none

@[simp] theorem toList_empty : (empty : Queue α).toList = [] := rfl

@[simp] theorem toList_ofList (members : List α) : (ofList members).toList = members := by
  simp [ofList, toList]

@[simp] theorem toList_push (q : Queue α) (a : α) : (q.push a).toList = q.toList ++ [a] := by
  simp [push, toList]

/-- Taking gives the head of the list of members and leaves its tail. -/
theorem toList_pop? (q : Queue α) :
    q.pop?.map (fun taken => (taken.1, taken.2.toList)) =
      match q.toList with
      | [] => none
      | a :: rest => some (a, rest) := by
  obtain ⟨front, back⟩ := q
  cases front with
  | cons a front => simp [pop?, toList]
  | nil =>
    simp only [pop?, toList, List.nil_append]
    cases back.reverse <;> simp

variable {q : Queue α}

theorem toList_of_pop?_none (h : q.pop? = none) : q.toList = [] := by
  have hpop := q.toList_pop?
  rw [h] at hpop
  split at hpop <;> simp_all

theorem toList_of_pop? {a : α} {rest : Queue α} (h : q.pop? = some (a, rest)) :
    q.toList = a :: rest.toList := by
  have hpop := q.toList_pop?
  rw [h] at hpop
  split at hpop <;> simp_all

end Queue

end PacketSession
