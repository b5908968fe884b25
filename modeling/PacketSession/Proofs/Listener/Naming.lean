import Mathlib.Data.List.Induction
import Mathlib.Data.List.Nodup
import PacketSession.Listener.Chain

/-!
# Names and places in a chain

A chain is found by its names: where a new listener goes, which one leaves and which one is asked
for. All of that rests on names being distinct, which every call keeps. `Chain.add_cases` lists
what adding a listener can come to. It is refused for its own name first and for its neighbour
second, and otherwise one entry is put in at its place (`Chain.Inserted`) while all others stay as
they are. What calls from an empty chain lead to is collected in `Chain.orderly_ofCalls`; which
listener goes by a name is said of the calls alone (`Chain.LastPut`).

A chain may be changed in place as well (`ChainM`). Names are looked up before anything is written,
so a refused call leaves no trace (`Chain.run_add`).
-/

namespace PacketSession

variable {L : Type}

/-- The neighbour that a position names. -/
def Position.anchor? : Position → Option String
  | first | last => none
  | before name | after name => some name

namespace Chain

/-! ### Entries by name -/

variable {c : Chain L} {name : String}

@[simp]
theorem names_mk (entries : List (String × L)) :
    names ⟨entries⟩ = entries.map Prod.fst := rfl

/-- A name that does not occur is told from the name of every entry. -/
theorem notMem_names_iff :
    name ∉ c.names ↔ ∀ entry ∈ c.entries, decide (entry.1 = name) = false := by
  simp only [names, List.mem_map, not_exists, not_and, decide_eq_false_iff_not]

/-- A chain with a name splits at the first listener of this name, and no listener ahead of that has
it. -/
private theorem mem_names_iff_exists_append :
    name ∈ c.names ↔ ∃ ahead listener behind, c.entries = ahead ++ (name, listener) :: behind ∧
      name ∉ ahead.map Prod.fst := by
  constructor
  · intro hn
    obtain ⟨entry, hf⟩ : ∃ entry, c.entries.find? (fun entry => entry.1 = name) = some entry := by
      rw [← Option.isSome_iff_exists, List.find?_isSome]
      simpa [names] using hn
    obtain ⟨hname, ahead, behind, hsplit, hahead⟩ := List.find?_eq_some_iff_append.mp hf
    obtain rfl : entry.1 = name := by simpa using hname
    refine ⟨ahead, entry.2, behind, hsplit, notMem_names_iff.mpr fun other ho => ?_⟩
    simpa using hahead other ho
  · rintro ⟨ahead, listener, behind, hsplit, -⟩
    simp [names, hsplit]

private theorem index?_eq_none_iff : c.index? name = none ↔ name ∉ c.names := by
  rw [index?, List.findIdx?_eq_none_iff, notMem_names_iff]

private theorem get?_eq_none_iff : c.get? name = none ↔ name ∉ c.names := by
  simp [get?, notMem_names_iff]

section Split

variable {ahead behind : List (String × L)} (listener : L) (ha : name ∉ ahead.map Prod.fst)

include ha

/-- The index of the first listener of a name is the number of listeners ahead. -/
private theorem index?_append : index?
    ⟨ahead ++ (name, listener) :: behind⟩ name = some ahead.length := by
  have hnone : ahead.findIdx? (fun entry => entry.1 = name) = none := index?_eq_none_iff.mpr ha
  simp [index?, List.findIdx?_append, hnone, List.findIdx?_cons]

private theorem get?_append : get? ⟨ahead ++ (name, listener) :: behind⟩ name = some listener := by
  have hnone : ahead.find? (fun entry => entry.1 = name) = none := by
    simpa using notMem_names_iff.mp ha
  simp [get?, List.find?_append, hnone]

/-- A removal takes out the first listener of the name, and closes the gap. -/
private theorem remove_append :
    remove ⟨ahead ++ (name, listener) :: behind⟩ name = (some listener, ⟨ahead ++ behind⟩) := by
  simp [remove, index?_append listener ha, List.eraseIdx_append_of_length_le]

end Split

/-- An entry is not found under another name. -/
theorem get?_append_of_ne {other : String} (hne : name ≠ other) (listener : L)
    (ahead behind : List (String × L)) :
    get? ⟨ahead ++ (other, listener) :: behind⟩ name = get? ⟨ahead ++ behind⟩ name := by
  simp [get?, List.find?_append, hne.symm]

/-- A name that does not occur has no listener to be removed. -/
theorem remove_of_notMem (hn : name ∉ c.names) : c.remove name = (none, c) := by
  rw [remove, index?_eq_none_iff.mpr hn]

/-- A name that occurs has its listener removed and nothing else. -/
theorem exists_remove (hn : name ∈ c.names) :
    ∃ ahead listener behind, c.entries = ahead ++ (name, listener) :: behind ∧
      c.get? name = some listener ∧ c.remove name = (some listener, ⟨ahead ++ behind⟩) := by
  obtain ⟨ahead, listener, behind, hsplit, ha⟩ := mem_names_iff_exists_append.mp hn
  obtain rfl : c = ⟨ahead ++ (name, listener) :: behind⟩ := congrArg mk hsplit
  exact ⟨ahead, listener, behind, rfl, get?_append listener ha, remove_append listener ha⟩

/-! ### What adding a listener comes to -/

/-- Entries with one more at a position, all others being as before. -/
inductive Inserted (entry : String × L) :
    Position → List (String × L) → List (String × L) → Prop
  /-- In front of all others. -/
  | first (entries : List (String × L)) : Inserted entry .first entries (entry :: entries)
  /-- Behind all others. -/
  | last (entries : List (String × L)) : Inserted entry .last entries (entries ++ [entry])
  /-- Right in front of its neighbour. -/
  | before (ahead : List (String × L)) (anchor : String) (listener : L)
      (behind : List (String × L)) :
      Inserted entry (.before anchor) (ahead ++ (anchor, listener) :: behind)
        (ahead ++ entry :: (anchor, listener) :: behind)
  /-- Right behind its neighbour. -/
  | after (ahead : List (String × L)) (anchor : String) (listener : L)
      (behind : List (String × L)) :
      Inserted entry (.after anchor) (ahead ++ (anchor, listener) :: behind)
        (ahead ++ (anchor, listener) :: entry :: behind)

/-- Wherever a listener is inserted, it stands between two parts of the chain as it was. -/
private theorem Inserted.exists_append {entry : String × L} {position : Position}
    {entries entries' : List (String × L)} (h : Inserted entry position entries entries') :
    ∃ ahead behind, entries = ahead ++ behind ∧ entries' = ahead ++ entry :: behind := by
  cases h with
  | first => exact ⟨[], _, rfl, rfl⟩
  | last => exact ⟨_, [], (List.append_nil _).symm, rfl⟩
  | before ahead anchor listener behind => exact ⟨ahead, _, rfl, rfl⟩
  | after ahead anchor listener behind =>
    exact ⟨ahead ++ [(anchor, listener)], behind, by simp, by simp⟩

private theorem insertIdx_length_append {α : Type} (ahead behind : List α) (a : α) :
    (ahead ++ behind).insertIdx ahead.length a = ahead ++ a :: behind := by
  induction ahead with
  | nil => exact List.insertIdx_zero
  | cons b ahead ih => exact congrArg (b :: ·) ih

variable {listener : L} {position : Position}

/-- A name that is taken is refused before the position is looked at. -/
private theorem add_of_mem (hn : name ∈ c.names) :
    c.add name listener position = .error (.duplicateListener name) := by
  cases hi : c.index? name with
  | none => exact absurd hn (index?_eq_none_iff.mp hi)
  | some index => rw [add, hi]

/-- With a name that is free, an addition fails just where the position does. -/
private theorem add_of_place (hn : name ∉ c.names) :
    c.add name listener position = (c.place position).map fun index =>
      ⟨c.entries.insertIdx index (name, listener)⟩ := by
  rw [add, index?_eq_none_iff.mpr hn]
  dsimp only
  cases c.place position <;> rfl

/-- A position whose neighbour is missing stands for no place. -/
private theorem place_of_notMem {anchor : String} (hp : position.anchor? = some anchor)
    (ha : anchor ∉ c.names) : c.place position = .error (.unknownListener anchor) := by
  cases position with
  | first | last => cases hp
  | before other | after other =>
    obtain rfl := Option.some.inj hp
    rw [place, index?_eq_none_iff.mpr ha]

/-- Every other position stands for the place where an entry is put in. -/
private theorem exists_place (entry : String × L)
    (hp : ∀ anchor, position.anchor? = some anchor → anchor ∈ c.names) :
    ∃ index, c.place position = .ok index ∧
      Inserted entry position c.entries (c.entries.insertIdx index entry) := by
  cases position with
  | first => exact ⟨0, rfl, List.insertIdx_zero ▸ .first _⟩
  | last => exact ⟨c.count, rfl, List.insertIdx_length_self ▸ .last _⟩
  | before anchor =>
    obtain ⟨ahead, l, behind, hsplit, ha⟩ := mem_names_iff_exists_append.mp (hp anchor rfl)
    obtain rfl : c = ⟨ahead ++ (anchor, l) :: behind⟩ := congrArg mk hsplit
    refine ⟨ahead.length, by rw [place, index?_append l ha], ?_⟩
    rw [insertIdx_length_append]
    exact .before ahead anchor l behind
  | after anchor =>
    obtain ⟨ahead, l, behind, hsplit, ha⟩ := mem_names_iff_exists_append.mp (hp anchor rfl)
    obtain rfl : c = ⟨ahead ++ (anchor, l) :: behind⟩ := congrArg mk hsplit
    refine ⟨ahead.length + 1, by rw [place, index?_append l ha], ?_⟩
    have hput := insertIdx_length_append (ahead ++ [(anchor, l)]) behind entry
    rw [List.length_append, List.append_assoc, List.append_assoc] at hput
    exact hput ▸ .after ahead anchor l behind

/-- What a call to add a listener can come to: its name is in use, its neighbour is missing, or one
entry is put in. -/
theorem add_cases (c : Chain L) (name : String) (listener : L) (position : Position) :
    (name ∈ c.names ∧ c.add name listener position = .error (.duplicateListener name)) ∨
    (name ∉ c.names ∧ ∃ anchor, position.anchor? = some anchor ∧ anchor ∉ c.names ∧
      c.add name listener position = .error (.unknownListener anchor)) ∨
    (name ∉ c.names ∧ (∀ anchor, position.anchor? = some anchor → anchor ∈ c.names) ∧
      ∃ entries, Inserted (name, listener) position c.entries entries ∧
        c.add name listener position = .ok ⟨entries⟩) := by
  by_cases hn : name ∈ c.names
  · exact .inl ⟨hn, add_of_mem hn⟩
  by_cases hp : ∀ anchor, position.anchor? = some anchor → anchor ∈ c.names
  · obtain ⟨index, hi, hput⟩ := exists_place (name, listener) hp
    refine .inr (.inr ⟨hn, hp, _, hput, ?_⟩)
    rw [add_of_place hn, hi]
    rfl
  · push Not at hp
    obtain ⟨anchor, hanchor, ha⟩ := hp
    refine .inr (.inl ⟨hn, anchor, hanchor, ha, ?_⟩)
    rw [add_of_place hn, place_of_notMem hanchor ha]
    rfl

theorem add_first_of_notMem (hn : name ∉ c.names) :
    c.add name listener .first = .ok ⟨(name, listener) :: c.entries⟩ := by
  rw [add_of_place hn, place, Except.map, List.insertIdx_zero]

theorem add_last_of_notMem (hn : name ∉ c.names) :
    c.add name listener .last = .ok ⟨c.entries ++ [(name, listener)]⟩ := by
  rw [add_of_place hn, place, Except.map, count, List.insertIdx_length_self]

/-- A listener that was added has been put in under a new name somewhere. -/
theorem exists_append_of_add {c' : Chain L} (h : c.add name listener position = .ok c') :
    name ∉ c.names ∧ ∃ ahead behind, c = ⟨ahead ++ behind⟩ ∧
      c' = ⟨ahead ++ (name, listener) :: behind⟩ := by
  obtain ⟨-, he⟩ | ⟨-, _, -, -, he⟩ | ⟨hn, -, entries, hput, hok⟩ :=
    add_cases c name listener position
  · simp [he] at h
  · simp [he] at h
  · obtain rfl : ⟨entries⟩ = c' := by simpa [hok] using h
    obtain ⟨ahead, behind, hsplit, rfl⟩ := hput.exists_append
    exact ⟨hn, ahead, behind, congrArg mk hsplit, rfl⟩

theorem add_first {c' : Chain L} (h : c.add name listener .first = .ok c') :
    c' = ⟨(name, listener) :: c.entries⟩ := by
  rw [add_first_of_notMem (exists_append_of_add h).1] at h
  exact (Except.ok.inj h).symm

theorem add_last {c' : Chain L} (h : c.add name listener .last = .ok c') :
    c' = ⟨c.entries ++ [(name, listener)]⟩ := by
  rw [add_last_of_notMem (exists_append_of_add h).1] at h
  exact (Except.ok.inj h).symm

/-- Removing a listener that was added gives the chain back. -/
private theorem remove_of_add {c' : Chain L} (h : c.add name listener position = .ok c') :
    c'.remove name = (some listener, c) := by
  obtain ⟨hn, ahead, behind, rfl, rfl⟩ := exists_append_of_add h
  rw [names_mk, List.map_append, List.mem_append, not_or] at hn
  exact remove_append listener hn.1

end Chain

/-! ### Chains that are changed in place -/

/-- A change to a chain in place; a change that fails leaves what it has written. -/
abbrev ChainM (L : Type) := ExceptT RegistrationError (StateM (Chain L))

namespace ChainM

/-- The place of a listener that has to be there. -/
def find (name : String) : ChainM L Nat := do
  match (← get).index? name with
  | some index => return index
  | none => throw (.unknownListener name)

/-- The place that a position stands for. -/
def place : Position → ChainM L Nat
  | .first => return 0
  | .last => return (← get).count
  | .before anchor => find anchor
  | .after anchor => return (← find anchor) + 1

/-- Adds a listener under a new name: looks for the name, then for the neighbour, then writes. -/
def add (name : String) (listener : L) (position : Position) : ChainM L Unit := do
  if ((← get).index? name).isSome then throw (.duplicateListener name)
  let index ← place position
  modify fun c => ⟨c.entries.insertIdx index (name, listener)⟩

theorem run_get_bind {α : Type} (f : Chain L → ChainM L α) (c : Chain L) :
    (get >>= f : ChainM L α).run.run c = (f c).run.run c := rfl

private theorem run_find (c : Chain L) (name : String) :
    (find name).run.run c = (match c.index? name with
      | some index => .ok index
      | none => .error (.unknownListener name), c) := by
  rw [find, run_get_bind]
  cases c.index? name <;> rfl

private theorem run_place (c : Chain L) (position : Position) :
    (place position).run.run c = (c.place position, c) := by
  cases position with
  | first | last => rfl
  | before anchor => exact run_find c anchor
  | after anchor =>
    have hf := run_find c anchor
    rw [place, Chain.place, ExceptT.run_bind, StateT.run_bind, hf]
    cases c.index? anchor <;> rfl

end ChainM

namespace Chain

variable {c : Chain L}

/-- What a call to add a listener is answered, with the chain that it leaves: a call that is refused
leaves it as it is. -/
def attempt (c : Chain L) (name : String) (listener : L) (position : Position) :
    Except RegistrationError Unit × Chain L :=
  match c.add name listener position with
  | .ok c' => (.ok (), c')
  | .error cause => (.error cause, c)

/-- A chain that is changed in place has the answers of one that is not, and a call that is refused
has not written anything. -/
theorem run_add (c : Chain L) (name : String) (listener : L) (position : Position) :
    (ChainM.add name listener position).run.run c = c.attempt name listener position := by
  have hp := ChainM.run_place c position
  rw [ChainM.add, ChainM.run_get_bind, attempt, Chain.add]
  cases c.index? name with
  | some index => rfl
  | none =>
    rw [if_neg (by simp)]
    dsimp only
    rw [ExceptT.run_bind, StateT.run_bind, hp]
    cases c.place position <;> rfl

/-! ### Calls -/

/-- One call on a chain. -/
inductive Call (L : Type)
  /-- Adds a listener. -/
  | add (name : String) (listener : L) (position : Position)
  /-- Removes the listener of a name. -/
  | remove (name : String)

/-- What a call is answered. -/
inductive Answer (L : Type)
  /-- Whether a listener was added, or why not. -/
  | added (result : Except RegistrationError Unit)
  /-- The listener that was removed, if there was one. -/
  | removed (listener? : Option L)

/-- What a call is answered. -/
def answer (c : Chain L) : Call L → Answer L
  | .add name listener position => .added (c.attempt name listener position).1
  | .remove name => .removed (c.remove name).1

/-- What a call makes of a chain. -/
def perform (c : Chain L) : Call L → Chain L
  | .add name listener position => (c.attempt name listener position).2
  | .remove name => (c.remove name).2

/-- A chain after some calls. -/
def ofCalls (calls : List (Call L)) : Chain L := calls.foldl perform empty

/-- A call on a chain that is changed in place. -/
def Call.run : Call L → StateM (Chain L) (Answer L)
  | .add name listener position => .added <$> (ChainM.add name listener position).run
  | .remove name => .removed <$> modifyGet fun c => c.remove name

/-- A call puts a listener under a name: it is a call to add it there and is not refused. -/
def Puts (c : Chain L) (call : Call L) (name : String) (listener : L) : Prop :=
  ∃ position, call = .add name listener position ∧ c.answer call = .added (.ok ())

/-- A listener is the last one that was put under a name. -/
def LastPut (calls : List (Call L)) (name : String) (listener : L) : Prop :=
  ∃ before call later, calls = before ++ call :: later ∧
    (ofCalls before).Puts call name listener ∧
    ∀ between next rest, later = between ++ next :: rest →
      ∀ other, ¬ (ofCalls (before ++ call :: between)).Puts next name other

/-- Whatever calls are made, a chain keeps distinct names and the order of its listeners. -/
structure Orderly (calls : List (Call L)) : Prop where
  /-- No name is used twice. -/
  distinct : (ofCalls calls).names.Nodup
  /-- A listener is added just if its name is new and its neighbour, if one is named, is there. -/
  adds_iff (name : String) (listener : L) (position : Position) :
    (∃ c, (ofCalls calls).add name listener position = .ok c) ↔
      name ∉ (ofCalls calls).names ∧
        ∀ anchor, position.anchor? = some anchor → anchor ∈ (ofCalls calls).names
  /-- Otherwise the name is what it is refused for, and only if this is new, the neighbour. -/
  refuses_iff (name : String) (listener : L) (position : Position) (cause : RegistrationError) :
    (ofCalls calls).add name listener position = .error cause ↔
      (name ∈ (ofCalls calls).names ∧ cause = .duplicateListener name) ∨
      (name ∉ (ofCalls calls).names ∧ ∃ anchor, position.anchor? = some anchor ∧
        anchor ∉ (ofCalls calls).names ∧ cause = .unknownListener anchor)
  /-- One entry is put in where the position says, and all others stay as they are. -/
  inserts (name : String) (listener : L) (position : Position) (c : Chain L) :
    (ofCalls calls).add name listener position = .ok c →
      Inserted (name, listener) position (ofCalls calls).entries c.entries
  /-- Removing the name again gives the listener, and the chain back. -/
  undoes (name : String) (listener : L) (position : Position) (c : Chain L) :
    (ofCalls calls).add name listener position = .ok c →
      c.remove name = (some listener, ofCalls calls)
  /-- Removing a name takes its entry out, and all others stay as they are. -/
  removes (name : String) : name ∈ (ofCalls calls).names →
    ∃ ahead listener behind, (ofCalls calls).entries = ahead ++ (name, listener) :: behind ∧
      (ofCalls calls).get? name = some listener ∧
        (ofCalls calls).remove name = (some listener, ⟨ahead ++ behind⟩)
  /-- A call to add a listener that is refused changes nothing. -/
  keepsRefused (name : String) (listener : L) (position : Position) (cause : RegistrationError) :
    (ofCalls calls).answer (.add name listener position) = .added (.error cause) →
      (ofCalls calls).perform (.add name listener position) = ofCalls calls
  /-- A call to remove a name that is not there changes nothing. -/
  keepsAbsent (name : String) : name ∉ (ofCalls calls).names →
    (ofCalls calls).answer (.remove name) = .removed none ∧
      (ofCalls calls).perform (.remove name) = ofCalls calls
  /-- All this is so for a chain that is changed in place. -/
  inPlace (call : Call L) :
    call.run.run (ofCalls calls) = ((ofCalls calls).answer call, (ofCalls calls).perform call)
  /-- A name that is there has the listener that was put under it last. -/
  get_iff (name : String) (listener : L) :
    (ofCalls calls).get? name = some listener ↔
      name ∈ (ofCalls calls).names ∧ LastPut calls name listener
  /-- Any other name has none. -/
  get_none_iff (name : String) :
    (ofCalls calls).get? name = none ↔ name ∉ (ofCalls calls).names
  /-- A name is there just if a listener was put under it and it was not removed since. -/
  present_iff (name : String) :
    name ∈ (ofCalls calls).names ↔
      ∃ before call later listener, calls = before ++ call :: later ∧
        (ofCalls before).Puts call name listener ∧ .remove name ∉ later

section Steps

variable {call : Call L}

/-- A call to add a listener is refused or puts one in. -/
theorem attempt_cases (c : Chain L) (name : String) (listener : L) (position : Position) :
    (∃ cause, c.attempt name listener position = (.error cause, c)) ∨
    (name ∉ c.names ∧ ∃ ahead behind, c = ⟨ahead ++ behind⟩ ∧
      c.attempt name listener position = (.ok (), ⟨ahead ++ (name, listener) :: behind⟩)) := by
  cases h : c.add name listener position with
  | error cause => exact .inl ⟨cause, by rw [attempt, h]⟩
  | ok c' =>
    obtain ⟨hn, ahead, behind, hc, rfl⟩ := exists_append_of_add h
    exact .inr ⟨hn, ahead, behind, hc, by rw [attempt, h]⟩

/-- A call on a chain in place answers what the calls on chains as values answer, and leaves what
they perform. -/
private theorem run_call (c : Chain L) (call : Call L) :
    call.run.run c = (c.answer call, c.perform call) := by
  cases call with
  | add name listener position =>
    have hrun := run_add c name listener position
    rw [Call.run, StateT.run_map, hrun]
    rfl
  | remove name => rfl

/-- The chain that calls make is made call by call, so histories can be taken apart at their last
call. -/
theorem ofCalls_concat (calls : List (Call L)) (call : Call L) :
    ofCalls (calls ++ [call]) = (ofCalls calls).perform call := by
  rw [ofCalls, List.foldl_append]
  rfl

/-- No call brings a name twice into a chain: an addition checks for it, and a removal only takes
out. -/
private theorem nodup_perform (hd : c.names.Nodup) (call : Call L) :
    (c.perform call).names.Nodup := by
  cases call with
  | add name listener position =>
    obtain ⟨cause, hc⟩ | ⟨hn, ahead, behind, rfl, hc⟩ := attempt_cases c name listener position
    · rwa [perform, hc]
    · rw [perform, hc, names_mk, List.map_append, List.map_cons, List.nodup_middle,
        ← List.map_append]
      exact List.nodup_cons.mpr ⟨hn, hd⟩
  | remove name =>
    by_cases hn : name ∈ c.names
    · obtain ⟨ahead, listener, behind, hsplit, -, hr⟩ := exists_remove hn
      rw [names, hsplit, List.map_append, List.map_cons] at hd
      rw [perform, hr, names_mk, List.map_append]
      exact hd.sublist (List.sublist_cons_self _ _ |>.append_left _)
    · rwa [perform, remove_of_notMem hn]

/-- A call may put a listener under a name or take it away; otherwise the name keeps what it has. -/
theorem get?_perform (hd : c.names.Nodup) (call : Call L) (name : String) (listener : L) :
    (c.perform call).get? name = some listener ↔
      c.Puts call name listener ∨ (c.get? name = some listener ∧ call ≠ .remove name) := by
  cases call with
  | add other new position =>
    -- a refused call leaves the chain as it was
    obtain ⟨cause, hc⟩ | ⟨hn, ahead, behind, rfl, hc⟩ := attempt_cases c other new position
    · simp [perform, Puts, answer, hc]
    · rw [perform, hc]
      obtain rfl | hne := eq_or_ne name other
      · have hnone := get?_eq_none_iff.mpr hn
        rw [names_mk, List.map_append, List.mem_append, not_or] at hn
        rw [get?_append new hn.1, hnone]
        simp [Puts, answer, hc]
      · rw [get?_append_of_ne hne]
        simp [Puts, hne.symm]
  | remove other =>
    by_cases hn : other ∈ c.names
    · obtain ⟨ahead, old, behind, hsplit, -, hr⟩ := exists_remove hn
      obtain rfl : c = ⟨ahead ++ (other, old) :: behind⟩ := congrArg mk hsplit
      rw [perform, hr]
      obtain rfl | hne := eq_or_ne name other
      · rw [names_mk, List.map_append, List.map_cons, List.nodup_middle, ← List.map_append,
          List.nodup_cons] at hd
        have hnone : get? ⟨ahead ++ behind⟩ name = none := get?_eq_none_iff.mpr hd.1
        simp [Puts, hnone]
      · rw [get?_append_of_ne hne]
        simp [Puts, hne.symm]
    · rw [perform, remove_of_notMem hn]
      obtain rfl | hne := eq_or_ne name other
      · simp [Puts, get?_eq_none_iff.mpr hn]
      · simp [Puts, hne.symm]

private theorem mem_names_iff_get? : name ∈ c.names ↔ ∃ listener, c.get? name = some listener := by
  rw [← not_iff_not, ← get?_eq_none_iff, Option.eq_none_iff_forall_ne_some, not_exists]

/-- Behind a call, a name is in the chain if the call puts a listener there or if it was and the
call does not remove it. -/
private theorem mem_names_perform (hd : c.names.Nodup) (call : Call L) (name : String) :
    name ∈ (c.perform call).names ↔
      (∃ listener, c.Puts call name listener) ∨ (name ∈ c.names ∧ call ≠ .remove name) := by
  simp only [mem_names_iff_get?, get?_perform hd, exists_or, exists_and_right]

/-- A name in use gets no other listener. -/
private theorem not_puts_of_mem (hn : name ∈ c.names) (call : Call L) (listener : L) :
    ¬ c.Puts call name listener := by
  rintro ⟨position, rfl, ha⟩
  simp [answer, attempt, add_of_mem hn] at ha

end Steps

/-! ### Runs -/

section Runs

/-- So the names of a chain are distinct whatever the calls were. -/
private theorem nodup_ofCalls (calls : List (Call L)) : (ofCalls calls).names.Nodup := by
  induction calls using List.reverseRecOn with
  | nil => exact List.nodup_nil
  | append_singleton calls call ih =>
    rw [ofCalls_concat]
    exact nodup_perform ih call

/-- A listener is the last one put under a name if it has just been put there, or was the last one
and none has been put there now. -/
private theorem lastPut_concat (calls : List (Call L)) (call : Call L) (name : String)
    (listener : L) : LastPut (calls ++ [call]) name listener ↔
      (ofCalls calls).Puts call name listener ∨
        (LastPut calls name listener ∧ ∀ other, ¬ (ofCalls calls).Puts call name other) := by
  constructor
  · rintro ⟨before, first, later, hcalls, hputs, hlater⟩
    -- the call that puts it there is the last one, or comes before it
    obtain rfl | ⟨later, last, rfl⟩ := List.eq_nil_or_concat later
    · obtain ⟨rfl, hlast⟩ := List.append_inj' hcalls rfl
      obtain rfl : call = first := by simpa using hlast
      exact .inl hputs
    · rw [List.concat_eq_append, ← List.cons_append, ← List.append_assoc] at hcalls
      obtain ⟨rfl, hlast⟩ := List.append_inj' hcalls rfl
      obtain rfl : call = last := by simpa using hlast
      refine .inr ⟨⟨before, first, later, rfl, hputs, ?_⟩, ?_⟩
      · rintro between next rest rfl
        exact hlater between next (rest ++ [call]) (by simp)
      · exact hlater later call [] List.concat_eq_append
  · rintro (hputs | ⟨⟨before, first, later, rfl, hputs, hlater⟩, hnot⟩)
    · exact ⟨calls, call, [], rfl, hputs, by simp⟩
    · refine ⟨before, first, later ++ [call], by simp, hputs, ?_⟩
      intro between next rest hsplit
      obtain rfl | ⟨rest, last, rfl⟩ := List.eq_nil_or_concat rest
      · obtain ⟨rfl, hlast⟩ := List.append_inj' hsplit rfl
        obtain rfl : call = next := by simpa using hlast
        exact hnot
      · rw [List.concat_eq_append, ← List.cons_append, ← List.append_assoc] at hsplit
        obtain ⟨rfl, -⟩ := List.append_inj' hsplit rfl
        exact hlater between next rest rfl

/-- A listener is found under a name just if the name is still there and it was put there last. -/
private theorem get?_ofCalls (calls : List (Call L)) (name : String) (listener : L) :
    (ofCalls calls).get? name = some listener ↔
      name ∈ (ofCalls calls).names ∧ LastPut calls name listener := by
  induction calls using List.reverseRecOn generalizing listener with
  | nil => simp [ofCalls, empty, get?, names]
  | append_singleton calls call ih =>
    have hd := nodup_ofCalls calls
    rw [ofCalls_concat, get?_perform hd, mem_names_perform hd, lastPut_concat]
    constructor
    · rintro (hputs | ⟨hget, hcall⟩)
      · exact ⟨.inl ⟨listener, hputs⟩, .inl hputs⟩
      · obtain ⟨hn, hlast⟩ := (ih listener).mp hget
        exact ⟨.inr ⟨hn, hcall⟩, .inr ⟨hlast, not_puts_of_mem hn call⟩⟩
    · rintro ⟨hpresent, hputs | ⟨hlast, hnot⟩⟩
      · exact .inl hputs
      -- the name is there because of this call or of an earlier one; only the latter is possible
      · obtain ⟨other, hputs⟩ | ⟨hn, hcall⟩ := hpresent
        · exact absurd hputs (hnot other)
        · exact .inr ⟨(ih listener).mpr ⟨hn, hlast⟩, hcall⟩

/-- A name is in the chain just if some call put a listener there and none removed it since. -/
private theorem mem_names_ofCalls (calls : List (Call L)) (name : String) :
    name ∈ (ofCalls calls).names ↔
      ∃ before call later listener, calls = before ++ call :: later ∧
        (ofCalls before).Puts call name listener ∧ .remove name ∉ later := by
  induction calls using List.reverseRecOn with
  | nil => simp [ofCalls, empty, names]
  | append_singleton calls call ih =>
    rw [ofCalls_concat, mem_names_perform (nodup_ofCalls calls), ih]
    constructor
    · rintro (⟨listener, hputs⟩ | ⟨⟨before, first, later, listener, rfl, hputs, hlater⟩, hcall⟩)
      · exact ⟨calls, call, [], listener, rfl, hputs, List.not_mem_nil⟩
      · exact ⟨before, first, later ++ [call], listener, by simp, hputs,
          by simp [hlater, hcall.symm]⟩
    · rintro ⟨before, first, later, listener, hcalls, hputs, hlater⟩
      obtain rfl | ⟨later, last, rfl⟩ := List.eq_nil_or_concat later
      · obtain ⟨rfl, hlast⟩ := List.append_inj' hcalls rfl
        obtain rfl : call = first := by simpa using hlast
        exact .inl ⟨listener, hputs⟩
      · rw [List.concat_eq_append, ← List.cons_append, ← List.append_assoc] at hcalls
        obtain ⟨rfl, hlast⟩ := List.append_inj' hcalls rfl
        obtain rfl : call = last := by simpa using hlast
        rw [List.concat_eq_append, List.mem_append, List.mem_singleton, not_or] at hlater
        exact .inr ⟨⟨before, first, later, listener, rfl, hputs, hlater.1⟩, Ne.symm hlater.2⟩

/-- Whatever calls are made, names stay distinct, a successful call changes one entry and no other,
a refused one none, and every name has the listener that was put under it last. -/
theorem orderly_ofCalls (calls : List (Call L)) : Orderly calls where
  distinct := nodup_ofCalls calls
  adds_iff name listener position := by
    obtain ⟨hn, he⟩ | ⟨hn, anchor, hp, ha, he⟩ | ⟨hn, hp, entries, -, hok⟩ :=
      add_cases (ofCalls calls) name listener position
    · simp [he, hn]
    · simp only [he, reduceCtorEq, exists_false, false_iff, not_and]
      exact fun _ hall => ha (hall anchor hp)
    · simp only [hok, Except.ok.injEq, exists_eq', true_iff]
      exact ⟨hn, hp⟩
  refuses_iff name listener position cause := by
    obtain ⟨hn, he⟩ | ⟨hn, anchor, hp, ha, he⟩ | ⟨hn, hp, entries, -, hok⟩ :=
      add_cases (ofCalls calls) name listener position
    · simp [he, hn, eq_comm]
    · simp [he, hn, hp, ha, eq_comm]
    · simp only [hok, reduceCtorEq, hn, false_and, not_false_eq_true, true_and, false_or,
        false_iff, not_exists, not_and]
      exact fun anchor hanchor ha => absurd (hp anchor hanchor) ha
  inserts name listener position c hadd := by
    obtain ⟨-, he⟩ | ⟨-, _, -, -, he⟩ | ⟨-, -, entries, hput, hok⟩ :=
      add_cases (ofCalls calls) name listener position
    · simp [he] at hadd
    · simp [he] at hadd
    · obtain rfl : ⟨entries⟩ = c := by simpa [hok] using hadd
      exact hput
  undoes name listener position c hadd := remove_of_add hadd
  removes name hn := exists_remove hn
  keepsRefused name listener position cause ha := by
    obtain ⟨_, hc⟩ | ⟨-, _, _, -, hc⟩ := attempt_cases (ofCalls calls) name listener position
    · rw [perform, hc]
    · simp [answer, hc] at ha
  keepsAbsent name hn := by
    rw [answer, perform, remove_of_notMem hn]
    exact ⟨rfl, rfl⟩
  inPlace call := run_call (ofCalls calls) call
  get_iff name listener := get?_ofCalls calls name listener
  get_none_iff name := get?_eq_none_iff
  present_iff name := mem_names_ofCalls calls name

end Runs

end Chain

end PacketSession
