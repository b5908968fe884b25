import Mathlib.Logic.Function.Basic
import PacketSession.Proofs.Packet.Registry
import PacketSession.Proofs.Protocol.Built
import PacketSession.Sample.Packets

/-!
# The two tables of a registry

Whoever looks for a codec goes by its identifier or by the kind of packet, so a registry stands
for two tables: one leads from identifiers to codecs, the other from kinds to identifiers. Here
the tables are values of their own (`Tables`), each written by its own step, and the codecs of
the protocol itself are written without a look at what is there. Every sequence of calls has the
same answers on them as on a registry and leaves the tables that the registry stands for
(`Registry.tables_register`), which makes the two inverse to each other
(`Registry.tables_bijective`).
-/

namespace PacketSession

variable {S : Schema}

/-- A table from identifiers to codecs and one from kinds to identifiers. -/
@[ext]
structure Tables (S : Schema) where
  /-- The codec under an identifier, with its kind. -/
  byId : PacketId → Option ((kind : PacketKind S.Kind) × Codec S kind)
  /-- The identifier of a kind. -/
  byKind : PacketKind S.Kind → Option PacketId

/-- A step on two tables; a refused step leaves what it has written. -/
abbrev TablesM (S : Schema) := ExceptT RegistrationError (StateM (Tables S))

namespace Tables

/-- Two tables without entries. -/
def empty : Tables S := ⟨fun _ => none, fun _ => none⟩

/-- Writes a codec into both tables, over what is there. -/
def put (call : CodecEntry S) : TablesM S Unit := do
  let entry := ⟨call.kind, call.codec⟩
  modify fun t => { t with byId := Function.update t.byId call.id (some entry) }
  modify fun t => { t with byKind := Function.update t.byKind call.kind (some call.id) }

/-- Writes the codecs of the protocol itself. -/
def putOwn : TablesM S Unit := do
  put ⟨.disconnect, .disconnect, .disconnect⟩
  put ⟨.fragment, .chunk, .chunk⟩
  put ⟨.batch, .batch, .batch⟩

/-- Writes a codec whose identifier and whose kind are free. -/
def insert (call : CodecEntry S) : TablesM S Unit := do
  if ((← get).byId call.id).isSome then throw (.duplicatePacketId call.id)
  if let some other := (← get).byKind call.kind then
    throw (.duplicatePacketType (S.typeName call.kind) other)
  put call

/-- Writes a codec of the application. -/
def register (call : CodecEntry S) : TablesM S Unit := do
  if call.id.isReserved then throw (.reservedPacketId call.id)
  insert call

/-- The codec of a kind, with its identifier, by way of both tables. -/
def codec? (t : Tables S) (kind : PacketKind S.Kind) : Option (PacketId × Codec S kind) := do
  let id ← t.byKind kind
  let entry ← t.byId id
  if h : entry.1 = kind then some (id, h ▸ entry.2) else none

/-- The tables after `calls`, whether they were refused or not. -/
def registerAll (t : Tables S) (calls : List (CodecEntry S)) : Tables S :=
  calls.foldl (fun t call => ((register call).run.run t).2) t

variable {t : Tables S} {call : CodecEntry S}

/-- Two tables with a codec written over what is there. -/
def holding (t : Tables S) (call : CodecEntry S) : Tables S where
  byId := Function.update t.byId call.id (some ⟨call.kind, call.codec⟩)
  byKind := Function.update t.byKind call.kind (some call.id)

theorem run_get_bind (f : Tables S → TablesM S Unit) :
    (get >>= f : TablesM S Unit).run.run t = (f t).run.run t := rfl

private theorem run_putOwn :
    putOwn.run.run t = (.ok (),
      ((t.holding ⟨.disconnect, .disconnect, .disconnect⟩).holding
        ⟨.fragment, .chunk, .chunk⟩).holding ⟨.batch, .batch, .batch⟩) := rfl

/-- A refused call leaves both tables as they are: everything is looked up before the first table
is written. -/
private theorem run_register :
    (register call).run.run t =
      if call.id.isReserved then (.error (.reservedPacketId call.id), t)
      else if (t.byId call.id).isSome then (.error (.duplicatePacketId call.id), t)
      else match t.byKind call.kind with
        | some other => (.error (.duplicatePacketType (S.typeName call.kind) other), t)
        | none => (.ok (), t.holding call) := by
  split_ifs with hr hi
  · rw [register, if_pos hr]
    rfl
  all_goals
    rw [register, if_neg hr]
    change (insert call).run.run t = _
    rw [insert, run_get_bind]
  · rw [if_pos hi]
    rfl
  · rw [if_neg hi]
    dsimp only
    rw [run_get_bind]
    cases t.byKind call.kind <;> rfl

end Tables

namespace Registry

variable {r : Registry S} {call : CodecEntry S}

/-- The two tables that a registry stands for. -/
def tables (r : Registry S) : Tables S where
  byId id := (r.entry? id).map fun e => ⟨e.kind, e.codec⟩
  byKind := r.idOf?

/-- The table by identifiers gives what the list of entries has under an identifier. -/
@[simp]
theorem tables_byId (id : PacketId) :
    r.tables.byId id = (r.entry? id).map fun e => ⟨e.kind, e.codec⟩ := rfl

/-- The table by kinds gives the identifier of the entry of a kind. -/
@[simp]
theorem tables_byKind (kind : PacketKind S.Kind) : r.tables.byKind kind = r.idOf? kind := rfl

/-- The answer of a call that registers a codec, with the registry that it leaves: a refused call
leaves it as it is. -/
def attempt (r : Registry S) (call : CodecEntry S) : Except RegistrationError Unit × Registry S :=
  match r.register call.id call.codec with
  | .ok r' => (.ok (), r')
  | .error cause => (.error cause, r)

/-- The registry after `calls`, whether they were refused or not. -/
def attemptAll (r : Registry S) (calls : List (CodecEntry S)) : Registry S :=
  calls.foldl (fun r call => (r.attempt call).2) r

/-- An entry that joins the list is found under its identifier if none was before. -/
private theorem entry?_append (id : PacketId) :
    entry? ⟨r.entries ++ [call]⟩ id =
      (r.entry? id).or (if call.id = id then some call else none) := by
  by_cases h : call.id = id <;> simp [List.find?_append, entry?, h]

private theorem codec?_append (kind : PacketKind S.Kind) :
    codec? ⟨r.entries ++ [call]⟩ kind =
      (r.codec? kind).or (CodecEntry.codecFor? kind call) := by
  simp [codec?, List.findSome?_append]

/-- A new codec is written into both tables. -/
theorem tables_append (hi : r.entry? call.id = none) (hk : r.idOf? call.kind = none) :
    tables ⟨r.entries ++ [call]⟩ = r.tables.holding call := by
  refine Tables.ext (funext fun id => ?_) (funext fun kind => ?_)
  · simp only [tables, Tables.holding, entry?_append, Function.update_apply]
    obtain rfl | hne := eq_or_ne id call.id
    · simp [hi]
    · simp [hne, hne.symm]
  · simp only [tables, Tables.holding, idOf?, codec?_append, Function.update_apply]
    obtain rfl | hne := eq_or_ne kind call.kind
    · rw [Option.map_eq_none_iff.mp hk]
      simp [CodecEntry.codecFor?]
    · simp [CodecEntry.codecFor?, hne, hne.symm]

/-- A call has the same answer on the tables as on the registry that stands for them, and they go
on standing for each other. -/
private theorem run_register_tables :
    (Tables.register call).run.run r.tables =
      ((r.attempt call).1, (r.attempt call).2.tables) := by
  have hs : (r.tables.byId call.id).isSome = r.contains call.id := Option.isSome_map
  rw [Tables.run_register, attempt, Registry.register, hs]
  split_ifs with hr hi
  · rfl
  · rfl
  · change (match r.idOf? call.kind with | some other => _ | none => _) = _
    cases hk : r.idOf? call.kind with
    | some other => rfl
    | none =>
      have hn : r.entry? call.id = none := by simpa [contains] using hi
      exact congrArg (Prod.mk _) (tables_append hn hk).symm

/-- Calls are made one by one, so a history can be taken apart at its last one. -/
private theorem attemptAll_append (calls : List (CodecEntry S)) :
    r.attemptAll (calls ++ [call]) = ((r.attemptAll calls).attempt call).2 := by
  simp [attemptAll]

/-- Over any history of calls, the tables stay those that the registry stands for. -/
private theorem tables_attemptAll (calls : List (CodecEntry S)) :
    (r.attemptAll calls).tables = r.tables.registerAll calls := by
  induction calls generalizing r with
  | nil => rfl
  | cons call calls ih =>
    rw [attemptAll, List.foldl_cons, Tables.registerAll, List.foldl_cons, run_register_tables]
    exact ih

/-- The codecs of the protocol itself are written into empty tables, so none of them is lost. -/
private theorem tables_reserved : (reserved : Registry S).tables =
    (Tables.putOwn.run.run .empty).2 := by
  have hd : tables ⟨[⟨.disconnect, .disconnect, .disconnect⟩]⟩ =
      Tables.holding (S := S) .empty ⟨.disconnect, .disconnect, .disconnect⟩ :=
    tables_append (r := .empty) rfl rfl
  rw [Tables.run_putOwn, ← hd, ← tables_append rfl rfl, ← tables_append rfl rfl]
  rfl

/-! ### What calls keep -/

/-- A call that succeeds has found its identifier and its kind free, so entries stay distinct. -/
theorem Distinct.attempt (hd : r.Distinct) : (r.attempt call).2.Distinct := by
  rw [Registry.attempt]
  cases h : r.register call.id call.codec with
  | error cause => exact hd
  | ok r' => exact hd.register h

/-- Reserved identifiers are refused before anything else is looked at, so the entries of the
protocol itself stay the only ones there. -/
theorem WellFormed.attempt (hw : r.WellFormed) : (r.attempt call).2.WellFormed := by
  rw [Registry.attempt]
  cases h : r.register call.id call.codec with
  | error cause => exact hw
  | ok r' => exact hw.register h

/-- Whatever calls are made, entries stay distinct in identifiers and in kinds. -/
theorem Distinct.attemptAll (hd : r.Distinct) (calls : List (CodecEntry S)) :
    (r.attemptAll calls).Distinct := by
  induction calls generalizing r with
  | nil => exact hd
  | cons call calls ih => exact ih hd.attempt

/-- Whatever calls are made, reserved identifiers keep the packets of the protocol. -/
theorem WellFormed.attemptAll (hw : r.WellFormed) (calls : List (CodecEntry S)) :
    (r.attemptAll calls).WellFormed := by
  induction calls generalizing r with
  | nil => exact hw
  | cons call calls ih => exact ih hw.attempt

end Registry

/-- What calls that register start from. -/
inductive Origin
  /-- A registry without codecs. -/
  | bare
  /-- A new protocol. -/
  | ofProtocol

namespace Origin

/-- The registry to start from. -/
def registry : Origin → Registry S
  | bare => .empty
  | ofProtocol => (Protocol.initial : Protocol S Id).codecs

/-- The tables to start from. -/
def tables : Origin → Tables S
  | bare => .empty
  | ofProtocol => (Tables.putOwn.run.run .empty).2

/-- Both registries to start from agree with the tables to start from. -/
private theorem tables_registry (origin : Origin) :
    (origin.registry : Registry S).tables = origin.tables := by
  match origin with
  | bare => rfl
  | ofProtocol => exact Registry.tables_reserved

/-- Whether a registry starts empty or with the packets of a protocol, its entries are distinct. -/
theorem distinct_registry (origin : Origin) : (origin.registry : Registry S).Distinct := by
  match origin with
  | bare => exact Registry.distinct_empty
  | ofProtocol => exact Registry.wellFormed_reserved.toDistinct

end Origin

namespace Registry

variable {r : Registry S} {call : CodecEntry S}

/-- Identifiers and kinds in use correspond one to one. -/
structure Bijective (r : Registry S) : Prop where
  /-- A kind has an identifier just if the codec under this identifier is one of that kind. -/
  inverse (kind : PacketKind S.Kind) (id : PacketId) :
    r.idOf? kind = some id ↔ ∃ codec, r.entry? id = some ⟨id, kind, codec⟩
  /-- Every kind in use has one identifier. -/
  id (kind : PacketKind S.Kind) :
    (r.idOf? kind).isSome → ∃! id, ∃ codec, r.entry? id = some ⟨id, kind, codec⟩
  /-- Every identifier in use is that of one kind. -/
  kind (id : PacketId) : r.contains id → ∃! kind, r.idOf? kind = some id
  /-- The codec of a kind is the one under its identifier. -/
  codec (kind : PacketKind S.Kind) (id : PacketId) (codec : Codec S kind) :
    r.codec? kind = some (id, codec) ↔ r.entry? id = some ⟨id, kind, codec⟩

/-- A registry answers as two tables do. -/
structure Answers (r : Registry S) (t : Tables S) : Prop where
  /-- The codec under an identifier. -/
  byId (id : PacketId) : (r.entry? id).map (fun e => ⟨e.kind, e.codec⟩) = t.byId id
  /-- The identifier of a kind. -/
  byKind (kind : PacketKind S.Kind) : r.idOf? kind = t.byKind kind
  /-- The codec of a kind, for which the tables are asked one after the other. -/
  codec (kind : PacketKind S.Kind) : r.codec? kind = t.codec? kind

/-- Nothing stands against registering a codec. -/
structure Free (r : Registry S) (call : CodecEntry S) : Prop where
  /-- The identifier is one for applications. -/
  application : call.id.raw < PacketId.reservedStart
  /-- The identifier has no codec. -/
  id : r.entry? call.id = none
  /-- The kind has no identifier. -/
  kind : r.idOf? call.kind = none

/-- What a call does to a registry. -/
structure Settles (r : Registry S) (call : CodecEntry S) : Prop where
  /-- It does the same to the tables, with the same answer. -/
  agrees : (Tables.register call).run.run r.tables = ((r.attempt call).1, (r.attempt call).2.tables)
  /-- It succeeds just if nothing stands against it. -/
  succeeds : (r.attempt call).1 = .ok () ↔ r.Free call
  /-- Then the codec is in both tables, and everything else is as before. -/
  adds : (r.attempt call).1 = .ok () → (r.attempt call).2.tables = r.tables.holding call
  /-- Otherwise both tables are as before. -/
  keeps : (r.attempt call).1 ≠ .ok () → (r.attempt call).2.tables = r.tables

/-- The codecs of the protocol itself are under their identifiers, and lead back to them. -/
structure KeepsOwn (r : Registry S) : Prop where
  disconnect : r.entry? .disconnect = some ⟨.disconnect, .disconnect, .disconnect⟩ ∧
    r.idOf? .disconnect = some .disconnect
  chunk : r.entry? .fragment = some ⟨.fragment, .chunk, .chunk⟩ ∧ r.idOf? .chunk = some .fragment
  batch : r.entry? .batch = some ⟨.batch, .batch, .batch⟩ ∧ r.idOf? .batch = some .batch

/-- In a registry with distinct entries, finding a codec by kind and finding its entry by identifier
are the same. -/
private theorem Distinct.codec?_eq_some_iff (hd : r.Distinct) {kind : PacketKind S.Kind}
    {id : PacketId} {codec : Codec S kind} :
    r.codec? kind = some (id, codec) ↔ r.entry? id = some ⟨id, kind, codec⟩ := by
  constructor
  · intro hc
    exact hd.entry?_of_mem (mem_of_codec? hc)
  · intro he
    exact hd.codec?_of_mem (mem_of_entry he).1

/-- A kind has an identifier just if its entry stands under it. -/
private theorem Distinct.idOf?_eq_some_iff (hd : r.Distinct) {kind : PacketKind S.Kind}
    {id : PacketId} : r.idOf? kind = some id ↔ ∃ codec, r.entry? id = some ⟨id, kind, codec⟩ := by
  simp [idOf?, ← hd.codec?_eq_some_iff]

/-- Both tables answer every question as the list does. -/
private theorem Distinct.answers_tables (hd : r.Distinct) : r.Answers r.tables where
  byId _ := rfl
  byKind _ := rfl
  codec kind := by
    obtain hc | ⟨⟨id, codec⟩, hc⟩ := Option.eq_none_or_eq_some (r.codec? kind)
    · simp [Tables.codec?, idOf?, hc]
    · simp [Tables.codec?, idOf?, hc, hd.codec?_eq_some_iff.mp hc]

/-- Distinct entries pair identifiers and kinds one to one. -/
private theorem Distinct.bijective (hd : r.Distinct) : r.Bijective where
  inverse _ _ := hd.idOf?_eq_some_iff
  id kind h := by
    obtain ⟨id, hi⟩ := Option.isSome_iff_exists.mp h
    refine ⟨id, hd.idOf?_eq_some_iff.mp hi, fun other ho => ?_⟩
    have := hd.idOf?_eq_some_iff.mpr ho
    rw [hi] at this
    exact (Option.some.inj this).symm
  kind id h := by
    obtain ⟨⟨id', kind, codec⟩, he⟩ := Option.isSome_iff_exists.mp h
    obtain rfl : id' = id := (mem_of_entry he).2
    refine ⟨kind, hd.idOf?_eq_some_iff.mpr ⟨codec, he⟩, fun other ho => ?_⟩
    obtain ⟨codec', he'⟩ := hd.idOf?_eq_some_iff.mp ho
    rw [he] at he'
    cases he'
    rfl
  codec _ _ _ := hd.codec?_eq_some_iff

/-- A call adds its codec if nothing stands against it. -/
private theorem attempt_of_free (h : r.Free call) : r.attempt call =
    (.ok (), ⟨r.entries ++ [call]⟩) := by
  have hr : ¬ call.id.isReserved := by simpa [PacketId.isReserved] using h.application
  have hc : ¬ r.contains call.id := by simp [contains, h.id]
  rw [attempt, Registry.register, if_neg hr, if_neg hc, h.kind]

/-- A call that something stands against fails, and changes nothing. -/
private theorem attempt_of_not_free (h : ¬ r.Free call) : ∃ cause, r.attempt call =
    (.error cause, r) := by
  unfold attempt Registry.register
  split_ifs with hr hc
  · exact ⟨_, rfl⟩
  · exact ⟨_, rfl⟩
  · obtain hk | ⟨other, hk⟩ := Option.eq_none_or_eq_some (r.idOf? call.kind)
    · refine absurd ⟨?_, ?_, hk⟩ h
      · simpa [PacketId.isReserved] using hr
      · simpa [contains] using hc
    · rw [hk]
      exact ⟨_, rfl⟩

/-- Every call does to the tables what it does to the registry, and succeeds just if nothing stands
against it. -/
theorem settles (r : Registry S) (call : CodecEntry S) : r.Settles call := by
  by_cases hf : r.Free call
  · have ha := attempt_of_free hf
    refine ⟨run_register_tables, ?_, fun _ => ?_, fun hne => ?_⟩
    · rw [ha]
      exact iff_of_true rfl hf
    · rw [ha]
      exact tables_append hf.id hf.kind
    · rw [ha] at hne
      exact absurd rfl hne
  · obtain ⟨cause, ha⟩ := attempt_of_not_free hf
    refine ⟨run_register_tables, ?_, fun hok => ?_, fun _ => ?_⟩
    · rw [ha]
      exact iff_of_false (by simp) hf
    · rw [ha] at hok
      cases hok
    · rw [ha]

/-- A well-formed registry has the three entries of the protocol itself, each under its
identifier. -/
private theorem WellFormed.keepsOwn (hw : r.WellFormed) : r.KeepsOwn := by
  have hown : ∀ own ∈ reserved.entries,
      r.entry? own.id = some own ∧ r.idOf? own.kind = some own.id := by
    intro own ho
    refine ⟨hw.entry?_of_mem (hw.own ho), ?_⟩
    rw [idOf?, hw.codec?_of_mem (hw.own ho), Option.map_some]
  exact ⟨hown ⟨.disconnect, .disconnect, .disconnect⟩ (by simp [reserved]),
    hown ⟨.fragment, .chunk, .chunk⟩ (by simp [reserved]),
    hown ⟨.batch, .batch, .batch⟩ (by simp [reserved])⟩

/-- Whatever calls were made, refused or not, and whether they started from nothing or from a new
protocol: the registry answers as the two tables do, which are inverse to each other; a call
succeeds just if nothing stands against it, and changes nothing otherwise; and a protocol keeps
its own codecs. -/
theorem tables_bijective (origin : Origin) (calls : List (CodecEntry S)) :
    (attemptAll origin.registry calls).Answers (origin.tables.registerAll calls) ∧
      (attemptAll origin.registry calls).Bijective ∧
      (∀ call, (attemptAll origin.registry calls).Settles call) ∧
      (origin = .ofProtocol → (attemptAll origin.registry calls).KeepsOwn) := by
  have hd := origin.distinct_registry.attemptAll calls
  refine ⟨?_, hd.bijective, settles _, ?_⟩
  · have ht : (attemptAll origin.registry calls).tables = origin.tables.registerAll calls := by
      rw [tables_attemptAll, origin.tables_registry]
    rw [← ht]
    exact hd.answers_tables
  · rintro rfl
    exact (wellFormed_reserved.attemptAll calls).keepsOwn

/-- The call that registers a kind of packet of the sample application. -/
def sampleCall (id : PacketId) (kind : Sample.Kind) : CodecEntry Sample.plain :=
  letI : Sample.TypeNames := ⟨Sample.kindName⟩
  ⟨id, .application kind, Sample.codec (.application kind)⟩

/-- Calls of which the second has a reserved identifier, the third an identifier in use and the
fourth a kind in use. -/
def clashing : List (CodecEntry Sample.plain) :=
  [sampleCall ⟨300⟩ .greedy, sampleCall ⟨0xFFFFFF00⟩ .unit, sampleCall ⟨300⟩ .unit,
    sampleCall ⟨7⟩ .greedy, sampleCall ⟨1⟩ .unit]

/-- Of the clashing calls the first and the last go through, and no call can take their place. -/
theorem tables_bijective_clashing :
    ((reserved.attemptAll clashing).idOf? (.application .greedy) = some ⟨300⟩ ∧
      (reserved.attemptAll clashing).idOf? (.application .unit) = some ⟨1⟩) ∧
      (reserved.attemptAll clashing).KeepsOwn ∧
      ((reserved.attemptAll clashing).attempt (sampleCall ⟨2⟩ .unit)).2.tables =
        (reserved.attemptAll clashing).tables := by
  obtain ⟨-, -, hsettles, hown⟩ := tables_bijective (S := Sample.plain) .ofProtocol clashing
  refine ⟨⟨rfl, rfl⟩, hown rfl, (hsettles _).keeps fun hok => ?_⟩
  have hfree := (hsettles _).succeeds.mp hok
  exact absurd hfree.kind (by decide)

end Registry

/-- The codecs of a protocol that was put together come from calls on a new one. -/
theorem Protocol.Built.exists_attemptAll {m : Type → Type} [Monad m] {p : Protocol S m}
    (h : p.Built) : ∃ calls, p.codecs = Registry.attemptAll Origin.ofProtocol.registry calls := by
  refine h.tables_induction
    (motive := fun r _ => ∃ calls, r = Registry.attemptAll Origin.ofProtocol.registry calls)
    ⟨[], rfl⟩ ?_ fun hr _ => hr
  rintro r r' t id kind codec ⟨calls, rfl⟩ hr
  refine ⟨calls ++ [⟨id, kind, codec⟩], ?_⟩
  rw [Registry.attemptAll_append, Registry.attempt, hr]

end PacketSession
