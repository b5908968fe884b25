import PacketSession.Proofs.Packet.Reassembly

/-!
# What a refused chunk leaves behind

A chunk can be refused for one of eight reasons, listed in `Reassembler.Refusal` with what is in
flight afterwards. Seven of them are found before anything is written. A first chunk with more data
than it announces is found out after its payload was opened, and that is the only trace that a
refusal can leave (`Reassembler.spares`).

`Reassembler.accept` gives back the reassembler that it was asked with when it refuses. A
reassembler may as well be changed in place (`ReassemblerM`), where a refusal leaves what was
written before it; `Reassembler.run_accept` says that both come to the same.
-/

namespace PacketSession

/-- Steps on a reassembler in place; a refused step leaves what it has written. -/
abbrev ReassemblerM := ExceptT ProtocolError (StateM Reassembler)

namespace ReassemblerM

open Reassembler

/-- Opens the payload that a first chunk announces. -/
def start (channel : Channel) (total offset : UInt32) : ReassemblerM Unit := do
  if let some held := (← get).assembly? channel then
    throw (.fragmentOutOfOrder (UInt32.ofNat held.received) offset)
  if offset ≠ 0 then throw (.fragmentOutOfOrder 0 offset)
  if total = 0 then throw (malformed "zero total length")
  let limit := (← get).limit
  if limit < total.toNat then throw (.payloadTooLarge total.toNat limit)
  modify fun r => r.put channel (.opened total.toNat)

/-- Adds data to the payload of a channel, and takes it out once it is complete. -/
def grow (channel : Channel) (offset : UInt32) (data : Bytes) : ReassemblerM (Option Bytes) := do
  let some held := (← get).assembly? channel | throw (.fragmentOutOfOrder 0 offset)
  if offset.toNat ≠ held.received then
    throw (.fragmentOutOfOrder (UInt32.ofNat held.received) offset)
  if held.total < held.received + data.length then
    throw (malformed ("chunk overflows total length " ++ toString held.total))
  let grown := held.extend data
  modify fun r => r.put channel grown
  if grown.received < grown.total then return none
  let complete := (← get).assembly? channel
  modify fun r => r.erase channel
  return some ((complete.map Assembly.buffer).getD [])

/-- Accepts the next chunk of a channel. -/
def accept (channel : Channel) (c : Chunk) : ReassemblerM (Option Bytes) := do
  if let some total := c.total then start channel total c.offset
  grow channel c.offset c.data

theorem run_get_bind {α : Type} (f : Reassembler → ReassemblerM α) (r : Reassembler) :
    (get >>= f : ReassemblerM α).run.run r = (f r).run.run r := rfl

private theorem run_modify_bind {α : Type} (change : Reassembler → Reassembler)
    (f : Unit → ReassemblerM α) (r : Reassembler) :
    (modify change >>= f : ReassemblerM α).run.run r = (f ()).run.run (change r) := rfl

end ReassemblerM

namespace Reassembler

variable {r r' : Reassembler} {channel : Channel} {c : Chunk}

/-! ### In place -/

private theorem run_start (r : Reassembler) (channel : Channel) (total offset : UInt32) :
    (ReassemblerM.start channel total offset).run.run r =
      match r.start channel total offset with
      | .error cause => (.error cause, r)
      | .ok r' => (.ok (), r') := by
  rw [ReassemblerM.start, ReassemblerM.run_get_bind, start]
  cases r.assembly? channel with
  | some held => rfl
  | none =>
    dsimp only
    by_cases ho : offset ≠ 0
    · rw [if_pos ho, if_pos ho]
      rfl
    rw [if_neg ho, if_neg ho]
    by_cases hz : total = 0
    · rw [if_pos hz, if_pos hz]
      rfl
    rw [if_neg hz, if_neg hz, ReassemblerM.run_get_bind]
    by_cases hl : r.limit < total.toNat
    · rw [if_pos hl, if_pos hl]
      rfl
    · rw [if_neg hl, if_neg hl]
      rfl

private theorem run_grow (r : Reassembler) (channel : Channel) (offset : UInt32) (data : Bytes) :
    (ReassemblerM.grow channel offset data).run.run r =
      match r.grow channel offset data with
      | .error cause => (.error cause, r)
      | .ok (payload, r') => (.ok payload, r') := by
  rw [ReassemblerM.grow, ReassemblerM.run_get_bind, grow]
  cases r.assembly? channel with
  | none => rfl
  | some held =>
    dsimp only
    by_cases ho : offset.toNat ≠ held.received
    · rw [if_pos ho, if_pos ho]
      rfl
    rw [if_neg ho, if_neg ho]
    by_cases hf : held.total < held.received + data.length
    · rw [if_pos hf, if_pos hf]
      rfl
    rw [if_neg hf, if_neg hf, ReassemblerM.run_modify_bind]
    by_cases hm : (held.extend data).received < (held.extend data).total
    · rw [if_pos hm, if_pos (by exact hm)]
      rfl
    · -- the data is written before it is taken out again
      rw [if_neg hm, if_neg (by exact hm), ReassemblerM.run_get_bind, ReassemblerM.run_modify_bind,
        assembly?_put_self, erase_put]
      rfl

/-- Accepting a chunk in place gives the same answer and leaves the same. -/
theorem run_accept (r : Reassembler) (channel : Channel) (c : Chunk) :
    (ReassemblerM.accept channel c).run.run r = r.accept channel c := by
  rw [ReassemblerM.accept, accept]
  cases c.total with
  | none => exact run_grow r channel c.offset c.data
  | some total =>
    dsimp only
    rw [ExceptT.run_bind, StateT.run_bind, run_start]
    cases r.start channel total c.offset with
    | error cause => rfl
    | ok r' => exact run_grow r' channel c.offset c.data

/-! ### Why a chunk is refused -/

/-- A first chunk that may be accepted, but for the data in it: that is longer than announced. -/
structure Overfills (r : Reassembler) (channel : Channel) (c : Chunk) (total : UInt32) : Prop where
  first : c.total = some total
  idle : r.assembly? channel = none
  offset : c.offset = 0
  pos : 1 ≤ total.toNat
  le_limit : total.toNat ≤ r.limit
  lt_length : total.toNat < c.data.length

/-- Why a chunk is refused, and what is in flight then. -/
inductive Refusal (r : Reassembler) (channel : Channel) (c : Chunk) :
    ProtocolError → Reassembler → Prop
  /-- A first chunk comes while another payload is under way. -/
  | busy {total : UInt32} {held : Assembly} : c.total = some total →
      r.assembly? channel = some held →
      Refusal r channel c (.fragmentOutOfOrder (UInt32.ofNat held.received) c.offset) r
  /-- A first chunk is not at the front of its payload. -/
  | displaced {total : UInt32} : c.total = some total → r.assembly? channel = none →
      c.offset ≠ 0 → Refusal r channel c (.fragmentOutOfOrder 0 c.offset) r
  /-- An empty payload is announced. -/
  | empty : c.total = some 0 → r.assembly? channel = none → c.offset = 0 →
      Refusal r channel c (malformed "zero total length") r
  /-- A payload is announced that is too long. -/
  | tooLong {total : UInt32} : c.total = some total → r.assembly? channel = none →
      c.offset = 0 → r.limit < total.toNat →
      Refusal r channel c (.payloadTooLarge total.toNat r.limit) r
  /-- A first chunk has more data than it announces, and its payload is open by then. -/
  | overfull {total : UInt32} : r.Overfills channel c total →
      Refusal r channel c (malformed ("chunk overflows total length " ++ toString total.toNat))
        { r with inFlight := (channel, .opened total.toNat) :: r.inFlight }
  /-- A further chunk has nothing to go on with. -/
  | unannounced : c.total = none → r.assembly? channel = none →
      Refusal r channel c (.fragmentOutOfOrder 0 c.offset) r
  /-- A further chunk leaves a gap or comes again. -/
  | astray {held : Assembly} : c.total = none → r.assembly? channel = some held →
      c.offset.toNat ≠ held.received →
      Refusal r channel c (.fragmentOutOfOrder (UInt32.ofNat held.received) c.offset) r
  /-- A further chunk has more data than is missing. -/
  | excessive {held : Assembly} : c.total = none → r.assembly? channel = some held →
      c.offset.toNat = held.received → held.total < held.received + c.data.length →
      Refusal r channel c (malformed ("chunk overflows total length " ++ toString held.total)) r

/-- A channel without an unfinished payload has no entry to free. -/
private theorem erase_of_idle (h : r.assembly? channel = none) : r.erase channel = r := by
  have hall : r.inFlight.filter (fun entry => entry.1 ≠ channel) = r.inFlight := by
    rw [List.filter_eq_self]
    intro entry he
    have hne := List.lookup_eq_none_iff.mp h entry he
    simpa using Ne.symm (by simpa using hne)
  rw [erase, hall]

private theorem put_of_idle (h : r.assembly? channel = none) (a : Assembly) :
    r.put channel a = { r with inFlight := (channel, a) :: r.inFlight } := by
  rw [put, erase_of_idle h]

/-- Data is added unless it stands elsewhere or is more than is missing. -/
theorem grow_cases {held : Assembly} (hr : r.assembly? channel = some held) (offset : UInt32)
    (data : Bytes) :
    (offset.toNat ≠ held.received ∧ r.grow channel offset data =
        .error (.fragmentOutOfOrder (UInt32.ofNat held.received) offset)) ∨
      (offset.toNat = held.received ∧ held.total < held.received + data.length ∧
        r.grow channel offset data =
          .error (malformed ("chunk overflows total length " ++ toString held.total))) ∨
      ∃ result, r.grow channel offset data = .ok result := by
  rw [grow, hr]
  dsimp only
  by_cases ho : offset.toNat = held.received
  case neg => exact .inl ⟨ho, if_pos ho⟩
  rw [if_neg (not_not.mpr ho)]
  by_cases hf : held.total < held.received + data.length
  case pos => exact .inr (.inl ⟨ho, hf, if_pos hf⟩)
  rw [if_neg hf]
  by_cases hm : held.received + data.length < held.total
  · exact .inr (.inr ⟨_, if_pos hm⟩)
  · exact .inr (.inr ⟨_, if_neg hm⟩)

/-- A payload is opened unless its first chunk is refused for what it announces. -/
private theorem start_cases (r : Reassembler) (channel : Channel) {total : UInt32}
    (ht : c.total = some total) :
    (∃ cause, r.start channel total c.offset = .error cause ∧ r.Refusal channel c cause r) ∨
      r.assembly? channel = none ∧ c.offset = 0 ∧ 1 ≤ total.toNat ∧ total.toNat ≤ r.limit ∧
        r.start channel total c.offset =
          .ok { r with inFlight := (channel, .opened total.toNat) :: r.inFlight } := by
  rw [start]
  cases hr : r.assembly? channel with
  | some held => exact .inl ⟨_, rfl, .busy ht hr⟩
  | none =>
    dsimp only
    by_cases ho : c.offset = 0
    case neg => exact .inl ⟨_, if_pos ho, .displaced ht hr ho⟩
    rw [if_neg (not_not.mpr ho)]
    by_cases hz : total = 0
    case pos => exact .inl ⟨_, if_pos hz, .empty (hz ▸ ht) hr ho⟩
    rw [if_neg hz]
    by_cases hl : r.limit < total.toNat
    case pos => exact .inl ⟨_, if_pos hl, .tooLong ht hr ho hl⟩
    have hpos : 1 ≤ total.toNat := Nat.pos_of_ne_zero fun h => hz (UInt32.toNat_inj.mp h)
    rw [if_neg hl, put_of_idle hr]
    exact .inr ⟨rfl, ho, hpos, Nat.le_of_not_lt hl, rfl⟩

/-- A chunk that is refused is refused for one of these reasons. -/
theorem refusal_of_accept {cause : ProtocolError} (h : r.accept channel c = (.error cause, r')) :
    r.Refusal channel c cause r' := by
  rw [accept] at h
  cases ht : c.total with
  | none =>
    rw [ht] at h
    change accept.resume channel c r = _ at h
    rw [accept.resume] at h
    cases hr : r.assembly? channel with
    | none =>
      rw [grow, hr] at h
      cases h
      exact .unannounced ht hr
    | some held =>
      obtain ⟨ho, hg⟩ | ⟨ho, hf, hg⟩ | ⟨_, hg⟩ := grow_cases hr c.offset c.data
      all_goals rw [hg] at h; cases h
      · exact .astray ht hr ho
      · exact .excessive ht hr ho hf
  | some total =>
    rw [ht] at h
    dsimp only at h
    obtain ⟨_, hs, hrefusal⟩ | ⟨hr, ho, hpos, hl, hs⟩ := r.start_cases channel ht
    all_goals rw [hs] at h; dsimp only at h
    · cases h
      exact hrefusal
    -- a first chunk that is not refused for its header goes on as a continuation at offset zero
    · have hopened : assembly? { r with inFlight := (channel, .opened total.toNat) :: r.inFlight }
          channel = some (.opened total.toNat) := by simp [assembly?]
      rw [accept.resume] at h
      obtain ⟨hne, -⟩ | ⟨-, hf, hg⟩ | ⟨_, hg⟩ := grow_cases hopened c.offset c.data
      · exact absurd (by rw [ho]; rfl) hne
      · rw [hg] at h
        cases h
        exact .overfull ⟨ht, hr, ho, hpos, hl, by simpa [Assembly.opened] using hf⟩
      · rw [hg] at h
        cases h

/-- A chunk is refused just if there is a reason, and the reason says what is in flight then. -/
theorem accept_eq_error_iff {cause : ProtocolError} :
    r.accept channel c = (.error cause, r') ↔ r.Refusal channel c cause r' := by
  refine ⟨refusal_of_accept, fun h => ?_⟩
  cases h with
  | busy ht hr => simp [accept, start, ht, hr]
  | displaced ht hr ho => simp [accept, start, ht, hr, ho]
  | empty ht hr ho => simp [accept, start, ht, hr, ho]
  | @tooLong total ht hr ho hl =>
    have hz : total ≠ 0 := by
      rintro rfl
      exact Nat.not_lt_zero _ hl
    simp [accept, start, ht, hr, ho, hz, hl]
  | @overfull total hover =>
    obtain ⟨ht, hr, ho, hpos, hl, hf⟩ := hover
    have hz : total ≠ 0 := by
      rintro rfl
      exact Nat.lt_irrefl _ hpos
    rw [← put_of_idle hr]
    simp [accept, start, accept.resume, grow, ht, hr, ho, hz, Nat.not_lt.mpr hl, hf,
      Assembly.opened]
  | unannounced ht hr => simp [accept, accept.resume, grow, ht, hr]
  | astray ht hr ho => simp [accept, accept.resume, grow, ht, hr, ho]
  | excessive ht hr ho hf => simp [accept, accept.resume, grow, ht, hr, ho, hf]

/-! ### What a refusal leaves -/

/-- The bytes that are held on a channel. -/
def buffered (r : Reassembler) (channel : Channel) : Bytes :=
  ((r.assembly? channel).map Assembly.buffer).getD []

/-- What a refused chunk leaves of what was in flight. -/
structure Spares (r : Reassembler) (channel : Channel) (c : Chunk) (r' : Reassembler) : Prop where
  /-- No byte is added to any buffer. -/
  buffered_eq (on : Channel) : r'.buffered on = r.buffered on
  bufferedBytes_eq : r'.bufferedBytes = r.bufferedBytes
  /-- No entry of another channel changes. -/
  others_eq : r'.inFlight.filter (fun entry => entry.1 ≠ channel) =
    r.inFlight.filter fun entry => entry.1 ≠ channel
  /-- Nothing at all changes, -/
  unchanged : (∀ total, ¬ r.Overfills channel c total) → r' = r
  /-- but that an empty payload is in flight as well that was announced with more data. -/
  overfilled (total : UInt32) : r.Overfills channel c total →
    r' = { r with inFlight := (channel, .opened total.toNat) :: r.inFlight }

theorem Spares.refl (h : ∀ total, ¬ r.Overfills channel c total) : r.Spares channel c r where
  buffered_eq _ := rfl
  bufferedBytes_eq := rfl
  others_eq := rfl
  unchanged _ := rfl
  overfilled total hover := absurd hover (h total)

/-- A payload that was announced with too much data holds none of it. -/
theorem Overfills.spares {total : UInt32} (h : r.Overfills channel c total) :
    r.Spares channel c { r with inFlight := (channel, .opened total.toNat) :: r.inFlight } where
  buffered_eq on := by
    rw [← put_of_idle h.idle, buffered, buffered]
    by_cases hon : on = channel
    · subst hon
      rw [assembly?_put_self, h.idle]
      rfl
    · rw [assembly?_put_of_ne hon]
  bufferedBytes_eq := Nat.zero_add _
  others_eq := List.filter_cons_of_neg (by simp)
  unchanged hnone := absurd h (hnone total)
  overfilled other hover := by
    obtain rfl : total = other := Option.some.inj (h.first.symm.trans hover.first)
    rfl

theorem Refusal.spares {cause : ProtocolError} (h : r.Refusal channel c cause r') :
    r.Spares channel c r' := by
  cases h with
  | busy _ hr | astray _ hr _ | excessive _ hr _ _ =>
    exact .refl fun _ hover => nomatch hr.symm.trans hover.idle
  | displaced _ _ ho => exact .refl fun _ hover => ho hover.offset
  | empty ht _ _ =>
    refine .refl fun _ hover => ?_
    obtain rfl := Option.some.inj (ht.symm.trans hover.first)
    exact Nat.lt_irrefl _ hover.pos
  | tooLong ht _ _ hl =>
    refine .refl fun _ hover => ?_
    obtain rfl := Option.some.inj (ht.symm.trans hover.first)
    exact Nat.not_lt.mpr hover.le_limit hl
  | overfull hover => exact hover.spares
  | unannounced ht _ => exact .refl fun _ hover => nomatch ht.symm.trans hover.first

/-- Whatever is in flight and whatever chunk comes on whatever channel: if it is refused, then no
byte is added to any buffer and no entry of another channel changes. Nothing at all changes unless
the chunk is a first one with too much data, which is always refused and leaves an empty payload of
the announced length on its channel. This is so for a reassembler that is changed in place. -/
theorem refused_spares (r : Reassembler) (channel : Channel) (c : Chunk) :
    (∀ cause r', (ReassemblerM.accept channel c).run.run r = (.error cause, r') →
      r.Refusal channel c cause r' ∧ r.Spares channel c r') ∧
    (∀ total, r.Overfills channel c total →
      (ReassemblerM.accept channel c).run.run r =
        (.error (malformed ("chunk overflows total length " ++ toString total.toNat)),
          { r with inFlight := (channel, .opened total.toNat) :: r.inFlight })) ∧
    (ReassemblerM.accept channel c).run.run r = r.accept channel c := by
  rw [run_accept]
  refine ⟨fun cause r' h => ?_, fun total hover => ?_, rfl⟩
  · have hrefusal := accept_eq_error_iff.mp h
    exact ⟨hrefusal, hrefusal.spares⟩
  · exact accept_eq_error_iff.mpr (.overfull hover)

/-- Two bytes of three are held on one channel. -/
def halfway : Reassembler := (ofLimit 4).put { raw := 8 } ((Assembly.opened 3).extend [1, 2])

/-- Too much data for what is held is refused without a trace. Too much data for what is announced
leaves an empty payload beside it. -/
theorem refused_spares_halfway :
    (ReassemblerM.accept { raw := 8 } ⟨none, 2, [3, 4]⟩).run.run halfway =
        (.error (malformed "chunk overflows total length 3"), halfway) ∧
      halfway.Spares { raw := 8 } ⟨none, 2, [3, 4]⟩ halfway ∧
      halfway.Overfills .unset ⟨some 1, 0, [3, 4]⟩ 1 ∧
      (ReassemblerM.accept .unset ⟨some 1, 0, [3, 4]⟩).run.run halfway =
        (.error (malformed "chunk overflows total length 1"),
          ⟨4, [(.unset, .opened 1), ({ raw := 8 }, (Assembly.opened 3).extend [1, 2])]⟩) := by
  have hexcess : (ReassemblerM.accept { raw := 8 } ⟨none, 2, [3, 4]⟩).run.run halfway =
      (.error (malformed "chunk overflows total length 3"), halfway) := rfl
  have hover : halfway.Overfills .unset ⟨some 1, 0, [3, 4]⟩ 1 :=
    ⟨rfl, by decide, rfl, by decide, by decide, by decide⟩
  exact ⟨hexcess, ((refused_spares halfway _ _).1 _ _ hexcess).2, hover,
    (refused_spares halfway .unset _).2.1 1 hover⟩

end Reassembler

end PacketSession
