import Mathlib.Data.List.Induction
import PacketSession.Packet.Reassembly

/-!
# Reassembly is sound against any peer

A peer may send any chunks on any channels, and go on after some of them were refused. Whatever it
sends, no more than one payload is in flight on a channel, none of them is longer than allowed, and
none is held longer than it is unfinished (`Reassembler.Sound`).

`Reassembler.Gathered` is the history behind a payload: the call that announced it found its
channel idle, the channel has been busy with it ever since, and some of the chunks since then were
accepted. What is held on a channel is the data of those chunks, each at its own offset, and so is
the payload that the last of them completes. A first chunk with more data than it announced is
refused and yet opens its payload, so the announcement need not be one of the accepted chunks.
-/

namespace PacketSession

namespace Reassembler

variable {r : Reassembler} {channel other : Channel} {a : Assembly}

/-! ### The table -/

/-- Nothing is found under the channel that was filtered out, and the others are as before. -/
theorem lookup_filter_ne (channel other : Channel) (l : List (Channel × Assembly)) :
    (l.filter fun entry => entry.1 ≠ channel).lookup other =
      if other = channel then none else l.lookup other := by
  induction l with
  | nil => simp
  | cons entry l ih =>
    obtain ⟨key, a⟩ := entry
    by_cases hk : key = channel
    · subst hk
      rw [List.filter_cons_of_neg (by simp), ih]
      by_cases ho : other = key
      · simp [ho]
      · have hb : (other == key) = false := by simpa using ho
        simp [ho, List.lookup_cons, hb]
    · rw [List.filter_cons_of_pos (by simpa using hk), List.lookup_cons, List.lookup_cons, ih]
      by_cases ho : other = key
      · simp [ho, hk]
      · have hb : (other == key) = false := by simpa using ho
        simp [hb]

@[simp]
theorem assembly?_put_self : (r.put channel a).assembly? channel = some a := by
  simp [assembly?, put]

/-- What one channel has in flight does not change what another one has. -/
theorem assembly?_put_of_ne (h : other ≠ channel) :
    (r.put channel a).assembly? other = r.assembly? other := by
  have hb : (other == channel) = false := by simpa using h
  simp only [assembly?, put, erase, List.lookup_cons, hb, lookup_filter_ne, if_neg h]

@[simp]
theorem assembly?_erase_self : (r.erase channel).assembly? channel = none := by
  simp only [assembly?, erase, lookup_filter_ne, if_true]

private theorem assembly?_erase_of_ne (h : other ≠ channel) :
    (r.erase channel).assembly? other = r.assembly? other := by
  simp only [assembly?, erase, lookup_filter_ne, if_neg h]

@[simp]
theorem erase_put : (r.put channel a).erase channel = r.erase channel := by
  simp [put, erase]

@[simp]
theorem put_put (b : Assembly) : (r.put channel a).put channel b = r.put channel b := by
  rw [put, erase_put]
  rfl

/-! ### What accepting a chunk can do -/

/-- The unfinished payload that a chunk goes on with: the one on its channel or, for a first chunk
on an idle channel, the one that it announces. -/
inductive Continues (r : Reassembler) (channel : Channel) (c : Chunk) : Assembly → Prop
  /-- A further chunk goes on with what is on its channel. -/
  | held {a : Assembly} : c.total = none → r.assembly? channel = some a → Continues r channel c a
  /-- A first chunk goes on with what it announces. -/
  | announced {total : UInt32} : c.total = some total → r.assembly? channel = none →
      c.offset = 0 → 1 ≤ total.toNat → total.toNat ≤ r.limit →
      Continues r channel c (.opened total.toNat)

/-- What comes of accepting a chunk: the result, and what is in flight then. -/
inductive Acceptance (r : Reassembler) (channel : Channel) (c : Chunk) :
    Except ProtocolError (Option Bytes) → Reassembler → Prop
  /-- The chunk is refused, and nothing changes. -/
  | refused {e : ProtocolError} : Acceptance r channel c (.error e) r
  /-- A first chunk is refused because of its data, and the payload that it announced is open. -/
  | overfull {e : ProtocolError} {total : UInt32} : c.total = some total →
      r.assembly? channel = none → 1 ≤ total.toNat → total.toNat ≤ r.limit →
      Acceptance r channel c (.error e) (r.put channel (.opened total.toNat))
  /-- The payload grows. -/
  | more {a : Assembly} : Continues r channel c a → c.offset.toNat = a.received →
      a.received + c.data.length < a.total →
      Acceptance r channel c (.ok none) (r.put channel (a.extend c.data))
  /-- The payload is complete. -/
  | last {a : Assembly} : Continues r channel c a → c.offset.toNat = a.received →
      a.received + c.data.length = a.total →
      Acceptance r channel c (.ok (some (a.extend c.data).buffer)) (r.erase channel)

/-- What comes of adding data to a payload, when the chunk is no first one any more. -/
theorem acceptance_resume {c : Chunk} {r' : Reassembler} (hr : r'.assembly? channel = some a)
    (hc : r.Continues channel c a) (hput : ∀ b, r'.put channel b = r.put channel b)
    (herase : r'.erase channel = r.erase channel) :
    (∃ e, accept.resume channel c r' = (.error e, r')) ∨
      r.Acceptance channel c (accept.resume channel c r').1 (accept.resume channel c r').2 := by
  rw [accept.resume, grow, hr]
  dsimp only
  by_cases ho : c.offset.toNat = a.received
  case neg =>
    rw [if_pos ho]
    exact .inl ⟨_, rfl⟩
  rw [if_neg (not_not.mpr ho)]
  by_cases hle : a.total < a.received + c.data.length
  case pos =>
    rw [if_pos hle]
    exact .inl ⟨_, rfl⟩
  rw [if_neg hle]
  by_cases hlt : a.received + c.data.length < a.total
  · rw [if_pos hlt, hput]
    exact .inr (.more hc ho hlt)
  · rw [if_neg hlt, herase]
    exact .inr (.last hc ho (by omega))

/-- Whatever is passed on, one of these things comes of it. -/
theorem acceptance (r : Reassembler) (channel : Channel) (c : Chunk) :
    r.Acceptance channel c (r.accept channel c).1 (r.accept channel c).2 := by
  rw [accept]
  cases ht : c.total with
  | none =>
    dsimp only
    cases hr : r.assembly? channel with
    | none =>
      rw [accept.resume, grow, hr]
      exact .refused
    | some a =>
      -- a continuation: what is in flight stays if it is refused
      obtain ⟨e, he⟩ | h := acceptance_resume hr (.held ht hr) (fun _ => rfl) rfl
      · rw [he]
        exact .refused
      · exact h
  | some total =>
    dsimp only [start]
    cases hr : r.assembly? channel with
    | some a => exact .refused
    | none =>
      dsimp only
      by_cases ho : c.offset = 0
      case neg =>
        rw [if_pos ho]
        exact .refused
      by_cases hz : total = 0
      case pos =>
        rw [if_neg (not_not.mpr ho), if_pos hz]
        exact .refused
      by_cases hl : r.limit < total.toNat
      case pos =>
        rw [if_neg (not_not.mpr ho), if_neg hz, if_pos hl]
        exact .refused
      rw [if_neg (not_not.mpr ho), if_neg hz, if_neg hl]
      dsimp only
      -- from here on, the announced payload is in flight, even if its own data is refused
      have hpos : 1 ≤ total.toNat := Nat.pos_of_ne_zero fun h => hz (UInt32.toNat_inj.mp h)
      have hc : r.Continues channel c (.opened total.toNat) :=
        .announced ht hr ho hpos (Nat.le_of_not_lt hl)
      obtain ⟨e, he⟩ | h :=
        acceptance_resume assembly?_put_self hc (fun _ => put_put _) erase_put
      · rw [he]
        exact .overfull ht hr hpos (Nat.le_of_not_lt hl)
      · exact h

/-- The longest payload that may be announced does not depend on what is accepted. -/
theorem limit_accept (r : Reassembler) (channel : Channel) (c : Chunk) :
    (r.accept channel c).2.limit = r.limit := by
  have ha := r.acceptance channel c
  generalize (r.accept channel c).1 = result, (r.accept channel c).2 = r' at ha
  cases ha <;> rfl

/-- The payload on another channel does not depend on what is accepted. -/
theorem assembly?_accept_of_ne (h : other ≠ channel) (r : Reassembler) (c : Chunk) :
    (r.accept channel c).2.assembly? other = r.assembly? other := by
  have ha := r.acceptance channel c
  generalize (r.accept channel c).1 = result, (r.accept channel c).2 = r' at ha
  cases ha with
  | refused => rfl
  | overfull => exact assembly?_put_of_ne h
  | more => exact assembly?_put_of_ne h
  | last => exact assembly?_erase_of_ne h

/-! ### What is in flight -/

/-- What is in flight is unfinished and within the limit, with one payload for a channel. -/
structure Sound (r : Reassembler) : Prop where
  /-- There is one entry for a channel. -/
  distinct : (r.inFlight.map Prod.fst).Nodup
  /-- Less was received than announced. -/
  unfinished : ∀ entry ∈ r.inFlight, entry.2.received < entry.2.total
  /-- No more was announced than allowed. -/
  bounded : ∀ entry ∈ r.inFlight, entry.2.total ≤ r.limit

theorem sound_ofLimit (limit : Nat) : (ofLimit limit).Sound where
  distinct := .nil
  unfinished := by simp [ofLimit]
  bounded := by simp [ofLimit]

/-- Taking a message away leaves the others as they are. -/
theorem Sound.erase (h : r.Sound) (channel : Channel) : (r.erase channel).Sound where
  distinct := (List.filter_sublist.map _).nodup h.distinct
  unfinished entry he := h.unfinished entry (List.mem_filter.mp he).1
  bounded entry he := h.bounded entry (List.mem_filter.mp he).1

/-- A message that is in flight is incomplete and within the limit; there is one for each
channel. -/
theorem Sound.put (h : r.Sound) (hu : a.received < a.total) (hb : a.total ≤ r.limit) :
    (r.put channel a).Sound where
  distinct := by
    refine List.nodup_cons.mpr ⟨fun hm => ?_, (h.erase channel).distinct⟩
    obtain ⟨entry, he, hk⟩ := List.mem_map.mp hm
    simpa [hk] using (List.mem_filter.mp he).2
  unfinished := List.forall_mem_cons.mpr ⟨hu, (h.erase channel).unfinished⟩
  bounded := List.forall_mem_cons.mpr ⟨hb, (h.erase channel).bounded⟩

private theorem mem_of_assembly? (h : r.assembly? channel = some a) :
    (channel, a) ∈ r.inFlight := by
  obtain ⟨front, back, hs, -⟩ := List.lookup_eq_some_iff.mp h
  rw [hs]
  exact List.mem_append_right _ List.mem_cons_self

/-- A payload that is gone on with is within the limit. -/
theorem Continues.total_le {c : Chunk} (hc : r.Continues channel c a) (h : r.Sound) :
    a.total ≤ r.limit := by
  cases hc with
  | held _ hr => exact h.bounded _ (mem_of_assembly? hr)
  | announced _ _ _ _ hl => exact hl

/-- Accepting a chunk keeps the reassembler sound, whether it opens a message, continues one,
completes one or is refused. -/
theorem Sound.accept (h : r.Sound) (channel : Channel) (c : Chunk) :
    (r.accept channel c).2.Sound := by
  have ha := r.acceptance channel c
  generalize (r.accept channel c).1 = result, (r.accept channel c).2 = r' at ha
  cases ha with
  | refused => exact h
  | overfull _ _ hpos hl => exact h.put hpos hl
  | more hc _ hlt => exact h.put hlt (hc.total_le h)
  | last => exact h.erase channel

/-! ### The history of a payload -/

/-- What is in flight after chunks were passed on, whether they were accepted or refused. -/
def feed (r : Reassembler) (calls : List (Channel × Chunk)) : Reassembler :=
  calls.foldl (fun r call => (r.accept call.1 call.2).2) r

/-- The chunks of a channel that are accepted when chunks are passed on, in order. -/
def accepted (channel : Channel) : Reassembler → List (Channel × Chunk) → List Chunk
  | _, [] => []
  | r, (on, c) :: calls =>
    let (result, r) := r.accept on c
    if on = channel ∧ result.isOk then c :: accepted channel r calls else accepted channel r calls

/-- Chunks that come later meet the reassembler that those before have left. -/
theorem feed_append (r : Reassembler) (calls later : List (Channel × Chunk)) :
    r.feed (calls ++ later) = (r.feed calls).feed later :=
  List.foldl_append

private theorem feed_concat (r : Reassembler) (calls : List (Channel × Chunk)) (c : Chunk) :
    r.feed (calls ++ [(channel, c)]) = ((r.feed calls).accept channel c).2 :=
  r.feed_append calls _

/-- The chunks that were accepted of a history are those of its parts, each from where it starts. -/
private theorem accepted_append (r : Reassembler) (calls later : List (Channel × Chunk)) :
    accepted channel r (calls ++ later) =
      accepted channel r calls ++ accepted channel (r.feed calls) later := by
  induction calls generalizing r with
  | nil => rfl
  | cons call calls ih =>
    obtain ⟨on, c⟩ := call
    have hf : r.feed ((on, c) :: calls) = (r.accept on c).2.feed calls := rfl
    rw [List.cons_append, accepted, accepted, hf]
    dsimp only
    rw [ih]
    split <;> rfl

private theorem accepted_singleton_of_ok {c : Chunk} (h : ((r.accept channel c).1).isOk) :
    accepted channel r [(channel, c)] = [c] := by
  simp [accepted, h]

private theorem accepted_singleton_of_error {c : Chunk} {e : ProtocolError}
    (h : (r.accept channel c).1 = .error e) : accepted channel r [(channel, c)] = [] := by
  simp [accepted, h, Except.isOk, Except.toBool]

private theorem accepted_singleton_of_ne (h : other ≠ channel) (c : Chunk) :
    accepted channel r [(other, c)] = [] := by
  simp [accepted, h]

/-- Whatever chunks come on whatever channels, the reassembler stays sound. -/
theorem sound_feed (h : r.Sound) (calls : List (Channel × Chunk)) : (r.feed calls).Sound := by
  induction calls using List.reverseRecOn with
  | nil => exact h
  | append_singleton calls call ih =>
    rw [feed_append]
    exact ih.accept call.1 call.2

private theorem limit_feed (r : Reassembler) (calls : List (Channel × Chunk)) :
    (r.feed calls).limit = r.limit := by
  induction calls using List.reverseRecOn with
  | nil => rfl
  | append_singleton calls call ih =>
    rw [feed_append]
    exact (limit_accept _ call.1 call.2).trans ih

/-- Among the calls there is one with a first chunk that announced `total` bytes on an idle
channel, from then on to the last call the channel was busy with them, and `chunks` are those that
were accepted on the channel in that time. -/
def Gathered (r : Reassembler) (calls : List (Channel × Chunk)) (channel : Channel)
    (total : UInt32) (chunks : List Chunk) : Prop :=
  ∃ before opening later, calls = before ++ (channel, opening) :: later ∧
    opening.total = some total ∧ (r.feed before).assembly? channel = none ∧
    (∀ part, part <+: later → part ≠ later →
      ∃ a, (r.feed (before ++ (channel, opening) :: part)).assembly? channel = some a ∧
        a.total = total.toNat) ∧
    chunks = accepted channel (r.feed before) ((channel, opening) :: later)

/-- Each chunk says how much data there is before it. -/
def Contiguous (chunks : List Chunk) : Prop :=
  ∀ front c back, chunks = front ++ c :: back → c.offset.toNat = (front.flatMap Chunk.data).length

variable {calls : List (Channel × Chunk)} {total : UInt32} {chunks : List Chunk}

/-- A first chunk on an idle channel begins a history. -/
theorem Gathered.begin (hi : (r.feed calls).assembly? channel = none) {c : Chunk}
    (ht : c.total = some total) :
    r.Gathered (calls ++ [(channel, c)]) channel total
      (accepted channel (r.feed calls) [(channel, c)]) := by
  refine ⟨calls, c, [], rfl, ht, hi, fun part hp hne => ?_, rfl⟩
  exact absurd (List.prefix_nil.mp hp) hne

/-- As long as the channel is busy, every call goes on with the history. -/
theorem Gathered.concat (h : r.Gathered calls channel total chunks)
    (ha : (r.feed calls).assembly? channel = some a) (ht : a.total = total.toNat)
    (call : Channel × Chunk) :
    r.Gathered (calls ++ [call]) channel total
      (chunks ++ accepted channel (r.feed calls) [call]) := by
  obtain ⟨before, opening, later, rfl, hopening, hi, hbusy, rfl⟩ := h
  refine ⟨before, opening, later ++ [call], by simp, hopening, hi, fun part hp hne => ?_, ?_⟩
  · -- a prefix that leaves out the last call is one of the calls before, or all of them
    obtain hp | hp := List.prefix_concat_iff.mp hp
    · exact absurd hp hne
    · by_cases hl : part = later
      · exact ⟨a, hl ▸ ha, ht⟩
      · exact hbusy part hp hl
  · rw [← List.cons_append, accepted_append, feed_append]

private theorem contiguous_nil : Contiguous [] := fun front c back h => by simp at h

/-- A chunk whose offset is the number of bytes before it continues contiguous chunks. -/
theorem Contiguous.concat (h : Contiguous chunks) {c : Chunk}
    (hc : c.offset.toNat = (chunks.flatMap Chunk.data).length) : Contiguous (chunks ++ [c]) := by
  intro front k back hs
  rcases List.eq_nil_or_concat back with rfl | ⟨back, last, rfl⟩
  · obtain ⟨rfl, hk⟩ := List.append_inj' hs rfl
    cases hk
    exact hc
  · rw [List.concat_eq_append, ← List.cons_append, ← List.append_assoc] at hs
    exact h front k back (List.append_inj' hs rfl).1

/-- In the concatenation of contiguous chunks, the data of each is where it says. -/
theorem Contiguous.take_drop (h : Contiguous chunks) {c : Chunk} (hc : c ∈ chunks) :
    ((chunks.flatMap Chunk.data).drop c.offset.toNat).take c.data.length = c.data := by
  obtain ⟨front, back, hs⟩ := List.append_of_mem hc
  rw [h front c back hs, hs, List.flatMap_append, List.drop_left, List.flatMap_cons,
    List.take_left]

/-- What is held on a channel is the data that was gathered since it was announced. -/
def Holding (r : Reassembler) (calls : List (Channel × Chunk)) (channel : Channel)
    (a : Assembly) : Prop :=
  ∃ total chunks, r.Gathered calls channel total chunks ∧ a.total = total.toNat ∧
    a.buffer = chunks.flatMap Chunk.data ∧ Contiguous chunks

/-- A chunk that is accepted joins what was gathered before, whether it completes the payload or
not. -/
theorem Continues.gathered {c : Chunk} (hc : (r.feed calls).Continues channel c a)
    (hold : ∀ a, (r.feed calls).assembly? channel = some a → r.Holding calls channel a)
    (ho : c.offset.toNat = a.received) (hok : (((r.feed calls).accept channel c).1).isOk) :
    ∃ total chunks, r.Gathered (calls ++ [(channel, c)]) channel total chunks ∧
      a.total = total.toNat ∧ (a.extend c.data).buffer = chunks.flatMap Chunk.data ∧
      Contiguous chunks := by
  have hsingle := accepted_singleton_of_ok hok
  cases hc with
  | held _ hr =>
    obtain ⟨total, chunks, hg, ht, hb, hcont⟩ := hold a hr
    have hnext := hg.concat hr ht (channel, c)
    rw [hsingle] at hnext
    refine ⟨total, _, hnext, ht, ?_, hcont.concat ?_⟩
    · rw [Assembly.buffer_extend, hb, List.flatMap_append, List.flatMap_singleton]
    · rw [ho, ← hb, Assembly.length_buffer]
  | @announced total ht hi _ _ _ =>
    have hfirst := Gathered.begin hi ht
    rw [hsingle] at hfirst
    refine ⟨total, _, hfirst, rfl, ?_, contiguous_nil.concat ho⟩
    rw [Assembly.buffer_extend, List.flatMap_singleton]
    rfl

/-- The entries of the table have their histories, whatever was passed on. -/
private theorem holding_of_assembly? (hr : r.inFlight = []) (calls : List (Channel × Chunk))
    (channel : Channel) (a : Assembly) (ha : (r.feed calls).assembly? channel = some a) :
    r.Holding calls channel a := by
  induction calls using List.reverseRecOn generalizing channel a with
  | nil =>
    rw [feed, List.foldl_nil, assembly?, hr] at ha
    cases ha
  | append_singleton calls call ih =>
    obtain ⟨on, c⟩ := call
    rw [feed_concat] at ha
    by_cases hon : on = channel
    · subst hon
      have hacc := (r.feed calls).acceptance on c
      generalize hresult : ((r.feed calls).accept on c).1 = result at hacc
      generalize ((r.feed calls).accept on c).2 = r' at hacc ha
      cases hacc with
      | refused =>
        -- the entry is the one from before, and nothing was added to its chunks
        obtain ⟨total, chunks, hg, ht, hb, hcont⟩ := ih on a ha
        have hnext := hg.concat ha ht (on, c)
        rw [accepted_singleton_of_error hresult, List.append_nil] at hnext
        exact ⟨total, chunks, hnext, ht, hb, hcont⟩
      | @overfull e total ht hi _ _ =>
        -- the chunk was refused, but it opened the payload
        rw [assembly?_put_self] at ha
        cases ha
        have hfirst := Gathered.begin hi ht
        rw [accepted_singleton_of_error hresult] at hfirst
        exact ⟨total, [], hfirst, rfl, rfl, contiguous_nil⟩
      | more hc ho _ =>
        rw [assembly?_put_self] at ha
        cases ha
        exact hc.gathered (ih on) ho (by rw [hresult]; rfl)
      | last =>
        rw [assembly?_erase_self] at ha
        cases ha
    · -- the call was on another channel
      rw [assembly?_accept_of_ne (Ne.symm hon)] at ha
      obtain ⟨total, chunks, hg, ht, hb, hcont⟩ := ih channel a ha
      have hnext := hg.concat ha ht (on, c)
      rw [accepted_singleton_of_ne hon, List.append_nil] at hnext
      exact ⟨total, chunks, hnext, ht, hb, hcont⟩

/-- Whatever is passed on, accepted or refused: every buffer in flight is shorter than announced,
the announced length is positive and within the limit, and there is one entry for a channel. A
payload that is completed has the length that was announced for it by the chunk which found the
channel idle and since which it was busy. It is the data of exactly the chunks that were accepted
on the channel since then, in order and each at its offset, and the channel is idle again. -/
theorem sound_history (limit : Nat) (calls : List (Channel × Chunk)) :
    (∀ entry ∈ ((ofLimit limit).feed calls).inFlight,
      entry.2.buffer.length < entry.2.total ∧ 1 ≤ entry.2.total ∧ entry.2.total ≤ limit) ∧
    (((ofLimit limit).feed calls).inFlight.map Prod.fst).Nodup ∧
    ∀ channel c payload,
      (((ofLimit limit).feed calls).accept channel c).1 = .ok (some payload) →
      (((ofLimit limit).feed calls).accept channel c).2.assembly? channel = none ∧
      ∃ total chunks,
        (ofLimit limit).Gathered (calls ++ [(channel, c)]) channel total chunks ∧
        payload.length = total.toNat ∧
        payload = chunks.flatMap Chunk.data ∧
        ∀ k ∈ chunks, (payload.drop k.offset.toNat).take k.data.length = k.data := by
  have hs := sound_feed (sound_ofLimit limit) calls
  refine ⟨fun entry he => ?_, hs.distinct, fun channel c payload hp => ?_⟩
  · have hu := hs.unfinished entry he
    have hb := hs.bounded entry he
    rw [limit_feed] at hb
    rw [Assembly.length_buffer]
    exact ⟨hu, by omega, hb⟩
  · have hacc := ((ofLimit limit).feed calls).acceptance channel c
    have hok : ((((ofLimit limit).feed calls).accept channel c).1).isOk := by
      rw [hp]
      rfl
    have hold := holding_of_assembly? (r := ofLimit limit) rfl calls channel
    rw [hp] at hacc
    generalize (((ofLimit limit).feed calls).accept channel c).2 = r' at hacc ⊢
    cases hacc with
    | @last a hc ho hlast =>
      -- only the last chunk of a payload yields one
      obtain ⟨total, chunks, hg, ht, hb, hcont⟩ := hc.gathered hold ho hok
      refine ⟨assembly?_erase_self, total, chunks, hg, ?_, hb, fun k hk => ?_⟩
      · rw [Assembly.length_buffer, ← ht, ← hlast]
        rfl
      · rw [hb]
        exact hcont.take_drop hk

/-- A payload of two bytes: its announcement carries three and is refused, an empty chunk and one on
another channel follow, and so does one that leaves a gap. -/
def overfullFirst : List (Channel × Chunk) :=
  [(.unset, ⟨some 2, 0, [1, 2, 3]⟩), (.unset, ⟨none, 0, []⟩), ({ raw := 3 }, ⟨some 4, 0, [9]⟩),
    (.unset, ⟨none, 2, [5]⟩), (.unset, ⟨none, 0, [4]⟩)]

/-- The payload that an overfull first chunk announced is completed by the chunks after it. -/
theorem sound_history_overfullFirst :
    (((ofLimit 4).feed overfullFirst).accept .unset ⟨none, 1, [5]⟩).1 = .ok (some [4, 5]) ∧
      ∃ total chunks,
        (ofLimit 4).Gathered (overfullFirst ++ [(.unset, ⟨none, 1, [5]⟩)]) .unset total chunks ∧
        2 = total.toNat ∧ [4, 5] = chunks.flatMap Chunk.data := by
  have hp : (((ofLimit 4).feed overfullFirst).accept .unset ⟨none, 1, [5]⟩).1 =
      .ok (some [4, 5]) := by
    decide
  obtain ⟨-, total, chunks, hg, hl, hb, -⟩ := (sound_history 4 overfullFirst).2.2 _ _ _ hp
  exact ⟨hp, total, chunks, hg, hl, hb⟩

end Reassembler

end PacketSession
