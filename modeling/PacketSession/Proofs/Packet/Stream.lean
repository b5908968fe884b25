import PacketSession.Proofs.Packet.Chunk
import PacketSession.Proofs.Packet.Reassembly

/-!
# Streams of chunks

A payload travels on its channel as a stream: the first chunk announces its length, every chunk
says how much data there is before it, and the last one is not empty. On an idle channel such a
stream completes its payload with its last chunk and not before, and leaves behind what was in
flight before it (`Reassembler.IsStream.completes`). The chunks that a payload was split into are a
stream, and they are read back as they were written (`Fragmenter.reassembles`).

Whatever comes behind a stream is received as if the stream had not been there. So of streams one
behind the other, the last one perhaps cut, there is nothing to complain about but the length of a
payload (`Reassembler.Settles`, `Reassembler.Orderly`).
-/

namespace PacketSession

namespace Reassembler

variable {r : Reassembler} {channel : Channel} {a : Assembly}

/-! ### Chunks that are accepted -/

/-- An idle channel has nothing to be freed of. -/
private theorem erase_eq_self (h : r.assembly? channel = none) : r.erase channel = r := by
  have hne : ∀ entry ∈ r.inFlight, decide (entry.1 ≠ channel) = true := by
    intro entry he
    have hkey := List.lookup_eq_none_iff.mp h entry he
    exact decide_eq_true fun heq => by simp [heq] at hkey
  rw [erase, List.filter_eq_self.mpr hne]

/-- A continuation at the right place either leaves its message in flight, longer by its data, or
completes it. -/
private theorem resume_eq {c : Chunk} (hr : r.assembly? channel = some a)
    (ho : c.offset.toNat = a.received) (hle : a.received + c.data.length ≤ a.total) :
    accept.resume channel c r =
      if a.received + c.data.length < a.total then (.ok none, r.put channel (a.extend c.data))
      else (.ok (some (a.extend c.data).buffer), r.erase channel) := by
  rw [accept.resume, grow, hr]
  dsimp only
  rw [if_neg (not_not.mpr ho), if_neg (Nat.not_lt.mpr hle)]
  by_cases hlt : a.received + c.data.length < a.total
  · rw [if_pos hlt, if_pos hlt]
  · rw [if_neg hlt, if_neg hlt]

/-- A chunk that goes on where its payload ends so far is accepted, and it completes the payload if
nothing is missing then. -/
theorem Continues.accept_eq {c : Chunk} (hc : r.Continues channel c a)
    (ho : c.offset.toNat = a.received) (hle : a.received + c.data.length ≤ a.total) :
    r.accept channel c =
      if a.received + c.data.length < a.total then (.ok none, r.put channel (a.extend c.data))
      else (.ok (some (a.extend c.data).buffer), r.erase channel) := by
  rw [accept]
  cases hc with
  | held ht hr =>
    rw [ht]
    exact resume_eq hr ho hle
  | @announced total ht hr hz hpos hl =>
    have hne : total ≠ 0 := by
      rintro rfl
      exact absurd hpos (by decide)
    rw [ht]
    dsimp only [start]
    rw [hr]
    dsimp only
    rw [if_neg (not_not.mpr hz), if_neg hne, if_neg (Nat.not_lt.mpr hl)]
    dsimp only
    -- the entry just opened is replaced or erased at once, so no trace of it is left
    rw [resume_eq assembly?_put_self ho hle, put_put, erase_put]

/-- Chunks that are accepted one after the other, of which only the last one completes a
payload. -/
inductive Completes (channel : Channel) : Reassembler → List Chunk → Bytes → Reassembler → Prop
  /-- One chunk completes the payload. -/
  | last {r r' : Reassembler} {c : Chunk} {payload : Bytes} :
      r.accept channel c = (.ok (some payload), r') → Completes channel r [c] payload r'
  /-- A chunk is followed by others. -/
  | more {r r₁ r' : Reassembler} {c : Chunk} {cs : List Chunk} {payload : Bytes} :
      r.accept channel c = (.ok none, r₁) → Completes channel r₁ cs payload r' →
      Completes channel r (c :: cs) payload r'

/-- Chunks of which the last one is not empty carry something. -/
theorem length_flatMap_data_pos {cs : List Chunk} (hne : cs ≠ [])
    (hlast : ∀ c ∈ cs.getLast?, c.data ≠ []) : 0 < (cs.flatMap Chunk.data).length := by
  obtain rfl | ⟨front, last, rfl⟩ := List.eq_nil_or_concat cs
  · exact absurd rfl hne
  have hdata : last.data ≠ [] := hlast last (by simp)
  have hpos := List.length_pos_iff.mpr hdata
  rw [List.concat_eq_append, List.flatMap_append, List.flatMap_singleton, List.length_append]
  omega

/-- A chunk and those behind it complete the payload that it goes on with. The invariant is that
the data of the chunks in front of it, and nothing else, was received. -/
theorem Continues.completes {front cs : List Chunk} {c : Chunk} (hc : r.Continues channel c a)
    (hb : a.buffer = front.flatMap Chunk.data) (hcont : Contiguous (front ++ c :: cs))
    (ht : a.total = ((front ++ c :: cs).flatMap Chunk.data).length)
    (hlater : ∀ k ∈ cs, k.total = none) (hlast : ∀ k ∈ (c :: cs).getLast?, k.data ≠ []) :
    Completes channel r (c :: cs) ((front ++ c :: cs).flatMap Chunk.data) (r.erase channel) := by
  induction cs generalizing r a c front with
  | nil =>
    have hrec : a.received = (front.flatMap Chunk.data).length := by
      rw [← hb, Assembly.length_buffer]
    have ho : c.offset.toNat = a.received := (hcont front c [] rfl).trans hrec.symm
    have hwhole : (front ++ [c]).flatMap Chunk.data = (a.extend c.data).buffer := by
      rw [Assembly.buffer_extend, hb, List.flatMap_append, List.flatMap_singleton]
    -- the total is the length of everything announced, and this chunk is the end of it
    have hfull : a.received + c.data.length = a.total := by
      rw [ht, hrec, List.flatMap_append, List.flatMap_singleton, List.length_append]
    have haccept := hc.accept_eq ho (Nat.le_of_eq hfull)
    rw [if_neg (by omega), ← hwhole] at haccept
    exact .last haccept
  | cons next cs ih =>
    have hrec : a.received = (front.flatMap Chunk.data).length := by
      rw [← hb, Assembly.length_buffer]
    have ho : c.offset.toNat = a.received := (hcont front c _ rfl).trans hrec.symm
    -- the last chunk is still to come, and it is not empty
    have hpos : 0 < ((next :: cs).flatMap Chunk.data).length :=
      length_flatMap_data_pos (List.cons_ne_nil _ _) hlast
    have hlt : a.received + c.data.length < a.total := by
      rw [ht, hrec, List.flatMap_append, List.flatMap_cons, List.length_append, List.length_append]
      omega
    have haccept := hc.accept_eq ho (Nat.le_of_lt hlt)
    rw [if_pos hlt] at haccept
    have hnext : (r.put channel (a.extend c.data)).Continues channel next (a.extend c.data) :=
      .held (hlater next List.mem_cons_self) assembly?_put_self
    have hsplit : front ++ c :: next :: cs = (front ++ [c]) ++ next :: cs := by simp
    rw [hsplit] at hcont ht ⊢
    refine .more haccept ?_
    -- erasing the channel gives the same whether or not this chunk was put there
    rw [← erase_put (a := a.extend c.data)]
    refine ih hnext ?_ hcont ht (fun k hk => hlater k (List.mem_cons_of_mem _ hk)) hlast
    rw [Assembly.buffer_extend, hb, List.flatMap_append, List.flatMap_singleton]

/-! ### Streams -/

/-- The chunks of one payload in order: the first one announces its length and no other one
announces anything, each chunk says how much data there is before it, together they carry the
payload, and the last one is not empty. -/
structure IsStream (payload : Bytes) (chunks : List Chunk) : Prop where
  announced : ∃ first later, chunks = first :: later ∧
    first.total.map UInt32.toNat = some payload.length ∧ ∀ c ∈ later, c.total = none
  contiguous : Contiguous chunks
  carried : chunks.flatMap Chunk.data = payload
  last_ne_nil : ∀ c ∈ chunks.getLast?, c.data ≠ []

/-- A stream completes its payload on an idle channel if the payload is not too long, and nothing is
in flight then that was not in flight before. -/
theorem IsStream.completes {payload : Bytes} {chunks : List Chunk} (h : IsStream payload chunks)
    (hi : r.assembly? channel = none) (hl : payload.length ≤ r.limit) :
    Completes channel r chunks payload r := by
  obtain ⟨first, later, rfl, htotal, hlater⟩ := h.announced
  obtain ⟨total, ht, hlen⟩ := Option.map_eq_some_iff.mp htotal
  have hzero : first.offset = 0 := UInt32.toNat_inj.mp (h.contiguous [] first later rfl)
  have hpos := length_flatMap_data_pos (List.cons_ne_nil first later) h.last_ne_nil
  rw [h.carried] at hpos
  have hc : r.Continues channel first (.opened total.toNat) :=
    .announced ht hi hzero (by omega) (by omega)
  have hfull : total.toNat = ((first :: later).flatMap Chunk.data).length := by
    rw [hlen, h.carried]
  -- nothing is in front of the first chunk, and nothing was received before it
  have hdone : Completes channel r (first :: later) (([] ++ first :: later).flatMap Chunk.data)
      (r.erase channel) :=
    hc.completes rfl h.contiguous hfull hlater h.last_ne_nil
  rw [List.nil_append, h.carried, erase_eq_self hi] at hdone
  exact hdone

/-! ### Answers -/

/-- What comes of chunks that are passed on one after the other, with their channels. -/
def answers : Reassembler → List (Channel × Chunk) →
    List (Channel × Except ProtocolError (Option Bytes))
  | _, [] => []
  | r, call :: calls =>
    (call.1, (r.accept call.1 call.2).1) :: answers (r.accept call.1 call.2).2 calls

/-- Nothing for every chunk but the last, and the payload for the last. -/
def delivering (payload : Bytes) (chunks : List Chunk) :
    List (Except ProtocolError (Option Bytes)) :=
  List.replicate (chunks.length - 1) (.ok none) ++ [.ok (some payload)]

/-- Of the chunks that complete a payload, all but the last are answered with nothing. -/
theorem Completes.answers_eq {r' : Reassembler} {chunks : List Chunk} {payload : Bytes}
    (h : Completes channel r chunks payload r') :
    r.answers (chunks.map (channel, ·)) = (delivering payload chunks).map (channel, ·) := by
  induction h with
  | last ha => simp [answers, delivering, ha]
  | @more r r₁ r' c cs payload ha hcs ih =>
    have hcount : cs.length = cs.length - 1 + 1 := by
      cases hcs <;> simp
    rw [List.map_cons, answers, ha]
    dsimp only
    rw [ih, delivering, delivering, List.length_cons, Nat.add_sub_cancel, hcount,
      List.replicate_succ, Nat.add_sub_cancel]
    rfl

/-- And they leave the reassembler that their completion leaves. -/
theorem Completes.feed_eq {r' : Reassembler} {chunks : List Chunk} {payload : Bytes}
    (h : Completes channel r chunks payload r') : r.feed (chunks.map (channel, ·)) = r' := by
  induction h with
  | last ha => simp [feed, ha]
  | @more r r₁ r' c cs payload ha hcs ih =>
    have hstep : r.feed ((c :: cs).map (channel, ·)) =
        (r.accept channel c).2.feed (cs.map (channel, ·)) := rfl
    rw [hstep, ha]
    exact ih

end Reassembler

/-! ### Payloads that were split -/

namespace Fragmenter

open Reassembler

variable {f : Fragmenter} {payload : Bytes} {chunks : List Chunk}

/-- Chunks as a fragmenter makes them: as many as it takes, only the first one announcing the length
of the payload, all but the last one full, and the last one neither empty nor longer than the
others. -/
structure Cuts (f : Fragmenter) (payload : Bytes) (chunks : List Chunk) : Prop where
  count : chunks.length = f.chunkCount payload.length
  total : ∀ (index : Nat) (h : index < chunks.length),
    chunks[index].total.map UInt32.toNat = if index = 0 then some payload.length else none
  contiguous : Contiguous chunks
  carried : chunks.flatMap Chunk.data = payload
  full : ∀ c ∈ chunks.dropLast, c.data.length = f.chunkSize
  last : ∀ c ∈ chunks.getLast?, 0 < c.data.length ∧ c.data.length ≤ f.chunkSize

/-- The data of the chunks in front of one of them. -/
theorem flatMap_data_take (hs : f.split payload = .ok chunks) {index : Nat}
    (hi : index ≤ chunks.length) :
    (chunks.take index).flatMap Chunk.data = payload.take (index * f.chunkSize) := by
  rw [f.length_split hs] at hi
  rw [List.flatMap_def, List.map_take, f.map_data_split hs, flatten_take_pieces _ hi]

/-- A chunk of a cut is told by its index: where its data begins, and how much of it there is. -/
private theorem getElem_split (hs : f.split payload = .ok chunks) {index : Nat}
    (hi : index < chunks.length) :
    chunks[index] =
      f.chunk payload.length ((payload.drop (index * f.chunkSize)).take f.chunkSize) index := by
  refine Option.some.inj ?_
  rw [← f.getElem?_split hs (f.length_split hs ▸ hi), List.getElem?_eq_getElem]

/-- The chunks of a cut follow each other without a gap. -/
private theorem contiguous_split (hs : f.split payload = .ok chunks) : Contiguous chunks := by
  intro front c back hsplit
  have hi : front.length < chunks.length := by simp [hsplit]
  have hc : chunks[front.length] = c := by simp [hsplit]
  have hfront : chunks.take front.length = front := by simp [hsplit]
  have hlt : front.length * f.chunkSize < payload.length :=
    f.mul_lt_of_lt_chunkCount (f.length_split hs ▸ hi)
  have hm := f.length_le_of_split hs
  rw [← hfront, flatMap_data_take hs (Nat.le_of_lt hi), List.length_take, ← hc,
    getElem_split hs hi]
  simp only [chunk]
  -- an offset stays below the length of the payload, so it does not wrap around
  rw [toNat_ofNat (by omega)]
  omega

/-- Splitting a payload that is not empty gives a cut of it. -/
theorem cuts_split (hs : f.split payload = .ok chunks) (hpos : 0 < payload.length) :
    f.Cuts payload chunks := by
  obtain ⟨count, hcount, hlo, hhi⟩ := f.lt_of_chunkCount hpos
  have hlen : chunks.length = count + 1 := (f.length_split hs).trans hcount
  have hm := f.length_le_of_split hs
  exact {
    count := f.length_split hs
    total := by
      intro index hi
      rw [getElem_split hs hi]
      simp only [chunk]
      split
      · rw [Option.map_some, toNat_ofNat hm]
      · rfl
    contiguous := contiguous_split hs
    carried := by
      have hall := flatMap_data_take hs (Nat.le_refl chunks.length)
      rw [List.take_length] at hall
      rw [hall, hlen, List.take_of_length_le hhi]
    full := by
      intro c hc
      obtain ⟨index, hi, rfl⟩ := List.mem_iff_getElem.mp hc
      rw [List.length_dropLast] at hi
      rw [List.getElem_dropLast, getElem_split hs (by omega)]
      -- the next piece is not beyond the last one
      have hnext : (index + 1) * f.chunkSize ≤ count * f.chunkSize :=
        Nat.mul_le_mul_right _ (by omega)
      rw [Nat.succ_mul] at hnext
      simp only [chunk, List.length_take, List.length_drop]
      omega
    last := by
      intro c hc
      have hlast : chunks[count]? = some c := by
        rw [← hc, List.getLast?_eq_getElem?, hlen, Nat.add_sub_cancel]
      rw [f.getElem?_split hs (by omega)] at hlast
      cases hlast
      -- the payload ends within the piece with index `count`
      rw [Nat.succ_mul] at hhi
      simp only [chunk, List.length_take, List.length_drop]
      have := f.chunkSize_pos
      omega }

/-- A cut is all that a receiver needs: its first chunk announces the payload, and the others
continue it. -/
theorem Cuts.isStream (h : f.Cuts payload chunks) (hpos : 0 < payload.length) :
    IsStream payload chunks where
  announced := by
    cases chunks with
    | nil =>
      have hnil : payload = [] := h.carried.symm
      exact absurd (List.length_eq_zero_iff.mpr hnil) (by omega)
    | cons first later =>
      refine ⟨first, later, rfl, h.total 0 (Nat.succ_pos _), fun c hc => ?_⟩
      obtain ⟨index, hi, rfl⟩ := List.mem_iff_getElem.mp hc
      exact Option.map_eq_none_iff.mp (h.total (index + 1) (Nat.succ_lt_succ hi))
  contiguous := h.contiguous
  carried := h.carried
  last_ne_nil c hc := List.length_pos_iff.mp (h.last c hc).1

/-- The chunks of a payload fit, and complete it on an idle channel. -/
theorem completes_split (f : Fragmenter) {r : Reassembler} {channel : Channel}
    (hi : r.assembly? channel = none) (hs : f.split payload = .ok chunks)
    (hpos : 0 < payload.length) (hl : payload.length ≤ r.limit) :
    Completes channel r chunks payload r ∧ ∀ c ∈ chunks, c.Fits :=
  ⟨((cuts_split hs hpos).isStream hpos).completes hi hl, fun _ hc => f.fits_of_mem_split hs hc⟩

/-- A payload comes back from its chunks, for every wanted size of a chunk and whatever is in flight
on other channels: the chunks have the sizes and offsets they should have, each is read back from
its written form with nothing left over, and when they are accepted in order on an idle channel
there is nothing for all but the last of them, the payload for the last one, and in flight is
what was in flight before. -/
theorem reassembles (wanted : Nat) (hpos : 0 < payload.length)
    (hmax : payload.length ≤ maxPayload) {r : Reassembler} {channel : Channel}
    (hi : r.assembly? channel = none) (hl : payload.length ≤ r.limit) :
    ∃ chunks, (ofSize wanted).split payload = .ok chunks ∧
      (ofSize wanted).Cuts payload chunks ∧
      (∀ c ∈ chunks, Chunk.decode.read c.encode = .ok (c, [])) ∧
      r.answers (chunks.map (channel, ·)) = (delivering payload chunks).map (channel, ·) ∧
      r.feed (chunks.map (channel, ·)) = r := by
  have hs := (ofSize wanted).split_eq hmax
  have hcuts := cuts_split hs hpos
  have hdone : Completes channel r _ payload r := (hcuts.isStream hpos).completes hi hl
  refine ⟨_, hs, hcuts, fun c hc => ?_, hdone.answers_eq, hdone.feed_eq⟩
  have hreads := ((ofSize wanted).fits_of_mem_split hs hc).reads.read []
  rwa [List.append_nil] at hreads

/-- A reassembler that has a payload in flight on one channel. -/
def waitingElsewhere : Reassembler := (ofLimit 5).put { raw := 4 } ((Assembly.opened 3).extend [9])

/-- Five bytes come back from chunks of two while another channel is busy. -/
theorem reassembles_waitingElsewhere :
    ∃ chunks, (ofSize 2).split [1, 2, 3, 4, 5] = .ok chunks ∧
      chunks = [⟨some 5, 0, [1, 2]⟩, ⟨none, 2, [3, 4]⟩, ⟨none, 4, [5]⟩] ∧
      waitingElsewhere.answers (chunks.map (.unset, ·)) =
        [(.unset, .ok none), (.unset, .ok none), (.unset, .ok (some [1, 2, 3, 4, 5]))] ∧
      waitingElsewhere.feed (chunks.map (.unset, ·)) = waitingElsewhere := by
  have hpos : 0 < ([1, 2, 3, 4, 5] : Bytes).length := by decide
  have hidle : waitingElsewhere.assembly? .unset = none := by decide
  obtain ⟨chunks, hs, -, -, hanswers, hfeed⟩ :=
    reassembles 2 hpos (by decide) hidle (by decide)
  have hchunks : chunks = [⟨some 5, 0, [1, 2]⟩, ⟨none, 2, [3, 4]⟩, ⟨none, 4, [5]⟩] := by
    cases hs
    decide
  refine ⟨chunks, hs, hchunks, ?_, hfeed⟩
  rw [hanswers, hchunks]
  rfl

end Fragmenter

/-! ### What a reassembler complains about -/

namespace Reassembler

/-- The first error that comes of chunks that are passed on one after the other, with their
channels. -/
def complaint? : Reassembler → List (Channel × Chunk) → Option ProtocolError
  | _, [] => none
  | r, call :: calls =>
    match r.accept call.1 call.2 with
    | (.error cause, _) => some cause
    | (.ok _, r) => r.complaint? calls

/-- There is nothing to complain about but that a message is too long, and only about messages up to
some length. -/
def Orderly (r : Reassembler) (longest : Nat) (calls : List (Channel × Chunk)) : Prop :=
  ∀ cause ∈ r.complaint? calls, ∃ length, length ≤ longest ∧ r.limit < length ∧
    cause = .payloadTooLarge length r.limit

/-- If there is nothing to complain about at all, what is in flight afterwards was so before. -/
structure Settles (r : Reassembler) (longest : Nat) (calls : List (Channel × Chunk)) : Prop where
  orderly : r.Orderly longest calls
  settled : r.complaint? calls = none → r.feed calls = r

variable {r : Reassembler} {longest : Nat} {channel : Channel}
  {calls later : List (Channel × Chunk)}

/-- The first complaint about a history is about its first part, or else about the rest from where
that ends. -/
private theorem complaint?_append (r : Reassembler) (calls later : List (Channel × Chunk)) :
    r.complaint? (calls ++ later) = (r.complaint? calls).or ((r.feed calls).complaint? later) := by
  induction calls generalizing r with
  | nil => rfl
  | cons call calls ih =>
    have hfeed : r.feed (call :: calls) = (r.accept call.1 call.2).2.feed calls := rfl
    rw [List.cons_append, complaint?, complaint?, hfeed]
    rcases r.accept call.1 call.2 with ⟨cause | payload, r'⟩
    · rfl
    · exact ih r'

theorem settles_nil : r.Settles longest [] := ⟨nofun, fun _ => rfl⟩

theorem Orderly.of_prefix (h : r.Orderly longest later) (hp : calls <+: later) :
    r.Orderly longest calls := by
  obtain ⟨rest, rfl⟩ := hp
  intro cause hc
  refine h cause ?_
  rw [complaint?_append, Option.mem_def.mp hc]
  rfl

/-- An orderly history may follow one that leaves in flight just what was there before. -/
theorem Settles.append_orderly (h : r.Settles longest calls) (hl : r.Orderly longest later) :
    r.Orderly longest (calls ++ later) := by
  intro cause hc
  rw [complaint?_append] at hc
  cases hr : r.complaint? calls with
  | none =>
    rw [hr, h.settled hr] at hc
    exact hl cause hc
  | some first =>
    rw [hr] at hc
    cases hc
    exact h.orderly _ hr

/-- And two histories that leave in flight what was there before do so together. -/
theorem Settles.append (h : r.Settles longest calls) (hl : r.Settles longest later) :
    r.Settles longest (calls ++ later) := by
  refine ⟨h.append_orderly hl.orderly, fun hc => ?_⟩
  rw [complaint?_append, Option.or_eq_none_iff] at hc
  obtain ⟨hfirst, hlater⟩ := hc
  rw [h.settled hfirst] at hlater
  rw [feed_append, h.settled hfirst]
  exact hl.settled hlater

/-- There is nothing to complain about chunks that complete a payload. -/
private theorem Completes.complaint?_eq {r' : Reassembler} {chunks : List Chunk} {payload : Bytes}
    (h : Completes channel r chunks payload r') :
    r.complaint? (chunks.map (channel, ·)) = none := by
  induction h with
  | last ha => simp [complaint?, ha]
  | more ha _ ih =>
    rw [List.map_cons, complaint?, ha]
    exact ih

/-- A stream whose payload is too long is refused at its first chunk. -/
theorem IsStream.complaint?_eq {payload : Bytes} {chunks : List Chunk} (h : IsStream payload chunks)
    (hi : r.assembly? channel = none) (hl : r.limit < payload.length) :
    r.complaint? (chunks.map (channel, ·)) = some (.payloadTooLarge payload.length r.limit) := by
  obtain ⟨first, later, rfl, htotal, -⟩ := h.announced
  obtain ⟨total, ht, hlen⟩ := Option.map_eq_some_iff.mp htotal
  have hzero : first.offset = 0 := UInt32.toNat_inj.mp (h.contiguous [] first later rfl)
  have hne : total ≠ 0 := by
    rintro rfl
    have : (0 : UInt32).toNat = 0 := rfl
    omega
  have hstart : r.start channel total first.offset =
      .error (.payloadTooLarge payload.length r.limit) := by
    rw [start, hi]
    dsimp only
    rw [if_neg (not_not.mpr hzero), if_neg hne, hlen, if_pos hl]
  rw [List.map_cons, complaint?, accept, ht]
  dsimp only
  rw [hstart]

/-- The chunks of a payload are orderly on an idle channel. -/
theorem settles_split {f : Fragmenter} {payload : Bytes} {chunks : List Chunk}
    (hs : f.split payload = .ok chunks) (hpos : 0 < payload.length)
    (hi : r.assembly? channel = none) (hl : payload.length ≤ longest) :
    r.Settles longest (chunks.map (channel, ·)) := by
  by_cases hr : payload.length ≤ r.limit
  · have hc := (f.completes_split hi hs hpos hr).1
    refine ⟨fun cause h => ?_, fun _ => hc.feed_eq⟩
    rw [hc.complaint?_eq] at h
    cases h
  · have hlong := ((Fragmenter.cuts_split hs hpos).isStream hpos).complaint?_eq hi (not_le.mp hr)
    refine ⟨fun cause h => ?_, fun h => ?_⟩
    · rw [hlong] at h
      cases h
      exact ⟨_, hl, not_le.mp hr, rfl⟩
    · rw [hlong] at h
      cases h

end Reassembler

end PacketSession
