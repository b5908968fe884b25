import Mathlib.Algebra.BigOperators.Group.Finset.Piecewise
import PacketSession.Proofs.Packet.Stream

/-!
# Channels do not interfere

What comes of a chunk depends on the longest payload allowed and on what is in flight on its own
channel, and nothing else in flight changes with it. So the answers to the chunks of a channel are
those that they would get without the chunks of any other channel, whatever those are, and each
channel holds what it would hold alone (`Reassembler.channels_apart`).
-/

namespace PacketSession

/-- The entries of a channel, in order. -/
def only {α : Type} (channel : Channel) (entries : List (Channel × α)) : List (Channel × α) :=
  entries.filter fun entry => entry.1 = channel

section Only

variable {α : Type} {channel other : Channel}

@[simp]
theorem only_cons_self (x : α) (entries : List (Channel × α)) :
    only channel ((channel, x) :: entries) = (channel, x) :: only channel entries :=
  List.filter_cons_of_pos (by simp)

private theorem only_cons_of_ne (h : other ≠ channel) (x : α) (entries : List (Channel × α)) :
    only channel ((other, x) :: entries) = only channel entries :=
  List.filter_cons_of_neg (by simpa using h)

end Only

namespace Reassembler

variable {r r' : Reassembler} {channel other : Channel} {a : Assembly}

/-! ### One channel at a time -/

/-- Two reassemblers that cannot be told apart on one channel. -/
structure Alike (channel : Channel) (r r' : Reassembler) : Prop where
  limit : r.limit = r'.limit
  held : r.assembly? channel = r'.assembly? channel

theorem Alike.put (h : Alike channel r r') (a : Assembly) :
    Alike channel (r.put channel a) (r'.put channel a) :=
  ⟨h.limit, by rw [assembly?_put_self, assembly?_put_self]⟩

theorem Alike.erase (h : Alike channel r r') :
    Alike channel (r.erase channel) (r'.erase channel) :=
  ⟨h.limit, by rw [assembly?_erase_self, assembly?_erase_self]⟩

/-- Data that is added on a channel is answered alike, and what is in flight there is alike after
it. -/
theorem Alike.resume (h : Alike channel r r') (c : Chunk) :
    (accept.resume channel c r).1 = (accept.resume channel c r').1 ∧
      Alike channel (accept.resume channel c r).2 (accept.resume channel c r').2 := by
  -- every test below is about the chunk and the entry of the channel, which both sides share
  rw [accept.resume, accept.resume, grow, grow, h.held]
  cases r'.assembly? channel with
  | none => exact ⟨rfl, h⟩
  | some a =>
    dsimp only
    by_cases ho : c.offset.toNat = a.received
    case neg =>
      rw [if_pos ho, if_pos ho]
      exact ⟨rfl, h⟩
    rw [if_neg (not_not.mpr ho), if_neg (not_not.mpr ho)]
    by_cases hover : a.total < a.received + c.data.length
    · rw [if_pos hover, if_pos hover]
      exact ⟨rfl, h⟩
    rw [if_neg hover, if_neg hover]
    by_cases hmore : a.received + c.data.length < a.total
    · rw [if_pos hmore, if_pos hmore]
      exact ⟨rfl, h.put _⟩
    · rw [if_neg hmore, if_neg hmore]
      exact ⟨rfl, h.erase⟩

/-- A chunk is answered alike, and what is in flight on its channel is alike after it. -/
theorem Alike.accept (h : Alike channel r r') (c : Chunk) :
    (r.accept channel c).1 = (r'.accept channel c).1 ∧
      Alike channel (r.accept channel c).2 (r'.accept channel c).2 := by
  rw [Reassembler.accept, Reassembler.accept]
  cases c.total with
  | none => exact h.resume c
  | some total =>
    dsimp only [start]
    rw [h.held, h.limit]
    cases r'.assembly? channel with
    | some a => exact ⟨rfl, h⟩
    | none =>
      -- an announcement on an idle channel is tested against the limit as well
      dsimp only
      by_cases ho : c.offset = 0
      case neg =>
        rw [if_pos ho, if_pos ho]
        exact ⟨rfl, h⟩
      rw [if_neg (not_not.mpr ho), if_neg (not_not.mpr ho)]
      by_cases hz : total = 0
      · rw [if_pos hz, if_pos hz]
        exact ⟨rfl, h⟩
      rw [if_neg hz, if_neg hz]
      by_cases hl : r'.limit < total.toNat
      · rw [if_pos hl, if_pos hl]
        exact ⟨rfl, h⟩
      · rw [if_neg hl, if_neg hl]
        exact (h.put _).resume c

/-- What is passed on elsewhere cannot be told on a channel. -/
private theorem Alike.accept_of_ne (h : Alike channel r r') (hne : other ≠ channel) (c : Chunk) :
    Alike channel (r.accept other c).2 r' :=
  ⟨(limit_accept r other c).trans h.limit, (assembly?_accept_of_ne hne.symm r c).trans h.held⟩

/-- A channel has the answers, and holds in the end, what it would without the other channels. -/
theorem Alike.feed (h : Alike channel r r') (calls : List (Channel × Chunk)) :
    only channel (r.answers calls) = r'.answers (only channel calls) ∧
      Alike channel (r.feed calls) (r'.feed (only channel calls)) := by
  induction calls generalizing r r' with
  | nil => exact ⟨rfl, h⟩
  | cons call calls ih =>
    obtain ⟨on, c⟩ := call
    have hfeed : r.feed ((on, c) :: calls) = (r.accept on c).2.feed calls := rfl
    rw [answers, hfeed]
    dsimp only
    -- both runs make a call on the channel, and only the run on the left makes one elsewhere
    by_cases hon : on = channel
    · subst hon
      obtain ⟨hanswer, hnext⟩ := h.accept c
      obtain ⟨hanswers, hlater⟩ := ih hnext
      rw [only_cons_self, only_cons_self, answers, hanswers, hanswer]
      exact ⟨rfl, hlater⟩
    · rw [only_cons_of_ne hon, only_cons_of_ne hon]
      exact ih (h.accept_of_ne hon c)

/-! ### What is held -/

/-- The bytes held for the unfinished payload on a channel. -/
def heldOn (r : Reassembler) (channel : Channel) : Nat :=
  ((r.assembly? channel).map Assembly.received).getD 0

private theorem heldOn_cons (limit : Nat) (entry : Channel × Assembly)
    {inFlight : List (Channel × Assembly)} (hn : entry.1 ∉ inFlight.map Prod.fst)
    (channel : Channel) :
    heldOn ⟨limit, entry :: inFlight⟩ channel =
      (if channel = entry.1 then entry.2.received else 0) + heldOn ⟨limit, inFlight⟩ channel := by
  obtain ⟨key, a⟩ := entry
  by_cases hk : channel = key
  · subst hk
    have hnone : inFlight.lookup channel = none := by
      refine List.lookup_eq_none_iff.mpr fun entry he => ?_
      have hne : channel ≠ entry.1 := by
        rintro rfl
        exact hn (List.mem_map.mpr ⟨entry, he, rfl⟩)
      simpa using hne
    simp [heldOn, assembly?, hnone]
  · have hb : (channel == key) = false := by simpa using hk
    simp [heldOn, assembly?, List.lookup_cons, hb, hk]

/-- With one entry for a channel, what is held is held on the channels of the entries. -/
private theorem bufferedBytes_eq_sum (limit : Nat) {inFlight : List (Channel × Assembly)}
    {channels : Finset Channel} (hd : (inFlight.map Prod.fst).Nodup)
    (hc : ∀ entry ∈ inFlight, entry.1 ∈ channels) :
    bufferedBytes ⟨limit, inFlight⟩ = ∑ channel ∈ channels, heldOn ⟨limit, inFlight⟩ channel := by
  induction inFlight with
  | nil => exact (Finset.sum_const_zero).symm
  | cons entry inFlight ih =>
    obtain ⟨hn, hd⟩ := List.nodup_cons.mp hd
    obtain ⟨hentry, hc⟩ := List.forall_mem_cons.mp hc
    have hrest := ih hd hc
    have hhead : ∑ channel ∈ channels, (if channel = entry.1 then entry.2.received else 0) =
        entry.2.received := by
      rw [Finset.sum_ite_eq', if_pos hentry]
    calc bufferedBytes ⟨limit, entry :: inFlight⟩
        = entry.2.received + bufferedBytes ⟨limit, inFlight⟩ := rfl
      _ = ∑ channel ∈ channels, ((if channel = entry.1 then entry.2.received else 0) +
            heldOn ⟨limit, inFlight⟩ channel) := by
          rw [Finset.sum_add_distrib, hhead, hrest]
      _ = ∑ channel ∈ channels, heldOn ⟨limit, entry :: inFlight⟩ channel :=
          Finset.sum_congr rfl fun channel _ => (heldOn_cons limit entry hn channel).symm

/-- What is in flight on a channel is in flight without the other channels as well. -/
theorem assembly?_feed (r : Reassembler) (calls : List (Channel × Chunk)) (channel : Channel) :
    (r.feed calls).assembly? channel = (r.feed (only channel calls)).assembly? channel :=
  (Alike.feed ⟨rfl, rfl⟩ calls).2.held

/-- What is in flight in the end was passed on. -/
private theorem mem_of_mem_feed (limit : Nat) (calls : List (Channel × Chunk))
    {entry : Channel × Assembly}
    (he : entry ∈ ((ofLimit limit).feed calls).inFlight) : entry.1 ∈ calls.map Prod.fst := by
  by_contra hn
  -- alone, a channel that nothing was passed on for makes no call at all, and holds nothing
  have hnone : only entry.1 calls = [] := by
    refine List.filter_eq_nil_iff.mpr fun call hc => ?_
    have hne : call.1 ≠ entry.1 := fun heq => hn (heq ▸ List.mem_map_of_mem hc)
    simpa using hne
  have hidle : ((ofLimit limit).feed calls).assembly? entry.1 = none := by
    rw [assembly?_feed, hnone]
    rfl
  simpa using List.lookup_eq_none_iff.mp hidle entry he

/-- What is held after chunks were passed on, as a sum over channels. -/
theorem bufferedBytes_feed (limit : Nat) (calls : List (Channel × Chunk))
    {channels : Finset Channel} (hc : ∀ call ∈ calls, call.1 ∈ channels) :
    ((ofLimit limit).feed calls).bufferedBytes =
      ∑ channel ∈ channels, ((ofLimit limit).feed calls).heldOn channel := by
  refine bufferedBytes_eq_sum _ (sound_feed (sound_ofLimit limit) calls).distinct fun entry he => ?_
  obtain ⟨call, hcall, hkey⟩ := List.mem_map.mp (mem_of_mem_feed limit calls he)
  exact hkey ▸ hc call hcall

/-- The chunks of one channel hold what they hold on it. -/
private theorem bufferedBytes_feed_only (limit : Nat) (calls : List (Channel × Chunk))
    (channel : Channel) :
    ((ofLimit limit).feed (only channel calls)).bufferedBytes =
      ((ofLimit limit).feed calls).heldOn channel := by
  have hc : ∀ call ∈ only channel calls, call.1 ∈ ({channel} : Finset Channel) := by
    intro call hcall
    simpa using (List.mem_filter.mp hcall).2
  rw [bufferedBytes_feed limit _ hc, Finset.sum_singleton, heldOn, heldOn, ← assembly?_feed]

/-- Whatever chunks are passed on, valid or not: the chunks of a channel get the answers, and leave
in flight there, what they would without the chunks of the other channels. In particular a stream
on one of the channels gets its payload with its last chunk and nothing before it. What is held
is the sum of what the channels would hold alone. -/
theorem channels_apart (limit : Nat) (calls : List (Channel × Chunk)) :
    (∀ channel,
      only channel ((ofLimit limit).answers calls) =
        (ofLimit limit).answers (only channel calls) ∧
      ((ofLimit limit).feed calls).assembly? channel =
        ((ofLimit limit).feed (only channel calls)).assembly? channel) ∧
    (∀ channel payload chunks, only channel calls = chunks.map (channel, ·) →
      IsStream payload chunks → payload.length ≤ limit →
      only channel ((ofLimit limit).answers calls) =
        (delivering payload chunks).map (channel, ·)) ∧
    ((ofLimit limit).feed calls).bufferedBytes =
      ∑ channel ∈ (calls.map Prod.fst).toFinset,
        ((ofLimit limit).feed (only channel calls)).bufferedBytes := by
  have hanswers : ∀ channel, only channel ((ofLimit limit).answers calls) =
      (ofLimit limit).answers (only channel calls) :=
    fun channel => (Alike.feed ⟨rfl, rfl⟩ calls).1
  -- a stream on a channel is judged by the run of this channel alone
  refine ⟨fun channel => ⟨hanswers channel, assembly?_feed _ calls channel⟩, ?_, ?_⟩
  · intro channel payload chunks honly hstream hl
    have hdone : Completes channel (ofLimit limit) chunks payload (ofLimit limit) :=
      hstream.completes rfl hl
    rw [hanswers, honly, hdone.answers_eq]
  · have hmem : ∀ call ∈ calls, call.1 ∈ (calls.map Prod.fst).toFinset :=
      fun call hc => List.mem_toFinset.mpr (List.mem_map_of_mem hc)
    rw [bufferedBytes_feed limit calls hmem]
    exact Finset.sum_congr rfl fun channel _ => (bufferedBytes_feed_only limit calls channel).symm

/-- Two payloads that take turns on their channels, and chunks that are refused between theirs: one
with a gap on a third channel, and one that announces too much there. -/
def takingTurns : List (Channel × Chunk) :=
  [(.unset, ⟨some 2, 0, [1]⟩), ({ raw := 5 }, ⟨some 2, 0, [7]⟩), ({ raw := 6 }, ⟨none, 5, []⟩),
    (.unset, ⟨none, 1, [2]⟩), ({ raw := 6 }, ⟨some 9, 0, [3]⟩), ({ raw := 5 }, ⟨none, 1, [8]⟩)]

/-- A payload that takes turns with others is not touched by them. -/
theorem channels_apart_takingTurns :
    only .unset ((ofLimit 4).answers takingTurns) =
        [(.unset, .ok none), (.unset, .ok (some [1, 2]))] ∧
      only { raw := 5 } ((ofLimit 4).answers takingTurns) =
        [({ raw := 5 }, .ok none), ({ raw := 5 }, .ok (some [7, 8]))] := by
  have hfirst : IsStream [1, 2] [⟨some 2, 0, [1]⟩, ⟨none, 1, [2]⟩] :=
    (Fragmenter.cuts_split (f := .ofSize 1) rfl (by decide)).isStream (by decide)
  have hsecond : IsStream [7, 8] [⟨some 2, 0, [7]⟩, ⟨none, 1, [8]⟩] :=
    (Fragmenter.cuts_split (f := .ofSize 1) rfl (by decide)).isStream (by decide)
  have hstreams := (channels_apart 4 takingTurns).2.1
  exact ⟨hstreams .unset [1, 2] _ (by decide) hfirst (by decide),
    hstreams { raw := 5 } [7, 8] _ (by decide) hsecond (by decide)⟩

end Reassembler

end PacketSession
