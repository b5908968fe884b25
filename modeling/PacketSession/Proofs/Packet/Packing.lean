import PacketSession.Proofs.Packet.Batch

/-!
# Packing takes as few batches as can be

Packing fills one batch after the other and never looks ahead. The batches that come out are one
division of the frames into groups that may travel together (`BatchLimits.Divides`), and no division
has fewer groups (`Batch.optimal_pack`).

The reason is that a part of a group that may travel together may do so, too. So when a frame does
not fit the batch being filled, no group that began with this batch or earlier has room for it
either: whatever the other division is, it has begun as many groups by then.
-/

namespace PacketSession

/-- Frames that may travel in one batch: a single one, whatever its length, or several that are
within both limits. -/
def BatchLimits.Allows (limits : BatchLimits) (group : List Bytes) : Prop :=
  group.length = 1 ∨
    group.length ≤ limits.maxFrames ∧ (Batch.encode ⟨group⟩).length ≤ limits.maxBytes

/-- Frames are divided, in order, into groups each of which may travel in one batch. -/
structure BatchLimits.Divides (limits : BatchLimits) (frames : List Bytes)
    (groups : List (List Bytes)) : Prop where
  flatten_eq : groups.flatten = frames
  ne_nil : ∀ group ∈ groups, group ≠ []
  allows : ∀ group ∈ groups, limits.Allows group

namespace Batch

/-! ### Groups that may travel together -/

/-- The size that a batch is counted with is the one that it is written with. -/
theorem length_encode (b : Batch) : b.encode.length = b.encodedSize := by
  have hbody : ∀ frames : List Bytes,
      (frames.flatMap fun frame => Bytes.size frame.length ++ frame).length =
        entryHeaderSize * frames.length + frames.flatten.length := by
    intro frames
    induction frames with
    | nil => rfl
    | cons frame frames ih =>
      rw [List.flatMap_cons, List.length_append, ih, List.length_append, Bytes.size,
        Bytes.length_bigEndian, List.length_cons, List.flatten_cons, List.length_append,
        entryHeaderSize]
      omega
  rw [encode, List.length_append, hbody, encodedSize, Nat.add_assoc]
  rfl

private theorem encodedSize_push (b : Batch) (frame : Bytes) :
    (b.push frame).encodedSize = b.encodedSize + entryHeaderSize + frame.length := by
  simp only [encodedSize, count, push, List.length_append, List.length_singleton, Nat.mul_add,
    Nat.mul_one, List.flatten_append, List.flatten_singleton]
  omega

private theorem count_push (b : Batch) (frame : Bytes) : (b.push frame).count = b.count + 1 := by
  simp [count, push]

variable {limits : BatchLimits}

private theorem allows_singleton (frame : Bytes) : limits.Allows [frame] := .inl rfl

/-- A part of a group that may travel together may do so. -/
private theorem allows_of_infix {group part : List Bytes} (h : limits.Allows group)
    (hpart : part <:+: group) (hn : part ≠ []) : limits.Allows part := by
  obtain ⟨before, after, rfl⟩ := hpart
  have hpos := List.length_pos_iff.mpr hn
  simp only [BatchLimits.Allows, length_encode, encodedSize, count, List.length_append,
    List.flatten_append] at h ⊢
  obtain hone | ⟨hframes, hbytes⟩ := h
  · exact .inl (by omega)
  · refine .inr ⟨by omega, le_trans ?_ hbytes⟩
    simp only [Nat.mul_add]
    omega

/-! ### The batch being filled -/

/-- The numbers of a batch being filled are those of its frames. -/
structure Filling.Counted (f : Filling) : Prop where
  count : f.count = f.toBatch.count
  size : f.size = f.toBatch.encodedSize

theorem Filling.counted_empty : empty.Counted := ⟨rfl, rfl⟩

theorem Filling.toBatch_push (f : Filling) (frame : Bytes) :
    (f.push frame).toBatch = f.toBatch.push frame := by
  simp [toBatch, Filling.push, Batch.push]

private theorem Filling.push_ne_nil {f : Filling} {frame : Bytes} :
    (f.push frame).toBatch.frames ≠ [] := by
  simp [toBatch, Filling.push]

private theorem Filling.Counted.count_ne_zero {f : Filling} (h : f.Counted)
    (hn : f.toBatch.frames ≠ []) : f.count ≠ 0 := by
  rw [h.count]
  exact mt List.length_eq_zero_iff.mp hn

/-- Counting along with each frame that joins keeps the counts right. -/
theorem Filling.Counted.push {f : Filling} (h : f.Counted) (frame : Bytes) :
    (f.push frame).Counted where
  count := by rw [toBatch_push, count_push, Filling.push, h.count]
  size := by rw [toBatch_push, encodedSize_push, Filling.push, h.size, Nat.add_assoc]

/-- A frame may join a batch just if it may travel with the frames in it. -/
theorem mayJoin_iff {f : Filling} (h : f.Counted) (frame : Bytes) :
    mayJoin limits f.count f.size frame.length = true ↔
      limits.Allows (f.toBatch.push frame).frames := by
  have hlength : (f.toBatch.push frame).frames.length = f.toBatch.count + 1 :=
    count_push f.toBatch frame
  rw [BatchLimits.Allows, length_encode, encodedSize_push, hlength, h.count, h.size]
  simp only [mayJoin, Bool.or_eq_true, Bool.and_eq_true, decide_eq_true_eq, Nat.lt_iff_add_one_le,
    Nat.add_eq_right]

/-! ### Going through the frames -/

variable {frame : Bytes} {frames : List Bytes} {f : Filling}

/-- Batches that are finished do not matter to the rest of the scan. -/
private theorem distribute_eq_append (frames : List Bytes) (f : Filling) (finished : List Batch) :
    distribute limits frames f finished = finished.reverse ++ distribute limits frames f [] := by
  induction frames generalizing f finished with
  | nil =>
    rw [distribute, distribute]
    split <;> simp
  | cons frame frames ih =>
    rw [distribute, distribute]
    split
    · exact ih _ _
    · rw [ih, ih _ [_]]
      simp

/-- When no frames are left, the batch that is being filled is the last one. -/
private theorem distribute_nil (hn : f.count ≠ 0) : distribute limits [] f [] = [f.toBatch] := by
  rw [distribute, if_neg hn]
  rfl

/-- A frame that the limits allow joins the batch that is being filled. -/
private theorem distribute_cons_of_allows (hf : f.Counted)
    (h : limits.Allows (f.toBatch.push frame).frames) :
    distribute limits (frame :: frames) f [] = distribute limits frames (f.push frame) [] := by
  rw [distribute, if_pos ((mayJoin_iff hf frame).mpr h)]

/-- A frame that does not fit closes the batch that is being filled and opens the next one, whatever
its own size. -/
private theorem distribute_cons_of_not_allows (hf : f.Counted)
    (h : ¬ limits.Allows (f.toBatch.push frame).frames) :
    distribute limits (frame :: frames) f [] =
      f.toBatch :: distribute limits frames (Filling.empty.push frame) [] := by
  rw [distribute, if_neg (mt (mayJoin_iff hf frame).mp h), distribute_eq_append]
  rfl

/-- The batch being filled and all later ones may travel. -/
private theorem allows_of_mem_distribute (hf : f.Counted) (hn : f.toBatch.frames ≠ [])
    (ha : limits.Allows f.toBatch.frames) :
    ∀ b ∈ distribute limits frames f [], b.frames ≠ [] ∧ limits.Allows b.frames := by
  induction frames generalizing f with
  | nil =>
    rw [distribute_nil (hf.count_ne_zero hn)]
    exact List.forall_mem_singleton.mpr ⟨hn, ha⟩
  | cons frame frames ih =>
    by_cases hjoins : limits.Allows (f.toBatch.push frame).frames
    · rw [distribute_cons_of_allows hf hjoins]
      rw [← Filling.toBatch_push] at hjoins
      exact ih (hf.push frame) Filling.push_ne_nil hjoins
    · rw [distribute_cons_of_not_allows hf hjoins]
      refine List.forall_mem_cons.mpr ⟨⟨hn, ha⟩, ?_⟩
      exact ih (Filling.counted_empty.push frame) Filling.push_ne_nil (allows_singleton frame)

/-- Packing is compared with another division that is in the middle of a group: `group` is the part
of it that came before the frames at hand, and `rest` the part among them. As long as the batch
being filled did not begin before that group, packing needs no more batches than there are groups;
if it may have, it needs one more at most. -/
private theorem length_distribute_le (hf : f.Counted) (hn : f.toBatch.frames ≠ []) (ahead : Nat)
    (group : List Bytes) {rest : List Bytes} {groups : List (List Bytes)}
    (hbehind : f.toBatch.frames <:+ group ∨ 1 ≤ ahead) (hframes : frames = rest ++ groups.flatten)
    (hgroup : limits.Allows (group ++ rest))
    (hgroups : ∀ group ∈ groups, group ≠ [] ∧ limits.Allows group) :
    (distribute limits frames f []).length ≤ ahead + 1 + groups.length := by
  induction frames generalizing f ahead group rest groups with
  | nil =>
    rw [distribute_nil (hf.count_ne_zero hn), List.length_singleton]
    omega
  | cons frame frames ih =>
    have hone : (Filling.empty.push frame).toBatch.frames = [frame] := rfl
    cases rest with
    | cons first rest =>
      -- the other division puts the frame into the group it is in
      obtain ⟨rfl, rfl⟩ := List.cons.inj hframes
      have hgroup' : limits.Allows (group ++ [frame] ++ rest) := by simpa using hgroup
      by_cases hjoins : limits.Allows (f.toBatch.push frame).frames
      · rw [distribute_cons_of_allows hf hjoins]
        refine ih (hf.push frame) Filling.push_ne_nil ahead (group ++ [frame])
          (hbehind.imp_left fun hs => ?_) rfl hgroup' hgroups
        obtain ⟨before, rfl⟩ := hs
        exact ⟨before, by simp [Filling.toBatch_push, push]⟩
      · have hahead : 1 ≤ ahead := by
          refine hbehind.resolve_left fun ⟨before, hs⟩ => hjoins ?_
          refine allows_of_infix hgroup ⟨before, rest, ?_⟩ (by simp [push])
          simp [push, ← hs]
        rw [distribute_cons_of_not_allows hf hjoins, List.length_cons]
        have hnext := ih (Filling.counted_empty.push frame) Filling.push_ne_nil (ahead - 1)
          (group ++ [frame]) (.inl (hone ▸ ⟨group, rfl⟩)) rfl hgroup' hgroups
        omega
    | nil =>
      -- the other division begins a group with the frame
      cases groups with
      | nil => cases hframes
      | cons next groups =>
        obtain ⟨⟨hnext, hallows⟩, hlater⟩ := List.forall_mem_cons.mp hgroups
        obtain ⟨first, next, rfl⟩ := List.exists_cons_of_ne_nil hnext
        obtain ⟨rfl, rfl⟩ := List.cons.inj hframes
        by_cases hjoins : limits.Allows (f.toBatch.push frame).frames
        · rw [distribute_cons_of_allows hf hjoins, List.length_cons]
          have hbound := ih (hf.push frame) Filling.push_ne_nil (ahead + 1) [frame]
            (.inr (Nat.le_add_left 1 ahead)) rfl hallows hlater
          omega
        · rw [distribute_cons_of_not_allows hf hjoins, List.length_cons, List.length_cons]
          have hbound := ih (Filling.counted_empty.push frame) Filling.push_ne_nil ahead [frame]
            (.inl (hone ▸ List.suffix_rfl)) rfl hallows hlater
          omega

/-! ### Packing as a whole -/

private theorem pack_cons (limits : BatchLimits) (frame : Bytes) (frames : List Bytes) :
    pack limits (frame :: frames) =
      distribute limits frames (Filling.empty.push frame) [] := rfl

/-- Packing divides the frames into groups that may travel together. -/
theorem divides_pack (limits : BatchLimits) (frames : List Bytes) :
    limits.Divides frames ((pack limits frames).map Batch.frames) := by
  have hmem : ∀ b ∈ pack limits frames, b.frames ≠ [] ∧ limits.Allows b.frames := by
    cases frames with
    | nil => exact fun b hb => absurd hb List.not_mem_nil
    | cons frame frames =>
      rw [pack_cons]
      exact allows_of_mem_distribute (Filling.counted_empty.push frame)
        Filling.push_ne_nil (allows_singleton frame)
  refine ⟨by rw [← List.flatMap_def, flatMap_pack], ?_, ?_⟩
  · exact List.forall_mem_map.mpr fun b hb => (hmem b hb).1
  · exact List.forall_mem_map.mpr fun b hb => (hmem b hb).2

/-- No division of the frames has fewer groups than packing makes batches. -/
private theorem length_pack_le {groups : List (List Bytes)} (h : limits.Divides frames groups) :
    (pack limits frames).length ≤ groups.length := by
  cases frames with
  | nil => exact Nat.zero_le _
  | cons frame frames =>
    cases groups with
    | nil => cases h.flatten_eq
    | cons group groups =>
      obtain ⟨hnext, hlater⟩ := List.forall_mem_cons.mp h.ne_nil
      obtain ⟨hallows, hlater'⟩ := List.forall_mem_cons.mp h.allows
      obtain ⟨first, rest, rfl⟩ := List.exists_cons_of_ne_nil hnext
      obtain ⟨rfl, rfl⟩ := List.cons.inj h.flatten_eq
      rw [pack_cons, List.length_cons, Nat.add_comm]
      have hbound := length_distribute_le (Filling.counted_empty.push first)
        Filling.push_ne_nil 0 [first] (.inl List.suffix_rfl) rfl hallows
        fun group hg => ⟨hlater group hg, hlater' group hg⟩
      rwa [Nat.zero_add] at hbound

/-- Packing divides the frames, in order, into groups that may travel together, and no such
division has fewer groups. -/
theorem optimal_pack (limits : BatchLimits) (frames : List Bytes) :
    limits.Divides frames ((pack limits frames).map Batch.frames) ∧
      ∀ groups, limits.Divides frames groups → (pack limits frames).length ≤ groups.length :=
  ⟨divides_pack limits frames, fun _ h => length_pack_le h⟩

/-- A frame beyond the limit travels alone between batches that are filled up. -/
example :
    (pack ⟨2, 20⟩ [[1], [2], [3], List.replicate 30 0, [4]]).map Batch.frames =
      [[[1], [2]], [[3]], [List.replicate 30 0], [[4]]] := by
  decide

end Batch

end PacketSession
