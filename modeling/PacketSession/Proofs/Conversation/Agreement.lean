import PacketSession.Proofs.Conversation.Answering

/-!
# Two sessions that agree

While two sessions talk over a pair, what one of them heard is always a part of what the other one
said, and the rest is queued between them, followed by the announcement of a close and a mark if the
other one closed. `Agreed` says so of both sides at once. It is about two faces and two accounts of
what the sides did: the calls to send that succeeded, and what ended the traffic, if anything did
(`Stage`).

There is one lemma for each thing that can happen at a side: it says something (`Agreed.say`), is
closed (`Agreed.close`), hears a frame (`Agreed.read`), hangs up because it heard that its peer
closed (`Agreed.hangUp`), fails because an answer was refused (`Agreed.lose`), drops what is left
for it (`Agreed.drop`), and ends (`Agreed.conclude`). Only a peer that closed stops reading while a
session is open, so only then can a frame be refused.
-/

namespace PacketSession

open Memory

variable {S : Schema} {N Y : Type}

/-! ### Where a session stands -/

/-- What ended the traffic of a session, if anything did. -/
inductive Stage
  /-- Nothing did. -/
  | opened
  /-- Its own side closed it. -/
  | closes (reason : String)
  /-- Its peer announced a close. -/
  | hungUp (reason : String)
  /-- A frame that it sent was refused. -/
  | broken
deriving DecidableEq

namespace Stage

/-- The reason that a session records. -/
def reason : Stage → Option String
  | opened => none
  | closes reason | hungUp reason => some reason
  | broken => some ProtocolError.refusal.message

/-- The failure that a session reports. -/
def failure : Stage → Option ProtocolError
  | broken => some .refusal
  | _ => none

end Stage

namespace Face

/-- The callbacks of a session so far. -/
def callbacksAt (phase : Phase) (stage : Stage) : List (Event S N) :=
  .opened .opened ::
    if phase = .closed then (stage.failure.map (.failed .closed)).toList ++ [.closed .closed]
    else []

/-- A session and its end of the pair are where they are to be at a stage. -/
structure Stands (f : Face S N) (side : Side) (stage : Stage) : Prop where
  reason : f.reason = stage.reason
  opened : f.phase = .opened ↔ stage = .opened
  closed : stage = .broken → f.phase = .closed
  started : f.phase ≠ .connecting
  sending : (f.pair.get side).hungUp = false ↔ stage = .opened
  reading : (f.pair.get side).reading = true ↔ f.phase ≠ .closed
  connected : f.phase ≠ .closed → f.connection = some 0
  unended : f.phase ≠ .closed → (f.pair.get side).ended = false
  callbacks : f.callbacks = callbacksAt f.phase stage

/-- The face with another pair. -/
def joinedBy (f : Face S N) (pair : MemoryPair) : Face S N := { f with pair }

namespace Stands

variable {f : Face S N} {side : Side} {stage : Stage}

theorem live (h : f.Stands side .opened) : f.Live side := by
  have hphase : f.phase = .opened := h.opened.mpr rfl
  have hopen : f.phase ≠ .closed := by
    rw [hphase]
    decide
  exact ⟨hphase, h.connected hopen, h.sending.mpr rfl, h.reading.mpr hopen⟩

/-- Where a session stands does not depend on what is queued at its end. -/
theorem joinedBy (h : f.Stands side stage) {pair : MemoryPair}
    (ha : (f.pair.get side).Alike (pair.get side)) : (f.joinedBy pair).Stands side stage where
  reason := h.reason
  opened := h.opened
  closed := h.closed
  started := h.started
  sending := by
    change (pair.get side).hungUp = false ↔ _
    rw [ha.hungUp]
    exact h.sending
  reading := by
    change (pair.get side).reading = true ↔ _
    rw [ha.reading]
    exact h.reading
  connected := h.connected
  unended hp := ha.ended.trans (h.unended hp)
  callbacks := h.callbacks

theorem say (h : f.Stands side stage) (frames : List WireFrame) :
    (f.say side frames).Stands side stage := by
  have ha : (f.pair.get side).Alike ((f.pair.pass side frames).get side) := by
    rw [MemoryPair.get_pass_self]
    exact End.Alike.refl _
  have hj := h.joinedBy ha
  exact ⟨hj.reason, hj.opened, hj.closed, hj.started, hj.sending, hj.reading, hj.connected,
    hj.unended, hj.callbacks⟩

theorem read (h : f.Stands side stage) {pair : MemoryPair}
    (ha : (f.pair.get side).Alike (pair.get side)) (reassembler : Reassembler)
    (packets : List (PacketId × Packet S × Delivery)) :
    (f.read reassembler pair packets).Stands side stage := by
  have hj := h.joinedBy ha
  exact ⟨hj.reason, hj.opened, hj.closed, hj.started, hj.sending, hj.reading, hj.connected,
    hj.unended, hj.callbacks⟩

/-- An open session begins to close. -/
theorem depart (h : f.Stands side .opened) {reason : String} (hr : stage.reason = some reason)
    (ho : stage ≠ .opened) (hb : stage ≠ .broken) : (f.depart side reason).Stands side stage where
  reason := hr.symm
  opened := ⟨fun hp => Phase.noConfusion hp, fun hs => absurd hs ho⟩
  closed hs := absurd hs hb
  started := Phase.noConfusion
  sending := by
    change ((f.pair.disconnect side).get side).hungUp = false ↔ _
    rw [MemoryPair.hungUp_disconnect]
    exact ⟨fun hp => Bool.noConfusion hp, fun hs => absurd hs ho⟩
  reading := by
    change ((f.pair.disconnect side).get side).reading = true ↔ _
    rw [MemoryPair.reading_disconnect_self]
    exact ⟨fun _ => Phase.noConfusion, fun _ => h.live.reading⟩
  connected _ := h.live.connected
  unended _ := by
    change ((f.pair.disconnect side).get side).ended = false
    rw [MemoryPair.ended_disconnect_self]
    exact h.unended (by rw [h.live.opened]; decide)
  callbacks := by
    have hc := h.callbacks
    rw [h.live.opened] at hc
    exact hc

/-- The driver of a session that failed because a frame was refused stops reading. -/
theorem lose (h : f.Stands side .opened) :
    ((f.lose side).joinedBy ((f.lose side).pair.stopReading side)).Stands side .broken where
  reason := by
    have hr : f.reason = none := h.reason
    change some (f.reason.getD ProtocolError.refusal.message) = _
    rw [hr]
    rfl
  opened := ⟨fun hp => Phase.noConfusion hp, fun hs => Stage.noConfusion hs⟩
  closed _ := rfl
  started := Phase.noConfusion
  sending := by
    change (((f.pair.disconnect side).stopReading side).get side).hungUp = false ↔ _
    rw [MemoryPair.get_stopReading_self]
    change ((f.pair.disconnect side).get side).hungUp = false ↔ _
    rw [MemoryPair.hungUp_disconnect]
    exact ⟨fun hp => Bool.noConfusion hp, fun hs => Stage.noConfusion hs⟩
  reading := by
    change (((f.pair.disconnect side).stopReading side).get side).reading = true ↔ _
    rw [MemoryPair.get_stopReading_self]
    exact ⟨fun hp => Bool.noConfusion hp, fun hp => absurd rfl hp⟩
  connected hp := absurd rfl hp
  unended hp := absurd rfl hp
  callbacks := by
    have hc := h.callbacks
    rw [h.live.opened] at hc
    change f.callbacks ++ [.failed .closed .refusal] ++ [.closed .closed] = _
    rw [hc]
    rfl

/-- The driver of a session that was closing stops reading at the end. -/
theorem conclude (h : f.Stands side stage) (hp : f.phase = .closing) (pair : MemoryPair) :
    let ended := ((f.joinedBy pair).explain "connection closed").conclude side none
    (ended.joinedBy (ended.pair.stopReading side)).Stands side stage := by
  have hstage : stage ≠ .opened := by
    intro hs
    have ho := h.opened.mpr hs
    rw [hp] at ho
    cases ho
  have hbroken : stage ≠ .broken := by
    intro hs
    have hc := h.closed hs
    rw [hp] at hc
    cases hc
  exact {
    reason := by
      change some (f.reason.getD "connection closed") = _
      rw [h.reason]
      cases stage with
      | opened => exact absurd rfl hstage
      | _ => rfl
    opened := ⟨fun hp => Phase.noConfusion hp, fun hs => absurd hs hstage⟩
    closed := fun _ => rfl
    started := Phase.noConfusion
    sending := by
      change (((pair.disconnect side).stopReading side).get side).hungUp = false ↔ _
      rw [MemoryPair.get_stopReading_self]
      change ((pair.disconnect side).get side).hungUp = false ↔ _
      rw [MemoryPair.hungUp_disconnect]
      exact ⟨fun hp => Bool.noConfusion hp, fun hs => absurd hs hstage⟩
    reading := by
      change (((pair.disconnect side).stopReading side).get side).reading = true ↔ _
      rw [MemoryPair.get_stopReading_self]
      exact ⟨fun hp => Bool.noConfusion hp, fun hp => absurd rfl hp⟩
    connected := fun hp => absurd rfl hp
    unended := fun hp => absurd rfl hp
    callbacks := by
      have hc := h.callbacks
      rw [hp] at hc
      change f.callbacks ++ [] ++ [.closed .closed] = _
      rw [hc]
      cases stage with
      | broken => exact absurd rfl hbroken
      | _ => rfl }

end Stands

end Face

/-! ### Two sessions that agree -/

/-- What one side of a conversation did. -/
structure Account (S : Schema) where
  /-- What ended its traffic, if anything did. -/
  stage : Stage
  /-- The calls to send that succeeded, its answers included. -/
  calls : List (Sending S)

/-- The packet of an announcement, with its delivery. -/
def Protocol.farewell {m : Type → Type} (p : Protocol S m) (reason : String) :
    Decoded S × Delivery :=
  (⟨.disconnect, .ofDisconnect ⟨reason⟩⟩, p.settings.announcement)

section Bonds

variable (p : Protocol S (Sided S N Y)) (good : Sending S → Prop) (side : Side)

/-- What is queued at the end of an open session is what its peer said and it did not hear yet. -/
structure Listens (f g : Face S N) (other : Account S) : Prop where
  heard : ∃ before after leaves,
    g.taken = before ++ after ∧
    (f.pair.get side).items =
      after.map .frame ++ (if other.stage = .opened then [] else [.mark]) ∧
    p.codecs.Opens (.ofLimit p.settings.maxMessage) before leaves f.reassembler ∧
    leaves <+: p.codecs.sent other.calls ∧
    f.handled = p.handlers.taking leaves
  partner : other.stage = .opened ∨ ∃ reason, other.stage = .closes reason

/-- What the connection of a session took is what the session was to send, and the announcement of
its close if anybody read it. -/
def Speaks (f : Face S N) (own : Account S) : Prop :=
  ∃ word : Option String,
    p.codecs.Opens (.ofLimit p.settings.maxMessage) f.taken
      (p.codecs.sent own.calls ++ word.toList.map p.farewell) (.ofLimit p.settings.maxMessage) ∧
    (∀ reason, word = some reason → own.stage = .closes reason) ∧
    (∀ reason, own.stage = .closes reason → (f.pair.get side.other).reading = true →
      word = some reason)

/-- What one side of a conversation stands for, seen with the other side: `f` and `g` are the faces
of the two sessions, `own` and `other` what the two sides did. -/
structure Bond (f g : Face S N) (own other : Account S) : Prop where
  stands : f.Stands side own.stage
  returns : ∀ call ∈ own.calls, p.codecs.Returns p.settings call
  speaks : Speaks p side f own
  listens : own.stage = .opened → Listens p side f g other
  agreed : ∀ reason, own.stage = .hungUp reason → other.stage = .closes reason ∧
    f.handled = p.handlers.taking (p.codecs.sent other.calls)
  lost : own.stage = .broken → (∃ reason, other.stage = .closes reason) ∧
    (f.pair.get side.other).reading = false ∧
    f.handled <+: p.handlers.taking (p.codecs.sent other.calls) ∧ ∃ call, good call

end Bonds

/-- Two sides of a conversation agree. -/
structure Agreed (p : Protocol S (Sided S N Y)) (good : Side → Sending S → Prop) (side : Side)
    (f g : Face S N) (own other : Account S) : Prop where
  here : Bond p (good side) side f g own other
  there : Bond p (good side.other) side.other g f other own
  joined : g.pair = f.pair

/-- What was to be sent are packets of the application. -/
private theorem Registry.isApplication_of_mem_sent {r : Registry S} (hw : r.WellFormed)
    {settings : Settings} {calls : List (Sending S)}
    (hc : ∀ call ∈ calls, r.Returns settings call) :
    ∀ leaf ∈ r.sent calls, leaf.1.IsApplication := by
  intro leaf hleaf
  obtain ⟨call, hcall, hmem⟩ := List.mem_flatMap.mp hleaf
  obtain ⟨d, hd, rfl⟩ := List.mem_map.mp hmem
  exact isApplication_of_mem_tagged hw (hc call hcall).faithful d hd

private theorem Registry.sent_append (r : Registry S) (calls later : List (Sending S)) :
    r.sent (calls ++ later) = r.sent calls ++ r.sent later :=
  List.flatMap_append

/-- What a list with at most one more element begins with is a part of the list, or all of it with
the element. -/
private theorem prefix_or_eq_of_append_eq {α β : Type} {f : β → α} {front later list : List α}
    {last : Option β} (h : front ++ later = list ++ last.toList.map f) :
    front <+: list ∨ ∃ b, last = some b ∧ front = list ++ [f b] := by
  obtain ⟨extra, hfront, hextra⟩ | ⟨more, hmore, -⟩ := List.append_eq_append_iff.mp h.symm
  · cases extra with
    | nil =>
      rw [List.append_nil] at hfront
      exact .inl (hfront ▸ List.prefix_refl _)
    | cons a extra =>
      cases last with
      | none => cases hextra
      | some b =>
        obtain ⟨rfl, hnil⟩ := List.cons.inj hextra
        obtain ⟨rfl, rfl⟩ := List.append_eq_nil_iff.mp hnil.symm
        exact .inr ⟨b, rfl, hfront⟩
  · exact .inl ⟨more, hmore.symm⟩

section Bonds

variable {p : Protocol S (Sided S N Y)} {good : Sending S → Prop} {side : Side} {f g : Face S N}
  {own other : Account S}

/-- At a session that did not close by itself there is no announcement to be read. -/
theorem Speaks.unannounced (h : Speaks p side f own)
    (hs : ∀ reason, own.stage ≠ .closes reason) :
    p.codecs.Opens (.ofLimit p.settings.maxMessage) f.taken (p.codecs.sent own.calls)
      (.ofLimit p.settings.maxMessage) := by
  obtain ⟨word, hopens, hword, -⟩ := h
  cases word with
  | none => rwa [Option.toList_none, List.map_nil, List.append_nil] at hopens
  | some reason => exact absurd (hword reason rfl) (hs reason)

theorem Speaks.of_unannounced {f : Face S N}
    (h : p.codecs.Opens (.ofLimit p.settings.maxMessage) f.taken (p.codecs.sent own.calls)
      (.ofLimit p.settings.maxMessage)) (hs : ∀ reason, own.stage ≠ .closes reason) :
    Speaks p side f own := by
  refine ⟨none, ?_, nofun, fun reason hr => absurd hr (hs reason)⟩
  rwa [Option.toList_none, List.map_nil, List.append_nil]

theorem Speaks.joinedBy (h : Speaks p side f own) {pair : MemoryPair}
    (hr : (pair.get side.other).reading = true → (f.pair.get side.other).reading = true) :
    Speaks p side (f.joinedBy pair) own := by
  obtain ⟨word, hopens, hword, hreads⟩ := h
  exact ⟨word, hopens, hword, fun reason hs hreading => hreads reason hs (hr hreading)⟩

/-- A side is not affected by what happens at the other one if its own end stays as it is and the
other side takes nothing new. -/
theorem Bond.unaffected (h : Bond p good side f g own other) {g' : Face S N} {pair : MemoryPair}
    (htaken : g'.taken = g.taken) (hpair : pair.get side = f.pair.get side)
    (hr : (pair.get side.other).reading = true → (f.pair.get side.other).reading = true) :
    Bond p good side (f.joinedBy pair) g' own other where
  stands := h.stands.joinedBy (by rw [hpair]; exact End.Alike.refl _)
  returns := h.returns
  speaks := h.speaks.joinedBy hr
  listens ho := by
    obtain ⟨⟨before, after, leaves, hbefore, hitems, hrest⟩, hpartner⟩ := h.listens ho
    refine ⟨⟨before, after, leaves, htaken.trans hbefore, ?_, hrest⟩, hpartner⟩
    change (pair.get side).items = _
    rw [hpair, hitems]
  agreed := h.agreed
  lost hb := by
    obtain ⟨hcloses, hreading, hrest⟩ := h.lost hb
    refine ⟨hcloses, Bool.eq_false_iff.mpr fun hnow => ?_, hrest⟩
    rw [hr hnow] at hreading
    cases hreading

/-- A side that closed by itself is not affected by anything that happens at the other one. -/
theorem Bond.of_closes (h : Bond p good side f g own other) {reason : String}
    (hs : own.stage = .closes reason) (g' : Face S N) (other' : Account S) {pair : MemoryPair}
    (ha : (f.pair.get side).Alike (pair.get side))
    (hr : (pair.get side.other).reading = true → (f.pair.get side.other).reading = true) :
    Bond p good side (f.joinedBy pair) g' own other' where
  stands := h.stands.joinedBy ha
  returns := h.returns
  speaks := h.speaks.joinedBy hr
  listens := by simp [hs]
  agreed := by simp [hs]
  lost := by simp [hs]

/-- A side whose peer is open knows of no close and did not fail. -/
theorem Bond.of_open (h : Bond p good side f g own other) (ho : other.stage = .opened) :
    (∀ reason, own.stage ≠ .hungUp reason) ∧ own.stage ≠ .broken := by
  constructor
  · intro reason hs
    have hcloses := (h.agreed reason hs).1
    rw [ho] at hcloses
    cases hcloses
  · intro hs
    obtain ⟨⟨reason, hcloses⟩, -⟩ := h.lost hs
    rw [ho] at hcloses
    cases hcloses

end Bonds

namespace Agreed

variable {p : Protocol S (Sided S N Y)} {good : Side → Sending S → Prop} {side : Side}
  {f g : Face S N} {own other : Account S}

theorem symm (h : Agreed p good side f g own other) : Agreed p good side.other g f other own where
  here := h.there
  there := by
    rw [Side.other_other]
    exact h.here
  joined := h.joined.symm

theorem live (h : Agreed p good side f g own other) (ho : own.stage = .opened) : f.Live side := by
  have hstands := h.here.stands
  rw [ho] at hstands
  exact hstands.live

/-- A side that is not open is closing or closed. -/
theorem over_of_not_open (h : Agreed p good side f g own other) (hs : own.stage ≠ .opened) :
    2 ≤ f.phase.rank := by
  have hopen : f.phase ≠ .opened := mt h.here.stands.opened.mp hs
  have hstarted := h.here.stands.started
  cases hphase : f.phase with
  | connecting => exact absurd hphase hstarted
  | opened => exact absurd hphase hopen
  | closing | closed => decide

/-- Somebody reads at the end of an open peer. -/
theorem reading_of_open (h : Agreed p good side f g own other) (hopen : other.stage = .opened) :
    (f.pair.get side.other).reading = true := by
  rw [← h.joined]
  exact (h.symm.live hopen).reading

/-- What the peer sees of whether a side reads. -/
theorem reads_of (h : Agreed p good side f g own other) {pair : MemoryPair}
    (hr : (pair.get side).reading = true → (f.pair.get side).reading = true) :
    (pair.get side.other.other).reading = true → (g.pair.get side.other.other).reading = true := by
  rw [Side.other_other, h.joined]
  exact hr

/-- The peer does not notice that something is taken from the queue of a side. -/
private theorem there_of_dequeued (h : Agreed p good side f g own other) {pair : MemoryPair}
    (hq : f.pair.Dequeued side pair) {f' : Face S N} (htaken : f'.taken = f.taken) :
    Bond p (good side.other) side.other (g.joinedBy pair) f' other own := by
  have hr : (pair.get side).reading = true → (f.pair.get side).reading = true := by
    rw [hq.own.reading]
    exact id
  exact h.there.unaffected htaken (by rw [hq.other, h.joined]) (h.reads_of hr)

/-- An open session says something. -/
theorem say (h : Agreed p good side f g own other) (hw : p.codecs.WellFormed)
    (ho : own.stage = .opened) {calls : List (Sending S)} {wire : List WireFrame}
    (hwire : p.codecs.CarriesCalls p.settings calls wire)
    (hc : ∀ call ∈ calls, p.codecs.Returns p.settings call) :
    Agreed p good side (f.say side wire) (g.joinedBy (f.say side wire).pair)
      { own with calls := own.calls ++ calls } other where
  joined := rfl
  here := by
    have hs : ∀ reason, own.stage ≠ .closes reason := by simp [ho]
    have hmore := Registry.opens_carriesCalls hw hwire hc
    exact {
      stands := h.here.stands.say wire
      returns := List.forall_mem_append.mpr ⟨h.here.returns, hc⟩
      speaks := by
        refine .of_unannounced ?_ hs
        rw [Registry.sent_append]
        exact (h.here.speaks.unannounced hs).append hmore
      listens := by
        intro _
        obtain ⟨⟨before, after, leaves, htaken, hitems, hrest⟩, hpartner⟩ := h.here.listens ho
        refine ⟨⟨before, after, leaves, htaken, ?_, hrest⟩, hpartner⟩
        change ((f.pair.pass side wire).get side).items = _
        rw [MemoryPair.get_pass_self, hitems]
      agreed := by simp [ho]
      lost := by simp [ho] }
  there := by
    obtain ⟨hhung, hbroken⟩ := h.there.of_open ho
    have ha : (g.pair.get side.other).Alike ((f.pair.pass side wire).get side.other) := by
      rw [h.joined]
      exact f.pair.alike_pass_other side wire
    have hr : ((f.pair.pass side wire).get side).reading = true →
        (f.pair.get side).reading = true := by
      rw [MemoryPair.get_pass_self]
      exact id
    exact {
      stands := h.there.stands.joinedBy ha
      returns := h.there.returns
      speaks := h.there.speaks.joinedBy (h.reads_of hr)
      listens := by
        intro hopen
        obtain ⟨⟨before, after, leaves, htaken, hitems, hopens, hleaves, hhandled⟩, -⟩ :=
          h.there.listens hopen
        have hreading := h.reading_of_open hopen
        rw [if_pos ho, List.append_nil, h.joined] at hitems
        -- what was said stands behind all that the peer has still to read
        refine ⟨⟨before, after ++ wire, leaves, ?_, ?_, hopens, ?_, hhandled⟩, .inl ho⟩
        · change f.taken ++ wire = _
          rw [htaken, List.append_assoc]
        · change ((f.pair.pass side wire).get side.other).items = _
          rw [MemoryPair.get_pass_other, End.items_queueAll_of_reading _ _ hreading, hitems,
            if_pos ho, List.append_nil, List.map_append]
        · rw [Registry.sent_append]
          exact hleaves.trans (List.prefix_append _ _)
      agreed := fun reason hs => absurd hs (hhung reason)
      lost := fun hs => absurd hs hbroken }

/-- An open session is closed by its own side. -/
theorem close (h : Agreed p good side f g own other) (ho : own.stage = .opened) {reason : String}
    {word : Option String} {wire : List WireFrame}
    (hwire : p.codecs.Opens (.ofLimit p.settings.maxMessage) wire (word.toList.map p.farewell)
      (.ofLimit p.settings.maxMessage))
    (hword : ∀ r, word = some r → r = reason)
    (hreads : (f.pair.get side.other).reading = true → word = some reason) :
    Agreed p good side ((f.say side wire).depart side reason)
      (g.joinedBy ((f.say side wire).depart side reason).pair)
      { own with stage := .closes reason } other where
  joined := rfl
  here := by
    have hs : ∀ reason, own.stage ≠ .closes reason := by simp [ho]
    have hstands : (f.say side wire).Stands side .opened := ho ▸ h.here.stands.say wire
    have halike := (f.pair.alike_pass_other side wire).trans
      ((f.pair.pass side wire).alike_disconnect_other side)
    exact {
      stands := hstands.depart rfl nofun nofun
      returns := h.here.returns
      speaks := by
        -- the word is missing only if nobody reads it
        refine ⟨word, (h.here.speaks.unannounced hs).append hwire, fun r hr => ?_,
          fun r hr hreading => ?_⟩
        · rw [hword r hr]
        · cases hr
          exact hreads (halike.reading.symm.trans hreading)
      listens := nofun
      agreed := nofun
      lost := nofun }
  there := by
    obtain ⟨hhung, hbroken⟩ := h.there.of_open ho
    have hsending : ((f.pair.pass side wire).get side).hungUp = false := by
      rw [MemoryPair.get_pass_self]
      exact h.here.stands.sending.mpr ho
    have ha : (g.pair.get side.other).Alike
        (((f.pair.pass side wire).disconnect side).get side.other) := by
      rw [h.joined]
      exact (f.pair.alike_pass_other side wire).trans
        ((f.pair.pass side wire).alike_disconnect_other side)
    have hr : (((f.pair.pass side wire).disconnect side).get side).reading = true →
        (f.pair.get side).reading = true := by
      rw [MemoryPair.reading_disconnect_self, MemoryPair.get_pass_self]
      exact id
    exact {
      stands := h.there.stands.joinedBy ha
      returns := h.there.returns
      speaks := h.there.speaks.joinedBy (h.reads_of hr)
      listens := by
        intro hopen
        obtain ⟨⟨before, after, leaves, htaken, hitems, hrest⟩, -⟩ := h.there.listens hopen
        have hreading := h.reading_of_open hopen
        rw [if_pos ho, List.append_nil, h.joined] at hitems
        -- the mark of the close is queued behind the announcement
        refine ⟨⟨before, after ++ wire, leaves, ?_, ?_, hrest⟩, .inr ⟨reason, rfl⟩⟩
        · change f.taken ++ wire = _
          rw [htaken, List.append_assoc]
        · change (((f.pair.pass side wire).disconnect side).get side.other).items = _
          have hpassed : ((f.pair.get side.other).queueAll (wire.map .frame)).reading = true := by
            rw [End.reading_queueAll, hreading]
          rw [MemoryPair.get_disconnect_other _ _ hsending, MemoryPair.get_pass_other,
            End.items_queue_of_reading _ _ hpassed, End.items_queueAll_of_reading _ _ hreading,
            hitems, if_neg nofun, List.map_append]
      agreed := fun reason hs => absurd hs (hhung reason)
      lost := fun hs => absurd hs hbroken }

/-- An open session that heard everything hangs up because its peer closed. -/
theorem hangUp (h : Agreed p good side f g own other) (ho : own.stage = .opened) {reason : String}
    (hcloses : other.stage = .closes reason) (reassembler : Reassembler) {pair : MemoryPair}
    (hq : f.pair.Dequeued side pair) {packets : List (PacketId × Packet S × Delivery)}
    (hpackets : f.handled ++ packets = p.handlers.taking (p.codecs.sent other.calls)) :
    let hungUp := (f.read reassembler pair packets).depart side reason
    Agreed p good side hungUp (g.joinedBy hungUp.pair) { own with stage := .hungUp reason } other
    where
  joined := rfl
  here := by
    have hs : ∀ reason, own.stage ≠ .closes reason := by simp [ho]
    have hstands : f.Stands side .opened := ho ▸ h.here.stands
    exact {
      stands := (hstands.read hq.own reassembler packets).depart rfl nofun nofun
      returns := h.here.returns
      speaks := .of_unannounced (h.here.speaks.unannounced hs) nofun
      listens := nofun
      agreed := by
        rintro _ ⟨⟩
        exact ⟨hcloses, hpackets⟩
      lost := nofun }
  there := by
    have ha : (g.pair.get side.other).Alike ((pair.disconnect side).get side.other) := by
      rw [h.joined, ← hq.other]
      exact pair.alike_disconnect_other side
    have hr : ((pair.disconnect side).get side).reading = true →
        (f.pair.get side).reading = true := by
      rw [MemoryPair.reading_disconnect_self, hq.own.reading]
      exact id
    -- the peer that closed looks at nothing any more
    exact h.there.of_closes hcloses _ _ ha (h.reads_of hr)

/-- A session that heard a part fails because a frame was refused, and its driver stops reading. -/
theorem lose (h : Agreed p good side f g own other) (ho : own.stage = .opened)
    (hcloses : ∃ reason, other.stage = .closes reason)
    (hr : (f.pair.get side.other).reading = false) (reassembler : Reassembler) {pair : MemoryPair}
    (hq : f.pair.Dequeued side pair) {part : List (PacketId × Packet S × Delivery)}
    (hpart : f.handled ++ part <+: p.handlers.taking (p.codecs.sent other.calls))
    (hcall : ∃ call, good side call) :
    let lost := (f.read reassembler pair part).lose side
    Agreed p good side (lost.joinedBy (lost.pair.stopReading side))
      (g.joinedBy (lost.pair.stopReading side)) { own with stage := .broken } other where
  joined := rfl
  here := by
    have hs : ∀ reason, own.stage ≠ .closes reason := by simp [ho]
    have hstands : f.Stands side .opened := ho ▸ h.here.stands
    have hreading : (((pair.disconnect side).stopReading side).get side.other).reading = false := by
      rw [MemoryPair.get_stopReading_other, (pair.alike_disconnect_other side).reading, hq.other,
        hr]
    exact {
      stands := (hstands.read hq.own reassembler part).lose
      returns := h.here.returns
      speaks := .of_unannounced (h.here.speaks.unannounced hs) nofun
      listens := nofun
      agreed := nofun
      lost := fun _ => ⟨hcloses, hreading, hpart, hcall⟩ }
  there := by
    obtain ⟨reason, hcloses⟩ := hcloses
    have ha : (g.pair.get side.other).Alike
        (((pair.disconnect side).stopReading side).get side.other) := by
      rw [MemoryPair.get_stopReading_other, h.joined, ← hq.other]
      exact pair.alike_disconnect_other side
    have hr : (((pair.disconnect side).stopReading side).get side).reading = true →
        (f.pair.get side).reading = true := by
      rw [MemoryPair.get_stopReading_self]
      exact nofun
    exact h.there.of_closes hcloses _ _ ha (h.reads_of hr)

/-- A peer that does not read any more has closed. -/
private theorem closes_of_not_reading (h : Agreed p good side f g own other)
    (ho : own.stage = .opened)
    (hr : (f.pair.get side.other).reading = false) : ∃ reason, other.stage = .closes reason := by
  obtain hopen | hcloses := (h.here.listens ho).partner
  · cases (h.reading_of_open hopen).symm.trans hr
  · exact hcloses

/-- A session that heard a part and answered fails because one more answer was refused. -/
theorem breaks (h : Agreed p good side f g own other) (hw : p.codecs.WellFormed)
    (ho : own.stage = .opened) {answers : List (Sending S)} {wire : List WireFrame}
    (hwire : p.codecs.CarriesCalls p.settings answers wire)
    (hc : ∀ answer ∈ answers, p.codecs.Returns p.settings answer)
    (hr : (f.pair.get side.other).reading = false) (reassembler : Reassembler) {pair : MemoryPair}
    (hq : f.pair.Dequeued side pair) {part : List (PacketId × Packet S × Delivery)}
    (hpart : f.handled ++ part <+: p.handlers.taking (p.codecs.sent other.calls))
    (hcall : ∃ call, good side call) :
    let lost := ((f.read reassembler pair part).say side wire).lose side
    Agreed p good side (lost.joinedBy (lost.pair.stopReading side))
      (g.joinedBy (lost.pair.stopReading side)) ⟨.broken, own.calls ++ answers⟩ other := by
  have hcloses := h.closes_of_not_reading ho hr
  have hsaid := h.say hw ho hwire hc
  have hr' : ((f.pair.pass side wire).get side.other).reading = false := by
    rw [(f.pair.alike_pass_other side wire).reading, hr]
  exact hsaid.lose ho hcloses hr' reassembler (hq.pass wire) hpart hcall

/-- What is left for a closing session is dropped. -/
theorem drop (h : Agreed p good side f g own other) (hs : own.stage ≠ .opened) {pair : MemoryPair}
    (hq : f.pair.Dequeued side pair) :
    Agreed p good side (f.joinedBy pair) (g.joinedBy pair) own other where
  joined := rfl
  here := {
    stands := h.here.stands.joinedBy hq.own
    returns := h.here.returns
    speaks := h.here.speaks.joinedBy (by rw [hq.other]; exact id)
    listens := fun ho => absurd ho hs
    agreed := h.here.agreed
    lost := by
      intro hb
      obtain ⟨hcloses, hr, hrest⟩ := h.here.lost hb
      exact ⟨hcloses, (congrArg End.reading hq.other).trans hr, hrest⟩ }
  there := h.there_of_dequeued hq rfl

/-- The driver of a closing session stops reading at the end. -/
theorem conclude (h : Agreed p good side f g own other) (hp : f.phase = .closing)
    {pair : MemoryPair} (hown : (pair.get side).hungUp = (f.pair.get side).hungUp)
    (hother : pair.get side.other = f.pair.get side.other) :
    let ended := ((f.joinedBy pair).explain "connection closed").conclude side none
    Agreed p good side (ended.joinedBy (ended.pair.stopReading side))
      (g.joinedBy (ended.pair.stopReading side)) own other := by
  have hstage : own.stage ≠ .opened := by
    intro hs
    have ho := h.here.stands.opened.mpr hs
    rw [hp] at ho
    cases ho
  have hhung : (pair.get side).hungUp = true := by
    rw [hown, ← Bool.not_eq_false]
    exact mt h.here.stands.sending.mp hstage
  have hsame : ((pair.disconnect side).stopReading side).get side.other =
      f.pair.get side.other := by
    rw [MemoryPair.get_stopReading_other, MemoryPair.disconnect_of_hungUp _ _ hhung, hother]
  have hspeaks : Speaks p side (f.joinedBy ((pair.disconnect side).stopReading side)) own := by
    refine h.here.speaks.joinedBy ?_
    rw [hsame]
    exact id
  refine ⟨?_, ?_, rfl⟩
  · exact {
      stands := h.here.stands.conclude hp pair
      returns := h.here.returns
      speaks := hspeaks
      listens := fun ho => absurd ho hstage
      agreed := h.here.agreed
      lost := by
        intro hb
        have hc := h.here.stands.closed hb
        rw [hp] at hc
        cases hc }
  · have hr : (((pair.disconnect side).stopReading side).get side).reading = true →
        (f.pair.get side).reading = true := by
      rw [MemoryPair.get_stopReading_self]
      exact nofun
    exact h.there.unaffected rfl (by rw [h.joined]; exact hsame) (h.reads_of hr)

/-- An open session hears more of what its peer was to send. -/
theorem read (h : Agreed p good side f g own other) (ho : own.stage = .opened) {frame : WireFrame}
    {before rest : List WireFrame} {leaves : List (Decoded S × Delivery)}
    (htaken : g.taken = before ++ frame :: rest)
    (hopens : p.codecs.Opens (.ofLimit p.settings.maxMessage) before leaves f.reassembler)
    (hhandled : f.handled = p.handlers.taking leaves)
    {ds : List (Decoded S)} {reassembler : Reassembler}
    (hread : p.codecs.read f.reassembler frame = (.ok ds, reassembler))
    (hleaves : leaves ++ ds.map (·, frame.delivery) <+: p.codecs.sent other.calls)
    {pair : MemoryPair} (hq : f.pair.Dequeued side pair)
    (hitems : (pair.get side).items =
      rest.map .frame ++ (if other.stage = .opened then [] else [.mark])) :
    Agreed p good side (f.read reassembler pair (p.handlers.taking (ds.map (·, frame.delivery))))
      (g.joinedBy pair) own other where
  joined := rfl
  here := {
    stands := h.here.stands.read hq.own reassembler _
    returns := h.here.returns
    speaks := h.here.speaks.joinedBy (by rw [hq.other]; exact id)
    listens := by
      intro _
      refine ⟨⟨before ++ [frame], rest, _, ?_, hitems, hopens.append (.singleton hread), hleaves,
        ?_⟩, (h.here.listens ho).partner⟩
      · rw [List.append_assoc]
        exact htaken
      · rw [HandlerTable.taking_append, ← hhandled]
        rfl
    agreed := by simp [ho]
    lost := by simp [ho] }
  there := h.there_of_dequeued hq rfl

/-- What an open session reads next can be opened, and goes on with what its peer sent: packets of
the application, and after the last of them the announcement of the peer's close. -/
theorem exists_read (h : Agreed p good side f g own other) (hw : p.codecs.WellFormed)
    (ho : own.stage = .opened) {frame : WireFrame} {items : List Item}
    (hi : (f.pair.get side).items = .frame frame :: items) :
    ∃ ds reassembler packets, (∀ d ∈ ds, d.IsApplication) ∧
      packets = p.handlers.taking (ds.map (·, frame.delivery)) ∧
      f.handled ++ packets <+: p.handlers.taking (p.codecs.sent other.calls) ∧
      (p.codecs.read f.reassembler frame = (.ok ds, reassembler) ∧
          (∀ pair, f.pair.Dequeued side pair → (pair.get side).items = items →
            Agreed p good side (f.read reassembler pair packets) (g.joinedBy pair) own other) ∨
        ∃ reason, p.codecs.read f.reassembler frame =
            (.ok (ds ++ [⟨.disconnect, .ofDisconnect ⟨reason⟩⟩]), reassembler) ∧
          other.stage = .closes reason ∧
          f.handled ++ packets = p.handlers.taking (p.codecs.sent other.calls)) := by
  obtain ⟨⟨before, after, leaves, htaken, hitems, hopens, hleaves, hhandled⟩, -⟩ :=
    h.here.listens ho
  -- the frame is the first of those that were not heard yet
  obtain ⟨rest, rfl, hrest⟩ : ∃ rest, after = frame :: rest ∧
      items = rest.map .frame ++ (if other.stage = .opened then [] else [.mark]) := by
    rw [hitems] at hi
    cases after with
    | nil => split at hi <;> cases hi
    | cons first rest =>
      obtain ⟨hfirst, hmore⟩ := List.cons.inj hi
      cases hfirst
      exact ⟨rest, rfl, hmore.symm⟩
  obtain ⟨word, hall, hword, -⟩ := h.there.speaks
  rw [htaken, Registry.opens_append_iff] at hall
  obtain ⟨first, second, between, hsplit, hfirst, hsecond⟩ := hall
  obtain ⟨rfl, rfl⟩ := hfirst.unique hopens
  obtain ⟨unheard, hunheard⟩ := hleaves
  have happ : ∀ leaf ∈ unheard, leaf.1.IsApplication := fun leaf hleaf =>
    Registry.isApplication_of_mem_sent hw h.there.returns leaf
      (hunheard ▸ List.mem_append_right _ hleaf)
  cases hsecond with
  | @cons _ reassembler _ _ _ ds later hread hlater =>
    rw [← hunheard, List.append_assoc, List.append_right_inj] at hsplit
    -- the leaves of the frame are a part of what is unheard, or all of it with the announcement
    obtain ⟨more, hmore⟩ | ⟨reason, rfl, hds⟩ := prefix_or_eq_of_append_eq hsplit.symm
    · have hpart : first ++ ds.map (·, frame.delivery) <+: p.codecs.sent other.calls := by
        rw [← hunheard, ← hmore, ← List.append_assoc]
        exact List.prefix_append _ _
      refine ⟨ds, reassembler, _, fun d hd => ?_, rfl, ?_, .inl ⟨hread, fun pair hq hp => ?_⟩⟩
      · exact happ (d, frame.delivery)
          (hmore ▸ List.mem_append_left _ (List.mem_map_of_mem hd))
      · rw [hhandled, ← HandlerTable.taking_append]
        exact p.handlers.taking_prefix hpart
      · exact h.read ho htaken hopens hhandled hread hpart hq (hp.trans hrest)
    · obtain ⟨front, back, rfl, hfront, hback⟩ := List.map_eq_append_iff.mp hds
      obtain ⟨d, rfl, hd⟩ := List.map_eq_singleton_iff.mp hback
      have hd : d = ⟨.disconnect, .ofDisconnect ⟨reason⟩⟩ := congrArg Prod.fst hd
      subst hd
      have hall : f.handled ++ p.handlers.taking (front.map (·, frame.delivery)) =
          p.handlers.taking (p.codecs.sent other.calls) := by
        rw [hhandled, hfront, ← HandlerTable.taking_append, hunheard]
      refine ⟨front, reassembler, _, fun d hd => ?_, rfl, hall ▸ List.prefix_refl _,
        .inr ⟨reason, hread, hword reason rfl, hall⟩⟩
      exact happ (d, frame.delivery) (hfront ▸ List.mem_map_of_mem hd)

/-- An open session does not find the end of its queue before it heard that its peer closed. -/
theorem items_ne_mark (h : Agreed p good side f g own other) (ho : own.stage = .opened)
    {items : List Item} : (f.pair.get side).items ≠ .mark :: items := by
  intro hi
  obtain ⟨⟨before, after, leaves, htaken, hitems, hopens, hleaves, -⟩, hpartner⟩ :=
    h.here.listens ho
  rw [hitems] at hi
  cases after with
  | cons first rest => cases hi
  | nil =>
    obtain hopen | ⟨reason, hcloses⟩ := hpartner
    · rw [if_pos hopen] at hi
      cases hi
    · -- all that the peer said was heard, and the announcement with it
      obtain ⟨word, hall, -, hreads⟩ := h.there.speaks
      have hreading : (g.pair.get side.other.other).reading = true := by
        rw [Side.other_other, h.joined]
        exact (h.live ho).reading
      rw [hreads reason hcloses hreading, htaken, List.append_nil] at hall
      obtain ⟨hsame, -⟩ := hall.unique hopens
      have hlength := hleaves.length_le
      rw [← hsame, List.length_append] at hlength
      simp at hlength

end Agreed

end PacketSession
