import PacketSession.Proofs.Session.Opening

/-!
# What a call hands over

A frame goes out in pieces, whole or as the frames of its chunks. Each piece first passes through
the listeners and is then handed over as what came out of them, so what connections take around one
piece is a *round*: the frames that listeners sent on their own while they passed it on, and behind
them, with nothing between, the frames that came out for it (`Round`).

`SendingM.Adds` describes the rounds of a sending action. Frames that are transmitted add one round
for each piece, in order, up to the piece where sending failed, and their handle counts what came
out and nothing else (`Host.adds_transmitAll`). This does not ask anything of the listeners: they
may call the session as they like. Only the connection must not hand over frames of its own while
it takes one.
-/

namespace PacketSession

variable {S : Schema} {N X : Type}

/-! ### Handing nothing over -/

/-- Connections took nothing between two endpoints. -/
def Endpoint.TakesNothing (e e' : Endpoint S N X) : Prop := e'.taken = e.taken

instance : IsPreorder (Endpoint S N X) Endpoint.TakesNothing where
  refl _ := rfl
  trans _ _ _ h₁ h₂ := Eq.trans h₂ h₁

open Endpoint

namespace Host

/-- While a connection takes a frame, no other frame is handed over. -/
def TakesSingly (h : Host S N X) : Prop :=
  ∀ connection frame, (h.carrier.send connection frame).Follows TakesNothing

/-- Listeners on the way out hand nothing over while they run. -/
def ListensMutely (h : Host S N X) : Prop :=
  ∀ stage ∈ h.protocol.pipeline.outbound.listeners, ∀ delivery message,
    ReceivingM.Follows TakesNothing (stage delivery message)

/-- A connection takes exactly the frame that it does not refuse. -/
private theorem taken_hand {h : Host S N X} (hs : h.TakesSingly) (connection : ConnectionId)
    (frame : WireFrame) (e : Endpoint S N X) :
    ((h.hand connection frame).after e).taken =
      e.taken ++ if ((h.hand connection frame).answer e).isOk then [frame] else [] := by
  have ht : ((h.carrier.send connection frame).after e).taken = e.taken := hs connection frame e
  rw [hand, SessionM.after_bind, SessionM.answer_bind, ← ht]
  cases (h.carrier.send connection frame).answer e with
  | ok write => exact taken_record_sent _ connection frame
  | error cause =>
    exact (taken_record_refused _ connection frame cause).trans (List.append_nil _).symm

end Host

/-! ### Rounds -/

/-- What connections take around one piece. -/
structure Round where
  /-- What listeners hand over on their own while they pass the piece on. -/
  aside : List WireFrame
  /-- What is handed over of that which comes out for the piece. -/
  own : List WireFrame

namespace Round

/-- All frames of a round, in order. -/
def wire (round : Round) : List WireFrame := round.aside ++ round.own

/-- A round of one frame. -/
def single (frame : WireFrame) : Round := ⟨[], [frame]⟩

/-- If nothing was handed over aside, the frames of the rounds are all there is. -/
theorem flatMap_wire {rounds : List Round} (h : ∀ round ∈ rounds, round.aside = []) :
    rounds.flatMap wire = rounds.flatMap own :=
  List.flatMap_congr fun round hr => by rw [wire, h round hr, List.nil_append]

private theorem flatMap_own_single (frames : List WireFrame) :
    (frames.map single).flatMap own = frames := by
  rw [List.flatMap_map]
  exact List.flatMap_singleton' frames

private theorem flatMap_wire_single (frames : List WireFrame) :
    (frames.map single).flatMap wire = frames := by
  rw [flatMap_wire (by simp [single]), flatMap_own_single]

end Round

namespace SendingM

variable {α β : Type}

/-- A sending action goes on with the handle and the endpoint that the one before has left, if that
succeeded. -/
theorem run_bind (m : SendingM S N X α) (g : α → SendingM S N X β) (handle : SendHandle)
    (e : Endpoint S N X) :
    ((m >>= g).run.run handle).run e =
      match (m.run.run handle).run e with
      | ((.ok a, handle), e) => ((g a).run.run handle).run e
      | ((.error cause, handle), e) => ((.error cause, handle), e) := by
  change ((ExceptT.bindCont g ((m.run.run handle).run e).1.1).run
    ((m.run.run handle).run e).1.2).run ((m.run.run handle).run e).2 = _
  rcases (m.run.run handle).run e with ⟨⟨_ | _, _⟩, _⟩ <;> rfl

theorem run_lift_bind (m : SessionM S N X α) (g : α → SendingM S N X β) (handle : SendHandle)
    (e : Endpoint S N X) :
    ((m >>= g : SendingM S N X β).run.run handle).run e =
      ((g (m.answer e)).run.run handle).run (m.after e) := rfl

theorem forM_cons (g : α → SendingM S N X Unit) (a : α) (l : List α) :
    (a :: l).forM g = g a >>= fun _ => l.forM g := rfl

/-- Actions over two lists are those over the first and then those over the second. -/
theorem forM_append (g : α → SendingM S N X Unit) (l l' : List α) :
    (l ++ l').forM g = l.forM g >>= fun _ => l'.forM g := by
  induction l with
  | nil => exact (pure_bind _ _).symm
  | cons a l ih => rw [List.cons_append, forM_cons, forM_cons, ih, bind_assoc]

/-- A sending action adds rounds that go with its result, and the handle counts the frames that
came out in them. -/
def Adds (m : SendingM S N X α) (Q : Except ProtocolError α → List Round → Prop) : Prop :=
  ∀ handle e, ∃ rounds, Q ((m.run.run handle).answer e).1 rounds ∧
    ((m.run.run handle).after e).taken = e.taken ++ rounds.flatMap Round.wire ∧
    ((m.run.run handle).answer e).2.frames = handle.frames + (rounds.flatMap Round.own).length

variable {Q Q' : Except ProtocolError α → List Round → Prop}

theorem Adds.mono {m : SendingM S N X α} (h : m.Adds Q)
    (hq : ∀ r rounds, Q r rounds → Q' r rounds) : m.Adds Q' := by
  intro handle e
  obtain ⟨rounds, hr, ht, hc⟩ := h handle e
  exact ⟨rounds, hq _ _ hr, ht, hc⟩

theorem Adds.pure {a : α} (h : Q (.ok a) []) : Adds (Pure.pure a : SendingM S N X α) Q :=
  fun _ e => ⟨[], h, (List.append_nil e.taken).symm, rfl⟩

theorem Adds.throw {cause : ProtocolError} (h : Q (.error cause) []) :
    Adds (throw cause : SendingM S N X α) Q :=
  fun _ e => ⟨[], h, (List.append_nil e.taken).symm, rfl⟩

/-- If the first of two actions fails, its rounds are those of both. -/
theorem Adds.bind {R : Except ProtocolError β → List Round → Prop}
    {R' : α → Except ProtocolError β → List Round → Prop} {m : SendingM S N X α}
    {f : α → SendingM S N X β} (hm : m.Adds Q) (hf : ∀ a, (f a).Adds (R' a))
    (hfails : ∀ cause rounds, Q (.error cause) rounds → R (.error cause) rounds)
    (hboth : ∀ a front r back, Q (.ok a) front → R' a r back → R r (front ++ back)) :
    (m >>= f).Adds R := by
  intro handle e
  have hrun : (m >>= f).run.run handle =
      (m.run.run handle >>= fun r => (ExceptT.bindCont f r.1).run r.2) := rfl
  rw [hrun, SessionM.answer_bind, SessionM.after_bind]
  obtain ⟨front, hq, ht, hc⟩ := hm handle e
  rcases hr : (m.run.run handle).answer e with ⟨cause | a, handle₁⟩ <;> rw [hr] at hq hc
  · exact ⟨front, hfails cause front hq, ht, hc⟩
  · obtain ⟨back, hr', ht', hc'⟩ := hf a handle₁ ((m.run.run handle).after e)
    refine ⟨front ++ back, hboth a front _ back hq hr', ?_, ?_⟩
    · rw [List.flatMap_append, ← List.append_assoc, ← ht]
      exact ht'
    · rw [List.flatMap_append, List.length_append, ← Nat.add_assoc, ← hc]
      exact hc'

/-- What goes on with a result that is there already only has to be known for that result. -/
theorem Adds.ofExcept_bind {R : Except ProtocolError β → List Round → Prop}
    {r : Except ProtocolError α} {f : α → SendingM S N X β}
    (hfails : ∀ cause, r = .error cause → R (.error cause) [])
    (hf : ∀ a, r = .ok a → (f a).Adds R) : (ofExcept r >>= f).Adds R := by
  cases r with
  | ok a => exact hf a rfl
  | error cause => exact .throw (hfails cause rfl)

/-- Rounds that all are of some kind stay so over a list of actions. -/
theorem Adds.forM {P : Round → Prop} {f : α → SendingM S N X Unit}
    (hf : ∀ a, (f a).Adds fun _ rounds => ∀ round ∈ rounds, P round) :
    ∀ l : List α, Adds (l.forM f) fun _ rounds => ∀ round ∈ rounds, P round
  | [] => .pure (by simp)
  | a :: l => .bind (hf a) (fun _ => Adds.forM hf l) (fun _ _ h => h)
    fun _ _ _ _ hfront hback round hr => (List.mem_append.mp hr).elim (hfront round) (hback round)

/-- The handle of a call that collects its writes counts the frames that came out in the call. -/
theorem Adds.collect {m : SendingM S N X α} (hm : m.Adds Q) {e : Endpoint S N X}
    {r : Except ProtocolError α} {handle : SendHandle} (ho : m.collect.answer e = (r, handle)) :
    ∃ rounds, Q r rounds ∧ (m.collect.after e).taken = e.taken ++ rounds.flatMap Round.wire ∧
      handle.frames = (rounds.flatMap Round.own).length := by
  obtain ⟨rounds, hq, ht, hc⟩ := hm .empty e
  rw [show (m.run.run .empty).answer e = (r, handle) from ho] at hq hc
  exact ⟨rounds, hq, ht, hc.trans (Nat.zero_add _)⟩

end SendingM

/-! ### What comes out of the listeners -/

/-- The payload that a message is handed over as. -/
def Registry.written (r : Registry S) : Message S → Except ProtocolError Bytes
  | .bytes frame => .ok frame
  | .packet packet => r.encode packet

namespace Host

variable (h : Host S N X) (delivery : Delivery)

/-- These frames are handed over for a piece: they are those of what may come out of the listeners
for it, up to where it ended. -/
inductive Passes (piece : Bytes) : Bool → List WireFrame → Prop
  /-- A listener refused the piece. -/
  | refused : Passes piece false []
  /-- Messages came out, and as many as could were handed over. -/
  | handed {finished : Bool} {e : Endpoint S N X} {outputs front : List (Message S)}
      {payloads : List Bytes} :
      (h.protocol.pipeline.send delivery (.bytes piece) []).run.answer e = .ok outputs →
      front <+: outputs → (finished = true → front = outputs) →
      front.mapM h.protocol.codecs.written = .ok payloads →
      Passes piece finished (payloads.map (⟨delivery, ·⟩))

/-- Pieces go out in these rounds, one each, up to the piece where it ended. -/
inductive Emits : Bool → List Bytes → List Round → Prop
  /-- There are no more pieces. -/
  | nil (finished : Bool) : Emits finished [] []
  /-- It ended with a piece. -/
  | last {piece : Bytes} {pieces : List Bytes} {round : Round} :
      h.Passes delivery piece false round.own → Emits false (piece :: pieces) [round]
  /-- A piece went out, and others follow. -/
  | cons {finished : Bool} {piece : Bytes} {pieces : List Bytes} {round : Round}
      {rounds : List Round} : h.Passes delivery piece true round.own →
      Emits finished pieces rounds → Emits finished (piece :: pieces) (round :: rounds)

/-- Frames go out in these rounds, up to where it ended; nothing is handed over aside unless
listeners do that. -/
structure Progress (frames : List Bytes) (finished : Bool) (rounds : List Round) : Prop where
  emitted : ∃ front pieces, front <+: frames ∧ (finished = true → front = frames) ∧
    front.mapM (h.protocol.codecs.payloads h.protocol.settings) = .ok pieces ∧
    h.Emits delivery finished pieces.flatten rounds
  aside : h.ListensMutely → ∀ round ∈ rounds, round.aside = []

variable {h delivery}

/-- Rounds for some pieces and rounds for more are rounds for all of them, provided that the first
part came to its end. -/
theorem Emits.append {finished : Bool} {pieces more : List Bytes} {rounds later : List Round}
    (h₁ : h.Emits delivery true pieces rounds) (h₂ : h.Emits delivery finished more later) :
    h.Emits delivery finished (pieces ++ more) (rounds ++ later) := by
  generalize hb : true = b at h₁
  induction h₁ with
  | nil => exact h₂
  | last => cases hb
  | cons hpass _ ih => exact .cons hpass (ih hb)

/-! ### What is handed over -/

variable (hs : h.TakesSingly) (connection : ConnectionId) (delivery)

/-- Delivering a message is writing it as bytes, which may fail, and delivering these. -/
theorem deliver_eq (message : Message S) :
    h.deliver connection delivery message =
      SendingM.ofExcept (h.protocol.codecs.written message) >>= fun payload =>
        h.deliver connection delivery (.bytes payload) := by
  cases message with
  | bytes frame => exact (pure_bind _ _).symm
  | packet packet =>
    rw [deliver, Registry.written]
    rfl

include hs

/-- A payload is handed over, or it is refused. -/
private theorem adds_deliver_bytes (payload : Bytes) :
    (h.deliver connection delivery (.bytes payload)).Adds fun r rounds =>
      rounds = if r.isOk then [.single ⟨delivery, payload⟩] else [] := by
  intro handle e
  have ht := taken_hand hs connection ⟨delivery, payload⟩ e
  rw [deliver, pure_bind, SendingM.after_lift_bind, SendingM.answer_lift_bind]
  cases hr : (h.hand connection ⟨delivery, payload⟩).answer e with
  | ok write =>
    rw [hr] at ht
    exact ⟨_, rfl, ht, rfl⟩
  | error cause =>
    rw [hr] at ht
    exact ⟨_, rfl, ht, rfl⟩

/-- A message that is delivered is one round of one frame, and one that is refused is none. -/
private theorem adds_deliver (message : Message S) :
    (h.deliver connection delivery message).Adds fun r rounds =>
      match r with
      | .ok _ => ∃ payload, h.protocol.codecs.written message = .ok payload ∧
          rounds = [.single ⟨delivery, payload⟩]
      | .error _ => rounds = [] := by
  rw [deliver_eq]
  refine .ofExcept_bind (fun _ _ => rfl) fun payload hp =>
    (adds_deliver_bytes delivery hs connection payload).mono ?_
  rintro (cause | _) rounds rfl
  · rfl
  · exact ⟨payload, hp, rfl⟩

/-- Of messages, those up to the first that fails are handed over. -/
private theorem adds_deliverEach (outputs : List (Message S)) :
    SendingM.Adds (outputs.forM (h.deliver connection delivery)) fun r rounds =>
      ∃ front payloads, front <+: outputs ∧ (r.isOk = true → front = outputs) ∧
        front.mapM h.protocol.codecs.written = .ok payloads ∧
        rounds = (payloads.map (⟨delivery, ·⟩)).map .single := by
  induction outputs with
  | nil => exact .pure ⟨[], [], List.prefix_rfl, fun _ => rfl, rfl, rfl⟩
  | cons message outputs ih =>
    refine (adds_deliver delivery hs connection message).bind (fun _ => ih) ?_ ?_
    · rintro cause _ rfl
      exact ⟨[], [], List.nil_prefix, nofun, rfl, rfl⟩
    · rintro _ _ r _ ⟨payload, hp, rfl⟩ ⟨front, payloads, hfront, hall, hps, rfl⟩
      refine ⟨message :: front, payload :: payloads, ?_, ?_, ?_, rfl⟩
      · exact List.cons_prefix_cons.mpr ⟨rfl, hfront⟩
      · exact fun hr => congrArg _ (hall hr)
      · rw [List.mapM_cons, hp, hps]
        rfl

variable (hl : ∀ stage ∈ h.protocol.pipeline.outbound.listeners, ∀ delivery message,
  ReceivingM.Follows Course (stage delivery message))

include hl

/-- A piece goes out in one round. -/
theorem adds_emit (piece : Bytes) :
    (h.emit connection delivery piece).Adds fun r rounds => ∃ round, rounds = [round] ∧
      h.Passes delivery piece r.isOk round.own ∧ (h.ListensMutely → round.aside = []) := by
  intro handle e
  -- whatever listeners do, what was taken before stays taken
  have hgrow : Course e ((h.protocol.pipeline.send delivery (.bytes piece) []).run.after e) :=
    Pipeline.follows_send delivery hl _ _ e
  obtain ⟨aside, haside⟩ := hgrow.taken_grow
  have hmute : h.ListensMutely → aside = [] := fun hm =>
    List.append_right_eq_self.mp (haside.trans (Pipeline.follows_send delivery hm _ _ e))
  rw [emit, SendingM.after_lift_bind, SendingM.answer_lift_bind]
  cases ho : (h.protocol.pipeline.send delivery (.bytes piece) []).run.answer e with
  | error cause =>
    refine ⟨[⟨aside, []⟩], ⟨_, rfl, .refused, hmute⟩, ?_, rfl⟩
    exact haside.symm.trans (by simp [Round.wire])
  | ok outputs =>
    obtain ⟨rounds, ⟨front, payloads, hfront, hall, hps, rfl⟩, ht, hcount⟩ :=
      adds_deliverEach delivery hs connection outputs handle
        ((h.protocol.pipeline.send delivery (.bytes piece) []).run.after e)
    rw [Round.flatMap_wire_single] at ht
    rw [Round.flatMap_own_single] at hcount
    refine ⟨[⟨aside, payloads.map (⟨delivery, ·⟩)⟩], ⟨_, rfl, ?_, hmute⟩, ?_, ?_⟩
    · exact .handed ho hfront hall hps
    · rw [List.flatMap_singleton, Round.wire, ← List.append_assoc, haside]
      exact ht
    · rw [List.flatMap_singleton]
      exact hcount

/-- Pieces go out in one round each. -/
private theorem adds_emitEach (pieces : List Bytes) :
    SendingM.Adds (pieces.forM (h.emit connection delivery)) fun r rounds =>
      h.Emits delivery r.isOk pieces rounds ∧
        (h.ListensMutely → ∀ round ∈ rounds, round.aside = []) := by
  induction pieces with
  | nil => exact .pure ⟨.nil true, by simp⟩
  | cons piece pieces ih =>
    refine (adds_emit delivery hs connection hl piece).bind (fun _ => ih) ?_ ?_
    · rintro cause _ ⟨round, rfl, hpass, hmute⟩
      exact ⟨.last hpass, fun hm => List.forall_mem_singleton.mpr (hmute hm)⟩
    · rintro _ _ r later ⟨round, rfl, hpass, hmute⟩ ⟨hlater, hmutes⟩
      exact ⟨.cons hpass hlater, fun hm => List.forall_mem_cons.mpr ⟨hmute hm, hmutes hm⟩⟩

omit hs hl in
/-- The frames of chunks go out as pieces. -/
private theorem emitChunks_eq {chunks : List Chunk} {pieces : List Bytes}
    (he : (chunks.mapM fun c => h.protocol.codecs.encode (.ofChunk c)) = .ok pieces) :
    chunks.forM (h.emitChunk connection delivery) = pieces.forM (h.emit connection delivery) := by
  induction chunks generalizing pieces with
  | nil =>
    cases he
    rfl
  | cons c chunks ih =>
    obtain ⟨piece, rest, hpiece, hrest, rfl⟩ := mapM_cons_eq_ok he
    have hfirst : h.emitChunk connection delivery c = h.emit connection delivery piece := by
      rw [emitChunk, hpiece]
      exact pure_bind _ _
    rw [SendingM.forM_cons, SendingM.forM_cons, hfirst, ih hrest]

omit hs hl in
/-- Chunks are encoded one by one as they go out, which is no different from encoding all of them
first: they are of one kind, so either all have frames or the first one has none already. -/
private theorem forM_emitChunk_eq (chunks : List Chunk) :
    chunks.forM (h.emitChunk connection delivery) =
      SendingM.ofExcept (chunks.mapM fun c => h.protocol.codecs.encode (.ofChunk c)) >>=
        fun pieces => pieces.forM (h.emit connection delivery) := by
  cases hcodec : h.protocol.codecs.codec? (.chunk : PacketKind S.Kind) with
  | some found =>
    have hencode (c : Chunk) : h.protocol.codecs.encode (.ofChunk c) =
        .ok (Varint.encode found.1.raw ++ found.2.encode c) := by
      simp only [Registry.encode, Packet.ofChunk, hcodec]
    obtain ⟨pieces, hpieces⟩ : ∃ pieces,
        (chunks.mapM fun c => h.protocol.codecs.encode (.ofChunk c)) = .ok pieces :=
      Registry.exists_mapM_eq_ok fun c _ => ⟨_, hencode c⟩
    rw [emitChunks_eq delivery connection hpieces, hpieces]
    rfl
  | none =>
    have hnone (c : Chunk) : h.protocol.codecs.encode (.ofChunk c) =
        .error (.unknownPacketType (Packet.ofChunk c : Packet S).typeName) := by
      simp only [Registry.encode, Packet.ofChunk, hcodec]
    cases chunks with
    | nil => exact (pure_bind _ _).symm
    | cons c chunks =>
      rw [SendingM.forM_cons, List.mapM_cons, emitChunk, hnone]
      rfl

omit hs hl in
/-- Transmitting a frame is sending out the pieces it travels in, or failing at once. -/
theorem transmit_eq (frame : Bytes) :
    h.transmit connection delivery frame =
      SendingM.ofExcept (h.protocol.codecs.payloads h.protocol.settings frame) >>= fun pieces =>
        pieces.forM (h.emit connection delivery) := by
  rw [transmit, Registry.payloads]
  split
  · rfl
  split
  · exact bind_pure_unit.symm
  · cases hs : (Fragmenter.ofSize h.protocol.settings.fragmentThreshold).split frame with
    | error cause => rfl
    | ok chunks => exact (pure_bind _ _).trans (forM_emitChunk_eq delivery connection chunks)

/-- A frame that is transmitted goes out in one round for each of its pieces, up to the piece where
sending failed, and not at all if it cannot travel. -/
theorem adds_transmit (frame : Bytes) :
    (h.transmit connection delivery frame).Adds fun r rounds =>
      match h.protocol.codecs.payloads h.protocol.settings frame with
      | .error cause => r = .error cause ∧ rounds = []
      | .ok pieces => h.Emits delivery r.isOk pieces rounds ∧
          (h.ListensMutely → ∀ round ∈ rounds, round.aside = []) := by
  rw [transmit_eq delivery connection]
  cases h.protocol.codecs.payloads h.protocol.settings frame with
  | error cause => exact .throw ⟨rfl, rfl⟩
  | ok pieces => exact adds_emitEach delivery hs connection hl pieces

/-- Frames that are transmitted go out piece by piece, one frame after the other. -/
theorem adds_transmitAll (frames : List Bytes) :
    SendingM.Adds (frames.forM (h.transmit connection delivery)) fun r rounds =>
      h.Progress delivery frames r.isOk rounds := by
  induction frames with
  | nil => exact .pure ⟨⟨[], [], List.prefix_rfl, fun _ => rfl, rfl, .nil true⟩, by simp⟩
  | cons frame frames ih =>
    rw [SendingM.forM_cons]
    have hone := adds_transmit delivery hs connection hl frame
    cases hp : h.protocol.codecs.payloads h.protocol.settings frame with
    | error cause =>
      rw [hp] at hone
      -- a frame that cannot travel ends the call before its first piece
      refine hone.bind (fun _ => ih) ?_ ?_
      · rintro _ _ ⟨-, rfl⟩
        exact ⟨⟨[], [], List.nil_prefix, nofun, rfl, .nil false⟩, by simp⟩
      · rintro _ _ _ _ ⟨⟨⟩, -⟩
    | ok first =>
      rw [hp] at hone
      refine hone.bind (fun _ => ih) ?_ ?_
      -- sending failed within this frame
      · rintro cause rounds ⟨hrounds, hmute⟩
        refine ⟨⟨[frame], [first], ?_, nofun, ?_, ?_⟩, hmute⟩
        · exact List.cons_prefix_cons.mpr ⟨rfl, List.nil_prefix⟩
        · rw [List.mapM_cons, hp]
          rfl
        · rw [List.flatten_singleton]
          exact hrounds
      · rintro _ rounds r later ⟨hrounds, hmute⟩
          ⟨⟨front, pieces, hfront, hall, hps, hlater⟩, hmutes⟩
        refine ⟨⟨frame :: front, first :: pieces, ?_, ?_, ?_, hrounds.append hlater⟩, ?_⟩
        · exact List.cons_prefix_cons.mpr ⟨rfl, hfront⟩
        · exact fun hr => congrArg _ (hall hr)
        · rw [List.mapM_cons, hp, hps]
          rfl
        · exact fun hm => List.forall_mem_append.mpr ⟨hmute hm, hmutes hm⟩

end Host

end PacketSession
