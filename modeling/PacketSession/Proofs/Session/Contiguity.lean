import PacketSession.Proofs.Session.Delivery
import PacketSession.Proofs.Session.SendOutcome

/-!
# Calls one behind the other

What a session sends is, call by call, the rounds in which the calls went out, and behind a call
that failed what its failure handed over. Within a round nothing comes between the frames that came
out for one piece. So a call that goes out as one piece is never interrupted, and if listeners hand
nothing over while they run, no call is (`Application.contiguous_submitAll`). A call that a listener
makes is a call like all others: what holds of calls at every endpoint holds of it too.

A receiver depends on that where it puts chunks together. What matters for its reassembler is which
chunks it finds in the frames; as long as the listeners on both sides together change nothing about
that (`Host.Transparent`), it has nothing to complain about in the packets of an application but,
perhaps, the length of a message.
-/

namespace PacketSession

variable {S : Schema} {N X : Type}

/-! ### Chunks in frames -/

namespace Registry

variable {r : Registry S}

/-- The chunk of a frame, if it is the frame of one. -/
def chunkIn? (r : Registry S) (frame : Bytes) : Option Chunk :=
  match r.decode frame with
  | .ok d => d.packet.chunk?
  | .error _ => none

/-- Only frames of chunks have chunks. -/
theorem Distinct.chunkIn?_of_encode (hd : r.Distinct) {packet : Packet S} {frame : Bytes}
    (he : r.encode packet = .ok frame) (hk : packet.kind ≠ .chunk) : r.chunkIn? frame = none := by
  rw [chunkIn?]
  cases h : r.decode frame with
  | error cause => rfl
  | ok d => exact Packet.chunk?_eq_none.mpr (hd.kind_of_decode he h ▸ hk)

private theorem Distinct.chunkIn?_of_mapM (hd : r.Distinct) {α : Type} {f : α → Packet S}
    {l : List α} (hk : ∀ a ∈ l, (f a).kind ≠ .chunk) {frames : List Bytes}
    (he : (l.mapM fun a => r.encode (f a)) = .ok frames) :
    ∀ frame ∈ frames, r.chunkIn? frame = none := by
  induction l generalizing frames with
  | nil =>
    cases he
    simp
  | cons a l ih =>
    obtain ⟨frame, rest, hframe, hrest, rfl⟩ := mapM_cons_eq_ok he
    obtain ⟨ha, hl⟩ := List.forall_mem_cons.mp hk
    exact List.forall_mem_cons.mpr ⟨hd.chunkIn?_of_encode hframe ha, ih hl hrest⟩

/-- The frames of packets of an application, by themselves or in batches, are not those of
chunks. -/
private theorem Distinct.chunkIn?_of_framesOf (hd : r.Distinct) {settings : Settings}
    {call : Sending S} (hk : ∀ packet ∈ call.packets, packet.kind ≠ .chunk) {frames : List Bytes}
    (he : r.framesOf settings call = .ok frames) : ∀ frame ∈ frames, r.chunkIn? frame = none := by
  cases call with
  | single packet delivery =>
    obtain ⟨frame, hf, he⟩ := exists_of_bind_eq_ok he
    cases he
    rw [List.forall_mem_singleton]
    exact hd.chunkIn?_of_encode hf (hk packet List.mem_cons_self)
  | batch packets delivery =>
    obtain ⟨members, -, he⟩ := exists_of_bind_eq_ok he
    exact hd.chunkIn?_of_mapM (fun _ _ => by simp [Packet.ofBatch]) he

variable (hw : r.WellFormed) {settings : Settings} {reassembler : Reassembler} {channel : Channel}

include hw

private theorem filterMap_chunkIn? {chunks : List Chunk} (hf : ∀ c ∈ chunks, c.Fits)
    {pieces : List Bytes} (he : (chunks.mapM fun c => r.encode (.ofChunk c)) = .ok pieces) :
    pieces.filterMap r.chunkIn? = chunks := by
  induction chunks generalizing pieces with
  | nil =>
    cases he
    rfl
  | cons c chunks ih =>
    obtain ⟨piece, rest, hpiece, hrest, rfl⟩ := mapM_cons_eq_ok he
    obtain ⟨hc, hchunks⟩ := List.forall_mem_cons.mp hf
    have hfirst : r.chunkIn? piece = some c := by
      rw [chunkIn?, decode_chunk hw hc hpiece]
      rfl
    rw [List.filterMap_cons_some hfirst, ih hchunks hrest]

/-- The pieces of a frame that is not that of a chunk are orderly on an idle channel. -/
private theorem settles_payloads (hi : reassembler.assembly? channel = none) {frame : Bytes}
    (hn : r.chunkIn? frame = none) {pieces : List Bytes}
    (hp : r.payloads settings frame = .ok pieces) :
    reassembler.Settles settings.maxMessage ((pieces.filterMap r.chunkIn?).map (channel, ·)) := by
  cases carries_of_payloads hp with
  | whole =>
    rw [List.filterMap_cons_none hn]
    exact Reassembler.settles_nil
  | chunks hmax hgt hsplit hpieces =>
    have hf := fun c hc => Fragmenter.fits_of_mem_split (c := c) _ hsplit hc
    rw [filterMap_chunkIn? hw hf hpieces]
    exact Reassembler.settles_split hsplit (by omega) hi hmax

private theorem settles_payloadsAll (hi : reassembler.assembly? channel = none)
    {frames : List Bytes}
    (hn : ∀ frame ∈ frames, r.chunkIn? frame = none) {pieces : List (List Bytes)}
    (hp : frames.mapM (r.payloads settings) = .ok pieces) :
    reassembler.Settles settings.maxMessage
      ((pieces.flatten.filterMap r.chunkIn?).map (channel, ·)) := by
  induction frames generalizing pieces with
  | nil =>
    cases hp
    exact Reassembler.settles_nil
  | cons frame frames ih =>
    obtain ⟨first, rest, hfirst, hrest, rfl⟩ := mapM_cons_eq_ok hp
    obtain ⟨hframe, hframes⟩ := List.forall_mem_cons.mp hn
    rw [List.flatten_cons, List.filterMap_append, List.map_append]
    exact (settles_payloads hw hi hframe hfirst).append (ih hframes hrest)

end Registry

/-! ### Chunks behind listeners -/

/-- The chunks that a receiver finds in frames, with their channels, where it finds them by
`view`. -/
def chunksIn (view : WireFrame → Option Chunk) (wire : List WireFrame) : List (Channel × Chunk) :=
  wire.filterMap fun frame => (view frame).map (frame.delivery.channel, ·)

private theorem chunksIn_append (view : WireFrame → Option Chunk) (wire more : List WireFrame) :
    chunksIn view (wire ++ more) = chunksIn view wire ++ chunksIn view more :=
  List.filterMap_append

/-- The chunk that a receiver finds in a message once it is handed over. -/
def Registry.foundIn? (r : Registry S) (view : WireFrame → Option Chunk) (delivery : Delivery)
    (message : Message S) : Option Chunk :=
  (r.written message).toOption.bind fun payload => view ⟨delivery, payload⟩

private theorem filterMap_cons_toList {α β : Type} (f : α → Option β) (a : α) (l : List α) :
    (a :: l).filterMap f = (f a).toList ++ l.filterMap f := by
  cases h : f a with
  | none => exact List.filterMap_cons_none h
  | some b => exact List.filterMap_cons_some h

namespace Host

variable {h : Host S N X} {view : WireFrame → Option Chunk} {delivery : Delivery}

/-- Whatever comes out of the listeners for a piece, a receiver finds the chunk of the piece in it,
once, and no other one. -/
def Transparent (h : Host S N X) (view : WireFrame → Option Chunk) : Prop :=
  ∀ delivery piece outputs (e : Endpoint S N X),
    (h.protocol.pipeline.send delivery (.bytes piece) []).run.answer e = .ok outputs →
    outputs.filterMap (h.protocol.codecs.foundIn? view delivery) =
      (h.protocol.codecs.chunkIn? piece).toList

private theorem chunksIn_written {r : Registry S} {front : List (Message S)} {payloads : List Bytes}
    (hp : front.mapM r.written = .ok payloads) :
    chunksIn view (payloads.map (⟨delivery, ·⟩)) =
      (front.filterMap (r.foundIn? view delivery)).map (delivery.channel, ·) := by
  induction front generalizing payloads with
  | nil =>
    cases hp
    rfl
  | cons message front ih =>
    obtain ⟨payload, rest, hfirst, hrest, rfl⟩ := mapM_cons_eq_ok hp
    have hfound : r.foundIn? view delivery message = view ⟨delivery, payload⟩ := by
      rw [Registry.foundIn?, hfirst]
      rfl
    rw [filterMap_cons_toList, List.map_append, ← ih hrest, hfound, chunksIn, List.map_cons,
      filterMap_cons_toList]
    exact congrArg (· ++ _) Option.toList_map

/-- What is handed over for a piece has the chunk of the piece at most, and that it has if it is all
that came out. -/
theorem Passes.chunksIn_own (ht : h.Transparent view) {piece : Bytes} {finished : Bool}
    {own : List WireFrame} (hp : h.Passes delivery piece finished own) :
    chunksIn view own <+:
        (h.protocol.codecs.chunkIn? piece).toList.map (delivery.channel, ·) ∧
      (finished = true → chunksIn view own =
        (h.protocol.codecs.chunkIn? piece).toList.map (delivery.channel, ·)) := by
  cases hp with
  | refused => exact ⟨List.nil_prefix, nofun⟩
  | handed ho hfront hall hps =>
    rw [chunksIn_written hps, ← ht _ _ _ _ ho]
    exact ⟨(hfront.filterMap _).map _, fun hf => by rw [hall hf]⟩

private theorem Emits.chunksIn_own (ht : h.Transparent view) {pieces : List Bytes} {finished : Bool}
    {rounds : List Round} (he : h.Emits delivery finished pieces rounds) :
    chunksIn view (rounds.flatMap Round.own) <+:
        (pieces.filterMap h.protocol.codecs.chunkIn?).map (delivery.channel, ·) ∧
      (finished = true → chunksIn view (rounds.flatMap Round.own) =
        (pieces.filterMap h.protocol.codecs.chunkIn?).map (delivery.channel, ·)) := by
  induction he with
  | nil => exact ⟨List.prefix_rfl, fun _ => rfl⟩
  | last hp =>
    rw [filterMap_cons_toList, List.map_append, List.flatMap_singleton]
    exact ⟨(hp.chunksIn_own ht).1.trans (List.prefix_append _ _), nofun⟩
  | cons hp _ ih =>
    rw [filterMap_cons_toList, List.map_append, List.flatMap_cons, chunksIn_append,
      (hp.chunksIn_own ht).2 rfl]
    exact ⟨(List.prefix_append_right_inj _).mpr ih.1, fun hf => by rw [ih.2 hf]⟩

/-! ### Calls -/

/-- A call of frames that was answered and went out in these rounds. If it succeeded, its handle
counts the frames that came out in them. -/
structure Submits (h : Host S N X) (delivery : Delivery) (frames : List Bytes)
    (answer : Except SessionError SendHandle) (rounds : List Round) : Prop
    extends h.Progress delivery frames answer.isOk rounds where
  counted : ∀ handle, answer = .ok handle → handle.frames = (rounds.flatMap Round.own).length

/-- What connections take of a call: its rounds, and behind them a farewell if the call fails and
closes the session. If the session is not closed afterwards, no part of a call that failed is under
way. -/
structure Leaves (e e' : Endpoint S N X) (succeeds : Bool) (rounds : List Round)
    (farewell : List WireFrame) : Prop where
  taken : e'.taken = e.taken ++ rounds.flatMap Round.wire ++ farewell
  silent : succeeds = true → farewell = []
  whole : e'.session.phase = .closed ∨
    farewell = [] ∧ (succeeds = true ∨ rounds.flatMap Round.own = [])

/-- A call that is refused leaves nothing. -/
theorem leaves_refused (e : Endpoint S N X) : Leaves e e false [] [] :=
  ⟨by simp, nofun, .inr ⟨rfl, .inr rfl⟩⟩

private theorem submits_refused (h : Host S N X) (delivery : Delivery) (frames : List Bytes)
    (refusal : SessionError) : h.Submits delivery frames (.error refusal) [] :=
  ⟨⟨⟨[], [], List.nil_prefix, nofun, rfl, .nil false⟩, by simp⟩, nofun⟩

variable (hs : h.TakesSingly) (hc : h.CallbacksOnCourse)

include hs hc

/-- Frames that are submitted go out in rounds. -/
private theorem exists_rounds_submit (delivery : Delivery) (frames : List Bytes)
    (e : Endpoint S N X) : ∃ rounds farewell,
      h.Submits delivery frames ((h.submit delivery frames).answer e) rounds ∧
      Leaves e ((h.submit delivery frames).after e) ((h.submit delivery frames).answer e).isOk
        rounds farewell := by
  have hadds := fun connection => adds_transmitAll delivery hs connection hc.outbound frames
  have hsub := h.submitted delivery frames e
  generalize (h.submit delivery frames).answer e = answer at hsub ⊢
  generalize (h.submit delivery frames).after e = e' at hsub ⊢
  cases hsub with
  | refused => exact ⟨[], [], submits_refused _ _ _ _, leaves_refused e⟩
  | sent _ hresult =>
    obtain ⟨rounds, hprogress, ht, hcount⟩ := (hadds _).collect hresult
    refine ⟨rounds, [], ⟨hprogress, ?_⟩, ?_, fun _ => rfl, .inr ⟨rfl, .inl rfl⟩⟩
    · rintro _ ⟨⟩
      exact hcount
    · rw [ht, List.append_nil]
  | broken _ hresult =>
    obtain ⟨rounds, hprogress, ht, -⟩ := (hadds _).collect hresult
    obtain ⟨farewell, hf⟩ := (onCourse_fail hc _ _).taken_grow
    refine ⟨rounds, farewell, ⟨hprogress, nofun⟩, ?_, nofun, .inl (closed_fail hc _)⟩
    rw [← hf, ht]
  | survived _ hresult hb =>
    obtain ⟨rounds, hprogress, ht, hcount⟩ := (hadds _).collect hresult
    -- the session goes on only if the handle counts nothing
    have hnone := (not_or.mp (mt breaksStream_iff.mpr (Bool.eq_false_iff.mp hb))).1
    rw [hcount, Nat.pos_iff_ne_zero, not_not] at hnone
    refine ⟨rounds, [], ⟨hprogress, nofun⟩, ?_, nofun, .inr ⟨rfl, .inr ?_⟩⟩
    · rw [ht, List.append_nil]
    · exact List.length_eq_zero_iff.mp hnone

end Host

/-! ### Sequences of calls -/

/-- A call that sends packets, or a frame that is encoded already. -/
inductive Submission (S : Schema)
  /-- Packets, one by itself or several in batches. -/
  | packets (call : Sending S)
  /-- A frame, whatever it holds. -/
  | frame (payload : Bytes) (delivery : Delivery)

namespace Submission

/-- The channel and delivery class of a call. -/
def delivery : Submission S → Delivery
  | packets call => call.delivery
  | frame _ delivery => delivery

/-- A call that sends packets of the application and nothing else. -/
def IsApplication : Submission S → Prop
  | packets call => ∀ packet ∈ call.packets, ∃ kind, packet.kind = .application kind
  | frame _ _ => False

/-- The frames of a call, if its packets can be encoded. -/
def frames (r : Registry S) (settings : Settings) : Submission S →
    Except ProtocolError (List Bytes)
  | packets call => r.framesOf settings call
  | frame payload _ => .ok [payload]

end Submission

namespace Application

variable (a : Application S N X) (depth : Nat)

/-- Makes a call. -/
def submitOne : Submission S → SessionM S N X (Except SessionError SendHandle)
  | .packets call => a.sendOne depth call
  | .frame payload delivery => a.perform depth (.sendFrame payload delivery)

/-- Makes calls one after the other, also after one that failed, and gives all answers. -/
def submitAll : List (Submission S) → SessionM S N X (List (Except SessionError SendHandle))
  | [] => pure []
  | call :: calls => do
    let answer ← a.submitOne depth call
    let answers ← submitAll calls
    return answer :: answers

/-- A call that was made and answered went out in these rounds, if its packets could be encoded. -/
def Submits (made : Submission S × Except SessionError SendHandle) (rounds : List Round) : Prop :=
  match made.1.frames a.protocol.codecs a.protocol.settings with
  | .ok frames => (a.host (a.perform depth)).Submits made.1.delivery frames made.2 rounds
  | .error cause => made.2 = .error (.protocol cause) ∧ rounds = []

/-- A call submits its frames, if it has any. -/
theorem submitOne_succ (call : Submission S) :
    a.submitOne (depth + 1) call =
      match call.frames a.protocol.codecs a.protocol.settings with
      | .ok frames => (a.host (a.perform depth)).submit call.delivery frames
      | .error cause => pure (.error (.protocol cause)) := by
  cases call with
  | packets call => exact a.sendOne_succ depth call
  | frame payload delivery => rfl

variable {a depth}

/-- A closed session refuses every call. -/
private theorem submitOne_of_closed {e : Endpoint S N X} (hp : e.session.phase = .closed)
    (call : Submission S) :
    a.Submits depth (call, (a.submitOne (depth + 1) call).answer e) [] ∧
      (a.submitOne (depth + 1) call).after e = e := by
  rw [Submits, submitOne_succ]
  cases call.frames a.protocol.codecs a.protocol.settings with
  | error cause => exact ⟨⟨rfl, rfl⟩, rfl⟩
  | ok frames =>
    obtain ⟨hanswer, hafter⟩ := Host.submit_of_closed hp call.delivery frames
    dsimp only
    rw [hanswer, hafter]
    exact ⟨Host.submits_refused _ _ _ _, rfl⟩

private theorem submitAll_of_closed {e : Endpoint S N X} (hp : e.session.phase = .closed)
    (calls : List (Submission S)) :
    List.Forall₂ (a.Submits depth) (calls.zip ((a.submitAll (depth + 1) calls).answer e))
        (calls.map fun _ => []) ∧
      (a.submitAll (depth + 1) calls).after e = e := by
  induction calls with
  | nil => exact ⟨.nil, rfl⟩
  | cons call calls ih =>
    obtain ⟨hcall, hafter⟩ := submitOne_of_closed hp call
    rw [submitAll, SessionM.answer_bind, SessionM.after_bind, hafter]
    exact ⟨.cons hcall ih.1, ih.2⟩

/-- If listeners hand nothing over, nothing went out with a call but its own frames. -/
theorem Submits.flatMap_wire (hm : (a.host (a.perform depth)).ListensMutely)
    {made : Submission S × Except SessionError SendHandle} {rounds : List Round}
    (h : a.Submits depth made rounds) :
    rounds.flatMap Round.wire = rounds.flatMap Round.own := by
  rw [Submits] at h
  split at h
  · exact Round.flatMap_wire (h.aside hm)
  · rw [h.2]
    rfl

/-- The frames of a call are all in a row if it went out in one round, or if listeners hand nothing
over. -/
theorem Submits.own_infix {made : Submission S × Except SessionError SendHandle}
    {rounds : List Round} (h : a.Submits depth made rounds)
    (ho : rounds.length ≤ 1 ∨ (a.host (a.perform depth)).ListensMutely) :
    rounds.flatMap Round.own <:+: rounds.flatMap Round.wire := by
  obtain hle | hm := ho
  · match rounds, hle with
    | [], _ => exact List.infix_rfl
    | [round], _ =>
      rw [List.flatMap_singleton, List.flatMap_singleton]
      exact (List.suffix_append round.aside round.own).isInfix
  · exact (h.flatMap_wire hm).symm ▸ List.infix_rfl

variable (hb : a.protocol.Built)

include hb

/-- The chunks in what went out of a call are orderly on an idle channel, and so is what comes
behind them if the call succeeded. -/
theorem Submits.orderly (hm : (a.host (a.perform depth)).ListensMutely)
    {view : WireFrame → Option Chunk} (ht : (a.host (a.perform depth)).Transparent view)
    {call : Submission S} (hk : call.IsApplication) {r : Reassembler}
    (hi : r.assembly? call.delivery.channel = none) {answer : Except SessionError SendHandle}
    {rounds : List Round} (h : a.Submits depth (call, answer) rounds) :
    r.Orderly a.protocol.settings.maxMessage (chunksIn view (rounds.flatMap Round.wire)) ∧
      (answer.isOk = true → r.Settles a.protocol.settings.maxMessage
        (chunksIn view (rounds.flatMap Round.wire))) := by
  rw [h.flatMap_wire hm]
  rw [Submits] at h
  dsimp only at h
  cases hf : call.frames a.protocol.codecs a.protocol.settings with
  | error cause =>
    rw [hf] at h
    obtain ⟨-, rfl⟩ := h
    exact ⟨Reassembler.settles_nil.orderly, fun _ => Reassembler.settles_nil⟩
  | ok frames =>
    rw [hf] at h
    -- what is written of packets of an application is no chunk, so all chunks are those of the cut
    obtain ⟨front, pieces, hfront, -, hp, he⟩ := h.emitted
    have hn : ∀ frame ∈ front, a.protocol.codecs.chunkIn? frame = none := by
      cases call with
      | frame => exact hk.elim
      | packets call =>
        have hkinds : ∀ packet ∈ call.packets, packet.kind ≠ .chunk := fun packet hpacket => by
          obtain ⟨kind, hkind⟩ := hk packet hpacket
          simp [hkind]
        exact fun frame hframe => hb.wellFormed.chunkIn?_of_framesOf hkinds hf frame
          (hfront.subset hframe)
    have hsettles := Registry.settles_payloadsAll hb.wellFormed hi hn hp
    obtain ⟨hbegins, hall⟩ := he.chunksIn_own ht
    exact ⟨hsettles.orderly.of_prefix hbegins, fun hok => (hall hok).symm ▸ hsettles⟩

omit hb

variable (hs : (a.host (a.perform depth)).TakesSingly)

include hs

/-- A call goes out in rounds. -/
private theorem exists_rounds_submitOne (call : Submission S) (e : Endpoint S N X) :
    ∃ rounds farewell,
      a.Submits depth (call, (a.submitOne (depth + 1) call).answer e) rounds ∧
      Host.Leaves e ((a.submitOne (depth + 1) call).after e)
        ((a.submitOne (depth + 1) call).answer e).isOk rounds farewell := by
  rw [submitOne_succ]
  simp only [Submits]
  cases call.frames a.protocol.codecs a.protocol.settings with
  | error cause => exact ⟨[], [], ⟨rfl, rfl⟩, Host.leaves_refused e⟩
  | ok frames =>
    exact Host.exists_rounds_submit hs (a.callbacksOnCourse_host (a.onCourse_perform depth))
      call.delivery frames e

end Application

namespace Application

/-- What connections take of calls, made in whatever order and with whatever success, is the rounds
of the calls, call by call, and behind a call that failed at most what its failure hands over. The
frames of a call are all in a row if it went out in one round, or if listeners hand nothing over
while they run. Then a receiver that finds the chunks of the pieces again has nothing to complain
about in packets of the application but messages that are longer than it allows. -/
theorem contiguous_submitAll (a : Application S N X) (hb : a.protocol.Built) (depth : Nat)
    (hs : (a.host (a.perform depth)).TakesSingly) (calls : List (Submission S))
    (e : Endpoint S N X) :
    ∃ blocks farewell,
      List.Forall₂ (a.Submits depth) (calls.zip ((a.submitAll (depth + 1) calls).answer e))
        blocks ∧
      ((a.submitAll (depth + 1) calls).after e).taken =
        e.taken ++ blocks.flatten.flatMap Round.wire ++ farewell ∧
      ((∀ answer ∈ (a.submitAll (depth + 1) calls).answer e, answer.isOk = true) →
        farewell = []) ∧
      (((a.submitAll (depth + 1) calls).answer e).zip blocks).Pairwise
        (fun earlier later => earlier.1.isOk = false → earlier.2.flatMap Round.own ≠ [] →
          later.2 = []) ∧
      (∀ rounds ∈ blocks, rounds.length ≤ 1 ∨ (a.host (a.perform depth)).ListensMutely →
        rounds.flatMap Round.own <:+: rounds.flatMap Round.wire) ∧
      ((a.host (a.perform depth)).ListensMutely → ∀ view,
        (a.host (a.perform depth)).Transparent view → (∀ call ∈ calls, call.IsApplication) →
        ∀ r : Reassembler, (∀ call ∈ calls, r.assembly? call.delivery.channel = none) →
          r.Orderly a.protocol.settings.maxMessage
            (chunksIn view (blocks.flatten.flatMap Round.wire))) := by
  induction calls generalizing e with
  | nil =>
    exact ⟨[], [], .nil, by simp [submitAll], fun _ => rfl, .nil, by simp,
      fun _ _ _ _ _ _ => nofun⟩
  | cons call calls ih =>
    obtain ⟨rounds, farewell, hcall, ht, hfarewell, hend⟩ := exists_rounds_submitOne hs call e
    simp only [submitAll, SessionM.answer_bind, SessionM.after_bind, SessionM.answer_pure,
      SessionM.after_pure, List.zip_cons_cons, List.forall_mem_cons]
    generalize (a.submitOne (depth + 1) call).answer e = answer at hcall hfarewell hend ⊢
    generalize (a.submitOne (depth + 1) call).after e = e₁ at ht hend ⊢
    obtain hclosed | ⟨rfl, hwhole⟩ := hend
    · -- all other calls are refused
      obtain ⟨hcalls, hafter⟩ : List.Forall₂ (a.Submits depth) _ _ ∧ _ :=
        submitAll_of_closed hclosed calls
      have hflat : (rounds :: calls.map fun _ => []).flatten = rounds := by simp
      have hnil : ∀ later ∈ ((a.submitAll (depth + 1) calls).answer e₁).zip
          (calls.map fun _ => ([] : List Round)), later.2 = [] := by
        rintro ⟨_, later⟩ hl
        obtain ⟨_, -, hlater⟩ := List.mem_map.mp (List.of_mem_zip hl).2
        exact hlater.symm
      refine ⟨rounds :: calls.map fun _ => [], farewell, .cons hcall hcalls, ?_,
        fun hok => hfarewell hok.1, List.pairwise_cons.mpr ⟨?_, ?_⟩,
        List.forall_mem_cons.mpr ⟨hcall.own_infix, by simp⟩, ?_⟩
      · rw [hafter, ht, hflat]
      · exact fun later hl _ _ => hnil later hl
      · exact List.pairwise_of_forall_mem_list fun _ _ later hl _ _ => hnil later hl
      · intro hm view hv hk r hi
        rw [hflat]
        exact (hcall.orderly hb hm hv hk.1 hi.1).1
    -- the session is still open: the call succeeded, or nothing of it went out
    · obtain ⟨blocks, farewell, hcalls, ht', hfarewell', hcut, hinfix, horderly⟩ := ih e₁
      refine ⟨rounds :: blocks, farewell, .cons hcall hcalls, ?_, fun hok => hfarewell' hok.2,
        List.pairwise_cons.mpr ⟨?_, hcut⟩, List.forall_mem_cons.mpr ⟨hcall.own_infix, hinfix⟩, ?_⟩
      · rw [ht', ht, List.append_nil, List.flatten_cons, List.flatMap_append, ← List.append_assoc]
      · intro later _ hfails hsome
        obtain hok | hnone := hwhole
        · rw [hok] at hfails
          cases hfails
        · exact absurd hnone hsome
      · intro hm view hv hk r hi
        have hlater := horderly hm view hv hk.2 r hi.2
        rw [List.flatten_cons, List.flatMap_append, chunksIn_append]
        obtain hok | hnone := hwhole
        · exact ((hcall.orderly hb hm hv hk.1 hi.1).2 hok).append_orderly hlater
        · -- the call failed with nothing under way
          rw [hcall.flatMap_wire hm, hnone]
          exact hlater

/-- The codec of a kind of packet that is some bytes and nothing else. -/
def plainly : Codec Sample.plain (.application .greedy) where
  encode := Sample.encode Unit .greedy
  decode := Sample.decode Unit .greedy

/-- A protocol with one listener on the way out, which sends everything in chunks of eight bytes. -/
def relaying (listener : OutboundListener Sample.plain (Script Sample.plain Unit Unit)) :
    Protocol Sample.plain (Script Sample.plain Unit Unit) :=
  { Protocol.initial with
    codecs := ⟨Registry.reserved.entries ++ [⟨⟨1⟩, .application .greedy, plainly⟩]⟩
    pipeline := ⟨.empty, ⟨[("relay", listener)]⟩⟩
    settings := { fragmentThreshold := 8 } }

private theorem built_relaying
    (listener : OutboundListener Sample.plain (Script Sample.plain Unit Unit)) :
    (relaying listener).Built := by
  let known : Protocol Sample.plain (Script Sample.plain Unit Unit) :=
    { Protocol.initial with
      codecs := ⟨Registry.reserved.entries ++ [⟨⟨1⟩, .application .greedy, plainly⟩]⟩ }
  have hr : Protocol.initial.register ⟨1⟩ plainly = .ok known := rfl
  have ha : known.addOutbound "relay" listener .last =
      .ok { known with pipeline := ⟨.empty, ⟨[("relay", listener)]⟩⟩ } := rfl
  exact ((Protocol.Built.initial.register hr).addOutbound ha).settings _

/-- An application with one listener on the way out and connections that take every frame. -/
def relayer (listener : OutboundListener Sample.plain (Script Sample.plain Unit Unit)) :
    Application Sample.plain Unit Unit :=
  ⟨relaying listener, taker⟩

/-- An open session of such an application. -/
def relayed (listener : OutboundListener Sample.plain (Script Sample.plain Unit Unit)) :
    Endpoint Sample.plain Unit Unit :=
  ((relayer listener).perform 1 (.openWith 0)).after (.fresh (relaying listener).settings ())

/-- A packet of some bytes. -/
def carrying (data : Bytes) : Packet Sample.plain := ⟨.application .greedy, data⟩

/-- A channel of its own. -/
def twelfth : Delivery := ⟨{ raw := 12 }, .reliable⟩

/-- One packet, which goes out in two chunks. -/
def oneCall : List (Submission Sample.plain) :=
  [.packets (.single (carrying [1, 2, 3, 4, 5, 6, 7, 8, 9]) twelfth)]

/-- A listener that puts a byte in front of every frame. -/
def prepending : OutboundListener Sample.plain (Script Sample.plain Unit Unit)
  | _, .bytes frame => pure [.bytes (0 :: frame)]
  | _, .packet packet => pure [.packet packet]

/-- The chunk of a frame with a byte in front. -/
def behindByte (frame : WireFrame) : Option Chunk :=
  (relaying prepending).codecs.chunkIn? frame.payload.tail

/-- One packet and a batch, which goes out in three chunks. -/
def twoCalls : List (Submission Sample.plain) :=
  oneCall ++ [.packets (.batch [carrying [5], carrying [6]] twelfth)]

/-- The five chunks of two calls arrive in order at a receiver that takes the byte in front off. -/
theorem contiguous_submitAll_prepending :
    (((relayer prepending).submitAll 1 twoCalls).answer (relayed prepending)).map Except.isOk =
        [true, true] ∧
      (chunksIn behindByte (((relayer prepending).submitAll 1 twoCalls).after
        (relayed prepending)).taken).length = 5 ∧
      (Reassembler.ofLimit (relaying prepending).settings.maxMessage).complaint?
        (chunksIn behindByte (((relayer prepending).submitAll 1 twoCalls).after
          (relayed prepending)).taken) = none := by
  have hanswers : (((relayer prepending).submitAll 1 twoCalls).answer
      (relayed prepending)).map Except.isOk = [true, true] := by
    decide +kernel
  have hmute : ((relayer prepending).host ((relayer prepending).perform 0)).ListensMutely := by
    intro stage hstage delivery message e
    rw [List.mem_singleton.mp hstage]
    cases message <;> rfl
  have hview : ((relayer prepending).host ((relayer prepending).perform 0)).Transparent
      behindByte := by
    rintro delivery piece outputs e ⟨⟩
    exact (filterMap_cons_toList _ _ []).trans (List.append_nil _)
  obtain ⟨blocks, farewell, -, ht, hfarewell, -, -, horderly⟩ :=
    contiguous_submitAll (relayer prepending) (built_relaying _) 0 (fun _ _ _ => rfl) twoCalls
      (relayed prepending)
  have hnone : farewell = [] := hfarewell fun answer ha => by
    simpa [hanswers] using List.mem_map_of_mem (f := Except.isOk) ha
  have htaken : (((relayer prepending).submitAll 1 twoCalls).after (relayed prepending)).taken =
      blocks.flatten.flatMap Round.wire := by
    rw [ht, hnone, List.append_nil]
    rfl
  have hkinds : ∀ call ∈ twoCalls, call.IsApplication := by
    simp [twoCalls, oneCall, Submission.IsApplication, Sending.packets, carrying]
  refine ⟨hanswers, by decide +kernel, Option.eq_none_iff_forall_not_mem.mpr fun cause hcause => ?_⟩
  rw [htaken] at hcause
  -- the receiver allows messages as long as the sender does
  obtain ⟨length, hle, hlt, -⟩ :=
    horderly hmute behindByte hview hkinds (.ofLimit _) (fun _ _ => rfl) cause hcause
  exact absurd hle (not_le.mpr hlt)

/-- A listener that passes every frame on twice. -/
def doubling : OutboundListener Sample.plain (Script Sample.plain Unit Unit) :=
  fun _ message => pure [message, message]

/-- A listener that sends a packet of its own when it sees a frame that ends with a certain byte. -/
def interjecting : OutboundListener Sample.plain (Script Sample.plain Unit Unit)
  | delivery, .bytes frame => do
    if frame.getLast? = some 9 then
      let _ ← liftM (Script.call (N := Unit) (X := Unit)
        (.send (carrying [1, 2, 3, 4, 5, 6, 7, 8, 9, 10, 11]) delivery))
    return [.bytes frame]
  | _, .packet packet => pure [.packet packet]

/-- The chunk of a frame as it is. -/
def plainChunk (frame : WireFrame) : Option Chunk :=
  (relaying doubling).codecs.chunkIn? frame.payload

/-- If a listener passes frames on twice, or sends a packet between the two chunks of another one,
the receiver is not content. In the second case the chunks of a whole packet are in the middle of
the two frames that the handle counts. -/
theorem disorderly_doubling_interjecting :
    (Reassembler.ofLimit (relaying doubling).settings.maxMessage).complaint?
        (chunksIn plainChunk
          (((relayer doubling).submitAll 1 oneCall).after (relayed doubling)).taken) =
        some (.fragmentOutOfOrder 8 0) ∧
      (((relayer interjecting).submitAll 2 oneCall).answer (relayed interjecting)).map
        (fun answer => answer.toOption.map SendHandle.frames) = [some 2] ∧
      (chunksIn plainChunk
          (((relayer interjecting).submitAll 2 oneCall).after (relayed interjecting)).taken).map
          Prod.snd =
        [⟨some 10, 0, [1, 1, 2, 3, 4, 5, 6, 7]⟩, ⟨some 12, 0, [1, 1, 2, 3, 4, 5, 6, 7]⟩,
          ⟨none, 8, [8, 9, 10, 11]⟩, ⟨none, 8, [8, 9]⟩] ∧
      (Reassembler.ofLimit (relaying interjecting).settings.maxMessage).complaint?
        (chunksIn plainChunk
          (((relayer interjecting).submitAll 2 oneCall).after (relayed interjecting)).taken) =
        some (.fragmentOutOfOrder 8 0) := by
  refine ⟨?_, ?_, ?_, ?_⟩ <;> decide +kernel

end Application

end PacketSession
