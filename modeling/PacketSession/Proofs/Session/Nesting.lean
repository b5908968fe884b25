import PacketSession.Proofs.Session.Dispatch

/-!
# Envelopes nest to a fixed depth

`Host.processLeaf`, `Host.processPayload` and `Host.processPacket` are three layers that cannot call
each other in a circle. A session may as well have one function for every packet, which calls itself
for what it finds in an envelope. Nothing that it calls itself for needs to be smaller: a payload
comes out of what was in flight, and can be longer than the frame that completed it. What keeps it
from going on forever is that it refuses envelopes in the wrong places.

`Host.processWithin` is that function with a limit on the calls that are under way at a time. It is
cut off at the limit, and keeps a `Trace` of calls and decodings. `Host.boundedNesting` says that no
limit of three or more is ever met, so that there need not be one: the function comes to an end with
the answer and the effect of the three layers. It also says what the trace looks like.
-/

namespace PacketSession

variable {S : Schema} {N X : Type}

/-! ### Processing by recursion -/

/-- Bytes that are decoded while a packet is processed. -/
inductive Decoding
  /-- The payload that a chunk completed. -/
  | payload (payload : Bytes)
  /-- A frame of a batch. -/
  | member (frame : Bytes)

/-- What is done to get at the leaves of a packet. -/
structure Trace where
  /-- For every call, the identifiers of the packets that are being processed, outermost first. -/
  calls : List (List PacketId)
  /-- What is decoded, in order. -/
  decodings : List Decoding

namespace Trace

/-- Nothing was done yet. -/
def empty : Trace := ⟨[], []⟩

instance : Append Trace := ⟨fun t u => ⟨t.calls ++ u.calls, t.decodings ++ u.decodings⟩⟩

variable (t : Trace)

private theorem append_empty : t ++ empty = t := by
  obtain ⟨calls, decodings⟩ := t
  exact mk.injEq .. ▸ ⟨List.append_nil calls, List.append_nil decodings⟩

theorem append_assoc (u v : Trace) : t ++ u ++ v = t ++ (u ++ v) :=
  mk.injEq .. ▸ ⟨List.append_assoc _ _ _, List.append_assoc _ _ _⟩

end Trace

/-- Actions that keep a trace, and may be cut off. -/
abbrev NestingM (S : Schema) (N X : Type) :=
  ExceptT ProtocolError (StateT Trace (StateT (Endpoint S N X) Option))

namespace NestingM

variable {α β : Type}

/-- Does not come to an end. -/
def cutOff : NestingM S N X α := ExceptT.mk fun _ _ => none

/-- Does what leaves no trace. -/
def receiving (action : ReceivingM S N X α) : NestingM S N X α :=
  ExceptT.mk fun trace e => some (((action.run.run e).1, trace), (action.run.run e).2)

/-- The state of the session. -/
def current : NestingM S N X (Session S) := receiving (SessionM.current : SessionM S N X _)

/-- Leaves a trace. -/
def leave (u : Trace) : NestingM S N X Unit := modifyThe Trace fun trace => trace ++ u

/-- Decodes the payload that a chunk completed, which must not be a chunk. -/
def openPayload (r : Registry S) (payload : Bytes) : NestingM S N X (Decoded S) := do
  leave ⟨[], [.payload payload]⟩
  let d ← receiving (ReceivingM.ofExcept (r.decode payload))
  if d.id = .fragment then throw (nestedEnvelope d.id "fragment")
  return d

/-- Decodes a frame of a batch, which must not be an envelope. -/
def openMember (r : Registry S) (frame : Bytes) : NestingM S N X (Decoded S) := do
  leave ⟨[], [.member frame]⟩
  let d ← receiving (ReceivingM.ofExcept (r.decode frame))
  if d.id = .batch ∨ d.id = .fragment then throw (nestedEnvelope d.id "batch")
  return d

end NestingM

namespace Host

variable (h : Host S N X)

open NestingM

/-- Processes a packet that was found in packets with the identifiers `outer`, with so many calls
under way at most. -/
def processWithin (delivery : Delivery) : (depth : Nat) → (outer : List PacketId) → Decoded S →
    NestingM S N X Unit
  | 0, _, _ => cutOff
  | depth + 1, outer, d => do
    leave ⟨[outer ++ [d.id]], []⟩
    if !(← current).isOpen then return ()
    if d.id = .fragment then
      let chunk ← receiving (ReceivingM.ofExcept (d.packet.expect d.packet.chunk?))
      match ← receiving (ReceivingM.accept delivery.channel chunk) with
      | some payload =>
        processWithin delivery depth (outer ++ [d.id]) (← openPayload h.protocol.codecs payload)
      | none => return ()
    else if d.id = .batch then
      let batch ← receiving (ReceivingM.ofExcept (d.packet.expect d.packet.batch?))
      let packets ← batch.frames.mapM (openMember h.protocol.codecs)
      packets.forM (processWithin delivery depth (outer ++ [d.id]))
    else if d.id = .disconnect then
      let announcement ← receiving (ReceivingM.ofExcept (d.packet.expect d.packet.disconnect?))
      receiving (h.peerDisconnected announcement.reason : SessionM S N X Unit)
    else
      match h.protocol.handlers.get? d.id with
      | some handler => receiving (handler.invoke delivery d : SessionM S N X Unit)
      | none => return ()

/-- Processes a message, with so many calls under way at most. -/
def dispatchWithin (delivery : Delivery) (depth : Nat) (message : Message S) :
    NestingM S N X Unit := do
  h.processWithin delivery depth [] (← receiving (ReceivingM.ofExcept (h.decodeMessage message)))

end Host

/-! ### What may be found where -/

/-- A packet is no envelope. -/
structure Decoded.IsLeaf (d : Decoded S) : Prop where
  not_fragment : d.id ≠ .fragment
  not_batch : d.id ≠ .batch

namespace Registry

variable {r : Registry S} {frame payload : Bytes} {d : Decoded S}

/-- The packet of a frame of a batch, if it may be in one. -/
def decodeMember (r : Registry S) (frame : Bytes) : Except ProtocolError (Decoded S) :=
  match r.decode frame with
  | .error e => .error e
  | .ok d =>
    if d.id = .batch ∨ d.id = .fragment then .error (nestedEnvelope d.id "batch") else .ok d

/-- What may be in a batch is no envelope; the decoder of members refuses the others. -/
private theorem isLeaf_of_decodeMember (hd : r.decodeMember frame = .ok d) : d.IsLeaf := by
  rw [decodeMember] at hd
  split at hd
  · cases hd
  · split at hd
    · cases hd
    · next hid =>
      cases hd
      exact ⟨fun h => hid (.inr h), fun h => hid (.inl h)⟩

/-- The payload of chunks is decoded like a frame, and is no chunk again. -/
private theorem decode_of_decodePayload (hd : r.decodePayload payload = .ok d) :
    r.decode payload = .ok d ∧ d.id ≠ .fragment := by
  rw [decodePayload] at hd
  split at hd
  · cases hd
  · next heq =>
    split at hd
    · cases hd
    · next hid =>
      cases hd
      exact ⟨heq, hid⟩

end Registry

/-- The frames in a packet that is a batch. -/
def Decoded.members (d : Decoded S) : List Bytes :=
  if d.id = .batch then (d.packet.batch?.map Batch.frames).getD [] else []

/-- What processing a packet that is no chunk may leave, within `outer` and with these frames to be
decoded at most. -/
structure Trace.Within (outer : List PacketId) (members : List Bytes) (t : Trace) : Prop where
  calls : ∀ stack ∈ t.calls, ∃ inner leaf, stack = outer ++ inner ∧
    inner.Sublist [.batch, leaf] ∧ leaf ≠ .fragment ∧ leaf ≠ .batch
  decodings : ∃ opened, opened <+: members ∧ t.decodings = opened.map .member
  length : t.calls.length ≤ 1 + t.decodings.length

namespace Trace

variable {outer : List PacketId} {members opened : List Bytes} {id : PacketId}

/-- Either a batch is under way or a leaf. -/
theorem within_call (hid : id ≠ .fragment) : Within outer members ⟨[outer ++ [id]], []⟩ where
  calls stack hstack := by
    obtain rfl := List.mem_singleton.mp hstack
    by_cases hbatch : id = .batch
    · subst hbatch
      exact ⟨[.batch], .disconnect, rfl, by simp, by decide, by decide⟩
    · exact ⟨[id], id, rfl, by simp, hid, hbatch⟩
  decodings := ⟨[], List.nil_prefix, rfl⟩
  length := Nat.le_refl 1

/-- A batch is under way, and within it one leaf after the other, of those members that were
decoded. -/
private theorem within_batch (called : List (Decoded S)) (hid : id = .batch)
    (hopened : opened <+: members)
    (hcalled : ∀ d ∈ called, d.IsLeaf) (hlength : called.length ≤ opened.length) :
    Within outer members ⟨(outer ++ [id]) :: called.map fun d => outer ++ [id] ++ [d.id],
      opened.map .member⟩ where
  calls := by
    subst hid
    refine List.forall_mem_cons.mpr ⟨?_, ?_⟩
    · exact ⟨[.batch], .disconnect, rfl, by simp, by decide, by decide⟩
    · intro stack hstack
      obtain ⟨d, hd, rfl⟩ := List.mem_map.mp hstack
      exact ⟨[.batch, d.id], d.id, List.append_assoc _ _ _, .refl _, (hcalled d hd).not_fragment,
        (hcalled d hd).not_batch⟩
  decodings := ⟨opened, hopened, rfl⟩
  length := by
    rw [List.length_cons, List.length_map, List.length_map, Nat.add_comm]
    exact Nat.add_le_add_left hlength 1

end Trace

/-- The payload that a packet on a channel completes, if it is a chunk that does. -/
def Session.completed (s : Session S) (channel : Channel) (d : Decoded S) : Option Bytes :=
  if d.id = .fragment then
    d.packet.chunk?.bind fun chunk =>
      match (s.reassembler.accept channel chunk).1 with
      | .ok payload => payload
      | .error _ => none
  else none

/-- The frames of the batch that a packet is, or else the payload that it completed. -/
def Registry.membersWithin (r : Registry S) (completed : Option Bytes) (d : Decoded S) :
    List Bytes :=
  match completed with
  | none => d.members
  | some payload =>
    match r.decode payload with
    | .ok inner => inner.members
    | .error _ => []

/-- What processing any packet may leave, if this payload is completed and these frames are there to
be decoded. -/
structure Trace.Bounded (completed : Option Bytes) (members : List Bytes) (t : Trace) : Prop where
  /-- Never is anything else under way than a chunk, a batch in its payload and a leaf in that. -/
  calls : ∀ stack ∈ t.calls, ∃ leaf, stack.Sublist [.fragment, .batch, leaf] ∧
    leaf ≠ .fragment ∧ leaf ≠ .batch
  /-- The payload is decoded at most once, and so is each frame, one after the other. -/
  decodings : ∃ payloads opened, payloads <+: completed.toList ∧ opened <+: members ∧
    t.decodings = payloads.map .payload ++ opened.map .member
  /-- Every call but the first is for something that was decoded. -/
  length : t.calls.length ≤ 1 + t.decodings.length

namespace Trace

variable {completed : Option Bytes} {members : List Bytes} {t : Trace}

private theorem bounded_call (completed : Option Bytes) (members : List Bytes) (id : PacketId) :
    Bounded completed members ⟨[[id]], []⟩ where
  calls stack hstack := by
    obtain rfl := List.mem_singleton.mp hstack
    by_cases hleaf : id = .fragment ∨ id = .batch
    · refine ⟨.disconnect, ?_, by decide, by decide⟩
      obtain rfl | rfl := hleaf <;> simp
    · obtain ⟨hfragment, hbatch⟩ := not_or.mp hleaf
      exact ⟨id, by simp, hfragment, hbatch⟩
  decodings := ⟨[], [], List.nil_prefix, List.nil_prefix, rfl⟩
  length := Nat.le_refl 1

/-- What is left without a chunk around it is what a packet that came whole may leave. -/
theorem Within.bounded (ht : t.Within [] members) : t.Bounded completed members where
  calls stack hstack := by
    obtain ⟨inner, leaf, rfl, hinner, hleaf⟩ := ht.calls stack hstack
    exact ⟨leaf, hinner.cons _, hleaf⟩
  decodings := by
    obtain ⟨opened, hopened, heq⟩ := ht.decodings
    exact ⟨[], opened, List.nil_prefix, hopened, heq⟩
  length := ht.length

private theorem within_empty (outer : List PacketId) : Within outer members .empty where
  calls _ hstack := nomatch hstack
  decodings := ⟨[], List.nil_prefix, rfl⟩
  length := Nat.zero_le 1

/-- A chunk around a payload adds one level to every call and one decoding in front. -/
private theorem Within.bounded_fragment {id : PacketId} (ht : t.Within [id] members)
    (hid : id = .fragment) (payload : Bytes) :
    Bounded (some payload) members ⟨[id] :: t.calls, .payload payload :: t.decodings⟩ where
  calls := by
    subst hid
    refine List.forall_mem_cons.mpr ⟨⟨.disconnect, by simp, by decide, by decide⟩, ?_⟩
    intro stack hstack
    obtain ⟨inner, leaf, rfl, hinner, hleaf⟩ := ht.calls stack hstack
    exact ⟨leaf, hinner.cons_cons _, hleaf⟩
  decodings := by
    obtain ⟨opened, hopened, heq⟩ := ht.decodings
    exact ⟨[payload], opened, List.prefix_rfl, hopened, congrArg _ heq⟩
  length := by
    have hlength := ht.length
    simp only [List.length_cons]
    omega

end Trace

/-! ### Running actions -/

namespace NestingM

variable {α β : Type} {m : NestingM S N X α} {f : α → NestingM S N X β} {e e' e'' : Endpoint S N X}
  {a : α} {b : Except ProtocolError β} {cause : ProtocolError} {t u v : Trace}

/-- An action comes to an end at an endpoint, with this answer and effect, and adds this to the
trace. -/
def Runs (m : NestingM S N X α) (e : Endpoint S N X) (answer : Except ProtocolError α)
    (e' : Endpoint S N X) (t : Trace) : Prop :=
  ∀ trace : Trace, (m.run.run trace).run e = some ((answer, trace ++ t), e')

/-- Actions that come to an end do so one after the other, and the traces that they leave are
joined. -/
theorem Runs.bind (hm : Runs m e (.ok a) e' t) (hf : Runs (f a) e' b e'' u)
    (htrace : t ++ u = v) : Runs (m >>= f) e b e'' v := by
  intro trace
  rw [← htrace, ExceptT.run_bind, StateT.run_bind, StateT.run_bind, hm, ← Trace.append_assoc]
  exact hf _

/-- What leaves no trace comes first. -/
theorem Runs.bind_of_empty (hm : Runs m e (.ok a) e' .empty) (hf : Runs (f a) e' b e'' u) :
    Runs (m >>= f) e b e'' u := hm.bind hf rfl

/-- What leaves no trace comes last. -/
theorem Runs.bind_last (hm : Runs m e (.ok a) e' t) (hf : Runs (f a) e' b e'' .empty) :
    Runs (m >>= f) e b e'' t := hm.bind hf (Trace.append_empty t)

/-- An action that fails is the end, and what would follow it leaves nothing. -/
theorem Runs.bind_error (hm : Runs m e (.error cause) e' t) :
    Runs (m >>= f) e (.error cause) e' t := by
  intro trace
  rw [ExceptT.run_bind, StateT.run_bind, StateT.run_bind, hm]
  rfl

private theorem runs_pure (a : α) : Runs (pure a) e (.ok a) e .empty := by
  intro trace
  rw [Trace.append_empty]
  rfl

private theorem runs_throw (cause : ProtocolError) : Runs (throw cause : NestingM S N X α) e
    (.error cause) e .empty := by
  intro trace
  rw [Trace.append_empty]
  rfl

private theorem runs_leave (t : Trace) : Runs (leave t) e (.ok ()) e t := fun _ => rfl

/-- A step of receiving leaves no trace: it is neither a call of the recursion nor a decoding. -/
private theorem runs_receiving (action : ReceivingM S N X α) :
    Runs (receiving action) e (action.run.run e).1 (action.run.run e).2 .empty := by
  intro trace
  rw [Trace.append_empty]
  rfl

/-- An action comes to an end as one does that leaves no trace, and adds this to the trace. -/
def Mimics (m : NestingM S N X α) (n : ReceivingM S N X α) (e : Endpoint S N X) (t : Trace) :
    Prop :=
  Runs m e (n.run.run e).1 (n.run.run e).2 t

private theorem runs_current : Runs current e (.ok e.session) e .empty := runs_receiving _

/-- Nothing is done at a session that is not open. -/
private theorem runs_ifOpen_of_not_open {m : NestingM S N X Unit} (hp : e.session.phase ≠ .opened) :
    Runs (do
      if !(← current).isOpen then return ()
      m) e (.ok ()) e .empty := by
  refine runs_current.bind_of_empty ?_
  rw [if_pos (by simp [Session.isOpen, hp])]
  exact runs_pure ()

/-- What is to be done while the session is open is done at an open session. -/
theorem Runs.ifOpen {m : NestingM S N X Unit} {answer : Except ProtocolError Unit}
    (hp : e.session.phase = .opened) (hm : Runs m e answer e' t) :
    Runs (do
      if !(← current).isOpen then return ()
      m) e answer e' t := by
  refine runs_current.bind_of_empty ?_
  rw [if_neg (by simp [Session.isOpen, hp])]
  exact hm

/-- A payload is decoded once. -/
private theorem runs_openPayload (r : Registry S) (payload : Bytes) :
    Runs (openPayload r payload) e (r.decodePayload payload) e ⟨[], [.payload payload]⟩ := by
  refine (runs_leave _).bind_last ?_
  rw [Registry.decodePayload]
  cases r.decode payload with
  | error cause => exact (runs_receiving _).bind_error
  | ok d =>
    refine (runs_receiving _).bind_of_empty ?_
    dsimp only
    split
    · exact (runs_throw _).bind_error
    · exact runs_pure d

/-- A frame of a batch is decoded once. -/
private theorem runs_openMember (r : Registry S) (frame : Bytes) :
    Runs (openMember r frame) e (r.decodeMember frame) e ⟨[], [.member frame]⟩ := by
  refine (runs_leave _).bind_last ?_
  rw [Registry.decodeMember]
  cases r.decode frame with
  | error cause => exact (runs_receiving _).bind_error
  | ok d =>
    refine (runs_receiving _).bind_of_empty ?_
    dsimp only
    split
    · exact (runs_throw _).bind_error
    · exact runs_pure d

/-- All frames of a batch are decoded, or those up to the first that must not be in it. -/
private theorem runs_openMembers (r : Registry S) (frames : List Bytes) :
    (∃ packets, r.decodeBatch ⟨frames⟩ = .ok packets ∧ packets.length = frames.length ∧
        (∀ d ∈ packets, d.IsLeaf) ∧
        Runs (frames.mapM (openMember r)) e (.ok packets) e ⟨[], frames.map .member⟩) ∨
      ∃ cause opened, r.decodeBatch ⟨frames⟩ = .error cause ∧ opened <+: frames ∧
        Runs (frames.mapM (openMember r)) e (.error cause) e ⟨[], opened.map .member⟩ := by
  induction frames with
  | nil => exact .inl ⟨[], rfl, rfl, by simp, runs_pure []⟩
  | cons frame frames ih =>
    have hbatch : r.decodeBatch ⟨frame :: frames⟩ = do
        let d ← r.decodeMember frame
        let ds ← r.decodeBatch ⟨frames⟩
        return d :: ds := List.mapM_cons
    rw [hbatch, List.mapM_cons]
    have hfirst := runs_openMember (e := e) r frame
    cases hd : r.decodeMember frame with
    | error cause =>
      rw [hd] at hfirst
      exact .inr ⟨cause, [frame], rfl, by simp, hfirst.bind_error⟩
    | ok d =>
      rw [hd] at hfirst
      obtain ⟨packets, hpackets, hlength, hleaves, hruns⟩ |
        ⟨cause, opened, hcause, hopened, hruns⟩ := ih
      · have hlast : Runs (frames.mapM (openMember r) >>= fun ds => pure (d :: ds)) e
            (.ok (d :: packets)) e ⟨[], frames.map .member⟩ := hruns.bind_last (runs_pure _)
        refine .inl ⟨d :: packets, by rw [hpackets]; rfl, by simp [hlength], ?_,
          hfirst.bind hlast rfl⟩
        exact List.forall_mem_cons.mpr ⟨Registry.isLeaf_of_decodeMember hd, hleaves⟩
      · have hlast : Runs (frames.mapM (openMember r) >>= fun ds => pure (d :: ds)) e
            (.error cause) e ⟨[], opened.map .member⟩ := hruns.bind_error
        refine .inr ⟨cause, frame :: opened, by rw [hcause]; rfl, ?_, hfirst.bind hlast rfl⟩
        exact List.cons_prefix_cons.mpr ⟨rfl, hopened⟩

end NestingM

/-! ### One layer after the other -/

namespace Host

open NestingM

variable {h : Host S N X} {e e' : Endpoint S N X} {outer : List PacketId} {delivery : Delivery}
  {depth : Nat} {d : Decoded S}

/-- A call does nothing at a session that is not open. -/
theorem runs_processWithin_of_not_open (hp : e.session.phase ≠ .opened) :
    Runs (h.processWithin delivery (depth + 1) outer d) e (.ok ()) e ⟨[outer ++ [d.id]], []⟩ := by
  rw [processWithin]
  exact (runs_leave _).bind_last (runs_ifOpen_of_not_open hp)

/-- A leaf is processed by one call. -/
theorem mimics_leaf (hd : d.IsLeaf) :
    Mimics (h.processWithin delivery (depth + 1) outer d) (h.processLeaf delivery d) e
      ⟨[outer ++ [d.id]], []⟩ := by
  by_cases hp : e.session.phase = .opened
  · rw [processWithin]
    refine (runs_leave _).bind_last (Runs.ifOpen hp ?_)
    rw [processLeaf, ReceivingM.run_ifOpen_of_open hp, if_neg hd.not_fragment, if_neg hd.not_batch]
    split
    · cases d.packet.expect d.packet.disconnect? with
      | error cause => exact (runs_receiving _).bind_error
      | ok announcement => exact (runs_receiving _).bind_of_empty (runs_receiving _)
    · cases h.protocol.handlers.get? d.id with
      | none => exact runs_pure ()
      | some handler => exact runs_receiving _
  · rw [Mimics, processLeaf, ReceivingM.run_ifOpen_of_not_open hp]
    exact runs_processWithin_of_not_open hp

/-- Leaves are processed by one call each, up to the first that fails. -/
private theorem exists_mimics_leaves (e : Endpoint S N X) (outer : List PacketId)
    (delivery : Delivery) {packets : List (Decoded S)} (hleaves : ∀ d ∈ packets, d.IsLeaf) :
    ∃ called, called <+: packets ∧ ∀ depth,
      Mimics (packets.forM (h.processWithin delivery (depth + 1) outer))
        (packets.forM (h.processLeaf delivery)) e ⟨called.map fun d => outer ++ [d.id], []⟩ := by
  induction packets generalizing e with
  | nil => exact ⟨[], List.nil_prefix, fun _ => runs_pure ()⟩
  | cons d packets ih =>
    obtain ⟨hd, hpackets⟩ := List.forall_mem_cons.mp hleaves
    have hfirst (depth : Nat) : Mimics (h.processWithin delivery (depth + 1) outer d)
      (h.processLeaf delivery d) e _ := mimics_leaf hd
    have hforM : (d :: packets).forM (h.processLeaf delivery) =
      h.processLeaf delivery d >>= fun _ => packets.forM (h.processLeaf delivery) := rfl
    simp only [Mimics] at hfirst
    simp only [Mimics, hforM, ReceivingM.run_bind]
    rcases hr : (h.processLeaf delivery d).run.run e with ⟨cause | ⟨⟩, e'⟩
    · rw [hr] at hfirst
      exact ⟨[d], by simp, fun depth => (hfirst depth).bind_error⟩
    · rw [hr] at hfirst
      obtain ⟨called, hcalled, hruns⟩ := ih e' hpackets
      exact ⟨d :: called, List.cons_prefix_cons.mpr ⟨rfl, hcalled⟩,
        fun depth => (hfirst depth).bind (hruns depth) rfl⟩

private theorem run_processPayload_of_not_batch (hbatch : d.id ≠ .batch) :
    (h.processPayload delivery d).run.run e = (h.processLeaf delivery d).run.run e := by
  by_cases hp : e.session.phase = .opened
  · rw [processPayload, ReceivingM.run_ifOpen_of_open hp, if_neg hbatch]
  · rw [processPayload, processLeaf, ReceivingM.run_ifOpen_of_not_open hp,
      ReceivingM.run_ifOpen_of_not_open hp]

private theorem run_processPacket_of_not_fragment (hfragment : d.id ≠ .fragment) :
    (h.processPacket delivery d).run.run e = (h.processPayload delivery d).run.run e := by
  by_cases hp : e.session.phase = .opened
  · rw [processPacket, ReceivingM.run_ifOpen_of_open hp, if_neg hfragment]
  · rw [processPacket, processPayload, ReceivingM.run_ifOpen_of_not_open hp,
      ReceivingM.run_ifOpen_of_not_open hp]

/-- At an open session, the members of a batch are decoded before the first of them is processed. -/
private theorem run_processPayload_of_batch (hp : e.session.phase = .opened)
    (hbatch : d.id = .batch) {b : Batch} (hb : d.packet.batch? = some b) :
    (h.processPayload delivery d).run.run e =
      (ReceivingM.ofExcept (h.protocol.codecs.decodeBatch ⟨b.frames⟩) >>= fun packets =>
        packets.forM (h.processLeaf delivery)).run.run e := by
  rw [processPayload, ReceivingM.run_ifOpen_of_open hp, if_pos hbatch, hb]
  rfl

/-- Content of another type under the identifier of batches fails, and the endpoint stays as it
is. -/
private theorem run_processPayload_of_not_packed (hp : e.session.phase = .opened)
    (hbatch : d.id = .batch) (hb : d.packet.batch? = none) :
    (h.processPayload delivery d).run.run e =
      (.error (.unknownPacketType d.packet.typeName), e) := by
  rw [processPayload, ReceivingM.run_ifOpen_of_open hp, if_pos hbatch, hb]
  rfl

/-- All frames of a batch are decoded, and then its leaves are processed. -/
private theorem exists_mimics_members (e : Endpoint S N X) (outer : List PacketId)
    (delivery : Delivery) (frames : List Bytes) (hbatch : d.id = .batch) :
    ∃ t : Trace, Trace.Within outer frames ⟨(outer ++ [d.id]) :: t.calls, t.decodings⟩ ∧ ∀ depth,
      Mimics (frames.mapM (openMember h.protocol.codecs) >>= fun packets =>
          packets.forM (h.processWithin delivery (depth + 1) (outer ++ [d.id])))
        (ReceivingM.ofExcept (h.protocol.codecs.decodeBatch ⟨frames⟩) >>= fun packets =>
          packets.forM (h.processLeaf delivery)) e t := by
  obtain ⟨packets, hpackets, hlength, hleaves, hruns⟩ | ⟨cause, opened, hcause, hopened, hruns⟩ :=
    runs_openMembers (e := e) h.protocol.codecs frames
  · obtain ⟨called, hcalled, hmimics⟩ :=
      exists_mimics_leaves (h := h) e (outer ++ [d.id]) delivery hleaves
    have hlength' : called.length ≤ frames.length := hlength ▸ hcalled.length_le
    rw [hpackets]
    exact ⟨_, Trace.within_batch called hbatch List.prefix_rfl
      (fun d hd => hleaves d (hcalled.subset hd)) hlength',
      fun depth => hruns.bind (hmimics depth) (congrArg (Trace.mk _) (List.append_nil _))⟩
  · have hnone : ∀ d ∈ ([] : List (Decoded S)), d.IsLeaf := List.forall_mem_nil _
    rw [hcause]
    exact ⟨⟨[], opened.map .member⟩,
      Trace.within_batch [] hbatch hopened hnone (Nat.zero_le _), fun _ => hruns.bind_error⟩

/-- Opening a batch comes on top of the call. -/
private theorem exists_mimics_batch (e : Endpoint S N X) (outer : List PacketId)
    (delivery : Delivery) (hbatch : d.id = .batch) :
    ∃ t, t.Within outer d.members ∧ ∀ depth,
      Mimics (h.processWithin delivery (depth + 2) outer d) (h.processPayload delivery d) e t := by
  have hfragment : d.id ≠ .fragment := by rw [hbatch]; decide
  unfold Mimics
  by_cases hp : e.session.phase = .opened
  · cases hb : d.packet.batch? with
    | none =>
      rw [run_processPayload_of_not_packed hp hbatch hb]
      refine ⟨_, Trace.within_call hfragment, fun depth => ?_⟩
      rw [processWithin]
      refine (runs_leave _).bind_last (Runs.ifOpen hp ?_)
      rw [if_neg hfragment, if_pos hbatch, hb]
      exact (runs_receiving _).bind_error
    | some b =>
      have hmembers : d.members = b.frames := by rw [Decoded.members, if_pos hbatch, hb]; rfl
      -- the members are leaves, so they need one level more and no other
      obtain ⟨t, hwithin, hmimics⟩ :=
        exists_mimics_members (h := h) e outer delivery b.frames hbatch
      rw [run_processPayload_of_batch hp hbatch hb, hmembers]
      refine ⟨_, hwithin, fun depth => ?_⟩
      rw [processWithin]
      refine (runs_leave _).bind (Runs.ifOpen hp ?_) rfl
      rw [if_neg hfragment, if_pos hbatch, hb]
      exact (runs_receiving _).bind_of_empty (hmimics depth)
  · rw [processPayload, ReceivingM.run_ifOpen_of_not_open hp]
    exact ⟨_, Trace.within_call hfragment, fun _ => runs_processWithin_of_not_open hp⟩

/-- A packet that is no chunk leaves a trace of a batch and its leaves at most. -/
theorem exists_mimics_payload (e : Endpoint S N X) (outer : List PacketId) (delivery : Delivery)
    (hfragment : d.id ≠ .fragment) :
    ∃ t, t.Within outer d.members ∧ ∀ depth,
      Mimics (h.processWithin delivery (depth + 2) outer d) (h.processPayload delivery d) e t := by
  by_cases hbatch : d.id = .batch
  · exact exists_mimics_batch e outer delivery hbatch
  · refine ⟨⟨[outer ++ [d.id]], []⟩, Trace.within_call hfragment, fun depth => ?_⟩
    rw [Mimics, run_processPayload_of_not_batch hbatch]
    exact mimics_leaf ⟨hfragment, hbatch⟩

/-- What comes of an accepted chunk comes on top of the call. -/
theorem runs_fragment (hp : e.session.phase = .opened) (hfragment : d.id = .fragment) {c : Chunk}
    (hc : d.packet.chunk? = some c) {answer : Except ProtocolError Unit} {t : Trace}
    (hm : Runs (do
      match ← receiving (ReceivingM.accept delivery.channel c) with
      | some payload =>
        h.processWithin delivery depth (outer ++ [d.id]) (← openPayload h.protocol.codecs payload)
      | none => return ()) e answer e' t) :
    Runs (h.processWithin delivery (depth + 1) outer d) e answer e'
      ⟨(outer ++ [d.id]) :: t.calls, t.decodings⟩ := by
  rw [processWithin]
  refine (runs_leave _).bind (u := t) (Runs.ifOpen hp ?_) rfl
  rw [if_pos hfragment, hc]
  exact (runs_receiving _).bind_of_empty hm

/-- At an open session, a chunk is accepted, and only what it completes is decoded. -/
private theorem run_processPacket_of_fragment (hp : e.session.phase = .opened)
    (hfragment : d.id = .fragment) {c : Chunk} (hc : d.packet.chunk? = some c) :
    (h.processPacket delivery d).run.run e = (do
      match ← ReceivingM.accept delivery.channel c with
      | some payload =>
        h.processPayload delivery (← ReceivingM.ofExcept (h.protocol.codecs.decodePayload payload))
      | none => return () : ReceivingM S N X Unit).run.run e := by
  rw [processPacket, ReceivingM.run_ifOpen_of_open hp, if_pos hfragment, hc]
  rfl

/-- Content of another type under the identifier of chunks fails in the same way. -/
private theorem run_processPacket_of_not_packed (hp : e.session.phase = .opened)
    (hfragment : d.id = .fragment) (hc : d.packet.chunk? = none) :
    (h.processPacket delivery d).run.run e =
      (.error (.unknownPacketType d.packet.typeName), e) := by
  rw [processPacket, ReceivingM.run_ifOpen_of_open hp, if_pos hfragment, hc]
  rfl

/-- A completed payload is decoded, and then what is in it is processed. -/
private theorem exists_mimics_completed (e : Endpoint S N X) (delivery : Delivery) (payload : Bytes)
    (hfragment : d.id = .fragment) :
    ∃ t : Trace, Trace.Bounded (some payload) (h.protocol.codecs.membersWithin (some payload) d)
        ⟨[d.id] :: t.calls, t.decodings⟩ ∧ ∀ depth,
      Mimics (openPayload h.protocol.codecs payload >>= h.processWithin delivery (depth + 2) [d.id])
        (ReceivingM.ofExcept (h.protocol.codecs.decodePayload payload) >>=
          h.processPayload delivery) e t := by
  have hopen := runs_openPayload (e := e) h.protocol.codecs payload
  cases hd : h.protocol.codecs.decodePayload payload with
  | error cause =>
    rw [hd] at hopen
    exact ⟨_, (Trace.within_empty _).bounded_fragment hfragment payload,
      fun _ => hopen.bind_error⟩
  | ok inner =>
    rw [hd] at hopen
    obtain ⟨hdecode, hinner⟩ := Registry.decode_of_decodePayload hd
    obtain ⟨t, hwithin, hmimics⟩ := exists_mimics_payload (h := h) e [d.id] delivery hinner
    have hmembers : h.protocol.codecs.membersWithin (some payload) d = inner.members := by
      rw [Registry.membersWithin, hdecode]
    rw [hmembers]
    exact ⟨⟨t.calls, .payload payload :: t.decodings⟩,
      hwithin.bounded_fragment hfragment payload, fun depth => hopen.bind (hmimics depth) rfl⟩

/-- Opening the payload that a chunk completes comes on top of the call. -/
private theorem exists_mimics_fragment (e : Endpoint S N X) (delivery : Delivery)
    (hfragment : d.id = .fragment) :
    ∃ t : Trace, t.Bounded (e.session.completed delivery.channel d)
        (h.protocol.codecs.membersWithin (e.session.completed delivery.channel d) d) ∧
      ∀ depth,
        Mimics (h.processWithin delivery (depth + 3) [] d) (h.processPacket delivery d) e t := by
  unfold Mimics
  by_cases hp : e.session.phase = .opened
  · cases hc : d.packet.chunk? with
    | none =>
      rw [run_processPacket_of_not_packed hp hfragment hc]
      refine ⟨_, Trace.bounded_call _ _ d.id, fun depth => ?_⟩
      rw [processWithin]
      refine (runs_leave _).bind_last (Runs.ifOpen hp ?_)
      rw [if_pos hfragment, hc]
      exact (runs_receiving _).bind_error
    | some c =>
      have hcompleted : e.session.completed delivery.channel d =
          match (e.session.reassembler.accept delivery.channel c).1 with
          | .ok payload => payload
          | .error _ => none := by
        rw [Session.completed, if_pos hfragment, hc]
        rfl
      -- the chunk is accepted at the level of the call; only what it completes goes one level down
      have haccept := runs_receiving (e := e)
        (ReceivingM.accept delivery.channel c : ReceivingM S N X _)
      rw [run_processPacket_of_fragment hp hfragment hc, ReceivingM.run_bind, hcompleted]
      rw [run_accept] at haccept ⊢
      generalize (e.session.reassembler.accept delivery.channel c).1 = result at haccept ⊢
      generalize e.update _ = e' at haccept ⊢
      rcases result with cause | _ | payload
      · refine ⟨⟨[[d.id]], []⟩, Trace.bounded_call _ _ d.id, fun depth => ?_⟩
        exact runs_fragment hp hfragment hc (t := .empty) haccept.bind_error
      · refine ⟨⟨[[d.id]], []⟩, Trace.bounded_call _ _ d.id, fun depth => ?_⟩
        refine runs_fragment hp hfragment hc (t := .empty) (haccept.bind_of_empty ?_)
        exact runs_pure ()
      · obtain ⟨t, hbounded, hmimics⟩ :=
          exists_mimics_completed (h := h) e' delivery payload hfragment
        refine ⟨_, hbounded, fun depth => ?_⟩
        exact runs_fragment hp hfragment hc (haccept.bind_of_empty (hmimics depth))
  · rw [processPacket, ReceivingM.run_ifOpen_of_not_open hp]
    exact ⟨_, Trace.bounded_call _ _ d.id, fun _ => runs_processWithin_of_not_open hp⟩

/-- With three levels or more, processing under a limit is processing without one, for chunks as for
all other packets, and what it leaves is within the bound. -/
private theorem exists_mimics_packet (e : Endpoint S N X) (delivery : Delivery) (d : Decoded S) :
    ∃ t : Trace, t.Bounded (e.session.completed delivery.channel d)
        (h.protocol.codecs.membersWithin (e.session.completed delivery.channel d) d) ∧
      ∀ depth,
        Mimics (h.processWithin delivery (depth + 3) [] d) (h.processPacket delivery d) e t := by
  by_cases hfragment : d.id = .fragment
  · exact exists_mimics_fragment e delivery hfragment
  · obtain ⟨t, hwithin, hmimics⟩ := exists_mimics_payload (h := h) e [] delivery hfragment
    have hcompleted : e.session.completed delivery.channel d = none := if_neg hfragment
    rw [hcompleted]
    refine ⟨t, hwithin.bounded, fun depth => ?_⟩
    unfold Mimics
    rw [run_processPacket_of_not_fragment hfragment]
    exact hmimics (depth + 1)

/-! ### Every packet -/

/-- Processing by recursion comes to an end without ever meeting a limit of three calls or more. It
does what the three layers do, whatever the limit, and its trace shows that it is never further in
than a leaf of a batch in a payload, and that it decodes nothing twice. -/
structure BoundedNesting (h : Host S N X) : Prop where
  packet (e : Endpoint S N X) (delivery : Delivery) (d : Decoded S) :
    let completed := e.session.completed delivery.channel d
    let result := (h.processPacket delivery d).run.run e
    ∃ t : Trace, t.Bounded completed (h.protocol.codecs.membersWithin completed d) ∧
      ∀ depth, ((h.processWithin delivery (depth + 3) [] d).run.run .empty).run e =
        some ((result.1, t), result.2)
  /-- A message is processed if there is a packet in it. -/
  message (e : Endpoint S N X) (delivery : Delivery) (message : Message S) :
    let result := (h.dispatch delivery message).run.run e
    ∃ t : Trace,
      (match h.decodeMessage message with
        | .ok d =>
          let completed := e.session.completed delivery.channel d
          t.Bounded completed (h.protocol.codecs.membersWithin completed d)
        | .error _ => t = .empty) ∧
      ∀ depth, ((h.dispatchWithin delivery (depth + 3) message).run.run .empty).run e =
        some ((result.1, t), result.2)

/-- Envelopes nest to a fixed depth at every host. -/
theorem boundedNesting (h : Host S N X) : h.BoundedNesting where
  packet e delivery d := by
    obtain ⟨t, hbounded, hmimics⟩ := exists_mimics_packet (h := h) e delivery d
    exact ⟨t, hbounded, fun depth => hmimics depth .empty⟩
  message e delivery message := by
    dsimp only [dispatchWithin]
    rw [dispatch, ReceivingM.run_bind]
    cases h.decodeMessage message with
    | error cause => exact ⟨.empty, rfl, fun _ => rfl⟩
    | ok d =>
      obtain ⟨t, hbounded, hmimics⟩ := exists_mimics_packet (h := h) e delivery d
      refine ⟨t, hbounded, fun depth => ?_⟩
      have hdecoded := runs_receiving (e := e) (ReceivingM.ofExcept (.ok d))
      exact hdecoded.bind_of_empty (hmimics depth) .empty

end Host

end PacketSession
