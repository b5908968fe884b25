import PacketSession.Proofs.Session.Announcing
import PacketSession.Proofs.Session.Consistency
import PacketSession.Proofs.Session.Contiguity
import PacketSession.Proofs.Session.FrameSize
import PacketSession.Proofs.Session.Handing

/-!
# Calls to send over connections that take everything

Over a connection that takes every frame, the packets of a call to send determine what it does: what
it answers, which frames it hands over, and whether the session survives it. `Registry.effect`
computes that, and `Registry.effects` does so for calls one after the other. Neither looks at a
session, only at the codecs, the settings and the reason that the session is closed for, if it is.

The listeners on the way out have a small part in it: each piece is handed over in a coat that they
put on it (`Host.Coats`), one frame for each piece. Without listeners, the coat is nothing.
-/

namespace PacketSession

variable {S : Schema} {N X : Type}

/-! ### Actions whose outcome is determined -/

/-- Whatever was handed over before, an action has this result, connections take these frames, the
handle counts them, and nothing happens to the session. -/
def SendingM.Puts (m : SendingM S N X Unit) (r : Except ProtocolError Unit)
    (wire : List WireFrame) : Prop :=
  ∀ handle e, ((m.run.run handle).answer e).1 = r ∧
    ((m.run.run handle).answer e).2.frames = handle.frames + wire.length ∧
    ((m.run.run handle).after e).session = e.session ∧
    ((m.run.run handle).after e).taken = e.taken ++ wire

namespace SendingM.Puts

variable {m n : SendingM S N X Unit} {r : Except ProtocolError Unit}
  {wire wire' : List WireFrame}

theorem pure : Puts (Pure.pure () : SendingM S N X Unit) (.ok ()) [] :=
  fun _ e => ⟨rfl, rfl, rfl, (List.append_nil e.taken).symm⟩

theorem throw (cause : ProtocolError) :
    Puts (throw cause : SendingM S N X Unit) (.error cause) [] :=
  fun _ e => ⟨rfl, rfl, rfl, (List.append_nil e.taken).symm⟩

/-- The frames of two actions are those of the first and then those of the second, if the first
succeeds. -/
theorem bind (hm : m.Puts (.ok ()) wire) (hn : n.Puts r wire') :
    (m >>= fun _ => n).Puts r (wire ++ wire') := by
  intro handle e
  have hrun : (m >>= fun _ => n).run.run handle =
      (m.run.run handle >>= fun r => (ExceptT.bindCont (fun _ => n) r.1).run r.2) := rfl
  rw [hrun, SessionM.answer_bind, SessionM.after_bind]
  obtain ⟨hr, hf, hs, ht⟩ := hm handle e
  rcases hrun : (m.run.run handle).answer e with ⟨r₁, handle₁⟩
  rw [hrun] at hr hf
  obtain rfl : r₁ = .ok () := hr
  obtain ⟨hr', hf', hs', ht'⟩ := hn handle₁ ((m.run.run handle).after e)
  refine ⟨hr', hf'.trans ?_, hs'.trans hs, ht'.trans ?_⟩
  · rw [hf, List.length_append, Nat.add_assoc]
  · rw [ht, List.append_assoc]

/-- If the first of two actions fails, its frames are all there are. -/
theorem bind_error {cause : ProtocolError} (hm : m.Puts (.error cause) wire) :
    (m >>= fun _ => n).Puts (.error cause) wire := by
  intro handle e
  have hrun : (m >>= fun _ => n).run.run handle =
      (m.run.run handle >>= fun r => (ExceptT.bindCont (fun _ => n) r.1).run r.2) := rfl
  rw [hrun, SessionM.answer_bind, SessionM.after_bind]
  obtain ⟨hr, hf, hs, ht⟩ := hm handle e
  rcases hrun : (m.run.run handle).answer e with ⟨r₁, handle₁⟩
  rw [hrun] at hr hf
  obtain rfl : r₁ = .error cause := hr
  exact ⟨rfl, hf, hs, ht⟩

/-- Actions on the members of a list that all succeed. -/
theorem forM {α : Type} {f : α → SendingM S N X Unit} {g : α → WireFrame}
    (hf : ∀ a, (f a).Puts (.ok ()) [g a]) :
    ∀ l : List α, Puts (l.forM f) (.ok ()) (l.map g)
  | [] => .pure
  | a :: l => (hf a).bind (forM hf l)

end SendingM.Puts

/-! ### What is handed over of frames -/

namespace Registry

variable (r : Registry S) (settings : Settings)

/-- The pieces in which frames are handed over one after the other, up to the first frame that
cannot travel, and why it cannot. -/
def pieces : List Bytes → List Bytes × Except ProtocolError Unit
  | [] => ([], .ok ())
  | frame :: frames =>
    match r.payloads settings frame with
    | .error cause => ([], .error cause)
    | .ok front => (front ++ (pieces frames).1, (pieces frames).2)

/-- The frames in which a close is announced. -/
def announcement (reason : String) : List WireFrame :=
  match r.encode (.ofDisconnect ⟨reason⟩) with
  | .error _ => []
  | .ok frame => (r.pieces settings [frame]).1.map (⟨settings.announcement, ·⟩)

/-- What comes of a call to send. -/
structure Effect where
  /-- Its answer, with the number of frames for its handle. -/
  result : Except SessionError Nat
  /-- The frames that are handed over. -/
  wire : List WireFrame
  /-- Why the session is closed afterwards, if it is. -/
  reason : Option String

/-- What comes of a call that fails after some frames were handed over. -/
def interruption (wire : List WireFrame) (cause : ProtocolError) : Effect :=
  if Host.breaksStream ⟨.empty, wire.length⟩ cause then
    ⟨.error (Host.sendError cause),
      wire ++ if cause.isTransport then [] else r.announcement settings cause.message,
      some cause.message⟩
  else ⟨.error (Host.sendError cause), wire, none⟩

/-- What comes of frames that are submitted at an open session. -/
def submission (delivery : Delivery) (frames : List Bytes) : Effect :=
  let wire := (r.pieces settings frames).1.map (⟨delivery, ·⟩)
  match (r.pieces settings frames).2 with
  | .ok () => ⟨.ok wire.length, wire, none⟩
  | .error cause => r.interruption settings wire cause

/-- What comes of a call at a session that is open, or closed for a reason. -/
def effect (reason : Option String) (call : Submission S) : Effect :=
  match call.frames r settings with
  | .error cause => ⟨.error (.protocol cause), [], reason⟩
  | .ok frames =>
    match reason with
    | none => r.submission settings call.delivery frames
    | some reason => ⟨.error (.closed reason), [], some reason⟩

/-- What comes of calls one after the other: their answers and the frames that are handed over. -/
def effects : Option String → List (Submission S) →
    List (Except SessionError Nat) × List WireFrame
  | _, [] => ([], [])
  | reason, call :: calls =>
    let first := r.effect settings reason call
    let later := effects first.reason calls
    (first.result :: later.1, first.wire ++ later.2)

end Registry

/-- A frame with its payload in a coat. -/
def WireFrame.coated (coat : Bytes → Bytes) (frame : WireFrame) : WireFrame :=
  { frame with payload := coat frame.payload }

theorem WireFrame.coated_id : WireFrame.coated id = id := rfl

/-- A session has ended for a reason, or is open as long as there is none. -/
def Endpoint.Ended (e : Endpoint S N X) : Option String → Prop
  | none => e.session.Consistent ∧ e.session.phase = .opened
  | some reason => e.session.phase = .closed ∧ e.session.reason = some reason

/-- What came of a call to send is what was computed, but for the coats. -/
structure Registry.Effect.Happens (o : Registry.Effect) (coat : Bytes → Bytes)
    (e : Endpoint S N X) (answer : Except SessionError SendHandle) (e' : Endpoint S N X) :
    Prop where
  answer : answer.map SendHandle.frames = o.result
  taken : e'.taken = e.taken ++ o.wire.map (WireFrame.coated coat)
  ended : e'.Ended o.reason

/-! ### Hosts over connections that take everything -/

namespace Host

open Endpoint

/-- The connections take every frame, stay connected, and leave the session alone until they are
asked to go away. -/
structure Accepting (h : Host S N X) : Prop where
  carries : h.SendsApart
  connected : ∀ connection, (h.carrier.isConnected connection).Follows Apart
  takes : h.Takes
  stays : ∀ connection e, (h.carrier.isConnected connection).answer e = true

/-- Listeners put each piece in a coat. -/
def Coats (h : Host S N X) (coat : Bytes → Bytes) : Prop :=
  ∀ connection delivery piece,
    h.emit connection delivery piece = h.deliver connection delivery (.bytes (coat piece))

variable {h : Host S N X} (ha : h.Accepting) {coat : Bytes → Bytes} (hcoat : h.Coats coat)
  (connection : ConnectionId) (delivery : Delivery)

include ha

/-- A connection that takes everything takes a frame that is delivered, and the handle counts it. -/
private theorem puts_deliver (payload : Bytes) :
    (h.deliver connection delivery (.bytes payload)).Puts (.ok ()) [⟨delivery, payload⟩] := by
  intro handle e
  obtain ⟨write, hwrite⟩ := ha.takes connection ⟨delivery, payload⟩ e
  have hanswer : (h.hand connection ⟨delivery, payload⟩).answer e = .ok write := by
    rw [hand, SessionM.answer_bind, hwrite]
    rfl
  obtain ⟨hsession, htaken⟩ := hand_ok ha.carries connection ⟨delivery, payload⟩ hanswer
  rw [deliver, pure_bind, SendingM.answer_lift_bind, SendingM.after_lift_bind, hanswer]
  exact ⟨rfl, rfl, hsession, htaken⟩

include hcoat

omit ha hcoat in
/-- A frame that cannot travel fails before anything is handed over. -/
private theorem puts_transmit_of_error {frame : Bytes} {cause : ProtocolError}
    (hp : h.protocol.codecs.payloads h.protocol.settings frame = .error cause) :
    (h.transmit connection delivery frame).Puts (.error cause) [] := by
  rw [transmit_eq delivery connection, hp]
  exact .throw cause

/-- A frame that can travel is handed over in its pieces, each in the coat that listeners put it
in. -/
private theorem puts_transmit_of_ok {frame : Bytes} {front : List Bytes}
    (hp : h.protocol.codecs.payloads h.protocol.settings frame = .ok front) :
    (h.transmit connection delivery frame).Puts (.ok ())
      ((front.map (⟨delivery, ·⟩)).map (WireFrame.coated coat)) := by
  have hemit : ∀ piece, (h.emit connection delivery piece).Puts (.ok ())
      [WireFrame.coated coat ⟨delivery, piece⟩] := by
    intro piece
    rw [hcoat]
    exact puts_deliver ha connection delivery (coat piece)
  rw [transmit_eq delivery connection, hp, List.map_map]
  exact SendingM.Puts.forM hemit front

/-- Frames that are transmitted are handed over piece by piece, up to the first that cannot
travel. -/
theorem puts_transmitAll (frames : List Bytes) :
    SendingM.Puts (frames.forM (h.transmit connection delivery))
      (h.protocol.codecs.pieces h.protocol.settings frames).2
      (((h.protocol.codecs.pieces h.protocol.settings frames).1.map (⟨delivery, ·⟩)).map
        (WireFrame.coated coat)) := by
  induction frames with
  | nil => exact .pure
  | cons frame frames ih =>
    rw [SendingM.forM_cons, Registry.pieces]
    cases hp : h.protocol.codecs.payloads h.protocol.settings frame with
    | error cause => exact (puts_transmit_of_error connection delivery hp).bind_error
    | ok front =>
      rw [List.map_append, List.map_append]
      exact (puts_transmit_of_ok ha hcoat connection delivery hp).bind ih

private theorem puts_transmit (frame : Bytes) :
    (h.transmit connection delivery frame).Puts
      (h.protocol.codecs.pieces h.protocol.settings [frame]).2
      (((h.protocol.codecs.pieces h.protocol.settings [frame]).1.map (⟨delivery, ·⟩)).map
        (WireFrame.coated coat)) := by
  have hone : List.forM [frame] (h.transmit connection delivery) =
      h.transmit connection delivery frame := bind_pure_unit
  rw [← hone]
  exact puts_transmitAll ha hcoat connection delivery [frame]

variable {e : Endpoint S N X}

/-- A close is announced over a connection that takes everything. -/
private theorem after_announceIfConnected (reason : String) :
    ((h.announceIfConnected connection reason).after e).session = e.session ∧
      ((h.announceIfConnected connection reason).after e).taken =
        e.taken ++ (h.protocol.codecs.announcement h.protocol.settings reason).map
          (WireFrame.coated coat) := by
  let asked := ((h.carrier.isConnected connection).after e).record (.announcing reason)
  have happart := ha.connected connection e
  have hasked : asked.taken = e.taken := by
    have hnone : asked.taken = ((h.carrier.isConnected connection).after e).taken := by
      simp [asked, taken, record]
    exact hnone.trans happart.taken
  rw [announceIfConnected, SessionM.after_bind, ha.stays, if_pos rfl, announce,
    SessionM.after_bind, SessionM.after_record, Registry.announcement, ← hasked]
  cases h.protocol.codecs.encode (.ofDisconnect ⟨reason⟩) with
  | error cause => exact ⟨happart.session, (List.append_nil asked.taken).symm⟩
  | ok frame =>
    have hputs := puts_transmit ha hcoat connection h.protocol.settings.announcement frame
    obtain ⟨-, -, hsession, htaken⟩ := hputs .empty asked
    exact ⟨hsession.trans happart.session, htaken⟩

/-- An open session that fails announces that, unless the connection is to blame. -/
private theorem taken_fail (hq : h.CallbacksFollow KeepsQuiet) (hp : e.session.phase = .opened)
    (hconn : e.session.connection = some connection) (cause : ProtocolError) :
    ((h.fail cause).after e).taken = e.taken ++
      (if cause.isTransport then []
        else h.protocol.codecs.announcement h.protocol.settings
          (e.session.reason.getD cause.message)).map (WireFrame.coated coat) := by
  have hclosed : e.session.phase ≠ .closed := by simp [hp]
  cases ht : cause.isTransport with
  | true =>
    have hquiet := quieted_fail hq hclosed (.inr ht)
    exact hquiet.hush.taken_eq.trans (List.append_nil e.taken).symm
  | false =>
    let reason := e.session.reason.getD cause.message
    let turned := e.turn (.fails cause) fun s => { s with reason := some reason }
    let said := (h.announceIfConnected connection reason).after turned
    obtain ⟨hsession, htaken⟩ :
        said.session = turned.session ∧ said.taken = turned.taken ++ _ :=
      after_announceIfConnected ha hcoat connection reason
    have hfail : (h.fail cause).after e =
        (h.finish (some cause)).after ((h.disconnect connection reason).after said) := by
      rw [fail, SessionM.after_bind, SessionM.answer_current, SessionM.after_current,
        if_neg hclosed, hconn]
      simp only [hp, ht]
      rfl
    -- nothing follows the announcement, because the session is about to be over by then
    have hover : 2 ≤ said.session.phase.rank := by rw [hsession]; exact Nat.le_refl 2
    have hrest := (keepsQuiet_disconnect hq connection reason said hover).trans
      (keepsQuiet_finish hq (some cause) _)
    have hturned : turned.taken = e.taken := by simp [turned, taken, Endpoint.turn]
    rw [hfail, hrest.hush.taken_eq, htaken, hturned]
    rfl

/-- What a call knows of the frames that it transmitted. -/
theorem collect_transmitAll {frames : List Bytes} {r : Except ProtocolError Unit}
    {handle : SendHandle}
    (ho : (frames.forM (h.transmit connection delivery)).collect.answer e = (r, handle)) :
    let sent := h.protocol.codecs.pieces h.protocol.settings frames
    let wire : List WireFrame := sent.1.map (⟨delivery, ·⟩)
    let e₁ := (frames.forM (h.transmit connection delivery)).collect.after e
    sent.2 = r ∧ handle.frames = wire.length ∧ e₁.session = e.session ∧
      e₁.taken = e.taken ++ wire.map (WireFrame.coated coat) := by
  obtain ⟨hr, hf, hsession, htaken⟩ :=
    puts_transmitAll ha hcoat connection delivery frames .empty e
  rw [show ((frames.forM (h.transmit connection delivery)).run.run .empty).answer e = _ from ho]
    at hr hf
  refine ⟨hr.symm, hf.trans ?_, hsession, htaken⟩
  rw [SendHandle.empty, Nat.zero_add, List.length_map]

omit ha hcoat connection delivery in
/-- Whether a failed send breaks the stream is a matter of how many frames are under way. -/
theorem breaksStream_eq (handle : SendHandle) (cause : ProtocolError) :
    breaksStream handle cause = breaksStream ⟨.empty, handle.frames⟩ cause := by
  cases cause <;> rfl

omit connection in
/-- Frames that are submitted at an open session lead to what was computed. -/
private theorem happens_submit (hc : h.CallbacksOnCourse) (hk : h.CallbacksFollow StaysConsistent)
    (hq : h.CallbacksFollow KeepsQuiet) (hs : e.session.Consistent)
    (hp : e.session.phase = .opened) (frames : List Bytes) :
    (h.protocol.codecs.submission h.protocol.settings delivery frames).Happens coat e
      ((h.submit delivery frames).answer e) ((h.submit delivery frames).after e) := by
  obtain ⟨connection, hconn⟩ := Option.isSome_iff_exists.mp (hs.opened hp).1
  have hwritable : writable e.session = .ok connection := by rw [writable, hp, hconn]
  have hsub := h.submitted delivery frames e
  generalize (h.submit delivery frames).answer e = answer at hsub ⊢
  generalize (h.submit delivery frames).after e = e' at hsub ⊢
  rw [Registry.submission]
  cases hsub with
  | refused hrefused =>
    rw [hwritable] at hrefused
    cases hrefused
  | sent _ hresult =>
    obtain ⟨hr, hf, hsession, htaken⟩ := collect_transmitAll ha hcoat _ delivery hresult
    rw [hr]
    refine ⟨congrArg Except.ok hf, htaken, ?_, ?_⟩ <;> rwa [hsession]
  | survived _ hresult hb =>
    obtain ⟨hr, hf, hsession, htaken⟩ := collect_transmitAll ha hcoat _ delivery hresult
    rw [breaksStream_eq, hf] at hb
    rw [hr]
    dsimp only
    rw [Registry.interruption, hb, if_neg Bool.false_ne_true]
    refine ⟨rfl, htaken, ?_, ?_⟩ <;> rwa [hsession]
  | @broken other handle cause _ hresult hb =>
    obtain ⟨hr, hf, hsession, htaken⟩ := collect_transmitAll ha hcoat _ delivery hresult
    rw [breaksStream_eq, hf] at hb
    rw [hr]
    dsimp only
    rw [Registry.interruption, hb, if_pos rfl]
    generalize (frames.forM (h.transmit other delivery)).collect.after e = e₁ at hsession htaken ⊢
    rw [← hsession] at hp hconn hs
    -- an open session has no reason yet, so the failure gives it one and announces it
    have hnone : e₁.session.reason = none := (hs.opened hp).2
    have hfail := taken_fail ha hcoat connection hq hp hconn cause
    have htakes : (Ending.fails cause).TakesEffect e₁.session.phase := .inr hp
    have hreason := (becomes_perform hk hs htakes).reason_eq
      (Ending.consistent_takeEffect hs htakes) ((Ending.fails cause).reason_takeEffect e₁)
    rw [hnone] at hfail
    refine ⟨rfl, ?_, closed_fail hc cause, hreason⟩
    rw [hfail, htaken, List.append_assoc, List.map_append]
    rfl

end Host

/-! ### Applications over connections that take everything -/

namespace Application

variable {a : Application S N X} {depth : Nat} (ha : (a.host (a.perform depth)).Accepting)
  {coat : Bytes → Bytes} (hcoat : (a.host (a.perform depth)).Coats coat)
  {e : Endpoint S N X} {reason : Option String}

include ha hcoat

/-- At a session that is open or has ended, one call to submit has just the effect that can be
computed from its frames. -/
private theorem happens_submitOne (he : e.Ended reason) (call : Submission S) :
    (a.protocol.codecs.effect a.protocol.settings reason call).Happens coat e
      ((a.submitOne (depth + 1) call).answer e) ((a.submitOne (depth + 1) call).after e) := by
  rw [submitOne_succ, Registry.effect]
  cases call.frames a.protocol.codecs a.protocol.settings with
  | error cause => exact ⟨rfl, (List.append_nil e.taken).symm, he⟩
  | ok frames =>
    cases reason with
    | none =>
      exact Host.happens_submit ha hcoat call.delivery
        (a.callbacksOnCourse_host (a.onCourse_perform depth))
        (a.staysConsistent_host (a.staysConsistent_perform depth)) (a.keepsQuiet_host depth)
        he.1 he.2 frames
    | some reason =>
      obtain ⟨hanswer, hafter⟩ := Host.submit_of_closed (h := a.host (a.perform depth)) he.1
        call.delivery frames
      have htext : e.session.reasonText = reason := by rw [Session.reasonText, he.2, Option.getD]
      dsimp only
      rw [hanswer, hafter, htext]
      exact ⟨rfl, (List.append_nil e.taken).symm, he⟩

/-- Calls one after the other lead to what was computed, but for the coats. -/
theorem submitAll_eq_effects (he : e.Ended reason) (calls : List (Submission S)) :
    ((a.submitAll (depth + 1) calls).answer e).map (Except.map SendHandle.frames) =
        (a.protocol.codecs.effects a.protocol.settings reason calls).1 ∧
      ((a.submitAll (depth + 1) calls).after e).taken =
        e.taken ++ (a.protocol.codecs.effects a.protocol.settings reason calls).2.map
          (WireFrame.coated coat) := by
  induction calls generalizing e reason with
  | nil => exact ⟨rfl, (List.append_nil e.taken).symm⟩
  | cons call calls ih =>
    have hfirst := happens_submitOne ha hcoat he call
    obtain ⟨hanswers, htaken⟩ := ih hfirst.ended
    rw [submitAll, SessionM.answer_bind, SessionM.after_bind, Registry.effects, List.map_append]
    refine ⟨congrArg₂ List.cons hfirst.answer hanswers, htaken.trans ?_⟩
    rw [hfirst.taken, List.append_assoc]

end Application

/-! ### How long the pieces are -/

/-- No piece of a frame is longer than a full chunk with its identifier and its header. -/
def Settings.longestPiece (s : Settings) : Nat :=
  s.fragmentThreshold + Varint.maxLength + Chunk.firstHeaderSize

namespace Registry

variable {r : Registry S} {settings : Settings} (hw : r.WellFormed)
  (hv : settings.validate = .ok ())

include hw hv

/-- A frame travels whole if it is no longer than a chunk is, and else in chunks, so no piece is
longer than the longest one. -/
theorem length_le_of_payloads {frame : Bytes} {front : List Bytes}
    (h : r.payloads settings frame = .ok front) :
    ∀ piece ∈ front, piece.length ≤ settings.longestPiece := by
  unfold payloads at h
  split at h
  · cases h
  split at h
  next hle =>
    cases h
    refine List.forall_mem_singleton.mpr (hle.trans ?_)
    rw [Settings.longestPiece, Nat.add_assoc]
    exact Nat.le_add_right _ _
  · obtain ⟨chunks, hsplit, hencode⟩ := exists_of_bind_eq_ok h
    intro piece hpiece
    obtain ⟨c, hc, hframe⟩ := exists_of_mem_of_mapM_eq_ok hencode piece hpiece
    have hdata := Fragmenter.length_data_le _ hsplit hc
    have hsize := Fragmenter.chunkSize_ofSize_le (Settings.room_of_validate hv).1
    have hbytes := length_le_of_encode_chunk hw hframe
    rw [Settings.longestPiece]
    omega

/-- And so it is with the pieces of several frames. -/
private theorem length_le_of_mem_pieces (frames : List Bytes) :
    ∀ piece ∈ (r.pieces settings frames).1, piece.length ≤ settings.longestPiece := by
  induction frames with
  | nil => simp [pieces]
  | cons frame frames ih =>
    rw [pieces]
    cases hp : r.payloads settings frame with
    | error cause => simp
    | ok front => exact List.forall_mem_append.mpr ⟨length_le_of_payloads hw hv hp, ih⟩

/-- An announcement is a frame like others, as far as its pieces are concerned. -/
private theorem length_le_of_mem_announcement (reason : String) :
    ∀ frame ∈ r.announcement settings reason, frame.payload.length ≤ settings.longestPiece := by
  rw [announcement]
  split
  · simp
  · exact List.forall_mem_map.mpr (length_le_of_mem_pieces hw hv _)

/-- What a call to submit puts on the wire are pieces of its frames, or an announcement. -/
private theorem length_le_of_mem_submission (delivery : Delivery) (frames : List Bytes) :
    ∀ frame ∈ (r.submission settings delivery frames).wire,
      frame.payload.length ≤ settings.longestPiece := by
  have hpieces : ∀ frame ∈ (r.pieces settings frames).1.map (WireFrame.mk delivery),
      frame.payload.length ≤ settings.longestPiece :=
    List.forall_mem_map.mpr (length_le_of_mem_pieces hw hv frames)
  rw [submission]
  split
  · exact hpieces
  · rw [interruption]
    split
    · refine List.forall_mem_append.mpr ⟨hpieces, ?_⟩
      split
      · simp
      · exact length_le_of_mem_announcement hw hv _
    · exact hpieces

/-- No frame that calls hand over is longer than a full chunk. -/
theorem length_le_of_mem_effects (reason : Option String) (calls : List (Submission S)) :
    ∀ frame ∈ (r.effects settings reason calls).2,
      frame.payload.length ≤ settings.longestPiece := by
  induction calls generalizing reason with
  | nil => simp [effects]
  | cons call calls ih =>
    refine List.forall_mem_append.mpr ⟨?_, ih _⟩
    rw [effect]
    split
    · simp
    · split
      · exact length_le_of_mem_submission hw hv _ _
      · simp

end Registry

end PacketSession
