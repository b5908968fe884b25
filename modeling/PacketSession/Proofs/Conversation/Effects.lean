import PacketSession.Proofs.Conversation.Face
import PacketSession.Proofs.Session.Announcing
import PacketSession.Proofs.Session.Handing

/-!
# What operations do to a face

A frame that is transmitted is what it travels in, handed over piece by piece. Over a pair the
pieces are all taken, or nobody reads at the other end and the first one is refused
(`Protocol.deliverAll_cases`). From that there is one equation for each of the operations that a
session comes to in a conversation: it sends, it closes, it hangs up because its peer closed, it
fails because it was refused, and it ends.
-/

namespace PacketSession

open Memory

variable {S : Schema} {N Y : Type}

/-! ### Sending over a pair -/

namespace Protocol

/-- The host of a session at a side; the calls of callbacks may nest to the given depth. -/
abbrev hostAt (p : Protocol S (Sided S N Y)) (side : Side) (depth : Nat) : Host S N (Joint Y) :=
  (p.application side).host ((p.application side).perform depth)

private theorem outbound_hostAt {p : Protocol S (Sided S N Y)} {side : Side} {depth : Nat}
    (hout : p.pipeline.outbound = .empty) :
    (p.hostAt side depth).protocol.pipeline.outbound = .empty :=
  outbound_map (outbound_map hout _) _

theorem inbound_hostAt {p : Protocol S (Sided S N Y)} {side : Side} {depth : Nat}
    (hin : p.pipeline.inbound = .empty) :
    (p.hostAt side depth).protocol.pipeline.inbound = .empty :=
  inbound_map (inbound_map hin _) _

variable (p : Protocol S (Sided S N Y)) (side : Side) (depth : Nat) (connection : ConnectionId)
  {e : Endpoint S N (Joint Y)} (hh : (e.face.pair.get side).hungUp = false)

section Handing

variable (frame : WireFrame)

/-- Handing a frame to the connection is sending it into the pair. -/
private theorem send_hostAt (e : Endpoint S N (Joint Y)) :
    ((p.hostAt side depth).carrier.send connection frame).answer e =
        (e.outside.pair.send side frame).1.map (fun () => .ready (.ok ())) ∧
      ((p.hostAt side depth).carrier.send connection frame).after e =
        { e with outside := { e.outside with pair := (e.outside.pair.send side frame).2 } } :=
  ⟨rfl, rfl⟩

include hh in
/-- A frame is taken if somebody reads at the other end. -/
private theorem hand_of_reading (hr : (e.face.pair.get side.other).reading = true) :
    ((p.hostAt side depth).hand connection frame).answer e = .ok (.ready (.ok ())) ∧
      (((p.hostAt side depth).hand connection frame).after e).session = e.session ∧
      (((p.hostAt side depth).hand connection frame).after e).face = e.face.say side [frame] := by
  have hsend := MemoryPair.send_of_reading e.outside.pair side frame hh hr
  obtain ⟨hanswer, hafter⟩ := send_hostAt p side depth connection frame e
  rw [hsend] at hanswer hafter
  rw [Host.hand, SessionM.answer_bind, SessionM.after_bind, hanswer, hafter]
  exact ⟨rfl, rfl, Endpoint.face_record_taken _ connection frame⟩

/-- A frame is refused if nobody reads at the other end. -/
private theorem hand_of_not_reading (hr : (e.face.pair.get side.other).reading = false) :
    ((p.hostAt side depth).hand connection frame).answer e = .error .connectionClosed ∧
      (((p.hostAt side depth).hand connection frame).after e).session = e.session ∧
      (((p.hostAt side depth).hand connection frame).after e).face = e.face := by
  have hsend := MemoryPair.send_of_not_reading e.outside.pair side frame hr
  obtain ⟨hanswer, hafter⟩ := send_hostAt p side depth connection frame e
  rw [hsend] at hanswer hafter
  rw [Host.hand, SessionM.answer_bind, SessionM.after_bind, hanswer, hafter]
  exact ⟨rfl, rfl, Endpoint.face_record_refused _ connection frame _⟩

end Handing

variable (delivery : Delivery) (handle : SendHandle)

include hh in
private theorem deliver_of_reading (hr : (e.face.pair.get side.other).reading = true)
    (payload : Bytes) : ∃ e',
      (((p.hostAt side depth).deliver connection delivery (.bytes payload)).run.run handle).run e =
        ((.ok (), handle.push (.ready (.ok ()))), e') ∧
      e'.session = e.session ∧ e'.face = e.face.say side [⟨delivery, payload⟩] := by
  obtain ⟨hanswer, hs, hf⟩ := hand_of_reading p side depth connection hh ⟨delivery, payload⟩ hr
  refine ⟨_, ?_, hs, hf⟩
  rw [Host.deliver, pure_bind, SendingM.run_lift_bind, hanswer]
  rfl

private theorem deliver_of_not_reading (hr : (e.face.pair.get side.other).reading = false)
    (payload : Bytes) :
    ∃ e',
      (((p.hostAt side depth).deliver connection delivery (.bytes payload)).run.run handle).run e =
        ((.error .refusal, handle), e') ∧
      e'.session = e.session ∧ e'.face = e.face := by
  obtain ⟨hanswer, hs, hf⟩ := hand_of_not_reading p side depth connection ⟨delivery, payload⟩ hr
  refine ⟨_, ?_, hs, hf⟩
  rw [Host.deliver, pure_bind, SendingM.run_lift_bind, hanswer]
  rfl

include hh in
private theorem deliverAll_of_reading (hr : (e.face.pair.get side.other).reading = true)
    (payloads : List Bytes) :
    ∃ handle' e', (((p.hostAt side depth).deliverAll connection delivery payloads).run.run
        handle).run e = ((.ok (), handle'), e') ∧
      e'.session = e.session ∧ e'.face = e.face.say side (payloads.map (⟨delivery, ·⟩)) := by
  induction payloads generalizing e handle with
  | nil => exact ⟨handle, e, rfl, rfl, Face.say_nil.symm⟩
  | cons payload payloads ih =>
    obtain ⟨e₁, hrun, hs, hf⟩ := deliver_of_reading p side depth connection hh delivery handle hr
      payload
    have hh₁ : (e₁.face.pair.get side).hungUp = false := by
      rw [hf, Face.say, MemoryPair.get_pass_self, hh]
    have hr₁ : (e₁.face.pair.get side.other).reading = true := by
      rw [hf, Face.say, MemoryPair.get_pass_other, End.reading_queueAll, hr]
    obtain ⟨handle', e', hrun', hs', hf'⟩ := ih hh₁ _ hr₁
    refine ⟨handle', e', ?_, hs'.trans hs, ?_⟩
    · rw [Host.deliverAll, SendingM.forM_cons, SendingM.run_bind, hrun]
      exact hrun'
    · rw [hf', hf, Face.say_say]
      rfl

include hh in
/-- Payloads that are handed over are all taken, or the first one is refused. -/
theorem deliverAll_cases (payloads : List Bytes) :
    ∃ result handle' e', (((p.hostAt side depth).deliverAll connection delivery payloads).run.run
        handle).run e = ((result, handle'), e') ∧ e'.session = e.session ∧
      (result = .ok () ∧ e'.face = e.face.say side (payloads.map (⟨delivery, ·⟩)) ∨
        result = .error .refusal ∧ (e.face.pair.get side.other).reading = false ∧
          e'.face = e.face) := by
  cases hr : (e.face.pair.get side.other).reading with
  | true =>
    obtain ⟨handle', e', hrun, hs, hf⟩ := deliverAll_of_reading p side depth connection hh delivery
      handle hr payloads
    exact ⟨_, handle', e', hrun, hs, .inl ⟨rfl, hf⟩⟩
  | false =>
    cases payloads with
    | nil => exact ⟨_, handle, e, rfl, rfl, .inl ⟨rfl, Face.say_nil.symm⟩⟩
    | cons payload payloads =>
      obtain ⟨e', hrun, hs, hf⟩ := deliver_of_not_reading p side depth connection delivery handle hr
        payload
      refine ⟨.error .refusal, handle, e', ?_, hs, .inr ⟨rfl, rfl, hf⟩⟩
      rw [Host.deliverAll, SendingM.forM_cons, SendingM.run_bind, hrun]

/-! ### Ending -/

/-- A request to go away shows only in the pair. -/
theorem face_disconnect (reason : String) :
    (((p.hostAt side depth).disconnect connection reason).after e).face =
      { e.face with pair := e.face.pair.disconnect side } := by
  rw [Host.disconnect, SessionM.after_bind, SessionM.after_record]
  have hrecord := e.face_record_disconnecting connection reason
  exact congrArg (fun f => ({ f with pair := f.pair.disconnect side } : Face S N)) hrecord

/-- Of a callback that runs at a closed session, nothing counts but that it started. -/
theorem face_after_callback {m : SessionM S N (Joint Y) Unit} (hm : m.Follows Endpoint.Inert)
    (event : Event S N) (hv : event.isCallback = true) (hp : e.session.phase = .closed) :
    (m.after (e.record event)).face = { e.face with callbacks := e.face.callbacks ++ [event] } :=
  (hm (e.record event) hp).trans (e.face_record_callback hv)

private theorem inert_onClosed :
    (p.hostAt side depth).protocol.lifecycle.onClosed.Follows Endpoint.Inert :=
  Script.inert_joined (Application.inert_perform _ depth) _

private theorem inert_onException (cause : ProtocolError) :
    ((p.hostAt side depth).protocol.lifecycle.onException cause).Follows Endpoint.Inert :=
  Script.inert_joined (Application.inert_perform _ depth) _

/-- A session that ends is over, whatever its callbacks do. -/
theorem face_finish (hp : e.session.phase ≠ .closed) (hc : e.session.connection = some connection)
    (failure : Option ProtocolError) :
    (((p.hostAt side depth).finish failure).after e).face = e.face.conclude side failure := by
  have hgone : (((p.hostAt side depth).letGo e.session.connection e.session.reasonText).after
      (e.turn .ends fun s => Host.released s failure)).face =
        { e.face with
          phase := .closed
          connection := none
          reassembler := e.face.reassembler.clear
          pair := e.face.pair.disconnect side } := by
    rw [hc, Host.letGo, face_disconnect, Endpoint.face_turn]
    rfl
  generalize hlet : ((p.hostAt side depth).letGo e.session.connection e.session.reasonText).after
    (e.turn .ends fun s => Host.released s failure) = e₁ at hgone
  have hp₁ : e₁.session.phase = .closed := congrArg Face.phase hgone
  -- the callbacks run at a closed session, where all that they ask for is refused
  cases failure with
  | none =>
    have hclosed := face_after_callback (inert_onClosed p side depth) (.closed .closed) rfl hp₁
    rw [Host.after_finish_none hp, hlet]
    dsimp only
    rw [hp₁, hclosed, hgone]
    simp [Face.conclude]
  | some cause =>
    have hfailed := face_after_callback (inert_onException p side depth cause)
      (.failed .closed cause) rfl hp₁
    rw [Host.after_finish_some hp, hlet]
    dsimp only
    rw [hp₁]
    generalize hexc : ((p.hostAt side depth).protocol.lifecycle.onException cause).after
      (e₁.record (.failed .closed cause)) = e₂ at hfailed ⊢
    have hp₂ : e₂.session.phase = .closed := (congrArg Face.phase hfailed).trans hp₁
    have hclosed := face_after_callback (inert_onClosed p side depth) (.closed .closed) rfl hp₂
    rw [hp₂, hclosed, hfailed, hgone]
    simp [Face.conclude]

/-- A session whose connection went away is over. -/
theorem face_transportClosed (hp : e.session.phase ≠ .closed)
    (hc : e.session.connection = some connection) :
    ((p.hostAt side depth).transportClosed.after e).face =
      (e.face.explain "connection closed").conclude side none := by
  let e₁ := e.update fun s => { s with reason := some (s.reason.getD "connection closed") }
  have hp₁ : e₁.session.phase ≠ .closed := hp
  have hc₁ : e₁.session.connection = some connection := hc
  rw [Host.transportClosed, SessionM.after_bind, SessionM.answer_current, SessionM.after_current,
    if_neg hp, SessionM.after_bind, SessionM.after_update]
  exact face_finish p side depth connection hp₁ hc₁ none

/-- A session whose connection failed is over. -/
private theorem face_fail_refusal (hp : e.session.phase ≠ .closed)
    (hc : e.session.connection = some connection) :
    (((p.hostAt side depth).fail .refusal).after e).face = e.face.lose side := by
  let e₁ := e.turn (.fails .refusal) fun s =>
    { s with reason := some (s.reason.getD ProtocolError.refusal.message) }
  let e₂ := ((p.hostAt side depth).disconnect connection
    (e.session.reason.getD ProtocolError.refusal.message)).after e₁
  have hface₂ : e₂.face =
      { e.face.explain ProtocolError.refusal.message with
        phase := .closing
        pair := e.face.pair.disconnect side } := by
    rw [show e₂.face = _ from face_disconnect p side depth connection _, Endpoint.face_turn]
    rfl
  have hp₂ : e₂.session.phase ≠ .closed := by
    rw [show e₂.session.phase = .closing from congrArg Face.phase hface₂]
    decide
  have hc₂ : e₂.session.connection = some connection :=
    (congrArg Face.connection hface₂).trans hc
  have hafter : ((p.hostAt side depth).fail .refusal).after e =
      ((p.hostAt side depth).finish (some .refusal)).after e₂ := by
    rw [Host.fail, SessionM.after_bind, SessionM.answer_current, SessionM.after_current, if_neg hp,
      hc]
    simp only [ProtocolError.refusal, ProtocolError.isTransport, Bool.not_true, Bool.and_false]
    rfl
  -- hanging up twice is hanging up once
  rw [hafter, face_finish p side depth connection hp₂ hc₂, hface₂]
  simp only [Face.conclude, Face.lose, MemoryPair.disconnect_disconnect]
  rfl

/-- An open session whose peer announced a close is closing. -/
theorem face_peerDisconnected (hp : e.session.phase = .opened)
    (hc : e.session.connection = some connection) (reason : String) :
    (((p.hostAt side depth).peerDisconnected reason).after e).face = e.face.depart side reason := by
  rw [Host.peerDisconnected, SessionM.after_bind, SessionM.answer_current, SessionM.after_current,
    if_pos hp, SessionM.after_bind, hc]
  refine (face_disconnect p side depth connection reason).trans ?_
  rw [SessionM.after_turn, Endpoint.face_turn]
  rfl

/-! ### Closing and sending -/

section Traffic

variable {p side} (hout : p.pipeline.outbound = .empty)

include hout

include hh in
/-- The frames of an announcement are taken, unless nobody reads at the other end. -/
private theorem face_announce {reason : String} {frame : Bytes} {payloads : List Bytes}
    (he : p.codecs.encode (.ofDisconnect ⟨reason⟩) = .ok frame)
    (hp : p.codecs.payloads p.settings frame = .ok payloads) :
    (((p.hostAt side depth).announce connection reason).after e).face =
        e.face.say side (payloads.map (⟨p.settings.announcement, ·⟩)) ∨
      (e.face.pair.get side.other).reading = false ∧
        (((p.hostAt side depth).announce connection reason).after e).face = e.face := by
  have hface := e.face_record_announcing reason
  have ht : (p.hostAt side depth).transmit connection p.settings.announcement frame =
      (p.hostAt side depth).deliverAll connection p.settings.announcement payloads := by
    rw [Host.transmit_eq_deliverAll (h := p.hostAt side depth) (outbound_hostAt hout)]
    change SendingM.ofExcept (p.codecs.payloads p.settings frame) >>= _ = _
    rw [hp]
    exact pure_bind _ _
  have hafter : ((p.hostAt side depth).announce connection reason).after e =
      (((p.hostAt side depth).transmit connection p.settings.announcement frame).run.run
        .empty).after (e.record (.announcing reason)) := by
    rw [Host.announce, SessionM.after_bind, SessionM.after_record]
    have hframe : (p.hostAt side depth).protocol.codecs.encode (.ofDisconnect ⟨reason⟩) =
        .ok frame := he
    rw [hframe]
    rfl
  -- what is left is a delivery of the pieces, which is taken whole or not at all
  obtain ⟨result, handle, e', hrun, -, hcases⟩ := deliverAll_cases p side depth connection
    (e := e.record (.announcing reason)) (by rw [hface, hh]) p.settings.announcement .empty payloads
  rw [hafter, ht, SessionM.after, hrun, ← hface]
  exact hcases.imp And.right And.right

/-- An open session that is closed is closing, and announces that if anybody reads it. -/
theorem face_close (hl : e.face.Live side) {reason : String} {frame : Bytes}
    {payloads : List Bytes} (he : p.codecs.encode (.ofDisconnect ⟨reason⟩) = .ok frame)
    (hp : p.codecs.payloads p.settings frame = .ok payloads) :
    (((p.hostAt side depth).close reason).after e).face =
        (e.face.say side (payloads.map (⟨p.settings.announcement, ·⟩))).depart side reason ∨
      (e.face.pair.get side.other).reading = false ∧
        (((p.hostAt side depth).close reason).after e).face = e.face.depart side reason := by
  let e₁ := e.turn .closes fun s => { s with reason := some reason }
  have hface : e₁.face = { e.face with phase := .closing, reason := some reason } :=
    e.face_turn .closes _
  have hh₁ : (e₁.face.pair.get side).hungUp = false := by rw [hface, hl.sending]
  have hconnected : ((p.hostAt side depth).carrier.isConnected 0).answer e₁ = true := by
    change (!(e.face.pair.get side).hungUp && (e.face.pair.get side).reading) = true
    rw [hl.sending, hl.reading]
    rfl
  have hafter : ((p.hostAt side depth).close reason).after e =
      ((p.hostAt side depth).disconnect 0 reason).after
        (((p.hostAt side depth).announce 0 reason).after e₁) := by
    have hphase : e.session.phase = .opened := hl.opened
    have hconn : e.session.connection = some 0 := hl.connected
    rw [Host.close, SessionM.after_bind, SessionM.answer_current, SessionM.after_current, hphase]
    dsimp only
    rw [SessionM.after_bind, hconn]
    dsimp only
    rw [SessionM.after_bind, Host.announceIfConnected, SessionM.after_bind, SessionM.after_turn,
      hconnected]
    rfl
  rw [hafter, face_disconnect]
  -- the session hangs up whether or not the announcement was taken
  obtain hsaid | ⟨hr, hsaid⟩ := face_announce depth 0 hh₁ hout he hp
  · rw [hsaid, hface]
    exact .inl rfl
  · rw [hface] at hr
    rw [hsaid, hface]
    exact .inr ⟨hr, rfl⟩

/-- Frames that are submitted are taken as what they travel in, or the submission fails; if they can
travel, that is because nobody reads at the other end, and the session is over then. -/
theorem submit_cases (hl : e.face.Live side) (frames : List Bytes) :
    (∃ payloads handle, frames.mapM (p.codecs.payloads p.settings) = .ok payloads ∧
      ((p.hostAt side depth).submit delivery frames).answer e = .ok handle ∧
      (((p.hostAt side depth).submit delivery frames).after e).face =
        e.face.say side (payloads.flatten.map (⟨delivery, ·⟩))) ∨
    ∃ refusal, ((p.hostAt side depth).submit delivery frames).answer e = .error refusal ∧
      ∀ payloads, frames.mapM (p.codecs.payloads p.settings) = .ok payloads →
        (e.face.pair.get side.other).reading = false ∧
          (((p.hostAt side depth).submit delivery frames).after e).face = e.face.lose side := by
  have hphase : e.session.phase = .opened := hl.opened
  have hconn : e.session.connection = some 0 := hl.connected
  have hwritable : Host.writable e.session = .ok 0 := by rw [Host.writable, hphase, hconn]
  rw [Host.submit, SessionM.answer_bind, SessionM.after_bind, SessionM.answer_current,
    SessionM.after_current, hwritable]
  dsimp only
  rw [SessionM.answer_bind, SessionM.after_bind]
  cases hp : frames.mapM (p.codecs.payloads p.settings) with
  | error cause =>
    -- some frame cannot travel, so the transmission cannot have come to its end
    rcases hrun : ((frames.forM ((p.hostAt side depth).transmit 0 delivery)).run.run .empty).run e
      with ⟨⟨failure | _, handle⟩, e'⟩
    · have hanswer :
          (SendingM.collect (frames.forM ((p.hostAt side depth).transmit 0 delivery))).answer e =
            (.error failure, handle) := congrArg Prod.fst hrun
      refine .inr ⟨Host.sendError failure, ?_, fun payloads h => by cases h⟩
      rw [hanswer]
      dsimp only
      split <;> rfl
    · obtain ⟨payloads, hpayloads⟩ := Host.exists_payloads_of_transmitAll
        (h := p.hostAt side depth) (outbound_hostAt hout) 0 delivery hrun
      have hok : frames.mapM (p.codecs.payloads p.settings) = .ok payloads := hpayloads
      rw [hp] at hok
      cases hok
  | ok payloads =>
    -- all frames can travel, so only the connection can refuse them
    have ht := Host.transmitAll_eq (h := p.hostAt side depth) (outbound_hostAt hout) 0 delivery
      hp
    obtain ⟨result, handle, e', hrun, hs, hcases⟩ := deliverAll_cases p side depth 0 hl.sending
      delivery .empty payloads.flatten
    have hanswer :
        (SendingM.collect (frames.forM ((p.hostAt side depth).transmit 0 delivery))).answer e =
          (result, handle) := by
      rw [ht]
      exact congrArg Prod.fst hrun
    have hafter : (SendingM.collect (frames.forM ((p.hostAt side depth).transmit 0 delivery))).after
        e = e' := by
      rw [ht]
      exact congrArg Prod.snd hrun
    rw [hanswer, hafter]
    obtain ⟨rfl, hface⟩ | ⟨rfl, hr, hface⟩ := hcases
    · exact .inl ⟨payloads, handle, rfl, rfl, hface⟩
    · have hbreaks : Host.breaksStream handle .refusal = true := rfl
      have hp' : e'.session.phase ≠ .closed := by
        rw [hs, hphase]
        decide
      have hlost := face_fail_refusal p side depth 0 hp' (hs ▸ hconn)
      refine .inr ⟨Host.sendError .refusal, ?_, fun _ _ => ⟨hr, ?_⟩⟩
      · simp only [hbreaks, if_true]
        rfl
      · simp only [hbreaks, if_true]
        rw [hface] at hlost
        exact hlost

omit hout in
/-- A call to send is the submission of its frames. -/
theorem sendOne_eq (call : Sending S) :
    (p.application side).sendOne (depth + 1) call =
      match p.codecs.framesOf p.settings call with
      | .error cause => pure (.error (.protocol cause))
      | .ok frames => (p.hostAt side depth).submit call.delivery frames := by
  cases call with
  | single packet delivery =>
    have hencode : (p.hostAt side depth).protocol.codecs.encode packet = p.codecs.encode packet :=
      rfl
    change (p.hostAt side depth).send packet delivery = _
    rw [Host.send, Registry.framesOf, hencode]
    cases p.codecs.encode packet <;> rfl
  | batch packets delivery =>
    have hencode : (p.hostAt side depth).encodeBatches packets =
        p.codecs.framesOf p.settings (.batch packets delivery) := rfl
    change (p.hostAt side depth).sendBatch packets delivery = _
    rw [Host.sendBatch, hencode]
    cases p.codecs.framesOf p.settings (.batch packets delivery) <;> rfl

omit hout in
/-- Only an open session takes a call to send. -/
theorem opened_of_sendOne_ok {call : Sending S} {handle : SendHandle}
    (ho : ((p.application side).sendOne (depth + 1) call).answer e = .ok handle) :
    e.session.phase = .opened := by
  rw [sendOne_eq] at ho
  cases hframes : p.codecs.framesOf p.settings call with
  | error cause =>
    rw [hframes] at ho
    cases ho
  | ok frames =>
    rw [hframes] at ho
    dsimp only at ho
    rw [Host.submit, SessionM.answer_bind, SessionM.answer_current, SessionM.after_current] at ho
    by_contra hp
    have hrefused : ∃ refusal, Host.writable e.session = .error refusal := by
      rw [Host.writable]
      cases hphase : e.session.phase with
      | opened => exact absurd hphase hp
      | _ => exact ⟨_, rfl⟩
    obtain ⟨refusal, hw⟩ := hrefused
    rw [hw] at ho
    cases ho

/-- What a call that succeeds was to send is taken. -/
theorem face_sendOne_of_ok (hl : e.face.Live side) {call : Sending S} {handle : SendHandle}
    (ho : ((p.application side).sendOne (depth + 1) call).answer e = .ok handle) :
    ∃ wire, p.codecs.CarriesCalls p.settings [call] wire ∧
      (((p.application side).sendOne (depth + 1) call).after e).face = e.face.say side wire := by
  rw [sendOne_eq] at ho ⊢
  cases hframes : p.codecs.framesOf p.settings call with
  | error cause =>
    rw [hframes] at ho
    cases ho
  | ok frames =>
    rw [hframes] at ho
    obtain ⟨payloads, handle', hp, -, hface⟩ | ⟨refusal, hrefused, -⟩ :=
      submit_cases depth call.delivery hout hl frames
    · refine ⟨_, .cons hframes (Registry.carriesAll_of_payloads hp) .nil, ?_⟩
      rw [List.append_nil]
      exact hface
    · have hcontra : Except.error refusal = Except.ok handle := hrefused.symm.trans ho
      cases hcontra

/-- What is sendable is taken, or the session is over because nobody reads at the other end. -/
theorem face_sendOne_of_sendable (hw : p.codecs.WellFormed) (hl : e.face.Live side)
    {call : Sending S} (hs : p.codecs.Sendable p.settings call) :
    (∃ wire, p.codecs.CarriesCalls p.settings [call] wire ∧
      (((p.application side).sendOne (depth + 1) call).after e).face = e.face.say side wire) ∨
    (e.face.pair.get side.other).reading = false ∧
      (((p.application side).sendOne (depth + 1) call).after e).face = e.face.lose side := by
  obtain ⟨frames, payloads, hframes, hp⟩ := hs.exists_payloads hw
  rw [sendOne_eq, hframes]
  dsimp only
  obtain ⟨payloads', handle, hp', -, hface⟩ | ⟨refusal, -, hlost⟩ :=
    submit_cases depth call.delivery hout hl frames
  · refine .inl ⟨_, .cons hframes (Registry.carriesAll_of_payloads hp') .nil, ?_⟩
    rw [List.append_nil]
    exact hface
  · exact .inr (hlost payloads hp)

end Traffic

end Protocol

end PacketSession
