import PacketSession.Proofs.Conversation.Agreement

/-!
# Steps of a conversation

Every step of a conversation keeps the agreement of the two sides (`Conversation.agreed_make`). What
it changes in the account of its side is `Account.Goes`: the calls that the step is about, answers
of handlers behind them, and whether the side closed. The account of the other side stays as it
is.
-/

namespace PacketSession

open Memory

variable {S : Schema} {N Y : Type}

/-! ### What callbacks and steps may do -/

/-- A protocol without listeners whose handlers only answer. What they answer is `good`, which may
depend on the side. -/
structure Protocol.Converses (p : Protocol S (Sided S N Y)) (good : Side → Sending S → Prop) :
    Prop where
  built : p.Built
  inbound : p.pipeline.inbound = .empty
  outbound : p.pipeline.outbound = .empty
  onOpened : ∀ side, (p.lifecycle.onOpened.run side).Answering (good side)
  handlers : ∀ side, ∀ entry ∈ p.handlers.entries, ∀ packet delivery,
    ((entry.2.run packet delivery).run side).Answering (good side)
  sendable : ∀ side call, good side call → p.codecs.Sendable p.settings call

/-- The packets of a call to send come back from their frames, and the settings admit the
announcement of a close, whose text has its length in a word. -/
def Step.Sayable (p : Protocol S (Sided S N Y)) : Step S → Prop
  | .send _ call => p.codecs.Returns p.settings call
  | .close _ reason => ∀ frame, p.codecs.encode (.ofDisconnect ⟨reason⟩) = .ok frame →
    p.settings.Admits frame ∧ frame.length < 2 ^ 32
  | .drive _ => True

/-- The side at which a step happens. -/
def Step.side : Step S → Side
  | .send side _ | .close side _ | .drive side => side

/-- What a side goes on to do: calls to send, answers behind them, and maybe it closes. -/
structure Account.Goes (good : Sending S → Prop) (own : Account S) (calls : List (Sending S))
    (closing : Option String) (own' : Account S) : Prop where
  calls : ∃ answers, own'.calls = own.calls ++ calls ++ answers ∧ ∀ answer ∈ answers, good answer
  closes : ∀ reason, own'.stage = .closes reason ↔
    own.stage = .closes reason ∨ closing = some reason

theorem Account.Goes.refl (good : Sending S → Prop) (own : Account S) :
    own.Goes good [] none own where
  calls := ⟨[], by simp, List.forall_mem_nil good⟩
  closes reason := by simp

/-- An open side answers, and nothing else happens or it has to give up. -/
theorem Account.Goes.answers {good : Sending S → Prop} {own : Account S} (ho : own.stage = .opened)
    {answers : List (Sending S)} (hgood : ∀ answer ∈ answers, good answer) {stage : Stage}
    (hs : ∀ reason, stage ≠ .closes reason) :
    own.Goes good [] none ⟨stage, own.calls ++ answers⟩ where
  calls := ⟨answers, by simp, hgood⟩
  closes reason := by simp [ho, hs reason]

namespace Face

variable (f : Face S N) (side : Side)

/-- The driver of a session stops reading once the session is closed. -/
def driven : Face S N :=
  if f.phase = .closed then f.joinedBy (f.pair.stopReading side) else f

variable {f side}

private theorem driven_of_closed (hp : f.phase = .closed) :
    f.driven side = f.joinedBy (f.pair.stopReading side) := if_pos hp

private theorem driven_of_not_closed (hp : f.phase ≠ .closed) : f.driven side = f := if_neg hp

end Face

/-! ### What an open session makes of a frame -/

section Reacting

variable {p : Protocol S (Sided S N Y)} {good : Side → Sending S → Prop} (hp : p.Converses good)

include hp

theorem Protocol.Converses.returns {side : Side} {answers : List (Sending S)}
    (hgood : ∀ answer ∈ answers, good side answer) :
    ∀ answer ∈ answers, p.codecs.Returns p.settings answer :=
  fun answer ha => (hp.sendable side answer (hgood answer ha)).toReturns

variable {side : Side} {f g : Face S N} {own other : Account S}
  (h : Agreed p good side f g own other) (ho : own.stage = .opened) {pair : MemoryPair}
  (hq : f.pair.Dequeued side pair) {reassembler : Reassembler}
  {packets : List (PacketId × Packet S × Delivery)} {f₁ : Face S N}
  (hreaction :
    Reaction p.codecs p.settings (good side) side { f with reassembler, pair } packets f₁)

include h ho hq hreaction

namespace Agreed

/-- A session that heard packets of the application reacts, and stays open or fails. -/
private theorem exists_of_reaction
    (hpart : f.handled ++ packets <+: p.handlers.taking (p.codecs.sent other.calls))
    (hread : Agreed p good side (f.read reassembler pair packets) (g.joinedBy pair) own other) :
    ∃ own', own.Goes (good side) [] none own' ∧
      Agreed p good side (f₁.driven side) (g.joinedBy (f₁.driven side).pair) own' other := by
  have hw := hp.built.wellFormed
  have hphase : f.phase = .opened := h.here.stands.opened.mpr ho
  cases hreaction with
  | stays hgood hwire =>
    rw [Face.driven_of_not_closed]
    · exact ⟨_, .answers ho hgood (by simp [ho]), hread.say hw ho hwire (hp.returns hgood)⟩
    · exact fun hc => Phase.noConfusion (hphase.symm.trans hc)
  | @breaks answers wire part call hgood hwire hprefix hcall hr =>
    rw [Face.driven_of_closed rfl]
    have hr' : (f.pair.get side.other).reading = false :=
      (congrArg End.reading hq.other).symm.trans hr
    have hheard := (List.prefix_append_right_inj f.handled).mpr hprefix
    have hbroken := h.breaks hw ho hwire (hp.returns hgood) hr' reassembler hq
      (hheard.trans hpart) ⟨call, hcall⟩
    exact ⟨_, .answers ho hgood (by simp), hbroken⟩

/-- A session that heard the rest of what its peer said, and that it closed, hangs up or fails. -/
private theorem exists_of_reaction_farewell {reason : String} {f₂ : Face S N}
    (hcloses : other.stage = .closes reason)
    (hall : f.handled ++ packets = p.handlers.taking (p.codecs.sent other.calls))
    (hcases : f₁.Live side ∧ f₂ = f₁.depart side reason ∨ f₁.phase = .closed ∧ f₂ = f₁) :
    ∃ own', own.Goes (good side) [] none own' ∧
      Agreed p good side (f₂.driven side) (g.joinedBy (f₂.driven side).pair) own' other := by
  have hw := hp.built.wellFormed
  have hphase : f.phase = .opened := h.here.stands.opened.mpr ho
  cases hreaction with
  | @stays answers wire hgood hwire =>
    obtain ⟨-, rfl⟩ | ⟨hclosed, -⟩ := hcases
    · rw [Face.driven_of_not_closed Phase.noConfusion]
      have hsaid := h.say hw ho hwire (hp.returns hgood)
      have hhung := hsaid.hangUp ho hcloses reassembler (hq.pass wire) hall
      exact ⟨_, .answers ho hgood (by simp), hhung⟩
    -- a session whose answers were all taken is still open
    · cases hphase.symm.trans hclosed
  | @breaks answers wire part call hgood hwire hprefix hcall hr =>
    obtain ⟨hlive, -⟩ | ⟨-, rfl⟩ := hcases
    · cases hlive.opened
    · rw [Face.driven_of_closed rfl]
      have hr' : (f.pair.get side.other).reading = false :=
        (congrArg End.reading hq.other).symm.trans hr
      have hheard := (List.prefix_append_right_inj f.handled).mpr hprefix
      have hbroken := h.breaks hw ho hwire (hp.returns hgood) hr' reassembler hq (hall ▸ hheard)
        ⟨call, hcall⟩
      exact ⟨_, .answers ho hgood (by simp), hbroken⟩

end Agreed

end Reacting

namespace Conversation

/-! ### Faces in a conversation -/

/-- What counts of the session at a side. -/
def face (c : Conversation S N Y) (side : Side) : Face S N := (c.endpoint side).face

section Faces

variable (c : Conversation S N Y) (side : Side)

theorem face_put_self (e : Endpoint S N (Joint Y)) : (c.put side e).face side = e.face := by
  cases side <;> rfl

theorem face_put_other (e : Endpoint S N (Joint Y)) :
    (c.put side e).face side.other = (c.face side.other).joinedBy e.face.pair := by
  cases side <;> rfl

private theorem put_endpoint : c.put side (c.endpoint side) = c := by cases side <;> rfl

private theorem face_withPair (pair : MemoryPair) :
    (c.withPair pair).face side = (c.face side).joinedBy pair := by
  cases side <;> rfl

private theorem face_endpoint_withPair (pair : MemoryPair) :
    ((c.withPair pair).endpoint side).face = (c.face side).joinedBy pair :=
  face_withPair c side pair

variable (p : Protocol S (Sided S N Y)) (depth : Nat)

/-- A driver that passes on what it read stops reading if that is over. -/
theorem face_arrive_self (arrival : Arrival) :
    let action := (p.application side).perform depth (.arrive arrival)
    let f := (action.after (c.endpoint side)).face
    (c.arrive p depth side arrival).face side =
      if action.answer (c.endpoint side) then f.joinedBy (f.pair.stopReading side) else f := by
  rw [arrive]
  dsimp only
  split
  · rw [face_withPair, visit, face_put_self]
    cases side <;> rfl
  · exact face_put_self c side _

/-- A driver that passes on a frame stops reading if the session is closed then. -/
theorem face_arrive_frame (frame : WireFrame) :
    (c.arrive p (depth + 1) side (.frame frame)).face side =
      (((p.hostAt side depth).receive frame).after (c.endpoint side)).face.driven side := by
  rw [face_arrive_self]
  exact if_congr decide_eq_true_iff rfl rfl

/-- A driver that passes on the end stops reading. -/
private theorem face_arrive_ended :
    let f := ((p.hostAt side depth).transportClosed.after (c.endpoint side)).face
    (c.arrive p (depth + 1) side .ended).face side = f.joinedBy (f.pair.stopReading side) := by
  rw [face_arrive_self]
  exact if_pos rfl

/-- The other side sees of that at most another pair. -/
theorem face_arrive_other (arrival : Arrival) :
    (c.arrive p depth side arrival).face side.other =
      (c.face side.other).joinedBy ((c.arrive p depth side arrival).face side).pair := by
  rw [arrive]
  split
  · rw [face_withPair, face_withPair, visit, face_put_other]
    rfl
  · rw [visit, face_put_self, face_put_other]

end Faces

/-! ### Steps -/

section Steps

variable {p : Protocol S (Sided S N Y)} {good : Side → Sending S → Prop} (hp : p.Converses good)
  (depth : Nat) {c : Conversation S N Y} {side : Side} {own other : Account S}
  (h : Agreed p good side (c.face side) (c.face side.other) own other)

include h

omit h in
/-- At a side that is not opened, closing changes nothing. -/
private theorem make_close_of_over (hc : 2 ≤ (c.face side).phase.rank) (reason : String) :
    c.make p (depth + 1) (.close side reason) = c := by
  have hsame : ((p.application side).perform (depth + 1) (.close reason)).after
      (c.endpoint side) = c.endpoint side :=
    Host.after_close_of_over (Phase.over_iff.mp hc) reason
  rw [make, visit, hsame, put_endpoint]

include hp

/-- Sending with success keeps the agreement. -/
private theorem agreed_send {call : Sending S} (hc : p.codecs.Returns p.settings call)
    {handle : SendHandle}
    (ho : ((p.application side).sendOne (depth + 2) call).answer (c.endpoint side) = .ok handle) :
    let c' := c.make p (depth + 2) (.send side call)
    Agreed p good side (c'.face side) (c'.face side.other)
      { own with calls := own.calls ++ [call] } other := by
  have hphase : (c.face side).phase = .opened := Protocol.opened_of_sendOne_ok (depth + 1) ho
  have hs : own.stage = .opened := h.here.stands.opened.mp hphase
  obtain ⟨wire, hwire, hface⟩ :=
    Protocol.face_sendOne_of_ok (depth + 1) hp.outbound (h.live hs) ho
  dsimp only
  rw [make, visit, face_put_self, face_put_other, hface]
  exact h.say hp.built.wellFormed hs hwire (List.forall_mem_singleton.mpr hc)

omit h in
/-- An open session that is closed announces that, unless nobody reads it. -/
private theorem exists_announcement {e : Endpoint S N (Joint Y)} (hl : e.face.Live side)
    {reason : String} (hc : (Step.close side reason).Sayable p) :
    ∃ (word : Option String) (wire : List WireFrame),
      p.codecs.Opens (.ofLimit p.settings.maxMessage) wire (word.toList.map p.farewell)
        (.ofLimit p.settings.maxMessage) ∧
      (∀ r, word = some r → r = reason) ∧
      ((e.face.pair.get side.other).reading = true → word = some reason) ∧
      (((p.application side).perform (depth + 1) (.close reason)).after e).face =
        (e.face.say side wire).depart side reason := by
  have hw := hp.built.wellFormed
  obtain ⟨frame, hframe⟩ := Registry.exists_encode_disconnect hw reason
  obtain ⟨hadmits, hshort⟩ := hc frame hframe
  obtain ⟨payloads, hpayloads⟩ := (Registry.exists_payloads_iff hw).mpr hadmits
  obtain hsaid | ⟨hr, hsaid⟩ := Protocol.face_close depth hp.outbound hl hframe hpayloads
  · have hopens := Registry.opens_carries hw p.settings.announcement
      (Registry.carries_of_payloads hpayloads) (Registry.holds_disconnect hw hframe hshort)
    exact ⟨some reason, _, hopens, fun r hr => (Option.some.inj hr).symm, fun _ => rfl, hsaid⟩
  · refine ⟨none, [], .nil, nofun, fun hreading => Bool.noConfusion (hr.symm.trans hreading), ?_⟩
    rw [Face.say_nil]
    exact hsaid

/-- Closing keeps the agreement. -/
private theorem agreed_close {reason : String} (hc : (Step.close side reason).Sayable p) :
    let c' := c.make p (depth + 2) (.close side reason)
    ∃ own', own.Goes (good side) [] (c.closing? p (depth + 2) side [.close side reason]) own' ∧
      Agreed p good side (c'.face side) (c'.face side.other) own' other := by
  by_cases hs : own.stage = .opened
  · have hl := h.live hs
    have hclosing : c.closing? p (depth + 2) side [.close side reason] = some reason :=
      if_pos ⟨rfl, hl.opened⟩
    have hgoes : own.Goes (good side) [] (some reason) { own with stage := .closes reason } :=
      ⟨⟨[], by simp, List.forall_mem_nil _⟩, by simp [hs]⟩
    obtain ⟨word, wire, hopens, hword, hreads, hface⟩ := exists_announcement hp (depth + 1) hl hc
    refine ⟨_, hclosing ▸ hgoes, ?_⟩
    rw [make, visit, face_put_self, face_put_other, hface]
    exact h.close hs hopens hword hreads
  · have hsame := make_close_of_over (p := p) (depth + 1) (h.over_of_not_open hs) reason
    have hclosing : c.closing? p (depth + 2) side [.close side reason] = none :=
      if_neg fun hphase => hs (h.here.stands.opened.mp hphase.2)
    rw [hsame, hclosing]
    exact ⟨own, .refl _ own, h⟩

/-- What an open session makes of a frame keeps the agreement. -/
private theorem agreed_read (hs : own.stage = .opened) {frame : WireFrame} {items : List Item}
    (hi : ((c.face side).pair.get side).items = .frame frame :: items) {pair : MemoryPair}
    (hq : (c.face side).pair.Dequeued side pair) (hrest : (pair.get side).items = items) :
    let c' := (c.withPair pair).arrive p (depth + 2) side (.frame frame)
    ∃ own', own.Goes (good side) [] none own' ∧
      Agreed p good side (c'.face side) (c'.face side.other) own' other := by
  have hw := hp.built.wellFormed
  have hlive := h.live hs
  have hface := face_endpoint_withPair c side pair
  have hl : ((c.withPair pair).endpoint side).face.Live side := by
    rw [hface]
    exact ⟨hlive.opened, hlive.connected, hq.own.hungUp.trans hlive.sending,
      hq.own.reading.trans hlive.reading⟩
  obtain ⟨ds, reassembler, packets, happ, hpackets, hpart, hcases⟩ := h.exists_read hw hs hi
  dsimp only
  rw [face_arrive_other, face_arrive_frame, face_withPair]
  obtain ⟨hread, hgo⟩ | ⟨reason, hread, hcloses, hall⟩ := hcases
  · have hreaction := Protocol.reaction_receive depth hw hp.inbound hp.outbound (hp.sendable side)
      (hp.handlers side) hl happ (by rw [hface]; exact hread)
    rw [← hpackets, hface] at hreaction
    exact h.exists_of_reaction hp hs hq hreaction hpart (hgo pair hq hrest)
  · obtain ⟨f₁, hreaction, hlater⟩ := Protocol.depart_receive depth hw hp.inbound hp.outbound
      (hp.sendable side) (hp.handlers side) hl happ (by rw [hface]; exact hread)
    rw [← hpackets, hface] at hreaction
    exact h.exists_of_reaction_farewell hp hs hq hreaction hcloses hall hlater

omit hp in
/-- A closing session does not look at a frame. -/
private theorem agreed_drop (hs : own.stage ≠ .opened) (hopen : (c.face side).phase ≠ .closed)
    (frame : WireFrame) {pair : MemoryPair} (hq : (c.face side).pair.Dequeued side pair) :
    let c' := (c.withPair pair).arrive p (depth + 1) side (.frame frame)
    Agreed p good side (c'.face side) (c'.face side.other) own other := by
  have hface := face_endpoint_withPair c side pair
  have hphase : ((c.withPair pair).endpoint side).session.phase ≠ .opened := by
    have hsame : ((c.withPair pair).endpoint side).session.phase = (c.face side).phase :=
      congrArg Face.phase hface
    rw [hsame]
    exact mt h.here.stands.opened.mp hs
  dsimp only
  rw [face_arrive_other, face_arrive_frame, face_withPair, Host.after_receive_of_not_open hphase,
    hface, Face.driven_of_not_closed]
  · exact h.drop hs hq
  · exact hopen

omit hp in
/-- A closing session ends at the mark. -/
private theorem agreed_end (hs : own.stage ≠ .opened) (hopen : (c.face side).phase ≠ .closed)
    {pair : MemoryPair} (hown : (pair.get side).hungUp = ((c.face side).pair.get side).hungUp)
    (hother : pair.get side.other = (c.face side).pair.get side.other) :
    let c' := (c.withPair pair).arrive p (depth + 1) side .ended
    Agreed p good side (c'.face side) (c'.face side.other) own other := by
  have hface := face_endpoint_withPair c side pair
  have hclosing : (c.face side).phase = .closing := by
    have hover := h.over_of_not_open hs
    obtain hc | hc := Phase.over_iff.mp hover
    · exact hc
    · exact absurd hc hopen
  have hphase : ((c.withPair pair).endpoint side).session.phase = (c.face side).phase :=
    congrArg Face.phase hface
  have hconnection : ((c.withPair pair).endpoint side).session.connection = some 0 :=
    (congrArg Face.connection hface).trans (h.here.stands.connected hopen)
  have hended := Protocol.face_transportClosed p side depth 0
    (e := (c.withPair pair).endpoint side) (hphase ▸ hopen) hconnection
  dsimp only
  rw [face_arrive_other, face_arrive_ended, face_withPair, hended, hface]
  exact h.conclude hclosing hown hother

/-- Whatever a driver reads next, that keeps the agreement. -/
private theorem agreed_drive :
    let c' := c.make p (depth + 2) (.drive side)
    ∃ own', own.Goes (good side) [] none own' ∧
      Agreed p good side (c'.face side) (c'.face side.other) own' other := by
  have hunchanged : ∃ own', own.Goes (good side) [] none own' ∧
      Agreed p good side (c.face side) (c.face side.other) own' other := ⟨own, .refl _ own, h⟩
  dsimp only
  rw [make, drive]
  split
  case isFalse => exact hunchanged
  case isTrue hreading =>
    have hopen := h.here.stands.reading.mp hreading
    have hended := h.here.stands.unended hopen
    cases hi : ((c.face side).pair.get side).items with
    | nil =>
      rw [show c.joint.pair.next side = _ from MemoryPair.next_of_items_eq_nil hended hi]
      exact hunchanged
    | cons item items =>
      obtain ⟨inbox, hrest, hnext⟩ := MemoryPair.next_of_items_eq_cons hended hi
      rw [show c.joint.pair.next side = _ from hnext]
      by_cases hs : own.stage = .opened
      · cases item with
        | frame frame => exact agreed_read hp depth h hs hi (MemoryPair.dequeued_set inbox) (by
            rw [MemoryPair.get_set_self]
            exact hrest)
        | mark => exact absurd hi (h.items_ne_mark hs)
      · cases item with
        | frame frame => exact ⟨own, .refl _ own,
            agreed_drop (depth + 1) h hs hopen frame (MemoryPair.dequeued_set inbox)⟩
        | mark =>
          refine ⟨own, .refl _ own, agreed_end (depth + 1) h hs hopen ?_ ?_⟩
          · rw [MemoryPair.get_set_self]
          · exact MemoryPair.get_set_other _ side _

/-- Every step keeps the agreement, and the account of the other side. -/
theorem agreed_make (step : Step S) (hsay : step.Sayable p)
    (hsend : c.succeeds p (depth + 2) step) (hside : step.side = side) :
    let c' := c.make p (depth + 2) step
    ∃ own',
      own.Goes (good side) (sendings side [step]) (c.closing? p (depth + 2) side [step]) own' ∧
      Agreed p good side (c'.face side) (c'.face side.other) own' other := by
  subst hside
  cases step with
  | send place call =>
    cases ho : ((p.application place).sendOne (depth + 2) call).answer (c.endpoint place) with
    | error refusal =>
      rw [succeeds, ho] at hsend
      cases hsend
    | ok handle =>
      have hgoes : own.Goes (good place) [call] none { own with calls := own.calls ++ [call] } :=
        ⟨⟨[], (List.append_nil _).symm, List.forall_mem_nil _⟩, by simp⟩
      have hcalls : sendings place [.send place call] = [call] := by simp [sendings]
      refine ⟨_, ?_, agreed_send hp depth h hsay ho⟩
      rw [Step.side, hcalls]
      exact hgoes
  | close place reason => exact agreed_close hp depth h hsay
  | drive place => exact agreed_drive hp depth h

end Steps

end Conversation

end PacketSession
