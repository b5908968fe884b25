import PacketSession.Proofs.Conversation.Stepping

/-!
# Runs of a conversation

A run is a list of steps, taken from the start. It comes with the accounts of both sides
(`Conversation.exists_accounts`), which agree with the two sessions: what a side said is what was
sent there, with answers of its handlers in between (`Answered`), and whether it closed, and why, is
what `Conversation.closing?` computes. So whatever holds at the end of a run is read off the
agreement.
-/

namespace PacketSession

open Memory

variable {S : Schema} {N Y : Type}

/-- The face of a session that was just opened. -/
def Face.opened (settings : Settings) (pair : MemoryPair) : Face S N where
  phase := .opened
  connection := some 0
  reason := none
  reassembler := .ofLimit settings.maxMessage
  taken := []
  handled := []
  callbacks := [.opened .opened]
  pair := pair

namespace Conversation

/-! ### Steps one after the other -/

section Runs

variable (p : Protocol S (Sided S N Y)) (depth : Nat) (c : Conversation S N Y)

private theorem follow_concat (steps : List (Step S)) (step : Step S) :
    c.follow p depth (steps ++ [step]) = (c.follow p depth steps).make p depth step := by
  rw [follow, List.foldl_append]
  rfl

private theorem closing?_concat (side : Side) (steps : List (Step S)) (step : Step S) :
    c.closing? p depth side (steps ++ [step]) =
      (c.closing? p depth side steps).or
        ((c.follow p depth steps).closing? p depth side [step]) := by
  induction steps generalizing c with
  | nil => rfl
  | cons first steps ih =>
    have hrest := ih (c.make p depth first)
    cases first with
    | close place reason =>
      rw [List.cons_append, closing?, closing?]
      split
      · rfl
      · exact hrest
    | send place call => exact hrest
    | drive place => exact hrest

variable {p depth c}

private theorem eq_close_of_closing? {side : Side} {step : Step S} {reason : String}
    (h : c.closing? p depth side [step] = some reason) :
    step = .close side reason ∧ (c.face side).phase = .opened := by
  cases step with
  | send place call => cases h
  | drive place => cases h
  | close place r =>
    rw [closing?] at h
    split at h
    next hopen =>
      obtain ⟨rfl, hphase⟩ := hopen
      cases h
      exact ⟨rfl, hphase⟩
    next => cases h

/-- Where nobody calls to close the session, it is never closed by its own side. -/
theorem closing?_eq_none {side : Side} {steps : List (Step S)}
    (h : ∀ reason, .close side reason ∉ steps) : c.closing? p depth side steps = none := by
  induction steps using List.reverseRecOn with
  | nil => rfl
  | append_singleton steps step ih =>
    have hbefore := ih fun reason hr => h reason (List.mem_append_left _ hr)
    rw [closing?_concat, hbefore, Option.none_or, Option.eq_none_iff_forall_ne_some]
    intro reason hclosing
    obtain ⟨rfl, -⟩ := eq_close_of_closing? hclosing
    exact h reason (List.mem_append_right _ (List.mem_singleton_self _))

private theorem sendings_singleton_of_ne {side : Side} {step : Step S} (h : step.side ≠ side) :
    sendings side [step] = [] := by
  cases step with
  | send place call => exact List.filterMap_cons_none (if_neg h)
  | close place reason => rfl
  | drive place => rfl

private theorem sendsSucceed_concat (steps : List (Step S)) (step : Step S) :
    c.sendsSucceed p depth (steps ++ [step]) =
      (c.sendsSucceed p depth steps && (c.follow p depth steps).succeeds p depth step) := by
  induction steps generalizing c with
  | nil => exact Bool.and_true _
  | cons first steps ih =>
    rw [List.cons_append, sendsSucceed, ih, sendsSucceed, Bool.and_assoc]
    rfl

end Runs

end Conversation

/-! ### Accounts of a run -/

/-- Calls to send with answers in between. -/
inductive Answered (good : Sending S → Prop) : List (Sending S) → List (Sending S) → Prop
  | nil : Answered good [] []
  | calls {calls all : List (Sending S)} (more : List (Sending S)) : Answered good calls all →
      Answered good (calls ++ more) (all ++ more)
  | answers {calls all answers : List (Sending S)} : Answered good calls all →
      (∀ answer ∈ answers, good answer) → Answered good calls (all ++ answers)

namespace Answered

variable {good : Sending S → Prop} {calls all : List (Sending S)}

/-- Where there are no answers, there is nothing in between. -/
theorem eq_of_silent (h : Answered good calls all) (hn : ∀ call, ¬ good call) : all = calls := by
  induction h with
  | nil => rfl
  | calls more _ ih => rw [ih]
  | @answers _ _ answers _ hgood ih =>
    have hnone : answers = [] :=
      List.eq_nil_iff_forall_not_mem.mpr fun answer ha => hn answer (hgood answer ha)
    rw [hnone, List.append_nil, ih]

private theorem goes {own own' : Account S} {more : List (Sending S)} {closing : Option String}
    (h : Answered good calls own.calls) (hg : own.Goes good more closing own') :
    Answered good (calls ++ more) own'.calls := by
  obtain ⟨answers, hcalls, hgood⟩ := hg.calls
  rw [hcalls]
  exact (h.calls more).answers hgood

end Answered

namespace Conversation

/-- What both sides of a conversation did in a run. -/
structure Accounts (p : Protocol S (Sided S N Y)) (depth : Nat) (good : Side → Sending S → Prop)
    (c : Conversation S N Y) (steps : List (Step S)) (accounts : Side → Account S) : Prop where
  agreed : ∀ side, Agreed p good side ((c.follow p depth steps).face side)
    ((c.follow p depth steps).face side.other) (accounts side) (accounts side.other)
  calls : ∀ side, Answered (good side) (sendings side steps) (accounts side).calls
  closes : ∀ side reason,
    (accounts side).stage = .closes reason ↔ c.closing? p depth side steps = some reason

section Accounts

variable {p : Protocol S (Sided S N Y)} {good : Side → Sending S → Prop} (hp : p.Converses good)
  (depth : Nat) {c : Conversation S N Y}

include hp

/-- One more step goes on with the accounts. -/
theorem Accounts.concat {steps : List (Step S)} {accounts : Side → Account S}
    (h : Accounts p (depth + 2) good c steps accounts) {step : Step S} (hsay : step.Sayable p)
    (hsend : (c.follow p (depth + 2) steps).succeeds p (depth + 2) step) :
    ∃ accounts', Accounts p (depth + 2) good c (steps ++ [step]) accounts' := by
  obtain ⟨own, hgoes, hagreed⟩ := agreed_make hp depth (h.agreed step.side) step hsay hsend rfl
  have hother : step.side.other ≠ step.side := Side.other_ne step.side
  have hclosing : ∀ side reason, c.closing? p (depth + 2) side (steps ++ [step]) = some reason ↔
      c.closing? p (depth + 2) side steps = some reason ∨
        (c.follow p (depth + 2) steps).closing? p (depth + 2) side [step] = some reason := by
    intro side reason
    rw [closing?_concat, Option.or_eq_some_iff]
    refine or_congr_right ⟨And.right, fun hnow => ⟨?_, hnow⟩⟩
    -- a side that closes now is open, so it did not close before
    rw [Option.eq_none_iff_forall_ne_some]
    intro before hbefore
    obtain ⟨-, hphase⟩ := eq_close_of_closing? hnow
    have hopened := (h.agreed side).here.stands.opened.mp hphase
    rw [(h.closes side before).mpr hbefore] at hopened
    cases hopened
  refine ⟨Function.update accounts step.side own, ?_, fun side => ?_, fun side reason => ?_⟩
  · rw [follow_concat]
    intro side
    obtain rfl | rfl := Side.eq_or_eq_other step.side side
    · rw [Function.update_self, Function.update_of_ne hother]
      exact hagreed
    · rw [Function.update_of_ne hother, Side.other_other, Function.update_self]
      exact Side.other_other step.side ▸ hagreed.symm
  · rw [sendings, List.filterMap_append]
    obtain rfl | rfl := Side.eq_or_eq_other step.side side
    · rw [Function.update_self]
      exact (h.calls step.side).goes hgoes
    · rw [Function.update_of_ne hother]
      have hnone := sendings_singleton_of_ne hother.symm
      rw [sendings] at hnone
      rw [hnone, List.append_nil]
      exact h.calls step.side.other
  · rw [hclosing]
    obtain rfl | rfl := Side.eq_or_eq_other step.side side
    · rw [Function.update_self, ← h.closes]
      exact hgoes.closes reason
    · rw [Function.update_of_ne hother, ← h.closes]
      refine (or_iff_left fun hnow => ?_).symm
      obtain ⟨hstep, -⟩ := eq_close_of_closing? hnow
      exact hother.symm (congrArg Step.side hstep)

/-- A session that is opened may answer that, if somebody reads at the other end. -/
theorem exists_face_openWith (side : Side) {e : Endpoint S N (Joint Y)}
    (hs : e.session = .fresh p.settings) (hj : e.journal = [])
    (hsending : (e.outside.pair.get side).hungUp = false)
    (hreading : ∀ side, (e.outside.pair.get side).reading = true) :
    ∃ calls wire, (∀ call ∈ calls, good side call) ∧ p.codecs.CarriesCalls p.settings calls wire ∧
      (((p.application side).perform (depth + 2) (.openWith 0)).after e).face =
        (Face.opened p.settings e.outside.pair).say side wire := by
  let e₁ := e.turn .opens fun s => { s with connection := some 0, address := none }
  let e₂ := e₁.record (.opened .opened)
  have hafter : ((p.application side).perform (depth + 2) (.openWith 0)).after e =
      (((p.lifecycle.onOpened.run side).joined).run
        ((p.application side).perform (depth + 1))).after e₂ := by
    change ((p.hostAt side (depth + 1)).openWith 0).after e = _
    rw [Host.openWith, SessionM.after_bind, SessionM.answer_current, SessionM.after_current, hs]
    rfl
  have hface : e₂.face = Face.opened p.settings e.outside.pair := by
    rw [Endpoint.face_record_callback _ rfl, Endpoint.face_turn]
    simp [Face.opened, Endpoint.face, Endpoint.taken, Endpoint.handled, Endpoint.callbacks,
      callbacksIn, Session.fresh, Turn.phase, hs, hj]
  have hl : e₂.face.Live side := by
    rw [hface]
    exact ⟨rfl, rfl, hsending, hreading side⟩
  have hreaction := Protocol.reaction_run depth hp.built.wellFormed hp.outbound (hp.sendable side)
    (hp.onOpened side) hl
  rw [← hafter, hface] at hreaction
  generalize (((p.application side).perform (depth + 2) (.openWith 0)).after e).face = f
    at hreaction ⊢
  cases hreaction with
  | @stays calls wire hgood hwire => exact ⟨calls, wire, hgood, hwire, rfl⟩
  -- an answer is refused only if nobody reads
  | breaks _ _ _ _ hr => cases hr.symm.trans (hreading side.other)

omit hp in
/-- Two sessions that were just opened agree. -/
private theorem agreed_opened :
    Agreed p good .left (Face.opened p.settings .fresh) (Face.opened p.settings .fresh)
      ⟨.opened, []⟩ ⟨.opened, []⟩ := by
  have hbond : ∀ side, Bond p (good side) side (Face.opened p.settings .fresh)
      (Face.opened p.settings .fresh) ⟨.opened, []⟩ ⟨.opened, []⟩ := by
    intro side
    have hfresh : MemoryPair.fresh.get side = .fresh := by cases side <;> rfl
    have hfresh' : (Face.opened (S := S) (N := N) p.settings .fresh).pair.get side = .fresh :=
      hfresh
    exact {
      stands := {
        reason := rfl
        opened := iff_of_true rfl rfl
        closed := nofun
        started := Phase.noConfusion
        sending := iff_of_true (by rw [hfresh']; rfl) rfl
        reading := iff_of_true (by rw [hfresh']; rfl) Phase.noConfusion
        connected := fun _ => rfl
        unended := fun _ => by rw [hfresh']; rfl
        callbacks := rfl }
      returns := List.forall_mem_nil _
      speaks := .of_unannounced .nil nofun
      listens := fun _ =>
        ⟨⟨[], [], [], rfl, by rw [hfresh']; rfl, .nil, List.prefix_refl [], rfl⟩, .inl rfl⟩
      agreed := nofun
      lost := nofun }
  exact ⟨hbond .left, hbond .right, rfl⟩

/-- Both sides of a conversation start with an account of what they answered to being opened. -/
private theorem exists_accounts_start (state : Y) :
    ∃ accounts, Accounts p (depth + 2) good (start p (depth + 2) state) [] accounts := by
  have hw := hp.built.wellFormed
  let fresh : Conversation S N Y :=
    ⟨⟨.fresh p.settings, []⟩, ⟨.fresh p.settings, []⟩, ⟨.fresh, state⟩⟩
  let first := fresh.visit .left ((p.application .left).perform (depth + 2) (.openWith 0))
  have hstart : start p (depth + 2) state =
      first.visit .right ((p.application .right).perform (depth + 2) (.openWith 0)) := rfl
  -- the left session is opened first, and its answers are queued for the right one
  obtain ⟨calls, wire, hgood, hwire, hface⟩ := exists_face_openWith hp depth .left
    (e := fresh.endpoint .left) rfl rfl rfl fun side => by cases side <;> rfl
  have hpair : (first.endpoint .right).outside.pair = MemoryPair.fresh.pass .left wire :=
    congrArg Face.pair hface
  have halike : Memory.End.fresh.Alike ((MemoryPair.fresh.pass .left wire).get .right) :=
    MemoryPair.fresh.alike_pass_other .left wire
  obtain ⟨calls', wire', hgood', hwire', hface'⟩ := exists_face_openWith hp depth .right
    (e := first.endpoint .right) rfl rfl (by rw [hpair]; exact halike.hungUp) fun side => by
      rw [hpair]
      cases side with
      | left => rfl
      | right => exact halike.reading
  have hopened : Agreed p good .left _ _ _ _ := agreed_opened
  have hleft := hopened.say hw rfl hwire (hp.returns hgood)
  have hright := hleft.symm.say hw rfl hwire' (hp.returns hgood')
  have hfaces : Agreed p good .right ((start p (depth + 2) state).face .right)
      ((start p (depth + 2) state).face .left) ⟨.opened, calls'⟩ ⟨.opened, calls⟩ := by
    rw [hstart, visit, face_put_self, hface', hpair]
    change Agreed p good .right _ ((first.put .right _).face (Side.other .right)) _ _
    rw [face_put_other, hface', hpair, show first.face (Side.other .right) = _ from hface]
    exact hright
  refine ⟨fun side => ⟨.opened, if side = .left then calls else calls'⟩, fun side => ?_,
    fun side => ?_, fun side reason => ?_⟩
  · cases side with
    | left => exact hfaces.symm
    | right => exact hfaces
  · cases side with
    | left => exact .answers .nil hgood
    | right => exact .answers .nil hgood'
  · cases side <;> exact iff_of_false (fun h => by cases h) (fun h => by cases h)

/-- Every run of a conversation comes with the accounts of both sides. -/
theorem exists_accounts (state : Y) {steps : List (Step S)} (hsay : ∀ step ∈ steps, step.Sayable p)
    (hsend : (start p (depth + 2) state).sendsSucceed p (depth + 2) steps) :
    ∃ accounts, Accounts p (depth + 2) good (start p (depth + 2) state) steps accounts := by
  induction steps using List.reverseRecOn with
  | nil => exact exists_accounts_start hp depth state
  | append_singleton steps step ih =>
    rw [sendsSucceed_concat, Bool.and_eq_true] at hsend
    obtain ⟨hbefore, hnow⟩ := hsend
    obtain ⟨hsteps, hstep⟩ := List.forall_mem_append.mp hsay
    obtain ⟨accounts, h⟩ := ih hsteps hbefore
    exact h.concat hp depth (hstep step (List.mem_singleton_self step)) hnow

end Accounts

end Conversation

end PacketSession
