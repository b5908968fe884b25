import PacketSession.Proofs.Conversation.Run
import PacketSession.Sample.Packets

/-!
# How conversations end

When the drivers of both sessions have stopped reading, the two sides have come to an agreement: if
the callbacks do not call their session, both sessions are closed without a failure, for the reason
that their own side closed them or else for that of the other side, and a side that did not close
heard everything that the other one sent (`Conversation.concluded`).

If handlers answer, that is so of a side that does not close as long as the driver of the other side
still reads when it answers. A driver that reads the mark of its own side stops, and what arrives at
its end is refused from then on, although frames that were sent before are still queued for the
peer. A peer that answers one of these fails, and does not hear the rest. There is no third case
(`Conversation.heardOut_or_cutOff`).
-/

namespace PacketSession

open Memory

variable {S : Schema} {N Y : Type}

namespace Endpoint

/-- A session in a conversation is closed without a failure. `own` and `peer` are the reasons with
which the two sides were closed, `sent` and `received` what was sent at both. -/
structure Concluded (p : Protocol S (Sided S N Y)) (own peer : Option String)
    (sent received : List (Sending S)) (e : Endpoint S N (Joint Y)) : Prop where
  closed : e.session.phase = .closed
  callbacks : e.callbacks = [.opened .opened, .closed .closed]
  announced : ∃ word : Option String, (word = none ∨ word = own) ∧
    p.codecs.Opens (.ofLimit p.settings.maxMessage) e.taken
      (p.codecs.sent sent ++ word.toList.map p.farewell) (.ofLimit p.settings.maxMessage)
  reason : e.session.reason = own.or peer
  known : (own.or peer).isSome
  handled : own = none → e.handled = received.flatMap p.handlings

/-- A session heard everything that its peer sent, and then that it closed. -/
structure HeardOut (p : Protocol S (Sided S N Y)) (reason : String) (received : List (Sending S))
    (e : Endpoint S N (Joint Y)) : Prop where
  closed : e.session.phase = .closed
  callbacks : e.callbacks = [.opened .opened, .closed .closed]
  reason : e.session.reason = some reason
  handled : e.handled = received.flatMap p.handlings

/-- A session failed because its connection refused an answer, and may have heard only a part of
what its peer sent. -/
structure CutOff (p : Protocol S (Sided S N Y)) (received : List (Sending S))
    (e : Endpoint S N (Joint Y)) : Prop where
  closed : e.session.phase = .closed
  callbacks : e.callbacks =
    [.opened .opened, .failed .closed (.transport .connectionClosed), .closed .closed]
  reason : e.session.reason = some "transport error: connection closed"
  handled : e.handled <+: received.flatMap p.handlings

end Endpoint

namespace Agreed

variable {p : Protocol S (Sided S N Y)} {good : Side → Sending S → Prop} {side : Side}
  {f g : Face S N} {own other : Account S}

/-- A session whose driver stopped reading is closed. -/
theorem closed_of_finished (h : Agreed p good side f g own other)
    (hf : (f.pair.get side).reading = false) : f.phase = .closed := by
  by_contra hopen
  rw [h.here.stands.reading.mpr hopen] at hf
  cases hf

/-- A closed session came to that in one of three ways. -/
theorem cases_of_closed (h : Agreed p good side f g own other) (hp : f.phase = .closed) :
    (∃ reason, own.stage = .closes reason) ∨ (∃ reason, own.stage = .hungUp reason) ∨
      own.stage = .broken := by
  cases hs : own.stage with
  | closes reason => exact .inl ⟨reason, rfl⟩
  | hungUp reason => exact .inr (.inl ⟨reason, rfl⟩)
  | broken => exact .inr (.inr rfl)
  | opened =>
    have hopened := h.here.stands.opened.mpr hs
    rw [hp] at hopened
    cases hopened

end Agreed

namespace Conversation

section Ends

variable {p : Protocol S (Sided S N Y)} {good : Side → Sending S → Prop} {depth : Nat}
  {c : Conversation S N Y} {steps : List (Step S)} {accounts : Side → Account S}
  (h : Accounts p depth good c steps accounts) (side : Side)

include h

/-- A side that hung up did not close by itself. -/
theorem Accounts.closing?_eq_none {side : Side}
    (hs : ∀ reason, (accounts side).stage ≠ .closes reason) :
    c.closing? p depth side steps = none := by
  rw [Option.eq_none_iff_forall_ne_some]
  intro reason hclosing
  exact hs reason ((h.closes side reason).mpr hclosing)

/-- The callbacks and the reason of a closed session are those of the stage that it came to. -/
private theorem Accounts.callbacks_reason_of_closed {side : Side} {stage : Stage}
    (hphase : ((c.follow p depth steps).face side).phase = .closed)
    (hs : (accounts side).stage = stage) :
    ((c.follow p depth steps).endpoint side).callbacks = Face.callbacksAt .closed stage ∧
      ((c.follow p depth steps).endpoint side).session.reason = stage.reason := by
  have hstands := (h.agreed side).here.stands
  have hcallbacks := hstands.callbacks
  have hreason := hstands.reason
  rw [hphase, hs] at hcallbacks
  rw [hs] at hreason
  exact ⟨hcallbacks, hreason⟩

/-- A side announced a close once, for its own reason, or never. -/
theorem Accounts.announced :
    ∃ word : Option String, (word = none ∨ word = c.closing? p depth side steps) ∧
      p.codecs.Opens (.ofLimit p.settings.maxMessage)
        ((c.follow p depth steps).endpoint side).taken
        (p.codecs.sent (accounts side).calls ++ word.toList.map p.farewell)
        (.ofLimit p.settings.maxMessage) := by
  obtain ⟨word, hopens, hword, -⟩ := (h.agreed side).here.speaks
  refine ⟨word, ?_, hopens⟩
  cases word with
  | none => exact .inl rfl
  | some reason => exact .inr ((h.closes side reason).mp (hword reason rfl)).symm

/-- A side that hung up heard everything, and the close of the other side. -/
theorem Accounts.heardOut (hphase : ((c.follow p depth steps).face side).phase = .closed)
    {reason : String} (hs : (accounts side).stage = .hungUp reason) :
    c.closing? p depth side steps = none ∧ c.closing? p depth side.other steps = some reason ∧
      ((c.follow p depth steps).endpoint side).HeardOut p reason (accounts side.other).calls := by
  obtain ⟨hcloses, hhandled⟩ := (h.agreed side).here.agreed reason hs
  obtain ⟨hcallbacks, hreason⟩ := h.callbacks_reason_of_closed hphase hs
  rw [p.taking_sent] at hhandled
  refine ⟨h.closing?_eq_none fun r hr => ?_, (h.closes side.other reason).mp hcloses,
    ⟨hphase, hcallbacks, hreason, hhandled⟩⟩
  rw [hs] at hr
  cases hr

end Ends

/-- Once both drivers stopped reading, both sessions are closed without a failure, each for the
reason of its own side or else for that of the other one, and what a side sent was heard if only
this side closed. Nothing but the callbacks of a session that is closed already calls a session. -/
theorem concluded (p : Protocol S (Sided S N Y)) (hb : p.Built)
    (hin : p.pipeline.inbound = .empty) (hout : p.pipeline.outbound = .empty)
    (ho : ∀ side, (p.lifecycle.onOpened.run side).Silent)
    (hh : ∀ side, ∀ entry ∈ p.handlers.entries, ∀ packet delivery,
      ((entry.2.run packet delivery).run side).Silent)
    (depth : Nat) (state : Y) (steps : List (Step S)) (hsay : ∀ step ∈ steps, step.Sayable p)
    (hsend : (start p (depth + 2) state).sendsSucceed p (depth + 2) steps)
    (hf : ∀ side, ((start p (depth + 2) state).follow p (depth + 2) steps).Finished side) :
    let c := start p (depth + 2) state
    ∀ side, ((c.follow p (depth + 2) steps).endpoint side).Concluded p
      (c.closing? p (depth + 2) side steps) (c.closing? p (depth + 2) side.other steps)
      (sendings side steps) (sendings side.other steps) := by
  have hp : p.Converses fun _ _ => False :=
    ⟨hb, hin, hout, fun side => (ho side).answering _,
      fun side entry he packet delivery => (hh side entry he packet delivery).answering _, nofun⟩
  obtain ⟨accounts, h⟩ := exists_accounts hp depth state hsay hsend
  intro c side
  have hphase := (h.agreed side).closed_of_finished (hf side)
  have hsent : ∀ side, (accounts side).calls = sendings side steps :=
    fun side => (h.calls side).eq_of_silent fun _ => id
  have hannounced := h.announced side
  rw [hsent] at hannounced
  obtain ⟨reason, hs⟩ | ⟨reason, hs⟩ | hs := (h.agreed side).cases_of_closed hphase
  -- closed by its own side
  · have hown : c.closing? p (depth + 2) side steps = some reason := (h.closes side reason).mp hs
    obtain ⟨hcallbacks, hreason⟩ := h.callbacks_reason_of_closed hphase hs
    exact {
      closed := hphase
      callbacks := hcallbacks
      announced := hannounced
      reason := by rw [hown]; exact hreason
      known := by rw [hown]; rfl
      handled := by rw [hown]; nofun }
  -- closed by the other side, which was heard out
  · obtain ⟨hown, hpeer, hheard⟩ := h.heardOut side hphase hs
    rw [hsent] at hheard
    exact {
      closed := hphase
      callbacks := hheard.callbacks
      announced := hannounced
      reason := by rw [hown, hpeer]; exact hheard.reason
      known := by rw [hown, hpeer]; rfl
      handled := fun _ => hheard.handled }
  · -- without answers, none is refused
    obtain ⟨-, -, -, call, hnever⟩ := (h.agreed side).here.lost hs
    exact hnever.elim

/-! ### A close that is heard, and one that is not -/

/-- The codec of a kind of packet of the sample application. -/
def written (kind : Sample.Kind) : Codec Sample.plain (.application kind) where
  encode := Sample.encode Unit kind
  decode := Sample.decode Unit kind

/-- A protocol with one kind of packet of the application. -/
def registered (kind : Sample.Kind) : Protocol Sample.plain (Sided Sample.plain Unit Unit) :=
  { Protocol.initial with
    codecs := ⟨Registry.reserved.entries ++ [⟨⟨1⟩, .application kind, written kind⟩]⟩ }

/-- A protocol with one kind of packet of the application, and a handler for it. -/
def handling (kind : Sample.Kind) (run : Delivery → Sided Sample.plain Unit Unit Unit) :
    Protocol Sample.plain (Sided Sample.plain Unit Unit) :=
  { registered kind with handlers := ⟨[(⟨1⟩, ⟨none, fun _ => run⟩)]⟩ }

/-- A call to send a packet that says nothing but that it was sent. -/
def signal (delivery : Delivery) : Sending Sample.plain := .single ⟨.application .unit, ()⟩ delivery

section Handling

variable (kind : Sample.Kind) (run : Delivery → Sided Sample.plain Unit Unit Unit)

private theorem built_handling : (handling kind run).Built := by
  have hr : Protocol.initial.register ⟨1⟩ (written kind) = .ok (registered kind) := rfl
  have hb : (registered kind).bind ⟨1⟩ ⟨none, fun _ => run⟩ = .ok (handling kind run) := rfl
  exact (Protocol.Built.initial.register hr).bind hb

/-- The announcement of a short reason is a short frame. -/
theorem sayable_bye (side : Side) :
    (Step.close side "bye" : Step Sample.plain).Sayable (handling kind run) := by
  have hlength : ((Registry.reserved (S := Sample.plain)).encode
      (.ofDisconnect ⟨"bye"⟩)).toOption.map List.length = some 9 := by decide +kernel
  intro frame hframe
  have hsame : Registry.reserved.encode (.ofDisconnect ⟨"bye"⟩) = .ok frame := hframe
  rw [hsame] at hlength
  have hnine : frame.length = 9 := Option.some.inj hlength
  have hmax : 9 ≤ ({} : Settings).maxMessage := by decide
  exact ⟨.of_length_lt (hnine ▸ hmax) (by omega), by omega⟩

private theorem sendable_signal (delivery : Delivery) :
    (handling .unit run).codecs.Sendable {} (signal delivery) := by
  have hf : (handling .unit run).codecs.Faithful ⟨.application .unit, ()⟩ :=
    ⟨⟨1⟩, _, rfl, rfl, rfl⟩
  refine ⟨⟨List.forall_mem_singleton.mpr hf, nofun⟩, fun frames he => ?_⟩
  cases he
  decide

/-- A handler that does nothing is silent. -/
theorem silent_handling : ∀ side, ∀ entry ∈ (handling kind fun _ => pure ()).handlers.entries,
    ∀ packet delivery, ((entry.2.run packet delivery).run side).Silent := by
  intro side entry he packet delivery
  rw [List.mem_singleton.mp he]
  exact .done ()

end Handling

/-- A protocol with signals that nobody answers. -/
def hushed : Protocol Sample.plain (Sided Sample.plain Unit Unit) := handling .unit fun _ => pure ()

/-- A signal and a close, and both drivers read all that is there for them. -/
def leaving : List (Step Sample.plain) :=
  [.send .left (signal {}), .close .left "bye", .drive .right, .drive .right, .drive .left,
    .drive .right]

private theorem sayable_leaving : ∀ step ∈ leaving, step.Sayable hushed := by
  intro step hstep
  simp only [leaving, List.mem_cons, List.not_mem_nil, or_false] at hstep
  obtain rfl | rfl | rfl | rfl | rfl | rfl := hstep
  · exact (sendable_signal _ {}).toReturns
  · exact sayable_bye _ _ .left
  all_goals exact trivial

/-- The signal is heard, and both sessions know why they are closed. -/
theorem concluded_leaving :
    let c := start hushed 2 ()
    c.sendsSucceed hushed 2 leaving ∧ (∀ side, (c.follow hushed 2 leaving).Finished side) ∧
      (∀ side, ((c.follow hushed 2 leaving).endpoint side).session.reason = some "bye") ∧
      ((c.follow hushed 2 leaving).endpoint .right).handled =
        [(⟨1⟩, ⟨.application .unit, ()⟩, {})] := by
  intro c
  have hsend : c.sendsSucceed hushed 2 leaving := by decide +kernel
  have hf : ∀ side, (c.follow hushed 2 leaving).Finished side
    | .left => by decide +kernel
    | .right => by decide +kernel
  have hleft : c.closing? hushed 2 .left leaving = some "bye" := by decide +kernel
  have hright : c.closing? hushed 2 .right leaving = none := by decide +kernel
  have h := concluded hushed (built_handling _ _) rfl rfl (fun _ => .done ()) (silent_handling _) 0
    () leaving sayable_leaving hsend hf
  have hreasons : ∀ side, (c.closing? hushed 2 side leaving).or
      (c.closing? hushed 2 side.other leaving) = some "bye" := by
    intro side
    cases side with
    | left => rw [hleft, Option.some_or]
    | right => rw [hright, Option.none_or, Side.other, hleft]
  exact ⟨hsend, hf, fun side => (h side).reason.trans (hreasons side), (h .right).handled hright⟩

/-- A protocol with a packet whose codec does not read all that it wrote. -/
def careless : Protocol Sample.plain (Sided Sample.plain Unit Unit) :=
  handling .short fun _ => pure ()

/-- A call to send a packet that does not come back from its frame. -/
def mumble : Sending Sample.plain :=
  .single ⟨.application .short, (5 : UInt16)⟩ {}

/-- Such a packet and a close, and both drivers read all that is there for them. -/
def mumbling : List (Step Sample.plain) :=
  [.send .left mumble, .close .left "bye", .drive .right, .drive .left]

/-- If a packet does not come back from its frame, its receiver fails before it hears of the
close. -/
theorem not_concluded_mumbling :
    let c := start careless 2 ()
    careless.Built ∧ careless.pipeline.inbound = .empty ∧ careless.pipeline.outbound = .empty ∧
      (∀ side, (careless.lifecycle.onOpened.run side).Silent) ∧
      (∀ side, ∀ entry ∈ careless.handlers.entries, ∀ packet delivery,
        ((entry.2.run packet delivery).run side).Silent) ∧
      (∀ side reason, .close side reason ∈ mumbling →
        (Step.close side reason : Step Sample.plain).Sayable careless) ∧
      c.sendsSucceed careless 2 mumbling ∧
      (∀ side, (c.follow careless 2 mumbling).Finished side) ∧
      c.closing? careless 2 .left mumbling = some "bye" ∧
      c.closing? careless 2 .right mumbling = none ∧
      ¬ ((c.follow careless 2 mumbling).endpoint .right).Concluded careless none (some "bye") []
        [mumble] := by
  intro c
  refine ⟨built_handling _ _, rfl, rfl, fun _ => .done (), silent_handling _, ?_, by decide +kernel,
    ?_, by decide +kernel, by decide +kernel, fun h => ?_⟩
  · intro side reason hstep
    simp only [mumbling, List.mem_cons, List.not_mem_nil, or_false] at hstep
    obtain hstep | hstep | hstep | hstep := hstep <;> cases hstep
    exact sayable_bye _ _ .left
  · exact fun
      | .left => by decide +kernel
      | .right => by decide +kernel
  · have hthree : ((c.follow careless 2 mumbling).endpoint .right).callbacks.length = 3 := by
      decide +kernel
    rw [h.callbacks] at hthree
    cases hthree

/-! ### A peer that answers -/

/-- Once the driver of a side that was never closed by itself stopped reading, the other side was
closed. What that side sent is what was sent there with answers of its handlers in between. Either
all of it was heard, and the close, without a failure; or an answer was refused because the driver
of the side that closed had stopped reading before. -/
theorem heardOut_or_cutOff (p : Protocol S (Sided S N Y)) (good : Side → Sending S → Prop)
    (hp : p.Converses good) (depth : Nat) (state : Y) (steps : List (Step S))
    (hsay : ∀ step ∈ steps, step.Sayable p)
    (hsend : (start p (depth + 2) state).sendsSucceed p (depth + 2) steps) (side : Side)
    (hc : ∀ reason, .close side reason ∉ steps)
    (hf : ((start p (depth + 2) state).follow p (depth + 2) steps).Finished side) :
    let c := start p (depth + 2) state
    ∃ reason received, c.closing? p (depth + 2) side.other steps = some reason ∧
      Answered (good side.other) (sendings side.other steps) received ∧
      (((c.follow p (depth + 2) steps).endpoint side).HeardOut p reason received ∨
        ((c.follow p (depth + 2) steps).endpoint side).CutOff p received ∧
          (c.follow p (depth + 2) steps).Finished side.other ∧ ∃ answer, good side answer) := by
  obtain ⟨accounts, h⟩ := exists_accounts hp depth state hsay hsend
  intro c
  have hphase := (h.agreed side).closed_of_finished hf
  obtain ⟨reason, hs⟩ | ⟨reason, hs⟩ | hs := (h.agreed side).cases_of_closed hphase
  -- its own side never closes it
  · have hclosing := (h.closes side reason).mp hs
    rw [closing?_eq_none hc] at hclosing
    cases hclosing
  · obtain ⟨-, hpeer, hheard⟩ := h.heardOut side hphase hs
    exact ⟨reason, _, hpeer, h.calls side.other, .inl hheard⟩
  -- an answer was refused, by a peer that closed and reads no more
  · obtain ⟨⟨reason, hcloses⟩, hreading, hheard, hanswer⟩ := (h.agreed side).here.lost hs
    obtain ⟨hcallbacks, hreason⟩ := h.callbacks_reason_of_closed hphase hs
    rw [p.taking_sent] at hheard
    exact ⟨reason, _, (h.closes side.other reason).mp hcloses, h.calls side.other,
      .inr ⟨⟨hphase, hcallbacks, hreason, hheard⟩, hreading, hanswer⟩⟩

/-- A protocol with signals, where the right side answers each one with another one. -/
def echoing : Protocol Sample.plain (Sided Sample.plain Unit Unit) :=
  handling .unit fun delivery side =>
    match side with
    | .left => pure ()
    | .right => .ask (.send ⟨.application .unit, ()⟩ delivery) fun _ => .done ()

/-- What is answered there. -/
def Echo (side : Side) (call : Sending Sample.plain) : Prop :=
  side = .right ∧ ∃ delivery, call = signal delivery

private theorem converses_echoing : echoing.Converses Echo where
  built := built_handling _ _
  inbound := rfl
  outbound := rfl
  onOpened _ := .done ()
  handlers side entry he packet delivery := by
    rw [List.mem_singleton.mp he]
    cases side with
    | left => exact .done ()
    | right => exact .send ⟨rfl, delivery, rfl⟩ fun _ => .done ()
  sendable side call h := by
    obtain ⟨-, delivery, rfl⟩ := h
    exact sendable_signal _ _

/-- Two signals and a close, and the right driver reads all that is there for it. -/
def patient : List (Step Sample.plain) :=
  [.send .left (signal {}), .send .left (signal {}), .close .left "bye", .drive .right,
    .drive .right, .drive .right, .drive .right]

private theorem sayable_patient : ∀ step ∈ patient, step.Sayable echoing := by
  intro step hstep
  simp only [patient, List.mem_cons, List.not_mem_nil, or_false] at hstep
  obtain rfl | rfl | rfl | rfl | rfl | rfl | rfl := hstep
  · exact (sendable_signal _ {}).toReturns
  · exact (sendable_signal _ {}).toReturns
  · exact sayable_bye _ _ .left
  all_goals exact trivial

/-- As long as the left driver does not stop reading, both signals are heard, and the close. -/
theorem heardOut_or_cutOff_patient :
    let c := start echoing 2 ()
    c.sendsSucceed echoing 2 patient ∧ (c.follow echoing 2 patient).Finished .right ∧
      ((c.follow echoing 2 patient).endpoint .right).HeardOut echoing "bye"
        [signal {}, signal {}] := by
  intro c
  have hsend : c.sendsSucceed echoing 2 patient := by decide +kernel
  have hf : (c.follow echoing 2 patient).Finished .right := by decide +kernel
  have hc : ∀ reason, .close .right reason ∉ patient := by simp [patient]
  obtain ⟨reason, received, hclosing, hanswered, hheard | ⟨-, hleft, -⟩⟩ :=
    heardOut_or_cutOff echoing Echo converses_echoing 0 () patient sayable_patient hsend .right hc
      hf
  · have hbye : c.closing? echoing 2 .left patient = some "bye" := by decide +kernel
    have hreason : reason = "bye" := Option.some.inj (hclosing.symm.trans hbye)
    have hreceived : received = [signal {}, signal {}] :=
      hanswered.eq_of_silent fun _ h => Side.noConfusion h.1
    rw [hreason, hreceived] at hheard
    exact ⟨hsend, hf, hheard⟩
  · have hreading : ¬ (c.follow echoing 2 patient).Finished .left := by decide +kernel
    exact absurd hleft hreading

/-- The left driver reads before the right one does, and stops. -/
def hasty : List (Step Sample.plain) :=
  [.send .left (signal {}), .send .left (signal {}), .close .left "bye", .drive .left,
    .drive .right]

/-- The answer to the first signal is refused, and the second one is never heard. -/
theorem not_heardOut_hasty :
    let c := start echoing 2 ()
    echoing.Converses Echo ∧ (∀ step ∈ hasty, step.Sayable echoing) ∧
      c.sendsSucceed echoing 2 hasty ∧ (∀ reason, .close .right reason ∉ hasty) ∧
      (c.follow echoing 2 hasty).Finished .right ∧
      c.closing? echoing 2 .left hasty = some "bye" ∧
      ¬ ((c.follow echoing 2 hasty).endpoint .right).HeardOut echoing "bye"
        [signal {}, signal {}] := by
  intro c
  refine ⟨converses_echoing, fun step hstep => ?_, by decide +kernel, by simp [hasty],
    by decide +kernel, by decide +kernel, fun h => ?_⟩
  · simp only [hasty, List.mem_cons, List.not_mem_nil, or_false] at hstep
    obtain rfl | rfl | rfl | rfl | rfl := hstep
    · exact (sendable_signal _ {}).toReturns
    · exact (sendable_signal _ {}).toReturns
    · exact sayable_bye _ _ .left
    all_goals exact trivial
  · have hone : ((c.follow echoing 2 hasty).endpoint .right).handled.length = 1 := by decide +kernel
    rw [h.handled] at hone
    cases hone

end Conversation

end PacketSession
