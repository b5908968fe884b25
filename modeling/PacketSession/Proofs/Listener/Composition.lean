import PacketSession.Listener.Pipeline

/-!
# Listeners one behind the other

A chain does what its listeners do one after the other (`Pipeline.compositional`). On the way out
that is not how it is done: all messages that reach a stage pass through it before the next stage
starts. So of several failures another one may be reported than if every message went its way
alone, but whether there is one, and otherwise what comes out, is the same
(`Pipeline.sendThrough_eq_ok_iff`). On the way in there is one message at a time, and listeners
behind others are what stands at the end of these (`Pipeline.receive_append`), whatever effects
listeners have; which of them are called is told by `Pipeline.Passage`.

What comes out is collected in place (`Pipeline.collect`): each stage has a collector of its own,
into which a stage that fails may have put something already, and only what comes out of the last
one reaches the collector of the caller (`Pipeline.run_collect`).
-/

namespace PacketSession

variable {S : Schema} {m : Type → Type} [Monad m]

/-! ### Writing things down in place -/

/-- An action that may fail and writes to the end of a list in place; a failure leaves what was
written before. -/
abbrev ListingM (α : Type) (m : Type → Type) := ExceptT ProtocolError (StateT (List α) m)

namespace ListingM

variable {α β : Type}

/-- An action that writes nothing. -/
def lift (action : ExceptT ProtocolError m β) : ListingM α m β :=
  ExceptT.mk (StateT.lift action.run)

/-- Writes some items. -/
def put (items : List α) : ListingM α m Unit := modify (· ++ items)

end ListingM

namespace Pipeline

/-- Runs a stage on one message after the other; what it passes on goes into the collector. -/
def collectStage (delivery : Delivery) (stage : OutboundListener S m) :
    List (Message S) → ListingM (Message S) m Unit
  | [] => return
  | message :: messages => do
    ListingM.put (← ListingM.lift (stage delivery message))
    collectStage delivery stage messages

/-- Runs stages one after the other, each with a collector of its own. -/
def collectThrough (delivery : Delivery) :
    List (OutboundListener S m) → List (Message S) → ExceptT ProtocolError m (List (Message S))
  | [], messages => return messages
  | stage :: stages, messages => do
    let (result, next) ← ExceptT.lift ((collectStage delivery stage messages).run.run [])
    match result with
    | .ok () => collectThrough delivery stages next
    | .error cause => throw cause

/-- Passes a message to be sent through the outbound chain; what reaches the end goes into the
collector of the caller. -/
def collect (p : Pipeline S m) (delivery : Delivery) (message : Message S) :
    ListingM (Message S) m Unit := do
  if p.outbound.isEmpty then
    ListingM.put [message]
  else
    ListingM.put (← ListingM.lift (collectThrough delivery p.outbound.listeners [message]))

end Pipeline

section Lawful

variable [LawfulMonad m]

namespace ListingM

variable {α β : Type} (items : List α)

/-- An action that collects nothing leaves what was collected to the one behind it. -/
theorem run_lift_bind (action : ExceptT ProtocolError m β) (f : β → ListingM α m Unit) :
    (lift action >>= f).run.run items = action.run >>= fun
      | .ok b => (f b).run.run items
      | .error cause => pure (.error cause, items) := by
  rw [ExceptT.run_bind, StateT.run_bind]
  simp only [lift, ExceptT.run_mk, StateT.run_lift, bind_assoc, pure_bind]
  refine bind_congr fun result => ?_
  cases result <;> rfl

private theorem run_put (more : List α) :
    (put more : ListingM α m Unit).run.run items = pure (.ok (), items ++ more) := by
  change (Except.ok <$> (modify (· ++ more) : StateT (List α) m Unit)).run items = _
  rw [StateT.run_map, StateT.run_modify, map_pure]

private theorem run_put_bind (more : List α) (f : Unit → ListingM α m β) :
    (put more >>= f).run.run items = (f ()).run.run (items ++ more) := by
  rw [ExceptT.run_bind, StateT.run_bind, run_put, pure_bind]

end ListingM

namespace Pipeline

/-- What a collector is worth after an action: nothing if it failed. -/
def kept {α : Type} : Except ProtocolError Unit × List α → Except ProtocolError (List α)
  | (.ok (), items) => .ok items
  | (.error cause, _) => .error cause

/-- What a stage passes on is what it puts into a collector, unless it fails on the way. -/
private theorem map_run_collectStage (delivery : Delivery) (stage : OutboundListener S m)
    (messages next : List (Message S)) :
    kept <$> (collectStage delivery stage messages).run.run next =
      Except.map (next ++ ·) <$> (runStage delivery stage messages).run := by
  induction messages generalizing next with
  | nil => simp [collectStage, runStage, kept, Except.map]
  | cons message messages ih =>
    rw [collectStage, ListingM.run_lift_bind, runStage, ExceptT.run_bind, map_bind, map_bind]
    refine bind_congr fun passed => ?_
    cases passed with
    | error cause => simp [kept, Except.map]
    | ok passed =>
      dsimp only
      rw [ListingM.run_put_bind, ih, ExceptT.run_bind, map_bind, map_eq_pure_bind]
      refine bind_congr fun later => ?_
      cases later <;> simp [Except.map]

/-- Collecting stage by stage is passing messages through the stages. -/
private theorem collectThrough_eq (delivery : Delivery) (stages : List (OutboundListener S m))
    (messages : List (Message S)) :
    collectThrough delivery stages messages = sendThrough delivery stages messages := by
  induction stages generalizing messages with
  | nil => rfl
  | cons stage stages ih =>
    have hstage := map_run_collectStage delivery stage messages []
    have hnil (r : Except ProtocolError (List (Message S))) : r.map ([] ++ ·) = r := by
      cases r <;> rfl
    rw [funext hnil, id_map'] at hstage
    rw [collectThrough, sendThrough, ← funext ih]
    refine ExceptT.ext ?_
    rw [ExceptT.run_bind, ExceptT.run_bind, ← hstage, ExceptT.run_lift, bind_map_left,
      bind_map_left]
    refine bind_congr fun result => ?_
    obtain ⟨result, next⟩ := result
    cases result <;> rfl

/-- A collector that is changed in place gets what a message becomes, and nothing if that fails. -/
theorem run_collect (p : Pipeline S m) (delivery : Delivery) (message : Message S)
    (collected : List (Message S)) :
    (p.collect delivery message).run.run collected =
      (p.send delivery message collected).run >>= fun
        | .ok all => pure (.ok (), all)
        | .error cause => pure (.error cause, collected) := by
  rw [collect, send, collectThrough_eq, ExceptT.run_bind, bind_assoc]
  split
  next hempty =>
    have hnone : p.outbound.listeners = [] := by
      rw [Chain.listeners, List.map_eq_nil_iff]
      exact List.isEmpty_iff.mp hempty
    rw [hnone, ListingM.run_put]
    simp [sendThrough]
  next =>
    rw [ListingM.run_lift_bind]
    refine bind_congr fun reached => ?_
    cases reached with
    | error cause => simp
    | ok reached => simp [ListingM.run_put]

/-! ### Stages one behind the other -/

/-- Going out through two parts of a chain is going out through the first and then, with all
messages, through the second. -/
theorem sendThrough_append (delivery : Delivery)
    (stages later : List (OutboundListener S m)) (messages : List (Message S)) :
    sendThrough delivery (stages ++ later) messages =
      sendThrough delivery stages messages >>= sendThrough delivery later := by
  induction stages generalizing messages with
  | nil => rw [List.nil_append, sendThrough, pure_bind]
  | cons stage stages ih =>
    rw [List.cons_append, sendThrough, sendThrough, bind_assoc]
    exact bind_congr fun passed => ih passed

/-- A stage takes messages one by one, so those that come later come out later. -/
private theorem runStage_append (delivery : Delivery) (stage : OutboundListener S m)
    (messages later : List (Message S)) :
    runStage delivery stage (messages ++ later) = do
      let passed ← runStage delivery stage messages
      let more ← runStage delivery stage later
      return passed ++ more := by
  induction messages with
  | nil => simp [runStage]
  | cons message messages ih =>
    rw [List.cons_append, runStage, ih, runStage, bind_assoc]
    refine bind_congr fun passed => ?_
    simp only [bind_assoc, pure_bind, List.append_assoc]

private theorem sendThrough_nil (delivery : Delivery) (stages : List (OutboundListener S m)) :
    sendThrough delivery stages [] = pure [] := by
  induction stages with
  | nil => rfl
  | cons stage stages ih => rw [sendThrough, runStage, pure_bind, ih]

/-- A single stage does to a single message what its listener does. -/
private theorem sendThrough_singleton (delivery : Delivery) (stage : OutboundListener S m)
    (message : Message S) : sendThrough delivery [stage] [message] = stage delivery message := by
  simp only [sendThrough, runStage, pure_bind, List.append_nil, bind_pure]

/-- A message that the first part of a chain keeps does not reach the second. -/
theorem receiveThrough_append (delivery : Delivery)
    (stages later : List (InboundListener S m)) (message : Message S) :
    receiveThrough delivery (stages ++ later) message =
      receiveThrough delivery stages message >>= fun passed =>
        match passed with
        | some next => receiveThrough delivery later next
        | none => return none := by
  induction stages generalizing message with
  | nil => rw [List.nil_append, receiveThrough, pure_bind]
  | cons stage stages ih =>
    rw [List.cons_append, receiveThrough, receiveThrough, bind_assoc]
    refine bind_congr fun passed => ?_
    cases passed with
    | some next => exact ih next
    | none => rw [pure_bind]

/-- Listeners behind all others work on what is passed to the end. -/
theorem receive_append (p : Pipeline S m) (more : List (String × InboundListener S m))
    (delivery : Delivery) (message : Message S)
    (terminal : Message S → ExceptT ProtocolError m Unit) :
    ({ p with inbound := ⟨p.inbound.entries ++ more⟩ } : Pipeline S m).receive
        delivery message terminal =
      p.receive delivery message fun next =>
        ({ p with inbound := ⟨more⟩ } : Pipeline S m).receive delivery next terminal := by
  have hlisteners : Chain.listeners ⟨p.inbound.entries ++ more⟩ =
      p.inbound.listeners ++ Chain.listeners ⟨more⟩ := List.map_append
  rw [receive, receive, hlisteners, receiveThrough_append, bind_assoc]
  refine bind_congr fun passed => ?_
  cases passed with
  | none => rw [pure_bind]
  | some next => rfl

end Pipeline

end Lawful

/-! ### Listeners that are functions -/

namespace Pipeline

/-- What becomes of a message that is sent through listeners, and what the collector of the caller
holds afterwards. -/
def fire (stages : List (String × OutboundListener S Id)) (delivery : Delivery)
    (message : Message S) (collected : List (Message S)) :
    Except ProtocolError Unit × List (Message S) :=
  ((collect ⟨.empty, ⟨stages⟩⟩ delivery message).run.run collected).run

variable {delivery : Delivery}

/-- The messages that come out of stages, if none of them fails. -/
def outputs (delivery : Delivery) (stages : List (OutboundListener S Id)) (message : Message S) :
    List (Message S) :=
  match (sendThrough delivery stages [message]).run.run with
  | .ok all => all
  | .error _ => []

/-- Firing adds to the collection what comes out at the end of the chain, and nothing if a listener
refuses. -/
private theorem fire_eq (stages : List (String × OutboundListener S Id)) (delivery : Delivery)
    (message : Message S) (collected : List (Message S)) :
    fire stages delivery message collected =
      match (sendThrough delivery (stages.map Prod.snd) [message]).run.run with
      | .ok all => (.ok (), collected ++ all)
      | .error cause => (.error cause, collected) := by
  rw [fire, run_collect, send, Chain.listeners]
  cases h : (sendThrough delivery (stages.map Prod.snd) [message]).run.run with
  | ok all =>
    obtain h : sendThrough delivery (stages.map Prod.snd) [message] = pure all := h
    rw [h]
    rfl
  | error cause =>
    obtain h : sendThrough delivery (stages.map Prod.snd) [message] = throw cause := h
    rw [h]
    rfl

/-- Two actions succeed one after the other just if the first does and the second does with its
answer. -/
private theorem run_bind_eq_ok_iff {α β : Type} (action : ExceptT ProtocolError Id α)
    (f : α → ExceptT ProtocolError Id β) (b : β) :
    (action >>= f).run.run = .ok b ↔ ∃ a, action.run.run = .ok a ∧ (f a).run.run = .ok b := by
  rw [ExceptT.run_bind, Id.run_bind]
  cases action.run.run <;> simp

/-- Messages come through stages just if those in front and those behind do. -/
private theorem sendThrough_append_eq_ok_iff (stages : List (OutboundListener S Id))
    (messages later all : List (Message S)) :
    (sendThrough delivery stages (messages ++ later)).run.run = .ok all ↔
      ∃ passed more, (sendThrough delivery stages messages).run.run = .ok passed ∧
        (sendThrough delivery stages later).run.run = .ok more ∧ all = passed ++ more := by
  induction stages generalizing messages later with
  | nil => simp [sendThrough, eq_comm]
  | cons stage stages ih =>
    simp only [sendThrough, run_bind_eq_ok_iff]
    constructor
    · rintro ⟨reached, hreached, hall⟩
      simp only [runStage_append, run_bind_eq_ok_iff] at hreached
      obtain ⟨front, hfront, back, hback, hboth⟩ := hreached
      cases hboth
      obtain ⟨passed, more, hpassed, hmore, rfl⟩ := (ih front back).mp hall
      exact ⟨passed, more, ⟨front, hfront, hpassed⟩, ⟨back, hback, hmore⟩, rfl⟩
    · rintro ⟨passed, more, ⟨front, hfront, hpassed⟩, ⟨back, hback, hmore⟩, rfl⟩
      refine ⟨front ++ back, ?_, (ih front back).mpr ⟨passed, more, hpassed, hmore, rfl⟩⟩
      simp only [runStage_append, run_bind_eq_ok_iff]
      exact ⟨front, hfront, back, hback, rfl⟩

/-- All messages that reach stages come through just if each one alone does, and come out as each
one alone does. -/
theorem sendThrough_eq_ok_iff (stages : List (OutboundListener S Id))
    (messages all : List (Message S)) :
    (sendThrough delivery stages messages).run.run = .ok all ↔
      (∀ message ∈ messages, ∃ part, (sendThrough delivery stages [message]).run.run = .ok part) ∧
        all = messages.flatMap (outputs delivery stages) := by
  induction messages generalizing all with
  | nil => simp [sendThrough_nil, eq_comm]
  | cons message messages ih =>
    rw [← List.singleton_append, sendThrough_append_eq_ok_iff, List.forall_mem_append,
      List.forall_mem_singleton, List.flatMap_append, List.flatMap_singleton]
    constructor
    · rintro ⟨part, more, hpart, hmore, rfl⟩
      obtain ⟨hall, rfl⟩ := (ih more).mp hmore
      exact ⟨⟨⟨part, hpart⟩, hall⟩, by rw [outputs, hpart]⟩
    · rintro ⟨⟨⟨part, hpart⟩, hall⟩, rfl⟩
      exact ⟨part, _, hpart, (ih _).mpr ⟨hall, rfl⟩, by rw [outputs, hpart]⟩

/-- Firing succeeds just if all messages come through. -/
private theorem fire_fst_eq_ok_iff (stages : List (String × OutboundListener S Id))
    (message : Message S) (collected : List (Message S)) :
    (fire stages delivery message collected).1 = .ok () ↔
      ∃ all, (sendThrough delivery (stages.map Prod.snd) [message]).run.run = .ok all := by
  rw [fire_eq]
  split <;> simp_all

/-- Whether or not firing succeeds, the collection grows by the outputs of the chain. -/
private theorem fire_snd (stages : List (String × OutboundListener S Id)) (message : Message S)
    (collected : List (Message S)) :
    (fire stages delivery message collected).2 =
      collected ++ outputs delivery (stages.map Prod.snd) message := by
  rw [fire_eq, outputs]
  split <;> simp_all

/-- A message comes through stages and others behind them just if it comes through the first and
all that comes out comes through the others. -/
private theorem fire_append_fst_eq_ok_iff (stages later : List (String × OutboundListener S Id))
    (message : Message S) (collected : List (Message S)) :
    (fire (stages ++ later) delivery message collected).1 = .ok () ↔
      (fire stages delivery message []).1 = .ok () ∧
        ∀ next ∈ (fire stages delivery message []).2, (fire later delivery next []).1 = .ok () := by
  simp only [fire_fst_eq_ok_iff, fire_snd, List.map_append, List.nil_append, sendThrough_append,
    run_bind_eq_ok_iff]
  constructor
  · rintro ⟨all, reached, hreached, hall⟩
    rw [outputs, hreached]
    exact ⟨⟨reached, rfl⟩, ((sendThrough_eq_ok_iff _ reached all).mp hall).1⟩
  · rintro ⟨⟨reached, hreached⟩, hall⟩
    rw [outputs, hreached] at hall
    exact ⟨_, reached, hreached, (sendThrough_eq_ok_iff _ reached _).mpr ⟨hall, rfl⟩⟩

/-- What comes out is what the others make of all that comes out of the first, in order. -/
private theorem fire_append_snd {stages later : List (String × OutboundListener S Id)}
    {message : Message S} {collected : List (Message S)}
    (h : (fire (stages ++ later) delivery message collected).1 = .ok ()) :
    (fire (stages ++ later) delivery message collected).2 =
      collected ++ (fire stages delivery message []).2.flatMap fun next =>
        (fire later delivery next []).2 := by
  obtain ⟨all, hall⟩ := (fire_fst_eq_ok_iff _ _ _).mp h
  simp only [fire_snd, List.nil_append]
  rw [outputs, hall]
  rw [List.map_append, sendThrough_append, run_bind_eq_ok_iff] at hall
  obtain ⟨reached, hreached, hall⟩ := hall
  rw [outputs, hreached]
  exact congrArg (collected ++ ·) ((sendThrough_eq_ok_iff _ reached all).mp hall).2

end Pipeline

/-! ### Who is called on the way in -/

/-- A call of a listener or of what stands behind all of them. -/
inductive Visit (S : Schema)
  /-- The listener at this place was called. -/
  | listener (place : Nat) (message : Message S)
  /-- What stands behind all listeners was called. -/
  | terminal (message : Message S)

namespace Pipeline

section Visits

variable {σ : Type}

/-- An action whose beginning is written down. -/
def noting {α : Type} (visit : Visit S) (action : ExceptT ProtocolError (StateM σ) α) :
    ExceptT ProtocolError (StateM (σ × List (Visit S))) α :=
  ExceptT.mk fun (s, visits) =>
    let (answer, s₁) := action.run.run s
    (answer, s₁, visits ++ [visit])

/-- Listeners whose calls are written down, with their places. -/
def watchedFrom (place : Nat) (stages : List (String × InboundListener S (StateM σ))) :
    List (String × InboundListener S (StateM (σ × List (Visit S)))) :=
  (stages.zipIdx place).map fun ((name, listener), place) =>
    (name, fun delivery message => noting (.listener place message) (listener delivery message))

/-- The calls of listeners one behind the other with these messages. -/
def callsFrom (place : Nat) (met : List (Message S)) : List (Visit S) :=
  (met.zipIdx place).map fun (message, place) => .listener place message

/-- How a message fares that meets listeners one after the other, beginning in some state: the
messages that the listeners are called with, what becomes of the message and the state
afterwards. -/
inductive Passage (delivery : Delivery) :
    List (InboundListener S (StateM σ)) → Message S → σ →
      List (Message S) → Except ProtocolError (Option (Message S)) → σ → Prop
  /-- All listeners have passed it on. -/
  | through (message : Message S) (s : σ) : Passage delivery [] message s [] (.ok (some message)) s
  /-- A listener passes on a message, which meets the ones behind it. -/
  | on {listener : InboundListener S (StateM σ)} {later : List (InboundListener S (StateM σ))}
      {message next : Message S} {s s₁ s₂ : σ} {met : List (Message S)}
      {ending : Except ProtocolError (Option (Message S))} :
      (listener delivery message).run.run s = (.ok (some next), s₁) →
      Passage delivery later next s₁ met ending s₂ →
        Passage delivery (listener :: later) message s (message :: met) ending s₂
  /-- A listener consumes it. -/
  | consumed {listener : InboundListener S (StateM σ)}
      {later : List (InboundListener S (StateM σ))} {message : Message S} {s s₁ : σ} :
      (listener delivery message).run.run s = (.ok none, s₁) →
        Passage delivery (listener :: later) message s [message] (.ok none) s₁
  /-- A listener refuses it. -/
  | refused {listener : InboundListener S (StateM σ)}
      {later : List (InboundListener S (StateM σ))} {message : Message S} {s s₁ : σ}
      {cause : ProtocolError} :
      (listener delivery message).run.run s = (.error cause, s₁) →
        Passage delivery (listener :: later) message s [message] (.error cause) s₁

variable {α β : Type} {action : ExceptT ProtocolError (StateM σ) α}
  {f : α → ExceptT ProtocolError (StateM σ) β} {s s₁ : σ}

theorem run_bind_of_ok {a : α} (h : action.run.run s = (.ok a, s₁)) :
    (action >>= f).run.run s = (f a).run.run s₁ := by
  rw [ExceptT.run_bind, StateT.run_bind, h]
  rfl

theorem run_bind_of_error {cause : ProtocolError} (h : action.run.run s = (.error cause, s₁)) :
    (action >>= f).run.run s = (.error cause, s₁) := by
  rw [ExceptT.run_bind, StateT.run_bind, h]
  rfl

/-- An action that is noted does what it does without that, and leaves one visit more. -/
private theorem run_noting {answer : Except ProtocolError α} (h : action.run.run s = (answer, s₁))
    (visit : Visit S) (visits : List (Visit S)) :
    (noting visit action).run.run (s, visits) = (answer, s₁, visits ++ [visit]) := by
  change ((action.run.run s).1, (action.run.run s).2, visits ++ [visit]) = _
  rw [h]

private theorem snd_watchedFrom_cons (place : Nat) (name : String)
    (listener : InboundListener S (StateM σ))
    (stages : List (String × InboundListener S (StateM σ))) :
    (watchedFrom place ((name, listener) :: stages)).map Prod.snd =
      (fun delivery message => noting (.listener place message) (listener delivery message)) ::
        (watchedFrom (place + 1) stages).map Prod.snd := rfl

/-- Listeners are called as the message fares, and with nobody watching it fares alike. -/
private theorem exists_passage (delivery : Delivery)
    (stages : List (String × InboundListener S (StateM σ))) (place : Nat) (message : Message S)
    (visits : List (Visit S)) (s : σ) :
    ∃ met ending s₁, Passage delivery (stages.map Prod.snd) message s met ending s₁ ∧
      (receiveThrough delivery (stages.map Prod.snd) message).run.run s = (ending, s₁) ∧
      (receiveThrough delivery ((watchedFrom place stages).map Prod.snd) message).run.run
        (s, visits) = (ending, s₁, visits ++ callsFrom place met) := by
  induction stages generalizing place message visits s with
  | nil =>
    refine ⟨[], .ok (some message), s, .through message s, rfl, ?_⟩
    rw [callsFrom, List.zipIdx_nil, List.map_nil, List.append_nil]
    rfl
  | cons entry stages ih =>
    obtain ⟨name, listener⟩ := entry
    rw [List.map_cons, snd_watchedFrom_cons, receiveThrough, receiveThrough]
    -- both pipelines call the listener with the same state, so they get the same answer
    rcases hanswer : (listener delivery message).run.run s with ⟨answer, s₁⟩
    have hw := run_noting hanswer (.listener place message) visits
    match answer with
    | .error cause =>
      exact ⟨[message], .error cause, s₁, .refused hanswer, run_bind_of_error hanswer,
        run_bind_of_error hw⟩
    | .ok none =>
      exact ⟨[message], .ok none, s₁, .consumed hanswer, run_bind_of_ok hanswer,
        run_bind_of_ok hw⟩
    | .ok (some next) =>
      obtain ⟨met, ending, s₂, hp, hr, hv⟩ :=
        ih (place + 1) next (visits ++ [.listener place message]) s₁
      rw [List.append_assoc] at hv
      exact ⟨message :: met, ending, s₂, .on hanswer hp, (run_bind_of_ok hanswer).trans hr,
        (run_bind_of_ok hw).trans hv⟩

/-- What a message that fared so comes to in the end, with all calls in order: what stands behind
the listeners is called just if all of them passed a message on, with the last of these. -/
def conclusion (terminal : Message S → ExceptT ProtocolError (StateM σ) Unit)
    (met : List (Message S)) :
    Except ProtocolError (Option (Message S)) → σ → Except ProtocolError Unit × σ × List (Visit S)
  | .ok (some last), s =>
    let (result, s₁) := (terminal last).run.run s
    (result, s₁, callsFrom 0 met ++ [.terminal last])
  | .ok none, s => (.ok (), s, callsFrom 0 met)
  | .error cause, s => (.error cause, s, callsFrom 0 met)

/-- The calls of a run are those that the message fares by, whoever watches. -/
private theorem exists_conclusion (delivery : Delivery)
    (stages : List (String × InboundListener S (StateM σ))) (message : Message S)
    (terminal : Message S → ExceptT ProtocolError (StateM σ) Unit) (s : σ) :
    ∃ met ending s₁, Passage delivery (stages.map Prod.snd) message s met ending s₁ ∧
      (receive ⟨⟨watchedFrom 0 stages⟩, .empty⟩ delivery message fun last =>
        noting (.terminal last) (terminal last)).run.run (s, []) =
          conclusion terminal met ending s₁ ∧
      (receive ⟨⟨stages⟩, .empty⟩ delivery message terminal).run.run s =
        ((conclusion terminal met ending s₁).1, (conclusion terminal met ending s₁).2.1) := by
  obtain ⟨met, ending, s₁, hp, hr, hv⟩ := exists_passage delivery stages 0 message [] s
  refine ⟨met, ending, s₁, hp, ?_⟩
  rw [receive, receive, Chain.listeners, Chain.listeners]
  match ending with
  | .ok (some last) =>
    exact ⟨(run_bind_of_ok hv).trans (run_noting rfl _ _), run_bind_of_ok hr⟩
  | .ok none => exact ⟨run_bind_of_ok hv, run_bind_of_ok hr⟩
  | .error cause => exact ⟨run_bind_of_error hv, run_bind_of_error hr⟩

end Visits

/-- Listeners one behind the other do together what they do one after the other. -/
structure Compositional (S : Schema) : Prop where
  /-- Sending a message through listeners and others behind them succeeds just if it does through
  the first, and for all that comes out through the others. -/
  sends_iff (stages later : List (String × OutboundListener S Id)) (delivery : Delivery)
    (message : Message S) (collected : List (Message S)) :
    (fire (stages ++ later) delivery message collected).1 = .ok () ↔
      (fire stages delivery message []).1 = .ok () ∧
        ∀ next ∈ (fire stages delivery message []).2, (fire later delivery next []).1 = .ok ()
  /-- Then the messages collected are what the others make of these, in order. -/
  sends (stages later : List (String × OutboundListener S Id)) (delivery : Delivery)
    (message : Message S) (collected : List (Message S)) :
    (fire (stages ++ later) delivery message collected).1 = .ok () →
      (fire (stages ++ later) delivery message collected).2 =
        collected ++ (fire stages delivery message []).2.flatMap fun next =>
          (fire later delivery next []).2
  /-- A single listener gives what it makes of the message, or fails with its error. With `passes`
  and `sends` this says what any number of listeners come to. -/
  fires (name : String) (listener : OutboundListener S Id) (delivery : Delivery)
    (message : Message S) (collected : List (Message S)) :
    fire [(name, listener)] delivery message collected =
      match (listener delivery message).run.run with
      | .ok passed => (.ok (), collected ++ passed)
      | .error cause => (.error cause, collected)
  /-- Without listeners a message passes. -/
  passes (delivery : Delivery) (message : Message S) (collected : List (Message S)) :
    fire [] delivery message collected = (.ok (), collected ++ [message])
  /-- If a listener fails, nothing is collected. -/
  keeps (stages : List (String × OutboundListener S Id)) (delivery : Delivery)
    (message : Message S) (collected : List (Message S)) :
    (fire stages delivery message collected).1 ≠ .ok () →
      (fire stages delivery message collected).2 = collected
  /-- All of this is what sending does, also for listeners with effects of their own. -/
  collects {m : Type → Type} [Monad m] [LawfulMonad m] (p : Pipeline S m) (delivery : Delivery)
    (message : Message S) (collected : List (Message S)) :
    (p.collect delivery message).run.run collected =
      (p.send delivery message collected).run >>= fun
        | .ok all => pure (.ok (), all)
        | .error cause => pure (.error cause, collected)
  /-- Receiving a message through listeners and others behind them is receiving it through the
  first, with the others at the end, whatever effects they have. -/
  receives {m : Type → Type} [Monad m] [LawfulMonad m]
    (stages later : List (String × InboundListener S m))
    (outbound : Chain (OutboundListener S m)) (delivery : Delivery) (message : Message S)
    (terminal : Message S → ExceptT ProtocolError m Unit) :
    receive ⟨⟨stages ++ later⟩, outbound⟩ delivery message terminal =
      receive ⟨⟨stages⟩, outbound⟩ delivery message fun next =>
        receive ⟨⟨later⟩, outbound⟩ delivery next terminal
  /-- Listeners are called in order up to the first that does not pass a message on. What stands
  behind them is called once if there is none, with the message of the last one, and not at all
  otherwise. -/
  visits {σ : Type} (stages : List (String × InboundListener S (StateM σ))) (delivery : Delivery)
    (message : Message S) (terminal : Message S → ExceptT ProtocolError (StateM σ) Unit) (s : σ) :
    ∃ met ending s₁, Passage delivery (stages.map Prod.snd) message s met ending s₁ ∧
      (receive ⟨⟨watchedFrom 0 stages⟩, .empty⟩ delivery message fun last =>
        noting (.terminal last) (terminal last)).run.run (s, []) =
          conclusion terminal met ending s₁ ∧
      (receive ⟨⟨stages⟩, .empty⟩ delivery message terminal).run.run s =
        ((conclusion terminal met ending s₁).1, (conclusion terminal met ending s₁).2.1)

/-- Listeners one behind the other do together what they do one after the other. -/
theorem compositional (S : Schema) : Compositional S where
  sends_iff stages later delivery message collected :=
    fire_append_fst_eq_ok_iff stages later message collected
  sends stages later delivery message collected h := fire_append_snd h
  fires name listener delivery message collected := by
    rw [fire_eq, List.map_singleton, sendThrough_singleton]
  passes delivery message collected := rfl
  keeps stages delivery message collected h := by
    rw [fire_eq] at h ⊢
    split at h <;> simp_all
  collects p delivery message collected := run_collect p delivery message collected
  receives stages later outbound delivery message terminal :=
    receive_append ⟨⟨stages⟩, outbound⟩ later delivery message terminal
  visits stages delivery message terminal s := exists_conclusion delivery stages message terminal s

end Pipeline

end PacketSession
