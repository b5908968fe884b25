import PacketSession.Proofs.Conversation.Effects

/-!
# Handlers that answer

A script is *answering* if all that it does to its session is to send. Handlers that are answering
make a session react to what it hears: a `Reaction` is either that the session handed over some
answers, or that one of them was refused, and the session failed in the middle.

The leaves of a frame are one reaction, however many handlers they run
(`Protocol.reaction_processInOrder`).
-/

namespace PacketSession

open Memory

variable {S : Schema} {N Y : Type}

/-! ### Answering scripts -/

/-- A script makes no call on its session but to look at its state and to send what is `good`. -/
inductive Script.Answering {α : Type} (good : Sending S → Prop) : Script S N Y α → Prop
  | done (result : α) : Answering good (.done result)
  | inspect {next : Session S → Script S N Y α} : (∀ s, (next s).Answering good) →
      Answering good (.ask .inspect next)
  | send {packet : Packet S} {delivery : Delivery}
      {next : Except SessionError SendHandle → Script S N Y α} : good (.single packet delivery) →
      (∀ answer, (next answer).Answering good) → Answering good (.ask (.send packet delivery) next)
  | sendBatch {packets : List (Packet S)} {delivery : Delivery}
      {next : Except SessionError SendHandle → Script S N Y α} : good (.batch packets delivery) →
      (∀ answer, (next answer).Answering good) →
      Answering good (.ask (.sendBatch packets delivery) next)
  | look {next : Y → Script S N Y α} : (∀ y, (next y).Answering good) → Answering good (.look next)
  | put {next : Script S N Y α} (y : Y) : next.Answering good → Answering good (.put y next)
  | write {next : Script S N Y α} (note : N) : next.Answering good →
      Answering good (.write note next)

/-- A silent script is answering, but never answers. -/
theorem Script.Silent.answering {α : Type} {script : Script S N Y α} (h : script.Silent)
    (good : Sending S → Prop) : script.Answering good := by
  induction h with
  | done result => exact .done result
  | inspect _ ih => exact .inspect ih
  | look _ ih => exact .look ih
  | put y _ ih => exact .put y ih
  | write note _ ih => exact .write note ih

/-! ### Reactions -/

/-- What becomes of a session whose handlers are run on packets. -/
inductive Reaction (r : Registry S) (settings : Settings) (good : Sending S → Prop) (side : Side)
    (f : Face S N) (heard : List (PacketId × Packet S × Delivery)) : Face S N → Prop
  /-- They were, and their answers were taken. -/
  | stays {calls : List (Sending S)} {wire : List WireFrame} : (∀ call ∈ calls, good call) →
      r.CarriesCalls settings calls wire →
      Reaction r settings good side f heard ((f.hear heard).say side wire)
  /-- Some were, then an answer was refused. -/
  | breaks {calls : List (Sending S)} {wire : List WireFrame}
      {part : List (PacketId × Packet S × Delivery)} {call : Sending S} :
      (∀ call ∈ calls, good call) → r.CarriesCalls settings calls wire → part <+: heard →
      good call → (f.pair.get side.other).reading = false →
      Reaction r settings good side f heard (((f.hear part).say side wire).lose side)

namespace Registry

variable {r : Registry S} {settings : Settings}

theorem CarriesCalls.append {calls later : List (Sending S)} {wire rest : List WireFrame}
    (h : r.CarriesCalls settings calls wire) (h' : r.CarriesCalls settings later rest) :
    r.CarriesCalls settings (calls ++ later) (wire ++ rest) := by
  induction h with
  | nil => exact h'
  | cons hframes hpayloads _ ih =>
    rw [List.append_assoc]
    exact .cons hframes hpayloads ih

end Registry

namespace Reaction

variable {r : Registry S} {settings : Settings} {good : Sending S → Prop} {side : Side}
  {f f₁ f₂ : Face S N} {heard more : List (PacketId × Packet S × Delivery)}

theorem refl : Reaction r settings good side f [] f := by
  have hstays : Reaction r settings good side f [] ((f.hear []).say side []) :=
    .stays (List.forall_mem_nil good) .nil
  rwa [Face.say_nil, Face.hear, List.append_nil] at hstays

/-- One reaction goes on with another one while the session is open, and with nothing once it is
closed. -/
theorem trans (h : Reaction r settings good side f heard f₁) (hl : f.Live side)
    (hopen : f₁.Live side → Reaction r settings good side f₁ more f₂)
    (hclosed : f₁.phase = .closed → f₂ = f₁) :
    Reaction r settings good side f (heard ++ more) f₂ := by
  cases h with
  | @stays calls wire hgood hwire =>
    have hnext := hopen ((hl.hear heard).say wire)
    cases hnext with
    | @stays later rest hlater hrest =>
      rw [Face.hear_say, Face.hear_hear, Face.say_say]
      exact .stays (List.forall_mem_append.mpr ⟨hgood, hlater⟩) (hwire.append hrest)
    | @breaks later rest part call hlater hrest hpart hcall hr =>
      rw [Face.hear_say, Face.hear_hear, Face.say_say]
      have hr' : (f.pair.get side.other).reading = false := by
        rw [Face.say, MemoryPair.get_pass_other, End.reading_queueAll] at hr
        exact hr
      exact .breaks (List.forall_mem_append.mpr ⟨hgood, hlater⟩) (hwire.append hrest)
        (List.prefix_append_right_inj heard |>.mpr hpart) hcall hr'
  | @breaks calls wire part call hgood hwire hpart hcall hr =>
    rw [hclosed rfl]
    exact .breaks hgood hwire (hpart.trans (List.prefix_append heard more)) hcall hr

/-- What is heard first may as well be heard in the reaction. -/
private theorem of_hear (h : Reaction r settings good side (f.hear heard) [] f₁) :
    Reaction r settings good side f heard f₁ := by
  have hnil : (f.hear heard).hear [] = f.hear heard := by rw [Face.hear_hear, List.append_nil]
  cases h with
  | stays hgood hwire =>
    rw [hnil]
    exact .stays hgood hwire
  | breaks hgood hwire hpart hcall hr =>
    rw [List.prefix_nil.mp hpart, hnil]
    exact .breaks hgood hwire (List.prefix_refl heard) hcall hr

/-- In the end the session is open as before, or it is closed. -/
private theorem live_or_closed (h : Reaction r settings good side f heard f₁) (hl : f.Live side) :
    f₁.Live side ∨ f₁.phase = .closed := by
  cases h with
  | stays => exact .inl ((hl.hear _).say _)
  | breaks => exact .inr rfl

end Reaction

namespace HandlerTable

theorem taking_append {m : Type → Type} (t : HandlerTable S m)
    (sent later : List (Decoded S × Delivery)) :
    t.taking (sent ++ later) = t.taking sent ++ t.taking later := by
  rw [taking, taking, taking, List.filter_append, List.map_append]

theorem taking_prefix {m : Type → Type} (t : HandlerTable S m)
    {sent all : List (Decoded S × Delivery)} (h : sent <+: all) :
    t.taking sent <+: t.taking all := by
  obtain ⟨later, rfl⟩ := h
  rw [taking_append]
  exact List.prefix_append _ _

end HandlerTable

/-! ### Running handlers -/

namespace Protocol

/-- A handler as it runs at a side, where its calls may nest to the given depth. -/
def handlerAt (p : Protocol S (Sided S N Y)) (side : Side) (depth : Nat)
    (handler : Handler S (Sided S N Y)) : Handler S (SessionM S N (Joint Y)) where
  accepts := handler.accepts
  run packet delivery := Script.run ((p.application side).perform depth)
    ((handler.run packet delivery).run side).joined

private theorem get?_hostAt (p : Protocol S (Sided S N Y)) (side : Side) (depth : Nat)
    (id : PacketId) : (p.hostAt side depth).protocol.handlers.get? id =
      (p.handlers.get? id).map (p.handlerAt side depth) := by
  refine (Protocol.get?_map _ _ _).trans ?_
  rw [application, Protocol.get?_map, Option.map_map]
  rfl

variable {p : Protocol S (Sided S N Y)} {side : Side} (depth : Nat) {good : Sending S → Prop}
  (hw : p.codecs.WellFormed) (hout : p.pipeline.outbound = .empty)
  (hgood : ∀ call, good call → p.codecs.Sendable p.settings call)
  {e : Endpoint S N (Joint Y)}

include hw hout hgood

/-- A call of an answering script is a reaction without anything heard. -/
theorem reaction_sendOne (hl : e.face.Live side) {call : Sending S} (hcall : good call) :
    Reaction p.codecs p.settings good side e.face []
      (((p.application side).sendOne (depth + 1) call).after e).face := by
  have hhear : e.face.hear [] = e.face := by rw [Face.hear, List.append_nil]
  obtain ⟨wire, hwire, hface⟩ | ⟨hr, hface⟩ :=
    face_sendOne_of_sendable depth hout hw hl (hgood call hcall)
  · rw [hface]
    have hstays : Reaction p.codecs p.settings good side e.face []
        ((e.face.hear []).say side wire) :=
      .stays (List.forall_mem_singleton.mpr hcall) hwire
    rwa [hhear] at hstays
  · rw [hface]
    have hbreaks : Reaction p.codecs p.settings good side e.face []
        (((e.face.hear []).say side []).lose side) :=
      .breaks (List.forall_mem_nil good) .nil (List.prefix_refl []) hcall hr
    rwa [hhear, Face.say_nil] at hbreaks

/-- An answering script is a reaction without anything heard. -/
theorem reaction_run {α : Type} {script : Script S N Y α} (h : script.Answering good)
    (hl : e.face.Live side) :
    Reaction p.codecs p.settings good side e.face []
      ((script.joined.run ((p.application side).perform (depth + 1))).after e).face := by
  have hinert : ∀ (script : Script S N Y α) e₁, e₁.session.phase = .closed →
      ((script.joined.run ((p.application side).perform (depth + 1))).after e₁).face = e₁.face :=
    fun script e₁ => Script.inert_joined (Application.inert_perform _ (depth + 1)) script e₁
  induction h generalizing e with
  | done result => exact .refl
  | inspect _ ih => exact ih _ hl
  | @send packet delivery next hcall _ ih =>
    have hfirst := reaction_sendOne depth hw hout hgood hl hcall
    exact hfirst.trans hl (fun hl₁ => ih _ hl₁) (fun hp => hinert _ _ hp)
  | @sendBatch packets delivery next hcall _ ih =>
    have hfirst := reaction_sendOne depth hw hout hgood hl hcall
    exact hfirst.trans hl (fun hl₁ => ih _ hl₁) (fun hp => hinert _ _ hp)
  | look _ ih => exact ih _ hl
  | @put next y _ ih => exact ih (e := { e with outside := { e.outside with state := y } }) hl
  | @write next note _ ih =>
    have hface := e.face_record_note note
    have hnext := ih (e := e.record (.note note)) (hface ▸ hl)
    rwa [hface] at hnext

variable (hh : ∀ entry ∈ p.handlers.entries, ∀ packet delivery,
  ((entry.2.run packet delivery).run side).Answering good)

include hh

/-- A handler that is run on a packet is a reaction to that packet. -/
private theorem reaction_handle (hl : e.face.Live side) (sent : Decoded S × Delivery) :
    Reaction p.codecs p.settings good side e.face (p.handlers.taking [sent])
      (((p.hostAt side (depth + 1)).handle sent).after e).face := by
  rw [Host.handle, get?_hostAt]
  cases hg : p.handlers.get? sent.1.id with
  | none =>
    have hnone : p.handlers.taking [sent] = [] := by
      simp [HandlerTable.taking, HandlerTable.takes, hg]
    rw [hnone]
    exact .refl
  | some handler =>
    dsimp only [Option.map]
    rw [Handler.invoke]
    cases ht : handler.takes sent.1.packet.kind with
    | false =>
      have hnone : p.handlers.taking [sent] = [] := by
        simp [HandlerTable.taking, HandlerTable.takes, hg, ht]
      have hpass : ¬ (p.handlerAt side (depth + 1) handler).takes sent.1.packet.kind = true := by
        rw [show (p.handlerAt side (depth + 1) handler).takes _ = _ from ht]
        decide
      rw [hnone, if_neg hpass]
      exact .refl
    | true =>
      have hone : p.handlers.taking [sent] = [(sent.1.id, sent.1.packet, sent.2)] := by
        simp [HandlerTable.taking, HandlerTable.takes, hg, ht]
      -- the packet is noted as handled, and then the handler answers at most
      have hface := e.face_record_handling sent.1.id sent.1.packet sent.2
      have hl₁ : (e.record (.handling sent.1.id sent.1.packet sent.2)).face.Live side := by
        rw [hface]
        exact hl.hear _
      have hanswering := hh _ (HandlerTable.mem_of_get? hg) sent.1.packet sent.2
      have hrun := reaction_run depth hw hout hgood hanswering hl₁
      rw [hface] at hrun
      have htake : (p.handlerAt side (depth + 1) handler).takes sent.1.packet.kind = true := ht
      rw [hone, if_pos htake]
      exact hrun.of_hear

/-- Packets of the application that are processed in order are a reaction to those that are
handled. -/
theorem reaction_processInOrder (hl : e.face.Live side) (delivery : Delivery)
    {ds : List (Decoded S)} (ha : ∀ d ∈ ds, d.IsApplication) :
    Reaction p.codecs p.settings good side e.face (p.handlers.taking (ds.map (·, delivery)))
      (((p.hostAt side (depth + 1)).processInOrder delivery ds).after e).face := by
  induction ds generalizing e with
  | nil => exact .refl
  | cons d ds ih =>
    obtain ⟨⟨kind, hk⟩, hds⟩ := List.forall_mem_cons.mp ha
    have hn : d.packet.disconnect? = none := Packet.disconnect?_eq_none.mpr (by simp [hk])
    have hone : (p.hostAt side (depth + 1)).processOne delivery d =
        (p.hostAt side (depth + 1)).handle (d, delivery) := by
      rw [Host.processOne, hn]
      rfl
    have hfirst := reaction_handle depth hw hout hgood hh hl (d, delivery)
    have hsplit : p.handlers.taking ((d :: ds).map (·, delivery)) =
        p.handlers.taking [(d, delivery)] ++ p.handlers.taking (ds.map (·, delivery)) :=
      p.handlers.taking_append [(d, delivery)] (ds.map (·, delivery))
    rw [Host.after_processInOrder_of_open delivery hl.opened, hone, hsplit]
    refine hfirst.trans hl (fun hl₁ => ih hl₁ hds) fun hp => ?_
    generalize ((p.hostAt side (depth + 1)).handle (d, delivery)).after e = e₁ at hp ⊢
    have hp₁ : e₁.session.phase ≠ .opened := by
      rw [show e₁.session.phase = .closed from hp]
      decide
    rw [Host.after_processInOrder_of_not_open delivery hp₁]

end Protocol

/-! ### Receiving -/

namespace Protocol

variable {p : Protocol S (Sided S N Y)} {side : Side} (depth : Nat) {good : Sending S → Prop}
  (hw : p.codecs.WellFormed) (hin : p.pipeline.inbound = .empty)
  (hout : p.pipeline.outbound = .empty)
  (hgood : ∀ call, good call → p.codecs.Sendable p.settings call)
  (hh : ∀ entry ∈ p.handlers.entries, ∀ packet delivery,
    ((entry.2.run packet delivery).run side).Answering good)
  {e : Endpoint S N (Joint Y)} (hl : e.face.Live side) {frame : WireFrame}
  {reassembler : Reassembler}

include hw hin hout hgood hh hl

/-- A frame of packets of the application is a reaction to those that are handled. -/
theorem reaction_receive {ds : List (Decoded S)} (ha : ∀ d ∈ ds, d.IsApplication)
    (hr : p.codecs.read e.face.reassembler frame = (.ok ds, reassembler)) :
    Reaction p.codecs p.settings good side { e.face with reassembler }
      (p.handlers.taking (ds.map (·, frame.delivery)))
      (((p.hostAt side (depth + 1)).receive frame).after e).face := by
  have hafter := Host.after_receive (h := p.hostAt side (depth + 1)) hw (inbound_hostAt hin) frame
    hl.opened
  have hread : (p.hostAt side (depth + 1)).protocol.codecs.read e.session.reassembler frame =
      (.ok ds, reassembler) := hr
  rw [hread] at hafter
  rw [hafter]
  have hl₁ : (e.update fun s => { s with reassembler }).face.Live side :=
    ⟨hl.opened, hl.connected, hl.sending, hl.reading⟩
  exact reaction_processInOrder depth hw hout hgood hh hl₁ frame.delivery ha

/-- An announcement of the peer at the end of a frame hangs up, unless the session failed before. -/
theorem depart_receive {ds : List (Decoded S)} {reason : String} (ha : ∀ d ∈ ds, d.IsApplication)
    (hr : p.codecs.read e.face.reassembler frame =
      (.ok (ds ++ [⟨.disconnect, .ofDisconnect ⟨reason⟩⟩]), reassembler)) :
    ∃ f, Reaction p.codecs p.settings good side { e.face with reassembler }
        (p.handlers.taking (ds.map (·, frame.delivery))) f ∧
      (f.Live side ∧
          (((p.hostAt side (depth + 1)).receive frame).after e).face = f.depart side reason ∨
        f.phase = .closed ∧ (((p.hostAt side (depth + 1)).receive frame).after e).face = f) := by
  have hafter := Host.after_receive (h := p.hostAt side (depth + 1)) hw (inbound_hostAt hin) frame
    hl.opened
  have hread : (p.hostAt side (depth + 1)).protocol.codecs.read e.session.reassembler frame =
      (.ok (ds ++ [⟨.disconnect, .ofDisconnect ⟨reason⟩⟩]), reassembler) := hr
  rw [hread] at hafter
  rw [hafter]
  have hl₁ : (e.update fun s => { s with reassembler }).face.Live side :=
    ⟨hl.opened, hl.connected, hl.sending, hl.reading⟩
  have hreaction := reaction_processInOrder depth hw hout hgood hh hl₁ frame.delivery ha
  dsimp only
  rw [Host.after_processInOrder_append]
  refine ⟨_, hreaction, ?_⟩
  generalize ((p.hostAt side (depth + 1)).processInOrder frame.delivery ds).after
    (e.update fun s => { s with reassembler }) = e₁ at hreaction ⊢
  -- an answer that was refused failed the session, and then nobody looks at the announcement
  obtain hlive | hclosed := hreaction.live_or_closed hl₁
  · refine .inl ⟨hlive, ?_⟩
    rw [Host.after_processInOrder_of_open frame.delivery hlive.opened]
    exact face_peerDisconnected p side (depth + 1) 0 hlive.opened hlive.connected reason
  · have hp₁ : e₁.session.phase ≠ .opened := by
      rw [show e₁.session.phase = .closed from hclosed]
      decide
    rw [Host.after_processInOrder_of_not_open frame.delivery hp₁]
    exact .inr ⟨hclosed, rfl⟩

end Protocol

end PacketSession
