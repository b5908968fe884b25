import PacketSession.Proofs.Listener.Composition
import PacketSession.Proofs.Listener.Naming
import PacketSession.Protocol.Basic
import PacketSession.Sample.Packets

/-!
# Mirrored chains

To transform messages on their way takes two listeners, one that transforms what is sent and one
that undoes this to what is received (`Duplex`). Several of these work together if the two chains
mirror each other: what is added last on the way out is added first on the way in, or the other
way round (`Placement`). Then the two chains undo each other as a whole (`Protocol.mirrors_addAll`).

Listeners may have effects on a state of any kind. It need not be the same state on both sides:
what was sent is undone whatever the state of the receiver.
-/

namespace PacketSession

variable {S : Schema} {m : Type → Type} {σ : Type}

/-- A listener on the way out and one on the way in, under the same name. -/
structure Duplex (S : Schema) (m : Type → Type) where
  /-- The name of both. -/
  name : String
  /-- The listener on the way out. -/
  outbound : OutboundListener S m
  /-- The listener on the way in. -/
  inbound : InboundListener S m

namespace Duplex

/-- The entry in the chain on the way out. -/
def outEntry (d : Duplex S m) : String × OutboundListener S m := (d.name, d.outbound)

/-- The entry in the chain on the way in. -/
def inEntry (d : Duplex S m) : String × InboundListener S m := (d.name, d.inbound)

end Duplex

/-- Where both listeners go. -/
inductive Placement
  /-- Next to the wire: last on the way out and first on the way in. -/
  | outermost
  /-- Next to the application: first on the way out and last on the way in. -/
  | innermost

namespace Placement

/-- Where the listener on the way out goes. -/
def outward : Placement → Position
  | outermost => .last
  | innermost => .first

/-- Where the listener on the way in goes. -/
def inward : Placement → Position
  | outermost => .first
  | innermost => .last

end Placement

namespace Protocol

/-- Adds both listeners. -/
def addDuplex (p : Protocol S m) (placement : Placement) (duplex : Duplex S m) :
    Except RegistrationError (Protocol S m) := do
  let p ← p.addOutbound duplex.name duplex.outbound placement.outward
  p.addInbound duplex.name duplex.inbound placement.inward

/-- Adds the listeners of several in order. -/
def addAll (p : Protocol S m) (placement : Placement) :
    List (Duplex S m) → Except RegistrationError (Protocol S m)
  | [] => return p
  | duplex :: duplexes => do (← p.addDuplex placement duplex).addAll placement duplexes

end Protocol

/-- Whatever the states, a listener on the way out makes one message of every message, and a
listener on the way in makes the first of the second. -/
def Undoes (sent received : Delivery) (inbound : InboundListener S (StateM σ))
    (outbound : OutboundListener S (StateM σ)) : Prop :=
  ∀ message s, ∃ encoded s', (outbound sent message).run.run s = (.ok [encoded], s') ∧
    ∀ t, ∃ t', (inbound received encoded).run.run t = (.ok (some message), t')

namespace Pipeline

/-- Every message is sent as one message, and to receive this is to call what stands behind the
listeners, once and with the message that was sent. -/
def Mirrors (sent received : Delivery) (p : Pipeline S (StateM σ)) : Prop :=
  ∀ message s, ∃ encoded s',
    (∀ collected, ((p.collect sent message).run.run collected).run s =
      ((.ok (), collected ++ [encoded]), s')) ∧
    ∀ t, ∃ t', ∀ terminal : Message S → ExceptT ProtocolError (StateM σ) Unit,
      (p.receive received encoded terminal).run.run t = (terminal message).run.run t'

/-! ### Listeners one after the other -/

/-- The inbound listeners of a pipeline, one after the other, undo the outbound ones. -/
def UndoesItself (sent received : Delivery) (p : Pipeline S (StateM σ)) : Prop :=
  Undoes sent received (fun delivery => receiveThrough delivery p.inbound.listeners)
    fun delivery message => sendThrough delivery p.outbound.listeners [message]

variable {sent received : Delivery}

private theorem undoesItself_empty : (empty : Pipeline S (StateM σ)).UndoesItself sent received :=
  fun message s => ⟨message, s, rfl, fun t => ⟨t, rfl⟩⟩

private theorem undoesItself_singleton (name : String) {inbound : InboundListener S (StateM σ)}
    {outbound : OutboundListener S (StateM σ)} (h : Undoes sent received inbound outbound) :
    UndoesItself sent received ⟨⟨[(name, inbound)]⟩, ⟨[(name, outbound)]⟩⟩ := by
  intro message s
  obtain ⟨encoded, s', hs, hr⟩ := h message s
  refine ⟨encoded, s', ?_, fun t => ?_⟩
  · have hstage : (runStage sent outbound [message]).run.run s = (.ok [encoded], s') :=
      run_bind_of_ok hs
    exact run_bind_of_ok hstage
  · obtain ⟨t', ht⟩ := hr t
    exact ⟨t', run_bind_of_ok ht⟩

/-- What comes last on the way out is undone first on the way in. -/
theorem UndoesItself.append {p q : Pipeline S (StateM σ)} (hp : p.UndoesItself sent received)
    (hq : q.UndoesItself sent received) :
    UndoesItself sent received ⟨⟨q.inbound.entries ++ p.inbound.entries⟩,
      ⟨p.outbound.entries ++ q.outbound.entries⟩⟩ := by
  intro message s
  obtain ⟨half, s₁, hs₁, hr₁⟩ := hp message s
  obtain ⟨encoded, s₂, hs₂, hr₂⟩ := hq half s₁
  simp only [Chain.listeners, List.map_append, sendThrough_append, receiveThrough_append]
  refine ⟨encoded, s₂, (run_bind_of_ok hs₁).trans hs₂, fun t => ?_⟩
  obtain ⟨t₁, ht₁⟩ := hr₂ t
  obtain ⟨t₂, ht₂⟩ := hr₁ t₁
  exact ⟨t₂, (run_bind_of_ok ht₁).trans ht₂⟩

/-- A pipeline that undoes itself sends every message as one, for which the terminal is called with
the original. -/
theorem UndoesItself.mirrors {p : Pipeline S (StateM σ)} (h : p.UndoesItself sent received) :
    p.Mirrors sent received := by
  intro message s
  obtain ⟨encoded, s', hs, hr⟩ := h message s
  refine ⟨encoded, s', fun collected => ?_, fun t => ?_⟩
  · have hsend : (p.send sent message collected).run.run s =
        (.ok (collected ++ [encoded]), s') := run_bind_of_ok hs
    rw [run_collect, StateT.run_bind, hsend]
    rfl
  · obtain ⟨t', ht⟩ := hr t
    exact ⟨t', fun terminal => run_bind_of_ok ht⟩

/-- A pipeline with the listeners of several pairs put around or into it: in one chain they stand in
order, in the other one in reverse order. -/
def around (p : Pipeline S m) (duplexes : List (Duplex S m)) : Placement → Pipeline S m
  | .outermost =>
    ⟨⟨(duplexes.map Duplex.inEntry).reverse ++ p.inbound.entries⟩,
      ⟨p.outbound.entries ++ duplexes.map Duplex.outEntry⟩⟩
  | .innermost =>
    ⟨⟨p.inbound.entries ++ duplexes.map Duplex.inEntry⟩,
      ⟨(duplexes.map Duplex.outEntry).reverse ++ p.outbound.entries⟩⟩

private theorem around_nil (p : Pipeline S m) (placement : Placement) : p.around
    [] placement = p := by
  cases placement <;> simp [Pipeline.around]

/-- Stages are put around a pipeline, or into it, one by one. -/
private theorem around_cons (p : Pipeline S m) (duplex : Duplex S m) (duplexes : List (Duplex S m))
    (placement : Placement) :
    p.around (duplex :: duplexes) placement =
      (p.around [duplex] placement).around duplexes placement := by
  cases placement <;> simp [Pipeline.around]

/-- A name is in use in one of the chains. -/
def Uses (p : Pipeline S m) (name : String) : Prop :=
  name ∈ p.inbound.names ∨ name ∈ p.outbound.names

/-- A stage brings its own name, and those in use stay in use. -/
private theorem uses_around {p : Pipeline S m} {duplex : Duplex S m} {placement : Placement}
    {name : String} :
    (p.around [duplex] placement).Uses name ↔ name = duplex.name ∨ p.Uses name := by
  cases placement <;>
    simp [Uses, Pipeline.around, Chain.names, Duplex.inEntry, Duplex.outEntry] <;> tauto

/-- A pipeline that undoes itself does so with more listeners that undo each other. -/
theorem UndoesItself.around {p : Pipeline S (StateM σ)} (hp : p.UndoesItself sent received)
    {duplexes : List (Duplex S (StateM σ))}
    (hu : ∀ duplex ∈ duplexes, Undoes sent received duplex.inbound duplex.outbound)
    (placement : Placement) : (p.around duplexes placement).UndoesItself sent received := by
  induction duplexes generalizing p with
  | nil => rwa [around_nil]
  | cons duplex duplexes ih =>
    obtain ⟨hu, hus⟩ := List.forall_mem_cons.mp hu
    have hone := undoesItself_singleton duplex.name hu
    rw [around_cons]
    refine ih ?_ hus
    -- the new pair stands behind the others on the way out, or in front of them
    cases placement with
    | outermost => exact hp.append hone
    | innermost => exact hone.append hp

end Pipeline

/-! ### Two stages -/

namespace Sample

/-- A frame with some bits of every byte turned over. -/
def masked (mask : UInt8) (frame : Bytes) : Bytes := frame.map (· ^^^ mask)

/-- Masking twice with the same byte gives the frame back. -/
private theorem masked_masked (mask : UInt8) (frame : Bytes) : masked mask
    (masked mask frame) = frame := by
  rw [masked, masked, List.map_map]
  refine List.map_id'' (fun byte => ?_) frame
  rw [Function.comp_apply, UInt8.xor_assoc, UInt8.xor_self, UInt8.xor_zero]

/-- Frames travel masked; packets pass unchanged. -/
def masking (mask : UInt8) : Duplex S (StateM σ) where
  name := "mask"
  outbound _
    | .bytes frame => return [.bytes (masked mask frame)]
    | .packet packet => return [.packet packet]
  inbound _
    | .bytes frame => return some (.bytes (masked mask frame))
    | .packet packet => return some (.packet packet)

/-- Frames travel with a byte in front of them and are counted when they are sent; a frame without
the byte is refused. -/
def marking (mark : UInt8) : Duplex S (StateM Nat) where
  name := "mark"
  outbound _
    | .bytes frame => do
      modify (· + 1)
      return [.bytes (mark :: frame)]
    | .packet packet => return [.packet packet]
  inbound _
    | .bytes (first :: frame) =>
      if first = mark then return some (.bytes frame)
      else throw (.malformedPacket none (.unexpectedEnd 1))
    | .bytes [] => throw (.malformedPacket none (.unexpectedEnd 1))
    | .packet packet => return some (.packet packet)

/-- A stage that masks undoes itself, whatever the mask. -/
theorem undoes_masking (sent received : Delivery) (mask : UInt8) :
    Undoes (S := S) (σ := σ) sent received (masking mask).inbound (masking mask).outbound := by
  intro message s
  cases message with
  | packet packet => exact ⟨.packet packet, s, rfl, fun t => ⟨t, rfl⟩⟩
  | bytes frame =>
    refine ⟨.bytes (masked mask frame), s, rfl, fun t => ⟨t, ?_⟩⟩
    simp only [masking, masked_masked]
    rfl

/-- A stage that marks messages takes its mark off again. -/
private theorem undoes_marking (sent received : Delivery) (mark : UInt8) :
    Undoes (S := S) sent received (marking mark).inbound (marking mark).outbound := by
  intro message s
  cases message with
  | packet packet => exact ⟨.packet packet, s, rfl, fun t => ⟨t, rfl⟩⟩
  | bytes frame =>
    refine ⟨.bytes (mark :: frame), s + 1, rfl, fun t => ⟨t, ?_⟩⟩
    simp only [marking, if_true]
    rfl

end Sample

/-! ### Protocols with listeners in pairs -/

namespace Protocol

open Sample

variable {sent received : Delivery}

private theorem addOutbound_of_ok {p : Protocol S m} {name : String}
    {listener : OutboundListener S m}
    {position : Position} {outbound : Chain (OutboundListener S m)}
    (h : p.pipeline.outbound.add name listener position = .ok outbound) :
    p.addOutbound name listener position =
      .ok { p with pipeline := { p.pipeline with outbound } } := by
  rw [addOutbound, h]
  rfl

private theorem addInbound_of_ok {p : Protocol S m} {name : String} {listener : InboundListener S m}
    {position : Position} {inbound : Chain (InboundListener S m)}
    (h : p.pipeline.inbound.add name listener position = .ok inbound) :
    p.addInbound name listener position =
      .ok { p with pipeline := { p.pipeline with inbound } } := by
  rw [addInbound, h]
  rfl

/-- Listeners under a new name are added. -/
private theorem addDuplex_eq {p : Protocol S m} {duplex : Duplex S m}
    (hn : ¬ p.pipeline.Uses duplex.name) (placement : Placement) :
    p.addDuplex placement duplex =
      .ok { p with pipeline := p.pipeline.around [duplex] placement } := by
  obtain ⟨hi, ho⟩ := not_or.mp hn
  rw [addDuplex]
  cases placement with
  | outermost =>
    rw [Placement.outward, Placement.inward, addOutbound_of_ok (Chain.add_last_of_notMem ho)]
    exact addInbound_of_ok (Chain.add_first_of_notMem hi)
  | innermost =>
    rw [Placement.outward, Placement.inward, addOutbound_of_ok (Chain.add_first_of_notMem ho)]
    exact addInbound_of_ok (Chain.add_last_of_notMem hi)

/-- Listeners under distinct new names are added, and nothing else changes. -/
private theorem addAll_eq {p : Protocol S m} {duplexes : List (Duplex S m)}
    (hd : (duplexes.map Duplex.name).Nodup)
    (hn : ∀ duplex ∈ duplexes, ¬ p.pipeline.Uses duplex.name) (placement : Placement) :
    p.addAll placement duplexes =
      .ok { p with pipeline := p.pipeline.around duplexes placement } := by
  induction duplexes generalizing p with
  | nil =>
    rw [Pipeline.around_nil]
    rfl
  | cons duplex duplexes ih =>
    obtain ⟨hn, hns⟩ := List.forall_mem_cons.mp hn
    obtain ⟨hnew, hd⟩ := List.nodup_cons.mp hd
    rw [addAll, addDuplex_eq hn, Pipeline.around_cons _ duplex duplexes]
    refine ih hd fun other ho => ?_
    rw [Pipeline.uses_around, not_or]
    refine ⟨fun he => hnew ?_, hns other ho⟩
    exact he ▸ List.mem_map_of_mem ho

/-- Listeners under distinct names that are added in order stand in order in one chain and in
reverse order in the other. If each on the way in undoes the one on the way out, so do the chains:
both where they are added next to the wire and where they are added next to the application. -/
theorem mirrors_addAll (p : Protocol S (StateM σ)) (hp : p.pipeline = .empty)
    (placement : Placement) (duplexes : List (Duplex S (StateM σ)))
    (hd : (duplexes.map Duplex.name).Nodup)
    (hu : ∀ duplex ∈ duplexes, Undoes sent received duplex.inbound duplex.outbound) :
    p.addAll placement duplexes =
        .ok { p with pipeline := Pipeline.empty.around duplexes placement } ∧
      (Pipeline.empty.around duplexes placement).Mirrors sent received := by
  have hn : ∀ duplex ∈ duplexes, ¬ p.pipeline.Uses duplex.name := fun duplex _ => by
    rw [hp]
    exact not_or.mpr ⟨List.not_mem_nil, List.not_mem_nil⟩
  have hadd := addAll_eq hd hn placement
  rw [hp] at hadd
  exact ⟨hadd, (Pipeline.undoesItself_empty.around hu placement).mirrors⟩

/-- A mask and a mark undo each other at both ends. -/
theorem mirrors_addAll_mask :
    (Protocol.initial (S := plain) (m := StateM Nat)).pipeline = .empty ∧
    ([masking (S := plain) 85, marking 9].map Duplex.name).Nodup ∧
    (∃ p', initial.addAll .outermost [masking (S := plain) 85, marking 9] = .ok p' ∧
      p'.pipeline.outbound.names = ["mask", "mark"] ∧
      p'.pipeline.inbound.names = ["mark", "mask"] ∧ p'.pipeline.Mirrors {} {}) ∧
    ∃ p', initial.addAll .innermost [masking (S := plain) 85, marking 9] = .ok p' ∧
      p'.pipeline.outbound.names = ["mark", "mask"] ∧
      p'.pipeline.inbound.names = ["mask", "mark"] ∧ p'.pipeline.Mirrors {} {} := by
  have hd : ([masking (S := plain) 85, marking 9].map Duplex.name).Nodup := by decide
  have hu : ∀ duplex ∈ [masking (S := plain) 85, marking 9],
      Undoes {} {} duplex.inbound duplex.outbound := by
    rw [List.forall_mem_cons, List.forall_mem_singleton]
    exact ⟨undoes_masking _ _ _, undoes_marking _ _ _⟩
  obtain ⟨hout, hmirrors⟩ := mirrors_addAll initial rfl .outermost _ hd hu
  obtain ⟨hin, hmirrors'⟩ := mirrors_addAll initial rfl .innermost _ hd hu
  exact ⟨rfl, hd, ⟨_, hout, rfl, rfl, hmirrors⟩, _, hin, rfl, rfl, hmirrors'⟩

/-- Next to the wire the mark comes after the mask, next to the application in front of it. -/
example :
    (∃ p', initial.addAll .outermost [masking (S := plain) 85, marking 9] = .ok p' ∧
      ((p'.pipeline.collect {} (.bytes [1, 2])).run.run []).run 0 =
        ((.ok (), [.bytes [9, 84, 87]]), 1)) ∧
    ∃ p', initial.addAll .innermost [masking (S := plain) 85, marking 9] = .ok p' ∧
      ((p'.pipeline.collect {} (.bytes [1, 2])).run.run []).run 0 =
        ((.ok (), [.bytes [92, 84, 87]]), 1) :=
  ⟨⟨_, rfl, rfl⟩, _, rfl, rfl⟩

end Protocol

end PacketSession
