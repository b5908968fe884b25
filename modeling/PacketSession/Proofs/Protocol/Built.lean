import PacketSession.Proofs.Packet.Registry
import PacketSession.Protocol.Basic

/-!
# Protocols that were put together

`Protocol.Built` holds of every protocol that the steps of putting one together lead to, whatever
they bind, add and set. Registering is the only step that touches the codecs, so they are well
formed, and binding is the only one that touches the handlers, so none has a reserved identifier.
-/

namespace PacketSession

variable {S : Schema} {m : Type → Type} [Monad m]

namespace Protocol

/-- A protocol was put together step by step. -/
inductive Built : Protocol S m → Prop
  /-- It is the one to start from. -/
  | initial : Built initial
  /-- A codec is registered. -/
  | register {p p' : Protocol S m} {id : PacketId} {kind : PacketKind S.Kind}
      {codec : Codec S kind} : Built p → p.register id codec = .ok p' → Built p'
  /-- A handler is bound. -/
  | bind {p p' : Protocol S m} {id : PacketId} {handler : Handler S m} :
      Built p → p.bind id handler = .ok p' → Built p'
  /-- A listener is added on the way in. -/
  | addInbound {p p' : Protocol S m} {name : String} {listener : InboundListener S m}
      {position : Position} : Built p → p.addInbound name listener position = .ok p' → Built p'
  /-- A listener is added on the way out. -/
  | addOutbound {p p' : Protocol S m} {name : String} {listener : OutboundListener S m}
      {position : Position} : Built p → p.addOutbound name listener position = .ok p' → Built p'
  /-- The callbacks at turning points are set. -/
  | lifecycle {p : Protocol S m} (lifecycle : Lifecycle m) : Built p → Built { p with lifecycle }
  /-- The settings are set. -/
  | settings {p : Protocol S m} (settings : Settings) : Built p → Built { p with settings }

variable {p : Protocol S m}

/-- What holds of the codecs and handlers to start from and is kept by registering and binding
holds of the codecs and handlers of every protocol that was put together. -/
theorem Built.tables_induction {motive : Registry S → HandlerTable S m → Prop} (h : p.Built)
    (start : motive .reserved .empty)
    (register : ∀ {r r' t} {id : PacketId} {kind : PacketKind S.Kind} {codec : Codec S kind},
      motive r t → r.register id codec = .ok r' → motive r' t)
    (bind : ∀ {r t t'} {id : PacketId} {handler : Handler S m},
      motive r t → t.insert id handler = .ok t' → motive r t') :
    motive p.codecs p.handlers := by
  induction h with
  | initial => exact start
  | register _ hr ih =>
    obtain ⟨codecs, hc, hp⟩ := exists_of_bind_eq_ok hr
    cases hp
    exact register ih hc
  | bind _ hb ih =>
    obtain ⟨handlers, ht, hp⟩ := exists_of_bind_eq_ok hb
    cases hp
    exact bind ih ht
  -- the other steps leave the codecs and handlers as they are
  | addInbound _ ha ih =>
    obtain ⟨chain, -, hp⟩ := exists_of_bind_eq_ok ha
    cases hp
    exact ih
  | addOutbound _ ha ih =>
    obtain ⟨chain, -, hp⟩ := exists_of_bind_eq_ok ha
    cases hp
    exact ih
  | lifecycle _ _ ih => exact ih
  | settings _ _ ih => exact ih

/-- The codecs of a protocol that was put together are well formed. -/
theorem Built.wellFormed (h : p.Built) : p.codecs.WellFormed :=
  h.tables_induction (motive := fun r _ => r.WellFormed) Registry.wellFormed_reserved
    (fun hw hr => hw.register hr) fun hw _ => hw

/-- No handler of a protocol that was put together has a reserved identifier. -/
theorem Built.isReserved_handlers (h : p.Built) :
    ∀ entry ∈ p.handlers.entries, entry.1.isReserved = false := by
  refine h.tables_induction (motive := fun _ t => ∀ entry ∈ t.entries, entry.1.isReserved = false)
    (by simp [HandlerTable.empty]) (fun ht _ => ht) ?_
  intro _ t t' id handler ht hb entry he
  unfold HandlerTable.insert at hb
  split_ifs at hb with hr hc
  cases hb
  obtain he | he := List.mem_append.mp he
  · exact ht entry he
  · rw [List.mem_singleton.mp he]
    simpa using hr

end Protocol

end PacketSession
