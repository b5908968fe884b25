import PacketSession.Proofs.Session.Calls

/-!
# What scripts ask for

A script *asks* for nothing but calls of some kind if every call that it may come to is of this
kind, whatever it is answered. So a relation that calls of this kind follow is followed by the
script, and by the callbacks and connections of an application all of whose scripts are so.
-/

namespace PacketSession

variable {S : Schema} {N X : Type} {α : Type} {Q : Request S → Prop}

/-- Every call that a script may come to is of some kind. -/
inductive Script.Asks (Q : Request S → Prop) : Script S N X α → Prop
  | done (result : α) : Asks Q (.done result)
  | ask {request : Request S} {next : request.Answer → Script S N X α} : Q request →
      (∀ answer, (next answer).Asks Q) → Asks Q (.ask request next)
  | look {next : X → Script S N X α} : (∀ x, (next x).Asks Q) → Asks Q (.look next)
  | put {next : Script S N X α} (x : X) : next.Asks Q → Asks Q (.put x next)
  | write {next : Script S N X α} (note : N) : next.Asks Q → Asks Q (.write note next)

/-- Every call that the callbacks or the connections of an application may come to is of some
kind. -/
structure Application.Asks (a : Application S N X) (Q : Request S → Prop) : Prop where
  handler : ∀ entry ∈ a.protocol.handlers.entries, ∀ packet delivery,
    (entry.2.run packet delivery).Asks Q
  inbound : ∀ stage ∈ a.protocol.pipeline.inbound.listeners, ∀ delivery message,
    Script.Asks Q (stage delivery message).run
  outbound : ∀ stage ∈ a.protocol.pipeline.outbound.listeners, ∀ delivery message,
    Script.Asks Q (stage delivery message).run
  opened : a.protocol.lifecycle.onOpened.Asks Q
  closed : a.protocol.lifecycle.onClosed.Asks Q
  failed : ∀ cause, (a.protocol.lifecycle.onException cause).Asks Q
  carries : ∀ connection frame, (a.carrier.send connection frame).Asks Q
  hangsUp : ∀ connection reason, (a.carrier.disconnect connection reason).Asks Q
  connected : ∀ connection, (a.carrier.isConnected connection).Asks Q

variable {R : Endpoint S N X → Endpoint S N X → Prop} [IsPreorder (Endpoint S N X) R]
  {answer : (request : Request S) → SessionM S N X request.Answer}
  (ha : ∀ request, Q request → (answer request).Follows R)
  (hx : ∀ (e : Endpoint S N X) (x : X), R e { e with outside := x })
  (hn : ∀ (e : Endpoint S N X) (n : N), R e (e.record (.note n)))

include ha hx hn

/-- A script follows a relation if the answers to the calls that it asks for do. -/
theorem Script.Asks.follows_run {script : Script S N X α} (hs : script.Asks Q) :
    (script.run answer).Follows R := by
  induction hs with
  | done result => exact .pure result
  | ask hq _ ih => exact .bind (ha _ hq) ih
  | look _ ih => exact .bind .get fun e => ih e.outside
  | put x _ ih => exact .bind (fun e => hx e x) fun _ => ih
  | write n _ ih => exact .bind (fun e => hn e n) fun _ => ih

/-- The callbacks and the connections of an application follow a relation if the answers to the
calls that they ask for do. -/
theorem Application.Asks.callbacksFollow_host {a : Application S N X} (hs : a.Asks Q) :
    (a.host answer).CallbacksFollow R where
  handler := by
    intro entry he packet delivery
    obtain ⟨original, ho, rfl⟩ := List.mem_map.mp he
    exact (hs.handler original ho packet delivery).follows_run ha hx hn
  inbound := by
    intro stage hstage delivery message
    obtain ⟨entry, he, rfl⟩ := List.mem_map.mp hstage
    obtain ⟨original, ho, rfl⟩ := List.mem_map.mp he
    exact (hs.inbound _ (List.mem_map_of_mem ho) delivery message).follows_run ha hx hn
  outbound := by
    intro stage hstage delivery message
    obtain ⟨entry, he, rfl⟩ := List.mem_map.mp hstage
    obtain ⟨original, ho, rfl⟩ := List.mem_map.mp he
    exact (hs.outbound _ (List.mem_map_of_mem ho) delivery message).follows_run ha hx hn
  opened := hs.opened.follows_run ha hx hn
  closed := hs.closed.follows_run ha hx hn
  failed cause := (hs.failed cause).follows_run ha hx hn
  carries connection frame := (hs.carries connection frame).follows_run ha hx hn
  hangsUp connection reason := (hs.hangsUp connection reason).follows_run ha hx hn
  connected connection := (hs.connected connection).follows_run ha hx hn

end PacketSession
