import PacketSession.Simulation.Listener

/-!
# Protocols of a simulated network

A handler may answer requests and settle the waits that responses belong to, and then acts on
the session; the callbacks at the turning points of a session just act. `ProtocolPlan`
collects everything that a protocol is put together from, in order. What callbacks do at other
stations they do through a network.
-/

namespace PacketSession

namespace Simulation

variable {S : Schema}

/-- What a handler does with each packet. -/
structure HandlerPlan (S : Schema) where
  /-- The kind it is bound for, if it is for one kind only. -/
  accepts : Option (PacketKind S.Kind)
  /-- The answer that it sends to a packet, if the packet asks for one. -/
  answer : Packet S → Option (Packet S)
  /-- The number of the wait that a packet settles, if it settles one. -/
  settles : Packet S → Option Nat
  /-- What it does then. -/
  actions : List (String × Action S)

/-- The handler of a plan. -/
def HandlerPlan.handler (n : Network S) (plan : HandlerPlan S) : Handler S (Act S) where
  accepts := plan.accepts
  run := fun packet delivery => do
    match plan.answer packet with
    | some answer =>
      Script.note (.answered (← sending none (Script.call (.send answer delivery))))
    | none => pure ()
    match plan.settles packet with
    | some id => Script.note (.resolved (← Script.call (.settleReply id (.ok packet))))
    | none => pure ()
    runActions n plan.actions

/-- What is done at the turning points of a session. -/
structure LifecyclePlan (S : Schema) where
  /-- When it opens. -/
  opened : List (String × Action S)
  /-- When it closes. -/
  closed : List (String × Action S)
  /-- When it fails. -/
  exception : List (String × Action S)

/-- The callbacks of a plan. -/
def LifecyclePlan.lifecycle (n : Network S) (plan : LifecyclePlan S) : Lifecycle (Act S) where
  onOpened := runActions n plan.opened
  onClosed := runActions n plan.closed
  onException := fun _ => runActions n plan.exception

/-- A listener with its name and position. -/
structure NamedListener (S : Schema) where
  name : String
  plan : ListenerPlan S
  position : Position

/-- A codec with the identifier that it is to have. -/
structure NamedCodec (S : Schema) where
  id : PacketId
  kind : PacketKind S.Kind
  codec : Codec S kind

/-- What a protocol is put together from. -/
structure ProtocolPlan (S : Schema) where
  codecs : List (NamedCodec S)
  handlers : List (PacketId × HandlerPlan S)
  inbound : List (NamedListener S)
  outbound : List (NamedListener S)
  /-- The settings, and whether they are to be checked. -/
  settings : Settings
  checked : Bool
  lifecycle : LifecyclePlan S
  /-- The number of the first listener; the others follow. -/
  firstNumber : Nat

namespace ProtocolPlan

/-- The codecs, handlers and listeners of a protocol. -/
def register (n : Network S) (plan : ProtocolPlan S) :
    Except RegistrationError (Protocol S (Act S)) := do
  let p : Protocol S (Act S) := .initial
  let p ← plan.codecs.foldlM (fun p c => p.register c.id c.codec) p
  let p ← plan.handlers.foldlM (fun p entry => p.bind entry.1 (entry.2.handler n)) p
  let p ← (plan.inbound.zipIdx plan.firstNumber).foldlM
    (fun p (l, number) => p.addInbound l.name (l.plan.inbound n l.name number) l.position) p
  (plan.outbound.zipIdx (plan.firstNumber + plan.inbound.length)).foldlM
    (fun p (l, number) => p.addOutbound l.name (l.plan.outbound n l.name number) l.position) p

/-- Puts the protocol together; the first thing that is refused is the answer. -/
def build (n : Network S) (plan : ProtocolPlan S) : Except Error (Protocol S (Act S)) :=
  match plan.register n with
  | .error e => .error (.registration e)
  | .ok p =>
    match (if plan.checked then plan.settings.validate else .ok ()) with
    | .error e => .error e
    | .ok () => .ok { p with settings := plan.settings, lifecycle := plan.lifecycle.lifecycle n }

end ProtocolPlan

/-- The number of listeners of some protocols. -/
def listenerCount (plans : List (ProtocolPlan S)) : Nat :=
  plans.foldr (fun plan count => plan.inbound.length + plan.outbound.length + count) 0

end Simulation

end PacketSession
