import PacketSession.Simulation.Carrier

/-!
# Running scripts in a simulated network

A `Network` knows the protocols that its sessions speak. A script runs at a station; it gives
its result, the events that were seen meanwhile, each with the number of its station, and the
world afterwards.

A script may have another script run at another station. The session that it runs at stays as
it is meanwhile, and what is seen elsewhere takes its place among the events.
-/

namespace PacketSession

namespace Simulation

variable {S : Schema}

/-- Events with the numbers of their stations, in order. -/
abbrev Log (S : Schema) := List (Nat × Event S (Note S))

/-- An event of a station, under the number of the station where it was seen. -/
def placed (station : Nat) : Event S (Note S) → Nat × Event S (Note S)
  | .note (.elsewhere other event) => (other, event)
  | event => (station, event)

/-- What a step brought about. -/
structure Step (S : Schema) (α : Type) where
  /-- Its result. -/
  result : α
  /-- What was seen meanwhile. -/
  log : Log S
  /-- The world afterwards. -/
  world : World S

/-- The protocols of a network, and how deeply calls may nest. -/
structure Network (S : Schema) where
  /-- The protocols by their numbers. -/
  protocols : List (Protocol S (Act S))
  /-- How deeply calls of callbacks may nest. -/
  depth : Nat := 256

namespace Network

/-- A network that knows no protocol. -/
def empty : Network S := { protocols := [] }

variable (n : Network S)

/-- The application at a station that speaks the protocol of this number. -/
def application (protocol : Nat) : Application S (Note S) (World S) :=
  ⟨(n.protocols[protocol]?).getD .initial, carrier⟩

/-- Adds a station whose session speaks the protocol of this number. -/
def addStation (w : World S) (name : String) (protocol : Nat) : World S :=
  let p := (n.application protocol).protocol
  w.addStation name protocol p.codecs p.settings

/-- Runs the session of a station; without such a station nothing happens. -/
def visit {α : Type} (index : Nat) (run : Application S (Note S) (World S) → Run S α)
    (w : World S) : Option (Step S α) :=
  w.stations[index]?.map fun station =>
    let (result, e) := (run (n.application station.protocol)).run
      ⟨station.session, [], { w with active := index }⟩
    { result
      log := (e.journal.reverse.filterMap Entry.event?).map (placed index)
      world := e.outside.modifyStation index fun station =>
        { station with session := e.session } }

/-- Runs a script at a station. -/
def runAt {α : Type} (index : Nat) (script : Act S α) : World S → Option (Step S α) :=
  n.visit index fun a => a.run n.depth script

/-- Has a handler take a packet at a station, whatever its protocol binds. -/
def invokeAt (index : Nat) (handler : Handler S (Act S)) (delivery : Delivery)
    (d : Decoded S) : World S → Option (Step S Unit) :=
  n.visit index fun a => (handler.map (Script.run (a.perform n.depth))).invoke delivery d

/-- Runs a script at another station, from the one that is active. -/
def runElsewhere {α : Type} (index : Nat) (script : Act S α) : Act S (Option α) := do
  let session ← Script.call .inspect
  let there ← Script.modifyGet fun w =>
    match n.runAt index script (w.modifyActive fun station => { station with session }) with
    | none => (none, w)
    | some step => (some (step.result, step.log), { step.world with active := w.active })
  match there with
  | none => return none
  | some (result, log) =>
    log.forM fun (station, event) => Script.note (.elsewhere station event)
    return some result

end Network

end Simulation

end PacketSession
