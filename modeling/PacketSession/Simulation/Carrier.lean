import PacketSession.Simulation.World

/-!
# The connections of a simulated network

A frame handed to a planned connection is refused if the connection does not take frames any
more, if it is the turn of the planned failure, or if it is too long, in this order. Frames
handed to an end in memory are queued at the other end at once; frames handed to an end of a
byte stream wait for its writer.

A planned connection exists as long as a session has it, a station knows it or a call under way
holds on to it. The writes that it has not completed when it ceases to exist are given up.
-/

namespace PacketSession

namespace Simulation

variable {S : Schema}

namespace PlannedConnection

/-- Whether a connection takes frames. -/
def isConnected (c : PlannedConnection) : Bool := c.plan.connected && !c.closed

/-- Why a payload of this length is refused, if it is. -/
def refusal? (c : PlannedConnection) (length : Nat) : Option TransportError :=
  if !c.isConnected then some .connectionClosed
  else
    match c.plan.failure.filter (fun failure => failure.1 = c.calls) with
    | some (_, cause) => some cause
    | none =>
      match c.plan.maxPayload.filter (fun limit => limit < length) with
      | some limit => some (.frameTooLarge length limit)
      | none => none

/-- Takes or refuses a frame; `id` is the number of the write if it completes later. -/
def send (c : PlannedConnection) (length : Nat) (id : WriteId) :
    Except TransportError WriteHandle × PlannedConnection :=
  match c.refusal? length with
  | some cause => (.error cause, { c with calls := c.calls + 1 })
  | none =>
    if c.plan.pending then
      (.ok (.pending id), { c with calls := c.calls + 1, writes := c.writes ++ [some id] })
    else (.ok (.ready (.ok ())), { c with calls := c.calls + 1 })

end PlannedConnection

namespace World

/-- Replaces a connection. -/
def setLink (w : World S) (connection : ConnectionId) (link : Link) : World S :=
  { w with links := w.links.set connection link }

/-- Replaces a pair in memory. -/
def setPair (w : World S) (index : Nat) (pair : MemoryPair) : World S :=
  { w with pairs := w.pairs.set index pair }

/-- Replaces an end of a byte stream. -/
def setStream (w : World S) (index : Nat) (e : StreamEnd) : World S :=
  { w with streams := w.streams.set index e }

/-- Hands a frame to a connection. -/
def send (w : World S) (connection : ConnectionId) (frame : WireFrame) :
    Except TransportError WriteHandle × World S :=
  match w.links[connection]? with
  | some (.planned planned) =>
    let (id, writes) := w.writes.create
    let (result, planned) := planned.send frame.payload.length id
    (result, { w with writes }.setLink connection (.planned planned))
  | some (.memory index side _) =>
    match w.pairs[index]? with
    | none => (.error .connectionClosed, w)
    | some pair =>
      let (result, pair) := pair.send side frame
      (result.map fun () => .ready (.ok ()), w.setPair index pair)
  | some (.stream index) =>
    match w.streams[index]? with
    | none => (.error .connectionClosed, w)
    | some e =>
      let (id, writes) := w.writes.create
      let (result, e) := e.send frame id
      (result.map fun () => .pending id, { w with writes }.setStream index e)
  | none => (.error .connectionClosed, w)

/-- Asks a connection to go away. -/
def disconnect (w : World S) (connection : ConnectionId) : World S :=
  match w.links[connection]? with
  | some (.planned planned) => w.setLink connection (.planned { planned with closed := true })
  | some (.memory index side _) =>
    match w.pairs[index]? with
    | none => w
    | some pair => w.setPair index (pair.disconnect side)
  | some (.stream index) =>
    match w.streams[index]? with
    | none => w
    | some e => w.setStream index e.disconnect
  | none => w

/-- Whether a connection goes away as soon as it is asked to. -/
def closesAtOnce (w : World S) (connection : ConnectionId) : Bool :=
  ((w.plan? connection).map ConnectionPlan.closesAtOnce).getD false

/-- Whether a connection takes frames. -/
def isConnected (w : World S) (connection : ConnectionId) : Bool :=
  match w.links[connection]? with
  | some (.planned planned) => planned.isConnected
  | some (.memory index side _) =>
    (w.pairs[index]?.map fun pair => pair.isConnected side).getD false
  | some (.stream index) => (w.streams[index]?.map StreamEnd.isConnected).getD false
  | none => false

/-- Where the peer of a connection is; only planned connections know. -/
def address (w : World S) (connection : ConnectionId) : Option SocketAddress :=
  match w.links[connection]? with
  | some (.planned planned) => planned.plan.address
  | _ => none

end World

/-- Runs a script that holds on to a connection, if one is given. -/
def holding {α : Type} (connection : Option ConnectionId) (script : Act S α) : Act S α := do
  let held := (← Script.outside).held
  Script.modify fun w => { w with held := connection.toList ++ held }
  let result ← script
  Script.modify fun w => { w with held }
  return result

/-- Hands a frame to a connection. What an open session sends is part of a send under way; what
it sends later announces a close, and nobody waits for that. -/
def handOver (connection : ConnectionId) (frame : WireFrame) :
    Act S (Except TransportError WriteHandle) := do
  let result ← Script.modifyGet fun w => w.send connection frame
  match result with
  | .ok (.pending id) =>
    if (← Script.call .inspect).isOpen then
      Script.modify fun w => { w with underWay := id :: w.underWay }
  | _ => pure ()
  return result

/-- The connections of a simulated network as scripts: a connection that goes at once reports
that to its session before the request to go away returns. -/
def carrier : Carrier (World S) (Act S) where
  send := handOver
  disconnect connection _ := do
    Script.modify fun w => w.disconnect connection
    if (← Script.outside).closesAtOnce connection then
      holding (some connection) (Script.call .transportClosed)
  isConnected connection := return (← Script.outside).isConnected connection
  address := World.address

end Simulation

end PacketSession
