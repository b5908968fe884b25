import PacketSession.Simulation.Network

/-!
# Actions as scripts

Every action is a script at its station, so that callbacks can do whatever can be done from
outside. Actions that concern another station as well reach it through a network.

Reading passes on all arrivals there are, one at a time. Whoever reads takes the source away
meanwhile and puts it back unless reading is over, so a callback that wants to read finds
nothing to be read from.
-/

namespace PacketSession

namespace Simulation

variable {S : Schema}

namespace World

/-- The active station. -/
def station? (w : World S) : Option (Station S) := w.stations[w.active]?

/-! ### Connections -/

/-- The planned connection that the active station knows, with its number. -/
def planned? (w : World S) : Option (ConnectionId × PlannedConnection) := do
  let connection ← (← w.station?).connection
  match ← w.links[connection]? with
  | .planned planned => some (connection, planned)
  | _ => none

/-- Takes a write that was not completed yet off the connection of the active station. -/
def takeWrite (w : World S) (index : Nat) : Option WriteId × World S :=
  match w.planned? with
  | none => (none, w)
  | some (connection, planned) =>
    let writes := planned.writes.set index none
    ((planned.writes[index]?).join, w.setLink connection (.planned { planned with writes }))

/-- Completes a write of the connection of the active station. -/
def completeWrite (w : World S) (index : Nat) (result : WriteResult) : Outcome S × World S :=
  match w.takeWrite index with
  | (none, w) => (.missing, w)
  | (some id, w) => (.flag (w.isAwaited id), { w with writes := w.writes.settle id result })

/-- Gives up a write of the connection of the active station. -/
def abandonWrite (w : World S) (index : Nat) : Outcome S × World S :=
  match w.takeWrite index with
  | (none, w) => (.missing, w)
  | (some id, w) => (.flag true, { w with writes := w.writes.abandon id })

/-- Has the connection of the active station go away unasked. -/
def sever (w : World S) : World S :=
  match w.planned? with
  | none => w
  | some (connection, planned) => w.setLink connection (.planned { planned with closed := true })

/-- The active station gets to know a connection, in place of the one that it knew before. -/
def introduce (w : World S) (connection : ConnectionId) : World S :=
  w.modifyActive fun station => { station with connection := some connection }

/-- A new planned connection that the active station knows. -/
def connect (w : World S) (plan : ConnectionPlan) : ConnectionId × World S :=
  let (connection, w) := w.addPlanned plan
  (connection, w.introduce connection)

/-- Whether a connection of the active station, whose session is given, still exists. -/
def isHeld (w : World S) (session : Session S) (connection : ConnectionId) : Bool :=
  session.connection == some connection || w.held.contains connection ||
    (w.station?.bind Station.connection) == some connection

/-- Whether a write of the active station was given up because its connection does not exist
any more. -/
def isLost (w : World S) (session : Session S) (id : WriteId) : Bool :=
  w.links.zipIdx.any fun (link, connection) =>
    match link with
    | .planned planned => planned.writes.contains (some id) && !w.isHeld session connection
    | _ => false

/-- The outcome of a write of the active station, once it has one. -/
def outcome? (w : World S) (session : Session S) (id : WriteId) : Option WriteResult :=
  match w.writes.outcome? id with
  | some result => some result
  | none => if w.isLost session id then some (.error .writerGone) else none

/-! ### Sends -/

/-- Keeps a send of the active station under a label. -/
def keepSend (w : World S) (label : String) (handle : SendHandle) : World S :=
  w.modifyActive fun station =>
    { station with sends := (label, handle) :: station.sends.filter fun send => send.1 ≠ label }

/-- Asks whether a labelled send of the active station is done. -/
def pollSend (w : World S) (session : Session S) (label : String) : Outcome S × World S :=
  match w.station?.bind fun station => station.sends.lookup label with
  | none => (.missing, w)
  | some handle =>
    let (result, handle) := handle.poll (w.outcome? session)
    let outcome := match result with
      | none => .pending
      | some result => .written result
    (outcome, w.keepSend label handle)

/-! ### Sources -/

/-- Nobody reads from a source any more. -/
def abandonSource (w : World S) : Source → World S
  | .memory index side =>
    match w.pairs[index]? with
    | some pair => w.setPair index (pair.stopReading side)
    | none => w
  | _ => w

/-- Takes the source of the active station away. -/
def takeSource (w : World S) : Option Source × World S :=
  (w.station?.bind Station.source,
    w.modifyActive fun station => { station with source := none })

/-- Gives the active station a source. -/
def putSource (w : World S) (source : Source) : World S :=
  w.modifyActive fun station => { station with source := some source }

/-- The next arrival from a source, if there is one, and the source afterwards. -/
def nextArrival (w : World S) : Source → (Option Arrival × Source) × World S
  | .planned [] => ((none, .planned []), w)
  | .planned (.wait :: items) => ((none, .planned items), w)
  | .planned (.arrival arrival :: items) => ((some arrival, .planned items), w)
  | .memory index side =>
    match w.pairs[index]? with
    | none => ((none, .memory index side), w)
    | some pair =>
      let (reading, pair) := pair.next side
      let arrival := match reading with
        | .frame frame => some (.frame frame)
        | .ended => some .ended
        | .pending => none
      ((arrival, .memory index side), w.setPair index pair)
  | .stream index =>
    match w.streams[index]? with
    | none => ((none, .stream index), w)
    | some e =>
      let (reading, e) := e.next
      let arrival := match reading with
        | .frame frame => some (.frame frame)
        | .failed cause => some (.failed cause)
        | .ended => some .ended
        | .pending => none
      ((arrival, .stream index), w.setStream index e)

/-- Joins two fresh ends in memory, giving the number of the pair and of the two connections. -/
def addPair (w : World S) (plan : ConnectionPlan) :
    (Nat × ConnectionId × ConnectionId) × World S :=
  let pair := w.pairs.length
  let w := { w with pairs := w.pairs ++ [MemoryPair.fresh] }
  let (left, w) := w.addLink (.memory pair .left plan)
  let (right, w) := w.addLink (.memory pair .right plan)
  ((pair, left, right), w)

end World

/-! ### Sending -/

/-- Runs a send, keeping it under its label if it has one; the connection of the session and
the writes so far exist as long as it is under way. -/
def sending (label : Option String) (send : Act S (Except SessionError SendHandle)) :
    Act S (Except SessionError Nat) := do
  let session ← Script.call .inspect
  let underWay := (← Script.outside).underWay
  let result ← holding session.connection send
  match result, label with
  | .ok handle, some label => Script.modify fun w => w.keepSend label handle
  | _, _ => pure ()
  Script.modify fun w => { w with underWay }
  return result.map SendHandle.frames

/-- The codecs of the active station. -/
def codecs : Act S (Registry S) := do
  return ((← Script.outside).station?.map Station.codecs).getD .empty

/-! ### Waits and attachments -/

/-- The outcome of a wait, which is over for the station once it is known. -/
def pollReply (id : Nat) : Act S (Outcome S) := do
  let awaited := ((← Script.outside).station?.map Station.awaited).getD []
  if awaited.contains id then
    match (← Script.call .inspect).replies.outcome? id with
    | none => return .pending
    | some outcome =>
      Script.modify fun w => w.modifyActive fun station =>
        { station with awaited := station.awaited.erase id }
      return .reply outcome
  else return .missing

/-- Changes or removes what is attached to the session. -/
def alterAttachment (view : S.Attachment → Option S.Attachment) (keep : Bool) :
    Act S (Outcome S) := do
  let session ← Script.call .inspect
  let (value, after) :=
    if keep then session.withAttachment fun value => (view value).map fun new => (new, new)
    else session.takeAttachment view
  Script.call (.setAttachment after.attachment)
  return .attachment value

/-! ### Reading -/

/-- Passes on at most `fuel` arrivals from a source, telling whether reading is over and giving
the source afterwards. -/
def readFrom : (fuel : Nat) → Source → Act S (Bool × Source)
  | 0, source => return (false, source)
  | fuel + 1, source => do
    match ← Script.modifyGet fun w => w.nextArrival source with
    | (none, source) => return (false, source)
    | (some arrival, source) =>
      if ← Script.call (.arrive arrival) then return (true, source) else readFrom fuel source

/-- The most arrivals that are passed on in one step. -/
def readLimit : Nat := 1000000

/-- Passes on all arrivals from the source of the active station. -/
def poll : Act S (Outcome S) := do
  match ← Script.modifyGet World.takeSource with
  | none => return .missing
  | some source =>
    match ← readFrom readLimit source with
    | (true, source) =>
      Script.modify fun w => w.abandonSource source
      return .finished
    | (false, source) =>
      Script.modify fun w => w.putSource source
      return .pending

/-- Nobody reads the arrivals of the active station any more. -/
def dropSource : Act S (Outcome S) := do
  match ← Script.modifyGet World.takeSource with
  | none => return .flag false
  | some source =>
    Script.modify fun w => w.abandonSource source
    return .flag true

/-! ### Joining two sessions -/

/-- Opens the session with an end in memory, and reads there if that succeeds. -/
def openEnd (pair : Nat) (side : Memory.Side) (connection : ConnectionId) :
    Act S (Except SessionError Unit) := do
  Script.modify fun w => w.introduce connection
  let result ← Script.call (.openWith connection)
  let source := Source.memory pair side
  match result with
  | .ok () => Script.modify fun w => w.putSource source
  | .error _ => Script.modify fun w => w.abandonSource source
  return result

/-- Opens the session of the active station and that of another one with the ends of a new
pair in memory. -/
def join (n : Network S) (peer : String) (plan : ConnectionPlan) : Act S (Outcome S) := do
  let w ← Script.outside
  match w.find? peer with
  | none => return .missing
  | some index =>
    let (pair, left, right) ← Script.modifyGet fun w => w.addPair plan
    let own ← openEnd pair .left left
    let openPeer := openEnd pair .right right
    if index = w.active then return .linked own (← openPeer)
    else
      match ← n.runElsewhere index openPeer with
      | none => return .missing
      | some other => return .linked own other

namespace Action

/-- The script of an action at the active station; other stations are reached through a
network. -/
def script (n : Network S) : Action S → Act S (Outcome S)
  | openWith plan source => do
    let connection ← Script.modifyGet fun w => w.connect plan
    let result ← Script.call (.openWith connection)
    match result, source with
    | .ok (), some items => Script.modify fun w => w.putSource (.planned items)
    | _, _ => pure ()
    return .opened result
  | refuse reason plan => do
    let connection ← Script.modifyGet fun w => w.connect plan
    return .opened (← Script.call (.refuse connection reason))
  | close reason => do
    holding (← Script.call .inspect).connection (Script.call (.close reason))
    return .done
  | fail cause => do
    Script.call (.fail cause)
    return .done
  | transportClosed => do
    Script.call .transportClosed
    return .done
  | transportFailed cause => do
    Script.call (.transportFailed cause)
    return .done
  | receive frame => do
    Script.call (.receive frame)
    return .done
  | receivePacket packet delivery => do
    match (← codecs).encode packet with
    | .error cause => return .notEncoded cause
    | .ok frame =>
      Script.call (.receive ⟨delivery, frame⟩)
      return .done
  | send packet delivery label =>
    return .sent (← sending label (Script.call (.send packet delivery)))
  | sendBatch packets delivery label =>
    return .sent (← sending label (Script.call (.sendBatch packets delivery)))
  | sendFrame frame delivery label =>
    return .sent (← sending label (Script.call (.sendFrame frame delivery)))
  | pollSend label => do
    let session ← Script.call .inspect
    Script.modifyGet fun w => w.pollSend session label
  | completeWrite index result => Script.modifyGet fun w => w.completeWrite index result
  | abandonWrite index => Script.modifyGet fun w => w.abandonWrite index
  | sever => do
    Script.modify World.sever
    return .done
  | awaitReply => do
    let id ← Script.call .awaitReply
    Script.modify fun w => w.modifyActive fun station =>
      { station with awaited := id :: station.awaited }
    return .awaiting id
  | settleReply id outcome => return .flag (← Script.call (.settleReply id outcome))
  | pollReply id => Simulation.pollReply id
  | dropReply id => do
    let awaited := ((← Script.outside).station?.map Station.awaited).getD []
    Script.modify fun w => w.modifyActive fun station =>
      { station with awaited := station.awaited.erase id }
    return .flag (awaited.contains id)
  | attach value => do
    let session ← Script.call .inspect
    Script.call (.setAttachment (session.attach value).attachment)
    return .done
  | changeAttachment view => alterAttachment view true
  | takeAttachment view => alterAttachment view false
  | inspect => do
    let name := ((← Script.outside).station?.map Station.name).getD ""
    return .state name (← Script.call .inspect)
  | compare other => do
    let w ← Script.outside
    return .compared (w.find? other == some w.active)
  | countCodecs => return .count (← codecs).count
  | poll => Simulation.poll
  | dropSource => Simulation.dropSource
  | dropConnection => do
    let found := ((← Script.outside).station?.bind Station.connection).isSome
    Script.modify fun w => w.modifyActive fun station => { station with connection := none }
    return .flag found
  | link peer plan => join n peer plan

end Action

/-- Carries out named actions in order, writing down each with its outcome. -/
def runActions (n : Network S) : List (String × Action S) → Act S Unit
  | [] => return ()
  | (name, action) :: actions => do
    Script.note (.acted name (← action.script n))
    runActions n actions

end Simulation

end PacketSession
