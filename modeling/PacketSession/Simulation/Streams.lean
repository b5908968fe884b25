import PacketSession.Simulation.Run

/-!
# Byte streams in a simulated network

The ends of a stream are neighbours in the list of ends. Bytes that the writer of one end
puts onto the stream arrive at the other end at once; when the writer ends, no more bytes will
arrive there. `settle` lets all writers and readers run until nothing is left to do.
-/

namespace PacketSession

namespace Simulation

variable {S : Schema}

/-- The number of the end at the other side of a stream. -/
def otherEnd (index : Nat) : Nat := if index % 2 = 0 then index + 1 else index - 1

namespace World

/-- Settles writes. -/
def settleWrites (w : World S) (settled : List (WriteId × WriteResult)) : World S :=
  { w with writes := settled.foldl (fun t entry => t.settle entry.1 entry.2) w.writes }

/-- Lets the writer of an end carry out one command, if it has one; `fate` is the failure
that a write would meet. -/
def writerStep? (w : World S) (index : Nat) (fate : Option TransportError) :
    Option (World S) := do
  let step ← (← w.streams[index]?).writerStep? fate
  let w := (w.setStream index step.after).settleWrites step.settled
  match w.streams[otherEnd index]? with
  | none => some w
  | some peer =>
    let peer := peer.receive step.written
    some (w.setStream (otherEnd index) (if step.after.writerAlive then peer else peer.endInput))

/-- Lets the first writer that has a command carry it out. -/
def anyWriterStep? (w : World S) : Option (World S) :=
  (List.range w.streams.length).findSome? fun index => w.writerStep? index none

/-- Lets writers carry out commands until none is left. -/
def runWriters : (fuel : Nat) → World S → World S
  | 0, w => w
  | fuel + 1, w =>
    match w.anyWriterStep? with
    | some w => runWriters fuel w
    | none => w

/-- Joins two fresh ends of a stream with the given limits, giving the number of the first. -/
def addStream (w : World S) (limit otherLimit : Nat) : Nat × World S :=
  (w.streams.length,
    { w with streams := w.streams ++ [StreamEnd.fresh limit, StreamEnd.fresh otherLimit] })

end World

namespace Network

variable (n : Network S)

/-- The most commands or rounds of reading in one step. -/
def settleLimit : Nat := 1000000

/-- Passes on all arrivals from the stream that a station reads, if it reads one; gives whether
reading is over. -/
def readStream (index : Nat) (w : World S) : Step S Bool :=
  match w.stations[index]?.bind Station.stream with
  | none => ⟨false, [], w⟩
  | some stream =>
    match n.runAt index (readFrom settleLimit (.stream stream)) w with
    | none => ⟨false, [], w⟩
    | some ⟨(isOver, _), log, w⟩ =>
      ⟨isOver, log, if isOver then
        w.modifyStation index fun station => { station with stream := none } else w⟩

/-- Reads at all stations once, giving what was seen, latest first, and whether anything
arrived. -/
def readAll (w : World S) : Bool × Log S × World S :=
  (List.range w.stations.length).foldl
    (fun (moved, latest, w) index =>
      let step := n.readStream index w
      (moved || !step.log.isEmpty || step.result, step.log.reverse ++ latest, step.world))
    (false, [], w)

/-- Lets writers and readers run until nothing is left to do; events come latest first, in
front of the given ones. -/
def settleFrom : (fuel : Nat) → World S → (latest : Log S) → Log S × World S
  | 0, w, latest => (latest, w)
  | fuel + 1, w, latest =>
    let w := w.runWriters settleLimit
    let (moved, more, w) := n.readAll w
    let latest := more ++ latest
    if moved || w.anyWriterStep?.isSome then settleFrom fuel w latest else (latest, w)

/-- Lets writers and readers run until nothing is left to do. -/
def settle (w : World S) : Log S × World S :=
  let (latest, w) := n.settleFrom settleLimit w []
  (latest.reverse, w)

/-- Opens the session of a station with an end of a stream, and reads there; or turns the
connection away. -/
def openStream (index stream : Nat) (refusal : Option String) (w : World S) :
    Step S (Except SessionError Unit) :=
  let (connection, w) := w.addLink (.stream stream)
  let script : Act S (Except SessionError Unit) := match refusal with
    | none => Script.call (.openWith connection)
    | some reason => Script.call (.refuse connection reason)
  match n.runAt index script w with
  | none => ⟨.error .notOpen, [], w⟩
  | some step =>
    { step with
      world := step.world.modifyStation index fun station =>
        { station with stream := if refusal.isNone then some stream else none } }

/-- Adds two stations whose sessions are joined by a stream; the second one may turn the
connection away. Each end is limited by the settings of its protocol. -/
def connect (names : String × String) (protocols : Nat × Nat) (refusal : Option String)
    (w : World S) : Step S (Outcome S) :=
  let limit protocol := (n.application protocol).protocol.settings.maxFrame
  let index := w.stations.length
  let w := n.addStation (n.addStation w names.1 protocols.1) names.2 protocols.2
  let (stream, w) := w.addStream (limit protocols.1) (limit protocols.2)
  let first := n.openStream index stream none w
  let second := n.openStream (index + 1) (stream + 1) refusal first.world
  ⟨.linked first.result second.result, first.log ++ second.log, second.world⟩

/-- Carries out a step and lets the streams run. -/
def stepAndSettle {α : Type} (step : Step S α) : Step S α :=
  let (log, w) := n.settle step.world
  ⟨step.result, step.log ++ log, w⟩

/-- Asks whether a labelled send is done, and forgets it. -/
def awaitSend (index : Nat) (label : String) (w : World S) : Step S (Outcome S) :=
  let step := n.step index (.pollSend label) w
  { step with
    world := step.world.modifyStation index fun station =>
      { station with sends := station.sends.filter fun send => send.1 ≠ label } }

/-! ### A session whose peer is played -/

/-- What became of a session with a played peer. -/
structure PlayedReport (S : Schema) where
  opened : Except SessionError Unit
  outcomes : List (Outcome S)
  log : Log S
  world : World S
  /-- All bytes that the session wrote to its peer. -/
  wire : Bytes

/-- Carries out actions at a station, in order. -/
def stepAll (index : Nat) : List (Action S) → World S → Step S (List (Outcome S))
  | [], w => ⟨[], [], w⟩
  | action :: actions, w =>
    let first := n.step index action w
    let later := stepAll index actions first.world
    ⟨first.result :: later.result, first.log ++ later.log, later.world⟩

/-- Opens the session of a new station on a stream, carries out actions there, then has the
peer write `data` and end its side. -/
def playPeer (name : String) (protocol : Nat) (actions : List (Action S)) (data : Bytes)
    (w : World S) : PlayedReport S :=
  let index := w.stations.length
  let w := n.addStation w name protocol
  let (stream, w) := w.addStream (n.application protocol).protocol.settings.maxFrame 0
  let opened := n.openStream index stream none w
  let acted := n.stepAll index actions opened.world
  let w := match acted.world.streams[stream]? with
    | some e => acted.world.setStream stream (e.receive data).endInput
    | none => acted.world
  let (log, w) := n.settle w
  { opened := opened.result
    outcomes := acted.result
    log := opened.log ++ acted.log ++ log
    world := w
    wire := ((w.streams[stream + 1]?).map StreamEnd.input).getD [] }

/-! ### A session whose connection breaks -/

/-- How a connection breaks. -/
inductive Breakage
  /-- The peer is gone when the first one of so many frames is written. -/
  | onWrite (frames : Nat)
  /-- The peer vanishes without reading the one frame that was written. -/
  | onRead

/-- What a write meets when the peer is gone. -/
def brokenPipe : TransportError := .io "Broken pipe (os error 32)"

/-- What a reader meets when the peer vanished. -/
def connectionReset : TransportError := .io "Connection reset by peer (os error 104)"

/-- How often the frame is sent before the connection breaks. -/
def Breakage.frames : Breakage → Nat
  | onWrite frames => frames
  | onRead => 1

/-- What the writer meets when the connection breaks. -/
def Breakage.fate : Breakage → Option TransportError
  | onWrite _ => some brokenPipe
  | onRead => none

/-- What became of a session whose connection broke. -/
structure BrokenReport (S : Schema) where
  opened : Except SessionError Unit
  /-- For each frame, the outcome of its write, or why it was not sent. -/
  written : List (Except SessionError WriteResult)
  connected : Bool
  late : Option (Except SessionError Nat)
  connectedAfter : Bool
  log : Log S
  world : World S

/-- The number of commands that the writer of an end has not carried out. -/
def queued (w : World S) (stream : Nat) : Nat :=
  ((w.streams[stream]?).map fun e => e.commands.toList.length).getD 0

/-- Lets the writer of an end carry out commands, each write meeting `fate`. -/
def writeWith (stream : Nat) (fate : Option TransportError) : (fuel : Nat) → World S → World S
  | 0, w => w
  | fuel + 1, w =>
    match w.writerStep? stream fate with
    | some w => writeWith stream fate fuel w
    | none => w

/-- Sends a frame several times. -/
def sendTimes (frame : Bytes) : Nat → Act S (List (Except SessionError SendHandle))
  | 0 => return []
  | times + 1 => do
    let first ← Script.call (.sendFrame frame {})
    return first :: (← sendTimes frame times)

/-- The outcome of a send that has run to its end. -/
def finalResult (w : World S) (sent : Except SessionError SendHandle) :
    Except SessionError WriteResult :=
  sent.map fun handle => ((handle.poll w.writes.outcome?).1).getD (.error .writerGone)

/-- Opens the session of a new station on a stream with the usual limit, sends a frame, and has
the connection break; then perhaps sends the frame once more, and reads to the end. If there was
nothing to be written to a peer that is gone, reading finds that no more bytes will arrive. -/
def breakStream (name : String) (protocol : Nat) (breakage : Breakage) (frame : Bytes)
    (late : Bool) (w : World S) : BrokenReport S :=
  let index := w.stations.length
  let w := n.addStation w name protocol
  let (stream, w) := w.addStream ({} : Settings).maxFrame 0
  let opened := n.openStream index stream none w
  let connected w := ((w.streams[stream]?).map StreamEnd.isConnected).getD false
  let sent := (n.runAt index (sendTimes frame breakage.frames) opened.world).getD
    ⟨[], [], opened.world⟩
  let broken := writeWith stream breakage.fate (queued sent.world stream) sent.world
  let lateScript : Act S (Option (Except SessionError Nat)) :=
    if late then do
      return some ((← Script.call (.sendFrame frame {})).map SendHandle.frames)
    else return none
  let after := (n.runAt index lateScript broken).getD ⟨none, [], broken⟩
  let read : Step S Bool := match breakage with
    | .onWrite _ =>
      n.readStream index (match after.world.streams[stream]? with
        | some e => after.world.setStream stream e.endInput
        | none => after.world)
    | .onRead =>
      (n.runAt index (Script.call (.arrive (.failed connectionReset))) after.world).getD
        ⟨true, [], after.world⟩
  { opened := opened.result
    written := sent.result.map (finalResult broken)
    connected := connected broken
    late := after.result
    connectedAfter := connected read.world
    log := opened.log ++ sent.log ++ after.log ++ read.log
    world := read.world }

end Network

/-! ### A single end -/

/-- What sending frames over one end brought about. -/
structure SendReport where
  /-- For each frame, its write or why it was refused. -/
  sent : List (Except TransportError WriteId)
  /-- Whether frames were still taken before the end hung up for good. -/
  connected : Bool
  /-- The outcomes of the writes. -/
  writes : WriteTable
  /-- All bytes that went onto the stream. -/
  wire : Bytes
  /-- The end afterwards. -/
  after : StreamEnd

/-- Sends frames over one end, hanging up before the frame number `hangUpAt`. -/
def sendEach (hangUpAt : Option Nat) :
    List (WireFrame × Nat) → StreamEnd → WriteTable →
      (sent : List (Except TransportError WriteId)) →
      List (Except TransportError WriteId) × StreamEnd × WriteTable
  | [], e, writes, sent => (sent.reverse, e, writes)
  | (frame, number) :: frames, e, writes, sent =>
    let e := if hangUpAt = some number then e.disconnect else e
    let (id, created) := writes.create
    match e.send frame id with
    | (.ok (), e) => sendEach hangUpAt frames e created (.ok id :: sent)
    | (.error cause, e) => sendEach hangUpAt frames e writes (.error cause :: sent)

/-- Lets the writer of one end run until nothing is left to do; written pieces come latest
first. -/
def drain : (fuel : Nat) → StreamEnd → WriteTable → (written : List Bytes) →
    StreamEnd × WriteTable × List Bytes
  | 0, e, writes, written => (e, writes, written)
  | fuel + 1, e, writes, written =>
    match e.writerStep? none with
    | none => (e, writes, written)
    | some step =>
      drain fuel step.after
        (step.settled.foldl (fun t entry => t.settle entry.1 entry.2) writes)
        (step.written :: written)

/-- Sends frames over one end, hangs up twice and lets the writer run. -/
def sendAll (limit : Nat) (frames : List WireFrame) (hangUpAt : Option Nat) : SendReport :=
  let (sent, e, writes) := sendEach hangUpAt frames.zipIdx (.fresh limit) .empty []
  let connected := e.isConnected
  let (e, writes, written) := drain (frames.length + 2) e.disconnect.disconnect writes []
  ⟨sent, connected, writes, written.reverse.flatten, e⟩

end Simulation

end PacketSession
