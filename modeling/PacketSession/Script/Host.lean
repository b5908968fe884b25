import PacketSession.Script.Basic

/-!
# Callbacks that call back

An application gives its callbacks as scripts, and scripts call the session, which runs
callbacks in turn. Calls may nest to any depth but not for ever, so performing a call takes
the depth to which calls may nest: `perform 0` answers every call without an effect, and
`perform (depth + 1)` performs it with callbacks whose calls may nest to `depth`. A run that
nests less deeply than allowed does not depend on the depth.
-/

namespace PacketSession

variable {S : Schema} {N X : Type}

/-- The effect of a call, and its answer, for a given host. -/
def Request.execute (h : Host S N X) : (request : Request S) → SessionM S N X request.Answer
  | .openWith connection => h.openWith connection
  | .refuse connection reason => h.refuse connection reason
  | .close reason => h.close reason
  | .fail cause => h.fail cause
  | .receive frame => h.receive frame
  | .arrive arrival => h.step arrival
  | .transportClosed => h.transportClosed
  | .transportFailed cause => h.transportFailed cause
  | .send packet delivery => h.send packet delivery
  | .sendBatch packets delivery => h.sendBatch packets delivery
  | .sendFrame frame delivery => h.sendFrame frame delivery
  | .awaitReply => modifyGet fun e =>
    let (id, session) := e.session.awaitReply
    (id, { e with session })
  | .settleReply id outcome => modifyGet fun e =>
    let (found, session) := e.session.settleReply id outcome
    (found, { e with session })
  | .setAttachment value => SessionM.update fun s => { s with attachment := value }
  | .inspect => SessionM.current

/-- The answer to a call that nests too deeply to be performed. -/
def Request.unanswered : (request : Request S) → SessionM S N X request.Answer
  | .openWith _ | .refuse _ _ => return .error .notOpen
  | .close _ | .fail _ | .receive _ | .transportClosed | .transportFailed _ => return ()
  | .arrive _ => return true
  | .send _ _ | .sendBatch _ _ | .sendFrame _ _ => return .error .notOpen
  | .awaitReply => return 0
  | .settleReply _ _ => return false
  | .setAttachment _ => return ()
  | .inspect => SessionM.current

/-- A protocol and a carrier whose callbacks are scripts. -/
structure Application (S : Schema) (N X : Type) where
  /-- What the application agreed on with its peer. -/
  protocol : Protocol S (Script S N X)
  /-- The connections. -/
  carrier : Carrier X (Script S N X)

namespace Application

variable (a : Application S N X)

/-- The host in which callbacks run as scripts with the given answers to their calls. -/
def host (answer : (request : Request S) → SessionM S N X request.Answer) : Host S N X where
  protocol := a.protocol.map (Script.run answer)
  carrier := a.carrier.map (Script.run answer)

/-- Performs a call; calls of callbacks may nest to the given depth. -/
def perform : (depth : Nat) → (request : Request S) → SessionM S N X request.Answer
  | 0, request => request.unanswered
  | depth + 1, request => request.execute (a.host (perform depth))

/-- Runs a script; the calls of callbacks may nest to the given depth. -/
def run {α : Type} (depth : Nat) (script : Script S N X α) : SessionM S N X α :=
  script.run (a.perform depth)

end Application

end PacketSession
