import PacketSession.Scenario.Values
import PacketSession.Simulation.Callback

/-!
# Plans in scenarios

Readings of everything that a simulated network is put together from: connections and sources
with their fate, actions, handlers, listeners and whole protocols.
-/

namespace PacketSession

namespace Scenario

open Simulation

/-! ### Connections -/

/-- An item of a source: the name of its end or of a pause, an error or a frame. -/
def sourceItem : Reading SourceItem := do
  match ← asIs with
  | .text "end" => return .arrival .ended
  | .text _ => return .wait
  | _ =>
    match ← field? "error" transportError with
    | some cause => return .arrival (.failed cause)
    | none => return .arrival (.frame ⟨← delivery, ← field "data" bytes⟩)

/-- The fate of a connection. -/
def connectionPlan : Reading ConnectionPlan := do
  let cause ← fieldOr .connectionClosed "error" transportError
  return {
    connected := ← fieldOr true "connected" bool
    failure := (← field? "fail_at" nat).map fun call => (call, cause)
    maxPayload := ← field? "max" nat
    pending := ← flag "pending"
    closesAtOnce := ← flag "sync_close"
    inflated := ← flag "inflate"
    address := ← field? "addr" socketAddress }

/-- The outcome of a write: a name for success, or an error. -/
def writeResult : Reading WriteResult := do
  match ← asIs with
  | .text _ => return .ok ()
  | _ => .error <$> transportError

section Protocols

variable [Sample.TypeNames]

/-! ### Actions -/

/-- What is attached to a session. -/
def attachment : Reading Sample.Attachment := do
  match ← asIs with
  | .number _ => .number <$> u32
  | _ => .text <$> text

/-- What is done at a station. -/
def action : Reading (Action schema) :=
  let connection := fieldOr {} "conn" connectionPlan
  let label := field? "as" text
  let id := field "id" ticket
  choose "do" [
    ("open", .openWith <$> connection <*> field? "source" (items sourceItem)),
    ("refuse", .refuse <$> field "reason" text <*> connection),
    ("close", .close <$> field "reason" text),
    ("fail", .fail <$> field "err" protocolError),
    ("closed", return .transportClosed),
    ("error", .transportFailed <$> field "err" transportError),
    ("recv", return .receive ⟨← delivery, ← field "data" bytes⟩),
    ("recv_packet", .receivePacket <$> field "p" packet <*> delivery),
    ("send", .send <$> field "p" packet <*> delivery <*> label),
    ("send_batch", do
      let packets := (List.replicate (← fieldOr 1 "times" nat) (← many "ps" packet)).flatten
      .sendBatch packets <$> delivery <*> label),
    ("send_frame", .sendFrame <$> field "data" bytes <*> delivery <*> label),
    ("poll_send", .pollSend <$> field "as" text),
    ("complete", .completeWrite <$> field "i" nat <*> field "r" writeResult),
    ("drop_write", .abandonWrite <$> field "i" nat),
    ("break", return .sever),
    ("pending", return .awaitReply),
    ("resolve", return .settleReply (← id) (.ok (← field "p" packet))),
    ("reject", return .settleReply (← id) (.error (← field "err" sessionError))),
    ("poll_reply", .pollReply <$> id),
    ("drop_reply", .dropReply <$> id),
    ("attach", .attach <$> field "value" attachment),
    ("with_u32", return .changeAttachment (Sample.Attachment.plus? (← field "add" u32))),
    ("with_str", return .changeAttachment (Sample.Attachment.append? (← field "add" text))),
    ("take_u32", return .takeAttachment (Sample.Attachment.plus? 0)),
    ("take_str", return .takeAttachment (Sample.Attachment.append? "")),
    ("query", return .inspect),
    ("eq", .compare <$> field "other" text),
    ("codec_len", return .countCodecs),
    ("poll", return .poll),
    ("drop_driver", return .dropSource),
    ("drop_conn", return .dropConnection),
    ("link", .link <$> field "peer" text <*> connection)]

/-- The actions in a field, with their names. -/
def actions (key : String) : Reading (List (String × Action schema)) :=
  many key (return (← field "do" name, ← action))

/-! ### Protocols -/

/-- What a handler does, with the identifier that it is bound to. -/
def handler : Reading (PacketId × HandlerPlan schema) := do
  let answers ← flag "answer"
  let resolves ← flag "resolve"
  return (← field "id" packetId, {
    accepts := ← field? "type" kind
    answer := fun p => if answers then Sample.answer? p else none
    settles := fun p => if resolves then Sample.ticket? p else none
    actions := ← actions "acts" })

/-- What a listener does. -/
def listenerPlan : Reading (ListenerPlan schema) := choose "kind" [
  ("pass", return .pass),
  ("log", return .log),
  ("debug_ctx", return .describe),
  ("reject", .reject <$> field "msg" text),
  ("reject_nth", .rejectNth <$> field "n" nat),
  ("fail", .fail <$> field "err" protocolError),
  ("swallow", return .swallow),
  ("swallow_channel", return .swallowChannel (← delivery).channel),
  ("replace", .replace <$> field "p" packet),
  ("act", .act <$> actions "acts"),
  ("decode", return .decode),
  ("tag", .tag <$> field "byte" u8),
  ("prefix", .lead <$> field "byte" u8),
  ("xor", .mask <$> field "byte" u8),
  ("strip", .strip <$> field "n" nat),
  ("stamp", return .stamp),
  ("dup", return .double),
  ("halves", return .halve),
  ("compress", .compress <$> compression)]

/-- Where a listener goes: an end of the chain by its name, or next to another listener. -/
def position : Reading Position := do
  match ← field? "pos" asIs with
  | some (.text "first") => return .first
  | none | some (.text _) => return .last
  | some place =>
    match ← field? "before" text place with
    | some neighbour => return .before neighbour
    | none => return .after (← field "after" text place)

/-- The listeners in a field. -/
def listeners (key : String) : Reading (List (NamedListener schema)) :=
  many key (return ⟨← field "name" text, ← listenerPlan, ← position⟩)

/-- The settings in a field, and whether they are to be checked. -/
def checkedSettings (key : String) : Reading (Settings × Bool) :=
  return (← fieldOr {} key settings, !(← fieldOr false key (flag "unchecked")))

/-- A protocol; `firstNumber` is the number of its first listener. -/
def protocolPlan (firstNumber : Nat) : Reading (ProtocolPlan schema) := do
  let silent ← flag "silent"
  let turningPoint (key : String) : Reading (List (String × Action schema)) :=
    if silent then return [] else fieldOr [] "lifecycle" (actions key)
  let (settings, checked) ← checkedSettings "config"
  return {
    codecs := ← many "codecs" do
      let kind ← field "type" kind
      return ⟨← field "id" packetId, kind, Sample.codec kind⟩
    handlers := ← many "handlers" handler
    inbound := ← listeners "inbound"
    outbound := ← listeners "outbound"
    settings
    checked
    lifecycle := ⟨← turningPoint "opened", ← turningPoint "closed", ← turningPoint "exception"⟩
    firstNumber }

/-- Several protocols, whose listeners are numbered through. -/
def protocolPlans (specs : List Data) : Reading (List (ProtocolPlan schema)) :=
  specs.foldlM (fun plans spec =>
    return plans ++ [← protocolPlan (listenerCount plans) spec]) []

end Protocols

end Scenario

end PacketSession
