/-
What the host sends to a channel. The command pipe carries requests, each answered on the command endpoint in turn; a
greeting resets the channel, replaces the answers that wait there, and ends its buffer. The CAN pipe carries transmit
requests; one that the controller does not get is reported as dropped.

`commands` and `transmissions` are one step for each message of the buffer, in order. `throughHello` is how far a
command buffer is read.
-/
import CanAdapter.Channel
import CanAdapter.Message.Walk

namespace CanAdapter

/-- the messages of a command buffer up to its first greeting, which is the last one that counts -/
def throughHello : List RawMessage → List RawMessage
  | [] => []
  | m :: ms => if m.id = MessageId.hello then [m] else m :: throughHello ms

namespace Channel

variable {σ : Type} [Controller σ]

/-! ## Command pipe -/

/-- offers an answer to the command endpoint; one that finds no room is lost -/
def reply (m : Message) (c : Channel σ) : Checked (Channel σ) := do
  let (_, command) ← c.command.push c.config.order m
  return { c with command }

/-- answers with what came of a request -/
def replyOutcome (o : Outcome) (c : Channel σ) : Checked (Channel σ) := c.reply (.outcome o.code)

/-- resets the channel, and answers with the protocol's parameters in place of all that waits on the command endpoint -/
def hello (c : Channel σ) : Checked (Channel σ) := do
  let c ← c.reset
  let command := c.command.discard
  let greeting : Greeting := ⟨protocolVersion, c.config.order, UInt16.ofNat commandBank⟩
  match command.appendMessage c.config.order (.greeting greeting) with
  | some command => return { c with command }
  | none => return { c with command }

/-- applies a request that reads as one of its layout -/
def apply {α : Type} (l : Layout α) (m : RawMessage) (f : α → Channel σ → Checked (Outcome × Channel σ))
    (c : Channel σ) : Checked (Outcome × Channel σ) :=
  match l.decode c.config.order m.bytes with
  | .error e => .ok (.error (.ofWireError e), c)
  | .ok a => f a c

def applyNominal (t : BitTiming) (c : Channel σ) : Checked (Outcome × Channel σ) := do
  let (_, c) ← c.setNominal t
  return (.ok (), c)

def applyData (t : BitTiming) (c : Channel σ) : Checked (Outcome × Channel σ) := do
  match ← c.setData t with
  | .error e => return (.error e, c)
  | .ok (_, c) => return (.ok (), c)

def applyFeatures (r : FeatureRequest) (c : Channel σ) : Checked (Outcome × Channel σ) :=
  match c.setFeatures r with
  | .error e => .ok (.error e, c)
  | .ok (_, c) => .ok (.ok (), c)

def applyBus (on : Bool) (c : Channel σ) : Checked (Outcome × Channel σ) := .ok (.ok (), c.setBus on)

/-- what a setting request does and what came of it -/
def applyRequest (m : RawMessage) (c : Channel σ) : Checked (Outcome × Channel σ) :=
  if m.id = MessageId.nominalTiming then c.apply .nominalTiming m applyNominal
  else if m.id = MessageId.dataTiming then c.apply .dataTiming m applyData
  else if m.id = MessageId.features then c.apply .features m applyFeatures
  else if m.id = MessageId.bus then c.apply .bus m applyBus
  else .ok (.error .unsupported, c)

/-- one message of the command pipe -/
def request (m : RawMessage) (c : Channel σ) : Checked (Channel σ) :=
  if m.id = MessageId.hello then c.hello
  else if m.id = MessageId.deviceInfo then c.reply (.deviceInfo c.deviceInfo)
  else if m.id = MessageId.canInfo then c.reply (.canInfo c.canInfo)
  else do
    let (o, c) ← c.applyRequest m
    c.replyOutcome o

/-- one transfer of the command pipe; the answers go to the host if its endpoint is free -/
def commands (bytes : Bytes) (c : Channel σ) : Checked (Channel σ) := do
  let c ← (throughHello (messages bytes)).foldlM (fun c m => c.request m) c
  return { c with command := ← c.command.flush }

/-! ## CAN pipe -/

/-- reports a request that never reached the controller; if not even that is possible, the host's view is stale -/
def dropRequest (track : UInt8) (c : Channel σ) : Checked (Channel σ) := do
  let c := { c with dropped := countUp c.dropped }
  let report : TxReport := ⟨track, .drp, Controller.timestamp c.controller⟩
  let (r, can) ← c.can.push c.config.order (.transmitted report)
  match r with
  | .ok () => return { c with can }.signal
  | .error _ => return { c with can, desync := true }.signal

/-- hands a frame to the controller for one credit, or drops the request -/
def send (r : TxRequest) (c : Channel σ) : Checked (Channel σ) :=
  match c.takeCredit with
  | none => c.dropRequest r.track
  | some c =>
    match Controller.submit r.frame r.track c.controller with
    | (true, controller) => .ok { c with controller }
    | (false, controller) => do
      let c ← { c with controller }.returnCredit
      c.dropRequest r.track

/-- one message of the CAN pipe; what is no transmit request, or does not read as one, does nothing -/
def transmission (m : RawMessage) (c : Channel σ) : Checked (Channel σ) :=
  if m.id = MessageId.transmit then
    match Layout.transmit.decode c.config.order m.bytes with
    | .error _ => .ok c
    | .ok r => c.send r
  else .ok c

/-- one transfer of the CAN pipe -/
def transmissions (bytes : Bytes) (c : Channel σ) : Checked (Channel σ) :=
  (messages bytes).foldlM (fun c m => c.transmission m) c

end Channel

end CanAdapter
