/-
The interrupt side of a channel: everything the controller has to hand out goes into the rings. A status change, then
the latched bus errors, then the received frames batch by batch, each stamped by its own counter, then the transmit
events likewise. What a ring has no room for is lost and noted, and the reporting task is told if there was anything.
-/
import CanAdapter.Channel

namespace CanAdapter.Channel

variable {σ : Type} [Controller σ]

/-- what a poll met -/
structure PollNotes where
  /-- entries that were handed out -/
  handedOut : Nat
  /-- status changes and bus errors that found their ring full -/
  eventsRefused : Nat
  /-- transmit events that found their ring full -/
  txRefused : Nat
deriving DecidableEq, Repr

namespace PollNotes

def none : PollNotes := ⟨0, 0, 0⟩

/-- notes of `n` entries that were handed out, of which `accepted` status changes or bus errors found room -/
def addEvents (n accepted : Nat) (notes : PollNotes) : PollNotes :=
  { notes with handedOut := notes.handedOut + n, eventsRefused := notes.eventsRefused + (n - accepted) }

end PollNotes

/-- publishes the controller's status if it is not the one that was published last -/
def pollStatus (notes : PollNotes) (c : Channel σ) : PollNotes × Channel σ :=
  let now := Controller.busStatus c.controller
  if now = c.published then (notes, c)
  else
    let (ok, status) := c.status.push ⟨now, Controller.timestamp c.controller⟩
    (notes.addEvents 1 (if ok then 1 else 0), { c with status, published := now })

/-- publishes every latched bus error -/
def pollErrors (notes : PollNotes) (c : Channel σ) : PollNotes × Channel σ :=
  let (es, controller) := Controller.takeErrors c.controller
  let (accepted, errors) := c.errors.pushAll es
  (notes.addEvents es.length accepted, { c with controller, errors })

/-- number of entries of some batches -/
def countItems {α : Type} (batches : List (Drained α)) : Nat := (batches.flatMap (·.items)).length

/-- publishes batches of received frames, stamped with the given durations; the ring counts those it has no room for -/
def publishRx (d : BitDurations) : List (Drained Frame) → Ring Frame trafficRing → Checked (Ring Frame trafficRing)
  | [], ring => .ok ring
  | b :: bs, ring => do
    let frames ← d.stampReceived b.tsc b.items
    publishRx d bs (ring.pushAll frames).2

/-- publishes batches of transmit events, stamped with the given durations; answers how many found room -/
def publishTx (d : BitDurations) (compensation : UInt32) :
    List (Drained TxEvent) → Ring TxEvent trafficRing → Checked (Nat × Ring TxEvent trafficRing)
  | [], ring => .ok (0, ring)
  | b :: bs, ring => do
    let events ← d.stampSent b.tsc compensation b.items
    let (accepted, ring) := ring.pushAll events
    let (more, ring) ← publishTx d compensation bs ring
    return (accepted + more, ring)

def pollRx (notes : PollNotes) (c : Channel σ) : Checked (PollNotes × Channel σ) := do
  let (batches, controller) := Controller.drainAllRx c.controller
  let rx ← publishRx c.settings.durations batches c.rx
  return ({ notes with handedOut := notes.handedOut + countItems batches }, { c with controller, rx })

def pollTx (notes : PollNotes) (c : Channel σ) : Checked (PollNotes × Channel σ) := do
  let compensation := Controller.delayCompensation c.controller
  let (batches, controller) := Controller.drainAllTx c.controller
  let (accepted, tx) ← publishTx c.settings.durations compensation batches c.tx
  return ({ notes with
    handedOut := notes.handedOut + countItems batches
    txRefused := notes.txRefused + (countItems batches - accepted) }, { c with controller, tx })

/-- what a poll met, in the flags of the channel -/
def note (notes : PollNotes) (c : Channel σ) : Channel σ :=
  { c with
    queueFlags := if 0 < notes.eventsRefused then c.queueFlags ∪ .queueFull else c.queueFlags
    desync := c.desync || decide (0 < notes.eventsRefused + notes.txRefused)
    wake := c.wake || decide (0 < notes.handedOut) }

/-- one interrupt's work, and what it met -/
def pollNoting (c : Channel σ) : Checked (PollNotes × Channel σ) := do
  let (notes, c) := c.pollStatus .none
  let (notes, c) := c.pollErrors notes
  let (notes, c) ← c.pollRx notes
  let (notes, c) ← c.pollTx notes
  return (notes, c.note notes)

/-- one interrupt's work -/
def poll (c : Channel σ) : Checked (Channel σ) := (·.2) <$> c.pollNoting

end CanAdapter.Channel
