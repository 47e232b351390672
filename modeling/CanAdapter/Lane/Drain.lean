/-
Reporting a channel to the host. A lane is a channel with its reporting task and all that the task showed. Each time the
task is told to look, it appends the content of the rings to the CAN pipe in passes. A pass handles at most one item of
each source, in this order: the report on the bus that is due (always one at the start), a status change (which makes
another report due), a bus error, a received frame, a transmit event (which gives a credit back). So under load every
source moves by one message a pass. An item that finds no room stays in its ring; then the task tells itself to look
again and waits a little.

`drain` runs passes until one moves nothing; `maxPasses` bounds their number by the lengths of the rings.
`wakeUp_of_unmounted`, `wakeUp_of_disabled`: off the host or off the bus a look only clears rings and state.
-/
import CanAdapter.Channel
import CanAdapter.Reporter

namespace CanAdapter

/-- a channel with its reporting task -/
structure Lane (σ : Type) where
  channel : Channel σ
  reporter : Reporter
  /-- every state the status LED was set to -/
  leds : List LedStatus
  /-- every burst of the traffic light, in milliseconds -/
  bursts : List Nat
  /-- every wait for a busy pipe, in milliseconds -/
  delays : List Nat

/-- the report on a transmit event -/
def TxEvent.report (e : TxEvent) : TxReport := ⟨e.track, e.flags, e.timestamp⟩

namespace Channel

variable {σ : Type}

/-- makes room for `len` bytes in the CAN endpoint, by submitting its bank if that is possible; none if the pipe is
busy -/
def makeRoom (len : Nat) (c : Channel σ) : Checked (Option (Channel σ)) :=
  if c.can.remaining < len then
    if !c.can.ready then .ok none
    else do
      return some { c with can := ← c.can.trySubmit }
  else .ok (some c)

/-- appends a message to the CAN endpoint; false if there is no room -/
def place (m : Message) (c : Channel σ) : Checked (Bool × Channel σ) := do
  match ← c.makeRoom m.wireLength with
  | none => return (false, c)
  | some c =>
    match c.can.appendMessage c.config.order m with
    | none => return (false, c)
    | some can => return (true, { c with can })

end Channel

namespace Lane

variable {σ : Type}

/-- a channel whose task has not run -/
def ofChannel (c : Channel σ) : Lane σ := ⟨c, .initial, [], [], []⟩

/-! ## Passes -/

/-- what one source did in a pass -/
inductive Move where
  /-- it had nothing -/
  | idle
  | moved
  /-- its item found no room -/
  | blocked
deriving DecidableEq, Repr

/-- length of a report on the bus on the wire -/
def reportLength : Nat := alignLength 16

variable [Controller σ]

/-- appends the report that is due -/
def placeReport (l : Lane σ) : Checked (Move × Lane σ) :=
  if !l.reporter.reportDue then .ok (.idle, l)
  else do
    match ← l.channel.makeRoom reportLength with
    | none => return (.blocked, l)
    | some c =>
      let (report, c) := c.snapshot l.reporter.busStatus
      match c.can.appendMessage c.config.order (.busReport report) with
      | none => return (.blocked, { l with channel := c })
      | some can =>
        return (.moved, { l with channel := { c with can }, reporter := { l.reporter with reportDue := false } })

/-- takes a status change over; a report on it is due -/
def takeStatus (now : Nat) (l : Lane σ) : Checked (Move × Lane σ) :=
  match l.channel.status.pop with
  | (none, _) => .ok (.idle, l)
  | (some e, status) => .ok (.moved, { l with
      channel := { l.channel with status }
      reporter := { l.reporter with busStatus := e.status, reportDue := true, lastActivity := some now } })

/-- Appends the oldest item of a ring as a message. The task notes that it met the item even if there is no room for it;
`done` is what becomes of the channel once the message is placed. -/
def placeOldest {α : Type} {k : Nat} (ring : Channel σ → Ring α k) (message : α → Message)
    (noted : Reporter → Reporter) (done : Channel σ → Checked (Channel σ)) (l : Lane σ) : Checked (Move × Lane σ) :=
  match (ring l.channel).peek with
  | none => .ok (.idle, l)
  | some a => do
    let l := { l with reporter := noted l.reporter }
    match ← l.channel.place (message a) with
    | (false, c) => return (.blocked, { l with channel := c })
    | (true, c) => return (.moved, { l with channel := ← done c })

/-- appends the oldest bus error -/
def placeError (now : Nat) : Lane σ → Checked (Move × Lane σ) :=
  placeOldest (·.errors) .busError ({ · with errorSeen := true, lastActivity := some now })
    fun c => .ok { c with errors := c.errors.consume }

/-- appends the oldest received frame -/
def placeFrame (now : Nat) : Lane σ → Checked (Move × Lane σ) :=
  placeOldest (·.rx) .received ({ · with errorSeen := false, lastActivity := some now })
    fun c => .ok { c with rx := c.rx.consume }

/-- appends the report on the oldest transmit event and gives its credit back -/
def placeTxReport (now : Nat) : Lane σ → Checked (Move × Lane σ) :=
  placeOldest (·.tx) (fun e => .transmitted e.report) ({ · with errorSeen := false, lastActivity := some now })
    fun c => { c with tx := c.tx.consume }.returnCredit

/-- some sources in order, up to the first that is blocked; moved if any of them did -/
def inOrder : List (Lane σ → Checked (Move × Lane σ)) → Lane σ → Checked (Move × Lane σ)
  | [], l => .ok (.idle, l)
  | source :: sources, l => do
    match ← source l with
    | (.blocked, l) => return (.blocked, l)
    | (.idle, l) => inOrder sources l
    | (.moved, l) =>
      match ← inOrder sources l with
      | (.idle, l) => return (.moved, l)
      | (move, l) => return (move, l)

/-- at most one item of each source -/
def pass (now : Nat) : Lane σ → Checked (Move × Lane σ) :=
  inOrder [placeReport, takeStatus now, placeError now, placeFrame now, placeTxReport now]

/-- passes until one is idle or blocked, at most `n` -/
def passes (now : Nat) : Nat → Lane σ → Checked (Move × Lane σ)
  | 0, l => .ok (.moved, l)
  | n + 1, l => do
    match ← pass now l with
    | (.moved, l) => passes now n l
    | (move, l) => return (move, l)

/-- a bound on the passes of one look: one for each round of items, one for the last report, one that is idle -/
def maxPasses (l : Lane σ) : Nat :=
  max (max l.channel.status.used l.channel.errors.used) (max l.channel.rx.used l.channel.tx.used) + 2

/-- passes until nothing moves; true if that is because the pipe is busy -/
def drain (now : Nat) (l : Lane σ) : Checked (Bool × Lane σ) := do
  let (move, l) ← l.passes now l.maxPasses
  return (move == .blocked, l)

/-! ## A look -/

/-- the status LED at what it should show; it is set only when that is new -/
def updateLed (now : Nat) (l : Lane σ) : Lane σ :=
  let led := l.reporter.ledAt now
  if led = l.reporter.led then l
  else { l with reporter := { l.reporter with led }, leds := l.leds ++ [led] }

/-- drops the content of the rings and what the task remembers -/
def rest (l : Lane σ) : Lane σ :=
  let c := l.channel
  { l with
    channel := { c with rx := c.rx.clear, tx := c.tx.clear, status := c.status.clear, errors := c.errors.clear }
    leds := if l.reporter.led = .disabled then l.leds else l.leds ++ [.disabled]
    reporter := .initial }

/-- one look at the rings -/
def wakeUp (now : Nat) (l : Lane σ) : Checked (WakeOutcome × Lane σ) :=
  if !l.channel.mounted then .ok (.unmounted, l.rest)
  else if !l.channel.enabled then .ok (.disabled, l.rest)
  else do
    let l := { l with bursts := l.bursts ++ [burstLength], reporter := { l.reporter with reportDue := true } }
    let (blocked, l) ← l.drain now
    let l := { l with channel := { l.channel with can := ← l.channel.can.flush } }
    let l := l.updateLed now
    if blocked then
      return (.backoff, { l with channel := l.channel.signal, delays := l.delays ++ [backoffDelay] })
    else return (.drained, l)

/-- what the task does when it is not waiting: if it was told to look, it looks -/
def serve (now : Nat) (l : Lane σ) : Checked (Option WakeOutcome × Lane σ) :=
  if l.channel.wake then do
    let (outcome, l) ← { l with channel := { l.channel with wake := false } }.wakeUp now
    return (some outcome, l)
  else .ok (none, l)

theorem wakeUp_of_unmounted {now : Nat} {l : Lane σ} (h : l.channel.mounted = false) :
    l.wakeUp now = .ok (.unmounted, l.rest) := by
  simp [wakeUp, h]

theorem wakeUp_of_disabled {now : Nat} {l : Lane σ} (hm : l.channel.mounted = true) (h : l.channel.enabled = false) :
    l.wakeUp now = .ok (.disabled, l.rest) := by
  simp [wakeUp, hm, h]

end Lane

end CanAdapter
