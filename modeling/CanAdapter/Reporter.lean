/-
What the reporting task of a channel remembers, what the status LED shows for it, and what can come of a look at the
rings. The LED tells two things apart: whether something is wrong, and whether the bus was active lately.
-/
import CanAdapter.BusEvent
import CanAdapter.Config

namespace CanAdapter

/-- what the status LED shows -/
inductive LedStatus where
  /-- off the bus -/
  | disabled
  | busIdle
  | busActive
  | errorIdle
  | errorActive
deriving DecidableEq, Repr

/-- what came of a look -/
inductive WakeOutcome where
  /-- the host is not there -/
  | unmounted
  /-- the channel is off the bus -/
  | disabled
  /-- the rings are empty -/
  | drained
  /-- the pipe is busy and something was left -/
  | backoff
deriving DecidableEq, Repr

/-- what the task remembers while the channel is on the bus -/
structure Reporter where
  busStatus : BusStatus
  /-- time of the last event, in milliseconds -/
  lastActivity : Option Nat
  /-- the last error, frame or transmit event met was an error -/
  errorSeen : Bool
  /-- a report on the bus is due -/
  reportDue : Bool
  led : LedStatus
deriving DecidableEq, Repr

namespace Reporter

def initial : Reporter := ⟨.errorActive, none, false, false, .disabled⟩

def active (now : Nat) (r : Reporter) : Bool :=
  match r.lastActivity with
  | some t => now - t < activityWindow
  | none => false

def failing (r : Reporter) : Bool := r.errorSeen || r.busStatus.passiveOrWorse

/-- what the LED should show -/
def ledAt (now : Nat) (r : Reporter) : LedStatus :=
  match r.failing, r.active now with
  | true, true => .errorActive
  | true, false => .errorIdle
  | false, true => .busActive
  | false, false => .busIdle

end Reporter

end CanAdapter
