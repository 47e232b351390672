/-
All that can happen to one lane, as data. `Lane.step` carries one such operation out.
-/
import CanAdapter.Channel.Poll
import CanAdapter.Channel.Requests
import CanAdapter.Lane.Drain

namespace CanAdapter

/-- what can happen to one channel -/
inductive LaneOp where
  | mount
  /-- the host is gone, or asleep -/
  | detach
  | usbReset
  /-- a transfer on the command pipe -/
  | commandData (bytes : Bytes)
  /-- a transfer on the CAN pipe -/
  | canData (bytes : Bytes)
  /-- the outstanding command transfer to the host is done -/
  | commandDone
  /-- the outstanding CAN transfer to the host is done -/
  | canDone
  /-- an interrupt of the controller -/
  | poll
  /-- the reporting task looks at the rings -/
  | wakeUp (now : Nat)
  /-- the reporting task looks if it was told to -/
  | serve (now : Nat)
deriving DecidableEq, Repr

namespace Lane

variable {σ : Type} [Controller σ]

/-- an operation on the channel alone -/
def onChannel (f : Channel σ → Checked (Channel σ)) (l : Lane σ) : Checked (Lane σ) := do
  return { l with channel := ← f l.channel }

def step (op : LaneOp) (l : Lane σ) : Checked (Lane σ) :=
  match op with
  | .mount => .ok { l with channel := l.channel.setMounted true }
  | .detach => l.onChannel fun c => return (← c.reset).setMounted false
  | .usbReset => .ok { l with
      channel := { l.channel with command := l.channel.command.reset, can := l.channel.can.reset }.setMounted false }
  | .commandData bytes => l.onChannel (·.commands bytes)
  | .canData bytes => l.onChannel (·.transmissions bytes)
  | .commandDone => l.onChannel fun c => return { c with command := ← c.command.complete }
  | .canDone => l.onChannel fun c => return { c with can := ← c.can.complete }.signal
  | .poll => l.onChannel (·.poll)
  | .wakeUp now => (·.2) <$> l.wakeUp now
  | .serve now => (·.2) <$> l.serve now

end Lane

end CanAdapter
