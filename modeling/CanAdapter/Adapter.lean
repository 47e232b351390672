/-
The adapter: any number of lanes behind one USB device. Mounting, detaching and a USB reset reach every lane; transfers
and completions reach the one that owns the endpoint; each lane is polled and looks at its rings on its own.
-/
import CanAdapter.Lane.Step
import CanAdapter.Route

namespace CanAdapter

structure Adapter (σ : Type) where
  mounted : Bool
  lanes : List (Lane σ)

/-- applies a function to one element of a list, if there is one at that place -/
def updateAt {α β : Type} (f : α → Checked (β × α)) : Nat → List α → Checked (Option β × List α)
  | _, [] => .ok (none, [])
  | 0, a :: as => do
    let (b, a) ← f a
    return (some b, a :: as)
  | n + 1, a :: as => do
    let (b, as) ← updateAt f n as
    return (b, a :: as)

/-- what can happen to the adapter -/
inductive Op where
  | mount
  | unmount
  | suspend
  | resume
  | usbReset
  /-- a transfer from the host -/
  | out (endpoint : UInt8) (bytes : Bytes)
  /-- a transfer to the host is done -/
  | inComplete (endpoint : UInt8)
  | poll (lane : Nat)
  | wakeUp (lane : Nat) (now : Nat)
  | serve (lane : Nat) (now : Nat)
deriving DecidableEq, Repr

namespace Adapter

variable {σ : Type} [Controller σ]

/-- the adapter of some channels, which have to come in the order of their indices -/
def ofLanes (lanes : List (Lane σ)) : Checked (Adapter σ) :=
  if lanes.mapIdx (fun i l => l.channel.index.toNat == i) |>.all id then .ok ⟨false, lanes⟩ else .error .assertion

/-- something that happens to every channel -/
def broadcast (mounted : Bool) (op : LaneOp) (a : Adapter σ) : Checked (Adapter σ) := do
  return ⟨mounted, ← a.lanes.mapM (·.step op)⟩

/-- something that happens to one channel; nothing if there is no such channel -/
def atLane {β : Type} (i : Nat) (f : Lane σ → Checked (β × Lane σ)) (a : Adapter σ) :
    Checked (Option β × Adapter σ) := do
  let (b, lanes) ← updateAt f i a.lanes
  return (b, { a with lanes })

def stepLane (i : Nat) (op : LaneOp) (a : Adapter σ) : Checked (Adapter σ) :=
  (·.2) <$> a.atLane i fun l => (fun l => ((), l)) <$> l.step op

def step (op : Op) (a : Adapter σ) : Checked (Adapter σ) :=
  match op with
  | .mount | .resume => a.broadcast true .mount
  | .unmount | .suspend => a.broadcast false .detach
  | .usbReset => a.broadcast false .usbReset
  | .out endpoint bytes =>
    match route endpoint with
    | none => .ok a
    | some (i, .command) => a.stepLane i (.commandData bytes)
    | some (i, .can) => a.stepLane i (.canData bytes)
  | .inComplete endpoint =>
    match route endpoint with
    | none => .ok a
    | some (i, .command) => a.stepLane i .commandDone
    | some (i, .can) => a.stepLane i .canDone
  | .poll i => a.stepLane i .poll
  | .wakeUp i now => a.stepLane i (.wakeUp now)
  | .serve i now => a.stepLane i (.serve now)

/-- operations in order -/
def run (ops : List Op) (a : Adapter σ) : Checked (Adapter σ) := ops.foldlM (fun a op => a.step op) a

end Adapter

end CanAdapter
