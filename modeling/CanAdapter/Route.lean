/-
Endpoint numbers. Channel `i` has two bulk pipes, command on endpoint `1 + 2 * i` and CAN on `2 + 2 * i`; bit 7 is set
in the IN direction.

`route_commandEndpoint`, `route_canEndpoint`: the endpoints of a channel lead back to it.
-/
import CanAdapter.Fault

namespace CanAdapter

/-- the two pipes of a channel -/
inductive Pipe where
  | command
  | can
deriving DecidableEq, Repr

/-- OUT endpoint of the command pipe of a channel -/
def commandEndpoint (index : UInt8) : Checked UInt8 := do
  Checked.add8 1 (← Checked.mul8 2 index)

/-- OUT endpoint of the CAN pipe of a channel -/
def canEndpoint (index : UInt8) : Checked UInt8 := do
  Checked.add8 2 (← Checked.mul8 2 index)

/-- the channel and pipe of an endpoint, in either direction; none for the control endpoint -/
def route (endpoint : UInt8) : Option (Nat × Pipe) :=
  let number := endpoint.toNat % 128
  if number = 0 then none
  else some ((number - 1) / 2, if number % 2 = 1 then .command else .can)

theorem route_commandEndpoint {i ep : UInt8} (h : i.toNat < 63) (he : commandEndpoint i = .ok ep) :
    route ep = some (i.toNat, .command) := by
  have two : Checked.mul8 2 i = .ok (2 * i) := if_pos (by simp; omega)
  have one : Checked.add8 1 (2 * i) = .ok (1 + 2 * i) := if_pos (by simp; omega)
  simp only [commandEndpoint, two, one, bind, Except.bind, Except.ok.injEq] at he
  have number : ep.toNat = 1 + 2 * i.toNat := by
    rw [← he]
    simp
    omega
  simp only [route, number]
  rw [if_neg (by omega), if_pos (by omega)]
  congr 2
  omega

theorem route_canEndpoint {i ep : UInt8} (h : i.toNat < 63) (he : canEndpoint i = .ok ep) :
    route ep = some (i.toNat, .can) := by
  have two : Checked.mul8 2 i = .ok (2 * i) := if_pos (by simp; omega)
  have one : Checked.add8 2 (2 * i) = .ok (2 + 2 * i) := if_pos (by simp; omega)
  simp only [canEndpoint, two, one, bind, Except.bind, Except.ok.injEq] at he
  have number : ep.toNat = 2 + 2 * i.toNat := by
    rw [← he]
    simp
    omega
  simp only [route, number]
  rw [if_neg (by omega), if_neg (by omega)]
  congr 2
  omega

end CanAdapter
