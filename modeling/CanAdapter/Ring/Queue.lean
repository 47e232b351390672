/-
The bounded queue a ring stands for: published items, items of the open batch, and how many were handed back. This is
the machine that a user of a ring has to know; `Ring.toQueue` forgets counters and slots.
-/
import CanAdapter.Ring.Basic

namespace CanAdapter

structure Queue (α : Type) where
  /-- what the consumer sees, oldest first -/
  published : List α
  /-- the open batch, oldest first -/
  staged : List α
  /-- items handed back since the count was last taken; it stops at its largest value -/
  lost : Nat
deriving DecidableEq, Repr

namespace Queue

variable {α : Type}

def empty : Queue α := ⟨[], [], 0⟩

/-- largest count of items handed back -/
def maxLost : Nat := 65535

def stage (capacity : Nat) (a : α) (q : Queue α) : Bool × Queue α :=
  if q.published.length + q.staged.length < capacity then (true, { q with staged := q.staged ++ [a] })
  else (false, { q with lost := min (q.lost + 1) maxLost })

def publish (q : Queue α) : Queue α := { q with published := q.published ++ q.staged, staged := [] }

def push (capacity : Nat) (a : α) (q : Queue α) : Bool × Queue α :=
  ((q.stage capacity a).1, (q.stage capacity a).2.publish)

def peek (q : Queue α) : Option α := q.published.head?

def consume (q : Queue α) : Queue α := { q with published := q.published.tail }

def pop (q : Queue α) : Option α × Queue α := (q.peek, q.consume)

def clear (q : Queue α) : Queue α := { q with published := [] }

def takeLost (q : Queue α) : Nat × Queue α := (q.lost, { q with lost := 0 })

end Queue

/-- the queue a ring stands for -/
def Ring.toQueue {α : Type} {k : Nat} (r : Ring α k) : Queue α := ⟨r.toList, r.staged, r.lost.toNat⟩

end CanAdapter
