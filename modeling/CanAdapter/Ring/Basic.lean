/-
A bounded queue between two contexts, in `2 ^ k` slots. Three 16-bit counters run freely: `get` is the oldest item,
items before `put` are published, items from `put` up to `next` are staged by the open batch and not visible yet. A
counter's slot is the counter modulo the number of slots, and differences of counters are exact because the number of
slots divides 2 ^ 16 and is at most half of it. A full ring keeps what it has: the new item is handed back and counted.

The type carries what every operation keeps: no more items than slots, published items before staged ones, and a value
in each live slot. `toList` is the published items, oldest first, and `staged` the ones of the open batch.
-/
import CanAdapter.Ring.Counter

namespace CanAdapter

-- a power of a number is the core library's, whatever else is in scope
attribute [instance (2000), default_instance (20000)] instPowNat

/-- slot of a counter among `2 ^ k` -/
def ringSlot (k : Nat) (c : UInt16) : Fin (2 ^ k) := ⟨c.toNat % 2 ^ k, Nat.mod_lt _ (Nat.two_pow_pos k)⟩

structure Ring (α : Type) (k : Nat) where
  slots : Vector (Option α) (2 ^ k)
  /-- counter of the oldest item -/
  get : UInt16
  /-- counter after the last published item -/
  put : UInt16
  /-- counter after the last staged item -/
  next : UInt16
  /-- items handed back since the count was last taken -/
  lost : UInt16
  small : k ≤ 15
  used_le : steps get next ≤ 2 ^ k
  put_le : steps get put ≤ steps get next
  live : ∀ c : UInt16, steps get c < steps get next → slots[ringSlot k c].isSome = true

namespace Ring

variable {α : Type} {k : Nat}

theorem pow_le (h : k ≤ 15) : 2 ^ k ≤ 32768 := Nat.pow_le_pow_right (n := 2) (by decide) h

def empty (α : Type) (k : Nat) (small : k ≤ 15 := by decide) : Ring α k where
  slots := Vector.replicate _ none
  get := 0
  put := 0
  next := 0
  lost := 0
  small := small
  used_le := Nat.zero_le _
  put_le := Nat.le_refl _
  live _ h := absurd h (Nat.not_lt_zero _)

def capacity (_ : Ring α k) : Nat := 2 ^ k

/-- published items -/
def used (r : Ring α k) : Nat := steps r.get r.put

def isEmpty (r : Ring α k) : Bool := r.used == 0

def isFull (r : Ring α k) : Bool := 2 ^ k ≤ r.used

/-- the values in `n` slots, from counter `c` on -/
def items (slots : Vector (Option α) (2 ^ k)) : UInt16 → Nat → List α
  | _, 0 => []
  | c, n + 1 => slots[ringSlot k c].toList ++ items slots (c + 1) n

/-- the published items, oldest first -/
def toList (r : Ring α k) : List α := items r.slots r.get r.used

/-- the items of the open batch, oldest first -/
def staged (r : Ring α k) : List α := items r.slots r.put (steps r.put r.next)

/-! ## Producing -/

/-- Puts an item into the open batch. A full ring hands it back, and counts it unless the count is at its end. -/
def stage (a : α) (r : Ring α k) : Bool × Ring α k :=
  if h : steps r.get r.next < 2 ^ k then
    (true, { r with
      slots := r.slots.set (ringSlot k r.next) (some a)
      next := r.next + 1
      used_le := by
        have := pow_le r.small
        rw [steps_succ_right (by omega)]
        exact h
      put_le := by
        have := pow_le r.small
        rw [steps_succ_right (by omega)]
        exact Nat.le_succ_of_le r.put_le
      live := fun c hc => by
        have := pow_le r.small
        rw [steps_succ_right (by omega)] at hc
        by_cases hs : (ringSlot k r.next).val = (ringSlot k c).val
        · simp [hs]
        · have hne : steps r.get c ≠ steps r.get r.next := fun e => hs (by rw [steps_inj e])
          have old := r.live c (by omega)
          simp only [Fin.getElem_fin] at old ⊢
          rw [Vector.getElem_set_ne _ _ hs]
          exact old })
  else (false, { r with lost := countUp r.lost })

/-- closes the batch: its items become visible together -/
def publish (r : Ring α k) : Ring α k := { r with put := r.next, put_le := Nat.le_refl _ }

/-- a batch of one -/
def push (a : α) (r : Ring α k) : Bool × Ring α k :=
  let (ok, r) := r.stage a
  (ok, r.publish)

/-- stages items in order; answers how many were accepted -/
def stageAll : List α → Ring α k → Nat × Ring α k
  | [], r => (0, r)
  | a :: as, r =>
    let (ok, r) := r.stage a
    let (n, r) := stageAll as r
    (if ok then n + 1 else n, r)

/-- a batch; answers how many of its items were accepted -/
def pushAll (as : List α) (r : Ring α k) : Nat × Ring α k :=
  let (n, r) := r.stageAll as
  (n, r.publish)

/-! ## Consuming -/

/-- the oldest published item -/
def peek (r : Ring α k) : Option α :=
  if r.put = r.get then none else r.slots[ringSlot k r.get]

/-- releases the oldest published item -/
def consume (r : Ring α k) : Ring α k :=
  if h : r.put = r.get then r
  else
    have pos : 0 < steps r.get r.put := Nat.pos_of_ne_zero fun e => h (steps_eq_zero_iff.1 e).symm
    have put := steps_succ_left pos
    have next := steps_succ_left (Nat.lt_of_lt_of_le pos r.put_le)
    { r with
      get := r.get + 1
      used_le := Nat.le_trans (by omega) r.used_le
      put_le := by
        have := r.put_le
        omega
      live := fun c hc => r.live c (by
        by_cases hz : steps r.get c = 0
        · omega
        · have := steps_succ_left (Nat.pos_of_ne_zero hz)
          omega) }

def pop (r : Ring α k) : Option α × Ring α k :=
  match r.peek with
  | some a => (some a, r.consume)
  | none => (none, r)

/-- releases all published items; staged ones stay -/
def clear (r : Ring α k) : Ring α k :=
  { r with
    get := r.put
    used_le := by
      rw [steps_sub r.put_le]
      exact Nat.le_trans (Nat.sub_le ..) r.used_le
    put_le := by simp
    live := fun c hc => r.live c (by
      rw [steps_sub r.put_le] at hc
      by_cases hp : steps r.get r.put ≤ steps r.get c
      · rw [steps_sub hp] at hc
        omega
      · have := r.put_le
        omega) }

/-- the number of items handed back since it was last taken -/
def takeLost (r : Ring α k) : UInt16 × Ring α k := (r.lost, { r with lost := 0 })

end Ring

end CanAdapter
