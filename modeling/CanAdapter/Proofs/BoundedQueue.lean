/-
A ring is a bounded queue. `RingOp` is all that its two ends can do, in any order, with a batch open or not;
`Ring.run` and `Queue.run` carry out a script of operations on the slots and counters of a ring and on the lists of a
queue, and collect the answers.

`onQueue_toQueue`: one operation answers the same on both, and leaves a ring that stands for the queue. `next_onRing`:
the counter of staged items moves by one for each item that is accepted, and never else. `answers_of_queue`: any script
from an empty ring gets the answers of the queue, however often the counters wrap while it runs.
-/
import CanAdapter.Proofs.Batch

namespace CanAdapter

/-- what the producing and the consuming end of a ring can do -/
inductive RingOp (α : Type) where
  | push (a : α)
  /-- a batch starts where the last one ended -/
  | openBatch
  /-- adds an item to the open batch -/
  | stage (a : α)
  /-- the items of the open batch become visible -/
  | closeBatch
  | peek
  | pop
  | consume
  | clear
  | used
  | takeLost
deriving DecidableEq, Repr

inductive RingResult (α : Type) where
  | done
  | accepted
  /-- the item is handed back -/
  | rejected (a : α)
  | item (a : Option α)
  | count (n : Nat)
deriving DecidableEq, Repr

namespace RingOp

variable {α : Type} {k : Nat}

/-- the answer to a push that was accepted, or not -/
def pushed (a : α) (ok : Bool) : RingResult α := if ok then .accepted else .rejected a

def onRing (op : RingOp α) (r : Ring α k) : RingResult α × Ring α k :=
  match op with
  | push a => (pushed a (r.push a).1, (r.push a).2)
  | openBatch => (.done, r)
  | stage a => (pushed a (r.stage a).1, (r.stage a).2)
  | closeBatch => (.done, r.publish)
  | peek => (.item r.peek, r)
  | pop => (.item r.pop.1, r.pop.2)
  | consume => (.done, r.consume)
  | clear => (.done, r.clear)
  | used => (.count r.used, r)
  | takeLost => (.count r.takeLost.1.toNat, r.takeLost.2)

def onQueue (capacity : Nat) (op : RingOp α) (q : Queue α) : RingResult α × Queue α :=
  match op with
  | push a => (pushed a (q.push capacity a).1, (q.push capacity a).2)
  | openBatch => (.done, q)
  | stage a => (pushed a (q.stage capacity a).1, (q.stage capacity a).2)
  | closeBatch => (.done, q.publish)
  | peek => (.item q.peek, q)
  | pop => (.item q.pop.1, q.pop.2)
  | consume => (.done, q.consume)
  | clear => (.done, q.clear)
  | used => (.count q.published.length, q)
  | takeLost => (.count q.takeLost.1, q.takeLost.2)

end RingOp

/-- items in the queue, visible or not -/
def Queue.length {α : Type} (q : Queue α) : Nat := q.published.length + q.staged.length

/-- the operations of a script in order, with their answers -/
def Ring.run {α : Type} {k : Nat} : List (RingOp α) → Ring α k → List (RingResult α) × Ring α k
  | [], r => ([], r)
  | op :: ops, r => ((op.onRing r).1 :: (run ops (op.onRing r).2).1, (run ops (op.onRing r).2).2)

/-- the same script on the queue -/
def Queue.run {α : Type} (capacity : Nat) : List (RingOp α) → Queue α → List (RingResult α) × Queue α
  | [], q => ([], q)
  | op :: ops, q =>
    ((op.onQueue capacity q).1 :: (run capacity ops (op.onQueue capacity q).2).1,
      (run capacity ops (op.onQueue capacity q).2).2)

/-- how many pushes were accepted -/
def RingResult.acceptances {α : Type} (answers : List (RingResult α)) : Nat :=
  answers.countP fun
    | .accepted => true
    | _ => false

theorem RingResult.acceptances_cons {α : Type} (a : RingResult α) (answers : List (RingResult α)) :
    acceptances (a :: answers) = acceptances [a] + acceptances answers := by
  simp only [acceptances, List.countP_cons, List.countP_nil]
  omega

/-! ## The queue -/

namespace Queue

variable {α : Type}

theorem length_onQueue_le (capacity : Nat) (op : RingOp α) (q : Queue α) :
    (op.onQueue capacity q).2.length ≤ q.length + RingResult.acceptances [(op.onQueue capacity q).1] := by
  cases op with
  | push a | stage a =>
    simp only [RingOp.onQueue, push, stage]
    split <;> simp [length, publish, RingOp.pushed, RingResult.acceptances, Nat.add_assoc]
  | pop | consume | clear =>
    simp only [RingOp.onQueue, length, pop, consume, clear, List.length_tail, List.length_nil]
    omega
  | openBatch | closeBatch | peek | used | takeLost => simp [RingOp.onQueue, length, publish, takeLost]

/-- a queue holds no more items than it accepted -/
theorem length_run_le (capacity : Nat) (ops : List (RingOp α)) (q : Queue α) :
    (run capacity ops q).2.length ≤ q.length + RingResult.acceptances (run capacity ops q).1 := by
  induction ops generalizing q with
  | nil => exact Nat.le_add_right _ _
  | cons op ops ih =>
    have first := length_onQueue_le capacity op q
    calc (run capacity (op :: ops) q).2.length
        ≤ (op.onQueue capacity q).2.length + RingResult.acceptances (run capacity ops (op.onQueue capacity q).2).1 :=
          ih _
      _ ≤ q.length + RingResult.acceptances [(op.onQueue capacity q).1] +
          RingResult.acceptances (run capacity ops (op.onQueue capacity q).2).1 := Nat.add_le_add_right first _
      _ = q.length + RingResult.acceptances (run capacity (op :: ops) q).1 := by
        rw [Nat.add_assoc, ← RingResult.acceptances_cons]
        rfl

end Queue

namespace Ring

variable {α : Type} {k : Nat}

/-! ## One operation -/

theorem onQueue_toQueue (op : RingOp α) (r : Ring α k) :
    op.onQueue (2 ^ k) r.toQueue = ((op.onRing r).1, (op.onRing r).2.toQueue) := by
  cases op with
  | push a => simp only [RingOp.onQueue, RingOp.onRing, ← toQueue_push]
  | openBatch => rfl
  | stage a => simp only [RingOp.onQueue, RingOp.onRing, ← toQueue_stage]
  | closeBatch => simp only [RingOp.onQueue, RingOp.onRing, ← toQueue_publish]
  | peek => simp only [RingOp.onQueue, RingOp.onRing, peek_eq, Queue.peek, toQueue]
  | pop => simp only [RingOp.onQueue, RingOp.onRing, ← toQueue_pop]
  | consume => simp only [RingOp.onQueue, RingOp.onRing, ← toQueue_consume]
  | clear => simp only [RingOp.onQueue, RingOp.onRing, ← toQueue_clear]
  | used => simp only [RingOp.onQueue, RingOp.onRing, toQueue, length_toList]
  | takeLost => simp only [RingOp.onQueue, RingOp.onRing, ← toQueue_takeLost]

/-- a push moves the counter of staged items exactly if it is accepted -/
theorem next_stage (a : α) (r : Ring α k) :
    (r.stage a).2.next = r.next + UInt16.ofNat (RingResult.acceptances [RingOp.pushed a (r.stage a).1]) := by
  by_cases room : steps r.get r.next < 2 ^ k
  · simp [stage, room, RingOp.pushed, RingResult.acceptances]
  · simp [stage, room, RingOp.pushed, RingResult.acceptances]

theorem next_onRing (op : RingOp α) (r : Ring α k) :
    (op.onRing r).2.next = r.next + UInt16.ofNat (RingResult.acceptances [(op.onRing r).1]) := by
  cases op with
  | push a => exact next_stage a r
  | stage a => exact next_stage a r
  | consume =>
    have same : r.consume.next = r.next := by
      unfold Ring.consume
      split <;> rfl
    simp [RingOp.onRing, RingResult.acceptances, same]
  | pop =>
    have same : r.pop.2.next = r.next := by
      unfold Ring.pop Ring.consume
      split
      · split <;> rfl
      · rfl
    simp [RingOp.onRing, RingResult.acceptances, same]
  | openBatch | closeBatch | peek | clear | used | takeLost =>
    simp [RingOp.onRing, RingResult.acceptances, Ring.publish, Ring.clear, Ring.takeLost]

/-! ## Scripts -/

theorem queue_run (ops : List (RingOp α)) (r : Ring α k) :
    Queue.run (2 ^ k) ops r.toQueue = ((r.run ops).1, (r.run ops).2.toQueue) := by
  induction ops generalizing r with
  | nil => rfl
  | cons op ops ih => simp only [Queue.run, run, onQueue_toQueue, ih]

theorem next_run (ops : List (RingOp α)) (r : Ring α k) :
    (r.run ops).2.next = r.next + UInt16.ofNat (RingResult.acceptances (r.run ops).1) := by
  induction ops generalizing r with
  | nil => simp [run, RingResult.acceptances]
  | cons op ops ih =>
    rw [run, RingResult.acceptances_cons, ih, next_onRing, UInt16.ofNat_add, UInt16.add_assoc]

theorem toQueue_empty (small : k ≤ 15) : (empty α k small).toQueue = Queue.empty := by
  have closed : (empty α k small).staged = [] := closed_empty small
  rw [toQueue, toList_empty, closed]
  rfl

/-- the counter that is `m` steps behind one that counted to `n` -/
theorem eq_ofNat_of_steps {c next : UInt16} {m n : Nat} (hn : next = UInt16.ofNat n) (h : steps c next = m)
    (le : m ≤ n) : c = UInt16.ofNat (n - m) := by
  have := c.toNat_lt
  subst hn
  rw [steps_eq, UInt16.toNat_ofNat'] at h
  rw [← UInt16.toNat_inj, UInt16.toNat_ofNat']
  omega

/-- **Refinement.** From an empty ring of `2 ^ k` slots every script, of any length, gets the answers that the bounded
queue gives, and leaves a ring that stands for the queue; it never holds more than it has slots. The counters are the
numbers of items published and released so far, in 16 bits: they wrap, and the answers stay the same. -/
theorem answers_of_queue (small : k ≤ 15) {ops : List (RingOp α)} {answers : List (RingResult α)} {r : Ring α k}
    (h : (empty α k small).run ops = (answers, r)) :
    Queue.run (2 ^ k) ops Queue.empty = (answers, r.toQueue) ∧
      r.used = r.toQueue.published.length ∧ r.toQueue.length ≤ 2 ^ k ∧
      r.put = UInt16.ofNat (RingResult.acceptances answers - r.toQueue.staged.length) ∧
      r.get = UInt16.ofNat (RingResult.acceptances answers - r.toQueue.length) := by
  have same := queue_run ops (empty α k small)
  rw [toQueue_empty, h] at same
  have next := next_run ops (empty α k small)
  rw [h] at next
  replace next : r.next = UInt16.ofNat (RingResult.acceptances answers) := next.trans (UInt16.zero_add _)
  have held := Queue.length_run_le (2 ^ k) ops (Queue.empty : Queue α)
  rw [same] at held
  have all : r.toQueue.length = steps r.get r.next := r.length_add_staged
  have staged : r.toQueue.staged.length = steps r.put r.next := r.length_staged
  have accepted : r.toQueue.length ≤ RingResult.acceptances answers := Nat.le_trans held (Nat.le_of_eq (Nat.zero_add _))
  have part : r.toQueue.staged.length ≤ r.toQueue.length := Nat.le_add_left _ _
  refine ⟨same, r.length_toList.symm, all ▸ r.used_le, ?_, ?_⟩
  · exact eq_ofNat_of_steps next staged.symm (Nat.le_trans part accepted)
  · exact eq_ofNat_of_steps next all.symm accepted

/-- a script on two slots: a batch is open while the consumer goes on, and one item of it finds no room -/
def overfullBatch : List (RingOp Nat) :=
  [.push 1, .openBatch, .stage 2, .stage 3, .used, .pop, .peek, .stage 4, .consume, .closeBatch, .used, .pop, .clear,
    .takeLost, .pop]

theorem overfullBatch_answers : ∃ (answers : List (RingResult Nat)) (r : Ring Nat 1),
    (empty Nat 1).run overfullBatch = (answers, r) ∧ Queue.run 2 overfullBatch Queue.empty = (answers, r.toQueue) ∧
      answers = [.accepted, .done, .accepted, .rejected 3, .count 1, .item (some 1), .item none, .accepted, .done,
        .done, .count 2, .item (some 2), .done, .count 1, .item none] := by
  have ran : (empty Nat 1).run overfullBatch =
      (((empty Nat 1).run overfullBatch).1, ((empty Nat 1).run overfullBatch).2) := (Prod.eta _).symm
  exact ⟨_, _, ran, (answers_of_queue (by decide) ran).1, by decide⟩

end Ring

end CanAdapter
