/-
Scripts on a ring whose two ends have to be claimed. Each end can be claimed once, and a step that needs an end which is
not held is refused. While a batch is open its pushes are staged, and the consumer goes on with what is published.
-/
import CanAdapter.Ring.Basic

namespace CanAdapter

/-- a ring and who has its ends -/
structure SharedRing (k : Nat) where
  ring : Ring UInt32 k
  producerTaken : Bool := false
  consumerTaken : Bool := false
  /-- the producing end is held -/
  producing : Bool := false
  /-- the consuming end is held -/
  consuming : Bool := false

/-- one step of a script, a batch apart -/
inductive RingStep where
  | claimProducer
  | claimConsumer
  | dropProducer
  | dropConsumer
  | push (v : UInt32)
  /-- pushes `count` values counting up from `start` -/
  | pushMany (start : UInt32) (count : Nat)
  | peek
  | pop
  /-- pops at most `count` values -/
  | popMany (count : Nat)
  | consume
  | clear
  | takeLost
  /-- capacity as the consumer sees it -/
  | capacity
  /-- capacity as the producer sees it -/
  | producerCapacity
deriving DecidableEq, Repr

/-- a step, or a batch with the steps taken while it is open -/
inductive RingItem where
  | single (s : RingStep)
  | batch (steps : List RingStep)
deriving DecidableEq, Repr

inductive RingAnswer where
  | nothing
  | flag (b : Bool)
  | value (v : Option UInt32)
  /-- the item was handed back -/
  | rejected (v : UInt32)
  | count (n : Nat)
  /-- how many values were popped, their sum and the last one -/
  | popped (count : Nat) (sum : UInt32) (last : Option UInt32)
  | unclaimed
deriving DecidableEq, Repr

/-- an answer with what the ring shows after its step -/
structure RingEntry (α : Type) where
  answer : α
  used : Nat
  empty : Bool
  full : Bool
  lost : UInt16
deriving DecidableEq, Repr

/-- the answer of a script's item -/
inductive RingReply where
  | single (a : RingAnswer)
  | batch (entries : List (RingEntry RingAnswer))
deriving DecidableEq, Repr

namespace SharedRing

variable {k : Nat}

def entry {α : Type} (s : SharedRing k) (a : α) : RingEntry α :=
  ⟨a, s.ring.used, s.ring.isEmpty, s.ring.isFull, s.ring.lost⟩

/-- pushes `n` values counting up from `v`, into the open batch or each on its own; adds to the number accepted -/
def pushMany (staging : Bool) : Nat → UInt32 → Nat → Ring UInt32 k → Nat × Ring UInt32 k
  | 0, _, accepted, r => (accepted, r)
  | n + 1, v, accepted, r =>
    match if staging then r.stage v else r.push v with
    | (ok, r) => pushMany staging n (v + 1) (if ok then accepted + 1 else accepted) r

/-- pops up to `n` values; adds to their count and sum -/
def popMany : Nat → Nat → UInt32 → Option UInt32 → Ring UInt32 k → RingAnswer × Ring UInt32 k
  | 0, count, sum, last, r => (.popped count sum last, r)
  | n + 1, count, sum, last, r =>
    match r.pop with
    | (some v, r) => popMany n (count + 1) (sum + v) (some v) r
    | (none, r) => (.popped count sum last, r)

/-- one step; with a batch open, pushes are staged -/
def step (staging : Bool) (i : RingStep) (s : SharedRing k) : RingAnswer × SharedRing k :=
  let producer (f : Ring UInt32 k → RingAnswer × Ring UInt32 k) : RingAnswer × SharedRing k :=
    if s.producing then (fun (a, r) => (a, { s with ring := r })) (f s.ring) else (.unclaimed, s)
  let consumer (f : Ring UInt32 k → RingAnswer × Ring UInt32 k) : RingAnswer × SharedRing k :=
    if s.consuming then (fun (a, r) => (a, { s with ring := r })) (f s.ring) else (.unclaimed, s)
  match i with
  | .claimProducer =>
    if s.producerTaken then (.flag false, s)
    else (.flag true, { s with producerTaken := true, producing := true })
  | .claimConsumer =>
    if s.consumerTaken then (.flag false, s) else (.flag true, { s with consumerTaken := true, consuming := true })
  | .dropProducer => (.nothing, { s with producing := false })
  | .dropConsumer => (.nothing, { s with consuming := false })
  | .push v => producer fun r =>
    match if staging then r.stage v else r.push v with
    | (ok, r) => (if ok then .flag true else .rejected v, r)
  | .pushMany start count => producer fun r =>
    match pushMany staging count start 0 r with
    | (n, r) => (.count n, r)
  | .peek => consumer fun r => (.value r.peek, r)
  | .pop => consumer fun r =>
    match r.pop with
    | (v, r) => (.value v, r)
  | .popMany count => consumer (popMany count 0 0 none)
  | .consume => consumer fun r => (.nothing, r.consume)
  | .clear => consumer fun r => (.nothing, r.clear)
  | .takeLost => (.count s.ring.lost.toNat, { s with ring := s.ring.takeLost.2 })
  | .capacity => consumer fun r => (.count r.capacity, r)
  | .producerCapacity => producer fun r => (.count r.capacity, r)

/-- steps in order, with what the ring shows after each -/
def runSteps (staging : Bool) : List RingStep → SharedRing k → List (RingEntry RingAnswer) × SharedRing k
  | [], s => ([], s)
  | i :: is, s =>
    match s.step staging i with
    | (a, s) =>
      let e := s.entry a
      match runSteps staging is s with
      | (es, s) => (e :: es, s)

/-- one item of a script; a batch publishes what its steps staged -/
def item (i : RingItem) (s : SharedRing k) : RingReply × SharedRing k :=
  match i with
  | .single i =>
    match s.step false i with
    | (a, s) => (.single a, s)
  | .batch is =>
    if s.producing then
      match s.runSteps true is with
      | (es, s) => (.batch es, { s with ring := s.ring.publish })
    else (.single .unclaimed, s)

/-- a script, with what the ring shows after each item -/
def run : List RingItem → SharedRing k → List (RingEntry RingReply)
  | [], _ => []
  | i :: is, s =>
    match s.item i with
    | (a, s) => s.entry a :: run is s

end SharedRing

end CanAdapter
