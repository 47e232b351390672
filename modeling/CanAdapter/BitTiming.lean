/-
Bit timing. A bit lasts `brp * (1 + tseg1 + tseg2)` ticks of the CAN clock: one synchronisation segment and two time
segments, each scaled by the prescaler.

`limit_mem`: limits that do not cross hold what is moved into them. `clamp_clamp`: clamping twice is clamping once.
`contains_clamp`: hence a range contains all it clamps to.
-/
import CanAdapter.Fault

namespace CanAdapter

structure BitTiming where
  /-- prescaler -/
  brp : UInt16
  /-- synchronisation jump width -/
  sjw : UInt8
  tseg1 : UInt16
  tseg2 : UInt8
deriving DecidableEq, Repr

namespace BitTiming

/-- time quanta per bit -/
def quanta (t : BitTiming) : UInt32 := 1 + t.tseg1.toUInt32 + t.tseg2.toUInt32

/-- clock ticks per bit -/
def ticks (t : BitTiming) : Checked UInt32 := Checked.mul32 t.brp.toUInt32 t.quanta

/-- bits per second; zero for a zero prescaler -/
def bitrate (t : BitTiming) (clock : UInt32) : Checked UInt32 := do
  let ticks ← t.ticks
  return if ticks = 0 then 0 else clock / ticks

/-- where a bit is sampled, in thousandths of its time -/
def samplePoint (t : BitTiming) : UInt16 :=
  UInt16.ofNat ((1 + t.tseg1.toNat) * 1000 / (1 + t.tseg1.toNat + t.tseg2.toNat))

/-- whole microseconds per bit, as a word; zero without a clock -/
def micros (t : BitTiming) (clock : UInt32) : Checked UInt32 :=
  if clock = 0 then .ok 0 else do
    return UInt32.ofNat ((← t.ticks).toNat * 1000000 / clock.toNat)

/-- microseconds per bit in steps of 1/256, as a word; zero without a clock -/
def micros256 (t : BitTiming) (clock : UInt32) : Checked UInt32 :=
  if clock = 0 then .ok 0 else do
    return UInt32.ofNat ((← t.ticks).toNat * 1000000 * 256 / clock.toNat)

end BitTiming

/-- a value moved into its limits; where they cross, the upper one wins -/
def limit {α : Type} [LE α] [DecidableLE α] (lo hi x : α) : α :=
  let raised := if lo ≤ x then x else lo
  if raised ≤ hi then raised else hi

section

variable {α : Type} [LE α] [DecidableLE α] [Std.IsLinearOrder α]

theorem limit_limit (lo hi x : α) : limit lo hi (limit lo hi x) = limit lo hi x := by
  grind [limit]

theorem limit_mem {lo hi : α} (h : lo ≤ hi) (x : α) : lo ≤ limit lo hi x ∧ limit lo hi x ≤ hi := by
  grind [limit]

end

/-- inclusive limits of each field -/
structure TimingRange where
  min : BitTiming
  max : BitTiming
deriving DecidableEq, Repr

namespace TimingRange

/-- every field moved into its own limits; no request is refused -/
def clamp (r : TimingRange) (t : BitTiming) : BitTiming where
  brp := limit r.min.brp r.max.brp t.brp
  sjw := limit r.min.sjw r.max.sjw t.sjw
  tseg1 := limit r.min.tseg1 r.max.tseg1 t.tseg1
  tseg2 := limit r.min.tseg2 r.max.tseg2 t.tseg2

def contains (r : TimingRange) (t : BitTiming) : Bool := r.clamp t == t

theorem clamp_clamp (r : TimingRange) (t : BitTiming) : r.clamp (r.clamp t) = r.clamp t := by
  simp [clamp, limit_limit]

theorem contains_clamp (r : TimingRange) (t : BitTiming) : r.contains (r.clamp t) = true := by
  simp [contains, clamp_clamp]

end TimingRange

end CanAdapter
