/-
Timestamps of frames that were drained from a FIFO in one batch. Only the counter at the time of draining is known.
Frames follow each other on the bus without a gap, so the youngest frame gets that counter, and each older one the
timestamp of its successor less the successor's time on the wire.

`length_stamp`: a batch keeps its length.
-/
import CanAdapter.BitTiming
import CanAdapter.BusEvent

namespace CanAdapter

/-- bits of a frame on the wire, by the rate they are sent at -/
structure BitCounts where
  nominal : UInt32
  data : UInt32
deriving DecidableEq, Repr

namespace BitCounts

/-- the bits after the CRC: its delimiter, the acknowledgement slot and delimiter, the end of the frame, and two bits
between frames, because the third may be the start of the next -/
def tail : UInt32 := 1 + 1 + 1 + 7 + 2

/-- the bits up to the rate switch of an FD frame -/
def fdArbitration (extended : Bool) : UInt32 :=
  if extended then 1 + 11 + 1 + 1 + 18 + 1 + 1 + 1 + 1 else 1 + 11 + 1 + 1 + 1 + 1 + 1

/-- the bits of a classic frame up to its payload -/
def classicHeader (extended : Bool) : UInt32 :=
  if extended then 1 + 11 + 1 + 1 + 18 + 1 + 2 + 4 else 1 + 11 + 1 + 1 + 1 + 4

/-- checksum of an FD frame with its stuff count, parity and fixed stuff bits -/
def fdChecksum (dlc : UInt8) : UInt32 :=
  if dlc.toNat % 16 ≤ 10 then 17 + 4 + 5 else 21 + 4 + 6

/-- the bits of a frame of the given format -/
def ofFormat (flags : FrameFlags) (dlc : UInt8) : BitCounts :=
  let extended := flags.has .ext
  let payload := UInt32.ofNat (dlcLength dlc * 8)
  if flags.has .fdf then
    let body := 1 + 4 + payload + fdChecksum dlc
    if flags.has .brs then ⟨fdArbitration extended + tail, body⟩
    else ⟨fdArbitration extended + body + tail, 0⟩
  else
    let payload := if flags.has .rtr then 0 else payload
    ⟨classicHeader extended + payload + 15 + tail, 0⟩

end BitCounts

/-- how long a bit lasts: microseconds at the nominal rate, 1/256 microseconds at the data rate -/
structure BitDurations where
  nominal : UInt32
  data : UInt32
deriving DecidableEq, Repr

/-- an entry of a batch that carries a timestamp -/
class Timestamped (α : Type) where
  flags : α → FrameFlags
  dlc : α → UInt8
  withTimestamp : α → UInt32 → α

instance : Timestamped Frame := ⟨Frame.flags, Frame.dlc, fun f ts => { f with timestamp := ts }⟩

instance : Timestamped TxEvent := ⟨TxEvent.flags, TxEvent.dlc, fun e ts => { e with timestamp := ts }⟩

namespace BitDurations

def ofTimings (nominal data : BitTiming) (clock : UInt32) : Checked BitDurations := do
  let n ← nominal.micros clock
  let d ← data.micros256 clock
  return ⟨n, d⟩

/-- duration of a frame in microseconds, wrapping -/
def frameTime (d : BitDurations) (bits : BitCounts) : UInt32 :=
  d.nominal * bits.nominal + (d.data * bits.data) >>> 8

variable {α : Type} [Timestamped α]

/-- time on the wire of an entry, with extra bits at the nominal rate -/
def entryTime (d : BitDurations) (extra : UInt32) (a : α) : Checked UInt32 := do
  let bits := BitCounts.ofFormat (Timestamped.flags a) (Timestamped.dlc a)
  return d.frameTime { bits with nominal := ← Checked.add32 bits.nominal extra }

/-- a batch, oldest first, with its timestamps, and the timestamp of the entry that came before it -/
def stampFrom (d : BitDurations) (extra tsc : UInt32) : List α → Checked (List α × UInt32)
  | [] => .ok ([], tsc)
  | a :: as => do
    let (as, ts) ← d.stampFrom extra tsc as
    let time ← d.entryTime extra a
    return (Timestamped.withTimestamp a ts :: as, ts - time)

/-- a batch, oldest first, that was drained at `tsc`, with its timestamps -/
def stamp (d : BitDurations) (extra tsc : UInt32) (batch : List α) : Checked (List α) := do
  return (← d.stampFrom extra tsc batch).1

/-- received frames with their timestamps -/
def stampReceived (d : BitDurations) (tsc : UInt32) (frames : List Frame) : Checked (List Frame) :=
  d.stamp 0 tsc frames

/-- transmit events with their timestamps; the transmitter delay compensation, in bits, counts twice -/
def stampSent (d : BitDurations) (tsc compensation : UInt32) (events : List TxEvent) : Checked (List TxEvent) := do
  let extra ← Checked.mul32 compensation 2
  d.stamp extra tsc events

theorem length_stampFrom {d : BitDurations} {extra tsc : UInt32} {batch : List α} {r : List α × UInt32}
    (h : d.stampFrom extra tsc batch = .ok r) : r.1.length = batch.length := by
  induction batch generalizing r with
  | nil =>
    cases h
    rfl
  | cons a as ih =>
    rw [stampFrom] at h
    cases ht : d.stampFrom extra tsc as with
    | error f => simp [ht, bind, Except.bind] at h
    | ok t =>
      cases he : d.entryTime extra a with
      | error f => simp [ht, he, bind, Except.bind] at h
      | ok time =>
        simp only [ht, he, bind, Except.bind, pure, Except.pure, Except.ok.injEq] at h
        simp [← h, ih ht]

theorem length_stamp {d : BitDurations} {extra tsc : UInt32} {batch out : List α}
    (h : d.stamp extra tsc batch = .ok out) : out.length = batch.length := by
  unfold stamp at h
  cases ht : d.stampFrom extra tsc batch with
  | error f => simp [ht, bind, Except.bind] at h
  | ok t =>
    simp only [ht, bind, Except.bind, pure, Except.pure, Except.ok.injEq] at h
    simp [← h, length_stampFrom ht]

end BitDurations

end CanAdapter
