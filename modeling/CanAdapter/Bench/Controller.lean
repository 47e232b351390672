/-
A controller for trials. Its FIFOs, counters and answers are set by hand; it records what it is asked to do. It can
refuse frames, or echo them as transmit events and, in loopback, as received frames.

`SimController` hands out the oldest entries of its queues, so what is left shrinks by what was handed out.
-/
import CanAdapter.Controller
import CanAdapter.Message.Basic

namespace CanAdapter

structure SimController where
  onBus : Bool := false
  features : Features := .empty
  nominal : Option BitTiming := none
  data : Option BitTiming := none
  /-- how often it was reset -/
  resets : Nat := 0
  /-- the frames it took for sending, with their track numbers -/
  submitted : List TxRequest := []
  rx : List Frame := []
  events : List TxEvent := []
  errors : List BusError := []
  tsc : UInt32 := 0
  /-- how far the counter moves when something is handed out -/
  tscStep : UInt32 := 0
  delayCompensation : UInt32 := 0
  txFree : UInt8 := 0
  refuses : Bool := false
  echoes : Bool := false
  /-- most entries of one batch, if it is less than usual -/
  drainMax : Option Nat := none
  status : BusStatus := .errorActive
  counters : ErrorCounters := ⟨0, 0⟩
deriving DecidableEq, Repr

namespace SimController

/-- how many of `n` waiting entries the next batch has -/
def drainCount (s : SimController) (n : Nat) : Nat :=
  match s.drainMax with
  | some m => min (min batchSize n) m
  | none => min batchSize n

theorem drainCount_le (s : SimController) (n : Nat) : s.drainCount n ≤ batchSize ∧ s.drainCount n ≤ n := by
  unfold drainCount
  split <;> omega

/-- the counter after `n` entries were handed out -/
def tscAfter (s : SimController) (n : Nat) : UInt32 := if n = 0 then s.tsc else s.tsc + s.tscStep

def drainRx (s : SimController) : Drained Frame × SimController :=
  let n := s.drainCount s.rx.length
  (⟨s.rx.take n, s.tsc⟩, { s with rx := s.rx.drop n, tsc := s.tscAfter n })

def drainTx (s : SimController) : Drained TxEvent × SimController :=
  let n := s.drainCount s.events.length
  (⟨s.events.take n, s.tsc⟩, { s with events := s.events.drop n, tsc := s.tscAfter n })

def takeError (s : SimController) : Option BusError × SimController :=
  match s.errors with
  | [] => (none, s)
  | e :: es => (some e, { s with errors := es })

/-- takes a frame unless it refuses all, and echoes it if it should -/
def submit (f : Frame) (track : UInt8) (s : SimController) : Bool × SimController :=
  if s.refuses then (false, s)
  else
    let s := { s with submitted := s.submitted ++ [TxRequest.mk f track] }
    if s.echoes then
      (true, { s with
        events := s.events ++ [TxEvent.mk track f.flags f.dlc 0]
        rx := if s.features.has .loopback then s.rx ++ [f] else s.rx })
    else (true, s)

instance : Controller SimController where
  drainRx := drainRx
  drainTx := drainTx
  takeError := takeError
  submit := submit
  txFree := txFree
  rxFill s := UInt8.ofNat (min s.rx.length 255)
  errorCounters := counters
  busStatus := status
  delayCompensation := delayCompensation
  timestamp := tsc
  setNominal t s := { s with nominal := some t }
  setData t s := { s with data := some t }
  setFeatures f s := { s with features := f }
  goBus on s := { s with onBus := on }
  reset s := { s with onBus := false, resets := s.resets + 1 }
  rxLeft s := s.rx.length
  txLeft s := s.events.length
  errorsLeft s := s.errors.length
  rx_le s := by
    have := s.drainCount_le s.rx.length
    simp [drainRx]
    omega
  tx_le s := by
    have := s.drainCount_le s.events.length
    simp [drainTx]
    omega
  rx_lt s h := by
    have := s.drainCount_le s.rx.length
    simp [drainRx, batchSize] at *
    omega
  tx_lt s h := by
    have := s.drainCount_le s.events.length
    simp [drainTx, batchSize] at *
    omega
  error_lt s h := by
    unfold takeError at *
    cases he : s.errors <;> simp_all

end SimController

end CanAdapter
