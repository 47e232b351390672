/-
What the adapter asks of a CAN controller. A controller is any type of states with these operations. It hands out its
FIFOs in batches of bounded length, and it comes to an end: after a full batch, and after each bus error, less is left
to hand out. The last is what makes draining terminate.

`drainAll` collects the batches of one FIFO up to the first that is not full; `length_drainAll_le` bounds each.
-/
import CanAdapter.BitTiming
import CanAdapter.BusEvent
import CanAdapter.Features

namespace CanAdapter

/-- entries taken out of a FIFO, oldest first, and the microsecond counter at that time -/
structure Drained (α : Type) where
  items : List α
  tsc : UInt32
deriving DecidableEq, Repr

/-- most entries of one batch -/
def batchSize : Nat := 32

class Controller (σ : Type) where
  /-- takes received frames -/
  drainRx : σ → Drained Frame × σ
  /-- takes transmit events -/
  drainTx : σ → Drained TxEvent × σ
  /-- takes the oldest latched bus error -/
  takeError : σ → Option BusError × σ
  /-- queues a frame for sending under a track number; false if it is refused -/
  submit : Frame → UInt8 → σ → Bool × σ
  /-- free places in the transmit FIFO -/
  txFree : σ → UInt8
  /-- frames waiting in the receive FIFO -/
  rxFill : σ → UInt8
  errorCounters : σ → ErrorCounters
  busStatus : σ → BusStatus
  /-- transmitter delay compensation in bits -/
  delayCompensation : σ → UInt32
  /-- the free-running microsecond counter -/
  timestamp : σ → UInt32
  setNominal : BitTiming → σ → σ
  setData : BitTiming → σ → σ
  setFeatures : Features → σ → σ
  /-- joins or leaves the bus -/
  goBus : Bool → σ → σ
  /-- back to the state after power-on, off the bus -/
  reset : σ → σ
  /-- bounds on what is still to be handed out -/
  rxLeft : σ → Nat
  txLeft : σ → Nat
  errorsLeft : σ → Nat
  rx_le : ∀ s, (drainRx s).1.items.length ≤ batchSize
  tx_le : ∀ s, (drainTx s).1.items.length ≤ batchSize
  rx_lt : ∀ s, (drainRx s).1.items.length = batchSize → rxLeft (drainRx s).2 < rxLeft s
  tx_lt : ∀ s, (drainTx s).1.items.length = batchSize → txLeft (drainTx s).2 < txLeft s
  error_lt : ∀ s, (takeError s).1.isSome = true → errorsLeft (takeError s).2 < errorsLeft s

namespace Controller

variable {σ α : Type}

/-- batches up to the first that is not full, at most `n` full ones; an empty last batch is left out -/
def drainUpTo (drain : σ → Drained α × σ) : Nat → σ → List (Drained α) × σ
  | n, s =>
    match drain s with
    | (b, s) =>
      if b.items.isEmpty then ([], s)
      else if b.items.length < batchSize then ([b], s)
      else
        match n with
        | 0 => ([b], s)
        | n + 1 =>
          match drainUpTo drain n s with
          | (bs, s) => (b :: bs, s)

/-- all latched bus errors, at most `n` -/
def errorsUpTo [Controller σ] : Nat → σ → List BusError × σ
  | 0, s => ([], s)
  | n + 1, s =>
    match takeError s with
    | (none, s) => ([], s)
    | (some e, s) =>
      match errorsUpTo n s with
      | (es, s) => (e :: es, s)

variable [Controller σ]

/-- the batches of received frames up to the first that is not full -/
def drainAllRx (s : σ) : List (Drained Frame) × σ := drainUpTo drainRx (rxLeft s) s

/-- the batches of transmit events up to the first that is not full -/
def drainAllTx (s : σ) : List (Drained TxEvent) × σ := drainUpTo drainTx (txLeft s) s

/-- all latched bus errors -/
def takeErrors (s : σ) : List BusError × σ := errorsUpTo (errorsLeft s + 1) s

end Controller

end CanAdapter
