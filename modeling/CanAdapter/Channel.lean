/-
One CAN channel: its controller, its settings, the rings between the controller's interrupt and the task that reports to
the host, and the two IN endpoints.

Every operation is a function on the whole channel. `reset` is the way back to the disabled baseline; `setBus` joins and
leaves the bus; `setNominal`, `setData` and `setFeatures` negotiate settings. Requests are paid for with transmit
credits, of which there are never more than the controller has places.

`setBus_of_enabled`: asking for the bus state that holds changes nothing.
-/
import CanAdapter.Config
import CanAdapter.Controller
import CanAdapter.Endpoint
import CanAdapter.Ring.Basic
import CanAdapter.Timestamp

namespace CanAdapter

/-- what was negotiated, and the bit durations that follow from it -/
structure Settings where
  nominal : BitTiming
  data : BitTiming
  features : Features
  durations : BitDurations
deriving DecidableEq, Repr

/-- the settings a channel starts with -/
def Settings.baseline (c : Config) : Checked Settings := do
  let durations ← BitDurations.ofTimings c.defaultNominal c.defaultData c.clock
  return ⟨c.defaultNominal, c.defaultData, c.permanent, durations⟩

structure Channel (σ : Type) where
  index : UInt8
  config : Config
  controller : σ
  settings : Settings
  /-- IN endpoint of the command pipe -/
  command : Endpoint commandBank
  /-- IN endpoint of the CAN pipe -/
  can : Endpoint canBank
  /-- received frames on their way to the host -/
  rx : Ring Frame trafficRing
  /-- transmit events on their way to the host -/
  tx : Ring TxEvent trafficRing
  /-- status changes on their way to the host -/
  status : Ring StatusEvent eventRing
  /-- bus errors on their way to the host -/
  errors : Ring BusError eventRing
  mounted : Bool
  enabled : Bool
  /-- some event since the last bus-on could not be reported -/
  desync : Bool
  /-- transmit requests that will still be taken -/
  credits : UInt8
  /-- requests dropped since the last report -/
  dropped : UInt16
  /-- queue overflows since the last report -/
  queueFlags : StatusFlags
  /-- the bus status that was last put into the status ring -/
  published : BusStatus
  /-- the reporting task was told to look -/
  wake : Bool
  /-- the ends of the rings were given out -/
  split : Bool

namespace Channel

variable {σ : Type}

/-- a channel at power-on -/
def create (index : UInt8) (config : Config) (controller : σ) : Checked (Channel σ) := do
  let settings ← Settings.baseline config
  return {
    index, config, controller, settings
    command := .empty _
    can := .empty _
    rx := .empty _ _
    tx := .empty _ _
    status := .empty _ _
    errors := .empty _ _
    mounted := false
    enabled := false
    desync := false
    credits := 0
    dropped := 0
    queueFlags := .empty
    published := .errorActive
    wake := false
    split := false }

/-- gives out the ends of the rings; none once they were -/
def split? (c : Channel σ) : Option (Channel σ) := if c.split then none else some { c with split := true }

/-- tells the reporting task to look -/
def signal (c : Channel σ) : Channel σ := { c with wake := true }

/-! ## Counters -/

/-- takes one transmit credit; none if there is none -/
def takeCredit (c : Channel σ) : Option (Channel σ) :=
  if c.credits = 0 then none else some { c with credits := c.credits - 1 }

/-- gives a credit back, up to the number of places in the controller -/
def returnCredit (c : Channel σ) : Checked (Channel σ) := do
  let more ← Checked.add8 c.credits 1
  return if c.credits < c.config.txFifo then { c with credits := more } else c

variable [Controller σ]

/-- a report on the bus, with the counts and flags since the last one, which start afresh -/
def snapshot (status : BusStatus) (c : Channel σ) : BusReport × Channel σ :=
  let flags := StatusFlags.ofByte c.queueFlags.bits
  let (lost, rx) := c.rx.takeLost
  let counters := Controller.errorCounters c.controller
  let free := Controller.txFree c.controller
  ({ flags := if c.desync then flags ∪ .desync else flags
     status
     timestamp := Controller.timestamp c.controller
     rxLost := lost
     txDropped := c.dropped
     rxErrors := counters.receive
     txErrors := counters.transmit
     rxFill := Controller.rxFill c.controller
     txFill := if free ≤ c.config.txFifo then c.config.txFifo - free else 0 },
   { c with rx, dropped := 0, queueFlags := .empty })

/-! ## Life cycle -/

def setMounted (on : Bool) (c : Channel σ) : Channel σ := { c with mounted := on }.signal

/-- Back to the disabled baseline: controller reset and off the bus, default settings, counters and flags cleared, CAN
endpoint emptied. What the rings hold is dropped by the reporting task when it looks next. -/
def reset (c : Channel σ) : Checked (Channel σ) := do
  let settings ← Settings.baseline c.config
  let s := Controller.setNominal settings.nominal (Controller.reset c.controller)
  let s := if c.config.dataRange.isSome then Controller.setData settings.data s else s
  let s := Controller.setFeatures settings.features s
  return { c with
    controller := s
    settings
    can := c.can.reset
    rx := c.rx.takeLost.2
    enabled := false
    desync := false
    credits := 0
    dropped := 0
    queueFlags := .empty
    published := .errorActive }.signal

/-- Joins or leaves the bus. On joining the reporting task starts from error-active, so a worse status has to be
published again. -/
def setBus (on : Bool) (c : Channel σ) : Channel σ :=
  if c.enabled = on then c
  else if on then
    { c with
      controller := Controller.goBus true (Controller.setFeatures c.settings.features c.controller)
      published := .errorActive
      desync := false
      credits := c.config.txFifo
      enabled := true }.signal
  else { c with controller := Controller.goBus false c.controller, enabled := false }.signal

theorem setBus_of_enabled {c : Channel σ} {on : Bool} (h : c.enabled = on) : c.setBus on = c := if_pos h

/-! ## Settings -/

/-- moves a nominal timing into its range and applies it -/
def setNominal (request : BitTiming) (c : Channel σ) : Checked (BitTiming × Channel σ) := do
  let nominal := c.config.nominalRange.clamp request
  let durations ← BitDurations.ofTimings nominal c.settings.data c.config.clock
  return (nominal, { c with
    controller := Controller.setNominal nominal c.controller
    settings := { c.settings with nominal, durations } })

/-- moves a data timing into its range and applies it; a channel without a data phase refuses -/
def setData (request : BitTiming) (c : Channel σ) : Checked (Except CommandError (BitTiming × Channel σ)) :=
  match c.config.dataRange with
  | none => .ok (.error .unsupported)
  | some range => do
    let data := range.clamp request
    let durations ← BitDurations.ofTimings c.settings.nominal data c.config.clock
    return .ok (data, { c with
      controller := Controller.setData data c.controller
      settings := { c.settings with data, durations } })

/-- the active features after a request; one for two modes at once or for a feature the channel lacks is refused -/
def requestedFeatures (r : FeatureRequest) (c : Channel σ) : Except CommandError Features :=
  match r.op with
  | .clear => .ok c.config.permanent
  | .or =>
    if 1 < modeCount r.arg then .error .param
    else if r.arg &&& ~~~c.config.supported.bits.toUInt32 ≠ 0 then .error .unsupported
    else .ok (c.settings.features ∪ Features.ofWord r.arg.toUInt16)

/-- applies a feature request; the controller learns of it when the channel next joins the bus -/
def setFeatures (r : FeatureRequest) (c : Channel σ) : Except CommandError (Features × Channel σ) := do
  let features ← c.requestedFeatures r
  return (features, { c with settings := { c.settings with features } })

/-! ## Information -/

def deviceInfo (c : Channel σ) : DeviceInfo :=
  .ofParts c.config.permanent c.config.configurable c.config.firmware c.config.serial (c.config.channelName c.index)

def canInfo (c : Channel σ) : CanInfo where
  clock := c.config.clock
  bufferSize := UInt16.ofNat canBank
  nominal := c.config.nominalRange
  data := c.config.dataRange
  txFifo := c.config.txFifo
  rxFifo := c.config.rxFifo

end Channel

end CanAdapter
