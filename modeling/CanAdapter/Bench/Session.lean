/-
Trials of a whole adapter on simulated controllers. Each channel has a clock of its own, which is set by hand. A trial
is a script of steps: what the host and the interrupts do, changes to a controller, direct calls on a channel, and
questions.

`Bench.step` is one step; it answers what the step asked. `Bench.run` is a script that stops at the first fault; it
gives the bench after each step, so that what a channel did in a step is what its records gained.
-/
import CanAdapter.Adapter
import CanAdapter.Bench.Controller
import CanAdapter.Script

namespace CanAdapter

/-- what is to be changed about a simulated controller -/
structure SimChange where
  tsc : Option UInt32 := none
  tscStep : Option UInt32 := none
  delayCompensation : Option UInt32 := none
  txFree : Option UInt8 := none
  refuses : Option Bool := none
  echoes : Option Bool := none
  drainMax : Option (Option Nat) := none
  status : Option BusStatus := none
  txErrors : Option UInt8 := none
  rxErrors : Option UInt8 := none
  /-- frames that arrive -/
  rx : List Frame := []
  /-- transmit events that arrive -/
  events : List TxEvent := []
  /-- bus errors that are latched -/
  errors : List BusError := []

def SimChange.apply (d : SimChange) (s : SimController) : SimController :=
  { s with
    tsc := d.tsc.getD s.tsc
    tscStep := d.tscStep.getD s.tscStep
    delayCompensation := d.delayCompensation.getD s.delayCompensation
    txFree := d.txFree.getD s.txFree
    refuses := d.refuses.getD s.refuses
    echoes := d.echoes.getD s.echoes
    drainMax := d.drainMax.getD s.drainMax
    status := d.status.getD s.status
    counters := ⟨d.txErrors.getD s.counters.transmit, d.rxErrors.getD s.counters.receive⟩
    rx := s.rx ++ d.rx
    events := s.events ++ d.events
    errors := s.errors ++ d.errors }

/-- how a channel of the bench is set up -/
structure BenchChannel where
  config : Config
  index : UInt8
  /-- the board has lights -/
  hasLights : Bool

/-- one channel of the bench, apart from its lane -/
structure BenchTask where
  /-- the endless task of the channel was started -/
  started : Bool
  hasLights : Bool
  /-- the clock that the task reads, in milliseconds -/
  now : Nat
deriving DecidableEq, Repr

structure Bench where
  adapter : Adapter SimController
  tasks : List BenchTask

inductive BenchStep where
  | mount
  | unmount
  | suspend
  | resume
  | usbReset
  /-- a transfer from the host, repeated -/
  | out (endpoint : UInt8) (bytes : Bytes) (times : Nat)
  | inComplete (endpoint : UInt8)
  /-- the index of a channel, by its place -/
  | channelIndex (place : Nat)
  | change (ch : Nat) (d : SimChange)
  | poll (ch : Nat)
  /-- one look of the reporting task -/
  | wakeUp (ch : Nat)
  /-- the endless reporting task goes on as far as it can; started when first asked for -/
  | task (ch : Nat)
  | led (ch : Nat)
  | signal (ch : Nat)
  /-- sets the clock of one channel -/
  | setClock (ch : Nat) (now : Nat)
  /-- whether the ends of the rings can be given out once more -/
  | split (ch : Nat)
  | reset (ch : Nat)
  | setBus (ch : Nat) (on : Bool)
  | setNominal (ch : Nat) (t : BitTiming)
  | setData (ch : Nat) (t : BitTiming)
  | setFeatures (ch : Nat) (r : FeatureRequest)
  | info (ch : Nat)
  /-- puts bytes into an IN endpoint, and submits it if asked -/
  | fill (ch : Nat) (pipe : Pipe) (bytes : Bytes) (submit : Bool)
  | dump (ch : Nat)

inductive BenchAnswer where
  | nothing
  | flag (b : Bool)
  | index (i : Option UInt8)
  | outcome (o : WakeOutcome)
  /-- the task runs on its own -/
  | running
  /-- the task waits -/
  | pending
  | led (index : UInt8) (last : Option LedStatus)
  /-- the board has no lights -/
  | noLights (index : UInt8)
  | timing (t : BitTiming)
  | features (f : Features)
  | refused (e : CommandError)
  | info (device : DeviceInfo) (can : CanInfo) (supported : Features)
  | filled (appended submitted : Bool)
  | banks (command can : Bytes × Bytes)

namespace Bench

/-- a bench with the given channels, each with its rings given out, in the order of their indices -/
def create (channels : List BenchChannel) : Checked Bench := do
  let lanes ← channels.mapM fun b => do
    let c ← Channel.create b.index b.config ({} : SimController)
    return Lane.ofChannel (c.split?.getD c)
  return { adapter := ← Adapter.ofLanes lanes, tasks := channels.map fun b => ⟨false, b.hasLights, 0⟩ }

/-- a function on one lane, and its answer -/
def onLane (b : Bench) (ch : Nat) (f : Lane SimController → Checked (BenchAnswer × Lane SimController)) :
    Checked (BenchAnswer × Bench) := do
  let (r, adapter) ← b.adapter.atLane ch f
  return (r.getD .nothing, { b with adapter })

/-- a function on one channel, and its answer -/
def onChannel (b : Bench) (ch : Nat) (f : Channel SimController → Checked (BenchAnswer × Channel SimController)) :
    Checked (BenchAnswer × Bench) :=
  b.onLane ch fun l => do
    let (r, channel) ← f l.channel
    return (r, { l with channel })

/-- something that happens to the whole adapter; answers whether it is mounted -/
def event (b : Bench) (op : Op) : Checked (BenchAnswer × Bench) := do
  let adapter ← b.adapter.step op
  return (.flag adapter.mounted, { b with adapter })

def runs (b : Bench) (ch : Nat) : Bool :=
  match b.tasks[ch]? with
  | some t => t.started
  | none => false

/-- the clock of a channel; a channel that is not there reads none -/
def now (b : Bench) (ch : Nat) : Nat :=
  match b.tasks[ch]? with
  | some t => t.now
  | none => 0

/-- Lets the endless task of a channel go on: a wait for a busy pipe is over, and the task looks if it was told to. It
never looks twice, since only a busy pipe makes it tell itself to look again, and then it waits first. -/
def resumeTask (b : Bench) (ch : Nat) : Checked Bench := do
  let (_, adapter) ← b.adapter.atLane ch (·.serve (b.now ch))
  return { b with adapter, tasks := b.tasks.modify ch ({ · with started := true }) }

/-- one transfer after another -/
def transfers (endpoint : UInt8) (bytes : Bytes) : Nat → Adapter SimController → Checked (Adapter SimController)
  | 0, a => .ok a
  | n + 1, a => do
    let a ← a.step (.out endpoint bytes)
    transfers endpoint bytes n a

/-- appends bytes to an endpoint and submits it if asked -/
def fillEndpoint {size : Nat} (bytes : Bytes) (submit : Bool) (e : Endpoint size) :
    Checked (BenchAnswer × Endpoint size) := do
  let (appended, e) := match e.append bytes with
    | some e => (true, e)
    | none => (false, e)
  if submit then
    match ← e.submit with
    | .ok e => return (.filled appended true, e)
    | .error _ => return (.filled appended false, e)
  else return (.filled appended false, e)

def step (s : BenchStep) (b : Bench) : Checked (BenchAnswer × Bench) :=
  match s with
  | .mount => b.event .mount
  | .unmount => b.event .unmount
  | .suspend => b.event .suspend
  | .resume => b.event .resume
  | .usbReset => b.event .usbReset
  | .out endpoint bytes times => do
    return (.nothing, { b with adapter := ← transfers endpoint bytes times b.adapter })
  | .inComplete endpoint => do
    return (.nothing, { b with adapter := ← b.adapter.step (.inComplete endpoint) })
  | .channelIndex place => .ok (.index (b.adapter.lanes[place]?.map (·.channel.index)), b)
  | .change ch d => b.onChannel ch fun c => .ok (.nothing, { c with controller := d.apply c.controller })
  | .poll ch => b.onChannel ch fun c => return (.index (some c.index), ← c.poll)
  | .wakeUp ch =>
    if b.runs ch then .ok (.running, b)
    else b.onLane ch fun l => do
      let (o, l) ← l.wakeUp (b.now ch)
      return (.outcome o, l)
  | .task ch => do
    return (.pending, ← b.resumeTask ch)
  | .led ch =>
    if b.runs ch then .ok (.running, b)
    else b.onLane ch fun l =>
      match b.tasks[ch]? with
      | some ⟨_, true, _⟩ => .ok (.led l.channel.index l.leds.getLast?, l)
      | _ => .ok (.noLights l.channel.index, l)
  | .signal ch => b.onChannel ch fun c => .ok (.nothing, c.signal)
  | .setClock ch now => .ok (.nothing, { b with tasks := b.tasks.modify ch ({ · with now }) })
  | .split ch => b.onChannel ch fun c =>
    match c.split? with
    | some c => .ok (.flag true, c)
    | none => .ok (.flag false, c)
  | .reset ch => b.onChannel ch fun c => return (.nothing, ← c.reset)
  | .setBus ch on => b.onChannel ch fun c => .ok (.nothing, c.setBus on)
  | .setNominal ch t => b.onChannel ch fun c => do
    let (t, c) ← c.setNominal t
    return (.timing t, c)
  | .setData ch t => b.onChannel ch fun c => do
    match ← c.setData t with
    | .ok (t, c) => return (.timing t, c)
    | .error e => return (.refused e, c)
  | .setFeatures ch r => b.onChannel ch fun c =>
    match c.setFeatures r with
    | .ok (f, c) => .ok (.features f, c)
    | .error e => .ok (.refused e, c)
  | .info ch => b.onChannel ch fun c => .ok (.info c.deviceInfo c.canInfo c.config.supported, c)
  | .fill ch .command bytes submit => b.onChannel ch fun c => do
    let (r, command) ← fillEndpoint bytes submit c.command
    return (r, { c with command })
  | .fill ch .can bytes submit => b.onChannel ch fun c => do
    let (r, can) ← fillEndpoint bytes submit c.can
    return (r, { c with can })
  | .dump ch => b.onChannel ch fun c =>
    .ok (.banks (c.command.filling, c.command.sending) (c.can.filling, c.can.sending), c)

/-- a script: the answer to each step with the bench after it, up to a fault -/
def run (steps : List BenchStep) (b : Bench) : List (Checked (BenchAnswer × Bench)) :=
  (Script.run (fun s b => (fun (r, b) => ((r, b), b)) <$> step s b) steps b).1

end Bench

end CanAdapter
