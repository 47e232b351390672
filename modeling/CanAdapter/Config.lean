/-
Fixed sizes of the adapter and the description of a channel, which a board sets once.

`length_channelName_le`: a channel's name always fits the room the wire has for it.
-/
import CanAdapter.Message.Basic

namespace CanAdapter

/-! ## Sizes and times -/

/-- version of the protocol, announced in a greeting -/
def protocolVersion : UInt8 := 2

/-- bank size of the CAN pipe; larger than a packet, so its transfers may need padding -/
def canBank : Nat := 512

/-- bank size of the command pipe, one packet -/
def commandBank : Nat := 64

/-- a channel's rings hold `2 ^ 5` frames and transmit events and `2 ^ 4` status changes and bus errors -/
def trafficRing : Nat := 5

def eventRing : Nat := 4

/-- how long after its last event a bus counts as active, in milliseconds -/
def activityWindow : Nat := 256

/-- length of a burst of the traffic light, in milliseconds -/
def burstLength : Nat := 8

/-- how long to wait for a busy pipe, in milliseconds -/
def backoffDelay : Nat := 1

/-! ## Channels -/

structure Config where
  /-- clock of the controller in Hz -/
  clock : UInt32
  nominalRange : TimingRange
  /-- none for a classic controller -/
  dataRange : Option TimingRange
  /-- timing after a reset, until the host asks for another -/
  defaultNominal : BitTiming
  defaultData : BitTiming
  /-- features that are always on -/
  permanent : Features
  /-- features that the host may switch on -/
  configurable : Features
  txFifo : UInt8
  rxFifo : UInt8
  firmware : Firmware
  name : Bytes
  serial : Bytes
  order : ByteOrder
deriving DecidableEq, Repr

namespace Config

/-- an FD controller at 80 MHz with 500 kbit/s nominal and 2 Mbit/s data rate -/
def default : Config where
  clock := 80000000
  nominalRange := ⟨⟨1, 1, 2, 2⟩, ⟨512, 128, 256, 128⟩⟩
  dataRange := some ⟨⟨1, 1, 1, 1⟩, ⟨32, 16, 32, 16⟩⟩
  defaultNominal := ⟨1, 32, 127, 32⟩
  defaultData := ⟨1, 10, 29, 10⟩
  permanent := .transmitReports ∪ .fdFrames
  configurable := .delayCompensation ∪ .noExceptionHandling ∪ .noRetransmission ∪ Features.modes
  txFifo := 32
  rxFifo := 32
  firmware := ⟨0, 1, 0⟩
  name := ['u', 's', 'b', 'c', 'a', 'n', '-', 'b', 'r', 'i', 'd', 'g', 'e'].map Char.toUInt8
  serial := [0, 0, 0, 0]
  order := .little

/-- every feature that the host may ask for -/
def supported (c : Config) : Features := c.permanent ∪ c.configurable

/-- what tells channel `index` from its neighbours: a blank, `ch` and its last decimal digit -/
def nameSuffix (index : UInt8) : Bytes := [0x20, 0x63, 0x68, 0x30 + index % 10]

/-- the device name, cut so that the suffix fits after it -/
def channelName (c : Config) (index : UInt8) : Bytes :=
  c.name.take (nameRoom - (nameSuffix index).length) ++ nameSuffix index

theorem length_channelName_le (c : Config) (index : UInt8) : (c.channelName index).length ≤ nameRoom := by
  simp only [channelName, nameSuffix, nameRoom, List.length_append, List.length_take, List.length_cons, List.length_nil]
  omega

end Config

end CanAdapter
