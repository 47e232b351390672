/-
The messages of the two pipes of a channel. On the command pipe the host greets, asks for information, and sets timing,
features and bus state; the adapter answers each. On the CAN pipe the host asks for transmissions, and the adapter
reports frames, transmissions, bus errors and the state of the bus.

`serial_ofParts`, `name_ofParts`: identity texts are cut to the room the wire has for them, and kept when they fit.
-/
import CanAdapter.BitTiming
import CanAdapter.BusEvent
import CanAdapter.Features

namespace CanAdapter

/-- the adapter's answer to a greeting -/
structure Greeting where
  version : UInt8
  /-- byte order of every later message -/
  order : ByteOrder
  /-- size of the command pipe's buffers -/
  bufferSize : UInt16
deriving DecidableEq, Repr

structure Firmware where
  major : UInt8
  minor : UInt8
  patch : UInt8
deriving DecidableEq, Repr

/-- room for a serial number on the wire -/
def serialRoom : Nat := 16

/-- room for a device name on the wire -/
def nameRoom : Nat := 32

/-- identity of a channel and the features it has -/
structure DeviceInfo where
  permanent : Features
  configurable : Features
  firmware : Firmware
  serial : Bytes
  name : Bytes
  serial_le : serial.length ≤ serialRoom
  name_le : name.length ≤ nameRoom
deriving DecidableEq, Repr

namespace DeviceInfo

/-- device information with the texts cut to their room -/
def ofParts (permanent configurable : Features) (firmware : Firmware) (serial name : Bytes) : DeviceInfo where
  permanent := permanent
  configurable := configurable
  firmware := firmware
  serial := serial.take serialRoom
  name := name.take nameRoom
  serial_le := List.length_take_le ..
  name_le := List.length_take_le ..

theorem serial_ofParts {permanent configurable : Features} {firmware : Firmware} {serial name : Bytes}
    (h : serial.length ≤ serialRoom) : (ofParts permanent configurable firmware serial name).serial = serial :=
  List.take_of_length_le h

theorem name_ofParts {permanent configurable : Features} {firmware : Firmware} {serial name : Bytes}
    (h : name.length ≤ nameRoom) : (ofParts permanent configurable firmware serial name).name = name :=
  List.take_of_length_le h

end DeviceInfo

/-- what the controller of a channel can do -/
structure CanInfo where
  clock : UInt32
  bufferSize : UInt16
  nominal : TimingRange
  /-- none for a classic controller -/
  data : Option TimingRange
  txFifo : UInt8
  rxFifo : UInt8
deriving DecidableEq, Repr

structure FeatureRequest where
  op : FeatureOp
  arg : UInt32
deriving DecidableEq, Repr

/-- state of the bus, and what was lost since the last report -/
structure BusReport where
  flags : StatusFlags
  status : BusStatus
  timestamp : UInt32
  rxLost : UInt16
  txDropped : UInt16
  rxErrors : UInt8
  txErrors : UInt8
  /-- frames waiting in the controller -/
  rxFill : UInt8
  /-- frames the controller has yet to send -/
  txFill : UInt8
deriving DecidableEq, Repr

/-- a frame to send, and the number its report will carry -/
structure TxRequest where
  frame : Frame
  track : UInt8
deriving DecidableEq, Repr

/-- what came of a transmit request -/
structure TxReport where
  track : UInt8
  flags : FrameFlags
  timestamp : UInt32
deriving DecidableEq, Repr

/-- any message of either pipe -/
inductive Message where
  | hello
  | greeting (g : Greeting)
  | deviceInfoRequest
  | deviceInfo (i : DeviceInfo)
  | canInfoRequest
  | canInfo (i : CanInfo)
  | nominalTiming (t : BitTiming)
  | dataTiming (t : BitTiming)
  | features (r : FeatureRequest)
  | bus (on : Bool)
  | outcome (code : Int8)
  | busReport (r : BusReport)
  | received (f : Frame)
  | transmit (r : TxRequest)
  | transmitted (r : TxReport)
  | busError (e : BusError)
deriving DecidableEq, Repr

end CanAdapter
