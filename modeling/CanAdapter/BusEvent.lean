/-
What a controller reports about its bus: the error state, single protocol errors, error counters and frames that were
sent. Each enumeration is its byte on the wire; `ofByte?_toByte` says that no two of its values share one.
-/
import CanAdapter.Frame

namespace CanAdapter

/-- error state of a node, by severity -/
inductive BusStatus where
  | errorActive
  | errorWarning
  | errorPassive
  | busOff
deriving DecidableEq, Repr

namespace BusStatus

def toByte : BusStatus → UInt8
  | .errorActive => 0
  | .errorWarning => 1
  | .errorPassive => 2
  | .busOff => 3

def ofByte? : UInt8 → Option BusStatus
  | 0 => some .errorActive
  | 1 => some .errorWarning
  | 2 => some .errorPassive
  | 3 => some .busOff
  | _ => none

@[simp] theorem ofByte?_toByte (s : BusStatus) : ofByte? s.toByte = some s := by cases s <;> rfl

/-- from error-passive upwards -/
def passiveOrWorse : BusStatus → Bool
  | .errorActive | .errorWarning => false
  | .errorPassive | .busOff => true

end BusStatus

/-- kind of a protocol error -/
inductive ErrorCode where
  | none
  | stuff
  | form
  | ack
  | bit1
  | bit0
  | crc
deriving DecidableEq, Repr

namespace ErrorCode

def toByte : ErrorCode → UInt8
  | .none => 0
  | .stuff => 1
  | .form => 2
  | .ack => 3
  | .bit1 => 4
  | .bit0 => 5
  | .crc => 6

def ofByte? : UInt8 → Option ErrorCode
  | 0 => some .none
  | 1 => some .stuff
  | 2 => some .form
  | 3 => some .ack
  | 4 => some .bit1
  | 5 => some .bit0
  | 6 => some .crc
  | _ => Option.none

@[simp] theorem ofByte?_toByte (c : ErrorCode) : ofByte? c.toByte = some c := by cases c <;> rfl

end ErrorCode

/-- a change of the bus status -/
structure StatusEvent where
  status : BusStatus
  timestamp : UInt32
deriving DecidableEq, Repr

/-- a protocol error on the bus -/
structure BusError where
  code : ErrorCode
  /-- this node was transmitting -/
  transmitting : Bool
  /-- in the data phase of an FD frame -/
  dataPhase : Bool
  timestamp : UInt32
deriving DecidableEq, Repr

/-- a frame left the controller; `track` is the number its request was given -/
structure TxEvent where
  track : UInt8
  flags : FrameFlags
  dlc : UInt8
  timestamp : UInt32
deriving DecidableEq, Repr

/-- error counters of a controller -/
structure ErrorCounters where
  transmit : UInt8
  receive : UInt8
deriving DecidableEq, Repr

/-- flags of a status report -/
structure StatusFlags where
  bits : UInt8
deriving DecidableEq, Repr

namespace StatusFlags

def empty : StatusFlags := ⟨0⟩
/-- some event could not be reported; the host's view may be stale -/
def desync : StatusFlags := ⟨0x01⟩
/-- a status or error queue overflowed -/
def queueFull : StatusFlags := ⟨0x02⟩

/-- every flag with a meaning -/
def known : UInt8 := 0x03

/-- a flag byte without the bits that mean nothing -/
def ofByte (b : UInt8) : StatusFlags := ⟨b &&& known⟩

def has (s mark : StatusFlags) : Bool := s.bits &&& mark.bits == mark.bits

instance : Union StatusFlags := ⟨fun s t => ⟨s.bits ||| t.bits⟩⟩

end StatusFlags

end CanAdapter
