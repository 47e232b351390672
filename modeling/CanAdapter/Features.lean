/-
Features of a channel. Some are always on, some may be switched on by the host. Three of them are operating modes, of
which one request may name at most one.
-/
namespace CanAdapter

/-- a set of features -/
structure Features where
  bits : UInt16
deriving DecidableEq, Repr

namespace Features

def empty : Features := ⟨0⟩
/-- report what became of transmit requests -/
def transmitReports : Features := ⟨0x0001⟩
/-- FD frames -/
def fdFrames : Features := ⟨0x0002⟩
/-- transmitter delay compensation -/
def delayCompensation : Features := ⟨0x0004⟩
/-- protocol exception handling off -/
def noExceptionHandling : Features := ⟨0x0008⟩
/-- automatic retransmission off -/
def noRetransmission : Features := ⟨0x0010⟩
/-- listen only -/
def monitoring : Features := ⟨0x0020⟩
/-- restricted operation -/
def restricted : Features := ⟨0x0040⟩
/-- external loopback -/
def loopback : Features := ⟨0x0080⟩

/-- every feature with a meaning -/
def known : UInt16 := 0x00ff

/-- a feature word without the bits that mean nothing -/
def ofWord (w : UInt16) : Features := ⟨w &&& known⟩

def has (s mark : Features) : Bool := s.bits &&& mark.bits == mark.bits

instance : Union Features := ⟨fun s t => ⟨s.bits ||| t.bits⟩⟩

/-- the operating modes -/
def modes : Features := monitoring ∪ restricted ∪ loopback

end Features

/-- what a feature request does to the active set -/
inductive FeatureOp where
  /-- back to the features that are always on -/
  | clear
  /-- switch features on -/
  | or
deriving DecidableEq, Repr

namespace FeatureOp

def toByte : FeatureOp → UInt8
  | .clear => 0
  | .or => 1

def ofByte? : UInt8 → Option FeatureOp
  | 0 => some .clear
  | 1 => some .or
  | _ => none

@[simp] theorem ofByte?_toByte (op : FeatureOp) : ofByte? op.toByte = some op := by cases op <;> rfl

end FeatureOp

/-- number of operating modes that a request's argument names -/
def modeCount (arg : UInt32) : Nat :=
  (if arg &&& 0x20 == 0 then 0 else 1) + (if arg &&& 0x40 == 0 then 0 else 1) + (if arg &&& 0x80 == 0 then 0 else 1)

end CanAdapter
