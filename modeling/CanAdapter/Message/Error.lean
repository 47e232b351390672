/-
What can be wrong with a message, and what a request that was refused is answered with.

`ofCode?_code`: a reply code names its outcome.
-/
import CanAdapter.Cursor.Reader

namespace CanAdapter

/-- fields whose values are an enumeration -/
inductive EnumField where
  | byteOrder
  | featureOp
  | busStatus
  | errorCode
deriving DecidableEq, Repr

def EnumField.name : EnumField → String
  | .byteOrder => "byte_order"
  | .featureOp => "op"
  | .busStatus => "bus_status"
  | .errorCode => "error"

/-- what is wrong with the bytes of a message -/
inductive WireError where
  /-- fewer bytes than a header are left -/
  | truncatedHeader (offset : Nat)
  /-- the declared length is less than the header's own -/
  | lengthBelowHeader (offset : Nat) (len : UInt8)
  /-- the declared length runs past the bytes that are there -/
  | lengthOverflow (offset : Nat) (len : UInt8) (available : Nat)
  /-- the layout of the message needs more bytes -/
  | short (id : UInt8) (expected actual : Nat)
  /-- the byte is no value of the field -/
  | invalidValue (field : EnumField) (value : UInt8)
  /-- the decoder is for another message -/
  | unexpectedId (id : UInt8)
  | cursor (e : OutOfBounds)
deriving DecidableEq, Repr

/-- two lower-case hexadecimal digits -/
def hexByte (b : UInt8) : String :=
  String.ofList [Nat.digitChar (b.toNat / 16), Nat.digitChar (b.toNat % 16)]

def WireError.message : WireError → String
  | .truncatedHeader offset => s!"Truncated header at offset {offset}"
  | .lengthBelowHeader offset len => s!"Declared length {len.toNat} below header size at offset {offset}"
  | .lengthOverflow offset len available =>
    s!"Declared length {len.toNat} at offset {offset} exceeds {available} available bytes"
  | .short id expected actual => s!"Message 0x{hexByte id} too short: expected {expected}, got {actual}"
  | .invalidValue field value => s!"Invalid value {value.toNat} for field {field.name}"
  | .unexpectedId id => s!"Unexpected message id 0x{hexByte id}"
  | .cursor e => e.message

/-- why a request was refused -/
inductive CommandError where
  /-- shorter than its layout -/
  | short
  /-- a combination of parameters that is not allowed -/
  | param
  /-- an unknown command or a feature the channel does not have -/
  | unsupported
deriving DecidableEq, Repr

namespace CommandError

def message : CommandError → String
  | .short => "Command too short"
  | .param => "Invalid parameter"
  | .unsupported => "Unsupported"

def ofWireError : WireError → CommandError
  | .invalidValue .. => .param
  | .unexpectedId _ => .unsupported
  | _ => .short

end CommandError

/-- what came of a request -/
abbrev Outcome := Except CommandError Unit

namespace Outcome

/-- the code a request is answered with; zero for success -/
def code : Outcome → Int8
  | .ok () => 0
  | .error .short => -1
  | .error .param => -2
  | .error .unsupported => -3

def ofCode? (c : Int8) : Option Outcome :=
  if c = 0 then some (.ok ())
  else if c = -1 then some (.error .short)
  else if c = -2 then some (.error .param)
  else if c = -3 then some (.error .unsupported)
  else none

theorem ofCode?_code (o : Outcome) : ofCode? (code o) = some o := by
  rcases o with (_ | _ | _) | _ <;> rfl

end Outcome

end CanAdapter
