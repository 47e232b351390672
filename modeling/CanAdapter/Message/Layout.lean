/-
Layouts. A message is a header of two bytes, its id and its length, then its fields, then zero bytes up to a multiple of
four; the length counts all of these. A layout says how the fields of one kind of message are written and read.

`Packet` is a message on its way out. `Packet.encode` is the bytes it stands for; `Packet.writeTo` lays them into a
buffer field by field. `writeTo_of_short`: a buffer that is too small is left as it was.
-/
import CanAdapter.Cursor.Writer
import CanAdapter.Message.Error

namespace CanAdapter

/-- size of the header of a message -/
def headerLength : Nat := 2

/-- every message is a multiple of this long -/
def lengthUnit : Nat := 4

/-- a length rounded up to a multiple of four -/
def alignLength (n : Nat) : Nat := (n + lengthUnit - 1) / lengthUnit * lengthUnit

/-- `alignLength` on 64-bit lengths -/
def alignLength64 (n : Nat) : Checked Nat :=
  if n + lengthUnit < 2 ^ 64 then .ok (alignLength n) else .error .addOverflow

theorem dvd_alignLength (n : Nat) : lengthUnit ∣ alignLength n := Nat.dvd_mul_left ..

theorem le_alignLength (n : Nat) : n ≤ alignLength n ∧ alignLength n < n + lengthUnit := by
  simp only [alignLength, lengthUnit]
  omega

/-! ## Writing -/

/-- the bytes some writes lay down from position `pos` on -/
def layBytes (o : ByteOrder) : Nat → List WriteOp → Bytes
  | _, [] => []
  | pos, op :: ops => op.bytes o pos ++ layBytes o (pos + op.size pos) ops

/-- a message on its way out: its id, its length before alignment, and the writes of its fields -/
structure Packet where
  id : UInt8
  size : Nat
  body : List WriteOp
deriving DecidableEq, Repr

namespace Packet

/-- length on the wire, header and padding included -/
def wireLength (p : Packet) : Nat := alignLength p.size

/-- header, fields and padding -/
def script (p : Packet) : List WriteOp :=
  [.u8 p.id, .u8 (UInt8.ofNat p.wireLength)] ++ p.body ++ [.padTo lengthUnit]

/-- the bytes of the message -/
def encode (p : Packet) (o : ByteOrder) : Bytes := layBytes o 0 p.script

/-- Writes the message to the front of a buffer. Answers how many bytes it took, or why it could not be written, and the
buffer. -/
def writeTo (p : Packet) (o : ByteOrder) (buffer : Bytes) : Except WireError Nat × Bytes :=
  if buffer.length < p.wireLength then (.error (.cursor ⟨p.wireLength, buffer.length⟩), buffer)
  else
    match Writer.writeAll p.script (Writer.ofBuffer o (buffer.take p.wireLength)) with
    | (.ok (), w) => (.ok w.pos, w.buffer ++ buffer.drop p.wireLength)
    | (.error e, w) => (.error (.cursor e), w.buffer ++ buffer.drop p.wireLength)

theorem writeTo_of_short {p : Packet} {o : ByteOrder} {buffer : Bytes} (h : buffer.length < p.wireLength) :
    p.writeTo o buffer = (.error (.cursor ⟨p.wireLength, buffer.length⟩), buffer) := if_pos h

end Packet

/-! ## Reading -/

/-- reads fields that may be missing or wrong -/
abbrev Decoder := StateT Reader (Except WireError)

instance : MonadLift Read Decoder := ⟨fun read r => (read r).mapError .cursor⟩

/-- the value a byte stands for in an enumeration, or the complaint that it stands for none -/
def Decoder.enum {α : Type} (field : EnumField) (value : UInt8) : Option α → Decoder α
  | some a => pure a
  | none => throw (.invalidValue field value)

/-- how one kind of message is written and read -/
structure Layout (α : Type) where
  id : UInt8
  /-- length of the fields that are always there, header included -/
  minLength : Nat
  /-- bytes after those fields -/
  payload : α → Nat := fun _ => 0
  write : α → List WriteOp
  /-- reads the fields of a message of the given length -/
  read : Nat → Decoder α

namespace Layout

variable {α : Type}

def packet (l : Layout α) (a : α) : Packet := ⟨l.id, l.minLength + l.payload a, l.write a⟩

/-- Reads a message from exactly its bytes. The id has to be the layout's and the fixed fields have to be there; the
length byte is not looked at, since it was the one that cut these bytes out. -/
def decode (l : Layout α) (o : ByteOrder) (bytes : Bytes) : Except WireError α :=
  match bytes with
  | id :: _ :: body =>
    if id ≠ l.id then .error (.unexpectedId id)
    else if bytes.length < l.minLength then .error (.short l.id l.minLength bytes.length)
    else (l.read bytes.length).run' (Reader.ofBytes o body)
  | _ => .error (.truncatedHeader 0)

end Layout

end CanAdapter
