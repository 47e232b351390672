/-
Laying typed fields into a buffer. A writer knows the byte order, what it has written and what of the buffer it has not
touched. A write that does not fit fails and changes nothing.

`length_buffer_write`: a write changes the buffer's content, never its length. `write_eq_error_iff`: a write fails
exactly when it is longer than what is left.
-/
import CanAdapter.Cursor.Reader

namespace CanAdapter

structure Writer where
  order : ByteOrder
  /-- the bytes written so far -/
  written : Bytes
  /-- the rest of the buffer, untouched -/
  rest : Bytes
deriving DecidableEq, Repr

/-- one typed write -/
inductive WriteOp where
  | u8 (v : UInt8)
  | i8 (v : Int8)
  | u16 (v : UInt16)
  /-- big-endian whatever the order -/
  | u16be (v : UInt16)
  | u32 (v : UInt32)
  /-- `n` zero bytes -/
  | gap (n : Nat)
  | slice (bytes : Bytes)
  /-- zero bytes up to the next multiple of `align` -/
  | padTo (align : Nat)
deriving DecidableEq, Repr

/-- how far position `pos` is from the next multiple of `align` -/
def paddingTo (align pos : Nat) : Nat :=
  if pos % align = 0 then 0 else align - pos % align

namespace WriteOp

/-- bytes the write takes at position `pos` -/
def size (pos : Nat) : WriteOp → Nat
  | .u8 _ | .i8 _ => 1
  | .u16 _ | .u16be _ => 2
  | .u32 _ => 4
  | .gap n => n
  | .slice bs => bs.length
  | .padTo align => paddingTo align pos

/-- the bytes the write lays down at position `pos` -/
def bytes (o : ByteOrder) (pos : Nat) : WriteOp → Bytes
  | .u8 v => digits 1 v.toNat
  | .i8 v => digits 1 v.toUInt8.toNat
  | .u16 v => o.encode 2 v.toNat
  | .u16be v => ByteOrder.big.encode 2 v.toNat
  | .u32 v => o.encode 4 v.toNat
  | .gap n => List.replicate n 0
  | .slice bs => bs
  | .padTo align => List.replicate (paddingTo align pos) 0

@[simp] theorem length_bytes (o : ByteOrder) (pos : Nat) (op : WriteOp) : (op.bytes o pos).length = op.size pos := by
  cases op <;> simp [bytes, size]

end WriteOp

namespace Writer

/-- a writer at the start of a buffer -/
def ofBuffer (order : ByteOrder) (buffer : Bytes) : Writer := ⟨order, [], buffer⟩

def pos (w : Writer) : Nat := w.written.length

/-- the whole buffer, written and untouched -/
def buffer (w : Writer) : Bytes := w.written ++ w.rest

def write (w : Writer) (op : WriteOp) : Except OutOfBounds Writer :=
  if op.size w.pos ≤ w.rest.length then
    .ok ⟨w.order, w.written ++ op.bytes w.order w.pos, w.rest.drop (op.size w.pos)⟩
  else .error ⟨op.size w.pos, w.rest.length⟩

/-- writes in order up to the first that does not fit, and whether all did -/
def writeAll : List WriteOp → Writer → Except OutOfBounds Unit × Writer
  | [], w => (.ok (), w)
  | op :: ops, w =>
    match w.write op with
    | .ok w => writeAll ops w
    | .error e => (.error e, w)

theorem write_eq_error_iff (w : Writer) (op : WriteOp) :
    (∃ e, w.write op = .error e) ↔ w.rest.length < op.size w.pos := by
  unfold write
  split <;> simp <;> omega

theorem length_buffer_write {w w' : Writer} {op : WriteOp} (h : w.write op = .ok w') :
    w'.buffer.length = w.buffer.length := by
  unfold write at h
  split at h
  · cases h
    simp [buffer, pos] at *
    omega
  · cases h

end Writer

namespace WriteOp

/-- The arithmetic a write rests on: an alignment of zero has no remainder, and the end of a write has to be a 64-bit
position. -/
def fault? (pos : Nat) : WriteOp → Option Fault
  | .padTo 0 => some .remainderByZero
  | op => if pos + op.size pos < 2 ^ 64 then none else some .addOverflow

/-- one step of a script; a write that does not fit answers with its error and changes nothing -/
def step (op : WriteOp) (w : Writer) : Checked (Except OutOfBounds Unit × Writer) :=
  match op.fault? w.pos with
  | some f => .error f
  | none =>
    match w.write op with
    | .ok w => .ok (.ok (), w)
    | .error e => .ok (.error e, w)

end WriteOp

end CanAdapter
