/-
Reading typed fields off a byte string. A reader knows the byte order, how far it has come and what is left. A read
that asks for more than is left fails and moves nothing.

`take_append`: a read of `n` bytes in front of `rest` returns them and leaves `rest`. `u8_append` to `u32_append`: a
word in front of `rest` is read as itself.
-/
import CanAdapter.ByteOrder
import CanAdapter.Fault

namespace CanAdapter

/-- an access that asked for more bytes than there are -/
structure OutOfBounds where
  asked : Nat
  available : Nat
deriving DecidableEq, Repr

def OutOfBounds.message (e : OutOfBounds) : String :=
  s!"Attempted to access out of bounds -> asked: {e.asked}, available: {e.available}"

structure Reader where
  order : ByteOrder
  /-- bytes read so far -/
  pos : Nat
  /-- bytes not read yet -/
  rest : Bytes
deriving DecidableEq, Repr

/-- a read that may run past the end -/
abbrev Read := StateT Reader (Except OutOfBounds)

namespace Reader

def ofBytes (order : ByteOrder) (bytes : Bytes) : Reader := ⟨order, 0, bytes⟩

def remaining (r : Reader) : Nat := r.rest.length

/-- the next `n` bytes -/
def take (n : Nat) : Read Bytes := fun r =>
  if n ≤ r.rest.length then .ok (r.rest.take n, ⟨r.order, r.pos + n, r.rest.drop n⟩)
  else .error ⟨n, r.rest.length⟩

/-- skips `n` bytes -/
def skip (n : Nat) : Read Unit := do
  let _ ← take n

def u8 : Read UInt8 := do
  return UInt8.ofNat (ofDigits (← take 1))

def i8 : Read Int8 := do
  return (← u8).toInt8

/-- a word of two bytes in the reader's order -/
def u16 : Read UInt16 := do
  let bs ← take 2
  return UInt16.ofNat ((← get).order.decode bs)

/-- a word of two bytes that is big-endian whatever the order -/
def u16be : Read UInt16 := do
  return UInt16.ofNat (ByteOrder.big.decode (← take 2))

/-- a word of four bytes in the reader's order -/
def u32 : Read UInt32 := do
  let bs ← take 4
  return UInt32.ofNat ((← get).order.decode bs)

theorem take_append {n : Nat} {front : Bytes} (h : front.length = n) (o : ByteOrder) (p : Nat) (rest : Bytes) :
    take n ⟨o, p, front ++ rest⟩ = .ok (front, ⟨o, p + n, rest⟩) := by
  subst h
  simp [take]

theorem bind_ok {ε α β : Type} {x : StateT Reader (Except ε) α} {f : α → StateT Reader (Except ε) β} {r r' : Reader}
    {v : α} (h : x r = .ok (v, r')) : (x >>= f) r = f v r' := by
  simp [bind, StateT.bind, h, Except.bind]

theorem pure_ok {ε α : Type} (v : α) (r : Reader) : (pure v : StateT Reader (Except ε) α) r = .ok (v, r) := rfl

theorem u8_append (o : ByteOrder) (p : Nat) (v : UInt8) (rest : Bytes) :
    u8 ⟨o, p, v :: rest⟩ = .ok (v, ⟨o, p + 1, rest⟩) := by
  have front : take 1 ⟨o, p, v :: rest⟩ = .ok ([v], ⟨o, p + 1, rest⟩) := @take_append 1 [v] rfl o p rest
  rw [u8, bind_ok front, pure_ok]
  simp [ofDigits]

theorem i8_append (o : ByteOrder) (p : Nat) (v : Int8) (rest : Bytes) :
    i8 ⟨o, p, v.toUInt8 :: rest⟩ = .ok (v, ⟨o, p + 1, rest⟩) := by
  rw [i8, bind_ok (u8_append ..), pure_ok]
  simp

theorem u16_append (o : ByteOrder) (p : Nat) (v : UInt16) (rest : Bytes) :
    u16 ⟨o, p, o.encode 2 v.toNat ++ rest⟩ = .ok (v, ⟨o, p + 2, rest⟩) := by
  rw [u16, bind_ok (take_append (by simp) ..), bind_ok rfl, pure_ok, ByteOrder.decode_encode]
  simp

theorem u16be_append (o : ByteOrder) (p : Nat) (v : UInt16) (rest : Bytes) :
    u16be ⟨o, p, ByteOrder.big.encode 2 v.toNat ++ rest⟩ = .ok (v, ⟨o, p + 2, rest⟩) := by
  rw [u16be, bind_ok (take_append (by simp) ..), pure_ok, ByteOrder.decode_encode]
  simp

theorem u32_append (o : ByteOrder) (p : Nat) (v : UInt32) (rest : Bytes) :
    u32 ⟨o, p, o.encode 4 v.toNat ++ rest⟩ = .ok (v, ⟨o, p + 4, rest⟩) := by
  rw [u32, bind_ok (take_append (by simp) ..), bind_ok rfl, pure_ok, ByteOrder.decode_encode]
  simp

end Reader

/-- one read of a script -/
inductive ReadOp where
  | u8
  | i8
  | u16
  | u16be
  | u32
  | gap (n : Nat)
  | slice (n : Nat)
deriving DecidableEq, Repr

/-- what a read found -/
inductive ReadValue where
  | u8 (v : UInt8)
  | i8 (v : Int8)
  | u16 (v : UInt16)
  | u32 (v : UInt32)
  | slice (bytes : Bytes)
  | gap
deriving DecidableEq, Repr

namespace ReadOp

/-- bytes the read asks for -/
def size : ReadOp → Nat
  | .u8 | .i8 => 1
  | .u16 | .u16be => 2
  | .u32 => 4
  | .gap n | .slice n => n

def run : ReadOp → Read ReadValue
  | .u8 => return .u8 (← Reader.u8)
  | .i8 => return .i8 (← Reader.i8)
  | .u16 => return .u16 (← Reader.u16)
  | .u16be => return .u16 (← Reader.u16be)
  | .u32 => return .u32 (← Reader.u32)
  | .gap n => do
    Reader.skip n
    return .gap
  | .slice n => return .slice (← Reader.take n)

/-- One step of a script. Positions are 64-bit words: a read whose end does not fit one stops the adapter, a read that
merely runs past the end answers with its error and leaves the reader as it was. -/
def step (op : ReadOp) (r : Reader) : Checked (Except OutOfBounds ReadValue × Reader) :=
  if r.pos + op.size < 2 ^ 64 then
    match op.run r with
    | .ok (v, r) => .ok (.ok v, r)
    | .error e => .ok (.error e, r)
  else .error .addOverflow

end ReadOp

end CanAdapter
