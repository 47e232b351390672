/-
Bytes and words. A word of `w` bytes is its base-256 digits, least significant first or, in big-endian order, last.

`decode_encode`: reading the bytes of a number gives it back modulo `256 ^ w`, in either order.
-/
namespace CanAdapter

-- a power of a number is the core library's, whatever else is in scope
attribute [instance (2000), default_instance (20000)] instPowNat

abbrev Bytes := List UInt8

/-- byte order of multi-byte wire fields -/
inductive ByteOrder where
  | little
  | big
deriving DecidableEq, Repr

/-- the `w` lowest base-256 digits of a number, least significant first -/
def digits : Nat → Nat → Bytes
  | 0, _ => []
  | w + 1, n => UInt8.ofNat n :: digits w (n / 256)

/-- the number with the given base-256 digits, least significant first -/
def ofDigits : Bytes → Nat
  | [] => 0
  | b :: bs => b.toNat + 256 * ofDigits bs

@[simp] theorem length_digits (w n : Nat) : (digits w n).length = w := by
  induction w generalizing n with
  | zero => rfl
  | succ w ih => simp [digits, ih]

/-- a byte is its own digit -/
@[simp] theorem digits_one (b : UInt8) : digits 1 b.toNat = [b] := by simp [digits]

theorem ofDigits_digits (w n : Nat) : ofDigits (digits w n) = n % 256 ^ w := by
  induction w generalizing n with
  | zero => simp [digits, ofDigits, Nat.mod_one]
  | succ w ih =>
    have h : 256 ^ (w + 1) = 256 * 256 ^ w := Nat.pow_succ'
    rw [digits, ofDigits, ih, UInt8.toNat_ofNat', h, Nat.mod_mul]

namespace ByteOrder

/-- the byte a handshake announces the order with -/
def toByte : ByteOrder → UInt8
  | .little => 0
  | .big => 1

def ofByte? : UInt8 → Option ByteOrder
  | 0 => some .little
  | 1 => some .big
  | _ => none

@[simp] theorem ofByte?_toByte (o : ByteOrder) : ofByte? o.toByte = some o := by cases o <;> rfl

/-- the `w` bytes of a number on the wire -/
def encode (o : ByteOrder) (w n : Nat) : Bytes :=
  match o with
  | .little => digits w n
  | .big => (digits w n).reverse

/-- the number that some bytes on the wire stand for -/
def decode (o : ByteOrder) (bs : Bytes) : Nat :=
  match o with
  | .little => ofDigits bs
  | .big => ofDigits bs.reverse

@[simp] theorem length_encode (o : ByteOrder) (w n : Nat) : (o.encode w n).length = w := by
  cases o <;> simp [encode]

theorem decode_encode (o : ByteOrder) (w n : Nat) : o.decode (o.encode w n) = n % 256 ^ w := by
  cases o <;> simp [encode, decode, ofDigits_digits]

end ByteOrder

end CanAdapter
