/-
CAN frames, classic and FD. A frame keeps its identifier unshifted, a length code, a flag byte and 64 cells of data of
which the payload is the front part.

`dlc_lengthToDlc`: the code chosen for a length is the smallest whose payload holds it.
`length_payload`: the payload is as long as the length code says, and empty for a remote frame.
-/
import CanAdapter.ByteOrder

namespace CanAdapter

/-! ## Length codes -/

/-- most bytes a frame carries -/
def maxPayload : Nat := 64

/-- the payload length of each of the sixteen length codes -/
def dlcLengths : List Nat := [0, 1, 2, 3, 4, 5, 6, 7, 8, 12, 16, 20, 24, 32, 48, 64]

/-- the payload length of a length code; only its low nibble counts -/
def dlcLength (dlc : UInt8) : Nat := dlcLengths.getD (dlc.toNat % 16) 0

/-- the smallest length code whose payload holds `len` bytes -/
def lengthToDlc (len : Nat) : Option UInt8 :=
  (dlcLengths.findIdx? (len ≤ ·)).map UInt8.ofNat

theorem dlcLength_le (dlc : UInt8) : dlcLength dlc ≤ maxPayload := by
  have h : ∀ n : Fin 16, dlcLengths.getD n 0 ≤ maxPayload := by decide
  exact h ⟨dlc.toNat % 16, Nat.mod_lt _ (by decide)⟩

/-- the code chosen for a length has room for it, and every smaller code has not -/
theorem dlc_lengthToDlc {len : Nat} {dlc : UInt8} (h : lengthToDlc len = some dlc) :
    len ≤ dlcLength dlc ∧ ∀ d : UInt8, d < dlc → dlcLength d < len := by
  have small : len ≤ 64 := by
    apply Nat.le_of_not_lt
    intro big
    have none : lengthToDlc len = none := by
      simp only [lengthToDlc, Option.map_eq_none_iff, List.findIdx?_eq_none_iff]
      intro l hl
      have : ∀ l ∈ dlcLengths, l ≤ 64 := by decide
      have := this l hl
      simp
      omega
    simp [none] at h
  have all : ∀ n : Fin 65, ∀ d : Fin 16, ∀ e : Fin 16, lengthToDlc n = some (UInt8.ofNat d) →
      n.val ≤ dlcLength (UInt8.ofNat d) ∧ (e < d → dlcLength (UInt8.ofNat e) < n.val) := by decide +kernel
  have code : ∀ n : Fin 65, ∃ d : Fin 16, lengthToDlc n = some (UInt8.ofNat d) := by decide +kernel
  obtain ⟨d, hd⟩ := code ⟨len, by omega⟩
  simp only at hd
  rw [hd] at h
  cases h
  refine ⟨(all ⟨len, by omega⟩ d 0 hd).1, fun e he => ?_⟩
  have lt : e.toNat < d.val := by
    have := UInt8.lt_iff_toNat_lt.1 he
    rw [UInt8.toNat_ofNat'] at this
    omega
  have := (all ⟨len, by omega⟩ d ⟨e.toNat, by omega⟩ hd).2 lt
  simpa using this

/-! ## Flags -/

/-- per-frame flags as they travel on the wire -/
structure FrameFlags where
  bits : UInt8
deriving DecidableEq, Repr

namespace FrameFlags

def empty : FrameFlags := ⟨0⟩
/-- remote transmission request -/
def rtr : FrameFlags := ⟨0x01⟩
/-- 29-bit identifier -/
def ext : FrameFlags := ⟨0x02⟩
/-- FD format -/
def fdf : FrameFlags := ⟨0x04⟩
/-- bit-rate switch in the data phase -/
def brs : FrameFlags := ⟨0x08⟩
/-- the request was dropped by the adapter; only in transmit reports -/
def drp : FrameFlags := ⟨0x20⟩

/-- every flag with a meaning, with 0x10 for the error state of the transmitter -/
def known : UInt8 := 0x3f

/-- a flag byte without the bits that mean nothing -/
def ofByte (b : UInt8) : FrameFlags := ⟨b &&& known⟩

def has (s mark : FrameFlags) : Bool := s.bits &&& mark.bits == mark.bits

instance : Union FrameFlags := ⟨fun s t => ⟨s.bits ||| t.bits⟩⟩

end FrameFlags

/-! ## Identifiers and frames -/

/-- a standard identifier has 11 bits, an extended one 29 -/
inductive CanId where
  | standard (raw : BitVec 11)
  | extended (raw : BitVec 29)
deriving DecidableEq, Repr

namespace CanId

def standard? (raw : Nat) : Option CanId :=
  if raw < 2 ^ 11 then some (.standard (BitVec.ofNat 11 raw)) else none

def extended? (raw : Nat) : Option CanId :=
  if raw < 2 ^ 29 then some (.extended (BitVec.ofNat 29 raw)) else none

end CanId

/-- the 64 data cells of a frame -/
structure FrameData where
  bytes : Bytes
  length_eq : bytes.length = maxPayload
deriving DecidableEq, Repr

namespace FrameData

/-- the cells that start with the given bytes and are zero after them -/
def ofBytes (bs : Bytes) : FrameData :=
  ⟨(bs ++ List.replicate maxPayload 0).take maxPayload, by simp⟩

def zero : FrameData := ofBytes []

end FrameData

structure Frame where
  id : UInt32
  dlc : UInt8
  flags : FrameFlags
  data : FrameData
  /-- microsecond counter, wrapping -/
  timestamp : UInt32
deriving DecidableEq, Repr

namespace Frame

/-- the zeroed standard data frame -/
def empty : Frame := ⟨0, 0, .empty, .zero, 0⟩

def isExtended (f : Frame) : Bool := f.flags.has .ext

def isRemote (f : Frame) : Bool := f.flags.has .rtr

def isFd (f : Frame) : Bool := f.flags.has .fdf

def switchesRate (f : Frame) : Bool := f.flags.has .brs

/-- payload length; a remote frame has none whatever its code -/
def length (f : Frame) : Nat := if f.isRemote then 0 else dlcLength f.dlc

def payload (f : Frame) : Bytes := f.data.bytes.take f.length

theorem length_le (f : Frame) : f.length ≤ maxPayload := by
  unfold length
  split
  · exact Nat.zero_le _
  · exact dlcLength_le _

@[simp] theorem length_payload (f : Frame) : f.payload.length = f.length := by
  simp [payload, f.data.length_eq, Nat.min_eq_left f.length_le]

/-- the empty frame with an identifier -/
def withId : CanId → Frame
  | .standard raw => { empty with id := UInt32.ofNat raw.toNat }
  | .extended raw => { empty with id := UInt32.ofNat raw.toNat, flags := .ext }

/-- a classic data frame; none for more than eight bytes -/
def classic? (id : CanId) (data : Bytes) : Option Frame :=
  if data.length ≤ 8 then
    some { withId id with dlc := UInt8.ofNat data.length, data := .ofBytes data }
  else none

/-- a classic remote frame; none for a code beyond eight -/
def remote? (id : CanId) (dlc : Nat) : Option Frame :=
  if dlc ≤ 8 then
    some { withId id with dlc := UInt8.ofNat dlc, flags := (withId id).flags ∪ .rtr }
  else none

/-- an FD frame; none unless the data is exactly as long as some code says -/
def fd? (id : CanId) (data : Bytes) (switchRate : Bool) : Option Frame :=
  match lengthToDlc data.length with
  | none => none
  | some dlc =>
    if dlcLength dlc = data.length then
      let flags := (withId id).flags ∪ .fdf
      some { withId id with
        dlc
        flags := if switchRate then flags ∪ .brs else flags
        data := .ofBytes data }
    else none

/-- the identifier cut to the width its format has -/
def canId (f : Frame) : CanId :=
  if f.isExtended then .extended (f.id.toBitVec.setWidth 29) else .standard (f.id.toBitVec.setWidth 11)

end Frame

end CanAdapter
