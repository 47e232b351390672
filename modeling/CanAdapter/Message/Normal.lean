/-
What a message looks like after it has travelled. The wire drops bits that mean nothing, data beyond a payload, and the
timestamp of a request; of the controller's limits it keeps what its fields can hold. `Message.normal` is the message
that arrives; one that arrived already arrives unchanged.

`payload_normal`: a payload arrives whole. `Message.normal_normal`: travelling twice is travelling once.
-/
import CanAdapter.Message.Format

namespace CanAdapter

/-- a frame with the low nibble of its code, the flags that mean something, and no data beyond its payload -/
def Frame.normal (f : Frame) : Frame :=
  { f with dlc := f.dlc &&& 0x0f, flags := .ofByte f.flags.bits, data := .ofBytes f.payload }

/-- limits as they arrive on the fields of the nominal phase -/
def TimingRange.normalNominal (r : TimingRange) : TimingRange := { r with min := { r.min with sjw := 1 } }

/-- limits as they arrive on the fields of the data phase, which are bytes -/
def TimingRange.normalData (r : TimingRange) : Option TimingRange :=
  if r.max.brp.toUInt8 = 0 then none
  else some {
    min := ⟨r.min.brp.toUInt8.toUInt16, 1, r.min.tseg1.toUInt8.toUInt16, r.min.tseg2⟩
    max := ⟨r.max.brp.toUInt8.toUInt16, r.max.sjw, r.max.tseg1.toUInt8.toUInt16, r.max.tseg2⟩ }

namespace Message

/-- the message that arrives -/
def normal : Message → Message
  | deviceInfo i => deviceInfo { i with
      permanent := .ofWord i.permanent.bits
      configurable := .ofWord i.configurable.bits }
  | canInfo i => canInfo { i with nominal := i.nominal.normalNominal, data := i.data.bind (·.normalData) }
  | busReport r => busReport { r with flags := .ofByte r.flags.bits }
  | received f => received f.normal
  | transmit r => transmit { r with frame := { r.frame.normal with timestamp := 0 } }
  | transmitted r => transmitted { r with flags := .ofByte r.flags.bits }
  | m => m

end Message

/-! ## Travelling twice -/

theorem FrameFlags.ofByte_bits (b : UInt8) : ofByte (ofByte b).bits = ofByte b := by
  simp [ofByte, UInt8.and_assoc]

theorem StatusFlags.ofByte_bits (b : UInt8) : ofByte (ofByte b).bits = ofByte b := by
  simp [ofByte, UInt8.and_assoc]

theorem Features.ofWord_bits (w : UInt16) : ofWord (ofWord w).bits = ofWord w := by
  simp [ofWord, UInt16.and_assoc]

/-- a length code keeps its meaning in its low nibble -/
theorem dlcLength_and (dlc : UInt8) : dlcLength (dlc &&& 0x0f) = dlcLength dlc := by
  have low : (dlc &&& 0x0f).toNat = dlc.toNat % 16 := by
    rw [UInt8.toNat_and]
    exact Nat.and_two_pow_sub_one_eq_mod dlc.toNat 4
  simp [dlcLength, low]

namespace Frame

theorem isRemote_normal (f : Frame) : f.normal.isRemote = f.isRemote := by
  have mask : (0x3f : UInt8) &&& 1 = 1 := by decide
  simp [isRemote, normal, FrameFlags.has, FrameFlags.ofByte, FrameFlags.known, FrameFlags.rtr, UInt8.and_assoc, mask]

theorem length_normal (f : Frame) : f.normal.length = f.length := by
  rw [length, isRemote_normal, length]
  simp [normal, dlcLength_and]

/-- a payload arrives whole -/
theorem payload_normal (f : Frame) : f.normal.payload = f.payload := by
  rw [payload, length_normal]
  have fits := f.length_le
  have cells := f.data.length_eq
  simp only [normal, FrameData.ofBytes, payload, List.take_take, List.take_append_of_le_length, List.length_take, cells,
    Nat.min_eq_left fits, Nat.min_self, Nat.le_refl]

theorem normal_normal (f : Frame) : f.normal.normal = f.normal := by
  have data : FrameData.ofBytes f.normal.payload = f.normal.data := by rw [payload_normal]; rfl
  rw [normal, data]
  simp [normal, FrameFlags.ofByte_bits, UInt8.and_assoc]

end Frame

namespace TimingRange

theorem normalNominal_normalNominal (r : TimingRange) : r.normalNominal.normalNominal = r.normalNominal := rfl

theorem normalData_normalData {r s : TimingRange} (h : r.normalData = some s) : s.normalData = some s := by
  unfold normalData at h
  split at h
  · cases h
  · rename_i limited
    cases h
    simp only [normalData, UInt8.toUInt8_toUInt16, if_neg limited]

end TimingRange

namespace Message

theorem normal_normal (m : Message) : m.normal.normal = m.normal := by
  cases m with
  | canInfo i =>
    simp only [normal, TimingRange.normalNominal_normalNominal]
    cases data : i.data.bind (·.normalData) with
    | none => rfl
    | some d =>
      obtain ⟨r, -, arrived⟩ := Option.bind_eq_some_iff.1 data
      simp [TimingRange.normalData_normalData arrived]
  | received f => simp [normal, Frame.normal_normal]
  | transmit r =>
    have arrived : { r.frame.normal with timestamp := 0 }.normal = { r.frame.normal.normal with timestamp := 0 } := rfl
    simp [normal, arrived, Frame.normal_normal]
  | _ => simp [normal, FrameFlags.ofByte_bits, StatusFlags.ofByte_bits, Features.ofWord_bits]

end Message

end CanAdapter
