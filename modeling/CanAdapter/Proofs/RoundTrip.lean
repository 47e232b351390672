/-
A message that was written is read back. The fields that a layout writes are the ones that it reads, whatever bytes
follow the message, so every kind of message survives the wire up to what `Message.normal` says the wire drops.

`Layout.Reads` is this property for the fields of one value, with one lemma for each layout. `Layout.decode_encode`
adds header and padding, and `Message.decode_encode` is the round trip for any message.
-/
import CanAdapter.Message.Encoding
import CanAdapter.Message.Normal

namespace CanAdapter

/-! ## One field after another -/

namespace Decoder

variable {α β : Type} {o : ByteOrder} {p : Nat} {rest : Bytes}

theorem lift_read {x : Read β} {r r' : Reader} {v : β} (h : x r = .ok (v, r')) :
    (liftM x : Decoder β) r = .ok (v, r') := by
  have lifted : (liftM x : Decoder β) r = (x r).mapError .cursor := rfl
  rw [lifted, h]
  rfl

theorem bind_read {x : Read β} {f : β → Decoder α} {r r' : Reader} {v : β} (h : x r = .ok (v, r')) :
    ((liftM x : Decoder β) >>= f) r = f v r' := Reader.bind_ok (lift_read h)

theorem bind_u8 (v : UInt8) (f : UInt8 → Decoder α) :
    ((liftM Reader.u8 : Decoder UInt8) >>= f) ⟨o, p, v :: rest⟩ = f v ⟨o, p + 1, rest⟩ :=
  bind_read (Reader.u8_append o p v rest)

theorem bind_u16 (v : UInt16) (f : UInt16 → Decoder α) :
    ((liftM Reader.u16 : Decoder UInt16) >>= f) ⟨o, p, o.encode 2 v.toNat ++ rest⟩ = f v ⟨o, p + 2, rest⟩ :=
  bind_read (Reader.u16_append o p v rest)

theorem bind_u16be (v : UInt16) (f : UInt16 → Decoder α) :
    ((liftM Reader.u16be : Decoder UInt16) >>= f) ⟨o, p, ByteOrder.big.encode 2 v.toNat ++ rest⟩ =
      f v ⟨o, p + 2, rest⟩ :=
  bind_read (Reader.u16be_append o p v rest)

theorem bind_u32 (v : UInt32) (f : UInt32 → Decoder α) :
    ((liftM Reader.u32 : Decoder UInt32) >>= f) ⟨o, p, o.encode 4 v.toNat ++ rest⟩ = f v ⟨o, p + 4, rest⟩ :=
  bind_read (Reader.u32_append o p v rest)

theorem bind_take {n : Nat} {front : Bytes} (h : front.length = n) (f : Bytes → Decoder α) :
    ((liftM (Reader.take n) : Decoder Bytes) >>= f) ⟨o, p, front ++ rest⟩ = f front ⟨o, p + n, rest⟩ :=
  bind_read (Reader.take_append h o p rest)

theorem bind_skip {n : Nat} {front : Bytes} (h : front.length = n) (f : Unit → Decoder α) :
    ((liftM (Reader.skip n) : Decoder Unit) >>= f) ⟨o, p, front ++ rest⟩ = f () ⟨o, p + n, rest⟩ := by
  refine bind_read ?_
  rw [Reader.skip, Reader.bind_ok (Reader.take_append h ..), Reader.pure_ok]

end Decoder

/-! ## Layouts -/

namespace Layout

variable {α : Type}

/-- whatever follows the fields of `a`, they are read as `v` -/
def Reads (l : Layout α) (a v : α) : Prop :=
  ∀ o len rest, l.minLength + l.payload a ≤ len →
    ∃ r, l.read len (Reader.ofBytes o (layBytes o headerLength (l.write a) ++ rest)) = .ok (v, r)

theorem decode_encode {l : Layout α} {a v : α} (fits : (l.packet a).Fits) (h : l.Reads a v) (o : ByteOrder)
    (rest : Bytes) : l.decode o ((l.packet a).encode o ++ rest) = .ok v := by
  have len := Packet.length_encode fits o
  have size := (le_alignLength (l.minLength + l.payload a)).1
  have enough : l.minLength + l.payload a ≤ ((l.packet a).encode o ++ rest).length := by
    rw [List.length_append, len, Packet.wireLength]
    exact Nat.le_trans size (Nat.le_add_right ..)
  -- the padding counts as part of what follows the fields
  obtain ⟨r, hr⟩ := h o ((l.packet a).encode o ++ rest).length
    (List.replicate (paddingTo lengthUnit ((layBytes o headerLength (l.write a)).length + headerLength)) 0 ++ rest)
    enough
  rw [Packet.encode_eq] at hr enough ⊢
  simp only [List.append_assoc, List.cons_append, List.nil_append, packet] at hr enough ⊢
  rw [decode, if_neg (by simp), if_neg (by omega)]
  simp only [StateT.run', hr]
  rfl

theorem readPayload_append {fixed len : Nat} {f : Frame} {payload : Bytes} (h : payload.length = f.length)
    (enough : fixed + f.length ≤ len) (id : UInt8) (o : ByteOrder) (p : Nat) (rest : Bytes) :
    readPayload id fixed len f ⟨o, p, payload ++ rest⟩ =
      .ok ({ f with data := .ofBytes payload }, ⟨o, p + f.length, rest⟩) := by
  have fits : ¬ len < fixed + f.length := by omega
  simp only [readPayload, fits, ↓reduceIte, Decoder.bind_take h]
  rfl

theorem reads_bare (id : UInt8) : (bare id).Reads () () := fun _ _ _ _ => ⟨_, rfl⟩

theorem reads_greeting (g : Greeting) : greeting.Reads g g := by
  intro o len rest _
  simp only [greeting, layBytes, WriteOp.bytes, digits_one, List.append_assoc, List.cons_append, List.nil_append,
    Reader.ofBytes, Decoder.bind_u8, Decoder.bind_u16be, ByteOrder.ofByte?_toByte, Decoder.enum, pure_bind]
  exact ⟨_, rfl⟩

theorem reads_deviceInfo (i : DeviceInfo) : deviceInfo.Reads i
    { i with permanent := .ofWord i.permanent.bits, configurable := .ofWord i.configurable.bits } := by
  intro o len rest _
  have serial := length_padded i.serial_le
  have name := length_padded i.name_le
  simp only [deviceInfo, layBytes, WriteOp.bytes, digits_one, List.append_assoc, List.cons_append, List.nil_append,
    Reader.ofBytes, Decoder.bind_u8, Decoder.bind_u16, Decoder.bind_take serial, Decoder.bind_take name]
  have serialLength : (UInt8.ofNat i.serial.length).toNat = i.serial.length := by
    have := i.serial_le
    simp only [serialRoom] at this
    simp only [UInt8.toNat_ofNat']
    omega
  have nameLength : (UInt8.ofNat i.name.length).toNat = i.name.length := by
    have := i.name_le
    simp only [nameRoom] at this
    simp only [UInt8.toNat_ofNat']
    omega
  have text : DeviceInfo.ofParts (.ofWord i.permanent.bits) (.ofWord i.configurable.bits) i.firmware
      ((padded serialRoom i.serial).take i.serial.length) ((padded nameRoom i.name).take i.name.length) =
      { i with permanent := .ofWord i.permanent.bits, configurable := .ofWord i.configurable.bits } := by
    simp [DeviceInfo.ofParts, padded, List.take_of_length_le i.serial_le, List.take_of_length_le i.name_le]
  rw [serialLength, nameLength, text]
  exact ⟨_, rfl⟩

theorem reads_canInfo (i : CanInfo) : canInfo.Reads i
    { i with nominal := i.nominal.normalNominal, data := i.data.bind (·.normalData) } := by
  intro o len rest _
  cases h : i.data with
  | none =>
    simp only [canInfo, h, layBytes, WriteOp.bytes, digits_one, List.append_assoc, List.cons_append, List.nil_append,
      Reader.ofBytes, Decoder.bind_u8, Decoder.bind_u16, Decoder.bind_u32, List.replicate]
    exact ⟨_, rfl⟩
  | some d =>
    simp only [canInfo, h, layBytes, WriteOp.bytes, digits_one, List.append_assoc, List.cons_append, List.nil_append,
      Reader.ofBytes, Decoder.bind_u8, Decoder.bind_u16, Decoder.bind_u32]
    exact ⟨_, rfl⟩

theorem reads_timing (id : UInt8) (t : BitTiming) : (timing id).Reads t t := by
  intro o len rest _
  simp only [timing, layBytes, WriteOp.bytes, digits_one, List.append_assoc, List.cons_append, List.nil_append,
    Reader.ofBytes, Decoder.bind_u8, Decoder.bind_u16]
  exact ⟨_, rfl⟩

theorem reads_features (r : FeatureRequest) : features.Reads r r := by
  intro o len rest _
  simp only [features, layBytes, WriteOp.bytes, digits_one, List.append_assoc, List.cons_append, List.nil_append,
    Reader.ofBytes, Decoder.bind_u8, Decoder.bind_u32, Decoder.bind_skip (List.length_replicate ..),
    FeatureOp.ofByte?_toByte, Decoder.enum, pure_bind]
  exact ⟨_, rfl⟩

theorem reads_bus (on : Bool) : bus.Reads on on := by
  intro o len rest _
  simp only [bus, layBytes, WriteOp.bytes, List.append_assoc, List.nil_append, Reader.ofBytes, Decoder.bind_u16]
  cases on <;> exact ⟨_, rfl⟩

theorem reads_outcome (code : Int8) : outcome.Reads code code := by
  intro o len rest _
  simp only [outcome, layBytes, WriteOp.bytes, digits_one, List.append_assoc, List.cons_append, List.nil_append,
    Reader.ofBytes]
  have read := Reader.i8_append o 0 code (List.replicate 1 0 ++ rest)
  exact ⟨_, Decoder.lift_read read⟩

theorem reads_busReport (r : BusReport) : busReport.Reads r { r with flags := .ofByte r.flags.bits } := by
  intro o len rest _
  simp only [busReport, layBytes, WriteOp.bytes, digits_one, List.append_assoc, List.cons_append, List.nil_append,
    Reader.ofBytes, Decoder.bind_u8, Decoder.bind_u16, Decoder.bind_u32, BusStatus.ofByte?_toByte, Decoder.enum,
    pure_bind]
  exact ⟨_, rfl⟩

theorem reads_received (f : Frame) : received.Reads f f.normal := by
  intro o len rest enough
  have same : f.payload.length = f.normal.length := by rw [f.length_payload, f.length_normal]
  have room : 12 + f.normal.length ≤ len := by rw [f.length_normal]; exact enough
  simp only [received, layBytes, WriteOp.bytes, digits_one, List.append_assoc, List.cons_append, List.nil_append,
    Reader.ofBytes, Decoder.bind_u8, Decoder.bind_u32]
  exact ⟨_, readPayload_append same room ..⟩

theorem reads_transmit (r : TxRequest) :
    transmit.Reads r { r with frame := { r.frame.normal with timestamp := 0 } } := by
  intro o len rest enough
  have same : r.frame.payload.length = r.frame.normal.length := by rw [r.frame.length_payload, r.frame.length_normal]
  have room : 10 + r.frame.normal.length ≤ len := by rw [r.frame.length_normal]; exact enough
  simp only [transmit, layBytes, WriteOp.bytes, digits_one, List.append_assoc, List.cons_append, List.nil_append,
    Reader.ofBytes, Decoder.bind_u8, Decoder.bind_u32, Decoder.bind_skip (List.length_replicate ..)]
  have read := readPayload_append (f := { r.frame.normal with data := Frame.empty.data, timestamp := 0 }) same room
  exact ⟨_, Reader.bind_ok (read ..)⟩

theorem reads_transmitted (r : TxReport) : transmitted.Reads r { r with flags := .ofByte r.flags.bits } := by
  intro o len rest _
  simp only [transmitted, layBytes, WriteOp.bytes, digits_one, List.append_assoc, List.cons_append, List.nil_append,
    Reader.ofBytes, Decoder.bind_u8, Decoder.bind_u32]
  exact ⟨_, rfl⟩

theorem reads_busError (e : BusError) : busError.Reads e e := by
  intro o len rest _
  obtain ⟨code, transmitting, dataPhase, timestamp⟩ := e
  simp only [busError, layBytes, WriteOp.bytes, digits_one, List.append_assoc, List.cons_append, List.nil_append,
    Reader.ofBytes, Decoder.bind_u8, Decoder.bind_u32, ErrorCode.ofByte?_toByte, Decoder.enum, pure_bind]
  have flags :
      (((if transmitting then 1 else 0) ||| (if dataPhase then 2 else 0) : UInt8) &&& 1 != 0) = transmitting ∧
      (((if transmitting then 1 else 0) ||| (if dataPhase then 2 else 0) : UInt8) &&& 2 != 0) = dataPhase := by
    cases transmitting <;> cases dataPhase <;> decide
  rw [flags.1, flags.2]
  exact ⟨_, rfl⟩

end Layout

/-! ## Messages -/

theorem Message.decode_encode (m : Message) (o : ByteOrder) (rest : Bytes) :
    m.kind.decode o (m.encode o ++ rest) = .ok m.normal := by
  have fits := m.fits_packet
  cases m with
  | hello => exact congrArg (Functor.map _) (Layout.decode_encode fits (Layout.reads_bare _) o rest)
  | greeting g => exact congrArg (Functor.map _) (Layout.decode_encode fits (Layout.reads_greeting g) o rest)
  | deviceInfoRequest => exact congrArg (Functor.map _) (Layout.decode_encode fits (Layout.reads_bare _) o rest)
  | deviceInfo i => exact congrArg (Functor.map _) (Layout.decode_encode fits (Layout.reads_deviceInfo i) o rest)
  | canInfoRequest => exact congrArg (Functor.map _) (Layout.decode_encode fits (Layout.reads_bare _) o rest)
  | canInfo i => exact congrArg (Functor.map _) (Layout.decode_encode fits (Layout.reads_canInfo i) o rest)
  | nominalTiming t => exact congrArg (Functor.map _) (Layout.decode_encode fits (Layout.reads_timing _ t) o rest)
  | dataTiming t => exact congrArg (Functor.map _) (Layout.decode_encode fits (Layout.reads_timing _ t) o rest)
  | features r => exact congrArg (Functor.map _) (Layout.decode_encode fits (Layout.reads_features r) o rest)
  | bus on => exact congrArg (Functor.map _) (Layout.decode_encode fits (Layout.reads_bus on) o rest)
  | outcome code => exact congrArg (Functor.map _) (Layout.decode_encode fits (Layout.reads_outcome code) o rest)
  | busReport r => exact congrArg (Functor.map _) (Layout.decode_encode fits (Layout.reads_busReport r) o rest)
  | received f => exact congrArg (Functor.map _) (Layout.decode_encode fits (Layout.reads_received f) o rest)
  | transmit r => exact congrArg (Functor.map _) (Layout.decode_encode fits (Layout.reads_transmit r) o rest)
  | transmitted r => exact congrArg (Functor.map _) (Layout.decode_encode fits (Layout.reads_transmitted r) o rest)
  | busError e => exact congrArg (Functor.map _) (Layout.decode_encode fits (Layout.reads_busError e) o rest)

end CanAdapter
