/-
What a decoder accepts. Sixteen decoders read their fields in their own order, two of them with a payload as long as a
field before it says. Which bytes each refuses, and with which complaint, is decided by its layout alone: a header, the
id, the fixed fields, the enumerated field and then the payload, the first that is wrong being named.

- `MessageKind.complaint` is that verdict, read off the bytes without decoding them.
- `Decoder.Settles`: what comes of reading some bytes, whatever stands behind them, kept by each field of a layout.
- `Layout.Judges`: a layout refuses what its kind's verdict refuses, one lemma for each layout.
- `MessageKind.decode_settled`: every decoder goes by the verdict. No read runs past the end, the length byte is not
  looked at, and what is accepted is read the same with anything behind it.
-/
import CanAdapter.Proofs.RoundTrip

namespace CanAdapter

/-! ## The verdict -/

/-- how many values the field has, from zero on -/
def EnumField.values : EnumField → Nat
  | .byteOrder | .featureOp => 2
  | .busStatus => 4
  | .errorCode => 7

namespace MessageKind

/-- the enumerated field of a kind of message, and where it is -/
def enumerated? : MessageKind → Option (EnumField × Nat)
  | .greeting => some (.byteOrder, 3)
  | .features => some (.featureOp, 2)
  | .busReport => some (.busStatus, 3)
  | .busError => some (.errorCode, 2)
  | _ => none

/-- bytes after the fixed fields: only frames have any, unless they are remote -/
def payloadLength (b : Bytes) : MessageKind → Nat
  | .received | .transmit => if (b.getD 3 0) &&& 1 = 1 then 0 else dlcLength (b.getD 2 0)
  | _ => 0

/-- the enumerated field holds a byte that is no value of it -/
def badValue (k : MessageKind) (b : Bytes) : Option WireError :=
  k.enumerated?.bind fun (field, i) =>
    if (b.getD i 0).toNat < field.values then none else some (.invalidValue field (b.getD i 0))

/-- the payload is longer than what is there -/
def shortPayload (k : MessageKind) (b : Bytes) : Option WireError :=
  if b.length < k.minLength + k.payloadLength b then some (.short k.id (k.minLength + k.payloadLength b) b.length)
  else none

/-- what is wrong with some bytes as a message of this kind, if anything is -/
def complaint (k : MessageKind) (b : Bytes) : Option WireError :=
  if b.length < headerLength then some (.truncatedHeader 0)
  else if b.getD 0 0 ≠ k.id then some (.unexpectedId (b.getD 0 0))
  else if b.length < k.minLength then some (.short k.id k.minLength b.length)
  else (k.badValue b).or (k.shortPayload b)

end MessageKind

/-! ## One field after another -/

namespace Reader

variable {o : ByteOrder} {p : Nat} {front : Bytes}

theorem u16_read (h : front.length = 2) (rest : Bytes) :
    u16 ⟨o, p, front ++ rest⟩ = .ok (UInt16.ofNat (o.decode front), ⟨o, p + 2, rest⟩) := by
  rw [u16, bind_ok (take_append h ..), bind_ok rfl, pure_ok]

theorem u16be_read (h : front.length = 2) (rest : Bytes) :
    u16be ⟨o, p, front ++ rest⟩ = .ok (UInt16.ofNat (ByteOrder.big.decode front), ⟨o, p + 2, rest⟩) := by
  rw [u16be, bind_ok (take_append h ..), pure_ok]

theorem u32_read (h : front.length = 4) (rest : Bytes) :
    u32 ⟨o, p, front ++ rest⟩ = .ok (UInt32.ofNat (o.decode front), ⟨o, p + 4, rest⟩) := by
  rw [u32, bind_ok (take_append h ..), bind_ok rfl, pure_ok]

theorem skip_read {n : Nat} (h : front.length = n) (rest : Bytes) :
    skip n ⟨o, p, front ++ rest⟩ = .ok ((), ⟨o, p + n, rest⟩) := by
  rw [skip, bind_ok (take_append h ..), pure_ok]

end Reader

namespace Decoder

variable {α β : Type}

/-- what comes of reading bytes that start with `front`: the complaint, or a value, and which of the two and what value
does not depend on what is behind `front` -/
def Settles (x : Decoder α) (front : Bytes) : Option WireError → Prop
  | some e => ∀ o p rest, x ⟨o, p, front ++ rest⟩ = .error e
  | none => ∀ o p, ∃ a p' left, ∀ rest, x ⟨o, p, front ++ rest⟩ = .ok (a, ⟨o, p', left ++ rest⟩)

/-- takes `n` bytes, whatever they are -/
def Consumes (n : Nat) (x : Decoder β) : Prop :=
  ∀ o p front, front.length = n → ∃ b, ∀ rest, x ⟨o, p, front ++ rest⟩ = .ok (b, ⟨o, p + n, rest⟩)

theorem consumes_lift {n : Nat} {x : Read β} (value : ByteOrder → Bytes → β)
    (h : ∀ o p front rest, front.length = n → x ⟨o, p, front ++ rest⟩ = .ok (value o front, ⟨o, p + n, rest⟩)) :
    Consumes n (liftM x : Decoder β) :=
  fun o p front len => ⟨value o front, fun rest => lift_read (h o p front rest len)⟩

theorem consumes_u8 : Consumes 1 (liftM Reader.u8 : Decoder UInt8) := by
  intro o p front len
  obtain ⟨b, rfl⟩ := List.length_eq_one_iff.1 len
  exact ⟨b, fun rest => lift_read (Reader.u8_append o p b rest)⟩

theorem consumes_u16 : Consumes 2 (liftM Reader.u16 : Decoder UInt16) :=
  consumes_lift _ fun _ _ _ rest len => Reader.u16_read len rest

theorem consumes_u16be : Consumes 2 (liftM Reader.u16be : Decoder UInt16) :=
  consumes_lift _ fun _ _ _ rest len => Reader.u16be_read len rest

theorem consumes_u32 : Consumes 4 (liftM Reader.u32 : Decoder UInt32) :=
  consumes_lift _ fun _ _ _ rest len => Reader.u32_read len rest

theorem consumes_take (n : Nat) : Consumes n (liftM (Reader.take n) : Decoder Bytes) :=
  consumes_lift (fun _ front => front) fun o p _ rest len => Reader.take_append len o p rest

theorem consumes_skip (n : Nat) : Consumes n (liftM (Reader.skip n) : Decoder Unit) :=
  consumes_lift (fun _ _ => ()) fun _ _ _ rest len => Reader.skip_read len rest

variable {front : Bytes} {verdict : Option WireError}

theorem settles_pure (a : α) : Settles (pure a : Decoder α) front none :=
  fun _ p => ⟨a, p, front, fun _ => rfl⟩

/-- a field that is there is read, and the fields behind it settle the matter -/
theorem settles_field {n : Nat} {x : Decoder β} {f : β → Decoder α} (hx : Consumes n x) (room : n ≤ front.length)
    (hf : ∀ b, Settles (f b) (front.drop n) verdict) : Settles (x >>= f) front verdict := by
  have read (o : ByteOrder) (p : Nat) : ∃ b, ∀ rest, (x >>= f) ⟨o, p, front ++ rest⟩ =
      f b ⟨o, p + n, front.drop n ++ rest⟩ := by
    obtain ⟨b, hb⟩ := hx o p (front.take n) (List.length_take_of_le room)
    refine ⟨b, fun rest => ?_⟩
    have split : front ++ rest = front.take n ++ (front.drop n ++ rest) := by
      rw [← List.append_assoc, List.take_append_drop]
    rw [split]
    exact Reader.bind_ok (hb _)
  cases verdict with
  | some e =>
    intro o p rest
    obtain ⟨b, hb⟩ := read o p
    rw [hb]
    exact hf b o (p + n) rest
  | none =>
    intro o p
    obtain ⟨b, hb⟩ := read o p
    obtain ⟨a, p', left, ha⟩ := hf b o (p + n)
    exact ⟨a, p', left, fun rest => (hb rest).trans (ha rest)⟩

/-- the same of a byte that the fields behind it go by -/
theorem settles_u8 {b : UInt8} {f : UInt8 → Decoder α} (hf : Settles (f b) front verdict) :
    Settles ((liftM Reader.u8 : Decoder UInt8) >>= f) (b :: front) verdict := by
  cases verdict with
  | some e =>
    intro o p rest
    exact (bind_u8 b f).trans (hf o (p + 1) rest)
  | none =>
    intro o p
    obtain ⟨a, p', left, ha⟩ := hf o (p + 1)
    exact ⟨a, p', left, fun rest => (bind_u8 b f).trans (ha rest)⟩

/-- an enumerated field is complained about, or the fields behind it settle the matter -/
theorem settles_enum {field : EnumField} {raw : UInt8} {value? : Option β} {f : β → Decoder α}
    (values : value?.isSome = decide (raw.toNat < field.values)) (hf : ∀ b, Settles (f b) front none) :
    Settles (enum field raw value? >>= f) front
      (if raw.toNat < field.values then none else some (.invalidValue field raw)) := by
  cases value? with
  | none =>
    have bad : ¬raw.toNat < field.values := of_decide_eq_false values.symm
    rw [if_neg bad]
    exact fun _ _ _ => rfl
  | some b =>
    have good : raw.toNat < field.values := of_decide_eq_true values.symm
    rw [if_pos good]
    exact hf b

end Decoder

/-! ## Enumerations -/

/-- what holds of every byte is settled by trying them all -/
theorem UInt8.forall_of_fin {P : UInt8 → Prop} (h : ∀ n : Fin 256, P (UInt8.ofFin n)) (b : UInt8) : P b := h b.toFin

theorem ByteOrder.isSome_ofByte? (b : UInt8) :
    (ofByte? b).isSome = decide (b.toNat < EnumField.byteOrder.values) := by
  revert b
  exact UInt8.forall_of_fin (by decide +kernel)

theorem FeatureOp.isSome_ofByte? (b : UInt8) :
    (ofByte? b).isSome = decide (b.toNat < EnumField.featureOp.values) := by
  revert b
  exact UInt8.forall_of_fin (by decide +kernel)

theorem BusStatus.isSome_ofByte? (b : UInt8) :
    (ofByte? b).isSome = decide (b.toNat < EnumField.busStatus.values) := by
  revert b
  exact UInt8.forall_of_fin (by decide +kernel)

theorem ErrorCode.isSome_ofByte? (b : UInt8) :
    (ofByte? b).isSome = decide (b.toNat < EnumField.errorCode.values) := by
  revert b
  exact UInt8.forall_of_fin (by decide +kernel)

/-! ## Layouts -/

namespace Layout

variable {α : Type} {l : Layout α} {k : MessageKind}

/-- the same of the fields of a message of `len` bytes; a longer message is read as the same value -/
def Settles (l : Layout α) (len : Nat) (front : Bytes) : Option WireError → Prop
  | some e => ∀ o, l.read len (Reader.ofBytes o front) = .error e
  | none => ∀ o, ∃ a, ∀ more len', len ≤ len' → ∃ r, l.read len' (Reader.ofBytes o (front ++ more)) = .ok (a, r)

/-- a layout whose fields do not depend on the length -/
theorem settles_of_fixed {len : Nat} {front : Bytes} {verdict : Option WireError}
    (fixed : ∀ n, l.read n = l.read len) (h : (l.read len).Settles front verdict) : l.Settles len front verdict := by
  cases verdict with
  | some e =>
    intro o
    rw [← List.append_nil front]
    exact h o 0 []
  | none =>
    intro o
    obtain ⟨a, p, left, ha⟩ := h o 0
    refine ⟨a, fun more len' _ => ⟨⟨o, p, left ++ more⟩, ?_⟩⟩
    rw [fixed]
    exact ha more

/-- the layout is that of the kind, and with the id right and the fixed fields there it goes by the kind's verdict -/
structure Judges (l : Layout α) (k : MessageKind) : Prop where
  id : l.id = k.id
  minLength : l.minLength = k.minLength
  fields : ∀ (id len : UInt8) (body : Bytes), k.minLength ≤ (id :: len :: body).length →
    l.Settles (id :: len :: body).length body
      ((k.badValue (id :: len :: body)).or (k.shortPayload (id :: len :: body)))

/-- a kind without a payload is never short of one -/
theorem shortPayload_eq_none {b : Bytes} (h : k.payloadLength b = 0) (enough : k.minLength ≤ b.length) :
    k.shortPayload b = none := by
  rw [MessageKind.shortPayload, h, Nat.add_zero, if_neg (Nat.not_lt.2 enough)]

theorem judges_bare {id : UInt8} (hid : id = k.id) (len : k.minLength = 2) (plain : k.enumerated? = none)
    (empty : ∀ b, k.payloadLength b = 0) : (bare id).Judges k := by
  refine ⟨hid, len.symm, fun id' len' body enough => ?_⟩
  rw [MessageKind.badValue, plain, shortPayload_eq_none (empty _) enough]
  exact settles_of_fixed (fun _ => rfl) (Decoder.settles_pure ())

theorem judges_greeting : greeting.Judges .greeting := by
  refine ⟨rfl, rfl, fun id len body enough => ?_⟩
  match body, enough with
  | version :: raw :: tail, enough =>
    rw [shortPayload_eq_none rfl enough, Option.or_none]
    have room : tail.length ≥ 4 := by
      simp only [MessageKind.minLength, List.length_cons] at enough
      omega
    refine settles_of_fixed (fun _ => rfl) (Decoder.settles_u8 (Decoder.settles_u8 ?_))
    refine Decoder.settles_enum (ByteOrder.isSome_ofByte? raw) fun order => ?_
    refine Decoder.settles_field Decoder.consumes_u16be (by omega) fun _ => ?_
    exact Decoder.settles_pure _

theorem judges_deviceInfo : deviceInfo.Judges .deviceInfo := by
  refine ⟨rfl, rfl, fun id len body enough => ?_⟩
  rw [shortPayload_eq_none rfl enough, Option.or_none]
  simp only [MessageKind.minLength, List.length_cons] at enough
  refine settles_of_fixed (fun _ => rfl) ?_
  refine Decoder.settles_field Decoder.consumes_u16 (by omega) fun _ => ?_
  refine Decoder.settles_field Decoder.consumes_u16 (by simp; omega) fun _ => ?_
  iterate 4 refine Decoder.settles_field Decoder.consumes_u8 (by simp; omega) fun _ => ?_
  refine Decoder.settles_field (Decoder.consumes_take _) (by simp [serialRoom]; omega) fun _ => ?_
  refine Decoder.settles_field Decoder.consumes_u8 (by simp [serialRoom]; omega) fun _ => ?_
  refine Decoder.settles_field (Decoder.consumes_take _) (by simp [serialRoom, nameRoom]; omega) fun _ => ?_
  exact Decoder.settles_pure _

theorem judges_canInfo : canInfo.Judges .canInfo := by
  refine ⟨rfl, rfl, fun id len body enough => ?_⟩
  rw [shortPayload_eq_none rfl enough, Option.or_none]
  simp only [MessageKind.minLength, List.length_cons] at enough
  refine settles_of_fixed (fun _ => rfl) ?_
  refine Decoder.settles_field Decoder.consumes_u32 (by omega) fun _ => ?_
  iterate 5 refine Decoder.settles_field Decoder.consumes_u16 (by simp; omega) fun _ => ?_
  iterate 12 refine Decoder.settles_field Decoder.consumes_u8 (by simp; omega) fun _ => ?_
  exact Decoder.settles_pure _

theorem judges_timing {id : UInt8} (hid : id = k.id) (len : k.minLength = 8) (plain : k.enumerated? = none)
    (empty : ∀ b, k.payloadLength b = 0) : (timing id).Judges k := by
  refine ⟨hid, len.symm, fun id' len' body enough => ?_⟩
  rw [MessageKind.badValue, plain, shortPayload_eq_none (empty _) enough]
  simp only [len, List.length_cons] at enough
  refine settles_of_fixed (fun _ => rfl) ?_
  refine Decoder.settles_field Decoder.consumes_u8 (by omega) fun _ => ?_
  refine Decoder.settles_field Decoder.consumes_u8 (by simp; omega) fun _ => ?_
  iterate 2 refine Decoder.settles_field Decoder.consumes_u16 (by simp; omega) fun _ => ?_
  exact Decoder.settles_pure _

theorem judges_features : features.Judges .features := by
  refine ⟨rfl, rfl, fun id len body enough => ?_⟩
  match body, enough with
  | raw :: tail, enough =>
    rw [shortPayload_eq_none rfl enough, Option.or_none]
    simp only [MessageKind.minLength, List.length_cons] at enough
    refine settles_of_fixed (fun _ => rfl) (Decoder.settles_u8 ?_)
    refine Decoder.settles_field (Decoder.consumes_skip 1) (by omega) fun _ => ?_
    refine Decoder.settles_field Decoder.consumes_u32 (by simp; omega) fun _ => ?_
    exact Decoder.settles_enum (FeatureOp.isSome_ofByte? raw) fun _ => Decoder.settles_pure _

theorem judges_bus : bus.Judges .bus := by
  refine ⟨rfl, rfl, fun id len body enough => ?_⟩
  rw [shortPayload_eq_none rfl enough, Option.or_none]
  simp only [MessageKind.minLength, List.length_cons] at enough
  refine settles_of_fixed (fun _ => rfl) ?_
  exact Decoder.settles_field Decoder.consumes_u16 (by omega) fun _ => Decoder.settles_pure _

theorem judges_outcome : outcome.Judges .outcome := by
  refine ⟨rfl, rfl, fun id len body enough => ?_⟩
  match body, enough with
  | code :: tail, enough =>
    rw [shortPayload_eq_none rfl enough, Option.or_none]
    refine settles_of_fixed (fun _ => rfl) ?_
    intro o p
    refine ⟨code.toInt8, p + 1, tail, fun rest => ?_⟩
    exact Decoder.lift_read (Reader.bind_ok (Reader.u8_append o p code (tail ++ rest)))

theorem judges_busReport : busReport.Judges .busReport := by
  refine ⟨rfl, rfl, fun id len body enough => ?_⟩
  match body, enough with
  | flags :: raw :: tail, enough =>
    rw [shortPayload_eq_none rfl enough, Option.or_none]
    simp only [MessageKind.minLength, List.length_cons] at enough
    refine settles_of_fixed (fun _ => rfl) (Decoder.settles_u8 (Decoder.settles_u8 ?_))
    refine Decoder.settles_enum (BusStatus.isSome_ofByte? raw) fun _ => ?_
    refine Decoder.settles_field Decoder.consumes_u32 (by omega) fun _ => ?_
    iterate 2 refine Decoder.settles_field Decoder.consumes_u16 (by simp; omega) fun _ => ?_
    iterate 4 refine Decoder.settles_field Decoder.consumes_u8 (by simp; omega) fun _ => ?_
    exact Decoder.settles_pure _

theorem judges_transmitted : transmitted.Judges .transmitted := by
  refine ⟨rfl, rfl, fun id len body enough => ?_⟩
  rw [shortPayload_eq_none rfl enough, Option.or_none]
  simp only [MessageKind.minLength, List.length_cons] at enough
  refine settles_of_fixed (fun _ => rfl) ?_
  refine Decoder.settles_field Decoder.consumes_u8 (by omega) fun _ => ?_
  refine Decoder.settles_field Decoder.consumes_u8 (by simp; omega) fun _ => ?_
  refine Decoder.settles_field Decoder.consumes_u32 (by simp; omega) fun _ => ?_
  exact Decoder.settles_pure _

theorem judges_busError : busError.Judges .busError := by
  refine ⟨rfl, rfl, fun id len body enough => ?_⟩
  match body, enough with
  | raw :: tail, enough =>
    rw [shortPayload_eq_none rfl enough, Option.or_none]
    simp only [MessageKind.minLength, List.length_cons] at enough
    refine settles_of_fixed (fun _ => rfl) (Decoder.settles_u8 ?_)
    refine Decoder.settles_enum (ErrorCode.isSome_ofByte? raw) fun _ => ?_
    refine Decoder.settles_field Decoder.consumes_u8 (by omega) fun _ => ?_
    refine Decoder.settles_field Decoder.consumes_u32 (by simp; omega) fun _ => ?_
    exact Decoder.settles_pure _

/-! ### Frames -/

/-- the payload length that a length code and a flag byte say -/
def readLength (dlc flags : UInt8) : Nat := if flags &&& 1 = 1 then 0 else dlcLength dlc

/-- a frame with its length code and flags as they are read -/
def readInto (f : Frame) (dlc flags : UInt8) : Frame := { f with dlc := dlc &&& 0x0f, flags := .ofByte flags }

theorem length_readInto (f : Frame) (dlc flags : UInt8) : (readInto f dlc flags).length = readLength dlc flags := by
  have mask : (0x3f : UInt8) &&& 1 = 1 := by decide
  simp only [readInto, readLength, Frame.length, Frame.isRemote, FrameFlags.has, FrameFlags.ofByte, FrameFlags.known,
    FrameFlags.rtr, UInt8.and_assoc, mask, dlcLength_and, beq_iff_eq]

/-- a payload that is not all there is refused before any of it is read -/
theorem readPayload_short {id : UInt8} {fixed len : Nat} {f : Frame} (short : len < fixed + f.length)
    (g : Frame → Decoder α) (r : Reader) :
    (readPayload id fixed len f >>= g) r = .error (.short id (fixed + f.length) len) := by
  simp only [readPayload, short, if_true]
  rfl

/-- a layout that ends with a payload, `rest` being what is left once its length is known -/
theorem settles_payload {len : Nat} {body : Bytes} (p : Nat) (rest : Bytes) (dlc flags : UInt8)
    (frame : ByteOrder → Frame) (wrap : Frame → α)
    (head : ∀ o n more, l.read n (Reader.ofBytes o (body ++ more)) =
      (readPayload l.id l.minLength n (readInto (frame o) dlc flags) >>= fun f => pure (wrap f)) ⟨o, p, rest ++ more⟩)
    (all : l.minLength + rest.length = len) :
    l.Settles len body (if len < l.minLength + readLength dlc flags then
      some (.short l.id (l.minLength + readLength dlc flags) len) else none) := by
  by_cases short : len < l.minLength + readLength dlc flags
  · rw [if_pos short]
    intro o
    rw [← List.append_nil body, head, ← length_readInto (frame o)]
    apply readPayload_short
    rw [length_readInto]
    exact short
  · rw [if_neg short]
    intro o
    have whole : (rest.take (readLength dlc flags)).length = (readInto (frame o) dlc flags).length := by
      rw [length_readInto, List.length_take]
      omega
    refine ⟨wrap { readInto (frame o) dlc flags with data := .ofBytes (rest.take (readLength dlc flags)) }, ?_⟩
    intro more n longer
    have split : rest ++ more =
        rest.take (readLength dlc flags) ++ (rest.drop (readLength dlc flags) ++ more) := by
      rw [← List.append_assoc, List.take_append_drop]
    have enough : l.minLength + (readInto (frame o) dlc flags).length ≤ n := by
      rw [length_readInto]
      omega
    rw [head, split]
    exact ⟨_, Reader.bind_ok (readPayload_append whole enough l.id o p _)⟩

theorem judges_received : received.Judges .received := by
  refine ⟨rfl, rfl, fun id len body enough => ?_⟩
  match body, enough with
  | dlc :: flags :: tail, enough =>
    simp only [MessageKind.minLength, List.length_cons] at enough
    have ident : (tail.take 4).length = 4 := List.length_take_of_le (by omega)
    have stamp : ((tail.drop 4).take 4).length = 4 := List.length_take_of_le (by simp; omega)
    have split (more : Bytes) : tail ++ more = tail.take 4 ++ ((tail.drop 4).take 4 ++ (tail.drop 8 ++ more)) := by
      rw [← List.drop_drop (i := 4) (j := 4), ← List.append_assoc _ _ more, List.take_append_drop,
        ← List.append_assoc, List.take_append_drop]
    refine settles_payload 10 (tail.drop 8) dlc flags (fun o =>
      { Frame.empty with
        id := UInt32.ofNat (o.decode (tail.take 4))
        timestamp := UInt32.ofNat (o.decode ((tail.drop 4).take 4)) }) (fun f => f) ?_ ?_
    · intro o n more
      rw [List.cons_append, List.cons_append, split, bind_pure]
      simp only [received, Reader.ofBytes, Decoder.bind_u8]
      rw [Decoder.bind_read (Reader.u32_read ident _), Decoder.bind_read (Reader.u32_read stamp _)]
      rfl
    · simp [received]
      omega

theorem judges_transmit : transmit.Judges .transmit := by
  refine ⟨rfl, rfl, fun id len body enough => ?_⟩
  match body, enough with
  | dlc :: flags :: tail, enough =>
    simp only [MessageKind.minLength, List.length_cons] at enough
    have ident : (tail.take 4).length = 4 := List.length_take_of_le (by omega)
    obtain ⟨track, gap, rest, behind⟩ : ∃ track gap rest, tail.drop 4 = track :: gap :: rest := by
      have four : 4 < tail.length := by omega
      have five : 4 + 1 < tail.length := by omega
      exact ⟨_, _, _, by rw [List.drop_eq_getElem_cons four, List.drop_eq_getElem_cons five]⟩
    have whole : tail.take 4 ++ track :: gap :: rest = tail := by rw [← behind, List.take_append_drop]
    have split (more : Bytes) : tail ++ more = tail.take 4 ++ (track :: ([gap] ++ (rest ++ more))) := by
      rw [← congrArg (· ++ more) whole]
      simp only [List.append_assoc, List.cons_append, List.nil_append]
    have one : [gap].length = 1 := rfl
    refine settles_payload 8 rest dlc flags (fun o =>
      { Frame.empty with id := UInt32.ofNat (o.decode (tail.take 4)) }) (fun f => ⟨f, track⟩) ?_ ?_
    · intro o n more
      rw [List.cons_append, List.cons_append, split]
      simp only [transmit, Reader.ofBytes, Decoder.bind_u8]
      rw [Decoder.bind_read (Reader.u32_read ident _), Decoder.bind_u8, Decoder.bind_skip one]
      rfl
    · have left := congrArg List.length behind
      simp [transmit] at left ⊢
      omega

/-! ### Header and fields -/

/-- a decoder goes by the verdict of its kind, and what it accepts it reads the same with anything behind -/
theorem decode_judged (h : l.Judges k) (o : ByteOrder) (b : Bytes) :
    match k.complaint b with
    | some e => l.decode o b = .error e
    | none => ∃ a, ∀ more, l.decode o (b ++ more) = .ok a := by
  match b with
  | [] => rfl
  | [_] => rfl
  | id :: len :: body =>
    have header : ¬(id :: len :: body).length < headerLength := by simp [headerLength]
    rw [MessageKind.complaint, if_neg header, List.getD_cons_zero]
    by_cases other : id ≠ k.id
    · have other' : id ≠ l.id := h.id ▸ other
      rw [if_pos other]
      exact if_pos other'
    have same : ¬id ≠ l.id := h.id ▸ other
    by_cases short : (id :: len :: body).length < k.minLength
    · have short' : (id :: len :: body).length < l.minLength := h.minLength ▸ short
      rw [if_neg other, if_pos short, decode, if_neg same, if_pos short', h.id, h.minLength]
    rw [if_neg other, if_neg short]
    have enough := Nat.le_of_not_lt short
    have read (more : Bytes) : l.decode o (id :: len :: body ++ more) =
        (l.read ((id :: len :: body) ++ more).length).run' (Reader.ofBytes o (body ++ more)) := by
      have enough' : ¬((id :: len :: body) ++ more).length < l.minLength := by
        rw [h.minLength, List.length_append]
        omega
      rw [List.cons_append, List.cons_append] at enough' ⊢
      rw [decode, if_neg same, if_neg enough']
    have verdict := h.fields id len body enough
    cases wrong : (k.badValue (id :: len :: body)).or (k.shortPayload (id :: len :: body)) with
    | some e =>
      rw [wrong] at verdict
      have refused := read []
      rw [List.append_nil, List.append_nil, StateT.run', verdict o] at refused
      exact refused
    | none =>
      rw [wrong] at verdict
      obtain ⟨a, accepted⟩ := verdict o
      refine ⟨a, fun more => ?_⟩
      have longer : (id :: len :: body).length ≤ ((id :: len :: body) ++ more).length := by
        rw [List.length_append]
        exact Nat.le_add_right ..
      obtain ⟨r, value⟩ := accepted more _ longer
      rw [read, StateT.run', value]
      rfl

/-- the length byte is not looked at -/
theorem decode_set (l : Layout α) (o : ByteOrder) (b : Bytes) (x : UInt8) : l.decode o (b.set 1 x) = l.decode o b := by
  match b with
  | [] => rfl
  | [_] => rfl
  | _ :: _ :: _ => rfl

/-- and so does a message made of what the layout reads -/
theorem map_judged (f : α → Message) (h : l.Judges k) (o : ByteOrder) (b : Bytes) :
    match k.complaint b with
    | some e => f <$> l.decode o b = .error e
    | none => ∃ m, ∀ more, f <$> l.decode o (b ++ more) = .ok m := by
  have judged := decode_judged h o b
  cases wrong : k.complaint b with
  | some e =>
    simp only [wrong] at judged ⊢
    rw [judged]
    rfl
  | none =>
    simp only [wrong] at judged ⊢
    obtain ⟨a, accepted⟩ := judged
    refine ⟨f a, fun more => ?_⟩
    rw [accepted]
    rfl

end Layout

/-! ## Messages -/

namespace MessageKind

theorem decode_judged (k : MessageKind) (o : ByteOrder) (b : Bytes) :
    match k.complaint b with
    | some e => k.decode o b = .error e
    | none => ∃ m, ∀ more, k.decode o (b ++ more) = .ok m := by
  cases k with
  | hello => exact Layout.map_judged _ (Layout.judges_bare rfl rfl rfl fun _ => rfl) o b
  | greeting => exact Layout.map_judged _ Layout.judges_greeting o b
  | deviceInfoRequest => exact Layout.map_judged _ (Layout.judges_bare rfl rfl rfl fun _ => rfl) o b
  | deviceInfo => exact Layout.map_judged _ Layout.judges_deviceInfo o b
  | canInfoRequest => exact Layout.map_judged _ (Layout.judges_bare rfl rfl rfl fun _ => rfl) o b
  | canInfo => exact Layout.map_judged _ Layout.judges_canInfo o b
  | nominalTiming => exact Layout.map_judged _ (Layout.judges_timing rfl rfl rfl fun _ => rfl) o b
  | dataTiming => exact Layout.map_judged _ (Layout.judges_timing rfl rfl rfl fun _ => rfl) o b
  | features => exact Layout.map_judged _ Layout.judges_features o b
  | bus => exact Layout.map_judged _ Layout.judges_bus o b
  | outcome => exact Layout.map_judged _ Layout.judges_outcome o b
  | busReport => exact Layout.map_judged _ Layout.judges_busReport o b
  | received => exact Layout.map_judged _ Layout.judges_received o b
  | transmit => exact Layout.map_judged _ Layout.judges_transmit o b
  | transmitted => exact Layout.map_judged _ Layout.judges_transmitted o b
  | busError => exact Layout.map_judged _ Layout.judges_busError o b

theorem decode_set (k : MessageKind) (o : ByteOrder) (b : Bytes) (x : UInt8) :
    k.decode o (b.set 1 x) = k.decode o b := by
  cases k <;> exact congrArg (Functor.map _) (Layout.decode_set _ o b x)

/-- the verdict is never that a read ran past the end -/
theorem complaint_ne_cursor (k : MessageKind) (b : Bytes) (e : OutOfBounds) : k.complaint b ≠ some (.cursor e) := by
  have value : k.badValue b ≠ some (.cursor e) := by
    unfold badValue
    cases k.enumerated? with
    | none => simp
    | some field =>
      simp only [Option.bind_some]
      split <;> simp
  have payload : k.shortPayload b ≠ some (.cursor e) := by
    unfold shortPayload
    split <;> simp
  unfold complaint
  split
  · simp
  split
  · simp
  split
  · simp
  · intro wrong
    rcases Option.or_eq_some_iff.1 wrong with bad | ⟨-, short⟩
    · exact value bad
    · exact payload short

/-- **Acceptance.** Whatever the bytes and the order, a decoder answers with what is first wrong about them as a
message of its kind, and reads them where nothing is wrong. So no read of a field runs past the end; the length byte
makes no difference, and neither does anything behind bytes that are accepted. -/
theorem decode_settled (k : MessageKind) (o : ByteOrder) (b : Bytes) :
    (∀ e, k.decode o b = .error e ↔ k.complaint b = some e) ∧
    ((∃ m, k.decode o b = .ok m) ↔ k.complaint b = none) ∧
    (∀ e, k.decode o b ≠ .error (.cursor e)) ∧
    (∀ x, k.decode o (b.set 1 x) = k.decode o b) ∧
    ∀ m more, k.decode o b = .ok m → k.decode o (b ++ more) = .ok m := by
  have judged := k.decode_judged o b
  have noCursor := k.complaint_ne_cursor b
  cases wrong : k.complaint b with
  | some e =>
    simp only [wrong] at judged noCursor
    refine ⟨?_, ?_, ?_, k.decode_set o b, ?_⟩
    · intro e'
      rw [judged, Except.error.injEq, Option.some.injEq]
    · simp [judged]
    · intro c h
      rw [judged] at h
      exact noCursor c (congrArg some (Except.error.inj h))
    · intro m more h
      rw [judged] at h
      cases h
  | none =>
    simp only [wrong] at judged
    obtain ⟨m, accepted⟩ := judged
    have read := accepted []
    rw [List.append_nil] at read
    refine ⟨?_, ?_, ?_, k.decode_set o b, ?_⟩
    · simp [read]
    · simp [read]
    · simp [read]
    · intro m' more h
      rw [read] at h
      cases h
      exact accepted more

/-- a transmit request for eight bytes of which seven are there, under a length byte that is far too long -/
def cutRequest : Bytes := [0x12, 0xff, 0x08, 0, 0, 0, 0, 5, 9, 0, 1, 2, 3, 4, 5, 6, 7]

theorem cutRequest_settled : transmit.decode .big cutRequest = .error (.short 0x12 18 17) ∧
    ∃ m, ∀ more, transmit.decode .big ((cutRequest ++ [8]) ++ more) = .ok m := by
  obtain ⟨refused, -⟩ := decode_settled .transmit .big cutRequest
  obtain ⟨-, accepted, -, -, same⟩ := decode_settled .transmit .big (cutRequest ++ [8])
  obtain ⟨m, read⟩ := accepted.2 (by decide)
  exact ⟨(refused _).2 (by decide), m, fun more => same m more read⟩

end MessageKind

end CanAdapter
