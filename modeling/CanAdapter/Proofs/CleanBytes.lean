/-
What a message leaves in the buffer it is written to. The banks it is written to are used again and again, so a byte
that a message skipped would still hold what some earlier message put there. None is skipped: reserved fields, the
room that a text does not fill and the padding at the end are zero, whatever the buffer held.

- `Message.blanks`: where these bytes are, in each kind of message.
- `getElem?_layBytes`: a byte of one write, found among the bytes of all of them.
- `Message.written_whole`: a message takes its length, under a header that says so, or nothing at all where the buffer
  is shorter than that; its bytes depend on the message and the order only, and what is behind them stays.
-/
import CanAdapter.Message.Encoding

namespace CanAdapter

/-- only zeros from one index up to another -/
def ZeroWithin (bytes : Bytes) (start stop : Nat) : Prop := ∀ i, start ≤ i → i < stop → bytes[i]? = some 0

/-! ## One write among many -/

/-- a byte of one write, at its place among the bytes of all -/
theorem getElem?_layBytes {o : ByteOrder} {pos start : Nat} {before after : List WriteOp} {op : WriteOp}
    (starts : (layBytes o pos before).length = start) {i : Nat} {b : UInt8} (behind : start ≤ i)
    (h : (op.bytes o (pos + start))[i - start]? = some b) : (layBytes o pos (before ++ op :: after))[i]? = some b := by
  obtain ⟨inside, -⟩ := List.getElem?_eq_some_iff.1 h
  subst starts
  rw [layBytes_append, layBytes, List.getElem?_append_right behind, List.getElem?_append_left inside, h]

/-- the room behind a text -/
theorem Layout.zeroWithin_padded {room : Nat} {text : Bytes} :
    ZeroWithin (Layout.padded room text) text.length room := by
  intro i behind before
  rw [padded, List.getElem?_append_right behind, List.getElem?_replicate, if_pos (by omega)]

namespace Packet

variable {p : Packet} {o : ByteOrder} {k start stop : Nat}

/-- a byte of the field that the `k`-th write lays down; `start` is where the fields before it end -/
theorem getElem?_encode {op : WriteOp} (field : p.body[k]? = some op)
    (starts : headerLength + (layBytes o headerLength (p.body.take k)).length = start) {i : Nat} {b : UInt8}
    (behind : start ≤ i) (h : (op.bytes o start)[i - start]? = some b) : (p.encode o)[i]? = some b := by
  obtain ⟨inside, rfl⟩ := List.getElem?_eq_some_iff.1 field
  have body : p.body.take k ++ p.body[k] :: p.body.drop (k + 1) = p.body := by
    rw [← List.drop_eq_getElem_cons inside, List.take_append_drop]
  have script : p.script = ([.u8 p.id, .u8 (UInt8.ofNat p.wireLength)] ++ p.body.take k) ++
      p.body[k] :: (p.body.drop (k + 1) ++ [.padTo lengthUnit]) := by
    rw [Packet.script, ← congrArg (_ ++ · ++ _) body]
    simp only [List.append_assoc, List.cons_append]
  have front : (layBytes o 0 ([.u8 p.id, .u8 (UInt8.ofNat p.wireLength)] ++ p.body.take k)).length = start := by
    rw [layBytes_append, List.length_append, ← starts]
    rfl
  rw [encode, script]
  exact getElem?_layBytes front behind ((Nat.zero_add start).symm ▸ h)

/-- a reserved field is zero -/
theorem zeroWithin_gap {n : Nat} (field : p.body[k]? = some (.gap n))
    (starts : headerLength + (layBytes o headerLength (p.body.take k)).length = start) (stops : start + n = stop) :
    ZeroWithin (p.encode o) start stop := by
  intro i behind before
  apply getElem?_encode field starts behind
  rw [WriteOp.bytes, List.getElem?_replicate, if_pos (by omega)]

/-- and so is the room behind a text -/
theorem zeroWithin_text {room : Nat} {text : Bytes} (field : p.body[k]? = some (.slice (Layout.padded room text)))
    (starts : headerLength + (layBytes o headerLength (p.body.take k)).length = start) (stops : start + room = stop) :
    ZeroWithin (p.encode o) (start + text.length) stop := by
  intro i behind before
  apply getElem?_encode field starts (by omega)
  exact Layout.zeroWithin_padded _ (by omega) (by omega)

theorem zeroWithin_padding (h : p.Fits) (o : ByteOrder) : ZeroWithin (p.encode o) p.size p.wireLength := by
  intro i behind before
  have fields := h o
  have padding : p.size + paddingTo lengthUnit p.size = p.wireLength := paddingTo_eq p.size
  have front : ([p.id, UInt8.ofNat p.wireLength] ++ layBytes o headerLength p.body).length = p.size := by
    rw [List.length_append, ← fields, Nat.add_comm]
    rfl
  rw [encode_eq, fields, List.getElem?_append_right (front.symm ▸ behind), front, List.getElem?_replicate,
    if_pos (by omega)]

end Packet

/-! ## Messages -/

namespace Message

/-- where a message has nothing to say, from one index up to another: its reserved fields, the room behind its texts,
the data limits of a controller without a data phase, and the padding -/
def blanks (m : Message) : List (Nat × Nat) :=
  (m.packet.size, m.wireLength) ::
    match m with
    | greeting _ => [(6, 8)]
    | deviceInfo i => [(10 + i.serial.length, 26), (27 + i.name.length, 59), (59, 60)]
    | canInfo i => if i.data.isNone then [(21, 28)] else []
    | features _ | outcome _ => [(3, 4)]
    | transmit _ => [(9, 10)]
    | _ => []

theorem zeroWithin_blanks (m : Message) (o : ByteOrder) :
    ∀ blank ∈ m.blanks, ZeroWithin (m.encode o) blank.1 blank.2 := by
  refine List.forall_mem_cons.2 ⟨Packet.zeroWithin_padding m.fits_packet o, ?_⟩
  cases m with
  | greeting g =>
    refine List.forall_mem_singleton.2 (Packet.zeroWithin_gap (k := 3) rfl ?_ rfl)
    simp [packet, Layout.packet, Layout.greeting, layBytes, headerLength, WriteOp.size]
  | deviceInfo i =>
    have serial : (Layout.padded serialRoom i.serial).length = 16 := Layout.length_padded i.serial_le
    have name : (Layout.padded nameRoom i.name).length = 32 := Layout.length_padded i.name_le
    refine List.forall_mem_cons.2 ⟨?_, List.forall_mem_cons.2 ⟨?_, List.forall_mem_singleton.2 ?_⟩⟩
    · refine Packet.zeroWithin_text (k := 6) rfl ?_ rfl
      simp [packet, Layout.packet, Layout.deviceInfo, layBytes, headerLength, WriteOp.size]
    · refine Packet.zeroWithin_text (k := 8) rfl ?_ rfl
      simp [packet, Layout.packet, Layout.deviceInfo, layBytes, headerLength, WriteOp.size, serial]
    · refine Packet.zeroWithin_gap (k := 9) rfl ?_ rfl
      simp [packet, Layout.packet, Layout.deviceInfo, layBytes, headerLength, WriteOp.size, serial, name]
  | canInfo i =>
    cases data : i.data with
    | none =>
      have gap : (canInfo i).packet.body[11]? = some (.gap 7) := by
        simp [packet, Layout.packet, Layout.canInfo, data]
      simp only [data, Option.isNone_none, if_true]
      refine List.forall_mem_singleton.2 (Packet.zeroWithin_gap gap ?_ rfl)
      simp [packet, Layout.packet, Layout.canInfo, layBytes, headerLength, WriteOp.size]
    | some d =>
      simp only [data, Option.isNone_some, Bool.false_eq_true, if_false]
      exact List.forall_mem_nil _
  | features r =>
    refine List.forall_mem_singleton.2 (Packet.zeroWithin_gap (k := 1) rfl ?_ rfl)
    simp [packet, Layout.packet, Layout.features, layBytes, headerLength, WriteOp.size]
  | outcome code =>
    refine List.forall_mem_singleton.2 (Packet.zeroWithin_gap (k := 1) rfl ?_ rfl)
    simp [packet, Layout.packet, Layout.outcome, layBytes, headerLength, WriteOp.size]
  | transmit r =>
    refine List.forall_mem_singleton.2 (Packet.zeroWithin_gap (k := 4) rfl ?_ rfl)
    simp [packet, Layout.packet, Layout.transmit, layBytes, headerLength, WriteOp.size]
  | _ => exact List.forall_mem_nil _

/-- the length byte holds every length -/
theorem toNat_wireLength (m : Message) : (UInt8.ofNat m.wireLength).toNat = m.wireLength := by
  have most := m.wireLength_le.2
  rw [UInt8.toNat_ofNat']
  apply Nat.mod_eq_of_lt
  apply Nat.lt_of_le_of_lt most
  decide

/-- **Clean bytes.** A message is written to any buffer that has its length, and to no other: a shorter one is left as it
was and the answer says how much was asked for. What is written is the message's bytes, the same whatever the buffer
held, with its id, then its length, and zeros wherever it has nothing to say; what is behind them stays. -/
theorem written_whole (m : Message) (o : ByteOrder) :
    (∀ buffer, m.writeTo o buffer =
      if buffer.length < m.wireLength then (.error (.cursor ⟨m.wireLength, buffer.length⟩), buffer)
      else (.ok m.wireLength, m.encode o ++ buffer.drop m.wireLength)) ∧
    (m.encode o).length = m.wireLength ∧
    (m.encode o)[0]? = some m.kind.id ∧
    (∃ len : UInt8, (m.encode o)[1]? = some len ∧ len.toNat = m.wireLength) ∧
    (4 ∣ m.wireLength ∧ 4 ≤ m.wireLength ∧ m.wireLength ≤ 76) ∧
    ∀ blank ∈ m.blanks, ZeroWithin (m.encode o) blank.1 blank.2 := by
  have header : m.encode o = [m.packet.id, UInt8.ofNat m.wireLength] ++ _ ++ _ := m.packet.encode_eq o
  refine ⟨?_, m.length_encode o, ?_, ⟨UInt8.ofNat m.wireLength, ?_, m.toNat_wireLength⟩, ?_, m.zeroWithin_blanks o⟩
  · intro buffer
    by_cases short : buffer.length < m.wireLength
    · rw [if_pos short]
      exact Packet.writeTo_of_short short
    · rw [if_neg short]
      exact m.writeTo_of_room o (Nat.le_of_not_lt short)
  · rw [header, m.id_kind]
    rfl
  · rw [header]
    rfl
  · exact ⟨dvd_alignLength _, m.wireLength_le⟩

/-- a transmit request with one byte of data, so that there is a reserved byte before it and a padding byte behind -/
def oneByteRequest : Message := .transmit ⟨⟨5, 1, .empty, .ofBytes [0xab], 0⟩, 9⟩

theorem oneByteRequest_written :
    oneByteRequest.writeTo .big (List.replicate 14 0xaa) = (.ok 12, oneByteRequest.encode .big ++ [0xaa, 0xaa]) ∧
    oneByteRequest.writeTo .big (List.replicate 11 0xaa) = (.error (.cursor ⟨12, 11⟩), List.replicate 11 0xaa) ∧
    ZeroWithin (oneByteRequest.encode .big) 9 10 ∧ ZeroWithin (oneByteRequest.encode .big) 11 12 := by
  obtain ⟨written, -, -, -, -, clean⟩ := oneByteRequest.written_whole .big
  refine ⟨?_, ?_, clean (9, 10) (by decide), clean (11, 12) (by decide)⟩
  · rw [written]
    rfl
  · rw [written]
    rfl

end Message

end CanAdapter
