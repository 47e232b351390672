/-
Writing messages. The fields of a message are exactly as long as its layout says, so a buffer that has room for the
whole message takes it, and then holds the message's bytes in front of what it held before.

`length_encode`: a message is as long on the wire as it says. `writeTo_of_room`: a buffer with room holds the message
and, after it, its old content. `wireLength_le`: no message is longer than 76 bytes, so the length byte holds every
length.
-/
import CanAdapter.Message.Format

namespace CanAdapter

/-! ## Scripts of writes -/

theorem layBytes_append (o : ByteOrder) (pos : Nat) (a b : List WriteOp) :
    layBytes o pos (a ++ b) = layBytes o pos a ++ layBytes o (pos + (layBytes o pos a).length) b := by
  induction a generalizing pos with
  | nil => simp [layBytes]
  | cons op a ih => simp [layBytes, ih, Nat.add_assoc]

/-- writes that fit are all done, and leave the bytes they stand for in front of the rest -/
theorem Writer.writeAll_of_room (ops : List WriteOp) (w : Writer)
    (h : (layBytes w.order w.pos ops).length ≤ w.rest.length) :
    Writer.writeAll ops w = (.ok (), ⟨w.order, w.written ++ layBytes w.order w.pos ops,
      w.rest.drop (layBytes w.order w.pos ops).length⟩) := by
  induction ops generalizing w with
  | nil => simp [writeAll, layBytes]
  | cons op ops ih =>
    simp only [layBytes, List.length_append, WriteOp.length_bytes] at h
    have fits : op.size w.pos ≤ w.rest.length := by omega
    have next : pos ⟨w.order, w.written ++ op.bytes w.order w.pos, w.rest.drop (op.size w.pos)⟩ =
        w.pos + op.size w.pos := by simp [pos]
    rw [writeAll, write, if_pos fits]
    simp only
    rw [ih _ (by simp only [next, List.length_drop]; omega)]
    simp only [next, layBytes, List.append_assoc, List.drop_drop, List.length_append, WriteOp.length_bytes]

/-! ## Packets -/

namespace Packet

/-- the writes of the fields are as long as the packet says -/
def Fits (p : Packet) : Prop := ∀ o, (layBytes o headerLength p.body).length + headerLength = p.size

theorem paddingTo_eq (n : Nat) : n + paddingTo lengthUnit n = alignLength n := by
  unfold paddingTo alignLength lengthUnit
  split <;> omega

theorem encode_eq (p : Packet) (o : ByteOrder) :
    p.encode o = [p.id, UInt8.ofNat p.wireLength] ++ layBytes o headerLength p.body ++
      List.replicate (paddingTo lengthUnit ((layBytes o headerLength p.body).length + headerLength)) 0 := by
  rw [encode, script]
  generalize UInt8.ofNat p.wireLength = len
  simp [layBytes, layBytes_append, WriteOp.bytes, WriteOp.size, headerLength, Nat.add_comm]

theorem length_encode {p : Packet} (h : p.Fits) (o : ByteOrder) : (p.encode o).length = p.wireLength := by
  have := h o
  rw [encode_eq, wireLength, ← this, ← paddingTo_eq]
  simp [headerLength]
  omega

theorem writeTo_of_room {p : Packet} (h : p.Fits) (o : ByteOrder) {buffer : Bytes}
    (room : p.wireLength ≤ buffer.length) :
    p.writeTo o buffer = (.ok p.wireLength, p.encode o ++ buffer.drop p.wireLength) := by
  have len : (layBytes o 0 p.script).length = p.wireLength := length_encode h o
  rw [writeTo, if_neg (by omega), Writer.writeAll_of_room]
  · simp only [Writer.ofBuffer, Writer.pos, Writer.buffer, List.nil_append, List.length_nil, len, encode]
    simp
  · simp only [Writer.ofBuffer, Writer.pos, List.length_nil, len, List.length_take]
    omega

end Packet

/-! ## Messages -/

theorem Layout.length_padded {room : Nat} {text : Bytes} (h : text.length ≤ room) :
    (Layout.padded room text).length = room := by
  simp only [padded, List.length_append, List.length_replicate]
  omega

namespace Message

theorem fits_packet (m : Message) : m.packet.Fits := by
  intro o
  cases m with
  | deviceInfo i =>
    have serial := Layout.length_padded i.serial_le
    have name := Layout.length_padded i.name_le
    simp only [serialRoom, nameRoom] at serial name
    simp [packet, Layout.packet, Layout.deviceInfo, layBytes, WriteOp.size, headerLength, serialRoom, nameRoom,
      serial, name]
  | canInfo i =>
    cases h : i.data <;>
      simp [packet, Layout.packet, Layout.canInfo, layBytes, WriteOp.size, headerLength, h]
  | bus on => simp [packet, Layout.packet, Layout.bus, layBytes, WriteOp.size, headerLength]
  | received f =>
    simp [packet, Layout.packet, Layout.received, layBytes, WriteOp.size, headerLength]
    omega
  | transmit r =>
    simp [packet, Layout.packet, Layout.transmit, layBytes, WriteOp.size, headerLength]
    omega
  | _ =>
    simp [packet, Layout.packet, Layout.bare, Layout.greeting, Layout.nominalTiming, Layout.dataTiming, Layout.timing,
      Layout.features, Layout.outcome, Layout.busReport, Layout.transmitted, Layout.busError, layBytes, WriteOp.size,
      headerLength]

theorem length_encode (m : Message) (o : ByteOrder) : (m.encode o).length = m.wireLength :=
  Packet.length_encode m.fits_packet o

theorem writeTo_of_room (m : Message) (o : ByteOrder) {buffer : Bytes} (room : m.wireLength ≤ buffer.length) :
    m.writeTo o buffer = (.ok m.wireLength, m.encode o ++ buffer.drop m.wireLength) :=
  Packet.writeTo_of_room m.fits_packet o room

theorem wireLength_le (m : Message) : 4 ≤ m.wireLength ∧ m.wireLength ≤ maxCanMessage := by
  cases m with
  | received f =>
    have := f.length_le
    simp only [wireLength, packet, Layout.packet, Layout.received, Packet.wireLength, alignLength, lengthUnit,
      maxCanMessage, maxPayload] at *
    omega
  | transmit r =>
    have := r.frame.length_le
    simp only [wireLength, packet, Layout.packet, Layout.transmit, Packet.wireLength, alignLength, lengthUnit,
      maxCanMessage, maxPayload] at *
    omega
  | _ =>
    simp [wireLength, packet, Layout.packet, Layout.bare, Layout.greeting, Layout.nominalTiming, Layout.dataTiming,
      Layout.timing, Layout.features, Layout.bus, Layout.outcome, Layout.busReport, Layout.transmitted, Layout.busError,
      Layout.deviceInfo, Layout.canInfo, Packet.wireLength, alignLength, lengthUnit, headerLength, maxCanMessage,
      maxPayload]

end Message

end CanAdapter
