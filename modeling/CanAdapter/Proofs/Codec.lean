/-
The two ways through the codec. A message that was written is read as its normal form, and a message that was read, off
whatever bytes, is in normal form already: what the wire has no room for cannot come back from it. So writing and
reading again is the identity on all that was ever read.

`Decoder.Yields P d` says that every value that `d` returns satisfies `P`, with one lemma for each layout that drops
something. `normal_of_decode` collects them; `Message.wire_round_trip` is both ways, for every kind of message.
-/
import CanAdapter.Proofs.RoundTrip

namespace CanAdapter

/-! ## What a decoder returns -/

/-- every value that a decoder returns satisfies `P` -/
def Decoder.Yields {α : Type} (P : α → Prop) (d : Decoder α) : Prop := ∀ r a r', d r = .ok (a, r') → P a

namespace Decoder

variable {α β : Type} {P : α → Prop} {Q : β → Prop}

theorem yields_pure {a : α} (h : P a) : Yields P (pure a : Decoder α) := by
  intro r b r' hb
  cases hb
  exact h

/-- a decoder that fails returns nothing -/
theorem yields_throw (e : WireError) : Yields (fun _ => False) (throw e : Decoder α) := fun _ _ _ h => nomatch h

theorem yields_bind {x : Decoder β} {f : β → Decoder α} (hx : x.Yields Q) (hf : ∀ b, Q b → (f b).Yields P) :
    (x >>= f).Yields P := by
  intro r a r' h
  obtain ⟨⟨b, r₁⟩, first, rest⟩ := Checked.bind_eq_ok.1 h
  exact hf b (hx r b r₁ first) r₁ a r' rest

/-- whatever a field is read as -/
theorem yields_field {x : Decoder β} {f : β → Decoder α} (hf : ∀ b, (f b).Yields P) : (x >>= f).Yields P :=
  yields_bind (Q := fun _ => True) (fun _ _ _ _ => trivial) fun b _ => hf b

theorem yields_take (n : Nat) : Yields (fun bytes => bytes.length = n) (liftM (Reader.take n) : Decoder Bytes) := by
  intro r bytes r' h
  have lifted : (liftM (Reader.take n) : Decoder Bytes) r = (Reader.take n r).mapError .cursor := rfl
  rw [lifted] at h
  unfold Reader.take at h
  split at h
  · rename_i enough
    cases h
    exact List.length_take_of_le enough
  · cases h

end Decoder

/-! ## Layouts -/

/-- a frame whose cells hold a payload of the length that its code says -/
theorem Frame.payload_ofBytes {f : Frame} {payload : Bytes} (h : payload.length = f.length) :
    ({ f with data := .ofBytes payload } : Frame).payload = payload := by
  have same : ({ f with data := .ofBytes payload } : Frame).length = f.length := rfl
  have fits := f.length_le
  rw [Frame.payload, same, ← h]
  simp only [FrameData.ofBytes, List.take_take]
  rw [Nat.min_eq_left (h ▸ fits)]
  exact List.take_left

namespace Layout

variable {α : Type} {P : α → Prop}

theorem yields_decode {l : Layout α} (h : ∀ len, (l.read len).Yields P) {o : ByteOrder} {bytes : Bytes} {a : α}
    (hd : l.decode o bytes = .ok a) : P a := by
  unfold decode at hd
  split at hd
  · split at hd
    · cases hd
    · split at hd
      · cases hd
      · obtain ⟨⟨b, r⟩, read, rfl⟩ := Checked.map_eq_ok.1 hd
        exact h _ _ _ _ read
  · cases hd

theorem yields_deviceInfo (len : Nat) : (deviceInfo.read len).Yields fun i =>
    Features.ofWord i.permanent.bits = i.permanent ∧ Features.ofWord i.configurable.bits = i.configurable := by
  refine Decoder.yields_field fun permanent => Decoder.yields_field fun configurable => ?_
  iterate 7 refine Decoder.yields_field fun _ => ?_
  exact Decoder.yields_pure ⟨Features.ofWord_bits permanent, Features.ofWord_bits configurable⟩

theorem yields_canInfo (len : Nat) : (canInfo.read len).Yields fun i =>
    i.nominal.normalNominal = i.nominal ∧ i.data.bind (·.normalData) = i.data := by
  iterate 12 refine Decoder.yields_field fun _ => ?_
  refine Decoder.yields_field fun maxBrp => ?_
  iterate 5 refine Decoder.yields_field fun _ => ?_
  refine Decoder.yields_pure ⟨rfl, ?_⟩
  -- a data phase is read only where its upper prescaler limit is not zero
  by_cases none : maxBrp = 0
  · simp [none]
  · simp [none, TimingRange.normalData]

theorem yields_busReport (len : Nat) : (busReport.read len).Yields fun r =>
    StatusFlags.ofByte r.flags.bits = r.flags := by
  refine Decoder.yields_field fun flags => ?_
  iterate 9 refine Decoder.yields_field fun _ => ?_
  exact Decoder.yields_pure (StatusFlags.ofByte_bits flags)

/-- a payload is read into a frame whose code and flags are normal -/
theorem yields_readPayload {id : UInt8} {fixed len : Nat} {f : Frame} (dlc : f.dlc &&& 0x0f = f.dlc)
    (flags : FrameFlags.ofByte f.flags.bits = f.flags) :
    (readPayload id fixed len f).Yields fun g => g.normal = g ∧ g.timestamp = f.timestamp := by
  unfold readPayload
  split
  · exact Decoder.yields_bind (Decoder.yields_throw _) fun _ none => none.elim
  · refine Decoder.yields_bind (Decoder.yields_take _) fun payload exact => ?_
    refine Decoder.yields_pure ⟨?_, rfl⟩
    rw [Frame.normal, Frame.payload_ofBytes exact]
    simp only [dlc, flags]

theorem yields_received (len : Nat) : (received.read len).Yields fun f => f.normal = f := by
  refine Decoder.yields_field fun dlc => Decoder.yields_field fun flags => ?_
  iterate 2 refine Decoder.yields_field fun _ => ?_
  intro r f r' h
  exact (yields_readPayload (by simp [UInt8.and_assoc]) (FrameFlags.ofByte_bits flags) r f r' h).1

theorem yields_transmit (len : Nat) : (transmit.read len).Yields fun r =>
    r.frame.normal = r.frame ∧ r.frame.timestamp = 0 := by
  refine Decoder.yields_field fun dlc => Decoder.yields_field fun flags => ?_
  iterate 3 refine Decoder.yields_field fun _ => ?_
  refine Decoder.yields_bind
    (yields_readPayload (by simp [UInt8.and_assoc]) (FrameFlags.ofByte_bits flags)) fun f normal => ?_
  exact Decoder.yields_pure normal

theorem yields_transmitted (len : Nat) : (transmitted.read len).Yields fun r =>
    FrameFlags.ofByte r.flags.bits = r.flags := by
  refine Decoder.yields_field fun _ => Decoder.yields_field fun flags => ?_
  refine Decoder.yields_field fun _ => ?_
  exact Decoder.yields_pure (FrameFlags.ofByte_bits flags)

end Layout

/-! ## Messages -/

namespace MessageKind

/-- the kinds of message of which the wire keeps everything -/
def lossless : List MessageKind :=
  [.hello, .deviceInfoRequest, .canInfoRequest, .greeting, .nominalTiming, .dataTiming, .features, .bus, .outcome,
    .busError]

end MessageKind

namespace Message

theorem normal_of_lossless {m : Message} (h : m.kind ∈ MessageKind.lossless) : m.normal = m := by
  cases m with
  | deviceInfo | canInfo | busReport | received | transmit | transmitted =>
    exact absurd h (by simp [kind, MessageKind.lossless])
  | _ => rfl

/-- a message that was read is of the kind that was asked for, and in normal form -/
theorem normal_of_decode {k : MessageKind} {o : ByteOrder} {bytes : Bytes} {m : Message}
    (h : k.decode o bytes = .ok m) : m.kind = k ∧ m.normal = m := by
  cases k <;> obtain ⟨a, read, rfl⟩ := Checked.map_eq_ok.1 h <;> refine ⟨rfl, ?_⟩
  case deviceInfo =>
    obtain ⟨permanent, configurable⟩ := Layout.yields_decode Layout.yields_deviceInfo read
    simp only [normal, permanent, configurable]
  case canInfo =>
    obtain ⟨nominal, data⟩ := Layout.yields_decode Layout.yields_canInfo read
    simp only [normal, nominal, data]
  case busReport => simp only [normal, Layout.yields_decode Layout.yields_busReport read]
  case received => simp only [normal, Layout.yields_decode Layout.yields_received read]
  case transmit =>
    obtain ⟨frame, timestamp⟩ := Layout.yields_decode Layout.yields_transmit read
    simp only [normal, frame, ← timestamp]
  case transmitted => simp only [normal, Layout.yields_decode Layout.yields_transmitted read]
  all_goals rfl

/-- **Round trip.** A message of any kind, written to the front of any buffer with room for it, takes its length there,
and these bytes are read as its normal form; a kind that is lossless is its own. Whatever bytes are read as a message,
the message is in normal form, and written and read again it is the same. -/
theorem wire_round_trip (o : ByteOrder) :
    (∀ (m : Message) (buffer : Bytes), m.wireLength ≤ buffer.length →
      ∃ buffer', m.writeTo o buffer = (.ok m.wireLength, buffer') ∧
        m.kind.decode o (buffer'.take m.wireLength) = .ok m.normal) ∧
    (∀ m : Message, m.kind ∈ MessageKind.lossless → m.normal = m) ∧
    ∀ (k : MessageKind) (bytes : Bytes) (m : Message), k.decode o bytes = .ok m →
      m.kind = k ∧ m.normal = m ∧ k.decode o (m.encode o) = .ok m := by
  refine ⟨?_, fun m => normal_of_lossless, ?_⟩
  · intro m buffer room
    refine ⟨_, m.writeTo_of_room o room, ?_⟩
    have written : (m.encode o ++ buffer.drop m.wireLength).take m.wireLength = m.encode o :=
      List.take_left' (m.length_encode o)
    have read := m.decode_encode o []
    rw [List.append_nil] at read
    rw [written, read]
  · intro k bytes m h
    obtain ⟨rfl, normal⟩ := normal_of_decode h
    have again := m.decode_encode o []
    rw [List.append_nil, normal] at again
    exact ⟨rfl, normal, again⟩

/-- a frame with a code and flags beyond those that mean anything, and with data in all its cells -/
def noisyFrame : Frame := ⟨5, 0x29, ⟨0xc6⟩, .ofBytes (List.replicate 64 0xab), 7⟩

/-- a transmit request with the same noise, as a host might send it -/
def noisyRequest : Bytes := [0x12, 0x0c, 0x23, 0xc0, 0, 0, 0, 5, 9, 0xff, 0xab, 0xcd, 0xef, 0xab]

theorem noisyFrame_round_trip : (received noisyFrame).normal ≠ received noisyFrame ∧
    (∃ buffer', (received noisyFrame).writeTo .big (List.replicate 80 0xaa) = (.ok 24, buffer') ∧
      MessageKind.received.decode .big (buffer'.take 24) = .ok (received noisyFrame).normal) ∧
    ∃ m, MessageKind.transmit.decode .big noisyRequest = .ok m ∧ m.normal = m ∧
      MessageKind.transmit.decode .big (m.encode .big) = .ok m := by
  have room : (received noisyFrame).wireLength ≤ (List.replicate 80 (0xaa : UInt8)).length := by decide
  have reads : Checked.passes (fun _ => true) (MessageKind.transmit.decode .big noisyRequest) = true := by decide
  obtain ⟨m, read, -⟩ := Checked.of_passes reads
  obtain ⟨-, normal, again⟩ := (wire_round_trip .big).2.2 .transmit noisyRequest m read
  exact ⟨by decide, (wire_round_trip .big).1 (received noisyFrame) _ room, m, read, normal, again⟩

end Message

end CanAdapter
