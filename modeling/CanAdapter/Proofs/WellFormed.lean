/-
Every transfer to the host stands on its own. It is one or more whole messages, each of which the host can read, and
nothing behind the last of them but the four zero bytes that keep a transfer of the CAN pipe off a packet boundary. A
command transfer fits one packet; a CAN transfer is as long as its bank or ends in a packet that is not full, so no
empty packet has to follow.

`Endpoint.Packed` is what a bank is when it is handed over, and `Endpoint.Formed` the invariant: the collecting bank
holds whole messages within its size, and every transfer so far was packed. `formed_move` keeps it over each of the five
steps of an endpoint. `Reads` is the transfer as the host walks it, and `Adapter.transfers_well_formed` the result.
-/
import CanAdapter.Proofs.BankMoves
import CanAdapter.Proofs.Credits
import CanAdapter.Proofs.Framing

namespace CanAdapter

/-! ## Lengths -/

theorem Message.wireLength_mod (m : Message) : m.wireLength % lengthUnit = 0 := by
  simp only [wireLength, Packet.wireLength, alignLength, lengthUnit]
  omega

theorem length_wire_mod (o : ByteOrder) (ms : List Message) : (wire o ms).length % lengthUnit = 0 := by
  induction ms with
  | nil => rfl
  | cons m ms ih =>
    have here := m.wireLength_mod
    have length : (wire o (m :: ms)).length = m.wireLength + (wire o ms).length := by simp [wire, m.length_encode]
    rw [length, Nat.add_mod, here, ih, Nat.zero_add, Nat.zero_mod]

/-! ## What the host reads -/

/-- A walk through the transfer answers one message after the other and then none, however often it is asked. The bytes
of the messages are the transfer, apart from the padding, and the host can read each of them. -/
def Reads (o : ByteOrder) (padding transfer : Bytes) : Prop :=
  ∃ raws ms, raws ≠ [] ∧ transfer = raws.flatMap (·.bytes) ++ padding ∧
    (∀ n, Walker.calls (raws.length + n) (Walker.ofBytes transfer) =
      raws.map (fun m => some (.ok m)) ++ List.replicate n none) ∧
    raws.mapM (·.reply o) = .ok ms

theorem reads_wire {o : ByteOrder} {ms : List Message} {padding : Bytes} (some : ms ≠ [])
    (replies : ∀ m ∈ ms, m.IsReply) (ends : EndsWalk padding) : Reads o padding (wire o ms ++ padding) := by
  refine ⟨ms.map (·.raw o), ms.map (·.normal), by simpa using some, ?_, ?_, mapM_reply replies⟩
  · rw [List.flatMap_map]
    rfl
  · intro n
    obtain ⟨-, walk, -⟩ := Walker.finds_what_was_written o ms padding
    rw [List.length_map, walk ends n, List.map_map]
    rfl

namespace Endpoint

variable {size : Nat} {o : ByteOrder} {e e' : Endpoint size} {t : Bytes}

/-- a bank of whole messages as it goes to the host -/
def Packed (o : ByteOrder) (size : Nat) (t : Bytes) : Prop :=
  ∃ ms, ms ≠ [] ∧ (∀ m ∈ ms, m.IsReply) ∧ (wire o ms).length ≤ size ∧ transferOf size (wire o ms) = .ok t

/-- a bank no larger than a packet goes as it is -/
theorem Packed.plain (h : Packed o size t) (small : size ≤ packetSize) :
    Reads o [] t ∧ t.length ≤ size ∧ t.length % lengthUnit = 0 := by
  obtain ⟨ms, some, replies, fits, ht⟩ := h
  unfold transferOf at ht
  rw [if_neg (by omega)] at ht
  cases ht
  have read := reads_wire (o := o) some replies (.inl rfl)
  rw [List.append_nil] at read
  exact ⟨read, fits, length_wire_mod o ms⟩

/-- of a larger bank either the transfer fills it, or its last packet is not full -/
theorem Packed.padded (h : Packed o size t) (large : packetSize < size) :
    (∃ padding, (padding = [] ∨ padding = shortPacketPad) ∧ Reads o padding t) ∧ t.length ≤ size ∧
      (t.length = size ∨ t.length % packetSize ≠ 0) ∧ t.length % lengthUnit = 0 := by
  obtain ⟨ms, some, replies, fits, ht⟩ := h
  have aligned := length_wire_mod o ms
  have zeros : shortPacketPad.length = 4 := rfl
  unfold transferOf at ht
  split at ht
  · rename_i boundary
    split at ht
    · rename_i room
      cases ht
      refine ⟨⟨shortPacketPad, .inr rfl, reads_wire some replies (.inr ⟨0, [0, 0], rfl⟩)⟩, ?_, .inr ?_, ?_⟩
      · rwa [List.length_append]
      · rw [List.length_append, zeros]
        unfold packetSize at boundary ⊢
        omega
      · rw [List.length_append, zeros]
        unfold lengthUnit at aligned ⊢
        omega
    · cases ht
  · rename_i free
    cases ht
    have read := reads_wire (o := o) some replies (.inl rfl)
    rw [List.append_nil] at read
    exact ⟨⟨[], .inl rfl, read⟩, fits, by omega, aligned⟩

/-- the collecting bank holds whole messages within its size, and every transfer so far was a bank of such -/
structure Formed (o : ByteOrder) (e : Endpoint size) : Prop where
  whole : e.Whole o
  fits : e.filling.length ≤ size
  started : ∀ t ∈ e.started, Packed o size t

theorem formed_empty (o : ByteOrder) (size : Nat) : (Endpoint.empty size).Formed o :=
  ⟨whole_of_empty o rfl, Nat.zero_le _, nofun⟩

theorem formed_move (h : Move o e e') (he : e.Formed o) : e'.Formed o := by
  cases h with
  | @writes _ m reply fits =>
    refine ⟨(appends_appendMessage reply fits).whole he.whole, ?_, ?_⟩
    · have within := he.fits
      unfold appendMessage at fits
      split at fits
      · rename_i room
        cases fits
        rw [remaining] at room
        rw [List.length_append, m.length_encode]
        omega
      · cases fits
    · have same : e'.started = e.started := by
        unfold appendMessage at fits
        split at fits <;> cases fits
        rfl
      rw [same]
      exact he.started
  | hands handed =>
    obtain ⟨some, -, transfer, ht, rfl⟩ := handed
    obtain ⟨ms, replies, filling⟩ := he.whole
    refine ⟨whole_of_empty o rfl, Nat.zero_le _, ?_⟩
    intro t mem
    rw [List.mem_append, List.mem_singleton] at mem
    rcases mem with earlier | rfl
    · exact he.started t earlier
    · rw [filling] at ht some
      refine ⟨ms, ?_, replies, filling ▸ he.fits, ht⟩
      rintro rfl
      exact some rfl
  | done => exact ⟨he.whole, he.fits, he.started⟩
  | discards => exact ⟨whole_of_empty o rfl, Nat.zero_le _, he.started⟩
  | resets => exact ⟨whole_of_empty o rfl, Nat.zero_le _, he.started⟩

theorem Moves.formed (h : Moves o e e') (he : e.Formed o) : e'.Formed o := h.keeps formed_move he

theorem readTransfers_packed {ts : List Bytes} (packed : ∀ t ∈ ts, Packed o size t) :
    ∃ sent : List Message, readTransfers o ts = .ok (sent.map (·.normal)) := by
  induction ts with
  | nil => exact ⟨[], rfl⟩
  | cons t ts ih =>
    obtain ⟨ms, -, replies, -, ht⟩ := packed t List.mem_cons_self
    obtain ⟨sent, later⟩ := ih fun t mem => packed t (List.mem_cons_of_mem _ mem)
    have first := readTransfers_singleton (readTransfer_transferOf replies ht)
    refine ⟨ms ++ sent, ?_⟩
    rw [List.map_append]
    exact readTransfers_append first later

/-- from any transfer on there is something that the host reads -/
theorem Formed.carries (he : e.Formed o) {base : Nat} (started : base ≤ e.started.length) :
    ∃ ms, e.Carries o base ms := by
  obtain ⟨pending, replies, filling⟩ := he.whole
  obtain ⟨sent, read⟩ := readTransfers_packed fun t mem => he.started t (List.mem_of_mem_drop mem)
  exact ⟨sent ++ pending, sent, pending, rfl, replies, started, read, filling⟩

end Endpoint

/-! ## All histories -/

namespace Lane

variable {σ : Type} {l l' : Lane σ}

/-- both endpoints are formed, in the channel's byte order -/
structure Formed (l : Lane σ) : Prop where
  command : l.channel.command.Formed l.channel.config.order
  can : l.channel.can.Formed l.channel.config.order

theorem formed_of_fresh (h : l.Fresh) : l.Formed := by
  obtain ⟨index, config, s, c, hc, rfl⟩ := h
  obtain ⟨settings, -, hc⟩ := Checked.bind_eq_ok.1 hc
  cases hc
  exact ⟨Endpoint.formed_empty _ _, Endpoint.formed_empty _ _⟩

theorem formed_plays [Controller σ] {es : List (LaneEvent σ)} (h : l.plays es = .ok l') (hl : l.Formed) :
    l'.Formed := by
  obtain ⟨config, command, can⟩ := moves_plays h
  refine ⟨?_, ?_⟩ <;> rw [config]
  · exact command.formed hl.command
  · exact can.formed hl.can

end Lane

/-- **Transfers.** Take any history of an adapter that was just built. Every transfer that it started is made of one or
more whole messages that the host can read in the byte order of the channel, so no message is split over two. On the
command pipe there is nothing else in it, and it fits one packet. On the CAN pipe four zero bytes may follow; it fits
its bank, and it fills the bank or does not end on a packet boundary. -/
theorem Adapter.transfers_well_formed {σ : Type} [Controller σ] {a a' : Adapter σ} {es : List (AdapterEvent σ)}
    {i : Nat} {l : Lane σ} (fresh : a.Fresh) (h : a.plays es = .ok a') (hl : a.lanes[i]? = some l) :
    ∃ l', a'.lanes[i]? = some l' ∧
      (∀ t ∈ l'.channel.command.started,
        Reads l.channel.config.order [] t ∧ t.length ≤ 64 ∧ t.length % 4 = 0) ∧
      ∀ t ∈ l'.channel.can.started,
        (∃ padding, (padding = [] ∨ padding = [0, 0, 0, 0]) ∧ Reads l.channel.config.order padding t) ∧
          t.length ≤ 512 ∧ (t.length = 512 ∨ t.length % 64 ≠ 0) ∧ t.length % 4 = 0 := by
  rcases Adapter.plays_lane i h with ⟨none, -⟩ | ⟨l₀, l', hl₀, played, hl'⟩
  · rw [hl] at none
    cases none
  · cases hl.symm.trans hl₀
    have formed := Lane.formed_plays played (Lane.formed_of_fresh (Adapter.lanes_of_fresh fresh hl))
    have config := (Lane.moves_plays played).config
    rw [← config]
    refine ⟨l', hl', ?_, ?_⟩
    · intro t started
      exact (formed.command.started t started).plain (by decide)
    · intro t started
      exact (formed.can.started t started).padded (by decide)

/-- the host asks what the device is; then six frames are sent, and the look reports them -/
def sixReports : List Op :=
  [.mount, .out 1 [3, 2], .out 1 [8, 4, 1, 0],
    .out 2 (List.replicate 6 [0x12, 12, 0, 0, 5, 0, 0, 0, 7, 0, 0, 0]).flatten, .poll 0, .wakeUp 0 0]

/-- the report on the bus and six on transmissions are 64 bytes, so they go padded -/
theorem sixReports_well_formed : ∃ (a a' : Adapter SimController) (l l' : Lane SimController), a.Fresh ∧
    a.plays (opsOnly sixReports) = .ok a' ∧ a.lanes[0]? = some l ∧ a'.lanes[0]? = some l' ∧
      ∃ info reports, l'.channel.command.started = [info] ∧ info.length = 60 ∧
        Reads l.channel.config.order [] info ∧ l'.channel.can.started = [reports] ∧ reports.length = 68 ∧
        ∃ padding, (padding = [] ∨ padding = [0, 0, 0, 0]) ∧ Reads l.channel.config.order padding reports := by
  have ran : afterEchoing sixReports (fun _ l' => l'.channel.command.started.map List.length == [60] &&
      l'.channel.can.started.map List.length == [68]) = true := by
    decide +kernel
  obtain ⟨a, a', l, l', fresh, played, hl, hl', -, lengths⟩ := of_afterEchoing ran
  rw [Bool.and_eq_true, beq_iff_eq, beq_iff_eq] at lengths
  obtain ⟨info, command, hi⟩ := List.map_eq_singleton_iff.1 lengths.1
  obtain ⟨reports, can, hr⟩ := List.map_eq_singleton_iff.1 lengths.2
  obtain ⟨l₁, hl₁, answers, told⟩ := Adapter.transfers_well_formed fresh played hl
  cases hl'.symm.trans hl₁
  have read := answers info (by rw [command]; exact List.mem_singleton_self _)
  have read' := told reports (by rw [can]; exact List.mem_singleton_self _)
  exact ⟨a, a', l, l', fresh, played, hl, hl', info, reports, command, hi, read.1, can, hr, read'.1⟩

end CanAdapter
