/-
What a source of a pass can do. It is idle when it has nothing; it is blocked when its message does not fit and a
transfer is outstanding, and then it leaves pipe and ring alone; otherwise it appends its message to the CAN pipe and
takes the item from its ring.

`makeRoom_cases`, `place_cases`: all that becomes of a message. `placeReport_cases`, `takeStatus_cases`,
`placeOldest_cases`: all that a source can do.
-/
import CanAdapter.Lane.Drain
import CanAdapter.Proofs.Batch
import CanAdapter.Proofs.Transfer

namespace CanAdapter

/-! ## The messages that report something -/

namespace Message

def frame? : Message → Option Frame
  | received f => some f
  | _ => none

def error? : Message → Option BusError
  | busError e => some e
  | _ => none

def txReport? : Message → Option TxReport
  | transmitted r => some r
  | _ => none

def busReport? : Message → Option BusReport
  | busReport r => some r
  | _ => none

theorem isReply_received (f : Frame) : (received f).IsReply := rfl

theorem isReply_busError (e : BusError) : (busError e).IsReply := rfl

theorem isReply_transmitted (r : TxReport) : (transmitted r).IsReply := rfl

theorem isReply_busReport (r : BusReport) : (busReport r).IsReply := rfl

end Message

/-! ## Placing a message -/

namespace Channel

variable {σ : Type} {c c' : Channel σ}

theorem makeRoom_cases {len : Nat} {r : Option (Channel σ)} (hl : len ≤ canBank) (h : c.makeRoom len = .ok r) :
    (r = none ∧ c.can.sending ≠ []) ∨
      ∃ can, r = some { c with can } ∧ len ≤ can.remaining ∧ (can = c.can ∨ c.can.HandsOver can) := by
  unfold makeRoom at h
  split at h
  · rename_i short
    split at h
    · rename_i busy
      cases h
      exact .inl ⟨rfl, by simpa [Endpoint.ready] using busy⟩
    · rename_i idle
      obtain ⟨can, hc, h⟩ := Checked.bind_eq_ok.1 h
      cases h
      rcases Endpoint.trySubmit_cases hc with ⟨-, empty | busy⟩ | handed
      · simp only [Endpoint.remaining, empty, List.length_nil] at short
        omega
      · exact absurd busy (by simpa [Endpoint.ready] using idle)
      · refine .inr ⟨can, rfl, ?_, .inr handed⟩
        obtain ⟨-, -, transfer, -, rfl⟩ := handed
        simpa [Endpoint.remaining] using hl
  · rename_i room
    cases h
    exact .inr ⟨c.can, rfl, by omega, .inl rfl⟩

theorem posts_of_room {m : Message} {can : Endpoint canBank} (hm : m.IsReply)
    (room : can = c.can ∨ c.can.HandsOver can) {o : ByteOrder} {e : Endpoint canBank}
    (h : can.appendMessage o m = some e) : Endpoint.Posts o [m] c.can e := by
  have placed := Endpoint.posts_appendMessage hm h
  rcases room with rfl | handed
  · exact placed
  · exact (Endpoint.posts_of_handsOver handed).trans placed

theorem place_cases {m : Message} {b : Bool} (hm : m.IsReply) (h : c.place m = .ok (b, c')) :
    (b = false ∧ c' = c ∧ c.can.sending ≠ []) ∨
      (b = true ∧ ∃ can, c' = { c with can } ∧ Endpoint.Posts c.config.order [m] c.can can) := by
  have short := m.wireLength_le.2
  simp only [maxCanMessage, maxPayload, alignLength, lengthUnit] at short
  obtain ⟨r, hr, h⟩ := Checked.bind_eq_ok.1 h
  rcases makeRoom_cases (by unfold canBank; omega) hr with ⟨rfl, busy⟩ | ⟨can, rfl, fits, room⟩
  · cases h
    exact .inl ⟨rfl, rfl, busy⟩
  · simp only at h
    split at h
    · rename_i none
      exact absurd none (Endpoint.appendMessage_ne_none fits)
    · rename_i e placed
      cases h
      exact .inr ⟨rfl, e, rfl, posts_of_room hm room placed⟩

end Channel

theorem Channel.returnCredit_eq {σ : Type} {c c' : Channel σ} (h : c.returnCredit = .ok c') :
    c' = { c with credits := if c.credits < c.config.txFifo then c.credits + 1 else c.credits } := by
  unfold returnCredit at h
  obtain ⟨more, hm, h⟩ := Checked.bind_eq_ok.1 h
  unfold Checked.add8 at hm
  split at hm
  · cases hm
    cases h
    split <;> rfl
  · cases hm

theorem Channel.toNat_taken {credits : UInt8} (h : credits ≠ 0) : (credits - 1).toNat + 1 = credits.toNat := by
  have some : credits.toNat ≠ 0 := fun none => h (UInt8.toNat_inj.1 none)
  have bound := credits.toNat_lt
  rw [UInt8.toNat_sub, UInt8.toNat_one]
  omega

/-- a credit that is given back counts up to the number of places -/
theorem Channel.toNat_returned (credits places : UInt8) :
    (if credits < places then credits + 1 else credits).toNat =
      max credits.toNat (min places.toNat (credits.toNat + 1)) := by
  have bound := places.toNat_lt
  split
  · rename_i short
    rw [UInt8.lt_iff_toNat_lt] at short
    rw [UInt8.toNat_add, UInt8.toNat_one]
    omega
  · rename_i enough
    rw [UInt8.lt_iff_toNat_lt] at enough
    omega

/-! ## Sources -/

namespace Lane

variable {σ : Type} {l l' : Lane σ} {move : Move}

theorem takeStatus_cases {now : Nat} (h : l.takeStatus now = .ok (move, l')) :
    (move = .idle ∧ l' = l ∧ l.channel.status.toList = []) ∨
    (move = .moved ∧ ∃ e, Ring.Releases [e] l.channel.status l.channel.status.consume ∧
      l' = { l with
        channel := { l.channel with status := l.channel.status.consume }
        reporter := { l.reporter with busStatus := e.status, reportDue := true, lastActivity := some now } }) := by
  unfold takeStatus at h
  rcases l.channel.status.pop_cases with ⟨none, empty⟩ | ⟨e, some, took⟩
  · rw [none] at h
    cases h
    exact .inl ⟨rfl, rfl, empty⟩
  · rw [some] at h
    cases h
    exact .inr ⟨rfl, e, took, rfl⟩

theorem placeOldest_cases {α : Type} {k : Nat} {ring : Channel σ → Ring α k} {message : α → Message}
    {noted : Reporter → Reporter} {done : Channel σ → Checked (Channel σ)} (hm : ∀ a, (message a).IsReply)
    (h : placeOldest ring message noted done l = .ok (move, l')) :
    (move = .idle ∧ l' = l ∧ (ring l.channel).toList = []) ∨
    (move = .blocked ∧ l' = { l with reporter := noted l.reporter } ∧ (ring l.channel).toList ≠ [] ∧
      l.channel.can.sending ≠ []) ∨
    (move = .moved ∧ ∃ a can c, Ring.Releases [a] (ring l.channel) (ring l.channel).consume ∧
      Endpoint.Posts l.channel.config.order [message a] l.channel.can can ∧
      done { l.channel with can } = .ok c ∧ l' = { l with channel := c, reporter := noted l.reporter }) := by
  unfold placeOldest at h
  rcases (ring l.channel).peek_cases with ⟨none, empty⟩ | ⟨a, some, took⟩
  · rw [none] at h
    cases h
    exact .inl ⟨rfl, rfl, empty⟩
  · rw [some] at h
    obtain ⟨⟨b, c⟩, hc, h⟩ := Checked.bind_eq_ok.1 h
    rcases Channel.place_cases (hm a) hc with ⟨rfl, rfl, busy⟩ | ⟨rfl, can, rfl, placed⟩
    · cases h
      have waits : (ring l.channel).toList ≠ [] := by
        rw [took.1]
        exact List.cons_ne_nil _ _
      exact .inr (.inl ⟨rfl, rfl, waits, busy⟩)
    · obtain ⟨c, hd, h⟩ := Checked.bind_eq_ok.1 h
      cases h
      exact .inr (.inr ⟨rfl, a, can, c, took, placed, hd, rfl⟩)

theorem sending_of_blocked {α : Type} {k : Nat} {ring : Channel σ → Ring α k} {message : α → Message}
    {noted : Reporter → Reporter} {done : Channel σ → Checked (Channel σ)} (hm : ∀ a, (message a).IsReply)
    (h : placeOldest ring message noted done l = .ok (.blocked, l')) : l'.channel.can.sending ≠ [] := by
  rcases placeOldest_cases hm h with ⟨none, -⟩ | ⟨-, rfl, -, busy⟩ | ⟨moved, -⟩
  · cases none
  · exact busy
  · cases moved

variable [Controller σ]

theorem placeReport_cases (h : l.placeReport = .ok (move, l')) :
    (move = .idle ∧ l' = l ∧ l.reporter.reportDue = false) ∨
    (move = .blocked ∧ l' = l ∧ l.channel.makeRoom reportLength = .ok none ∧ l.channel.can.sending ≠ []) ∨
    (move = .moved ∧ l.reporter.reportDue = true ∧ ∃ can,
      Endpoint.Posts l.channel.config.order [.busReport (l.channel.snapshot l.reporter.busStatus).1]
        l.channel.can can ∧
      l' = { l with
        channel := { (l.channel.snapshot l.reporter.busStatus).2 with can }
        reporter := { l.reporter with reportDue := false } }) := by
  unfold placeReport at h
  split at h
  · rename_i none
    cases h
    exact .inl ⟨rfl, rfl, by simpa using none⟩
  · rename_i due
    obtain ⟨r, hr, h⟩ := Checked.bind_eq_ok.1 h
    rcases Channel.makeRoom_cases (by decide) hr with ⟨rfl, busy⟩ | ⟨can, rfl, fits, room⟩
    · cases h
      exact .inr (.inl ⟨rfl, rfl, hr, busy⟩)
    · simp only at h
      split at h
      · rename_i none
        exact absurd none (Endpoint.appendMessage_ne_none fits)
      · rename_i e placed
        cases h
        exact .inr (.inr ⟨rfl, by simpa using due, e,
          Channel.posts_of_room (Message.isReply_busReport _) room placed, rfl⟩)

end Lane

end CanAdapter
