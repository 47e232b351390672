/-
The bounds of an endpoint's banks. Whatever is done with an endpoint, neither bank gets more than it has room for, and
the check that the next bank is empty never fails. One thing alone can stop it: a bank that is handed over with whole
packets in it, and with less room behind them than the padding takes.

`Endpoint.Within` is the bound and `Endpoint.PadOverruns` the fault. `ends_transferOf` is where the fault comes from; one
lemma for each operation, up to `EndpointOp.ends_step`, carries both, whatever the size of the banks. Where the padding
always fits (`Endpoint.PadFits`) nothing stops an endpoint, and so nothing does in banks of whole packets:
`succeeds_push` and its neighbours.
-/
import CanAdapter.Config
import CanAdapter.Endpoint
import CanAdapter.Message.Encoding
import CanAdapter.Proofs.Success

namespace CanAdapter

open Checked

namespace Endpoint

variable {size : Nat}

/-! ## What holds of the banks, and what can stop them -/

/-- neither bank holds more than it has room for -/
structure Within (e : Endpoint size) : Prop where
  filling : e.filling.length ≤ size
  sending : e.sending.length ≤ size

/-- The fault of a bank that is larger than a packet and holds `full` bytes, whole packets, when the padding behind them
leaves the bank. -/
def PadOverruns (size : Nat) (fault : Fault) : Prop :=
  ∃ full, packetSize < size ∧ full < size ∧ full % packetSize = 0 ∧ size < full + shortPacketPad.length ∧
    fault = .rangeEnd (full + shortPacketPad.length) size

/-- the padding of a transfer never leaves the bank -/
def PadFits (size : Nat) : Prop :=
  ∀ n < size, packetSize < size → n % packetSize = 0 → n + shortPacketPad.length ≤ size

instance (size : Nat) : Decidable (PadFits size) :=
  inferInstanceAs (Decidable (∀ n < size, packetSize < size → n % packetSize = 0 → n + shortPacketPad.length ≤ size))

theorem PadFits.not_overruns (pad : PadFits size) (fault : Fault) : ¬PadOverruns size fault := by
  rintro ⟨full, wide, inside, whole, short, -⟩
  exact Nat.not_le_of_lt short (pad full inside wide whole)

theorem padFits_of_aligned (aligned : size % packetSize = 0) : PadFits size := by
  intro n inside wide boundary
  have zeros : shortPacketPad.length = 4 := rfl
  unfold packetSize at *
  omega

theorem within_empty (size : Nat) : (empty size).Within := ⟨Nat.zero_le _, Nat.zero_le _⟩

/-- a bank within its size has exactly the room that is left -/
theorem Within.remaining_add {e : Endpoint size} (h : e.Within) : e.remaining + e.filling.length = size :=
  Nat.sub_add_cancel h.filling

theorem within_adding {e : Endpoint size} {bytes : Bytes} (fits : bytes.length ≤ e.remaining) (h : e.Within) :
    ({ e with filling := e.filling ++ bytes } : Endpoint size).Within := by
  refine ⟨?_, h.sending⟩
  calc (e.filling ++ bytes).length
    _ = e.filling.length + bytes.length := List.length_append
    _ ≤ e.filling.length + e.remaining := Nat.add_le_add_left fits _
    _ = size := (Nat.add_comm ..).trans h.remaining_add

theorem within_append {e e' : Endpoint size} {bytes : Bytes} (h : e.append bytes = some e') (he : e.Within) :
    e'.Within := by
  unfold append at h
  split at h
  · rename_i fits
    cases h
    exact within_adding fits he
  · cases h

theorem within_appendMessage {e e' : Endpoint size} {o : ByteOrder} {m : Message} (h : e.appendMessage o m = some e')
    (he : e.Within) : e'.Within := by
  unfold appendMessage at h
  split at h
  · rename_i fits
    cases h
    exact within_adding (m.length_encode o ▸ fits) he
  · cases h

/-! ## Handing over -/

theorem ends_transferOf (size : Nat) (content : Bytes) :
    Ends (fun transfer => content.length ≤ size → transfer.length ≤ size) (PadOverruns size)
      (transferOf size content) := by
  unfold transferOf
  split
  · rename_i boundary
    obtain ⟨wide, inside, whole⟩ := boundary
    split
    · rename_i room
      exact fun _ => Nat.le_trans (Nat.le_of_eq List.length_append) room
    · rename_i short
      exact ⟨content.length, wide, inside, whole, Nat.lt_of_not_le short, rfl⟩
  · exact id

theorem ends_submit (e : Endpoint size) :
    Ends (fun r => ∀ e', r = .ok e' → e.Within → e'.Within) (PadOverruns size) e.submit := by
  by_cases empty : e.filling = []
  · rw [submit_of_empty empty]
    exact nofun
  · by_cases idle : e.sending = []
    · rw [submit_of_idle empty idle]
      refine (ends_transferOf size e.filling).map ?_
      rintro transfer bound e' ⟨⟩ he
      exact ⟨Nat.zero_le _, bound he.filling⟩
    · rw [submit_of_busy empty idle]
      exact nofun

theorem ends_trySubmit (e : Endpoint size) :
    Ends (fun e' => e.Within → e'.Within) (PadOverruns size) e.trySubmit := by
  refine (ends_submit e).bind ?_
  intro r kept
  cases r with
  | ok e' => exact kept e' rfl
  | error err => exact id

theorem ends_flush (e : Endpoint size) : Ends (fun e' => e.Within → e'.Within) (PadOverruns size) e.flush := by
  unfold flush
  split
  · exact ends_trySubmit e
  · exact id

theorem ends_complete (e : Endpoint size) : Ends (fun e' => e.Within → e'.Within) (PadOverruns size) e.complete := by
  have released (he : e.Within) : ({ e with sending := [] } : Endpoint size).Within := ⟨he.filling, Nat.zero_le _⟩
  unfold complete
  simp only
  split
  · exact (ends_trySubmit _).mono fun e' kept he => kept (released he)
  · exact released

theorem ends_push (o : ByteOrder) (m : Message) (e : Endpoint size) :
    Ends (fun r => e.Within → r.2.Within) (PadOverruns size) (e.push o m) := by
  unfold push
  split
  · rename_i e' fits
    exact within_appendMessage fits
  · split
    · exact id
    · refine (ends_submit e).bind ?_
      intro r kept
      cases r with
      | error err => exact id
      | ok e₁ =>
        simp only
        split
        · rename_i e' fits
          exact fun he => within_appendMessage fits (kept e₁ rfl he)
        · exact kept e₁ rfl

end Endpoint

/-! ## Any operation -/

theorem EndpointOp.ends_step {size : Nat} (o : ByteOrder) (op : EndpointOp) {e : Endpoint size} (he : e.Within) :
    Ends (fun r => r.2.Within) (Endpoint.PadOverruns size) (op.step o e) := by
  cases op with
  | append bytes =>
    simp only [step]
    split
    · rename_i fits
      exact Endpoint.within_append fits he
    · exact he
  | message m =>
    simp only [step]
    split
    · rename_i fits
      exact Endpoint.within_appendMessage fits he
    · exact he
  | push m => exact (Endpoint.ends_push o m e).bind fun r kept => kept he
  | submit =>
    refine (Endpoint.ends_submit e).bind ?_
    intro r kept
    cases r with
    | ok e' => exact kept e' rfl he
    | error err => exact he
  | flush => exact (Endpoint.ends_flush e).bind fun e' kept => kept he
  | complete => exact (Endpoint.ends_complete e).bind fun e' kept => kept he
  | discard => exact ⟨Nat.zero_le _, he.sending⟩
  | reset => exact ⟨Nat.zero_le _, Nat.zero_le _⟩

/-! ## Banks of whole packets -/

namespace Endpoint

variable {size : Nat}

/-- in banks of whole packets there is always room for the padding, and so nothing that can stop them -/
theorem succeeds_of_ends {α : Type} {P : α → Prop} {x : Checked α} (aligned : size % packetSize = 0)
    (h : Ends P (PadOverruns size) x) : Succeeds (fun _ => True) x :=
  (h.mono fun _ _ => trivial).succeeds (padFits_of_aligned aligned).not_overruns

theorem succeeds_trySubmit (aligned : size % packetSize = 0) (e : Endpoint size) :
    Succeeds (fun _ => True) e.trySubmit :=
  succeeds_of_ends aligned (ends_trySubmit e)

theorem succeeds_flush (aligned : size % packetSize = 0) (e : Endpoint size) : Succeeds (fun _ => True) e.flush :=
  succeeds_of_ends aligned (ends_flush e)

theorem succeeds_complete (aligned : size % packetSize = 0) (e : Endpoint size) :
    Succeeds (fun _ => True) e.complete :=
  succeeds_of_ends aligned (ends_complete e)

theorem succeeds_push (aligned : size % packetSize = 0) (o : ByteOrder) (m : Message) (e : Endpoint size) :
    Succeeds (fun _ => True) (e.push o m) :=
  succeeds_of_ends aligned (ends_push o m e)

end Endpoint

theorem aligned_commandBank : commandBank % packetSize = 0 := rfl

theorem aligned_canBank : canBank % packetSize = 0 := rfl

end CanAdapter
