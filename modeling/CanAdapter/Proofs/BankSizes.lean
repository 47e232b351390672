/-
Which sizes an endpoint's banks may have. A bank of more than a packet gets padding behind whole packets, and needs four
bytes for it. With one to three bytes behind the last packet boundary it has fewer, and then there is a history that
stops the adapter; with any other size there is none.

`padFits_of_overhang` is the arithmetic: the fullest bank that needs padding ends at the last packet boundary.
`ends_runEach` says how a history may end, with banks of any size, and `exists_stop` fills a bank up to that boundary and
hands it over. `Endpoint.stops_iff_short_overhang` puts them together.
-/
import CanAdapter.Proofs.BankBounds
import CanAdapter.Proofs.ByteStream

namespace CanAdapter

open Checked

namespace Endpoint

variable {size : Nat}

/-- a bank has no bytes, or enough of them for the padding, behind its last packet boundary -/
theorem padFits_of_overhang (safe : ¬(64 < size ∧ (size % 64 = 1 ∨ size % 64 = 2 ∨ size % 64 = 3))) :
    PadFits size := by
  intro n inside wide boundary
  have zeros : shortPacketPad.length = 4 := rfl
  unfold packetSize at *
  omega

/-- a history ends with both banks within their size, or with padding that leaves its bank -/
theorem ends_runEach (size : Nat) (calls : List (ByteOrder × EndpointOp)) :
    Ends Within (PadOverruns size) (EndpointOp.runEach calls (.empty size)) := by
  refine ends_foldlM ?_ (within_empty size)
  intro call _ e he
  exact (EndpointOp.ends_step call.1 call.2 he).map fun _ kept => kept

theorem transferOf_of_short {content : Bytes} (wide : packetSize < size) (inside : content.length < size)
    (whole : content.length % packetSize = 0) (short : size < content.length + shortPacketPad.length) :
    transferOf size content = .error (.rangeEnd (content.length + shortPacketPad.length) size) := by
  rw [transferOf, if_pos ⟨wide, inside, whole⟩, if_neg (Nat.not_le_of_lt short)]

/-- packets up to the last boundary, handed over, stop the adapter if less than the padding is left behind them -/
theorem exists_stop (wide : 64 < size) (overhang : size % 64 = 1 ∨ size % 64 = 2 ∨ size % 64 = 3) :
    ∃ calls fault, EndpointOp.runEach calls (.empty size) = .error fault := by
  let packets : Bytes := List.replicate (size - size % 64) 0
  let filled : Endpoint size := ⟨packets, [], [], .first⟩
  have length : packets.length = size - size % 64 := List.length_replicate
  have inside : packets.length < size := by omega
  have whole : packets.length % packetSize = 0 := by
    rw [length, packetSize]
    omega
  have short : size < packets.length + shortPacketPad.length := by
    have zeros : shortPacketPad.length = 4 := rfl
    omega
  have fills : EndpointOp.step .little (.append packets) (.empty size) = .ok (.fits true, filled) := by
    have fits : packets.length ≤ (empty size).remaining := Nat.le_of_lt inside
    simp only [EndpointOp.step, append, if_pos fits]
    rfl
  have stops : EndpointOp.submit.step .little filled = .error (.rangeEnd (packets.length + 4) size) := by
    have some : packets ≠ [] := List.ne_nil_of_length_pos (by omega)
    have handed := submit_of_idle (e := filled) some rfl
    rw [transferOf_of_short wide inside whole short] at handed
    rw [EndpointOp.step, handed]
    rfl
  refine ⟨[(.little, .append packets), (.little, .submit)], .rangeEnd (packets.length + 4) size, ?_⟩
  simp only [EndpointOp.runEach, List.foldlM_cons, fills]
  calc EndpointOp.runEach [(.little, .submit)] filled
    _ = (·.2) <$> EndpointOp.submit.step .little filled := List.foldlM_cons.trans (bind_pure _)
    _ = .error (.rangeEnd (packets.length + 4) size) := congrArg _ stops

/-- **The sizes of banks for which an endpoint is safe.** Some history from the empty endpoint stops the adapter exactly
if the banks are larger than a packet and end one to three bytes behind a packet boundary. With banks of any other size
every history comes to its end, neither bank ever holds more than it has room for, and what is left of the collecting
bank is the difference. With banks of any size, what stops a history is padding that leaves its bank, and never the
check that the next bank is empty. -/
theorem stops_iff_short_overhang (size : Nat) :
    ((∃ calls fault, EndpointOp.runEach calls (.empty size) = .error fault) ↔
      64 < size ∧ (size % 64 = 1 ∨ size % 64 = 2 ∨ size % 64 = 3)) ∧
    (¬(64 < size ∧ (size % 64 = 1 ∨ size % 64 = 2 ∨ size % 64 = 3)) → ∀ calls,
      ∃ e, EndpointOp.runEach calls (.empty size) = .ok e ∧ e.filling.length ≤ size ∧ e.sending.length ≤ size ∧
        e.remaining + e.filling.length = size) ∧
    ∀ calls fault, EndpointOp.runEach calls (.empty size) = .error fault →
      ∃ full, full % 64 = 0 ∧ full < size ∧ size < full + 4 ∧ fault = .rangeEnd (full + 4) size := by
  have completes (safe : ¬(64 < size ∧ (size % 64 = 1 ∨ size % 64 = 2 ∨ size % 64 = 3)))
      (calls : List (ByteOrder × EndpointOp)) :
      ∃ e, EndpointOp.runEach calls (.empty size) = .ok e ∧ e.Within :=
    (ends_runEach size calls).succeeds (padFits_of_overhang safe).not_overruns
  refine ⟨⟨?_, ?_⟩, ?_, ?_⟩
  · rintro ⟨calls, fault, stopped⟩
    refine Decidable.byContradiction fun safe => ?_
    obtain ⟨e, ran, -⟩ := completes safe calls
    rw [stopped] at ran
    cases ran
  · rintro ⟨wide, overhang⟩
    exact exists_stop wide overhang
  · intro safe calls
    obtain ⟨e, ran, within⟩ := completes safe calls
    exact ⟨e, ran, within.filling, within.sending, within.remaining_add⟩
  · intro calls fault stopped
    have ends := ends_runEach size calls
    rw [stopped] at ends
    obtain ⟨full, -, inside, whole, short, rfl⟩ := ends
    exact ⟨full, whole, inside, short, rfl⟩

/-- a packet with its padding, a full bank behind it, a byte too many, an answer, and one that waits for the host -/
def tightBank : List (ByteOrder × EndpointOp) :=
  [(.little, .append (List.replicate 64 7)), (.little, .submit), (.big, .append (List.replicate 68 9)),
    (.little, .append [1]), (.little, .complete), (.big, .message (.outcome 0)), (.little, .push (.outcome 1)),
    (.little, .flush)]

/-- four bytes behind the packet are just enough, and three are not -/
theorem tightBank_completes :
    ∃ e : Endpoint 68, EndpointOp.runEach tightBank (.empty 68) = .ok e ∧
      e.started = [List.replicate 64 7 ++ [0, 0, 0, 0], List.replicate 68 9] ∧ e.filling.length = 8 ∧
      e.remaining + e.filling.length = 68 ∧ ∃ calls fault, EndpointOp.runEach calls (.empty 67) = .error fault := by
  obtain ⟨e, ran, -, -, left⟩ := (stops_iff_short_overhang 68).2.1 (by decide) tightBank
  obtain ⟨e', ran', state⟩ := Checked.of_passes
    (p := fun e => e.started == [List.replicate 64 7 ++ [0, 0, 0, 0], List.replicate 68 9] && e.filling.length == 8)
    (x := EndpointOp.runEach tightBank (.empty 68)) (by decide +kernel)
  obtain rfl : e = e' := Except.ok.inj (ran.symm.trans ran')
  simp only [Bool.and_eq_true, beq_iff_eq] at state
  exact ⟨e, ran, state.1, state.2, left, (stops_iff_short_overhang 67).1.2 (by decide)⟩

end Endpoint

end CanAdapter
