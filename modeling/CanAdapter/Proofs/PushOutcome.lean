/-
What becomes of a message that is pushed to an endpoint. One that fits goes behind what has collected; one that does
not makes the collecting bank go to the host, if nothing is outstanding there, and starts the next bank.

`Endpoint.documented` is the outcome that the endpoint promises, for messages of any length. `push_eq` is what a push
does; the two differ in one thing only: a push never asks whether the message fits a bank at all.
`push_documented_iff` says so: the outcome is the promised one exactly for messages that are no longer than a bank, and
it says what becomes of the longer ones. The longest message fits a bank of the CAN endpoint, so there every push is
as promised (`push_canBank`).
-/
import CanAdapter.Proofs.BankBounds
import CanAdapter.Proofs.ByteStream

namespace CanAdapter

namespace Endpoint

variable {size : Nat} {e : Endpoint size} {o : ByteOrder} {m : Message}

/-- the bank that collects, with more bytes behind its own -/
def adding (bytes : Bytes) (e : Endpoint size) : Endpoint size := { e with filling := e.filling ++ bytes }

/-- the collecting bank went to the host, with its padding, and the other one collects -/
def handingOver (e : Endpoint size) : Endpoint size :=
  let transfer := e.filling ++ padding size e.filling
  ⟨[], transfer, e.started ++ [transfer], e.collecting.other⟩

/-- What a push promises. A message longer than a bank is refused with its length, one that has to wait for the host
is refused for now, and neither leaves a trace. -/
def documented (o : ByteOrder) (m : Message) (e : Endpoint size) : Except EndpointError Unit × Endpoint size :=
  if m.wireLength ≤ e.remaining then (.ok (), e.adding (m.encode o))
  else if size < m.wireLength then (.error (.overflow m.wireLength size), e)
  else if e.sending ≠ [] then (.error .busy, e)
  else (.ok (), e.handingOver.adding (m.encode o))

/-- what a push does with a message that is longer than a bank -/
def oversized (e : Endpoint size) : Except EndpointError Unit × Endpoint size :=
  if e.filling = [] then (.error (.overflow 0 size), e)
  else if e.sending ≠ [] then (.error .busy, e)
  else (.error (.overflow size size), e.handingOver)

/-! ## Handing over -/

theorem transferOf_of_padFits (pad : PadFits size) (content : Bytes) :
    transferOf size content = .ok (content ++ padding size content) := by
  unfold transferOf padding
  split
  · rename_i boundary
    rw [if_pos (pad _ boundary.2.1 boundary.1 boundary.2.2)]
  · rw [List.append_nil]

theorem submit_eq (pad : PadFits size) (some : e.filling ≠ []) (idle : e.sending = []) :
    e.submit = .ok (.ok e.handingOver) := by
  rw [submit_of_idle some idle, transferOf_of_padFits pad]
  rfl

/-! ## Pushing -/

theorem remaining_of_empty (empty : e.filling = []) : e.remaining = size := by simp [remaining, empty]

theorem appendMessage_eq (fits : m.wireLength ≤ e.remaining) : e.appendMessage o m = some (e.adding (m.encode o)) :=
  if_pos fits

theorem appendMessage_eq_none (full : ¬m.wireLength ≤ e.remaining) : e.appendMessage o m = none := if_neg full

/-- what a push does, whatever the bank holds and whoever has the other one -/
theorem push_eq (pad : PadFits size) (o : ByteOrder) (m : Message) (e : Endpoint size) :
    e.push o m = .ok (if m.wireLength ≤ size then e.documented o m else e.oversized) := by
  unfold push documented oversized
  by_cases fits : m.wireLength ≤ e.remaining
  · have short : m.wireLength ≤ size := Nat.le_trans fits (Nat.sub_le _ _)
    simp only [appendMessage_eq fits, short, fits, ↓reduceIte]
  simp only [appendMessage_eq_none fits, fits, ↓reduceIte]
  by_cases empty : e.filling = []
  · have long : ¬m.wireLength ≤ size := by rwa [remaining_of_empty empty] at fits
    simp [hasPending, empty, long, remaining_of_empty]
  have pending : e.hasPending = true := by simpa [hasPending] using empty
  by_cases idle : e.sending = []
  · have room : e.handingOver.remaining = size := remaining_of_empty rfl
    simp only [pending, submit_eq pad empty idle, bind, Except.bind, empty, idle]
    by_cases short : m.wireLength ≤ size
    · simp [appendMessage_eq (room ▸ short), short, Nat.not_lt_of_le short, pure, Except.pure]
    · simp [appendMessage_eq_none (room ▸ short), short, pure, Except.pure]
  · have busy := submit_of_busy empty idle
    by_cases short : m.wireLength ≤ size
    · simp [pending, busy, bind, Except.bind, pure, Except.pure, idle, short, Nat.not_lt_of_le short]
    · simp [pending, busy, bind, Except.bind, pure, Except.pure, empty, idle, short]

/-- no outcome for a message that is too long is the promised one -/
theorem oversized_ne_documented (long : size < m.wireLength) : e.oversized ≠ e.documented o m := by
  have full : ¬m.wireLength ≤ e.remaining := Nat.not_le_of_lt (Nat.lt_of_le_of_lt (Nat.sub_le _ _) long)
  have positive := m.wireLength_le.1
  rw [documented, if_neg full, if_pos long]
  intro same
  have answer := congrArg Prod.fst same
  unfold oversized at answer
  split at answer
  · injection answer with answer
    injection answer with len
    omega
  · split at answer
    · cases answer
    · injection answer with answer
      injection answer with len
      omega

/-- **The outcome of a push.** A push never stops the adapter. Its outcome is the promised one exactly if the message is
no longer than a bank. With a longer one the length that is reported is that of the bank's content or of the whole
bank, an outstanding transfer is reported in its stead, and what has collected goes to the host. -/
theorem push_documented_iff (pad : PadFits size) (o : ByteOrder) (m : Message) (e : Endpoint size) :
    ∃ outcome, e.push o m = .ok outcome ∧ (outcome = e.documented o m ↔ m.wireLength ≤ size) ∧
      (size < m.wireLength → outcome = e.oversized) := by
  refine ⟨_, push_eq pad o m e, ?_⟩
  by_cases short : m.wireLength ≤ size
  · rw [if_pos short]
    exact ⟨iff_of_true rfl short, fun long => absurd short (Nat.not_le_of_lt long)⟩
  · rw [if_neg short]
    exact ⟨iff_of_false (oversized_ne_documented (Nat.lt_of_not_le short)) short, fun _ => rfl⟩

/-- an FD frame with 64 bytes: 76 on the wire -/
def longFrame : Message := .received ⟨1, 15, .fdf, .ofBytes (List.replicate 64 0x5a), 9⟩

/-- a frame that does not fit behind a full packet, with the pipe idle: the packet goes to the host with its padding -/
theorem longFrame_documented :
    let packet := List.replicate 64 7
    ∃ outcome, push .little longFrame (⟨packet, [], [], .first⟩ : Endpoint 128) = .ok outcome ∧
      outcome = (.ok (), ⟨longFrame.encode .little, packet ++ [0, 0, 0, 0], [packet ++ [0, 0, 0, 0]], .second⟩) := by
  intro packet
  obtain ⟨outcome, run, promised, -⟩ := push_documented_iff (by decide) .little longFrame
    (⟨packet, [], [], .first⟩ : Endpoint 128)
  have pad : padding 128 packet = [0, 0, 0, 0] := if_pos (by decide)
  refine ⟨outcome, run, ?_⟩
  rw [promised.2 (by decide), documented, if_neg (by decide), if_neg (by decide), if_neg (by decide)]
  simp [adding, handingOver, pad, Bank.other]

/-- **A frame that is longer than a bank.** It is refused by an empty bank of 64 bytes as a message of none. -/
theorem longFrame_misreported :
    PadFits 64 ∧ ∃ outcome, push .little longFrame (.empty 64) = .ok outcome ∧
      outcome.1 = .error (.overflow 0 64) ∧
      (documented .little longFrame (.empty 64)).1 = .error (.overflow 76 64) := by
  refine ⟨by decide, _, push_eq (by decide) .little longFrame (.empty 64), ?_, ?_⟩
  · rfl
  · rfl

/-- no message is longer than a bank of the CAN endpoint -/
theorem push_canBank (o : ByteOrder) (m : Message) (e : Endpoint canBank) : e.push o m = .ok (e.documented o m) := by
  have short : m.wireLength ≤ canBank := Nat.le_trans m.wireLength_le.2 (by decide)
  rw [push_eq (padFits_of_aligned aligned_canBank), if_pos short]

end Endpoint

end CanAdapter
