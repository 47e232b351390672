/-
Framing. A buffer has no table of its messages: a walk finds them by their own length bytes alone. It finds messages
that were written one after the other exactly as they were written, each with all its bytes, and then whatever stands
behind them; zero bytes there, or nothing, end it for good.

`Walker.calls n w` is what the next `n` calls answer. `calls_wire`: over written messages these are the messages, and
then the answers of a walk that starts behind them. `calls_of_endsWalk`: past its end a walk finds nothing, however
often it is asked. `Walker.finds_what_was_written` puts the two together and adds what each message is read as.
-/
import CanAdapter.Proofs.Transfer

namespace CanAdapter

/-- the kinds of message that the adapter sends; each has an id of its own among them -/
def MessageKind.replies : List MessageKind :=
  [.greeting, .deviceInfo, .canInfo, .outcome, .busReport, .received, .transmitted, .busError]

theorem Message.isReply_of_mem {m : Message} (h : m.kind ∈ MessageKind.replies) : m.IsReply := by
  have known : ∀ k ∈ MessageKind.replies, MessageKind.ofReplyId? k.id = some k := by decide
  exact known m.kind h

namespace Walker

variable {o : ByteOrder} {ms : List Message} {rest : Bytes}

/-- the answers to the next `n` calls -/
def calls : Nat → Walker → List (Option (Except WireError RawMessage))
  | 0, _ => []
  | n + 1, w => w.next.1 :: calls n w.next.2

/-- a message of a written buffer, as a call answers it -/
def found (o : ByteOrder) (m : Message) : Option (Except WireError RawMessage) := some (.ok (m.raw o))

/-- induction on the messages: each is one call, which leaves the walk at the next -/
theorem calls_wire (o : ByteOrder) (ms : List Message) (rest : Bytes) (offset n : Nat) :
    calls (ms.length + n) ⟨offset, wire o ms ++ rest, false⟩ =
      ms.map (found o) ++ calls n ⟨offset + (wire o ms).length, rest, false⟩ := by
  induction ms generalizing offset with
  | nil => simp [wire]
  | cons m ms ih =>
    have split : wire o (m :: ms) ++ rest = m.encode o ++ (wire o ms ++ rest) := by simp [wire]
    have length : (wire o (m :: ms)).length = m.wireLength + (wire o ms).length := by simp [wire, m.length_encode]
    have count : (m :: ms).length + n = ms.length + n + 1 := by
      simp only [List.length_cons]
      omega
    rw [count, calls, split, next_encode, length, ih, Nat.add_assoc]
    rfl

theorem calls_of_done {w : Walker} (h : w.done = true) (n : Nat) : calls n w = List.replicate n none := by
  induction n with
  | zero => rfl
  | succ n ih => rw [calls, next_of_done h, ih, List.replicate_succ]

/-- nothing is behind the end, and a zero id closes the walk -/
theorem calls_of_endsWalk (h : EndsWalk rest) (offset n : Nat) :
    calls n ⟨offset, rest, false⟩ = List.replicate n none := by
  rcases h with rfl | ⟨b, tail, rfl⟩
  · induction n with
    | zero => rfl
    | succ n ih =>
      have stays : next ⟨offset, [], false⟩ = (none, ⟨offset, [], false⟩) := rfl
      rw [calls, stays, ih, List.replicate_succ]
  · cases n with
    | zero => rfl
    | succ n =>
      have closes : next ⟨offset, 0 :: b :: tail, false⟩ = (none, ⟨offset, 0 :: b :: tail, true⟩) := by simp [next]
      rw [calls, closes, calls_of_done rfl, List.replicate_succ]

/-- **Framing.** Written one after the other, messages of any kinds are found one by one, whatever bytes follow. Where
nothing follows, or bytes that start with a zero, nothing else is found, at the next call or any later one. And each is
read as the normal form of the message that was written: by the layout of its kind, and where the adapter sends it, by
its id. -/
theorem finds_what_was_written (o : ByteOrder) (ms : List Message) (rest : Bytes) :
    calls ms.length (ofBytes (wire o ms ++ rest)) = ms.map (found o) ∧
    (EndsWalk rest →
      ∀ n, calls (ms.length + n) (ofBytes (wire o ms ++ rest)) = ms.map (found o) ++ List.replicate n none) ∧
    ∀ m ∈ ms, m.kind.decode o (m.raw o).bytes = .ok m.normal ∧
      (m.kind ∈ MessageKind.replies → (m.raw o).reply o = .ok m.normal) := by
  refine ⟨?_, ?_, ?_⟩
  · have walk := calls_wire o ms rest 0 0
    rwa [Nat.add_zero, calls, List.append_nil] at walk
  · intro ends n
    rw [ofBytes, calls_wire, calls_of_endsWalk ends]
  · intro m _
    have read := m.decode_encode o []
    rw [List.append_nil] at read
    exact ⟨read, fun sent => Message.reply_raw (Message.isReply_of_mem sent) o⟩

/-- a frame whose payload looks like a header, and the two messages around it -/
def disguised : List Message :=
  [.bus true, .received ⟨0x12, 8, .empty, .ofBytes [0, 0, 0x12, 0x0c, 0, 0, 0, 0], 3⟩, .outcome (-2)]

theorem finds_disguised :
    calls 5 (ofBytes (wire .big disguised ++ shortPacketPad)) = disguised.map (found .big) ++ [none, none] ∧
      ((Message.outcome (-2)).raw .big).reply .big = .ok (.outcome (-2)) := by
  have ends : EndsWalk shortPacketPad := .inr ⟨0, [0, 0], rfl⟩
  obtain ⟨-, walk, read⟩ := finds_what_was_written .big disguised shortPacketPad
  exact ⟨walk ends 2, (read (.outcome (-2)) (by simp [disguised])).2 (by decide)⟩

end Walker

end CanAdapter
