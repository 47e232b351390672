/-
A CAN transfer in parts. How the host cuts its transmit requests into transfers makes no difference, as long as no
message is cut in two: one transfer does what its parts do one after the other, to the channel, to the controller and to
the CAN endpoint. So nothing is carried from one message to the next but what the channel itself holds.

`Walker.StopsAt` is where the walk over a buffer comes to its end. `Walker.stopsAt_iff`: that is behind the messages of
the buffer, so every buffer has one such place. `Walker.messages_take`: the bytes from there on do not count;
`Walker.messages_append_of_whole`: a buffer that is walked to its last byte can stand in front of any other.
`Adapter.canTransfers_compose` is the result, for a channel and for an adapter.
-/
import CanAdapter.Bench.Controller
import CanAdapter.Proofs.History
import CanAdapter.Proofs.TwoRuns
import CanAdapter.Proofs.Walk

namespace CanAdapter

/-! ## Where a walk stops -/

namespace Walker

variable {bytes more : Bytes} {offset : Nat}

/-- The walk over the buffer gets to the offset and finds no message there: without an error at the end of the buffer,
and else at a header that ends the walk or cannot be right. -/
def StopsAt (bytes : Bytes) (offset : Nat) : Prop :=
  ∃ n, (after n (ofBytes bytes)).offset = offset ∧ ∀ m, (after n (ofBytes bytes)).next.1 ≠ some (.ok m)

namespace Path

variable {w w' : Walker} {ms : List RawMessage}

theorem after_length (h : Path w ms w') : after ms.length w = w' := by
  induction h with
  | nil => rfl
  | cons found _ ih =>
    obtain ⟨answer, -⟩ := found
    rw [List.length_cons, after, answer]
    exact ih

/-- on its way the walk finds a message at every call -/
theorem exists_found (h : Path w ms w') {n : Nat} (before : n < ms.length) :
    ∃ m, (after n w).next.1 = some (.ok m) := by
  induction h generalizing n with
  | nil => cases before
  | @cons _ _ _ m _ found _ ih =>
    obtain ⟨answer, -⟩ := found
    cases n with
    | zero => exact ⟨m, congrArg Prod.fst answer⟩
    | succ n =>
      rw [after, answer]
      exact ih (Nat.lt_of_succ_lt_succ before)

end Path

/-- a walk stops behind the messages of its buffer, and nowhere else -/
theorem stopsAt_iff : StopsAt bytes offset ↔ offset = ((messages bytes).flatMap (·.bytes)).length := by
  obtain ⟨ms, w', last, path, halted⟩ := exists_path 0 bytes
  rw [messages_eq path halted]
  have behind (n : Nat) := path.offset_after halted n
  constructor
  · rintro ⟨n, rfl, none⟩
    have past : ms.length ≤ n := by
      refine Nat.le_of_not_lt fun before => ?_
      obtain ⟨m, found⟩ := path.exists_found before
      exact none m found
    have stands := behind n
    rwa [List.take_of_length_le past, Nat.zero_add] at stands
  · rintro rfl
    have stands := behind ms.length
    rw [List.take_length, Nat.zero_add] at stands
    refine ⟨ms.length, stands, fun m found => ?_⟩
    have answer := halted.answer
    rw [← path.after_length] at answer
    rw [ofBytes, answer] at found
    cases last <;> cases found

/-- every walk stops somewhere in its buffer -/
theorem exists_stop (bytes : Bytes) : ∃ offset, offset ≤ bytes.length ∧ ∀ o, StopsAt bytes o ↔ o = offset := by
  obtain ⟨rest, split, -, -⟩ := exists_rest bytes
  refine ⟨_, ?_, fun o => stopsAt_iff⟩
  rw [congrArg List.length split, List.length_append]
  exact Nat.le_add_right ..

/-- what stands behind the place where the walk stops does not count -/
theorem messages_take (h : StopsAt bytes offset) : messages (bytes.take offset) = messages bytes := by
  obtain ⟨rest, split, -, framed⟩ := exists_rest bytes
  have front : bytes.take offset = (messages bytes).flatMap (·.bytes) := by
    rw [stopsAt_iff.1 h]
    exact (congrArg (List.take _) split).trans List.take_left
  have alone := messages_append framed []
  rw [List.append_nil] at alone
  rw [front, alone]
  exact List.append_nil _

/-- in front of other bytes a buffer without a rest adds its messages to theirs -/
theorem messages_append_of_whole (whole : StopsAt bytes bytes.length) (more : Bytes) :
    messages (bytes ++ more) = messages bytes ++ messages more := by
  obtain ⟨rest, split, -, framed⟩ := exists_rest bytes
  have none : rest = [] := by
    have length := congrArg List.length split
    rw [List.length_append, ← stopsAt_iff.1 whole] at length
    exact List.length_eq_zero_iff.1 (Nat.left_eq_add.1 length)
  rw [none, List.append_nil] at split
  calc messages (bytes ++ more)
    _ = messages ((messages bytes).flatMap (·.bytes) ++ more) := congrArg (fun front => messages (front ++ more)) split
    _ = messages bytes ++ messages more := messages_append framed more

end Walker

open Walker

/-! ## One transfer for two -/

variable {σ : Type} [Controller σ] {first more : Bytes}

theorem Channel.transmissions_append (whole : StopsAt first first.length) (more : Bytes) (c : Channel σ) :
    c.transmissions (first ++ more) = c.transmissions first >>= fun c => c.transmissions more := by
  unfold transmissions
  rw [messages_append_of_whole whole, List.foldlM_append]

theorem Channel.transmissions_take {bytes : Bytes} {offset : Nat} (stops : StopsAt bytes offset) (c : Channel σ) :
    c.transmissions (bytes.take offset) = c.transmissions bytes := by
  rw [transmissions, messages_take stops]
  rfl

theorem Lane.step_canData_append (whole : StopsAt first first.length) (more : Bytes) (l : Lane σ) :
    l.step (.canData (first ++ more)) = l.step (.canData first) >>= fun l => l.step (.canData more) := by
  simp only [Lane.step, Lane.onChannel, Channel.transmissions_append whole, bind_assoc, pure_bind]

omit [Controller σ] in
theorem updateAt_eq_bind {α β : Type} {f g h : α → Checked (β × α)} (seq : ∀ a, h a = f a >>= fun r => g r.2)
    (n : Nat) (as : List α) : updateAt h n as = updateAt f n as >>= fun r => updateAt g n r.2 := by
  induction as generalizing n with
  | nil =>
    have nobody (f : α → Checked (β × α)) : updateAt f n [] = .ok (none, []) := by rw [updateAt]
    rw [nobody, nobody]
    exact (nobody g).symm
  | cons a as ih =>
    cases n with
    | zero => simp only [updateAt, seq, bind_assoc, pure_bind]
    | succ n => simp only [updateAt, ih, bind_assoc, pure_bind]

theorem Adapter.stepLane_eq_bind {op op₁ op₂ : LaneOp}
    (seq : ∀ l : Lane σ, l.step op = l.step op₁ >>= fun l => l.step op₂) (i : Nat) (a : Adapter σ) :
    a.stepLane i op = a.stepLane i op₁ >>= fun a => a.stepLane i op₂ := by
  have lanes := updateAt_eq_bind (h := fun l : Lane σ => (fun l => ((), l)) <$> l.step op)
    (f := fun l => (fun l => ((), l)) <$> l.step op₁) (g := fun l => (fun l => ((), l)) <$> l.step op₂)
    (fun l => by simp only [seq, map_eq_pure_bind, bind_assoc, pure_bind]) i a.lanes
  rw [stepLane, atLane, lanes]
  simp only [stepLane, atLane, map_eq_pure_bind, bind_assoc, pure_bind]

/-- **CAN transfers compose.** A transfer whose walk ends with its last byte may have any bytes behind it: the two
together do what they do one after the other, down to every call of the controller and every transfer that is started,
and fail where these would fail. Every walk stops at one place of its buffer, and of any transfer only the bytes before
that place count. For an adapter this says that the host may send the two parts in one transfer on the CAN pipe or in
two. -/
theorem Adapter.canTransfers_compose (σ : Type) [Controller σ] :
    (∀ (c : Channel σ) (first more : Bytes), StopsAt first first.length →
      c.transmissions (first ++ more) = c.transmissions first >>= fun c => c.transmissions more) ∧
    (∀ bytes : Bytes, ∃ offset, offset ≤ bytes.length ∧ ∀ o, StopsAt bytes o ↔ o = offset) ∧
    (∀ (c : Channel σ) (bytes : Bytes) (offset : Nat), StopsAt bytes offset →
      c.transmissions bytes = c.transmissions (bytes.take offset)) ∧
    ∀ (a : Adapter σ) (endpoint : UInt8) (i : Nat) (first more : Bytes), route endpoint = some (i, .can) →
      StopsAt first first.length →
      a.run [.out endpoint (first ++ more)] = a.run [.out endpoint first, .out endpoint more] := by
  refine ⟨?_, exists_stop, ?_, ?_⟩
  · intro c first more whole
    exact Channel.transmissions_append whole more c
  · intro c bytes offset stops
    exact (Channel.transmissions_take stops c).symm
  · intro a endpoint i first more routed whole
    have lane := stepLane_eq_bind (Lane.step_canData_append whole more) i a
    simp only [run, List.foldlM_cons, List.foldlM_nil, step, routed, lane, bind_pure]

namespace Channel

/-- a transmit request, and a message that is none -/
def requestFirst : Bytes := [0x12, 12, 0, 0, 5, 0, 0, 0, 7, 0, 0, 0, 0x55, 4, 1, 2]

/-- a request that does not read, another one, and bytes behind the end -/
def requestMore : Bytes := [0x12, 4, 9, 9, 0x12, 12, 0, 0, 6, 0, 0, 0, 8, 0, 0, 0, 0, 0, 0x12, 12]

/-- one place in the controller: the first request takes it, the second is dropped and reported -/
theorem requests_compose : ∃ c c' c'' : Channel (Logged SimController),
    StopsAt requestFirst requestFirst.length ∧ StopsAt requestMore 16 ∧
      create 0 { Config.default with txFifo := 1 } ⟨{}, []⟩ >>= (commands [8, 4, 1, 0]) = .ok c ∧
      c.transmissions (requestFirst ++ requestMore) = .ok c'' ∧ c.transmissions requestFirst = .ok c' ∧
      c'.transmissions (requestMore.take 16) = .ok c'' ∧ c''.controller.calls = c'.controller.calls ∧
      c'.can.filling = [] ∧ c''.can.filling = [0x13, 8, 8, 0x20, 0, 0, 0, 0] := by
  have whole : StopsAt requestFirst requestFirst.length := ⟨2, rfl, nofun⟩
  have stops : StopsAt requestMore 16 := ⟨2, rfl, nofun⟩
  have ran : Checked.passes (fun r : Channel (Logged SimController) × Channel (Logged SimController) =>
      Checked.passes (fun c'' => decide (c''.controller.calls = r.2.controller.calls ∧ r.2.can.filling = [] ∧
        c''.can.filling = [0x13, 8, 8, 0x20, 0, 0, 0, 0])) (r.2.transmissions (requestMore.take 16)))
      (create 0 { Config.default with txFifo := 1 } ⟨{}, []⟩ >>= (commands [8, 4, 1, 0]) >>= fun c =>
        c.transmissions requestFirst >>= fun c' => pure (c, c')) = true := by
    decide +kernel
  obtain ⟨c, c', joined, sent, holds⟩ := Checked.of_passes_pair ran
  obtain ⟨c'', more, holds⟩ := Checked.of_passes holds
  obtain ⟨calls, before, after⟩ := of_decide_eq_true holds
  obtain ⟨compose, -, cut, -⟩ := Adapter.canTransfers_compose (Logged SimController)
  refine ⟨c, c', c'', whole, stops, joined, ?_, sent, more, calls, before, after⟩
  calc c.transmissions (requestFirst ++ requestMore)
    _ = c.transmissions requestFirst >>= fun c => c.transmissions requestMore :=
      compose c requestFirst requestMore whole
    _ = c'.transmissions requestMore := by
      rw [sent]
      rfl
    _ = .ok c'' := (cut c' requestMore 16 stops).trans more

end Channel

end CanAdapter
