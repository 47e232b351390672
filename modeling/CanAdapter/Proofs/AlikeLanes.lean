/-
Lanes that behave alike from now on: their channels are alike, their reporting tasks remember the same, and since two
points of their histories they showed the same. Whatever happens to both, they stay so and answer alike, up to
`Lane.Alike.wakeUp`, `Lane.Alike.serve` and `Lane.Alike.step`; `Lane.Alike.plays` is the result for histories.
-/
import CanAdapter.Proofs.Alike
import CanAdapter.Proofs.History

namespace CanAdapter

open Checked

/-- the same event for a controller with a log; what the controller does by itself does not go into the log -/
def LaneEvent.logged {σ : Type} : LaneEvent σ → LaneEvent (Logged σ)
  | .op o => .op o
  | .moved f => .moved fun r => { r with state := f r.state }

namespace Lane

variable {σ : Type} {b₁ b₂ l₁ l₂ : Lane (Logged σ)}

/-- alike channels, reporting tasks in the same state, and since `b₁` and `b₂` the same was shown -/
structure Alike (b₁ b₂ l₁ l₂ : Lane (Logged σ)) : Prop where
  channel : Channel.Alike b₁.channel b₂.channel l₁.channel l₂.channel
  reporter : l₁.reporter = l₂.reporter
  leds : Continues b₁.leds b₂.leds l₁.leds l₂.leds
  bursts : Continues b₁.bursts b₂.bursts l₁.bursts l₂.bursts
  delays : Continues b₁.delays b₂.delays l₁.delays l₂.delays

theorem Alike.takeStatus (h : Alike b₁ b₂ l₁ l₂) (now : Nat) :
    Agree (SameAnswer (Alike b₁ b₂)) (l₁.takeStatus now) (l₂.takeStatus now) := by
  have popped := h.channel.status.pop
  unfold Lane.takeStatus
  generalize l₁.channel.status.pop = x at popped ⊢
  generalize l₂.channel.status.pop = y at popped ⊢
  obtain ⟨e, s₁⟩ := x
  obtain ⟨_, s₂⟩ := y
  obtain ⟨rfl, status⟩ := popped
  cases e with
  | none => exact .ok ⟨rfl, h⟩
  | some e =>
    rw [h.reporter]
    exact .ok ⟨rfl, { h with channel := { h.channel with status }, reporter := rfl }⟩

theorem Alike.placeOldest {α : Type} {k : Nat} {ring : Channel (Logged σ) → Ring α k} {message : α → Message}
    {noted : Reporter → Reporter} {done : Channel (Logged σ) → Checked (Channel (Logged σ))} (h : Alike b₁ b₂ l₁ l₂)
    (same : Ring.Alike (ring l₁.channel) (ring l₂.channel))
    (released : ∀ {c₁ c₂}, Channel.Alike b₁.channel b₂.channel c₁ c₂ →
      Agree (Channel.Alike b₁.channel b₂.channel) (done c₁) (done c₂)) :
    Agree (SameAnswer (Alike b₁ b₂)) (placeOldest ring message noted done l₁)
      (placeOldest ring message noted done l₂) := by
  unfold Lane.placeOldest
  rw [same.peek, h.reporter]
  split
  · exact .ok ⟨rfl, h⟩
  · refine (h.channel.place _).bind ?_
    rintro ⟨b, c₁⟩ ⟨_, c₂⟩ ⟨rfl, placed⟩
    cases b with
    | false => exact .ok ⟨rfl, { h with channel := placed, reporter := rfl }⟩
    | true => exact (released placed).bind fun _ _ done => .ok ⟨rfl, { h with channel := done, reporter := rfl }⟩

theorem Alike.inOrder {sources : List (Lane (Logged σ) → Checked (Move × Lane (Logged σ)))}
    (hs : ∀ source ∈ sources, ∀ {l₁ l₂}, Alike b₁ b₂ l₁ l₂ → Agree (SameAnswer (Alike b₁ b₂)) (source l₁) (source l₂))
    (h : Alike b₁ b₂ l₁ l₂) :
    Agree (SameAnswer (Alike b₁ b₂)) (inOrder sources l₁) (inOrder sources l₂) := by
  induction sources generalizing l₁ l₂ with
  | nil => exact .ok ⟨rfl, h⟩
  | cons source sources ih =>
    have later {l₁ l₂} := @ih l₁ l₂ fun s hm => hs s (List.mem_cons_of_mem _ hm)
    refine (hs source List.mem_cons_self h).bind ?_
    rintro ⟨move, l₁⟩ ⟨_, l₂⟩ ⟨rfl, first⟩
    cases move with
    | blocked => exact .ok ⟨rfl, first⟩
    | idle => exact later first
    | moved =>
      refine (later first).bind ?_
      rintro ⟨move, l₁⟩ ⟨_, l₂⟩ ⟨rfl, second⟩
      cases move <;> exact .ok ⟨rfl, second⟩

theorem Alike.maxPasses (h : Alike b₁ b₂ l₁ l₂) : l₁.maxPasses = l₂.maxPasses := by
  unfold Lane.maxPasses
  rw [h.channel.status.used, h.channel.errors.used, h.channel.rx.used, h.channel.tx.used]

theorem Alike.updateLed (h : Alike b₁ b₂ l₁ l₂) (now : Nat) : Alike b₁ b₂ (l₁.updateLed now) (l₂.updateLed now) := by
  unfold Lane.updateLed
  simp only [h.reporter]
  split
  · exact h
  · exact { h with reporter := rfl, leds := h.leds.append _ }

theorem Alike.rest (h : Alike b₁ b₂ l₁ l₂) : Alike b₁ b₂ l₁.rest l₂.rest := by
  have leds : Continues b₁.leds b₂.leds
      (if l₂.reporter.led = .disabled then l₁.leds else l₁.leds ++ [.disabled])
      (if l₂.reporter.led = .disabled then l₂.leds else l₂.leds ++ [.disabled]) := by
    split
    · exact h.leds
    · exact h.leds.append _
  unfold Lane.rest
  rw [h.reporter]
  exact { h with
    channel := { h.channel with
      rx := Ring.alike_clear h.channel.rx.staged
      lost := h.channel.lost
      tx := Ring.alike_clear h.channel.tx.staged
      status := Ring.alike_clear h.channel.status.staged
      errors := Ring.alike_clear h.channel.errors.staged }
    leds
    reporter := rfl }

variable [Controller σ]

theorem Alike.placeReport (h : Alike b₁ b₂ l₁ l₂) :
    Agree (SameAnswer (Alike b₁ b₂)) l₁.placeReport l₂.placeReport := by
  unfold Lane.placeReport
  rw [h.reporter]
  split
  · exact .ok ⟨rfl, h⟩
  · refine (h.channel.makeRoom _).bind ?_
    intro r₁ r₂ made
    cases made with
    | none => exact .ok ⟨rfl, h⟩
    | @some c₁ c₂ made =>
      obtain ⟨report, told⟩ := made.snapshot l₂.reporter.busStatus
      have placed := told.appendCan (.busReport (c₂.snapshot l₂.reporter.busStatus).1)
      simp only [report]
      generalize (c₁.snapshot l₂.reporter.busStatus).2.can.appendMessage _ _ = x at placed ⊢
      generalize (c₂.snapshot l₂.reporter.busStatus).2.can.appendMessage _ _ = y at placed ⊢
      cases placed with
      | none => exact .ok ⟨rfl, { h with channel := told, reporter := rfl }⟩
      | some fits => exact .ok ⟨rfl, { h with channel := { told with can := fits }, reporter := rfl }⟩

theorem Alike.pass (h : Alike b₁ b₂ l₁ l₂) (now : Nat) :
    Agree (SameAnswer (Alike b₁ b₂)) (l₁.pass now) (l₂.pass now) := by
  refine h.inOrder ?_
  intro source hs l₁ l₂ h
  simp only [List.mem_cons, List.not_mem_nil, or_false] at hs
  rcases hs with rfl | rfl | rfl | rfl | rfl
  · exact h.placeReport
  · exact h.takeStatus now
  · exact h.placeOldest h.channel.errors fun placed => .ok { placed with errors := placed.errors.consume }
  · refine h.placeOldest h.channel.rx fun {c₁ c₂} placed => .ok { placed with rx := placed.rx.consume, lost := ?_ }
    exact (Ring.lost_consume _).trans (placed.lost.trans (Ring.lost_consume _).symm)
  · refine h.placeOldest h.channel.tx fun {c₁ c₂} placed => Channel.Alike.returnCredit ?_
    exact { placed with tx := placed.tx.consume }

/-- induction on the passes that are left -/
theorem Alike.passes (h : Alike b₁ b₂ l₁ l₂) (now n : Nat) :
    Agree (SameAnswer (Alike b₁ b₂)) (l₁.passes now n) (l₂.passes now n) := by
  induction n generalizing l₁ l₂ with
  | zero => exact .ok ⟨rfl, h⟩
  | succ n ih =>
    refine (h.pass now).bind ?_
    rintro ⟨move, l₁⟩ ⟨_, l₂⟩ ⟨rfl, passed⟩
    cases move with
    | moved => exact ih passed
    | blocked | idle => exact .ok ⟨rfl, passed⟩

theorem Alike.drain (h : Alike b₁ b₂ l₁ l₂) (now : Nat) :
    Agree (SameAnswer (Alike b₁ b₂)) (l₁.drain now) (l₂.drain now) := by
  unfold Lane.drain
  rw [h.maxPasses]
  exact (h.passes now _).bind fun r₁ r₂ passed => .ok ⟨congrArg (· == .blocked) passed.1, passed.2⟩

theorem Alike.wakeUp (h : Alike b₁ b₂ l₁ l₂) (now : Nat) :
    Agree (SameAnswer (Alike b₁ b₂)) (l₁.wakeUp now) (l₂.wakeUp now) := by
  unfold Lane.wakeUp
  rw [h.channel.mounted, h.channel.enabled]
  split
  · exact .ok ⟨rfl, h.rest⟩
  · split
    · exact .ok ⟨rfl, h.rest⟩
    · have begun : Alike b₁ b₂
          { l₁ with bursts := l₁.bursts ++ [burstLength], reporter := { l₁.reporter with reportDue := true } }
          { l₂ with bursts := l₂.bursts ++ [burstLength], reporter := { l₂.reporter with reportDue := true } } :=
        { h with bursts := h.bursts.append _, reporter := by rw [h.reporter] }
      refine (begun.drain now).bind ?_
      rintro ⟨blocked, l₁⟩ ⟨_, l₂⟩ ⟨rfl, drained⟩
      refine drained.channel.can.flush.bind ?_
      intro can₁ can₂ flushed
      have shown : Alike b₁ b₂ { l₁ with channel := { l₁.channel with can := can₁ } }
          { l₂ with channel := { l₂.channel with can := can₂ } } :=
        { drained with channel := { drained.channel with can := flushed } }
      have shown := shown.updateLed now
      cases blocked with
      | true => exact .ok ⟨rfl, { shown with channel := shown.channel.signal, delays := shown.delays.append _ }⟩
      | false => exact .ok ⟨rfl, shown⟩

theorem Alike.serve (h : Alike b₁ b₂ l₁ l₂) (now : Nat) :
    Agree (SameAnswer (Alike b₁ b₂)) (l₁.serve now) (l₂.serve now) := by
  unfold Lane.serve
  rw [h.channel.wake]
  split
  · have untold : Alike b₁ b₂ { l₁ with channel := { l₁.channel with wake := false } }
        { l₂ with channel := { l₂.channel with wake := false } } :=
      { h with channel := { h.channel with wake := rfl } }
    exact (untold.wakeUp now).bind fun r₁ r₂ looked => .ok ⟨congrArg some looked.1, looked.2⟩
  · exact .ok ⟨rfl, h⟩

theorem Alike.step (h : Alike b₁ b₂ l₁ l₂) (op : LaneOp) : Agree (Alike b₁ b₂) (l₁.step op) (l₂.step op) := by
  have onChannel {f : Channel (Logged σ) → Checked (Channel (Logged σ))}
      (hf : Agree (Channel.Alike b₁.channel b₂.channel) (f l₁.channel) (f l₂.channel)) :
      Agree (Alike b₁ b₂) (l₁.onChannel f) (l₂.onChannel f) :=
    hf.bind fun _ _ channel => .ok { h with channel }
  cases op with
  | mount => exact .ok { h with channel := h.channel.setMounted true }
  | detach =>
    simp only [Lane.step]
    refine onChannel ?_
    exact h.channel.reset.bind fun _ _ reset => .ok (reset.setMounted false)
  | usbReset => exact .ok { h with channel := { h.channel with
      command := h.channel.command.reset
      can := h.channel.can.reset
      mounted := rfl
      wake := rfl } }
  | commandData bytes => exact onChannel (h.channel.commands bytes)
  | canData bytes => exact onChannel (h.channel.transmissions bytes)
  | commandDone =>
    simp only [Lane.step]
    refine onChannel ?_
    exact h.channel.command.complete.bind fun _ _ command => .ok { h.channel with command }
  | canDone =>
    simp only [Lane.step]
    refine onChannel ?_
    exact h.channel.can.complete.bind fun _ _ can => .ok { h.channel with can, wake := rfl }
  | poll => exact onChannel h.channel.poll
  | wakeUp now => exact (h.wakeUp now).map fun _ _ looked => looked.2
  | serve now => exact (h.serve now).map fun _ _ looked => looked.2

theorem Alike.play (h : Alike b₁ b₂ l₁ l₂) (e : LaneEvent σ) :
    Agree (Alike b₁ b₂) (l₁.play e.logged) (l₂.play e.logged) := by
  cases e with
  | op op => exact h.step op
  | moved f =>
    have controller : Logged.Alike b₁.channel.controller.calls b₂.channel.controller.calls
        ⟨f l₁.channel.controller.state, l₁.channel.controller.calls⟩
        ⟨f l₂.channel.controller.state, l₂.channel.controller.calls⟩ :=
      ⟨h.channel.controller.read f, h.channel.controller.calls⟩
    exact .ok { h with channel := { h.channel with controller } }

theorem Alike.plays (h : Alike b₁ b₂ l₁ l₂) (es : List (LaneEvent σ)) :
    Agree (Alike b₁ b₂) (l₁.plays (es.map .logged)) (l₂.plays (es.map .logged)) := by
  unfold Lane.plays
  rw [List.foldlM_map, List.foldlM_map]
  exact agree_foldlM (fun e _ _ h => h.play e) h

end Lane

end CanAdapter
