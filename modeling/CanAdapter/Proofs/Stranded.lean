/-
Reports that wait for nobody. The answer to a refused transmit request is written into the CAN endpoint while the host's
transfer is handled, and it is the reporting task that hands it over when it looks.

On the bus a look leaves nothing behind that no completion will take along. Off the bus it returns before it comes to
the endpoint, so what waits there stays there: `Adapter.look_strands_iff` is the exact condition, and also says what the
host reads otherwise. `droppedOffBus_is_stranded` is a history that ends so.
-/
import CanAdapter.Bench.Controller
import CanAdapter.Proofs.Isolation

namespace CanAdapter

open Checked

/-! ## Endpoints -/

namespace Endpoint

variable {size : Nat} {e e' : Endpoint size} {o : ByteOrder}

/-- bytes wait, but for no completion -/
def Stranded (e : Endpoint size) : Prop := e.filling ≠ [] ∧ e.sending = []

instance (e : Endpoint size) : Decidable e.Stranded := inferInstanceAs (Decidable (_ ∧ _))

theorem not_stranded_iff : ¬ e.Stranded ↔ e.filling = [] ∨ e.sending ≠ [] := by
  rw [Stranded, Decidable.not_and_iff_not_or_not, Decidable.not_not]

/-- once the outstanding transfer is done, all that was written is with the host -/
theorem Carries.handed {base : Nat} {ms : List Message} (h : e.Carries o base ms) (aligned : size % packetSize = 0) :
    ∃ e', e.complete = .ok e' ∧ e'.filling = [] ∧ readTransfers o (e'.started.drop base) = .ok (ms.map (·.normal)) := by
  obtain ⟨e', completed, -⟩ := succeeds_complete aligned e
  have empty : e'.filling = [] := by
    rcases complete_cases completed with ⟨empty, rfl⟩ | ⟨-, -, transfer, -, rfl⟩
    · exact empty
    · rfl
  obtain ⟨sent, pending, all, -, -, read, filling⟩ := appends_complete completed _ _ h
  have none : pending = [] := by
    have short := length_le_wire o pending
    rw [← filling, empty, List.length_nil] at short
    exact List.eq_nil_of_length_eq_zero (by omega)
  rw [List.append_nil, none, List.append_nil] at all
  exact ⟨e', completed, empty, all ▸ read⟩

end Endpoint

/-! ## Looks -/

/-- the adapter is left to itself: interrupts, looks and the controller -/
def LaneEvent.unattended {σ : Type} : LaneEvent σ → Bool
  | .op .poll | .op (.wakeUp _) | .op (.serve _) | .moved _ => true
  | _ => false

namespace Lane

variable {σ : Type} [Controller σ] {l l' : Lane σ} {e : LaneEvent σ} {es : List (LaneEvent σ)} {now : Nat}
  {outcome : WakeOutcome}

theorem wakeUp_off (off : l.channel.enabled = false) (h : l.wakeUp now = .ok (outcome, l')) :
    l'.channel.enabled = false ∧ l'.channel.can = l.channel.can := by
  rcases wakeUp_cases h with ⟨-, -, rfl⟩ | ⟨-, -, -, rfl⟩ | ⟨-, on, -⟩
  · exact ⟨off, rfl⟩
  · exact ⟨off, rfl⟩
  · rw [off] at on
    cases on

/-- a look strands nothing on the bus, and rescues nothing off the bus -/
theorem stranded_wakeUp_iff (mounted : l.channel.mounted = true) (h : l.wakeUp now = .ok (outcome, l')) :
    l'.channel.can.Stranded ↔ l.channel.enabled = false ∧ l.channel.can.Stranded := by
  rcases wakeUp_cases h with ⟨-, gone, -⟩ | ⟨-, -, off, rfl⟩ | ⟨-, on, settled, -⟩
  · rw [mounted] at gone
    cases gone
  · exact (and_iff_right off).symm
  · refine iff_of_false (Endpoint.not_stranded_iff.2 settled) ?_
    rw [on]
    rintro ⟨off, -⟩
    cases off

/-- what a look appends goes to the end of what was pending -/
theorem carries_wakeUp {base : Nat} {pending : List Message} (h : l.wakeUp now = .ok (outcome, l'))
    (carries : l.channel.can.Carries l.channel.config.order base pending) :
    ∃ ms, l'.channel.can.Carries l.channel.config.order base (pending ++ ms) := by
  rcases wakeUp_cases h with ⟨-, -, rfl⟩ | ⟨-, -, -, rfl⟩ | ⟨-, -, -, ms, flow, -⟩
  · exact ⟨[], by rwa [List.append_nil]⟩
  · exact ⟨[], by rwa [List.append_nil]⟩
  · exact ⟨ms, flow.can.appends _ _ carries⟩

theorem off_play (unattended : e.unattended = true) (h : l.play e = .ok l') (sound : l.Sound)
    (off : l.channel.enabled = false) : l'.channel.enabled = false ∧ l'.channel.can = l.channel.can := by
  cases stepped h with
  | moved | wait => exact ⟨off, rfl⟩
  | poll poll =>
    obtain ⟨a, -, polled⟩ := Channel.poll_cases sound.settled poll
    exact ⟨(congrArg (·.enabled) polled.channel).trans off, congrArg (·.can) polled.channel⟩
  | wakeUp look => exact wakeUp_off off look
  | serve told look =>
    exact wakeUp_off (l := { l with channel := { l.channel with wake := false } }) off look
  | mount | detach | usbReset | commandData | canData | commandDone | canDone => cases unattended

/-- off the bus the CAN endpoint does not change by itself -/
theorem off_plays (unattended : ∀ e ∈ es, e.unattended = true) (h : l.plays es = .ok l') (sound : l.Sound)
    (off : l.channel.enabled = false) : l'.channel.can = l.channel.can := by
  have kept : l'.channel.enabled = false ∧ l'.channel.can = l.channel.can := by
    refine plays_keeps_of_sound (P := fun k : Lane σ => k.channel.enabled = false ∧
      k.channel.can = l.channel.can) ?_ h sound ⟨off, rfl⟩
    rintro e mem k k' sound played ⟨off, same⟩
    obtain ⟨off', same'⟩ := off_play (unattended e mem) played sound off
    exact ⟨off', same'.trans same⟩
  exact kept.2

end Lane

/-! ## All histories -/

/-- **What a look leaves behind.** Take a mounted lane in any state that an adapter can come to, and a look at it that
comes to its end. Afterwards bytes wait in the CAN endpoint with no transfer outstanding exactly if the lane is off the
bus and they did so before. If they do not, the completion of the outstanding transfer, if there is one, leaves nothing
to collect, and the host has then read all that was pending before the look, the reports on dropped requests among it,
and after that only what the look added. If they do, the endpoint is as it was before the look, and stays so as long as
the adapter is left to itself, however often the task looks. -/
theorem Adapter.look_strands_iff {σ : Type} [Controller σ] {a₀ a : Adapter σ} {es : List (AdapterEvent σ)}
    (fresh : a₀.Fresh) (history : a₀.plays es = .ok a) {i : Nat} {l l' : Lane σ} (hl : a.lanes[i]? = some l)
    (mounted : l.channel.mounted = true) {now : Nat} {outcome : WakeOutcome}
    (look : l.wakeUp now = .ok (outcome, l')) :
    (l'.channel.can.Stranded ↔ l.channel.enabled = false ∧ l.channel.can.Stranded) ∧
    (¬ l'.channel.can.Stranded → ∃ pending ms can, l.channel.can.filling = wire l.channel.config.order pending ∧
      l'.channel.can.complete = .ok can ∧ can.filling = [] ∧
      readTransfers l.channel.config.order (can.started.drop l.channel.can.started.length) =
        .ok ((pending ++ ms).map (·.normal))) ∧
    (l'.channel.can.Stranded → ∀ (later : List (LaneEvent σ)) (l'' : Lane σ),
      (∀ e ∈ later, e.unattended = true) → l'.plays later = .ok l'' → l''.channel.can = l.channel.can) := by
  have reachable := Lane.reachable_of_fresh fresh history hl
  have strands := Lane.stranded_wakeUp_iff mounted look
  have looked : l.play (.op (.wakeUp now)) = .ok l' := Checked.map_eq_ok.2 ⟨_, look, rfl⟩
  refine ⟨strands, ?_, ?_⟩
  · intro _
    obtain ⟨pending, replies, filling⟩ := reachable.sound.whole
    have before : l.channel.can.Carries l.channel.config.order l.channel.can.started.length pending :=
      ⟨[], pending, rfl, replies, Nat.le_refl _, by simp [readTransfers], filling⟩
    obtain ⟨ms, carries⟩ := Lane.carries_wakeUp look before
    obtain ⟨can, completed, empty, read⟩ := carries.handed aligned_canBank
    exact ⟨pending, ms, can, filling, completed, empty, read⟩
  · intro stranded later l'' unattended played
    obtain ⟨off, -⟩ := strands.1 stranded
    obtain ⟨off', same⟩ := Lane.wakeUp_off off look
    exact (Lane.off_plays unattended played (reachable.play looked).sound off').trans same

namespace Adapter

/-- a host wants a frame sent while the channel is off the bus; `more` comes after it -/
def earlyRequest (more : List (AdapterEvent SimController)) : List (AdapterEvent SimController) :=
  [.op .mount, .op (.out 2 [0x12, 12, 0, 0, 5, 0, 0, 0, 7, 0, 0, 0])] ++ more

/-- whether `p` holds of the only lane after the history, with the outcome of a look and the lane after it -/
def afterEarlyRequest (more : List (AdapterEvent SimController))
    (p : Lane SimController → WakeOutcome → Lane SimController → Bool) : Bool :=
  Checked.passes (fun r : Adapter SimController × Adapter SimController => r.2.lanes[0]?.any fun l =>
    Checked.passes (fun r : WakeOutcome × Lane SimController => p l r.1 r.2) (l.wakeUp 0))
    (single .default {} >>= fun a₀ => a₀.plays (earlyRequest more) >>= fun a => pure (a₀, a))

theorem of_afterEarlyRequest {more : List (AdapterEvent SimController)}
    {p : Lane SimController → WakeOutcome → Lane SimController → Bool} (h : afterEarlyRequest more p = true) :
    ∃ (a₀ a : Adapter SimController) (l l' : Lane SimController) (outcome : WakeOutcome), a₀.Fresh ∧
      a₀.plays (earlyRequest more) = .ok a ∧ a.lanes[0]? = some l ∧ l.wakeUp 0 = .ok (outcome, l') ∧
      p l outcome l' = true := by
  obtain ⟨a₀, a, built, history, found⟩ := Checked.of_passes_pair h
  obtain ⟨l, hl, found⟩ := (Option.any_eq_true _ _).1 found
  obtain ⟨⟨outcome, l'⟩, look, holds⟩ := Checked.of_passes found
  exact ⟨a₀, a, l, l', outcome, fresh_single built, history, hl, look, holds⟩

/-- if the channel joins the bus before the task looks, the host reads that its request was dropped -/
theorem droppedThenJoined_is_read : ∃ (a₀ a : Adapter SimController) (l l' : Lane SimController)
    (outcome : WakeOutcome) (pending ms : List Message) (can : Endpoint canBank), a₀.Fresh ∧
      a₀.plays (earlyRequest [.op (.out 1 [8, 4, 1, 0])]) = .ok a ∧ a.lanes[0]? = some l ∧
      l.wakeUp 0 = .ok (outcome, l') ∧ wire l.channel.config.order pending = [0x13, 8, 7, 0x20, 0, 0, 0, 0] ∧
      l'.channel.can.complete = .ok can ∧ can.filling = [] ∧
      readTransfers l.channel.config.order (can.started.drop l.channel.can.started.length) =
        .ok ((pending ++ ms).map (·.normal)) := by
  have ran : afterEarlyRequest [.op (.out 1 [8, 4, 1, 0])] (fun l _ l' => decide (l.channel.mounted = true ∧
      l.channel.can.filling = [0x13, 8, 7, 0x20, 0, 0, 0, 0] ∧ ¬ l'.channel.can.Stranded)) = true := by
    decide +kernel
  obtain ⟨a₀, a, l, l', outcome, fresh, history, hl, look, holds⟩ := of_afterEarlyRequest ran
  obtain ⟨mounted, report, settled⟩ := of_decide_eq_true holds
  obtain ⟨-, read, -⟩ := look_strands_iff fresh history hl mounted look
  obtain ⟨pending, ms, can, filling, completed, empty, read⟩ := read settled
  exact ⟨a₀, a, l, l', outcome, pending, ms, can, fresh, history, hl, look, filling.symm.trans report, completed,
    empty, read⟩

/-- If it does not, the report lies in the CAN endpoint, and no transfer is outstanding whose completion would take it
along. -/
theorem droppedOffBus_is_stranded : ∃ (a₀ a : Adapter SimController) (l l' : Lane SimController), a₀.Fresh ∧
    a₀.plays (earlyRequest []) = .ok a ∧ a.lanes[0]? = some l ∧ l.channel.mounted = true ∧
    l.wakeUp 0 = .ok (.disabled, l') ∧ l'.channel.can.filling = [0x13, 8, 7, 0x20, 0, 0, 0, 0] ∧
    l'.channel.can.sending = [] ∧ l'.channel.can.started = [] := by
  have ran : afterEarlyRequest [] (fun l outcome l' => decide (l.channel.mounted = true ∧ outcome = .disabled ∧
      l'.channel.can.filling = [0x13, 8, 7, 0x20, 0, 0, 0, 0] ∧ l'.channel.can.sending = [] ∧
      l'.channel.can.started = [])) = true := by
    decide +kernel
  obtain ⟨a₀, a, l, l', outcome, fresh, history, hl, look, holds⟩ := of_afterEarlyRequest ran
  obtain ⟨mounted, rfl, waiting, idle, nothing⟩ := of_decide_eq_true holds
  exact ⟨a₀, a, l, l', fresh, history, hl, mounted, look, waiting, idle, nothing⟩

end Adapter

end CanAdapter
