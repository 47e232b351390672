/-
What holds of a lane at any time, whatever happens: the last batch of every ring is closed, and the CAN endpoint
collects whole messages only.

`sound_play`: every event keeps it; so it holds all through the history of a fresh lane, `sound_plays`, and what the
events keep of a sound lane holds too, `plays_keeps_of_sound`.
-/
import CanAdapter.Proofs.History
import CanAdapter.Proofs.Interrupt
import CanAdapter.Proofs.Look
import CanAdapter.Proofs.Requests

namespace CanAdapter

namespace Channel

variable {σ : Type} {c c' : Channel σ}

/-- what holds of a channel at any time -/
structure Sound (c : Channel σ) : Prop where
  settled : c.Settled
  whole : c.can.Whole c.config.order

theorem sound_create {index : UInt8} {config : Config} {s : σ} (h : create index config s = .ok c) : c.Sound := by
  obtain ⟨settings, -, h⟩ := Checked.bind_eq_ok.1 h
  cases h
  exact ⟨⟨Ring.closed_empty _, Ring.closed_empty _, Ring.closed_empty _, Ring.closed_empty _⟩,
    Endpoint.whole_of_empty _ rfl⟩

variable [Controller σ]

theorem sound_reset (h : c.reset = .ok c') (hc : c.Sound) : c'.Sound := by
  obtain ⟨settings, -, h⟩ := Checked.bind_eq_ok.1 h
  cases h
  exact ⟨⟨hc.settled.rx, hc.settled.tx, hc.settled.status, hc.settled.errors⟩, Endpoint.whole_of_empty _ rfl⟩

theorem sound_setBus (on : Bool) (hc : c.Sound) : (c.setBus on).Sound := by
  unfold setBus
  split
  · exact hc
  · split <;> exact ⟨⟨hc.settled.rx, hc.settled.tx, hc.settled.status, hc.settled.errors⟩, hc.whole⟩

theorem kept_sound (bytes : Bytes) : Kept (Sound (σ := σ)) bytes where
  reply _ hc := ⟨⟨hc.settled.rx, hc.settled.tx, hc.settled.status, hc.settled.errors⟩, hc.whole⟩
  retime _ _ hc := ⟨⟨hc.settled.rx, hc.settled.tx, hc.settled.status, hc.settled.errors⟩, hc.whole⟩
  bus _ _ _ hc := sound_setBus _ hc
  hello _ _ h hc := sound_reset h hc

theorem Sent.sound {fs : List (TxRequest × Fate)} (h : Sent fs c c') (hc : c.Sound) : c'.Sound := by
  have whole := h.can.appends.whole hc.whole
  rw [h.channel]
  exact ⟨⟨hc.settled.rx, hc.settled.tx, hc.settled.status, hc.settled.errors⟩, whole⟩

theorem Polled.sound {a : Arrivals} (h : Polled a c c') (hc : c.Sound) : c'.Sound := by
  have settled : c'.Settled :=
    ⟨h.rx.2.trans hc.settled.rx, h.tx.2.trans hc.settled.tx, h.status.2.trans hc.settled.status,
      h.errors.2.trans hc.settled.errors⟩
  refine ⟨settled, ?_⟩
  rw [h.channel]
  exact hc.whole

end Channel

namespace Lane

variable {σ : Type} {l l' : Lane σ}

def Sound (l : Lane σ) : Prop := l.channel.Sound

/-- whether the task was told to look does not matter -/
theorem Sound.unsignalled (h : l.Sound) : Sound { l with channel := { l.channel with wake := false } } :=
  ⟨⟨h.settled.rx, h.settled.tx, h.settled.status, h.settled.errors⟩, h.whole⟩

theorem Flow.sound {ms : List Message} (h : Flow ms l l') (hl : l.Sound) : l'.Sound := by
  obtain ⟨taken, -, tx⟩ := h.tx
  obtain ⟨changes, status⟩ := h.status
  have order : l'.channel.config.order = l.channel.config.order := congrArg (·.config.order) h.channel
  refine ⟨⟨h.rx.2.trans hl.settled.rx, tx.2.trans hl.settled.tx, status.2.trans hl.settled.status,
    h.errors.2.trans hl.settled.errors⟩, ?_⟩
  rw [order]
  exact h.can.appends.whole hl.whole

theorem sound_rest (hl : l.Sound) : l.rest.Sound :=
  ⟨⟨(Ring.staged_clear _).trans hl.settled.rx, (Ring.staged_clear _).trans hl.settled.tx,
    (Ring.staged_clear _).trans hl.settled.status, (Ring.staged_clear _).trans hl.settled.errors⟩, hl.whole⟩

theorem sound_of_fresh (h : l.Fresh) : l.Sound := by
  obtain ⟨index, config, s, c, hc, rfl⟩ := h
  have sound := Channel.sound_create hc
  exact ⟨⟨sound.settled.rx, sound.settled.tx, sound.settled.status, sound.settled.errors⟩, sound.whole⟩

variable [Controller σ]

theorem sound_wakeUp {now : Nat} {outcome : WakeOutcome} (h : l.wakeUp now = .ok (outcome, l')) (hl : l.Sound) :
    l'.Sound := by
  rcases wakeUp_cases h with ⟨-, -, rfl⟩ | ⟨-, -, -, rfl⟩ | ⟨-, -, -, ms, flow, -⟩
  · exact sound_rest hl
  · exact sound_rest hl
  · exact flow.sound hl

theorem sound_play {e : LaneEvent σ} (h : l.play e = .ok l') (hl : l.Sound) : l'.Sound := by
  have settled := hl.settled
  have same {c : Channel σ} (rx : c.rx = l.channel.rx) (tx : c.tx = l.channel.tx)
      (status : c.status = l.channel.status) (errors : c.errors = l.channel.errors) : c.Settled :=
    ⟨rx ▸ settled.rx, tx ▸ settled.tx, status ▸ settled.status, errors ▸ settled.errors⟩
  cases stepped h with
  | moved => exact ⟨same rfl rfl rfl rfl, hl.whole⟩
  | mount => exact ⟨same rfl rfl rfl rfl, hl.whole⟩
  | detach reset =>
    have sound := Channel.sound_reset reset hl
    exact ⟨⟨sound.settled.rx, sound.settled.tx, sound.settled.status, sound.settled.errors⟩, sound.whole⟩
  | usbReset => exact ⟨same rfl rfl rfl rfl, Endpoint.whole_of_empty _ rfl⟩
  | commandData commands => exact Channel.commands_keep (Channel.kept_sound _) commands hl
  | canData transmissions =>
    obtain ⟨fs, -, sent⟩ := Channel.sent_transmissions transmissions
    exact sent.sound hl
  | commandDone => exact ⟨same rfl rfl rfl rfl, hl.whole⟩
  | canDone complete => exact ⟨same rfl rfl rfl rfl, (Endpoint.appends_complete complete).whole hl.whole⟩
  | poll poll =>
    obtain ⟨a, -, polled⟩ := Channel.poll_cases settled poll
    exact polled.sound hl
  | wakeUp look => exact sound_wakeUp look hl
  | serve told look => exact sound_wakeUp look hl.unsignalled
  | wait => exact hl

theorem sound_plays {es : List (LaneEvent σ)} (h : l.plays es = .ok l') (hl : l.Sound) : l'.Sound :=
  plays_keeps sound_play h hl

/-- what each event of a history keeps of a sound lane, the history keeps -/
theorem plays_keeps_of_sound {P : Lane σ → Prop} {es : List (LaneEvent σ)}
    (step : ∀ e ∈ es, ∀ {k k' : Lane σ}, k.Sound → k.play e = .ok k' → P k → P k') (h : l.plays es = .ok l')
    (sound : l.Sound) (hl : P l) : P l' := by
  have kept : l'.Sound ∧ P l' := by
    refine Checked.foldlM_keeps (P := fun k : Lane σ => k.Sound ∧ P k) ?_ h ⟨sound, hl⟩
    intro e mem k k' played hk
    exact ⟨sound_play played hk.1, step e mem hk.1 played hk.2⟩
  exact kept.2

end Lane

end CanAdapter
