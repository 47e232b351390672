/-
No lost wake-up. The reporting task only ever acts on a signal, so whatever gives it something to do has to signal.

`Channel.Alert` is the invariant: a channel on the host and on the bus, with an item in a ring or with bytes that an
idle pipe could take, has told its task to look. `alert_play`: every event keeps it, a look included, whether it
drains the rings or is stopped by a busy pipe. `Adapter.work_is_signalled` says so of every lane after any history of
an adapter, and what a look leaves behind.
-/
import CanAdapter.Bench.Controller
import CanAdapter.Proofs.Sound

namespace CanAdapter

namespace Channel

variable {σ : Type} {c c' : Channel σ}

/-- an item in a ring, or bytes that the host could take at once -/
def HasWork (c : Channel σ) : Prop :=
  c.rx.toList ≠ [] ∨ c.tx.toList ≠ [] ∨ c.status.toList ≠ [] ∨ c.errors.toList ≠ [] ∨
    (c.can.filling ≠ [] ∧ c.can.sending = [])

/-- who has work in a session has told the task to look -/
def Alert (c : Channel σ) : Prop := c.mounted = true → c.enabled = true → c.HasWork → c.wake = true

theorem alert_of_wake (h : c.wake = true) : c.Alert := fun _ _ _ => h

theorem alert_of_unmounted (h : c.mounted = false) : c.Alert := by
  intro on
  rw [h] at on
  cases on

theorem alert_of_disabled (h : c.enabled = false) : c.Alert := by
  intro _ on
  rw [h] at on
  cases on

variable [Controller σ]

theorem alert_setBus (on : Bool) (hc : c.Alert) : (c.setBus on).Alert := by
  unfold setBus
  split
  · exact hc
  · split <;> exact alert_of_wake rfl

theorem kept_alert (bytes : Bytes) : Kept (Alert (σ := σ)) bytes where
  reply _ hc := hc
  retime _ _ hc := hc
  bus _ _ _ hc := alert_setBus _ hc
  hello _ _ h _ := by
    obtain ⟨settings, -, h⟩ := Checked.bind_eq_ok.1 h
    cases h
    exact alert_of_wake rfl

theorem Sent.alert {fs : List (TxRequest × Fate)} (h : Sent fs c c') (hc : c.Alert) : c'.Alert := by
  rcases h.wake with ⟨wake, can⟩ | told
  · rw [h.channel, wake, can]
    exact hc
  · exact alert_of_wake told

/-- a poll that publishes anything signals, and one that does not leaves every ring as it was -/
theorem Polled.alert {a : Arrivals} (h : Polled a c c') (hc : c.Alert) : c'.Alert := by
  by_cases told : c'.wake = true
  · exact alert_of_wake told
  · have quiet := h.wake
    rw [Bool.eq_false_iff.2 told, eq_comm, Bool.or_eq_false_iff, decide_eq_false_iff_not] at quiet
    obtain ⟨untold, nothing⟩ := quiet
    have same {α : Type} {k : Nat} {r r' : Ring α k} {as : List α} (none : as.length = 0)
        (gains : r.Gains (as.take r.room) r') : r'.toList = r.toList := by
      rw [gains.1, List.length_eq_zero_iff.1 none, List.take_nil, List.append_nil]
    have rx := same (by omega) h.rx
    have tx := same (by omega) h.tx
    have status := same (by omega) h.status
    have errors := same (by omega) h.errors
    intro mounted enabled work
    rw [h.channel] at mounted enabled
    have can : c'.can = c.can := congrArg (·.can) h.channel
    unfold HasWork at work
    rw [rx, tx, status, errors, can] at work
    exact absurd (hc mounted enabled work) (by simp [untold])

end Channel

namespace Lane

variable {σ : Type} {l l' : Lane σ} {now : Nat} {outcome : WakeOutcome}

variable [Controller σ]

/-- what a look leaves behind: it is stopped only by a transfer that is outstanding, and then it will look again -/
theorem after_wakeUp (h : l.wakeUp now = .ok (outcome, l')) :
    (outcome = .backoff → l'.channel.can.sending ≠ [] ∧ l'.channel.wake = true) ∧
    (outcome = .drained → l'.channel.rx.toList = [] ∧ l'.channel.tx.toList = [] ∧ l'.channel.status.toList = [] ∧
      l'.channel.errors.toList = []) := by
  rcases wakeUp_cases h with ⟨rfl, -⟩ | ⟨rfl, -⟩ | ⟨-, -, -, ms, -, ⟨rfl, busy, told⟩ | ⟨rfl, empty, -⟩⟩
  · simp
  · simp
  · exact ⟨fun _ => ⟨busy, told⟩, fun none => nomatch none⟩
  · exact ⟨(fun none => nomatch none), fun _ => rings_of_load empty⟩

/-- the invariant need not hold before a look: the signal may be consumed already -/
theorem alert_wakeUp (h : l.wakeUp now = .ok (outcome, l')) : l'.channel.Alert := by
  rcases wakeUp_cases h with
    ⟨-, unmounted, rfl⟩ | ⟨-, -, disabled, rfl⟩ | ⟨-, -, pipe, ms, -, ⟨-, -, told⟩ | ⟨-, empty, -⟩⟩
  · exact Channel.alert_of_unmounted unmounted
  · exact Channel.alert_of_disabled disabled
  · exact Channel.alert_of_wake told
  · obtain ⟨rx, tx, status, errors⟩ := rings_of_load empty
    rintro - - (h | h | h | h | ⟨pending, idle⟩)
    · exact absurd rx h
    · exact absurd tx h
    · exact absurd status h
    · exact absurd errors h
    · rcases pipe with none | busy
      · exact absurd none pending
      · exact absurd idle busy

theorem alert_play {e : LaneEvent σ} (h : l.play e = .ok l') (sound : l.Sound) (hl : l.channel.Alert) :
    l'.channel.Alert := by
  cases stepped h with
  | moved => exact hl
  | mount => exact Channel.alert_of_wake rfl
  | detach => exact Channel.alert_of_unmounted rfl
  | usbReset => exact Channel.alert_of_unmounted rfl
  | commandData commands => exact Channel.commands_keep (Channel.kept_alert _) commands hl
  | canData transmissions =>
    obtain ⟨fs, -, sent⟩ := Channel.sent_transmissions transmissions
    exact sent.alert hl
  | commandDone => exact hl
  | canDone => exact Channel.alert_of_wake rfl
  | poll poll =>
    obtain ⟨a, -, polled⟩ := Channel.poll_cases sound.settled poll
    exact polled.alert hl
  | wakeUp look => exact alert_wakeUp look
  | serve told look => exact alert_wakeUp look
  | wait => exact hl

theorem alert_plays {es : List (LaneEvent σ)} (h : l.plays es = .ok l') (sound : l.Sound) (hl : l.channel.Alert) :
    l'.channel.Alert := by
  have both : l'.Sound ∧ l'.channel.Alert :=
    plays_keeps (P := fun l => l.Sound ∧ l.channel.Alert)
      (fun h hl => ⟨sound_play h hl.1, alert_play h hl.1 hl.2⟩) h ⟨sound, hl⟩
  exact both.2

end Lane

/-- **No work without a signal.** After any history of an adapter that was just built, every lane with work in its
session has been told to look. A look that backs off does so because a CAN transfer is outstanding, and leaves the
signal set; one that drains leaves every ring empty. -/
theorem Adapter.work_is_signalled {σ : Type} [Controller σ] {a a' : Adapter σ} {es : List (AdapterEvent σ)}
    (fresh : a.Fresh) (h : a.plays es = .ok a') {l : Lane σ} (hl : l ∈ a'.lanes) :
    (l.channel.mounted = true → l.channel.enabled = true → l.channel.HasWork → l.channel.wake = true) ∧
    ∀ (now : Nat) (wake : Bool) (outcome : WakeOutcome) (l' : Lane σ),
      { l with channel := { l.channel with wake } }.wakeUp now = .ok (outcome, l') →
      (outcome = .backoff → l'.channel.can.sending ≠ [] ∧ l'.channel.wake = true) ∧
      (outcome = .drained → l'.channel.rx.toList = [] ∧ l'.channel.tx.toList = [] ∧ l'.channel.status.toList = [] ∧
        l'.channel.errors.toList = []) := by
  constructor
  · obtain ⟨i, hi⟩ := List.mem_iff_getElem?.1 hl
    obtain ⟨l₀, hl₀, history⟩ := lane_of_plays h hi
    have built := lanes_of_fresh fresh hl₀
    refine Lane.alert_plays history (Lane.sound_of_fresh built) ?_
    obtain ⟨index, config, s, c, hc, rfl⟩ := built
    obtain ⟨settings, -, hc⟩ := Checked.bind_eq_ok.1 hc
    cases hc
    exact Channel.alert_of_unmounted rfl
  · intro now wake outcome l' look
    exact Lane.after_wakeUp look

/-- a frame that was received in a session, and that the task has not seen yet -/
def waitingFrame : List (AdapterEvent SimController) :=
  [.op .mount, .op (.out 1 [8, 4, 1, 0]), .moved 0 fun s => { s with rx := [Frame.empty] }, .op (.poll 0)]

theorem waitingFrame_is_signalled : ∃ (a a' : Adapter SimController) (l : Lane SimController),
    a.Fresh ∧ a.plays waitingFrame = .ok a' ∧ l ∈ a'.lanes ∧ l.channel.rx.toList ≠ [] ∧ l.channel.wake = true := by
  have ran : Checked.passes (fun r : Adapter SimController × Adapter SimController => r.2.lanes.any fun l =>
      l.channel.mounted && l.channel.enabled && !l.channel.rx.toList.isEmpty)
      (Adapter.single .default {} >>= fun a => a.plays waitingFrame >>= fun a' => pure (a, a')) = true := by
    decide +kernel
  obtain ⟨⟨a, a'⟩, run, found⟩ := Checked.of_passes ran
  obtain ⟨a₀, built, run⟩ := Checked.bind_eq_ok.1 run
  obtain ⟨a₁, played, run⟩ := Checked.bind_eq_ok.1 run
  cases run
  obtain ⟨l, hl, found⟩ := List.any_eq_true.1 found
  simp only [Bool.and_eq_true, Bool.not_eq_true', List.isEmpty_eq_false_iff] at found
  obtain ⟨⟨mounted, enabled⟩, waiting⟩ := found
  have fresh := Adapter.fresh_single built
  exact ⟨a, a', l, fresh, played, hl, waiting,
    (Adapter.work_is_signalled fresh played hl).1 mounted enabled (.inl waiting)⟩

end CanAdapter
