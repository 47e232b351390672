/-
What the host learns of the bus status. The interrupt publishes a status only if it is not the one it published last,
and the task reports the one it was told last. The two memories are set back by different operations: joining the bus
and a reset set back the first, a look at an unmounted or disabled channel the second.

`Lane.Agreed`: they agree, or the host is told that events were lost. Every event of a session keeps that
(`agreed_play`), and it holds when the task looked before the channel joined the bus (`agreed_setBus`); then a poll
and a look report the status of the bus (`Lane.reports_current_status`). Without that look they need not agree:
`Adapter.bus_status_agrees_iff` says exactly when the report is right, and `quickRejoin_is_stale` is a history after
which it is not.
-/
import CanAdapter.Bench.Controller
import CanAdapter.Proofs.Session

namespace CanAdapter

/-- the report as it arrives -/
def BusReport.normal (r : BusReport) : BusReport := { r with flags := .ofByte r.flags.bits }

namespace Message

theorem busReport?_normal (m : Message) : m.normal.busReport? = m.busReport?.map BusReport.normal := by cases m <;> rfl

theorem busReports_normal (ms : List Message) :
    (ms.map normal).filterMap busReport? = (ms.filterMap busReport?).map BusReport.normal := by
  simp only [List.filterMap_map, List.map_filterMap, Function.comp_def, busReport?_normal]

theorem lastStatus_normal (ms : List Message) :
    (((ms.map normal).filterMap busReport?).getLast?).map (·.status) =
      ((ms.filterMap busReport?).getLast?).map (·.status) := by
  rw [busReports_normal, List.getLast?_map, Option.map_map]
  rfl

end Message

namespace Lane

variable {σ : Type} {l l' : Lane σ} {o : ByteOrder}

/-- from `l` to `l'` the host reads `ms` on the CAN pipe, after what it had from the collecting bank of `l` -/
def Reads (l l' : Lane σ) (ms : List Message) : Prop :=
  ∃ before, l.channel.can.stream l.channel.config.order l.channel.can.started.length = .ok before ∧
    l'.channel.can.stream l.channel.config.order l.channel.can.started.length = .ok (before ++ ms)

/-- what was published last is what the task was told last, or the host is told that events were lost -/
def Agreed (l : Lane σ) : Prop := l.channel.desync = true ∨ l.told = l.channel.published

theorem Flow.reads {ms : List Message} (h : Flow ms l l') (sound : l.Sound) : l.Reads l' (ms.map (·.normal)) := by
  obtain ⟨before, carries⟩ := sound.whole.carries
  refine ⟨_, carries.stream, ?_⟩
  rw [← List.map_append]
  exact (h.can.appends _ _ carries).stream

theorem Flow.agreed {ms : List Message} (h : Flow ms l l') (hl : l.Agreed) : l'.Agreed := by
  have published : l'.channel.published = l.channel.published := congrArg (·.published) h.channel
  have desync : l'.channel.desync = l.channel.desync := congrArg (·.desync) h.channel
  unfold Agreed
  rwa [h.told, published, desync]

theorem told_rest (l : Lane σ) : l.rest.told = .errorActive := by
  simp [told, rest, Ring.toList_clear, Reporter.initial]

variable [Controller σ]

theorem polled_of_step (h : l.step .poll = .ok l') (sound : l.Sound) :
    ∃ a c, Channel.Polled a l.channel c ∧ l' = { l with channel := c } := by
  obtain ⟨c, poll, rest⟩ := Checked.bind_eq_ok.1 h
  cases rest
  obtain ⟨a, -, polled⟩ := Channel.poll_cases sound.settled poll
  exact ⟨a, c, polled, rfl⟩

/-- a drained look leaves the host with what the task was told last -/
theorem reports_told {now : Nat} (h : l.wakeUp now = .ok (.drained, l')) (sound : l.Sound) :
    l'.channel.desync = l.channel.desync ∧ l'.reporter.busStatus = l.told ∧
      ∃ ms r, l.Reads l' ms ∧ (ms.filterMap Message.busReport?).getLast? = some r ∧
        r.status = l'.reporter.busStatus := by
  rcases wakeUp_cases h with ⟨none, -⟩ | ⟨none, -⟩ | ⟨-, -, -, ms, flow, ⟨none, -⟩ | ⟨-, empty, latest⟩⟩
  · cases none
  · cases none
  · cases none
  · have waiting : l'.channel.status.toList = [] := Ring.toList_of_used (congrArg Load.status empty)
    have current : l'.told = l'.reporter.busStatus := by simp [told, waiting]
    refine ⟨congrArg (·.desync) flow.channel, current.symm.trans flow.told, ms.map (·.normal), ?_⟩
    have last : (((ms.map (·.normal)).filterMap Message.busReport?).getLast?).map (·.status) =
        some l'.reporter.busStatus := by
      rw [Message.lastStatus_normal, ← latest, latestStatus, Option.or_none]
    obtain ⟨r, hr, status⟩ := Option.map_eq_some_iff.1 last
    exact ⟨r, flow.reads sound, hr, status⟩

/-- a poll that loses nothing tells the task the status of the bus, unless it was published before -/
theorem told_polled {a : Arrivals} {c : Channel σ} (h : Channel.Polled a l.channel c) (kept : c.desync = false) :
    told { l with channel := c } =
      if Controller.busStatus l.channel.controller = l.channel.published then l.told
      else Controller.busStatus l.channel.controller := by
  have room : l.channel.news.length ≤ l.channel.status.room := by
    have lost := h.desync
    rw [kept, eq_comm, Bool.or_eq_false_iff, decide_eq_false_iff_not] at lost
    omega
  have gained := h.status.1
  rw [List.take_of_length_le room] at gained
  unfold Channel.news at gained
  split
  · rename_i same
    rw [if_pos same, List.append_nil] at gained
    simp only [told, gained]
  · rename_i changed
    rw [if_neg changed] at gained
    simp only [told, gained, List.getLast?_concat, Option.map_some, Option.getD_some]

/-! ## Sessions -/

theorem agreed_polled {a : Arrivals} {c : Channel σ} (h : Channel.Polled a l.channel c) (hl : l.Agreed) :
    Agreed { l with channel := c } := by
  cases kept : c.desync with
  | true => exact .inl kept
  | false =>
    refine .inr ?_
    have published : c.published = Controller.busStatus l.channel.controller := congrArg (·.published) h.channel
    have agreed : l.told = l.channel.published := by
      rcases hl with lost | agreed
      · have lost' := h.desync
        rw [kept, lost] at lost'
        cases lost'
      · exact agreed
    rw [told_polled h kept]
    simp only
    rw [published]
    split
    · rename_i same
      rw [agreed, same]
    · rfl

theorem agreed_play {e : LaneEvent σ} (session : l.Session o) (quiet : e.InSession o) (h : l.play e = .ok l')
    (hl : l.Agreed) : l'.Agreed := by
  cases stepped h with
  | moved => exact hl
  | mount => exact hl
  | detach => exact quiet.elim
  | usbReset => exact quiet.elim
  | commandData commands =>
    have order := session.order
    subst order
    have same := (Channel.commands_quiet (I := fun _ => True) (fun _ _ => trivial) quiet session.enabled commands
      trivial).1
    rw [same]
    exact hl
  | canData transmissions =>
    obtain ⟨fs, -, sent⟩ := Channel.sent_transmissions transmissions
    rcases hl with lost | agreed
    · exact .inl (by simp [sent.desync, lost])
    · refine .inr ?_
      rw [sent.channel]
      exact agreed
  | commandDone => exact hl
  | canDone => exact hl
  | poll poll =>
    obtain ⟨a, -, polled⟩ := Channel.poll_cases session.sound.settled poll
    exact agreed_polled polled hl
  | wakeUp look =>
    obtain ⟨ms, flow⟩ := session.flow look
    exact flow.agreed hl
  | serve told look =>
    obtain ⟨ms, flow⟩ := session.unsignalled.flow look
    exact flow.agreed hl
  | wait => exact hl

/-- a look while the channel is off the bus puts away what the task was told; then joining the bus is a fresh start -/
theorem agreed_setBus (off : l.channel.enabled = false) :
    Agreed { l.rest with channel := l.rest.channel.setBus true } := by
  have joins : l.rest.channel.enabled ≠ true := by simp [rest, off]
  simp only [Channel.setBus, joins, ↓reduceIte]
  exact .inr l.told_rest

/-- In a session that starts in agreement, a poll and a look that drains the rings leave host and task with the status
of the bus, as long as nothing was lost. -/
theorem reports_current_status {es : List (LaneEvent σ)} {l₀ l₁ : Lane σ} {now : Nat} (session : l₀.Session o)
    (agreed : l₀.Agreed) (quiet : ∀ e ∈ es, e.InSession o) (h : l₀.plays es = .ok l) (poll : l.step .poll = .ok l₁)
    (look : l₁.wakeUp now = .ok (.drained, l')) (kept : l'.channel.desync = false) :
    l'.reporter.busStatus = Controller.busStatus l.channel.controller ∧
      ∃ ms r, l₁.Reads l' ms ∧ (ms.filterMap Message.busReport?).getLast? = some r ∧
        r.status = Controller.busStatus l.channel.controller := by
  obtain ⟨session, agreed⟩ := session_keeps agreed_play session quiet h agreed
  obtain ⟨a, c, polled, rfl⟩ := polled_of_step poll session.sound
  obtain ⟨desync, current, ms, r, reads, last, status⟩ := reports_told look (polled.sound session.sound)
  have published : c.published = Controller.busStatus l.channel.controller := congrArg (·.published) polled.channel
  have told : told { l with channel := c } = Controller.busStatus l.channel.controller := by
    rcases agreed_polled polled agreed with lost | told
    · rw [← desync, kept] at lost
      cases lost
    · exact told.trans published
  exact ⟨current.trans told, ms, r, reads, last, status.trans (current.trans told)⟩

end Lane

/-! ## All histories -/

/-- **The reported bus status.** After any history of an adapter that was just built, let a poll be followed by a look
that drains the rings of a lane, with nothing lost. The last report that the look appended has the status that the task
holds. That is the status of the bus, except exactly when the poll took this status for published already and the task
had been told another one. -/
theorem Adapter.bus_status_agrees_iff {σ : Type} [Controller σ] {a a' : Adapter σ} {es : List (AdapterEvent σ)}
    {l l₁ l₂ : Lane σ} {now : Nat} (fresh : a.Fresh) (h : a.plays es = .ok a') (hl : l ∈ a'.lanes)
    (poll : l.step .poll = .ok l₁) (look : l₁.wakeUp now = .ok (.drained, l₂)) (kept : l₂.channel.desync = false) :
    ∃ ms r, l₁.Reads l₂ ms ∧ (ms.filterMap Message.busReport?).getLast? = some r ∧
      r.status = l₂.reporter.busStatus ∧
      (l₂.reporter.busStatus = Controller.busStatus l.channel.controller ↔
        (l.channel.published = Controller.busStatus l.channel.controller →
          l.told = Controller.busStatus l.channel.controller)) := by
  obtain ⟨i, hi⟩ := List.mem_iff_getElem?.1 hl
  obtain ⟨l₀, hl₀, history⟩ := lane_of_plays h hi
  have sound := Lane.sound_plays history (Lane.sound_of_fresh (lanes_of_fresh fresh hl₀))
  obtain ⟨arrived, c, polled, rfl⟩ := Lane.polled_of_step poll sound
  obtain ⟨desync, current, ms, r, reads, last, status⟩ := Lane.reports_told look (polled.sound sound)
  refine ⟨ms, r, reads, last, status, ?_⟩
  rw [current, Lane.told_polled polled (desync.symm.trans kept)]
  split
  · rename_i same
    simp [same]
  · rename_i changed
    simp [Ne.symm changed]

/-- an error-passive controller was reported; then the channel leaves the bus and joins it again with `between` in
between, and the controller recovers -/
def rejoin (between : List (AdapterEvent SimController)) : List (AdapterEvent SimController) :=
  [.op .mount, .op (.out 1 [8, 4, 1, 0]), .moved 0 fun s => { s with status := .errorPassive }, .op (.poll 0),
    .op (.serve 0 0), .op (.inComplete 0x82), .op (.out 1 [8, 4, 0, 0])] ++ between ++
  [.op (.out 1 [8, 4, 1, 0]), .moved 0 fun s => { s with status := .errorActive }]

/-- whether `p` holds of a lane after the history, and of what a poll and a look then make of it, if they end drained
and without a loss -/
def afterRejoin (between : List (AdapterEvent SimController)) (p : Lane SimController → Lane SimController → Bool) :
    Bool :=
  Checked.passes (fun r : Adapter SimController × Adapter SimController => r.2.lanes.any fun l =>
    Checked.passes (fun r : Lane SimController × WakeOutcome × Lane SimController =>
      r.2.1 == .drained && !r.2.2.channel.desync && p l r.2.2)
      (l.step .poll >>= fun l₁ => l₁.wakeUp 0 >>= fun r => pure (l₁, r)))
    (Adapter.single .default {} >>= fun a => a.plays (rejoin between) >>= fun a' => pure (a, a'))

theorem of_afterRejoin {between : List (AdapterEvent SimController)}
    {p : Lane SimController → Lane SimController → Bool} (h : afterRejoin between p = true) :
    ∃ (a a' : Adapter SimController) (l l₁ l₂ : Lane SimController), a.Fresh ∧ a.plays (rejoin between) = .ok a' ∧
      l ∈ a'.lanes ∧ l.step .poll = .ok l₁ ∧ l₁.wakeUp 0 = .ok (.drained, l₂) ∧ l₂.channel.desync = false ∧
      p l l₂ = true := by
  obtain ⟨a, a', built, played, found⟩ := Checked.of_passes_pair h
  obtain ⟨l, hl, found⟩ := List.any_eq_true.1 found
  obtain ⟨l₁, ⟨outcome, l₂⟩, poll, look, found⟩ := Checked.of_passes_pair found
  simp only [Bool.and_eq_true, beq_iff_eq, Bool.not_eq_true'] at found
  obtain ⟨⟨rfl, kept⟩, holds⟩ := found
  exact ⟨a, a', l, l₁, l₂, Adapter.fresh_single built, played, hl, poll, look, kept, holds⟩

/-- a look in between puts away what the task remembers, and the report is right -/
theorem slowRejoin_agrees : ∃ (a a' : Adapter SimController) (l l₁ l₂ : Lane SimController) (ms : List Message)
    (r : BusReport), a.Fresh ∧ a.plays (rejoin [.op (.serve 0 0)]) = .ok a' ∧ l ∈ a'.lanes ∧
      l.step .poll = .ok l₁ ∧ l₁.wakeUp 0 = .ok (.drained, l₂) ∧ l₂.channel.desync = false ∧ l₁.Reads l₂ ms ∧
      (ms.filterMap Message.busReport?).getLast? = some r ∧ r.status = l.channel.controller.status := by
  have ran : afterRejoin [.op (.serve 0 0)] (fun l _ => decide (l.told = l.channel.controller.status)) = true := by
    decide +kernel
  obtain ⟨a, a', l, l₁, l₂, fresh, played, hl, poll, look, kept, told⟩ := of_afterRejoin ran
  obtain ⟨ms, r, reads, last, status, right⟩ := Adapter.bus_status_agrees_iff fresh played hl poll look kept
  exact ⟨a, a', l, l₁, l₂, ms, r, fresh, played, hl, poll, look, kept, reads, last,
    status.trans (right.2 fun _ => of_decide_eq_true told)⟩

/-- Without it the host reads error-passive, and the task goes on with that, while the controller is error-active;
nothing was lost. -/
theorem quickRejoin_is_stale : ∃ (a a' : Adapter SimController) (l l₁ l₂ : Lane SimController) (ms : List Message)
    (r : BusReport), a.Fresh ∧ a.plays (rejoin []) = .ok a' ∧ l ∈ a'.lanes ∧ l.step .poll = .ok l₁ ∧
      l₁.wakeUp 0 = .ok (.drained, l₂) ∧ l₂.channel.desync = false ∧ l.channel.controller.status = .errorActive ∧
      l₂.reporter.busStatus = .errorPassive ∧ l₁.Reads l₂ ms ∧
      (ms.filterMap Message.busReport?).getLast? = some r ∧ r.status = .errorPassive := by
  have ran : afterRejoin [] (fun l l₂ => decide (l.channel.controller.status = .errorActive ∧
      l₂.reporter.busStatus = .errorPassive)) = true := by
    decide +kernel
  obtain ⟨a, a', l, l₁, l₂, fresh, played, hl, poll, look, kept, stale⟩ := of_afterRejoin ran
  obtain ⟨actual, reported⟩ := of_decide_eq_true stale
  obtain ⟨i, hi⟩ := List.mem_iff_getElem?.1 hl
  obtain ⟨l₀, hl₀, history⟩ := Adapter.lane_of_plays played hi
  have sound := Lane.sound_plays history (Lane.sound_of_fresh (Adapter.lanes_of_fresh fresh hl₀))
  obtain ⟨arrived, c, polled, rfl⟩ := Lane.polled_of_step poll sound
  obtain ⟨-, -, ms, r, reads, last, status⟩ := Lane.reports_told look (polled.sound sound)
  exact ⟨a, a', l, _, l₂, ms, r, fresh, played, hl, poll, look, kept, actual, reported, reads, last,
    status.trans reported⟩

end CanAdapter
