/-
The order in which a look reports. Whatever waits when the task looks, the look has a schedule: the report on the bus
first, then round by round one status change, one bus error, one received frame and one transmit event, as long as there
are any. It appends the schedule from its beginning, up to where it ends or the pipe is busy.

- `Backlog.schedule`: the rounds, one after the other. `schedule_eq`: the first round, then the schedule of what is left.
- `Lane.Relays`: what was appended and what waits still make up what waited, reports on the bus included.
- `Lane.Sends`: a source appends what it offers, or the first of that if it is blocked. So does a pass with the first
  round (`sends_pass`), and so do the passes of a look with the schedule (`sends_passes`).
- `Lane.Look`: all that a look does. `Adapter.look_follows_schedule` is the result, for every state of a channel on the
  bus that an adapter can come to.

A status change is taken from its ring before it is reported, every other event after. So where the pipe is busy one of
them may be neither in its ring nor reported; the task remembers it, and the next look begins with it.
-/
import CanAdapter.Proofs.CreditBound
import CanAdapter.Proofs.WakeSignal
import CanAdapter.Proofs.WellFormed

namespace CanAdapter

/-- the reporting task looks, or would look if it was told to -/
def LaneEvent.isLook {σ : Type} : LaneEvent σ → Bool
  | .op (.wakeUp _) | .op (.serve _) => true
  | _ => false

/-! ## Schedules -/

/-- what a look has to report, of each kind the oldest first -/
structure Backlog where
  reports : List BusReport
  errors : List BusError
  frames : List Frame
  events : List TxReport

namespace Backlog

/-- the `k`-th of each kind, as far as there is one -/
def round (b : Backlog) (k : Nat) : List Message :=
  (b.reports[k]?.map .busReport).toList ++ (b.errors[k]?.map .busError).toList ++ (b.frames[k]?.map .received).toList ++
    (b.events[k]?.map .transmitted).toList

/-- rounds in which there is something to report -/
def rounds (b : Backlog) : Nat :=
  max (max b.reports.length b.errors.length) (max b.frames.length b.events.length)

/-- round by round -/
def schedule (b : Backlog) : List Message := (List.range b.rounds).flatMap b.round

/-- what is left after the first round -/
def tail (b : Backlog) : Backlog := ⟨b.reports.tail, b.errors.tail, b.frames.tail, b.events.tail⟩

theorem round_succ (b : Backlog) (k : Nat) : b.round (k + 1) = b.tail.round k := by
  simp only [round, tail, List.getElem?_tail]

theorem rounds_tail (b : Backlog) : b.tail.rounds = b.rounds - 1 := by
  simp only [rounds, tail, List.length_tail, Nat.sub_max_sub_right]

theorem round_of_rounds_le {b : Backlog} {k : Nat} (h : b.rounds ≤ k) : b.round k = [] := by
  simp only [rounds, Nat.max_le] at h
  obtain ⟨⟨reports, errors⟩, frames, events⟩ := h
  simp only [round, List.getElem?_eq_none, reports, errors, frames, events, Option.map_none, Option.toList_none,
    List.append_nil]

/-- the first round, then the schedule of what is left -/
theorem schedule_eq (b : Backlog) : b.schedule = b.round 0 ++ b.tail.schedule := by
  cases rounds : b.rounds with
  | zero =>
    rw [round_of_rounds_le (Nat.le_of_eq rounds), schedule, schedule, rounds_tail, rounds]
    rfl
  | succ n =>
    calc b.schedule
      _ = (List.range (n + 1)).flatMap b.round := by rw [schedule, rounds]
      _ = b.round 0 ++ (List.range n).flatMap fun k => b.round (k + 1) := by
        rw [List.range_succ_eq_map, List.flatMap_cons, List.flatMap_map]
      _ = b.round 0 ++ (List.range n).flatMap b.tail.round := by simp only [round_succ]
      _ = b.round 0 ++ b.tail.schedule := by rw [schedule, rounds_tail, rounds, Nat.add_sub_cancel]

/-- with what some messages report in front -/
def prepend (ms : List Message) (b : Backlog) : Backlog :=
  ⟨ms.filterMap Message.busReport? ++ b.reports, ms.filterMap Message.error? ++ b.errors,
    ms.filterMap Message.frame? ++ b.frames, ms.filterMap Message.txReport? ++ b.events⟩

@[simp] theorem filterMap_offer {α β : Type} (message : α → Message) (read : Message → Option β) (offer : Option α) :
    (offer.map message).toList.filterMap read = (offer.bind fun a => read (message a)).toList := by
  cases offer with
  | none => rfl
  | some a =>
    rw [Option.map_some, Option.bind_some, Option.toList_some, List.filterMap_cons]
    cases read (message a) <;> rfl

theorem eq_tail {α : Type} {as left : List α} (h : as = as[0]?.toList ++ left) : left = as.tail := by
  cases as with
  | nil => exact (List.append_eq_nil_iff.1 h.symm).2
  | cons a as => exact (List.cons.inj h).2.symm

/-- what is left once the first round was reported -/
theorem eq_tail_of_prepend {b left : Backlog} (h : b = left.prepend (b.round 0)) : left = b.tail := by
  have parts := h
  rw [prepend, round] at parts
  simp only [List.filterMap_append, filterMap_offer, Message.busReport?, Message.error?, Message.frame?,
    Message.txReport?, Option.bind_fun_some, Option.bind_fun_none, Option.toList_none, List.append_nil,
    List.nil_append] at parts
  have reports := eq_tail (congrArg Backlog.reports parts)
  have errors := eq_tail (congrArg Backlog.errors parts)
  have frames := eq_tail (congrArg Backlog.frames parts)
  have events := eq_tail (congrArg Backlog.events parts)
  rw [tail, ← reports, ← errors, ← frames, ← events]

end Backlog

namespace Channel

variable {σ : Type} [Controller σ]

/-- reports on some statuses, made one after the other -/
def reports : List BusStatus → Channel σ → List BusReport
  | [], _ => []
  | status :: later, c => (c.snapshot status).1 :: reports later (c.snapshot status).2

/-- a report depends on the controller, what is known of the channel and what was lost -/
theorem reports_congr {c c' : Channel σ} (config : c'.config = c.config) (controller : c'.controller = c.controller)
    (desync : c'.desync = c.desync) (losses : c'.losses = c.losses) (statuses : List BusStatus) :
    c'.reports statuses = c.reports statuses := by
  induction statuses generalizing c c' with
  | nil => rfl
  | cons status later ih =>
    simp only [Channel.losses, Losses.mk.injEq] at losses
    obtain ⟨lost, dropped, flags⟩ := losses
    have first : (c'.snapshot status).1 = (c.snapshot status).1 := by
      simp only [snapshot, config, controller, desync, dropped, flags, Ring.takeLost, lost]
    rw [reports, reports, first, ih]
    · exact config
    · exact controller
    · exact desync
    · rfl

theorem status_reports (statuses : List BusStatus) (c : Channel σ) : (c.reports statuses).map (·.status) = statuses := by
  induction statuses generalizing c with
  | nil => rfl
  | cons status later ih => rw [reports, List.map_cons, ih]; rfl

end Channel

/-- without a report nothing is told -/
theorem Losses.Reported.eq_of_nil {desync : Bool} {x y : Losses} (h : Losses.Reported desync x [] y) : y = x := by
  cases h
  rfl

namespace Lane

variable {σ : Type} [Controller σ] {l l' l'' : Lane σ} {ms ns : List Message}

/-! ## What waits, and what was appended of it -/

/-- the statuses that the host was not told of, the oldest first -/
def unreported (l : Lane σ) : List BusStatus :=
  (if l.reporter.reportDue then [l.reporter.busStatus] else []) ++ l.channel.status.toList.map (·.status)

/-- all that waits to be reported -/
def backlog (l : Lane σ) : Backlog :=
  ⟨l.channel.reports l.unreported, l.channel.errors.toList, l.channel.rx.toList,
    l.channel.tx.toList.map TxEvent.report⟩

/-- The messages `ms` were appended, what they report left the rings, and the reports among them are the first of those
that were to be made. -/
structure Relays (ms : List Message) (l l' : Lane σ) : Prop where
  flow : Flow ms l l'
  reports : l.channel.reports l.unreported = ms.filterMap Message.busReport? ++ l'.channel.reports l'.unreported

namespace Relays

theorem refl (l : Lane σ) : Relays [] l l := ⟨.refl l, rfl⟩

theorem trans (h : Relays ms l l') (h' : Relays ns l' l'') : Relays (ms ++ ns) l l'' where
  flow := h.flow.trans h'.flow
  reports :=
    calc l.channel.reports l.unreported
      _ = ms.filterMap Message.busReport? ++ l'.channel.reports l'.unreported := h.reports
      _ = ms.filterMap Message.busReport? ++
          (ns.filterMap Message.busReport? ++ l''.channel.reports l''.unreported) := by rw [h'.reports]
      _ = (ms ++ ns).filterMap Message.busReport? ++ l''.channel.reports l''.unreported := by
        rw [List.filterMap_append, List.append_assoc]

/-- no report was made, and none came to be due -/
theorem of_unreported (flow : Flow ms l l') (none : ms.filterMap Message.busReport? = [])
    (same : l'.unreported = l.unreported) : Relays ms l l' where
  flow := flow
  reports := by
    have losses := flow.losses
    rw [none] at losses
    have config : l'.channel.config = l.channel.config := congrArg (·.config) flow.channel
    have controller : l'.channel.controller = l.channel.controller := congrArg (·.controller) flow.channel
    have desync : l'.channel.desync = l.channel.desync := congrArg (·.desync) flow.channel
    rw [none, List.nil_append, same, Channel.reports_congr config controller desync losses.eq_of_nil]

/-- what waited is what was appended and what still waits -/
theorem backlog_eq (h : Relays ms l l') : l.backlog = l'.backlog.prepend ms := by
  obtain ⟨taken, reported, tx⟩ := h.flow.tx
  simp only [backlog, Backlog.prepend]
  rw [h.reports, h.flow.errors.1, h.flow.rx.1, tx.1, List.map_append, reported]

theorem errors (h : Relays ms l l') (others : ms.filterMap Message.error? = []) :
    l'.backlog.errors = l.backlog.errors := by
  rw [h.backlog_eq, Backlog.prepend, others, List.nil_append]

theorem frames (h : Relays ms l l') (others : ms.filterMap Message.frame? = []) :
    l'.backlog.frames = l.backlog.frames := by
  rw [h.backlog_eq, Backlog.prepend, others, List.nil_append]

theorem events (h : Relays ms l l') (others : ms.filterMap Message.txReport? = []) :
    l'.backlog.events = l.backlog.events := by
  rw [h.backlog_eq, Backlog.prepend, others, List.nil_append]

end Relays

/-! ## Sources -/

/-- a source that offers some messages appends them all, or is blocked at one of them and appends those before it -/
def Sends (source : Lane σ → Checked (Move × Lane σ)) (l : Lane σ) (offer : List Message) : Prop :=
  ∀ move l', source l = .ok (move, l') → ∃ ms, Relays ms l l' ∧ (move ≠ .blocked → ms = offer) ∧
    (move = .blocked → ∃ m, ms ++ [m] <+: offer)

theorem sends_of_offer {source : Lane σ → Checked (Move × Lane σ)} {offer : Option Message}
    (h : ∀ move l', source l = .ok (move, l') → Relays (move.sent offer) l l' ∧ (move = .idle → offer = none) ∧
      (move = .blocked → offer ≠ none)) :
    Sends source l offer.toList := by
  intro move l' run
  obtain ⟨relays, idle, blocked⟩ := h move l' run
  refine ⟨_, relays, ?_⟩
  cases move with
  | idle =>
    rw [idle rfl]
    exact ⟨fun _ => rfl, nofun⟩
  | moved => exact ⟨fun _ => rfl, nofun⟩
  | blocked =>
    obtain ⟨m, rfl⟩ := Option.ne_none_iff_exists'.1 (blocked rfl)
    exact ⟨fun none => absurd rfl none, fun _ => ⟨m, List.prefix_refl _⟩⟩

omit [Controller σ] in
/-- what was sent of `more`, with `offer` in front of both -/
theorem sent_append {move : Move} {more : List Message} (offer : List Message)
    (h : (move ≠ .blocked → ns = more) ∧ (move = .blocked → ∃ m, ns ++ [m] <+: more)) :
    (move ≠ .blocked → offer ++ ns = offer ++ more) ∧
      (move = .blocked → ∃ m, offer ++ ns ++ [m] <+: offer ++ more) := by
  refine ⟨fun free => by rw [h.1 free], fun blocked => ?_⟩
  obtain ⟨m, stopped⟩ := h.2 blocked
  refine ⟨m, ?_⟩
  rw [List.append_assoc]
  exact (List.prefix_append_right_inj _).2 stopped

/-- the first source, and where it is not blocked the others on what it left -/
theorem sends_cons {source : Lane σ → Checked (Move × Lane σ)} {sources : List (Lane σ → Checked (Move × Lane σ))}
    {offer more : List Message} (first : Sends source l offer)
    (rest : ∀ m₁ l₁, source l = .ok (m₁, l₁) → m₁ ≠ .blocked → Relays offer l l₁ →
      Sends (inOrder sources) l₁ more) :
    Sends (inOrder (source :: sources)) l (offer ++ more) := by
  intro move l' run
  obtain ⟨⟨m₁, l₁⟩, h₁, run⟩ := Checked.bind_eq_ok.1 run
  obtain ⟨ms, relays, whole, part⟩ := first m₁ l₁ h₁
  have later (free : m₁ ≠ .blocked) {m₂ : Move} (h₂ : inOrder sources l₁ = .ok (m₂, l')) :
      ∃ ns, Relays ns l l' ∧ (m₂ ≠ .blocked → ns = offer ++ more) ∧
        (m₂ = .blocked → ∃ m, ns ++ [m] <+: offer ++ more) := by
    rw [whole free] at relays
    obtain ⟨ns, relays', ends⟩ := rest m₁ l₁ h₁ free relays m₂ l' h₂
    exact ⟨offer ++ ns, relays.trans relays', sent_append offer ends⟩
  cases m₁ with
  | blocked =>
    cases run
    obtain ⟨m, stopped⟩ := part rfl
    exact ⟨ms, relays, fun none => absurd rfl none, fun _ => ⟨m, stopped.trans (List.prefix_append ..)⟩⟩
  | idle => exact later nofun run
  | moved =>
    obtain ⟨⟨m₂, l₂⟩, h₂, run⟩ := Checked.bind_eq_ok.1 run
    cases m₂ with
    | blocked | moved =>
      cases run
      exact later nofun h₂
    | idle =>
      cases run
      obtain ⟨ns, relays', whole', -⟩ := later nofun h₂
      exact ⟨ns, relays', fun _ => whole' nofun, nofun⟩

omit [Controller σ] in
/-- an item that is placed leaves what is to be reported on the bus as it was -/
theorem unreported_placeOldest {α : Type} {k : Nat} {ring : Channel σ → Ring α k} {message : α → Message}
    {noted : Reporter → Reporter} {done : Channel σ → Checked (Channel σ)} {move : Move}
    (h : placeOldest ring message noted done l = .ok (move, l')) (reply : ∀ a, (message a).IsReply)
    (remembers : ∀ r, (noted r).busStatus = r.busStatus ∧ (noted r).reportDue = r.reportDue)
    (keeps : ∀ can c, done { l.channel with can } = .ok c → c.status = l.channel.status) :
    l'.unreported = l.unreported ∧ (move = .idle → (ring l.channel).toList = []) ∧
      (move = .blocked → (ring l.channel).toList ≠ []) := by
  obtain ⟨status, due⟩ := remembers l.reporter
  rcases placeOldest_cases reply h with
    ⟨rfl, rfl, empty⟩ | ⟨rfl, rfl, waits, -⟩ | ⟨rfl, a, can, c, -, -, finished, rfl⟩
  · exact ⟨rfl, fun _ => empty, nofun⟩
  · exact ⟨by simp only [unreported, status, due], nofun, fun _ => waits⟩
  · have changes := keeps can c finished
    exact ⟨by simp only [unreported, status, due, changes], nofun, nofun⟩

/-- a source that offers no report on the bus, and leaves what is to be reported there as it was -/
theorem sends_of_flow {α : Type} {source : Lane σ → Checked (Move × Lane σ)} {items : List α} {message : α → Message}
    (silent : ∀ a, (message a).busReport? = none)
    (h : ∀ move l', source l = .ok (move, l') → Flow (move.sent (items.head?.map message)) l l' ∧
      l'.unreported = l.unreported ∧ (move = .idle → items = []) ∧ (move = .blocked → items ≠ [])) :
    Sends source l (items[0]?.map message).toList := by
  rw [← List.head?_eq_getElem?]
  apply sends_of_offer
  intro move l' run
  obtain ⟨flow, same, idle, blocked⟩ := h move l' run
  simp only [ne_eq, Option.map_eq_none_iff, List.head?_eq_none_iff]
  refine ⟨.of_unreported flow ?_ same, idle, blocked⟩
  unfold Move.sent
  split
  · rw [Backlog.filterMap_offer, funext silent, Option.bind_fun_none]
    rfl
  · rfl

theorem sends_placeError (now : Nat) : Sends (placeError now) l (l.backlog.errors[0]?.map .busError).toList := by
  apply sends_of_flow fun _ => rfl
  intro move l' h
  refine ⟨flow_placeError h, unreported_placeOldest h Message.isReply_busError (fun _ => ⟨rfl, rfl⟩) ?_⟩
  intro can c finished
  cases finished
  rfl

theorem sends_placeFrame (now : Nat) : Sends (placeFrame now) l (l.backlog.frames[0]?.map .received).toList := by
  apply sends_of_flow fun _ => rfl
  intro move l' h
  refine ⟨flow_placeFrame h, unreported_placeOldest h Message.isReply_received (fun _ => ⟨rfl, rfl⟩) ?_⟩
  intro can c finished
  cases finished
  rfl

theorem sends_placeTxReport (now : Nat) :
    Sends (placeTxReport now) l (l.backlog.events[0]?.map .transmitted).toList := by
  apply sends_of_flow fun _ => rfl
  intro move l' h
  have flow := flow_placeTxReport h
  have same := unreported_placeOldest h (fun _ => Message.isReply_transmitted _) (fun _ => ⟨rfl, rfl⟩)
    fun can c finished => by rw [Channel.returnCredit_eq finished]
  simp only [backlog, List.head?_map, Option.map_map, ne_eq, List.map_eq_nil_iff]
  exact ⟨flow, same⟩

/-- a status change that is taken is what the next report is on -/
theorem sends_takeStatus (now : Nat) (told : l.reporter.reportDue = false) : Sends (takeStatus now) l [] := by
  change Sends (takeStatus now) l (none : Option Message).toList
  apply sends_of_offer
  intro move l' h
  have flow := flow_takeStatus h
  have nothing : move.sent none = [] := by
    unfold Move.sent
    split <;> rfl
  rw [nothing]
  rcases takeStatus_cases h with ⟨rfl, rfl, -⟩ | ⟨rfl, e, took, rfl⟩
  · exact ⟨.of_unreported flow rfl rfl, fun _ => rfl, nofun⟩
  · refine ⟨.of_unreported flow rfl ?_, nofun, nofun⟩
    simp only [unreported, told, took.1]
    rfl

/-- where a status change waits, a report is due -/
theorem sends_placeReport (prompt : l.load.Prompt) :
    Sends placeReport l (l.backlog.reports[0]?.map .busReport).toList := by
  apply sends_of_offer
  intro move l' h
  have flow := flow_placeReport h
  cases due : l.reporter.reportDue with
  | false =>
    have changes : l.channel.status.toList = [] := by
      rcases prompt with none | now
      · exact Ring.toList_of_used none
      · cases due.symm.trans now
    have nothing : l.unreported = [] := by simp [unreported, due, changes]
    unfold placeReport at h
    rw [due] at h
    cases h
    rw [backlog, nothing]
    exact ⟨.of_unreported flow rfl rfl, fun _ => rfl, nofun⟩
  | true =>
    have first : l.unreported = l.reporter.busStatus :: l.channel.status.toList.map (·.status) := by
      simp [unreported, due]
    rw [backlog, first]
    rcases placeReport_cases h with ⟨-, -, none⟩ | ⟨rfl, rfl, -⟩ | ⟨rfl, -, can, -, rfl⟩
    · cases none.symm.trans due
    · exact ⟨.of_unreported flow rfl rfl, nofun, nofun⟩
    · have later : ({ (l.channel.snapshot l.reporter.busStatus).2 with can } : Channel σ).reports
          (l.channel.status.toList.map (·.status)) =
          (l.channel.snapshot l.reporter.busStatus).2.reports (l.channel.status.toList.map (·.status)) := by
        apply Channel.reports_congr <;> rfl
      refine ⟨⟨flow, ?_⟩, nofun, nofun⟩
      rw [first]
      exact congrArg (_ :: ·) later.symm

/-! ## Passes -/

/-- A pass appends the first round, up to where the pipe is busy. The status change that it takes over is reported in the
next. -/
theorem sends_pass (now : Nat) (prompt : l.load.Prompt) : Sends (pass now) l (l.backlog.round 0) := by
  have chain : Sends (pass now) l ((l.backlog.reports[0]?.map .busReport).toList ++ ([] ++
      ((l.backlog.errors[0]?.map .busError).toList ++ ((l.backlog.frames[0]?.map .received).toList ++
        ((l.backlog.events[0]?.map .transmitted).toList ++ []))))) := by
    apply sends_cons (sends_placeReport prompt)
    intro m₁ l₁ h₁ free r₁
    have told : l₁.reporter.reportDue = false := congrArg Load.due (load_placeReport h₁ free).1
    apply sends_cons (sends_takeStatus now told)
    intro _ l₂ _ _ r₂
    have r₂ := r₁.trans r₂
    rw [← r₂.errors (by simp [Message.error?])]
    apply sends_cons (sends_placeError now)
    intro _ l₃ _ _ r₃
    have r₃ := r₂.trans r₃
    rw [← r₃.frames (by simp [Message.frame?])]
    apply sends_cons (sends_placeFrame now)
    intro _ l₄ _ _ r₄
    have r₄ := r₃.trans r₄
    rw [← r₄.events (by simp [Message.txReport?])]
    apply sends_cons (sends_placeTxReport now)
    intro _ l₅ _ _ _ move l' idle
    cases idle
    exact ⟨[], .refl _, fun _ => rfl, nofun⟩
  simpa only [Backlog.round, List.nil_append, List.append_nil, List.append_assoc] using chain

theorem schedule_of_load (none : l.load = .none) : l.backlog.schedule = [] := by
  obtain ⟨rx, tx, status, errors⟩ := rings_of_load none
  have due : l.reporter.reportDue = false := congrArg Load.due none
  have nothing : l.backlog = ⟨[], [], [], []⟩ := by
    simp [backlog, unreported, status, errors, rx, tx, due, Channel.reports]
  rw [nothing]
  rfl

/-- The passes of a look append the schedule, up to where the pipe is busy. Induction on the passes that are left: what
each leaves has the rest of the schedule. -/
theorem sends_passes {now n : Nat} (prompt : l.load.Prompt) (enough : l.load.rounds < n) :
    Sends (passes now n) l l.backlog.schedule := by
  induction n generalizing l with
  | zero => omega
  | succ n ih =>
    intro move l' run
    obtain ⟨⟨m, l₁⟩, first, run⟩ := Checked.bind_eq_ok.1 run
    obtain ⟨ms, relays, whole, part⟩ := sends_pass now prompt m l₁ first
    rw [Backlog.schedule_eq]
    cases m with
    | blocked =>
      cases run
      obtain ⟨m, stopped⟩ := part rfl
      exact ⟨ms, relays, fun none => absurd rfl none, fun _ => ⟨m, stopped.trans (List.prefix_append ..)⟩⟩
    | idle =>
      cases run
      rw [whole nofun] at relays
      obtain ⟨after, idle⟩ := load_pass first nofun
      have nothing : l'.backlog.schedule = [] := by
        apply schedule_of_load
        rw [after, idle.1 rfl]
        rfl
      rw [← Backlog.eq_tail_of_prepend relays.backlog_eq, nothing, List.append_nil]
      exact ⟨_, relays, fun _ => rfl, nofun⟩
    | moved =>
      rw [whole nofun] at relays
      obtain ⟨after, idle⟩ := load_pass first nofun
      have something : l.load ≠ .none := fun none => by cases idle.2 none
      have fewer := Load.rounds_next prompt something
      rw [← after] at fewer
      have later : l₁.load.Prompt := by
        rw [after]
        exact Load.prompt_next _
      obtain ⟨ns, relays', ends⟩ := ih later (by omega) move l' run
      rw [← Backlog.eq_tail_of_prepend relays.backlog_eq]
      exact ⟨_, relays.trans relays', sent_append _ ends⟩

/-- passes that come to an end do so with every larger bound -/
theorem passes_mono {now m n : Nat} {move : Move} (h : l.passes now m = .ok (move, l')) (ended : move ≠ .moved)
    (more : m ≤ n) : l.passes now n = .ok (move, l') := by
  induction m generalizing l n with
  | zero =>
    cases h
    exact absurd rfl ended
  | succ m ih =>
    obtain ⟨n, rfl⟩ := Nat.exists_eq_succ_of_ne_zero (Nat.ne_of_gt (Nat.lt_of_lt_of_le (Nat.succ_pos m) more))
    obtain ⟨⟨m₁, l₁⟩, first, h⟩ := Checked.bind_eq_ok.1 h
    refine Checked.bind_eq_ok.2 ⟨(m₁, l₁), first, ?_⟩
    cases m₁ with
    | idle | blocked => exact h
    | moved => exact ih h (Nat.le_of_succ_le_succ more)

/-! ## Looks -/

/-- What a look has to report: the bus status that the task knows, then round by round one status change, and in the
same round as the report on it an error, a frame and a transmit event. -/
def schedule (l : Lane σ) : List Message :=
  Backlog.schedule {
    reports := l.channel.reports (l.reporter.busStatus :: l.channel.status.toList.map (·.status))
    errors := l.channel.errors.toList
    frames := l.channel.rx.toList
    events := l.channel.tx.toList.map TxEvent.report }

/-- A look at `l` appended the messages `ms` and led to `l'`; the statuses `untold` were taken from their ring and not
reported. -/
structure Look (now : Nat) (l : Lane σ) (ms : List Message) (untold : List StatusEvent) (outcome : WakeOutcome)
    (l' : Lane σ) : Prop where
  completes : l.wakeUp now = .ok (outcome, l')
  /-- its passes end by themselves, within two more than there are items of one kind -/
  ends : ∃ move l₁, move ≠ .moved ∧ (outcome = .backoff ↔ move = .blocked) ∧
    l₁.finish now (move == .blocked) = .ok (outcome, l') ∧
    ∀ n, max (max l.channel.status.toList.length l.channel.errors.toList.length)
        (max l.channel.rx.toList.length l.channel.tx.toList.length) + 2 ≤ n →
      l.begin.passes now n = .ok (move, l₁)
  scheduled : ms <+: l.schedule
  /-- what the host reads of the CAN pipe is what it would have read, and then these messages -/
  stream : ∀ base ≤ l.channel.can.started.length, ∃ before,
    l.channel.can.Carries l.channel.config.order base before ∧
      l'.channel.can.Carries l.channel.config.order base (before ++ ms)
  ended : outcome = .drained ∨ outcome = .backoff
  drained : outcome = .drained → ms = l.schedule ∧ untold = [] ∧ l'.channel.rx.toList = [] ∧
    l'.channel.tx.toList = [] ∧ l'.channel.status.toList = [] ∧ l'.channel.errors.toList = []
  /-- a transfer is outstanding, some message found no room, and the task will look again -/
  blocked : outcome = .backoff → l'.channel.can.sending ≠ [] ∧ l'.channel.wake = true ∧
    ∃ m, ms ++ [m] <+: l.schedule
  errors : l.channel.errors.toList = ms.filterMap Message.error? ++ l'.channel.errors.toList
  frames : l.channel.rx.toList = ms.filterMap Message.frame? ++ l'.channel.rx.toList
  events : ∃ taken, ms.filterMap Message.txReport? = taken.map TxEvent.report ∧
    l.channel.tx.toList = taken ++ l'.channel.tx.toList
  /-- the first report is on the status that was known; the others are on those that were taken -/
  statuses : ∃ told, l.channel.status.toList = told ++ untold ++ l'.channel.status.toList ∧
    told.map (·.status) = ((ms.filterMap Message.busReport?).map (·.status)).tail
  one : untold.length ≤ 1
  credits : l'.channel.credits.toNat =
    min l.channel.config.txFifo.toNat (l.channel.credits.toNat + (ms.filterMap Message.txReport?).length)

/-- with fewer than 255 places a look on the bus comes to its end -/
theorem exists_wakeUp (now : Nat) (mounted : l.channel.mounted = true) (on : l.channel.enabled = true)
    (bounded : l.channel.Bounded) (places : l.channel.config.txFifo.toNat < 255) :
    ∃ outcome l', l.wakeUp now = .ok (outcome, l') := by
  obtain ⟨outcome, l₁, n, -, -, run⟩ := refunds_wakeUp now mounted on
  have room : ¬ (l.channel.config.txFifo = 255 ∧ 255 < l.channel.credits.toNat + n) := by
    rw [eq_limit_iff]
    omega
  have look : l.wakeUp now = _ := run l.channel.credits (UInt8.le_iff_toNat_le.2 bounded)
  rw [refund, if_neg room] at look
  exact ⟨outcome, _, look⟩

/-- The statuses that a look takes are reported in order, each after the one before, so at most the last of them is not
reported, and the task remembers it. -/
theorem Relays.statuses (h : Relays ms l.begin l') : ∃ told untold,
    l.channel.status.toList = told ++ untold ++ l'.channel.status.toList ∧
      told.map (·.status) = ((ms.filterMap Message.busReport?).map (·.status)).tail ∧ untold.length ≤ 1 ∧
      ∀ e ∈ untold, l'.reporter.busStatus = e.status ∧ l'.reporter.reportDue = true := by
  obtain ⟨taken, release, -⟩ := h.flow.status
  have release : l.channel.status.toList = taken ++ l'.channel.status.toList := release
  have all := congrArg (List.map (·.status)) h.reports
  rw [List.map_append, Channel.status_reports, Channel.status_reports] at all
  simp only [unreported, begin, ↓reduceIte] at all
  rw [release, List.map_append, ← List.append_assoc, ← List.append_assoc, List.append_left_inj,
    List.singleton_append] at all
  rw [release]
  cases due : l'.reporter.reportDue with
  | false =>
    rw [due, if_neg Bool.false_ne_true, List.append_nil] at all
    refine ⟨taken, [], by rw [List.append_nil], ?_, Nat.zero_le _, nofun⟩
    rw [← all, List.tail_cons]
  | true =>
    rw [due, if_pos rfl] at all
    cases made : (ms.filterMap Message.busReport?).map (·.status) with
    | nil =>
      rw [made] at all
      have nothing : taken = [] := List.map_eq_nil_iff.1 (List.cons.inj all).2
      rw [nothing]
      exact ⟨[], [], rfl, rfl, Nat.zero_le _, nofun⟩
    | cons first others =>
      rw [made, List.cons_append] at all
      obtain ⟨told, last, rfl, reported, lastStatus⟩ := List.map_eq_append_iff.1 (List.cons.inj all).2
      obtain ⟨e, rfl, known⟩ := List.map_eq_singleton_iff.1 lastStatus
      refine ⟨told, [e], rfl, reported, Nat.le_refl _, fun e' mem => ?_⟩
      rw [List.mem_singleton] at mem
      rw [mem]
      exact ⟨known.symm, rfl⟩

/-! ## Lanes of an adapter -/

/-- what a lane of an adapter is at any time -/
structure Proper (l : Lane σ) : Prop where
  sound : l.Sound
  bounded : l.channel.Bounded
  formed : l.Formed

theorem Reachable.proper (h : l.Reachable) : l.Proper where
  sound := h.sound
  bounded := h.bounded
  formed := by
    obtain ⟨l₀, es, fresh, played⟩ := h
    exact formed_plays played (formed_of_fresh fresh)

theorem Proper.play {e : LaneEvent σ} (h : l.Proper) (played : l.play e = .ok l') : l'.Proper where
  sound := sound_play played h.sound
  bounded := bounded_play played h.sound h.bounded
  formed := by
    have one : l.plays [e] = .ok l' := Checked.bind_eq_ok.2 ⟨l', played, rfl⟩
    exact formed_plays one h.formed

theorem Proper.plays {es : List (LaneEvent σ)} (h : l.Proper) (played : l.plays es = .ok l') : l'.Proper :=
  plays_keeps (fun step proper => proper.play step) played h

/-- the same lane, with the task told to look or not -/
def withWake (wake : Bool) (l : Lane σ) : Lane σ := { l with channel := { l.channel with wake } }

omit [Controller σ] in
theorem Proper.withWake (h : l.Proper) (wake : Bool) : (l.withWake wake).Proper where
  sound :=
    have settled := h.sound.settled
    ⟨⟨settled.rx, settled.tx, settled.status, settled.errors⟩, h.sound.whole⟩
  bounded := h.bounded
  formed := ⟨h.formed.command, h.formed.can⟩

omit [Controller σ] in
theorem after_finish {now : Nat} {blocked : Bool} {outcome : WakeOutcome}
    (h : l.finish now blocked = .ok (outcome, l')) :
    l'.load = l.load ∧ l'.unreported = l.unreported ∧ outcome = if blocked then .backoff else .drained := by
  obtain ⟨can, led, leds, delays, wake, -, rfl, -, rfl⟩ := finish_cases h
  exact ⟨rfl, rfl, rfl⟩

/-- The look as a whole: its passes follow the schedule, and flushing the pipe afterwards moves nothing more. -/
theorem exists_look (now : Nat) (proper : l.Proper) (mounted : l.channel.mounted = true)
    (on : l.channel.enabled = true) (places : l.channel.config.txFifo.toNat < 255) :
    ∃ ms untold outcome l', Look now l ms untold outcome l' ∧ ∀ e ∈ untold, l'.reporter.busStatus = e.status := by
  obtain ⟨outcome, l', look⟩ := exists_wakeUp now mounted on proper.bounded places
  have parts := look
  rw [wakeUp_eq mounted on] at parts
  obtain ⟨⟨blocked, l₁⟩, drained, finished⟩ := Checked.bind_eq_ok.1 parts
  obtain ⟨⟨move, l₁⟩, ran, drained⟩ := Checked.bind_eq_ok.1 drained
  cases drained
  have enough : l.begin.load.rounds < l.begin.maxPasses := rounds_lt_maxPasses rfl
  have prompt : l.begin.load.Prompt := .inr rfl
  obtain ⟨-, stopped⟩ := passes_cases prompt enough ran
  obtain ⟨ms, relays, whole, part⟩ := sends_passes prompt enough move l₁ ran
  have due : l.begin.backlog.schedule = l.schedule := rfl
  rw [due] at part whole
  obtain ⟨load, unreported, said⟩ := after_finish finished
  have facts := relays.trans (.of_unreported (flow_finish finished) rfl unreported)
  rw [List.append_nil] at facts
  obtain ⟨told, untold, statuses, reported, one, known⟩ := facts.statuses
  have ended : move ≠ .moved ∧ (outcome = .backoff ↔ move = .blocked) ∧
      (outcome = .drained ∨ outcome = .backoff) := by
    rw [said]
    rcases stopped with ⟨rfl, -⟩ | ⟨rfl, -⟩
    · exact ⟨nofun, iff_of_true rfl rfl, .inr rfl⟩
    · exact ⟨nofun, iff_of_false nofun nofun, .inl rfl⟩
  refine ⟨ms, untold, outcome, l', ?_, fun e mem => (known e mem).1⟩
  exact {
    completes := look
    ends := ⟨move, l₁, ended.1, ended.2.1, finished, fun n within => by
      simp only [Ring.length_toList] at within
      exact passes_mono ran ended.1 within⟩
    scheduled := by
      by_cases stop : move = .blocked
      · obtain ⟨m, stopped⟩ := part stop
        exact (List.prefix_append _ _).trans stopped
      · obtain rfl := whole stop
        exact List.prefix_refl _
    stream := fun base started => by
      obtain ⟨before, carries⟩ := proper.formed.can.carries started
      exact ⟨before, carries, facts.flow.can.appends base before carries⟩
    ended := ended.2.2
    drained := by
      rintro rfl
      rcases stopped with ⟨rfl, -⟩ | ⟨rfl, empty⟩
      · cases said
      · have rings := rings_of_load (load.trans empty)
        have none : l'.reporter.reportDue = false := congrArg Load.due (load.trans empty)
        have all : untold = [] := List.eq_nil_iff_forall_not_mem.2 fun e mem => by
          cases none.symm.trans (known e mem).2
        exact ⟨whole nofun, all, rings⟩
    blocked := by
      intro backoff
      obtain ⟨busy, again⟩ := (after_wakeUp look).1 backoff
      exact ⟨busy, again, part (ended.2.1.1 backoff)⟩
    errors := facts.flow.errors.1
    frames := facts.flow.rx.1
    events := by
      obtain ⟨taken, reports, release, -⟩ := facts.flow.tx
      exact ⟨taken, reports, release⟩
    statuses := ⟨told, statuses, reported⟩
    one := one
    credits := by
      have counted := facts.flow.credits
      have bounded : l.channel.credits.toNat ≤ l.channel.config.txFifo.toNat := proper.bounded
      simp only [begin] at counted
      omega }

/-- a look begins with the status that the task knows -/
theorem head_of_schedule {ns : List Message} (part : ns <+: l.schedule) :
    ∀ r ∈ (ns.filterMap Message.busReport?).head?, r = (l.channel.snapshot l.reporter.busStatus).1 := by
  obtain ⟨more, all⟩ := part
  rw [schedule, Backlog.schedule_eq] at all
  cases ns with
  | nil => nofun
  | cons n ns =>
    obtain ⟨rfl, -⟩ := List.cons.inj all
    intro r first
    exact (Option.some.inj first).symm

/-- between looks the task remembers what it knew -/
theorem reporter_play {e : LaneEvent σ} (unseen : e.isLook = false) (h : l.play e = .ok l') :
    l'.reporter = l.reporter := by
  cases stepped h with
  | moved | mount | detach | usbReset | commandData | canData | commandDone | canDone | poll => rfl
  | wakeUp | serve | wait => cases unseen

theorem reporter_plays {es : List (LaneEvent σ)} (unseen : ∀ e ∈ es, e.isLook = false) (h : l.plays es = .ok l') :
    l'.reporter = l.reporter := by
  refine Checked.foldlM_keeps (P := fun k : Lane σ => k.reporter = l.reporter) ?_ h rfl
  intro e mem k k' played same
  exact (reporter_play (unseen e mem) played).trans same

end Lane

/-- **The order of reports.** Take a lane that is mounted and on the bus, in any state that an adapter can come to, with
fewer than 255 places; whether its task was told to look does not matter. A look at it comes to its end, in no more
passes than two and one for each item of the kind of which most wait, and appends the schedule to the CAN pipe from the
beginning. If the pipe is not busy it appends the whole of it, and nothing waits any more. If it is, what was not
appended waits in its ring, in order, except that one status may have been taken and not been reported. Each transmit
event that was reported gave one credit back, as far as there are places.

At the next look, if it finds the lane mounted and on the bus again, the first report is on that status. -/
theorem Adapter.look_follows_schedule {σ : Type} [Controller σ] {a₀ a : Adapter σ} {es : List (AdapterEvent σ)}
    (fresh : a₀.Fresh) (history : a₀.plays es = .ok a) {i : Nat} {l : Lane σ} (hl : a.lanes[i]? = some l)
    (mounted : l.channel.mounted = true) (on : l.channel.enabled = true)
    (places : l.channel.config.txFifo.toNat < 255) (wake : Bool) (now : Nat) :
    ∃ ms untold outcome l', (l.withWake wake).Look now ms untold outcome l' ∧
      ∀ (later : List (LaneEvent σ)) (m : Lane σ), (∀ e ∈ later, e.isLook = false) → l'.plays later = .ok m →
        m.channel.mounted = true → m.channel.enabled = true → ∀ (wake' : Bool) (now' : Nat),
          ∃ ns untold' outcome' m', (m.withWake wake').Look now' ns untold' outcome' m' ∧
            ∀ e ∈ untold, ∀ r ∈ (ns.filterMap Message.busReport?).head?, r = (m.channel.snapshot e.status).1 := by
  have proper := (Lane.reachable_of_fresh fresh history hl).proper.withWake wake
  obtain ⟨ms, untold, outcome, l', look, known⟩ := Lane.exists_look now proper mounted on places
  refine ⟨ms, untold, outcome, l', look, ?_⟩
  intro later m unseen played mounted' on' wake' now'
  have looked : (l.withWake wake).play (.op (.wakeUp now)) = .ok l' := Checked.map_eq_ok.2 ⟨_, look.completes, rfl⟩
  have both : (l.withWake wake).plays (.op (.wakeUp now) :: later) = .ok m :=
    Checked.bind_eq_ok.2 ⟨l', looked, played⟩
  have config : m.channel.config = l.channel.config := (Lane.moves_plays both).config
  have places' : m.channel.config.txFifo.toNat < 255 := by rwa [config]
  have proper' := (proper.plays both).withWake wake'
  obtain ⟨ns, untold', outcome', m', look', -⟩ := Lane.exists_look now' proper' mounted' on' places'
  refine ⟨ns, untold', outcome', m', look', fun e mem r first => ?_⟩
  have reported := Lane.head_of_schedule look'.scheduled r first
  have remembered : m.reporter.busStatus = e.status := by
    rw [Lane.reporter_plays unseen played]
    exact known e mem
  rw [← remembered]
  exact reported

namespace Adapter

/-- both banks are full of frames, and one more frame waits, when the bus status changes -/
def busyPipe : List (AdapterEvent SimController) :=
  [.op .mount, .op (.out 1 [8, 4, 1, 0]),
    .moved 0 fun s => { s with rx := List.replicate 13 { Frame.empty with dlc := 15, flags := .fdf } },
    .op (.poll 0), .op (.wakeUp 0 0),
    .moved 0 fun s => { s with status := .errorWarning, events := [⟨7, .empty, 0, 0⟩] }, .op (.poll 0)]

/-- the look takes the status change over and finds no room for the frame -/
theorem busyPipe_blocked : ∃ (a₀ a : Adapter SimController) (l l' : Lane SimController) (ms : List Message)
    (untold : List StatusEvent) (outcome : WakeOutcome), a₀.Fresh ∧ a₀.plays busyPipe = .ok a ∧
      a.lanes[0]? = some l ∧ l.channel.mounted = true ∧ l.channel.enabled = true ∧
      l.channel.config.txFifo.toNat < 255 ∧ l.channel.status.used = 1 ∧ l.channel.rx.used = 1 ∧
      l.channel.tx.used = 1 ∧ (l.withWake false).Look 1 ms untold outcome l' ∧ outcome = .backoff ∧
      l'.channel.status.used = 0 ∧ l'.channel.rx.used = 1 ∧ l'.channel.tx.used = 1 := by
  have ran : Checked.passes (fun r : Adapter SimController × Adapter SimController => r.2.lanes[0]?.any fun l =>
        decide (l.channel.mounted = true ∧ l.channel.enabled = true ∧ l.channel.config.txFifo.toNat < 255 ∧
          l.channel.status.used = 1 ∧ l.channel.rx.used = 1 ∧ l.channel.tx.used = 1) &&
        Checked.passes (fun r : WakeOutcome × Lane SimController => decide (r.1 = .backoff ∧
          r.2.channel.status.used = 0 ∧ r.2.channel.rx.used = 1 ∧ r.2.channel.tx.used = 1))
          ((l.withWake false).wakeUp 1))
      (single Config.default {} >>= fun a₀ => a₀.plays busyPipe >>= fun a => pure (a₀, a)) = true := by
    decide +kernel
  obtain ⟨a₀, a, built, history, found⟩ := Checked.of_passes_pair ran
  obtain ⟨l, hl, facts⟩ := (Option.any_eq_true _ _).1 found
  rw [Bool.and_eq_true, decide_eq_true_eq] at facts
  obtain ⟨⟨mounted, on, places, status, rx, tx⟩, looked⟩ := facts
  obtain ⟨⟨outcome, l'⟩, run, after⟩ := Checked.of_passes looked
  obtain ⟨ms, untold, outcome, l', look, -⟩ :=
    look_follows_schedule (fresh_single built) history hl mounted on places false 1
  cases run.symm.trans look.completes
  exact ⟨a₀, a, l, l', ms, untold, outcome, fresh_single built, history, hl, mounted, on, places, status, rx, tx,
    look, of_decide_eq_true after⟩

end Adapter

end CanAdapter
