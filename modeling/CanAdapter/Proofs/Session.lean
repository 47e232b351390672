/-
A session of a lane: the channel stays on the host and on the bus. What the controller hands out and what the host asks
for is entered in a ledger beside the run, and the messages of the CAN pipe are compared with the ledger.

`Ledger` is what the rings accepted and refused and what became of the transmit requests; `Lane.noted` is what one event
enters, `Lane.records` a history with its ledger. `Carried o k ms l l'` balances the books between two states: what the
rings held and gained is what was reported in `ms` and what they hold, each in order. `session_play`: every event of a
session balances, and `session_plays`: so does every history.
-/
import CanAdapter.Proofs.Sound

namespace CanAdapter

/-! ## Interleavings -/

/-- a list made of two others, each in its own order -/
inductive Interleaves {α : Type} : List α → List α → List α → Prop where
  | nil : Interleaves [] [] []
  | left (a : α) {as bs cs : List α} : Interleaves as bs cs → Interleaves (a :: as) bs (a :: cs)
  | right (b : α) {as bs cs : List α} : Interleaves as bs cs → Interleaves as (b :: bs) (b :: cs)

namespace Interleaves

variable {α β : Type} {as bs cs as' bs' cs' : List α}

theorem all_left (as : List α) : Interleaves as [] as := by
  induction as with
  | nil => exact .nil
  | cons a as ih => exact .left a ih

theorem all_right (bs : List α) : Interleaves [] bs bs := by
  induction bs with
  | nil => exact .nil
  | cons b bs ih => exact .right b ih

theorem append (h : Interleaves as bs cs) (h' : Interleaves as' bs' cs') :
    Interleaves (as ++ as') (bs ++ bs') (cs ++ cs') := by
  induction h with
  | nil => exact h'
  | left a _ ih => exact .left a ih
  | right b _ ih => exact .right b ih

theorem map (f : α → β) (h : Interleaves as bs cs) : Interleaves (as.map f) (bs.map f) (cs.map f) := by
  induction h with
  | nil => exact .nil
  | left a _ ih => exact .left (f a) ih
  | right b _ ih => exact .right (f b) ih

end Interleaves

/-! ## The ledger -/

/-- what the rings accepted and refused, and what became of the transmit requests -/
structure Ledger where
  frames : List Frame
  errors : List BusError
  events : List TxEvent
  /-- transmit events that found their ring full -/
  refused : List TxEvent
  fates : List (TxRequest × Fate)

namespace Ledger

def blank : Ledger := ⟨[], [], [], [], []⟩

def append (k more : Ledger) : Ledger where
  frames := k.frames ++ more.frames
  errors := k.errors ++ more.errors
  events := k.events ++ more.events
  refused := k.refused ++ more.refused
  fates := k.fates ++ more.fates

instance : Append Ledger := ⟨append⟩

/-- the transmit requests that could be read -/
def requests (k : Ledger) : List TxRequest := k.fates.map (·.1)

/-- the reports on dropped requests that were placed -/
def reports (k : Ledger) : List TxReport := k.fates.filterMap (·.2.report?)

/-- the dropped requests without a report -/
def unreported (k : Ledger) : List TxRequest := (k.fates.filter (·.2 == .unreported)).map (·.1)

end Ledger

/-- what can happen while the channel stays on the host and on the bus -/
def LaneEvent.InSession {σ : Type} (o : ByteOrder) : LaneEvent σ → Prop
  | .op (.commandData bytes) => Channel.Quiet o bytes
  | .op .detach | .op .usbReset => False
  | _ => True

namespace Lane

variable {σ : Type} {l l' l'' : Lane σ} {o : ByteOrder} {k k' : Ledger} {ms ns : List Message}

/-- the channel is on the host and on the bus -/
structure Session (o : ByteOrder) (l : Lane σ) : Prop where
  mounted : l.channel.mounted = true
  enabled : l.channel.enabled = true
  order : l.channel.config.order = o
  sound : l.Sound

/-- a task that was told to look, and is about to, has put the signal away -/
theorem Session.unsignalled (h : l.Session o) : Session o { l with channel := { l.channel with wake := false } } :=
  ⟨h.mounted, h.enabled, h.order, h.sound.unsignalled⟩

/-- From `l` to `l'` the books balance: with the entries `k`, and the messages `ms` on the CAN pipe, nothing was lost,
doubled or moved out of its order. -/
structure Carried (o : ByteOrder) (k : Ledger) (ms : List Message) (l l' : Lane σ) : Prop where
  can : Endpoint.Appends o ms l.channel.can l'.channel.can
  rx : l.channel.rx.toList ++ k.frames = ms.filterMap Message.frame? ++ l'.channel.rx.toList
  errors : l.channel.errors.toList ++ k.errors = ms.filterMap Message.error? ++ l'.channel.errors.toList
  tx : ∃ taken, l.channel.tx.toList ++ k.events = taken ++ l'.channel.tx.toList ∧
    Interleaves (taken.map TxEvent.report) k.reports (ms.filterMap Message.txReport?)
  desync : l.channel.desync = true ∨ k.refused ≠ [] ∨ k.unreported ≠ [] → l'.channel.desync = true

namespace Carried

/-- what was held and came in is what went out and is held, part by part -/
theorem balance_append {α : Type} {held held' held'' came came' went went' : List α}
    (h : held ++ came = went ++ held') (h' : held' ++ came' = went' ++ held'') :
    held ++ (came ++ came') = went ++ went' ++ held'' :=
  calc held ++ (came ++ came')
      = went ++ held' ++ came' := by rw [← List.append_assoc, h]
    _ = went ++ (held' ++ came') := List.append_assoc ..
    _ = went ++ went' ++ held'' := by rw [h', List.append_assoc]

/-- an event that touches neither the CAN pipe nor the rings -/
theorem of_same (can : l'.channel.can = l.channel.can) (rx : l'.channel.rx = l.channel.rx)
    (tx : l'.channel.tx = l.channel.tx) (errors : l'.channel.errors = l.channel.errors)
    (desync : l'.channel.desync = l.channel.desync) : Carried o .blank [] l l' where
  can := can ▸ .refl _ _
  rx := by simp [rx, Ledger.blank]
  errors := by simp [errors, Ledger.blank]
  tx := ⟨[], by simp [tx, Ledger.blank], .nil⟩
  desync h := by simpa [desync, Ledger.blank, Ledger.unreported] using h

theorem trans (h : Carried o k ms l l') (h' : Carried o k' ns l' l'') : Carried o (k ++ k') (ms ++ ns) l l'' where
  can := h.can.trans h'.can
  rx := by
    rw [List.filterMap_append]
    exact balance_append h.rx h'.rx
  errors := by
    rw [List.filterMap_append]
    exact balance_append h.errors h'.errors
  tx := by
    obtain ⟨taken, balance, merged⟩ := h.tx
    obtain ⟨taken', balance', merged'⟩ := h'.tx
    refine ⟨taken ++ taken', balance_append balance balance', ?_⟩
    have reports : (k ++ k').reports = k.reports ++ k'.reports := List.filterMap_append
    rw [List.map_append, List.filterMap_append, reports]
    exact merged.append merged'
  desync hk := by
    have refused : (k ++ k').refused = k.refused ++ k'.refused := rfl
    have unreported : (k ++ k').unreported = k.unreported ++ k'.unreported := by
      unfold Ledger.unreported
      rw [← List.map_append, ← List.filter_append]
      rfl
    rw [refused, unreported] at hk
    have now := h.desync
    have later := h'.desync
    simp only [ne_eq, List.append_eq_nil_iff] at hk now later
    grind

theorem of_flow (h : Flow ms l l') (order : l.channel.config.order = o) : Carried o .blank ms l l' where
  can := order ▸ h.can.appends
  rx := by
    rw [h.rx.1]
    exact List.append_nil _
  errors := by
    rw [h.errors.1]
    exact List.append_nil _
  tx := by
    obtain ⟨taken, reports, release⟩ := h.tx
    refine ⟨taken, ?_, ?_⟩
    · rw [release.1]
      exact List.append_nil _
    · rw [reports]
      exact .all_left _
  desync hk := by
    have same : l'.channel.desync = l.channel.desync := congrArg (·.desync) h.channel
    simpa [same, Ledger.blank, Ledger.unreported] using hk

end Carried

variable [Controller σ]

/-! ## Histories with their ledger -/

/-- what an event enters in the ledger, told from the state it meets -/
def noted (e : LaneEvent σ) (l : Lane σ) : Checked Ledger :=
  match e with
  | .op .poll => do
    let a ← l.channel.arrivals
    return {
      frames := a.frames.take l.channel.rx.room
      errors := a.errors.take l.channel.errors.room
      events := a.events.take l.channel.tx.room
      refused := a.events.drop l.channel.tx.room
      fates := [] }
  | .op (.canData bytes) => do
    return { Ledger.blank with fates := ← l.channel.fates (messages bytes) }
  | _ => .ok .blank

/-- events in order, with their ledger -/
def records : List (LaneEvent σ) → Lane σ → Checked (Ledger × Lane σ)
  | [], l => .ok (.blank, l)
  | e :: es, l => do
    let k ← l.noted e
    let l ← l.play e
    let (more, l) ← records es l
    return (k ++ more, l)

namespace Carried

theorem reports_of_fates (fs : List (TxRequest × Fate)) :
    (fs.flatMap (·.2.messages)).filterMap Message.frame? = [] ∧
    (fs.flatMap (·.2.messages)).filterMap Message.error? = [] ∧
    (fs.flatMap (·.2.messages)).filterMap Message.txReport? = fs.filterMap (·.2.report?) := by
  induction fs with
  | nil => exact ⟨rfl, rfl, rfl⟩
  | cons f fs ih =>
    obtain ⟨frames, errors, reports⟩ := ih
    obtain ⟨r, f⟩ := f
    cases f with
    | forwarded => exact ⟨frames, errors, reports⟩
    | unreported => exact ⟨frames, errors, reports⟩
    | reported t => exact ⟨frames, errors, congrArg (t :: ·) reports⟩

theorem of_sent {c : Channel σ} {fs : List (TxRequest × Fate)} (h : Channel.Sent fs l.channel c)
    (order : l.channel.config.order = o) :
    Carried o { Ledger.blank with fates := fs } (fs.flatMap (·.2.messages)) l { l with channel := c } := by
  obtain ⟨frames, errors, reports⟩ := reports_of_fates fs
  have rx : c.rx = l.channel.rx := congrArg (·.rx) h.channel
  have tx : c.tx = l.channel.tx := congrArg (·.tx) h.channel
  have same : c.errors = l.channel.errors := congrArg (·.errors) h.channel
  exact {
    can := order ▸ h.can.appends
    rx := by simp [frames, rx, Ledger.blank]
    errors := by simp [errors, same, Ledger.blank]
    tx := ⟨[], by simp [tx, Ledger.blank], by
      rw [reports]
      exact .all_right _⟩
    desync := fun hk => by
      rw [h.desync, Bool.or_eq_true, List.any_eq_true]
      rcases hk with lost | none | unreported
      · exact .inl lost
      · exact absurd rfl none
      · obtain ⟨r, hr⟩ := List.exists_mem_of_ne_nil _ unreported
        obtain ⟨f, hf, -⟩ := List.mem_map.1 hr
        obtain ⟨mem, dropped⟩ := List.mem_filter.1 hf
        exact .inr ⟨f, mem, dropped⟩ }

theorem of_polled {c : Channel σ} {a : Arrivals} (h : Channel.Polled a l.channel c) : Carried o {
      frames := a.frames.take l.channel.rx.room
      errors := a.errors.take l.channel.errors.room
      events := a.events.take l.channel.tx.room
      refused := a.events.drop l.channel.tx.room
      fates := [] } [] l { l with channel := c } where
  can := by
    have same : c.can = l.channel.can := congrArg (·.can) h.channel
    exact same ▸ .refl _ _
  rx := h.rx.1.symm
  errors := h.errors.1.symm
  tx := ⟨[], h.tx.1.symm, .nil⟩
  desync hk := by
    rw [h.desync, Bool.or_eq_true, decide_eq_true_eq]
    rcases hk with lost | refused | none
    · exact .inl lost
    · simp only [ne_eq, List.drop_eq_nil_iff, Nat.not_le] at refused
      exact .inr (.inr (.inr refused))
    · exact absurd rfl none

end Carried

/-- in a session the task never rests -/
theorem Session.flow {now : Nat} {outcome : WakeOutcome} (hl : l.Session o) (h : l.wakeUp now = .ok (outcome, l')) :
    ∃ ms, Flow ms l l' := by
  rcases wakeUp_cases h with ⟨-, off, -⟩ | ⟨-, -, off, -⟩ | ⟨-, -, -, ms, flow, -⟩
  · rw [hl.mounted] at off
    cases off
  · rw [hl.enabled] at off
    cases off
  · exact ⟨ms, flow⟩

theorem session_wakeUp {now : Nat} {outcome : WakeOutcome} (hl : l.Session o) (h : l.wakeUp now = .ok (outcome, l')) :
    ∃ ms, l'.Session o ∧ Carried o .blank ms l l' := by
  obtain ⟨ms, flow⟩ := hl.flow h
  refine ⟨ms, ⟨?_, ?_, ?_, flow.sound hl.sound⟩, .of_flow flow hl.order⟩
  · exact (congrArg (·.mounted) flow.channel).trans hl.mounted
  · exact (congrArg (·.enabled) flow.channel).trans hl.enabled
  · exact (congrArg (·.config.order) flow.channel).trans hl.order

theorem session_play {e : LaneEvent σ} (hl : l.Session o) (quiet : e.InSession o) (h : l.play e = .ok l') :
    ∃ k ms, l.noted e = .ok k ∧ l'.Session o ∧ Carried o k ms l l' := by
  obtain ⟨mounted, enabled, order, sound⟩ := hl
  have after := sound_play h sound
  cases stepped h with
  | moved => exact ⟨.blank, [], rfl, ⟨mounted, enabled, order, after⟩, .of_same rfl rfl rfl rfl rfl⟩
  | mount => exact ⟨.blank, [], rfl, ⟨rfl, enabled, order, after⟩, .of_same rfl rfl rfl rfl rfl⟩
  | detach => exact quiet.elim
  | usbReset => exact quiet.elim
  | commandData commands =>
    rename_i c bytes
    subst order
    have same := (Channel.commands_quiet (I := fun _ => True) (fun _ _ => trivial) quiet enabled commands trivial).1
    refine ⟨.blank, [], rfl, ⟨?_, ?_, ?_, after⟩, .of_same ?_ ?_ ?_ ?_ ?_⟩
    · exact (congrArg (·.mounted) same).trans mounted
    · exact (congrArg (·.enabled) same).trans enabled
    · exact congrArg (·.config.order) same
    · exact congrArg (·.can) same
    · exact congrArg (·.rx) same
    · exact congrArg (·.tx) same
    · exact congrArg (·.errors) same
    · exact congrArg (·.desync) same
  | canData transmissions =>
    obtain ⟨fs, fates, sent⟩ := Channel.sent_transmissions transmissions
    refine ⟨_, _, Checked.bind_eq_ok.2 ⟨fs, fates, rfl⟩, ⟨?_, ?_, ?_, after⟩, .of_sent sent order⟩
    · exact (congrArg (·.mounted) sent.channel).trans mounted
    · exact (congrArg (·.enabled) sent.channel).trans enabled
    · exact (congrArg (·.config.order) sent.channel).trans order
  | commandDone => exact ⟨.blank, [], rfl, ⟨mounted, enabled, order, after⟩, .of_same rfl rfl rfl rfl rfl⟩
  | canDone complete =>
    have still : Carried o .blank [] l l := .of_same rfl rfl rfl rfl rfl
    exact ⟨.blank, [], rfl, ⟨mounted, enabled, order, after⟩,
      { still with can := Endpoint.appends_complete complete }⟩
  | poll poll =>
    obtain ⟨a, arrivals, polled⟩ := Channel.poll_cases sound.settled poll
    refine ⟨_, _, Checked.bind_eq_ok.2 ⟨a, arrivals, rfl⟩, ⟨?_, ?_, ?_, after⟩, .of_polled polled⟩
    · exact (congrArg (·.mounted) polled.channel).trans mounted
    · exact (congrArg (·.enabled) polled.channel).trans enabled
    · exact (congrArg (·.config.order) polled.channel).trans order
  | wakeUp look =>
    obtain ⟨ms, session, carried⟩ := session_wakeUp ⟨mounted, enabled, order, sound⟩ look
    exact ⟨.blank, ms, rfl, session, carried⟩
  | serve told look =>
    obtain ⟨ms, session, carried⟩ := session_wakeUp (Session.unsignalled ⟨mounted, enabled, order, sound⟩) look
    exact ⟨.blank, ms, rfl, session, ⟨carried.can, carried.rx, carried.errors, carried.tx, carried.desync⟩⟩
  | wait => exact ⟨.blank, [], rfl, ⟨mounted, enabled, order, after⟩, .of_same rfl rfl rfl rfl rfl⟩

/-- induction on the events: the books of the parts add up -/
theorem session_plays {es : List (LaneEvent σ)} (hl : l.Session o) (quiet : ∀ e ∈ es, e.InSession o)
    (h : l.plays es = .ok l') : ∃ k ms, l.records es = .ok (k, l') ∧ l'.Session o ∧ Carried o k ms l l' := by
  induction es generalizing l with
  | nil =>
    cases h
    exact ⟨.blank, [], rfl, hl, .of_same rfl rfl rfl rfl rfl⟩
  | cons e es ih =>
    unfold plays at h
    rw [List.foldlM_cons] at h
    obtain ⟨l₁, first, h⟩ := Checked.bind_eq_ok.1 h
    obtain ⟨k, ms, noted, session, balance⟩ := session_play hl (quiet e List.mem_cons_self) first
    obtain ⟨k', ns, records, session', balance'⟩ := ih session (fun e he => quiet e (List.mem_cons_of_mem _ he)) h
    refine ⟨k ++ k', ms ++ ns, ?_, session', balance.trans balance'⟩
    simp [Lane.records, noted, first, records, bind, Except.bind, pure, Except.pure]

/-- what every event of a session keeps, a session keeps -/
theorem session_keeps {P : Lane σ → Prop}
    (step : ∀ {e : LaneEvent σ} {l l' : Lane σ}, l.Session o → e.InSession o → l.play e = .ok l' → P l → P l')
    {es : List (LaneEvent σ)} (hl : l.Session o) (quiet : ∀ e ∈ es, e.InSession o) (h : l.plays es = .ok l')
    (holds : P l) : l'.Session o ∧ P l' := by
  induction es generalizing l with
  | nil =>
    cases h
    exact ⟨hl, holds⟩
  | cons e es ih =>
    unfold plays at h
    rw [List.foldlM_cons] at h
    obtain ⟨l₁, first, h⟩ := Checked.bind_eq_ok.1 h
    have here := quiet e List.mem_cons_self
    obtain ⟨-, -, -, session, -⟩ := session_play hl here first
    refine ih session ?_ h (step hl here first holds)
    intro e he
    exact quiet e (List.mem_cons_of_mem _ he)

end Lane

end CanAdapter
