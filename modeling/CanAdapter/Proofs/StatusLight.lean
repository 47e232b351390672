/-
What the status LED shows, told from what the reporting task examined.

A look goes through the sources of a pass, and each source that has something at hand examines the oldest item of its
ring, also where there is no room for its message. `Lane.glances` is the record of a history: for each look, whether it
found the channel off the host or off the bus, or else its time and the items that it examined. The record runs along
the states of the history and reads the rings alone; what the task remembers does not enter it.

- `Inspects`: what a look examined of a ring is what it took from it and, where the pipe is busy, at most the next
  item (`Lane.glance_inspects`).
- `Examines`: what some items that were examined make the task remember. It holds of each source, and from it of
  sources in order and of passes (`examines_source`, `examines_inOrder`, `examines_passes`).
- `Lit`: the task knows what the LED shows, and no setting of it was idle.
- `Follows`: the task remembers what the looks since the last rest examined, and nothing else. Every event keeps it
  (`Follows.play`), so a history does (`Follows.plays`).
- `Lane.shown_follows_record` is the result: what the LED shows after a look, from the record of the history.

Times enter only at the end: that the last look that examined something is the one that counts is so because looks are
in the order of time (`Follows.active_iff`).
-/
import Mathlib.Data.List.Chain
import CanAdapter.Proofs.Schedule

namespace CanAdapter

/-! ## Records -/

/-- something that a look can examine -/
inductive Item where
  | status (e : StatusEvent)
  | error (e : BusError)
  | frame (f : Frame)
  | event (e : TxEvent)
deriving DecidableEq, Repr

namespace Item

def status? : Item → Option StatusEvent
  | status e => some e
  | _ => none

def error? : Item → Option BusError
  | error e => some e
  | _ => none

def frame? : Item → Option Frame
  | frame f => some f
  | _ => none

def event? : Item → Option TxEvent
  | event e => some e
  | _ => none

/-- whether it is an error; a status change tells nothing of that -/
def fault? : Item → Option Bool
  | status _ => none
  | error _ => some true
  | frame _ | event _ => some false

end Item

/-- what came of a look -/
inductive Glance where
  /-- the channel was off the host or off the bus -/
  | rested
  /-- at time `now` it examined the items `seen`, in this order -/
  | looked (now : Nat) (seen : List Item)
deriving DecidableEq, Repr

namespace Glance

/-- the looks on the bus since the last one off it, with their times -/
def next (past : List (Nat × List Item)) : Glance → List (Nat × List Item)
  | rested => []
  | looked now seen => past ++ [(now, seen)]

def sinceRest (gs : List Glance) : List (Nat × List Item) := gs.foldl next []

/-- all that some looks examined, the oldest first -/
def items (past : List (Nat × List Item)) : List Item := past.flatMap (·.2)

/-- the status of the last change that was examined -/
def statusAfter (before : BusStatus) (seen : List Item) : BusStatus :=
  ((seen.filterMap Item.status?).map (·.status)).getLastD before

theorem statusAfter_append (before : BusStatus) (seen more : List Item) :
    statusAfter before (seen ++ more) = statusAfter (statusAfter before seen) more := by
  rw [statusAfter, statusAfter, statusAfter, List.filterMap_append, List.map_append, getLastD_append]

/-- the last error, frame or transmit event that was examined was an error -/
def FaultLast (past : List (Nat × List Item)) : Prop := ((items past).filterMap Item.fault?).getLast? = some true

/-- less than the window before `t`, something was examined -/
def ActiveAt (t : Nat) (past : List (Nat × List Item)) : Prop :=
  ∃ look ∈ past, look.2 ≠ [] ∧ t - look.1 < activityWindow

end Glance

namespace Lane

variable {σ : Type} [Controller σ]

/-- a source of a pass, and what it has at hand -/
structure Source (σ : Type) where
  run : Lane σ → Checked (Move × Lane σ)
  item : Lane σ → Option Item

/-- the sources of a pass: each has the oldest item of its ring at hand, and the report that is due is no item -/
def sources (now : Nat) : List (Source σ) :=
  [⟨placeReport, fun _ => none⟩,
    ⟨takeStatus now, fun l => l.channel.status.toList.head?.map .status⟩,
    ⟨placeError now, fun l => l.channel.errors.toList.head?.map .error⟩,
    ⟨placeFrame now, fun l => l.channel.rx.toList.head?.map .frame⟩,
    ⟨placeTxReport now, fun l => l.channel.tx.toList.head?.map .event⟩]

theorem pass_eq (now : Nat) (l : Lane σ) : l.pass now = inOrder ((sources now).map Source.run) l := rfl

omit [Controller σ] in
/-- what some sources in order examine; none has its turn after one that is blocked -/
def examinedBy : List (Source σ) → Lane σ → Checked (List Item)
  | [], _ => .ok []
  | source :: rest, l => do
    match ← source.run l with
    | (.blocked, _) => return (source.item l).toList
    | (_, l') => return (source.item l).toList ++ (← examinedBy rest l')

/-- what at most `n` passes examine -/
def examined (now : Nat) : Nat → Lane σ → Checked (List Item)
  | 0, _ => .ok []
  | n + 1, l => do
    let seen ← examinedBy (sources now) l
    match ← l.pass now with
    | (.moved, l') => return seen ++ (← examined now n l')
    | _ => return seen

/-- what comes of a look at time `now` -/
def glance (now : Nat) (l : Lane σ) : Checked Glance :=
  if l.channel.mounted && l.channel.enabled then .looked now <$> l.begin.examined now l.begin.maxPasses
  else .ok .rested

/-- the look that an event is, if it is one -/
def glanceAt (e : LaneEvent σ) (l : Lane σ) : Checked (Option Glance) :=
  match e with
  | .op (.wakeUp now) => some <$> l.glance now
  | .op (.serve now) => if l.channel.wake then some <$> (l.withWake false).glance now else .ok none
  | _ => .ok none

/-- the looks of a history, in order -/
def glances : List (LaneEvent σ) → Lane σ → Checked (List Glance)
  | [], _ => .ok []
  | e :: es, l => do return (← l.glanceAt e).toList ++ (← glances es (← l.play e))

omit [Controller σ] in
/-- what the status LED shows: it is off until it is set -/
def shown (l : Lane σ) : LedStatus := l.leds.getLastD .disabled

end Lane

namespace LedStatus

def isError : LedStatus → Bool
  | errorIdle | errorActive => true
  | _ => false

def isActive : LedStatus → Bool
  | busActive | errorActive => true
  | _ => false

end LedStatus

/-- the time of an event, if it is a look -/
def LaneEvent.time? {σ : Type} : LaneEvent σ → Option Nat
  | .op (.wakeUp now) | .op (.serve now) => some now
  | _ => none

/-! ## What examined items leave behind -/

/-- Of a ring that held `held` and then `left`, the items `seen` were examined: those that were taken and, where the
pipe was busy, at most the next. -/
def Inspects {α : Type} (blocked : Bool) (seen held left : List α) : Prop :=
  ∃ taken, held = taken ++ left ∧ (seen = taken ∨ blocked = true ∧ seen = taken ++ left.head?.toList)

namespace Inspects

variable {α : Type} {blocked : Bool} {seen more held left rest : List α}

theorem refl (blocked : Bool) (held : List α) : Inspects blocked [] held held := ⟨[], rfl, .inl rfl⟩

theorem trans (h : Inspects false seen held left) (h' : Inspects blocked more left rest) :
    Inspects blocked (seen ++ more) held rest := by
  obtain ⟨taken, rfl, rfl | ⟨stopped, -⟩⟩ := h
  · obtain ⟨later, rfl, rfl | ⟨stopped, rfl⟩⟩ := h'
    · exact ⟨seen ++ more, (List.append_assoc ..).symm, .inl rfl⟩
    · exact ⟨seen ++ later, (List.append_assoc ..).symm, .inr ⟨stopped, (List.append_assoc ..).symm⟩⟩
  · cases stopped

/-- the head of a ring was looked at and stays -/
theorem head {a : α} (first : held.head? = some a) : Inspects true [a] held held :=
  ⟨[], rfl, .inr ⟨rfl, by rw [first]; rfl⟩⟩

theorem of_releases {a : α} {k : Nat} {r r' : Ring α k} (took : Ring.Releases [a] r r') :
    Inspects blocked [a] r.toList r'.toList :=
  ⟨[a], took.1, .inl rfl⟩

end Inspects

namespace Lane

variable {σ : Type} {now : Nat} {seen more : List Item} {blocked : Bool} {move : Move} {l l' l'' : Lane σ}

/-- from `l` to `l'` the items `seen` were examined at time `now`, and the task remembers them -/
structure Examines (now : Nat) (seen : List Item) (blocked : Bool) (l l' : Lane σ) : Prop where
  status : Inspects blocked (seen.filterMap Item.status?) l.channel.status.toList l'.channel.status.toList
  errors : Inspects blocked (seen.filterMap Item.error?) l.channel.errors.toList l'.channel.errors.toList
  frames : Inspects blocked (seen.filterMap Item.frame?) l.channel.rx.toList l'.channel.rx.toList
  events : Inspects blocked (seen.filterMap Item.event?) l.channel.tx.toList l'.channel.tx.toList
  busStatus : l'.reporter.busStatus = Glance.statusAfter l.reporter.busStatus seen
  errorSeen : l'.reporter.errorSeen = (seen.filterMap Item.fault?).getLastD l.reporter.errorSeen
  lastActivity : l'.reporter.lastActivity = if seen = [] then l.reporter.lastActivity else some now
  led : l'.reporter.led = l.reporter.led
  leds : l'.leds = l.leds

namespace Examines

theorem refl (now : Nat) (blocked : Bool) (l : Lane σ) : Examines now [] blocked l l :=
  ⟨.refl _ _, .refl _ _, .refl _ _, .refl _ _, rfl, rfl, rfl, rfl, rfl⟩

theorem trans (h : Examines now seen false l l') (h' : Examines now more blocked l' l'') :
    Examines now (seen ++ more) blocked l l'' where
  status := List.filterMap_append .. ▸ h.status.trans h'.status
  errors := List.filterMap_append .. ▸ h.errors.trans h'.errors
  frames := List.filterMap_append .. ▸ h.frames.trans h'.frames
  events := List.filterMap_append .. ▸ h.events.trans h'.events
  busStatus := by rw [h'.busStatus, h.busStatus, Glance.statusAfter_append]
  errorSeen := by rw [h'.errorSeen, h.errorSeen, List.filterMap_append, getLastD_append]
  lastActivity := by
    rw [h'.lastActivity, h.lastActivity]
    simp only [List.append_eq_nil_iff]
    split <;> simp_all
  led := h'.led.trans h.led
  leds := h'.leds.trans h.leds

end Examines

/-! ## Sources and passes -/

theorem examines_takeStatus (h : l.takeStatus now = .ok (move, l')) :
    Examines now (l.channel.status.toList.head?.map .status).toList (move == .blocked) l l' := by
  rcases takeStatus_cases h with ⟨rfl, rfl, empty⟩ | ⟨rfl, e, took, rfl⟩
  · rw [empty]
    exact .refl _ _ _
  · have first : l.channel.status.toList.head? = some e := by rw [took.1]; rfl
    rw [first]
    exact { Examines.refl now false l with
      status := .of_releases took
      busStatus := rfl
      errorSeen := rfl
      lastActivity := rfl }

/-- A source that places the oldest item of a ring. What it leaves behind is to be known of an item that `stays` in
its ring and of one that was `taken`. -/
theorem examines_placeOldest {α : Type} {k : Nat} {ring : Channel σ → Ring α k} {message : α → Message}
    {noted : Reporter → Reporter} {done : Channel σ → Checked (Channel σ)} {item : α → Item}
    (reply : ∀ a, (message a).IsReply) (h : placeOldest ring message noted done l = .ok (move, l'))
    (stays : ∀ a, Inspects true [a] (ring l.channel).toList (ring l.channel).toList →
      Examines now [item a] true l { l with reporter := noted l.reporter })
    (taken : ∀ a can c, Ring.Releases [a] (ring l.channel) (ring l.channel).consume →
      done { l.channel with can } = .ok c →
      Examines now [item a] false l { l with channel := c, reporter := noted l.reporter }) :
    Examines now ((ring l.channel).toList.head?.map item).toList (move == .blocked) l l' := by
  rcases placeOldest_cases reply h with
    ⟨rfl, rfl, empty⟩ | ⟨rfl, rfl, waits, -⟩ | ⟨rfl, a, can, c, took, -, finished, rfl⟩
  · rw [empty]
    exact .refl _ _ _
  · obtain ⟨a, first⟩ := Option.isSome_iff_exists.1 (List.isSome_head?.2 waits)
    rw [first]
    exact stays a (.head first)
  · have first : (ring l.channel).toList.head? = some a := by rw [took.1]; rfl
    rw [first]
    exact taken a can c took finished

theorem examines_placeError (h : l.placeError now = .ok (move, l')) :
    Examines now (l.channel.errors.toList.head?.map .error).toList (move == .blocked) l l' := by
  refine examines_placeOldest Message.isReply_busError h (fun _ stays => ?_) fun _ can c took finished => ?_
  · exact { Examines.refl now true l with
      errors := stays
      busStatus := rfl
      errorSeen := rfl
      lastActivity := rfl }
  · cases finished
    exact { Examines.refl now false l with
      errors := .of_releases took
      busStatus := rfl
      errorSeen := rfl
      lastActivity := rfl }

theorem examines_placeFrame (h : l.placeFrame now = .ok (move, l')) :
    Examines now (l.channel.rx.toList.head?.map .frame).toList (move == .blocked) l l' := by
  refine examines_placeOldest Message.isReply_received h (fun _ stays => ?_) fun _ can c took finished => ?_
  · exact { Examines.refl now true l with
      frames := stays
      busStatus := rfl
      errorSeen := rfl
      lastActivity := rfl }
  · cases finished
    exact { Examines.refl now false l with
      frames := .of_releases took
      busStatus := rfl
      errorSeen := rfl
      lastActivity := rfl }

theorem examines_placeTxReport (h : l.placeTxReport now = .ok (move, l')) :
    Examines now (l.channel.tx.toList.head?.map .event).toList (move == .blocked) l l' := by
  refine examines_placeOldest (fun _ => Message.isReply_transmitted _) h (fun _ stays => ?_) fun _ can c took paid => ?_
  · exact { Examines.refl now true l with
      events := stays
      busStatus := rfl
      errorSeen := rfl
      lastActivity := rfl }
  · cases Channel.returnCredit_eq paid
    exact { Examines.refl now false l with
      events := .of_releases took
      busStatus := rfl
      errorSeen := rfl
      lastActivity := rfl }

variable [Controller σ]

theorem examines_placeReport (h : l.placeReport = .ok (move, l')) : Examines now [] (move == .blocked) l l' := by
  rcases placeReport_cases h with ⟨rfl, rfl, -⟩ | ⟨rfl, rfl, -⟩ | ⟨rfl, -, can, -, rfl⟩
  · exact .refl _ _ _
  · exact .refl _ _ _
  · exact { Examines.refl now false l with
      busStatus := rfl
      errorSeen := rfl
      lastActivity := rfl }

theorem examines_source {source : Source σ} (hs : source ∈ sources now) (h : source.run l = .ok (move, l')) :
    Examines now (source.item l).toList (move == .blocked) l l' := by
  simp only [sources, List.mem_cons, List.not_mem_nil, or_false] at hs
  rcases hs with rfl | rfl | rfl | rfl | rfl
  · exact examines_placeReport h
  · exact examines_takeStatus h
  · exact examines_placeError h
  · exact examines_placeFrame h
  · exact examines_placeTxReport h

/-- induction on the sources: the items of those that have had their turn come first -/
theorem examines_inOrder {ss : List (Source σ)} (hs : ∀ source ∈ ss, source ∈ sources now)
    (h : inOrder (ss.map Source.run) l = .ok (move, l')) :
    ∃ seen, examinedBy ss l = .ok seen ∧ Examines now seen (move == .blocked) l l' := by
  induction ss generalizing l move with
  | nil =>
    cases h
    exact ⟨[], rfl, .refl _ _ _⟩
  | cons source ss ih =>
    have later {l : Lane σ} {move : Move} := @ih move l fun s mem => hs s (List.mem_cons_of_mem _ mem)
    obtain ⟨⟨m₁, l₁⟩, h₁, h⟩ := Checked.bind_eq_ok.1 h
    have first := examines_source (hs source List.mem_cons_self) h₁
    cases m₁ with
    | blocked =>
      cases h
      exact ⟨_, Checked.bind_eq_ok.2 ⟨_, h₁, rfl⟩, first⟩
    | idle =>
      obtain ⟨more, ran, rest⟩ := later h
      exact ⟨_, Checked.bind_eq_ok.2 ⟨_, h₁, Checked.bind_eq_ok.2 ⟨_, ran, rfl⟩⟩, first.trans rest⟩
    | moved =>
      obtain ⟨⟨m₂, l₂⟩, h₂, h⟩ := Checked.bind_eq_ok.1 h
      have same : l₂ = l' ∧ (move == .blocked) = (m₂ == .blocked) := by cases m₂ <;> cases h <;> exact ⟨rfl, rfl⟩
      obtain ⟨rfl, stops⟩ := same
      obtain ⟨more, ran, rest⟩ := later h₂
      rw [stops]
      exact ⟨_, Checked.bind_eq_ok.2 ⟨_, h₁, Checked.bind_eq_ok.2 ⟨_, ran, rfl⟩⟩, first.trans rest⟩

/-- induction on the passes that are left -/
theorem examines_passes {n : Nat} (h : l.passes now n = .ok (move, l')) :
    ∃ seen, l.examined now n = .ok seen ∧ Examines now seen (move == .blocked) l l' := by
  induction n generalizing l with
  | zero =>
    cases h
    exact ⟨[], rfl, .refl _ _ _⟩
  | succ n ih =>
    obtain ⟨⟨m, l₁⟩, h₁, h⟩ := Checked.bind_eq_ok.1 h
    obtain ⟨seen, ran, first⟩ := examines_inOrder (fun _ mem => mem) ((pass_eq now l).symm.trans h₁)
    cases m with
    | blocked | idle =>
      cases h
      exact ⟨seen, Checked.bind_eq_ok.2 ⟨seen, ran, Checked.bind_eq_ok.2 ⟨_, h₁, rfl⟩⟩, first⟩
    | moved =>
      obtain ⟨more, later, rest⟩ := ih h
      refine ⟨seen ++ more, ?_, first.trans rest⟩
      exact Checked.bind_eq_ok.2 ⟨seen, ran, Checked.bind_eq_ok.2 ⟨_, h₁, Checked.bind_eq_ok.2 ⟨more, later, rfl⟩⟩⟩

/-- a look on the bus: its passes examine some items, and then it ends -/
theorem examines_wakeUp {outcome : WakeOutcome} (mounted : l.channel.mounted = true) (on : l.channel.enabled = true)
    (h : l.wakeUp now = .ok (outcome, l')) : ∃ seen blocked l₁, l.glance now = .ok (.looked now seen) ∧
      Examines now seen blocked l.begin l₁ ∧ l₁.finish now blocked = .ok (outcome, l') := by
  rw [wakeUp_eq mounted on] at h
  obtain ⟨⟨blocked, l₁⟩, drained, finished⟩ := Checked.bind_eq_ok.1 h
  obtain ⟨⟨m, l₁⟩, passed, drained⟩ := Checked.bind_eq_ok.1 drained
  cases drained
  obtain ⟨seen, ran, examines⟩ := examines_passes passed
  refine ⟨seen, _, l₁, ?_, examines, finished⟩
  rw [glance, mounted, on, ran]
  rfl

/-- What a look on the bus examined of a ring is what it took from it and, if it found the pipe busy, at most the next
item. -/
theorem glance_inspects {outcome : WakeOutcome} (mounted : l.channel.mounted = true) (on : l.channel.enabled = true)
    (h : l.wakeUp now = .ok (outcome, l')) : ∃ seen blocked, l.glance now = .ok (.looked now seen) ∧
      outcome = (if blocked then .backoff else .drained) ∧
      Inspects blocked (seen.filterMap Item.status?) l.channel.status.toList l'.channel.status.toList ∧
      Inspects blocked (seen.filterMap Item.error?) l.channel.errors.toList l'.channel.errors.toList ∧
      Inspects blocked (seen.filterMap Item.frame?) l.channel.rx.toList l'.channel.rx.toList ∧
      Inspects blocked (seen.filterMap Item.event?) l.channel.tx.toList l'.channel.tx.toList := by
  obtain ⟨seen, blocked, l₁, ran, examines, finished⟩ := examines_wakeUp mounted on h
  obtain ⟨can, led, leds, delays, wake, -, rfl, -, rfl⟩ := finish_cases finished
  exact ⟨seen, blocked, ran, rfl, examines.status, examines.errors, examines.frames, examines.events⟩

/-! ## The light -/

omit [Controller σ] in
theorem updateLed_cases (now : Nat) (l : Lane σ) :
    (l.updateLed now).reporter = { l.reporter with led := l.reporter.ledAt now } ∧
      ((l.reporter.ledAt now = l.reporter.led ∧ (l.updateLed now).leds = l.leds) ∨
        (l.reporter.ledAt now ≠ l.reporter.led ∧ (l.updateLed now).leds = l.leds ++ [l.reporter.ledAt now])) := by
  unfold updateLed
  simp only
  split
  · rename_i same
    exact ⟨by rw [same], .inl ⟨same, rfl⟩⟩
  · rename_i new
    exact ⟨rfl, .inr ⟨new, rfl⟩⟩

omit [Controller σ] in
theorem lights_finish {blocked : Bool} {outcome : WakeOutcome} (h : l.finish now blocked = .ok (outcome, l')) :
    l'.reporter = (l.updateLed now).reporter ∧ l'.leds = (l.updateLed now).leds := by
  obtain ⟨can, -, h⟩ := Checked.bind_eq_ok.1 h
  have same : (updateLed now { l with channel := { l.channel with can } }).reporter = (l.updateLed now).reporter ∧
      (updateLed now { l with channel := { l.channel with can } }).leds = (l.updateLed now).leds := by
    unfold updateLed
    simp only
    split <;> exact ⟨rfl, rfl⟩
  cases blocked <;> cases h <;> exact same

/-- the task knows what the LED shows, and the LED was never set to what it showed already -/
structure Lit (l : Lane σ) : Prop where
  known : l.reporter.led = l.shown
  changes : (LedStatus.disabled :: l.leds).IsChain (· ≠ ·)

namespace Lit

omit [Controller σ] in
theorem set (h : Lit l) (led : LedStatus) (knows : l'.reporter.led = led)
    (sets : (led = l.reporter.led ∧ l'.leds = l.leds) ∨ (led ≠ l.reporter.led ∧ l'.leds = l.leds ++ [led])) :
    Lit l' := by
  rcases sets with ⟨rfl, same⟩ | ⟨new, longer⟩
  · exact ⟨by rw [knows, h.known, shown, shown, same], by rw [same]; exact h.changes⟩
  · refine ⟨by rw [knows, shown, longer, List.getLastD_concat], ?_⟩
    rw [longer, ← List.cons_append, List.isChain_append]
    refine ⟨h.changes, .singleton _, ?_⟩
    intro last hl first hf
    rw [List.getLast?_cons, ← List.getLastD_eq_getLast?] at hl
    cases hl
    cases hf
    exact fun same => new (same.symm.trans h.known.symm)

end Lit

omit [Controller σ] in
theorem lit_rest (h : Lit l) : Lit l.rest := by
  refine h.set .disabled rfl ?_
  by_cases off : l.reporter.led = .disabled
  · exact .inl ⟨off.symm, if_pos off⟩
  · exact .inr ⟨Ne.symm off, if_neg off⟩

omit [Controller σ] in
theorem lit_finish {blocked : Bool} {outcome : WakeOutcome} (h : Lit l)
    (finished : l.finish now blocked = .ok (outcome, l')) : Lit l' := by
  obtain ⟨reporter, leds⟩ := lights_finish finished
  obtain ⟨knows, sets⟩ := updateLed_cases now l
  refine h.set (l.reporter.ledAt now) ?_ ?_
  · rw [reporter, knows]
  · rw [leds]
    exact sets

/-! ## Histories -/

/-- The task remembers what the looks `past` examined, which are all on the bus since the last rest; their times are
among `times`. -/
structure Follows (times : List Nat) (past : List (Nat × List Item)) (l : Lane σ) : Prop where
  timed : (past.map (·.1)).Sublist times
  busStatus : l.reporter.busStatus = Glance.statusAfter .errorActive (Glance.items past)
  errorSeen : l.reporter.errorSeen = ((Glance.items past).filterMap Item.fault?).getLastD false
  lastActivity : l.reporter.lastActivity = (past.filter (!·.2.isEmpty)).getLast?.map (·.1)
  led : l.reporter.led = (past.getLast?.map fun look => l.reporter.ledAt look.1).getD .disabled
  lit : Lit l

namespace Follows

variable {times : List Nat} {past : List (Nat × List Item)}

omit [Controller σ] in
theorem congr (h : Follows times past l) (reporter : l'.reporter = l.reporter) (leds : l'.leds = l.leds) :
    Follows times past l' where
  timed := h.timed
  busStatus := by rw [reporter, h.busStatus]
  errorSeen := by rw [reporter, h.errorSeen]
  lastActivity := by rw [reporter, h.lastActivity]
  led := by rw [reporter, h.led]
  lit := h.lit.set l.reporter.led (by rw [reporter]) (.inl ⟨rfl, leds⟩)

omit [Controller σ] in
theorem rest (h : Follows times past l) (more : List Nat) : Follows (times ++ more) [] l.rest :=
  ⟨List.nil_sublist _, rfl, rfl, rfl, rfl, lit_rest h.lit⟩

omit [Controller σ] in
/-- a look on the bus: it examines some items and then shows what it remembers -/
theorem looked {l₁ : Lane σ} {outcome : WakeOutcome} (h : Follows times past l)
    (examines : Examines now seen blocked l.begin l₁) (finished : l₁.finish now blocked = .ok (outcome, l')) :
    Follows (times ++ [now]) (past ++ [(now, seen)]) l' := by
  have same := lights_finish finished
  rw [(updateLed_cases now l₁).1] at same
  have items : Glance.items (past ++ [(now, seen)]) = Glance.items past ++ seen := by simp [Glance.items]
  have lit : Lit l₁ := h.lit.set l.reporter.led examines.led (.inl ⟨rfl, examines.leds⟩)
  refine ⟨?_, ?_, ?_, ?_, ?_, lit_finish lit finished⟩
  · rw [List.map_append]
    exact h.timed.append (.refl _)
  · calc l'.reporter.busStatus
      _ = l₁.reporter.busStatus := by rw [same.1]
      _ = Glance.statusAfter l.reporter.busStatus seen := examines.busStatus
      _ = Glance.statusAfter .errorActive (Glance.items (past ++ [(now, seen)])) := by
        rw [h.busStatus, items, Glance.statusAfter_append]
  · calc l'.reporter.errorSeen
      _ = l₁.reporter.errorSeen := by rw [same.1]
      _ = (seen.filterMap Item.fault?).getLastD l.reporter.errorSeen := examines.errorSeen
      _ = ((Glance.items (past ++ [(now, seen)])).filterMap Item.fault?).getLastD false := by
        rw [h.errorSeen, items, List.filterMap_append, getLastD_append]
  · calc l'.reporter.lastActivity
      _ = l₁.reporter.lastActivity := by rw [same.1]
      _ = if seen = [] then l.reporter.lastActivity else some now := examines.lastActivity
      _ = ((past ++ [(now, seen)]).filter (!·.2.isEmpty)).getLast?.map (·.1) := by
        rw [h.lastActivity, List.filter_append]
        cases seen <;> simp
  · rw [List.getLast?_concat, same.1]
    rfl

theorem wakeUp {outcome : WakeOutcome} (h : Follows times past l) (hl : l.wakeUp now = .ok (outcome, l')) :
    ∃ g, l.glance now = .ok g ∧ Follows (times ++ [now]) (g.next past) l' := by
  have resting (off : (l.channel.mounted && l.channel.enabled) = false) (rested : l' = l.rest) :
      ∃ g, l.glance now = .ok g ∧ Follows (times ++ [now]) (g.next past) l' :=
    ⟨.rested, if_neg (by simp [off]), rested ▸ h.rest [now]⟩
  cases mounted : l.channel.mounted with
  | false =>
    cases (wakeUp_of_unmounted mounted).symm.trans hl
    exact resting (by rw [mounted]; rfl) rfl
  | true =>
    cases on : l.channel.enabled with
    | false =>
      cases (wakeUp_of_disabled mounted on).symm.trans hl
      exact resting (by rw [mounted, on]; rfl) rfl
    | true =>
      obtain ⟨seen, blocked, l₁, ran, examines, finished⟩ := examines_wakeUp mounted on hl
      exact ⟨_, ran, h.looked examines finished⟩

/-- one event, by cases on it: a look adds to the record, and between looks the task remembers what it knew -/
theorem play {e : LaneEvent σ} (h : Follows times past l) (hl : l.play e = .ok l') :
    ∃ g, l.glanceAt e = .ok g ∧ Follows (times ++ e.time?.toList) (g.toList.foldl Glance.next past) l' := by
  cases stepped hl with
  | moved | mount | detach | usbReset | commandData | canData | commandDone | canDone | poll =>
    exact ⟨none, rfl, (List.append_nil times).symm ▸ h.congr rfl rfl⟩
  | wakeUp look =>
    obtain ⟨g, ran, follows⟩ := h.wakeUp look
    exact ⟨some g, Checked.map_eq_ok.2 ⟨g, ran, rfl⟩, follows⟩
  | @serve _ _ now _ told look =>
    have h₀ : Follows times past (l.withWake false) := h.congr rfl rfl
    obtain ⟨g, ran, follows⟩ := h₀.wakeUp look
    exact ⟨some g, (if_pos told).trans (Checked.map_eq_ok.2 ⟨g, ran, rfl⟩), follows⟩
  | wait untold =>
    exact ⟨none, if_neg (by simp [untold]), { h with timed := h.timed.trans (List.sublist_append_left ..) }⟩

theorem plays {es : List (LaneEvent σ)} (h : Follows times past l) (hl : l.plays es = .ok l') :
    ∃ gs, l.glances es = .ok gs ∧ Follows (times ++ es.filterMap LaneEvent.time?) (gs.foldl Glance.next past) l' := by
  induction es generalizing times past l with
  | nil =>
    cases hl
    exact ⟨[], rfl, (List.append_nil times).symm ▸ h⟩
  | cons e es ih =>
    unfold Lane.plays at hl
    rw [List.foldlM_cons] at hl
    obtain ⟨l₁, h₁, hl⟩ := Checked.bind_eq_ok.1 hl
    obtain ⟨g, first, follows⟩ := h.play h₁
    obtain ⟨gs, rest, follows⟩ := ih follows hl
    refine ⟨g.toList ++ gs, ?_, ?_⟩
    · exact Checked.bind_eq_ok.2 ⟨g, first, Checked.bind_eq_ok.2 ⟨l₁, h₁, Checked.bind_eq_ok.2 ⟨gs, rest, rfl⟩⟩⟩
    · have timed : (e :: es).filterMap LaneEvent.time? = e.time?.toList ++ es.filterMap LaneEvent.time? := by
        rw [List.filterMap_cons]
        cases e.time? <;> rfl
      rw [List.foldl_append, timed, ← List.append_assoc]
      exact follows

omit [Controller σ] in
theorem init {c : Channel σ} : Follows [] [] (ofChannel c) :=
  ⟨.slnil, rfl, rfl, rfl, rfl, ⟨rfl, .singleton _⟩⟩

omit [Controller σ] in
/-- of looks in the order of time, the last that examined something is the one that counts -/
theorem active_iff (h : Follows times past l) (ordered : times.Pairwise (· ≤ ·)) (t : Nat) :
    l.reporter.active t = true ↔ Glance.ActiveAt t past := by
  have timed : past.Pairwise (·.1 ≤ ·.1) := List.pairwise_map.1 (ordered.sublist h.timed)
  have busy := timed.filter (!·.2.isEmpty)
  unfold Reporter.active Glance.ActiveAt
  rw [h.lastActivity]
  cases last : (past.filter (!·.2.isEmpty)).getLast? with
  | none =>
    rw [List.getLast?_eq_none_iff, List.filter_eq_nil_iff] at last
    refine iff_of_false nofun ?_
    rintro ⟨look, mem, some, -⟩
    exact last look mem (by simpa using some)
  | some look =>
    obtain ⟨before, split⟩ := List.getLast?_eq_some_iff.1 last
    simp only [Option.map_some, decide_eq_true_eq]
    constructor
    · intro recent
      have mem : look ∈ past.filter (!·.2.isEmpty) := by simp [split]
      obtain ⟨mem, some⟩ := List.mem_filter.1 mem
      exact ⟨look, mem, by simpa using some, recent⟩
    · rintro ⟨other, mem, some, recent⟩
      have found : other ∈ before ++ [look] := split ▸ List.mem_filter.2 ⟨mem, by simpa using some⟩
      rw [split, List.pairwise_append] at busy
      rcases List.mem_append.1 found with early | same
      · have earlier := busy.2.2 other early look List.mem_cons_self
        omega
      · rwa [← List.mem_singleton.1 same]

end Follows

end Lane

namespace Reporter

/-- the four states of the LED on the bus are told apart by what fails and what is active -/
theorem ledAt_variants (now : Nat) (r : Reporter) : r.ledAt now ≠ .disabled ∧ (r.ledAt now).isError = r.failing ∧
    (r.ledAt now).isActive = r.active now := by
  unfold ledAt
  cases r.failing <;> cases r.active now <;> exact ⟨nofun, rfl, rfl⟩

end Reporter

theorem Glance.sinceRest_concat (gs : List Glance) (g : Glance) : sinceRest (gs ++ [g]) = next (sinceRest gs) g := by
  rw [sinceRest, List.foldl_append]
  rfl

/-- **What the status LED shows.** Take any history of a lane from power-on whose looks are in the order of time. Its
record says of each look what it examined, and of the LED:

- it was never set to what it showed already; it is off before it is set;
- after a look that found the channel off the host or off the bus, it shows that the channel is disabled;
- after a look at time `t` that found it on the bus, it shows an error if the bus is error-passive or worse, or if the
  last error, frame or transmit event that was examined since the last rest was an error, and else none; and it shows
  activity if something was examined since the last rest less than the window before `t`, and else none. The status of
  the bus is that of the last change that was examined since the last rest, or error-active if there was none. -/
theorem Lane.shown_follows_record {σ : Type} [Controller σ] {l₀ l : Lane σ} {es : List (LaneEvent σ)}
    (fresh : l₀.Fresh) (ordered : (es.filterMap LaneEvent.time?).Pairwise (· ≤ ·)) (history : l₀.plays es = .ok l) :
    ∃ gs, l₀.glances es = .ok gs ∧
      (LedStatus.disabled :: l.leds).IsChain (· ≠ ·) ∧
      (gs.getLast? = some .rested → l.shown = .disabled) ∧
      ∀ t seen, gs.getLast? = some (.looked t seen) → l.shown ≠ .disabled ∧
        l.reporter.busStatus = Glance.statusAfter .errorActive (Glance.items (Glance.sinceRest gs)) ∧
        (l.shown.isError = true ↔
          l.reporter.busStatus.passiveOrWorse = true ∨ Glance.FaultLast (Glance.sinceRest gs)) ∧
        (l.shown.isActive = true ↔ Glance.ActiveAt t (Glance.sinceRest gs)) := by
  obtain ⟨index, config, s, c, -, rfl⟩ := fresh
  obtain ⟨gs, record, follows⟩ := (Follows.init (c := { c with split := true })).plays history
  rw [List.nil_append] at follows
  refine ⟨gs, record, follows.lit.changes, ?_, ?_⟩
  · intro last
    obtain ⟨before, rfl⟩ := List.getLast?_eq_some_iff.1 last
    have led := follows.led
    rw [← Glance.sinceRest, Glance.sinceRest_concat] at led
    exact follows.lit.known.symm.trans led
  · intro t seen last
    obtain ⟨before, rfl⟩ := List.getLast?_eq_some_iff.1 last
    have led : l.shown = l.reporter.ledAt t := by
      rw [← follows.lit.known, follows.led, ← Glance.sinceRest, Glance.sinceRest_concat, Glance.next,
        List.getLast?_concat]
      rfl
    obtain ⟨on, error, active⟩ := l.reporter.ledAt_variants t
    rw [led, error, active]
    refine ⟨on, follows.busStatus, ?_, follows.active_iff ordered t⟩
    have faulty : l.reporter.errorSeen = true ↔ Glance.FaultLast (Glance.sinceRest (before ++ [.looked t seen])) := by
      rw [follows.errorSeen, List.getLastD_eq_getLast?, Glance.FaultLast, ← Glance.sinceRest]
      cases ((Glance.items (Glance.sinceRest (before ++ [.looked t seen]))).filterMap Item.fault?).getLast? <;> simp
    rw [Reporter.failing, Bool.or_eq_true, faulty, or_comm]

namespace Lane

/-- an error is reported and was long ago when frames come and fill the pipe, and then there is a last quiet look -/
def busyAfterError : List (LaneEvent SimController) :=
  [.op .mount, .op (.commandData [8, 4, 1, 0]), .moved fun s => { s with errors := [⟨.stuff, false, false, 0⟩] },
    .op .poll, .op (.serve 100), .op (.wakeUp 355), .op (.wakeUp 356),
    .moved fun s => { s with rx := List.replicate 13 { Frame.empty with dlc := 15, flags := .fdf } },
    .op .poll, .op (.serve 400), .op (.serve 655)]

/-- the last look finds the pipe busy at once and examines nothing; the bus was active 255 milliseconds before -/
theorem busyAfterError_shown : ∃ (l₀ l : Lane SimController) (gs : List Glance), l₀.Fresh ∧
    (busyAfterError.filterMap LaneEvent.time?).Pairwise (· ≤ ·) ∧ l₀.plays busyAfterError = .ok l ∧
      l₀.glances busyAfterError = .ok gs ∧ l.leds = [.errorActive, .errorIdle, .busActive] ∧
      gs.getLast? = some (.looked 655 []) ∧ ¬ Glance.FaultLast (Glance.sinceRest gs) ∧
      Glance.ActiveAt 655 (Glance.sinceRest gs) := by
  have ran : Checked.passes (fun r : Channel SimController × Lane SimController =>
        decide (r.2.leds = [.errorActive, .errorIdle, .busActive]) &&
        Checked.passes (fun gs => decide (gs.getLast? = some (.looked 655 [])))
          ((ofChannel { r.1 with split := true }).glances busyAfterError))
      (Channel.create 0 Config.default ({} : SimController) >>= fun c =>
        (ofChannel { c with split := true }).plays busyAfterError >>= fun l => pure (c, l)) = true := by
    decide +kernel
  obtain ⟨c, l, created, history, holds⟩ := Checked.of_passes_pair ran
  rw [Bool.and_eq_true, decide_eq_true_eq] at holds
  obtain ⟨leds, looked⟩ := holds
  obtain ⟨gs', record', last⟩ := Checked.of_passes looked
  have fresh : (ofChannel { c with split := true }).Fresh := ⟨_, _, _, c, created, rfl⟩
  have ordered : (busyAfterError.filterMap LaneEvent.time?).Pairwise (· ≤ ·) := by decide
  obtain ⟨gs, record, -, -, looked⟩ := shown_follows_record fresh ordered history
  cases record'.symm.trans record
  have last := of_decide_eq_true last
  obtain ⟨-, -, error, active⟩ := looked 655 [] last
  have shown : l.shown = .busActive := by rw [Lane.shown, leds]; rfl
  rw [shown] at error active
  refine ⟨_, l, _, fresh, ordered, history, record, leds, last, ?_, active.1 rfl⟩
  intro fault
  cases error.2 (.inr fault)

end Lane

end CanAdapter
