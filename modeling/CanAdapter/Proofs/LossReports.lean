/-
What a report on the bus says of losses. The channel counts what its rings refuse and which requests are dropped; a
report takes the counts along, and they start afresh. A flag tells the host that its view is stale until the channel
joins the bus again.

`Lane.chronicle` plays a history and writes down every loss, every reset and bus-on of the channel, and every report
that the host can read. `Accurate` says that some losses are what the log has since the last report or reset, and that
every report in the log told just that; `Channel.Books` says so of the channel's own counters. One lemma for each kind
of incident, `books_play` for an event, `books_plays` for a history; `Adapter.losses_told_exactly` is what the host can
rely on.
-/
import CanAdapter.Bench.Controller
import CanAdapter.Proofs.BusStatus
import CanAdapter.Proofs.InFlight
import Mathlib.Data.List.DropRight

namespace CanAdapter

/-! ## The log -/

inductive Incident where
  /-- a received frame found its ring full -/
  | frameRefused
  /-- a status change or a bus error found its ring full -/
  | eventRefused
  /-- a transmit event found its ring full -/
  | txRefused
  /-- a transmit request was dropped -/
  | requestDropped
  /-- the report on a dropped request found no room -/
  | reportRefused
  /-- the channel went back to its baseline -/
  | reset
  /-- the channel, which was off the bus, joined it -/
  | joined
  /-- a report on the bus was appended to the CAN pipe -/
  | reported (r : BusReport)
deriving DecidableEq, Repr

namespace Incident

/-- it makes the host's view stale -/
def loses : Incident → Bool
  | eventRefused | txRefused | reportRefused => true
  | _ => false

/-- the counters start afresh with it -/
def settles : Incident → Bool
  | reported _ | reset => true
  | _ => false

/-- the host's view starts afresh with it -/
def renews : Incident → Bool
  | joined | reset => true
  | _ => false

def report? : Incident → Option BusReport
  | reported r => some r
  | _ => none

/-- the log after the last incident with `p` -/
def since (p : Incident → Bool) (log : List Incident) : List Incident := log.rtakeWhile (!p ·)

theorem since_append {p : Incident → Bool} {here : List Incident} (h : ∀ i ∈ here, p i = false)
    (log : List Incident) : since p (log ++ here) = since p log ++ here := by
  induction here generalizing log with
  | nil => simp only [List.append_nil]
  | cons i here ih =>
    have passed : (!p i) = true := by simp [h i List.mem_cons_self]
    have later := ih (fun j hj => h j (List.mem_cons_of_mem _ hj)) (log ++ [i])
    have first : since p (log ++ [i]) = since p log ++ [i] := List.rtakeWhile_concat_pos _ _ _ passed
    rw [first, List.append_assoc, List.append_assoc] at later
    exact later

theorem since_concat {p : Incident → Bool} {i : Incident} (h : p i = true) (log : List Incident) :
    since p (log ++ [i]) = [] :=
  List.rtakeWhile_concat_neg _ _ _ (by simp [h])

end Incident

open Incident

/-- the report says of losses exactly what the log has of them -/
structure BusReport.Tells (log : List Incident) (r : BusReport) : Prop where
  rxLost : r.rxLost.toNat = min ((since settles log).count .frameRefused) 65535
  txDropped : r.txDropped.toNat = min ((since settles log).count .requestDropped) 65535
  queueFull : r.flags.has .queueFull = true ↔ .eventRefused ∈ since settles log
  desync : r.flags.has .desync = true ↔ ∃ i ∈ since renews log, i.loses = true

/-- every report in the log says what the log has up to it -/
def Truthful (log : List Incident) : Prop :=
  ∀ before r after, log = before ++ .reported r :: after → r.Tells before

theorem truthful_concat {log : List Incident} {i : Incident} (h : Truthful log)
    (tells : ∀ r, i = .reported r → r.Tells log) : Truthful (log ++ [i]) := by
  intro before r after split
  rcases List.eq_nil_or_concat after with rfl | ⟨after, last, rfl⟩
  · obtain ⟨rfl, same⟩ := List.append_inj' split rfl
    exact tells r (List.singleton_inj.1 same)
  · have split : log ++ [i] = (before ++ .reported r :: after) ++ [last] := by simpa using split
    exact h before r after (List.append_inj' split rfl).1

theorem truthful_append {log here : List Incident} (h : Truthful log) (silent : ∀ i ∈ here, i.report? = none) :
    Truthful (log ++ here) := by
  induction here generalizing log with
  | nil => rwa [List.append_nil]
  | cons i here ih =>
    have first : Truthful (log ++ [i]) := by
      refine truthful_concat h ?_
      rintro r rfl
      exact nomatch silent _ List.mem_cons_self
    have later := ih first fun j hj => silent j (List.mem_cons_of_mem _ hj)
    rwa [List.append_assoc] at later

/-- The losses `x` and the flag are what the log has since they last started afresh, and every report in the log was
right. -/
structure Accurate (log : List Incident) (x : Losses) (desync : Bool) : Prop where
  frames : x.frames.toNat = min ((since settles log).count .frameRefused) 65535
  requests : x.requests.toNat = min ((since settles log).count .requestDropped) 65535
  flags : x.flags = if .eventRefused ∈ since settles log then .queueFull else .empty
  desync : desync = (since renews log).any (·.loses)
  truthful : Truthful log

namespace Accurate

variable {log here : List Incident} {x y : Losses} {desync desync' : Bool} {r : BusReport}

theorem nil : Accurate [] .none false where
  frames := rfl
  requests := rfl
  flags := rfl
  desync := rfl
  truthful before r after split := by simp at split

/-- nothing starts afresh, and the losses are added -/
theorem append (h : Accurate log x desync) (counted : ∀ i ∈ here, i.settles = false)
    (viewed : ∀ i ∈ here, i.renews = false)
    (frames : y.frames.toNat = min (x.frames.toNat + here.count .frameRefused) 65535)
    (requests : y.requests.toNat = min (x.requests.toNat + here.count .requestDropped) 65535)
    (flags : y.flags = if .eventRefused ∈ here then x.flags ∪ .queueFull else x.flags)
    (stale : desync' = (desync || here.any (·.loses))) : Accurate (log ++ here) y desync' where
  frames := by
    rw [frames, h.frames, since_append counted, List.count_append]
    omega
  requests := by
    rw [requests, h.requests, since_append counted, List.count_append]
    omega
  flags := by
    rw [flags, h.flags, since_append counted]
    by_cases earlier : .eventRefused ∈ since settles log <;> by_cases now : .eventRefused ∈ here <;>
      simp only [earlier, now, List.mem_append, or_true, true_or, or_self, ↓reduceIte] <;> rfl
  desync := by rw [stale, h.desync, since_append viewed, List.any_append]
  truthful := by
    refine truthful_append h.truthful fun i hi => ?_
    have quiet := counted i hi
    cases i <;> first | rfl | cases quiet

/-- the counters start afresh -/
theorem settle {i : Incident} (settled : i.settles = true)
    (stale : desync' = (since renews (log ++ [i])).any (·.loses)) (truthful : Truthful (log ++ [i])) :
    Accurate (log ++ [i]) .none desync' where
  frames := by rw [since_concat settled]; rfl
  requests := by rw [since_concat settled]; rfl
  flags := by rw [since_concat settled]; rfl
  desync := stale
  truthful := truthful

theorem reset (h : Accurate log x desync) : Accurate (log ++ [.reset]) .none false := by
  refine settle rfl ?_ (truthful_append h.truthful (by simp [report?]))
  rw [since_concat rfl]
  rfl

theorem joined (h : Accurate log x desync) : Accurate (log ++ [.joined]) x false where
  frames := by
    rw [since_append (by simp [settles]), List.count_append]
    exact h.frames
  requests := by
    rw [since_append (by simp [settles]), List.count_append]
    exact h.requests
  flags := by
    rw [since_append (by simp [settles])]
    simpa using h.flags
  desync := by rw [since_concat rfl]; rfl
  truthful := truthful_append h.truthful (by simp [report?])

/-- the report as the host reads it -/
theorem tells (h : Accurate log x desync) (told : x.ToldBy desync r) : r.normal.Tells log := by
  obtain ⟨frames, requests, flags⟩ := told
  have arrived : r.normal.flags = .ofByte r.flags.bits := rfl
  refine ⟨(congrArg UInt16.toNat frames).trans h.frames, (congrArg UInt16.toNat requests).trans h.requests, ?_, ?_⟩
  · rw [arrived, flags, h.flags]
    by_cases full : .eventRefused ∈ since settles log <;> cases desync <;> simp only [full, ↓reduceIte] <;> decide
  · rw [← List.any_eq_true, ← h.desync, arrived, flags, h.flags]
    by_cases full : .eventRefused ∈ since settles log <;> cases desync <;> simp only [full, ↓reduceIte] <;> decide

theorem reported (h : Accurate log x desync) (tells : r.Tells log) :
    Accurate (log ++ [.reported r]) .none desync := by
  refine settle rfl ?_ (truthful_concat h.truthful fun r' same => by cases same; exact tells)
  rw [since_append (by simp [renews])]
  simpa [loses] using h.desync

/-- induction on the reports: each takes all along that there was to tell -/
theorem reports {rs : List BusReport} (h : Accurate log x desync) (told : x.Reported desync rs y) :
    Accurate (log ++ rs.map fun r => .reported r.normal) y desync := by
  induction told generalizing log with
  | nil => rwa [List.map_nil, List.append_nil]
  | cons tells _ ih =>
    have later := ih (h.reported (h.tells tells))
    rwa [List.append_assoc] at later

end Accurate

/-! ## What an event enters -/

/-- what the drop of a request enters -/
def Fate.incidents : Fate → List Incident
  | .forwarded => []
  | .reported _ => [.requestDropped]
  | .unreported => [.requestDropped, .reportRefused]

namespace Fate

theorem mem_incidents {f : Fate} {i : Incident} (h : i ∈ f.incidents) : i = .requestDropped ∨ i = .reportRefused := by
  cases f <;> simp_all [incidents]

theorem count_incidents (fs : List (TxRequest × Fate)) :
    (fs.flatMap (·.2.incidents)).count .requestDropped = fs.countP (·.2 != .forwarded) := by
  induction fs with
  | nil => rfl
  | cons f fs ih =>
    rw [List.flatMap_cons, List.count_append, List.countP_cons, ih, Nat.add_comm]
    obtain ⟨r, f⟩ := f
    cases f <;> rfl

theorem any_incidents (fs : List (TxRequest × Fate)) :
    (fs.flatMap (·.2.incidents)).any (·.loses) = fs.any (·.2 == .unreported) := by
  induction fs with
  | nil => rfl
  | cons f fs ih =>
    rw [List.flatMap_cons, List.any_append, List.any_cons, ih]
    obtain ⟨r, f⟩ := f
    cases f <;> rfl

theorem busReports_messages (fs : List (TxRequest × Fate)) :
    (fs.flatMap (·.2.messages)).filterMap Message.busReport? = [] := by
  induction fs with
  | nil => rfl
  | cons f fs ih =>
    obtain ⟨r, f⟩ := f
    cases f <;> exact ih

end Fate

namespace Channel

variable {σ : Type} {c c' : Channel σ} {log : List Incident}

/-- what a message of the command pipe enters, if it takes the channel from `c` to `c'` -/
def turn (m : RawMessage) (c c' : Channel σ) : List Incident :=
  if m.id = MessageId.hello then [.reset] else if !c.enabled && c'.enabled then [.joined] else []

theorem turn_of_enabled {m : RawMessage} (hello : m.id ≠ MessageId.hello) (same : c'.enabled = c.enabled) :
    c.turn m c' = [] := by
  simp [turn, hello, same]

variable [Controller σ]

/-- what the rings will refuse in one interrupt -/
def refusals (c : Channel σ) : Checked (List Incident) := do
  let a ← c.arrivals
  return List.replicate (c.news.length - c.status.room) .eventRefused ++
    List.replicate (a.errors.length - c.errors.room) .eventRefused ++
    List.replicate (a.frames.length - c.rx.room) .frameRefused ++
    List.replicate (a.events.length - c.tx.room) .txRefused

/-- what messages of the command pipe enter, one after the other -/
def turns : List RawMessage → Channel σ → Checked (List Incident)
  | [], _ => .ok []
  | m :: ms, c => do
    let c' ← c.request m
    return c.turn m c' ++ (← turns ms c')

/-- the channel's counters and its flag are what the log has -/
def Books (log : List Incident) (c : Channel σ) : Prop := Accurate log c.losses c.desync

theorem books_polled {a : Arrivals} (hl : c.Books log) (arrivals : c.arrivals = .ok a) (h : Polled a c c') :
    ∃ here, c.refusals = .ok here ∧ c'.Books (log ++ here) := by
  refine ⟨_, Checked.bind_eq_ok.2 ⟨a, arrivals, rfl⟩, ?_⟩
  have dropped : c'.dropped = c.dropped := congrArg (·.dropped) h.channel
  refine Accurate.append hl ?_ ?_ ?_ ?_ ?_ ?_
  · simp +contextual [List.mem_replicate, or_imp, settles]
  · simp +contextual [List.mem_replicate, or_imp, renews]
  · simpa [losses, List.count_replicate, Queue.maxLost] using h.lost
  · have bound := c.dropped.toNat_lt
    simp only [losses, dropped, List.count_append, List.count_replicate, reduceCtorEq, beq_iff_eq, ↓reduceIte]
    omega
  · rw [losses, losses, h.queueFlags]
    refine ite_congr (propext ?_) (fun _ => rfl) fun _ => rfl
    simp only [List.mem_append, List.mem_replicate, and_true, reduceCtorEq, and_false, or_false]
    omega
  · rw [h.desync]
    congr 1
    have told (n : Nat) (i : Incident) : (List.replicate n i).any (·.loses) = (decide (0 < n) && i.loses) := by
      cases n <;> simp
    simp only [List.any_append, told]
    -- a refused frame is counted, but the flag is for events only
    simp only [loses, Bool.and_true, Bool.and_false, Bool.or_false, ← Bool.decide_or]
    exact decide_eq_decide.2 (by omega)

theorem books_sent {fs : List (TxRequest × Fate)} (hl : c.Books log) (h : Sent fs c c') :
    c'.Books (log ++ fs.flatMap (·.2.incidents)) := by
  have rx : c'.rx = c.rx := congrArg (·.rx) h.channel
  have flags : c'.queueFlags = c.queueFlags := congrArg (·.queueFlags) h.channel
  have only {i : Incident} (hi : i ∈ fs.flatMap (·.2.incidents)) : i = .requestDropped ∨ i = .reportRefused := by
    obtain ⟨⟨r, f⟩, -, hi⟩ := List.mem_flatMap.1 hi
    exact Fate.mem_incidents hi
  refine Accurate.append hl ?_ ?_ ?_ ?_ ?_ ?_
  · intro i hi
    rcases only hi with rfl | rfl <;> rfl
  · intro i hi
    rcases only hi with rfl | rfl <;> rfl
  · have bound := c.rx.lost.toNat_lt
    have none : (fs.flatMap (·.2.incidents)).count .frameRefused = 0 :=
      List.count_eq_zero.2 fun hi => by rcases only hi with same | same <;> cases same
    simp only [losses, rx, none]
    omega
  · rw [Fate.count_incidents]
    exact h.dropped
  · rw [losses, losses, flags, if_neg]
    intro hi
    rcases only hi with same | same <;> cases same
  · rw [h.desync, Fate.any_incidents]

theorem books_reset (hl : c.Books log) (h : c.reset = .ok c') : c'.Books (log ++ [.reset]) := by
  obtain ⟨settings, -, h⟩ := Checked.bind_eq_ok.1 h
  cases h
  exact Accurate.reset hl

theorem books_setBus {m : RawMessage} (hl : c.Books log) (hello : m.id ≠ MessageId.hello) (on : Bool) :
    (c.setBus on).Books (log ++ c.turn m (c.setBus on)) := by
  by_cases same : c.enabled = on
  · rw [setBus_of_enabled same, turn_of_enabled hello (by rfl), List.append_nil]
    exact hl
  · cases on with
    | true =>
      have off : c.enabled = false := Bool.eq_false_iff.2 same
      have turned : c.turn m (c.setBus true) = [.joined] := by simp [turn, hello, setBus, off, signal]
      rw [turned]
      simp only [setBus, same, ↓reduceIte]
      exact Accurate.joined hl
    | false =>
      have turned : c.turn m (c.setBus false) = [] := by simp [turn, hello, setBus, same]
      rw [turned, List.append_nil]
      simp only [setBus, same, Bool.false_eq_true, ↓reduceIte]
      exact hl

theorem books_request {m : RawMessage} (hl : c.Books log) (h : c.request m = .ok c') :
    c'.Books (log ++ c.turn m c') := by
  obtain ⟨c₁, command, did, rfl⟩ := request_cases h
  suffices c₁.Books (log ++ c.turn m c₁) from this
  have ne_hello {k : UInt8} (id : m.id = k) (ne : k ≠ MessageId.hello) : m.id ≠ MessageId.hello := id ▸ ne
  cases did with
  | answered hello =>
    rw [turn_of_enabled hello (by rfl), List.append_nil]
    exact hl
  | timed id =>
    have hello : m.id ≠ MessageId.hello := by
      rcases id with id | id
      · exact ne_hello id (by decide)
      · exact ne_hello id (by decide)
    rw [turn_of_enabled hello (by rfl), List.append_nil]
    exact hl
  | features id =>
    rw [turn_of_enabled (ne_hello id (by decide)) (by rfl), List.append_nil]
    exact hl
  | bus id => exact books_setBus hl (ne_hello id (by decide)) _
  | greeted id reset =>
    have turned : c.turn m c₁ = [.reset] := if_pos id
    rw [turned]
    exact books_reset hl reset

/-- induction on the messages -/
theorem books_turns {ms : List RawMessage} (hl : c.Books log)
    (h : ms.foldlM (fun c m => c.request m) c = .ok c') :
    ∃ here, c.turns ms = .ok here ∧ c'.Books (log ++ here) := by
  induction ms generalizing c log with
  | nil =>
    cases h
    exact ⟨[], rfl, by rwa [List.append_nil]⟩
  | cons m ms ih =>
    rw [List.foldlM_cons] at h
    obtain ⟨c₁, first, h⟩ := Checked.bind_eq_ok.1 h
    obtain ⟨later, turned, books⟩ := ih (books_request hl first) h
    refine ⟨c.turn m c₁ ++ later, ?_, by rwa [← List.append_assoc]⟩
    exact Checked.bind_eq_ok.2 ⟨c₁, first, Checked.bind_eq_ok.2 ⟨later, turned, rfl⟩⟩

end Channel

namespace Lane

variable {σ : Type} {l l' : Lane σ} {log : List Incident}

theorem books_of_fresh (h : l.Fresh) : l.channel.Books [] := by
  obtain ⟨index, config, s, c, hc, rfl⟩ := h
  obtain ⟨settings, -, hc⟩ := Checked.bind_eq_ok.1 hc
  cases hc
  exact Accurate.nil

/-- the reports on the bus that the host can read in `l'`, and could not in `l` -/
def newReports (l l' : Lane σ) : Except WireError (List BusReport) := do
  let before ← l.channel.can.stream l.channel.config.order l.channel.can.started.length
  let after ← l'.channel.can.stream l.channel.config.order l.channel.can.started.length
  return (after.drop before.length).filterMap Message.busReport?

theorem newReports_of_appends {ms : List Message} (sound : l.Sound)
    (h : Endpoint.Appends l.channel.config.order ms l.channel.can l'.channel.can) :
    l.newReports l' = .ok ((ms.map (·.normal)).filterMap Message.busReport?) := by
  obtain ⟨before, carries⟩ := sound.whole.carries
  have after := (h _ _ carries).stream
  rw [List.map_append] at after
  simp only [newReports, carries.stream, after, bind, Except.bind, pure, Except.pure, List.drop_left]

/-- an endpoint that forgets all it had has nothing new -/
theorem newReports_of_reset (sound : l.Sound) (h : l'.channel.can = l.channel.can.reset) :
    l.newReports l' = .ok [] := by
  obtain ⟨before, carries⟩ := sound.whole.carries
  have after : l'.channel.can.stream l.channel.config.order l.channel.can.started.length = .ok [] := by
    rw [h]
    exact (Endpoint.carries_of_empty (e := l.channel.can.reset) l.channel.config.order rfl).stream
  simp only [newReports, carries.stream, after, bind, Except.bind, pure, Except.pure, List.drop_nil, List.filterMap_nil]

variable [Controller σ]

/-- what an event enters but for reports, told from the state it meets -/
def losing (e : LaneEvent σ) (l : Lane σ) : Checked (List Incident) :=
  match e with
  | .op .poll => l.channel.refusals
  | .op (.canData bytes) => do
    return (← l.channel.fates (messages bytes)).flatMap (·.2.incidents)
  | .op (.commandData bytes) => l.channel.turns (throughHello (messages bytes))
  | .op .detach => .ok [.reset]
  | _ => .ok []

/-- what an event enters in the log, if it takes the lane from `l` to `l'` -/
def incidents (e : LaneEvent σ) (l l' : Lane σ) : Option (List Incident) := do
  let losses ← (l.losing e).toOption
  let reports ← (l.newReports l').toOption
  return losses ++ reports.map .reported

/-- events in order, with their log -/
def chronicle : List (LaneEvent σ) → Lane σ → Option (List Incident × Lane σ)
  | [], l => some ([], l)
  | e :: es, l => do
    let l' ← (l.play e).toOption
    let here ← l.incidents e l'
    let (later, l'') ← chronicle es l'
    return (here ++ later, l'')

theorem incidents_of_reset {e : LaneEvent σ} {here : List Incident} (sound : l.Sound) (losing : l.losing e = .ok here)
    (can : l'.channel.can = l.channel.can.reset) : l.incidents e l' = some here := by
  simp [incidents, losing, newReports_of_reset sound can, Except.toOption]

theorem incidents_of_appends {e : LaneEvent σ} {here : List Incident} {ms : List Message} (sound : l.Sound)
    (losing : l.losing e = .ok here)
    (can : Endpoint.Appends l.channel.config.order ms l.channel.can l'.channel.can) :
    l.incidents e l' = some (here ++ (ms.filterMap Message.busReport?).map fun r => .reported r.normal) := by
  have reports := newReports_of_appends sound can
  rw [Message.busReports_normal] at reports
  simp [incidents, losing, reports, Except.toOption]

/-- an event that appends nothing -/
theorem incidents_of_silent {e : LaneEvent σ} {here : List Incident} (sound : l.Sound)
    (losing : l.losing e = .ok here)
    (can : Endpoint.Appends l.channel.config.order [] l.channel.can l'.channel.can) :
    l.incidents e l' = some here := by
  have entered := incidents_of_appends sound losing can
  rwa [List.filterMap_nil, List.map_nil, List.append_nil] at entered

theorem incidents_of_same {e : LaneEvent σ} {here : List Incident} (sound : l.Sound) (losing : l.losing e = .ok here)
    (can : l'.channel.can = l.channel.can) : l.incidents e l' = some here := by
  refine incidents_of_silent sound losing ?_
  rw [can]
  exact .refl _ _

/-- an event that enters nothing and appends nothing -/
theorem books_of_quiet {e : LaneEvent σ} (sound : l.Sound) (losing : l.losing e = .ok [])
    (can : l'.channel.can = l.channel.can) (books : l'.channel.Books log) :
    ∃ here, l.incidents e l' = some here ∧ l'.channel.Books (log ++ here) :=
  ⟨[], incidents_of_same sound losing can, by rwa [List.append_nil]⟩

theorem books_wakeUp {now : Nat} {outcome : WakeOutcome} {e : LaneEvent σ} (sound : l.Sound)
    (losing : l.losing e = .ok []) (hl : l.channel.Books log) (h : l.wakeUp now = .ok (outcome, l')) :
    ∃ here, l.incidents e l' = some here ∧ l'.channel.Books (log ++ here) := by
  rcases wakeUp_cases h with ⟨-, -, rfl⟩ | ⟨-, -, -, rfl⟩ | ⟨-, -, -, ms, flow, -⟩
  · exact books_of_quiet sound losing rfl hl
  · exact books_of_quiet sound losing rfl hl
  · refine ⟨_, incidents_of_appends sound losing flow.can.appends, ?_⟩
    have desync : l'.channel.desync = l.channel.desync := congrArg (·.desync) flow.channel
    unfold Channel.Books
    rw [desync, List.nil_append]
    exact Accurate.reports hl flow.losses

theorem books_play {e : LaneEvent σ} (sound : l.Sound) (hl : l.channel.Books log) (h : l.play e = .ok l') :
    ∃ here, l.incidents e l' = some here ∧ l'.channel.Books (log ++ here) := by
  cases stepped h with
  | moved => exact books_of_quiet sound rfl rfl hl
  | mount => exact books_of_quiet sound rfl rfl hl
  | detach reset =>
    have can := Channel.can_reset reset
    have books := Channel.books_reset hl reset
    exact ⟨_, incidents_of_reset sound rfl can, books⟩
  | usbReset => exact ⟨[], incidents_of_reset sound rfl rfl, by rwa [List.append_nil]⟩
  | @commandData _ c bytes commands =>
    have can := Channel.can_commands commands
    obtain ⟨c₁, handled, rest⟩ := Checked.bind_eq_ok.1 commands
    obtain ⟨command, -, rest⟩ := Checked.bind_eq_ok.1 rest
    cases rest
    -- a greeting clears the CAN endpoint, so reports may get lost, but none is new
    obtain ⟨here, turned, books⟩ := Channel.books_turns hl handled
    refine ⟨here, ?_, books⟩
    by_cases greeting : greets bytes = true
    · rw [if_pos greeting] at can
      exact incidents_of_reset sound turned can
    · rw [if_neg greeting] at can
      exact incidents_of_same sound turned can
  | @canData _ c bytes transmissions =>
    obtain ⟨fs, fates, sent⟩ := Channel.sent_transmissions transmissions
    have losing : l.losing (.op (.canData bytes)) = .ok (fs.flatMap (·.2.incidents)) :=
      Checked.bind_eq_ok.2 ⟨fs, fates, rfl⟩
    have entered : l.incidents (.op (.canData bytes)) { l with channel := c } = some _ :=
      incidents_of_appends sound losing sent.can.appends
    rw [Fate.busReports_messages, List.map_nil, List.append_nil] at entered
    exact ⟨_, entered, Channel.books_sent hl sent⟩
  | commandDone => exact books_of_quiet sound rfl rfl hl
  | canDone complete =>
    -- the completion may start a transfer of what has collected, which the host could read before
    have can := Endpoint.appends_complete (o := l.channel.config.order) complete
    exact ⟨[], incidents_of_silent sound rfl can, by rwa [List.append_nil]⟩
  | poll poll =>
    obtain ⟨a, arrivals, polled⟩ := Channel.poll_cases sound.settled poll
    obtain ⟨here, refused, books⟩ := Channel.books_polled hl arrivals polled
    have can := congrArg (·.can) polled.channel
    exact ⟨here, incidents_of_same sound refused can, books⟩
  | wakeUp look => exact books_wakeUp sound rfl hl look
  | @serve _ _ now outcome told look =>
    have books := books_wakeUp (e := .op (.serve now)) sound.unsignalled rfl hl look
    exact books
  | wait => exact books_of_quiet sound rfl rfl hl

/-- induction on the events -/
theorem books_plays {es : List (LaneEvent σ)} (sound : l.Sound) (hl : l.channel.Books log)
    (h : l.plays es = .ok l') : ∃ here, l.chronicle es = some (here, l') ∧ l'.channel.Books (log ++ here) := by
  induction es generalizing l log with
  | nil =>
    cases h
    exact ⟨[], rfl, by rwa [List.append_nil]⟩
  | cons e es ih =>
    rw [plays, List.foldlM_cons] at h
    obtain ⟨l₁, first, h⟩ := Checked.bind_eq_ok.1 h
    obtain ⟨here, entered, books⟩ := books_play sound hl first
    obtain ⟨later, written, books⟩ := ih (sound_play first sound) books h
    refine ⟨here ++ later, ?_, by rwa [← List.append_assoc]⟩
    simp [chronicle, first, entered, written, Except.toOption]

end Lane

/-! ## What the host can rely on -/

/-- **Losses are told exactly.** Whatever happens to an adapter that was just built, the history of each lane has a log.
Every report that the host reads tells what the log has since the report before it, or the last reset: the received
frames that were refused and the requests that were dropped, up to the largest count, and whether a status change or an
error was refused. Its flag, and that of the channel at any time, tells whether anything was lost since the channel last
joined the bus or was reset. A report takes its counts along only when it is appended at once; else the source leaves
the lane as it was. -/
theorem Adapter.losses_told_exactly {σ : Type} [Controller σ] {a a' : Adapter σ} {es : List (AdapterEvent σ)} {i : Nat}
    {l' : Lane σ} (fresh : a.Fresh) (h : a.plays es = .ok a') (hl : a'.lanes[i]? = some l') :
    (∃ l log, a.lanes[i]? = some l ∧ l.chronicle (es.flatMap (·.at i)) = some (log, l') ∧
      (∀ before r after, log = before ++ .reported r :: after → r.Tells before) ∧
      (l'.channel.desync = true ↔ ∃ i ∈ since renews log, i.loses = true)) ∧
    ∀ (l l₂ : Lane σ) (move : Lane.Move), l.placeReport = .ok (move, l₂) →
      ((l.reporter.reportDue = false ∨ l.channel.makeRoom Lane.reportLength = .ok none) ∧ l₂ = l) ∨
      ∃ can, Endpoint.Posts l.channel.config.order [.busReport (l.channel.snapshot l.reporter.busStatus).1]
          l.channel.can can ∧
        l₂ = { l with
          channel := { (l.channel.snapshot l.reporter.busStatus).2 with can }
          reporter := { l.reporter with reportDue := false } } := by
  refine ⟨?_, ?_⟩
  · obtain ⟨l, hl₀, history⟩ := lane_of_plays h hl
    have unused := lanes_of_fresh fresh hl₀
    obtain ⟨log, written, books⟩ := Lane.books_plays (Lane.sound_of_fresh unused) (Lane.books_of_fresh unused) history
    rw [List.nil_append] at books
    exact ⟨l, log, hl₀, written, books.truthful, by rw [books.desync, List.any_eq_true]⟩
  · intro l l₂ move h
    rcases Lane.placeReport_cases h with ⟨-, rfl, none⟩ | ⟨-, rfl, blocked, -⟩ | ⟨-, -, can, posts, rfl⟩
    · exact .inl ⟨.inl none, rfl⟩
    · exact .inl ⟨.inr blocked, rfl⟩
    · exact .inr ⟨can, posts, rfl⟩

/-- one error too many is latched and a request is refused; then the channel leaves the bus and joins it again -/
def lossySession : List (AdapterEvent SimController) :=
  [.op .mount, .op (.out 1 [8, 4, 1, 0]),
    .moved 0 fun s => { s with errors := List.replicate 17 ⟨.stuff, false, false, 0⟩, refuses := true },
    .op (.poll 0), .op (.out 2 [0x12, 12, 0, 0, 5, 0, 0, 0, 7, 0, 0, 0]), .op (.serve 0 0), .op (.inComplete 0x82),
    .op (.serve 0 0), .op (.out 1 [8, 4, 0, 0, 8, 4, 1, 0]), .op (.inComplete 0x82), .op (.serve 0 0)]

theorem lossySession_told : ∃ (a a' : Adapter SimController) (l l' : Lane SimController) (log : List Incident),
    a.Fresh ∧ a.plays lossySession = .ok a' ∧ a'.lanes[0]? = some l' ∧
      l.chronicle (lossySession.flatMap (·.at 0)) = some (log, l') ∧
      (∀ before r after, log = before ++ .reported r :: after → r.Tells before) ∧
      (log.filterMap report?).map (fun r => (r.rxLost, r.txDropped, r.flags)) =
        [(0, 1, .queueFull ∪ .desync), (0, 0, .desync), (0, 0, .empty)] := by
  have ran : Checked.passes (fun r : Adapter SimController × Adapter SimController =>
      r.2.lanes[0]?.isSome && r.1.lanes[0]?.any fun l =>
        (l.chronicle (lossySession.flatMap (·.at 0))).any fun r =>
          (r.1.filterMap report?).map (fun r => (r.rxLost, r.txDropped, r.flags)) ==
            [(0, 1, .queueFull ∪ .desync), (0, 0, .desync), (0, 0, .empty)])
      (Adapter.single .default {} >>= fun a => a.plays lossySession >>= fun a' => pure (a, a')) = true := by
    decide +kernel
  obtain ⟨a, a', built, played, told⟩ := Checked.of_passes_pair ran
  rw [Bool.and_eq_true, Option.isSome_iff_exists] at told
  obtain ⟨⟨l', hl⟩, told⟩ := told
  obtain ⟨⟨l, log, hl₀, written, right, -⟩, -⟩ := Adapter.losses_told_exactly (Adapter.fresh_single built) played hl
  rw [hl₀, Option.any_some, written, Option.any_some, beq_iff_eq] at told
  exact ⟨a, a', l, l', log, Adapter.fresh_single built, played, hl, written, right, told⟩

end CanAdapter
