/-
What one interrupt does to its channel. The controller hands out the errors, frames and transmit events it has, each
batch is stamped by its own counter, and every ring gains the oldest entries that it has room for.

`Channel.arrivals` is what the controller hands out, stamped; `Polled a c c'` says all that a poll with the arrivals `a`
does, and `poll_cases` that every poll does so.
-/
import CanAdapter.Channel.Poll
import CanAdapter.Proofs.Batch

namespace CanAdapter

/-- the entries of some batches, stamped batch by batch -/
def stampBatches {α : Type} (stamp : UInt32 → List α → Checked (List α)) : List (Drained α) → Checked (List α)
  | [] => .ok []
  | b :: bs => do
    let entries ← stamp b.tsc b.items
    return entries ++ (← stampBatches stamp bs)

/-- what the controller hands out in one interrupt, in order and with timestamps -/
structure Arrivals where
  errors : List BusError
  frames : List Frame
  events : List TxEvent

/-- what relates the controller before and after each batch to the entries of the batch, and adds up, relates it
before and after all batches to the entries of them all -/
theorem Controller.drainUpTo_rel {σ α : Type} {drain : σ → Drained α × σ} {R : List α → σ → σ → Prop}
    (batch : ∀ s, R (drain s).1.items s (drain s).2)
    (append : ∀ {as bs s s' s''}, R as s s' → R bs s' s'' → R (as ++ bs) s s'') (n : Nat) (s : σ) :
    R ((drainUpTo drain n s).1.flatMap (·.items)) s (drainUpTo drain n s).2 := by
  induction n generalizing s with
  | zero =>
    have first := batch s
    unfold drainUpTo
    generalize drain s = r at first
    simp only
    split
    · rename_i none
      rwa [List.isEmpty_iff.1 none] at first
    · split <;> simpa using first
  | succ n ih =>
    have first := batch s
    unfold drainUpTo
    generalize drain s = r at first
    simp only
    split
    · rename_i none
      rwa [List.isEmpty_iff.1 none] at first
    · split
      · simpa using first
      · rw [List.flatMap_cons]
        exact append first (ih r.2)

namespace Channel

variable {σ : Type} [Controller σ]

/-- a status change that is to be published -/
def news (c : Channel σ) : List StatusEvent :=
  if Controller.busStatus c.controller = c.published then []
  else [⟨Controller.busStatus c.controller, Controller.timestamp c.controller⟩]

/-- what the controller is about to hand out -/
def arrivals (c : Channel σ) : Checked Arrivals := do
  let (errors, s) := Controller.takeErrors c.controller
  let (rx, s) := Controller.drainAllRx s
  let frames ← stampBatches c.settings.durations.stampReceived rx
  let compensation := Controller.delayCompensation s
  let (tx, _) := Controller.drainAllTx s
  let events ← stampBatches (c.settings.durations.stampSent · compensation) tx
  return ⟨errors, frames, events⟩

/-- the controller once it handed out what it had -/
def handedOut (s : σ) : σ := (Controller.drainAllTx (Controller.drainAllRx (Controller.takeErrors s).2).2).2

/-- all that a poll does, if the controller hands out `a` -/
structure Polled (a : Arrivals) (c c' : Channel σ) : Prop where
  /-- nothing else in the channel changed -/
  channel : c' = { c with
    controller := handedOut c.controller
    published := Controller.busStatus c.controller
    rx := c'.rx
    tx := c'.tx
    status := c'.status
    errors := c'.errors
    queueFlags := c'.queueFlags
    desync := c'.desync
    wake := c'.wake }
  status : c.status.Gains (c.news.take c.status.room) c'.status
  errors : c.errors.Gains (a.errors.take c.errors.room) c'.errors
  rx : c.rx.Gains (a.frames.take c.rx.room) c'.rx
  tx : c.tx.Gains (a.events.take c.tx.room) c'.tx
  /-- the frames that find no room are counted -/
  lost : c'.rx.lost.toNat = min (c.rx.lost.toNat + (a.frames.length - c.rx.room)) Queue.maxLost
  queueFlags : c'.queueFlags = if c.status.room < c.news.length ∨ c.errors.room < a.errors.length
    then c.queueFlags ∪ .queueFull else c.queueFlags
  desync : c'.desync = (c.desync || decide (c.status.room < c.news.length ∨ c.errors.room < a.errors.length ∨
    c.tx.room < a.events.length))
  wake : c'.wake = (c.wake || decide (0 < c.news.length + a.errors.length + a.frames.length + a.events.length))

/-! ## Batches -/

theorem length_stampBatches {α : Type} {stamp : UInt32 → List α → Checked (List α)}
    (same : ∀ {tsc as out}, stamp tsc as = .ok out → out.length = as.length) {batches : List (Drained α)}
    {entries : List α} (h : stampBatches stamp batches = .ok entries) : entries.length = countItems batches := by
  induction batches generalizing entries with
  | nil =>
    cases h
    rfl
  | cons b bs ih =>
    obtain ⟨first, hf, h⟩ := Checked.bind_eq_ok.1 h
    obtain ⟨later, hl, h⟩ := Checked.bind_eq_ok.1 h
    cases h
    rw [List.length_append, same hf, ih hl]
    simp [countItems]

theorem length_stampSent {d : BitDurations} {tsc compensation : UInt32} {events out : List TxEvent}
    (h : d.stampSent tsc compensation events = .ok out) : out.length = events.length := by
  obtain ⟨extra, -, h⟩ := Checked.bind_eq_ok.1 h
  exact BitDurations.length_stamp h

/-- what a timestamp does not touch is as the controller handed it out -/
theorem map_stampFrom {α β : Type} [Timestamped α] {f : α → β}
    (untouched : ∀ a t, f (Timestamped.withTimestamp a t) = f a) {d : BitDurations} {extra tsc : UInt32}
    {batch : List α} {r : List α × UInt32} (h : d.stampFrom extra tsc batch = .ok r) : r.1.map f = batch.map f := by
  induction batch generalizing r with
  | nil =>
    cases h
    rfl
  | cons a as ih =>
    obtain ⟨⟨later, ts⟩, hl, h⟩ := Checked.bind_eq_ok.1 h
    obtain ⟨time, -, h⟩ := Checked.bind_eq_ok.1 h
    cases h
    rw [List.map_cons, List.map_cons, untouched, ih hl]

theorem map_stampSent {β : Type} {f : TxEvent → β} (untouched : ∀ e t, f { e with timestamp := t } = f e)
    {d : BitDurations} {compensation : UInt32} {batches : List (Drained TxEvent)} {events : List TxEvent}
    (h : stampBatches (d.stampSent · compensation) batches = .ok events) :
    events.map f = batches.flatMap (·.items.map f) := by
  induction batches generalizing events with
  | nil =>
    cases h
    rfl
  | cons b bs ih =>
    obtain ⟨first, hf, h⟩ := Checked.bind_eq_ok.1 h
    obtain ⟨later, hl, h⟩ := Checked.bind_eq_ok.1 h
    cases h
    obtain ⟨extra, -, hf⟩ := Checked.bind_eq_ok.1 hf
    obtain ⟨r, hs, hf⟩ := Checked.bind_eq_ok.1 hf
    cases hf
    rw [List.map_append, ih hl, map_stampFrom untouched hs, List.flatMap_cons]

theorem publishRx_cases {d : BitDurations} {batches : List (Drained Frame)} {r r' : Ring Frame trafficRing}
    (closed : r.Closed) (h : publishRx d batches r = .ok r') :
    ∃ frames, stampBatches d.stampReceived batches = .ok frames ∧ r.Gains (frames.take r.room) r' ∧
      r'.lost.toNat = min (r.lost.toNat + (frames.length - r.room)) Queue.maxLost := by
  induction batches generalizing r with
  | nil =>
    have bound := r.lost.toNat_lt
    cases h
    refine ⟨[], rfl, by simpa using Ring.Gains.refl _, ?_⟩
    simp only [List.length_nil, Nat.zero_sub, Nat.add_zero, Queue.maxLost]
    omega
  | cons b bs ih =>
    obtain ⟨first, hf, h⟩ := Checked.bind_eq_ok.1 h
    obtain ⟨later, hl, gains, lost⟩ := ih (Ring.closed_pushAll first r) h
    refine ⟨first ++ later, by simp [stampBatches, hf, hl, bind, Except.bind, pure, Except.pure],
      Ring.gains_append closed gains, ?_⟩
    rw [lost, Ring.lost_pushAll, Ring.room_pushAll closed, List.length_append]
    omega

theorem publishTx_cases {d : BitDurations} {compensation : UInt32} {batches : List (Drained TxEvent)}
    {r r' : Ring TxEvent trafficRing} {n : Nat} (closed : r.Closed)
    (h : publishTx d compensation batches r = .ok (n, r')) :
    ∃ events, stampBatches (d.stampSent · compensation) batches = .ok events ∧
      r.Gains (events.take r.room) r' ∧ n = min events.length r.room := by
  induction batches generalizing r n with
  | nil =>
    cases h
    exact ⟨[], rfl, by simpa using Ring.Gains.refl _, by simp⟩
  | cons b bs ih =>
    obtain ⟨first, hf, h⟩ := Checked.bind_eq_ok.1 h
    obtain ⟨⟨more, r₁⟩, hp, h⟩ := Checked.bind_eq_ok.1 h
    cases h
    replace hp : publishTx d compensation bs (r.pushAll first).2 = .ok (more, r') := hp
    obtain ⟨later, hl, gains, hn⟩ := ih (Ring.closed_pushAll first r) hp
    refine ⟨first ++ later, by simp [stampBatches, hf, hl, bind, Except.bind, pure, Except.pure],
      Ring.gains_append closed gains, ?_⟩
    have accepted := Ring.fst_pushAll first r
    have left := Ring.room_pushAll closed first
    simp only [Ring.pushAll, List.length_append] at hn accepted left ⊢
    omega

/-! ## Phases -/

theorem pollStatus_eq (notes : PollNotes) {c : Channel σ} (closed : c.status.Closed) :
    ∃ status, c.pollStatus notes =
        (notes.addEvents c.news.length (min c.news.length c.status.room),
          { c with status, published := Controller.busStatus c.controller }) ∧
      c.status.Gains (c.news.take c.status.room) status := by
  unfold pollStatus news
  simp only
  split
  · rename_i same
    refine ⟨c.status, ?_, by simpa using Ring.Gains.refl _⟩
    rw [same]
    rfl
  · refine ⟨_, ?_, Ring.gains_push closed _⟩
    simp only [Ring.fst_push, decide_eq_true_eq, List.length_singleton]
    congr 2
    split <;> omega

theorem pollErrors_eq (notes : PollNotes) {c : Channel σ} (closed : c.errors.Closed) :
    ∃ errors, c.pollErrors notes =
        (notes.addEvents (Controller.takeErrors c.controller).1.length
          (min (Controller.takeErrors c.controller).1.length c.errors.room),
          { c with controller := (Controller.takeErrors c.controller).2, errors }) ∧
      c.errors.Gains ((Controller.takeErrors c.controller).1.take c.errors.room) errors := by
  refine ⟨_, ?_, Ring.gains_pushAll closed _⟩
  rw [← Ring.fst_pushAll]
  rfl

theorem pollRx_cases {notes : PollNotes} {c : Channel σ} (closed : c.rx.Closed) {r : PollNotes × Channel σ}
    (h : c.pollRx notes = .ok r) :
    ∃ frames rx,
      stampBatches c.settings.durations.stampReceived (Controller.drainAllRx c.controller).1 = .ok frames ∧
      r = ({ notes with handedOut := notes.handedOut + frames.length },
        { c with controller := (Controller.drainAllRx c.controller).2, rx }) ∧
      c.rx.Gains (frames.take c.rx.room) rx ∧
      rx.lost.toNat = min (c.rx.lost.toNat + (frames.length - c.rx.room)) Queue.maxLost := by
  obtain ⟨rx, hp, h⟩ := Checked.bind_eq_ok.1 h
  cases h
  obtain ⟨frames, hf, gains, lost⟩ := publishRx_cases closed hp
  exact ⟨frames, rx, hf, by rw [length_stampBatches BitDurations.length_stamp hf]; rfl, gains, lost⟩

theorem pollTx_cases {notes : PollNotes} {c : Channel σ} (closed : c.tx.Closed) {r : PollNotes × Channel σ}
    (h : c.pollTx notes = .ok r) :
    ∃ events tx,
      stampBatches (c.settings.durations.stampSent · (Controller.delayCompensation c.controller))
        (Controller.drainAllTx c.controller).1 = .ok events ∧
      r = ({ notes with
          handedOut := notes.handedOut + events.length
          txRefused := notes.txRefused + (events.length - min events.length c.tx.room) },
        { c with controller := (Controller.drainAllTx c.controller).2, tx }) ∧
      c.tx.Gains (events.take c.tx.room) tx := by
  obtain ⟨⟨accepted, tx⟩, hp, h⟩ := Checked.bind_eq_ok.1 h
  cases h
  obtain ⟨events, he, gains, hn⟩ := publishTx_cases closed hp
  exact ⟨events, tx, he, by rw [← hn, length_stampBatches length_stampSent he]; rfl, gains⟩

/-! ## The whole interrupt -/

/-- the last batch of every ring is closed -/
structure Settled (c : Channel σ) : Prop where
  rx : c.rx.Closed
  tx : c.tx.Closed
  status : c.status.Closed
  errors : c.errors.Closed

theorem poll_cases {c c' : Channel σ} (closed : c.Settled) (h : c.poll = .ok c') :
    ∃ a, c.arrivals = .ok a ∧ c.Polled a c' := by
  replace h := Checked.map_eq_ok.1 h
  obtain ⟨⟨notes, c₅⟩, h, rfl⟩ := h
  obtain ⟨status, hs, gainsStatus⟩ := pollStatus_eq .none closed.status
  unfold pollNoting at h
  rw [hs] at h
  simp only at h
  obtain ⟨errors, he, gainsErrors⟩ := pollErrors_eq (PollNotes.none.addEvents c.news.length
    (min c.news.length c.status.room)) (c := { c with status, published := Controller.busStatus c.controller })
    closed.errors
  rw [he] at h
  obtain ⟨r₃, h₃, h⟩ := Checked.bind_eq_ok.1 h
  obtain ⟨frames, rx, hf, rfl, gainsRx, lost⟩ := pollRx_cases (by exact closed.rx) h₃
  obtain ⟨r₄, h₄, h⟩ := Checked.bind_eq_ok.1 h
  obtain ⟨events, tx, ht, rfl, gainsTx⟩ := pollTx_cases (by exact closed.tx) h₄
  cases h
  refine ⟨⟨(Controller.takeErrors c.controller).1, frames, events⟩, ?_, ?_⟩
  · unfold arrivals
    simp only at hf ht ⊢
    simp only [hf, bind, Except.bind, ht, pure, Except.pure]
  · exact {
      channel := rfl
      status := gainsStatus
      errors := gainsErrors
      rx := gainsRx
      tx := gainsTx
      lost
      queueFlags := by
        simp only [note, PollNotes.addEvents, PollNotes.none]
        exact ite_congr (propext (by omega)) (fun _ => rfl) fun _ => rfl
      desync := by
        simp only [note, PollNotes.addEvents, PollNotes.none]
        congr 1
        exact decide_eq_decide.2 (by omega)
      wake := by
        simp only [note, PollNotes.addEvents, PollNotes.none]
        congr 1
        exact decide_eq_decide.2 (by omega) }

end Channel

end CanAdapter
