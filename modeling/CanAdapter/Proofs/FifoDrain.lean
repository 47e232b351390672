/-
What one interrupt moves from the controller's FIFOs into the rings, entry by entry.

`Controller.Batches` says without a bound which batches a FIFO is drained in: full ones, and the first that is not.
`Controller.Latched` is the same for the latched bus errors. A controller runs dry, so the bounds that drain it are
never met (`exists_batches_drainUpTo`, `latched_errorsUpTo`), and `Handout` is all that one interrupt takes, with the
states in between; there is exactly one (`Handout.exists_of`, `Handout.Of.unique`).

`Channel.Collects` is what a poll makes of a handout, and `collects_of_polled` gets it from the account of the poll.
`Lane.fifos_moved_exactly` is the result.
-/
import CanAdapter.Bench.Controller
import CanAdapter.Proofs.Faultless
import CanAdapter.Proofs.Isolation
import CanAdapter.Proofs.Timestamps

namespace CanAdapter

/-! ## What a controller hands out -/

namespace Controller

section

variable {σ α : Type} {drain : σ → Drained α × σ} {s s' : σ}

/-- From `s` to `s'` the FIFO was drained in the batches `bs`: all are full but the last, which may be empty. -/
inductive Batches (drain : σ → Drained α × σ) : σ → List (Drained α) → σ → Prop where
  | last {s : σ} (short : (drain s).1.items.length < batchSize) : Batches drain s [(drain s).1] (drain s).2
  | full {s s' : σ} {bs : List (Drained α)} (full : (drain s).1.items.length = batchSize)
      (later : Batches drain (drain s).2 bs s') : Batches drain s ((drain s).1 :: bs) s'

theorem Batches.unique {bs₁ bs₂ : List (Drained α)} {s₁ s₂ : σ} (h₁ : Batches drain s bs₁ s₁)
    (h₂ : Batches drain s bs₂ s₂) : bs₁ = bs₂ ∧ s₁ = s₂ := by
  induction h₁ generalizing bs₂ with
  | last short =>
    cases h₂ with
    | last => exact ⟨rfl, rfl⟩
    | full full => exact absurd full (Nat.ne_of_lt short)
  | full full _ ih =>
    cases h₂ with
    | last short => exact absurd full (Nat.ne_of_lt short)
    | full _ later =>
      obtain ⟨rfl, rfl⟩ := ih later
      exact ⟨rfl, rfl⟩

theorem drainUpTo_of_short (short : (drain s).1.items.length < batchSize) (n : Nat) :
    drainUpTo drain n s = ([(drain s).1].filter fun b => !b.items.isEmpty, (drain s).2) := by
  unfold drainUpTo
  by_cases none : (drain s).1.items.isEmpty
  · simp [none]
  · simp [none, short]

theorem drainUpTo_of_full (full : (drain s).1.items.length = batchSize) (n : Nat) :
    drainUpTo drain (n + 1) s =
      ((drain s).1 :: (drainUpTo drain n (drain s).2).1, (drainUpTo drain n (drain s).2).2) := by
  have some : (drain s).1.items.isEmpty = false := by
    rw [List.isEmpty_eq_false_iff, ← List.length_pos_iff, full]
    decide
  rw [drainUpTo]
  simp [some, full]

/-- a bound that full batches use up no faster than the FIFO runs dry is never met, and an empty last batch is all that
the bounded drain leaves out -/
theorem exists_batches_drainUpTo {left : σ → Nat} (le : ∀ s, (drain s).1.items.length ≤ batchSize)
    (lt : ∀ s, (drain s).1.items.length = batchSize → left (drain s).2 < left s) {n : Nat} (enough : left s ≤ n) :
    ∃ bs, Batches drain s bs (drainUpTo drain n s).2 ∧
      (drainUpTo drain n s).1 = bs.filter fun b => !b.items.isEmpty := by
  induction n generalizing s with
  | zero =>
    have short : (drain s).1.items.length < batchSize := by
      refine Nat.lt_of_le_of_ne (le s) ?_
      intro full
      have := lt s full
      omega
    rw [drainUpTo_of_short short]
    exact ⟨_, .last short, rfl⟩
  | succ n ih =>
    by_cases short : (drain s).1.items.length < batchSize
    · rw [drainUpTo_of_short short]
      exact ⟨_, .last short, rfl⟩
    · have full : (drain s).1.items.length = batchSize := Nat.le_antisymm (le s) (Nat.le_of_not_lt short)
      have less := lt s full
      obtain ⟨bs, later, drained⟩ := ih (s := (drain s).2) (by omega)
      have some : (drain s).1.items ≠ [] := by
        rw [← List.length_pos_iff, full]
        decide
      rw [drainUpTo_of_full full]
      exact ⟨_, .full full later, by simp [some, drained]⟩

end

section

variable {σ : Type} [Controller σ] {s s' : σ}

/-- from `s` to `s'` all latched bus errors were taken, oldest first -/
inductive Latched : σ → List BusError → σ → Prop where
  | none {s : σ} (none : (takeError s).1 = none) : Latched s [] (takeError s).2
  | some {s s' : σ} {e : BusError} {es : List BusError} (some : (takeError s).1 = some e)
      (later : Latched (takeError s).2 es s') : Latched s (e :: es) s'

theorem Latched.unique {es₁ es₂ : List BusError} {s₁ s₂ : σ} (h₁ : Latched s es₁ s₁) (h₂ : Latched s es₂ s₂) :
    es₁ = es₂ ∧ s₁ = s₂ := by
  induction h₁ generalizing es₂ with
  | none none =>
    cases h₂ with
    | none => exact ⟨rfl, rfl⟩
    | some some => cases none.symm.trans some
  | some some _ ih =>
    cases h₂ with
    | none none => cases none.symm.trans some
    | some again later =>
      cases some.symm.trans again
      obtain ⟨rfl, rfl⟩ := ih later
      exact ⟨rfl, rfl⟩

theorem latched_errorsUpTo {n : Nat} (enough : errorsLeft s < n) :
    Latched s (errorsUpTo n s).1 (errorsUpTo n s).2 := by
  induction n generalizing s with
  | zero => omega
  | succ n ih =>
    have less := error_lt s
    have later := ih (s := (takeError s).2)
    unfold errorsUpTo
    cases taken : (takeError s).1 with
    | none =>
      have done := Latched.none taken
      generalize takeError s = r at taken done ⊢
      obtain ⟨e, s₁⟩ := r
      cases taken
      exact done
    | some e =>
      have more := Latched.some taken (later (by have := less (by simp [taken]); omega))
      generalize takeError s = r at taken more ⊢
      obtain ⟨e, s₁⟩ := r
      cases taken
      exact more

end

end Controller

/-- all that a controller hands out in one interrupt, with the states it goes through -/
structure Handout (σ : Type) where
  errors : List BusError
  afterErrors : σ
  rx : List (Drained Frame)
  afterRx : σ
  tx : List (Drained TxEvent)
  afterTx : σ

namespace Handout

variable {σ : Type} [Controller σ] {h h₁ h₂ : Handout σ} {s : σ}

/-- what a controller in state `s` hands out -/
structure Of (h : Handout σ) (s : σ) : Prop where
  errors : Controller.Latched s h.errors h.afterErrors
  rx : Controller.Batches Controller.drainRx h.afterErrors h.rx h.afterRx
  tx : Controller.Batches Controller.drainTx h.afterRx h.tx h.afterTx

theorem Of.unique (of₁ : h₁.Of s) (of₂ : h₂.Of s) : h₁ = h₂ := by
  obtain ⟨errors, afterErrors⟩ := of₁.errors.unique of₂.errors
  obtain ⟨rx, afterRx⟩ := of₁.rx.unique (afterErrors ▸ of₂.rx)
  obtain ⟨tx, afterTx⟩ := of₁.tx.unique (afterRx ▸ of₂.tx)
  cases h₁
  cases h₂
  cases errors
  cases afterErrors
  cases rx
  cases afterRx
  cases tx
  cases afterTx
  rfl

/-- a poll takes just that, but for empty batches -/
structure Taken (h : Handout σ) (s : σ) : Prop where
  errors : Controller.takeErrors s = (h.errors, h.afterErrors)
  rx : Controller.drainAllRx h.afterErrors = (h.rx.filter fun b => !b.items.isEmpty, h.afterRx)
  tx : Controller.drainAllTx h.afterRx = (h.tx.filter fun b => !b.items.isEmpty, h.afterTx)

theorem exists_of (s : σ) : ∃ h : Handout σ, h.Of s ∧ h.Taken s := by
  have errors := Controller.latched_errorsUpTo (s := s) (Nat.lt_succ_self _)
  obtain ⟨rx, batchesRx, drainedRx⟩ := Controller.exists_batches_drainUpTo Controller.rx_le Controller.rx_lt
    (Nat.le_refl (Controller.rxLeft (Controller.takeErrors s).2))
  obtain ⟨tx, batchesTx, drainedTx⟩ := Controller.exists_batches_drainUpTo Controller.tx_le Controller.tx_lt
    (Nat.le_refl (Controller.txLeft (Controller.drainAllRx (Controller.takeErrors s).2).2))
  exact ⟨⟨_, _, rx, _, tx, _⟩, ⟨errors, batchesRx, batchesTx⟩, rfl, Prod.ext drainedRx rfl, Prod.ext drainedTx rfl⟩

end Handout

/-! ## Stamped batches -/

section

variable {α β : Type} {stamp : UInt32 → List α → Checked (List α)} {batches : List (Drained α)} {entries : List α}

theorem stampBatches_filter (empty : ∀ tsc, stamp tsc [] = .ok []) (batches : List (Drained α)) :
    stampBatches stamp (batches.filter fun b => !b.items.isEmpty) = stampBatches stamp batches := by
  induction batches with
  | nil => rfl
  | cons b bs ih =>
    by_cases none : b.items = []
    · rw [List.filter_cons_of_neg (by simp [none]), ih, stampBatches, none, empty]
      cases stampBatches stamp bs <;> rfl
    · rw [List.filter_cons_of_pos (by simp [none]), stampBatches, ih, stampBatches]

/-- what no stamp touches is as the controller handed it out -/
theorem map_stampBatches {f : α → β} (same : ∀ {tsc as out}, stamp tsc as = .ok out → out.map f = as.map f)
    (h : stampBatches stamp batches = .ok entries) : entries.map f = (batches.flatMap (·.items)).map f := by
  induction batches generalizing entries with
  | nil =>
    cases h
    rfl
  | cons b bs ih =>
    obtain ⟨first, hf, h⟩ := Checked.bind_eq_ok.1 h
    obtain ⟨later, hl, h⟩ := Checked.bind_eq_ok.1 h
    cases h
    rw [List.flatMap_cons, List.map_append, List.map_append, same hf, ih hl]

end

/-- an entry without its timestamp -/
def untimed {α : Type} [Timestamped α] (a : α) : α := Timestamped.withTimestamp a 0

theorem BitDurations.untimed_stamp {α : Type} [Timestamped α] [TimestampField α] {d : BitDurations}
    {extra tsc : UInt32} {batch out : List α} (h : d.stamp extra tsc batch = .ok out) :
    out.map untimed = batch.map untimed := by
  obtain ⟨r, hr, h⟩ := Checked.bind_eq_ok.1 h
  cases h
  exact Channel.map_stampFrom (fun a t => by simp [untimed]) hr

theorem BitDurations.untimed_stampSent {d : BitDurations} {tsc compensation : UInt32} {batch out : List TxEvent}
    (h : d.stampSent tsc compensation batch = .ok out) : out.map untimed = batch.map untimed := by
  obtain ⟨extra, -, h⟩ := Checked.bind_eq_ok.1 h
  exact untimed_stamp h

theorem Ring.room_of_closed {α : Type} {k : Nat} {r : Ring α k} (closed : r.Closed) : r.room = 2 ^ k - r.used := by
  unfold Closed at closed
  simp [room, closed]

namespace Channel

variable {σ : Type} [Controller σ] {h : Handout σ} {c c' : Channel σ}

/-- a change of the bus status finds no room in its ring -/
def StatusRefused (c : Channel σ) : Prop :=
  Controller.busStatus c.controller ≠ c.published ∧ c.status.used = 2 ^ eventRing

/-- a bus error finds no room in its ring -/
def ErrorRefused (h : Handout σ) (c : Channel σ) : Prop := 2 ^ eventRing - c.errors.used < h.errors.length

/-- a transmit event finds no room in its ring -/
def EventRefused (h : Handout σ) (c : Channel σ) : Prop :=
  2 ^ trafficRing - c.tx.used < (h.tx.flatMap (·.items)).length

instance : Decidable c.StatusRefused := inferInstanceAs (Decidable (_ ∧ _))

instance : Decidable (ErrorRefused h c) := inferInstanceAs (Decidable (_ < _))

instance : Decidable (EventRefused h c) := inferInstanceAs (Decidable (_ < _))

/-- what a poll makes of what the controller hands out -/
structure Collects (h : Handout σ) (c c' : Channel σ) : Prop where
  /-- each frame is stamped with its own batch, and otherwise as it was handed out; the ring gains the oldest, as many
  as it has free slots, and counts the rest -/
  rx : ∃ frames, stampBatches c.settings.durations.stampReceived h.rx = .ok frames ∧
    frames.map untimed = (h.rx.flatMap (·.items)).map untimed ∧
    c'.rx.toList = c.rx.toList ++ frames.take (2 ^ trafficRing - c.rx.used) ∧
    c'.rx.lost.toNat = min (c.rx.lost.toNat + (frames.length - (2 ^ trafficRing - c.rx.used))) 65535
  tx : ∃ events, stampBatches (c.settings.durations.stampSent · (Controller.delayCompensation h.afterRx)) h.tx =
      .ok events ∧
    events.map untimed = (h.tx.flatMap (·.items)).map untimed ∧
    c'.tx.toList = c.tx.toList ++ events.take (2 ^ trafficRing - c.tx.used)
  errors : c'.errors.toList = c.errors.toList ++ h.errors.take (2 ^ eventRing - c.errors.used)
  /-- a status event is published only for a status that differs from the last published one -/
  status : c'.status.toList = c.status.toList ++
    if Controller.busStatus c.controller ≠ c.published ∧ c.status.used < 2 ^ eventRing
    then [⟨Controller.busStatus c.controller, Controller.timestamp c.controller⟩] else []
  queueFlags : c'.queueFlags = if c.StatusRefused ∨ ErrorRefused h c then c.queueFlags ∪ .queueFull else c.queueFlags
  desync : c'.desync = true ↔ c.desync = true ∨ c.StatusRefused ∨ ErrorRefused h c ∨ EventRefused h c
  wake : c'.wake = true ↔ c.wake = true ∨ Controller.busStatus c.controller ≠ c.published ∨ h.errors ≠ [] ∨
    h.rx.flatMap (·.items) ≠ [] ∨ h.tx.flatMap (·.items) ≠ []
  /-- nothing else in the channel changed, and no item stays unpublished -/
  elsewhere : c' = { c with
    controller := h.afterTx
    published := Controller.busStatus c.controller
    rx := c'.rx
    tx := c'.tx
    status := c'.status
    errors := c'.errors
    queueFlags := c'.queueFlags
    desync := c'.desync
    wake := c'.wake }
  settled : c'.Settled

/-- the arrivals of a poll are the handout, stamped batch by batch -/
theorem arrivals_cases (taken : h.Taken c.controller)
    (narrow : 2 * (Controller.delayCompensation h.afterRx).toNat < 2 ^ 32) {a : Arrivals} (ha : c.arrivals = .ok a) :
    a.errors = h.errors ∧ stampBatches c.settings.durations.stampReceived h.rx = .ok a.frames ∧
      stampBatches (c.settings.durations.stampSent · (Controller.delayCompensation h.afterRx)) h.tx = .ok a.events := by
  simp only [arrivals, taken.errors, taken.rx, taken.tx] at ha
  have emptyRx : ∀ tsc, c.settings.durations.stampReceived tsc [] = .ok [] := fun _ => rfl
  have emptyTx : ∀ tsc, c.settings.durations.stampSent tsc (Controller.delayCompensation h.afterRx) [] = .ok [] :=
    fun _ => BitDurations.stampSent_eq narrow []
  rw [stampBatches_filter emptyRx, stampBatches_filter emptyTx] at ha
  obtain ⟨frames, hf, ha⟩ := Checked.bind_eq_ok.1 ha
  obtain ⟨events, he, ha⟩ := Checked.bind_eq_ok.1 ha
  cases ha
  exact ⟨rfl, hf, he⟩

theorem handedOut_eq (taken : h.Taken c.controller) : handedOut c.controller = h.afterTx := by
  simp only [handedOut, taken.errors, taken.rx, taken.tx]

theorem length_news (c : Channel σ) : c.news.length =
    if Controller.busStatus c.controller = c.published then 0 else 1 := by
  unfold news
  split <;> rfl

theorem statusRefused_iff (settled : c.Settled) : c.status.room < c.news.length ↔ c.StatusRefused := by
  have bound := c.status.used_le_capacity
  rw [length_news, Ring.room_of_closed settled.status]
  unfold StatusRefused
  split
  · rename_i same
    simp [same]
  · rename_i differs
    simp only [differs, ne_eq, not_false_eq_true, true_and]
    omega

theorem take_news (settled : c.Settled) : c.news.take c.status.room =
    if Controller.busStatus c.controller ≠ c.published ∧ c.status.used < 2 ^ eventRing
    then [⟨Controller.busStatus c.controller, Controller.timestamp c.controller⟩] else [] := by
  rw [Ring.room_of_closed settled.status]
  unfold news
  split
  · rename_i same
    simp [same]
  · rename_i differs
    by_cases free : c.status.used < 2 ^ eventRing
    · rw [if_pos ⟨differs, free⟩]
      exact List.take_of_length_le (by simp only [List.length_singleton]; omega)
    · rw [if_neg fun both => free both.2, Nat.sub_eq_zero_of_le (Nat.le_of_not_lt free), List.take_zero]

theorem collects_of_polled (settled : c.Settled) (taken : h.Taken c.controller)
    (narrow : 2 * (Controller.delayCompensation h.afterRx).toNat < 2 ^ 32) {a : Arrivals} (ha : c.arrivals = .ok a)
    (polled : c.Polled a c') : Collects h c c' := by
  obtain ⟨errors, frames, events⟩ := arrivals_cases taken narrow ha
  have untimedFrames := map_stampBatches BitDurations.untimed_stamp frames
  have untimedEvents := map_stampBatches BitDurations.untimed_stampSent events
  have countFrames := congrArg List.length untimedFrames
  have countEvents := congrArg List.length untimedEvents
  simp only [List.length_map] at countFrames countEvents
  have changed : 0 < c.news.length ↔ Controller.busStatus c.controller ≠ c.published := by
    rw [length_news]
    split <;> simp_all
  have roomRx := Ring.room_of_closed settled.rx
  have roomTx := Ring.room_of_closed settled.tx
  have roomErrors := Ring.room_of_closed settled.errors
  have statusRefused := statusRefused_iff settled
  have errorRefused : c.errors.room < a.errors.length ↔ ErrorRefused h c := by
    rw [errors, roomErrors]
    rfl
  have eventRefused : c.tx.room < a.events.length ↔ EventRefused h c := by
    rw [countEvents, roomTx]
    rfl
  exact {
    rx := ⟨a.frames, frames, untimedFrames, by rw [polled.rx.1, roomRx], by rw [polled.lost, roomRx]; rfl⟩
    tx := ⟨a.events, events, untimedEvents, by rw [polled.tx.1, roomTx]⟩
    errors := by rw [polled.errors.1, errors, roomErrors]
    status := by rw [polled.status.1, take_news settled]
    queueFlags := by
      rw [polled.queueFlags]
      exact if_congr (or_congr statusRefused errorRefused) rfl rfl
    desync := by
      rw [polled.desync, Bool.or_eq_true, decide_eq_true_eq]
      exact or_congr_right (or_congr statusRefused (or_congr errorRefused eventRefused))
    wake := by
      rw [polled.wake, errors, countFrames, countEvents, Bool.or_eq_true, decide_eq_true_eq]
      refine or_congr_right ?_
      rw [← changed, ← List.length_pos_iff, ← List.length_pos_iff, ← List.length_pos_iff]
      omega
    elsewhere := by
      rw [← handedOut_eq taken]
      exact polled.channel
    settled := ⟨polled.rx.2.trans settled.rx, polled.tx.2.trans settled.tx, polled.status.2.trans settled.status,
      polled.errors.2.trans settled.errors⟩ }

theorem controller_pollStatus (notes : PollNotes) (c : Channel σ) :
    (c.pollStatus notes).2.controller = c.controller := by
  unfold pollStatus
  simp only
  split <;> rfl

theorem succeeds_pollRx (notes : PollNotes) (c : Channel σ) :
    Checked.Succeeds (fun r => r.2.controller = (Controller.drainAllRx c.controller).2) (c.pollRx notes) :=
  (succeeds_publishRx _ _ _).bind fun _ _ => .of_ok rfl

theorem succeeds_pollTx (notes : PollNotes)
    (small : 2 * (Controller.delayCompensation c.controller).toNat + BitCounts.longest < 2 ^ 32) :
    Checked.Succeeds (fun _ => True) (c.pollTx notes) :=
  (succeeds_publishTx _ small _ _).bind fun _ _ => .of_ok trivial

/-- the frames and events of one interrupt can be stamped, so the poll comes to its end -/
theorem poll_of_taken (taken : h.Taken c.controller)
    (small : 2 * (Controller.delayCompensation h.afterRx).toNat + BitCounts.longest < 2 ^ 32) :
    ∃ c', c.poll = .ok c' := by
  have errors : ((c.pollStatus .none).2.pollErrors (c.pollStatus .none).1).2.controller = h.afterErrors := by
    unfold pollErrors
    rw [controller_pollStatus, taken.errors]
  have rx := succeeds_pollRx ((c.pollStatus .none).2.pollErrors (c.pollStatus .none).1).1
    ((c.pollStatus .none).2.pollErrors (c.pollStatus .none).1).2
  rw [errors, taken.rx] at rx
  have noting : Checked.Succeeds (fun _ => True) c.pollNoting := by
    refine rx.bind ?_
    intro r₃ afterRx
    exact (succeeds_pollTx _ (by rwa [afterRx])).bind fun _ _ => .of_ok trivial
  obtain ⟨r, run, -⟩ := noting
  exact ⟨r.2, Checked.map_eq_ok.2 ⟨r, run, rfl⟩⟩

end Channel

namespace Lane

/-- **What an interrupt moves.** For every reachable channel there is exactly one handout of its controller: all latched
bus errors, and the batches of each FIFO up to the first that is not full. If the transmitter delay compensation leaves
the words their room, a poll comes to its end and moves the handout into the rings. -/
theorem fifos_moved_exactly {σ : Type} [Controller σ] {l : Lane σ} (reachable : l.Reachable) :
    ∃ h : Handout σ, h.Of l.channel.controller ∧ (∀ h' : Handout σ, h'.Of l.channel.controller → h' = h) ∧
      (2 * (Controller.delayCompensation h.afterRx).toNat + 596 < 2 ^ 32 →
        ∃ c', l.channel.poll = .ok c' ∧ Channel.Collects h l.channel c') := by
  obtain ⟨h, of, taken⟩ := Handout.exists_of l.channel.controller
  refine ⟨h, of, fun h' of' => of'.unique of, ?_⟩
  intro small
  have settled := reachable.sound.settled
  have narrow : 2 * (Controller.delayCompensation h.afterRx).toNat < 2 ^ 32 := by omega
  obtain ⟨c', poll⟩ := Channel.poll_of_taken taken small
  obtain ⟨a, arrivals, polled⟩ := Channel.poll_cases settled poll
  exact ⟨c', poll, Channel.collects_of_polled settled taken narrow arrivals polled⟩

/-- thirty frames wait in the ring, and forty more in the FIFO, with an event, a bus error and a new status -/
def crowdedFifos : List (LaneEvent SimController) :=
  [.moved fun s => { s with rx := List.replicate 30 Frame.empty }, .op .poll,
    .moved fun s => { s with
      rx := List.replicate 40 Frame.empty
      events := [⟨7, .empty, 8, 0⟩]
      errors := [⟨.ack, true, false, 3⟩]
      status := .errorPassive
      tsc := 100
      tscStep := 7
      delayCompensation := 5 }]

/-- two of the forty frames find room -/
theorem crowdedFifos_moved : ∃ (l : Lane SimController) (h : Handout SimController) (c' : Channel SimController),
    l.Reachable ∧ l.channel.rx.used = 30 ∧ h.Of l.channel.controller ∧ l.channel.poll = .ok c' ∧
      Channel.Collects h l.channel c' ∧ c'.rx.lost = 38 ∧ (c'.rx.used, c'.tx.used) = (32, 1) ∧
      (c'.status.used, c'.errors.used) = (1, 1) := by
  have ran : Checked.passes (fun (r : Channel SimController × Lane SimController) => decide (
      r.2.channel.rx.used = 30 ∧
      (Controller.drainAllRx (Controller.takeErrors r.2.channel.controller).2).2.delayCompensation = 5 ∧
      Checked.passes (fun c' => decide (c'.rx.lost = 38 ∧ (c'.rx.used, c'.tx.used) = (32, 1) ∧
        (c'.status.used, c'.errors.used) = (1, 1))) r.2.channel.poll = true))
      (Channel.create 0 .default ({} : SimController) >>= fun c =>
        (ofChannel { c with split := true }).plays crowdedFifos >>= fun l => pure (c, l)) = true := by
    decide +kernel
  obtain ⟨c, l, created, played, holds⟩ := Checked.of_passes_pair ran
  obtain ⟨waiting, compensation, polls⟩ := of_decide_eq_true holds
  have reachable : l.Reachable := ⟨_, crowdedFifos, ⟨0, .default, {}, c, created, rfl⟩, played⟩
  obtain ⟨h, of, unique, moves⟩ := fifos_moved_exactly reachable
  obtain ⟨h', of', taken⟩ := Handout.exists_of l.channel.controller
  obtain rfl := unique h' of'
  rw [taken.errors, taken.rx] at compensation
  have five : (Controller.delayCompensation h'.afterRx).toNat = 5 := congrArg UInt32.toNat compensation
  obtain ⟨c', poll, collects⟩ := moves (by omega)
  obtain ⟨_, again, counts⟩ := Checked.of_passes polls
  obtain ⟨lost, traffic, rest⟩ := of_decide_eq_true counts
  obtain rfl := Except.ok.inj (poll.symm.trans again)
  exact ⟨l, h', c', reachable, waiting, of, poll, collects, lost, traffic, rest⟩

end Lane

end CanAdapter
