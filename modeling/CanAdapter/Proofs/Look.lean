/-
What one look of the reporting task does to its lane. Every source takes the oldest item of its ring if, and only if, it
appends the item's message to the CAN pipe, and so does every composition of sources, for the rings and the pipe as a
whole.

`Flow ms l l'` says that from `l` to `l'` exactly the messages `ms` were appended, that what they report was taken from
the rings, and that no other event was; that every credit returned is for a report on a transmit event; and that each
report on the bus told all the losses there were (`Losses.Reported`). `flow_pass`: a pass is such a flow. `Load` counts
what waits; a pass that is not blocked takes one item of each ring, so the bound on passes is never met. `drain_cases`,
`wakeUp_cases`: all that can come of a drain and of a look.
-/
import CanAdapter.Proofs.Source

namespace CanAdapter

/-- the bus status that the host knows after some messages, if it knew `before` -/
def latestStatus (before : Option BusStatus) (ms : List Message) : Option BusStatus :=
  ((ms.filterMap Message.busReport?).getLast?.map (·.status)).or before

theorem latestStatus_nil (before : Option BusStatus) : latestStatus before [] = before := rfl

theorem latestStatus_append (before : Option BusStatus) (ms ns : List Message) :
    latestStatus before (ms ++ ns) = latestStatus (latestStatus before ms) ns := by
  simp only [latestStatus, List.filterMap_append, List.getLast?_append]
  cases (ns.filterMap Message.busReport?).getLast? <;> simp

/-! ## What reports tell -/

/-- what is counted for the next report on the bus -/
structure Losses where
  frames : UInt16
  requests : UInt16
  flags : StatusFlags
deriving DecidableEq, Repr

namespace Losses

def none : Losses := ⟨0, 0, .empty⟩

/-- the report tells of these losses, and whether the host's view is stale -/
def ToldBy (desync : Bool) (x : Losses) (r : BusReport) : Prop :=
  r.rxLost = x.frames ∧ r.txDropped = x.requests ∧
    r.flags = if desync then StatusFlags.ofByte x.flags.bits ∪ .desync else .ofByte x.flags.bits

/-- The reports tell of the losses `x` and leave `y` to be told. The first tells of all there was, and each later one
that there was nothing more. -/
inductive Reported (desync : Bool) : Losses → List BusReport → Losses → Prop where
  | nil (x : Losses) : Reported desync x [] x
  | cons {x y : Losses} {r : BusReport} {rs : List BusReport} (tells : ToldBy desync x r)
      (later : Reported desync none rs y) : Reported desync x (r :: rs) y

theorem Reported.append {desync : Bool} {x y z : Losses} {rs more : List BusReport} (h : Reported desync x rs y)
    (h' : Reported desync y more z) : Reported desync x (rs ++ more) z := by
  induction h with
  | nil => exact h'
  | cons tells _ ih => exact .cons tells (ih h')

end Losses

/-- what the next report on the bus will tell -/
def Channel.losses {σ : Type} (c : Channel σ) : Losses := ⟨c.rx.lost, c.dropped, c.queueFlags⟩

theorem Channel.toldBy_snapshot {σ : Type} [Controller σ] (status : BusStatus) (c : Channel σ) :
    c.losses.ToldBy c.desync (c.snapshot status).1 :=
  ⟨rfl, rfl, rfl⟩

namespace Lane

variable {σ : Type} {l l' : Lane σ} {move : Move}

/-! ## Flows -/

/-- the bus status that the task was told last, be it that the change still waits in its ring -/
def told (l : Lane σ) : BusStatus := (l.channel.status.toList.getLast?.map (·.status)).getD l.reporter.busStatus

/-- a host that knows `known` is up to date with the task, unless a report is due -/
def Shows (known : Option BusStatus) (l : Lane σ) : Prop :=
  l.reporter.reportDue = false → known = some l.reporter.busStatus

/-- from `l` to `l'` the messages `ms` went to the CAN pipe, and what they report left the rings -/
structure Flow (ms : List Message) (l l' : Lane σ) : Prop where
  /-- nothing else in the channel changed -/
  channel : l'.channel = { l.channel with
    can := l'.channel.can
    rx := l'.channel.rx
    tx := l'.channel.tx
    status := l'.channel.status
    errors := l'.channel.errors
    credits := l'.channel.credits
    dropped := l'.channel.dropped
    queueFlags := l'.channel.queueFlags
    wake := l'.channel.wake }
  wake : l.channel.wake = true → l'.channel.wake = true
  can : Endpoint.Posts l.channel.config.order ms l.channel.can l'.channel.can
  rx : l.channel.rx.Releases (ms.filterMap Message.frame?) l'.channel.rx
  errors : l.channel.errors.Releases (ms.filterMap Message.error?) l'.channel.errors
  tx : ∃ taken, ms.filterMap Message.txReport? = taken.map TxEvent.report ∧ l.channel.tx.Releases taken l'.channel.tx
  status : ∃ taken, l.channel.status.Releases taken l'.channel.status
  losses : l.channel.losses.Reported l.channel.desync (ms.filterMap Message.busReport?) l'.channel.losses
  /-- each report on a transmission gives a credit back, up to the number of places -/
  credits : l'.channel.credits.toNat = max l.channel.credits.toNat
    (min l.channel.config.txFifo.toNat (l.channel.credits.toNat + (ms.filterMap Message.txReport?).length))
  told : l'.told = l.told
  shows : ∀ known, l.Shows known → l'.Shows (latestStatus known ms)

namespace Flow

variable {ms ns : List Message} {l'' : Lane σ}

theorem refl (l : Lane σ) : Flow [] l l where
  channel := rfl
  wake := id
  can := Endpoint.Posts.refl _ _
  rx := .refl _
  errors := .refl _
  tx := ⟨[], rfl, .refl _⟩
  status := ⟨[], .refl _⟩
  losses := .nil _
  credits := by
    simp only [List.filterMap_nil, List.length_nil]
    omega
  told := rfl
  shows _ h := h

/-- what the task notes for the LED moves nothing -/
theorem of_reporter {r : Reporter} (hs : r.busStatus = l.reporter.busStatus) (hd : r.reportDue = l.reporter.reportDue) :
    Flow [] l { l with reporter := r } :=
  { refl l with
    channel := rfl
    told := by simp only [Lane.told, hs]
    shows := fun known h => by
      unfold Shows at h ⊢
      simpa only [hs, hd, latestStatus_nil] using h }

theorem trans (h : Flow ms l l') (h' : Flow ns l' l'') : Flow (ms ++ ns) l l'' where
  channel := h'.channel.trans (congrArg (fun c : Channel σ => { c with
    can := l''.channel.can
    rx := l''.channel.rx
    tx := l''.channel.tx
    status := l''.channel.status
    errors := l''.channel.errors
    credits := l''.channel.credits
    dropped := l''.channel.dropped
    queueFlags := l''.channel.queueFlags
    wake := l''.channel.wake }) h.channel)
  wake := h'.wake ∘ h.wake
  can := by
    have order : l'.channel.config.order = l.channel.config.order := congrArg (·.config.order) h.channel
    exact h.can.trans (order ▸ h'.can)
  rx := by
    rw [List.filterMap_append]
    exact h.rx.trans h'.rx
  errors := by
    rw [List.filterMap_append]
    exact h.errors.trans h'.errors
  tx := by
    obtain ⟨taken, reports, release⟩ := h.tx
    obtain ⟨taken', reports', release'⟩ := h'.tx
    exact ⟨taken ++ taken', by rw [List.filterMap_append, List.map_append, reports, reports'], release.trans release'⟩
  status := by
    obtain ⟨taken, release⟩ := h.status
    obtain ⟨taken', release'⟩ := h'.status
    exact ⟨_, release.trans release'⟩
  losses := by
    have desync : l'.channel.desync = l.channel.desync := congrArg (·.desync) h.channel
    rw [List.filterMap_append]
    exact h.losses.append (desync ▸ h'.losses)
  credits := by
    have places : l'.channel.config.txFifo = l.channel.config.txFifo := congrArg (·.config.txFifo) h.channel
    rw [h'.credits, h.credits, places, List.filterMap_append, List.length_append]
    omega
  told := h'.told.trans h.told
  shows known hk := by
    rw [latestStatus_append]
    exact h'.shows _ (h.shows known hk)

end Flow

/-- what a source appended of the message that it offered -/
def Move.sent (move : Move) (offer : Option Message) : List Message := if move = .moved then offer.toList else []

theorem flow_takeStatus {now : Nat} (h : l.takeStatus now = .ok (move, l')) : Flow [] l l' := by
  rcases takeStatus_cases h with ⟨-, rfl, -⟩ | ⟨-, e, took, rfl⟩
  · exact .refl _
  · refine { Flow.refl l with
      channel := rfl
      status := ⟨_, took⟩
      told := ?_
      shows := fun known _ due => nomatch due }
    simp only [Lane.told, took.1, List.singleton_append, List.getLast?_cons]
    cases l.channel.status.consume.toList.getLast? <;> rfl

theorem flow_placeError {now : Nat} (h : l.placeError now = .ok (move, l')) :
    Flow (move.sent (l.channel.errors.toList.head?.map .busError)) l l' := by
  rcases placeOldest_cases Message.isReply_busError h with
    ⟨rfl, rfl, -⟩ | ⟨rfl, rfl, -⟩ | ⟨rfl, e, can, c, took, placed, hc, rfl⟩
  · exact .refl _
  · exact .of_reporter rfl rfl
  · cases hc
    rw [took.1]
    exact { Flow.of_reporter (l := l) (by rfl) (by rfl) with
      channel := rfl
      can := placed
      errors := took }

theorem flow_placeFrame {now : Nat} (h : l.placeFrame now = .ok (move, l')) :
    Flow (move.sent (l.channel.rx.toList.head?.map .received)) l l' := by
  rcases placeOldest_cases Message.isReply_received h with
    ⟨rfl, rfl, -⟩ | ⟨rfl, rfl, -⟩ | ⟨rfl, f, can, c, took, placed, hc, rfl⟩
  · exact .refl _
  · exact .of_reporter rfl rfl
  · cases hc
    rw [took.1]
    exact { Flow.of_reporter (l := l) (by rfl) (by rfl) with
      channel := rfl
      can := placed
      rx := took
      losses := by
        simp only [Channel.losses, Ring.lost_consume]
        exact .nil _ }

theorem flow_placeTxReport {now : Nat} (h : l.placeTxReport now = .ok (move, l')) :
    Flow (move.sent (l.channel.tx.toList.head?.map fun e => .transmitted e.report)) l l' := by
  rcases placeOldest_cases (fun _ => Message.isReply_transmitted _) h with
    ⟨rfl, rfl, -⟩ | ⟨rfl, rfl, -⟩ | ⟨rfl, e, can, c, took, placed, hc, rfl⟩
  · exact .refl _
  · exact .of_reporter rfl rfl
  · cases Channel.returnCredit_eq hc
    rw [took.1]
    exact { Flow.of_reporter (l := l) (by rfl) (by rfl) with
      channel := rfl
      can := placed
      tx := ⟨[e], rfl, took⟩
      credits := Channel.toNat_returned _ _ }

theorem updateLed_eq (now : Nat) (l : Lane σ) : ∃ led leds,
    l.updateLed now = { l with reporter := { l.reporter with led }, leds } := by
  unfold updateLed
  simp only
  split
  · exact ⟨l.reporter.led, l.leds, rfl⟩
  · exact ⟨_, _, rfl⟩

/-! ## Passes -/

/-- how many items wait in each ring, and whether a report is due -/
structure Load where
  status : Nat
  errors : Nat
  rx : Nat
  tx : Nat
  due : Bool
deriving DecidableEq

def load (l : Lane σ) : Load :=
  ⟨l.channel.status.used, l.channel.errors.used, l.channel.rx.used, l.channel.tx.used, l.reporter.reportDue⟩

namespace Load

def none : Load := ⟨0, 0, 0, 0, false⟩

/-- after a pass in which nothing was blocked -/
def next (b : Load) : Load := ⟨b.status - 1, b.errors - 1, b.rx - 1, b.tx - 1, decide (0 < b.status)⟩

/-- passes that move something -/
def rounds (b : Load) : Nat := max (max b.status b.errors) (max b.rx b.tx) + if b.due then 1 else 0

/-- the first pass of a look reports, so a status change that waits never meets a pass that does not -/
def Prompt (b : Load) : Prop := b.status = 0 ∨ b.due = true

theorem prompt_next (b : Load) : b.next.Prompt := by
  by_cases h : 0 < b.status
  · exact .inr (decide_eq_true h)
  · refine .inl ?_
    simp only [next]
    omega

theorem rounds_next {b : Load} (hp : b.Prompt) (hb : b ≠ none) : b.next.rounds < b.rounds := by
  obtain ⟨s, e, r, t, due⟩ := b
  simp only [rounds, next, Nat.sub_max_sub_right, decide_eq_true_eq]
  cases due with
  | true =>
    have most : s ≤ max (max s e) (max r t) := Nat.le_trans (Nat.le_max_left s e) (Nat.le_max_left _ _)
    generalize max (max s e) (max r t) = rounds at most
    simp only [↓reduceIte]
    split <;> omega
  | false =>
    have hs : s = 0 := by simpa [Prompt] using hp
    subst hs
    have some : max (max 0 e) (max r t) ≠ 0 := by
      intro empty
      simp only [Nat.max_eq_zero_iff] at empty
      obtain ⟨⟨-, rfl⟩, rfl, rfl⟩ := empty
      exact hb rfl
    simp only [Nat.lt_irrefl, Bool.false_eq_true, ↓reduceIte]
    omega

end Load

theorem rings_of_load (h : l.load = .none) : l.channel.rx.toList = [] ∧ l.channel.tx.toList = [] ∧
    l.channel.status.toList = [] ∧ l.channel.errors.toList = [] := by
  simp only [load, Load.none, Load.mk.injEq] at h
  obtain ⟨status, errors, rx, tx, -⟩ := h
  exact ⟨Ring.toList_of_used rx, Ring.toList_of_used tx, Ring.toList_of_used status, Ring.toList_of_used errors⟩

theorem load_takeStatus {now : Nat} (h : l.takeStatus now = .ok (move, l')) :
    l'.load = { l.load with status := l.load.status - 1, due := l.load.due || decide (0 < l.load.status) } ∧
      (move = .idle ↔ l.load.status = 0) := by
  rcases takeStatus_cases h with ⟨rfl, rfl, none⟩ | ⟨rfl, e, took, rfl⟩
  · simp [load, Ring.used_of_toList none]
  · simp [load, took.used]

theorem load_placeError {now : Nat} (h : l.placeError now = .ok (move, l')) (hb : move ≠ .blocked) :
    l'.load = { l.load with errors := l.load.errors - 1 } ∧ (move = .idle ↔ l.load.errors = 0) := by
  rcases placeOldest_cases Message.isReply_busError h with
    ⟨rfl, rfl, none⟩ | ⟨rfl, -⟩ | ⟨rfl, e, can, c, took, -, hc, rfl⟩
  · simp [load, Ring.used_of_toList none]
  · exact absurd rfl hb
  · cases hc
    simp [load, took.used]

theorem load_placeFrame {now : Nat} (h : l.placeFrame now = .ok (move, l')) (hb : move ≠ .blocked) :
    l'.load = { l.load with rx := l.load.rx - 1 } ∧ (move = .idle ↔ l.load.rx = 0) := by
  rcases placeOldest_cases Message.isReply_received h with
    ⟨rfl, rfl, none⟩ | ⟨rfl, -⟩ | ⟨rfl, f, can, c, took, -, hc, rfl⟩
  · simp [load, Ring.used_of_toList none]
  · exact absurd rfl hb
  · cases hc
    simp [load, took.used]

theorem load_placeTxReport {now : Nat} (h : l.placeTxReport now = .ok (move, l')) (hb : move ≠ .blocked) :
    l'.load = { l.load with tx := l.load.tx - 1 } ∧ (move = .idle ↔ l.load.tx = 0) := by
  rcases placeOldest_cases (fun _ => Message.isReply_transmitted _) h with
    ⟨rfl, rfl, none⟩ | ⟨rfl, -⟩ | ⟨rfl, e, can, c, took, -, hc, rfl⟩
  · simp [load, Ring.used_of_toList none]
  · exact absurd rfl hb
  · cases Channel.returnCredit_eq hc
    simp [load, took.used]

/-- the sources that were not blocked all had their turn -/
theorem inOrder_cons {source : Lane σ → Checked (Move × Lane σ)} {sources : List (Lane σ → Checked (Move × Lane σ))}
    (h : inOrder (source :: sources) l = .ok (move, l')) (hb : move ≠ .blocked) :
    ∃ m₁ l₁ m₂, source l = .ok (m₁, l₁) ∧ m₁ ≠ .blocked ∧ inOrder sources l₁ = .ok (m₂, l') ∧ m₂ ≠ .blocked ∧
      (move = .idle ↔ m₁ = .idle ∧ m₂ = .idle) := by
  obtain ⟨⟨m₁, l₁⟩, h₁, h⟩ := Checked.bind_eq_ok.1 h
  cases m₁ with
  | blocked =>
    cases h
    exact absurd rfl hb
  | idle => exact ⟨.idle, l₁, move, h₁, by simp, h, hb, by simp⟩
  | moved =>
    obtain ⟨⟨m₂, l₂⟩, h₂, h⟩ := Checked.bind_eq_ok.1 h
    cases m₂ with
    | idle =>
      cases h
      exact ⟨.moved, l₁, .idle, h₁, by simp, h₂, by simp, by simp⟩
    | moved =>
      cases h
      exact ⟨.moved, l₁, .moved, h₁, by simp, h₂, by simp, by simp⟩
    | blocked =>
      cases h
      exact absurd rfl hb

theorem flow_inOrder {sources : List (Lane σ → Checked (Move × Lane σ))}
    (hs : ∀ source ∈ sources, ∀ {l l' : Lane σ} {move : Move}, source l = .ok (move, l') → ∃ ms, Flow ms l l')
    (h : inOrder sources l = .ok (move, l')) : ∃ ms, Flow ms l l' := by
  induction sources generalizing l move with
  | nil =>
    cases h
    exact ⟨[], .refl _⟩
  | cons source sources ih =>
    have later {l : Lane σ} {move : Move} := @ih l move fun s hm => hs s (List.mem_cons_of_mem _ hm)
    obtain ⟨⟨m₁, l₁⟩, h₁, h⟩ := Checked.bind_eq_ok.1 h
    obtain ⟨ms, first⟩ := hs source List.mem_cons_self h₁
    cases m₁ with
    | blocked =>
      cases h
      exact ⟨ms, first⟩
    | idle =>
      obtain ⟨ns, rest⟩ := later h
      exact ⟨_, first.trans rest⟩
    | moved =>
      obtain ⟨⟨m₂, l₂⟩, h₂, h⟩ := Checked.bind_eq_ok.1 h
      have same : l₂ = l' := by cases m₂ <;> cases h <;> rfl
      obtain ⟨ns, rest⟩ := later (same ▸ h₂)
      exact ⟨_, first.trans rest⟩

/-- what stops a pass is a transfer that is outstanding -/
theorem inOrder_blocked {sources : List (Lane σ → Checked (Move × Lane σ))}
    (hs : ∀ source ∈ sources, ∀ {l l' : Lane σ}, source l = .ok (.blocked, l') → l'.channel.can.sending ≠ [])
    (h : inOrder sources l = .ok (.blocked, l')) : l'.channel.can.sending ≠ [] := by
  induction sources generalizing l with
  | nil => cases h
  | cons source sources ih =>
    have later {l : Lane σ} := @ih l fun s hm => hs s (List.mem_cons_of_mem _ hm)
    obtain ⟨⟨m₁, l₁⟩, h₁, h⟩ := Checked.bind_eq_ok.1 h
    cases m₁ with
    | blocked =>
      cases h
      exact hs source List.mem_cons_self h₁
    | idle => exact later h
    | moved =>
      obtain ⟨⟨m₂, l₂⟩, h₂, h⟩ := Checked.bind_eq_ok.1 h
      cases m₂ with
      | blocked =>
        cases h
        exact later h₂
      | idle => cases h
      | moved => cases h

variable [Controller σ]

theorem flow_placeReport (h : l.placeReport = .ok (move, l')) :
    Flow (move.sent (some (.busReport (l.channel.snapshot l.reporter.busStatus).1))) l l' := by
  rcases placeReport_cases h with ⟨rfl, rfl, -⟩ | ⟨rfl, rfl, -⟩ | ⟨rfl, -, can, placed, rfl⟩
  · exact .refl _
  · exact .refl _
  · exact { Flow.refl l with
      channel := rfl
      can := placed
      rx := ⟨rfl, rfl⟩
      losses := .cons (Channel.toldBy_snapshot _ _) (.nil _)
      shows := fun known _ _ => rfl }

theorem flow_pass {now : Nat} (h : l.pass now = .ok (move, l')) : ∃ ms, Flow ms l l' := by
  refine flow_inOrder ?_ h
  intro source hs l l' move h
  simp only [List.mem_cons, List.not_mem_nil, or_false] at hs
  rcases hs with rfl | rfl | rfl | rfl | rfl
  · exact ⟨_, flow_placeReport h⟩
  · exact ⟨_, flow_takeStatus h⟩
  · exact ⟨_, flow_placeError h⟩
  · exact ⟨_, flow_placeFrame h⟩
  · exact ⟨_, flow_placeTxReport h⟩

theorem pass_blocked {now : Nat} (h : l.pass now = .ok (.blocked, l')) : l'.channel.can.sending ≠ [] := by
  refine inOrder_blocked ?_ h
  intro source hs l l' h
  simp only [List.mem_cons, List.not_mem_nil, or_false] at hs
  rcases hs with rfl | rfl | rfl | rfl | rfl
  · rcases placeReport_cases h with ⟨none, -⟩ | ⟨-, rfl, -, busy⟩ | ⟨moved, -⟩
    · cases none
    · exact busy
    · cases moved
  · rcases takeStatus_cases h with ⟨none, -⟩ | ⟨moved, -⟩
    · cases none
    · cases moved
  · exact sending_of_blocked Message.isReply_busError h
  · exact sending_of_blocked Message.isReply_received h
  · exact sending_of_blocked (fun _ => Message.isReply_transmitted _) h

theorem load_placeReport (h : l.placeReport = .ok (move, l')) (hb : move ≠ .blocked) :
    l'.load = { l.load with due := false } ∧ (move = .idle ↔ l.load.due = false) := by
  rcases placeReport_cases h with ⟨rfl, rfl, none⟩ | ⟨rfl, -⟩ | ⟨rfl, due, can, -, rfl⟩
  · simp [load, none]
  · exact absurd rfl hb
  · exact ⟨rfl, by simp [load, due]⟩

theorem load_pass {now : Nat} (h : l.pass now = .ok (move, l')) (hb : move ≠ .blocked) :
    l'.load = l.load.next ∧ (move = .idle ↔ l.load = .none) := by
  obtain ⟨m₁, l₁, _, h₁, b₁, h, b, i₁⟩ := inOrder_cons h hb
  obtain ⟨m₂, l₂, _, h₂, -, h, b, i₂⟩ := inOrder_cons h b
  obtain ⟨m₃, l₃, _, h₃, b₃, h, b, i₃⟩ := inOrder_cons h b
  obtain ⟨m₄, l₄, _, h₄, b₄, h, b, i₄⟩ := inOrder_cons h b
  obtain ⟨m₅, l₅, _, h₅, b₅, h, b, i₅⟩ := inOrder_cons h b
  cases h
  obtain ⟨w₁, d₁⟩ := load_placeReport h₁ b₁
  obtain ⟨w₂, d₂⟩ := load_takeStatus h₂
  obtain ⟨w₃, d₃⟩ := load_placeError h₃ b₃
  obtain ⟨w₄, d₄⟩ := load_placeFrame h₄ b₄
  obtain ⟨w₅, d₅⟩ := load_placeTxReport h₅ b₅
  refine ⟨by rw [w₅, w₄, w₃, w₂, w₁]; simp [Load.next], ?_⟩
  rw [i₁, i₂, i₃, i₄, i₅, d₁, d₂, d₃, d₄, d₅, w₄, w₃, w₂, w₁]
  cases l.load
  simp only [Load.none, Load.mk.injEq, and_true]
  grind

/-! ## Drains -/

/-- induction on the passes that are left: each that moves something leaves fewer rounds -/
theorem passes_cases {now n : Nat} (hp : l.load.Prompt) (hn : l.load.rounds < n)
    (h : l.passes now n = .ok (move, l')) :
    (∃ ms, Flow ms l l') ∧
      ((move = .blocked ∧ l'.channel.can.sending ≠ []) ∨ (move = .idle ∧ l'.load = .none)) := by
  induction n generalizing l with
  | zero => omega
  | succ n ih =>
    obtain ⟨⟨m, l₁⟩, h₁, h⟩ := Checked.bind_eq_ok.1 h
    obtain ⟨ms, first⟩ := flow_pass h₁
    cases m with
    | blocked =>
      cases h
      exact ⟨⟨ms, first⟩, .inl ⟨rfl, pass_blocked h₁⟩⟩
    | idle =>
      cases h
      obtain ⟨after, idle⟩ := load_pass h₁ (by simp)
      have empty := idle.1 rfl
      exact ⟨⟨ms, first⟩, .inr ⟨rfl, by rw [after, empty]; rfl⟩⟩
    | moved =>
      obtain ⟨after, idle⟩ := load_pass h₁ (by simp)
      have something : l.load ≠ .none := fun none => nomatch idle.2 none
      have fewer := Load.rounds_next hp something
      obtain ⟨⟨ns, rest⟩, outcome⟩ := ih (by rw [after]; exact Load.prompt_next _) (by rw [after]; omega) h
      exact ⟨⟨_, first.trans rest⟩, outcome⟩

omit [Controller σ] in
/-- the bound on the passes of a look is never met -/
theorem rounds_lt_maxPasses (due : l.reporter.reportDue = true) : l.load.rounds < l.maxPasses := by
  simp only [Load.rounds, load, maxPasses, due, ↓reduceIte]
  exact Nat.lt_succ_self _

theorem drain_cases {now : Nat} {blocked : Bool} (due : l.reporter.reportDue = true)
    (h : l.drain now = .ok (blocked, l')) :
    (∃ ms, Flow ms l l') ∧
      ((blocked = true ∧ l'.channel.can.sending ≠ []) ∨ (blocked = false ∧ l'.load = .none)) := by
  obtain ⟨⟨m, l₁⟩, h₁, h⟩ := Checked.bind_eq_ok.1 h
  cases h
  obtain ⟨flow, outcome⟩ := passes_cases (.inr due) (rounds_lt_maxPasses due) h₁
  refine ⟨flow, ?_⟩
  rcases outcome with ⟨rfl, busy⟩ | ⟨rfl, empty⟩
  · exact .inl ⟨rfl, busy⟩
  · exact .inr ⟨rfl, empty⟩

/-! ## A look -/

/-- a look begins: a report is due -/
def begin (l : Lane σ) : Lane σ :=
  { l with bursts := l.bursts ++ [burstLength], reporter := { l.reporter with reportDue := true } }

/-- the pipe is busy: the task waits a little and looks again -/
def backOff (l : Lane σ) : Lane σ := { l with channel := l.channel.signal, delays := l.delays ++ [backoffDelay] }

/-- a look ends: the pipe is flushed -/
def finish (now : Nat) (blocked : Bool) (l : Lane σ) : Checked (WakeOutcome × Lane σ) := do
  let can ← l.channel.can.flush
  let l := updateLed now { l with channel := { l.channel with can } }
  return if blocked then (.backoff, l.backOff) else (.drained, l)

theorem wakeUp_eq {now : Nat} {l : Lane σ} (mounted : l.channel.mounted = true) (on : l.channel.enabled = true) :
    l.wakeUp now = l.begin.drain now >>= fun r => r.2.finish now r.1 := by
  have attached : ¬ (!l.channel.mounted) = true := by simp [mounted]
  have joined : ¬ (!l.channel.enabled) = true := by simp [on]
  refine (if_neg attached).trans ((if_neg joined).trans (bind_congr ?_))
  rintro ⟨blocked, l₁⟩
  cases blocked <;> rfl

omit [Controller σ] in
theorem channel_updateLed (now : Nat) (l : Lane σ) : (l.updateLed now).channel = l.channel := by
  obtain ⟨led, leds, set⟩ := updateLed_eq now l
  rw [set]

omit [Controller σ] in
theorem flow_begin (l : Lane σ) : Flow [] l l.begin :=
  { Flow.refl l with
    channel := rfl
    shows := fun _ _ due => nomatch due }

omit [Controller σ] in
/-- it flushes the pipe and shows what it remembers; told to wait, it also tells itself to look again -/
theorem finish_cases {now : Nat} {blocked : Bool} {outcome : WakeOutcome}
    (h : l.finish now blocked = .ok (outcome, l')) : ∃ can led leds delays wake,
      l.channel.can.flush = .ok can ∧ outcome = (if blocked then .backoff else .drained) ∧
      wake = (blocked || l.channel.wake) ∧ l' = { l with
        channel := { l.channel with can, wake }
        reporter := { l.reporter with led }
        leds
        delays } := by
  obtain ⟨can, flushed, h⟩ := Checked.bind_eq_ok.1 h
  obtain ⟨led, leds, shown⟩ := updateLed_eq now { l with channel := { l.channel with can } }
  rw [shown] at h
  cases blocked with
  | false =>
    cases h
    exact ⟨can, led, leds, l.delays, l.channel.wake, flushed, rfl, rfl, rfl⟩
  | true =>
    cases h
    exact ⟨can, led, leds, l.delays ++ [backoffDelay], true, flushed, rfl, rfl, rfl⟩

omit [Controller σ] in
theorem flow_finish {now : Nat} {blocked : Bool} {outcome : WakeOutcome}
    (h : l.finish now blocked = .ok (outcome, l')) : Flow [] l l' := by
  obtain ⟨can, led, leds, delays, wake, flushed, -, rfl, rfl⟩ := finish_cases h
  exact { Flow.of_reporter (l := l) (r := { l.reporter with led }) rfl rfl with
    channel := rfl
    wake := fun told => by rw [told, Bool.or_true]
    can := Endpoint.posts_flush flushed }

theorem wakeUp_cases {now : Nat} {outcome : WakeOutcome} (h : l.wakeUp now = .ok (outcome, l')) :
    (outcome = .unmounted ∧ l.channel.mounted = false ∧ l' = l.rest) ∨
    (outcome = .disabled ∧ l.channel.mounted = true ∧ l.channel.enabled = false ∧ l' = l.rest) ∨
    (l.channel.mounted = true ∧ l.channel.enabled = true ∧
      (l'.channel.can.filling = [] ∨ l'.channel.can.sending ≠ []) ∧ ∃ ms, Flow ms l l' ∧
        ((outcome = .backoff ∧ l'.channel.can.sending ≠ [] ∧ l'.channel.wake = true) ∨
          (outcome = .drained ∧ l'.load = .none ∧ latestStatus none ms = some l'.reporter.busStatus))) := by
  cases mounted : l.channel.mounted with
  | false =>
    rw [wakeUp_of_unmounted mounted] at h
    cases h
    exact .inl ⟨rfl, rfl, rfl⟩
  | true =>
    cases enabled : l.channel.enabled with
    | false =>
      rw [wakeUp_of_disabled mounted enabled] at h
      cases h
      exact .inr (.inl ⟨rfl, rfl, rfl, rfl⟩)
    | true =>
      rw [wakeUp_eq mounted enabled] at h
      obtain ⟨⟨blocked, l₁⟩, drained, finished⟩ := Checked.bind_eq_ok.1 h
      obtain ⟨⟨ms, flow⟩, stopped⟩ := drain_cases rfl drained
      have whole := ((flow_begin l).trans flow).trans (flow_finish finished)
      rw [List.nil_append, List.append_nil] at whole
      obtain ⟨can, led, leds, delays, wake, flushed, rfl, rfl, rfl⟩ := finish_cases finished
      refine .inr (.inr ⟨rfl, rfl, Endpoint.settled_flush flushed, ms, whole, ?_⟩)
      rcases stopped with ⟨rfl, busy⟩ | ⟨rfl, empty⟩
      · exact .inl ⟨rfl, Endpoint.sending_flush flushed busy, rfl⟩
      · have reported := flow.shows none (fun due => nomatch due) (congrArg Load.due empty)
        exact .inr ⟨rfl, empty, reported⟩

end Lane

end CanAdapter
