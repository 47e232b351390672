/-
What the stack behind a CAN pipe still owns. A transfer is read straight from the bank that was handed over, so until
the stack reports it done that bank must not change, and no other transfer may be started.

`Watched` runs a lane and keeps, beside it, the transfers that were started and not reported done. `Orderly` says that
there is one at most, that the endpoint knows, and that its bank is as it was handed over; `orderly_iff` that this is
the endpoint's own account of what is in flight. Every operation of the lane agrees with that account
(`inFlight_uses`), but for a greeting: it resets the endpoint, which forgets a transfer that is still outstanding.

`Adapter.one_transfer_outstanding_iff`: a lane is orderly all along exactly when no greeting meets an outstanding
transfer. `greetedInFlight_overwrites`: when one does, a second transfer is started from the same bank.
-/
import CanAdapter.Bench.Controller
import CanAdapter.Proofs.Sound

namespace CanAdapter

/-! ## Banks -/

@[simp] theorem Bank.other_other (b : Bank) : b.other.other = b := by cases b <;> rfl

theorem Bank.other_ne (b : Bank) : b.other ≠ b := by cases b <;> decide

theorem Bank.eq_other_of_ne {b c : Bank} (h : b ≠ c) : b = c.other := by
  cases b <;> cases c <;> first | rfl | exact absurd rfl h

namespace Endpoint

variable {size : Nat} {e e' : Endpoint size}

/-- what a bank holds -/
def bank (b : Bank) (e : Endpoint size) : Bytes := if b = e.collecting then e.filling else e.sending

/-- the transfer that is with the host by the endpoint's own account, and the bank that it is read from -/
def inFlight (e : Endpoint size) : List (Bank × Bytes) :=
  if e.sending = [] then [] else [(e.collecting.other, e.sending)]

/-- the transfers started from `e` to `e'`, and the bank that collected for them -/
def startedSince (e e' : Endpoint size) : List (Bank × Bytes) :=
  (e'.started.drop e.started.length).map (e.collecting, ·)

theorem tail_inFlight (e : Endpoint size) : e.inFlight.tail = [] := by
  unfold inFlight
  split <;> rfl

theorem startedSince_of_started (h : e'.started = e.started) : e.startedSince e' = [] := by
  rw [startedSince, h, List.drop_length, List.map_nil]

/-- the account of an endpoint is right about its own transfers -/
theorem inFlight_uses (h : e.Uses e') : e'.inFlight = e.inFlight ++ e.startedSince e' := by
  cases h with
  | fills sending started collecting =>
    rw [startedSince_of_started started, List.append_nil, inFlight, inFlight, sending, collecting]
  | starts idle busy started collecting =>
    have new : e.startedSince e' = [(e.collecting, e'.sending)] := by
      rw [startedSince, started, List.drop_left, List.map_singleton]
    rw [new, inFlight, inFlight, if_pos idle, if_neg busy, collecting, Bank.other_other, List.nil_append]

theorem inFlight_complete (h : e.complete = .ok e') : e'.inFlight = e.startedSince e' :=
  inFlight_uses (uses_complete h)

end Endpoint

/-! ## What an event does to the CAN endpoint -/

/-- a command buffer with a greeting in it -/
def greets (bytes : Bytes) : Bool := (messages bytes).any (·.id == MessageId.hello)

namespace Channel

variable {σ : Type} [Controller σ] {c c' : Channel σ} {m : RawMessage} {bytes : Bytes}

theorem can_reset (h : c.reset = .ok c') : c'.can = c.can.reset := by
  obtain ⟨settings, -, h⟩ := Checked.bind_eq_ok.1 h
  cases h
  rfl

theorem can_setBus (on : Bool) (c : Channel σ) : (c.setBus on).can = c.can := by
  unfold setBus
  split
  · rfl
  · split <;> rfl

theorem can_request (h : c.request m = .ok c') :
    c'.can = if m.id = MessageId.hello then c.can.reset else c.can := by
  obtain ⟨c₁, command, did, rfl⟩ := request_cases h
  have other {k : UInt8} (id : m.id = k) (ne : k ≠ MessageId.hello) : m.id ≠ MessageId.hello := id ▸ ne
  cases did with
  | answered hello => exact (if_neg hello).symm
  | timed id =>
    rcases id with id | id
    · exact (if_neg (other id (by decide))).symm
    · exact (if_neg (other id (by decide))).symm
  | features id => exact (if_neg (other id (by decide))).symm
  | bus id => exact (can_setBus _ c).trans (if_neg (other id (by decide))).symm
  | greeted id reset => exact (can_reset reset).trans (if_pos id).symm

/-- a buffer is read up to its first greeting, and that one resets the endpoint -/
theorem can_throughHello {ms : List RawMessage} (h : (throughHello ms).foldlM (fun c m => c.request m) c = .ok c') :
    c'.can = if ms.any (·.id == MessageId.hello) then c.can.reset else c.can := by
  induction ms generalizing c with
  | nil =>
    cases h
    rfl
  | cons m ms ih =>
    unfold throughHello at h
    split at h
    · rename_i hello
      rw [List.foldlM_cons] at h
      obtain ⟨c₁, first, h⟩ := Checked.bind_eq_ok.1 h
      cases h
      rw [can_request first, if_pos hello]
      simp [hello]
    · rename_i hello
      rw [List.foldlM_cons] at h
      obtain ⟨c₁, first, h⟩ := Checked.bind_eq_ok.1 h
      have same : c₁.can = c.can := (can_request first).trans (if_neg hello)
      rw [ih h, same]
      simp [hello]

theorem can_commands (h : c.commands bytes = .ok c') : c'.can = if greets bytes then c.can.reset else c.can := by
  obtain ⟨c₁, handled, h⟩ := Checked.bind_eq_ok.1 h
  obtain ⟨command, -, h⟩ := Checked.bind_eq_ok.1 h
  cases h
  have can := can_throughHello handled
  exact can

end Channel

/-- the CAN endpoint forgets all it had -/
def LaneEvent.resets {σ : Type} : LaneEvent σ → Bool
  | .op .detach | .op .usbReset => true
  | .op (.commandData bytes) => greets bytes
  | _ => false

/-- the stack reports a transfer of the CAN pipe done -/
def LaneEvent.completes {σ : Type} : LaneEvent σ → Bool
  | .op .canDone => true
  | _ => false

namespace Lane

variable {σ : Type} [Controller σ] {l l' : Lane σ} {e : LaneEvent σ}

theorem uses_wakeUp {now : Nat} {outcome : WakeOutcome} (h : l.wakeUp now = .ok (outcome, l')) :
    l.channel.can.Uses l'.channel.can := by
  rcases wakeUp_cases h with ⟨-, -, rfl⟩ | ⟨-, -, -, rfl⟩ | ⟨-, -, -, ms, flow, -⟩
  · exact .refl _
  · exact .refl _
  · exact flow.can.uses

theorem can_play (sound : l.Sound) (h : l.play e = .ok l') :
    (e.resets = true ∧ l'.channel.can = l.channel.can.reset) ∨
    (e.completes = true ∧ l.channel.can.complete = .ok l'.channel.can) ∨
    (e.resets = false ∧ e.completes = false ∧ l.channel.can.Uses l'.channel.can) := by
  cases stepped h with
  | moved => exact .inr (.inr ⟨rfl, rfl, .refl _⟩)
  | mount => exact .inr (.inr ⟨rfl, rfl, .refl _⟩)
  | detach reset =>
    have can := Channel.can_reset reset
    exact .inl ⟨rfl, can⟩
  | usbReset => exact .inl ⟨rfl, rfl⟩
  | @commandData _ c bytes commands =>
    have can := Channel.can_commands commands
    by_cases greeting : greets bytes = true
    · rw [if_pos greeting] at can
      exact .inl ⟨greeting, can⟩
    · rw [if_neg greeting] at can
      refine .inr (.inr ⟨Bool.eq_false_iff.2 greeting, rfl, ?_⟩)
      rw [can]
      exact .refl _
  | canData transmissions =>
    obtain ⟨fs, -, sent⟩ := Channel.sent_transmissions transmissions
    exact .inr (.inr ⟨rfl, rfl, sent.can.uses⟩)
  | commandDone => exact .inr (.inr ⟨rfl, rfl, .refl _⟩)
  | canDone complete => exact .inr (.inl ⟨rfl, complete⟩)
  | poll poll =>
    obtain ⟨a, -, polled⟩ := Channel.poll_cases sound.settled poll
    have same : _ = l.channel.can := congrArg (·.can) polled.channel
    refine .inr (.inr ⟨rfl, rfl, ?_⟩)
    rw [same]
    exact .refl _
  | wakeUp look => exact .inr (.inr ⟨rfl, rfl, uses_wakeUp look⟩)
  | serve told look =>
    have uses := uses_wakeUp look
    exact .inr (.inr ⟨rfl, rfl, uses⟩)
  | wait => exact .inr (.inr ⟨rfl, rfl, .refl _⟩)

end Lane

/-! ## The stack's account -/

/-- a lane, and the transfers of its CAN pipe that were not reported done, oldest first, each with the bank that it is
read from -/
structure Watched (σ : Type) where
  lane : Lane σ
  owned : List (Bank × Bytes)

namespace Watched

variable {σ : Type} {w w' w₁ : Watched σ} {e : LaneEvent σ} {es : List (LaneEvent σ)}

/-- from now on -/
def ofLane (l : Lane σ) : Watched σ := ⟨l, []⟩

def can (w : Watched σ) : Endpoint canBank := w.lane.channel.can

/-- One transfer at most is outstanding; the endpoint knows whether one is; it is still as it was handed over, in the
bank that does not collect. -/
structure Orderly (w : Watched σ) : Prop where
  single : w.owned.length ≤ 1
  known : w.can.ready = w.owned.isEmpty
  frozen : ∀ t ∈ w.owned, w.can.bank t.1 = t.2
  apart : ∀ t ∈ w.owned, t.1 ≠ w.can.collecting

theorem orderly_iff : w.Orderly ↔ w.owned = w.can.inFlight := by
  constructor
  · rintro ⟨single, known, frozen, apart⟩
    match owned : w.owned with
    | [] =>
      have idle : w.can.sending = [] := by simpa [Endpoint.ready, owned] using known
      rw [Endpoint.inFlight, if_pos idle]
    | [t] =>
      have busy : w.can.sending ≠ [] := by simpa [Endpoint.ready, owned] using known
      have mem : t ∈ w.owned := by simp [owned]
      have bank := frozen t mem
      rw [Endpoint.bank, if_neg (apart t mem)] at bank
      rw [Endpoint.inFlight, if_neg busy, ← Bank.eq_other_of_ne (apart t mem), bank]
    | t :: u :: ts => simp [owned] at single
  · intro owned
    by_cases idle : w.can.sending = []
    · rw [Endpoint.inFlight, if_pos idle] at owned
      exact ⟨by simp [owned], by simp [owned, Endpoint.ready, idle], by simp [owned], by simp [owned]⟩
    · rw [Endpoint.inFlight, if_neg idle] at owned
      exact ⟨by simp [owned], by simp [owned, Endpoint.ready, idle],
        by simp [owned, Endpoint.bank, Bank.other_ne], by simp [owned, Bank.other_ne]⟩

/-- the stack reports done only what was started, and the device stays attached -/
def allows (e : LaneEvent σ) (w : Watched σ) : Bool :=
  match e with
  | .op .canDone => !w.owned.isEmpty
  | .op .detach | .op .usbReset => false
  | _ => true

/-- a greeting does not meet an outstanding transfer -/
def heeds (e : LaneEvent σ) (w : Watched σ) : Bool :=
  match e with
  | .op (.commandData bytes) => !greets bytes || w.owned.isEmpty
  | _ => true

/-- the only reset that is allowed, and meets no transfer, is one that does no harm -/
theorem idle_of_resets (resets : e.resets = true) (allowed : allows e w = true) (heeded : heeds e w = true) :
    w.owned = [] := by
  match e with
  | .op (.commandData bytes) =>
    have greeting : greets bytes = true := resets
    simpa [heeds, greeting] using heeded
  | .op .detach => cases allowed
  | .op .usbReset => cases allowed

theorem orderly_of_fresh {l : Lane σ} (h : l.Fresh) : (ofLane l).Orderly := by
  obtain ⟨index, config, s, c, hc, rfl⟩ := h
  obtain ⟨settings, -, hc⟩ := Checked.bind_eq_ok.1 hc
  cases hc
  exact orderly_iff.2 rfl

variable [Controller σ]

/-- an event, and what the stack owns after it -/
def play (e : LaneEvent σ) (w : Watched σ) : Checked (Watched σ) := do
  let lane ← w.lane.play e
  let kept := if e.completes then w.owned.tail else w.owned
  return ⟨lane, kept ++ w.can.startedSince lane.channel.can⟩

/-- events in order -/
def plays (es : List (LaneEvent σ)) (w : Watched σ) : Checked (Watched σ) := es.foldlM (fun w e => w.play e) w

/-- `p` holds of each event of a history and what was before it -/
def always (p : LaneEvent σ → Watched σ → Bool) : List (LaneEvent σ) → Watched σ → Bool
  | [], _ => true
  | e :: es, w =>
    p e w &&
      match w.play e with
      | .ok w => always p es w
      | .error _ => true

theorem always_cons {p : LaneEvent σ → Watched σ → Bool} (h : w.play e = .ok w₁) :
    always p (e :: es) w = true ↔ p e w = true ∧ always p es w₁ = true := by
  simp [always, h]

theorem lane_play (h : w.play e = .ok w') : w.lane.play e = .ok w'.lane ∧
    w'.owned = (if e.completes then w.owned.tail else w.owned) ++ w.can.startedSince w'.can := by
  obtain ⟨lane, played, h⟩ := Checked.bind_eq_ok.1 h
  cases h
  exact ⟨played, rfl⟩

theorem plays_cons (h : w.play e = .ok w₁) (es : List (LaneEvent σ)) : w.plays (e :: es) = w₁.plays es := by
  unfold plays
  rw [List.foldlM_cons, h]
  rfl

/-- beside every run of the lane there is one of the stack's account -/
theorem plays_of_lane {l l' : Lane σ} (owned : List (Bank × Bytes)) (h : l.plays es = .ok l') :
    ∃ w', plays es ⟨l, owned⟩ = .ok w' ∧ w'.lane = l' := by
  induction es generalizing l owned with
  | nil =>
    cases h
    exact ⟨⟨_, owned⟩, rfl, rfl⟩
  | cons e es ih =>
    unfold Lane.plays at h
    rw [List.foldlM_cons] at h
    obtain ⟨l₁, first, h⟩ := Checked.bind_eq_ok.1 h
    obtain ⟨w', rest, lane⟩ := ih _ h
    have watched : play e ⟨l, owned⟩ = .ok _ := Checked.bind_eq_ok.2 ⟨l₁, first, rfl⟩
    exact ⟨w', (plays_cons watched es).trans rest, lane⟩

theorem owned_of_resets (resets : e.resets = true) (h : w.play e = .ok w') (can : w'.can = w.can.reset) :
    w'.owned = w.owned := by
  have none : e.completes = false := by
    match e with
    | .op (.commandData bytes) => rfl
    | .op .detach => rfl
    | .op .usbReset => rfl
  have started : w'.can.started = w.can.started := by rw [can]; rfl
  rw [(lane_play h).2, none, Endpoint.startedSince_of_started started, List.append_nil]
  rfl

/-- One event. What the stack owns is the endpoint's own account of it before and after. -/
theorem orderly_play (sound : w.lane.Sound) (h : w.play e = .ok w') (allowed : allows e w = true)
    (heeded : heeds e w = true) (orderly : w.Orderly) : w'.Orderly := by
  rw [orderly_iff] at orderly ⊢
  obtain ⟨played, owned⟩ := lane_play h
  rcases Lane.can_play sound played with ⟨resets, can⟩ | ⟨completes, complete⟩ | ⟨-, still, uses⟩
  · have can : w'.can = w.can.reset := can
    rw [owned_of_resets resets h can, idle_of_resets resets allowed heeded, can]
    rfl
  · rw [owned, if_pos completes, orderly, Endpoint.tail_inFlight, List.nil_append]
    exact (Endpoint.inFlight_complete complete).symm
  · rw [owned, still, if_neg Bool.false_ne_true, orderly]
    exact (Endpoint.inFlight_uses uses).symm

/-- after a greeting that meets an outstanding transfer the endpoint takes itself for idle -/
theorem not_orderly_of_greeting (sound : w.lane.Sound) (h : w.play e = .ok w') (careless : heeds e w = false) :
    ¬ w'.Orderly := by
  match e with
  | .op (.commandData bytes) =>
    simp only [heeds, Bool.or_eq_false_iff, Bool.not_eq_false', List.isEmpty_eq_false_iff] at careless
    obtain ⟨greeting, outstanding⟩ := careless
    have can : w'.can = w.can.reset := by
      rcases Lane.can_play sound (lane_play h).1 with ⟨-, can⟩ | ⟨completes, -⟩ | ⟨keeps, -⟩
      · exact can
      · cases completes
      · exact absurd greeting (Bool.eq_false_iff.1 keeps)
    have owned := owned_of_resets (e := .op (.commandData bytes)) greeting h can
    intro orderly
    have known := orderly.known
    rw [can, owned, List.isEmpty_eq_false_iff.2 outstanding] at known
    cases known

/-- induction on the history: what one event keeps, or breaks, decides what holds all along -/
theorem plays_orderly_iff (sound : w.lane.Sound) (orderly : w.Orderly) (h : w.plays es = .ok w')
    (fair : always allows es w = true) :
    (∀ n w₁, w.plays (es.take n) = .ok w₁ → w₁.Orderly) ↔ always heeds es w = true := by
  induction es generalizing w with
  | nil =>
    refine iff_of_true ?_ rfl
    intro n w₁ played
    rw [List.take_nil] at played
    cases played
    exact orderly
  | cons e es ih =>
    unfold plays at h
    rw [List.foldlM_cons] at h
    obtain ⟨w₁, first, h⟩ := Checked.bind_eq_ok.1 h
    obtain ⟨allowed, fair⟩ := (always_cons first).1 fair
    have sound₁ : w₁.lane.Sound := Lane.sound_play (lane_play first).1 sound
    have plays_succ (n : Nat) : w.plays ((e :: es).take (n + 1)) = w₁.plays (es.take n) := plays_cons first _
    rw [always_cons first]
    constructor
    · intro all
      have orderly₁ : w₁.Orderly := all 1 w₁ (plays_succ 0)
      constructor
      · cases heeded : heeds e w with
        | true => rfl
        | false => exact absurd orderly₁ (not_orderly_of_greeting sound first heeded)
      · apply (ih sound₁ orderly₁ h fair).1
        intro n w₂ played
        exact all (n + 1) w₂ ((plays_succ n).trans played)
    · rintro ⟨heeded, later⟩ n w₂ played
      have orderly₁ : w₁.Orderly := orderly_play sound first allowed heeded orderly
      cases n with
      | zero =>
        cases played
        exact orderly
      | succ n => exact (ih sound₁ orderly₁ h fair).2 later n w₂ ((plays_succ n).symm.trans played)

end Watched

/-! ## All histories -/

/-- **One transfer at a time.** Take any history of an adapter that was just built in which a channel stays attached and
the stack reports done only what was started. At every point of it one transfer of the CAN pipe at most is outstanding,
known to the endpoint and untouched in its bank, exactly if no greeting came while one was outstanding. -/
theorem Adapter.one_transfer_outstanding_iff {σ : Type} [Controller σ] {a a' : Adapter σ} {l : Lane σ} {i : Nat}
    {es : List (AdapterEvent σ)} (fresh : a.Fresh) (h : a.plays es = .ok a') (hl : a.lanes[i]? = some l)
    (fair : Watched.always Watched.allows (es.flatMap (·.at i)) (.ofLane l) = true) :
    ∃ w, Watched.plays (es.flatMap (·.at i)) (.ofLane l) = .ok w ∧ a'.lanes[i]? = some w.lane ∧
      ((∀ n w₁, Watched.plays ((es.flatMap (·.at i)).take n) (.ofLane l) = .ok w₁ → w₁.Orderly) ↔
        Watched.always Watched.heeds (es.flatMap (·.at i)) (.ofLane l) = true) := by
  rcases Adapter.plays_lane i h with ⟨none, -⟩ | ⟨l₀, l', hl₀, played, hl'⟩
  · rw [hl] at none
    cases none
  · cases hl.symm.trans hl₀
    have lane := Adapter.lanes_of_fresh fresh hl
    obtain ⟨w, watched, rfl⟩ := Watched.plays_of_lane [] played
    refine ⟨w, watched, hl', ?_⟩
    exact Watched.plays_orderly_iff (Lane.sound_of_fresh lane) (Watched.orderly_of_fresh lane) watched fair

/-- a report is on its way to the host; after `between` the host greets the channel and has it join the bus again, and
the next report goes out -/
def greeted (between : List (AdapterEvent SimController)) : List (AdapterEvent SimController) :=
  [.op .mount, .op (.out 1 [8, 4, 1, 0]), .op (.wakeUp 0 0), .moved 0 fun s => { s with tsc := 5 }] ++ between ++
  [.op (.out 1 [1, 2]), .op (.out 1 [8, 4, 1, 0]), .op (.wakeUp 0 0)]

/-- whether the stack reports done only what was started in the history, and `p` holds of the lane and of its account
after it -/
def afterGreeting (between : List (AdapterEvent SimController))
    (p : Lane SimController → Watched SimController → Bool) : Bool :=
  Checked.passes (fun r : Adapter SimController × Adapter SimController => r.1.lanes[0]?.any fun l =>
    Watched.always Watched.allows ((greeted between).flatMap (·.at 0)) (.ofLane l) &&
      Checked.passes (p l) (Watched.plays ((greeted between).flatMap (·.at 0)) (.ofLane l)))
    (Adapter.single .default {} >>= fun a => a.plays (greeted between) >>= fun a' => pure (a, a'))

theorem of_afterGreeting {between : List (AdapterEvent SimController)}
    {p : Lane SimController → Watched SimController → Bool} (h : afterGreeting between p = true) :
    ∃ (a a' : Adapter SimController) (l : Lane SimController) (w : Watched SimController), a.Fresh ∧
      a.plays (greeted between) = .ok a' ∧ a.lanes[0]? = some l ∧
      Watched.always Watched.allows ((greeted between).flatMap (·.at 0)) (.ofLane l) = true ∧
      Watched.plays ((greeted between).flatMap (·.at 0)) (.ofLane l) = .ok w ∧ p l w = true := by
  obtain ⟨a, a', built, played, found⟩ := Checked.of_passes_pair h
  obtain ⟨l, hl, found⟩ := (Option.any_eq_true ..).1 found
  rw [Bool.and_eq_true] at found
  obtain ⟨w, watched, holds⟩ := Checked.of_passes found.2
  exact ⟨a, a', l, w, Adapter.fresh_single built, played, hl, found.1, watched, holds⟩

/-- if the first report is done before the greeting, all is well; the second report is outstanding -/
theorem greetedIdle_orderly : ∃ (a a' : Adapter SimController) (l : Lane SimController) (w : Watched SimController),
    a.Fresh ∧ a.plays (greeted [.op (.inComplete 0x82)]) = .ok a' ∧ a.lanes[0]? = some l ∧
      Watched.always Watched.allows ((greeted [.op (.inComplete 0x82)]).flatMap (·.at 0)) (.ofLane l) = true ∧
      Watched.plays ((greeted [.op (.inComplete 0x82)]).flatMap (·.at 0)) (.ofLane l) = .ok w ∧
      w.owned ≠ [] ∧ w.Orderly := by
  have ran : afterGreeting [.op (.inComplete 0x82)] (fun l w => !w.owned.isEmpty &&
      Watched.always Watched.heeds ((greeted [.op (.inComplete 0x82)]).flatMap (·.at 0)) (.ofLane l)) = true := by
    decide +kernel
  obtain ⟨a, a', l, w, fresh, played, hl, fair, watched, holds⟩ := of_afterGreeting ran
  rw [Bool.and_eq_true, Bool.not_eq_true', List.isEmpty_eq_false_iff] at holds
  obtain ⟨outstanding, heeded⟩ := holds
  obtain ⟨-, -, -, all⟩ := Adapter.one_transfer_outstanding_iff fresh played hl fair
  have orderly : w.Orderly := by
    apply all.2 heeded _ w
    rw [List.take_length]
    exact watched
  exact ⟨a, a', l, w, fresh, played, hl, fair, watched, outstanding, orderly⟩

/-- Else the second report is started while the first is outstanding, and from the same bank: the first is overwritten
before the host has it. -/
theorem greetedInFlight_overwrites : ∃ (a a' : Adapter SimController) (l : Lane SimController)
    (w : Watched SimController), a.Fresh ∧ a.plays (greeted []) = .ok a' ∧ a.lanes[0]? = some l ∧
      Watched.always Watched.allows ((greeted []).flatMap (·.at 0)) (.ofLane l) = true ∧
      Watched.plays ((greeted []).flatMap (·.at 0)) (.ofLane l) = .ok w ∧ w.owned.length = 2 ∧
      ∃ t ∈ w.owned, ∃ bytes ∈ t.2.zip (w.can.bank t.1), bytes.1 ≠ bytes.2 := by
  have ran : afterGreeting [] (fun _ w => decide (w.owned.length = 2 ∧
      ∃ t ∈ w.owned, ∃ bytes ∈ t.2.zip (w.can.bank t.1), bytes.1 ≠ bytes.2)) = true := by
    decide +kernel
  obtain ⟨a, a', l, w, fresh, played, hl, fair, watched, holds⟩ := of_afterGreeting ran
  exact ⟨a, a', l, w, fresh, played, hl, fair, watched, of_decide_eq_true holds⟩

end CanAdapter
