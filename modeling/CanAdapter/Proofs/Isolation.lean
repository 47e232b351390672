/-
A greeting isolates sessions. What a channel did before the host greeted it, and what it was asked and sent, cannot be
told from anything that it does after the reporting task looked once more.

`Lane.Reachable` is what holds of a lane after some history. `Lane.Comparable` is the beginning of a comparison: two
reachable lanes of the same channel, as it were, with any two histories. The greeting takes each of them to the
baseline, the look drops what the rings hold and what the task remembers, and then the lanes are alike
(`Lane.Comparable.greet`). `Lane.greeting_isolates` is the result; what an observer can tell is in `Lane.SameSince`.
-/
import CanAdapter.Bench.Controller
import CanAdapter.Proofs.AlikeLanes
import CanAdapter.Proofs.BankBounds
import CanAdapter.Proofs.BankMoves
import CanAdapter.Proofs.Greeting

namespace CanAdapter

open Checked

/-! ## Reachable lanes -/

namespace Lane

section

variable {σ : Type} [Controller σ] {l l' : Lane σ} {bytes : Bytes}

/-- some history of a fresh lane leads to it -/
def Reachable (l : Lane σ) : Prop := ∃ (l₀ : Lane σ) (es : List (LaneEvent σ)), l₀.Fresh ∧ l₀.plays es = .ok l

theorem Reachable.plays (h : l.Reachable) {es : List (LaneEvent σ)} (played : l.plays es = .ok l') : l'.Reachable := by
  obtain ⟨l₀, before, fresh, history⟩ := h
  refine ⟨l₀, before ++ es, fresh, ?_⟩
  rw [plays_append, history]
  exact played

theorem Reachable.play (h : l.Reachable) {e : LaneEvent σ} (played : l.play e = .ok l') : l'.Reachable := by
  have one : l.plays [e] = .ok l' := Checked.bind_eq_ok.2 ⟨l', played, rfl⟩
  exact h.plays one

/-- the lanes of an adapter that was just built can be reached, whatever happens to it -/
theorem reachable_of_fresh {a₀ a : Adapter σ} (fresh : a₀.Fresh) {es : List (AdapterEvent σ)}
    (history : a₀.plays es = .ok a) {i : Nat} (hl : a.lanes[i]? = some l) : l.Reachable := by
  obtain ⟨l₀, hl₀, played⟩ := Adapter.lane_of_plays history hl
  exact ⟨l₀, _, Adapter.lanes_of_fresh fresh hl₀, played⟩

theorem Reachable.sound (h : l.Reachable) : l.Sound := by
  obtain ⟨l₀, es, fresh, played⟩ := h
  exact sound_plays played (sound_of_fresh fresh)

/-- the default settings of a channel that could be built can be computed -/
theorem Reachable.baseline (h : l.Reachable) : ∃ settings, Settings.baseline l.channel.config = .ok settings := by
  obtain ⟨l₀, es, ⟨index, config, s, c, created, rfl⟩, played⟩ := h
  obtain ⟨settings, baseline, created⟩ := Checked.bind_eq_ok.1 created
  cases created
  rw [(moves_plays played).config]
  exact ⟨settings, baseline⟩

theorem Reachable.reset (h : l.Reachable) : Succeeds (fun _ => True) l.channel.reset := by
  obtain ⟨settings, baseline⟩ := h.baseline
  exact .bind (P := fun _ => True) ⟨settings, baseline, trivial⟩ fun _ _ => .of_ok trivial

/-- answers wait for nothing but an outstanding transfer -/
def Answered (l : Lane σ) : Prop := l.channel.command.filling = [] ∨ l.channel.command.sending ≠ []

theorem command_wakeUp {now : Nat} {outcome : WakeOutcome} (h : l.wakeUp now = .ok (outcome, l')) :
    l'.channel.command = l.channel.command := by
  rcases wakeUp_cases h with ⟨-, -, rfl⟩ | ⟨-, -, -, rfl⟩ | ⟨-, -, -, ms, flow, -⟩
  · rfl
  · rfl
  · exact congrArg (·.command) flow.channel

/-- only transfers of the command pipe, their completions and a USB reset touch the command endpoint -/
theorem answered_play {e : LaneEvent σ} (h : l.play e = .ok l') (hl : l.Sound ∧ l.Answered) :
    l'.Sound ∧ l'.Answered := by
  obtain ⟨sound, answered⟩ := hl
  refine ⟨sound_play h sound, ?_⟩
  have kept {l' : Lane σ} (same : l'.channel.command = l.channel.command) : l'.Answered := by
    unfold Answered
    rw [same]
    exact answered
  cases stepped h with
  | moved => exact kept rfl
  | mount => exact kept rfl
  | detach reset =>
    obtain ⟨settings, -, reset⟩ := Checked.bind_eq_ok.1 reset
    cases reset
    exact kept rfl
  | usbReset => exact .inl rfl
  | commandData commands =>
    obtain ⟨c, -, commands⟩ := Checked.bind_eq_ok.1 commands
    obtain ⟨command, flushed, commands⟩ := Checked.bind_eq_ok.1 commands
    cases commands
    exact Endpoint.settled_flush flushed
  | canData transmissions =>
    obtain ⟨fs, -, sent⟩ := Channel.sent_transmissions transmissions
    exact kept (congrArg (·.command) sent.channel)
  | commandDone complete =>
    rcases Endpoint.complete_cases complete with ⟨empty, rfl⟩ | ⟨-, -, transfer, -, rfl⟩
    · exact .inl empty
    · exact .inl rfl
  | canDone => exact kept rfl
  | poll poll =>
    obtain ⟨a, -, polled⟩ := Channel.poll_cases sound.settled poll
    exact kept (congrArg (·.command) polled.channel)
  | wakeUp look => exact kept (command_wakeUp look)
  | serve told look =>
    have same := command_wakeUp look
    exact kept same
  | wait => exact kept rfl

theorem Reachable.answered (h : l.Reachable) : l.Answered := by
  obtain ⟨l₀, es, fresh, played⟩ := h
  have empty : l₀.Answered := by
    obtain ⟨index, config, s, c, created, rfl⟩ := fresh
    obtain ⟨settings, -, created⟩ := Checked.bind_eq_ok.1 created
    cases created
    exact .inl rfl
  exact (plays_keeps answered_play played ⟨sound_of_fresh fresh, empty⟩).2

/-- a buffer that begins with a greeting is handled in every state -/
theorem greeting_succeeds (h : l.Reachable) (greeting : (messages bytes).head?.any (·.id == MessageId.hello) = true) :
    ∃ m, l.play (.op (.commandData bytes)) = .ok m := by
  obtain ⟨m, first, id⟩ := (Option.any_eq_true _ _).1 greeting
  rw [beq_iff_eq] at id
  have read : throughHello (messages bytes) = [m] := by
    obtain ⟨ms, all⟩ := List.head?_eq_some_iff.1 first
    rw [all, throughHello, if_pos id]
  have greeted : Succeeds (fun _ => True) (l.channel.request m) := by
    rw [Channel.request, if_pos id, Channel.hello_eq]
    exact h.reset.map fun _ _ => trivial
  have handled : Succeeds (fun _ => True) (l.channel.commands bytes) := by
    unfold Channel.commands
    rw [read, List.foldlM_cons]
    refine .bind (P := fun _ => True) (greeted.bind fun _ _ => .of_ok trivial) ?_
    intro c _
    exact (Endpoint.succeeds_flush aligned_commandBank c.command).bind fun _ _ => .of_ok trivial
  obtain ⟨c, handled, -⟩ := handled
  exact ⟨{ l with channel := c }, Checked.bind_eq_ok.2 ⟨c, handled, rfl⟩⟩

theorem atBaseline_of_greeting (greeting : greets bytes = true) (h : l.play (.op (.commandData bytes)) = .ok l') :
    l'.channel.AtBaseline ∧ l'.channel.wake = true := by
  obtain ⟨c, handled, h⟩ := Checked.bind_eq_ok.1 h
  cases h
  exact Channel.atBaseline_commands greeting handled

/-- off the bus, looking is forgetting -/
theorem look_of_disabled (h : l.channel.enabled = false) (now : Nat) :
    l.play (.op (.wakeUp now)) = .ok l.rest := by
  cases mounted : l.channel.mounted with
  | false => exact Checked.map_eq_ok.2 ⟨_, wakeUp_of_unmounted mounted, rfl⟩
  | true => exact Checked.map_eq_ok.2 ⟨_, wakeUp_of_disabled mounted h, rfl⟩

theorem serve_of_disabled (h : l.channel.enabled = false) (told : l.channel.wake = true) (now : Nat) :
    l.play (.op (.serve now)) = .ok (rest { l with channel := { l.channel with wake := false } }) := by
  obtain ⟨⟨outcome, l₁⟩, looked, rested⟩ := Checked.map_eq_ok.1
    (look_of_disabled (l := { l with channel := { l.channel with wake := false } }) h now)
  refine Checked.map_eq_ok.2 ⟨(some outcome, l₁), ?_, rested⟩
  rw [serve, if_pos told]
  exact Checked.bind_eq_ok.2 ⟨_, looked, rfl⟩

end

/-! ## Isolation -/

variable {σ : Type}

/-- what an outside observer can tell of two lanes since `b₁` and `b₂` is the same -/
structure SameSince [Controller σ] (b₁ b₂ l₁ l₂ : Lane (Logged σ)) : Prop where
  canTransfers : Continues b₁.channel.can.started b₂.channel.can.started l₁.channel.can.started l₂.channel.can.started
  commandTransfers : Continues b₁.channel.command.started b₂.channel.command.started l₁.channel.command.started
    l₂.channel.command.started
  calls : Continues b₁.channel.controller.calls b₂.channel.controller.calls l₁.channel.controller.calls
    l₂.channel.controller.calls
  state : l₁.channel.controller.state = l₂.channel.controller.state
  leds : Continues b₁.leds b₂.leds l₁.leds l₂.leds
  bursts : Continues b₁.bursts b₂.bursts l₁.bursts l₂.bursts
  delays : Continues b₁.delays b₂.delays l₁.delays l₂.delays
  mounted : l₁.channel.mounted = l₂.channel.mounted
  enabled : l₁.channel.enabled = l₂.channel.enabled
  desync : l₁.channel.desync = l₂.channel.desync
  credits : l₁.channel.credits = l₂.channel.credits
  /-- what a look would come to now -/
  outcomes : ∀ now, (·.1) <$> l₁.wakeUp now = (·.1) <$> l₂.wakeUp now
  served : ∀ now, (·.1) <$> l₁.serve now = (·.1) <$> l₂.serve now

section

variable [Controller σ] {b₁ b₂ l₁ l₂ m₁ m₂ : Lane (Logged σ)} {p₁ p₂ : List Bytes} {bytes : Bytes}

theorem Alike.sameSince (h : Alike b₁ b₂ l₁ l₂) : SameSince b₁ b₂ l₁ l₂ where
  canTransfers := h.channel.can.started
  commandTransfers := h.channel.command.started
  calls := h.channel.controller.calls
  state := h.channel.controller.state
  leds := h.leds
  bursts := h.bursts
  delays := h.delays
  mounted := h.channel.mounted
  enabled := h.channel.enabled
  desync := h.channel.desync
  credits := h.channel.credits
  outcomes now := (h.wakeUp now).answers
  served now := (h.serve now).answers

omit [Controller σ] in
/-- what the rings held and what the tasks remembered is gone, and nothing else differs -/
theorem alike_rest (base₁ : m₁.channel.AtBaseline) (base₂ : m₂.channel.AtBaseline) (sound₁ : m₁.Sound)
    (sound₂ : m₂.Sound) (hears : Channel.Hears p₁ p₂ m₁.channel m₂.channel)
    (state : m₁.channel.controller.state = m₂.channel.controller.state)
    (wake : m₁.channel.wake = m₂.channel.wake) : Alike m₁.rest m₂.rest m₁.rest m₂.rest := by
  have settings : m₁.channel.settings = m₂.channel.settings := by
    have same := base₁.settings
    rw [hears.config, base₂.settings] at same
    exact (Except.ok.inj same).symm
  refine ⟨?_, rfl, .refl _ _, .refl _ _, .refl _ _⟩
  exact {
    index := hears.index
    config := hears.config
    controller := ⟨state, .refl _ _⟩
    settings
    command := hears.command.rebase
    can := ⟨base₁.filling.trans base₂.filling.symm, base₁.sending.trans base₂.sending.symm, .refl _ _⟩
    rx := Ring.alike_clear (sound₁.settled.rx.trans sound₂.settled.rx.symm)
    lost := base₁.lost.trans base₂.lost.symm
    tx := Ring.alike_clear (sound₁.settled.tx.trans sound₂.settled.tx.symm)
    status := Ring.alike_clear (sound₁.settled.status.trans sound₂.settled.status.symm)
    errors := Ring.alike_clear (sound₁.settled.errors.trans sound₂.settled.errors.symm)
    mounted := hears.mounted
    enabled := base₁.enabled.trans base₂.enabled.symm
    desync := base₁.desync.trans base₂.desync.symm
    credits := base₁.credits.trans base₂.credits.symm
    dropped := base₁.dropped.trans base₂.dropped.symm
    queueFlags := base₁.queueFlags.trans base₂.queueFlags.symm
    published := base₁.published.trans base₂.published.symm
    wake }

/-- two states that a channel with its reporting task can come to, as far as a greeting does not change them -/
structure Comparable (l₁ l₂ : Lane (Logged σ)) : Prop where
  reachable₁ : l₁.Reachable
  reachable₂ : l₂.Reachable
  config : l₁.channel.config = l₂.channel.config
  index : l₁.channel.index = l₂.channel.index
  mounted : l₁.channel.mounted = l₂.channel.mounted
  /-- no command transfer is outstanding -/
  idle₁ : l₁.channel.command.sending = []
  idle₂ : l₂.channel.command.sending = []

theorem Comparable.hears (h : Comparable l₁ l₂) :
    Channel.Hears l₁.channel.command.started l₂.channel.command.started l₁.channel l₂.channel where
  index := h.index
  config := h.config
  mounted := h.mounted
  command := by
    have empty₁ := h.reachable₁.answered.resolve_right fun busy => busy h.idle₁
    have empty₂ := h.reachable₂.answered.resolve_right fun busy => busy h.idle₂
    exact ⟨empty₁.trans empty₂.symm, h.idle₁.trans h.idle₂.symm, .refl _ _⟩

theorem Comparable.hears_commandData (h : Comparable l₁ l₂) (first : l₁.play (.op (.commandData bytes)) = .ok m₁)
    (second : l₂.play (.op (.commandData bytes)) = .ok m₂) :
    Channel.Hears l₁.channel.command.started l₂.channel.command.started m₁.channel m₂.channel := by
  obtain ⟨c₁, handled₁, first⟩ := Checked.bind_eq_ok.1 first
  obtain ⟨c₂, handled₂, second⟩ := Checked.bind_eq_ok.1 second
  cases first
  cases second
  exact h.hears.commands bytes c₁ c₂ handled₁ handled₂

/-- after a greeting one look makes the lanes alike -/
theorem Comparable.greet (h : Comparable l₁ l₂) (greeting : greets bytes = true)
    (first : l₁.play (.op (.commandData bytes)) = .ok m₁) (second : l₂.play (.op (.commandData bytes)) = .ok m₂)
    (state : m₁.channel.controller.state = m₂.channel.controller.state) {look : Nat → LaneOp}
    (looks : look = .wakeUp ∨ look = .serve) (t₁ t₂ : Nat) :
    ∃ n₁ n₂, m₁.play (.op (look t₁)) = .ok n₁ ∧ m₂.play (.op (look t₂)) = .ok n₂ ∧ Alike n₁ n₂ n₁ n₂ := by
  have sound₁ := (h.reachable₁.play first).sound
  have sound₂ := (h.reachable₂.play second).sound
  obtain ⟨base₁, told₁⟩ := atBaseline_of_greeting greeting first
  obtain ⟨base₂, told₂⟩ := atBaseline_of_greeting greeting second
  have hears := h.hears_commandData first second
  rcases looks with rfl | rfl
  · refine ⟨m₁.rest, m₂.rest, look_of_disabled base₁.enabled t₁, look_of_disabled base₂.enabled t₂, ?_⟩
    exact alike_rest base₁ base₂ sound₁ sound₂ hears state (told₁.trans told₂.symm)
  · refine ⟨_, _, serve_of_disabled base₁.enabled told₁ t₁, serve_of_disabled base₂.enabled told₂ t₂, ?_⟩
    exact alike_rest { base₁ with } { base₂ with } sound₁.unsignalled sound₂.unsignalled { hears with } state rfl

/-- **A greeting isolates sessions.** A buffer that begins with a greeting is handled in every reachable state. Take two
states that a channel with its reporting task can come to, whatever the two histories were, with the same description,
index and mounting, and with no command transfer outstanding. Both handle a buffer with a greeting in it, after which
their controllers are in the same state, and then the tasks look once, at any two times. From then on the two cannot be
told apart: whatever happens to both of them, they stop with the same fault, or neither stops and they started the same
transfers on both pipes, called their controllers in the same way, showed the same lights, waited alike, would come to
the same outcome of a look, and are mounted, on the bus, behind and in credit alike. -/
theorem greeting_isolates (bytes : Bytes) :
    (∀ l : Lane (Logged σ), l.Reachable → (messages bytes).head?.any (·.id == MessageId.hello) = true →
      ∃ m, l.play (.op (.commandData bytes)) = .ok m) ∧
    ∀ l₁ l₂ m₁ m₂ : Lane (Logged σ), Comparable l₁ l₂ → greets bytes = true →
      l₁.play (.op (.commandData bytes)) = .ok m₁ → l₂.play (.op (.commandData bytes)) = .ok m₂ →
      m₁.channel.controller.state = m₂.channel.controller.state →
      ∀ look : Nat → LaneOp, look = .wakeUp ∨ look = .serve → ∀ t₁ t₂ : Nat,
        ∃ n₁ n₂, m₁.play (.op (look t₁)) = .ok n₁ ∧ m₂.play (.op (look t₂)) = .ok n₂ ∧
          ∀ es : List (LaneEvent σ),
            Agree (SameSince n₁ n₂) (n₁.plays (es.map .logged)) (n₂.plays (es.map .logged)) := by
  constructor
  · exact fun l reachable first => greeting_succeeds reachable first
  · intro l₁ l₂ m₁ m₂ h greeting first second state look looks t₁ t₂
    obtain ⟨n₁, n₂, looked₁, looked₂, alike⟩ := h.greet greeting first second state looks t₁ t₂
    refine ⟨n₁, n₂, looked₁, looked₂, ?_⟩
    intro es
    exact (alike.plays es).mono fun _ _ same => same.sameSince

end

/-- forty frames with eight bytes each -/
def eightBytes : List Frame := List.replicate 40 { Frame.empty with dlc := 8 }

/-- Twice forty frames arrived, and each time eight of them were lost. A full transfer is with the host, the ring is
full again, and a request was refused. -/
def longSession : List (LaneEvent (Logged SimController)) :=
  [.op .mount, .op (.commandData [8, 4, 1, 0]), .op .commandDone,
    .moved fun r => { r with state := { r.state with rx := eightBytes } }, .op .poll, .op (.wakeUp 5),
    .moved fun r => { r with state := { r.state with rx := eightBytes } }, .op .poll,
    .op (.canData [0x12, 12, 0, 0, 5, 0, 0, 0, 7, 0, 0, 0])]

/-- a channel that was just built and mounted, the same after a long session, and both after a greeting -/
def beforeAndAfter : Checked (Lane (Logged SimController) × Lane (Logged SimController) ×
    Lane (Logged SimController) × Lane (Logged SimController)) := do
  let c ← Channel.create 0 .default ⟨{ refuses := true }, []⟩
  let l₁ ← (ofChannel { c with split := true }).plays [.op .mount]
  let l₂ ← (ofChannel { c with split := true }).plays longSession
  let m₁ ← l₁.play (.op (.commandData [1, 2]))
  let m₂ ← l₂.play (.op (.commandData [1, 2]))
  return (l₁, l₂, m₁, m₂)

theorem of_beforeAndAfter {l₁ l₂ m₁ m₂ : Lane (Logged SimController)} (h : beforeAndAfter = .ok (l₁, l₂, m₁, m₂)) :
    l₁.Reachable ∧ l₂.Reachable ∧ l₁.play (.op (.commandData [1, 2])) = .ok m₁ ∧
      l₂.play (.op (.commandData [1, 2])) = .ok m₂ := by
  obtain ⟨c, created, h⟩ := Checked.bind_eq_ok.1 h
  obtain ⟨k₁, played₁, h⟩ := Checked.bind_eq_ok.1 h
  obtain ⟨k₂, played₂, h⟩ := Checked.bind_eq_ok.1 h
  obtain ⟨g₁, greeted₁, h⟩ := Checked.bind_eq_ok.1 h
  obtain ⟨g₂, greeted₂, h⟩ := Checked.bind_eq_ok.1 h
  cases h
  have fresh : Fresh (ofChannel { c with split := true }) := ⟨0, .default, _, c, created, rfl⟩
  exact ⟨⟨_, _, fresh, played₁⟩, ⟨_, _, fresh, played₂⟩, greeted₁, greeted₂⟩

/-- what the second channel still held at the greeting does not matter any more -/
theorem longSession_isolated : ∃ l₁ l₂ m₁ m₂ n₁ n₂ : Lane (Logged SimController), l₁.Reachable ∧ l₂.Reachable ∧
    l₁.channel.can.started = [] ∧ l₂.channel.can.sending.length = 496 ∧ l₂.channel.rx.used = 32 ∧
    l₂.channel.rx.lost = 8 ∧ l₂.channel.dropped = 1 ∧
    l₁.play (.op (.commandData [1, 2])) = .ok m₁ ∧ l₂.play (.op (.commandData [1, 2])) = .ok m₂ ∧
    m₁.play (.op (.wakeUp 0)) = .ok n₁ ∧ m₂.play (.op (.wakeUp 9)) = .ok n₂ ∧
    ∀ es : List (LaneEvent SimController),
      Agree (SameSince n₁ n₂) (n₁.plays (es.map .logged)) (n₂.plays (es.map .logged)) := by
  have ran : Checked.passes (fun (l₁, l₂, m₁, m₂) => decide (
      l₁.channel.config = l₂.channel.config ∧ l₁.channel.index = l₂.channel.index ∧
        l₁.channel.mounted = l₂.channel.mounted ∧ l₁.channel.command.sending = [] ∧
        l₂.channel.command.sending = [] ∧ m₁.channel.controller.state = m₂.channel.controller.state ∧
      l₁.channel.can.started = [] ∧ l₂.channel.can.sending.length = 496 ∧ l₂.channel.rx.used = 32 ∧
        l₂.channel.rx.lost = 8 ∧ l₂.channel.dropped = 1)) beforeAndAfter = true := by
    decide +kernel
  obtain ⟨⟨l₁, l₂, m₁, m₂⟩, run, holds⟩ := Checked.of_passes ran
  obtain ⟨config, index, mounted, idle₁, idle₂, state, none, sending, used, lost, dropped⟩ := of_decide_eq_true holds
  obtain ⟨reachable₁, reachable₂, greeted₁, greeted₂⟩ := of_beforeAndAfter run
  obtain ⟨n₁, n₂, looked₁, looked₂, same⟩ := (greeting_isolates [1, 2]).2 l₁ l₂ m₁ m₂
    ⟨reachable₁, reachable₂, config, index, mounted, idle₁, idle₂⟩ (by decide) greeted₁ greeted₂ state .wakeUp
    (.inl rfl) 0 9
  exact ⟨l₁, l₂, m₁, m₂, n₁, n₂, reachable₁, reachable₂, none, sending, used, lost, dropped, greeted₁, greeted₂,
    looked₁, looked₂, same⟩

end Lane

end CanAdapter
