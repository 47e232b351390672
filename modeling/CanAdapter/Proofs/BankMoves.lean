/-
What may happen to the two IN endpoints of a channel. However long an operation is, it does five things to an endpoint
and no others: a whole message is written where there is room for it, the collecting bank is handed over, an outstanding
transfer is done, what has collected is forgotten, or both banks are.

`Endpoint.Move` is one of these and `Endpoint.Moves` any number of them; `moves_push`, `moves_flush` and
`moves_complete` take the operations of an endpoint apart. `Channel.Moves` says it of both endpoints of a channel, with
a lemma for each operation of the host and for each source of a pass, up to `Lane.moves_plays`. So what the five moves
keep holds of every endpoint at any time, and nobody has to look at the operations again.
-/
import CanAdapter.Proofs.Sound
import Mathlib.Logic.Relation

namespace CanAdapter

/-! ## One endpoint -/

namespace Endpoint

variable {size : Nat} {o : ByteOrder} {e e' e'' : Endpoint size} {m : Message}

/-- a step of an endpoint -/
inductive Move (o : ByteOrder) : Endpoint size → Endpoint size → Prop where
  | writes {e e' : Endpoint size} {m : Message} (reply : m.IsReply) (fits : e.appendMessage o m = some e') : Move o e e'
  | hands {e e' : Endpoint size} (handed : e.HandsOver e') : Move o e e'
  | done (e : Endpoint size) : Move o e { e with sending := [] }
  | discards (e : Endpoint size) : Move o e e.discard
  | resets (e : Endpoint size) : Move o e e.reset

/-- any number of steps -/
def Moves (o : ByteOrder) : Endpoint size → Endpoint size → Prop := Relation.ReflTransGen (Move o)

theorem Moves.refl (o : ByteOrder) (e : Endpoint size) : Moves o e e := Relation.ReflTransGen.refl

theorem Moves.trans (h : Moves o e e') (h' : Moves o e' e'') : Moves o e e'' := Relation.ReflTransGen.trans h h'

theorem Move.moves (h : Move o e e') : Moves o e e' := Relation.ReflTransGen.single h

/-- what every step keeps, any number of steps keeps -/
theorem Moves.keeps {P : Endpoint size → Prop} (step : ∀ {e e' : Endpoint size}, Move o e e' → P e → P e')
    (h : Moves o e e') (he : P e) : P e' := by
  induction h with
  | refl => exact he
  | tail _ last ih => exact step last ih

theorem moves_flush (h : e.flush = .ok e') : Moves o e e' := by
  rcases flush_cases h with ⟨rfl, -⟩ | handed
  · exact .refl o _
  · exact (Move.hands handed).moves

theorem moves_complete (h : e.complete = .ok e') : Moves o e e' := by
  have finished : Moves o e { e with sending := [] } := (Move.done e).moves
  rcases complete_cases h with ⟨-, rfl⟩ | handed
  · exact finished
  · exact finished.trans (Move.hands handed).moves

theorem moves_push {r : Except EndpointError Unit} (hm : m.IsReply) (h : e.push o m = .ok (r, e')) :
    Moves o e e' := by
  rcases push_cases h with ⟨-, fits | ⟨e₁, handed, fits⟩⟩ | ⟨-, rfl | handed⟩
  · exact (Move.writes hm fits).moves
  · exact (Move.hands handed).moves.trans (Move.writes hm fits).moves
  · exact .refl o _
  · exact (Move.hands handed).moves

end Endpoint

/-! ## Both endpoints of a channel -/

namespace Message

theorem isReply_greeting (g : Greeting) : (greeting g).IsReply := rfl

theorem isReply_deviceInfo (i : DeviceInfo) : (deviceInfo i).IsReply := rfl

theorem isReply_canInfo (i : CanInfo) : (canInfo i).IsReply := rfl

theorem isReply_outcome (code : Int8) : (outcome code).IsReply := rfl

end Message

namespace Channel

variable {σ : Type} {c c' c'' : Channel σ} {m : Message}

/-- from `c` to `c'` the two endpoints made steps of theirs, and the description of the channel is the same -/
structure Moves (c c' : Channel σ) : Prop where
  config : c'.config = c.config
  command : Endpoint.Moves c.config.order c.command c'.command
  can : Endpoint.Moves c.config.order c.can c'.can

namespace Moves

theorem of_same (config : c'.config = c.config) (command : c'.command = c.command) (can : c'.can = c.can) :
    Moves c c' :=
  ⟨config, command ▸ .refl _ _, can ▸ .refl _ _⟩

theorem refl (c : Channel σ) : Moves c c := .of_same rfl rfl rfl

theorem trans (h : Moves c c') (h' : Moves c' c'') : Moves c c'' where
  config := h'.config.trans h.config
  command := h.command.trans (h.config ▸ h'.command)
  can := h.can.trans (h.config ▸ h'.can)

theorem of_can {can : Endpoint canBank} (h : Endpoint.Moves c.config.order c.can can) : Moves c { c with can } :=
  ⟨rfl, .refl _ _, h⟩

theorem of_command {command : Endpoint commandBank} (h : Endpoint.Moves c.config.order c.command command) :
    Moves c { c with command } :=
  ⟨rfl, h, .refl _ _⟩

end Moves

/-! ## Command pipe -/

theorem moves_reply (hm : m.IsReply) (h : c.reply m = .ok c') : Moves c c' := by
  obtain ⟨⟨r, command⟩, hp, h⟩ := Checked.bind_eq_ok.1 h
  cases h
  exact .of_command (Endpoint.moves_push hm hp)

section

variable [Controller σ] {raw : RawMessage} {bytes : Bytes}

theorem moves_reset (h : c.reset = .ok c') : Moves c c' := by
  obtain ⟨settings, -, h⟩ := Checked.bind_eq_ok.1 h
  cases h
  exact ⟨rfl, .refl _ _, (Endpoint.Move.resets _).moves⟩

theorem moves_setBus (on : Bool) (c : Channel σ) : Moves c (c.setBus on) := by
  unfold setBus
  split
  · exact .refl c
  · split <;> exact .of_same rfl rfl rfl

theorem Requested.moves (h : Requested raw c c') : Moves c c' := by
  cases h with
  | answered => exact .refl c
  | timed => exact .of_same rfl rfl rfl
  | features => exact .of_same rfl rfl rfl
  | bus => exact moves_setBus _ c
  | greeted _ reset => exact moves_reset reset

/-- a greeting drops the answers that wait, and writes its own -/
theorem moves_hello (h : c.hello = .ok c') : Moves c c' := by
  obtain ⟨c₁, reset, h⟩ := Checked.bind_eq_ok.1 h
  have dropped : Endpoint.Moves c₁.config.order c₁.command c₁.command.discard := (Endpoint.Move.discards _).moves
  simp only at h
  split at h
  · rename_i command fits
    cases h
    have greeted := (Endpoint.Move.writes (Message.isReply_greeting _) fits).moves
    exact (moves_reset reset).trans (.of_command (dropped.trans greeted))
  · cases h
    exact (moves_reset reset).trans (.of_command dropped)

theorem moves_request (h : c.request raw = .ok c') : Moves c c' := by
  unfold request at h
  split at h
  · exact moves_hello h
  · rename_i hello
    split at h
    · exact moves_reply (Message.isReply_deviceInfo _) h
    · split at h
      · exact moves_reply (Message.isReply_canInfo _) h
      · obtain ⟨⟨outcome, c₁⟩, applied, h⟩ := Checked.bind_eq_ok.1 h
        exact (applyRequest_cases hello applied).moves.trans (moves_reply (Message.isReply_outcome _) h)

theorem moves_commands (h : c.commands bytes = .ok c') : Moves c c' := by
  obtain ⟨c₁, asked, h⟩ := Checked.bind_eq_ok.1 h
  obtain ⟨command, flushed, h⟩ := Checked.bind_eq_ok.1 h
  cases h
  have answered : Moves c c₁ := by
    refine Checked.foldlM_keeps ?_ asked (.refl c)
    intro m _ d d' h hd
    exact hd.trans (moves_request h)
  exact answered.trans (.of_command (Endpoint.moves_flush flushed))

/-! ## CAN pipe -/

theorem moves_dropRequest {track : UInt8} (h : c.dropRequest track = .ok c') : Moves c c' := by
  obtain ⟨⟨r, can⟩, hp, h⟩ := Checked.bind_eq_ok.1 h
  have pushed := Endpoint.moves_push (Message.isReply_transmitted _) hp
  cases r <;> cases h <;> exact ⟨rfl, .refl _ _, pushed⟩

theorem moves_send {r : TxRequest} (h : c.send r = .ok c') : Moves c c' := by
  unfold send takeCredit at h
  by_cases broke : c.credits = 0
  · simp only [broke, ↓reduceIte] at h
    exact moves_dropRequest h
  · simp only [broke, ↓reduceIte] at h
    split at h
    · cases h
      exact .of_same rfl rfl rfl
    · obtain ⟨c₁, back, h⟩ := Checked.bind_eq_ok.1 h
      cases returnCredit_eq back
      have dropped := moves_dropRequest h
      exact ⟨dropped.config, dropped.command, dropped.can⟩

theorem moves_transmissions (h : c.transmissions bytes = .ok c') : Moves c c' := by
  refine Checked.foldlM_keeps ?_ h (.refl c)
  intro m _ d d' h hd
  refine hd.trans ?_
  unfold transmission at h
  split at h
  · split at h
    · cases h
      exact .refl d
    · exact moves_send h
  · cases h
    exact .refl d

end

/-! ## Interrupts -/

theorem moves_poll [Controller σ] (h : c.poll = .ok c') : Moves c c' := by
  obtain ⟨r, ran, rfl⟩ := Checked.map_eq_ok.1 h
  have published : Moves c (c.pollStatus .none).2 := by
    unfold pollStatus
    simp only
    split <;> exact .of_same rfl rfl rfl
  unfold pollNoting at ran
  simp only at ran
  obtain ⟨r₃, rx, ran⟩ := Checked.bind_eq_ok.1 ran
  obtain ⟨ring, -, rx⟩ := Checked.bind_eq_ok.1 rx
  cases rx
  obtain ⟨r₄, tx, ran⟩ := Checked.bind_eq_ok.1 ran
  obtain ⟨⟨accepted, ring'⟩, -, tx⟩ := Checked.bind_eq_ok.1 tx
  cases tx
  cases ran
  exact ⟨published.config, published.command, published.can⟩

/-! ## Placing -/

theorem moves_makeRoom {len : Nat} (hl : len ≤ canBank) (h : c.makeRoom len = .ok (some c')) : Moves c c' := by
  rcases makeRoom_cases hl h with ⟨none, -⟩ | ⟨can, same, -, rfl | handed⟩
  · cases none
  · cases same
    exact .refl c
  · cases same
    exact .of_can (Endpoint.Move.hands handed).moves

theorem moves_place {b : Bool} (hm : m.IsReply) (h : c.place m = .ok (b, c')) : Moves c c' := by
  have short := m.wireLength_le.2
  simp only [maxCanMessage, maxPayload, alignLength, lengthUnit] at short
  obtain ⟨r, made, h⟩ := Checked.bind_eq_ok.1 h
  cases r with
  | none =>
    cases h
    exact .refl c
  | some c₁ =>
    have room := moves_makeRoom (by unfold canBank; omega) made
    simp only at h
    split at h
    · cases h
      exact room
    · rename_i can fits
      cases h
      exact room.trans (.of_can (Endpoint.Move.writes hm fits).moves)

end Channel

/-! ## The reporting task -/

namespace Lane

variable {σ : Type} {l l' : Lane σ} {move : Move}

theorem moves_takeStatus {now : Nat} (h : l.takeStatus now = .ok (move, l')) : l.channel.Moves l'.channel := by
  rcases takeStatus_cases h with ⟨-, rfl, -⟩ | ⟨-, e, -, rfl⟩
  · exact .refl _
  · exact .of_same rfl rfl rfl

theorem moves_placeOldest {α : Type} {k : Nat} {ring : Channel σ → Ring α k} {message : α → Message}
    {noted : Reporter → Reporter} {done : Channel σ → Checked (Channel σ)} (hm : ∀ a, (message a).IsReply)
    (released : ∀ {c c' : Channel σ}, done c = .ok c' → c.Moves c')
    (h : placeOldest ring message noted done l = .ok (move, l')) : l.channel.Moves l'.channel := by
  unfold placeOldest at h
  split at h
  · cases h
    exact .refl _
  · rename_i a _
    obtain ⟨⟨b, c⟩, hp, h⟩ := Checked.bind_eq_ok.1 h
    have placed : l.channel.Moves c := Channel.moves_place (hm a) hp
    cases b with
    | false =>
      cases h
      exact placed
    | true =>
      obtain ⟨c₁, hd, h⟩ := Checked.bind_eq_ok.1 h
      cases h
      exact placed.trans (released hd)

theorem moves_inOrder {sources : List (Lane σ → Checked (Move × Lane σ))}
    (hs : ∀ source ∈ sources, ∀ {l l' : Lane σ} {move : Move}, source l = .ok (move, l') →
      l.channel.Moves l'.channel)
    (h : inOrder sources l = .ok (move, l')) : l.channel.Moves l'.channel := by
  induction sources generalizing l move with
  | nil =>
    cases h
    exact .refl _
  | cons source sources ih =>
    have later {l : Lane σ} {move : Move} := @ih l move fun s hm => hs s (List.mem_cons_of_mem _ hm)
    obtain ⟨⟨m₁, l₁⟩, h₁, h⟩ := Checked.bind_eq_ok.1 h
    have first := hs source List.mem_cons_self h₁
    cases m₁ with
    | blocked =>
      cases h
      exact first
    | idle => exact first.trans (later h)
    | moved =>
      obtain ⟨⟨m₂, l₂⟩, h₂, h⟩ := Checked.bind_eq_ok.1 h
      have same : l₂ = l' := by cases m₂ <;> cases h <;> rfl
      exact first.trans (later (same ▸ h₂))

variable [Controller σ]

theorem moves_placeReport (h : l.placeReport = .ok (move, l')) : l.channel.Moves l'.channel := by
  unfold placeReport at h
  split at h
  · cases h
    exact .refl _
  · obtain ⟨r, made, h⟩ := Checked.bind_eq_ok.1 h
    cases r with
    | none =>
      cases h
      exact .refl _
    | some c =>
      have room := Channel.moves_makeRoom (by decide) made
      have told : c.Moves (c.snapshot l.reporter.busStatus).2 := .of_same rfl rfl rfl
      simp only at h
      split at h
      · cases h
        exact room.trans told
      · rename_i can fits
        cases h
        exact (room.trans told).trans (.of_can (Endpoint.Move.writes (Message.isReply_busReport _) fits).moves)

theorem moves_pass {now : Nat} (h : l.pass now = .ok (move, l')) : l.channel.Moves l'.channel := by
  refine moves_inOrder ?_ h
  intro source hs
  simp only [List.mem_cons, List.not_mem_nil, or_false] at hs
  rcases hs with rfl | rfl | rfl | rfl | rfl
  · exact moves_placeReport
  · exact moves_takeStatus
  · refine moves_placeOldest Message.isReply_busError ?_
    rintro c c' ⟨⟩
    exact .of_same rfl rfl rfl
  · refine moves_placeOldest Message.isReply_received ?_
    rintro c c' ⟨⟩
    exact .of_same rfl rfl rfl
  · refine moves_placeOldest (fun _ => Message.isReply_transmitted _) ?_
    intro c c' back
    cases Channel.returnCredit_eq back
    exact .of_same rfl rfl rfl

/-- induction on the passes that are left -/
theorem moves_passes {now n : Nat} (h : l.passes now n = .ok (move, l')) : l.channel.Moves l'.channel := by
  induction n generalizing l with
  | zero =>
    cases h
    exact .refl _
  | succ n ih =>
    obtain ⟨⟨m, l₁⟩, first, h⟩ := Checked.bind_eq_ok.1 h
    cases m with
    | blocked | idle =>
      cases h
      exact moves_pass first
    | moved => exact (moves_pass first).trans (ih h)

theorem moves_wakeUp {now : Nat} {outcome : WakeOutcome} (h : l.wakeUp now = .ok (outcome, l')) :
    l.channel.Moves l'.channel := by
  unfold wakeUp at h
  split at h
  · cases h
    exact .of_same rfl rfl rfl
  · split at h
    · cases h
      exact .of_same rfl rfl rfl
    · obtain ⟨⟨blocked, l₁⟩, drained, h⟩ := Checked.bind_eq_ok.1 h
      obtain ⟨⟨move, l₂⟩, passed, drained⟩ := Checked.bind_eq_ok.1 drained
      cases drained
      obtain ⟨can, flushed, h⟩ := Checked.bind_eq_ok.1 h
      have looked := (moves_passes passed).trans (.of_can (Endpoint.moves_flush flushed))
      obtain ⟨led, leds, shown⟩ := updateLed_eq now { l₁ with channel := { l₁.channel with can } }
      simp only [shown] at h
      split at h
      · cases h
        exact looked.trans (.of_same rfl rfl rfl)
      · cases h
        exact looked

theorem moves_play {e : LaneEvent σ} (h : l.play e = .ok l') : l.channel.Moves l'.channel := by
  cases stepped h with
  | moved => exact .of_same rfl rfl rfl
  | mount => exact .of_same rfl rfl rfl
  | detach reset => exact (Channel.moves_reset reset).trans (.of_same rfl rfl rfl)
  | usbReset => exact ⟨rfl, (Endpoint.Move.resets _).moves, (Endpoint.Move.resets _).moves⟩
  | commandData commands => exact Channel.moves_commands commands
  | canData transmissions => exact Channel.moves_transmissions transmissions
  | commandDone complete => exact .of_command (Endpoint.moves_complete complete)
  | canDone complete => exact ⟨rfl, .refl _ _, Endpoint.moves_complete complete⟩
  | poll poll => exact Channel.moves_poll poll
  | wakeUp look => exact moves_wakeUp look
  | serve told look =>
    have looked := moves_wakeUp look
    exact ⟨looked.config, looked.command, looked.can⟩
  | wait => exact .refl _

theorem moves_plays {es : List (LaneEvent σ)} (h : l.plays es = .ok l') : l.channel.Moves l'.channel := by
  refine plays_keeps (P := fun l₁ => l.channel.Moves l₁.channel) ?_ h (.refl _)
  intro e l₁ l₂ h before
  exact before.trans (moves_play h)

end Lane

end CanAdapter
