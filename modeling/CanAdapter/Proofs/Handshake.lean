/-
Greeting a channel again. The host goes away, comes back, and greets: does the greeting reach it?

`LaneEvent.OnCommand` is all that an event may do to the command endpoint, and `Lane.command_play` that it does no more.
A greeting takes the place of the answers that wait there (`Channel.commands_greeting`), but not of a transfer that was
handed over before. A USB reset forgets such a transfer; a detach does not, and nobody will report it done. So
`Adapter.greeting_answered_iff`: after a detach a greeting is answered exactly if no command transfer was outstanding,
and otherwise the command pipe is silent until a USB reset. `shortStay_is_silent` is a history where it is.
-/
import CanAdapter.Proofs.Isolation
import CanAdapter.Proofs.Separation

namespace CanAdapter

open Checked

/-! ## The answer to a greeting -/

/-- a command buffer whose first message is a greeting -/
def opensWithGreeting (bytes : Bytes) : Bool := (messages bytes).head?.any (·.id == MessageId.hello)

/-- the answer to a greeting, with the parameters of the protocol -/
def Config.greeting (c : Config) : Message := .greeting ⟨protocolVersion, c.order, UInt16.ofNat commandBank⟩

theorem Message.wireLength_greeting (g : Greeting) : (greeting g).wireLength = 8 := by
  simp [wireLength, packet, Layout.packet, Layout.greeting, Packet.wireLength, alignLength, lengthUnit]

theorem Config.length_greeting (c : Config) : (c.greeting.encode c.order).length = 8 :=
  (Message.length_encode _ _).trans (Message.wireLength_greeting _)

namespace Endpoint

variable {size : Nat} {e e' : Endpoint size}

theorem flush_of_busy (busy : e.sending ≠ []) : e.flush = .ok e := by
  simp [flush, ready, busy]

/-- a transfer off a packet boundary is what has collected -/
theorem flush_of_idle (pending : e.filling ≠ []) (idle : e.sending = []) (short : e.filling.length % packetSize ≠ 0) :
    e.flush = .ok ⟨[], e.filling, e.started ++ [e.filling], e.collecting.other⟩ := by
  have content : transferOf size e.filling = .ok e.filling := if_neg fun boundary => short boundary.2.2
  simp only [flush, trySubmit, submit, start, hasPending, ready, List.isEmpty_eq_false_iff.2 pending, idle, content,
    List.isEmpty_nil, Bool.not_false, Bool.not_true, Bool.and_self, Bool.false_eq_true, ↓reduceIte]
  rfl

/-- as long as the outstanding transfer is not done, nothing is started -/
theorem Uses.of_busy (h : e.Uses e') (busy : e.sending ≠ []) : e'.sending = e.sending ∧ e'.started = e.started := by
  cases h with
  | fills sending started => exact ⟨sending, started⟩
  | starts idle => exact absurd idle busy

end Endpoint

namespace Channel

variable {σ : Type} {c c' : Channel σ} {m : RawMessage} {bytes : Bytes}

theorem greeted_eq (c : Channel σ) : c.greeted =
    ⟨c.config.greeting.encode c.config.order, c.command.sending, c.command.started, c.command.collecting⟩ := by
  have fits : c.config.greeting.wireLength ≤ c.command.discard.remaining := by
    rw [Config.greeting, Message.wireLength_greeting]
    exact Nat.le_of_ble_eq_true rfl
  have written : c.command.discard.appendMessage c.config.order c.config.greeting = some
      ⟨c.config.greeting.encode c.config.order, c.command.sending, c.command.started, c.command.collecting⟩ :=
    if_pos fits
  unfold greeted
  rw [← Config.greeting, written, Option.getD_some]

theorem filling_greeted (c : Channel σ) : c.greeted.filling = c.config.greeting.encode c.config.order :=
  congrArg (·.filling) c.greeted_eq

theorem sending_greeted (c : Channel σ) : c.greeted.sending = c.command.sending := congrArg (·.sending) c.greeted_eq

theorem started_greeted (c : Channel σ) : c.greeted.started = c.command.started := congrArg (·.started) c.greeted_eq

variable [Controller σ]

theorem command_reset (h : c.reset = .ok c') : c'.command = c.command ∧ c'.config = c.config := by
  obtain ⟨settings, -, h⟩ := Checked.bind_eq_ok.1 h
  cases h
  exact ⟨rfl, rfl⟩

/-- a buffer that opens with a greeting is over with it -/
theorem flush_greeted (greeting : opensWithGreeting bytes = true) (h : c.commands bytes = .ok c') :
    c.greeted.flush = .ok c'.command := by
  obtain ⟨m, first, id⟩ := (Option.any_eq_true _ _).1 greeting
  rw [beq_iff_eq] at id
  obtain ⟨ms, all⟩ := List.head?_eq_some_iff.1 first
  obtain ⟨c₁, asked, h⟩ := Checked.bind_eq_ok.1 h
  obtain ⟨command, flushed, h⟩ := Checked.bind_eq_ok.1 h
  cases h
  rw [all, throughHello, if_pos id, List.foldlM_cons] at asked
  obtain ⟨c₂, answered, asked⟩ := Checked.bind_eq_ok.1 asked
  cases asked
  rw [request, if_pos id, hello_eq] at answered
  obtain ⟨c₃, reset, rfl⟩ := Checked.map_eq_ok.1 answered
  obtain ⟨same, config⟩ := command_reset reset
  rw [greeted_eq] at flushed ⊢
  rwa [same, config] at flushed

/-- the answer goes to the host at once if no transfer is outstanding, and else waits for that -/
theorem started_greeting (greeting : opensWithGreeting bytes = true) (h : c.commands bytes = .ok c') :
    c'.command.started = c.command.started ++
      if c.command.sending = [] then [c.config.greeting.encode c.config.order] else [] := by
  have flushed := flush_greeted greeting h
  have length : c.greeted.filling.length = 8 := by rw [filling_greeted, Config.length_greeting]
  rw [← filling_greeted, ← sending_greeted, ← started_greeted c]
  by_cases idle : c.greeted.sending = []
  · have short : c.greeted.filling.length % packetSize ≠ 0 := by
      rw [length]
      decide
    rw [Endpoint.flush_of_idle (List.ne_nil_of_length_eq_add_one length) idle short] at flushed
    rw [if_pos idle, ← Except.ok.inj flushed]
  · rw [Endpoint.flush_of_busy idle] at flushed
    rw [if_neg idle, ← Except.ok.inj flushed, List.append_nil]

/-! ## What requests do to the command endpoint -/

theorem Requested.command (h : Requested m c c') : c'.command = c.command := by
  cases h with
  | answered | timed | features => rfl
  | bus =>
    unfold setBus
    split
    · rfl
    · split <;> rfl
  | greeted _ reset => exact (command_reset reset).1

omit [Controller σ] in
theorem uses_reply {answer : Message} (reply : answer.IsReply) (h : c.reply answer = .ok c') :
    c.command.Uses c'.command := by
  obtain ⟨⟨r, command⟩, pushed, h⟩ := Checked.bind_eq_ok.1 h
  cases h
  exact (Endpoint.posts_push reply pushed).uses

theorem uses_request (h : c.request m = .ok c') : c.command.Uses c'.command := by
  unfold request at h
  split at h
  · rw [hello_eq] at h
    obtain ⟨c₁, reset, rfl⟩ := Checked.map_eq_ok.1 h
    have same := (command_reset reset).1
    simp only [greeted_eq, same]
    exact .fills rfl rfl rfl
  · rename_i hello
    split at h
    · exact uses_reply (Message.isReply_deviceInfo _) h
    · split at h
      · exact uses_reply (Message.isReply_canInfo _) h
      · obtain ⟨⟨outcome, c₁⟩, applied, h⟩ := Checked.bind_eq_ok.1 h
        have same := (applyRequest_cases hello applied).command
        exact same ▸ uses_reply (Message.isReply_outcome _) h

theorem uses_commands (h : c.commands bytes = .ok c') : c.command.Uses c'.command := by
  obtain ⟨c₁, asked, h⟩ := Checked.bind_eq_ok.1 h
  obtain ⟨command, flushed, h⟩ := Checked.bind_eq_ok.1 h
  cases h
  have answered : c.command.Uses c₁.command := by
    refine Checked.foldlM_keeps (P := fun d : Channel σ => c.command.Uses d.command) ?_ asked (.refl _)
    intro m _ d d' h hd
    exact hd.trans (uses_request h)
  exact answered.trans (Endpoint.posts_flush (o := c.config.order) flushed).uses

end Channel

/-! ## What an event does to the command endpoint -/

namespace LaneEvent

variable {σ : Type}

/-- what an event may do to the command endpoint -/
def OnCommand : LaneEvent σ → Endpoint commandBank → Endpoint commandBank → Prop
  | .op (.commandData _), e, e' => e.Uses e'
  | .op .commandDone, e, e' => e.complete = .ok e'
  | .op .usbReset, e, e' => e' = e.reset
  | _, e, e' => e' = e

/-- nothing happens on the command pipe -/
def quiet : LaneEvent σ → Bool
  | .op (.commandData _) | .op .commandDone | .op .usbReset => false
  | _ => true

/-- an outstanding command transfer is reported done, or forgotten -/
def frees : LaneEvent σ → Bool
  | .op .commandDone | .op .usbReset => true
  | _ => false

end LaneEvent

namespace Lane

variable {σ : Type} [Controller σ] {l l' : Lane σ} {e : LaneEvent σ} {es : List (LaneEvent σ)} {bytes : Bytes}

theorem command_play (sound : l.Sound) (h : l.play e = .ok l') : e.OnCommand l.channel.command l'.channel.command := by
  cases stepped h with
  | moved | mount | usbReset | canDone | wait => rfl
  | detach reset => exact (Channel.command_reset reset).1
  | commandData commands => exact Channel.uses_commands commands
  | commandDone complete => exact complete
  | canData transmissions =>
    obtain ⟨fs, -, sent⟩ := Channel.sent_transmissions transmissions
    exact congrArg (·.command) sent.channel
  | poll poll =>
    obtain ⟨a, -, polled⟩ := Channel.poll_cases sound.settled poll
    exact congrArg (·.command) polled.channel
  | wakeUp look => exact command_wakeUp look
  | serve told look =>
    have same := command_wakeUp look
    exact same

theorem command_of_quiet (quiet : e.quiet = true) (sound : l.Sound) (h : l.play e = .ok l') :
    l'.channel.command = l.channel.command := by
  have acts := command_play sound h
  cases e with
  | moved => exact acts
  | op op =>
    cases op with
    | commandData | commandDone | usbReset => cases quiet
    | mount | detach | canData | canDone | poll | wakeUp | serve => exact acts

theorem started_of_busy (stays : e.frees = false) (busy : l.channel.command.sending ≠ []) (sound : l.Sound)
    (h : l.play e = .ok l') : l'.channel.command.sending ≠ [] ∧
      l'.channel.command.started = l.channel.command.started := by
  by_cases quiet : e.quiet = true
  · rw [command_of_quiet quiet sound h]
    exact ⟨busy, rfl⟩
  · have acts := command_play sound h
    match e with
    | .op (.commandData bytes) =>
      obtain ⟨sending, started⟩ := acts.of_busy busy
      exact ⟨sending ▸ busy, started⟩
    | .op .commandDone | .op .usbReset => cases stays
    | .moved _ | .op .mount | .op .detach | .op (.canData _) | .op .canDone | .op .poll | .op (.wakeUp _)
    | .op (.serve _) => exact absurd rfl quiet

theorem command_of_quiets (quiet : ∀ e ∈ es, e.quiet = true) (sound : l.Sound) (h : l.plays es = .ok l') :
    l'.channel.command = l.channel.command := by
  refine plays_keeps_of_sound (P := fun k : Lane σ => k.channel.command = l.channel.command) ?_ h sound rfl
  intro e mem k k' sound played same
  exact (command_of_quiet (quiet e mem) sound played).trans same

/-- a transfer that is never reported done keeps all others back -/
theorem started_of_busies (stays : ∀ e ∈ es, e.frees = false) (busy : l.channel.command.sending ≠ []) (sound : l.Sound)
    (h : l.plays es = .ok l') : l'.channel.command.started = l.channel.command.started := by
  have kept : l'.channel.command.sending ≠ [] ∧ l'.channel.command.started = l.channel.command.started := by
    refine plays_keeps_of_sound (P := fun k : Lane σ => k.channel.command.sending ≠ [] ∧
      k.channel.command.started = l.channel.command.started) ?_ h sound ⟨busy, rfl⟩
    rintro e mem k k' sound played ⟨busy, same⟩
    obtain ⟨busy', same'⟩ := started_of_busy (stays e mem) busy sound played
    exact ⟨busy', same'.trans same⟩
  exact kept.2

/-- a greeting is handled in every state that can be reached, and answered if no transfer is outstanding -/
theorem play_greeting (reachable : l.Reachable) (greeting : opensWithGreeting bytes = true) :
    ∃ l', l.play (.op (.commandData bytes)) = .ok l' ∧ l'.channel.command.started = l.channel.command.started ++
      if l.channel.command.sending = [] then [l.channel.config.greeting.encode l.channel.config.order] else [] := by
  obtain ⟨l', played⟩ := greeting_succeeds reachable greeting
  obtain ⟨c, handled, rest⟩ := Checked.bind_eq_ok.1 played
  cases rest
  exact ⟨_, played, Channel.started_greeting greeting handled⟩

end Lane

/-! ## Going away and coming back -/

/-- the host goes away; a bus reset is one way to do so -/
def Op.leaves : Op → Bool
  | .unmount | .suspend | .usbReset => true
  | _ => false

namespace Lane

variable {σ : Type} [Controller σ] {l l' : Lane σ}

/-- a detach keeps the command endpoint as it is, a bus reset empties it -/
theorem command_leave {leave : Op} {i : Nat} (leaves : leave.leaves = true) (sound : l.Sound)
    (h : l.plays ((AdapterEvent.op leave).at i) = .ok l') :
    l'.channel.command = if leave = .usbReset then l.channel.command.reset else l.channel.command := by
  cases leave with
  | unmount | suspend =>
    obtain ⟨l₁, played, rest⟩ := Checked.bind_eq_ok.1 h
    cases rest
    exact command_play sound played
  | usbReset =>
    obtain ⟨l₁, played, rest⟩ := Checked.bind_eq_ok.1 h
    cases rest
    exact command_play sound played
  | _ => cases leaves

/-- whatever the lane was in, the host can go away and come back -/
theorem Reachable.detach (h : l.Reachable) : ∃ l', l.play (.op .detach) = .ok l' := by
  obtain ⟨c, reset, -⟩ := h.reset
  exact ⟨_, Checked.bind_eq_ok.2 ⟨_, Checked.bind_eq_ok.2 ⟨c, reset, rfl⟩, rfl⟩⟩

end Lane

namespace Adapter

variable {σ : Type} [Controller σ] {a₀ a : Adapter σ} {es : List (AdapterEvent σ)}

theorem plays_trans {a' : Adapter σ} {more : List (AdapterEvent σ)} (h : a₀.plays es = .ok a)
    (h' : a.plays more = .ok a') : a₀.plays (es ++ more) = .ok a' := by
  unfold plays
  rw [List.foldlM_append]
  exact Checked.bind_eq_ok.2 ⟨a, h, h'⟩

/-- the host can go away and come back at any time -/
theorem leave_and_return (fresh : a₀.Fresh) (history : a₀.plays es = .ok a) {leave back : Op}
    (leaves : leave.leaves = true) (returns : back = .mount ∨ back = .resume) :
    ∃ b, a.plays [.op leave, .op back] = .ok b := by
  refine succeeds_of_alone fun i l hl => ?_
  have mounts : (AdapterEvent.op back).at i = ([.op .mount] : List (LaneEvent σ)) := by
    rcases returns with rfl | rfl <;> rfl
  obtain ⟨l₁, left⟩ := (Lane.reachable_of_fresh fresh history hl).detach
  rw [List.flatMap_cons, List.flatMap_singleton, mounts]
  cases leave with
  | unmount | suspend => exact ⟨_, Checked.bind_eq_ok.2 ⟨l₁, left, rfl⟩⟩
  | usbReset => exact ⟨_, rfl⟩
  | _ => cases leaves

/-- a greeting reaches the command endpoint of its lane -/
theorem play_out_greeting (fresh : a₀.Fresh) (history : a₀.plays es = .ok a) {i : Nat} {l : Lane σ}
    (hl : a.lanes[i]? = some l) {endpoint : UInt8} {bytes : Bytes} (routed : route endpoint = some (i, .command))
    (greeting : opensWithGreeting bytes = true) :
    ∃ a' l', a.play (.op (.out endpoint bytes)) = .ok a' ∧ a'.lanes[i]? = some l' ∧
      l'.channel.command.started = l.channel.command.started ++ if l.channel.command.sending = []
        then [l.channel.config.greeting.encode l.channel.config.order] else [] := by
  have here : (AdapterEvent.op (.out endpoint bytes)).at i = ([.op (.commandData bytes)] : List (LaneEvent σ)) := by
    simp [AdapterEvent.at, routed]
  obtain ⟨l', answered, started⟩ := Lane.play_greeting (Lane.reachable_of_fresh fresh history hl) greeting
  have handled : ∃ a', a.plays [.op (.out endpoint bytes)] = .ok a' := by
    apply succeeds_of_alone
    intro j k hk
    rw [List.flatMap_singleton]
    by_cases same : j = i
    · subst same
      cases hl.symm.trans hk
      rw [here]
      exact ⟨l', Checked.bind_eq_ok.2 ⟨l', answered, rfl⟩⟩
    · have elsewhere : (AdapterEvent.op (.out endpoint bytes)).at j = ([] : List (LaneEvent σ)) := by
        simp [AdapterEvent.at, routed, Ne.symm same]
      rw [elsewhere]
      exact ⟨k, rfl⟩
  obtain ⟨a', played⟩ := handled
  obtain ⟨l₁, hl₁, run⟩ := lane_plays played hl
  rw [List.flatMap_singleton, here] at run
  obtain ⟨l₂, again, rest⟩ := Checked.bind_eq_ok.1 run
  cases rest
  cases answered.symm.trans again
  obtain ⟨a₁, first, rest⟩ := Checked.bind_eq_ok.1 played
  cases rest
  exact ⟨a', l', first, hl₁, started⟩

/-- **A greeting after a detach.** Take any state that an adapter can come to, and one of its lanes. The host can go
away, in one of three ways, and come back. Whatever else happens meanwhile, as long as it is nothing on the command pipe
of the lane, the next buffer there that opens with a greeting is handled; it starts one transfer, the answer to the
greeting and nothing else, if the host went away by a bus reset, or if no transfer of the command pipe was outstanding
at the time. Otherwise it starts none, and neither does anything else: the pipe is silent until a completion, which the
transfer of a host that went away does not get, or a bus reset. -/
theorem greeting_answered_iff (fresh : a₀.Fresh) (history : a₀.plays es = .ok a) :
    (∀ leave back : Op, leave.leaves = true → back = .mount ∨ back = .resume →
      ∃ b, a.plays [.op leave, .op back] = .ok b) ∧
    ∀ (i : Nat) (l : Lane σ) (leave : Op) (away : List (AdapterEvent σ)) (b : Adapter σ), a.lanes[i]? = some l →
      leave.leaves = true → a.plays (.op leave :: away) = .ok b → ∃ m, b.lanes[i]? = some m ∧
        ((∀ e ∈ away, ∀ x ∈ e.at i, x.quiet = true) → ∀ (endpoint : UInt8) (bytes : Bytes),
          route endpoint = some (i, .command) → opensWithGreeting bytes = true →
          ∃ b' m', b.play (.op (.out endpoint bytes)) = .ok b' ∧ b'.lanes[i]? = some m' ∧
            m'.channel.command.started = m.channel.command.started ++
              if leave = .usbReset ∨ l.channel.command.sending = []
              then [l.channel.config.greeting.encode l.channel.config.order] else []) ∧
        ((∀ e ∈ away, ∀ x ∈ e.at i, x.frees = false) → leave ≠ .usbReset → l.channel.command.sending ≠ [] →
          m.channel.command.started = l.channel.command.started) := by
  refine ⟨fun leave back leaves returns => leave_and_return fresh history leaves returns, ?_⟩
  intro i l leave away b hl leaves gone
  have reachable := Lane.reachable_of_fresh fresh history hl
  obtain ⟨m, hm, played⟩ := lane_plays gone hl
  rw [List.flatMap_cons, Lane.plays_append] at played
  obtain ⟨l₁, left, meanwhile⟩ := Checked.bind_eq_ok.1 played
  have sound := (reachable.plays left).sound
  have kept := Lane.command_leave leaves reachable.sound left
  refine ⟨m, hm, ?_, ?_⟩
  · intro quiet endpoint bytes routed greeting
    have same : m.channel.command = l₁.channel.command := by
      apply Lane.command_of_quiets _ sound meanwhile
      intro x hx
      obtain ⟨e, he, hx⟩ := List.mem_flatMap.1 hx
      exact quiet e he x hx
    have config : m.channel.config = l.channel.config :=
      (Lane.moves_plays meanwhile).config.trans (Lane.moves_plays left).config
    obtain ⟨b', m', answered, hm', started⟩ := play_out_greeting fresh (plays_trans history gone) hm routed greeting
    refine ⟨b', m', answered, hm', ?_⟩
    rw [started, config, same, kept]
    by_cases reset : leave = .usbReset
    · simp [reset, Endpoint.reset]
    · simp [reset]
  · intro stays detached busy
    rw [if_neg detached] at kept
    rw [← kept] at busy ⊢
    apply Lane.started_of_busies _ busy sound meanwhile
    intro x hx
    obtain ⟨e, he, hx⟩ := List.mem_flatMap.1 hx
    exact stays e he x hx

/-- the host asks what the device is; then comes `between`, and the host goes away and comes back -/
def shortStay (between : List (AdapterEvent SimController)) : Checked (Adapter SimController × Adapter SimController ×
    Adapter SimController × Adapter SimController) := do
  let a₀ ← single .default {}
  let a ← a₀.plays ([.op .mount, .op (.out 1 [3, 2])] ++ between)
  let b ← a.plays [.op .unmount, .op .mount]
  let b' ← b.play (.op (.out 1 [1, 2]))
  return (a₀, a, b, b')

theorem of_shortStay {between : List (AdapterEvent SimController)} {a₀ a b b' : Adapter SimController}
    (h : shortStay between = .ok (a₀, a, b, b')) :
    a₀.Fresh ∧ a₀.plays ([.op .mount, .op (.out 1 [3, 2])] ++ between) = .ok a ∧
      a.plays [.op .unmount, .op .mount] = .ok b ∧ b.play (.op (.out 1 [1, 2])) = .ok b' := by
  obtain ⟨k₀, built, h⟩ := Checked.bind_eq_ok.1 h
  obtain ⟨k, asked, h⟩ := Checked.bind_eq_ok.1 h
  obtain ⟨j, gone, h⟩ := Checked.bind_eq_ok.1 h
  obtain ⟨j', greeted, h⟩ := Checked.bind_eq_ok.1 h
  cases h
  exact ⟨fresh_single built, asked, gone, greeted⟩

/-- a host that waits for its answer is answered again after it was away -/
theorem patientStay_is_answered : ∃ (a₀ a b b' : Adapter SimController) (m m' : Lane SimController), a₀.Fresh ∧
    a₀.plays [.op .mount, .op (.out 1 [3, 2]), .op (.inComplete 0x81)] = .ok a ∧
    a.plays [.op .unmount, .op .mount] = .ok b ∧ b.lanes[0]? = some m ∧ b.play (.op (.out 1 [1, 2])) = .ok b' ∧
    b'.lanes[0]? = some m' ∧
    m'.channel.command.started = m.channel.command.started ++ [[2, 8, 2, 0, 0, 64, 0, 0]] := by
  have ran : Checked.passes (fun r : Adapter SimController × Adapter SimController × Adapter SimController ×
      Adapter SimController => decide (r.2.1.lanes[0]?.map (fun l => (l.channel.command.sending,
        l.channel.config.greeting.encode l.channel.config.order)) = some ([], [2, 8, 2, 0, 0, 64, 0, 0])))
      (shortStay [.op (.inComplete 0x81)]) = true := by
    decide +kernel
  obtain ⟨⟨a₀, a, b, b'⟩, run, found⟩ := Checked.of_passes ran
  obtain ⟨l, hl, holds⟩ := Option.map_eq_some_iff.1 (of_decide_eq_true found)
  obtain ⟨idle, answer⟩ := Prod.mk.inj holds
  obtain ⟨fresh, history, gone, greeted⟩ := of_shortStay run
  obtain ⟨m, hm, answered, -⟩ := (greeting_answered_iff fresh history).2 0 l .unmount [.op .mount] b hl rfl gone
  obtain ⟨b₁, m', greeted', hm', started⟩ := answered (by simp [AdapterEvent.at, LaneEvent.quiet]) 1 [1, 2] (by decide)
    (by decide)
  cases greeted.symm.trans greeted'
  rw [if_pos (.inr idle), answer] at started
  exact ⟨a₀, a, b, b', m, m', fresh, history, gone, hm, greeted, hm', started⟩

/-- A host that went away while the answer was under way is not answered: its greeting starts no transfer, and the
answer to it waits behind the one to the earlier question. -/
theorem shortStay_is_silent : ∃ (a₀ a b b' : Adapter SimController) (m m' : Lane SimController), a₀.Fresh ∧
    a₀.plays [.op .mount, .op (.out 1 [3, 2])] = .ok a ∧ a.plays [.op .unmount, .op .mount] = .ok b ∧
    b.lanes[0]? = some m ∧ b.play (.op (.out 1 [1, 2])) = .ok b' ∧ b'.lanes[0]? = some m' ∧
    m'.channel.command.started = m.channel.command.started ∧
    m'.channel.command.filling = [2, 8, 2, 0, 0, 64, 0, 0] := by
  have ran : Checked.passes (fun r : Adapter SimController × Adapter SimController × Adapter SimController ×
      Adapter SimController => decide (r.2.2.2.lanes[0]?.map (fun m' => (some m'.channel.command.started,
        m'.channel.command.filling)) = some (r.2.2.1.lanes[0]?.map (fun m => m.channel.command.started),
          [2, 8, 2, 0, 0, 64, 0, 0]))) (shortStay []) = true := by
    decide +kernel
  obtain ⟨⟨a₀, a, b, b'⟩, run, found⟩ := Checked.of_passes ran
  obtain ⟨m', hm', holds⟩ := Option.map_eq_some_iff.1 (of_decide_eq_true found)
  obtain ⟨same, waiting⟩ := Prod.mk.inj holds
  obtain ⟨m, hm, started⟩ := Option.map_eq_some_iff.1 same.symm
  obtain ⟨fresh, history, gone, greeted⟩ := of_shortStay run
  exact ⟨a₀, a, b, b', m, m', fresh, history, gone, hm, greeted, hm', started.symm, waiting⟩

end Adapter

end CanAdapter
