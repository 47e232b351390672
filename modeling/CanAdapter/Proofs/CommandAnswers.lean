/-
What comes of a command buffer, whatever its bytes and whatever state the channel is in.

`Channel.Handled` is all that comes of one message that is no greeting, its answer and its effect; of a request that is
refused there is none. `Channel.Serves` is that for the messages of a buffer in a row, up to the first greeting.
`Channel.handleFrom` is the loop that finds and handles them, and `Channel.commands_eq` says that the two agree. What
stands behind the `counted` bytes of a buffer makes no difference (`Channel.commands_counted`).

`Lane.commandBuffer_served` puts these together, for every channel that can be reached.
-/
import CanAdapter.Proofs.Refusals

namespace CanAdapter

theorem Outcome.code_inj {o o' : Outcome} : o.code = o'.code ↔ o = o' := by
  refine ⟨fun same => ?_, congrArg Outcome.code⟩
  have named := congrArg Outcome.ofCode? same
  rw [ofCode?_code, ofCode?_code] at named
  exact Option.some.inj named

namespace Channel

variable {σ : Type} [Controller σ] {c c' : Channel σ} {m : RawMessage}

/-! ## One message -/

/-- all that comes of a message of the command pipe that is no greeting: the answer, and what becomes of the channel -/
structure Handled (m : RawMessage) (answer : Message) (c c' : Channel σ) : Prop where
  /-- the answer is offered to the command endpoint, and nothing else is -/
  offered : ∃ r, c.command.push c.config.order answer = .ok (r, c'.command)
  deviceInfo : m.id = MessageId.deviceInfo → answer = .deviceInfo c.deviceInfo
  canInfo : m.id = MessageId.canInfo → answer = .canInfo c.canInfo
  code : m.id ≠ MessageId.deviceInfo → m.id ≠ MessageId.canInfo → ∃ o : Outcome, answer = .outcome o.code
  short : answer = .outcome (-1) ↔ m.TooShort
  param : answer = .outcome (-2) ↔ m.BadParameter c.config.order
  unsupported : answer = .outcome (-3) ↔ c.config.Lacks m
  applied : answer = .outcome 0 ↔ ∃ c₁, Applies m c c₁
  /-- apart from the answer nothing but the request's effect changes -/
  effect : ∀ c₁, Applies m c c₁ → c' = { c₁ with command := c'.command }
  /-- apart from the answer nothing changes -/
  refused : answer ≠ .outcome 0 → c' = { c with command := c'.command }

omit [Controller σ] in
theorem exists_reply (answer : Message) (c : Channel σ) : ∃ r command,
    c.command.push c.config.order answer = .ok (r, command) ∧ c.reply answer = .ok { c with command } := by
  obtain ⟨⟨r, command⟩, pushed, -⟩ := Endpoint.succeeds_push aligned_commandBank c.config.order answer c.command
  exact ⟨r, command, pushed, Checked.bind_eq_ok.2 ⟨_, pushed, rfl⟩⟩

/-- a question about the channel sets nothing -/
theorem Applies.no_question (h : Applies m c c') : m.id ≠ MessageId.deviceInfo ∧ m.id ≠ MessageId.canInfo := by
  cases h with
  | nominal id | data id | clear id | switchOn id | bus id => rw [id]; decide

/-- a question about the channel is always answered, and changes nothing -/
theorem handled_information {k : MessageKind} (answer : Message) (known : k ∈ MessageKind.commands)
    (framed : m.Framed) (id : m.id = k.id) (bare : k.minLength = headerLength)
    (deviceInfo : m.id = MessageId.deviceInfo → answer = .deviceInfo c.deviceInfo)
    (canInfo : m.id = MessageId.canInfo → answer = .canInfo c.canInfo)
    (either : m.id = MessageId.deviceInfo ∨ m.id = MessageId.canInfo) :
    ∃ c', c.reply answer = .ok c' ∧ Handled m answer c c' := by
  obtain ⟨r, command, pushed, replied⟩ := c.exists_reply answer
  have fine (e : CommandError) : ¬c.config.Refuses m e := by
    refine Config.not_refuses known id (bare ▸ framed.holdsHeader) ?_ ?_
    · rintro rfl
      exact absurd bare (by decide)
    · rintro rfl
      exact absurd bare (by decide)
  have noCode (code : Int8) : answer ≠ .outcome code := by
    rcases either with id | id
    · rw [deviceInfo id]
      exact nofun
    · rw [canInfo id]
      exact nofun
  have still (c₁ : Channel σ) : ¬Applies m c c₁ := fun does => either.elim does.no_question.1 does.no_question.2
  exact ⟨_, replied, {
    offered := ⟨r, pushed⟩
    deviceInfo
    canInfo
    code := fun notDevice notCan => absurd either (not_or.2 ⟨notDevice, notCan⟩)
    short := iff_of_false (noCode _) (fine .short)
    param := iff_of_false (noCode _) (fine .param)
    unsupported := iff_of_false (noCode _) (fine .unsupported)
    applied := iff_of_false (noCode _) fun ⟨c₁, does⟩ => still c₁ does
    effect := fun c₁ does => absurd does (still c₁)
    refused := fun _ => rfl }⟩

/-- a setting request is answered with what came of it -/
theorem handled_setting (ready : c.Ready) (framed : m.Framed) (hello : m.id ≠ MessageId.hello)
    (deviceInfo : m.id ≠ MessageId.deviceInfo) (canInfo : m.id ≠ MessageId.canInfo) :
    ∃ answer c', c.request m = .ok c' ∧ Handled m answer c c' := by
  obtain ⟨o, c₁, run, refuses⟩ := judged ready framed hello deviceInfo canInfo
  have decided := decided_request run
  obtain ⟨r, command, pushed, replied⟩ := c₁.exists_reply (.outcome o.code)
  have answered : c.request m = .ok { c₁ with command } := by
    rw [request, if_neg hello, if_neg deviceInfo, if_neg canInfo]
    exact Checked.bind_eq_ok.2 ⟨_, run, replied⟩
  have tells (o' : Outcome) : Message.outcome o.code = .outcome o'.code ↔ o = o' := by
    rw [Message.outcome.injEq, Outcome.code_inj]
  have does {c₂ : Channel σ} (applies : Applies m c c₂) : o = .ok () ∧ c₁ = c₂ :=
    Prod.mk.inj (Except.ok.inj (run.symm.trans applies.run))
  have same : c₁.command = c.command ∧ c₁.config = c.config := by
    cases decided with
    | granted does => exact ⟨does.command, does.config⟩
    | refused => exact ⟨rfl, rfl⟩
  refine ⟨.outcome o.code, { c₁ with command }, answered, ?_⟩
  exact {
    offered := ⟨r, by rw [← same.1, ← same.2]; exact pushed⟩
    deviceInfo := fun id => absurd id deviceInfo
    canInfo := fun id => absurd id canInfo
    code := fun _ _ => ⟨o, rfl⟩
    short := (tells (.error .short)).trans (refuses .short)
    param := (tells (.error .param)).trans (refuses .param)
    unsupported := (tells (.error .unsupported)).trans (refuses .unsupported)
    applied := by
      refine (tells (.ok ())).trans ⟨?_, ?_⟩
      · rintro rfl
        cases decided with
        | granted applies => exact ⟨c₁, applies⟩
      · rintro ⟨c₂, applies⟩
        exact (does applies).1
    effect := by
      intro c₂ applies
      rw [(does applies).2]
    refused := by
      intro refused
      cases decided with
      | granted => exact absurd rfl refused
      | refused => rfl }

/-- every message but a greeting comes to its end, and is answered once -/
theorem exists_handled (ready : c.Ready) (framed : m.Framed) (hello : m.id ≠ MessageId.hello) :
    ∃ answer c', c.request m = .ok c' ∧ Handled m answer c c' := by
  by_cases deviceInfo : m.id = MessageId.deviceInfo
  · have canInfo : m.id ≠ MessageId.canInfo := by
      rw [deviceInfo]
      decide
    obtain ⟨c', replied, handled⟩ := handled_information (k := .deviceInfoRequest) (.deviceInfo c.deviceInfo)
      (by decide) framed deviceInfo rfl (fun _ => rfl) (fun id => absurd id canInfo) (.inl deviceInfo)
    refine ⟨_, c', ?_, handled⟩
    rw [request, if_neg hello, if_pos deviceInfo]
    exact replied
  by_cases canInfo : m.id = MessageId.canInfo
  · obtain ⟨c', replied, handled⟩ := handled_information (k := .canInfoRequest) (.canInfo c.canInfo) (by decide)
      framed canInfo rfl (fun id => absurd id deviceInfo) (fun _ => rfl) (.inr canInfo)
    refine ⟨_, c', ?_, handled⟩
    rw [request, if_neg hello, if_neg deviceInfo, if_pos canInfo]
    exact replied
  · exact handled_setting ready framed hello deviceInfo canInfo

theorem Handled.ready {answer : Message} (h : Handled m answer c c') (ready : c.Ready) : c'.Ready := by
  by_cases granted : ∃ c₁, Applies m c c₁
  · obtain ⟨c₁, does⟩ := granted
    rw [h.effect c₁ does]
    exact ready.of_same (does.coherent ready.coherent) does.config
  · rw [h.refused fun zero => granted (h.applied.1 zero)]
    exact ready.of_same ready.coherent rfl

/-! ## Message by message -/

/-- the messages of a buffer are handled one after the other, and answered in this order -/
inductive Serves : List RawMessage → List Message → Channel σ → Channel σ → Prop where
  | done (c : Channel σ) : Serves [] [] c c
  | request {m : RawMessage} {ms : List RawMessage} {answer : Message} {answers : List Message} {c c₁ c' : Channel σ}
      (hello : m.id ≠ MessageId.hello) (handled : Handled m answer c c₁) (later : Serves ms answers c₁ c') :
    Serves (m :: ms) (answer :: answers) c c'
  /-- the channel is reset, and all that waits on its command endpoint is the answer to the greeting; the messages
  behind it do not count -/
  | greeting {m : RawMessage} {ms : List RawMessage} {c c₁ : Channel σ} (hello : m.id = MessageId.hello)
      (reset : c.reset = .ok c₁) : Serves (m :: ms) [] c { c₁ with command := c₁.greeted }

theorem exists_serves {ms : List RawMessage} (framed : ∀ m ∈ ms, m.Framed) (ready : c.Ready) :
    ∃ answers c', (throughHello ms).foldlM (fun c m => c.request m) c = .ok c' ∧ Serves ms answers c c' := by
  induction ms generalizing c with
  | nil => exact ⟨[], c, rfl, .done c⟩
  | cons m ms ih =>
    obtain ⟨here, behind⟩ := List.forall_mem_cons.1 framed
    unfold throughHello
    by_cases hello : m.id = MessageId.hello
    · obtain ⟨settings, baseline⟩ := ready.baseline
      obtain ⟨c₁, reset⟩ : ∃ c₁, c.reset = .ok c₁ := ⟨_, Checked.bind_eq_ok.2 ⟨settings, baseline, rfl⟩⟩
      have greeted : c.request m = .ok { c₁ with command := c₁.greeted } := by
        rw [request, if_pos hello, hello_eq]
        exact Checked.map_eq_ok.2 ⟨c₁, reset, rfl⟩
      refine ⟨[], _, ?_, .greeting hello reset⟩
      rw [if_pos hello]
      exact Checked.bind_eq_ok.2 ⟨_, greeted, rfl⟩
    · obtain ⟨answer, c₁, handled, spec⟩ := exists_handled ready here hello
      obtain ⟨answers, c', later, serves⟩ := ih behind (spec.ready ready)
      refine ⟨answer :: answers, c', ?_, .request hello spec serves⟩
      rw [if_neg hello]
      exact Checked.bind_eq_ok.2 ⟨c₁, handled, later⟩

/-- a buffer as it is handled: a call of the walk, the message that it found, and so on, until the walk finds none or a
greeting was met -/
def handleFrom (w : Walker) (c : Channel σ) : Checked (Channel σ) :=
  match _found : w.next with
  | (some (.ok m), w') =>
    if m.id = MessageId.hello then c.request m
    else do
      let c ← c.request m
      handleFrom w' c
  | _ => .ok c
termination_by w.rest.length
decreasing_by
  have shorter := Walker.length_rest_next ‹_›
  simp only [headerLength] at shorter
  omega

/-- each message takes one step, in order, up to the first greeting -/
theorem handleFrom_eq {w w' : Walker} {ms : List RawMessage} {last : Option WireError} (path : Walker.Path w ms w')
    (halted : Walker.Halted w' last) (c : Channel σ) :
    c.handleFrom w = (throughHello ms).foldlM (fun c m => c.request m) c := by
  induction path generalizing c with
  | nil w =>
    have answer := halted.answer
    rw [handleFrom]
    split
    · rename_i found
      rw [found] at answer
      cases last <;> cases answer
    · rfl
  | @cons w w₁ w' m ms found _ ih =>
    obtain ⟨answer, -⟩ := found
    rw [handleFrom]
    split
    · rename_i found
      rw [answer] at found
      cases found
      unfold throughHello
      split
      · rw [List.foldlM_cons]
        exact (bind_pure _).symm
      · rw [List.foldlM_cons]
        exact bind_congr fun c => ih halted c
    · rename_i other
      exact absurd answer (other m w₁)

theorem commands_eq (bytes : Bytes) (c : Channel σ) : c.commands bytes = do
    let c ← c.handleFrom (.ofBytes bytes)
    return { c with command := ← c.command.flush } := by
  obtain ⟨ms, w', last, path, halted⟩ := Walker.exists_path 0 bytes
  rw [commands, Walker.messages_eq path halted, Walker.ofBytes, handleFrom_eq path halted]

end Channel

/-! ## How far a buffer counts -/

theorem throughHello_of_none {ms : List RawMessage} (none : ms.any (·.id == MessageId.hello) = false) :
    throughHello ms = ms := by
  induction ms with
  | nil => rfl
  | cons m ms ih =>
    rw [List.any_cons, Bool.or_eq_false_iff, beq_eq_false_iff_ne] at none
    rw [throughHello, if_neg none.1, ih none.2]

/-- behind a greeting, or where no messages follow, nothing is added -/
theorem throughHello_append {ms more : List RawMessage} (h : ms.any (·.id == MessageId.hello) = true ∨ more = []) :
    throughHello (throughHello ms ++ more) = throughHello ms := by
  induction ms with
  | nil =>
    obtain rfl := h.resolve_left nofun
    rfl
  | cons m ms ih =>
    rw [throughHello]
    split
    · rename_i hello
      exact if_pos hello
    · rename_i hello
      have rest : ms.any (·.id == MessageId.hello) = true ∨ more = [] := by
        rw [List.any_cons, Bool.or_eq_true, beq_iff_eq] at h
        exact h.imp_left fun h => h.resolve_left hello
      rw [List.cons_append, throughHello, if_neg hello, ih rest]

theorem exists_behindHello (ms : List RawMessage) : ∃ behind, ms = throughHello ms ++ behind := by
  induction ms with
  | nil => exact ⟨[], rfl⟩
  | cons m ms ih =>
    rw [throughHello]
    split
    · exact ⟨ms, rfl⟩
    · obtain ⟨behind, eq⟩ := ih
      exact ⟨behind, congrArg (m :: ·) eq⟩

/-- the bytes of a command buffer up to the end of the last message that counts -/
def counted (bytes : Bytes) : Bytes := (throughHello (messages bytes)).flatMap (·.bytes)

/-- what is left is behind a greeting, or holds no message -/
theorem exists_uncounted (bytes : Bytes) :
    ∃ rest, bytes = counted bytes ++ rest ∧ (greets bytes = true ∨ messages rest = []) := by
  obtain ⟨rest, split, none, -⟩ := Walker.exists_rest bytes
  obtain ⟨behind, all⟩ := exists_behindHello (messages bytes)
  cases greeting : greets bytes with
  | true =>
    refine ⟨behind.flatMap (·.bytes) ++ rest, ?_, .inl rfl⟩
    rw [counted, ← List.append_assoc, ← List.flatMap_append, ← all]
    exact split
  | false =>
    refine ⟨rest, ?_, .inr none⟩
    rw [counted, throughHello_of_none greeting]
    exact split

theorem throughHello_messages_counted {bytes rest : Bytes} (h : greets bytes = true ∨ messages rest = []) :
    throughHello (messages (counted bytes ++ rest)) = throughHello (messages bytes) := by
  obtain ⟨-, -, -, framed⟩ := Walker.exists_rest bytes
  rw [counted, Walker.messages_append fun m hm => framed m (Channel.mem_of_mem_throughHello hm)]
  exact throughHello_append h

theorem Channel.commands_counted {σ : Type} [Controller σ] (c : Channel σ) {bytes rest : Bytes}
    (h : greets bytes = true ∨ messages rest = []) : c.commands (counted bytes ++ rest) = c.commands bytes := by
  rw [commands, throughHello_messages_counted h, commands]

namespace Lane

/-- **Command buffers.** Take a channel in any state that it can come to, where the clock ticks of the upper limits fit
their word, and any bytes. The messages that the walk finds in them are handled one after the other, up to the first
greeting; then the answers go to the host if its endpoint is free. Each message but a greeting offers one answer, in its
turn: what it asked, or a code that tells whether it was applied or what is wrong with it; and one with something wrong
changes nothing. The bytes behind a greeting, and those behind a header that stops the walk, make no difference. -/
theorem commandBuffer_served {σ : Type} [Controller σ] {l : Lane σ} (reachable : l.Reachable)
    (nominal : l.channel.config.nominalRange.max.Fits)
    (data : ∀ range, l.channel.config.dataRange = some range → range.max.Fits) (bytes : Bytes) :
    (∃ answers c₁ command, Channel.Serves (messages bytes) answers l.channel c₁ ∧ c₁.command.flush = .ok command ∧
      l.channel.commands bytes = .ok { c₁ with command }) ∧
    (l.channel.commands bytes = do
      let c ← l.channel.handleFrom (.ofBytes bytes)
      return { c with command := ← c.command.flush }) ∧
    ∃ rest, bytes = counted bytes ++ rest ∧ (greets bytes = true ∨ messages rest = []) ∧
      (∀ rest', greets bytes = true ∨ messages rest' = [] →
        l.channel.commands (counted bytes ++ rest') = l.channel.commands bytes) ∧
      ∀ id len tail tail', rest = id :: len :: tail → tail'.length = tail.length →
        l.channel.commands (counted bytes ++ id :: len :: tail') = l.channel.commands bytes := by
  obtain ⟨-, -, -, framed⟩ := Walker.exists_rest bytes
  obtain ⟨answers, c₁, handled, serves⟩ := Channel.exists_serves framed (reachable.ready nominal data)
  obtain ⟨command, flushed, -⟩ := Endpoint.succeeds_flush aligned_commandBank c₁.command
  obtain ⟨rest, split, uncounted⟩ := exists_uncounted bytes
  refine ⟨⟨answers, c₁, command, serves, flushed, ?_⟩, l.channel.commands_eq bytes, rest, split, uncounted, ?_, ?_⟩
  · exact Checked.bind_eq_ok.2 ⟨c₁, handled, Checked.bind_eq_ok.2 ⟨command, flushed, rfl⟩⟩
  · exact fun rest' h => l.channel.commands_counted h
  · rintro id len tail tail' rfl same
    refine l.channel.commands_counted (uncounted.imp_right fun none => ?_)
    rw [Walker.messages_eq_nil_iff] at none ⊢
    rwa [same]

/-- a timing that is cut short, an operation that there is not, two modes at once, a feature that there is not, an
unknown command, the way onto the bus, and a header that asks for more than is there -/
def mixedBuffer : Bytes :=
  [5, 4, 0, 0] ++ [7, 8, 7, 0, 0, 0, 0, 0] ++ [7, 8, 1, 0, 0x60, 0, 0, 0] ++ [7, 8, 1, 0, 0, 1, 0, 0] ++
    [0x7f, 4, 0, 0] ++ [8, 4, 1, 0] ++ [8, 40, 1, 0]

/-- five requests are refused, each for its own reason, and the sixth is granted -/
theorem mixedBuffer_served : ∃ (l : Lane SimController) (answers : List Message) (c₁ c : Channel SimController),
    l.Reachable ∧ Channel.Serves (messages mixedBuffer) answers l.channel c₁ ∧
      l.channel.commands mixedBuffer = .ok c ∧ c = { c₁ with command := c.command } ∧ c.enabled = true ∧
      c.command.started = [[9, 4, 0xff, 0] ++ [9, 4, 0xfe, 0] ++ [9, 4, 0xfe, 0] ++ [9, 4, 0xfd, 0] ++
        [9, 4, 0xfd, 0] ++ [9, 4, 0, 0]] ∧
      ∀ tail : Bytes, tail.length = 2 → l.channel.commands (counted mixedBuffer ++ 8 :: 40 :: tail) = .ok c := by
  have ran : Checked.passes (fun (r : Channel SimController × Lane SimController) => decide (
      r.2.channel.config = .default ∧
      Checked.passes (fun c => decide (c.enabled = true ∧
        c.command.started = [[9, 4, 0xff, 0] ++ [9, 4, 0xfe, 0] ++ [9, 4, 0xfe, 0] ++ [9, 4, 0xfd, 0] ++
          [9, 4, 0xfd, 0] ++ [9, 4, 0, 0]])) (r.2.channel.commands mixedBuffer) = true))
      (Channel.create 0 .default ({} : SimController) >>= fun c =>
        (ofChannel { c with split := true }).plays [.op .mount] >>= fun l => pure (c, l)) = true := by
    decide +kernel
  obtain ⟨c₀, l, created, played, holds⟩ := Checked.of_passes_pair ran
  obtain ⟨config, answered⟩ := of_decide_eq_true holds
  obtain ⟨c, run, shown⟩ := Checked.of_passes answered
  obtain ⟨enabled, started⟩ := of_decide_eq_true shown
  have reachable : l.Reachable := ⟨_, _, ⟨0, .default, {}, c₀, created, rfl⟩, played⟩
  have nominal : l.channel.config.nominalRange.max.Fits := by
    rw [config]
    decide
  have data : ∀ range, l.channel.config.dataRange = some range → range.max.Fits := by
    rw [config]
    rintro range ⟨⟩
    decide
  obtain ⟨⟨answers, c₁, command, serves, -, again⟩, -, rest, split, -, -, behind⟩ :=
    commandBuffer_served reachable nominal data mixedBuffer
  obtain rfl := Except.ok.inj (run.symm.trans again)
  have header : rest = [8, 40, 1, 0] := List.append_cancel_left (split.symm.trans (by decide +kernel))
  refine ⟨l, answers, c₁, _, reachable, serves, run, rfl, enabled, started, fun tail two => ?_⟩
  rw [behind 8 40 [1, 0] tail header two, run]

end Lane

end CanAdapter
