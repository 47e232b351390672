/-
What transfers from the host do to a channel.

A message of the command pipe changes a channel in four ways only: an answer goes to the command endpoint, a setting
changes, the channel joins or leaves the bus, or a greeting resets it. `Requested` is all it can do, `request_cases`
that it does nothing else. `Kept P bytes` says that none of the changes which the messages of a buffer ask for breaks
`P`, and `commands_keep` that then the buffer does not. `commands_quiet` is what is left of a command buffer without a
greeting and without a way off the bus.

Every transmit request of a CAN buffer has one fate: the controller takes it, or it is dropped and that is reported on
the CAN endpoint, or not even the report found room. `Channel.fates` tells the fates of a buffer, and `Sent` what they
mean for the channel; `sent_transmissions` is the specification of a CAN buffer.
-/
import CanAdapter.Channel.Requests
import CanAdapter.Proofs.Source

namespace CanAdapter

/-- at most one bit timing was set -/
inductive Controller.Retimed {σ : Type} [Controller σ] (s : σ) : σ → Prop where
  | same : Retimed s s
  | nominal (t : BitTiming) : Retimed s (Controller.setNominal t s)
  | data (t : BitTiming) : Retimed s (Controller.setData t s)

namespace Channel

variable {σ : Type} {c c' : Channel σ} {P : Channel σ → Prop} {bytes : Bytes} {m : RawMessage} {outcome : Outcome}

/-! ## Command pipe -/

theorem mem_of_mem_throughHello {m : RawMessage} {ms : List RawMessage} (h : m ∈ throughHello ms) : m ∈ ms := by
  induction ms with
  | nil => exact h
  | cons x ms ih =>
    unfold throughHello at h
    split at h
    · exact List.mem_singleton.1 h ▸ List.mem_cons_self
    · rcases List.mem_cons.1 h with rfl | h
      · exact List.mem_cons_self
      · exact List.mem_cons_of_mem _ (ih h)

/-- a request acts if it reads as its layout, and else changes nothing -/
theorem apply_cases {α : Type} {l : Layout α} {f : α → Channel σ → Checked (Outcome × Channel σ)}
    (h : c.apply l m f = .ok (outcome, c')) :
    (c' = c ∧ ∀ a, l.decode c.config.order m.bytes ≠ .ok a) ∨
      ∃ a, l.decode c.config.order m.bytes = .ok a ∧ f a c = .ok (outcome, c') := by
  unfold apply at h
  split at h
  · rename_i e unread
    cases h
    exact .inl ⟨rfl, fun a read => by rw [unread] at read; cases read⟩
  · rename_i a read
    exact .inr ⟨a, read, h⟩

theorem reply_cases {answer : Message} (h : c.reply answer = .ok c') : ∃ command, c' = { c with command } := by
  obtain ⟨⟨r, command⟩, -, h⟩ := Checked.bind_eq_ok.1 h
  cases h
  exact ⟨command, rfl⟩

variable [Controller σ]

/-- all that one message of the command pipe can do to a channel, apart from its answer -/
inductive Requested (m : RawMessage) (c : Channel σ) : Channel σ → Prop where
  /-- nothing; a feature request that has no effect was refused, if it could be read at all -/
  | answered (hello : m.id ≠ MessageId.hello)
      (refused : m.id = MessageId.features → ∀ r, Layout.features.decode c.config.order m.bytes = .ok r →
        ∀ features, c.requestedFeatures r ≠ .ok features) : Requested m c c
  | timed {s : σ} {settings : Settings} (id : m.id = MessageId.nominalTiming ∨ m.id = MessageId.dataTiming)
      (set : Controller.Retimed c.controller s) (features : settings.features = c.settings.features) :
      Requested m c { c with controller := s, settings }
  | features {r : FeatureRequest} {features : Features} (id : m.id = MessageId.features)
      (read : Layout.features.decode c.config.order m.bytes = .ok r) (granted : c.requestedFeatures r = .ok features) :
      Requested m c { c with settings := { c.settings with features } }
  | bus {on : Bool} (id : m.id = MessageId.bus) (read : Layout.bus.decode c.config.order m.bytes = .ok on) :
      Requested m c (c.setBus on)
  | greeted {c' : Channel σ} (id : m.id = MessageId.hello) (reset : c.reset = .ok c') : Requested m c c'

theorem Requested.of_other (hello : m.id ≠ MessageId.hello) (features : m.id ≠ MessageId.features) : Requested m c c :=
  .answered hello fun id => absurd id features

theorem applyNominal_cases {t : BitTiming} (id : m.id = MessageId.nominalTiming)
    (h : c.applyNominal t = .ok (outcome, c')) : Requested m c c' := by
  obtain ⟨⟨_, c₁⟩, set, h⟩ := Checked.bind_eq_ok.1 h
  cases h
  obtain ⟨durations, -, set⟩ := Checked.bind_eq_ok.1 set
  cases set
  exact .timed (.inl id) (.nominal _) rfl

theorem applyData_cases {t : BitTiming} (id : m.id = MessageId.dataTiming)
    (h : c.applyData t = .ok (outcome, c')) : Requested m c c' := by
  obtain ⟨r, set, h⟩ := Checked.bind_eq_ok.1 h
  unfold setData at set
  split at set
  · cases set
    cases h
    exact .of_other (by rw [id]; decide) (by rw [id]; decide)
  · obtain ⟨durations, -, set⟩ := Checked.bind_eq_ok.1 set
    cases set
    cases h
    exact .timed (.inr id) (.data _) rfl

theorem applyFeatures_cases {r : FeatureRequest} (id : m.id = MessageId.features)
    (read : Layout.features.decode c.config.order m.bytes = .ok r)
    (h : c.applyFeatures r = .ok (outcome, c')) : Requested m c c' := by
  unfold applyFeatures setFeatures at h
  cases answer : c.requestedFeatures r with
  | error e =>
    rw [answer] at h
    cases h
    refine .answered (by rw [id]; decide) fun _ r' read' features => ?_
    cases read.symm.trans read'
    rw [answer]
    exact nofun
  | ok features =>
    rw [answer] at h
    cases h
    exact .features id read answer

theorem applyRequest_cases (hello : m.id ≠ MessageId.hello) (h : c.applyRequest m = .ok (outcome, c')) :
    Requested m c c' := by
  unfold applyRequest at h
  split at h
  · rename_i id
    rcases apply_cases h with ⟨rfl, -⟩ | ⟨t, -, h⟩
    · exact .of_other hello (by rw [id]; decide)
    · exact applyNominal_cases id h
  · split at h
    · rename_i id
      rcases apply_cases h with ⟨rfl, -⟩ | ⟨t, -, h⟩
      · exact .of_other hello (by rw [id]; decide)
      · exact applyData_cases id h
    · split at h
      · rename_i id
        rcases apply_cases h with ⟨rfl, unread⟩ | ⟨r, read, h⟩
        · exact .answered hello fun _ r read => absurd read (unread r)
        · exact applyFeatures_cases id read h
      · rename_i other
        split at h
        · rename_i id
          rcases apply_cases h with ⟨rfl, -⟩ | ⟨on, read, h⟩
          · exact .of_other hello other
          · cases h
            exact .bus id read
        · cases h
          exact .of_other hello other

/-- a message of the command pipe does one of these things, and the command endpoint may get an answer -/
theorem request_cases (h : c.request m = .ok c') : ∃ c₁ command, Requested m c c₁ ∧ c' = { c₁ with command } := by
  unfold request at h
  split at h
  · rename_i id
    obtain ⟨c₁, reset, h⟩ := Checked.bind_eq_ok.1 h
    simp only at h
    split at h <;> cases h <;> exact ⟨c₁, _, .greeted id reset, rfl⟩
  · rename_i hello
    split at h
    · rename_i id
      obtain ⟨command, rfl⟩ := reply_cases h
      exact ⟨c, command, .of_other hello (by rw [id]; decide), rfl⟩
    · split at h
      · rename_i id
        obtain ⟨command, rfl⟩ := reply_cases h
        exact ⟨c, command, .of_other hello (by rw [id]; decide), rfl⟩
      · obtain ⟨⟨o, c₁⟩, applied, h⟩ := Checked.bind_eq_ok.1 h
        obtain ⟨command, rfl⟩ := reply_cases h
        exact ⟨c₁, command, applyRequest_cases hello applied, rfl⟩

/-- a property that no change breaks which the messages of a command buffer ask for -/
structure Kept (P : Channel σ → Prop) (bytes : Bytes) : Prop where
  reply : ∀ {c : Channel σ} (command : Endpoint commandBank), P c → P { c with command }
  retime : ∀ {c : Channel σ} {s : σ} (settings : Settings), Controller.Retimed c.controller s → P c →
    P { c with controller := s, settings }
  bus : ∀ {c : Channel σ} {m : RawMessage} {on : Bool}, m ∈ messages bytes → m.id = MessageId.bus →
    Layout.bus.decode c.config.order m.bytes = .ok on → P c → P (c.setBus on)
  hello : ∀ {c c' : Channel σ} {m : RawMessage}, m ∈ messages bytes → m.id = MessageId.hello → c.reset = .ok c' →
    P c → P c'

theorem request_keeps (kept : Kept P bytes) (hm : m ∈ messages bytes) (h : c.request m = .ok c') (hc : P c) : P c' := by
  obtain ⟨c₁, command, did, rfl⟩ := request_cases h
  refine kept.reply command ?_
  cases did with
  | answered => exact hc
  | timed id set => exact kept.retime _ set hc
  | features => exact kept.retime _ .same hc
  | bus id read => exact kept.bus hm id read hc
  | greeted id reset => exact kept.hello hm id reset hc

theorem commands_keep (kept : Kept P bytes) (h : c.commands bytes = .ok c') (hc : P c) : P c' := by
  obtain ⟨c₁, hf, h⟩ := Checked.bind_eq_ok.1 h
  obtain ⟨command, -, h⟩ := Checked.bind_eq_ok.1 h
  cases h
  refine kept.reply command (Checked.foldlM_keeps ?_ hf hc)
  intro m hm c c' h hc
  exact request_keeps kept (mem_of_mem_throughHello hm) h hc

/-- a command buffer without a greeting, and without a message that asks the channel to leave the bus -/
def Quiet (o : ByteOrder) (bytes : Bytes) : Prop :=
  ∀ m ∈ messages bytes, m.id ≠ MessageId.hello ∧ (m.id = MessageId.bus → Layout.bus.decode o m.bytes ≠ .ok false)

/-- Within a session a quiet command buffer changes settings and answers only. What holds of the controller, and stays
true when its timing is set, still holds. -/
theorem commands_quiet {I : σ → Prop} (retime : ∀ {s s' : σ}, Controller.Retimed s s' → I s → I s')
    (quiet : Quiet c.config.order bytes) (enabled : c.enabled = true) (h : c.commands bytes = .ok c')
    (hi : I c.controller) :
    c' = { c with command := c'.command, controller := c'.controller, settings := c'.settings } ∧ I c'.controller := by
  have kept : Kept (fun d : Channel σ =>
      d = { c with command := d.command, controller := d.controller, settings := d.settings } ∧ I d.controller) bytes :=
    { reply := fun command hd => ⟨by rw [hd.1], hd.2⟩
      retime := fun settings s hd => ⟨by rw [hd.1], retime s hd.2⟩
      bus := fun {d m on} hm id read hd => by
        have order : d.config.order = c.config.order := congrArg (·.config.order) hd.1
        have on : on = true := by
          cases on with
          | false => exact absurd (order ▸ read) ((quiet m hm).2 id)
          | true => rfl
        have enabled : d.enabled = true := (congrArg (·.enabled) hd.1).trans enabled
        rw [setBus_of_enabled (enabled.trans on.symm)]
        exact hd
      hello := fun hm id => absurd id (quiet _ hm).1 }
  exact commands_keep kept h ⟨rfl, hi⟩

end Channel

/-! ## CAN pipe -/

/-- what became of a transmit request -/
inductive Fate where
  /-- the controller took it -/
  | forwarded
  /-- it was dropped, and the report on that is on its way to the host -/
  | reported (r : TxReport)
  /-- it was dropped, and there was no room for a report -/
  | unreported
deriving DecidableEq

namespace Fate

def report? : Fate → Option TxReport
  | reported r => some r
  | _ => none

/-- the messages that tell the host -/
def messages : Fate → List Message
  | reported r => [.transmitted r]
  | _ => []

/-- the request with the given number was dropped, and a report on that says so -/
def Drops (track : UInt8) (f : Fate) : Prop := f = .unreported ∨ ∃ t, f = .reported ⟨track, .drp, t⟩

theorem Drops.ne_forwarded {track : UInt8} {f : Fate} (h : f.Drops track) : f ≠ .forwarded := by
  rcases h with rfl | ⟨t, rfl⟩ <;> exact nofun

end Fate

/-- the controller was offered the requests that there were credits for; it took those that were forwarded -/
inductive Controller.Offered {σ : Type} [Controller σ] : List (TxRequest × Fate) → σ → σ → Prop where
  | nil (s : σ) : Offered [] s s
  | forwarded {r : TxRequest} {s s' : σ} {fates : List (TxRequest × Fate)}
      (took : (Controller.submit r.frame r.track s).1 = true)
      (later : Offered fates (Controller.submit r.frame r.track s).2 s') : Offered ((r, .forwarded) :: fates) s s'
  | refused {r : TxRequest} {f : Fate} {s s' : σ} {fates : List (TxRequest × Fate)} (dropped : f.Drops r.track)
      (refused : (Controller.submit r.frame r.track s).1 = false)
      (later : Offered fates (Controller.submit r.frame r.track s).2 s') : Offered ((r, f) :: fates) s s'
  | unpaid {r : TxRequest} {f : Fate} {s s' : σ} {fates : List (TxRequest × Fate)} (dropped : f.Drops r.track)
      (later : Offered fates s s') : Offered ((r, f) :: fates) s s'

theorem Controller.Offered.append {σ : Type} [Controller σ] {fates more : List (TxRequest × Fate)} {s s' s'' : σ}
    (h : Offered fates s s') (h' : Offered more s' s'') : Offered (fates ++ more) s s'' := by
  induction h with
  | nil => exact h'
  | forwarded took _ ih => exact .forwarded took (ih h')
  | refused dropped refused _ ih => exact .refused dropped refused (ih h')
  | unpaid dropped _ ih => exact .unpaid dropped (ih h')

namespace Channel

variable {σ : Type} [Controller σ] {c c' c'' : Channel σ} {fs more : List (TxRequest × Fate)}

/-- the fate of a request that does not get to the controller -/
def dropFate (track : UInt8) (c : Channel σ) : Checked Fate := do
  let report : TxReport := ⟨track, .drp, Controller.timestamp c.controller⟩
  let (r, _) ← c.can.push c.config.order (.transmitted report)
  match r with
  | .ok () => return .reported report
  | .error _ => return .unreported

/-- the fate of a transmit request -/
def fate (r : TxRequest) (c : Channel σ) : Checked Fate :=
  match c.takeCredit with
  | none => c.dropFate r.track
  | some c =>
    match Controller.submit r.frame r.track c.controller with
    | (true, _) => .ok .forwarded
    | (false, controller) => { c with controller }.dropFate r.track

/-- the request that a message of the CAN pipe is, if it is one, and its fate -/
def fateOf (m : RawMessage) (c : Channel σ) : Checked (List (TxRequest × Fate)) :=
  if m.id = MessageId.transmit then
    match Layout.transmit.decode c.config.order m.bytes with
    | .error _ => .ok []
    | .ok r => do
      return [(r, ← c.fate r)]
  else .ok []

/-- the requests of a CAN buffer in order, and their fates -/
def fates : List RawMessage → Channel σ → Checked (List (TxRequest × Fate))
  | [], _ => .ok []
  | m :: ms, c => do
    let here ← c.fateOf m
    let c ← c.transmission m
    return here ++ (← fates ms c)

/-- all that transmit requests with the given fates do -/
structure Sent (fs : List (TxRequest × Fate)) (c c' : Channel σ) : Prop where
  /-- nothing else in the channel changed -/
  channel : c' = { c with
    controller := c'.controller
    can := c'.can
    credits := c'.credits
    dropped := c'.dropped
    desync := c'.desync
    wake := c'.wake }
  controller : Controller.Offered fs c.controller c'.controller
  can : Endpoint.Posts c.config.order (fs.flatMap (·.2.messages)) c.can c'.can
  /-- dropped requests are counted, up to the largest count -/
  dropped : c'.dropped.toNat = min (c.dropped.toNat + fs.countP (·.2 != .forwarded)) Queue.maxLost
  /-- each frame that the controller took has cost a credit, and no other request has -/
  credits : c.credits.toNat ≤ c.config.txFifo.toNat →
    c'.credits.toNat + fs.countP (·.2 == .forwarded) = c.credits.toNat
  desync : c'.desync = (c.desync || fs.any (·.2 == .unreported))
  /-- whoever touches the CAN endpoint tells the reporting task -/
  wake : (c'.wake = c.wake ∧ c'.can = c.can) ∨ c'.wake = true

namespace Sent

theorem refl (c : Channel σ) : Sent [] c c where
  channel := rfl
  controller := .nil _
  can := Endpoint.Posts.refl _ _
  dropped := by
    have bound := c.dropped.toNat_lt
    simp only [List.countP_nil, Nat.add_zero, Queue.maxLost]
    omega
  credits _ := rfl
  desync := by simp
  wake := .inl ⟨rfl, rfl⟩

theorem trans (h : Sent fs c c') (h' : Sent more c' c'') : Sent (fs ++ more) c c'' where
  channel := h'.channel.trans (congrArg (fun d : Channel σ => { d with
    controller := c''.controller
    can := c''.can
    credits := c''.credits
    dropped := c''.dropped
    desync := c''.desync
    wake := c''.wake }) h.channel)
  controller := h.controller.append h'.controller
  can := by
    have order : c'.config.order = c.config.order := congrArg (·.config.order) h.channel
    rw [List.flatMap_append]
    exact h.can.trans (order ▸ h'.can)
  dropped := by
    rw [h'.dropped, h.dropped, List.countP_append]
    omega
  credits within := by
    have places : c'.config.txFifo = c.config.txFifo := congrArg (·.config.txFifo) h.channel
    have first := h.credits within
    have later := h'.credits (by rw [places]; omega)
    rw [List.countP_append]
    omega
  desync := by rw [h'.desync, h.desync, List.any_append, Bool.or_assoc]
  wake := by
    rcases h'.wake with ⟨same', can'⟩ | told
    · rcases h.wake with ⟨same, can⟩ | told
      · exact .inl ⟨same'.trans same, can'.trans can⟩
      · exact .inr (same'.trans told)
    · exact .inr told

end Sent

/-- from the channel as it is when the controller has been asked, or need not be -/
theorem dropRequest_cases {track : UInt8} (h : c.dropRequest track = .ok c') :
    ∃ f can dropped desync, c.dropFate track = .ok f ∧ f.Drops track ∧
      Endpoint.Posts c.config.order f.messages c.can can ∧ dropped.toNat = min (c.dropped.toNat + 1) Queue.maxLost ∧
      desync = (c.desync || f == .unreported) ∧ c' = { c with can, dropped, desync, wake := true } := by
  obtain ⟨⟨r, can⟩, hp, h⟩ := Checked.bind_eq_ok.1 h
  have posted := Endpoint.posts_push (Message.isReply_transmitted _) hp
  cases r with
  | ok _ =>
    cases h
    refine ⟨.reported _, can, _, c.desync, ?_, .inr ⟨_, rfl⟩, posted, toNat_countUp _, by simp, rfl⟩
    simp only at hp
    simp only [dropFate, hp, bind, Except.bind, pure, Except.pure]
  | error _ =>
    cases h
    refine ⟨.unreported, can, _, true, ?_, .inl rfl, posted, toNat_countUp _, by simp, rfl⟩
    simp only at hp
    simp only [dropFate, hp, bind, Except.bind, pure, Except.pure]

theorem send_cases {r : TxRequest} (h : c.send r = .ok c') : ∃ f, c.fate r = .ok f ∧ Sent [(r, f)] c c' := by
  unfold send at h
  unfold fate takeCredit at *
  by_cases broke : c.credits = 0
  · simp only [broke, ↓reduceIte] at h ⊢
    obtain ⟨f, can, dropped, desync, hf, lost, posted, counted, flag, rfl⟩ := dropRequest_cases h
    exact ⟨f, hf, {
      channel := rfl
      controller := .unpaid lost (.nil _)
      can := by simpa using posted
      dropped := by simpa [lost.ne_forwarded] using counted
      credits := fun _ => by simp [lost.ne_forwarded]
      desync := by simpa using flag
      wake := .inr rfl }⟩
  · simp only [broke, ↓reduceIte] at h ⊢
    generalize answer : Controller.submit r.frame r.track c.controller = a at h ⊢
    obtain ⟨took, controller⟩ := a
    cases took with
    | true =>
      cases h
      exact ⟨.forwarded, rfl, {
        channel := rfl
        controller := .forwarded (by rw [answer]) (by rw [answer]; exact .nil _)
        can := Endpoint.Posts.refl _ _
        dropped := by simpa using (Sent.refl c).dropped
        credits := fun _ => by simpa using toNat_taken broke
        desync := by simp
        wake := .inl ⟨rfl, rfl⟩ }⟩
    | false =>
      obtain ⟨c₁, hc, h⟩ := Checked.bind_eq_ok.1 h
      cases returnCredit_eq hc
      obtain ⟨f, can, dropped, desync, hf, lost, posted, counted, flag, rfl⟩ := dropRequest_cases h
      exact ⟨f, hf, {
        channel := rfl
        controller := .refused lost (by rw [answer]) (by rw [answer]; exact .nil _)
        can := by simpa using posted
        dropped := by simpa [lost.ne_forwarded] using counted
        credits := fun within => by
          have taken := toNat_taken broke
          simp only [toNat_returned, lost.ne_forwarded, beq_iff_eq, not_false_eq_true, List.countP_cons_of_neg,
            List.countP_nil]
          omega
        desync := by simpa using flag
        wake := .inr rfl }⟩

theorem transmission_cases {m : RawMessage} (h : c.transmission m = .ok c') :
    ∃ fs, c.fateOf m = .ok fs ∧ Sent fs c c' := by
  unfold transmission at h
  unfold fateOf
  by_cases id : m.id = MessageId.transmit
  · simp only [id, ↓reduceIte] at h ⊢
    cases read : Layout.transmit.decode c.config.order m.bytes with
    | error e =>
      rw [read] at h
      cases h
      exact ⟨[], rfl, .refl _⟩
    | ok r =>
      rw [read] at h
      obtain ⟨f, hf, sent⟩ := send_cases h
      exact ⟨[(r, f)], by simp [hf, bind, Except.bind, pure, Except.pure], sent⟩
  · simp only [id, ↓reduceIte] at h ⊢
    cases h
    exact ⟨[], rfl, .refl _⟩

/-- induction on the messages of the buffer -/
theorem sent_transmissions {bytes : Bytes} (h : c.transmissions bytes = .ok c') :
    ∃ fs, c.fates (messages bytes) = .ok fs ∧ Sent fs c c' := by
  unfold transmissions at h
  generalize messages bytes = ms at h ⊢
  induction ms generalizing c with
  | nil =>
    cases h
    exact ⟨[], rfl, .refl _⟩
  | cons m ms ih =>
    rw [List.foldlM_cons] at h
    obtain ⟨c₁, hm, h⟩ := Checked.bind_eq_ok.1 h
    obtain ⟨here, hh, first⟩ := transmission_cases hm
    obtain ⟨later, hl, rest⟩ := ih h
    exact ⟨here ++ later, by simp [fates, hh, hm, hl, bind, Except.bind, pure, Except.pure], first.trans rest⟩

end Channel

end CanAdapter
