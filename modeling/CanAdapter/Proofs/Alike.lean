/-
Channels that behave alike from now on. Two rings are alike if they hold the same items, wherever their counters stand.
Two endpoints are alike if their banks have the same content and the same transfers were started since two points of
their histories. Two channels are alike if they differ in nothing but the insides of their rings and what their
endpoints and the logs of their controllers hold from before those points.

For each operation there is a lemma, named after it, which says that alike channels answer alike and stay alike, or stop
with the same fault: `Channel.Alike.commands`, `Channel.Alike.transmissions`, `Channel.Alike.poll` and their parts.
-/
import CanAdapter.Channel.Poll
import CanAdapter.Channel.Requests
import CanAdapter.Lane.Drain
import CanAdapter.Proofs.Batch
import CanAdapter.Proofs.TwoRuns

namespace CanAdapter

open Checked

/-! ## Rings -/

namespace Ring

variable {α : Type} {k : Nat} {r₁ r₂ : Ring α k}

/-- the same items -/
structure Alike (r₁ r₂ : Ring α k) : Prop where
  toList : r₁.toList = r₂.toList
  staged : r₁.staged = r₂.staged

theorem Alike.room (h : Alike r₁ r₂) : r₁.room = r₂.room := by
  unfold Ring.room
  rw [h.toList, h.staged]

theorem Alike.used (h : Alike r₁ r₂) : r₁.used = r₂.used := by
  rw [← length_toList, ← length_toList, h.toList]

theorem Alike.peek (h : Alike r₁ r₂) : r₁.peek = r₂.peek := by
  rw [peek_eq, peek_eq, h.toList]

theorem Alike.consume (h : Alike r₁ r₂) : Alike r₁.consume r₂.consume := by
  refine ⟨?_, ?_⟩
  · rw [toList_consume, toList_consume, h.toList]
  · rw [staged_consume, staged_consume, h.staged]

theorem Alike.pop (h : Alike r₁ r₂) : SameAnswer Alike r₁.pop r₂.pop := by
  have same := h.peek
  unfold Ring.pop
  rw [same]
  cases r₂.peek with
  | none => exact ⟨rfl, h⟩
  | some a => exact ⟨rfl, h.consume⟩

theorem alike_clear (h : r₁.staged = r₂.staged) : Alike r₁.clear r₂.clear := by
  refine ⟨?_, ?_⟩
  · rw [toList_clear, toList_clear]
  · rw [staged_clear, staged_clear, h]

theorem Alike.pushAll (h : Alike r₁ r₂) (as : List α) : SameAnswer Alike (r₁.pushAll as) (r₂.pushAll as) := by
  have all (r : Ring α k) : (r.pushAll as).2.toList = r.toList ++ (r.staged ++ as.take r.room) := by
    rw [← staged_stageAll, ← toList_stageAll as r]
    exact toList_publish _
  refine ⟨?_, ?_, ?_⟩
  · rw [fst_pushAll, fst_pushAll, h.room]
  · rw [all, all, h.toList, h.staged, h.room]
  · exact (closed_pushAll as r₁).trans (closed_pushAll as r₂).symm

/-- a batch of one -/
theorem push_eq (r : Ring α k) (a : α) : r.push a = (decide (0 < r.room), (r.pushAll [a]).2) :=
  Prod.ext (fst_push a r) rfl

theorem Alike.push (h : Alike r₁ r₂) (a : α) : SameAnswer Alike (r₁.push a) (r₂.push a) := by
  rw [push_eq, push_eq, h.room]
  exact ⟨rfl, (h.pushAll [a]).2⟩

theorem lost_pushAll_congr (h : Alike r₁ r₂) (lost : r₁.lost = r₂.lost) (as : List α) :
    (r₁.pushAll as).2.lost = (r₂.pushAll as).2.lost := by
  apply UInt16.toNat_inj.1
  rw [lost_pushAll, lost_pushAll, lost, h.room]

end Ring

/-! ## Endpoints -/

namespace Endpoint

variable {size : Nat} {p₁ p₂ : List Bytes} {e₁ e₂ : Endpoint size}

/-- the same content, and since `p₁` and `p₂` the same transfers -/
structure Alike (p₁ p₂ : List Bytes) (e₁ e₂ : Endpoint size) : Prop where
  filling : e₁.filling = e₂.filling
  sending : e₁.sending = e₂.sending
  started : Continues p₁ p₂ e₁.started e₂.started

theorem Alike.appendMessage (h : Alike p₁ p₂ e₁ e₂) (o : ByteOrder) (m : Message) :
    Option.Rel (Alike p₁ p₂) (e₁.appendMessage o m) (e₂.appendMessage o m) := by
  unfold Endpoint.appendMessage remaining
  rw [h.filling]
  split
  · exact .some ⟨rfl, h.sending, h.started⟩
  · exact .none

theorem Alike.start (h : Alike p₁ p₂ e₁ e₂) (transfer : Bytes) :
    Agree (Alike p₁ p₂) (e₁.start transfer) (e₂.start transfer) := by
  unfold Endpoint.start
  rw [h.sending]
  split
  · exact .ok ⟨rfl, rfl, h.started.append _⟩
  · exact .error _

theorem Alike.submit (h : Alike p₁ p₂ e₁ e₂) : Agree (Agree (Alike p₁ p₂)) e₁.submit e₂.submit := by
  unfold Endpoint.submit hasPending ready
  rw [h.filling, h.sending]
  split
  · exact .ok (.error _)
  · split
    · exact .ok (.error _)
    · exact agree_bind _ fun transfer => (h.start transfer).bind fun _ _ started => .ok (.ok started)

theorem Alike.trySubmit (h : Alike p₁ p₂ e₁ e₂) : Agree (Alike p₁ p₂) e₁.trySubmit e₂.trySubmit := by
  refine h.submit.bind ?_
  intro r₁ r₂ submitted
  cases submitted with
  | ok submitted => exact .ok submitted
  | error err => exact .ok h

theorem Alike.flush (h : Alike p₁ p₂ e₁ e₂) : Agree (Alike p₁ p₂) e₁.flush e₂.flush := by
  unfold Endpoint.flush hasPending ready
  rw [h.filling, h.sending]
  split
  · exact h.trySubmit
  · exact .ok h

theorem Alike.complete (h : Alike p₁ p₂ e₁ e₂) : Agree (Alike p₁ p₂) e₁.complete e₂.complete := by
  unfold Endpoint.complete hasPending
  simp only
  rw [h.filling]
  split
  · exact Alike.trySubmit ⟨rfl, rfl, h.started⟩
  · exact .ok ⟨rfl, rfl, h.started⟩

theorem Alike.discard (h : Alike p₁ p₂ e₁ e₂) : Alike p₁ p₂ e₁.discard e₂.discard := { h with filling := rfl }

theorem Alike.reset (h : Alike p₁ p₂ e₁ e₂) : Alike p₁ p₂ e₁.reset e₂.reset := ⟨rfl, rfl, h.started⟩

theorem Alike.push (h : Alike p₁ p₂ e₁ e₂) (o : ByteOrder) (m : Message) :
    Agree (SameAnswer (Alike p₁ p₂)) (e₁.push o m) (e₂.push o m) := by
  have first := h.appendMessage o m
  unfold Endpoint.push hasPending remaining
  rw [h.filling]
  generalize e₁.appendMessage o m = x at first ⊢
  generalize e₂.appendMessage o m = y at first ⊢
  cases first with
  | some fits => exact .ok ⟨rfl, fits⟩
  | none =>
    simp only
    split
    · exact .ok ⟨rfl, h⟩
    · refine h.submit.bind ?_
      intro r₁ r₂ submitted
      cases submitted with
      | error err => exact .ok ⟨rfl, h⟩
      | @ok d₁ d₂ submitted =>
        have second := submitted.appendMessage o m
        simp only
        generalize d₁.appendMessage o m = x at second ⊢
        generalize d₂.appendMessage o m = y at second ⊢
        cases second with
        | some fits => exact .ok ⟨rfl, fits⟩
        | none => exact .ok ⟨rfl, submitted⟩

/-- a message is offered, and lost if there is no room -/
theorem Alike.offer (h : Alike p₁ p₂ e₁ e₂) (o : ByteOrder) (m : Message) :
    Alike p₁ p₂ ((e₁.appendMessage o m).getD e₁) ((e₂.appendMessage o m).getD e₂) := by
  have offered := h.appendMessage o m
  generalize e₁.appendMessage o m = x at offered ⊢
  generalize e₂.appendMessage o m = y at offered ⊢
  cases offered with
  | some fits => exact fits
  | none => exact h

/-- the same points can be set anew -/
theorem Alike.rebase (h : Alike p₁ p₂ e₁ e₂) : Alike e₁.started e₂.started e₁ e₂ := { h with started := .refl _ _ }

end Endpoint

/-! ## Channels -/

namespace Channel

section

variable {σ : Type} {c₁ c₂ : Channel σ}

theorem deviceInfo_congr (index : c₁.index = c₂.index) (config : c₁.config = c₂.config) :
    c₁.deviceInfo = c₂.deviceInfo := by
  unfold deviceInfo
  rw [index, config]

theorem canInfo_congr (config : c₁.config = c₂.config) : c₁.canInfo = c₂.canInfo := by
  unfold canInfo
  rw [config]

/-- what a greeting leaves on the command endpoint -/
def greeted (c : Channel σ) : Endpoint commandBank :=
  (c.command.discard.appendMessage c.config.order
    (.greeting ⟨protocolVersion, c.config.order, UInt16.ofNat commandBank⟩)).getD c.command.discard

theorem alike_greeted {p₁ p₂ : List Bytes} (config : c₁.config = c₂.config)
    (h : Endpoint.Alike p₁ p₂ c₁.command c₂.command) : Endpoint.Alike p₁ p₂ c₁.greeted c₂.greeted := by
  unfold greeted
  rw [config]
  exact h.discard.offer _ _

theorem hello_eq [Controller σ] (c : Channel σ) : c.hello = (fun c => { c with command := c.greeted }) <$> c.reset := by
  unfold hello greeted
  rw [map_eq_pure_bind]
  refine bind_congr ?_
  intro c
  simp only
  split <;> rename_i fits <;> rw [fits] <;> rfl

end

variable {σ : Type} {b₁ b₂ c₁ c₂ : Channel (Logged σ)}

/-- since `b₁` and `b₂` the same transfers and the same calls, and now nothing that could be told apart later -/
structure Alike (b₁ b₂ c₁ c₂ : Channel (Logged σ)) : Prop where
  index : c₁.index = c₂.index
  config : c₁.config = c₂.config
  controller : Logged.Alike b₁.controller.calls b₂.controller.calls c₁.controller c₂.controller
  settings : c₁.settings = c₂.settings
  command : Endpoint.Alike b₁.command.started b₂.command.started c₁.command c₂.command
  can : Endpoint.Alike b₁.can.started b₂.can.started c₁.can c₂.can
  rx : Ring.Alike c₁.rx c₂.rx
  lost : c₁.rx.lost = c₂.rx.lost
  tx : Ring.Alike c₁.tx c₂.tx
  status : Ring.Alike c₁.status c₂.status
  errors : Ring.Alike c₁.errors c₂.errors
  mounted : c₁.mounted = c₂.mounted
  enabled : c₁.enabled = c₂.enabled
  desync : c₁.desync = c₂.desync
  credits : c₁.credits = c₂.credits
  dropped : c₁.dropped = c₂.dropped
  queueFlags : c₁.queueFlags = c₂.queueFlags
  published : c₁.published = c₂.published
  wake : c₁.wake = c₂.wake

/-! ### Without the controller -/

theorem Alike.signal (h : Alike b₁ b₂ c₁ c₂) : Alike b₁ b₂ c₁.signal c₂.signal := { h with wake := rfl }

theorem Alike.setMounted (h : Alike b₁ b₂ c₁ c₂) (on : Bool) : Alike b₁ b₂ (c₁.setMounted on) (c₂.setMounted on) :=
  { h with mounted := rfl, wake := rfl }

theorem Alike.takeCredit (h : Alike b₁ b₂ c₁ c₂) : Option.Rel (Alike b₁ b₂) c₁.takeCredit c₂.takeCredit := by
  unfold Channel.takeCredit
  rw [h.credits]
  split
  · exact .none
  · exact .some { h with credits := rfl }

theorem Alike.returnCredit (h : Alike b₁ b₂ c₁ c₂) : Agree (Alike b₁ b₂) c₁.returnCredit c₂.returnCredit := by
  unfold Channel.returnCredit
  rw [h.credits, h.config]
  refine agree_bind _ ?_
  intro more
  split
  · exact .ok { h with config := rfl, credits := rfl }
  · exact .ok h

theorem Alike.setFeatures (h : Alike b₁ b₂ c₁ c₂) (r : FeatureRequest) :
    Agree (SameAnswer (Alike b₁ b₂)) (c₁.setFeatures r) (c₂.setFeatures r) := by
  unfold Channel.setFeatures requestedFeatures
  rw [h.config, h.settings]
  exact agree_bind _ fun features => .ok ⟨rfl, { h with config := rfl, settings := rfl }⟩

theorem Alike.applyFeatures (h : Alike b₁ b₂ c₁ c₂) (r : FeatureRequest) :
    Agree (SameAnswer (Alike b₁ b₂)) (c₁.applyFeatures r) (c₂.applyFeatures r) := by
  have set := h.setFeatures r
  unfold Channel.applyFeatures
  generalize c₁.setFeatures r = x at set ⊢
  generalize c₂.setFeatures r = y at set ⊢
  cases set with
  | ok set => exact .ok ⟨rfl, set.2⟩
  | error e => exact .ok ⟨rfl, h⟩

theorem Alike.reply (h : Alike b₁ b₂ c₁ c₂) (m : Message) : Agree (Alike b₁ b₂) (c₁.reply m) (c₂.reply m) := by
  unfold Channel.reply
  rw [h.config]
  exact (h.command.push _ m).bind fun r₁ r₂ pushed => .ok { h with config := rfl, command := pushed.2 }

theorem Alike.apply {α : Type} {f : α → Channel (Logged σ) → Checked (Outcome × Channel (Logged σ))}
    (h : Alike b₁ b₂ c₁ c₂) (acts : ∀ a, Agree (SameAnswer (Alike b₁ b₂)) (f a c₁) (f a c₂)) (l : Layout α)
    (m : RawMessage) : Agree (SameAnswer (Alike b₁ b₂)) (c₁.apply l m f) (c₂.apply l m f) := by
  unfold Channel.apply
  rw [h.config]
  split
  · exact .ok ⟨rfl, h⟩
  · exact acts _

theorem Alike.note (h : Alike b₁ b₂ c₁ c₂) (notes : PollNotes) : Alike b₁ b₂ (c₁.note notes) (c₂.note notes) := by
  unfold Channel.note
  rw [h.queueFlags, h.desync, h.wake]
  exact { h with queueFlags := rfl, desync := rfl, wake := rfl }

theorem Alike.makeRoom (h : Alike b₁ b₂ c₁ c₂) (len : Nat) :
    Agree (Option.Rel (Alike b₁ b₂)) (c₁.makeRoom len) (c₂.makeRoom len) := by
  unfold Channel.makeRoom Endpoint.remaining Endpoint.ready
  rw [h.can.filling, h.can.sending]
  split
  · split
    · exact .ok .none
    · exact h.can.trySubmit.bind fun _ _ submitted => .ok (.some { h with can := submitted })
  · exact .ok (.some h)

theorem Alike.appendCan (h : Alike b₁ b₂ c₁ c₂) (m : Message) :
    Option.Rel (Endpoint.Alike b₁.can.started b₂.can.started) (c₁.can.appendMessage c₁.config.order m)
      (c₂.can.appendMessage c₂.config.order m) := by
  rw [h.config]
  exact h.can.appendMessage _ m

theorem Alike.place (h : Alike b₁ b₂ c₁ c₂) (m : Message) :
    Agree (SameAnswer (Alike b₁ b₂)) (c₁.place m) (c₂.place m) := by
  refine (h.makeRoom _).bind ?_
  intro r₁ r₂ made
  cases made with
  | none => exact .ok ⟨rfl, h⟩
  | @some d₁ d₂ made =>
    have placed := made.appendCan m
    simp only
    generalize d₁.can.appendMessage _ _ = x at placed ⊢
    generalize d₂.can.appendMessage _ _ = y at placed ⊢
    cases placed with
    | none => exact .ok ⟨rfl, made⟩
    | some fits => exact .ok ⟨rfl, { made with can := fits }⟩

variable [Controller σ]

/-! ### Life cycle -/

theorem Alike.reset (h : Alike b₁ b₂ c₁ c₂) : Agree (Alike b₁ b₂) c₁.reset c₂.reset := by
  unfold Channel.reset
  rw [h.config]
  refine agree_bind _ fun settings => .ok { h with
    config := rfl
    controller := .step ?_ (.setFeatures settings.features) (Controller.setFeatures settings.features)
    settings := rfl
    can := h.can.reset
    rx := ⟨h.rx.toList, h.rx.staged⟩
    lost := rfl
    enabled := rfl
    desync := rfl
    credits := rfl
    dropped := rfl
    queueFlags := rfl
    published := rfl
    wake := rfl }
  have timed := (h.controller.step .reset Controller.reset).step (.setNominal settings.nominal)
    (Controller.setNominal settings.nominal)
  split
  · exact timed.step (.setData settings.data) (Controller.setData settings.data)
  · exact timed

theorem Alike.setBus (h : Alike b₁ b₂ c₁ c₂) (on : Bool) : Alike b₁ b₂ (c₁.setBus on) (c₂.setBus on) := by
  unfold Channel.setBus
  rw [h.enabled]
  split
  · exact h
  · split
    · have featured := h.controller.step (.setFeatures c₂.settings.features)
        (Controller.setFeatures c₂.settings.features)
      rw [h.settings]
      exact { h with
        controller := featured.step (.goBus true) (Controller.goBus true)
        settings := rfl
        published := rfl
        desync := rfl
        credits := congrArg Config.txFifo h.config
        enabled := rfl
        wake := rfl }
    · exact { h with
        controller := h.controller.step (.goBus false) (Controller.goBus false)
        enabled := rfl
        wake := rfl }

theorem Alike.snapshot (h : Alike b₁ b₂ c₁ c₂) (status : BusStatus) :
    SameAnswer (Alike b₁ b₂) (c₁.snapshot status) (c₂.snapshot status) := by
  have counters : Controller.errorCounters c₁.controller = Controller.errorCounters c₂.controller :=
    h.controller.read Controller.errorCounters
  have free : Controller.txFree c₁.controller = Controller.txFree c₂.controller := h.controller.read Controller.txFree
  have time : Controller.timestamp c₁.controller = Controller.timestamp c₂.controller :=
    h.controller.read Controller.timestamp
  have fill : Controller.rxFill c₁.controller = Controller.rxFill c₂.controller := h.controller.read Controller.rxFill
  refine ⟨?_, ?_⟩
  · unfold Channel.snapshot Ring.takeLost
    simp only [counters, free, time, fill, h.queueFlags, h.lost, h.desync, h.dropped, h.config]
  · exact { h with rx := ⟨h.rx.toList, h.rx.staged⟩, lost := rfl, dropped := rfl, queueFlags := rfl }

/-! ### Settings -/

theorem Alike.setNominal (h : Alike b₁ b₂ c₁ c₂) (t : BitTiming) :
    Agree (SameAnswer (Alike b₁ b₂)) (c₁.setNominal t) (c₂.setNominal t) := by
  unfold Channel.setNominal
  rw [h.config, h.settings]
  refine agree_bind _ fun durations => .ok ⟨rfl, { h with
    config := rfl
    controller := h.controller.step (.setNominal _) (Controller.setNominal _)
    settings := rfl }⟩

theorem Alike.setData (h : Alike b₁ b₂ c₁ c₂) (t : BitTiming) :
    Agree (Agree (SameAnswer (Alike b₁ b₂))) (c₁.setData t) (c₂.setData t) := by
  unfold Channel.setData
  rw [h.config, h.settings]
  split
  · exact .ok (.error _)
  · refine agree_bind _ fun durations => .ok (.ok ⟨rfl, { h with
      config := rfl
      controller := h.controller.step (.setData _) (Controller.setData _)
      settings := rfl }⟩)

/-! ### Command pipe -/

theorem Alike.hello (h : Alike b₁ b₂ c₁ c₂) : Agree (Alike b₁ b₂) c₁.hello c₂.hello := by
  rw [hello_eq, hello_eq]
  exact h.reset.map fun _ _ reset => { reset with command := alike_greeted reset.config reset.command }

theorem Alike.applyNominal (h : Alike b₁ b₂ c₁ c₂) (t : BitTiming) :
    Agree (SameAnswer (Alike b₁ b₂)) (c₁.applyNominal t) (c₂.applyNominal t) :=
  (h.setNominal t).bind fun _ _ set => .ok ⟨rfl, set.2⟩

theorem Alike.applyData (h : Alike b₁ b₂ c₁ c₂) (t : BitTiming) :
    Agree (SameAnswer (Alike b₁ b₂)) (c₁.applyData t) (c₂.applyData t) := by
  refine (h.setData t).bind ?_
  intro r₁ r₂ set
  cases set with
  | ok set => exact .ok ⟨rfl, set.2⟩
  | error e => exact .ok ⟨rfl, h⟩

theorem Alike.applyRequest (h : Alike b₁ b₂ c₁ c₂) (m : RawMessage) :
    Agree (SameAnswer (Alike b₁ b₂)) (c₁.applyRequest m) (c₂.applyRequest m) := by
  unfold Channel.applyRequest
  split
  · exact h.apply h.applyNominal _ m
  · split
    · exact h.apply h.applyData _ m
    · split
      · exact h.apply h.applyFeatures _ m
      · split
        · exact h.apply (fun on => .ok ⟨rfl, h.setBus on⟩) _ m
        · exact .ok ⟨rfl, h⟩

theorem Alike.request (h : Alike b₁ b₂ c₁ c₂) (m : RawMessage) :
    Agree (Alike b₁ b₂) (c₁.request m) (c₂.request m) := by
  unfold Channel.request
  rw [deviceInfo_congr h.index h.config, canInfo_congr h.config]
  split
  · exact h.hello
  · split
    · exact h.reply _
    · split
      · exact h.reply _
      · refine (h.applyRequest m).bind ?_
        rintro ⟨o, d₁⟩ ⟨_, d₂⟩ ⟨rfl, applied⟩
        exact applied.reply _

theorem Alike.commands (h : Alike b₁ b₂ c₁ c₂) (bytes : Bytes) :
    Agree (Alike b₁ b₂) (c₁.commands bytes) (c₂.commands bytes) := by
  refine (agree_foldlM (fun m _ _ h => h.request m) h).bind ?_
  intro d₁ d₂ asked
  exact asked.command.flush.bind fun _ _ flushed => .ok { asked with command := flushed }

/-! ### CAN pipe -/

theorem Alike.dropRequest (h : Alike b₁ b₂ c₁ c₂) (track : UInt8) :
    Agree (Alike b₁ b₂) (c₁.dropRequest track) (c₂.dropRequest track) := by
  have now : Controller.timestamp c₁.controller = Controller.timestamp c₂.controller :=
    h.controller.read Controller.timestamp
  unfold Channel.dropRequest
  simp only [h.dropped, h.config, now]
  refine (h.can.push _ _).bind ?_
  rintro ⟨r, can₁⟩ ⟨_, can₂⟩ ⟨rfl, pushed⟩
  cases r with
  | ok u => exact .ok { h with config := rfl, dropped := rfl, can := pushed, wake := rfl }
  | error e => exact .ok { h with config := rfl, dropped := rfl, can := pushed, desync := rfl, wake := rfl }

theorem Alike.send (h : Alike b₁ b₂ c₁ c₂) (r : TxRequest) : Agree (Alike b₁ b₂) (c₁.send r) (c₂.send r) := by
  have took := h.takeCredit
  unfold Channel.send
  generalize c₁.takeCredit = x at took ⊢
  generalize c₂.takeCredit = y at took ⊢
  cases took with
  | none => exact h.dropRequest _
  | @some d₁ d₂ paid =>
    have asked : SameAnswer (Logged.Alike b₁.controller.calls b₂.controller.calls)
        (Controller.submit r.frame r.track d₁.controller) (Controller.submit r.frame r.track d₂.controller) :=
      paid.controller.ask (.submit r.frame r.track) (Controller.submit r.frame r.track)
    simp only
    generalize Controller.submit r.frame r.track d₁.controller = x at asked ⊢
    generalize Controller.submit r.frame r.track d₂.controller = y at asked ⊢
    obtain ⟨took, s₁⟩ := x
    obtain ⟨_, s₂⟩ := y
    obtain ⟨rfl, asked⟩ := asked
    have answered : Alike b₁ b₂ { d₁ with controller := s₁ } { d₂ with controller := s₂ } :=
      { paid with controller := asked }
    cases took with
    | true => exact .ok answered
    | false => exact answered.returnCredit.bind fun _ _ back => back.dropRequest _

theorem Alike.transmissions (h : Alike b₁ b₂ c₁ c₂) (bytes : Bytes) :
    Agree (Alike b₁ b₂) (c₁.transmissions bytes) (c₂.transmissions bytes) := by
  refine agree_foldlM (fun m d₁ d₂ h => ?_) h
  unfold Channel.transmission
  rw [h.config]
  split
  · split
    · exact .ok h
    · exact h.send _
  · exact .ok h

/-! ### Interrupts -/

theorem Alike.pollStatus (h : Alike b₁ b₂ c₁ c₂) (notes : PollNotes) :
    SameAnswer (Alike b₁ b₂) (c₁.pollStatus notes) (c₂.pollStatus notes) := by
  have now : Controller.busStatus c₁.controller = Controller.busStatus c₂.controller :=
    h.controller.read Controller.busStatus
  have time : Controller.timestamp c₁.controller = Controller.timestamp c₂.controller :=
    h.controller.read Controller.timestamp
  obtain ⟨room, status⟩ := h.status.push ⟨Controller.busStatus c₂.controller, Controller.timestamp c₂.controller⟩
  unfold Channel.pollStatus
  simp only [now, time, h.published, room]
  split
  · exact ⟨rfl, h⟩
  · exact ⟨rfl, { h with status, published := rfl }⟩

theorem Alike.pollErrors (h : Alike b₁ b₂ c₁ c₂) (notes : PollNotes) :
    SameAnswer (Alike b₁ b₂) (c₁.pollErrors notes) (c₂.pollErrors notes) := by
  obtain ⟨es, controller⟩ := h.controller.takeErrors
  obtain ⟨accepted, errors⟩ := h.errors.pushAll (Controller.takeErrors c₂.controller).1
  unfold Channel.pollErrors
  simp only [es, accepted]
  exact ⟨rfl, { h with controller, errors }⟩

theorem agree_publishRx {r₁ r₂ : Ring Frame trafficRing} (d : BitDurations) (batches : List (Drained Frame))
    (h : Ring.Alike r₁ r₂) (lost : r₁.lost = r₂.lost) :
    Agree (fun r₁ r₂ => Ring.Alike r₁ r₂ ∧ r₁.lost = r₂.lost) (publishRx d batches r₁) (publishRx d batches r₂) := by
  induction batches generalizing r₁ r₂ with
  | nil => exact .ok ⟨h, lost⟩
  | cons b bs ih =>
    refine agree_bind _ ?_
    intro frames
    exact ih (h.pushAll frames).2 (Ring.lost_pushAll_congr h lost frames)

theorem agree_publishTx {r₁ r₂ : Ring TxEvent trafficRing} (d : BitDurations) (compensation : UInt32)
    (batches : List (Drained TxEvent)) (h : Ring.Alike r₁ r₂) :
    Agree (SameAnswer Ring.Alike) (publishTx d compensation batches r₁) (publishTx d compensation batches r₂) := by
  induction batches generalizing r₁ r₂ with
  | nil => exact .ok ⟨rfl, h⟩
  | cons b bs ih =>
    refine agree_bind _ ?_
    intro events
    obtain ⟨accepted, pushed⟩ := h.pushAll events
    simp only [accepted]
    refine (ih pushed).bind ?_
    rintro ⟨more, r₁⟩ ⟨_, r₂⟩ ⟨rfl, published⟩
    exact .ok ⟨rfl, published⟩

theorem Alike.pollRx (h : Alike b₁ b₂ c₁ c₂) (notes : PollNotes) :
    Agree (SameAnswer (Alike b₁ b₂)) (c₁.pollRx notes) (c₂.pollRx notes) := by
  obtain ⟨batches, controller⟩ := h.controller.drainAllRx
  unfold Channel.pollRx
  simp only [batches, h.settings]
  refine (agree_publishRx _ _ h.rx h.lost).bind fun r₁ r₂ published => .ok ⟨rfl, ?_⟩
  exact { h with controller, rx := published.1, lost := published.2, settings := rfl }

theorem Alike.pollTx (h : Alike b₁ b₂ c₁ c₂) (notes : PollNotes) :
    Agree (SameAnswer (Alike b₁ b₂)) (c₁.pollTx notes) (c₂.pollTx notes) := by
  have compensation : Controller.delayCompensation c₁.controller = Controller.delayCompensation c₂.controller :=
    h.controller.read Controller.delayCompensation
  obtain ⟨batches, controller⟩ := h.controller.drainAllTx
  unfold Channel.pollTx
  simp only [batches, compensation, h.settings]
  refine (agree_publishTx _ _ _ h.tx).bind ?_
  rintro ⟨accepted, r₁⟩ ⟨_, r₂⟩ ⟨rfl, published⟩
  exact .ok ⟨rfl, { h with controller, tx := published, settings := rfl }⟩

theorem Alike.poll (h : Alike b₁ b₂ c₁ c₂) : Agree (Alike b₁ b₂) c₁.poll c₂.poll := by
  obtain ⟨first, published⟩ := h.pollStatus .none
  have noting : Agree (SameAnswer (Alike b₁ b₂)) c₁.pollNoting c₂.pollNoting := by
    obtain ⟨second, latched⟩ := published.pollErrors (c₂.pollStatus .none).1
    unfold Channel.pollNoting
    simp only [first, second]
    refine (latched.pollRx _).bind ?_
    rintro ⟨notes, d₁⟩ ⟨_, d₂⟩ ⟨rfl, received⟩
    refine (received.pollTx notes).bind ?_
    rintro ⟨notes, d₁⟩ ⟨_, d₂⟩ ⟨rfl, sent⟩
    exact .ok ⟨rfl, sent.note notes⟩
  exact noting.map fun _ _ polled => polled.2

end Channel

end CanAdapter
