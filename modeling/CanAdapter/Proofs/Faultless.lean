/-
The adapter never stops. Its arithmetic has a fixed width, banks have a size, and the endpoints check themselves; none
of this fails, whatever the host sends and whatever the controllers hand out, if the board is described sensibly
(`Config.Sensible`) and the controllers claim no absurd delay (`Controller.Moderate`).

`Channel.Safe` is what this depends on: each timing that a channel comes to have fits, and the credits never exceed the
places. There is a lemma for each operation, which says that the operation succeeds and leaves the channel safe, up to
`Lane.succeeds_step` and `Adapter.succeeds_play`; `Adapter.never_stops` is the result for all histories.
-/
import CanAdapter.Proofs.BankBounds
import CanAdapter.Proofs.WellFormed

namespace CanAdapter

open Checked

/-! ## What the board has to be like -/

/-- a sensible description: the credits leave room to count one more, and no timing that the channel may come to have
overflows its ticks -/
structure Config.Sensible (c : Config) : Prop where
  txFifo : c.txFifo.toNat < 255
  defaultNominal : c.defaultNominal.Fits
  defaultData : c.defaultData.Fits
  nominalRange : c.nominalRange.max.Fits
  dataRange : ∀ range, c.dataRange = some range → range.max.Fits

/-- A controller with a moderate transmitter delay compensation: counted twice on top of the longest frame it fits its
word, in all the states that the controller comes to. -/
structure Controller.Moderate (σ : Type) [Controller σ] where
  admits : σ → Prop
  small : ∀ {s : σ}, admits s → 2 * (Controller.delayCompensation s).toNat + 596 < 2 ^ 32
  drainRx : ∀ {s : σ}, admits s → admits (Controller.drainRx s).2
  drainTx : ∀ {s : σ}, admits s → admits (Controller.drainTx s).2
  takeError : ∀ {s : σ}, admits s → admits (Controller.takeError s).2
  submit : ∀ {s : σ} (f : Frame) (track : UInt8), admits s → admits (Controller.submit f track s).2
  setNominal : ∀ {s : σ} (t : BitTiming), admits s → admits (Controller.setNominal t s)
  setData : ∀ {s : σ} (t : BitTiming), admits s → admits (Controller.setData t s)
  setFeatures : ∀ {s : σ} (f : Features), admits s → admits (Controller.setFeatures f s)
  goBus : ∀ {s : σ} (on : Bool), admits s → admits (Controller.goBus on s)
  reset : ∀ {s : σ}, admits s → admits (Controller.reset s)

namespace Controller.Moderate

variable {σ : Type} [Controller σ] (M : Moderate σ)

/-- what a controller does by itself leaves it moderate -/
def Allows : AdapterEvent σ → Prop
  | .moved _ f => ∀ s, M.admits s → M.admits (f s)
  | .op _ => True

variable {M} {s : σ}

theorem takeErrors (h : M.admits s) : M.admits (Controller.takeErrors s).2 := by
  unfold Controller.takeErrors
  generalize Controller.errorsLeft s + 1 = n
  induction n generalizing s with
  | zero => exact h
  | succ n ih =>
    have taken := M.takeError h
    unfold Controller.errorsUpTo
    generalize Controller.takeError s = r at taken
    obtain ⟨e, s₁⟩ := r
    cases e with
    | none => exact taken
    | some e => exact ih taken

theorem drainAllRx (h : M.admits s) : M.admits (Controller.drainAllRx s).2 :=
  Controller.drainUpTo_rel (R := fun _ s s' => M.admits s → M.admits s') (fun _ => M.drainRx)
    (fun first later hs => later (first hs)) _ s h

theorem drainAllTx (h : M.admits s) : M.admits (Controller.drainAllTx s).2 :=
  Controller.drainUpTo_rel (R := fun _ s s' => M.admits s → M.admits s') (fun _ => M.drainTx)
    (fun first later hs => later (first hs)) _ s h

end Controller.Moderate

/-! ## Channels -/

theorem succeeds_baseline {config : Config} (h : config.Sensible) :
    Succeeds (fun s => s.nominal.Fits ∧ s.data.Fits) (Settings.baseline config) :=
  (BitDurations.succeeds_ofTimings h.defaultNominal h.defaultData _).bind fun _ _ =>
    .of_ok ⟨h.defaultNominal, h.defaultData⟩

namespace Channel

variable {σ : Type} [Controller σ] {M : Controller.Moderate σ} {c : Channel σ}

/-- what keeps a channel from stopping -/
structure Safe (M : Controller.Moderate σ) (c : Channel σ) : Prop where
  config : c.config.Sensible
  nominal : c.settings.nominal.Fits
  data : c.settings.data.Fits
  credits : c.credits.toNat ≤ c.config.txFifo.toNat
  admits : M.admits c.controller

/-- the other parts of a channel do not matter -/
theorem Safe.elsewhere {c' : Channel σ} (h : c.Safe M)
    (same : (c'.config, c'.settings, c'.credits, c'.controller) = (c.config, c.settings, c.credits, c.controller)) :
    c'.Safe M := by
  simp only [Prod.mk.injEq] at same
  obtain ⟨config, settings, credits, controller⟩ := same
  refine ⟨config ▸ h.config, settings ▸ h.nominal, settings ▸ h.data, ?_, controller ▸ h.admits⟩
  rw [credits, config]
  exact h.credits

theorem succeeds_create {config : Config} (h : config.Sensible) (index : UInt8) {s : σ} (hs : M.admits s) :
    Succeeds (Safe M) (create index config s) :=
  (succeeds_baseline h).bind fun _ fits => .of_ok ⟨h, fits.1, fits.2, Nat.zero_le _, hs⟩

theorem succeeds_reset (h : c.Safe M) : Succeeds (Safe M) c.reset := by
  refine (succeeds_baseline h.config).bind ?_
  intro settings fits
  have timed := M.setNominal settings.nominal (M.reset h.admits)
  refine .of_ok ⟨h.config, fits.1, fits.2, Nat.zero_le _, M.setFeatures _ ?_⟩
  split
  · exact M.setData _ timed
  · exact timed

theorem safe_setBus (h : c.Safe M) (on : Bool) : (c.setBus on).Safe M := by
  unfold setBus
  split
  · exact h
  · split
    · exact ⟨h.config, h.nominal, h.data, Nat.le_refl _, M.goBus _ (M.setFeatures _ h.admits)⟩
    · exact ⟨h.config, h.nominal, h.data, h.credits, M.goBus _ h.admits⟩

theorem safe_takeCredit (h : c.Safe M) {c' : Channel σ} (took : c.takeCredit = some c') : c'.Safe M := by
  unfold takeCredit at took
  split at took
  · cases took
  · rename_i some
    cases took
    have less := toNat_taken some
    have within := h.credits
    exact ⟨h.config, h.nominal, h.data, by simp only; omega, h.admits⟩

/-- there are never more credits than places, and one more than the places is counted without overflow -/
theorem succeeds_returnCredit (h : c.Safe M) : Succeeds (Safe M) c.returnCredit := by
  have places := h.config.txFifo
  have within := h.credits
  have room : c.credits.toNat + (1 : UInt8).toNat < 2 ^ 8 := by
    rw [UInt8.toNat_one]
    omega
  unfold returnCredit
  rw [add8_eq_ok room]
  refine .of_ok ?_
  split
  · rename_i short
    rw [UInt8.lt_iff_toNat_lt] at short
    refine ⟨h.config, h.nominal, h.data, ?_, h.admits⟩
    simp only [UInt8.toNat_add, UInt8.toNat_one]
    omega
  · exact h

/-! ### Command pipe -/

theorem succeeds_reply (h : c.Safe M) (m : Message) : Succeeds (Safe M) (c.reply m) :=
  (Endpoint.succeeds_push aligned_commandBank _ m c.command).bind fun _ _ =>
    .of_ok (h.elsewhere rfl)

theorem succeeds_hello (h : c.Safe M) : Succeeds (Safe M) c.hello := by
  refine (succeeds_reset h).bind ?_
  intro c₁ h₁
  simp only
  split <;> exact .of_ok (h₁.elsewhere rfl)

theorem succeeds_applyNominal (h : c.Safe M) (t : BitTiming) :
    Succeeds (fun r => Safe M r.2) (c.applyNominal t) := by
  have fits := TimingRange.fits_clamp h.config.nominalRange t
  refine .bind (P := fun r => Safe M r.2) ?_ fun _ safe => .of_ok safe
  exact (BitDurations.succeeds_ofTimings fits h.data _).bind fun _ _ =>
    .of_ok ⟨h.config, fits, h.data, h.credits, M.setNominal _ h.admits⟩

theorem succeeds_setData (h : c.Safe M) (t : BitTiming) :
    Succeeds (fun r => ∀ set, r = .ok set → Safe M set.2) (c.setData t) := by
  unfold setData
  split
  · refine .of_ok ?_
    rintro set ⟨⟩
  · rename_i range phase
    have fits := TimingRange.fits_clamp (h.config.dataRange range phase) t
    refine (BitDurations.succeeds_ofTimings h.nominal fits _).bind fun _ _ => .of_ok ?_
    rintro set ⟨⟩
    exact ⟨h.config, h.nominal, fits, h.credits, M.setData _ h.admits⟩

theorem succeeds_applyData (h : c.Safe M) (t : BitTiming) : Succeeds (fun r => Safe M r.2) (c.applyData t) := by
  refine (succeeds_setData h t).bind ?_
  intro r safe
  cases r with
  | error e => exact .of_ok h
  | ok set => exact .of_ok (safe set rfl)

theorem succeeds_applyFeatures (h : c.Safe M) (r : FeatureRequest) :
    Succeeds (fun r => Safe M r.2) (c.applyFeatures r) := by
  unfold applyFeatures setFeatures
  cases c.requestedFeatures r with
  | error e => exact .of_ok h
  | ok features => exact .of_ok ⟨h.config, h.nominal, h.data, h.credits, h.admits⟩

theorem succeeds_apply {α : Type} {l : Layout α} {f : α → Channel σ → Checked (Outcome × Channel σ)}
    (h : c.Safe M) (acts : ∀ a, Succeeds (fun r => Safe M r.2) (f a c)) (m : RawMessage) :
    Succeeds (fun r => Safe M r.2) (c.apply l m f) := by
  unfold apply
  split
  · exact .of_ok h
  · exact acts _

theorem succeeds_applyRequest (h : c.Safe M) (m : RawMessage) :
    Succeeds (fun r => Safe M r.2) (c.applyRequest m) := by
  unfold applyRequest
  split
  · exact succeeds_apply h (succeeds_applyNominal h) m
  · split
    · exact succeeds_apply h (succeeds_applyData h) m
    · split
      · exact succeeds_apply h (succeeds_applyFeatures h) m
      · split
        · refine succeeds_apply h ?_ m
          intro on
          exact .of_ok (safe_setBus h on)
        · exact .of_ok h

theorem succeeds_request (h : c.Safe M) (m : RawMessage) : Succeeds (Safe M) (c.request m) := by
  unfold request
  split
  · exact succeeds_hello h
  · split
    · exact succeeds_reply h _
    · split
      · exact succeeds_reply h _
      · exact (succeeds_applyRequest h m).bind fun r safe => succeeds_reply safe _

theorem succeeds_commands (h : c.Safe M) (bytes : Bytes) : Succeeds (Safe M) (c.commands bytes) := by
  refine (succeeds_foldlM (fun m _ c hc => succeeds_request hc m) h).bind ?_
  intro c₁ h₁
  exact (Endpoint.succeeds_flush aligned_commandBank c₁.command).bind fun _ _ =>
    .of_ok (h₁.elsewhere rfl)

/-! ### CAN pipe -/

theorem succeeds_dropRequest (h : c.Safe M) (track : UInt8) : Succeeds (Safe M) (c.dropRequest track) := by
  refine (Endpoint.succeeds_push aligned_canBank _ _ _).bind ?_
  intro r _
  obtain ⟨r, can⟩ := r
  cases r <;> exact .of_ok (h.elsewhere rfl)

theorem succeeds_send (h : c.Safe M) (r : TxRequest) : Succeeds (Safe M) (c.send r) := by
  unfold send
  split
  · exact succeeds_dropRequest h _
  · rename_i c₁ took
    have paid := safe_takeCredit h took
    have asked := M.submit r.frame r.track paid.admits
    generalize Controller.submit r.frame r.track c₁.controller = answer at asked
    obtain ⟨took, s⟩ := answer
    have answered : Safe M { c₁ with controller := s } := ⟨paid.config, paid.nominal, paid.data, paid.credits, asked⟩
    cases took with
    | true => exact .of_ok answered
    | false => exact (succeeds_returnCredit answered).bind fun _ safe => succeeds_dropRequest safe _

theorem succeeds_transmissions (h : c.Safe M) (bytes : Bytes) : Succeeds (Safe M) (c.transmissions bytes) := by
  refine succeeds_foldlM (fun m _ c hc => ?_) h
  unfold transmission
  split
  · split
    · exact .of_ok hc
    · exact succeeds_send hc _
  · exact .of_ok hc

/-! ### Interrupts -/

theorem succeeds_publishRx (d : BitDurations) (batches : List (Drained Frame)) (ring : Ring Frame trafficRing) :
    Succeeds (fun _ => True) (publishRx d batches ring) := by
  induction batches generalizing ring with
  | nil => exact .of_ok trivial
  | cons b bs ih => exact (BitDurations.succeeds_stampReceived b.tsc b.items).bind fun _ _ => ih _

theorem succeeds_publishTx (d : BitDurations) {compensation : UInt32}
    (small : 2 * compensation.toNat + BitCounts.longest < 2 ^ 32) (batches : List (Drained TxEvent))
    (ring : Ring TxEvent trafficRing) : Succeeds (fun _ => True) (publishTx d compensation batches ring) := by
  induction batches generalizing ring with
  | nil => exact .of_ok trivial
  | cons b bs ih =>
    refine (BitDurations.succeeds_stampSent small b.tsc b.items).bind ?_
    intro events _
    exact (ih (ring.pushAll events).2).bind fun _ _ => .of_ok trivial

theorem succeeds_poll (h : c.Safe M) : Succeeds (Safe M) c.poll := by
  have published : Safe M (c.pollStatus .none).2 := by
    unfold pollStatus
    simp only
    split <;> exact h.elsewhere rfl
  have errors : Safe M ((c.pollStatus .none).2.pollErrors (c.pollStatus .none).1).2 :=
    ⟨published.config, published.nominal, published.data, published.credits, M.takeErrors published.admits⟩
  refine .map (P := fun r => Safe M r.2) ?_ fun _ safe => safe
  refine .bind (P := fun r => Safe M r.2) ?_ fun r₃ safe => ?_
  · exact (succeeds_publishRx _ _ _).bind fun _ _ =>
      .of_ok ⟨errors.config, errors.nominal, errors.data, errors.credits, M.drainAllRx errors.admits⟩
  · refine .bind (P := fun r => Safe M r.2) ?_ fun r₄ safe => ?_
    · exact (succeeds_publishTx _ (M.small safe.admits) _ _).bind fun _ _ =>
        .of_ok ⟨safe.config, safe.nominal, safe.data, safe.credits, M.drainAllTx safe.admits⟩
    · exact .of_ok (safe.elsewhere rfl)

/-! ### Placing -/

theorem succeeds_makeRoom (h : c.Safe M) (len : Nat) :
    Succeeds (fun r => ∀ c', r = some c' → Safe M c') (c.makeRoom len) := by
  unfold makeRoom
  split
  · split
    · refine .of_ok ?_
      rintro _ ⟨⟩
    · refine (Endpoint.succeeds_trySubmit aligned_canBank c.can).bind fun _ _ => .of_ok ?_
      rintro _ ⟨⟩
      exact h.elsewhere rfl
  · refine .of_ok ?_
    rintro _ ⟨⟩
    exact h

theorem succeeds_place (h : c.Safe M) (m : Message) : Succeeds (fun r => Safe M r.2) (c.place m) := by
  refine (succeeds_makeRoom h _).bind ?_
  intro r made
  cases r with
  | none => exact .of_ok h
  | some c₁ =>
    have h₁ := made c₁ rfl
    simp only
    split
    · exact .of_ok h₁
    · exact .of_ok (h₁.elsewhere rfl)

end Channel

/-! ## The reporting task -/

namespace Lane

variable {σ : Type} [Controller σ] {M : Controller.Moderate σ} {l : Lane σ}

def Safe (M : Controller.Moderate σ) (l : Lane σ) : Prop := l.channel.Safe M

theorem succeeds_placeReport (h : l.Safe M) : Succeeds (fun r => Safe M r.2) l.placeReport := by
  unfold placeReport
  split
  · exact .of_ok h
  · refine (Channel.succeeds_makeRoom h _).bind ?_
    intro r made
    cases r with
    | none => exact .of_ok h
    | some c =>
      obtain ⟨config, nominal, data, credits, admits⟩ := made c rfl
      simp only
      split <;> exact .of_ok ⟨config, nominal, data, credits, admits⟩

theorem succeeds_takeStatus (h : l.Safe M) (now : Nat) : Succeeds (fun r => Safe M r.2) (l.takeStatus now) := by
  unfold takeStatus
  split
  · exact .of_ok h
  · exact .of_ok (h.elsewhere rfl)

theorem succeeds_placeOldest {α : Type} {k : Nat} {ring : Channel σ → Ring α k} {message : α → Message}
    {noted : Reporter → Reporter} {done : Channel σ → Checked (Channel σ)}
    (released : ∀ {c : Channel σ}, c.Safe M → Succeeds (Channel.Safe M) (done c)) (h : l.Safe M) :
    Succeeds (fun r => Safe M r.2) (placeOldest ring message noted done l) := by
  unfold placeOldest
  split
  · exact .of_ok h
  · refine (Channel.succeeds_place h _).bind ?_
    intro r safe
    obtain ⟨b, c⟩ := r
    cases b with
    | false => exact .of_ok safe
    | true => exact (released safe).bind fun _ safe => .of_ok safe

theorem succeeds_inOrder {sources : List (Lane σ → Checked (Move × Lane σ))}
    (hs : ∀ source ∈ sources, ∀ {l : Lane σ}, l.Safe M → Succeeds (fun r => Safe M r.2) (source l)) (h : l.Safe M) :
    Succeeds (fun r => Safe M r.2) (inOrder sources l) := by
  induction sources generalizing l with
  | nil => exact .of_ok h
  | cons source sources ih =>
    have later {l : Lane σ} := @ih l fun s hm => hs s (List.mem_cons_of_mem _ hm)
    refine (hs source List.mem_cons_self h).bind ?_
    intro r safe
    obtain ⟨m₁, l₁⟩ := r
    cases m₁ with
    | blocked => exact .of_ok safe
    | idle => exact later safe
    | moved =>
      refine (later safe).bind ?_
      intro r safe
      obtain ⟨m₂, l₂⟩ := r
      cases m₂ <;> exact .of_ok safe

theorem succeeds_pass (h : l.Safe M) (now : Nat) : Succeeds (fun r => Safe M r.2) (l.pass now) := by
  refine succeeds_inOrder ?_ h
  intro source hs
  simp only [List.mem_cons, List.not_mem_nil, or_false] at hs
  rcases hs with rfl | rfl | rfl | rfl | rfl
  · exact succeeds_placeReport
  · exact fun safe => succeeds_takeStatus safe now
  · exact succeeds_placeOldest fun safe => .of_ok (safe.elsewhere rfl)
  · exact succeeds_placeOldest fun safe => .of_ok (safe.elsewhere rfl)
  · refine succeeds_placeOldest fun {c} safe => ?_
    exact Channel.succeeds_returnCredit (c := { c with tx := c.tx.consume })
      (safe.elsewhere rfl)

/-- induction on the passes that are left -/
theorem succeeds_passes (h : l.Safe M) (now n : Nat) : Succeeds (fun r => Safe M r.2) (l.passes now n) := by
  induction n generalizing l with
  | zero => exact .of_ok h
  | succ n ih =>
    refine (succeeds_pass h now).bind ?_
    intro r safe
    obtain ⟨m, l₁⟩ := r
    cases m with
    | blocked | idle => exact .of_ok safe
    | moved => exact ih safe

theorem succeeds_wakeUp (h : l.Safe M) (now : Nat) : Succeeds (fun r => Safe M r.2) (l.wakeUp now) := by
  unfold wakeUp
  split
  · exact .of_ok (h.elsewhere rfl)
  · split
    · exact .of_ok (h.elsewhere rfl)
    · refine .bind (P := fun r => Safe M r.2) ?_ fun r safe => ?_
      · refine .bind (succeeds_passes ?_ now _) fun r safe => .of_ok safe
        exact h.elsewhere rfl
      · obtain ⟨blocked, l₁⟩ := r
        refine (Endpoint.succeeds_flush aligned_canBank l₁.channel.can).bind ?_
        intro can _
        obtain ⟨led, leds, shown⟩ := updateLed_eq now { l₁ with channel := { l₁.channel with can } }
        simp only [shown]
        split <;> exact .of_ok (safe.elsewhere rfl)

theorem succeeds_step (h : l.Safe M) (op : LaneOp) : Succeeds (Safe M) (l.step op) := by
  cases op with
  | mount => exact .of_ok (h.elsewhere rfl)
  | detach =>
    refine .bind (P := Channel.Safe M) ?_ fun _ safe => .of_ok safe
    exact (Channel.succeeds_reset h).bind fun _ safe =>
      .of_ok (safe.elsewhere rfl)
  | usbReset => exact .of_ok (h.elsewhere rfl)
  | commandData bytes => exact (Channel.succeeds_commands h bytes).bind fun _ safe => .of_ok safe
  | canData bytes => exact (Channel.succeeds_transmissions h bytes).bind fun _ safe => .of_ok safe
  | commandDone =>
    refine .bind (P := Channel.Safe M) ?_ fun _ safe => .of_ok safe
    exact (Endpoint.succeeds_complete aligned_commandBank l.channel.command).bind fun _ _ =>
      .of_ok (h.elsewhere rfl)
  | canDone =>
    refine .bind (P := Channel.Safe M) ?_ fun _ safe => .of_ok safe
    exact (Endpoint.succeeds_complete aligned_canBank l.channel.can).bind fun _ _ =>
      .of_ok (h.elsewhere rfl)
  | poll => exact (Channel.succeeds_poll h).bind fun _ safe => .of_ok safe
  | wakeUp now => exact (succeeds_wakeUp h now).map fun _ safe => safe
  | serve now =>
    refine .map (P := fun r => Safe M r.2) ?_ fun _ safe => safe
    unfold serve
    split
    · refine .bind (succeeds_wakeUp ?_ now) fun _ safe => .of_ok safe
      exact h.elsewhere rfl
    · exact .of_ok h

end Lane

/-! ## The adapter -/

theorem succeeds_updateAt {α β : Type} {P : α → Prop} {f : α → Checked (β × α)}
    (hf : ∀ a, P a → Succeeds (fun r => P r.2) (f a)) {n : Nat} {as : List α} (has : ∀ a ∈ as, P a) :
    Succeeds (fun r => ∀ a ∈ r.2, P a) (updateAt f n as) := by
  induction as generalizing n with
  | nil =>
    rw [updateAt]
    exact .of_ok has
  | cons a as ih =>
    have here := has a List.mem_cons_self
    have others := fun b hb => has b (List.mem_cons_of_mem _ hb)
    cases n with
    | zero =>
      rw [updateAt]
      refine (hf a here).bind fun r hr => .of_ok ?_
      intro b hb
      rcases List.mem_cons.1 hb with rfl | hb
      · exact hr
      · exact others b hb
    | succ n =>
      rw [updateAt]
      refine (ih others).bind fun r hr => .of_ok ?_
      intro b hb
      rcases List.mem_cons.1 hb with rfl | hb
      · exact here
      · exact hr b hb

namespace Adapter

variable {σ : Type} [Controller σ] {M : Controller.Moderate σ} {a : Adapter σ}

def Safe (M : Controller.Moderate σ) (a : Adapter σ) : Prop := ∀ l ∈ a.lanes, l.Safe M

theorem succeeds_broadcast (h : a.Safe M) (mounted : Bool) (op : LaneOp) :
    Succeeds (Safe M) (a.broadcast mounted op) :=
  (succeeds_mapM fun l hl => Lane.succeeds_step (h l hl) op).bind fun _ safe => .of_ok safe

theorem succeeds_atLane {β : Type} {f : Lane σ → Checked (β × Lane σ)}
    (hf : ∀ l, Lane.Safe M l → Succeeds (fun r => Lane.Safe M r.2) (f l)) (h : a.Safe M) (i : Nat) :
    Succeeds (fun r => Safe M r.2) (a.atLane i f) :=
  (succeeds_updateAt hf h).bind fun _ safe => .of_ok safe

theorem succeeds_stepLane (h : a.Safe M) (i : Nat) (op : LaneOp) : Succeeds (Safe M) (a.stepLane i op) := by
  refine (succeeds_atLane ?_ h i).map fun _ safe => safe
  intro l hl
  exact (Lane.succeeds_step hl op).map fun _ safe => safe

theorem succeeds_step (h : a.Safe M) (op : Op) : Succeeds (Safe M) (a.step op) := by
  cases op with
  | mount | resume => exact succeeds_broadcast h true .mount
  | unmount | suspend => exact succeeds_broadcast h false .detach
  | usbReset => exact succeeds_broadcast h false .usbReset
  | out endpoint bytes =>
    simp only [step]
    split
    · exact .of_ok h
    · exact succeeds_stepLane h _ _
    · exact succeeds_stepLane h _ _
  | inComplete endpoint =>
    simp only [step]
    split
    · exact .of_ok h
    · exact succeeds_stepLane h _ _
    · exact succeeds_stepLane h _ _
  | poll i => exact succeeds_stepLane h i .poll
  | wakeUp i now => exact succeeds_stepLane h i (.wakeUp now)
  | serve i now => exact succeeds_stepLane h i (.serve now)

theorem succeeds_play (h : a.Safe M) {e : AdapterEvent σ} (allowed : M.Allows e) : Succeeds (Safe M) (a.play e) := by
  cases e with
  | op op => exact succeeds_step h op
  | moved i f =>
    refine (succeeds_atLane ?_ h i).map fun _ safe => safe
    intro l hl
    exact .of_ok ⟨hl.config, hl.nominal, hl.data, hl.credits, allowed _ hl.admits⟩

theorem succeeds_plays {es : List (AdapterEvent σ)} (h : a.Safe M) (allowed : ∀ e ∈ es, M.Allows e) :
    Succeeds (Safe M) (a.plays es) :=
  succeeds_foldlM (fun e he _ safe => succeeds_play safe (allowed e he)) h

theorem safe_of_fresh (fresh : a.Fresh)
    (described : ∀ l ∈ a.lanes, l.channel.config.Sensible ∧ M.admits l.channel.controller) : a.Safe M := by
  intro l hl
  obtain ⟨i, hi⟩ := List.mem_iff_getElem?.1 hl
  obtain ⟨sensible, admits⟩ := described l hl
  obtain ⟨index, config, s, c, created, rfl⟩ := lanes_of_fresh fresh hi
  obtain ⟨settings, -, same⟩ := Checked.bind_eq_ok.1 created
  cases same
  obtain ⟨_, again, safe⟩ := Channel.succeeds_create (M := M) sensible index admits
  cases created.symm.trans again
  exact safe.elsewhere rfl

/-- **No stop.** Take sensible descriptions and controllers of moderate delay. Then a channel can be built from each,
and an adapter that was just built plays every history to its end: no sum or product leaves its word, no range its bank,
and no check fails, whatever endpoint numbers and bytes the host sends and whatever the controllers hand out. At the
end, and so at any time, what collects for the host and every transfer that was started fit their bank. -/
theorem never_stops (M : Controller.Moderate σ) :
    (∀ (index : UInt8) (config : Config) (s : σ), config.Sensible → M.admits s →
      ∃ c, Channel.create index config s = .ok c) ∧
    ∀ (a : Adapter σ) (es : List (AdapterEvent σ)), a.Fresh →
      (∀ l ∈ a.lanes, l.channel.config.Sensible ∧ M.admits l.channel.controller) → (∀ e ∈ es, M.Allows e) →
      ∃ a', a.plays es = .ok a' ∧ ∀ l ∈ a'.lanes,
        l.channel.command.filling.length ≤ 64 ∧ (∀ t ∈ l.channel.command.started, t.length ≤ 64) ∧
        l.channel.can.filling.length ≤ 512 ∧ ∀ t ∈ l.channel.can.started, t.length ≤ 512 := by
  constructor
  · intro index config s sensible admits
    obtain ⟨c, created, -⟩ := Channel.succeeds_create (M := M) sensible index admits
    exact ⟨c, created⟩
  · intro a es fresh described allowed
    obtain ⟨a', played, -⟩ := succeeds_plays (safe_of_fresh fresh described) allowed
    refine ⟨a', played, ?_⟩
    intro l' hl'
    obtain ⟨i, hi⟩ := List.mem_iff_getElem?.1 hl'
    obtain ⟨l, hl, ran⟩ := lane_of_plays played hi
    have formed := Lane.formed_plays ran (Lane.formed_of_fresh (lanes_of_fresh fresh hl))
    refine ⟨formed.command.fits, ?_, formed.can.fits, ?_⟩
    · exact fun t started => ((formed.command.started t started).plain (by decide)).2.1
    · exact fun t started => ((formed.can.started t started).padded (by decide)).2.1

end Adapter

theorem Config.sensible_default : Config.default.Sensible where
  txFifo := by decide
  defaultNominal := by decide
  defaultData := by decide
  nominalRange := by decide
  dataRange := by
    rintro range ⟨⟩
    decide

/-- the simulated controller keeps the delay that was set by hand -/
def SimController.moderate : Controller.Moderate SimController where
  admits s := 2 * s.delayCompensation.toNat + 596 < 2 ^ 32
  small h := h
  drainRx h := h
  drainTx h := h
  takeError {s} h := by
    cases errors : s.errors <;> simpa [Controller.takeError, takeError, errors] using h
  submit {s} f track h := by
    cases refuses : s.refuses <;> cases echoes : s.echoes <;>
      simpa [Controller.submit, submit, refuses, echoes] using h
  setNominal _ h := h
  setData _ h := h
  setFeatures _ h := h
  goBus _ h := h
  reset h := h

/-- an endpoint that is not there, timings beyond all limits, a request that does not read, a frame with every flag and
an event, both under the largest delay, and completions of nothing -/
def hostileHost : List (AdapterEvent SimController) :=
  [.op .mount, .op (.out 0xff [1, 2]), .op (.inComplete 0x80), .op (.out 1 [5, 8, 255, 255, 255, 255, 255, 255]),
    .op (.out 1 [8, 4, 1, 0, 6, 3]), .op (.out 2 [0x12, 4, 255, 255]),
    .moved 0 fun s => { s with
      delayCompensation := 2147483349
      rx := [{ Frame.empty with flags := ⟨255⟩, dlc := 255 }]
      events := [⟨9, ⟨255⟩, 255, 0⟩] },
    .op (.poll 0), .op (.wakeUp 0 0), .op (.inComplete 0x82), .op (.inComplete 0x82), .op .usbReset, .op (.wakeUp 7 0)]

theorem hostileHost_never_stops : ∃ a a' : Adapter SimController, a.Fresh ∧ a.lanes.length = 1 ∧
    a.plays hostileHost = .ok a' ∧ ∀ l ∈ a'.lanes, l.channel.can.filling.length ≤ 512 := by
  have built : Checked.passes (fun a : Adapter SimController => a.lanes.length == 1 && a.lanes.all fun l =>
      decide (l.channel.config = .default) && decide (l.channel.controller = {}))
      (Adapter.single .default {}) = true := by
    decide +kernel
  obtain ⟨a, built, holds⟩ := Checked.of_passes built
  rw [Bool.and_eq_true, beq_iff_eq, List.all_eq_true] at holds
  obtain ⟨one, described⟩ := holds
  have fresh := Adapter.fresh_single built
  have allowed : ∀ e ∈ hostileHost, SimController.moderate.Allows e := by
    intro e he
    simp only [hostileHost, List.mem_cons, List.not_mem_nil, or_false] at he
    rcases he with rfl | rfl | rfl | rfl | rfl | rfl | rfl | rfl | rfl | rfl | rfl | rfl | rfl
    case inr.inr.inr.inr.inr.inr.inl =>
      intro s _
      simp only [SimController.moderate]
      decide
    all_goals trivial
  have sensible : ∀ l ∈ a.lanes, l.channel.config.Sensible ∧ SimController.moderate.admits l.channel.controller := by
    intro l hl
    have same := described l hl
    rw [Bool.and_eq_true, decide_eq_true_eq, decide_eq_true_eq] at same
    rw [same.1, same.2]
    exact ⟨Config.sensible_default, by simp [SimController.moderate]⟩
  obtain ⟨a', played, within⟩ :=
    (Adapter.never_stops SimController.moderate).2 a hostileHost fresh sensible allowed
  exact ⟨a, a', fresh, one, played, fun l hl => (within l hl).2.2.1⟩

end CanAdapter
