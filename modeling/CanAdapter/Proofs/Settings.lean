/-
What the host negotiates. A setting request that is granted does one of five things (`Channel.Applies`), and one that is
refused does nothing: `Channel.decided_request` says that there is no third way, and `Channel.Applies.run` that each of
the five is what the channel does.

The durations of a bit are kept beside the two timings that they follow from. Every change of a timing computes them
anew, so in every state they are those of the timings that are set: `Channel.Coherent`, kept by each change
(`Applies.coherent`), each message (`coherent_request`) and each event (`Lane.coherent_play`), and so
`Lane.Reachable.coherent`. That they could be computed says that the clock ticks of both timings fit their word, and
then any timing that fits can take the place of either (`Coherent.exists_nominal`, `Coherent.exists_data`).
-/
import CanAdapter.Proofs.Isolation
import CanAdapter.Proofs.Modes

namespace CanAdapter

/-! ## Durations -/

theorem BitTiming.fits_of_ticks {t : BitTiming} {n : UInt32} (h : t.ticks = .ok n) : t.Fits := by
  unfold ticks Checked.mul32 at h
  split at h
  · rename_i small
    rwa [toNat_quanta, UInt16.toNat_toUInt32] at small
  · cases h

/-- without a clock nothing is counted; with one the ticks of both bits have to fit -/
theorem BitDurations.exists_ofTimings_iff {nominal data : BitTiming} {clock : UInt32} :
    (∃ d, ofTimings nominal data clock = .ok d) ↔ clock = 0 ∨ nominal.Fits ∧ data.Fits := by
  constructor
  · rintro ⟨d, h⟩
    by_cases none : clock = 0
    · exact .inl none
    obtain ⟨n, micros, h⟩ := Checked.bind_eq_ok.1 h
    obtain ⟨d, micros256, -⟩ := Checked.bind_eq_ok.1 h
    rw [BitTiming.micros, if_neg none] at micros
    rw [BitTiming.micros256, if_neg none] at micros256
    obtain ⟨_, ticks, -⟩ := Checked.bind_eq_ok.1 micros
    obtain ⟨_, ticks256, -⟩ := Checked.bind_eq_ok.1 micros256
    exact .inr ⟨BitTiming.fits_of_ticks ticks, BitTiming.fits_of_ticks ticks256⟩
  · rintro (rfl | ⟨hn, hd⟩)
    · exact ⟨⟨0, 0⟩, rfl⟩
    · obtain ⟨d, h, -⟩ := succeeds_ofTimings hn hd clock
      exact ⟨d, h⟩

theorem Settings.durations_of_baseline {config : Config} {s : Settings} (h : baseline config = .ok s) :
    BitDurations.ofTimings s.nominal s.data config.clock = .ok s.durations := by
  obtain ⟨durations, derived, h⟩ := Checked.bind_eq_ok.1 h
  cases h
  exact derived

namespace Channel

variable {σ : Type} {c c' : Channel σ} {m : RawMessage} {outcome : Outcome} {bytes : Bytes}

/-- the durations are those of the timings that are set -/
def Coherent (c : Channel σ) : Prop :=
  BitDurations.ofTimings c.settings.nominal c.settings.data c.config.clock = .ok c.settings.durations

theorem coherent_create {index : UInt8} {config : Config} {s : σ} (h : create index config s = .ok c) :
    c.Coherent := by
  obtain ⟨settings, baseline, h⟩ := Checked.bind_eq_ok.1 h
  cases h
  exact Settings.durations_of_baseline baseline

/-- settings and description decide -/
theorem Coherent.of_same (hc : c.Coherent) (settings : c'.settings = c.settings) (config : c'.config = c.config) :
    c'.Coherent := by
  unfold Coherent
  rw [settings, config]
  exact hc

/-- a nominal timing that fits can be set -/
theorem Coherent.exists_nominal (h : c.Coherent) {t : BitTiming} (fits : t.Fits) :
    ∃ d, BitDurations.ofTimings t c.settings.data c.config.clock = .ok d := by
  have now := BitDurations.exists_ofTimings_iff.1 ⟨_, h⟩
  exact BitDurations.exists_ofTimings_iff.2 (now.imp_right fun ⟨_, data⟩ => ⟨fits, data⟩)

/-- a data timing that fits can be set -/
theorem Coherent.exists_data (h : c.Coherent) {t : BitTiming} (fits : t.Fits) :
    ∃ d, BitDurations.ofTimings c.settings.nominal t c.config.clock = .ok d := by
  have now := BitDurations.exists_ofTimings_iff.1 ⟨_, h⟩
  exact BitDurations.exists_ofTimings_iff.2 (now.imp_right fun ⟨nominal, _⟩ => ⟨nominal, fits⟩)

variable [Controller σ]

theorem coherent_reset (h : c.reset = .ok c') : c'.Coherent := by
  obtain ⟨settings, baseline, h⟩ := Checked.bind_eq_ok.1 h
  cases h
  exact Settings.durations_of_baseline baseline

/-- joining and leaving the bus concern neither what was negotiated nor the command endpoint -/
theorem setBus_leaves (on : Bool) (c : Channel σ) : (c.setBus on).config = c.config ∧
    (c.setBus on).settings = c.settings ∧ (c.setBus on).command = c.command := by
  unfold setBus
  split
  · exact ⟨rfl, rfl, rfl⟩
  · split <;> exact ⟨rfl, rfl, rfl⟩

/-! ## Setting requests -/

/-- what a setting request does that is granted -/
inductive Applies (m : RawMessage) (c : Channel σ) : Channel σ → Prop where
  /-- the timing is moved into its range; the controller gets it, and the durations follow -/
  | nominal {t : BitTiming} {durations : BitDurations} (id : m.id = MessageId.nominalTiming)
      (read : Layout.nominalTiming.decode c.config.order m.bytes = .ok t)
      (derived : BitDurations.ofTimings (c.config.nominalRange.clamp t) c.settings.data c.config.clock =
        .ok durations) :
    Applies m c { c with
      controller := Controller.setNominal (c.config.nominalRange.clamp t) c.controller
      settings := { c.settings with nominal := c.config.nominalRange.clamp t, durations } }
  | data {t : BitTiming} {range : TimingRange} {durations : BitDurations} (id : m.id = MessageId.dataTiming)
      (read : Layout.dataTiming.decode c.config.order m.bytes = .ok t) (phase : c.config.dataRange = some range)
      (derived : BitDurations.ofTimings c.settings.nominal (range.clamp t) c.config.clock = .ok durations) :
    Applies m c { c with
      controller := Controller.setData (range.clamp t) c.controller
      settings := { c.settings with data := range.clamp t, durations } }
  | clear {arg : UInt32} (id : m.id = MessageId.features)
      (read : Layout.features.decode c.config.order m.bytes = .ok ⟨.clear, arg⟩) :
    Applies m c { c with settings := { c.settings with features := c.config.permanent } }
  | switchOn {arg : UInt32} (id : m.id = MessageId.features)
      (read : Layout.features.decode c.config.order m.bytes = .ok ⟨.or, arg⟩) (granted : c.config.Grants arg) :
    Applies m c { c with
      settings := { c.settings with features := c.settings.features ∪ .ofWord arg.toUInt16 } }
  | bus {on : Bool} (id : m.id = MessageId.bus) (read : Layout.bus.decode c.config.order m.bytes = .ok on) :
    Applies m c (c.setBus on)

theorem Applies.coherent (h : Applies m c c') (hc : c.Coherent) : c'.Coherent := by
  cases h with
  | nominal _ _ derived => exact derived
  | data _ _ _ derived => exact derived
  | clear | switchOn => exact hc
  | @bus on =>
    obtain ⟨config, settings, -⟩ := c.setBus_leaves on
    exact hc.of_same settings config

theorem Applies.command (h : Applies m c c') : c'.command = c.command := by
  cases h with
  | nominal | data | clear | switchOn => rfl
  | @bus on => exact (c.setBus_leaves on).2.2

theorem Applies.config (h : Applies m c c') : c'.config = c.config := by
  cases h with
  | nominal | data | clear | switchOn => rfl
  | @bus on => exact (c.setBus_leaves on).1

/-! The id of a request decides which layout it is read with. -/

theorem applyRequest_nominal (id : m.id = MessageId.nominalTiming) :
    c.applyRequest m = c.apply .nominalTiming m applyNominal := if_pos id

theorem applyRequest_data (id : m.id = MessageId.dataTiming) : c.applyRequest m = c.apply .dataTiming m applyData := by
  rw [applyRequest, if_neg (by rw [id]; decide), if_pos id]

theorem applyRequest_features (id : m.id = MessageId.features) :
    c.applyRequest m = c.apply .features m applyFeatures := by
  rw [applyRequest, if_neg (by rw [id]; decide), if_neg (by rw [id]; decide), if_pos id]

theorem applyRequest_bus (id : m.id = MessageId.bus) : c.applyRequest m = c.apply .bus m applyBus := by
  rw [applyRequest, if_neg (by rw [id]; decide), if_neg (by rw [id]; decide), if_neg (by rw [id]; decide), if_pos id]

theorem applyRequest_unknown (nominal : m.id ≠ MessageId.nominalTiming) (data : m.id ≠ MessageId.dataTiming)
    (features : m.id ≠ MessageId.features) (bus : m.id ≠ MessageId.bus) :
    c.applyRequest m = .ok (.error .unsupported, c) := by
  rw [applyRequest, if_neg nominal, if_neg data, if_neg features, if_neg bus]

omit [Controller σ] in
theorem apply_of_read {α : Type} {l : Layout α} {f : α → Channel σ → Checked (Outcome × Channel σ)} {a : α}
    (read : l.decode c.config.order m.bytes = .ok a) : c.apply l m f = f a c := by
  rw [apply, read]

omit [Controller σ] in
theorem apply_of_unread {α : Type} {l : Layout α} {f : α → Channel σ → Checked (Outcome × Channel σ)} {e : WireError}
    (unread : l.decode c.config.order m.bytes = .error e) : c.apply l m f = .ok (.error (.ofWireError e), c) := by
  rw [apply, unread]

omit [Controller σ] in
theorem applyFeatures_of_granted {r : FeatureRequest} {features : Features}
    (granted : c.requestedFeatures r = .ok features) :
    c.applyFeatures r = .ok (.ok (), { c with settings := { c.settings with features } }) := by
  rw [applyFeatures, setFeatures, granted]
  rfl

omit [Controller σ] in
theorem applyFeatures_of_refused {r : FeatureRequest} {e : CommandError} (refused : c.requestedFeatures r = .error e) :
    c.applyFeatures r = .ok (.error e, c) := by
  rw [applyFeatures, setFeatures, refused]
  rfl

/-- each of the five is what the channel does -/
theorem Applies.run (h : Applies m c c') : c.applyRequest m = .ok (.ok (), c') := by
  cases h with
  | nominal id read derived =>
    rw [applyRequest_nominal id, apply_of_read read]
    exact Checked.bind_eq_ok.2 ⟨_, Checked.bind_eq_ok.2 ⟨_, derived, rfl⟩, rfl⟩
  | data id read phase derived =>
    rw [applyRequest_data id, apply_of_read read, applyData, setData, phase]
    simp only [derived]
    rfl
  | clear id read =>
    rw [applyRequest_features id, apply_of_read read, applyFeatures_of_granted (requestedFeatures_clear _)]
  | switchOn id read granted =>
    rw [applyRequest_features id, apply_of_read read,
      applyFeatures_of_granted ((requestedFeatures_or _).2 ⟨granted, rfl⟩)]
  | bus id read =>
    rw [applyRequest_bus id, apply_of_read read]
    rfl

/-- a request is granted and does one of the five, or it is refused and does nothing -/
inductive Decided (m : RawMessage) (c : Channel σ) : Outcome → Channel σ → Prop where
  | granted {c' : Channel σ} (does : Applies m c c') : Decided m c (.ok ()) c'
  | refused (e : CommandError) : Decided m c (.error e) c

theorem decided_apply {α : Type} {l : Layout α} {f : α → Channel σ → Checked (Outcome × Channel σ)}
    (acts : ∀ a, l.decode c.config.order m.bytes = .ok a → f a c = .ok (outcome, c') → Decided m c outcome c')
    (h : c.apply l m f = .ok (outcome, c')) : Decided m c outcome c' := by
  cases read : l.decode c.config.order m.bytes with
  | error e =>
    rw [apply_of_unread read] at h
    cases h
    exact .refused _
  | ok a =>
    rw [apply_of_read read] at h
    exact acts a read h

theorem decided_nominal {t : BitTiming} (id : m.id = MessageId.nominalTiming)
    (read : Layout.nominalTiming.decode c.config.order m.bytes = .ok t) (h : c.applyNominal t = .ok (outcome, c')) :
    Decided m c outcome c' := by
  obtain ⟨⟨_, c₁⟩, set, h⟩ := Checked.bind_eq_ok.1 h
  obtain ⟨durations, derived, set⟩ := Checked.bind_eq_ok.1 set
  cases set
  cases h
  exact .granted (.nominal id read derived)

theorem decided_data {t : BitTiming} (id : m.id = MessageId.dataTiming)
    (read : Layout.dataTiming.decode c.config.order m.bytes = .ok t) (h : c.applyData t = .ok (outcome, c')) :
    Decided m c outcome c' := by
  obtain ⟨r, set, h⟩ := Checked.bind_eq_ok.1 h
  unfold setData at set
  split at set
  · cases set
    cases h
    exact .refused _
  · rename_i range phase
    obtain ⟨durations, derived, set⟩ := Checked.bind_eq_ok.1 set
    cases set
    cases h
    exact .granted (.data id read phase derived)

theorem decided_features {r : FeatureRequest} (id : m.id = MessageId.features)
    (read : Layout.features.decode c.config.order m.bytes = .ok r) (h : c.applyFeatures r = .ok (outcome, c')) :
    Decided m c outcome c' := by
  cases asked : c.requestedFeatures r with
  | error e =>
    rw [applyFeatures_of_refused asked] at h
    cases h
    exact .refused _
  | ok active =>
    rw [applyFeatures_of_granted asked] at h
    cases h
    obtain ⟨op, arg⟩ := r
    cases op with
    | clear =>
      cases asked
      exact .granted (.clear id read)
    | or =>
      obtain ⟨grants, rfl⟩ := (requestedFeatures_or arg).1 asked
      exact .granted (.switchOn id read grants)

theorem decided_request (h : c.applyRequest m = .ok (outcome, c')) : Decided m c outcome c' := by
  by_cases nominal : m.id = MessageId.nominalTiming
  · rw [applyRequest_nominal nominal] at h
    exact decided_apply (fun _ read h => decided_nominal nominal read h) h
  by_cases data : m.id = MessageId.dataTiming
  · rw [applyRequest_data data] at h
    exact decided_apply (fun _ read h => decided_data data read h) h
  by_cases features : m.id = MessageId.features
  · rw [applyRequest_features features] at h
    exact decided_apply (fun _ read h => decided_features features read h) h
  by_cases bus : m.id = MessageId.bus
  · rw [applyRequest_bus bus] at h
    refine decided_apply (fun on read h => ?_) h
    cases h
    exact .granted (.bus bus read)
  · rw [applyRequest_unknown nominal data features bus] at h
    cases h
    exact .refused _

/-! ## Coherence in every state -/

/-- a message changes nothing, or does what a setting request does that is granted, or resets the channel; then the
command endpoint may get an answer -/
theorem effect_request (h : c.request m = .ok c') : ∃ c₁ command, c' = { c₁ with command } ∧
    (c₁ = c ∨ Applies m c c₁ ∨ c.reset = .ok c₁) := by
  unfold request at h
  split at h
  · rw [hello_eq] at h
    obtain ⟨c₁, reset, rfl⟩ := Checked.map_eq_ok.1 h
    exact ⟨c₁, c₁.greeted, rfl, .inr (.inr reset)⟩
  · split at h
    · obtain ⟨command, rfl⟩ := reply_cases h
      exact ⟨c, command, rfl, .inl rfl⟩
    · split at h
      · obtain ⟨command, rfl⟩ := reply_cases h
        exact ⟨c, command, rfl, .inl rfl⟩
      · obtain ⟨⟨o, c₁⟩, applied, h⟩ := Checked.bind_eq_ok.1 h
        obtain ⟨command, rfl⟩ := reply_cases h
        cases decided_request applied with
        | granted does => exact ⟨c₁, command, rfl, .inr (.inl does)⟩
        | refused => exact ⟨_, command, rfl, .inl rfl⟩

theorem coherent_request (h : c.request m = .ok c') (hc : c.Coherent) : c'.Coherent := by
  obtain ⟨c₁, command, rfl, rfl | does | reset⟩ := effect_request h
  · exact hc
  · have kept := does.coherent hc
    exact kept
  · have derived := coherent_reset reset
    exact derived

theorem coherent_commands (h : c.commands bytes = .ok c') (hc : c.Coherent) : c'.Coherent := by
  obtain ⟨c₁, asked, h⟩ := Checked.bind_eq_ok.1 h
  obtain ⟨command, -, h⟩ := Checked.bind_eq_ok.1 h
  cases h
  have kept : c₁.Coherent := by
    refine Checked.foldlM_keeps ?_ asked hc
    intro m _ d d' h hd
    exact coherent_request h hd
  exact kept

end Channel

namespace Lane

variable {σ : Type} [Controller σ] {l l' : Lane σ}

theorem coherent_wakeUp {now : Nat} {outcome : WakeOutcome} (h : l.wakeUp now = .ok (outcome, l'))
    (hl : l.channel.Coherent) : l'.channel.Coherent := by
  rcases wakeUp_cases h with ⟨-, -, rfl⟩ | ⟨-, -, -, rfl⟩ | ⟨-, -, -, ms, flow, -⟩
  · exact hl
  · exact hl
  · exact hl.of_same (congrArg (·.settings) flow.channel) (congrArg (·.config) flow.channel)

theorem coherent_play {e : LaneEvent σ} (sound : l.Sound) (h : l.play e = .ok l') (hl : l.channel.Coherent) :
    l'.channel.Coherent := by
  cases stepped h with
  | moved | mount | usbReset | commandDone | canDone | wait => exact hl
  | detach reset =>
    have derived := Channel.coherent_reset reset
    exact derived
  | commandData commands => exact Channel.coherent_commands commands hl
  | canData transmissions =>
    obtain ⟨fs, -, sent⟩ := Channel.sent_transmissions transmissions
    exact hl.of_same (congrArg (·.settings) sent.channel) (congrArg (·.config) sent.channel)
  | poll poll =>
    obtain ⟨a, -, polled⟩ := Channel.poll_cases sound.settled poll
    exact hl.of_same (congrArg (·.settings) polled.channel) (congrArg (·.config) polled.channel)
  | wakeUp look => exact coherent_wakeUp look hl
  | serve told look => exact coherent_wakeUp (l := { l with channel := { l.channel with wake := false } }) look hl

theorem Reachable.coherent (h : l.Reachable) : l.channel.Coherent := by
  obtain ⟨l₀, es, fresh, played⟩ := h
  have built : l₀.channel.Coherent := by
    obtain ⟨index, config, s, c, created, rfl⟩ := fresh
    have derived := Channel.coherent_create created
    exact derived
  refine plays_keeps_of_sound (P := fun k : Lane σ => k.channel.Coherent) ?_ played (sound_of_fresh fresh) built
  intro e _ k k' sound played coherent
  exact coherent_play sound played coherent

end Lane

end CanAdapter
