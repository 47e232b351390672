/-
What a command buffer with a greeting in it leaves of the past. The channel is back at its baseline
(`Channel.atBaseline_commands`), whatever it was before. The command endpoint holds the answers to the buffer, and these
depend on the description of the channel, its index and the buffer only: `Channel.Hears` is what two channels have to
have in common to be told the same, and `Channel.Hears.commands` says that they are.

The settings of the two channels may differ, so one may stop where the other does not. That is why the second result is
about buffers that both handle.
-/
import CanAdapter.Proofs.Alike
import CanAdapter.Proofs.InFlight

namespace CanAdapter

open Checked

/-! ## What a greeting leaves -/

namespace Channel

variable {σ : Type} {c c' : Channel σ}

/-- a channel as a greeting leaves it, apart from its rings, its command endpoint and its controller -/
structure AtBaseline (c : Channel σ) : Prop where
  settings : Settings.baseline c.config = .ok c.settings
  filling : c.can.filling = []
  sending : c.can.sending = []
  lost : c.rx.lost = 0
  enabled : c.enabled = false
  desync : c.desync = false
  credits : c.credits = 0
  dropped : c.dropped = 0
  queueFlags : c.queueFlags = .empty
  published : c.published = .errorActive

variable [Controller σ] {bytes : Bytes}

/-- and the reporting task is told to look -/
theorem atBaseline_reset (h : c.reset = .ok c') : c'.AtBaseline ∧ c'.wake = true := by
  obtain ⟨settings, baseline, h⟩ := Checked.bind_eq_ok.1 h
  cases h
  exact ⟨⟨baseline, rfl, rfl, rfl, rfl, rfl, rfl, rfl, rfl, rfl⟩, rfl⟩

/-- a buffer is read up to its first greeting, which is the last to change the channel -/
theorem atBaseline_throughHello {ms : List RawMessage} (greeting : ms.any (·.id == MessageId.hello) = true)
    (h : (throughHello ms).foldlM (fun c m => c.request m) c = .ok c') : c'.AtBaseline ∧ c'.wake = true := by
  induction ms generalizing c with
  | nil => cases greeting
  | cons m ms ih =>
    unfold throughHello at h
    split at h
    · rename_i id
      rw [List.foldlM_cons] at h
      obtain ⟨c₁, first, h⟩ := Checked.bind_eq_ok.1 h
      cases h
      rw [request, if_pos id, hello_eq] at first
      obtain ⟨c₂, reset, rfl⟩ := Checked.map_eq_ok.1 first
      obtain ⟨base, told⟩ := atBaseline_reset reset
      exact ⟨{ base with }, told⟩
    · rename_i id
      rw [List.foldlM_cons] at h
      obtain ⟨c₁, first, h⟩ := Checked.bind_eq_ok.1 h
      rw [List.any_cons, Bool.or_eq_true, beq_iff_eq] at greeting
      exact ih (greeting.resolve_left id) h

theorem atBaseline_commands (greeting : greets bytes = true) (h : c.commands bytes = .ok c') :
    c'.AtBaseline ∧ c'.wake = true := by
  obtain ⟨c₁, asked, h⟩ := Checked.bind_eq_ok.1 h
  obtain ⟨command, -, h⟩ := Checked.bind_eq_ok.1 h
  cases h
  obtain ⟨base, told⟩ := atBaseline_throughHello greeting asked
  exact ⟨{ base with }, told⟩

end Channel

/-! ## What decides the answers -/

namespace Channel

variable {σ : Type} {p₁ p₂ : List Bytes} {c₁ c₂ : Channel σ}

/-- what answers depend on is the same, and since `p₁` and `p₂` so were the answers -/
structure Hears (p₁ p₂ : List Bytes) (c₁ c₂ : Channel σ) : Prop where
  index : c₁.index = c₂.index
  config : c₁.config = c₂.config
  mounted : c₁.mounted = c₂.mounted
  command : Endpoint.Alike p₁ p₂ c₁.command c₂.command

theorem Hears.reply (h : Hears p₁ p₂ c₁ c₂) (m : Message) : Meet (Hears p₁ p₂) (c₁.reply m) (c₂.reply m) := by
  unfold Channel.reply
  rw [h.config]
  exact (h.command.push _ m).meet.bind fun _ _ pushed => .ok { h with config := rfl, command := pushed.2 }

theorem Hears.apply {α : Type} {f : α → Channel σ → Checked (Outcome × Channel σ)} (h : Hears p₁ p₂ c₁ c₂)
    (acts : ∀ a, Meet (SameAnswer (Hears p₁ p₂)) (f a c₁) (f a c₂)) (l : Layout α) (m : RawMessage) :
    Meet (SameAnswer (Hears p₁ p₂)) (c₁.apply l m f) (c₂.apply l m f) := by
  unfold Channel.apply
  rw [h.config]
  split
  · exact .ok ⟨rfl, h⟩
  · exact acts _

/-- a request is refused for the same reason, if it is -/
theorem Hears.requestedFeatures (h : Hears p₁ p₂ c₁ c₂) (r : FeatureRequest) :
    Agree (fun _ _ => True) (c₁.requestedFeatures r) (c₂.requestedFeatures r) := by
  unfold Channel.requestedFeatures
  rw [h.config]
  split
  · exact .ok trivial
  · split
    · exact .error _
    · split
      · exact .error _
      · exact .ok trivial

theorem Hears.applyFeatures (h : Hears p₁ p₂ c₁ c₂) (r : FeatureRequest) :
    Meet (SameAnswer (Hears p₁ p₂)) (c₁.applyFeatures r) (c₂.applyFeatures r) := by
  have requested := h.requestedFeatures r
  unfold Channel.applyFeatures Channel.setFeatures
  generalize c₁.requestedFeatures r = x at requested ⊢
  generalize c₂.requestedFeatures r = y at requested ⊢
  cases requested with
  | ok => exact .ok ⟨rfl, { h with }⟩
  | error e => exact .ok ⟨rfl, h⟩

variable [Controller σ]

theorem Hears.hello (h : Hears p₁ p₂ c₁ c₂) : Meet (Hears p₁ p₂) c₁.hello c₂.hello := by
  have reset : Meet (Hears p₁ p₂) c₁.reset c₂.reset := (meet_any _ _).bind fun _ _ _ => .ok { h with }
  rw [hello_eq, hello_eq]
  exact reset.map fun _ _ reset => { reset with command := alike_greeted reset.config reset.command }

theorem Hears.applyNominal (h : Hears p₁ p₂ c₁ c₂) (t : BitTiming) :
    Meet (SameAnswer (Hears p₁ p₂)) (c₁.applyNominal t) (c₂.applyNominal t) := by
  have set : Meet (SameAnswer (Hears p₁ p₂)) (c₁.setNominal t) (c₂.setNominal t) := by
    unfold Channel.setNominal
    rw [h.config]
    exact (meet_any _ _).bind fun _ _ _ => .ok ⟨rfl, { h with config := rfl }⟩
  exact set.bind fun _ _ set => .ok ⟨rfl, set.2⟩

theorem Hears.applyData (h : Hears p₁ p₂ c₁ c₂) (t : BitTiming) :
    Meet (SameAnswer (Hears p₁ p₂)) (c₁.applyData t) (c₂.applyData t) := by
  have set : Meet (Agree (SameAnswer (Hears p₁ p₂))) (c₁.setData t) (c₂.setData t) := by
    unfold Channel.setData
    rw [h.config]
    split
    · exact .ok (.error _)
    · exact (meet_any _ _).bind fun _ _ _ => .ok (.ok ⟨rfl, { h with config := rfl }⟩)
  refine set.bind ?_
  intro r₁ r₂ set
  cases set with
  | ok set => exact .ok ⟨rfl, set.2⟩
  | error e => exact .ok ⟨rfl, h⟩

theorem Hears.setBus (h : Hears p₁ p₂ c₁ c₂) (on : Bool) : Hears p₁ p₂ (c₁.setBus on) (c₂.setBus on) := by
  have same (c : Channel σ) : (c.setBus on).index = c.index ∧ (c.setBus on).config = c.config ∧
      (c.setBus on).mounted = c.mounted ∧ (c.setBus on).command = c.command := by
    unfold Channel.setBus
    split
    · exact ⟨rfl, rfl, rfl, rfl⟩
    · split <;> exact ⟨rfl, rfl, rfl, rfl⟩
  obtain ⟨index₁, config₁, mounted₁, command₁⟩ := same c₁
  obtain ⟨index₂, config₂, mounted₂, command₂⟩ := same c₂
  refine ⟨?_, ?_, ?_, ?_⟩
  · rw [index₁, index₂, h.index]
  · rw [config₁, config₂, h.config]
  · rw [mounted₁, mounted₂, h.mounted]
  · rw [command₁, command₂]
    exact h.command

theorem Hears.applyRequest (h : Hears p₁ p₂ c₁ c₂) (m : RawMessage) :
    Meet (SameAnswer (Hears p₁ p₂)) (c₁.applyRequest m) (c₂.applyRequest m) := by
  unfold Channel.applyRequest
  split
  · exact h.apply h.applyNominal _ m
  · split
    · exact h.apply h.applyData _ m
    · split
      · exact h.apply h.applyFeatures _ m
      · split
        · exact h.apply (fun on => .ok ⟨rfl, h.setBus on⟩) _ m
        · exact .ok ⟨rfl, h⟩

theorem Hears.request (h : Hears p₁ p₂ c₁ c₂) (m : RawMessage) :
    Meet (Hears p₁ p₂) (c₁.request m) (c₂.request m) := by
  unfold Channel.request
  rw [deviceInfo_congr h.index h.config, canInfo_congr h.config]
  split
  · exact h.hello
  · split
    · exact h.reply _
    · split
      · exact h.reply _
      · refine (h.applyRequest m).bind ?_
        rintro ⟨o, d₁⟩ ⟨_, d₂⟩ ⟨rfl, applied⟩
        exact applied.reply _

theorem Hears.commands (h : Hears p₁ p₂ c₁ c₂) (bytes : Bytes) :
    Meet (Hears p₁ p₂) (c₁.commands bytes) (c₂.commands bytes) := by
  refine (meet_foldlM (fun m _ _ h => h.request m) h).bind ?_
  intro d₁ d₂ asked
  exact asked.command.flush.meet.bind fun _ _ flushed => .ok { asked with command := flushed }

end Channel

end CanAdapter
