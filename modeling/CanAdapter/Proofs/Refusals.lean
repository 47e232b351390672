/-
Why a request of the command pipe is refused.

What is wrong with a request can be read off its bytes: it is shorter than its layout, its parameters do not go
together, or it asks for what the channel does not know or does not have. `Config.Refuses` says so, one lemma for each
kind of request what it comes to. `Channel.judged`: a setting request comes to its end, and is refused exactly for what
is wrong with it. No number leaves its word on the way, because the timings that are set were counted before, and so
were the limits of the ranges (`Channel.Ready`).
-/
import CanAdapter.Proofs.Acceptance
import CanAdapter.Proofs.Settings
import CanAdapter.Proofs.Walk

namespace CanAdapter

/-! ## What can be wrong with a request -/

/-- the kinds of message that the command pipe knows -/
def MessageKind.commands : List MessageKind :=
  [hello, deviceInfoRequest, canInfoRequest, nominalTiming, dataTiming, features, bus]

/-- a command is known by its id -/
theorem MessageKind.eq_of_id {k k' : MessageKind} (hk : k ∈ commands) (hk' : k' ∈ commands) (id : k.id = k'.id) :
    k = k' := by
  have distinct : ∀ k ∈ commands, ∀ k' ∈ commands, k.id = k'.id → k = k' := by decide
  exact distinct k hk k' hk' id

namespace RawMessage

/-- a known command that is shorter than its layout -/
def TooShort (m : RawMessage) : Prop := ∃ k ∈ MessageKind.commands, m.id = k.id ∧ m.bytes.length < k.minLength

/-- the byte of a feature request that says what it does -/
def op (m : RawMessage) : UInt8 := m.bytes.getD 2 0

/-- the word of a feature request that says which features it is about -/
def argument (o : ByteOrder) (m : RawMessage) : UInt32 := UInt32.ofNat (o.decode ((m.bytes.drop 4).take 4))

/-- a feature request, long enough, that does what there is not, or switches on more than one mode -/
def BadParameter (o : ByteOrder) (m : RawMessage) : Prop :=
  m.id = MessageId.features ∧ 8 ≤ m.bytes.length ∧
    (m.op ≠ 0 ∧ m.op ≠ 1 ∨ m.op = 1 ∧ 1 < modeCount (m.argument o))

end RawMessage

namespace Config

/-- an unknown command, a request for a feature that the channel does not have, or a data timing for a channel without
a data phase -/
def Lacks (config : Config) (m : RawMessage) : Prop :=
  (∀ k ∈ MessageKind.commands, m.id ≠ k.id) ∨
    (m.id = MessageId.features ∧ 8 ≤ m.bytes.length ∧ m.op = 1 ∧ modeCount (m.argument config.order) ≤ 1 ∧
      m.argument config.order &&& ~~~config.supported.bits.toUInt32 ≠ 0) ∨
    (m.id = MessageId.dataTiming ∧ 8 ≤ m.bytes.length ∧ config.dataRange = none)

/-- what is wrong with a request -/
def Refuses (config : Config) (m : RawMessage) : CommandError → Prop
  | .short => m.TooShort
  | .param => m.BadParameter config.order
  | .unsupported => config.Lacks m

variable {config : Config} {m : RawMessage} {k : MessageKind} {e : CommandError}

/-- of a command that is too short nothing else is said -/
theorem refuses_of_short (hk : k ∈ MessageKind.commands) (id : m.id = k.id) (short : m.bytes.length < k.minLength) :
    config.Refuses m e ↔ e = .short := by
  have tooLong {j : MessageKind} (known : j ∈ MessageKind.commands) (id' : m.id = j.id)
      (long : j.minLength ≤ m.bytes.length) : False := by
    obtain rfl := MessageKind.eq_of_id hk known (id.symm.trans id')
    omega
  cases e with
  | short => exact iff_of_true ⟨k, hk, id, short⟩ rfl
  | param =>
    refine iff_of_false ?_ nofun
    rintro ⟨id', long, -⟩
    exact tooLong (j := .features) (by decide) id' long
  | unsupported =>
    refine iff_of_false ?_ nofun
    rintro (unknown | ⟨id', long, -⟩ | ⟨id', long, -⟩)
    · exact unknown k hk id
    · exact tooLong (j := .features) (by decide) id' long
    · exact tooLong (j := .dataTiming) (by decide) id' long

theorem not_tooShort (hk : k ∈ MessageKind.commands) (id : m.id = k.id) (long : k.minLength ≤ m.bytes.length) :
    ¬m.TooShort := by
  rintro ⟨k', hk', id', short⟩
  obtain rfl := MessageKind.eq_of_id hk hk' (id.symm.trans id')
  omega

/-- nothing is wrong with a command that is long enough, unless it is about features or a data phase that is missing -/
theorem not_refuses (hk : k ∈ MessageKind.commands) (id : m.id = k.id) (long : k.minLength ≤ m.bytes.length)
    (features : k ≠ .features) (data : k = .dataTiming → config.dataRange ≠ none) : ¬config.Refuses m e := by
  have known {j : MessageKind} (hj : j ∈ MessageKind.commands) (id' : m.id = j.id) : k = j :=
    MessageKind.eq_of_id hk hj (id.symm.trans id')
  cases e with
  | short => exact not_tooShort hk id long
  | param => exact fun bad => features (known (by decide) bad.1)
  | unsupported =>
    rintro (unknown | ⟨id', -⟩ | ⟨id', -, none⟩)
    · exact unknown k hk id
    · exact features (known (by decide) id')
    · exact data (known (by decide) id') none

theorem refuses_data (id : m.id = MessageId.dataTiming) (long : 8 ≤ m.bytes.length) (none : config.dataRange = none) :
    config.Refuses m e ↔ e = .unsupported := by
  cases e with
  | short => exact iff_of_false (not_tooShort (k := .dataTiming) (by decide) id long) nofun
  | param =>
    refine iff_of_false ?_ nofun
    rintro ⟨id', -⟩
    rw [id] at id'
    exact absurd id' (by decide)
  | unsupported => exact iff_of_true (.inr (.inr ⟨id, long, none⟩)) rfl

theorem refuses_unknown (unknown : ∀ k ∈ MessageKind.commands, m.id ≠ k.id) :
    config.Refuses m e ↔ e = .unsupported := by
  cases e with
  | short =>
    refine iff_of_false ?_ nofun
    rintro ⟨k, hk, id, -⟩
    exact unknown k hk id
  | param =>
    refine iff_of_false ?_ nofun
    rintro ⟨id, -⟩
    exact unknown .features (by decide) id
  | unsupported => exact iff_of_true (.inl unknown) rfl

/-- a feature request that is long enough: the operation is looked at first, then the number of modes -/
theorem refuses_features (id : m.id = MessageId.features) (long : 8 ≤ m.bytes.length) : config.Refuses m e ↔
    e = .param ∧ (m.op ≠ 0 ∧ m.op ≠ 1 ∨ m.op = 1 ∧ 1 < modeCount (m.argument config.order)) ∨
      e = .unsupported ∧ m.op = 1 ∧ modeCount (m.argument config.order) ≤ 1 ∧
        m.argument config.order &&& ~~~config.supported.bits.toUInt32 ≠ 0 := by
  cases e with
  | short => simp [Refuses, not_tooShort (k := .features) (by decide) id long]
  | param => simp [Refuses, RawMessage.BadParameter, id, long]
  | unsupported =>
    constructor
    · rintro (unknown | ⟨-, -, lacking⟩ | ⟨id', -⟩)
      · exact absurd id (unknown .features (by decide))
      · exact .inr ⟨rfl, lacking⟩
      · rw [id] at id'
        exact absurd id' (by decide)
    · rintro (⟨⟨⟩, -⟩ | ⟨-, lacking⟩)
      exact .inr (.inl ⟨id, long, lacking⟩)

end Config

/-! ## Reading a request -/

section

variable {α : Type} {l : Layout α} {k : MessageKind} {m : RawMessage}

/-- the header of a message that was found says its id, so a decoder of this id only looks at the fields -/
theorem RawMessage.Framed.complaint (h : m.Framed) (id : m.id = k.id) : k.complaint m.bytes =
    if m.bytes.length < k.minLength then some (.short k.id k.minLength m.bytes.length)
    else (k.badValue m.bytes).or (k.shortPayload m.bytes) := by
  have first : m.bytes.getD 0 0 = k.id := by
    rw [List.getD_eq_getElem?_getD, h.id, id]
    rfl
  rw [MessageKind.complaint, if_neg (Nat.not_lt.2 h.holdsHeader), if_neg (not_not_intro first)]

theorem Layout.Judges.decode_short (h : l.Judges k) (framed : m.Framed) (id : m.id = k.id)
    (short : m.bytes.length < k.minLength) (o : ByteOrder) :
    l.decode o m.bytes = .error (.short k.id k.minLength m.bytes.length) := by
  have judged := Layout.decode_judged h o m.bytes
  rw [framed.complaint id, if_pos short] at judged
  exact judged

/-- a layout without an enumerated field and without a payload reads all that is long enough -/
theorem Layout.Judges.exists_decode (h : l.Judges k) (framed : m.Framed) (id : m.id = k.id)
    (long : k.minLength ≤ m.bytes.length) (plain : k.enumerated? = none) (empty : k.payloadLength m.bytes = 0)
    (o : ByteOrder) : ∃ a, l.decode o m.bytes = .ok a := by
  have judged := Layout.decode_judged h o m.bytes
  rw [framed.complaint id, if_neg (Nat.not_lt.2 long), MessageKind.badValue, plain,
    Layout.shortPayload_eq_none empty long] at judged
  obtain ⟨a, read⟩ := judged
  refine ⟨a, ?_⟩
  rw [← read [], List.append_nil]

/-- the two fields that a feature request is read from -/
theorem Layout.decode_features (framed : m.Framed) (id : m.id = MessageId.features) (long : 8 ≤ m.bytes.length)
    (o : ByteOrder) : Layout.features.decode o m.bytes =
      match FeatureOp.ofByte? m.op with
      | some op => .ok ⟨op, m.argument o⟩
      | none => .error (.invalidValue .featureOp m.op) := by
  have first := framed.id
  rw [id] at first
  obtain ⟨id', bytes⟩ := m
  match bytes with
  | b :: len :: raw :: gap :: fields =>
    obtain rfl : b = MessageId.features := Option.some.inj first
    have enough : 4 ≤ fields.length := by
      simp only [List.length_cons] at long
      omega
    have word : (fields.take 4).length = 4 := List.length_take_of_le enough
    have fixed : ¬(MessageId.features :: len :: raw :: gap :: fields).length < Layout.features.minLength :=
      Nat.not_lt.2 long
    have one : [gap].length = 1 := rfl
    have read (n : Nat) :
        Layout.features.read n (Reader.ofBytes o (raw :: ([gap] ++ (fields.take 4 ++ fields.drop 4)))) =
        (Decoder.enum .featureOp raw (FeatureOp.ofByte? raw) >>= fun op =>
          pure ⟨op, UInt32.ofNat (o.decode (fields.take 4))⟩) ⟨o, 6, fields.drop 4⟩ := by
      simp only [Layout.features, Reader.ofBytes]
      rw [Decoder.bind_u8, Decoder.bind_skip one, Decoder.bind_read (Reader.u32_read word _)]
    rw [List.take_append_drop, List.singleton_append] at read
    have same : ¬MessageId.features ≠ Layout.features.id := not_not_intro rfl
    rw [Layout.decode, if_neg same, if_neg fixed, StateT.run', read]
    have op : RawMessage.op ⟨id', MessageId.features :: len :: raw :: gap :: fields⟩ = raw := rfl
    have argument : RawMessage.argument o ⟨id', MessageId.features :: len :: raw :: gap :: fields⟩ =
        UInt32.ofNat (o.decode (fields.take 4)) := rfl
    rw [op, argument]
    cases FeatureOp.ofByte? raw <;> rfl
  | [] | [_] | [_, _] | [_, _, _] => simp at long

end

theorem FeatureOp.ofByte?_eq_none {b : UInt8} (clear : b ≠ 0) (or : b ≠ 1) : ofByte? b = none := by
  unfold ofByte?
  split
  · exact absurd rfl clear
  · exact absurd rfl or
  · rfl

namespace Channel

variable {σ : Type} [Controller σ] {c c' : Channel σ} {m : RawMessage}

/-! ## What comes of a request -/

/-- no number that a request can lead to is too large for its word -/
structure Ready (c : Channel σ) : Prop where
  coherent : c.Coherent
  baseline : ∃ settings, Settings.baseline c.config = .ok settings
  nominal : c.config.nominalRange.max.Fits
  data : ∀ range, c.config.dataRange = some range → range.max.Fits

omit [Controller σ] in
theorem Ready.of_same (ready : c.Ready) (coherent : c'.Coherent) (config : c'.config = c.config) : c'.Ready where
  coherent
  baseline := config ▸ ready.baseline
  nominal := config ▸ ready.nominal
  data := config ▸ ready.data

/-- a setting request comes to its end, and is refused exactly for what is wrong with it -/
def Judged (m : RawMessage) (c : Channel σ) : Prop :=
  ∃ o c', c.applyRequest m = .ok (o, c') ∧ ∀ e, o = .error e ↔ c.config.Refuses m e

theorem Applies.judged (h : Applies m c c') (fine : ∀ e, ¬c.config.Refuses m e) : Judged m c :=
  ⟨.ok (), c', h.run, fun e => iff_of_false nofun (fine e)⟩

theorem judged_of_refused {e : CommandError} (h : c.applyRequest m = .ok (.error e, c))
    (wrong : ∀ e', c.config.Refuses m e' ↔ e' = e) : Judged m c := by
  refine ⟨.error e, c, h, fun e' => ?_⟩
  rw [wrong, Except.error.injEq, eq_comm]

theorem judged_of_short {α : Type} {l : Layout α} {k : MessageKind} {f : α → Channel σ → Checked (Outcome × Channel σ)}
    (judges : l.Judges k) (known : k ∈ MessageKind.commands) (framed : m.Framed) (id : m.id = k.id)
    (short : m.bytes.length < k.minLength) (route : c.applyRequest m = c.apply l m f) : Judged m c := by
  refine judged_of_refused (e := .short) ?_ fun e => Config.refuses_of_short known id short
  rw [route, apply_of_unread (judges.decode_short framed id short _)]
  rfl

theorem judged_nominal (ready : c.Ready) (framed : m.Framed) (id : m.id = MessageId.nominalTiming) : Judged m c := by
  have judges : Layout.nominalTiming.Judges .nominalTiming := Layout.judges_timing rfl rfl rfl fun _ => rfl
  by_cases short : m.bytes.length < MessageKind.nominalTiming.minLength
  · exact judged_of_short judges (by decide) framed id short (applyRequest_nominal id)
  have long := Nat.le_of_not_lt short
  obtain ⟨t, read⟩ := judges.exists_decode framed id long rfl rfl c.config.order
  obtain ⟨durations, derived⟩ := ready.coherent.exists_nominal (TimingRange.fits_clamp ready.nominal t)
  refine (Applies.nominal id read derived).judged fun e => ?_
  exact Config.not_refuses (k := .nominalTiming) (by decide) id long (by decide) nofun

theorem judged_data (ready : c.Ready) (framed : m.Framed) (id : m.id = MessageId.dataTiming) : Judged m c := by
  have judges : Layout.dataTiming.Judges .dataTiming := Layout.judges_timing rfl rfl rfl fun _ => rfl
  by_cases short : m.bytes.length < MessageKind.dataTiming.minLength
  · exact judged_of_short judges (by decide) framed id short (applyRequest_data id)
  have long := Nat.le_of_not_lt short
  obtain ⟨t, read⟩ := judges.exists_decode framed id long rfl rfl c.config.order
  cases phase : c.config.dataRange with
  | none =>
    refine judged_of_refused (e := .unsupported) ?_ fun e => Config.refuses_data id long phase
    rw [applyRequest_data id, apply_of_read read, applyData, setData, phase]
    rfl
  | some range =>
    obtain ⟨durations, derived⟩ := ready.coherent.exists_data (TimingRange.fits_clamp (ready.data range phase) t)
    refine (Applies.data id read phase derived).judged fun e => ?_
    refine Config.not_refuses (k := .dataTiming) (by decide) id long (by decide) fun _ => ?_
    rw [phase]
    exact Option.some_ne_none range

theorem judged_features (framed : m.Framed) (id : m.id = MessageId.features) : Judged m c := by
  by_cases short : m.bytes.length < MessageKind.features.minLength
  · exact judged_of_short Layout.judges_features (by decide) framed id short (applyRequest_features id)
  have long := Nat.le_of_not_lt short
  have read := Layout.decode_features framed id long c.config.order
  have wrong (e : CommandError) : c.config.Refuses m e ↔ _ := Config.refuses_features id long
  by_cases clear : m.op = 0
  · rw [clear] at read
    refine (Applies.clear id read).judged fun e => ?_
    simp [wrong, clear]
  by_cases or : m.op = 1
  · rw [or] at read
    by_cases several : 1 < modeCount (m.argument c.config.order)
    · have refused : c.requestedFeatures ⟨.or, m.argument c.config.order⟩ = .error .param := if_pos several
      refine judged_of_refused (e := .param) ?_ fun e => by simp [wrong, or, several, Nat.not_le.2 several]
      rw [applyRequest_features id, apply_of_read read, applyFeatures_of_refused refused]
    by_cases lacking : m.argument c.config.order &&& ~~~c.config.supported.bits.toUInt32 ≠ 0
    · have refused : c.requestedFeatures ⟨.or, m.argument c.config.order⟩ = .error .unsupported :=
        (if_neg several).trans (if_pos lacking)
      refine judged_of_refused (e := .unsupported) ?_ fun e => by
        simp [wrong, or, several, lacking, Nat.le_of_not_lt several]
      rw [applyRequest_features id, apply_of_read read, applyFeatures_of_refused refused]
    · have grants : c.config.Grants (m.argument c.config.order) :=
        ⟨Nat.le_of_not_lt several, Decidable.not_not.1 lacking⟩
      refine (Applies.switchOn id read grants).judged fun e => ?_
      simp [wrong, or, several, Decidable.not_not.1 lacking]
  · rw [FeatureOp.ofByte?_eq_none clear or] at read
    refine judged_of_refused (e := .param) ?_ fun e => by simp [wrong, clear, or]
    rw [applyRequest_features id, apply_of_unread read]
    rfl

theorem judged_bus (framed : m.Framed) (id : m.id = MessageId.bus) : Judged m c := by
  by_cases short : m.bytes.length < MessageKind.bus.minLength
  · exact judged_of_short Layout.judges_bus (by decide) framed id short (applyRequest_bus id)
  have long := Nat.le_of_not_lt short
  obtain ⟨on, read⟩ := Layout.judges_bus.exists_decode framed id long rfl rfl c.config.order
  refine (Applies.bus id read).judged fun e => ?_
  exact Config.not_refuses (k := .bus) (by decide) id long (by decide) nofun

theorem judged (ready : c.Ready) (framed : m.Framed) (hello : m.id ≠ MessageId.hello)
    (deviceInfo : m.id ≠ MessageId.deviceInfo) (canInfo : m.id ≠ MessageId.canInfo) : Judged m c := by
  by_cases nominal : m.id = MessageId.nominalTiming
  · exact judged_nominal ready framed nominal
  by_cases data : m.id = MessageId.dataTiming
  · exact judged_data ready framed data
  by_cases features : m.id = MessageId.features
  · exact judged_features framed features
  by_cases bus : m.id = MessageId.bus
  · exact judged_bus framed bus
  · have unknown : ∀ k ∈ MessageKind.commands, m.id ≠ k.id := by
      simp only [MessageKind.commands, List.forall_mem_cons]
      exact ⟨hello, deviceInfo, canInfo, nominal, data, features, bus, nofun⟩
    exact judged_of_refused (applyRequest_unknown nominal data features bus) fun e => Config.refuses_unknown unknown

end Channel

theorem Lane.Reachable.ready {σ : Type} [Controller σ] {l : Lane σ} (h : l.Reachable)
    (nominal : l.channel.config.nominalRange.max.Fits)
    (data : ∀ range, l.channel.config.dataRange = some range → range.max.Fits) : l.channel.Ready :=
  ⟨h.coherent, h.baseline, nominal, data⟩

end CanAdapter
