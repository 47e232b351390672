/-
Which operating modes are active together.

A feature request is refused if it names more than one mode. What is granted stays until a clear or a greeting, so modes
can meet that different requests asked for. `Config.standing` is what stays of a history of requests. The active set is
always its union with the permanent features, and so is every set the controller is given, for the history up to then:
`Followed` says so, and `followed_request` that a request keeps it.

`Channel.modes_exclusive_iff`: a set names at most one mode exactly when no two members of the history behind it name
different ones. `twoRequests_clash`: two requests suffice to have the controller enter two modes.
-/
import Mathlib.Data.List.Pairwise
import CanAdapter.Bench.Controller
import CanAdapter.Proofs.Requests

namespace CanAdapter

/-! ## Modes of a feature set -/

namespace Features

variable {f g m : Features}

def operatingModes : List Features := [monitoring, restricted, loopback]

/-- the operating modes that a set contains -/
def modesOf (f : Features) : List Features := operatingModes.filter f.has

/-- at most one operating mode -/
def Exclusive (f : Features) : Prop := f.modesOf.length ≤ 1

/-- no mode of the one differs from a mode of the other -/
def Agree (f g : Features) : Prop := ∀ m ∈ f.modesOf, ∀ n ∈ g.modesOf, m = n

instance (f : Features) : Decidable f.Exclusive := inferInstanceAs (Decidable (_ ≤ _))

instance (f g : Features) : Decidable (f.Agree g) := inferInstanceAs (Decidable (∀ m ∈ _, ∀ n ∈ _, m = n))

instance : Std.Symm Agree := ⟨fun _ _ h m hm n hn => (h n hn m hm).symm⟩

theorem exclusive_iff_agree : f.Exclusive ↔ f.Agree f := by
  have distinct : f.modesOf.Nodup := List.Pairwise.filter _ (by decide)
  unfold Exclusive Agree
  generalize f.modesOf = ms at distinct
  match ms with
  | [] => simp
  | [m] => simp
  | m :: n :: ms =>
    refine iff_of_false (by simp) fun same => ?_
    have eq : m = n := same m (by simp) n (by simp)
    simp [eq] at distinct

/-! Each mode is one bit, and a union has a bit if either part has it. -/

theorem twoPow_ne_zero {w i : Nat} (hi : i < w) : BitVec.twoPow w i ≠ 0#w := by
  intro h
  have bit := congrArg (BitVec.getLsbD · i) h
  simp [hi] at bit

theorem has_twoPow (f : Features) (i : Nat) (hi : i < 16) :
    f.has ⟨⟨BitVec.twoPow 16 i⟩⟩ = f.bits.toBitVec.getLsbD i := by
  rw [has, Bool.eq_iff_iff, beq_iff_eq, ← UInt16.toBitVec_inj, UInt16.toBitVec_and, BitVec.and_twoPow]
  split
  · rename_i set
    exact iff_of_true rfl set
  · rename_i clear
    exact iff_of_false (twoPow_ne_zero hi).symm clear

theorem has_monitoring (f : Features) : f.has monitoring = f.bits.toBitVec.getLsbD 5 := f.has_twoPow 5 (by decide)

theorem has_restricted (f : Features) : f.has restricted = f.bits.toBitVec.getLsbD 6 := f.has_twoPow 6 (by decide)

theorem has_loopback (f : Features) : f.has loopback = f.bits.toBitVec.getLsbD 7 := f.has_twoPow 7 (by decide)

theorem has_union (hm : m ∈ operatingModes) : (f ∪ g).has m = (f.has m || g.has m) := by
  have bits : (f ∪ g).bits.toBitVec = f.bits.toBitVec ||| g.bits.toBitVec := UInt16.toBitVec_or f.bits g.bits
  simp only [operatingModes, List.mem_cons, List.not_mem_nil, or_false] at hm
  rcases hm with rfl | rfl | rfl
  · simp only [has_monitoring, bits, BitVec.getLsbD_or]
  · simp only [has_restricted, bits, BitVec.getLsbD_or]
  · simp only [has_loopback, bits, BitVec.getLsbD_or]

theorem mem_modesOf_union : m ∈ (f ∪ g).modesOf ↔ m ∈ f.modesOf ∨ m ∈ g.modesOf := by
  simp only [modesOf, List.mem_filter]
  constructor
  · rintro ⟨hm, has⟩
    rw [has_union hm, Bool.or_eq_true] at has
    exact has.imp (⟨hm, ·⟩) (⟨hm, ·⟩)
  · rintro (⟨hm, has⟩ | ⟨hm, has⟩)
    · exact ⟨hm, by rw [has_union hm, has, Bool.true_or]⟩
    · exact ⟨hm, by rw [has_union hm, has, Bool.or_true]⟩

theorem mem_modesOf_foldl {fs : List Features} :
    m ∈ (fs.foldl (· ∪ ·) f).modesOf ↔ ∃ g ∈ f :: fs, m ∈ g.modesOf := by
  induction fs generalizing f with
  | nil => simp
  | cons g fs ih => simp only [List.foldl_cons, ih, List.mem_cons, exists_eq_or_imp, mem_modesOf_union, or_assoc]

/-- a union of sets, each with one mode at most, has one mode at most if and only if any two of them agree -/
theorem exclusive_foldl {fs : List Features} (each : ∀ g ∈ f :: fs, g.Exclusive) :
    (fs.foldl (· ∪ ·) f).Exclusive ↔ (f :: fs).Pairwise Agree := by
  rw [exclusive_iff_agree]
  constructor
  · intro same
    refine List.pairwise_of_forall_mem_list fun g hg g' hg' m hm n hn => ?_
    exact same m (mem_modesOf_foldl.2 ⟨g, hg, hm⟩) n (mem_modesOf_foldl.2 ⟨g', hg', hn⟩)
  · intro pairwise m hm n hn
    obtain ⟨g, hg, hm⟩ := mem_modesOf_foldl.1 hm
    obtain ⟨g', hg', hn⟩ := mem_modesOf_foldl.1 hn
    exact pairwise.forall_of_forall (fun x hx => exclusive_iff_agree.1 (each x hx)) hg hg' m hm n hn

theorem and_twoPow_beq_zero (arg : UInt32) (i : Nat) (hi : i < 32) :
    (arg &&& ⟨BitVec.twoPow 32 i⟩ == 0) = !arg.toBitVec.getLsbD i := by
  rw [Bool.eq_iff_iff, beq_iff_eq, ← UInt32.toBitVec_inj, UInt32.toBitVec_and, BitVec.and_twoPow]
  split
  · rename_i set
    exact iff_of_false (twoPow_ne_zero hi) (by simp [set])
  · rename_i clear
    exact iff_of_true rfl (by simp [clear])

/-- cutting an argument to a feature word keeps the bits that mean something -/
theorem getLsbD_ofWord (arg : UInt32) (i : Nat) (hi : i < 8) :
    (ofWord arg.toUInt16).bits.toBitVec.getLsbD i = arg.toBitVec.getLsbD i := by
  have known : known.toBitVec.getLsbD i = true := by
    decide +revert
  have inside : i < 16 := by omega
  calc (ofWord arg.toUInt16).bits.toBitVec.getLsbD i
      = (arg.toUInt16.toBitVec.getLsbD i && Features.known.toBitVec.getLsbD i) := by
        rw [ofWord, UInt16.toBitVec_and, BitVec.getLsbD_and]
    _ = arg.toUInt16.toBitVec.getLsbD i := by rw [known, Bool.and_true]
    _ = arg.toBitVec.getLsbD i := by
        rw [UInt32.toBitVec_toUInt16, BitVec.getLsbD_setWidth, decide_eq_true inside, Bool.true_and]

/-- the count that a request is refused by is that of the modes it would switch on -/
theorem length_modesOf_ofWord (arg : UInt32) : (ofWord arg.toUInt16).modesOf.length = modeCount arg := by
  have monitoring : (arg &&& 0x20 == 0) = _ := and_twoPow_beq_zero arg 5 (by decide)
  have restricted : (arg &&& 0x40 == 0) = _ := and_twoPow_beq_zero arg 6 (by decide)
  have loopback : (arg &&& 0x80 == 0) = _ := and_twoPow_beq_zero arg 7 (by decide)
  rw [modeCount, monitoring, restricted, loopback, ← getLsbD_ofWord arg 5 (by decide),
    ← getLsbD_ofWord arg 6 (by decide), ← getLsbD_ofWord arg 7 (by decide), ← has_monitoring, ← has_restricted,
    ← has_loopback]
  simp only [modesOf, operatingModes, List.filter]
  cases (ofWord arg.toUInt16).has Features.monitoring <;> cases (ofWord arg.toUInt16).has Features.restricted <;>
    cases (ofWord arg.toUInt16).has Features.loopback <;> rfl

end Features

/-! ## What stays of a history -/

namespace Config

variable {config : Config}

/-- a request to switch on features is granted: one mode at most, and nothing that the channel lacks -/
def Grants (config : Config) (arg : UInt32) : Prop :=
  modeCount arg ≤ 1 ∧ arg &&& ~~~config.supported.bits.toUInt32 = 0

instance (config : Config) (arg : UInt32) : Decidable (config.Grants arg) := inferInstanceAs (Decidable (_ ∧ _))

/-- what stands after one more message: a greeting and a clear end all that stood -/
def keep (config : Config) (fs : List Features) (m : RawMessage) : List Features :=
  if m.id = MessageId.hello then []
  else if m.id = MessageId.features then
    match Layout.features.decode config.order m.bytes with
    | .error _ => fs
    | .ok ⟨.clear, _⟩ => []
    | .ok ⟨.or, arg⟩ => if config.Grants arg then fs ++ [.ofWord arg.toUInt16] else fs
  else fs

/-- the features granted since the last clear or greeting, request by request -/
def standing (config : Config) (ms : List RawMessage) : List Features := ms.foldl config.keep []

/-- the features that are active after a history of messages -/
def activeAfter (config : Config) (ms : List RawMessage) : Features :=
  (config.standing ms).foldl (· ∪ ·) config.permanent

/-- no two requests that stand name different modes, and none names another than the permanent features do -/
def Agreed (config : Config) (ms : List RawMessage) : Prop :=
  (config.permanent :: config.standing ms).Pairwise Features.Agree

instance (config : Config) (ms : List RawMessage) : Decidable (config.Agreed ms) :=
  inferInstanceAs (Decidable (List.Pairwise _ _))

theorem keep_of_hello {fs : List Features} {m : RawMessage} (id : m.id = MessageId.hello) : config.keep fs m = [] := by
  simp [keep, id]

theorem keep_of_other {fs : List Features} {m : RawMessage} (hello : m.id ≠ MessageId.hello)
    (features : m.id ≠ MessageId.features) : config.keep fs m = fs := by
  simp [keep, hello, features]

theorem keep_of_features (config : Config) (fs : List Features) {m : RawMessage} (id : m.id = MessageId.features) :
    config.keep fs m =
      match Layout.features.decode config.order m.bytes with
      | .error _ => fs
      | .ok ⟨.clear, _⟩ => []
      | .ok ⟨.or, arg⟩ => if config.Grants arg then fs ++ [.ofWord arg.toUInt16] else fs := by
  have other : m.id ≠ MessageId.hello := by
    rw [id]
    decide
  rw [keep, if_neg other, if_pos id]

theorem standing_append_singleton (ms : List RawMessage) (m : RawMessage) :
    config.standing (ms ++ [m]) = config.keep (config.standing ms) m := by
  simp [standing]

/-- each request that stands was checked for itself -/
theorem exclusive_of_mem_keep {fs : List Features} (each : ∀ f ∈ fs, f.Exclusive) {m : RawMessage} {f : Features}
    (h : f ∈ config.keep fs m) : f.Exclusive := by
  unfold keep at h
  split at h
  · cases h
  · split at h
    · split at h
      · exact each f h
      · cases h
      · split at h
        · rename_i granted
          rcases List.mem_append.1 h with h | h
          · exact each f h
          · rw [List.mem_singleton.1 h, Features.Exclusive, Features.length_modesOf_ofWord]
            exact granted.1
        · exact each f h
    · exact each f h

theorem exclusive_of_mem_standing {ms : List RawMessage} : ∀ f ∈ config.standing ms, f.Exclusive :=
  List.foldlRecOn ms config.keep (motive := fun fs => ∀ f ∈ fs, Features.Exclusive f) nofun
    fun _ each _ _ _ h => exclusive_of_mem_keep each h

theorem exclusive_activeAfter (alone : config.permanent.Exclusive) (ms : List RawMessage) :
    (config.activeAfter ms).Exclusive ↔ config.Agreed ms := by
  refine Features.exclusive_foldl fun f hf => ?_
  rcases List.mem_cons.1 hf with rfl | hf
  · exact alone
  · exact exclusive_of_mem_standing f hf

end Config

/-! ## A controller that remembers -/

/-- a controller, and the feature sets it was given so far -/
structure Recorded (σ : Type) where
  inner : σ
  given : List Features

namespace Recorded

variable {σ α : Type}

def on (f : σ → σ) (s : Recorded σ) : Recorded σ := { s with inner := f s.inner }

def ask (f : σ → α × σ) (s : Recorded σ) : α × Recorded σ := ((f s.inner).1, { s with inner := (f s.inner).2 })

instance [Controller σ] : Controller (Recorded σ) where
  drainRx := ask Controller.drainRx
  drainTx := ask Controller.drainTx
  takeError := ask Controller.takeError
  submit f track := ask (Controller.submit f track)
  txFree s := Controller.txFree s.inner
  rxFill s := Controller.rxFill s.inner
  errorCounters s := Controller.errorCounters s.inner
  busStatus s := Controller.busStatus s.inner
  delayCompensation s := Controller.delayCompensation s.inner
  timestamp s := Controller.timestamp s.inner
  setNominal t := on (Controller.setNominal t)
  setData t := on (Controller.setData t)
  setFeatures f s := ⟨Controller.setFeatures f s.inner, s.given ++ [f]⟩
  goBus b := on (Controller.goBus b)
  reset := on Controller.reset
  rxLeft s := Controller.rxLeft s.inner
  txLeft s := Controller.txLeft s.inner
  errorsLeft s := Controller.errorsLeft s.inner
  rx_le s := Controller.rx_le s.inner
  tx_le s := Controller.tx_le s.inner
  rx_lt s := Controller.rx_lt s.inner
  tx_lt s := Controller.tx_lt s.inner
  error_lt s := Controller.error_lt s.inner

end Recorded

/-! ## Command buffers -/

namespace Channel

variable {σ : Type} {c c' : Channel (Recorded σ)} {config : Config} {m : RawMessage} {ms : List RawMessage}
  {bufs : List Bytes}

/-- the features of a channel, and all that its controller was given, follow the messages so far -/
structure Followed (config : Config) (ms : List RawMessage) (c : Channel (Recorded σ)) : Prop where
  unchanged : c.config = config
  active : c.settings.features = config.activeAfter ms
  given : ∀ f ∈ c.controller.given, ∃ before, before <+: ms ∧ f = config.activeAfter before

/-- what a message gives the controller is the active set before it or after it -/
theorem Followed.step (h : Followed config ms c) (unchanged : c'.config = c.config)
    (active : c'.settings.features = config.activeAfter (ms ++ [m]))
    (given : ∀ f ∈ c'.controller.given, f ∈ c.controller.given ∨ f = c.settings.features ∨ f = c'.settings.features) :
    Followed config (ms ++ [m]) c' where
  unchanged := unchanged.trans h.unchanged
  active := active
  given := by
    intro f hf
    rcases given f hf with old | rfl | rfl
    · obtain ⟨before, upTo, eq⟩ := h.given f old
      exact ⟨before, upTo.trans (List.prefix_append ms [m]), eq⟩
    · exact ⟨ms, List.prefix_append ms [m], h.active⟩
    · exact ⟨ms ++ [m], List.prefix_rfl, active⟩

theorem followed_create {index : UInt8} {s : σ} (h : create index config ⟨s, []⟩ = .ok c) : Followed config [] c := by
  obtain ⟨settings, baseline, h⟩ := Checked.bind_eq_ok.1 h
  obtain ⟨durations, -, baseline⟩ := Checked.bind_eq_ok.1 baseline
  cases baseline
  cases h
  exact ⟨rfl, rfl, nofun⟩

theorem requestedFeatures_clear {σ : Type} {c : Channel σ} (arg : UInt32) :
    c.requestedFeatures ⟨.clear, arg⟩ = .ok c.config.permanent := rfl

/-- a request to switch on features has an effect exactly if it is granted -/
theorem requestedFeatures_or {σ : Type} {c : Channel σ} (arg : UInt32) {features : Features} :
    c.requestedFeatures ⟨.or, arg⟩ = .ok features ↔
      c.config.Grants arg ∧ features = c.settings.features ∪ .ofWord arg.toUInt16 := by
  simp only [requestedFeatures, Config.Grants]
  split
  · rename_i several
    exact iff_of_false nofun fun granted => absurd granted.1.1 (Nat.not_le.2 several)
  · rename_i single
    split
    · rename_i lacking
      exact iff_of_false nofun fun granted => lacking granted.1.2
    · rename_i supported
      have grants := And.intro (Nat.le_of_not_lt single) (Decidable.not_not.1 supported)
      rw [Except.ok.injEq, eq_comm]
      exact ⟨fun eq => ⟨grants, eq⟩, And.right⟩

/-- a feature request without effect leaves what stands -/
theorem keep_of_refused {σ : Type} {c : Channel σ} {fs : List Features} (id : m.id = MessageId.features)
    (refused : ∀ r, Layout.features.decode c.config.order m.bytes = .ok r → ∀ f, c.requestedFeatures r ≠ .ok f) :
    c.config.keep fs m = fs := by
  rw [c.config.keep_of_features fs id]
  split
  · rfl
  · rename_i arg read
    exact absurd (requestedFeatures_clear arg) (refused _ read _)
  · rename_i arg read
    apply if_neg
    intro grants
    exact refused _ read _ ((requestedFeatures_or arg).2 ⟨grants, rfl⟩)

/-- a feature request that is granted makes active what stands after it -/
theorem active_of_granted {σ : Type} {c : Channel σ} {fs : List Features} {r : FeatureRequest} {features : Features}
    (id : m.id = MessageId.features) (read : Layout.features.decode c.config.order m.bytes = .ok r)
    (granted : c.requestedFeatures r = .ok features)
    (active : c.settings.features = fs.foldl (· ∪ ·) c.config.permanent) :
    features = (c.config.keep fs m).foldl (· ∪ ·) c.config.permanent := by
  rw [c.config.keep_of_features fs id, read]
  obtain ⟨op, arg⟩ := r
  cases op with
  | clear =>
    cases granted
    rfl
  | or =>
    obtain ⟨grants, rfl⟩ := (requestedFeatures_or arg).1 granted
    calc c.settings.features ∪ Features.ofWord arg.toUInt16
        = fs.foldl (· ∪ ·) c.config.permanent ∪ Features.ofWord arg.toUInt16 := by rw [active]
      _ = (fs ++ [Features.ofWord arg.toUInt16]).foldl (· ∪ ·) c.config.permanent := by
        rw [List.foldl_append]
        rfl
      _ = _ := by simp only [grants, ↓reduceIte]

variable [Controller σ]

/-- transfers of the command pipe in order -/
def commandBuffers (bufs : List Bytes) (c : Channel σ) : Checked (Channel σ) :=
  bufs.foldlM (fun c bytes => c.commands bytes) c

/-- the messages that count in transfers of the command pipe -/
def asked (bufs : List Bytes) : List RawMessage := bufs.flatMap fun bytes => throughHello (messages bytes)

/-- One message: what stands after it is what the channel makes of it. The cases are those of `Requested`. -/
theorem followed_request (h : Followed config ms c) (ran : c.request m = .ok c') : Followed config (ms ++ [m]) c' := by
  obtain ⟨c₁, command, did, rfl⟩ := request_cases ran
  obtain ⟨rfl, active, given⟩ := h
  have h : Followed c.config ms c := ⟨rfl, active, given⟩
  suffices Followed c.config (ms ++ [m]) c₁ from ⟨this.unchanged, this.active, this.given⟩
  have after : c.config.activeAfter (ms ++ [m]) =
      (c.config.keep (c.config.standing ms) m).foldl (· ∪ ·) c.config.permanent := by
    rw [Config.activeAfter, Config.standing_append_singleton]
  -- what stands changes with a granted feature request and with a greeting only
  have still (keep : c.config.keep (c.config.standing ms) m = c.config.standing ms) :
      c.settings.features = c.config.activeAfter (ms ++ [m]) := by
    rw [after, keep]
    exact active
  cases did with
  | answered hello refused =>
    have keep : c.config.keep (c.config.standing ms) m = c.config.standing ms := by
      by_cases id : m.id = MessageId.features
      · exact keep_of_refused id (refused id)
      · exact Config.keep_of_other hello id
    exact h.step rfl (still keep) fun f old => .inl old
  | timed id set features =>
    have keep : c.config.keep (c.config.standing ms) m = c.config.standing ms := by
      rcases id with id | id <;> exact Config.keep_of_other (by rw [id]; decide) (by rw [id]; decide)
    refine h.step rfl (features.trans (still keep)) ?_
    intro f hf
    cases set <;> exact .inl hf
  | features id read granted =>
    exact h.step rfl ((active_of_granted id read granted active).trans after.symm) fun f old => .inl old
  | bus id read =>
    have keep : c.config.keep (c.config.standing ms) m = c.config.standing ms :=
      Config.keep_of_other (by rw [id]; decide) (by rw [id]; decide)
    unfold setBus
    split
    · exact h.step rfl (still keep) fun f old => .inl old
    · split
      · refine h.step rfl (still keep) ?_
        intro f hf
        rcases List.mem_append.1 hf with old | new
        · exact .inl old
        · exact .inr (.inl (List.mem_singleton.1 new))
      · exact h.step rfl (still keep) fun f old => .inl old
  | greeted id reset =>
    obtain ⟨settings, baseline, reset⟩ := Checked.bind_eq_ok.1 reset
    obtain ⟨durations, -, baseline⟩ := Checked.bind_eq_ok.1 baseline
    cases baseline
    cases reset
    rw [Config.keep_of_hello id] at after
    refine h.step rfl after.symm ?_
    intro f hf
    rcases List.mem_append.1 hf with old | new
    · left
      split at old <;> exact old
    · exact .inr (.inr (List.mem_singleton.1 new))

theorem followed_requests {more : List RawMessage} (h : Followed config ms c)
    (ran : more.foldlM (fun c m => c.request m) c = .ok c') : Followed config (ms ++ more) c' := by
  induction more generalizing ms c with
  | nil =>
    cases ran
    rwa [List.append_nil]
  | cons m more ih =>
    rw [List.foldlM_cons] at ran
    obtain ⟨c₁, first, ran⟩ := Checked.bind_eq_ok.1 ran
    have rest := ih (followed_request h first) ran
    rwa [List.append_assoc] at rest

theorem followed_commandBuffers (h : Followed config ms c) (ran : c.commandBuffers bufs = .ok c') :
    Followed config (ms ++ asked bufs) c' := by
  induction bufs generalizing ms c with
  | nil =>
    cases ran
    rwa [asked, List.flatMap_nil, List.append_nil]
  | cons bytes bufs ih =>
    unfold commandBuffers at ran
    rw [List.foldlM_cons] at ran
    obtain ⟨c₁, first, ran⟩ := Checked.bind_eq_ok.1 ran
    obtain ⟨c₂, handled, first⟩ := Checked.bind_eq_ok.1 first
    obtain ⟨command, -, first⟩ := Checked.bind_eq_ok.1 first
    cases first
    have followed := followed_requests h handled
    have answered : Followed config _ { c₂ with command } := ⟨followed.unchanged, followed.active, followed.given⟩
    have rest := ih answered ran
    rwa [List.append_assoc] at rest

/-- **Modes.** Let the permanent features name one mode at most. After any command buffers, and some messages of a
further one, the active features name one mode at most exactly when no two requests that stand, and none of them and the
permanent features, name different ones. Every set that the controller was given was active after some part of the
history, so the same is true of it, for that part. -/
theorem modes_exclusive_iff {index : UInt8} {s : σ} {more : List RawMessage} {c₀ c₁ : Channel (Recorded σ)}
    (alone : config.permanent.Exclusive) (built : create index config ⟨s, []⟩ = .ok c₀)
    (ran : c₀.commandBuffers bufs = .ok c₁) (handled : more.foldlM (fun c m => c.request m) c₁ = .ok c) :
    (c.settings.features.Exclusive ↔ config.Agreed (asked bufs ++ more)) ∧
      ∀ f ∈ c.controller.given, ∃ before, before <+: asked bufs ++ more ∧ f = config.activeAfter before ∧
        (f.Exclusive ↔ config.Agreed before) := by
  have followed := followed_requests (followed_commandBuffers (followed_create built) ran) handled
  rw [List.nil_append] at followed
  constructor
  · rw [followed.active]
    exact Config.exclusive_activeAfter alone _
  · intro f hf
    obtain ⟨before, upTo, rfl⟩ := followed.given f hf
    exact ⟨before, upTo, rfl, Config.exclusive_activeAfter alone before⟩

/-- a request to switch on the feature word `word`, in little-endian order -/
def switchOn (word : UInt8) : Bytes := [7, 8, 1, 0, word, 0, 0, 0]

/-- back to the permanent features -/
def switchOff : Bytes := [7, 8, 0, 0, 0, 0, 0, 0]

def joinBus : Bytes := [8, 4, 1, 0]

def leaveBus : Bytes := [8, 4, 0, 0]

/-- whether `p` holds of a channel that was just built and has handled the buffers -/
def afterBuffers (bufs : List Bytes) (p : Channel (Recorded SimController) → Bool) : Bool :=
  Checked.passes (fun r : Channel (Recorded SimController) × Channel (Recorded SimController) => p r.2)
    (create 0 .default ⟨{}, []⟩ >>= fun c₀ => c₀.commandBuffers bufs >>= fun c => pure (c₀, c))

theorem of_afterBuffers {p : Channel (Recorded SimController) → Bool} (h : afterBuffers bufs p = true) :
    ∃ c₀ c, create 0 .default ⟨{}, []⟩ = .ok c₀ ∧ c₀.commandBuffers bufs = .ok c ∧ p c = true :=
  Checked.of_passes_pair h

/-- with a clear in between the controller enters one mode, and then another -/
theorem clearedBetween_exclusive : ∃ c₀ c : Channel (Recorded SimController),
    Config.default.permanent.Exclusive ∧ create 0 .default ⟨{}, []⟩ = .ok c₀ ∧
      c₀.commandBuffers [switchOn 0x20, joinBus, leaveBus, switchOff, switchOn 0x40, joinBus] = .ok c ∧
      c.settings.features.modesOf = [.restricted] ∧ c.settings.features.Exclusive ∧
      c.controller.given.map Features.modesOf = [[.monitoring], [.restricted]] := by
  have ran : afterBuffers [switchOn 0x20, joinBus, leaveBus, switchOff, switchOn 0x40, joinBus] (fun c =>
      decide (c.settings.features.modesOf = [.restricted] ∧
        c.controller.given.map Features.modesOf = [[.monitoring], [.restricted]])) = true := by
    decide +kernel
  obtain ⟨c₀, c, built, ran, holds⟩ := of_afterBuffers ran
  obtain ⟨active, given⟩ := of_decide_eq_true holds
  have alone : Config.default.permanent.Exclusive := by decide
  have agreed : Config.default.Agreed (asked
      [switchOn 0x20, joinBus, leaveBus, switchOff, switchOn 0x40, joinBus] ++ []) := by
    decide +kernel
  exact ⟨c₀, c, alone, built, ran, active, (modes_exclusive_iff alone built ran rfl).1.2 agreed, given⟩

/-- without it both modes are active, and the controller is given both at once -/
theorem twoRequests_clash : ∃ c₀ c : Channel (Recorded SimController),
    Config.default.permanent.Exclusive ∧ create 0 .default ⟨{}, []⟩ = .ok c₀ ∧
      c₀.commandBuffers [switchOn 0x20, switchOn 0x40, joinBus] = .ok c ∧ ¬ c.settings.features.Exclusive ∧
      ∃ f ∈ c.controller.given, ¬ f.Exclusive := by
  have ran : afterBuffers [switchOn 0x20, switchOn 0x40, joinBus] (fun c =>
      decide (¬ c.settings.features.Exclusive ∧ ∃ f ∈ c.controller.given, ¬ f.Exclusive)) = true := by
    decide +kernel
  obtain ⟨c₀, c, built, ran, holds⟩ := of_afterBuffers ran
  exact ⟨c₀, c, by decide, built, ran, of_decide_eq_true holds⟩

end Channel

end CanAdapter
