/-
Negotiated settings, in the three places where they are: what the host negotiated, the bit durations that follow from
it, and what the controller was given. Five operations write them in different orders, a greeting and a detach among
them. `Channel.Negotiated` says how the three agree at one moment, with the controller's log as the record of what it
was given.

`Moment` is a lane on its way through a history, with the features that were active when it last joined the bus, told
from the states alone. A history is looked at after every event, and in a command buffer after every message
(`Moment.history`).

- Only a granted setting request, a greeting and a detach write settings: `negotiated_applies`, `negotiated_reset`.
- Whatever else happens, the controller is set to nothing (`Logged.Unset`), and settings stay: `Negotiated.of_unset`.
- So every moment of a history is negotiated (`Moment.negotiated_requests`, `negotiated_event`, `negotiated_history`).

`Lane.settings_negotiated` is the result. That no command buffer and no detach stops the adapter is part of it.
-/
import CanAdapter.Proofs.AlikeLanes
import CanAdapter.Proofs.CommandAnswers

namespace CanAdapter

/-! ## Ranges -/

namespace TimingRange

variable {r : TimingRange} {t : BitTiming}

/-- no limits cross -/
def Ordered (r : TimingRange) : Prop :=
  r.min.brp ≤ r.max.brp ∧ r.min.sjw ≤ r.max.sjw ∧ r.min.tseg1 ≤ r.max.tseg1 ∧ r.min.tseg2 ≤ r.max.tseg2

/-- every field is within its limits -/
def Holds (r : TimingRange) (t : BitTiming) : Prop :=
  (r.min.brp ≤ t.brp ∧ t.brp ≤ r.max.brp) ∧ (r.min.sjw ≤ t.sjw ∧ t.sjw ≤ r.max.sjw) ∧
    (r.min.tseg1 ≤ t.tseg1 ∧ t.tseg1 ≤ r.max.tseg1) ∧ (r.min.tseg2 ≤ t.tseg2 ∧ t.tseg2 ≤ r.max.tseg2)

/-- what a range with ordered limits leaves as it is lies within them -/
theorem holds_of_fixed (ordered : r.Ordered) (fixed : r.clamp t = t) : r.Holds t := by
  obtain ⟨brp, sjw, tseg1, tseg2⟩ := ordered
  rw [← fixed]
  exact ⟨limit_mem brp _, limit_mem sjw _, limit_mem tseg1 _, limit_mem tseg2 _⟩

end TimingRange

/-! ## Feature sets -/

namespace Features

variable {f g : Features}

theorem has_iff : f.has g = true ↔ ∀ i, g.bits.toBitVec.getLsbD i = true → f.bits.toBitVec.getLsbD i = true := by
  rw [has, beq_iff_eq, ← UInt16.toBitVec_inj, UInt16.toBitVec_and]
  constructor
  · intro same i set
    have bit := congrArg (BitVec.getLsbD · i) same
    simp only [BitVec.getLsbD_and, set, Bool.and_true] at bit
    exact bit
  · intro subset
    apply BitVec.eq_of_getLsbD_eq
    intro i _
    rw [BitVec.getLsbD_and]
    cases set : g.bits.toBitVec.getLsbD i with
    | false => rw [Bool.and_false]
    | true => rw [subset i set, Bool.and_true]

theorem getLsbD_union (i : Nat) : (f ∪ g).bits.toBitVec.getLsbD i =
    (f.bits.toBitVec.getLsbD i || g.bits.toBitVec.getLsbD i) := by
  have bits : (f ∪ g).bits.toBitVec = f.bits.toBitVec ||| g.bits.toBitVec := UInt16.toBitVec_or f.bits g.bits
  rw [bits, BitVec.getLsbD_or]

theorem has_self (f : Features) : f.has f = true := has_iff.2 fun _ set => set

theorem union_has {m : Features} (h : f.has m = true) (g : Features) : (f ∪ g).has m = true := by
  rw [has_iff] at h ⊢
  intro i set
  rw [getLsbD_union, h i set, Bool.true_or]

theorem has_union_of {m : Features} (hf : m.has f = true) (hg : m.has g = true) : m.has (f ∪ g) = true := by
  rw [has_iff] at hf hg ⊢
  intro i set
  rw [getLsbD_union, Bool.or_eq_true] at set
  exact set.elim (hf i) (hg i)

end Features

/-- what is granted is supported -/
theorem Config.supported_of_grants {config : Config} {arg : UInt32} (granted : config.Grants arg) :
    config.supported.has (.ofWord arg.toUInt16) = true := by
  rw [Features.has_iff]
  intro i set
  have lacks := congrArg (fun w : UInt32 => w.toBitVec.getLsbD i) granted.2
  rw [Features.ofWord, UInt16.toBitVec_and, BitVec.getLsbD_and, UInt32.toBitVec_toUInt16, BitVec.getLsbD_setWidth]
    at set
  simp only [Bool.and_eq_true, decide_eq_true_eq] at set
  obtain ⟨⟨small, asked⟩, -⟩ := set
  have inside : i < 32 := by omega
  simp only [UInt32.toBitVec_and, UInt32.toBitVec_not, UInt16.toBitVec_toUInt32, BitVec.getLsbD_and, BitVec.getLsbD_not,
    BitVec.getLsbD_setWidth, asked, inside, decide_true, Bool.true_and] at lacks
  simpa using lacks

/-! ## What the controller was given -/

/-- the last of the list, if there is one, is `x` -/
def EndsIn {α : Type} (xs : List α) (x : α) : Prop := ∀ y ∈ xs.getLast?, y = x

namespace EndsIn

variable {α : Type} {xs ys : List α} {x : α}

theorem nil (x : α) : EndsIn [] x := nofun

theorem concat (xs : List α) (x : α) : EndsIn (xs ++ [x]) x := by
  intro y last
  rw [List.getLast?_concat] at last
  exact (Option.some.inj last).symm

theorem of_eq (h : EndsIn xs x) (same : ys = xs) : EndsIn ys x := same ▸ h

end EndsIn

namespace Call

def nominal? : Call → Option BitTiming
  | setNominal t => some t
  | _ => none

def data? : Call → Option BitTiming
  | setData t => some t
  | _ => none

def features? : Call → Option Features
  | setFeatures f => some f
  | _ => none

/-- it sets a timing or features -/
def sets : Call → Bool
  | setNominal _ | setData _ | setFeatures _ => true
  | _ => false

theorem eq_none_of_not_sets {call : Call} (quiet : call.sets = false) :
    call.nominal? = none ∧ call.data? = none ∧ call.features? = none := by
  cases call with
  | setNominal | setData | setFeatures => cases quiet
  | drainRx | drainTx | takeError | submit | goBus | reset => exact ⟨rfl, rfl, rfl⟩

end Call

namespace Logged

variable {σ : Type} {r r' r'' : Logged σ}

/-- the nominal timings that the controller was given, the latest last -/
def nominals (r : Logged σ) : List BitTiming := r.calls.filterMap Call.nominal?

def datas (r : Logged σ) : List BitTiming := r.calls.filterMap Call.data?

def featureSets (r : Logged σ) : List Features := r.calls.filterMap Call.features?

theorem given_append {more : List Call} (h : r'.calls = r.calls ++ more) :
    r'.nominals = r.nominals ++ more.filterMap Call.nominal? ∧ r'.datas = r.datas ++ more.filterMap Call.data? ∧
      r'.featureSets = r.featureSets ++ more.filterMap Call.features? := by
  simp only [nominals, datas, featureSets, h, List.filterMap_append, and_self]

/-- from `r` to `r'` the controller was set to nothing -/
def Unset (r r' : Logged σ) : Prop := ∃ more, r'.calls = r.calls ++ more ∧ ∀ call ∈ more, call.sets = false

namespace Unset

theorem of_calls (same : r'.calls = r.calls) : Unset r r' := ⟨[], by rw [same, List.append_nil], nofun⟩

theorem refl (r : Logged σ) : Unset r r := of_calls rfl

theorem trans (h : Unset r r') (h' : Unset r' r'') : Unset r r'' := by
  obtain ⟨more, calls, quiet⟩ := h
  obtain ⟨later, calls', quiet'⟩ := h'
  refine ⟨more ++ later, by rw [calls', calls, List.append_assoc], ?_⟩
  intro call mem
  exact (List.mem_append.1 mem).elim (quiet call) (quiet' call)

theorem after {call : Call} (quiet : call.sets = false) (s : σ) : Unset r (r.after call s) :=
  ⟨[call], rfl, fun _ mem => List.mem_singleton.1 mem ▸ quiet⟩

theorem given_eq (h : Unset r r') :
    r'.nominals = r.nominals ∧ r'.datas = r.datas ∧ r'.featureSets = r.featureSets := by
  obtain ⟨more, calls, quiet⟩ := h
  have none {α : Type} {f : Call → Option α} (unread : ∀ call : Call, call.sets = false → f call = none) :
      more.filterMap f = [] :=
    List.filterMap_eq_nil_iff.2 fun call mem => unread call (quiet call mem)
  obtain ⟨nominals, datas, featureSets⟩ := given_append calls
  rw [nominals, datas, featureSets, none fun _ quiet => (Call.eq_none_of_not_sets quiet).1,
    none fun _ quiet => (Call.eq_none_of_not_sets quiet).2.1, none fun _ quiet => (Call.eq_none_of_not_sets quiet).2.2]
  simp only [List.append_nil, and_self]

end Unset

variable [Controller σ]

/-! Handing out what it has and taking requests leave a controller as it is set. -/

theorem unset_takeErrors (r : Logged σ) : Unset r (Controller.takeErrors r).2 := by
  unfold Controller.takeErrors
  generalize Controller.errorsLeft r + 1 = n
  induction n generalizing r with
  | zero => exact .refl r
  | succ n ih =>
    have taken : Unset r (Controller.takeError r).2 := .after rfl _
    unfold Controller.errorsUpTo
    generalize Controller.takeError r = x at taken
    obtain ⟨e, r₁⟩ := x
    cases e with
    | none => exact taken
    | some e => exact taken.trans (ih r₁)

theorem unset_drainAllRx (r : Logged σ) : Unset r (Controller.drainAllRx r).2 :=
  Controller.drainUpTo_rel (R := fun _ r r' => Unset r r') (fun _ => .after rfl _) (fun h h' => h.trans h') _ r

theorem unset_drainAllTx (r : Logged σ) : Unset r (Controller.drainAllTx r).2 :=
  Controller.drainUpTo_rel (R := fun _ r r' => Unset r r') (fun _ => .after rfl _) (fun h h' => h.trans h') _ r

theorem unset_handedOut (r : Logged σ) : Unset r (Channel.handedOut r) :=
  ((unset_takeErrors r).trans (unset_drainAllRx _)).trans (unset_drainAllTx _)

theorem unset_offered {fates : List (TxRequest × Fate)} (h : Controller.Offered fates r r') : Unset r r' := by
  induction h with
  | nil r => exact .refl r
  | forwarded _ _ ih => exact (Unset.after rfl _).trans ih
  | refused _ _ _ ih => exact (Unset.after rfl _).trans ih
  | unpaid _ _ ih => exact ih

end Logged

/-! ## One moment -/

namespace Channel

/-- the features that were active when the channel last joined the bus, after a step from `c` to `c'` -/
def joining {σ : Type} (joined : Option Features) (c c' : Channel σ) : Option Features :=
  if !c.enabled && c'.enabled then some c.settings.features else joined

variable {σ : Type} {config : Config} {joined : Option Features} {m : RawMessage} {c c' : Channel (Logged σ)}

theorem joining_of_enabled (same : c'.enabled = c.enabled) : joining joined c c' = joined := by
  rw [joining, same, Bool.not_and_self]
  rfl

/-- Settings, durations and controller agree. The channel is described by `config`, and `joined` were the features that
were active when it last joined the bus. -/
structure Negotiated (config : Config) (joined : Option Features) (c : Channel (Logged σ)) : Prop where
  described : c.config = config
  durations : c.Coherent
  nominal : c.settings.nominal = config.defaultNominal ∨
    config.nominalRange.clamp c.settings.nominal = c.settings.nominal
  data : c.settings.data = config.defaultData ∨
    ∃ range, config.dataRange = some range ∧ range.clamp c.settings.data = c.settings.data
  /-- the last nominal timing that the controller was given, if any, is the one that is set -/
  nominals : EndsIn c.controller.nominals c.settings.nominal
  datas : EndsIn c.controller.datas c.settings.data
  classic : config.dataRange = none → c.controller.datas = []
  permanent : c.settings.features.has config.permanent = true
  supported : config.supported.has c.settings.features = true
  onBus : c.enabled = true → ∃ f, joined = some f ∧ c.controller.featureSets.getLast? = some f

theorem negotiated_create {index : UInt8} {s : Logged σ} (h : create index config s = .ok c)
    (silent : c.controller.calls = []) : Negotiated config none c := by
  have durations := coherent_create h
  obtain ⟨nominals, datas, -⟩ := Logged.given_append (r := ⟨s.state, []⟩) silent
  obtain ⟨settings, baseline, h⟩ := Checked.bind_eq_ok.1 h
  obtain ⟨d, -, baseline⟩ := Checked.bind_eq_ok.1 baseline
  cases baseline
  cases h
  exact {
    described := rfl
    durations
    nominal := .inl rfl
    data := .inl rfl
    nominals := (EndsIn.nil _).of_eq nominals
    datas := (EndsIn.nil _).of_eq datas
    classic := fun _ => datas
    permanent := Features.has_self _
    supported := Features.union_has (Features.has_self _) _
    onBus := nofun }

namespace Negotiated

/-- neither way between bus and no bus, and no features given -/
theorem stays (h : Negotiated config joined c) (enabled : c'.enabled = c.enabled)
    (given : c'.controller.featureSets = c.controller.featureSets) (on : c'.enabled = true) :
    ∃ f, joining joined c c' = some f ∧ c'.controller.featureSets.getLast? = some f := by
  rw [joining_of_enabled enabled, given]
  exact h.onBus (enabled.symm.trans on)

/-- settings and timings are as they were, and the features that the controller has are those of the last joining -/
theorem of_kept {joined' : Option Features} (h : Negotiated config joined c) (described : c'.config = c.config)
    (settings : c'.settings = c.settings) (nominals : c'.controller.nominals = c.controller.nominals)
    (datas : c'.controller.datas = c.controller.datas)
    (onBus : c'.enabled = true → ∃ f, joined' = some f ∧ c'.controller.featureSets.getLast? = some f) :
    Negotiated config joined' c' where
  described := described.trans h.described
  durations := h.durations.of_same settings described
  nominal := settings ▸ h.nominal
  data := settings ▸ h.data
  nominals := settings ▸ h.nominals.of_eq nominals
  datas := settings ▸ h.datas.of_eq datas
  classic := fun classic => datas.trans (h.classic classic)
  permanent := settings ▸ h.permanent
  supported := settings ▸ h.supported
  onBus := onBus

/-- whatever leaves settings and controller as they are set -/
theorem of_unset (h : Negotiated config joined c) (described : c'.config = c.config)
    (settings : c'.settings = c.settings) (enabled : c'.enabled = c.enabled)
    (unset : Logged.Unset c.controller c'.controller) : Negotiated config (joining joined c c') c' := by
  obtain ⟨nominals, datas, featureSets⟩ := unset.given_eq
  exact h.of_kept described settings nominals datas (h.stays enabled featureSets)

end Negotiated

variable [Controller σ]

/-- on the way onto the bus the controller is given the active features; off it nothing is set -/
theorem negotiated_setBus (on : Bool) (h : Negotiated config joined c) :
    Negotiated config (joining joined c (c.setBus on)) (c.setBus on) := by
  by_cases same : c.enabled = on
  · rw [setBus_of_enabled same]
    exact h.of_unset rfl rfl rfl (.refl _)
  · cases on with
    | true =>
      have off : c.enabled = false := by simpa using same
      have calls : (Controller.goBus true (Controller.setFeatures c.settings.features c.controller)).calls =
          c.controller.calls ++ [.setFeatures c.settings.features, .goBus true] := List.append_assoc ..
      obtain ⟨nominals, datas, featureSets⟩ := Logged.given_append calls
      rw [setBus, if_neg same, if_pos rfl]
      refine h.of_kept rfl rfl (nominals.trans (List.append_nil _)) (datas.trans (List.append_nil _)) fun _ => ?_
      refine ⟨c.settings.features, ?_, ?_⟩
      · rw [joining, off]
        rfl
      · exact (congrArg List.getLast? featureSets).trans List.getLast?_concat
    | false =>
      have calls : (Controller.goBus false c.controller).calls = c.controller.calls ++ [.goBus false] := rfl
      obtain ⟨nominals, datas, -⟩ := Logged.given_append calls
      rw [setBus, if_neg same, if_neg Bool.false_ne_true]
      exact h.of_kept rfl rfl (nominals.trans (List.append_nil _)) (datas.trans (List.append_nil _)) nofun

/-- a granted setting request, by cases on what it does -/
theorem negotiated_applies (h : Negotiated config joined c) (does : Applies m c c') :
    Negotiated config (joining joined c c') c' := by
  obtain rfl := h.described
  have coherent := does.coherent h.durations
  cases does with
  | @nominal t =>
    have calls : (Controller.setNominal (c.config.nominalRange.clamp t) c.controller).calls =
        c.controller.calls ++ [.setNominal (c.config.nominalRange.clamp t)] := rfl
    obtain ⟨nominals, datas, featureSets⟩ := Logged.given_append calls
    exact { h with
      durations := coherent
      nominal := .inr (TimingRange.clamp_clamp _ t)
      nominals := (EndsIn.concat _ _).of_eq nominals
      datas := h.datas.of_eq (datas.trans (List.append_nil _))
      classic := fun classic => (datas.trans (List.append_nil _)).trans (h.classic classic)
      onBus := h.stays rfl (featureSets.trans (List.append_nil _)) }
  | @data t range _ _ _ phase =>
    have calls : (Controller.setData (range.clamp t) c.controller).calls =
        c.controller.calls ++ [.setData (range.clamp t)] := rfl
    obtain ⟨nominals, datas, featureSets⟩ := Logged.given_append calls
    exact { h with
      durations := coherent
      data := .inr ⟨range, phase, TimingRange.clamp_clamp range t⟩
      nominals := h.nominals.of_eq (nominals.trans (List.append_nil _))
      datas := (EndsIn.concat _ _).of_eq datas
      classic := fun classic => nomatch phase.symm.trans classic
      onBus := h.stays rfl (featureSets.trans (List.append_nil _)) }
  | clear => exact { h with
      durations := coherent
      permanent := Features.has_self _
      supported := Features.union_has (Features.has_self _) _
      onBus := h.stays rfl rfl }
  | switchOn _ _ granted => exact { h with
      durations := coherent
      permanent := Features.union_has h.permanent _
      supported := Features.has_union_of h.supported (Config.supported_of_grants granted)
      onBus := h.stays rfl rfl }
  | bus => exact negotiated_setBus _ h

/-- a reset gives the controller the default settings, a data timing only if it has a data phase -/
theorem calls_reset (reset : c.reset = .ok c') : c'.controller.calls = c.controller.calls ++
    (.reset :: .setNominal c.config.defaultNominal ::
      (c.config.dataRange.toList.map fun _ => .setData c.config.defaultData) ++ [.setFeatures c.config.permanent]) := by
  obtain ⟨settings, baseline, reset⟩ := Checked.bind_eq_ok.1 reset
  obtain ⟨d, -, baseline⟩ := Checked.bind_eq_ok.1 baseline
  cases baseline
  cases reset
  cases c.config.dataRange with
  | none => exact (List.append_assoc ..).trans (List.append_assoc ..)
  | some range => exact ((List.append_assoc ..).trans (List.append_assoc ..)).trans (List.append_assoc ..)

theorem negotiated_reset (h : Negotiated config joined c) (reset : c.reset = .ok c') :
    Negotiated config (joining joined c c') c' := by
  obtain rfl := h.described
  have durations := coherent_reset reset
  obtain ⟨nominals, datas, -⟩ := Logged.given_append (calls_reset reset)
  obtain ⟨settings, baseline, reset⟩ := Checked.bind_eq_ok.1 reset
  obtain ⟨d, -, baseline⟩ := Checked.bind_eq_ok.1 baseline
  cases baseline
  cases reset
  have permanent : c.config.permanent.has c.config.permanent = true := Features.has_self _
  have supported : c.config.supported.has c.config.permanent = true := Features.union_has permanent _
  cases phase : c.config.dataRange with
  | none =>
    rw [phase] at nominals datas
    have none := (datas.trans (List.append_nil _)).trans (h.classic phase)
    exact {
      described := rfl
      durations
      nominal := .inl rfl
      data := .inl rfl
      nominals := (EndsIn.concat _ _).of_eq nominals
      datas := (EndsIn.nil _).of_eq none
      classic := fun _ => none
      permanent
      supported
      onBus := nofun }
  | some range =>
    rw [phase] at nominals datas
    exact {
      described := rfl
      durations
      nominal := .inl rfl
      data := .inl rfl
      nominals := (EndsIn.concat _ _).of_eq nominals
      datas := (EndsIn.concat _ _).of_eq datas
      classic := fun classic => nomatch phase.symm.trans classic
      permanent
      supported
      onBus := nofun }

/-- one message of a command buffer -/
theorem negotiated_request (h : Negotiated config joined c) (ran : c.request m = .ok c') :
    Negotiated config (joining joined c c') c' := by
  obtain ⟨c₁, command, rfl, rfl | does | reset⟩ := effect_request ran
  · exact h.of_unset rfl rfl rfl (.refl _)
  · have after := negotiated_applies h does
    exact { after with durations := after.durations }
  · have after := negotiated_reset h reset
    exact { after with durations := after.durations }

end Channel

/-! ## Histories -/

/-- a lane at some moment of a history, and the features that were active when its channel last joined the bus -/
structure Moment (σ : Type) where
  lane : Lane σ
  joined : Option Features

namespace Moment

section

variable {σ : Type} [Controller σ]

/-- one step further -/
def next (m : Moment σ) (l : Lane σ) : Moment σ := ⟨l, Channel.joining m.joined m.lane.channel l.channel⟩

/-- the moments of some messages of the command pipe, one after each -/
def requests : List RawMessage → Moment σ → Checked (List (Moment σ))
  | [], _ => .ok []
  | r :: rs, m => do
    let m := m.next { m.lane with channel := ← m.lane.channel.request r }
    return m :: (← requests rs m)

/-- the moments within an event: a command buffer is handled message by message -/
def within (e : LaneEvent σ) (m : Moment σ) : Checked (List (Moment σ)) :=
  match e with
  | .op (.commandData bytes) => m.requests (throughHello (messages bytes))
  | _ => .ok []

/-- the moments of an event, the last of them after it -/
def event (e : LaneEvent σ) (m : Moment σ) : Checked (List (Moment σ)) := do
  let within ← m.within e
  return within ++ [(within.getLastD m).next (← m.lane.play e)]

theorem within_of_other {o : LaneOp} (other : ∀ bytes, o ≠ .commandData bytes) (m : Moment σ) :
    m.within (.op o) = .ok [] := by
  cases o with
  | commandData bytes => exact absurd rfl (other bytes)
  | mount | detach | usbReset | canData | commandDone | canDone | poll | wakeUp | serve => rfl

/-- the moments of a history -/
def history : List (LaneEvent σ) → Moment σ → Checked (List (Moment σ))
  | [], _ => .ok []
  | e :: es, m => do
    let here ← m.event e
    return here ++ (← history es (here.getLastD m))

end

variable {σ : Type} {config : Config} {m : Moment (Logged σ)} {l : Lane (Logged σ)}

def Negotiated (config : Config) (m : Moment (Logged σ)) : Prop := m.lane.channel.Negotiated config m.joined

variable [Controller σ]

/-- induction on the messages -/
theorem negotiated_requests {rs : List RawMessage} {c : Channel (Logged σ)} (h : m.Negotiated config)
    (ran : rs.foldlM (fun c r => c.request r) m.lane.channel = .ok c) :
    ∃ ms, m.requests rs = .ok ms ∧ (∀ n ∈ ms, n.Negotiated config) ∧
      (ms.getLastD m).lane = { m.lane with channel := c } ∧ (ms.getLastD m).Negotiated config := by
  induction rs generalizing m with
  | nil =>
    cases ran
    refine ⟨[], rfl, ?_, ?_, ?_⟩
    · intro n mem
      cases mem
    · rfl
    · exact h
  | cons r rs ih =>
    rw [List.foldlM_cons] at ran
    obtain ⟨c₁, first, ran⟩ := Checked.bind_eq_ok.1 ran
    have after : (m.next { m.lane with channel := c₁ }).Negotiated config := Channel.negotiated_request h first
    obtain ⟨ms, later, all, lane, last⟩ := ih after ran
    refine ⟨_ :: ms, ?_, List.forall_mem_cons.2 ⟨after, all⟩, ?_, ?_⟩
    · exact Checked.bind_eq_ok.2 ⟨c₁, first, Checked.bind_eq_ok.2 ⟨ms, later, rfl⟩⟩
    · rw [List.getLastD_cons]
      exact lane
    · rw [List.getLastD_cons]
      exact last

end Moment

namespace Lane

variable {σ : Type} [Controller σ] {config : Config} {joined : Option Features} {l l' : Lane (Logged σ)}

theorem negotiated_wakeUp {now : Nat} {outcome : WakeOutcome} (h : l.channel.Negotiated config joined)
    (look : l.wakeUp now = .ok (outcome, l')) :
    l'.channel.Negotiated config (Channel.joining joined l.channel l'.channel) := by
  rcases wakeUp_cases look with ⟨-, -, rfl⟩ | ⟨-, -, -, rfl⟩ | ⟨-, -, -, ms, flow, -⟩
  · exact h.of_unset rfl rfl rfl (.refl _)
  · exact h.of_unset rfl rfl rfl (.refl _)
  · exact h.of_unset (congrArg (·.config) flow.channel) (congrArg (·.settings) flow.channel)
      (congrArg (·.enabled) flow.channel) (.of_calls (congrArg (·.controller.calls) flow.channel))

/-- every operation but a command buffer -/
theorem negotiated_op {o : LaneOp} (sound : l.Sound) (h : l.channel.Negotiated config joined)
    (other : ∀ bytes, o ≠ .commandData bytes) (played : l.play (.op o) = .ok l') :
    l'.channel.Negotiated config (Channel.joining joined l.channel l'.channel) := by
  cases stepped played with
  | mount | usbReset | commandDone | canDone | wait => exact h.of_unset rfl rfl rfl (.refl _)
  | detach reset =>
    have negotiated := Channel.negotiated_reset h reset
    exact { negotiated with durations := negotiated.durations }
  | @commandData _ _ bytes => exact absurd rfl (other bytes)
  | canData transmissions =>
    obtain ⟨fs, -, sent⟩ := Channel.sent_transmissions transmissions
    exact h.of_unset (congrArg (·.config) sent.channel) (congrArg (·.settings) sent.channel)
      (congrArg (·.enabled) sent.channel) (Logged.unset_offered sent.controller)
  | poll poll =>
    obtain ⟨a, -, polled⟩ := Channel.poll_cases sound.settled poll
    have controller := congrArg (·.controller) polled.channel
    exact h.of_unset (congrArg (·.config) polled.channel) (congrArg (·.settings) polled.channel)
      (congrArg (·.enabled) polled.channel) (controller ▸ Logged.unset_handedOut _)
  | wakeUp look => exact negotiated_wakeUp h look
  | serve told look =>
    have untold : Channel.Negotiated config joined { l.channel with wake := false } :=
      { h with durations := h.durations }
    exact negotiated_wakeUp (l := { l with channel := { l.channel with wake := false } }) untold look

end Lane

namespace Moment

variable {σ : Type} [Controller σ] {config : Config} {m : Moment (Logged σ)} {l : Lane (Logged σ)}

/-- a command buffer message by message, any other event at once -/
theorem negotiated_within {e : LaneEvent σ} (sound : m.lane.Sound) (h : m.Negotiated config)
    (played : m.lane.play e.logged = .ok l) : ∃ ms, m.within e.logged = .ok ms ∧ (∀ n ∈ ms, n.Negotiated config) ∧
      ((ms.getLastD m).next l).Negotiated config := by
  have atOnce (during : m.within e.logged = .ok []) (after : (m.next l).Negotiated config) :
      ∃ ms, m.within e.logged = .ok ms ∧ (∀ n ∈ ms, n.Negotiated config) ∧
        ((ms.getLastD m).next l).Negotiated config :=
    ⟨[], during, fun _ mem => absurd mem List.not_mem_nil, after⟩
  cases e with
  | moved f =>
    cases played
    exact atOnce rfl (Channel.Negotiated.of_unset h rfl rfl rfl (.of_calls rfl))
  | op o =>
    by_cases buffer : ∃ bytes, o = .commandData bytes
    · obtain ⟨bytes, rfl⟩ := buffer
      obtain ⟨c, commands, played⟩ := Checked.bind_eq_ok.1 played
      cases played
      obtain ⟨c₁, asked, commands⟩ := Checked.bind_eq_ok.1 commands
      obtain ⟨command, -, commands⟩ := Checked.bind_eq_ok.1 commands
      cases commands
      obtain ⟨ms, ran, all, lane, last⟩ := negotiated_requests h asked
      have handled : (ms.getLastD m).lane.channel = c₁ := congrArg Lane.channel lane
      refine ⟨ms, ran, all, ?_⟩
      refine Channel.Negotiated.of_unset last ?_ ?_ ?_ ?_
      · rw [handled]
      · rw [handled]
      · rw [handled]
      · rw [handled]
        exact .of_calls rfl
    · have other : ∀ bytes, o ≠ .commandData bytes := fun bytes same => buffer ⟨bytes, same⟩
      exact atOnce (within_of_other other m) (Lane.negotiated_op sound h other played)

theorem negotiated_event {e : LaneEvent σ} (sound : m.lane.Sound) (h : m.Negotiated config)
    (played : m.lane.play e.logged = .ok l) :
    ∃ ms, m.event e.logged = .ok ms ∧ (∀ n ∈ ms, n.Negotiated config) ∧ (ms.getLastD m).lane = l ∧
      (ms.getLastD m).Negotiated config := by
  obtain ⟨ms, ran, all, after⟩ := negotiated_within sound h played
  refine ⟨ms ++ [(ms.getLastD m).next l], ?_, ?_, ?_, ?_⟩
  · exact Checked.bind_eq_ok.2 ⟨ms, ran, Checked.bind_eq_ok.2 ⟨l, played, rfl⟩⟩
  · intro n mem
    rcases List.mem_append.1 mem with early | last
    · exact all n early
    · rwa [List.mem_singleton.1 last]
  · rw [List.getLastD_concat]
    rfl
  · rwa [List.getLastD_concat]

/-- induction on the events -/
theorem negotiated_history {es : List (LaneEvent σ)} (sound : m.lane.Sound) (h : m.Negotiated config)
    (played : m.lane.plays (es.map .logged) = .ok l) : ∃ ms, m.history (es.map .logged) = .ok ms ∧
      (∀ n ∈ ms, n.Negotiated config) ∧ (ms.getLastD m).lane = l := by
  induction es generalizing m with
  | nil =>
    cases played
    exact ⟨[], rfl, fun _ mem => absurd mem List.not_mem_nil, rfl⟩
  | cons e es ih =>
    unfold Lane.plays at played
    rw [List.map_cons, List.foldlM_cons] at played
    obtain ⟨l₁, first, played⟩ := Checked.bind_eq_ok.1 played
    obtain ⟨here, ran, allHere, rfl, after⟩ := negotiated_event sound h first
    obtain ⟨later, rest, allLater, ends⟩ := ih (Lane.sound_play first sound) after played
    refine ⟨here ++ later, ?_, ?_, ?_⟩
    · exact Checked.bind_eq_ok.2 ⟨here, ran, Checked.bind_eq_ok.2 ⟨later, rest, rfl⟩⟩
    · intro n mem
      exact (List.mem_append.1 mem).elim (allHere n) (allLater n)
    · rw [getLastD_append]
      exact ends

end Moment

/-- **Negotiated settings.** Take any history of a lane from power-on, where the clock ticks of the upper limits fit
their word, and look at it after every event and every message of a command buffer. In each of these moments

- the bit durations are those of the two timings that are set and the clock;
- the nominal timing is the default or one that its range leaves as it is, and so is the data timing;
- the last timing of each kind that the controller was given, if any, is the one that is set, and a controller without
  a data phase was never given a data timing;
- the active features contain the permanent ones, and no others than those and the configurable ones;
- on the bus, the last features that the controller was given are those that were active when the channel joined it.

What a range with ordered limits leaves as it is lies within them. No command buffer and no detach stops the adapter, so
that every history goes on with those. -/
theorem Lane.settings_negotiated {σ : Type} [Controller σ] {l₀ l : Lane (Logged σ)} {es : List (LaneEvent σ)}
    (fresh : l₀.Fresh) (silent : l₀.channel.controller.calls = [])
    (nominal : l₀.channel.config.nominalRange.max.Fits)
    (data : ∀ range, l₀.channel.config.dataRange = some range → range.max.Fits)
    (history : l₀.plays (es.map .logged) = .ok l) :
    (∃ ms, Moment.history (es.map .logged) ⟨l₀, none⟩ = .ok ms ∧ (ms.getLastD ⟨l₀, none⟩).lane = l ∧
      ∀ m ∈ ⟨l₀, none⟩ :: ms, m.lane.channel.Negotiated l₀.channel.config m.joined) ∧
    (∀ (range : TimingRange) (t : BitTiming), range.Ordered → range.clamp t = t → range.Holds t) ∧
    (∀ bytes, ∃ l', l.play (.op (.commandData bytes)) = .ok l') ∧ ∃ l', l.play (.op .detach) = .ok l' := by
  have reachable : l.Reachable := ⟨l₀, _, fresh, history⟩
  have described : l.channel.config = l₀.channel.config := (moves_plays history).config
  refine ⟨?_, fun range t => TimingRange.holds_of_fixed, fun bytes => ?_, ?_⟩
  · have sound := sound_of_fresh fresh
    obtain ⟨index, config, s, c, created, rfl⟩ := fresh
    have first : Channel.Negotiated config none c := Channel.negotiated_create created silent
    have start : Moment.Negotiated config ⟨ofChannel { c with split := true }, none⟩ :=
      { first with durations := first.durations }
    obtain ⟨ms, ran, all, last⟩ := Moment.negotiated_history sound start history
    refine ⟨ms, ran, last, ?_⟩
    obtain rfl := first.described
    exact List.forall_mem_cons.2 ⟨start, all⟩
  · obtain ⟨-, -, -, framed⟩ := Walker.exists_rest bytes
    have ready := reachable.ready (described ▸ nominal) (described ▸ data)
    obtain ⟨answers, c₁, handled, -⟩ := Channel.exists_serves framed ready
    obtain ⟨command, flushed, -⟩ := Endpoint.succeeds_flush aligned_commandBank c₁.command
    have commands : l.channel.commands bytes = .ok { c₁ with command } :=
      Checked.bind_eq_ok.2 ⟨c₁, handled, Checked.bind_eq_ok.2 ⟨command, flushed, rfl⟩⟩
    exact ⟨_, Checked.bind_eq_ok.2 ⟨_, commands, rfl⟩⟩
  · obtain ⟨c, reset, -⟩ := reachable.reset
    exact ⟨_, Checked.bind_eq_ok.2 ⟨_, Checked.bind_eq_ok.2 ⟨c, reset, rfl⟩, rfl⟩⟩

namespace Lane

/-- a nominal timing above its range, loopback on, and onto the bus; then loopback off, a data timing below its range,
and onto the bus again, where the channel is already -/
def busySettings : List (LaneEvent SimController) :=
  [.op .mount,
    .op (.commandData ([5, 8, 255, 255, 255, 255, 255, 255] ++ [7, 8, 1, 0, 0x80, 0, 0, 0] ++ [8, 4, 1, 0])),
    .op (.commandData ([7, 8, 0, 0, 0, 0, 0, 0] ++ [6, 8, 0, 0, 0, 0, 0, 0] ++ [8, 4, 1, 0]))]

/-- the controller still has loopback on, as when the channel joined the bus -/
theorem busySettings_negotiated : ∃ (l₀ l : Lane (Logged SimController)) (ms : List (Moment (Logged SimController))),
    l₀.Fresh ∧ l₀.channel.controller.calls = [] ∧ l₀.channel.config = .default ∧
      l₀.channel.config.nominalRange.max.Fits ∧
      (∀ range, l₀.channel.config.dataRange = some range → range.max.Fits) ∧
      l₀.plays (busySettings.map .logged) = .ok l ∧
      Moment.history (busySettings.map .logged) ⟨l₀, none⟩ = .ok ms ∧ ms.length = 9 ∧
      (∀ m ∈ ⟨l₀, none⟩ :: ms, m.lane.channel.Negotiated l₀.channel.config m.joined) ∧
      l.channel.settings.nominal = ⟨512, 128, 256, 128⟩ ∧ l.channel.settings.data = ⟨1, 1, 1, 1⟩ ∧
      l.channel.settings.features = Config.default.permanent ∧ l.channel.enabled = true ∧
      l.channel.controller.featureSets = [Config.default.permanent ∪ .loopback] := by
  have ran : Checked.passes (fun r : Channel (Logged SimController) × Lane (Logged SimController) =>
        decide (r.1.controller.calls = [] ∧ r.1.config = .default ∧
          r.2.channel.settings.nominal = ⟨512, 128, 256, 128⟩ ∧ r.2.channel.settings.data = ⟨1, 1, 1, 1⟩ ∧
          r.2.channel.settings.features = Config.default.permanent ∧ r.2.channel.enabled = true ∧
          r.2.channel.controller.featureSets = [Config.default.permanent ∪ .loopback]) &&
        Checked.passes (fun ms => decide (ms.length = 9))
          (Moment.history (busySettings.map .logged) ⟨ofChannel { r.1 with split := true }, none⟩))
      (Channel.create 0 Config.default ⟨({} : SimController), []⟩ >>= fun c =>
        (ofChannel { c with split := true }).plays (busySettings.map .logged) >>= fun l => pure (c, l)) = true := by
    decide +kernel
  obtain ⟨c, l, created, history, holds⟩ := Checked.of_passes_pair ran
  rw [Bool.and_eq_true, decide_eq_true_eq] at holds
  obtain ⟨⟨silent, config, shown⟩, looked⟩ := holds
  obtain ⟨ms', ran', nine⟩ := Checked.of_passes looked
  have fresh : (ofChannel { c with split := true }).Fresh := ⟨0, .default, _, c, created, rfl⟩
  have nominal : c.config.nominalRange.max.Fits := by
    rw [config]
    decide
  have data : ∀ range, c.config.dataRange = some range → range.max.Fits := by
    rw [config]
    rintro range ⟨⟩
    decide
  obtain ⟨⟨ms, ran, -, all⟩, -⟩ := settings_negotiated fresh silent nominal data history
  cases ran'.symm.trans ran
  exact ⟨_, l, _, fresh, silent, config, nominal, data, history, ran, of_decide_eq_true nine, all, shown⟩

end Lane

end CanAdapter
