/-
Means to compare two runs. `Checked.Agree R x y`: both computations stop with the same fault, or neither does and `R`
holds of their results; it goes through sequences and folds. `SameAnswer R`: results with one and the same answer.
`Continues`: two lists that went on alike, each from a beginning of its own.

`Logged σ` is a controller of type `σ` with a log of what it was asked to do. Two of them are alike if they are in
the same state and their logs went on alike; then they answer alike and stay alike, `Logged.Alike.step`,
`Logged.Alike.ask`, `Logged.Alike.drainUpTo`, `Logged.Alike.takeErrors`.
-/
import CanAdapter.Controller
import CanAdapter.Fault
import CanAdapter.Frame

namespace CanAdapter

/-! ## Two computations -/

/-- both fail with the same error, or neither does and `R` holds of the results -/
inductive Checked.Agree {ε α β : Type} (R : α → β → Prop) : Except ε α → Except ε β → Prop where
  | ok {a : α} {b : β} (h : R a b) : Agree R (.ok a) (.ok b)
  | error (e : ε) : Agree R (.error e) (.error e)

/-- the answers are equal, and `R` holds of what comes with them -/
def SameAnswer {α β γ : Type} (R : β → γ → Prop) (x : α × β) (y : α × γ) : Prop := x.1 = y.1 ∧ R x.2 y.2

namespace Checked

variable {ε α β γ δ : Type} {R : α → β → Prop} {S : γ → δ → Prop} {x : Except ε α} {y : Except ε β}

theorem Agree.bind {f : α → Except ε γ} {g : β → Except ε δ} (h : Agree R x y)
    (next : ∀ a b, R a b → Agree S (f a) (g b)) : Agree S (x >>= f) (y >>= g) := by
  cases h with
  | ok h => exact next _ _ h
  | error e => exact .error e

theorem agree_bind {f : α → Except ε γ} {g : α → Except ε δ} (x : Except ε α) (next : ∀ a, Agree S (f a) (g a)) :
    Agree S (x >>= f) (x >>= g) := by
  cases x with
  | ok a => exact next a
  | error e => exact .error e

theorem Agree.map {f : α → γ} {g : β → δ} (h : Agree R x y) (result : ∀ a b, R a b → S (f a) (g b)) :
    Agree S (f <$> x) (g <$> y) := by
  cases h with
  | ok h => exact .ok (result _ _ h)
  | error e => exact .error e

theorem Agree.mono {S : α → β → Prop} (h : Agree R x y) (weaker : ∀ a b, R a b → S a b) : Agree S x y := by
  cases h with
  | ok h => exact .ok (weaker _ _ h)
  | error e => exact .error e

/-- related results with equal answers: the answers alone are equal computations -/
theorem Agree.answers {x : Except ε (γ × α)} {y : Except ε (γ × β)} (h : Agree (SameAnswer R) x y) :
    (·.1) <$> x = (·.1) <$> y := by
  cases h with
  | ok h => exact congrArg Except.ok h.1
  | error e => rfl

/-- if each step keeps two states related, a fold does -/
theorem agree_foldlM {f : α → γ → Except ε α} {g : β → γ → Except ε β} {cs : List γ}
    (step : ∀ c a b, R a b → Agree R (f a c) (g b c)) {a : α} {b : β} (h : R a b) :
    Agree R (cs.foldlM f a) (cs.foldlM g b) := by
  induction cs generalizing a b with
  | nil => exact .ok h
  | cons c cs ih =>
    rw [List.foldlM_cons, List.foldlM_cons]
    exact (step c a b h).bind fun _ _ => ih

end Checked

namespace Checked

variable {ε α β γ δ : Type} {R : α → β → Prop} {S : γ → δ → Prop} {x : Except ε α} {y : Except ε β}

/-- if both succeed, `R` holds of the results; nothing is said about which of them does -/
def Meet (R : α → β → Prop) (x : Except ε α) (y : Except ε β) : Prop := ∀ a b, x = .ok a → y = .ok b → R a b

theorem meet_any (x : Except ε α) (y : Except ε β) : Meet (fun _ _ => True) x y := fun _ _ _ _ => trivial

theorem Agree.meet (h : Agree R x y) : Meet R x y := by
  rintro a b rfl rfl
  cases h with
  | ok h => exact h

theorem Meet.ok {a : α} {b : β} (h : R a b) : Meet (ε := ε) R (.ok a) (.ok b) := by
  rintro _ _ ⟨⟩ ⟨⟩
  exact h

theorem Meet.bind {f : α → Except ε γ} {g : β → Except ε δ} (h : Meet R x y)
    (next : ∀ a b, R a b → Meet S (f a) (g b)) : Meet S (x >>= f) (y >>= g) := by
  intro c d hc hd
  obtain ⟨a, ha, hc⟩ := bind_eq_ok.1 hc
  obtain ⟨b, hb, hd⟩ := bind_eq_ok.1 hd
  exact next a b (h a b ha hb) c d hc hd

theorem Meet.map {f : α → γ} {g : β → δ} (h : Meet R x y) (result : ∀ a b, R a b → S (f a) (g b)) :
    Meet S (f <$> x) (g <$> y) := by
  intro c d hc hd
  obtain ⟨a, ha, rfl⟩ := map_eq_ok.1 hc
  obtain ⟨b, hb, rfl⟩ := map_eq_ok.1 hd
  exact result a b (h a b ha hb)

theorem meet_foldlM {f : α → γ → Except ε α} {g : β → γ → Except ε β} {cs : List γ}
    (step : ∀ c a b, R a b → Meet R (f a c) (g b c)) {a : α} {b : β} (h : R a b) :
    Meet R (cs.foldlM f a) (cs.foldlM g b) := by
  induction cs generalizing a b with
  | nil => exact .ok h
  | cons c cs ih =>
    rw [List.foldlM_cons, List.foldlM_cons]
    exact (step c a b h).bind fun _ _ => ih

end Checked

/-! ## Two histories -/

section

variable {α : Type} {p₁ p₂ as bs : List α}

/-- what was added to `p₁` to give `as` is what was added to `p₂` to give `bs` -/
def Continues (p₁ p₂ as bs : List α) : Prop := ∃ more, as = p₁ ++ more ∧ bs = p₂ ++ more

theorem Continues.refl (p₁ p₂ : List α) : Continues p₁ p₂ p₁ p₂ :=
  ⟨[], (List.append_nil _).symm, (List.append_nil _).symm⟩

theorem Continues.append (h : Continues p₁ p₂ as bs) (more : List α) : Continues p₁ p₂ (as ++ more) (bs ++ more) := by
  obtain ⟨before, rfl, rfl⟩ := h
  exact ⟨before ++ more, List.append_assoc .., List.append_assoc ..⟩

end

/-! ## Controllers with a log -/

/-- what a controller can be asked to do; what only reads its state is left out -/
inductive Call where
  | drainRx
  | drainTx
  | takeError
  | submit (f : Frame) (track : UInt8)
  | setNominal (t : BitTiming)
  | setData (t : BitTiming)
  | setFeatures (f : Features)
  | goBus (on : Bool)
  | reset
deriving DecidableEq, Repr

/-- a controller with a log of all that it was asked to do; any controller can be given one, and nothing reads it -/
structure Logged (σ : Type) where
  state : σ
  calls : List Call
deriving DecidableEq, Repr

namespace Logged

variable {σ : Type}

/-- the state after a call, which goes into the log -/
def after (call : Call) (s : σ) (r : Logged σ) : Logged σ := ⟨s, r.calls ++ [call]⟩

/-- same state, and since `p₁` and `p₂` the same calls -/
structure Alike (p₁ p₂ : List Call) (r₁ r₂ : Logged σ) : Prop where
  state : r₁.state = r₂.state
  calls : Continues p₁ p₂ r₁.calls r₂.calls

variable {α : Type} {p₁ p₂ : List Call} {r₁ r₂ : Logged σ}

theorem Alike.read (h : Alike p₁ p₂ r₁ r₂) (f : σ → α) : f r₁.state = f r₂.state := congrArg f h.state

theorem Alike.step (h : Alike p₁ p₂ r₁ r₂) (call : Call) (f : σ → σ) :
    Alike p₁ p₂ (r₁.after call (f r₁.state)) (r₂.after call (f r₂.state)) :=
  ⟨congrArg f h.state, h.calls.append _⟩

theorem Alike.ask (h : Alike p₁ p₂ r₁ r₂) (call : Call) (f : σ → α × σ) :
    SameAnswer (Alike p₁ p₂) ((f r₁.state).1, r₁.after call (f r₁.state).2)
      ((f r₂.state).1, r₂.after call (f r₂.state).2) :=
  ⟨congrArg (fun s => (f s).1) h.state, h.step call fun s => (f s).2⟩

/-- the same answers to each batch, so as many batches -/
theorem Alike.drainUpTo {drain : Logged σ → Drained α × Logged σ}
    (step : ∀ {r₁ r₂}, Alike p₁ p₂ r₁ r₂ → SameAnswer (Alike p₁ p₂) (drain r₁) (drain r₂)) (h : Alike p₁ p₂ r₁ r₂)
    (n : Nat) : SameAnswer (Alike p₁ p₂) (Controller.drainUpTo drain n r₁) (Controller.drainUpTo drain n r₂) := by
  induction n generalizing r₁ r₂ with
  | zero =>
    obtain ⟨batch, drained⟩ := step h
    unfold Controller.drainUpTo
    simp only [batch]
    split
    · exact ⟨rfl, drained⟩
    · split <;> exact ⟨rfl, drained⟩
  | succ n ih =>
    obtain ⟨batch, drained⟩ := step h
    obtain ⟨later, ended⟩ := ih drained
    unfold Controller.drainUpTo
    simp only [batch, later]
    split
    · exact ⟨rfl, drained⟩
    · split
      · exact ⟨rfl, drained⟩
      · exact ⟨rfl, ended⟩

variable [Controller σ]

instance : Controller (Logged σ) where
  drainRx r := ((Controller.drainRx r.state).1, r.after .drainRx (Controller.drainRx r.state).2)
  drainTx r := ((Controller.drainTx r.state).1, r.after .drainTx (Controller.drainTx r.state).2)
  takeError r := ((Controller.takeError r.state).1, r.after .takeError (Controller.takeError r.state).2)
  submit f track r :=
    ((Controller.submit f track r.state).1, r.after (.submit f track) (Controller.submit f track r.state).2)
  txFree r := Controller.txFree r.state
  rxFill r := Controller.rxFill r.state
  errorCounters r := Controller.errorCounters r.state
  busStatus r := Controller.busStatus r.state
  delayCompensation r := Controller.delayCompensation r.state
  timestamp r := Controller.timestamp r.state
  setNominal t r := r.after (.setNominal t) (Controller.setNominal t r.state)
  setData t r := r.after (.setData t) (Controller.setData t r.state)
  setFeatures f r := r.after (.setFeatures f) (Controller.setFeatures f r.state)
  goBus on r := r.after (.goBus on) (Controller.goBus on r.state)
  reset r := r.after .reset (Controller.reset r.state)
  rxLeft r := Controller.rxLeft r.state
  txLeft r := Controller.txLeft r.state
  errorsLeft r := Controller.errorsLeft r.state
  rx_le r := Controller.rx_le r.state
  tx_le r := Controller.tx_le r.state
  rx_lt r := Controller.rx_lt r.state
  tx_lt r := Controller.tx_lt r.state
  error_lt r := Controller.error_lt r.state

theorem Alike.drainAllRx (h : Alike p₁ p₂ r₁ r₂) :
    SameAnswer (Alike p₁ p₂) (Controller.drainAllRx r₁) (Controller.drainAllRx r₂) := by
  have left : Controller.rxLeft r₁ = Controller.rxLeft r₂ := h.read Controller.rxLeft
  unfold Controller.drainAllRx
  rw [left]
  exact h.drainUpTo (fun h => h.ask .drainRx Controller.drainRx) _

theorem Alike.drainAllTx (h : Alike p₁ p₂ r₁ r₂) :
    SameAnswer (Alike p₁ p₂) (Controller.drainAllTx r₁) (Controller.drainAllTx r₂) := by
  have left : Controller.txLeft r₁ = Controller.txLeft r₂ := h.read Controller.txLeft
  unfold Controller.drainAllTx
  rw [left]
  exact h.drainUpTo (fun h => h.ask .drainTx Controller.drainTx) _

theorem Alike.errorsUpTo (h : Alike p₁ p₂ r₁ r₂) (n : Nat) :
    SameAnswer (Alike p₁ p₂) (Controller.errorsUpTo n r₁) (Controller.errorsUpTo n r₂) := by
  induction n generalizing r₁ r₂ with
  | zero => exact ⟨rfl, h⟩
  | succ n ih =>
    have taken : SameAnswer (Alike p₁ p₂) (Controller.takeError r₁) (Controller.takeError r₂) :=
      h.ask .takeError Controller.takeError
    unfold Controller.errorsUpTo
    generalize Controller.takeError r₁ = x at taken ⊢
    generalize Controller.takeError r₂ = y at taken ⊢
    obtain ⟨e, s₁⟩ := x
    obtain ⟨e', s₂⟩ := y
    obtain ⟨rfl, taken⟩ := taken
    cases e with
    | none => exact ⟨rfl, taken⟩
    | some e =>
      obtain ⟨rest, ended⟩ := ih taken
      exact ⟨congrArg (e :: ·) rest, ended⟩

theorem Alike.takeErrors (h : Alike p₁ p₂ r₁ r₂) :
    SameAnswer (Alike p₁ p₂) (Controller.takeErrors r₁) (Controller.takeErrors r₂) := by
  have left : Controller.errorsLeft r₁ = Controller.errorsLeft r₂ := h.read Controller.errorsLeft
  unfold Controller.takeErrors
  rw [left]
  exact h.errorsUpTo _

end Logged

end CanAdapter
