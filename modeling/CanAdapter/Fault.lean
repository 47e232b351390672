/-
Faults of the adapter's arithmetic. Words have a fixed width; an addition or multiplication that leaves it, a
remainder by zero, a range beyond its slice and a failed consistency check all stop the adapter. `Checked α` is the
type of computations that may stop so; everything that can fail in an ordinary way has its own error type instead.

`add8_eq_ok`, `add32_eq_ok`, `mul32_eq_ok`: a checked operation succeeds exactly when the result fits, and then it is
the plain one. `bind_eq_ok`, `map_eq_ok`, `foldlM_keeps`: how a success of a computation in parts comes about.
-/
namespace CanAdapter

/-- why the adapter stopped -/
inductive Fault where
  | addOverflow
  | mulOverflow
  | remainderByZero
  /-- a range that ends at `stop`, taken of a slice of `len` bytes -/
  | rangeEnd (stop len : Nat)
  /-- a consistency check failed -/
  | assertion
deriving DecidableEq, Repr

/-- a computation that may stop the adapter -/
abbrev Checked (α : Type) := Except Fault α

/-- the text a fault is reported with -/
def Fault.message : Fault → String
  | .addOverflow => "attempt to add with overflow"
  | .mulOverflow => "attempt to multiply with overflow"
  | .remainderByZero => "attempt to calculate the remainder with a divisor of zero"
  | .rangeEnd stop len => s!"range end index {stop} out of range for slice of length {len}"
  | .assertion => "assertion failed"

namespace Checked

/-- sum of two 8-bit words -/
def add8 (a b : UInt8) : Checked UInt8 :=
  if a.toNat + b.toNat < 2 ^ 8 then .ok (a + b) else .error .addOverflow

/-- product of two 8-bit words -/
def mul8 (a b : UInt8) : Checked UInt8 :=
  if a.toNat * b.toNat < 2 ^ 8 then .ok (a * b) else .error .mulOverflow

/-- sum of two 32-bit words -/
def add32 (a b : UInt32) : Checked UInt32 :=
  if a.toNat + b.toNat < 2 ^ 32 then .ok (a + b) else .error .addOverflow

/-- product of two 32-bit words -/
def mul32 (a b : UInt32) : Checked UInt32 :=
  if a.toNat * b.toNat < 2 ^ 32 then .ok (a * b) else .error .mulOverflow

theorem add8_eq_ok {a b : UInt8} (h : a.toNat + b.toNat < 2 ^ 8) : add8 a b = .ok (a + b) := if_pos h

theorem add32_eq_ok {a b : UInt32} (h : a.toNat + b.toNat < 2 ^ 32) : add32 a b = .ok (a + b) := if_pos h

theorem mul32_eq_ok {a b : UInt32} (h : a.toNat * b.toNat < 2 ^ 32) : mul32 a b = .ok (a * b) := if_pos h

section

variable {ε α β : Type}

theorem bind_eq_ok {x : Except ε α} {f : α → Except ε β} {b : β} :
    x >>= f = .ok b ↔ ∃ a, x = .ok a ∧ f a = .ok b := by
  cases x <;> simp [bind, Except.bind]

theorem map_eq_ok {x : Except ε α} {f : α → β} {b : β} : f <$> x = .ok b ↔ ∃ a, x = .ok a ∧ f a = b := by
  cases x <;> simp [Functor.map, Except.map]

/-- it succeeds, and `p` accepts the result -/
def passes (p : α → Bool) (x : Except ε α) : Bool :=
  match x with
  | .ok a => p a
  | .error _ => false

theorem of_passes {p : α → Bool} {x : Except ε α} (h : passes p x = true) : ∃ a, x = .ok a ∧ p a = true := by
  cases x with
  | ok a => exact ⟨a, rfl, h⟩
  | error e => cases h

/-- the same of two computations, one after the other, and their two results -/
theorem of_passes_pair {p : α × β → Bool} {x : Except ε α} {f : α → Except ε β}
    (h : passes p (x >>= fun a => f a >>= fun b => pure (a, b)) = true) :
    ∃ a b, x = .ok a ∧ f a = .ok b ∧ p (a, b) = true := by
  obtain ⟨r, run, holds⟩ := of_passes h
  obtain ⟨a, first, run⟩ := bind_eq_ok.1 run
  obtain ⟨b, second, run⟩ := bind_eq_ok.1 run
  cases run
  exact ⟨a, b, first, second, holds⟩

/-- what every step of a fold keeps, the fold keeps -/
theorem foldlM_keeps {P : β → Prop} {f : β → α → Except ε β} {as : List α}
    (step : ∀ a ∈ as, ∀ s s', f s a = .ok s' → P s → P s') {s s' : β} (h : as.foldlM f s = .ok s') (hs : P s) :
    P s' := by
  induction as generalizing s with
  | nil =>
    cases h
    exact hs
  | cons a as ih =>
    rw [List.foldlM_cons] at h
    obtain ⟨s₁, h₁, h⟩ := bind_eq_ok.1 h
    exact ih (fun b hb => step b (List.mem_cons_of_mem _ hb)) h (step a List.mem_cons_self s s₁ h₁ hs)

end

end Checked

end CanAdapter
