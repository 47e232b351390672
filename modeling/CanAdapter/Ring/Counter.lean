/-
Free-running 16-bit counters. `steps a b` is how often `a` has to be incremented to reach `b`; it is exact also after
the counters have wrapped.

`steps_succ_right`, `steps_succ_left`, `steps_sub`: how the distance changes when either end moves.
`toNat_countUp`: a loss counter stops at its end instead of wrapping.
-/
namespace CanAdapter

/-- increments that take counter `a` to counter `b` -/
def steps (a b : UInt16) : Nat := (b - a).toNat

theorem steps_eq (a b : UInt16) : steps a b = (b.toNat + 65536 - a.toNat) % 65536 := by
  have := a.toNat_lt
  simp only [steps, UInt16.toNat_sub]
  omega

theorem steps_lt (a b : UInt16) : steps a b < 65536 := (b - a).toNat_lt

@[simp] theorem steps_self (a : UInt16) : steps a a = 0 := by simp [steps]

theorem steps_eq_zero_iff {a b : UInt16} : steps a b = 0 ↔ a = b := by
  have := a.toNat_lt
  have := b.toNat_lt
  rw [steps_eq, ← UInt16.toNat_inj]
  omega

theorem steps_succ_right {a b : UInt16} (h : steps a b < 65535) : steps a (b + 1) = steps a b + 1 := by
  have := a.toNat_lt
  have := b.toNat_lt
  simp only [steps_eq, UInt16.toNat_add, UInt16.toNat_one] at *
  omega

theorem steps_succ_left {a b : UInt16} (h : 0 < steps a b) : steps (a + 1) b + 1 = steps a b := by
  have := a.toNat_lt
  have := b.toNat_lt
  simp only [steps_eq, UInt16.toNat_add, UInt16.toNat_one] at *
  omega

/-- from a counter on the way, only the rest is left -/
theorem steps_sub {a b c : UInt16} (h : steps a b ≤ steps a c) : steps b c = steps a c - steps a b := by
  have := a.toNat_lt
  have := b.toNat_lt
  have := c.toNat_lt
  simp only [steps_eq] at *
  omega

theorem steps_inj {a b c : UInt16} (h : steps a b = steps a c) : b = c := by
  have := a.toNat_lt
  have := b.toNat_lt
  have := c.toNat_lt
  rw [← UInt16.toNat_inj]
  simp only [steps_eq] at h
  omega

theorem steps_add (a : UInt16) {n : Nat} (h : n < 65536) : steps a (a + UInt16.ofNat n) = n := by
  have := a.toNat_lt
  simp only [steps_eq, UInt16.toNat_add, UInt16.toNat_ofNat']
  omega

/-- one more, unless the count is at its end -/
def countUp (n : UInt16) : UInt16 := if n = 0xffff then n else n + 1

theorem toNat_countUp (n : UInt16) : (countUp n).toNat = min (n.toNat + 1) 65535 := by
  have := n.toNat_lt
  by_cases h : n = 0xffff
  · subst h
    rfl
  · have hn : n.toNat ≠ 65535 := fun e => h (UInt16.toNat_inj.1 e)
    simp only [countUp, if_neg h, UInt16.toNat_add, UInt16.toNat_one]
    omega

end CanAdapter
