/-
How exact the time of a frame is. A bit lasts a rational number of microseconds (`BitTiming.microsPerBit`). What a
channel computes with is that number rounded down, to whole microseconds at the nominal rate and to 1/256 of one at the
data rate, in words of 32 bits; the sum is rounded down once more.

- `BitDurations.exists_durations`: the two durations are the rounded numbers, modulo the word.
- `BitDurations.toNat_frameTime`: the time of a frame is the sum of its bits, modulo the word.
- `rounded_sum`: what rounding costs. At the nominal rate it may cost all but a microsecond for each bit, at the data
  rate 1/256 of one, and the sum another.
- `BitDurations.frameTime_within`: as long as the exact numbers fit the word, nothing is lost but by rounding.
-/
import CanAdapter.Proofs.Success
import Mathlib.Algebra.Order.Floor.Semifield
import Mathlib.Data.Rat.Floor
import Mathlib.Tactic.Linarith
import Mathlib.Tactic.NormNum

namespace CanAdapter

namespace BitTiming

/-- clock ticks of a bit, in whatever word they fit -/
def ticksPerBit (t : BitTiming) : Nat := t.brp.toNat * (1 + t.tseg1.toNat + t.tseg2.toNat)

/-- how long a bit lasts, in microseconds -/
def microsPerBit (t : BitTiming) (clock : UInt32) : ℚ := t.ticksPerBit * 1000000 / clock.toNat

theorem microsPerBit_nonneg (t : BitTiming) (clock : UInt32) : 0 ≤ t.microsPerBit clock :=
  div_nonneg (by positivity) (Nat.cast_nonneg _)

theorem exists_ticks {t : BitTiming} (h : t.Fits) : ∃ n, t.ticks = .ok n ∧ n.toNat = t.ticksPerBit := by
  have product : t.brp.toUInt32.toNat * t.quanta.toNat = t.ticksPerBit := by
    rw [toNat_quanta, UInt16.toNat_toUInt32]
    rfl
  have small : t.brp.toUInt32.toNat * t.quanta.toNat < 2 ^ 32 := by
    rw [product]
    exact h
  refine ⟨_, Checked.mul32_eq_ok small, ?_⟩
  rw [UInt32.toNat_mul, Nat.mod_eq_of_lt small, product]

variable {t : BitTiming} {clock : UInt32}

/-- a quotient in whole numbers is the exact number of so many parts of a microsecond, rounded down -/
theorem floor_microsPerBit (t : BitTiming) (clock : UInt32) (parts : Nat) :
    ⌊t.microsPerBit clock * parts⌋₊ = t.ticksPerBit * 1000000 * parts / clock.toNat := by
  rw [← Nat.floor_div_eq_div (K := ℚ), microsPerBit, div_mul_eq_mul_div]
  push_cast
  rfl

theorem exists_micros (fits : t.Fits) (running : 0 < clock) :
    ∃ w, t.micros clock = .ok w ∧ w.toNat = ⌊t.microsPerBit clock⌋₊ % 2 ^ 32 := by
  obtain ⟨n, ticks, exact⟩ := exists_ticks fits
  have whole := floor_microsPerBit t clock 1
  rw [Nat.cast_one, mul_one, mul_one] at whole
  refine ⟨UInt32.ofNat (n.toNat * 1000000 / clock.toNat), ?_, ?_⟩
  · rw [micros, if_neg (UInt32.ne_of_lt running).symm, ticks]
    rfl
  · rw [UInt32.toNat_ofNat', exact, whole]

theorem exists_micros256 (fits : t.Fits) (running : 0 < clock) :
    ∃ w, t.micros256 clock = .ok w ∧ w.toNat = ⌊t.microsPerBit clock * 256⌋₊ % 2 ^ 32 := by
  obtain ⟨n, ticks, exact⟩ := exists_ticks fits
  have parts := floor_microsPerBit t clock 256
  refine ⟨UInt32.ofNat (n.toNat * 1000000 * 256 / clock.toNat), ?_, ?_⟩
  · rw [micros256, if_neg (UInt32.ne_of_lt running).symm, ticks]
    rfl
  · rw [UInt32.toNat_ofNat', exact, ← parts]
    norm_cast

end BitTiming

/-! ## Rounding -/

/-- the costs of rounding down two durations and the sum of so many of each -/
theorem rounded_sum {p q : ℚ} (hp : 0 ≤ p) (hq : 0 ≤ q) (n d : Nat) :
    ((⌊p⌋₊ * n + ⌊q * 256⌋₊ * d / 256 : Nat) : ℚ) ≤ p * n + q * d ∧
      p * n + q * d < (⌊p⌋₊ * n + ⌊q * 256⌋₊ * d / 256 : Nat) + n + d / 256 + 1 := by
  have countN : (0 : ℚ) ≤ n := Nat.cast_nonneg n
  have countD : (0 : ℚ) ≤ d := Nat.cast_nonneg d
  -- each bit at the nominal rate
  have below : (⌊p⌋₊ : ℚ) * n ≤ p * n := mul_le_mul_of_nonneg_right (Nat.floor_le hp) countN
  have above : p * n ≤ (⌊p⌋₊ + 1 : ℚ) * n := mul_le_mul_of_nonneg_right (Nat.lt_floor_add_one p).le countN
  -- each bit at the data rate, in parts of a microsecond
  have scaled : 0 ≤ q * 256 := by linarith
  have below256 : (⌊q * 256⌋₊ : ℚ) * d ≤ q * 256 * d := mul_le_mul_of_nonneg_right (Nat.floor_le scaled) countD
  have above256 : q * 256 * d ≤ (⌊q * 256⌋₊ + 1 : ℚ) * d :=
    mul_le_mul_of_nonneg_right (Nat.lt_floor_add_one (q * 256)).le countD
  -- the sum of the parts
  generalize ⌊q * 256⌋₊ = parts at below256 above256 ⊢
  have whole : ((parts * d / 256 : Nat) : ℚ) * 256 ≤ parts * d := by
    exact_mod_cast Nat.div_mul_le_self (parts * d) 256
  have less : (parts * d : ℚ) < ((parts * d / 256 : Nat) + 1) * 256 := by
    exact_mod_cast Nat.lt_div_mul_add (a := parts * d) (b := 256) (by decide) |>.trans_eq (by ring)
  rw [Nat.cast_add, Nat.cast_mul]
  constructor <;> linarith

namespace BitDurations

variable {nominal data : BitTiming} {clock : UInt32}

/-- both durations are the exact numbers, rounded down and cut to a word -/
theorem exists_durations (hn : nominal.Fits) (hd : data.Fits) (running : 0 < clock) :
    ∃ d, ofTimings nominal data clock = .ok d ∧
      d.nominal.toNat = ⌊nominal.microsPerBit clock⌋₊ % 2 ^ 32 ∧
      d.data.toNat = ⌊data.microsPerBit clock * 256⌋₊ % 2 ^ 32 := by
  obtain ⟨n, micros, hn⟩ := BitTiming.exists_micros hn running
  obtain ⟨d, micros256, hd⟩ := BitTiming.exists_micros256 hd running
  refine ⟨⟨n, d⟩, ?_, hn, hd⟩
  rw [ofTimings, micros, micros256]
  rfl

theorem toNat_frameTime (d : BitDurations) (bits : BitCounts) :
    (d.frameTime bits).toNat =
      (d.nominal.toNat * bits.nominal.toNat + d.data.toNat * bits.data.toNat % 2 ^ 32 / 256) % 2 ^ 32 := by
  have eight : (8 : UInt32).toNat % 32 = 8 := rfl
  rw [frameTime, UInt32.toNat_add, UInt32.toNat_shiftRight, UInt32.toNat_mul, UInt32.toNat_mul, eight,
    Nat.shiftRight_eq_div_pow, Nat.mod_add_mod]

/-- how long a frame takes, in microseconds -/
def exactTime (nominal data : BitTiming) (clock : UInt32) (bits : BitCounts) : ℚ :=
  nominal.microsPerBit clock * bits.nominal.toNat + data.microsPerBit clock * bits.data.toNat

/-- The time of a frame by the durations `d`: no number on the way leaves its word, so what is lost is lost by
rounding. -/
structure Approximates (d : BitDurations) (nominal data : BitTiming) (clock : UInt32) (bits : BitCounts) : Prop where
  /-- the products of ticks and microseconds fit the wide word that they are divided in -/
  dividends : nominal.ticksPerBit * 1000000 < 2 ^ 64 ∧ data.ticksPerBit * 1000000 * 256 < 2 ^ 64
  /-- the quotients are not cut -/
  quotients : d.nominal.toNat = ⌊nominal.microsPerBit clock⌋₊ ∧ d.data.toNat = ⌊data.microsPerBit clock * 256⌋₊
  /-- neither product wraps, nor does their sum -/
  products : d.nominal.toNat * bits.nominal.toNat < 2 ^ 32 ∧ d.data.toNat * bits.data.toNat < 2 ^ 32
  sum : (d.frameTime bits).toNat = d.nominal.toNat * bits.nominal.toNat + d.data.toNat * bits.data.toNat / 256
  /-- it is never too long -/
  le : ((d.frameTime bits).toNat : ℚ) ≤ exactTime nominal data clock bits
  /-- and too short by less than a microsecond for each bit at the nominal rate, 1/256 for each at the data rate, and
  one more -/
  lt : exactTime nominal data clock bits <
    (d.frameTime bits).toNat + bits.nominal.toNat + bits.data.toNat / 256 + 1

/-- **Frame times.** Take two timings whose ticks fit their word, a clock that runs, and any number of bits at each
rate. If a bit at the nominal rate lasts less than `2 ^ 32` microseconds, one at the data rate less than `2 ^ 24` and so
do all of these together, and the frame takes less than `2 ^ 32`, then the durations can be computed, no word overflows
and no number is cut, and the time of the frame is right up to rounding. -/
theorem frameTime_within (hn : nominal.Fits) (hd : data.Fits) (running : 0 < clock) (bits : BitCounts)
    (bit : nominal.microsPerBit clock < 2 ^ 32) (dataBit : data.microsPerBit clock < 2 ^ 24)
    (dataBits : data.microsPerBit clock * bits.data.toNat < 2 ^ 24)
    (frame : exactTime nominal data clock bits < 2 ^ 32) :
    ∃ d, ofTimings nominal data clock = .ok d ∧ d.Approximates nominal data clock bits := by
  obtain ⟨d, built, hdn, hdd⟩ := exists_durations hn hd running
  have hp := nominal.microsPerBit_nonneg clock
  have hq := data.microsPerBit_nonneg clock
  obtain ⟨le, lt⟩ := rounded_sum hp hq bits.nominal.toNat bits.data.toNat
  have whole : d.nominal.toNat = ⌊nominal.microsPerBit clock⌋₊ := by
    rw [hdn, Nat.mod_eq_of_lt]
    exact (Nat.floor_lt hp).2 (by exact_mod_cast bit)
  have parts : d.data.toNat = ⌊data.microsPerBit clock * 256⌋₊ := by
    rw [hdd, Nat.mod_eq_of_lt]
    refine (Nat.floor_lt (by linarith)).2 ?_
    push_cast
    linarith
  rw [← whole, ← parts] at le lt
  have dataProduct : d.data.toNat * bits.data.toNat < 2 ^ 32 := by
    have rounded : (d.data.toNat : ℚ) ≤ data.microsPerBit clock * 256 := by
      rw [parts]
      exact Nat.floor_le (by linarith)
    have scaled := mul_le_mul_of_nonneg_right rounded (Nat.cast_nonneg (α := ℚ) bits.data.toNat)
    have small : (d.data.toNat : ℚ) * bits.data.toNat < 2 ^ 32 := by linarith
    exact_mod_cast small
  have total : d.nominal.toNat * bits.nominal.toNat + d.data.toNat * bits.data.toNat / 256 < 2 ^ 32 := by
    have small := le.trans_lt frame
    exact_mod_cast small
  have sum : (d.frameTime bits).toNat =
      d.nominal.toNat * bits.nominal.toNat + d.data.toNat * bits.data.toNat / 256 := by
    rw [toNat_frameTime, Nat.mod_eq_of_lt dataProduct, Nat.mod_eq_of_lt total]
  refine ⟨d, built, ?_, ⟨whole, parts⟩, ⟨by omega, dataProduct⟩, sum, ?_, ?_⟩
  · have ticks : nominal.ticksPerBit < 2 ^ 32 := hn
    have dataTicks : data.ticksPerBit < 2 ^ 32 := hd
    omega
  · rw [sum]
    exact le
  · rw [sum]
    exact lt

/-- Close to the bound: a bit that lasts just short of a microsecond counts as none, so of a frame that takes almost
58 microseconds 6 are left. -/
theorem frameTime_within_bound :
    let nominal : BitTiming := ⟨9, 1, 80, 30⟩
    let data : BitTiming := ⟨1, 1, 30, 8⟩
    let bits : BitCounts := ⟨50, 199⟩
    nominal.Fits ∧ data.Fits ∧ (0 : UInt32) < 1000000000 ∧ nominal.microsPerBit 1000000000 < 2 ^ 32 ∧
      data.microsPerBit 1000000000 < 2 ^ 24 ∧ data.microsPerBit 1000000000 * bits.data.toNat < 2 ^ 24 ∧
      exactTime nominal data 1000000000 bits = 57.711 ∧
      ∃ d, ofTimings nominal data 1000000000 = .ok d ∧ d.Approximates nominal data 1000000000 bits ∧
        (d.frameTime bits).toNat = 6 := by
  intro nominal data bits
  have ticks : nominal.ticksPerBit = 999 := rfl
  have dataTicks : data.ticksPerBit = 39 := rfl
  have hertz : (1000000000 : UInt32).toNat = 1000000000 := rfl
  have few : bits.nominal.toNat = 50 := rfl
  have many : bits.data.toNat = 199 := rfl
  have bit : nominal.microsPerBit 1000000000 = 0.999 := by
    rw [BitTiming.microsPerBit, ticks, hertz]
    norm_num
  have dataBit : data.microsPerBit 1000000000 = 0.039 := by
    rw [BitTiming.microsPerBit, dataTicks, hertz]
    norm_num
  have frame : exactTime nominal data 1000000000 bits = 57.711 := by
    rw [exactTime, bit, dataBit, few, many]
    norm_num
  have hn : nominal.Fits := by decide
  have hd : data.Fits := by decide
  have running : (0 : UInt32) < 1000000000 := by decide
  have shortBit : nominal.microsPerBit 1000000000 < 2 ^ 32 := by
    rw [bit]
    norm_num
  have shortDataBit : data.microsPerBit 1000000000 < 2 ^ 24 := by
    rw [dataBit]
    norm_num
  have shortData : data.microsPerBit 1000000000 * bits.data.toNat < 2 ^ 24 := by
    rw [dataBit, many]
    norm_num
  obtain ⟨d, built, approximates⟩ := frameTime_within hn hd running bits shortBit shortDataBit shortData
    (by rw [frame]; norm_num)
  refine ⟨hn, hd, running, shortBit, shortDataBit, shortData, frame, d, built, approximates, ?_⟩
  have computed : ofTimings nominal data 1000000000 = .ok ⟨0, 9⟩ := by decide
  cases built.symm.trans computed
  decide

end BitDurations

end CanAdapter
