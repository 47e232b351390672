/-
How computations end. `Checked.Ends P F x` says with what result or by what fault a computation may end, and
`Checked.Succeeds P x` that it does not stop at all; both go through sequences and folds.

The arithmetic that could leave its word, and does not. `BitDurations.succeeds_ofTimings`: the durations of bits, if
their clock ticks fit; a timing that was moved into a range fits if the upper limits do (`TimingRange.fits_clamp`).
`BitDurations.succeeds_stampSent`: timestamps, because a frame has 596 bits at most at the nominal rate
(`BitCounts.nominal_le`).
-/
import CanAdapter.Timestamp

namespace CanAdapter

/-! ## How a computation ends -/

namespace Checked

variable {α β : Type} {P : α → Prop} {Q : β → Prop} {F : Fault → Prop} {x : Checked α}

/-- `P` holds of the result, or `F` of the fault that stops the computation -/
def Ends (P : α → Prop) (F : Fault → Prop) : Checked α → Prop
  | .ok a => P a
  | .error fault => F fault

theorem Ends.mono {Q : α → Prop} (h : Ends P F x) (weaker : ∀ a, P a → Q a) : Ends Q F x := by
  cases x with
  | ok a => exact weaker a h
  | error fault => exact h

theorem Ends.bind {f : α → Checked β} (h : Ends P F x) (next : ∀ a, P a → Ends Q F (f a)) : Ends Q F (x >>= f) := by
  cases x with
  | ok a => exact next a h
  | error fault => exact h

theorem Ends.map {f : α → β} (h : Ends P F x) (result : ∀ a, P a → Q (f a)) : Ends Q F (f <$> x) := by
  cases x with
  | ok a => exact result a h
  | error fault => exact h

/-- what every step of a fold keeps unless it stops, the fold keeps unless it stops -/
theorem ends_foldlM {f : β → α → Checked β} {as : List α} (step : ∀ a ∈ as, ∀ s, Q s → Ends Q F (f s a)) {s : β}
    (hs : Q s) : Ends Q F (as.foldlM f s) := by
  induction as generalizing s with
  | nil => exact hs
  | cons a as ih =>
    rw [List.foldlM_cons]
    refine (step a List.mem_cons_self s hs).bind ?_
    intro s₁ h₁
    exact ih (fun b hb => step b (List.mem_cons_of_mem _ hb)) h₁

/-- the computation stops nowhere, and `P` holds of its result -/
def Succeeds (P : α → Prop) (x : Checked α) : Prop := ∃ a, x = .ok a ∧ P a

theorem Ends.succeeds (h : Ends P F x) (never : ∀ fault, ¬F fault) : Succeeds P x := by
  cases x with
  | ok a => exact ⟨a, rfl, h⟩
  | error fault => exact absurd h (never fault)

theorem Succeeds.ends (h : Succeeds P x) : Ends P F x := by
  obtain ⟨a, rfl, ha⟩ := h
  exact ha

theorem Succeeds.of_ok {a : α} (h : P a) : Succeeds P (.ok a) := ⟨a, rfl, h⟩

theorem Succeeds.bind {f : α → Checked β} (h : Succeeds P x) (next : ∀ a, P a → Succeeds Q (f a)) :
    Succeeds Q (x >>= f) := by
  obtain ⟨a, rfl, ha⟩ := h
  exact next a ha

theorem Succeeds.map {f : α → β} (h : Succeeds P x) (result : ∀ a, P a → Q (f a)) : Succeeds Q (f <$> x) := by
  obtain ⟨a, rfl, ha⟩ := h
  exact ⟨f a, rfl, result a ha⟩

/-- what every step of a fold keeps while it succeeds, the fold keeps, and it succeeds -/
theorem succeeds_foldlM {f : β → α → Checked β} {as : List α} (step : ∀ a ∈ as, ∀ s, Q s → Succeeds Q (f s a)) {s : β}
    (hs : Q s) : Succeeds Q (as.foldlM f s) := by
  have ends : Ends Q (fun _ => False) (as.foldlM f s) := by
    refine ends_foldlM ?_ hs
    intro a ha s hs
    exact (step a ha s hs).ends
  exact ends.succeeds fun _ => id

theorem succeeds_mapM {f : α → Checked α} {as : List α} (step : ∀ a ∈ as, Succeeds P (f a)) :
    Succeeds (fun bs => ∀ b ∈ bs, P b) (as.mapM f) := by
  induction as with
  | nil => exact .of_ok nofun
  | cons a as ih =>
    rw [List.mapM_cons]
    refine (step a List.mem_cons_self).bind ?_
    intro b hb
    refine (ih fun c hc => step c (List.mem_cons_of_mem _ hc)).bind ?_
    intro bs hbs
    refine .of_ok ?_
    intro c hc
    rcases List.mem_cons.1 hc with rfl | hc
    · exact hb
    · exact hbs c hc

end Checked

open Checked

/-! ## Bit timing -/

namespace BitTiming

/-- the clock ticks of a bit fit their word -/
def Fits (t : BitTiming) : Prop := t.brp.toNat * (1 + t.tseg1.toNat + t.tseg2.toNat) < 2 ^ 32

instance (t : BitTiming) : Decidable t.Fits := inferInstanceAs (Decidable (_ < _))

theorem toNat_quanta (t : BitTiming) : t.quanta.toNat = 1 + t.tseg1.toNat + t.tseg2.toNat := by
  have long := t.tseg1.toNat_lt
  have short := t.tseg2.toNat_lt
  simp only [quanta, UInt32.toNat_add, UInt16.toNat_toUInt32, UInt8.toNat_toUInt32, UInt32.toNat_one]
  omega

theorem succeeds_ticks {t : BitTiming} (h : t.Fits) : Succeeds (fun _ => True) t.ticks := by
  refine ⟨_, mul32_eq_ok ?_, trivial⟩
  rwa [toNat_quanta, UInt16.toNat_toUInt32]

end BitTiming

theorem BitDurations.succeeds_ofTimings {nominal data : BitTiming} (hn : nominal.Fits) (hd : data.Fits)
    (clock : UInt32) : Succeeds (fun _ => True) (ofTimings nominal data clock) := by
  have micros : Succeeds (fun _ => True) (nominal.micros clock) := by
    unfold BitTiming.micros
    split
    · exact .of_ok trivial
    · exact (BitTiming.succeeds_ticks hn).bind fun _ _ => .of_ok trivial
  have micros256 : Succeeds (fun _ => True) (data.micros256 clock) := by
    unfold BitTiming.micros256
    split
    · exact .of_ok trivial
    · exact (BitTiming.succeeds_ticks hd).bind fun _ _ => .of_ok trivial
  exact micros.bind fun _ _ => micros256.bind fun _ _ => .of_ok trivial

/-- the upper limit holds also where the limits cross -/
theorem limit_le {α : Type} [LE α] [DecidableLE α] [Std.IsLinearOrder α] (lo hi x : α) : limit lo hi x ≤ hi := by
  grind [limit]

/-- no field of a limited timing is above the range, so the ticks are not either -/
theorem TimingRange.fits_clamp {r : TimingRange} (h : r.max.Fits) (t : BitTiming) : (r.clamp t).Fits := by
  have brp : (r.clamp t).brp.toNat ≤ r.max.brp.toNat := UInt16.le_iff_toNat_le.1 (limit_le _ _ _)
  have tseg1 : (r.clamp t).tseg1.toNat ≤ r.max.tseg1.toNat := UInt16.le_iff_toNat_le.1 (limit_le _ _ _)
  have tseg2 : (r.clamp t).tseg2.toNat ≤ r.max.tseg2.toNat := UInt8.le_iff_toNat_le.1 (limit_le _ _ _)
  calc (r.clamp t).brp.toNat * (1 + (r.clamp t).tseg1.toNat + (r.clamp t).tseg2.toNat)
      ≤ r.max.brp.toNat * (1 + r.max.tseg1.toNat + r.max.tseg2.toNat) := Nat.mul_le_mul brp (by omega)
    _ < 2 ^ 32 := h

/-! ## Timestamps -/

/-- most bits of a frame at the nominal rate: an extended FD frame with 64 bytes that does not switch its rate -/
def BitCounts.longest : Nat := 596

theorem BitCounts.nominal_le (flags : FrameFlags) (dlc : UInt8) : (ofFormat flags dlc).nominal.toNat ≤ longest := by
  have payload := dlcLength_le dlc
  unfold ofFormat longest
  unfold maxPayload at payload
  simp only [fdArbitration, fdChecksum, classicHeader, tail]
  repeat' split
  all_goals simp [UInt32.toNat_add, UInt32.toNat_ofNat']
  all_goals omega

namespace BitDurations

variable {α : Type} [Timestamped α] {d : BitDurations} {extra : UInt32}

theorem succeeds_stamp (small : extra.toNat + BitCounts.longest < 2 ^ 32) (tsc : UInt32) (batch : List α) :
    Succeeds (fun _ => True) (d.stamp extra tsc batch) := by
  have stamped : Succeeds (fun _ => True) (d.stampFrom extra tsc batch) := by
    induction batch with
    | nil => exact .of_ok trivial
    | cons a as ih =>
      have bits := BitCounts.nominal_le (Timestamped.flags a) (Timestamped.dlc a)
      have time : Succeeds (fun _ => True) (d.entryTime extra a) := by
        refine .bind (P := fun _ => True) ⟨_, add32_eq_ok (by omega), trivial⟩ ?_
        intro _ _
        exact .of_ok trivial
      exact ih.bind fun _ _ => time.bind fun _ _ => .of_ok trivial
  exact stamped.bind fun _ _ => .of_ok trivial

theorem succeeds_stampReceived (tsc : UInt32) (frames : List Frame) :
    Succeeds (fun _ => True) (d.stampReceived tsc frames) :=
  succeeds_stamp (by decide) tsc frames

theorem succeeds_stampSent {compensation : UInt32} (small : 2 * compensation.toNat + BitCounts.longest < 2 ^ 32)
    (tsc : UInt32) (events : List TxEvent) : Succeeds (fun _ => True) (d.stampSent tsc compensation events) := by
  have twice : (2 : UInt32).toNat = 2 := rfl
  have room : compensation.toNat * (2 : UInt32).toNat < 2 ^ 32 := by
    rw [twice]
    omega
  have doubled : (compensation * 2).toNat = 2 * compensation.toNat := by
    rw [UInt32.toNat_mul, twice]
    omega
  refine .bind (P := fun extra => extra.toNat = 2 * compensation.toNat) ⟨_, mul32_eq_ok room, doubled⟩ ?_
  intro extra hx
  exact succeeds_stamp (by omega) tsc events

end BitDurations

end CanAdapter
