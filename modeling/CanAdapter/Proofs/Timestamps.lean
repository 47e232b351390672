/-
The timestamps of a batch in closed form. An entry is as old as the entries after it take on the wire together, so
its timestamp is the counter at the time of draining less the sum of those times, modulo the word.

`wireTime d extra a` is the time of one entry and `busTime d extra batch` the exact sum over a batch; `Overruns extra a`
says that the extra bits do not fit into the bit count. `stampFrom_eq` and `stampFrom_overruns` say what the walk over
the batch comes to in the two cases, `stamped` is its result. From there everything is about `stamped`: its entries
(`getElem?_stamped`), stamping twice (`stamped_stamped`), stamping in two parts (`stamped_append`), and the order of
the timestamps (`ages_stamped`).
-/
import CanAdapter.Proofs.Success

namespace CanAdapter

open Timestamped

/-- the timestamp of an entry is a field of its own, and nothing else in the entry depends on it -/
class TimestampField (α : Type) [Timestamped α] where
  timestamp : α → UInt32
  timestamp_withTimestamp (a : α) (t : UInt32) : timestamp (withTimestamp a t) = t
  flags_withTimestamp (a : α) (t : UInt32) : flags (withTimestamp a t) = flags a
  dlc_withTimestamp (a : α) (t : UInt32) : dlc (withTimestamp a t) = dlc a
  withTimestamp_withTimestamp (a : α) (t t' : UInt32) : withTimestamp (withTimestamp a t) t' = withTimestamp a t'
  withTimestamp_timestamp (a : α) : withTimestamp a (timestamp a) = a

instance : TimestampField Frame where
  timestamp := Frame.timestamp
  timestamp_withTimestamp _ _ := rfl
  flags_withTimestamp _ _ := rfl
  dlc_withTimestamp _ _ := rfl
  withTimestamp_withTimestamp _ _ _ := rfl
  withTimestamp_timestamp _ := rfl

instance : TimestampField TxEvent where
  timestamp := TxEvent.timestamp
  timestamp_withTimestamp _ _ := rfl
  flags_withTimestamp _ _ := rfl
  dlc_withTimestamp _ _ := rfl
  withTimestamp_withTimestamp _ _ _ := rfl
  withTimestamp_timestamp _ := rfl

attribute [simp] TimestampField.timestamp_withTimestamp TimestampField.flags_withTimestamp
  TimestampField.dlc_withTimestamp TimestampField.withTimestamp_withTimestamp TimestampField.withTimestamp_timestamp

namespace BitDurations

section

variable {α : Type} [Timestamped α] {d : BitDurations} {extra tsc : UInt32}

/-- the bits of an entry at the nominal rate and the extra bits leave the word together -/
def Overruns (extra : UInt32) (a : α) : Prop :=
  2 ^ 32 ≤ (BitCounts.ofFormat (flags a) (dlc a)).nominal.toNat + extra.toNat

instance (extra : UInt32) (a : α) : Decidable (Overruns extra a) := inferInstanceAs (Decidable (_ ≤ _))

/-- time on the wire of an entry whose bits fit their word -/
def wireTime (d : BitDurations) (extra : UInt32) (a : α) : UInt32 :=
  let bits := BitCounts.ofFormat (flags a) (dlc a)
  d.frameTime { bits with nominal := bits.nominal + extra }

/-- how long the entries of a batch take together, exactly -/
def busTime (d : BitDurations) (extra : UInt32) : List α → Nat
  | [] => 0
  | a :: as => (d.wireTime extra a).toNat + d.busTime extra as

/-- the counter before so many microseconds, modulo the word -/
def before (tsc : UInt32) (micros : Nat) : UInt32 := tsc - UInt32.ofNat micros

/-- a batch, oldest first, with every entry as old as those after it take -/
def stamped (d : BitDurations) (extra tsc : UInt32) : List α → List α
  | [] => []
  | a :: as => withTimestamp a (before tsc (d.busTime extra as)) :: d.stamped extra tsc as

/-! ## The walk over a batch -/

@[simp] theorem busTime_nil : d.busTime extra ([] : List α) = 0 := rfl

@[simp] theorem busTime_cons (a : α) (as : List α) :
    d.busTime extra (a :: as) = (d.wireTime extra a).toNat + d.busTime extra as := rfl

theorem busTime_append (as bs : List α) : d.busTime extra (as ++ bs) = d.busTime extra as + d.busTime extra bs := by
  induction as with
  | nil => simp
  | cons a as ih => simp [ih, Nat.add_assoc]

theorem busTime_tail_le (as : List α) : d.busTime extra as.tail ≤ d.busTime extra as := by
  cases as with
  | nil => exact Nat.le_refl _
  | cons a as => simp

@[simp] theorem before_zero : before tsc 0 = tsc := by simp [before]

theorem before_before (m n : Nat) : before (before tsc m) n = before tsc (m + n) := by
  simp only [before, UInt32.ofNat_add]
  grind

theorem before_wireTime (a : α) (n : Nat) :
    before tsc n - d.wireTime extra a = before tsc ((d.wireTime extra a).toNat + n) := by
  rw [Nat.add_comm, ← before_before]
  simp [before]

theorem entryTime_eq {a : α} (fits : ¬Overruns extra a) : d.entryTime extra a = .ok (d.wireTime extra a) := by
  simp only [entryTime, Checked.add32_eq_ok (Nat.lt_of_not_le fits)]
  rfl

theorem entryTime_overruns {a : α} (overruns : Overruns extra a) : d.entryTime extra a = .error .addOverflow := by
  simp only [entryTime, Checked.add32, if_neg (Nat.not_lt_of_le overruns)]
  rfl

/-- the walk comes to its end if every count fits, and hands on the timestamp of whatever came before the batch -/
theorem stampFrom_eq {batch : List α} (fits : ∀ a ∈ batch, ¬Overruns extra a) :
    d.stampFrom extra tsc batch = .ok (d.stamped extra tsc batch, before tsc (d.busTime extra batch)) := by
  induction batch with
  | nil => simp [stampFrom, stamped]
  | cons a as ih =>
    have later := ih fun b hb => fits b (List.mem_cons_of_mem _ hb)
    have time := entryTime_eq (d := d) (fits a List.mem_cons_self)
    simp [stampFrom, stamped, later, time, bind, Except.bind, pure, Except.pure, before_wireTime]

/-- one count that does not fit stops it, wherever it stands -/
theorem stampFrom_overruns {batch : List α} (overruns : ∃ a ∈ batch, Overruns extra a) :
    d.stampFrom extra tsc batch = .error .addOverflow := by
  induction batch with
  | nil => simp at overruns
  | cons a as ih =>
    rw [stampFrom]
    by_cases later : ∃ b ∈ as, Overruns extra b
    · rw [ih later]
      rfl
    · have fits : ∀ b ∈ as, ¬Overruns extra b := by simpa using later
      have own : Overruns extra a := by simpa [later] using overruns
      rw [stampFrom_eq fits]
      simp [entryTime_overruns own, bind, Except.bind]

theorem stamp_eq {batch : List α} (fits : ∀ a ∈ batch, ¬Overruns extra a) :
    d.stamp extra tsc batch = .ok (d.stamped extra tsc batch) := by
  rw [stamp, stampFrom_eq fits]
  rfl

theorem stamp_eq_error {batch : List α} {f : Fault} :
    d.stamp extra tsc batch = .error f ↔ f = .addOverflow ∧ ∃ a ∈ batch, Overruns extra a := by
  by_cases overruns : ∃ a ∈ batch, Overruns extra a
  · rw [stamp, stampFrom_overruns overruns]
    simpa [bind, Except.bind, overruns] using eq_comm
  · have fits : ∀ a ∈ batch, ¬Overruns extra a := by simpa using overruns
    simp [stamp_eq fits, overruns]

/-- no frame has so many bits that a count without extra bits leaves the word -/
theorem not_overruns_zero (a : α) : ¬Overruns 0 a := by
  have bits := BitCounts.nominal_le (flags a) (dlc a)
  simp only [Overruns, UInt32.toNat_zero, BitCounts.longest] at *
  omega

/-! ## The stamped batch -/

@[simp] theorem length_stamped (batch : List α) : (d.stamped extra tsc batch).length = batch.length := by
  induction batch with
  | nil => rfl
  | cons a as ih => simp [stamped, ih]

theorem getElem?_stamped (batch : List α) (i : Nat) :
    (d.stamped extra tsc batch)[i]? =
      batch[i]?.map fun a => withTimestamp a (before tsc (d.busTime extra (batch.drop (i + 1)))) := by
  induction batch generalizing i with
  | nil => simp [stamped]
  | cons a as ih =>
    cases i with
    | zero => simp [stamped]
    | succ i => simpa [stamped] using ih i

/-- the older part is stamped as if it had been drained when the younger one started -/
theorem stamped_append (as bs : List α) :
    d.stamped extra tsc (as ++ bs) =
      d.stamped extra (before tsc (d.busTime extra bs)) as ++ d.stamped extra tsc bs := by
  induction as with
  | nil => rfl
  | cons a as ih =>
    rw [List.cons_append, stamped, stamped, ih, busTime_append, before_before, Nat.add_comm]
    rfl

theorem toNat_before (n : Nat) : ((before tsc n).toNat : Int) = ((tsc.toNat : Int) - n) % 2 ^ 32 := by
  have small := tsc.toNat_lt
  rw [before, UInt32.toNat_sub, UInt32.toNat_ofNat']
  omega

/-- the age of a timestamp is how far it lies back, modulo the word -/
theorem toNat_sub_before {n : Nat} (h : n < 2 ^ 32) : (tsc - before tsc n).toNat = n := by
  have back : tsc - before tsc n = UInt32.ofNat n := by grind [before]
  rw [back, UInt32.toNat_ofNat', Nat.mod_eq_of_lt h]

end

variable {α : Type} [Timestamped α] [TimestampField α] {d : BitDurations} {extra tsc : UInt32}

open TimestampField

/-- the time on the wire does not depend on the timestamp -/
@[simp] theorem wireTime_withTimestamp (a : α) (t : UInt32) :
    d.wireTime extra (withTimestamp a t) = d.wireTime extra a := by simp [wireTime]

@[simp] theorem overruns_withTimestamp (a : α) (t : UInt32) :
    Overruns extra (withTimestamp a t) ↔ Overruns extra a := by simp [Overruns]

@[simp] theorem busTime_stamped (batch : List α) :
    d.busTime extra (d.stamped extra tsc batch) = d.busTime extra batch := by
  induction batch with
  | nil => rfl
  | cons a as ih => simp [stamped, ih]

theorem stamped_stamped (batch : List α) :
    d.stamped extra tsc (d.stamped extra tsc batch) = d.stamped extra tsc batch := by
  induction batch with
  | nil => rfl
  | cons a as ih => simp [stamped, ih]

theorem overruns_stamped {batch : List α} (fits : ∀ a ∈ batch, ¬Overruns extra a) :
    ∀ a ∈ d.stamped extra tsc batch, ¬Overruns extra a := by
  induction batch with
  | nil => simp [stamped]
  | cons a as ih =>
    obtain ⟨own, later⟩ := List.forall_mem_cons.1 fits
    exact List.forall_mem_cons.2 ⟨by simpa using own, ih later⟩

/-- as long as the counter does not come round, no entry of a batch is older than those after the first take, and none
is younger than one after it -/
theorem ages_stamped {batch : List α} (h : d.busTime extra batch.tail < 2 ^ 32) :
    (∀ a ∈ d.stamped extra tsc batch, (tsc - timestamp a).toNat ≤ d.busTime extra batch.tail) ∧
      (d.stamped extra tsc batch).Pairwise fun older younger =>
        tsc - timestamp younger ≤ tsc - timestamp older := by
  induction batch with
  | nil => exact ⟨nofun, .nil⟩
  | cons a as ih =>
    have shorter : d.busTime extra as.tail ≤ d.busTime extra as := busTime_tail_le as
    obtain ⟨young, ordered⟩ := ih (Nat.lt_of_le_of_lt shorter h)
    have first : (tsc - before tsc (d.busTime extra as)).toNat = d.busTime extra as := toNat_sub_before h
    refine ⟨List.forall_mem_cons.2 ⟨?_, ?_⟩, .cons ?_ ordered⟩
    · rw [timestamp_withTimestamp, first]
      exact Nat.le_refl _
    · intro b hb
      exact Nat.le_trans (young b hb) shorter
    · intro b hb
      rw [UInt32.le_iff_toNat_le, timestamp_withTimestamp, first]
      exact Nat.le_trans (young b hb) shorter

/-- what stamping makes of a batch -/
structure Reconstructs (d : BitDurations) (extra tsc : UInt32) (batch out : List α) : Prop where
  length : out.length = batch.length
  /-- an entry is as old as the entries after it take, and nothing but its timestamp is new -/
  entry : ∀ i (h : i < batch.length), ∃ t, out[i]? = some (withTimestamp batch[i] t) ∧
    (t.toNat : Int) = ((tsc.toNat : Int) - d.busTime extra (batch.drop (i + 1))) % 2 ^ 32
  /-- stamping it once more changes nothing -/
  again : d.stamp extra tsc out = .ok out
  /-- it may be stamped in two parts, the older one as drained at the start of the younger -/
  parts : ∀ as bs, batch = as ++ bs → ∃ older younger, out = older ++ younger ∧ d.stamp extra tsc bs = .ok younger ∧
    ∀ t : UInt32, (t.toNat : Int) = ((tsc.toNat : Int) - d.busTime extra bs) % 2 ^ 32 → d.stamp extra t as = .ok older
  /-- unless the counter comes round within the batch, no entry is younger than one after it -/
  ordered : d.busTime extra batch.tail < 2 ^ 32 →
    out.Pairwise fun older younger => tsc - timestamp younger ≤ tsc - timestamp older

theorem reconstructs_stamped {batch : List α} (fits : ∀ a ∈ batch, ¬Overruns extra a) :
    d.Reconstructs extra tsc batch (d.stamped extra tsc batch) where
  length := length_stamped batch
  entry i h := ⟨_, by rw [getElem?_stamped, List.getElem?_eq_getElem h]; rfl, toNat_before _⟩
  again := by rw [stamp_eq (overruns_stamped fits), stamped_stamped]
  parts as bs parts := by
    subst parts
    obtain ⟨older, younger⟩ := List.forall_mem_append.1 fits
    refine ⟨_, _, stamped_append as bs, stamp_eq younger, ?_⟩
    intro t ht
    have same : t = before tsc (d.busTime extra bs) := by
      apply UInt32.toNat.inj
      rw [← toNat_before] at ht
      exact Int.ofNat_inj.1 ht
    rw [same, stamp_eq older]
  ordered h := (ages_stamped h).2

/-! ## Received frames and transmit events -/

theorem stampSent_overflow {compensation : UInt32} (wide : 2 ^ 32 ≤ 2 * compensation.toNat) (events : List TxEvent) :
    d.stampSent tsc compensation events = .error .mulOverflow := by
  have twice : (2 : UInt32).toNat = 2 := rfl
  simp only [stampSent, Checked.mul32, twice, Nat.mul_comm compensation.toNat, if_neg (Nat.not_lt_of_le wide)]
  rfl

theorem stampSent_eq {compensation : UInt32} (narrow : 2 * compensation.toNat < 2 ^ 32) (events : List TxEvent) :
    d.stampSent tsc compensation events = d.stamp (compensation * 2) tsc events := by
  have twice : (2 : UInt32).toNat = 2 := rfl
  rw [stampSent, Checked.mul32_eq_ok (by rwa [twice, Nat.mul_comm])]
  rfl

/-- **Timestamps in closed form.** Stamping a batch stops only for an entry whose bits and the extra bits leave the
word, and always for such a one. Otherwise every entry gets the counter less the time of the entries after it, modulo
the word, and nothing else changes; stamping once more changes nothing, a batch may be stamped in two parts, and
timestamps never go back in arrival order unless the counter comes round within the batch. Received frames never stop
it; transmit events also do if their compensation cannot be doubled. -/
theorem timestamps_reconstructed (d : BitDurations) (tsc : UInt32) :
    (∀ (α : Type) [Timestamped α] [TimestampField α] (extra : UInt32) (batch : List α),
      (∀ f, d.stamp extra tsc batch = .error f ↔ f = .addOverflow ∧ ∃ a ∈ batch, Overruns extra a) ∧
      ((∀ a ∈ batch, ¬Overruns extra a) →
        ∃ out, d.stamp extra tsc batch = .ok out ∧ d.Reconstructs extra tsc batch out)) ∧
    (∀ frames, ∃ out, d.stampReceived tsc frames = .ok out ∧ d.Reconstructs 0 tsc frames out) ∧
    ∀ (compensation : UInt32) (events : List TxEvent),
      (∀ f, d.stampSent tsc compensation events = .error f ↔
        (f = .mulOverflow ∧ 2 ^ 32 ≤ 2 * compensation.toNat) ∨
        (f = .addOverflow ∧ 2 * compensation.toNat < 2 ^ 32 ∧ ∃ e ∈ events, Overruns (compensation * 2) e)) ∧
      (2 * compensation.toNat < 2 ^ 32 → (∀ e ∈ events, ¬Overruns (compensation * 2) e) →
        ∃ out, d.stampSent tsc compensation events = .ok out ∧
          d.Reconstructs (compensation * 2) tsc events out) := by
  refine ⟨?_, ?_, ?_⟩
  · intro α _ _ extra batch
    exact ⟨fun f => stamp_eq_error, fun fits => ⟨_, stamp_eq fits, reconstructs_stamped fits⟩⟩
  · intro frames
    have fits : ∀ f ∈ frames, ¬Overruns 0 f := fun f _ => not_overruns_zero f
    exact ⟨_, stamp_eq fits, reconstructs_stamped fits⟩
  · intro compensation events
    refine ⟨fun f => ?_, ?_⟩
    · rcases Nat.lt_or_ge (2 * compensation.toNat) (2 ^ 32) with narrow | wide
      · rw [stampSent_eq narrow, stamp_eq_error]
        simp [narrow, Nat.not_le_of_lt narrow]
      · rw [stampSent_overflow wide]
        simpa [wide, Nat.not_lt_of_le wide] using eq_comm
    · intro narrow fits
      exact ⟨_, (stampSent_eq narrow events).trans (stamp_eq fits), reconstructs_stamped fits⟩

/-- a batch of three formats that was drained soon after the counter came round: its timestamps lie on both sides -/
theorem timestamps_reconstructed_mixed :
    let batch : List TxEvent := [⟨1, .empty, 8, 7⟩, ⟨2, ⟨0x0e⟩, 15, 7⟩, ⟨3, .rtr, 8, 7⟩]
    ∃ out, stampSent ⟨2, 256⟩ 700 5 batch = .ok out ∧ Reconstructs ⟨2, 256⟩ (5 * 2) 700 batch out ∧
      out.map (·.timestamp) = [4294967220, 588, 700] := by
  intro batch
  obtain ⟨out, run, result⟩ := ((timestamps_reconstructed ⟨2, 256⟩ 700).2.2 5 batch).2 (by decide) (by decide)
  have times : Checked.passes (fun out => out.map TxEvent.timestamp == [4294967220, 588, 700])
      (stampSent ⟨2, 256⟩ 700 5 batch) = true := by decide
  rw [run] at times
  exact ⟨out, run, result, beq_iff_eq.1 times⟩

end BitDurations

end CanAdapter
