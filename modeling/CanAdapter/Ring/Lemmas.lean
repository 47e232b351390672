/-
A ring is the bounded queue it stands for. Each operation on counters and slots does to `toQueue` what the queue's own
operation of the same name does, however often the counters have wrapped.

`toQueue_stage`, `toQueue_publish`, `toQueue_push`, `toQueue_consume`, `toQueue_pop`, `toQueue_clear`,
`toQueue_takeLost`: one equation for each operation. `peek_eq`: the consumer sees the head of the published items.
`length_toList`: `used` is their number.
-/
import CanAdapter.Ring.Queue

namespace CanAdapter

/-- counters closer together than the number of slots have different slots -/
theorem ringSlot_ne {k : Nat} (hk : k ≤ 15) {c d : UInt16} (hne : c ≠ d) (h : steps c d < 2 ^ k) :
    (ringSlot k c).val ≠ (ringSlot k d).val := by
  intro e
  have pos : 0 < steps c d := Nat.pos_of_ne_zero fun z => hne (steps_eq_zero_iff.1 z)
  have dvd : 2 ^ k ∣ 65536 := ⟨2 ^ (16 - k), by rw [← Nat.pow_add, Nat.add_sub_cancel' (by omega)]⟩
  have hd : d.toNat = (c.toNat + steps c d) % 65536 := by
    have := c.toNat_lt
    have := d.toNat_lt
    rw [steps_eq]
    omega
  simp only [ringSlot, hd, Nat.mod_mod_of_dvd _ dvd] at e
  have : (c.toNat + steps c d - c.toNat) % 2 ^ k = 0 := Nat.sub_mod_eq_zero_of_mod_eq e.symm
  rw [Nat.add_sub_cancel_left, Nat.mod_eq_of_lt h] at this
  omega

namespace Ring

variable {α : Type} {k : Nat}

/-! ## Runs of slots -/

theorem items_add (slots : Vector (Option α) (2 ^ k)) (c : UInt16) (m n : Nat) :
    items slots c (m + n) = items slots c m ++ items slots (c + UInt16.ofNat m) n := by
  induction m generalizing c with
  | zero => simp [items]
  | succ m ih =>
    have next : c + UInt16.ofNat (m + 1) = c + 1 + UInt16.ofNat m := by
      rw [UInt16.add_assoc, ← UInt16.ofNat_one, ← UInt16.ofNat_add, Nat.add_comm 1 m]
    rw [Nat.succ_add, items, items, ih, next, List.append_assoc]

/-- a slot outside a run may change -/
theorem items_set {slots : Vector (Option α) (2 ^ k)} {c d : UInt16} {n : Nat} {x : Option α}
    (h : ∀ e : UInt16, steps c e < n → (ringSlot k e).val ≠ (ringSlot k d).val) (hn : n < 65536) :
    items (slots.set (ringSlot k d) x) c n = items slots c n := by
  induction n generalizing c with
  | zero => rfl
  | succ n ih =>
    have here := h c (by simp)
    rw [items, items, ih (fun e he => ?_) (by omega)]
    · simp only [Fin.getElem_fin]
      rw [Vector.getElem_set_ne _ _ here.symm]
    · by_cases hz : steps c e = 0
      · exact steps_eq_zero_iff.1 hz ▸ here
      · have := steps_succ_left (Nat.pos_of_ne_zero hz)
        exact h e (by omega)

theorem length_items {slots : Vector (Option α) (2 ^ k)} {c : UInt16} {n : Nat}
    (h : ∀ e : UInt16, steps c e < n → (slots.get (ringSlot k e)).isSome = true) (hn : n < 65536) :
    (items slots c n).length = n := by
  induction n generalizing c with
  | zero => rfl
  | succ n ih =>
    obtain ⟨a, ha⟩ := Option.isSome_iff_exists.1 (h c (by simp))
    have here : slots[ringSlot k c] = some a := ha
    rw [items, List.length_append, ih (fun e he => ?_) (by omega), here]
    · simp [Nat.add_comm]
    · by_cases hz : steps c e = 0
      · rw [← steps_eq_zero_iff.1 hz, ha]
        rfl
      · have := steps_succ_left (Nat.pos_of_ne_zero hz)
        exact h e (by omega)

/-! ## Lengths -/

theorem used_lt (r : Ring α k) : r.used < 65536 := steps_lt ..

theorem used_add_staged (r : Ring α k) : r.used + steps r.put r.next = steps r.get r.next := by
  have := r.put_le
  rw [steps_sub r.put_le, used]
  omega

@[simp] theorem length_toList (r : Ring α k) : r.toList.length = r.used :=
  length_items (fun e he => r.live e (Nat.lt_of_lt_of_le he r.put_le)) r.used_lt

@[simp] theorem length_staged (r : Ring α k) : r.staged.length = steps r.put r.next := by
  refine length_items (fun e he => r.live e ?_) (steps_lt ..)
  have := r.used_add_staged
  have all := steps_lt r.get r.next
  by_cases hle : steps r.get r.put ≤ steps r.get e
  · have := steps_sub hle
    have := used r
    unfold used at *
    omega
  · unfold used at *
    omega

theorem used_le_capacity (r : Ring α k) : r.used ≤ 2 ^ k := Nat.le_trans r.put_le r.used_le

/-! ## Producing -/

theorem stage_of_room {r : Ring α k} {a : α} (h : steps r.get r.next < 2 ^ k) : (r.stage a).1 = true := by
  simp [stage, h]

theorem stage_of_full {r : Ring α k} {a : α} (h : ¬ steps r.get r.next < 2 ^ k) :
    r.stage a = (false, { r with lost := countUp r.lost }) := by
  simp [stage, h]

theorem toList_stage (r : Ring α k) (a : α) : (r.stage a).2.toList = r.toList := by
  by_cases h : steps r.get r.next < 2 ^ k
  · simp only [stage, h, ↓reduceDIte, toList, used]
    refine items_set (fun e he => ?_) r.used_lt
    have hput := r.put_le
    refine ringSlot_ne r.small (fun heq => ?_) ?_
    · rw [heq] at he
      omega
    · rw [steps_sub (a := r.get) (by omega)]
      omega
  · rw [stage_of_full h]
    rfl

theorem staged_stage {r : Ring α k} {a : α} (h : steps r.get r.next < 2 ^ k) :
    (r.stage a).2.staged = r.staged ++ [a] := by
  have hput := r.put_le
  have hpow := pow_le r.small
  have hsub := steps_sub r.put_le
  simp only [stage, h, ↓reduceDIte, staged]
  rw [steps_succ_right (by omega), items_add]
  have hn : r.put + UInt16.ofNat (steps r.put r.next) = r.next :=
    steps_inj (a := r.put) (steps_add _ (steps_lt ..))
  congr 1
  · refine items_set (fun e he => ?_) (steps_lt ..)
    refine ringSlot_ne r.small (fun heq => ?_) ?_
    · rw [heq] at he
      omega
    · rw [steps_sub (a := r.put) (by omega)]
      omega
  · rw [hn]
    simp [items]

theorem toQueue_stage (r : Ring α k) (a : α) :
    ((r.stage a).1, (r.stage a).2.toQueue) = r.toQueue.stage (2 ^ k) a := by
  have len : r.toList.length + r.staged.length = steps r.get r.next := by
    rw [length_toList, length_staged, used_add_staged]
  by_cases h : steps r.get r.next < 2 ^ k
  · have hlost : (r.stage a).2.lost = r.lost := by simp [stage, h]
    simp only [toQueue, Queue.stage, len, h, ↓reduceIte, stage_of_room h, toList_stage, staged_stage h, hlost]
  · rw [stage_of_full h]
    simp only [toQueue, Queue.stage, len, h, ↓reduceIte, toNat_countUp, Queue.maxLost]
    rfl

theorem toQueue_publish (r : Ring α k) : r.publish.toQueue = r.toQueue.publish := by
  have hn : r.get + UInt16.ofNat r.used = r.put := steps_inj (a := r.get) (steps_add _ r.used_lt)
  have all : r.publish.toList = r.toList ++ r.staged := by
    simp only [publish, toList, staged]
    rw [show used { r with put := r.next, put_le := Nat.le_refl _ } = r.used + steps r.put r.next from
      r.used_add_staged.symm, items_add, hn]
  have none : r.publish.staged = [] := by simp [publish, staged, items]
  simp only [toQueue, Queue.publish, all, none]
  rfl

theorem toQueue_push (r : Ring α k) (a : α) :
    ((r.push a).1, (r.push a).2.toQueue) = r.toQueue.push (2 ^ k) a := by
  have h := toQueue_stage r a
  rw [Prod.ext_iff] at h
  simp only [push, Queue.push, toQueue_publish, ← h.1, ← h.2]

/-! ## Consuming -/

theorem used_eq_zero_iff {r : Ring α k} : r.used = 0 ↔ r.put = r.get := by
  rw [used, steps_eq_zero_iff, eq_comm]

theorem peek_eq (r : Ring α k) : r.peek = r.toList.head? := by
  by_cases h : r.put = r.get
  · simp [peek, toList, h, used_eq_zero_iff.2 h, items]
  · obtain ⟨n, hn⟩ := Nat.exists_eq_succ_of_ne_zero fun z => h (used_eq_zero_iff.1 z)
    have live := r.live r.get (by
      have := r.put_le
      unfold used at hn
      simp
      omega)
    obtain ⟨a, ha⟩ := Option.isSome_iff_exists.1 live
    simp [peek, toList, h, hn, items, ha]

theorem toList_consume (r : Ring α k) : r.consume.toList = r.toList.tail := by
  by_cases h : r.put = r.get
  · simp [consume, h, toList, used_eq_zero_iff.2 h, items]
  · have pos : 0 < steps r.get r.put := Nat.pos_of_ne_zero fun z => h (steps_eq_zero_iff.1 z).symm
    have succ := steps_succ_left pos
    have live := r.live r.get (by
      have := r.put_le
      simp
      omega)
    obtain ⟨a, ha⟩ := Option.isSome_iff_exists.1 live
    simp only [consume, h, ↓reduceDIte, toList, used]
    rw [← succ, items, ha]
    rfl

theorem toQueue_consume (r : Ring α k) : r.consume.toQueue = r.toQueue.consume := by
  have staged : r.consume.staged = r.staged := by
    unfold consume
    split <;> rfl
  have lost : r.consume.lost = r.lost := by
    unfold consume
    split <;> rfl
  simp [toQueue, Queue.consume, toList_consume, staged, lost]

theorem toQueue_pop (r : Ring α k) : ((r.pop).1, (r.pop).2.toQueue) = r.toQueue.pop := by
  have hp := r.peek_eq
  unfold pop Queue.pop Queue.peek
  cases h : r.peek with
  | some a =>
    rw [h] at hp
    simp only [toQueue_consume]
    exact congrArg (·, r.toQueue.consume) hp
  | none =>
    rw [h] at hp
    have nil : r.toList = [] := List.head?_eq_none_iff.1 hp.symm
    simp [toQueue, Queue.consume, nil]

theorem toQueue_clear (r : Ring α k) : r.clear.toQueue = r.toQueue.clear := by
  have none : r.clear.toList = [] := by simp [clear, toList, used, items]
  simp only [toQueue, none, Queue.clear]
  rfl

theorem toQueue_takeLost (r : Ring α k) :
    (r.takeLost.1.toNat, r.takeLost.2.toQueue) = r.toQueue.takeLost := rfl

end Ring

end CanAdapter
