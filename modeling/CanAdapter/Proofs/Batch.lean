/-
What a ring holds after a batch. A batch into a ring whose last batch is closed adds the oldest of its items, as many as
there are free slots, and refuses the rest.

`toList_pushAll`, `fst_pushAll`: the items that a batch adds, and their number. `room_pushAll`: the free slots after it,
so that several batches add what one batch of all their items would. `lost_pushAll`: the items that a batch loses are
counted. `toList_push`, `fst_push`: a batch of one.
-/
import CanAdapter.Ring.Lemmas

namespace CanAdapter.Ring

variable {α : Type} {k : Nat} {r : Ring α k}

/-- no item is staged -/
def Closed (r : Ring α k) : Prop := r.staged = []

/-- free slots -/
def room (r : Ring α k) : Nat := 2 ^ k - (r.toList.length + r.staged.length)

theorem closed_empty (small : k ≤ 15) : (Ring.empty α k small).Closed := by
  simp [Closed, staged, empty, items]

theorem toList_empty (small : k ≤ 15) : (Ring.empty α k small).toList = [] := by
  simp [toList, used, empty, items]

theorem length_add_staged (r : Ring α k) : r.toList.length + r.staged.length = steps r.get r.next := by
  rw [length_toList, length_staged, used_add_staged]

/-! ## Consuming -/

/-- from `r` to `r'` the oldest items `as` were taken, and nothing else happened to the published or staged items -/
def Releases (as : List α) (r r' : Ring α k) : Prop := r.toList = as ++ r'.toList ∧ r'.staged = r.staged

theorem Releases.refl (r : Ring α k) : Releases [] r r := ⟨rfl, rfl⟩

theorem Releases.trans {as bs : List α} {r' r'' : Ring α k} (h : Releases as r r') (h' : Releases bs r' r'') :
    Releases (as ++ bs) r r'' :=
  ⟨by rw [h.1, h'.1, List.append_assoc], h'.2.trans h.2⟩

theorem Releases.used {a : α} {r' : Ring α k} (h : Releases [a] r r') : r.used = r'.used + 1 := by
  rw [← length_toList, ← length_toList, h.1, List.length_append, List.length_singleton, Nat.add_comm]

theorem used_of_toList (h : r.toList = []) : r.used = 0 := by
  rw [← length_toList, h, List.length_nil]

theorem toList_of_used (h : r.used = 0) : r.toList = [] := by
  rwa [← List.length_eq_zero_iff, length_toList]

theorem staged_consume (r : Ring α k) : r.consume.staged = r.staged :=
  congrArg Queue.staged r.toQueue_consume

theorem lost_consume (r : Ring α k) : r.consume.lost = r.lost := by
  unfold consume
  split <;> rfl

theorem peek_cases (r : Ring α k) :
    (r.peek = none ∧ r.toList = []) ∨ ∃ a, r.peek = some a ∧ Releases [a] r r.consume := by
  rw [peek_eq]
  cases h : r.toList with
  | nil => exact .inl ⟨rfl, rfl⟩
  | cons a as => exact .inr ⟨a, rfl, by rw [toList_consume, h]; rfl, r.staged_consume⟩

theorem pop_cases (r : Ring α k) :
    (r.pop = (none, r) ∧ r.toList = []) ∨ ∃ a, r.pop = (some a, r.consume) ∧ Releases [a] r r.consume := by
  unfold pop
  rcases r.peek_cases with ⟨none, empty⟩ | ⟨a, some, took⟩
  · exact .inl ⟨by rw [none], empty⟩
  · exact .inr ⟨a, by rw [some], took⟩

theorem toList_clear (r : Ring α k) : r.clear.toList = [] := congrArg Queue.published r.toQueue_clear

theorem staged_clear (r : Ring α k) : r.clear.staged = r.staged := congrArg Queue.staged r.toQueue_clear

/-! ## Producing -/

/-- from `r` to `r'` the items `as` were published, and nothing else happened to the published or staged items -/
def Gains (as : List α) (r r' : Ring α k) : Prop := r'.toList = r.toList ++ as ∧ r'.staged = r.staged

theorem Gains.refl (r : Ring α k) : Gains [] r r := ⟨(List.append_nil _).symm, rfl⟩

theorem staged_stage_of_full {a : α} (h : r.room = 0) : (r.stage a).2.staged = r.staged := by
  have full : ¬ steps r.get r.next < 2 ^ k := by
    rw [← length_add_staged]
    unfold room at h
    omega
  rw [stage_of_full full]
  rfl

theorem staged_stage_of_room {a : α} (h : 0 < r.room) : (r.stage a).2.staged = r.staged ++ [a] := by
  refine staged_stage ?_
  rw [← length_add_staged]
  unfold room at h
  omega

theorem fst_stage (r : Ring α k) (a : α) : (r.stage a).1 = decide (0 < r.room) := by
  have len := r.length_add_staged
  by_cases free : steps r.get r.next < 2 ^ k
  · rw [stage_of_room free, eq_comm, decide_eq_true_iff]
    unfold room
    omega
  · rw [stage_of_full free, eq_comm, decide_eq_false_iff_not]
    unfold room
    omega

theorem room_stage (r : Ring α k) (a : α) : (r.stage a).2.room = r.room - 1 := by
  by_cases free : 0 < r.room
  · simp only [room, toList_stage, staged_stage_of_room free, List.length_append, List.length_singleton]
    omega
  · have full : r.room = 0 := by omega
    simp only [room, toList_stage, staged_stage_of_full full] at full ⊢
    omega

theorem toList_stageAll (as : List α) (r : Ring α k) : (r.stageAll as).2.toList = r.toList := by
  induction as generalizing r with
  | nil => rfl
  | cons a as ih => simp only [stageAll, ih, toList_stage]

theorem staged_stageAll (as : List α) (r : Ring α k) : (r.stageAll as).2.staged = r.staged ++ as.take r.room := by
  induction as generalizing r with
  | nil => simp [stageAll]
  | cons a as ih =>
    simp only [stageAll, ih, room_stage]
    by_cases free : 0 < r.room
    · obtain ⟨n, hn⟩ := Nat.exists_eq_succ_of_ne_zero (Nat.ne_of_gt free)
      rw [staged_stage_of_room free, hn, List.take_succ_cons, List.append_assoc]
      rfl
    · have full : r.room = 0 := by omega
      rw [staged_stage_of_full full, full]
      simp

theorem fst_stageAll (as : List α) (r : Ring α k) : (r.stageAll as).1 = min as.length r.room := by
  induction as generalizing r with
  | nil => simp [stageAll]
  | cons a as ih =>
    simp only [stageAll, ih, room_stage, fst_stage, decide_eq_true_eq, List.length_cons]
    split <;> omega

theorem lost_stage (r : Ring α k) (a : α) :
    (r.stage a).2.lost.toNat = min (r.lost.toNat + (1 - r.room)) Queue.maxLost := by
  have lost : (r.stage a).2.lost.toNat = _ := congrArg (·.2.lost) (r.toQueue_stage a)
  have bound := r.lost.toNat_lt
  unfold Queue.stage toQueue at lost
  rw [lost]
  by_cases free : r.toList.length + r.staged.length < 2 ^ k
  · rw [if_pos free]
    simp only [room, Queue.maxLost]
    omega
  · rw [if_neg free]
    simp only [room, Queue.maxLost]
    omega

/-- each item that finds no room is counted, up to the largest count -/
theorem lost_stageAll (as : List α) (r : Ring α k) :
    (r.stageAll as).2.lost.toNat = min (r.lost.toNat + (as.length - r.room)) Queue.maxLost := by
  induction as generalizing r with
  | nil =>
    have bound := r.lost.toNat_lt
    simp only [stageAll, List.length_nil, Nat.zero_sub, Nat.add_zero, Queue.maxLost]
    omega
  | cons a as ih =>
    simp only [stageAll, ih, room_stage, lost_stage, List.length_cons, Queue.maxLost]
    omega

theorem toList_publish (r : Ring α k) : r.publish.toList = r.toList ++ r.staged :=
  congrArg Queue.published r.toQueue_publish

theorem closed_publish (r : Ring α k) : r.publish.Closed := congrArg Queue.staged r.toQueue_publish

theorem closed_pushAll (as : List α) (r : Ring α k) : (r.pushAll as).2.Closed := closed_publish _

theorem fst_pushAll (as : List α) (r : Ring α k) : (r.pushAll as).1 = min as.length r.room := fst_stageAll as r

theorem lost_pushAll (as : List α) (r : Ring α k) :
    (r.pushAll as).2.lost.toNat = min (r.lost.toNat + (as.length - r.room)) Queue.maxLost := lost_stageAll as r

theorem toList_pushAll (h : r.Closed) (as : List α) : (r.pushAll as).2.toList = r.toList ++ as.take r.room := by
  unfold Closed at h
  simp only [pushAll, toList_publish, toList_stageAll, staged_stageAll, h, List.nil_append]

theorem room_pushAll (h : r.Closed) (as : List α) : (r.pushAll as).2.room = r.room - as.length := by
  have all := toList_pushAll h as
  have closed := closed_pushAll as r
  unfold Closed at h closed
  simp only [room, all, closed, h, List.length_append, List.length_take, List.length_nil]
  omega

theorem gains_pushAll (h : r.Closed) (as : List α) : r.Gains (as.take r.room) (r.pushAll as).2 :=
  ⟨toList_pushAll h as, (closed_pushAll as r).trans h.symm⟩

/-- several batches gain what one batch of all their entries would -/
theorem gains_append {r' : Ring α k} (closed : r.Closed) {as bs : List α}
    (h : (r.pushAll as).2.Gains (bs.take (r.pushAll as).2.room) r') : r.Gains ((as ++ bs).take r.room) r' := by
  have first := gains_pushAll closed as
  rw [room_pushAll closed] at h
  refine ⟨?_, h.2.trans first.2⟩
  rw [h.1, first.1, List.append_assoc, List.take_append]

theorem closed_push (a : α) (r : Ring α k) : (r.push a).2.Closed := closed_publish _

theorem fst_push (a : α) (r : Ring α k) : (r.push a).1 = decide (0 < r.room) := fst_stage r a

theorem toList_push (h : r.Closed) (a : α) : (r.push a).2.toList = r.toList ++ [a].take r.room := by
  unfold Closed at h
  have staged := staged_stageAll [a] r
  simp only [stageAll, h, List.nil_append] at staged
  simp only [push, toList_publish, toList_stage, staged]

theorem gains_push (h : r.Closed) (a : α) : r.Gains ([a].take r.room) (r.push a).2 :=
  ⟨toList_push h a, (closed_push a r).trans h.symm⟩

end CanAdapter.Ring
