/-
The channels of an adapter do not interfere. Each lane goes through a history of its own: what is broadcast, what
happens at its own controller and task, and the transfers and completions with one of its two endpoint numbers,
`1 + 2 * i` for the command pipe and `2 + 2 * i` for the CAN pipe of lane `i`.

`AdapterEvent.heard` says so by the numbers alone, and `at_eq_heard` that this is what the routing does with an event.
`Adapter.succeeds_of_alone`: an adapter stops only where one of its lanes would stop on its own.
`Adapter.lanes_run_alone` is the result: an adapter plays a history exactly if each lane plays its own part of it, and
then each lane ends as it would alone.
-/
import CanAdapter.Bench.Controller
import CanAdapter.Proofs.History
import CanAdapter.Proofs.Success
import CanAdapter.Proofs.TwoRuns
import Mathlib.Data.List.Basic

namespace CanAdapter

open Checked

/-! ## What a lane hears -/

/-- the number of an endpoint in either direction: its address with the direction bit cleared -/
def endpointNumber (endpoint : UInt8) : Nat := (endpoint &&& 0x7f).toNat

theorem endpointNumber_eq (endpoint : UInt8) : endpointNumber endpoint = endpoint.toNat % 128 := by
  rw [endpointNumber, UInt8.toNat_and]
  exact Nat.and_two_pow_sub_one_eq_mod endpoint.toNat 7

/-- the number of both endpoints of a pipe of channel `i` -/
def Pipe.number (i : Nat) : Pipe → Nat
  | command => 1 + 2 * i
  | can => 2 + 2 * i

theorem Pipe.number_inj {i j : Nat} {p q : Pipe} : p.number i = q.number j ↔ i = j ∧ p = q := by
  cases p <;> cases q <;> simp [number] <;> omega

/-- number zero apart, each number belongs to one pipe of one channel -/
theorem route_eq_some_iff {endpoint : UInt8} {i : Nat} {pipe : Pipe} :
    route endpoint = some (i, pipe) ↔ endpointNumber endpoint = pipe.number i := by
  rw [endpointNumber_eq, route]
  cases pipe <;> grind [Pipe.number]

/-- what is addressed to lane `i` by an endpoint: `command` on its command pipe, `can` on its CAN pipe -/
def addressed {α : Type} (i : Nat) (endpoint : UInt8) (command can : α) : Option α :=
  if endpointNumber endpoint = Pipe.command.number i then some command
  else if endpointNumber endpoint = Pipe.can.number i then some can
  else none

theorem addressed_eq {α : Type} (i : Nat) (endpoint : UInt8) (command can : α) :
    (addressed i endpoint command can).toList = match route endpoint with
      | some (j, .command) => if j = i then [command] else []
      | some (j, .can) => if j = i then [can] else []
      | none => [] := by
  unfold addressed
  cases routed : route endpoint with
  | none =>
    have unused (pipe : Pipe) : endpointNumber endpoint ≠ pipe.number i := fun number => by
      rw [route_eq_some_iff.2 number] at routed
      cases routed
    rw [if_neg (unused .command), if_neg (unused .can), Option.toList_none]
  | some target =>
    obtain ⟨j, pipe⟩ := target
    have number := route_eq_some_iff.1 routed
    rw [number]
    simp only [Pipe.number_inj]
    cases pipe <;> by_cases here : j = i <;> simp [here]

namespace AdapterEvent

variable {σ : Type}

/-- what lane `i` hears of an event -/
def heard (i : Nat) : AdapterEvent σ → Option (LaneEvent σ)
  | .op .mount | .op .resume => some (.op .mount)
  | .op .unmount | .op .suspend => some (.op .detach)
  | .op .usbReset => some (.op .usbReset)
  | .op (.out endpoint bytes) => addressed i endpoint (.op (.commandData bytes)) (.op (.canData bytes))
  | .op (.inComplete endpoint) => addressed i endpoint (.op .commandDone) (.op .canDone)
  | .op (.poll j) => if j = i then some (.op .poll) else none
  | .op (.wakeUp j now) => if j = i then some (.op (.wakeUp now)) else none
  | .op (.serve j now) => if j = i then some (.op (.serve now)) else none
  | .moved j f => if j = i then some (.moved f) else none

/-- the routing gives each lane what it hears by the endpoint numbers -/
theorem at_eq_heard (i : Nat) (e : AdapterEvent σ) : e.at i = (e.heard i).toList := by
  cases e with
  | moved j f => by_cases here : j = i <;> simp [AdapterEvent.at, heard, here]
  | op op =>
    cases op with
    | mount | unmount | suspend | resume | usbReset => rfl
    | out endpoint bytes => exact (addressed_eq i endpoint _ _).symm
    | inComplete endpoint => exact (addressed_eq i endpoint _ _).symm
    | poll j | wakeUp j now | serve j now => by_cases here : j = i <;> simp [AdapterEvent.at, heard, here]

theorem flatMap_at (i : Nat) (es : List (AdapterEvent σ)) : es.flatMap (·.at i) = es.filterMap (·.heard i) := by
  rw [List.filterMap_eq_flatMap_toList]
  exact List.flatMap_congr fun e _ => at_eq_heard i e

end AdapterEvent

/-! ## Where an adapter stops -/

theorem succeeds_updateAt_of {α β : Type} {f : α → Checked (β × α)} {n : Nat} {as : List α}
    (h : ∀ a, as[n]? = some a → Succeeds (fun _ => True) (f a)) : Succeeds (fun _ => True) (updateAt f n as) := by
  induction as generalizing n with
  | nil =>
    rw [updateAt]
    exact .of_ok trivial
  | cons a as ih =>
    cases n with
    | zero =>
      rw [updateAt]
      exact (h a rfl).bind fun _ _ => .of_ok trivial
    | succ n =>
      rw [updateAt]
      exact (ih h).bind fun _ _ => .of_ok trivial

namespace Adapter

variable {σ : Type} [Controller σ] {a a' : Adapter σ} {es : List (AdapterEvent σ)}

theorem succeeds_atLane_of {i : Nat} {e : LaneEvent σ} {f : Lane σ → Checked (Unit × Lane σ)}
    (plays : f = fun l => (fun l => ((), l)) <$> l.play e)
    (h : ∀ l : Lane σ, a.lanes[i]? = some l → ∃ l', l.plays [e] = .ok l') :
    Succeeds (fun _ => True) ((·.2) <$> a.atLane i f) := by
  refine .map (P := fun _ => True) ?_ fun _ _ => trivial
  refine .bind (P := fun _ => True) (succeeds_updateAt_of fun l hl => ?_) fun _ _ => .of_ok trivial
  obtain ⟨l', played⟩ := h l hl
  obtain ⟨l₁, played, -⟩ := Checked.bind_eq_ok.1 played
  rw [plays]
  exact ⟨((), l₁), Checked.map_eq_ok.2 ⟨l₁, played, rfl⟩, trivial⟩

theorem succeeds_broadcast_of {mounted : Bool} {op : LaneOp}
    (h : ∀ (i : Nat) (l : Lane σ), a.lanes[i]? = some l → ∃ l', l.plays [.op op] = .ok l') :
    Succeeds (fun _ => True) (a.broadcast mounted op) := by
  refine .bind (P := fun _ => True) ?_ fun _ _ => .of_ok trivial
  refine (succeeds_mapM (P := fun _ => True) fun l hl => ?_).imp fun _ ran => ⟨ran.1, trivial⟩
  obtain ⟨i, hi⟩ := List.mem_iff_getElem?.1 hl
  obtain ⟨l', played⟩ := h i l hi
  obtain ⟨l₁, played, -⟩ := Checked.bind_eq_ok.1 played
  exact ⟨l₁, played, trivial⟩

/-- an event stops the adapter only if it would stop one of the lanes -/
theorem succeeds_play_of_alone {e : AdapterEvent σ}
    (h : ∀ (i : Nat) (l : Lane σ), a.lanes[i]? = some l → ∃ l', l.plays (e.at i) = .ok l') :
    Succeeds (fun _ => True) (a.play e) := by
  have here {i : Nat} {x : LaneEvent σ} (same : e.at i = [x]) :
      ∀ l : Lane σ, a.lanes[i]? = some l → ∃ l', l.plays [x] = .ok l' := fun l hl => same ▸ h i l hl
  cases e with
  | moved j f => exact succeeds_atLane_of rfl (here (if_pos rfl))
  | op op =>
    cases op with
    | mount | resume => exact succeeds_broadcast_of h
    | unmount | suspend => exact succeeds_broadcast_of h
    | usbReset => exact succeeds_broadcast_of h
    | out endpoint bytes =>
      simp only [play, step]
      split
      · exact .of_ok trivial
      · rename_i i routed
        exact succeeds_atLane_of (e := .op (.commandData bytes)) rfl (here (by simp [AdapterEvent.at, routed]))
      · rename_i i routed
        exact succeeds_atLane_of (e := .op (.canData bytes)) rfl (here (by simp [AdapterEvent.at, routed]))
    | inComplete endpoint =>
      simp only [play, step]
      split
      · exact .of_ok trivial
      · rename_i i routed
        exact succeeds_atLane_of (e := .op .commandDone) rfl (here (by simp [AdapterEvent.at, routed]))
      · rename_i i routed
        exact succeeds_atLane_of (e := .op .canDone) rfl (here (by simp [AdapterEvent.at, routed]))
    | poll j => exact succeeds_atLane_of rfl (here (if_pos rfl))
    | wakeUp j now => exact succeeds_atLane_of rfl (here (if_pos rfl))
    | serve j now => exact succeeds_atLane_of rfl (here (if_pos rfl))

/-- induction on the events: after each of them every lane is where it would be alone -/
theorem succeeds_of_alone
    (h : ∀ (i : Nat) (l : Lane σ), a.lanes[i]? = some l → ∃ l', l.plays (es.flatMap (·.at i)) = .ok l') :
    ∃ a', a.plays es = .ok a' := by
  induction es generalizing a with
  | nil => exact ⟨a, rfl⟩
  | cons e es ih =>
    have parts (i : Nat) (l : Lane σ) (hl : a.lanes[i]? = some l) :
        ∃ l₁ l', l.plays (e.at i) = .ok l₁ ∧ l₁.plays (es.flatMap (·.at i)) = .ok l' := by
      obtain ⟨l', played⟩ := h i l hl
      rw [List.flatMap_cons, Lane.plays_append] at played
      obtain ⟨l₁, first, later⟩ := Checked.bind_eq_ok.1 played
      exact ⟨l₁, l', first, later⟩
    obtain ⟨a₁, first, -⟩ := succeeds_play_of_alone fun i l hl => by
      obtain ⟨l₁, -, first, -⟩ := parts i l hl
      exact ⟨l₁, first⟩
    obtain ⟨a', later⟩ := ih (a := a₁) fun i l₁ hl₁ => by
      rcases play_lane i first with ⟨-, none⟩ | ⟨l, l₂, hl, played, hl₂⟩
      · rw [hl₁] at none
        cases none
      · cases hl₁.symm.trans hl₂
        obtain ⟨l₃, l', again, later⟩ := parts i l hl
        cases played.symm.trans again
        exact ⟨l', later⟩
    refine ⟨a', ?_⟩
    unfold plays
    rw [List.foldlM_cons]
    exact Checked.bind_eq_ok.2 ⟨a₁, first, later⟩

/-! ## Numbers without a lane -/

omit [Controller σ] in
theorem updateAt_of_length_le {α β : Type} (f : α → Checked (β × α)) {n : Nat} {as : List α} (h : as.length ≤ n) :
    updateAt f n as = .ok (none, as) := by
  induction as generalizing n with
  | nil => rw [updateAt]
  | cons a as ih =>
    obtain ⟨n, rfl⟩ := Nat.exists_eq_succ_of_ne_zero (Nat.ne_of_gt (Nat.lt_of_lt_of_le (Nat.succ_pos _) h))
    rw [updateAt, ih (Nat.le_of_succ_le_succ h)]
    rfl

theorem stepLane_of_length_le {i : Nat} (h : a.lanes.length ≤ i) (op : LaneOp) : a.stepLane i op = .ok a := by
  unfold stepLane atLane
  rw [updateAt_of_length_le _ h]
  rfl

/-- the control endpoint, and a number beyond the last lane -/
def Unused (a : Adapter σ) (endpoint : UInt8) : Prop :=
  endpointNumber endpoint = 0 ∨ 2 * a.lanes.length < endpointNumber endpoint

omit [Controller σ] in
theorem Unused.length_le {endpoint : UInt8} (h : a.Unused endpoint) {i : Nat} {pipe : Pipe}
    (routed : route endpoint = some (i, pipe)) : a.lanes.length ≤ i := by
  have number := route_eq_some_iff.1 routed
  unfold Unused at h
  cases pipe <;> simp only [Pipe.number] at number <;> omega

theorem play_of_unused {endpoint : UInt8} (h : a.Unused endpoint) (bytes : Bytes) :
    a.play (.op (.out endpoint bytes)) = .ok a ∧ a.play (.op (.inComplete endpoint)) = .ok a := by
  simp only [play, step]
  cases routed : route endpoint with
  | none => exact ⟨rfl, rfl⟩
  | some target =>
    obtain ⟨i, pipe⟩ := target
    have beyond := h.length_le routed
    cases pipe <;> exact ⟨stepLane_of_length_le beyond _, stepLane_of_length_le beyond _⟩

/-! ## All histories -/

theorem lane_plays {i : Nat} {l : Lane σ} (h : a.plays es = .ok a') (hl : a.lanes[i]? = some l) :
    ∃ l', a'.lanes[i]? = some l' ∧ l.plays (es.flatMap (·.at i)) = .ok l' := by
  rcases plays_lane i h with ⟨none, -⟩ | ⟨l₀, l', hl₀, run, hl'⟩
  · rw [hl] at none
    cases none
  · cases hl.symm.trans hl₀
    exact ⟨l', hl', run⟩

omit [Controller σ] in
theorem length_eq_of_lanes (h : ∀ i : Nat, a.lanes[i]? = none ↔ a'.lanes[i]? = none) :
    a'.lanes.length = a.lanes.length := by
  apply Nat.le_antisymm
  · exact List.getElem?_eq_none_iff.1 ((h _).1 (List.getElem?_eq_none (Nat.le_refl _)))
  · exact List.getElem?_eq_none_iff.1 ((h _).2 (List.getElem?_eq_none (Nat.le_refl _)))

/-- **No interference.** Take an adapter with any number of lanes, in any state, and any history. It comes to the end of
the history exactly if each lane, left alone with what it hears, comes to the end of that. Then it has as many lanes as
before, and each is as it would be alone: the state of its channel, controller and reporting task, and all that it ever
put out, which is the transfers that it started on both pipes, what its lights showed and how long it waited, and, if
the controller keeps a log, what was asked of the controller. Endpoint number zero, and every number beyond the last
lane, does nothing at all. -/
theorem lanes_run_alone (a : Adapter σ) (es : List (AdapterEvent σ)) :
    ((∃ a', a.plays es = .ok a') ↔ ∀ (i : Nat) (l : Lane σ), a.lanes[i]? = some l →
      ∃ l', l.plays (es.filterMap (·.heard i)) = .ok l') ∧
    (∀ a', a.plays es = .ok a' → a'.lanes.length = a.lanes.length ∧
      ∀ (i : Nat) (l : Lane σ), a.lanes[i]? = some l →
        ∃ l', a'.lanes[i]? = some l' ∧ l.plays (es.filterMap (·.heard i)) = .ok l') ∧
    ∀ (endpoint : UInt8) (bytes : Bytes), a.Unused endpoint →
      a.play (.op (.out endpoint bytes)) = .ok a ∧ a.play (.op (.inComplete endpoint)) = .ok a := by
  simp only [← AdapterEvent.flatMap_at]
  refine ⟨⟨?_, succeeds_of_alone⟩, ?_, fun endpoint bytes unused => play_of_unused unused bytes⟩
  · rintro ⟨a', played⟩ i l hl
    obtain ⟨l', -, run⟩ := lane_plays played hl
    exact ⟨l', run⟩
  · intro a' played
    refine ⟨length_eq_of_lanes fun i => ?_, fun i l hl => lane_plays played hl⟩
    rcases plays_lane i played with ⟨none, none'⟩ | ⟨l, l', hl, -, hl'⟩
    · exact iff_of_true none none'
    · rw [hl, hl']
      simp

/-- an adapter with two channels, whose controllers log what they are asked -/
def pair : Checked (Adapter (Logged SimController)) := do
  let c ← Channel.create 0 .default ⟨{ echoes := true }, []⟩
  let d ← Channel.create 1 .default ⟨{ refuses := true }, []⟩
  ofLanes [.ofChannel { c with split := true }, .ofChannel { d with split := true }]

/-- Both channels join the bus and are asked to send; one controller echoes the frame, the other refuses it. Transfers
to numbers that nobody has come in between. -/
def bothBusy : List (AdapterEvent (Logged SimController)) :=
  [.op .mount, .op (.out 1 [8, 4, 1, 0]), .op (.out 3 [8, 4, 1, 0]), .op (.out 0x80 [1, 2]), .op (.out 5 [1, 2]),
    .op (.out 2 [0x12, 12, 0, 0, 5, 0, 0, 0, 7, 0, 0, 0]), .op (.out 4 [0x12, 12, 0, 0, 6, 0, 0, 0, 8, 0, 0, 0]),
    .op (.poll 0), .op (.wakeUp 1 4), .op (.wakeUp 0 3), .op (.inComplete 0x82), .op (.inComplete 0x84)]

/-- the second channel knows nothing of the first -/
theorem bothBusy_run_alone : ∃ (a a' : Adapter (Logged SimController)) (l l' : Lane (Logged SimController)),
    a.plays bothBusy = .ok a' ∧ a.lanes.length = 2 ∧ a'.lanes.length = 2 ∧ a.lanes[1]? = some l ∧
      a'.lanes[1]? = some l' ∧ l.plays [.op .mount, .op (.commandData [8, 4, 1, 0]),
        .op (.canData [0x12, 12, 0, 0, 6, 0, 0, 0, 8, 0, 0, 0]), .op (.wakeUp 4), .op .canDone] = .ok l' ∧
      a.play (.op (.out 5 [1, 2])) = .ok a := by
  have ran : Checked.passes (fun r : Adapter (Logged SimController) × Adapter (Logged SimController) =>
      r.1.lanes.length == 2) (pair >>= fun a => a.plays bothBusy >>= fun a' => pure (a, a')) = true := by
    decide +kernel
  obtain ⟨a, a', -, played, two⟩ := Checked.of_passes_pair ran
  rw [beq_iff_eq] at two
  obtain ⟨-, separate, unused⟩ := lanes_run_alone a bothBusy
  obtain ⟨same, alone⟩ := separate a' played
  obtain ⟨l, hl⟩ : ∃ l, a.lanes[1]? = some l := ⟨a.lanes[1], List.getElem?_eq_getElem _⟩
  obtain ⟨l', hl', run⟩ := alone 1 l hl
  refine ⟨a, a', l, l', played, two, same.trans two, hl, hl', run, (unused 5 [1, 2] (.inr ?_)).1⟩
  rw [two]
  decide

end Adapter

end CanAdapter
