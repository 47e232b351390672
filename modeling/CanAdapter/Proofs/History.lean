/-
Histories of a lane and of the whole adapter. Between two operations a controller may go on by itself, in any way, so an
event is an operation or such a move.

`plays_append`: a history is played part by part. `plays_keeps`: what every event keeps, a history keeps. `stepped` is
the case analysis on an event, with what each brings about. `Adapter.plays_lane`: each lane of an adapter goes through
a history of its own, made of the broadcast operations and of those that are addressed to it; `Adapter.lane_of_plays`
is the same from the end of the history.
-/
import CanAdapter.Adapter

namespace CanAdapter

/-- what can happen to a lane -/
inductive LaneEvent (σ : Type) where
  | op (op : LaneOp)
  /-- the controller goes on by itself -/
  | moved (f : σ → σ)

/-- what can happen to an adapter -/
inductive AdapterEvent (σ : Type) where
  | op (op : Op)
  /-- the controller of a lane goes on by itself -/
  | moved (lane : Nat) (f : σ → σ)

theorem getLastD_append {α : Type} (as bs : List α) (a : α) : (as ++ bs).getLastD a = bs.getLastD (as.getLastD a) := by
  rw [List.getLastD_eq_getLast?, List.getLastD_eq_getLast?, List.getLastD_eq_getLast?, List.getLast?_append]
  cases bs.getLast? <;> rfl

namespace Lane

variable {σ : Type}

/-- a lane whose channel was just built, with its rings given out -/
def Fresh (l : Lane σ) : Prop :=
  ∃ index config s c, Channel.create index config s = .ok c ∧ l = ofChannel { c with split := true }

variable [Controller σ]

def play (e : LaneEvent σ) (l : Lane σ) : Checked (Lane σ) :=
  match e with
  | .op op => l.step op
  | .moved f => .ok { l with channel := { l.channel with controller := f l.channel.controller } }

/-- events in order -/
def plays (es : List (LaneEvent σ)) (l : Lane σ) : Checked (Lane σ) := es.foldlM (fun l e => l.play e) l

theorem plays_append (es more : List (LaneEvent σ)) (l : Lane σ) :
    l.plays (es ++ more) = l.plays es >>= fun l => l.plays more := by
  simp [plays]

theorem plays_keeps {P : Lane σ → Prop} (step : ∀ {e l l'}, play e l = .ok l' → P l → P l') {es : List (LaneEvent σ)}
    {l l' : Lane σ} (h : l.plays es = .ok l') (hl : P l) : P l' :=
  Checked.foldlM_keeps (fun _ _ _ _ => step) h hl

end Lane

/-! ## All that an event can do to a lane -/

namespace Lane

variable {σ : Type} [Controller σ]

/-- the event `e` took the lane `l` to `l'` -/
inductive Stepped : LaneEvent σ → Lane σ → Lane σ → Prop where
  | moved (l : Lane σ) (f : σ → σ) :
    Stepped (.moved f) l { l with channel := { l.channel with controller := f l.channel.controller } }
  | mount (l : Lane σ) : Stepped (.op .mount) l { l with channel := l.channel.setMounted true }
  | detach {l : Lane σ} {c : Channel σ} (reset : l.channel.reset = .ok c) :
    Stepped (.op .detach) l { l with channel := c.setMounted false }
  | usbReset (l : Lane σ) : Stepped (.op .usbReset) l { l with
      channel := { l.channel with command := l.channel.command.reset, can := l.channel.can.reset }.setMounted false }
  | commandData {l : Lane σ} {c : Channel σ} {bytes : Bytes} (commands : l.channel.commands bytes = .ok c) :
    Stepped (.op (.commandData bytes)) l { l with channel := c }
  | canData {l : Lane σ} {c : Channel σ} {bytes : Bytes} (transmissions : l.channel.transmissions bytes = .ok c) :
    Stepped (.op (.canData bytes)) l { l with channel := c }
  | commandDone {l : Lane σ} {command : Endpoint commandBank} (complete : l.channel.command.complete = .ok command) :
    Stepped (.op .commandDone) l { l with channel := { l.channel with command } }
  | canDone {l : Lane σ} {can : Endpoint canBank} (complete : l.channel.can.complete = .ok can) :
    Stepped (.op .canDone) l { l with channel := { l.channel with can }.signal }
  | poll {l : Lane σ} {c : Channel σ} (poll : l.channel.poll = .ok c) : Stepped (.op .poll) l { l with channel := c }
  | wakeUp {l l' : Lane σ} {now : Nat} {outcome : WakeOutcome} (look : l.wakeUp now = .ok (outcome, l')) :
    Stepped (.op (.wakeUp now)) l l'
  /-- the task was told to look -/
  | serve {l l' : Lane σ} {now : Nat} {outcome : WakeOutcome} (told : l.channel.wake = true)
      (look : { l with channel := { l.channel with wake := false } }.wakeUp now = .ok (outcome, l')) :
    Stepped (.op (.serve now)) l l'
  /-- the task goes on waiting -/
  | wait {l : Lane σ} {now : Nat} (untold : l.channel.wake = false) : Stepped (.op (.serve now)) l l

theorem stepped {e : LaneEvent σ} {l l' : Lane σ} (h : l.play e = .ok l') : Stepped e l l' := by
  cases e with
  | moved f =>
    cases h
    exact .moved l f
  | op op =>
    cases op with
    | mount =>
      cases h
      exact .mount l
    | detach =>
      obtain ⟨c, hc, h⟩ := Checked.bind_eq_ok.1 h
      obtain ⟨c₁, reset, hc⟩ := Checked.bind_eq_ok.1 hc
      cases h
      cases hc
      exact .detach reset
    | usbReset =>
      cases h
      exact .usbReset l
    | commandData bytes =>
      obtain ⟨c, commands, h⟩ := Checked.bind_eq_ok.1 h
      cases h
      exact .commandData commands
    | canData bytes =>
      obtain ⟨c, transmissions, h⟩ := Checked.bind_eq_ok.1 h
      cases h
      exact .canData transmissions
    | commandDone =>
      obtain ⟨c, hc, h⟩ := Checked.bind_eq_ok.1 h
      obtain ⟨command, complete, hc⟩ := Checked.bind_eq_ok.1 hc
      cases h
      cases hc
      exact .commandDone complete
    | canDone =>
      obtain ⟨c, hc, h⟩ := Checked.bind_eq_ok.1 h
      obtain ⟨can, complete, hc⟩ := Checked.bind_eq_ok.1 hc
      cases h
      cases hc
      exact .canDone complete
    | poll =>
      obtain ⟨c, poll, h⟩ := Checked.bind_eq_ok.1 h
      cases h
      exact .poll poll
    | wakeUp now =>
      obtain ⟨⟨outcome, l₁⟩, look, rfl⟩ := Checked.map_eq_ok.1 h
      exact .wakeUp look
    | serve now =>
      obtain ⟨⟨outcome, l₁⟩, hs, rfl⟩ := Checked.map_eq_ok.1 h
      unfold Lane.serve at hs
      split at hs
      · rename_i told
        obtain ⟨⟨o, l₂⟩, look, hs⟩ := Checked.bind_eq_ok.1 hs
        cases hs
        exact .serve told look
      · rename_i untold
        cases hs
        exact .wait (by simpa using untold)

end Lane

/-! ## From the adapter to a lane -/

/-- the events of a lane that an event of the adapter consists of -/
def AdapterEvent.at {σ : Type} (i : Nat) : AdapterEvent σ → List (LaneEvent σ)
  | .op .mount | .op .resume => [.op .mount]
  | .op .unmount | .op .suspend => [.op .detach]
  | .op .usbReset => [.op .usbReset]
  | .op (.out endpoint bytes) =>
    match route endpoint with
    | some (j, .command) => if j = i then [.op (.commandData bytes)] else []
    | some (j, .can) => if j = i then [.op (.canData bytes)] else []
    | none => []
  | .op (.inComplete endpoint) =>
    match route endpoint with
    | some (j, .command) => if j = i then [.op .commandDone] else []
    | some (j, .can) => if j = i then [.op .canDone] else []
    | none => []
  | .op (.poll j) => if j = i then [.op .poll] else []
  | .op (.wakeUp j now) => if j = i then [.op (.wakeUp now)] else []
  | .op (.serve j now) => if j = i then [.op (.serve now)] else []
  | .moved j f => if j = i then [.moved f] else []

theorem updateAt_cases {α β : Type} {f : α → Checked (β × α)} {n : Nat} {as as' : List α} {b : Option β}
    (h : updateAt f n as = .ok (b, as')) :
    (∀ i, i ≠ n → as'[i]? = as[i]?) ∧
      ((as[n]? = none ∧ as' = as) ∨ ∃ a b a', as[n]? = some a ∧ f a = .ok (b, a') ∧ as'[n]? = some a') := by
  induction as generalizing n as' with
  | nil =>
    rw [updateAt] at h
    cases h
    exact ⟨fun _ _ => rfl, .inl ⟨by simp, rfl⟩⟩
  | cons a as ih =>
    cases n with
    | zero =>
      obtain ⟨⟨b, a'⟩, hf, h⟩ := Checked.bind_eq_ok.1 h
      cases h
      refine ⟨?_, .inr ⟨a, b, a', rfl, hf, rfl⟩⟩
      intro i hi
      obtain ⟨i, rfl⟩ := Nat.exists_eq_succ_of_ne_zero hi
      rfl
    | succ n =>
      obtain ⟨⟨b, rest⟩, hr, h⟩ := Checked.bind_eq_ok.1 h
      cases h
      obtain ⟨others, here⟩ := ih hr
      constructor
      · intro i hi
        cases i with
        | zero => rfl
        | succ i => exact others i (by omega)
      · rcases here with ⟨none, rfl⟩ | found
        · exact .inl ⟨none, rfl⟩
        · exact .inr found

theorem mapM_cases {α : Type} {f : α → Checked α} {as as' : List α} (h : as.mapM f = .ok as') (i : Nat) :
    (as[i]? = none ∧ as'[i]? = none) ∨ ∃ a a', as[i]? = some a ∧ f a = .ok a' ∧ as'[i]? = some a' := by
  induction as generalizing as' i with
  | nil =>
    cases h
    exact .inl ⟨rfl, rfl⟩
  | cons a as ih =>
    rw [List.mapM_cons] at h
    obtain ⟨a', ha, h⟩ := Checked.bind_eq_ok.1 h
    obtain ⟨rest, hr, h⟩ := Checked.bind_eq_ok.1 h
    cases h
    cases i with
    | zero => exact .inr ⟨a, a', rfl, ha, rfl⟩
    | succ i => exact ih hr i

namespace Adapter

variable {σ : Type} {a a' : Adapter σ}

/-- an adapter whose channels were just built -/
def Fresh (a : Adapter σ) : Prop := ∃ lanes, ofLanes lanes = .ok a ∧ ∀ l ∈ lanes, l.Fresh

/-- an adapter with one channel -/
def single (config : Config) (s : σ) : Checked (Adapter σ) := do
  let c ← Channel.create 0 config s
  ofLanes [.ofChannel { c with split := true }]

theorem fresh_single {config : Config} {s : σ} (h : single config s = .ok a) : a.Fresh := by
  obtain ⟨c, hc, h⟩ := Checked.bind_eq_ok.1 h
  refine ⟨_, h, ?_⟩
  intro l hl
  rw [List.mem_singleton] at hl
  exact ⟨0, config, s, c, hc, hl⟩

theorem lanes_of_fresh (h : a.Fresh) {i : Nat} {l : Lane σ} (hl : a.lanes[i]? = some l) : l.Fresh := by
  obtain ⟨lanes, ha, fresh⟩ := h
  unfold ofLanes at ha
  split at ha
  · cases ha
    exact fresh l (List.mem_of_getElem? hl)
  · cases ha

variable [Controller σ]

def play (e : AdapterEvent σ) (a : Adapter σ) : Checked (Adapter σ) :=
  match e with
  | .op op => a.step op
  | .moved i f => (·.2) <$> a.atLane i fun l => (fun l => ((), l)) <$> l.play (.moved f)

/-- events in order -/
def plays (es : List (AdapterEvent σ)) (a : Adapter σ) : Checked (Adapter σ) := es.foldlM (fun a e => a.play e) a

/-- lane `i` of `a` plays `es`, if there is such a lane, and comes to be lane `i` of `a'` -/
def LanePlays (i : Nat) (es : List (LaneEvent σ)) (a a' : Adapter σ) : Prop :=
  (a.lanes[i]? = none ∧ a'.lanes[i]? = none) ∨
    ∃ l l', a.lanes[i]? = some l ∧ l.plays es = .ok l' ∧ a'.lanes[i]? = some l'

theorem LanePlays.same {i : Nat} (h : a'.lanes[i]? = a.lanes[i]?) : LanePlays i [] a a' := by
  cases hl : a.lanes[i]? with
  | none => exact .inl ⟨hl, h.trans hl⟩
  | some l => exact .inr ⟨l, l, hl, rfl, h.trans hl⟩

theorem LanePlays.append {i : Nat} {a'' : Adapter σ} {es more : List (LaneEvent σ)} (h : LanePlays i es a a')
    (h' : LanePlays i more a' a'') : LanePlays i (es ++ more) a a'' := by
  rcases h with ⟨none, none'⟩ | ⟨l, l₁, hl, hp, hl₁⟩
  · rcases h' with ⟨-, none''⟩ | ⟨l, -, hl, -⟩
    · exact .inl ⟨none, none''⟩
    · rw [none'] at hl
      cases hl
  · rcases h' with ⟨none, -⟩ | ⟨l₁', l₂, hl₁', hp', hl₂⟩
    · rw [hl₁] at none
      cases none
    · rw [hl₁] at hl₁'
      cases hl₁'
      refine .inr ⟨l, l₂, hl, ?_, hl₂⟩
      rw [Lane.plays_append, hp]
      exact hp'

theorem lanePlays_atLane {β : Type} {f : Lane σ → Checked (β × Lane σ)} {e : LaneEvent σ} {i j : Nat}
    {b : Option β} (hf : ∀ {l b l'}, f l = .ok (b, l') → l.play e = .ok l') (h : a.atLane j f = .ok (b, a')) :
    LanePlays i (if j = i then [e] else []) a a' := by
  obtain ⟨⟨b, lanes⟩, hu, h⟩ := Checked.bind_eq_ok.1 h
  cases h
  obtain ⟨others, here⟩ := updateAt_cases hu
  by_cases hij : j = i
  · subst hij
    rw [if_pos rfl]
    rcases here with ⟨none, rfl⟩ | ⟨l, b, l', hl, hp, hl'⟩
    · exact .inl ⟨none, none⟩
    · refine .inr ⟨l, l', hl, ?_, hl'⟩
      simp [Lane.plays, hf hp]
  · rw [if_neg hij]
    exact .same (others i (Ne.symm hij))

theorem lanePlays_stepLane {op : LaneOp} {i j : Nat} (h : a.stepLane j op = .ok a') :
    LanePlays i (if j = i then [.op op] else []) a a' := by
  obtain ⟨⟨b, a₁⟩, hu, rfl⟩ := Checked.map_eq_ok.1 h
  refine lanePlays_atLane ?_ hu
  intro l b l' hf
  obtain ⟨l₁, hs, hl⟩ := Checked.map_eq_ok.1 hf
  cases hl
  exact hs

theorem lanePlays_broadcast {op : LaneOp} {mounted : Bool} (i : Nat) (h : a.broadcast mounted op = .ok a') :
    LanePlays i [.op op] a a' := by
  obtain ⟨lanes, hm, h⟩ := Checked.bind_eq_ok.1 h
  cases h
  rcases mapM_cases hm i with ⟨none, none'⟩ | ⟨l, l', hl, hs, hl'⟩
  · exact .inl ⟨none, none'⟩
  · exact .inr ⟨l, l', hl, by simpa [Lane.plays, Lane.play] using hs, hl'⟩

theorem play_lane {e : AdapterEvent σ} (i : Nat) (h : a.play e = .ok a') : LanePlays i (e.at i) a a' := by
  cases e with
  | moved j f =>
    obtain ⟨⟨b, a₁⟩, hu, rfl⟩ := Checked.map_eq_ok.1 h
    refine lanePlays_atLane ?_ hu
    intro l b l' hf
    obtain ⟨l₁, moved, hl⟩ := Checked.map_eq_ok.1 hf
    cases hl
    exact moved
  | op op =>
    cases op with
    | mount => exact lanePlays_broadcast i h
    | unmount => exact lanePlays_broadcast i h
    | suspend => exact lanePlays_broadcast i h
    | resume => exact lanePlays_broadcast i h
    | usbReset => exact lanePlays_broadcast i h
    | out endpoint bytes =>
      simp only [play, step, AdapterEvent.at] at h ⊢
      split at h
      · rename_i off
        cases h
        rw [off]
        exact .same rfl
      · rename_i routed
        rw [routed]
        exact lanePlays_stepLane h
      · rename_i routed
        rw [routed]
        exact lanePlays_stepLane h
    | inComplete endpoint =>
      simp only [play, step, AdapterEvent.at] at h ⊢
      split at h
      · rename_i off
        cases h
        rw [off]
        exact .same rfl
      · rename_i routed
        rw [routed]
        exact lanePlays_stepLane h
      · rename_i routed
        rw [routed]
        exact lanePlays_stepLane h
    | poll j => exact lanePlays_stepLane h
    | wakeUp j now => exact lanePlays_stepLane h
    | serve j now => exact lanePlays_stepLane h

theorem plays_lane {es : List (AdapterEvent σ)} (i : Nat) (h : a.plays es = .ok a') :
    LanePlays i (es.flatMap (·.at i)) a a' := by
  induction es generalizing a with
  | nil =>
    cases h
    exact .same rfl
  | cons e es ih =>
    unfold plays at h
    rw [List.foldlM_cons] at h
    obtain ⟨a₁, h₁, h⟩ := Checked.bind_eq_ok.1 h
    rw [List.flatMap_cons]
    exact (play_lane i h₁).append (ih h)

theorem lane_of_plays {es : List (AdapterEvent σ)} {i : Nat} {l' : Lane σ} (h : a.plays es = .ok a')
    (hl : a'.lanes[i]? = some l') : ∃ l, a.lanes[i]? = some l ∧ l.plays (es.flatMap (·.at i)) = .ok l' := by
  rcases plays_lane i h with ⟨-, none⟩ | ⟨l, l₁, hl₀, hp, hl₁⟩
  · rw [hl] at none
    cases none
  · rw [hl] at hl₁
    cases hl₁
    exact ⟨l, hl₀, hp⟩

end Adapter

end CanAdapter
