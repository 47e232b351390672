/-
Transmit credits. A request costs one, and the report on its transmit event gives it back; so the credits, the frames
that the controller still owes an event for, and the events that wait in their ring make up for the places of the
controller, as long as the channel is on the bus and nothing was lost.

`Channel.Covered` says so, and `Channel.Solvent` is the invariant that carries it: `Kept.solvent`, `Sent.solvent` and
`Polled.solvent` for what the host and the controller do, `Lane.solvent_wakeUp` for a look. One thing breaks it: a look
at a channel that is on the bus without a host drops the events, and no credit comes back for them.
`Adapter.credits_covered_iff`: the places are covered all along a history exactly when no such look meets events that
are still needed. `resetWhileOnBus_leaks`: a reset of the USB stack leaves the channel on the bus, and such a look may
follow.
-/
import CanAdapter.Proofs.Accounting

namespace CanAdapter

/-- the controller answers once whatever is asked of it; what is outstanding may be given up when it is reset or when
it joins or leaves the bus -/
structure AnswersOnce.Endures {σ : Type} [Controller σ] (A : AnswersOnce σ) : Prop where
  setFeatures : ∀ {s : σ} (f : Features), A.lawful s → A.lawful (Controller.setFeatures f s)
  goBus : ∀ {s : σ} (on : Bool), A.lawful s → A.lawful (Controller.goBus on s)
  reset : ∀ {s : σ}, A.lawful s → A.lawful (Controller.reset s)

namespace AnswersOnce

variable {σ : Type} [Controller σ] {A : AnswersOnce σ} {s s' : σ}

/-- each frame that the controller took is outstanding -/
theorem card_offered {fs : List (TxRequest × Fate)} (h : Controller.Offered fs s s') (lawful : A.lawful s) :
    (A.outstanding s').card = (A.outstanding s).card + fs.countP (·.2 == .forwarded) := by
  induction h with
  | nil => rfl
  | @forwarded r s s' fs took later ih =>
    obtain ⟨lawful, now⟩ := A.submit r.frame r.track lawful
    rw [took, if_pos rfl] at now
    rw [ih lawful, now, Multiset.card_add, Multiset.card_singleton, List.countP_cons_of_pos (by rfl)]
    omega
  | @refused r f s s' fs dropped refused later ih =>
    obtain ⟨lawful, now⟩ := A.submit r.frame r.track lawful
    rw [refused, if_neg Bool.false_ne_true, zero_add] at now
    rw [ih lawful, now, List.countP_cons_of_neg (by simp [dropped.ne_forwarded])]
  | unpaid dropped later ih => rw [ih lawful, List.countP_cons_of_neg (by simp [dropped.ne_forwarded])]

end AnswersOnce

namespace Channel

variable {σ : Type} [Controller σ] {A : AnswersOnce σ} {c c' : Channel σ}

/-- on the bus, and with nothing lost, the places of the controller are accounted for -/
def Covered (A : AnswersOnce σ) (c : Channel σ) : Prop :=
  c.enabled = true → c.desync = false →
    c.config.txFifo.toNat ≤ c.credits.toNat + (A.outstanding c.controller).card + c.tx.used

structure Solvent (A : AnswersOnce σ) (c : Channel σ) : Prop where
  lawful : A.lawful c.controller
  within : c.credits.toNat ≤ c.config.txFifo.toNat
  covered : c.Covered A

theorem solvent_reset (endures : A.Endures) (h : c.reset = .ok c') (hc : c.Solvent A) : c'.Solvent A := by
  obtain ⟨settings, -, h⟩ := Checked.bind_eq_ok.1 h
  cases h
  have lawful := (A.retime (.nominal settings.nominal) (endures.reset hc.lawful)).1
  refine ⟨endures.setFeatures _ ?_, Nat.zero_le _, nofun⟩
  split
  · exact (A.retime (.data settings.data) lawful).1
  · exact lawful

theorem solvent_setBus (endures : A.Endures) (on : Bool) (hc : c.Solvent A) : (c.setBus on).Solvent A := by
  unfold setBus
  split
  · exact hc
  · split
    · exact ⟨endures.goBus _ (endures.setFeatures _ hc.lawful), Nat.le_refl _, fun _ _ => by
        rw [Nat.add_assoc]
        exact Nat.le_add_right _ _⟩
    · exact ⟨endures.goBus _ hc.lawful, hc.within, nofun⟩

theorem kept_solvent (endures : A.Endures) (bytes : Bytes) : Kept (Solvent A) bytes where
  reply _ hc := ⟨hc.lawful, hc.within, hc.covered⟩
  retime _ timing hc := by
    obtain ⟨lawful, same⟩ := A.retime timing hc.lawful
    refine ⟨lawful, hc.within, ?_⟩
    unfold Covered
    simp only [same]
    exact hc.covered
  bus _ _ _ hc := solvent_setBus endures _ hc
  hello _ _ h hc := solvent_reset endures h hc

theorem Sent.solvent {fs : List (TxRequest × Fate)} (h : Sent fs c c') (hc : c.Solvent A) : c'.Solvent A := by
  have config : c'.config = c.config := congrArg (·.config) h.channel
  have enabled : c'.enabled = c.enabled := congrArg (·.enabled) h.channel
  have tx : c'.tx = c.tx := congrArg (·.tx) h.channel
  have paid := h.credits hc.within
  have taken := AnswersOnce.card_offered h.controller hc.lawful
  refine ⟨(AnswersOnce.offered_balance h.controller hc.lawful).1, ?_, ?_⟩
  · have within := hc.within
    rw [config]
    omega
  · intro on kept
    rw [h.desync, Bool.or_eq_false_iff] at kept
    -- each credit that is gone was spent on a frame that is outstanding now; a refused frame gave its credit back
    calc c'.config.txFifo.toNat
        = c.config.txFifo.toNat := by rw [config]
      _ ≤ c.credits.toNat + (A.outstanding c.controller).card + c.tx.used := hc.covered (enabled ▸ on) kept.1
      _ = c'.credits.toNat + fs.countP (·.2 == .forwarded) + (A.outstanding c.controller).card + c.tx.used := by
        rw [paid]
      _ = c'.credits.toNat + (A.outstanding c'.controller).card + c'.tx.used := by
        rw [taken, tx]
        omega

theorem Polled.solvent {a : Arrivals} (h : Polled a c c') (arrivals : c.arrivals = .ok a) (hc : c.Solvent A) :
    c'.Solvent A := by
  have config : c'.config = c.config := congrArg (·.config) h.channel
  have enabled : c'.enabled = c.enabled := congrArg (·.enabled) h.channel
  have credits : c'.credits = c.credits := congrArg (·.credits) h.channel
  have controller : c'.controller = handedOut c.controller := congrArg (·.controller) h.channel
  obtain ⟨lawful, gone⟩ := AnswersOnce.givesUp_arrivals arrivals hc.lawful
  refine ⟨controller ▸ lawful, by rw [credits, config]; exact hc.within, ?_⟩
  intro on kept
  rw [h.desync, Bool.or_eq_false_iff, decide_eq_false_iff_not] at kept
  obtain ⟨before, room⟩ := kept
  have outstanding := congrArg Multiset.card gone
  rw [Multiset.card_add, Multiset.coe_card, List.length_map] at outstanding
  -- with the flag down no event was refused, so all that the controller gave up waits in the ring
  have gained : c'.tx.used = c.tx.used + a.events.length := by
    rw [← Ring.length_toList, ← Ring.length_toList, h.tx.1, List.length_append, List.length_take]
    omega
  calc c'.config.txFifo.toNat
      = c.config.txFifo.toNat := by rw [config]
    _ ≤ c.credits.toNat + (A.outstanding c.controller).card + c.tx.used := hc.covered (enabled ▸ on) before
    _ = c.credits.toNat + (A.outstanding (handedOut c.controller)).card + (c.tx.used + a.events.length) := by omega
    _ = c'.credits.toNat + (A.outstanding c'.controller).card + c'.tx.used := by rw [credits, controller, gained]

end Channel

namespace Lane

variable {σ : Type} {l l' : Lane σ}

/-- the event is a look of the task -/
def looks (e : LaneEvent σ) (l : Lane σ) : Bool :=
  match e with
  | .op (.wakeUp _) => true
  | .op (.serve _) => l.channel.wake
  | _ => false

/-- a look at a channel that is on the bus without a host: it drops the events that wait -/
def forgets (e : LaneEvent σ) (l : Lane σ) : Bool :=
  looks e l && !l.channel.mounted && l.channel.enabled && !l.channel.desync

theorem forgets_iff {e : LaneEvent σ} : forgets e l = true ↔
    looks e l = true ∧ l.channel.mounted = false ∧ l.channel.enabled = true ∧ l.channel.desync = false := by
  simp only [forgets, Bool.and_eq_true, Bool.not_eq_true', and_assoc]

variable [Controller σ] {A : AnswersOnce σ}

theorem Flow.solvent {ms : List Message} (h : Flow ms l l') (hl : l.channel.Solvent A) : l'.channel.Solvent A := by
  have config : l'.channel.config = l.channel.config := congrArg (·.config) h.channel
  have enabled : l'.channel.enabled = l.channel.enabled := congrArg (·.enabled) h.channel
  have desync : l'.channel.desync = l.channel.desync := congrArg (·.desync) h.channel
  have controller : l'.channel.controller = l.channel.controller := congrArg (·.controller) h.channel
  have within := hl.within
  have credits := h.credits
  refine ⟨controller ▸ hl.lawful, ?_, ?_⟩
  · rw [config]
    omega
  · intro on kept
    have covered := hl.covered (enabled ▸ on) (desync ▸ kept)
    obtain ⟨taken, reports, release⟩ := h.tx
    have left : l.channel.tx.used = taken.length + l'.channel.tx.used := by
      rw [← Ring.length_toList, ← Ring.length_toList, release.1, List.length_append]
    rw [reports, List.length_map] at credits
    rw [config, controller]
    omega

/-- the credits and what the controller has outstanding are enough without the events that wait -/
def Spared (A : AnswersOnce σ) (l : Lane σ) : Prop :=
  l.channel.config.txFifo.toNat ≤ l.channel.credits.toNat + (A.outstanding l.channel.controller).card

theorem solvent_wakeUp {now : Nat} {outcome : WakeOutcome} (hl : l.channel.Solvent A)
    (spared : forgets (.op (.wakeUp now)) l = true → l.Spared A) (h : l.wakeUp now = .ok (outcome, l')) :
    l'.channel.Solvent A := by
  rcases wakeUp_cases h with ⟨-, off, rfl⟩ | ⟨-, -, off, rfl⟩ | ⟨-, -, -, ms, flow, -⟩
  · -- the ring was cleared and nothing came back for its events
    refine ⟨hl.lawful, hl.within, fun on kept => ?_⟩
    exact Nat.le_add_right_of_le (spared (forgets_iff.2 ⟨rfl, off, on, kept⟩))
  · exact ⟨hl.lawful, hl.within, fun on => absurd (on.symm.trans off) nofun⟩
  · exact flow.solvent hl

theorem solvent_play {e : LaneEvent σ} (endures : A.Endures) (allowed : A.Allows e) (sound : l.Sound)
    (hl : l.channel.Solvent A) (spared : forgets e l = true → l.Spared A) (h : l.play e = .ok l') :
    l'.channel.Solvent A := by
  cases stepped h with
  | moved f =>
    obtain ⟨lawful, same⟩ := allowed _ hl.lawful
    refine ⟨lawful, hl.within, ?_⟩
    unfold Channel.Covered
    simp only [same]
    exact hl.covered
  | mount => exact ⟨hl.lawful, hl.within, hl.covered⟩
  | detach reset =>
    have solvent := Channel.solvent_reset endures reset hl
    exact ⟨solvent.lawful, solvent.within, solvent.covered⟩
  | usbReset => exact ⟨hl.lawful, hl.within, hl.covered⟩
  | commandData commands => exact Channel.commands_keep (Channel.kept_solvent endures _) commands hl
  | canData transmissions =>
    obtain ⟨fs, -, sent⟩ := Channel.sent_transmissions transmissions
    exact sent.solvent hl
  | commandDone => exact ⟨hl.lawful, hl.within, hl.covered⟩
  | canDone => exact ⟨hl.lawful, hl.within, hl.covered⟩
  | poll poll =>
    obtain ⟨a, arrivals, polled⟩ := Channel.poll_cases sound.settled poll
    exact polled.solvent arrivals hl
  | wakeUp look => exact solvent_wakeUp hl spared look
  | serve told look =>
    have unsignalled : Channel.Solvent A { l.channel with wake := false } := ⟨hl.lawful, hl.within, hl.covered⟩
    refine solvent_wakeUp (l := { l with channel := { l.channel with wake := false } }) unsignalled ?_ look
    exact fun forgot => spared (forgets_iff.2 ⟨told, (forgets_iff.1 forgot).2⟩)
  | wait => exact hl

/-- such a look leaves the places covered exactly if the events were not needed -/
theorem play_of_forgets {e : LaneEvent σ} (h : forgets e l = true) :
    ∃ l', l.play e = .ok l' ∧ (l'.channel.Covered A ↔ l.Spared A) := by
  obtain ⟨look, unmounted, on, kept⟩ := forgets_iff.1 h
  have cleared : l.channel.tx.clear.used = 0 := Ring.used_of_toList (Ring.toList_clear _)
  have covered : l.rest.channel.Covered A ↔ l.Spared A := by
    simp only [Channel.Covered, Spared, rest, on, kept, cleared, Nat.add_zero, true_imp_iff]
  match e with
  | .op (.wakeUp now) =>
    exact ⟨l.rest, by simp only [play, step, wakeUp_of_unmounted unmounted]; rfl, covered⟩
  | .op (.serve now) =>
    have told : l.channel.wake = true := look
    refine ⟨rest { l with channel := { l.channel with wake := false } }, ?_, covered⟩
    simp only [play, step, serve, told, ↓reduceIte]
    rw [wakeUp_of_unmounted (l := { l with channel := { l.channel with wake := false } }) unmounted]
    rfl

/-- induction on the number of events -/
theorem solvent_take {es : List (LaneEvent σ)} (endures : A.Endures) (allowed : ∀ e ∈ es, A.Allows e) (sound : l.Sound)
    (hl : l.channel.Solvent A)
    (spared : ∀ n e l₁, es[n]? = some e → l.plays (es.take n) = .ok l₁ → forgets e l₁ = true → l₁.Spared A) (n : Nat)
    {l₁ : Lane σ} (h : l.plays (es.take n) = .ok l₁) : l₁.channel.Solvent A := by
  induction n generalizing l₁ with
  | zero =>
    cases h
    exact hl
  | succ n ih =>
    rw [List.take_add_one] at h
    cases he : es[n]? with
    | none =>
      rw [he, Option.toList_none, List.append_nil] at h
      exact ih h
    | some e =>
      rw [he, Option.toList_some, plays_append] at h
      obtain ⟨l₂, before, h⟩ := Checked.bind_eq_ok.1 h
      have last : l₂.play e = .ok l₁ := by simpa [plays] using h
      exact solvent_play endures (allowed e (List.mem_of_getElem? he)) (sound_plays before sound) (ih before)
        (spared n e l₂ he before) last

theorem covered_take_iff {es : List (LaneEvent σ)} (endures : A.Endures) (allowed : ∀ e ∈ es, A.Allows e)
    (sound : l.Sound) (hl : l.channel.Solvent A) :
    (∀ n l₁, l.plays (es.take n) = .ok l₁ → l₁.channel.Covered A) ↔
      ∀ n e l₁, es[n]? = some e → l.plays (es.take n) = .ok l₁ → forgets e l₁ = true → l₁.Spared A := by
  constructor
  · intro covered n e l₁ he before forgot
    obtain ⟨l₂, last, iff⟩ := play_of_forgets (A := A) forgot
    refine iff.1 (covered (n + 1) l₂ ?_)
    rw [List.take_add_one, he, Option.toList_some, plays_append, before]
    exact Checked.bind_eq_ok.2 ⟨l₁, rfl, by simpa [plays] using last⟩
  · intro spared n l₁ h
    exact (solvent_take endures allowed sound hl spared n h).covered

theorem solvent_of_fresh (h : l.Fresh) (lawful : A.lawful l.channel.controller) : l.channel.Solvent A := by
  obtain ⟨index, config, s, c, hc, rfl⟩ := h
  obtain ⟨settings, -, hc⟩ := Checked.bind_eq_ok.1 hc
  cases hc
  exact ⟨lawful, Nat.zero_le _, nofun⟩

end Lane

/-! ## All histories -/

/-- **Credits.** Take any history of an adapter that was just built, with a controller that answers each frame it took
exactly once, but for those it gives up when it is reset or joins or leaves the bus. At every point of it at which a
channel is on the bus and nothing was lost, the credits, the frames that the controller still has to answer and the
events that wait in their ring make up for the places of the controller, exactly if no look at that channel, on the bus
without a host, dropped events that were needed for it. -/
theorem Adapter.credits_covered_iff {σ : Type} [Controller σ] (A : AnswersOnce σ) (endures : A.Endures)
    {a a' : Adapter σ} {es : List (AdapterEvent σ)} {i : Nat} {l : Lane σ} (fresh : a.Fresh) (h : a.plays es = .ok a')
    (hl : a.lanes[i]? = some l) (lawful : A.lawful l.channel.controller)
    (allowed : ∀ e ∈ es.flatMap (·.at i), A.Allows e) :
    ∃ l', l.plays (es.flatMap (·.at i)) = .ok l' ∧ a'.lanes[i]? = some l' ∧
      ((∀ n l₁, l.plays ((es.flatMap (·.at i)).take n) = .ok l₁ → l₁.channel.Covered A) ↔
        ∀ n e l₁, (es.flatMap (·.at i))[n]? = some e → l.plays ((es.flatMap (·.at i)).take n) = .ok l₁ →
          Lane.forgets e l₁ = true → l₁.Spared A) := by
  rcases Adapter.plays_lane i h with ⟨none, -⟩ | ⟨l₀, l', hl₀, played, hl'⟩
  · rw [hl] at none
    cases none
  · cases hl.symm.trans hl₀
    have unused := Adapter.lanes_of_fresh fresh hl
    exact ⟨l', played, hl', Lane.covered_take_iff endures allowed (Lane.sound_of_fresh unused)
      (Lane.solvent_of_fresh unused lawful)⟩

theorem SimController.endures : SimController.answersOnce.Endures where
  setFeatures _ lawful := lawful
  goBus _ lawful := lawful
  reset lawful := lawful

/-- an operation of the adapter is no move of a controller -/
theorem AnswersOnce.allows_at {σ : Type} [Controller σ] (A : AnswersOnce σ) {i : Nat} {op : Op} {e : LaneEvent σ}
    (h : e ∈ (AdapterEvent.op op).at i) : A.Allows e := by
  cases e with
  | op => trivial
  | moved f =>
    cases op with
    | mount | unmount | suspend | resume | usbReset => simp [AdapterEvent.at] at h
    | poll j | wakeUp j now | serve j now =>
      simp only [AdapterEvent.at] at h
      split at h <;> simp at h
    | out endpoint bytes | inComplete endpoint =>
      simp only [AdapterEvent.at] at h
      split at h
      · split at h <;> simp at h
      · split at h <;> simp at h
      · simp at h

/-- the event of a frame waits in its ring when the USB stack is reset, which leaves the channel on the bus; the task
looks after `between` -/
def resetWhileOnBus (between : List Op) : List Op :=
  [.mount, .out 1 [8, 4, 1, 0], .out 2 [0x12, 12, 0, 0, 5, 0, 0, 0, 7, 0, 0, 0], .poll 0, .usbReset] ++ between ++
    [.wakeUp 0 0]

/-- operations, with no move of a controller in between -/
def opsOnly (ops : List Op) : List (AdapterEvent SimController) := ops.map .op

theorem allows_opsOnly (ops : List Op) :
    ∀ e ∈ (opsOnly ops).flatMap (·.at 0), SimController.answersOnce.Allows e := by
  intro e he
  obtain ⟨x, hx, he⟩ := List.mem_flatMap.1 he
  obtain ⟨op, -, rfl⟩ := List.mem_map.1 hx
  exact AnswersOnce.allows_at _ he

/-- whether `p` holds of the first lane before and after the operations, on a controller that echoes each frame -/
def afterEchoing (ops : List Op) (p : Lane SimController → Lane SimController → Bool) : Bool :=
  Checked.passes (fun r : Adapter SimController × Adapter SimController => r.1.lanes[0]?.any fun l =>
    r.2.lanes[0]?.any fun l' => l.channel.controller.echoes && p l l')
    (Adapter.single .default { echoes := true } >>= fun a => a.plays (opsOnly ops) >>= fun a' => pure (a, a'))

theorem of_afterEchoing {ops : List Op} {p : Lane SimController → Lane SimController → Bool}
    (h : afterEchoing ops p = true) : ∃ (a a' : Adapter SimController) (l l' : Lane SimController), a.Fresh ∧
      a.plays (opsOnly ops) = .ok a' ∧ a.lanes[0]? = some l ∧ a'.lanes[0]? = some l' ∧
      SimController.answersOnce.lawful l.channel.controller ∧ p l l' = true := by
  obtain ⟨a, a', built, played, found⟩ := Checked.of_passes_pair h
  rw [Option.any_eq_true] at found
  obtain ⟨l, hl, found⟩ := found
  rw [Option.any_eq_true] at found
  obtain ⟨l', hl', found⟩ := found
  rw [Bool.and_eq_true] at found
  exact ⟨a, a', l, l', Adapter.fresh_single built, played, hl, hl', found.1, found.2⟩

/-- the host is back before the task looks, and the event gives its credit back -/
theorem remountedBeforeLook_covered : ∃ (a a' : Adapter SimController) (l l' : Lane SimController), a.Fresh ∧
    a.plays (opsOnly (resetWhileOnBus [.mount])) = .ok a' ∧ a.lanes[0]? = some l ∧ a'.lanes[0]? = some l' ∧
      (∀ n l₁, l.plays (((opsOnly (resetWhileOnBus [.mount])).flatMap (·.at 0)).take n) = .ok l₁ →
        l₁.channel.Covered SimController.answersOnce) ∧
      l'.channel.credits = l'.channel.config.txFifo ∧ l'.channel.tx.used = 0 := by
  have ran : afterEchoing (resetWhileOnBus [.mount]) (fun l l' =>
      (List.range 7).all (fun n => Checked.passes
        (fun l₁ => (((opsOnly (resetWhileOnBus [.mount])).flatMap (·.at 0))[n]?).all fun e => !Lane.forgets e l₁)
        (l.plays (((opsOnly (resetWhileOnBus [.mount])).flatMap (·.at 0)).take n))) &&
      l'.channel.credits == l'.channel.config.txFifo && l'.channel.tx.used == 0) = true := by
    decide +kernel
  obtain ⟨a, a', l, l', fresh, played, hl, hl', lawful, holds⟩ := of_afterEchoing ran
  simp only [Bool.and_eq_true, beq_iff_eq] at holds
  obtain ⟨⟨remembers, credits⟩, used⟩ := holds
  obtain ⟨l₂, -, -, iff⟩ := Adapter.credits_covered_iff SimController.answersOnce SimController.endures fresh played hl
    lawful (allows_opsOnly _)
  refine ⟨a, a', l, l', fresh, played, hl, hl', iff.2 ?_, credits, used⟩
  intro n e l₁ he before forgot
  have short : n < 7 := (List.getElem?_eq_some_iff.1 he).1
  obtain ⟨l₃, same, kept⟩ := Checked.of_passes (List.all_eq_true.1 remembers n (List.mem_range.2 short))
  cases before.symm.trans same
  rw [he] at kept
  rw [Option.all_some, forgot] at kept
  cases kept

/-- **A credit is lost.** Without a host the task drops the event; the channel is still on the bus, nothing is noted as
lost, and when all is over one credit is missing. -/
theorem resetWhileOnBus_leaks : ∃ (a a' : Adapter SimController) (l l' : Lane SimController), a.Fresh ∧
    a.plays (opsOnly (resetWhileOnBus [])) = .ok a' ∧ a.lanes[0]? = some l ∧ a'.lanes[0]? = some l' ∧
      SimController.answersOnce.lawful l.channel.controller ∧
      (∀ e ∈ (opsOnly (resetWhileOnBus [])).flatMap (·.at 0), SimController.answersOnce.Allows e) ∧
      l'.channel.enabled = true ∧ l'.channel.desync = false ∧ l'.channel.config.txFifo = 32 ∧
      l'.channel.credits = 31 ∧ l'.channel.controller.events = [] ∧ l'.channel.tx.used = 0 ∧
      ¬ l'.channel.Covered SimController.answersOnce := by
  have ran : afterEchoing (resetWhileOnBus []) (fun _ l' => decide (l'.channel.enabled = true ∧
      l'.channel.desync = false ∧ l'.channel.config.txFifo = 32 ∧ l'.channel.credits = 31 ∧
      l'.channel.controller.events = [] ∧ l'.channel.tx.used = 0)) = true := by
    decide +kernel
  obtain ⟨a, a', l, l', fresh, played, hl, hl', lawful, state⟩ := of_afterEchoing ran
  obtain ⟨on, kept, places, credits, idle, none⟩ := of_decide_eq_true state
  refine ⟨a, a', l, l', fresh, played, hl, hl', lawful, allows_opsOnly _, on, kept, places, credits, idle, none, ?_⟩
  intro covered
  have enough := covered on kept
  simp [places, credits, none, SimController.answersOnce, idle] at enough

end CanAdapter
