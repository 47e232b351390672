/-
Credits that are given back. There are never more credits than places (`Channel.Bounded`), so a credit that was taken
can always be given back, and requests never stop the adapter (`Channel.Bounded.transmissions`).

A look gives back credits that nobody took since the channel joined the bus: the events of the time before still wait.
At the limit of the word that stops the adapter, because one more is counted before it is compared with the places.
`refund` is what becomes of the credits; `Lane.Refunds` says of a step of the task that it does the same whatever the
credits are, and refunds for the events that it took. It goes through sources, passes and drains
(`refunds_inOrder`, `refunds_passes`), up to `Lane.refunds_wakeUp`. `Adapter.credits_within_places` is the result for
all histories, and `staleEvent_overflows` a history at the limit.
-/
import CanAdapter.Bench.Controller
import CanAdapter.Proofs.Isolation

namespace CanAdapter

open Checked

/-! ## Never more credits than places -/

namespace Channel

variable {σ : Type} [Controller σ] {c c' : Channel σ} {bytes : Bytes}

/-- there are no more credits than places -/
def Bounded (c : Channel σ) : Prop := c.credits.toNat ≤ c.config.txFifo.toNat

theorem bounded_reset (h : c.reset = .ok c') : c'.Bounded := by
  obtain ⟨settings, -, h⟩ := Checked.bind_eq_ok.1 h
  cases h
  exact Nat.zero_le _

theorem bounded_setBus (on : Bool) (hc : c.Bounded) : (c.setBus on).Bounded := by
  unfold setBus
  split
  · exact hc
  · split
    · exact Nat.le_refl _
    · exact hc

theorem kept_bounded (bytes : Bytes) : Kept (Bounded (σ := σ)) bytes where
  reply _ hc := hc
  retime _ _ hc := hc
  bus _ _ _ hc := bounded_setBus _ hc
  hello _ _ h _ := bounded_reset h

theorem Sent.bounded {fs : List (TxRequest × Fate)} (h : Sent fs c c') (hc : c.Bounded) : c'.Bounded := by
  have paid := h.credits hc
  have config : c'.config = c.config := congrArg (·.config) h.channel
  unfold Bounded at hc ⊢
  rw [config]
  omega

/-! ## Requests -/

theorem exists_dropRequest (track : UInt8) (c : Channel σ) :
    ∃ c', c.dropRequest track = .ok c' ∧ c'.credits = c.credits := by
  obtain ⟨⟨r, can⟩, pushed, -⟩ := Endpoint.succeeds_push aligned_canBank c.config.order
    (.transmitted ⟨track, .drp, Controller.timestamp c.controller⟩) c.can
  cases r with
  | ok => exact ⟨_, Checked.bind_eq_ok.2 ⟨_, pushed, rfl⟩, rfl⟩
  | error => exact ⟨_, Checked.bind_eq_ok.2 ⟨_, pushed, rfl⟩, rfl⟩

omit [Controller σ] in
/-- a credit that was just taken can be given back -/
theorem exists_returnCredit (room : c.credits.toNat < 255) : ∃ c', c.returnCredit = .ok c' := by
  have fits : c.credits.toNat + (1 : UInt8).toNat < 2 ^ 8 := by
    rw [UInt8.toNat_one]
    omega
  exact ⟨_, Checked.bind_eq_ok.2 ⟨_, Checked.add8_eq_ok fits, rfl⟩⟩

/-- what becomes of the credits when the controller refuses a frame that was paid for -/
theorem Bounded.refused (hc : c.Bounded) {r : TxRequest} (paid : c.credits ≠ 0)
    (refused : (Controller.submit r.frame r.track c.controller).1 = false) :
    ∃ c', c.send r = .ok c' ∧ c'.credits.toNat = min c.config.txFifo.toNat (c.credits.toNat - 1 + 1) := by
  have taken := toNat_taken paid
  have word := c.credits.toNat_lt
  have within : c.credits.toNat ≤ c.config.txFifo.toNat := hc
  generalize asked : Controller.submit r.frame r.track c.controller = answer at refused
  obtain ⟨took, s⟩ := answer
  cases refused
  have room : (c.credits - 1).toNat < 255 := by omega
  obtain ⟨c₁, back⟩ := exists_returnCredit (c := { c with credits := c.credits - 1, controller := s }) room
  obtain ⟨c', dropped, same⟩ := exists_dropRequest r.track c₁
  refine ⟨c', ?_, ?_⟩
  · simp only [send, takeCredit, paid, ↓reduceIte, asked]
    exact Checked.bind_eq_ok.2 ⟨c₁, back, dropped⟩
  · rw [same, returnCredit_eq back, toNat_returned]
    simp only
    omega

theorem Bounded.send (hc : c.Bounded) (r : TxRequest) : ∃ c', c.send r = .ok c' := by
  by_cases broke : c.credits = 0
  · obtain ⟨c', dropped, -⟩ := exists_dropRequest r.track c
    refine ⟨c', ?_⟩
    simp only [Channel.send, takeCredit, broke, ↓reduceIte]
    exact dropped
  · cases took : (Controller.submit r.frame r.track c.controller).1 with
    | false =>
      obtain ⟨c', sent, -⟩ := hc.refused broke took
      exact ⟨c', sent⟩
    | true =>
      generalize asked : Controller.submit r.frame r.track c.controller = answer at took
      obtain ⟨took, s⟩ := answer
      cases took
      exact ⟨{ c with credits := c.credits - 1, controller := s }, by
        simp only [Channel.send, takeCredit, broke, ↓reduceIte, asked]⟩

/-- transmit requests never stop the adapter -/
theorem Bounded.transmissions (hc : c.Bounded) (bytes : Bytes) :
    ∃ c' fs, c.transmissions bytes = .ok c' ∧ c.fates (messages bytes) = .ok fs ∧
      c'.credits.toNat + fs.countP (·.2 == .forwarded) = c.credits.toNat := by
  have handled : Succeeds Bounded (c.transmissions bytes) := by
    refine succeeds_foldlM (fun m _ d hd => ?_) hc
    unfold transmission
    split
    · split
      · exact .of_ok hd
      · rename_i r read
        obtain ⟨d', sent⟩ := hd.send r
        obtain ⟨f, -, fate⟩ := send_cases sent
        exact ⟨d', sent, fate.bounded hd⟩
    · exact .of_ok hd
  obtain ⟨c', handled, -⟩ := handled
  obtain ⟨fs, fates, sent⟩ := sent_transmissions handled
  exact ⟨c', fs, handled, fates, sent.credits hc⟩

end Channel

/-! ## Giving credits back -/

/-- What `n` credits more make of `credits`, up to one for each place. They are counted one by one, and one more than
its word holds stops the adapter. -/
def refund (places : UInt8) (n : Nat) (credits : UInt8) : Checked UInt8 :=
  if places = 255 ∧ 255 < credits.toNat + n then .error .addOverflow
  else .ok (UInt8.ofNat (min places.toNat (credits.toNat + n)))

section

variable {places credits more : UInt8} {m n : Nat}

theorem eq_limit_iff : places = 255 ↔ places.toNat = 255 := by
  rw [← UInt8.toNat_inj]
  rfl

theorem toNat_refund (places : UInt8) (k : Nat) :
    (UInt8.ofNat (min places.toNat k)).toNat = min places.toNat k := by
  have word := places.toNat_lt
  rw [UInt8.toNat_ofNat']
  omega

theorem le_of_refund (h : refund places n credits = .ok more) : more ≤ places := by
  unfold refund at h
  split at h
  · cases h
  · cases h
    rw [UInt8.le_iff_toNat_le, toNat_refund]
    exact Nat.min_le_left _ _

theorem refund_zero (h : credits ≤ places) : refund places 0 credits = .ok credits := by
  rw [UInt8.le_iff_toNat_le] at h
  have word := credits.toNat_lt
  have room : ¬ (places = 255 ∧ 255 < credits.toNat + 0) := by omega
  unfold refund
  rw [if_neg room, Nat.add_zero, Nat.min_eq_right h, UInt8.ofNat_toNat]

/-- giving back is giving back one part after the other -/
theorem refund_add : refund places (m + n) credits = refund places m credits >>= refund places n := by
  have word := places.toNat_lt
  unfold refund
  simp only [eq_limit_iff]
  by_cases first : places.toNat = 255 ∧ 255 < credits.toNat + m
  · rw [if_pos first, if_pos ⟨first.1, by omega⟩]
    rfl
  · rw [if_neg first]
    simp only [bind, Except.bind, toNat_refund]
    by_cases later : places.toNat = 255 ∧ 255 < credits.toNat + (m + n)
    · rw [if_pos later, if_pos ⟨later.1, by omega⟩]
    · rw [if_neg later, if_neg (by omega)]
      congr 2
      omega

end

namespace Channel

variable {σ : Type}

/-- the same channel with other credits -/
def withCredits (k : UInt8) (c : Channel σ) : Channel σ := { c with credits := k }

@[simp] theorem config_withCredits (k : UInt8) (c : Channel σ) : (c.withCredits k).config = c.config := rfl

@[simp] theorem can_withCredits (k : UInt8) (c : Channel σ) : (c.withCredits k).can = c.can := rfl

@[simp] theorem credits_withCredits (k : UInt8) (c : Channel σ) : (c.withCredits k).credits = k := rfl

theorem returnCredit_withCredits {c : Channel σ} {k : UInt8} (h : k ≤ c.config.txFifo) :
    (c.withCredits k).returnCredit = c.withCredits <$> refund c.config.txFifo 1 k := by
  rw [UInt8.le_iff_toNat_le] at h
  have word := c.config.txFifo.toNat_lt
  unfold returnCredit refund Checked.add8
  rw [credits_withCredits, config_withCredits, UInt8.toNat_one]
  by_cases last : k.toNat = 255
  · have overflow : c.config.txFifo = 255 ∧ 255 < k.toNat + 1 := ⟨eq_limit_iff.2 (by omega), by omega⟩
    rw [if_pos overflow, if_neg (by omega)]
    rfl
  · rw [if_pos (by omega), if_neg (by omega)]
    have counted : UInt8.ofNat (min c.config.txFifo.toNat (k.toNat + 1)) =
        if k < c.config.txFifo then k + 1 else k := by
      rw [← UInt8.toNat_inj, toNat_refund, toNat_returned]
      omega
    simp only [Functor.map, Except.map, counted]
    change Except.ok _ = _
    split <;> rfl

/-- the credits do not decide whether there is room -/
theorem makeRoom_withCredits (c : Channel σ) (len : Nat) : ∃ r : Option (Endpoint canBank),
    ∀ k, (c.withCredits k).makeRoom len = .ok (r.map fun can => { c.withCredits k with can }) := by
  by_cases short : c.can.remaining < len
  · by_cases busy : (!c.can.ready) = true
    · exact ⟨none, fun k => (if_pos short).trans (if_pos busy)⟩
    · obtain ⟨can, tried, -⟩ := Endpoint.succeeds_trySubmit aligned_canBank c.can
      refine ⟨some can, fun k => (if_pos short).trans ((if_neg busy).trans ?_)⟩
      rw [can_withCredits, tried]
      rfl
  · exact ⟨some c.can, fun k => if_neg short⟩

theorem place_withCredits (c : Channel σ) (m : Message) : ∃ (b : Bool) (can : Endpoint canBank),
    ∀ k, (c.withCredits k).place m = .ok (b, { c.withCredits k with can }) := by
  unfold place
  obtain ⟨r, made⟩ := c.makeRoom_withCredits m.wireLength
  cases r with
  | none => exact ⟨false, c.can, fun k => by rw [made]; rfl⟩
  | some can =>
    cases placed : can.appendMessage c.config.order m with
    | none =>
      refine ⟨false, can, fun k => ?_⟩
      simp only [made, Option.map_some, bind, Except.bind, config_withCredits, placed]
      rfl
    | some can' =>
      refine ⟨true, can', fun k => ?_⟩
      simp only [made, Option.map_some, bind, Except.bind, config_withCredits, placed]
      rfl

end Channel

namespace Lane

variable {σ : Type}

def withCredits (k : UInt8) (l : Lane σ) : Lane σ := { l with channel := l.channel.withCredits k }

/-- Whatever the credits of `l` are, the step answers `a` and leads to `l₁`, with a credit given back for each of the
`n` events that it took. -/
structure Refunds {α : Type} (f : Lane σ → Checked (α × Lane σ)) (l : Lane σ) (a : α) (l₁ : Lane σ) (n : Nat) :
    Prop where
  config : l₁.channel.config = l.channel.config
  took : l.channel.tx.used = n + l₁.channel.tx.used
  run : ∀ k ≤ l.channel.config.txFifo,
    f (l.withCredits k) = (fun k' => (a, l₁.withCredits k')) <$> refund l.channel.config.txFifo n k

namespace Refunds

variable {α β : Type} {f : Lane σ → Checked (α × Lane σ)} {l l₁ l₂ : Lane σ} {a : α} {b : β} {m n : Nat}

theorem of_blind (run : ∀ k, f (l.withCredits k) = .ok (a, l₁.withCredits k))
    (config : l₁.channel.config = l.channel.config) (tx : l₁.channel.tx = l.channel.tx) : Refunds f l a l₁ 0 where
  config := config
  took := by rw [tx, Nat.zero_add]
  run k within := by
    rw [run, refund_zero within]
    rfl

theorem bind {g : α × Lane σ → Checked (β × Lane σ)} (h : Refunds f l a l₁ m)
    (h' : Refunds (fun l => g (a, l)) l₁ b l₂ n) : Refunds (fun l => f l >>= g) l b l₂ (m + n) where
  config := h'.config.trans h.config
  took := by rw [h.took, h'.took, Nat.add_assoc]
  run k within := by
    have later := h'.run
    rw [h.config] at later
    rw [h.run k within, refund_add]
    cases back : refund l.channel.config.txFifo m k with
    | error e => rfl
    | ok k' => exact later k' (le_of_refund back)

end Refunds

/-! ### Sources -/

/-- what becomes of a channel when an item of it was placed refunds in the same way -/
structure Released (done : Channel σ → Checked (Channel σ)) (c c₁ : Channel σ) (n : Nat) : Prop where
  config : c₁.config = c.config
  took : c.tx.used = n + c₁.tx.used
  run : ∀ k ≤ c.config.txFifo, done (c.withCredits k) = c₁.withCredits <$> refund c.config.txFifo n k

theorem refunds_placeOldest {α : Type} {w : Nat} {ring : Channel σ → Ring α w} {message : α → Message}
    {noted : Reporter → Reporter} {done : Channel σ → Checked (Channel σ)}
    (elsewhere : ∀ (c : Channel σ) k can, ring { c.withCredits k with can } = ring c)
    (released : ∀ c : Channel σ, (ring c).peek ≠ none → ∃ c₁ n, Released done c c₁ n) (l : Lane σ) :
    ∃ a l₁ n, Refunds (placeOldest ring message noted done) l a l₁ n := by
  have same (k : UInt8) : ring (l.withCredits k).channel = ring l.channel := elsewhere l.channel k l.channel.can
  cases oldest : (ring l.channel).peek with
  | none =>
    refine ⟨.idle, l, 0, .of_blind (fun k => ?_) rfl rfl⟩
    rw [placeOldest, same, oldest]
  | some a =>
    obtain ⟨b, can, placed⟩ := l.channel.place_withCredits (message a)
    have here (k : UInt8) : placeOldest ring message noted done (l.withCredits k) =
        (if b then (fun c => (.moved, { l with channel := c, reporter := noted l.reporter })) <$>
          done { l.channel.withCredits k with can }
        else .ok (.blocked, { l with
          channel := { l.channel.withCredits k with can }
          reporter := noted l.reporter })) := by
      have placed' := placed k
      rw [placeOldest, same, oldest]
      change ((l.channel.withCredits k).place (message a) >>= _) = _
      rw [placed']
      cases b <;> rfl
    cases b with
    | false => exact ⟨.blocked, { l with channel := { l.channel with can }, reporter := noted l.reporter }, 0,
        .of_blind here rfl rfl⟩
    | true =>
      have waits : (ring { l.channel with can }).peek ≠ none := by
        have kept : ring { l.channel with can } = ring l.channel := elsewhere l.channel l.channel.credits can
        rw [kept, oldest]
        exact nofun
      obtain ⟨c₁, n, config, took, run⟩ := released _ waits
      refine ⟨.moved, { l with channel := c₁, reporter := noted l.reporter }, n, config, took, fun k within => ?_⟩
      have finished : done { l.channel.withCredits k with can } =
          c₁.withCredits <$> refund l.channel.config.txFifo n k := run k within
      rw [here, if_pos rfl, finished]
      change _ = _ <$> refund l.channel.config.txFifo n k
      cases refund l.channel.config.txFifo n k <;> rfl

theorem released_of_blind {done : Channel σ → Channel σ} {c : Channel σ} (config : (done c).config = c.config)
    (tx : (done c).tx = c.tx) (blind : ∀ k, done (c.withCredits k) = (done c).withCredits k) :
    Released (fun c => .ok (done c)) c (done c) 0 where
  config := config
  took := by rw [tx, Nat.zero_add]
  run k within := by
    rw [refund_zero within, blind]
    rfl

theorem refunds_placeError (now : Nat) (l : Lane σ) : ∃ a l₁ n, Refunds (placeError now) l a l₁ n := by
  refine refunds_placeOldest (fun _ _ _ => rfl) (fun c _ => ?_) l
  exact ⟨_, 0, released_of_blind rfl rfl fun _ => rfl⟩

theorem refunds_placeFrame (now : Nat) (l : Lane σ) : ∃ a l₁ n, Refunds (placeFrame now) l a l₁ n := by
  refine refunds_placeOldest (fun _ _ _ => rfl) (fun c _ => ?_) l
  exact ⟨_, 0, released_of_blind rfl rfl fun _ => rfl⟩

/-- the report on a transmit event gives one credit back -/
theorem refunds_placeTxReport (now : Nat) (l : Lane σ) : ∃ a l₁ n, Refunds (placeTxReport now) l a l₁ n := by
  refine refunds_placeOldest (fun _ _ _ => rfl) (fun c waits => ⟨{ c with tx := c.tx.consume }, 1, rfl, ?_, ?_⟩) l
  · rcases c.tx.peek_cases with ⟨none, -⟩ | ⟨e, -, took⟩
    · exact absurd none waits
    · exact took.used.trans (Nat.add_comm _ _)
  · exact fun k within => Channel.returnCredit_withCredits (c := { c with tx := c.tx.consume }) within

theorem refunds_takeStatus (now : Nat) (l : Lane σ) : ∃ a l₁ n, Refunds (takeStatus now) l a l₁ n := by
  have same (k : UInt8) : (l.withCredits k).channel.status = l.channel.status := rfl
  cases popped : l.channel.status.pop with
  | mk oldest status =>
    cases oldest with
    | none =>
      refine ⟨.idle, l, 0, .of_blind (fun k => ?_) rfl rfl⟩
      rw [takeStatus, same, popped]
    | some e =>
      refine ⟨.moved, { l with
        channel := { l.channel with status }
        reporter := { l.reporter with busStatus := e.status, reportDue := true, lastActivity := some now } }, 0,
        .of_blind (fun k => ?_) rfl rfl⟩
      rw [takeStatus, same, popped]
      rfl

variable [Controller σ]

theorem refunds_placeReport (l : Lane σ) : ∃ a l₁ n, Refunds placeReport l a l₁ n := by
  by_cases idle : (!l.reporter.reportDue) = true
  · exact ⟨.idle, l, 0, .of_blind (fun k => if_pos idle) rfl rfl⟩
  · obtain ⟨r, made⟩ := l.channel.makeRoom_withCredits reportLength
    have asked (k : UInt8) : placeReport (l.withCredits k) = (l.channel.withCredits k).makeRoom reportLength >>= _ :=
      if_neg idle
    cases r with
    | none => exact ⟨.blocked, l, 0, .of_blind (fun k => by rw [asked, made]; rfl) rfl rfl⟩
    | some can =>
      -- a report does not tell of the credits
      cases placed : can.appendMessage l.channel.config.order
        (.busReport (l.channel.snapshot l.reporter.busStatus).1) with
      | none =>
        refine ⟨.blocked, { l with channel := { (l.channel.snapshot l.reporter.busStatus).2 with can } }, 0,
          .of_blind (fun k => ?_) rfl rfl⟩
        rw [asked, made]
        simp only [Option.map_some, bind, Except.bind]
        split
        · rfl
        · rename_i other
          cases placed.symm.trans other
      | some can' =>
        refine ⟨.moved, { l with
          channel := { (l.channel.snapshot l.reporter.busStatus).2 with can := can' }
          reporter := { l.reporter with reportDue := false } }, 0, .of_blind (fun k => ?_) rfl rfl⟩
        rw [asked, made]
        simp only [Option.map_some, bind, Except.bind]
        split
        · rename_i other
          cases placed.symm.trans other
        · rename_i other
          cases placed.symm.trans other
          rfl

/-! ### Passes -/

omit [Controller σ] in
/-- induction on the sources -/
theorem refunds_inOrder {sources : List (Lane σ → Checked (Move × Lane σ))}
    (hs : ∀ source ∈ sources, ∀ l : Lane σ, ∃ a l₁ n, Refunds source l a l₁ n) (l : Lane σ) :
    ∃ a l₁ n, Refunds (inOrder sources) l a l₁ n := by
  induction sources generalizing l with
  | nil => exact ⟨.idle, l, 0, .of_blind (fun _ => rfl) rfl rfl⟩
  | cons source sources ih =>
    have later := ih fun s hm => hs s (List.mem_cons_of_mem _ hm)
    obtain ⟨m₁, l₁, n₁, first⟩ := hs source List.mem_cons_self l
    obtain ⟨m₂, l₂, n₂, rest⟩ := later l₁
    cases m₁ with
    | blocked => exact ⟨.blocked, l₁, _, first.bind (.of_blind (fun _ => rfl) rfl rfl)⟩
    | idle => exact ⟨m₂, l₂, _, first.bind rest⟩
    | moved =>
      refine ⟨if m₂ = .idle then .moved else m₂, l₂, _, first.bind (rest.bind (.of_blind (fun _ => ?_) rfl rfl))⟩
      cases m₂ <;> rfl

theorem refunds_pass (now : Nat) (l : Lane σ) : ∃ a l₁ n, Refunds (pass now) l a l₁ n := by
  refine refunds_inOrder ?_ l
  intro source hs
  simp only [List.mem_cons, List.not_mem_nil, or_false] at hs
  rcases hs with rfl | rfl | rfl | rfl | rfl
  · exact refunds_placeReport
  · exact refunds_takeStatus now
  · exact refunds_placeError now
  · exact refunds_placeFrame now
  · exact refunds_placeTxReport now

/-- induction on the passes that are left -/
theorem refunds_passes (now : Nat) (left : Nat) (l : Lane σ) : ∃ a l₁ n, Refunds (passes now left) l a l₁ n := by
  induction left generalizing l with
  | zero => exact ⟨.moved, l, 0, .of_blind (fun _ => rfl) rfl rfl⟩
  | succ left ih =>
    obtain ⟨m₁, l₁, n₁, first⟩ := refunds_pass now l
    cases m₁ with
    | blocked | idle => exact ⟨_, l₁, _, first.bind (.of_blind (fun _ => rfl) rfl rfl)⟩
    | moved =>
      obtain ⟨m₂, l₂, n₂, rest⟩ := ih l₁
      exact ⟨m₂, l₂, _, first.bind rest⟩

/-- the bound on the passes of a look does not depend on the credits -/
theorem refunds_drain (now : Nat) (l : Lane σ) : ∃ a l₁ n, Refunds (drain now) l a l₁ n := by
  obtain ⟨m, l₁, n, ran⟩ := refunds_passes now l.maxPasses l
  have whole : Refunds (fun k => passes now l.maxPasses k >>= fun r => pure (r.1 == .blocked, r.2)) l (m == .blocked) l₁
      (n + 0) := ran.bind (.of_blind (fun _ => rfl) rfl rfl)
  exact ⟨m == .blocked, l₁, n, whole.config, whole.took, whole.run⟩

/-! ### Looks -/

omit [Controller σ] in
theorem updateLed_withCredits (now : Nat) (k : UInt8) (l : Lane σ) :
    (l.withCredits k).updateLed now = (l.updateLed now).withCredits k := by
  by_cases same : l.reporter.ledAt now = l.reporter.led
  · have left : (l.withCredits k).updateLed now = l.withCredits k := if_pos same
    have right : l.updateLed now = l := if_pos same
    rw [left, right]
  · have left : (l.withCredits k).updateLed now = _ := if_neg same
    have right : l.updateLed now = _ := if_neg same
    rw [left, right]
    rfl

omit [Controller σ] in
theorem refunds_finish (now : Nat) (blocked : Bool) (l : Lane σ) :
    ∃ outcome l₁, Refunds (finish now blocked) l outcome l₁ 0 := by
  obtain ⟨can, flushed, -⟩ := Endpoint.succeeds_flush aligned_canBank l.channel.can
  have same := channel_updateLed now { l with channel := { l.channel with can } }
  have shown (k : UInt8) : finish now blocked (l.withCredits k) =
      .ok (if blocked then
          (.backoff, (withCredits k (updateLed now { l with channel := { l.channel with can } })).backOff)
        else (.drained, withCredits k (updateLed now { l with channel := { l.channel with can } }))) := by
    rw [← updateLed_withCredits]
    change (l.channel.can.flush >>= _) = _
    rw [flushed]
    rfl
  cases blocked with
  | false => exact ⟨_, _, .of_blind shown (congrArg (·.config) same) (congrArg (·.tx) same)⟩
  | true =>
    exact ⟨.backoff, (updateLed now { l with channel := { l.channel with can } }).backOff,
      .of_blind shown (congrArg (·.config) same) (congrArg (·.tx) same)⟩

/-- whatever the credits are, a look on the bus does the same -/
theorem refunds_wakeUp (now : Nat) {l : Lane σ} (mounted : l.channel.mounted = true) (on : l.channel.enabled = true) :
    ∃ outcome l₁ n, Refunds (wakeUp now) l outcome l₁ n := by
  obtain ⟨blocked, l₁, n, drained⟩ := refunds_drain now l.begin
  obtain ⟨outcome, l₂, finished⟩ := refunds_finish now blocked l₁
  have whole : Refunds (fun l => l.drain now >>= fun r => r.2.finish now r.1) l.begin outcome l₂ (n + 0) :=
    drained.bind finished
  refine ⟨outcome, l₂, n, whole.config, whole.took, fun k within => ?_⟩
  rw [wakeUp_eq (l := l.withCredits k) mounted on]
  exact whole.run k within

/-- what a look does, whatever the credits are: it gives one back for each report on a transmit event -/
theorem look_refunds (now : Nat) (l : Lane σ) : ∃ (outcome : WakeOutcome) (l₁ : Lane σ) (ms : List Message),
    Endpoint.Posts l.channel.config.order ms l.channel.can l₁.channel.can ∧
    (ms.filterMap Message.txReport?).length ≤ 2 ^ trafficRing ∧ ∀ k ≤ l.channel.config.txFifo,
      (l.withCredits k).wakeUp now = (fun k' => (outcome, l₁.withCredits k')) <$>
        refund l.channel.config.txFifo (ms.filterMap Message.txReport?).length k := by
  cases mounted : l.channel.mounted with
  | false =>
    refine ⟨.unmounted, l.rest, [], .refl _ _, Nat.zero_le _, fun k within => ?_⟩
    rw [List.filterMap_nil, List.length_nil, refund_zero within]
    exact wakeUp_of_unmounted (l := l.withCredits k) mounted
  | true =>
    cases on : l.channel.enabled with
    | false =>
      refine ⟨.disabled, l.rest, [], .refl _ _, Nat.zero_le _, fun k within => ?_⟩
      rw [List.filterMap_nil, List.length_nil, refund_zero within]
      exact wakeUp_of_disabled (l := l.withCredits k) mounted on
    | true =>
      obtain ⟨outcome, l₁, n, config, took, run⟩ := refunds_wakeUp now mounted on
      have few : n ≤ 2 ^ trafficRing := by
        have capacity := l.channel.tx.used_le_capacity
        omega
      -- without credits there is room for all that can be given back
      have paid : refund l.channel.config.txFifo n 0 = .ok (UInt8.ofNat (min l.channel.config.txFifo.toNat n)) := by
        unfold refund
        rw [UInt8.toNat_zero, Nat.zero_add]
        exact if_neg fun overflow => by
          unfold trafficRing at few
          omega
      have look := run 0 (UInt8.zero_le)
      rw [paid] at look
      rcases wakeUp_cases look with ⟨-, gone, -⟩ | ⟨-, -, off, -⟩ | ⟨-, -, -, ms, flow, -⟩
      · exact absurd (mounted.symm.trans gone) nofun
      · exact absurd (on.symm.trans off) nofun
      · have counted : (ms.filterMap Message.txReport?).length = n := by
          obtain ⟨taken, reports, release⟩ := flow.tx
          have left : l.channel.tx.used = taken.length + l₁.channel.tx.used := by
            rw [← Ring.length_toList, ← Ring.length_toList l₁.channel.tx, ← List.length_append]
            exact congrArg List.length release.1
          rw [reports, List.length_map]
          omega
        rw [← counted] at few run
        exact ⟨outcome, l₁, ms, flow.can, few, run⟩

/-- the outcome of a look for the credits as they are -/
theorem look_completes_iff {now n : Nat} {l l₁ : Lane σ} {outcome : WakeOutcome}
    (run : l.wakeUp now = (fun k => (outcome, l₁.withCredits k)) <$>
      refund l.channel.config.txFifo n l.channel.credits) :
    ((∃ r, l.wakeUp now = .ok r) ↔ ¬ (l.channel.config.txFifo = 255 ∧ 255 < l.channel.credits.toNat + n)) ∧
    ∀ o l', l.wakeUp now = .ok (o, l') →
      l'.channel.credits.toNat = min l.channel.config.txFifo.toNat (l.channel.credits.toNat + n) := by
  rw [run]
  unfold refund
  split
  · rename_i overflow
    refine ⟨iff_of_false ?_ (not_not_intro overflow), ?_⟩
    · rintro ⟨r, ⟨⟩⟩
    · rintro o l' ⟨⟩
  · rename_i room
    refine ⟨iff_of_true ⟨_, rfl⟩ room, ?_⟩
    rintro o l' ⟨⟩
    exact toNat_refund _ _

/-! ## All histories -/

theorem bounded_wakeUp {now : Nat} {outcome : WakeOutcome} {l l' : Lane σ} (h : l.wakeUp now = .ok (outcome, l'))
    (hl : l.channel.Bounded) : l'.channel.Bounded := by
  rcases wakeUp_cases h with ⟨-, -, rfl⟩ | ⟨-, -, -, rfl⟩ | ⟨-, -, -, ms, flow, -⟩
  · exact hl
  · exact hl
  · have credits := flow.credits
    have config : l'.channel.config = l.channel.config := congrArg (·.config) flow.channel
    unfold Channel.Bounded at hl ⊢
    rw [config]
    omega

theorem bounded_play {e : LaneEvent σ} {l l' : Lane σ} (h : l.play e = .ok l') (sound : l.Sound)
    (bounded : l.channel.Bounded) : l'.channel.Bounded := by
  cases stepped h with
  | moved | mount | usbReset | commandDone | canDone | wait => exact bounded
  | detach reset =>
    have baseline := Channel.bounded_reset reset
    exact baseline
  | commandData commands => exact Channel.commands_keep (Channel.kept_bounded _) commands bounded
  | canData transmissions =>
    obtain ⟨fs, -, sent⟩ := Channel.sent_transmissions transmissions
    exact sent.bounded bounded
  | poll poll =>
    obtain ⟨a, -, polled⟩ := Channel.poll_cases sound.settled poll
    have config := congrArg (·.config) polled.channel
    have credits := congrArg (·.credits) polled.channel
    unfold Channel.Bounded at bounded ⊢
    rw [config, credits]
    exact bounded
  | wakeUp look => exact bounded_wakeUp look bounded
  | serve told look =>
    exact bounded_wakeUp (l := { l with channel := { l.channel with wake := false } }) look bounded

theorem Reachable.bounded {l : Lane σ} (h : l.Reachable) : l.channel.Bounded := by
  obtain ⟨l₀, es, fresh, played⟩ := h
  have none : l₀.channel.Bounded := by
    obtain ⟨index, config, s, c, created, rfl⟩ := fresh
    obtain ⟨settings, -, created⟩ := Checked.bind_eq_ok.1 created
    cases created
    exact Nat.zero_le _
  refine plays_keeps_of_sound (P := fun k : Lane σ => k.channel.Bounded) ?_ played (sound_of_fresh fresh) none
  intro e _ k k' sound played bounded
  exact bounded_play played sound bounded

end Lane

/-- **Credits stay within the places.** Take any lane of any adapter, with any number of places from 0 to 255, after any
history. It has no more credits than places. A transfer of the CAN pipe is handled, and each frame that the controller
takes costs one credit; a request that was paid for and that the controller refuses is handled, and its credit comes
back.

A look appends some messages `ms` to the CAN pipe, the same whatever the credits are, and would give back one credit for
each report on a transmit event among them, of which there are 32 at most. It comes to its end exactly if not, with 255
places, one of these credits would be the 256th; and then there are as many credits more, up to the number of places. -/
theorem Adapter.credits_within_places {σ : Type} [Controller σ] {a₀ a : Adapter σ} {es : List (AdapterEvent σ)}
    (fresh : a₀.Fresh) (history : a₀.plays es = .ok a) {i : Nat} {l : Lane σ} (hl : a.lanes[i]? = some l) :
    l.channel.credits ≤ l.channel.config.txFifo ∧
    (∀ bytes : Bytes, ∃ c fs, l.channel.transmissions bytes = .ok c ∧
      l.channel.fates (messages bytes) = .ok fs ∧
      c.credits.toNat + fs.countP (·.2 == .forwarded) = l.channel.credits.toNat) ∧
    (∀ r : TxRequest, l.channel.credits ≠ 0 → (Controller.submit r.frame r.track l.channel.controller).1 = false →
      ∃ c, l.channel.send r = .ok c ∧
        c.credits.toNat = min l.channel.config.txFifo.toNat (l.channel.credits.toNat - 1 + 1)) ∧
    ∀ now : Nat, ∃ (outcome : WakeOutcome) (l₁ : Lane σ) (ms : List Message) (n : Nat),
      Endpoint.Posts l.channel.config.order ms l.channel.can l₁.channel.can ∧
      n = (ms.filterMap Message.txReport?).length ∧ n ≤ 32 ∧
      (∀ k ≤ l.channel.config.txFifo, (l.withCredits k).wakeUp now =
        (fun k' => (outcome, l₁.withCredits k')) <$> refund l.channel.config.txFifo n k) ∧
      ((∃ r, l.wakeUp now = .ok r) ↔ ¬ (l.channel.config.txFifo = 255 ∧ 255 < l.channel.credits.toNat + n)) ∧
      ∀ o l', l.wakeUp now = .ok (o, l') →
        l'.channel.credits.toNat = min l.channel.config.txFifo.toNat (l.channel.credits.toNat + n) := by
  have bounded := (Lane.reachable_of_fresh fresh history hl).bounded
  refine ⟨UInt8.le_iff_toNat_le.2 bounded, bounded.transmissions, fun r => bounded.refused, fun now => ?_⟩
  obtain ⟨outcome, l₁, ms, posts, few, run⟩ := l.look_refunds now
  have here := run l.channel.credits (UInt8.le_iff_toNat_le.2 bounded)
  obtain ⟨completes, credits⟩ := Lane.look_completes_iff here
  exact ⟨outcome, l₁, ms, _, posts, rfl, few, run, completes, credits⟩

/-- the computation stops with the fault `e` -/
def Checked.stops {α : Type} (e : Fault) (x : Checked α) : Bool :=
  match x with
  | .ok _ => false
  | .error e' => e' == e

theorem Checked.of_stops {α : Type} {e : Fault} {x : Checked α} (h : Checked.stops e x = true) : x = .error e := by
  cases x with
  | ok => cases h
  | error e' => rw [eq_of_beq h]

namespace Adapter

/-- the event of a frame waits in its ring while the channel leaves the bus and joins it again -/
def rejoinWithEvent : List (AdapterEvent SimController) :=
  [.op .mount, .op (.out 1 [8, 4, 1, 0]), .op (.out 2 [0x12, 12, 0, 0, 5, 0, 0, 0, 7, 0, 0, 0]), .op (.poll 0),
    .op (.out 1 [8, 4, 0, 0]), .op (.out 1 [8, 4, 1, 0])]

/-- whether `p` holds of the only lane of an adapter with so many places after that -/
def afterRejoinWithEvent (places : UInt8) (p : Lane SimController → Bool) : Bool :=
  Checked.passes (fun r : Adapter SimController × Adapter SimController => r.2.lanes[0]?.any p)
    (single { Config.default with txFifo := places } { echoes := true } >>= fun a₀ =>
      a₀.plays rejoinWithEvent >>= fun a => pure (a₀, a))

theorem of_afterRejoinWithEvent {places : UInt8} {p : Lane SimController → Bool}
    (h : afterRejoinWithEvent places p = true) :
    ∃ (a₀ a : Adapter SimController) (l : Lane SimController), a₀.Fresh ∧ a₀.plays rejoinWithEvent = .ok a ∧
      a.lanes[0]? = some l ∧ p l = true := by
  obtain ⟨a₀, a, built, history, found⟩ := Checked.of_passes_pair h
  obtain ⟨l, hl, holds⟩ := (Option.any_eq_true _ _).1 found
  exact ⟨a₀, a, l, fresh_single built, history, hl, holds⟩

/-- with 254 places the look gives back a credit that nobody took, and there are 254 as before -/
theorem staleEvent_within : ∃ (a₀ a : Adapter SimController) (l l' : Lane SimController) (outcome : WakeOutcome),
    a₀.Fresh ∧ a₀.plays rejoinWithEvent = .ok a ∧ a.lanes[0]? = some l ∧ l.channel.credits = 254 ∧
      l.channel.tx.used = 1 ∧ l.wakeUp 0 = .ok (outcome, l') ∧ l'.channel.credits.toNat = 254 := by
  have ran : afterRejoinWithEvent 254 (fun l => decide (l.channel.config.txFifo = 254 ∧ l.channel.credits = 254 ∧
      l.channel.tx.used = 1)) = true := by
    decide +kernel
  obtain ⟨a₀, a, l, fresh, history, hl, holds⟩ := of_afterRejoinWithEvent ran
  obtain ⟨places, full, waits⟩ := of_decide_eq_true holds
  obtain ⟨-, -, -, looks⟩ := credits_within_places fresh history hl
  obtain ⟨-, -, -, n, -, -, -, -, completes, credits⟩ := looks 0
  obtain ⟨⟨outcome, l'⟩, look⟩ := completes.2 (by simp [places])
  have more := credits outcome l' look
  rw [places, full] at more
  exact ⟨a₀, a, l, l', outcome, fresh, history, hl, full, waits, look,
    more.trans (Nat.min_eq_left (Nat.le_add_right _ _))⟩

/-- **One credit too many.** With 255 places it stops the adapter. -/
theorem staleEvent_overflows : ∃ (a₀ a : Adapter SimController) (l : Lane SimController),
    a₀.Fresh ∧ a₀.plays rejoinWithEvent = .ok a ∧ a.lanes[0]? = some l ∧ l.channel.mounted = true ∧
      l.channel.enabled = true ∧ l.channel.config.txFifo = 255 ∧ l.channel.credits = 255 ∧ l.channel.tx.used = 1 ∧
      l.wakeUp 0 = .error .addOverflow := by
  have ran : afterRejoinWithEvent 255 (fun l => decide (l.channel.mounted = true ∧ l.channel.enabled = true ∧
      l.channel.config.txFifo = 255 ∧ l.channel.credits = 255 ∧ l.channel.tx.used = 1 ∧
      Checked.stops .addOverflow (l.wakeUp 0) = true)) = true := by
    decide +kernel
  obtain ⟨a₀, a, l, fresh, history, hl, holds⟩ := of_afterRejoinWithEvent ran
  obtain ⟨mounted, on, places, full, waits, stops⟩ := of_decide_eq_true holds
  exact ⟨a₀, a, l, fresh, history, hl, mounted, on, places, full, waits, Checked.of_stops stops⟩

end Adapter

end CanAdapter
