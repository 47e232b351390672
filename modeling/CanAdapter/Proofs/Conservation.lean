/-
Credits within one session. A place of the controller is always in one of four states: a credit stands for it, the
controller owes an event for a frame in it, that event waits in its ring, or the event found the ring full and the
place is lost until the channel joins the bus anew.

`Lane.Opens` is the state in which the channel has just joined the bus, `opens_setBus` that joining brings it about, and
`opens_commands` that a command buffer does so that has the channel join. `Lane.Budget` is the equation between the
four, with the number of events refused so far; `budget_play` keeps it over one event of a session, `budget_records`
over a history. A credit that comes back is never swallowed by the limit on credits, because the equation leaves room
for it.
-/
import CanAdapter.Proofs.Credits

namespace CanAdapter

namespace Lane

variable {σ : Type} [Controller σ] {A : AnswersOnce σ} {l l' : Lane σ} {o : ByteOrder} {k : Ledger}
  {total refused : Nat}

/-- the channel has just joined the bus, with nothing outstanding and no transmit event that waits -/
structure Opens (A : AnswersOnce σ) (l : Lane σ) : Prop where
  mounted : l.channel.mounted = true
  enabled : l.channel.enabled = true
  /-- as it is all along the history of a channel, `sound_plays` -/
  sound : l.Sound
  credits : l.channel.credits = l.channel.config.txFifo
  tx : l.channel.tx.toList = []
  lawful : A.lawful l.channel.controller
  idle : A.outstanding l.channel.controller = 0

theorem Opens.session (h : l.Opens A) : l.Session l.channel.config.order := ⟨h.mounted, h.enabled, rfl, h.sound⟩

theorem opens_setBus (mounted : l.channel.mounted = true) (off : l.channel.enabled = false) (sound : l.Sound)
    (tx : l.channel.tx.toList = []) (lawful : A.lawful (l.channel.setBus true).controller)
    (idle : A.outstanding (l.channel.setBus true).controller = 0) :
    Opens A { l with channel := l.channel.setBus true } := by
  have joins : l.channel.enabled ≠ true := by simp [off]
  have sound := Channel.sound_setBus true sound
  simp only [Channel.setBus, joins, ↓reduceIte] at lawful idle sound ⊢
  exact ⟨mounted, rfl, sound, rfl, tx, lawful, idle⟩

/-- a command buffer that has the channel join the bus: what else is in it takes no credit -/
theorem opens_commands {bytes : Bytes} {c : Channel σ} (mounted : l.channel.mounted = true)
    (off : l.channel.enabled = false) (sound : l.Sound) (tx : l.channel.tx.toList = [])
    (greetless : ∀ m ∈ messages bytes, m.id ≠ MessageId.hello) (h : l.channel.commands bytes = .ok c)
    (joined : c.enabled = true) (lawful : A.lawful c.controller) (idle : A.outstanding c.controller = 0) :
    Opens A { l with channel := c } := by
  have kept : Channel.Kept (fun d : Channel σ => d.Sound ∧ d.mounted = true ∧ d.tx = l.channel.tx ∧
      (d.enabled = true → d.credits = d.config.txFifo)) bytes :=
    { reply := fun command hd => ⟨(Channel.kept_sound bytes).reply command hd.1, hd.2⟩
      retime := fun settings timing hd => ⟨(Channel.kept_sound bytes).retime settings timing hd.1, hd.2⟩
      bus := fun {d m on} _ _ _ hd => by
        refine ⟨Channel.sound_setBus on hd.1, ?_⟩
        obtain ⟨-, mounted, same, full⟩ := hd
        unfold Channel.setBus
        split
        · exact ⟨mounted, same, full⟩
        · split
          · exact ⟨mounted, same, fun _ => rfl⟩
          · exact ⟨mounted, same, nofun⟩
      hello := fun hm id => absurd id (greetless _ hm) }
  have never : l.channel.enabled = true → l.channel.credits = l.channel.config.txFifo := fun on => by
    rw [off] at on
    cases on
  obtain ⟨sound, mounted, same, full⟩ := Channel.commands_keep kept h ⟨sound, mounted, rfl, never⟩
  exact ⟨mounted, joined, sound, full joined, same ▸ tx, lawful, idle⟩

/-! ## The equation -/

/-- the places of the controller that something still stands for: a credit, a frame that is outstanding, an event that
waits -/
def places (A : AnswersOnce σ) (l : Lane σ) : Nat :=
  l.channel.credits.toNat + (A.outstanding l.channel.controller).card + l.channel.tx.used

/-- all of the controller's places are accounted for, if the full ring has refused so many events -/
structure Budget (A : AnswersOnce σ) (total refused : Nat) (l : Lane σ) : Prop where
  lawful : A.lawful l.channel.controller
  fifo : l.channel.config.txFifo.toNat = total
  balance : l.places A + refused = total
  /-- a ring that is no smaller than the controller refuses nothing -/
  roomy : total ≤ 2 ^ trafficRing → refused = 0

theorem Opens.budget (h : l.Opens A) : Budget A l.channel.config.txFifo.toNat 0 l where
  lawful := h.lawful
  fifo := rfl
  balance := by
    rw [places, h.credits, h.idle, Multiset.card_zero, Ring.used_of_toList h.tx]
    rfl
  roomy _ := rfl

namespace Budget

/-- an event that touches neither the credits nor the ring -/
theorem of_same (h : Budget A total refused l) (lawful : A.lawful l'.channel.controller)
    (outstanding : A.outstanding l'.channel.controller = A.outstanding l.channel.controller)
    (credits : l'.channel.credits = l.channel.credits) (tx : l'.channel.tx = l.channel.tx)
    (config : l'.channel.config = l.channel.config) : Budget A total refused l' where
  lawful := lawful
  fifo := config ▸ h.fifo
  balance := by
    rw [places, credits, outstanding, tx]
    exact h.balance
  roomy := h.roomy

/-- each credit that is spent is on a frame that is outstanding from then on -/
theorem of_sent {c : Channel σ} {fs : List (TxRequest × Fate)} (h : Budget A total refused l)
    (sent : Channel.Sent fs l.channel c) : Budget A total refused { l with channel := c } := by
  have config : c.config = l.channel.config := congrArg (·.config) sent.channel
  have tx : c.tx = l.channel.tx := congrArg (·.tx) sent.channel
  have fifo := h.fifo
  have balance := h.balance
  unfold places at balance
  have paid := sent.credits (by omega)
  have taken := AnswersOnce.card_offered sent.controller h.lawful
  refine ⟨(AnswersOnce.offered_balance sent.controller h.lawful).1, config ▸ fifo, ?_, h.roomy⟩
  calc c.credits.toNat + (A.outstanding c.controller).card + c.tx.used + refused
      = c.credits.toNat + fs.countP (·.2 == .forwarded) + (A.outstanding l.channel.controller).card +
          l.channel.tx.used + refused := by
        rw [taken, tx]
        omega
    _ = total := by rw [paid, balance]

/-- each event that the controller hands out waits in the ring, or is refused -/
theorem of_polled {c : Channel σ} {a : Arrivals} (h : Budget A total refused l) (closed : l.channel.tx.Closed)
    (arrivals : l.channel.arrivals = .ok a) (polled : Channel.Polled a l.channel c) :
    Budget A total (refused + (a.events.drop l.channel.tx.room).length) { l with channel := c } := by
  have config : c.config = l.channel.config := congrArg (·.config) polled.channel
  have credits : c.credits = l.channel.credits := congrArg (·.credits) polled.channel
  have controller : c.controller = Channel.handedOut l.channel.controller := congrArg (·.controller) polled.channel
  obtain ⟨lawful, gone⟩ := AnswersOnce.givesUp_arrivals arrivals h.lawful
  have outstanding := congrArg Multiset.card gone
  rw [Multiset.card_add, Multiset.coe_card, List.length_map] at outstanding
  have gained : c.tx.used = l.channel.tx.used + min l.channel.tx.room a.events.length := by
    rw [← Ring.length_toList, ← Ring.length_toList, polled.tx.1, List.length_append, List.length_take]
  have room : l.channel.tx.room = 2 ^ trafficRing - l.channel.tx.used := by
    rw [Ring.room, closed, List.length_nil, Nat.add_zero, Ring.length_toList]
  have balance := h.balance
  have roomy := h.roomy
  unfold places at balance
  refine ⟨controller ▸ lawful, config ▸ h.fifo, ?_, fun small => ?_⟩
  · rw [places, credits, controller, gained, List.length_drop]
    omega
  · rw [List.length_drop, room]
    omega

/-- each event that leaves the ring gives its credit back, and the limit on credits is not in the way -/
theorem of_flow {ms : List Message} (h : Budget A total refused l) (flow : Flow ms l l') :
    Budget A total refused l' := by
  have config : l'.channel.config = l.channel.config := congrArg (·.config) flow.channel
  have controller : l'.channel.controller = l.channel.controller := congrArg (·.controller) flow.channel
  have credits := flow.credits
  obtain ⟨taken, reports, release⟩ := flow.tx
  have left : l.channel.tx.used = taken.length + l'.channel.tx.used := by
    rw [← Ring.length_toList, ← Ring.length_toList, release.1, List.length_append]
  rw [reports, List.length_map, h.fifo] at credits
  have balance := h.balance
  unfold places at balance
  have returned : l'.channel.credits.toNat = l.channel.credits.toNat + taken.length := by omega
  refine ⟨controller ▸ h.lawful, config ▸ h.fifo, ?_, h.roomy⟩
  rw [places, returned, controller]
  omega

end Budget

/-! ## A session -/

theorem budget_play {e : LaneEvent σ} (hl : l.Session o) (quiet : e.InSession o) (allowed : A.Allows e)
    (budget : Budget A total refused l) (h : l.play e = .ok l') (noted : l.noted e = .ok k) :
    Budget A total (refused + k.refused.length) l' := by
  cases stepped h with
  | moved f =>
    cases noted
    obtain ⟨lawful, same⟩ := allowed _ budget.lawful
    exact budget.of_same lawful same rfl rfl rfl
  | mount =>
    cases noted
    exact budget.of_same budget.lawful rfl rfl rfl rfl
  | detach => exact quiet.elim
  | usbReset => exact quiet.elim
  | commandData commands =>
    cases noted
    have order := hl.order
    subst order
    have retimed {s s' : σ} (timing : Controller.Retimed s s')
        (hs : A.lawful s ∧ A.outstanding s = A.outstanding l.channel.controller) :
        A.lawful s' ∧ A.outstanding s' = A.outstanding l.channel.controller := by
      obtain ⟨lawful, same⟩ := A.retime timing hs.1
      exact ⟨lawful, same.trans hs.2⟩
    obtain ⟨only, lawful, same⟩ :=
      Channel.commands_quiet retimed quiet hl.enabled commands ⟨budget.lawful, rfl⟩
    refine budget.of_same lawful same ?_ ?_ ?_
    · exact congrArg (·.credits) only
    · exact congrArg (·.tx) only
    · exact congrArg (·.config) only
  | canData transmissions =>
    obtain ⟨fs, fates, sent⟩ := Channel.sent_transmissions transmissions
    obtain ⟨fs', -, rest⟩ := Checked.bind_eq_ok.1 noted
    cases rest
    exact budget.of_sent sent
  | commandDone =>
    cases noted
    exact budget.of_same budget.lawful rfl rfl rfl rfl
  | canDone =>
    cases noted
    exact budget.of_same budget.lawful rfl rfl rfl rfl
  | poll poll =>
    obtain ⟨a, arrivals, polled⟩ := Channel.poll_cases hl.sound.settled poll
    obtain ⟨a', arrivals', rest⟩ := Checked.bind_eq_ok.1 noted
    cases rest
    rw [arrivals] at arrivals'
    cases arrivals'
    exact budget.of_polled hl.sound.settled.tx arrivals polled
  | wakeUp look =>
    cases noted
    obtain ⟨ms, flow⟩ := hl.flow look
    exact budget.of_flow flow
  | serve told look =>
    cases noted
    obtain ⟨ms, flow⟩ := hl.unsignalled.flow look
    have unsignalled : Budget A total refused { l with channel := { l.channel with wake := false } } :=
      budget.of_same budget.lawful rfl rfl rfl rfl
    exact unsignalled.of_flow flow
  | wait =>
    cases noted
    exact budget

/-- induction on the events: what the parts refused adds up -/
theorem budget_records {es : List (LaneEvent σ)} (hl : l.Session o) (quiet : ∀ e ∈ es, e.InSession o)
    (allowed : ∀ e ∈ es, A.Allows e) (budget : Budget A total refused l) (h : l.records es = .ok (k, l')) :
    Budget A total (refused + k.refused.length) l' := by
  induction es generalizing l k refused with
  | nil =>
    cases h
    exact budget
  | cons e es ih =>
    obtain ⟨k₁, noted, h⟩ := Checked.bind_eq_ok.1 h
    obtain ⟨l₁, first, h⟩ := Checked.bind_eq_ok.1 h
    obtain ⟨⟨k₂, l₂⟩, later, h⟩ := Checked.bind_eq_ok.1 h
    cases h
    have here := List.mem_cons_self (a := e) (l := es)
    obtain ⟨-, -, -, session, -⟩ := session_play hl (quiet e here) first
    have after := budget_play hl (quiet e here) (allowed e here) budget first noted
    have total := ih session (fun e he => quiet e (List.mem_cons_of_mem _ he))
      (fun e he => allowed e (List.mem_cons_of_mem _ he)) after later
    have refusals : (k₁ ++ k₂).refused.length = k₁.refused.length + k₂.refused.length := List.length_append
    rwa [refusals, ← Nat.add_assoc]

/-- **Conservation.** Take a session that starts when the channel joins the bus, with a controller that answers each
frame it took exactly once. At its end, and so at each point of it, the credits, the frames that are outstanding, the
events that wait in their ring and those that the full ring refused make up the places of the controller, neither more
nor less. So no more frames are ever outstanding than the controller has places; and a controller with no more places
than the ring has never loses an event. -/
theorem credits_conserved (A : AnswersOnce σ) {es : List (LaneEvent σ)} (opens : l.Opens A)
    (quiet : ∀ e ∈ es, e.InSession l.channel.config.order) (allowed : ∀ e ∈ es, A.Allows e) (h : l.plays es = .ok l') :
    ∃ k, l.records es = .ok (k, l') ∧
      l'.channel.credits.toNat + (A.outstanding l'.channel.controller).card + l'.channel.tx.toList.length +
        k.refused.length = l.channel.config.txFifo.toNat ∧
      (A.outstanding l'.channel.controller).card ≤ l.channel.config.txFifo.toNat ∧
      (l.channel.config.txFifo.toNat ≤ 32 → k.refused = []) := by
  obtain ⟨k, -, records, -, -⟩ := session_plays opens.session quiet h
  have budget := budget_records opens.session quiet allowed opens.budget records
  rw [Nat.zero_add] at budget
  have balance := budget.balance
  unfold places at balance
  refine ⟨k, records, ?_, by omega, fun small => List.length_eq_zero_iff.1 (budget.roomy small)⟩
  rw [Ring.length_toList, balance]

/-- the first session of a channel whose controller has forty places and echoes each frame -/
theorem opens_echoing {c : Channel SimController}
    (h : Channel.create 0 { Config.default with txFifo := 40 } { echoes := true } = .ok c) :
    Opens SimController.answersOnce (ofChannel ((c.setMounted true).setBus true)) := by
  have sound := Channel.sound_create h
  obtain ⟨settings, -, h⟩ := Checked.bind_eq_ok.1 h
  cases h
  exact opens_setBus (l := ofChannel (Channel.setMounted true _)) rfl rfl
    ⟨⟨sound.settled.rx, sound.settled.tx, sound.settled.status, sound.settled.errors⟩, sound.whole⟩
    (Ring.toList_empty _) rfl rfl

/-- a request under the number 7 -/
def requestSeven : Bytes := [0x12, 12, 0, 0, 5, 0, 0, 0, 7, 0, 0, 0]

/-- more frames are sent than the ring has room for, and another one is on its way -/
def crowdedRing : List (LaneEvent SimController) :=
  [.op (.canData (List.replicate 34 requestSeven).flatten), .op .poll, .op (.canData requestSeven)]

/-- five credits, one frame that is outstanding, 32 events that wait and two that were refused make forty places -/
theorem crowdedRing_conserved : ∃ (l l' : Lane SimController) (k : Ledger), l.Opens SimController.answersOnce ∧
    l.plays crowdedRing = .ok l' ∧ l.records crowdedRing = .ok (k, l') ∧ l.channel.config.txFifo.toNat = 40 ∧
      l'.channel.credits.toNat = 5 ∧ l'.channel.controller.events.length = 1 ∧ l'.channel.tx.toList.length = 32 ∧
      k.refused.length = 2 := by
  have ran : Checked.passes (fun l' : Lane SimController => l'.channel.credits == 5 &&
      l'.channel.controller.events.length == 1 && l'.channel.tx.used == 32)
      (Channel.create 0 { Config.default with txFifo := 40 } { echoes := true } >>= fun c =>
        (ofChannel ((c.setMounted true).setBus true)).plays crowdedRing) = true := by
    decide +kernel
  obtain ⟨l', run, state⟩ := Checked.of_passes ran
  simp only [Bool.and_eq_true, beq_iff_eq] at state
  obtain ⟨⟨credits, outstanding⟩, waiting⟩ := state
  obtain ⟨c, created, played⟩ := Checked.bind_eq_ok.1 run
  have opens := opens_echoing created
  have places : (ofChannel ((c.setMounted true).setBus true)).channel.config.txFifo.toNat = 40 := by
    obtain ⟨settings, -, created⟩ := Checked.bind_eq_ok.1 created
    cases created
    rfl
  have quiet (o : ByteOrder) : ∀ e ∈ crowdedRing, e.InSession o := by simp [crowdedRing, LaneEvent.InSession]
  have allowed : ∀ e ∈ crowdedRing, SimController.answersOnce.Allows e := by simp [crowdedRing, AnswersOnce.Allows]
  obtain ⟨k, records, balance, -, -⟩ :=
    credits_conserved SimController.answersOnce opens (quiet _) allowed played
  have card : (SimController.answersOnce.outstanding l'.channel.controller).card = 1 := by
    rw [SimController.answersOnce, Multiset.coe_card, List.length_map, outstanding]
  rw [← Ring.length_toList] at waiting
  have five : l'.channel.credits.toNat = 5 := congrArg UInt8.toNat credits
  refine ⟨_, l', k, opens, played, records, places, five, outstanding, waiting, ?_⟩
  omega

end Lane

end CanAdapter
