/-
Every transmit request is accounted for. A request that could be read was either taken by the controller, and then its
number comes back on a transmit event, or it was dropped, and then a report says so; the only requests that are lost are
those of events that found their ring full and those of reports that found no room, and then the host is told that it
lost something.

`AnswersOnce` is what is asked of the controller: one transmit event under the same number for each frame that it took,
and no others. `balanced_play` balances the numbers over one event of a session, `balanced_records` over a history;
`requests_accounted_for` is the balance of a session as the host sees it.
-/
import CanAdapter.Proofs.Delivery
import Mathlib.Algebra.Order.Group.Multiset
import Mathlib.Tactic.Abel

namespace CanAdapter

/-- A controller that answers every frame it took with exactly one transmit event under the same number, and has no
other transmit events. Its `outstanding` numbers are those of the frames it took and of which no event was handed
out. -/
structure AnswersOnce (σ : Type) [Controller σ] where
  /-- the states that such a controller is in -/
  lawful : σ → Prop
  outstanding : σ → Multiset UInt8
  submit : ∀ {s : σ} (f : Frame) (track : UInt8), lawful s → lawful (Controller.submit f track s).2 ∧
    outstanding (Controller.submit f track s).2 =
      (if (Controller.submit f track s).1 then {track} else 0) + outstanding s
  drainTx : ∀ {s : σ}, lawful s → lawful (Controller.drainTx s).2 ∧
    outstanding s = ((Controller.drainTx s).1.items.map (·.track) : List UInt8) + outstanding (Controller.drainTx s).2
  drainRx : ∀ {s : σ}, lawful s →
    lawful (Controller.drainRx s).2 ∧ outstanding (Controller.drainRx s).2 = outstanding s
  takeError : ∀ {s : σ}, lawful s →
    lawful (Controller.takeError s).2 ∧ outstanding (Controller.takeError s).2 = outstanding s
  retime : ∀ {s s' : σ}, Controller.Retimed s s' → lawful s → lawful s' ∧ outstanding s' = outstanding s

namespace AnswersOnce

variable {σ : Type} [Controller σ] (A : AnswersOnce σ) {s s' : σ}

/-- what the controller does by itself neither takes frames nor hands out events -/
def Allows : LaneEvent σ → Prop
  | .moved f => ∀ s, A.lawful s → A.lawful (f s) ∧ A.outstanding (f s) = A.outstanding s
  | .op _ => True

variable {A}

/-- from `s` to `s'` the controller stayed lawful and gave up the numbers `ids` -/
def GivesUp (A : AnswersOnce σ) (ids : Multiset UInt8) (s s' : σ) : Prop :=
  A.lawful s → A.lawful s' ∧ A.outstanding s = ids + A.outstanding s'

theorem GivesUp.trans {ids more : Multiset UInt8} {s'' : σ} (h : A.GivesUp ids s s') (h' : A.GivesUp more s' s'') :
    A.GivesUp (ids + more) s s'' := by
  intro lawful
  obtain ⟨lawful, first⟩ := h lawful
  obtain ⟨lawful, later⟩ := h' lawful
  exact ⟨lawful, by rw [first, later, add_assoc]⟩

theorem givesUp_nothing (h : A.lawful s → A.lawful s' ∧ A.outstanding s' = A.outstanding s) : A.GivesUp 0 s s' := by
  intro lawful
  obtain ⟨lawful, same⟩ := h lawful
  exact ⟨lawful, by rw [same, zero_add]⟩

theorem givesUp_takeErrors (s : σ) : A.GivesUp 0 s (Controller.takeErrors s).2 := by
  unfold Controller.takeErrors
  generalize Controller.errorsLeft s + 1 = n
  induction n generalizing s with
  | zero => exact givesUp_nothing fun lawful => ⟨lawful, rfl⟩
  | succ n ih =>
    have taken : A.GivesUp 0 s (Controller.takeError s).2 := givesUp_nothing A.takeError
    unfold Controller.errorsUpTo
    generalize Controller.takeError s = r at taken
    obtain ⟨e, s₁⟩ := r
    cases e with
    | none => exact taken
    | some e => exact taken.trans (ih s₁)

theorem givesUp_drainAllRx (s : σ) : A.GivesUp 0 s (Controller.drainAllRx s).2 :=
  Controller.drainUpTo_rel (R := fun _ s s' => A.GivesUp 0 s s') (fun _ => givesUp_nothing A.drainRx)
    (fun h h' => h.trans h') _ s

theorem givesUp_drainAllTx (s : σ) : A.GivesUp
    ((Controller.drainAllTx s).1.flatMap (·.items.map (·.track)) : List UInt8) s (Controller.drainAllTx s).2 := by
  have drained : A.GivesUp (((Controller.drainAllTx s).1.flatMap (·.items)).map TxEvent.track : List UInt8) s
      (Controller.drainAllTx s).2 := by
    refine Controller.drainUpTo_rel (R := fun events s s' => A.GivesUp (events.map TxEvent.track : List UInt8) s s')
      ?_ ?_ (Controller.txLeft s) s
    · intro s
      exact A.drainTx
    · intro as bs s s' s'' h h'
      rw [List.map_append, ← Multiset.coe_add]
      exact h.trans h'
  rwa [List.map_flatMap] at drained

/-- a poll hands out the numbers of its transmit events -/
theorem givesUp_arrivals {c : Channel σ} {a : Arrivals} (h : c.arrivals = .ok a) :
    A.GivesUp (a.events.map (·.track) : List UInt8) c.controller (Channel.handedOut c.controller) := by
  obtain ⟨frames, -, h⟩ := Checked.bind_eq_ok.1 h
  obtain ⟨events, he, h⟩ := Checked.bind_eq_ok.1 h
  cases h
  have numbers := Channel.map_stampSent (f := (·.track)) (fun _ _ => rfl) he
  have all := ((givesUp_takeErrors (A := A) c.controller).trans (givesUp_drainAllRx _)).trans (givesUp_drainAllTx _)
  rw [zero_add, zero_add] at all
  rw [numbers]
  exact all

/-- the numbers of requests by their fate: reported as dropped, or not even that -/
def reportedIds (fs : List (TxRequest × Fate)) : Multiset UInt8 :=
  ((fs.filterMap (·.2.report?)).map (·.track) : List UInt8)

def unreportedIds (fs : List (TxRequest × Fate)) : Multiset UInt8 :=
  ((fs.filter (·.2 == .unreported)).map (·.1.track) : List UInt8)

/-- a dropped request is reported or unreported -/
theorem ids_of_drops {r : TxRequest} {f : Fate} (h : f.Drops r.track) (fs : List (TxRequest × Fate)) :
    reportedIds ((r, f) :: fs) + unreportedIds ((r, f) :: fs) = {r.track} + (reportedIds fs + unreportedIds fs) := by
  rcases h with rfl | ⟨t, rfl⟩
  · have unreported : unreportedIds ((r, .unreported) :: fs) = {r.track} + unreportedIds fs := rfl
    have reported : reportedIds ((r, .unreported) :: fs) = reportedIds fs := rfl
    rw [unreported, reported]
    abel
  · have unreported : unreportedIds ((r, .reported ⟨r.track, .drp, t⟩) :: fs) = unreportedIds fs := rfl
    have reported : reportedIds ((r, .reported ⟨r.track, .drp, t⟩) :: fs) = {r.track} + reportedIds fs := rfl
    rw [unreported, reported]
    abel

/-- every request of a CAN buffer is outstanding, reported as dropped, or unreported -/
theorem offered_balance {fs : List (TxRequest × Fate)} (h : Controller.Offered fs s s') (lawful : A.lawful s) :
    A.lawful s' ∧ (fs.map (·.1.track) : List UInt8) + A.outstanding s =
      A.outstanding s' + (reportedIds fs + unreportedIds fs) := by
  have split (r : TxRequest) (f : Fate) (fs : List (TxRequest × Fate)) :
      (((r, f) :: fs).map (·.1.track) : List UInt8) =
        ({r.track} + (fs.map (·.1.track) : List UInt8) : Multiset UInt8) := rfl
  induction h with
  | nil => exact ⟨lawful, by simp [reportedIds, unreportedIds]⟩
  | @forwarded r s s' fs took later ih =>
    obtain ⟨lawful, now⟩ := A.submit r.frame r.track lawful
    obtain ⟨lawful, balance⟩ := ih lawful
    have reported : reportedIds ((r, .forwarded) :: fs) = reportedIds fs := rfl
    have unreported : unreportedIds ((r, .forwarded) :: fs) = unreportedIds fs := rfl
    rw [took, if_pos rfl] at now
    refine ⟨lawful, ?_⟩
    rw [split, reported, unreported, ← balance, now]
    abel
  | @refused r f s s' fs dropped refused later ih =>
    obtain ⟨lawful, now⟩ := A.submit r.frame r.track lawful
    obtain ⟨lawful, balance⟩ := ih lawful
    rw [refused, if_neg Bool.false_ne_true, zero_add] at now
    refine ⟨lawful, ?_⟩
    rw [split, ids_of_drops dropped, add_left_comm, ← balance, now]
    abel
  | @unpaid r f s s' fs dropped later ih =>
    obtain ⟨lawful, balance⟩ := ih lawful
    refine ⟨lawful, ?_⟩
    rw [split, ids_of_drops dropped, add_left_comm, ← balance]
    abel

/-! ## The balance of a session -/

/-- the numbers of the requests that could be read -/
def requestedIds (k : Ledger) : Multiset UInt8 := (k.requests.map (·.track) : List UInt8)

/-- the numbers of all that a request comes back as: an event, accepted or not, or a drop, reported or not -/
def answeredIds (k : Ledger) : Multiset UInt8 :=
  (k.events.map (·.track) : List UInt8) + (k.refused.map (·.track) : List UInt8) +
    (reportedIds k.fates + unreportedIds k.fates)

theorem requestedIds_append (k more : Ledger) : requestedIds (k ++ more) = requestedIds k + requestedIds more := by
  have requests : (k ++ more).requests = k.requests ++ more.requests := List.map_append
  simp only [requestedIds, requests, List.map_append, Multiset.coe_add]

theorem answeredIds_append (k more : Ledger) : answeredIds (k ++ more) = answeredIds k + answeredIds more := by
  have events : (k ++ more).events = k.events ++ more.events := rfl
  have refused : (k ++ more).refused = k.refused ++ more.refused := rfl
  have fates : (k ++ more).fates = k.fates ++ more.fates := rfl
  simp only [answeredIds, reportedIds, unreportedIds, events, refused, fates, List.filterMap_append, List.filter_append,
    List.map_append, ← Multiset.coe_add]
  abel

variable {l l' l'' : Lane σ} {k k' : Ledger} {o : ByteOrder}

/-- From `l` to `l'`, with the entries `k`: the requests, and what was outstanding before, are what is outstanding, what
came back on transmit events, and what was dropped. -/
def Balanced (A : AnswersOnce σ) (k : Ledger) (l l' : Lane σ) : Prop :=
  A.lawful l.channel.controller → A.lawful l'.channel.controller ∧
    requestedIds k + A.outstanding l.channel.controller = A.outstanding l'.channel.controller + answeredIds k

theorem Balanced.trans (h : A.Balanced k l l') (h' : A.Balanced k' l' l'') : A.Balanced (k ++ k') l l'' := by
  intro lawful
  obtain ⟨lawful, first⟩ := h lawful
  obtain ⟨lawful, later⟩ := h' lawful
  refine ⟨lawful, ?_⟩
  calc requestedIds (k ++ k') + A.outstanding l.channel.controller
      = requestedIds k' + (requestedIds k + A.outstanding l.channel.controller) := by
        rw [requestedIds_append]
        abel
    _ = requestedIds k' + A.outstanding l'.channel.controller + answeredIds k := by rw [first, add_assoc]
    _ = A.outstanding l''.channel.controller + answeredIds k' + answeredIds k := by rw [later]
    _ = A.outstanding l''.channel.controller + answeredIds (k ++ k') := by
        rw [answeredIds_append]
        abel

/-- nothing entered, and nothing that concerns the controller's frames -/
theorem balanced_of_givesUp (h : A.GivesUp 0 l.channel.controller l'.channel.controller) :
    A.Balanced .blank l l' := by
  intro lawful
  obtain ⟨lawful, same⟩ := h lawful
  exact ⟨lawful, by simp [requestedIds, answeredIds, Ledger.blank, Ledger.requests, reportedIds, unreportedIds, same]⟩

theorem balanced_of_same (h : l'.channel.controller = l.channel.controller) : A.Balanced .blank l l' :=
  balanced_of_givesUp <| givesUp_nothing <| by
    intro lawful
    rw [h]
    exact ⟨lawful, rfl⟩

theorem balanced_wakeUp {now : Nat} {outcome : WakeOutcome} (h : l.wakeUp now = .ok (outcome, l')) :
    A.Balanced .blank l l' := by
  rcases Lane.wakeUp_cases h with ⟨-, -, rfl⟩ | ⟨-, -, -, rfl⟩ | ⟨-, -, -, ms, flow, -⟩
  · exact balanced_of_same rfl
  · exact balanced_of_same rfl
  · exact balanced_of_same (congrArg (·.controller) flow.channel)

theorem balanced_play {e : LaneEvent σ} (hl : l.Session o) (quiet : e.InSession o) (allowed : A.Allows e)
    (h : l.play e = .ok l') (noted : l.noted e = .ok k) : A.Balanced k l l' := by
  cases Lane.stepped h with
  | moved f =>
    cases noted
    exact balanced_of_givesUp (givesUp_nothing fun lawful => allowed _ lawful)
  | mount =>
    cases noted
    exact balanced_of_same rfl
  | detach => exact quiet.elim
  | usbReset => exact quiet.elim
  | commandData commands =>
    cases noted
    have order := hl.order
    subst order
    refine balanced_of_givesUp (givesUp_nothing ?_)
    intro lawful
    have retimed {s s' : σ} (timing : Controller.Retimed s s')
        (hs : A.lawful s ∧ A.outstanding s = A.outstanding l.channel.controller) :
        A.lawful s' ∧ A.outstanding s' = A.outstanding l.channel.controller := by
      obtain ⟨lawful, same⟩ := A.retime timing hs.1
      exact ⟨lawful, same.trans hs.2⟩
    exact (Channel.commands_quiet retimed quiet hl.enabled commands ⟨lawful, rfl⟩).2
  | canData transmissions =>
    obtain ⟨fs, fates, sent⟩ := Channel.sent_transmissions transmissions
    obtain ⟨fs', fates', rest⟩ := Checked.bind_eq_ok.1 noted
    cases rest
    rw [fates] at fates'
    cases fates'
    intro lawful
    obtain ⟨lawful, balance⟩ := offered_balance sent.controller lawful
    refine ⟨lawful, ?_⟩
    simpa [requestedIds, answeredIds, Ledger.blank, Ledger.requests, Function.comp_def] using balance
  | commandDone =>
    cases noted
    exact balanced_of_same rfl
  | canDone =>
    cases noted
    exact balanced_of_same rfl
  | poll poll =>
    obtain ⟨a, arrivals, polled⟩ := Channel.poll_cases hl.sound.settled poll
    obtain ⟨a', arrivals', rest⟩ := Checked.bind_eq_ok.1 noted
    cases rest
    rw [arrivals] at arrivals'
    cases arrivals'
    intro lawful
    obtain ⟨lawful, gone⟩ := givesUp_arrivals arrivals lawful
    have controller := congrArg (·.controller) polled.channel
    simp only at controller
    rw [controller]
    refine ⟨lawful, ?_⟩
    simp only [requestedIds, answeredIds, Ledger.requests, List.map_nil, Multiset.coe_nil, zero_add, reportedIds,
      unreportedIds, List.filterMap_nil, List.filter_nil, add_zero, Multiset.coe_add, ← List.map_append,
      List.take_append_drop]
    rw [gone, add_comm]
  | wakeUp look =>
    cases noted
    exact balanced_wakeUp look
  | serve told look =>
    cases noted
    have balance := balanced_wakeUp (A := A) look
    exact fun lawful => balance lawful
  | wait =>
    cases noted
    exact balanced_of_same rfl

/-- induction on the events -/
theorem balanced_records {es : List (LaneEvent σ)} (hl : l.Session o) (quiet : ∀ e ∈ es, e.InSession o)
    (allowed : ∀ e ∈ es, A.Allows e) (h : l.records es = .ok (k, l')) : A.Balanced k l l' := by
  induction es generalizing l k with
  | nil =>
    cases h
    exact balanced_of_same rfl
  | cons e es ih =>
    obtain ⟨k₁, noted, h⟩ := Checked.bind_eq_ok.1 h
    obtain ⟨l₁, first, h⟩ := Checked.bind_eq_ok.1 h
    obtain ⟨⟨k₂, l₂⟩, later, h⟩ := Checked.bind_eq_ok.1 h
    cases h
    have here := List.mem_cons_self (a := e) (l := es)
    obtain ⟨-, -, -, session, -⟩ := Lane.session_play hl (quiet e here) first
    exact (balanced_play hl (quiet e here) (allowed e here) first noted).trans
      (ih session (fun e he => quiet e (List.mem_cons_of_mem _ he))
        (fun e he => allowed e (List.mem_cons_of_mem _ he)) later)

end AnswersOnce

/-- the simulated controller answers once as long as it echoes what it takes -/
def SimController.answersOnce : AnswersOnce SimController where
  lawful s := s.echoes = true
  outstanding s := (s.events.map (·.track) : List UInt8)
  submit {s} f track lawful := by
    cases refuses : s.refuses with
    | true => simp [Controller.submit, submit, refuses, lawful]
    | false => simp [Controller.submit, submit, refuses, lawful]
  drainTx {s} lawful := by
    refine ⟨lawful, ?_⟩
    simp only [Controller.drainTx, drainTx, Multiset.coe_add, ← List.map_append, List.take_append_drop]
  drainRx lawful := ⟨lawful, rfl⟩
  takeError {s} lawful := by
    cases errors : s.errors <;> simp [Controller.takeError, takeError, errors, lawful]
  retime timing lawful := by
    cases timing <;> exact ⟨lawful, rfl⟩

theorem Interleaves.coe_eq {α : Type} {as bs cs : List α} (h : Interleaves as bs cs) :
    (cs : Multiset α) = (as : Multiset α) + (bs : Multiset α) := by
  induction h with
  | nil => rfl
  | left a _ ih => rw [← Multiset.cons_coe, ← Multiset.cons_coe, ih, Multiset.cons_add]
  | right b _ ih => rw [← Multiset.cons_coe, ← Multiset.cons_coe, ih, Multiset.add_cons]

namespace Lane

variable {σ : Type} [Controller σ] {l l' : Lane σ}

/-- **Accounting.** In a session of a controller that answers each frame it took exactly once, the numbers of all
requests that could be read are those outstanding in the controller, those that wait in the ring, those in the reports
that the host decodes, those of events that the full ring refused and those of dropped requests without a report; and
if there is any of the last two, the host is told. A request that cannot be read changes nothing. -/
theorem requests_accounted_for (A : AnswersOnce σ) {es : List (LaneEvent σ)} (start : l.Starts)
    (lawful : A.lawful l.channel.controller) (idle : A.outstanding l.channel.controller = 0)
    (quiet : ∀ e ∈ es, e.InSession l.channel.config.order) (allowed : ∀ e ∈ es, A.Allows e) (h : l.plays es = .ok l') :
    (∃ k ms, l.records es = .ok (k, l') ∧
      l'.channel.can.stream l.channel.config.order l.channel.can.started.length = .ok ms ∧
      ((k.requests.map (·.track) : List UInt8) : Multiset UInt8) =
        A.outstanding l'.channel.controller + (l'.channel.tx.toList.map (·.track) : List UInt8) +
          ((ms.filterMap Message.txReport?).map (·.track) : List UInt8) + (k.refused.map (·.track) : List UInt8) +
          (k.unreported.map (·.track) : List UInt8) ∧
      (k.refused ≠ [] ∨ k.unreported ≠ [] → l'.channel.desync = true)) ∧
    ∀ (c : Channel σ) (m : RawMessage) (e : WireError), m.id = MessageId.transmit →
      Layout.transmit.decode c.config.order m.bytes = .error e → c.transmission m = .ok c := by
  refine ⟨?_, fun c m e id unread => by simp [Channel.transmission, id, unread]⟩
  obtain ⟨k, ms, records, -, carried⟩ := session_plays start.session quiet h
  have carries := carried.can _ _ (Endpoint.carries_of_empty l.channel.config.order start.filling)
  obtain ⟨taken, events, merged⟩ := carried.tx
  rw [start.tx, List.nil_append] at events
  refine ⟨k, ms.map (·.normal), records, carries.stream, ?_, fun lost => carried.desync (.inr lost)⟩
  obtain ⟨-, balance⟩ := AnswersOnce.balanced_records start.session quiet allowed records lawful
  have fromRing : ((k.events.map (·.track) : List UInt8) : Multiset UInt8) =
      (taken.map (·.track) : List UInt8) + (l'.channel.tx.toList.map (·.track) : List UInt8) := by
    rw [events, List.map_append, Multiset.coe_add]
  have onPipe : (((ms.map (·.normal)).filterMap Message.txReport?).map (·.track) : List UInt8) =
      (taken.map (·.track) : List UInt8) + AnswersOnce.reportedIds k.fates := by
    have normal : ((ms.map (·.normal)).filterMap Message.txReport?).map (·.track) =
        (ms.filterMap Message.txReport?).map (·.track) := by
      rw [Message.txReports_normal, List.map_map]
      rfl
    have merge := (merged.map (·.track)).coe_eq
    rw [List.map_map] at merge
    rw [normal]
    exact merge
  have unreported : (k.unreported.map (·.track) : List UInt8) = AnswersOnce.unreportedIds k.fates := by
    simp only [Ledger.unreported, List.map_map, AnswersOnce.unreportedIds, Function.comp_def]
  calc ((k.requests.map (·.track) : List UInt8) : Multiset UInt8)
      = AnswersOnce.requestedIds k + A.outstanding l.channel.controller := by
        rw [idle, add_zero]
        rfl
    _ = A.outstanding l'.channel.controller + AnswersOnce.answeredIds k := balance
    _ = _ := by
        rw [AnswersOnce.answeredIds, fromRing, onPipe, unreported]
        abel

/-- One request is taken, one is refused, and one does not read; the task reports on the two. Of two more, one has been
sent and the other has not. -/
def fiveRequests : List (LaneEvent SimController) :=
  [.op (.canData [0x12, 12, 0, 0, 5, 0, 0, 0, 7, 0, 0, 0]), .moved fun s => { s with refuses := true },
    .op (.canData [0x12, 12, 0, 0, 5, 0, 0, 0, 8, 0, 0, 0, 0x12, 4, 0, 0]), .op .poll, .op (.serve 0), .op .canDone,
    .moved fun s => { s with refuses := false }, .op (.canData [0x12, 12, 0, 0, 5, 0, 0, 0, 9, 0, 0, 0]), .op .poll,
    .op (.canData [0x12, 12, 0, 0, 5, 0, 0, 0, 10, 0, 0, 0])]

/-- two of the four that read are answered, one waits in the ring and one is outstanding; none is refused by the ring
or left without a report -/
theorem fiveRequests_accounted_for : ∃ (l l' : Lane SimController) (k : Ledger) (ms : List Message),
    l.Starts ∧ l.plays fiveRequests = .ok l' ∧ l.records fiveRequests = .ok (k, l') ∧
      l'.channel.can.stream l.channel.config.order l.channel.can.started.length = .ok ms ∧
      ((k.requests.map (·.track) : List UInt8) : Multiset UInt8) =
        (l'.channel.controller.events.map (·.track) : List UInt8) + (l'.channel.tx.toList.map (·.track) : List UInt8) +
          ((ms.filterMap Message.txReport?).map (·.track) : List UInt8) + (k.refused.map (·.track) : List UInt8) +
          (k.unreported.map (·.track) : List UInt8) ∧
      k.requests.map (·.track) = [7, 8, 9, 10] ∧ l'.channel.controller.events.map (·.track) = [10] ∧
      l'.channel.tx.toList.map (·.track) = [9] ∧ (ms.filterMap Message.txReport?).map (·.track) = [8, 7] ∧
      k.refused = [] ∧ k.unreported = [] ∧ l'.channel.desync = false := by
  have ran : Checked.passes (fun r : Lane SimController × Lane SimController =>
      decide (r.2.channel.controller.events.map (·.track) = [10] ∧ r.2.channel.tx.toList.map (·.track) = [9] ∧
        r.2.channel.desync = false) &&
      Checked.passes (fun ms => decide ((ms.filterMap Message.txReport?).map (·.track) = [8, 7]))
        (r.2.channel.can.stream r.1.channel.config.order r.1.channel.can.started.length) &&
      Checked.passes (fun r : Ledger × Lane SimController => decide (r.1.requests.map (·.track) = [7, 8, 9, 10]))
        (r.1.records fiveRequests))
      ((fun c => ofChannel ((c.setMounted true).setBus true)) <$> Channel.create 0 .default { echoes := true } >>=
        fun l => l.plays fiveRequests >>= fun l' => pure (l, l')) = true := by
    decide +kernel
  obtain ⟨l, l', joined, played, state⟩ := Checked.of_passes_pair ran
  obtain ⟨c, created, rfl⟩ := Checked.map_eq_ok.1 joined
  have start := starts_of_create created
  obtain ⟨settings, -, created⟩ := Checked.bind_eq_ok.1 created
  cases created
  have quiet (o : ByteOrder) : ∀ e ∈ fiveRequests, e.InSession o := by simp [fiveRequests, LaneEvent.InSession]
  have allowed : ∀ e ∈ fiveRequests, SimController.answersOnce.Allows e := by
    simp [fiveRequests, AnswersOnce.Allows, SimController.answersOnce]
  obtain ⟨⟨k, ms, records, stream, balance, told⟩, -⟩ :=
    requests_accounted_for SimController.answersOnce start rfl rfl (quiet _) allowed played
  rw [stream, records] at state
  simp only [Checked.passes, Bool.and_eq_true, decide_eq_true_eq] at state
  obtain ⟨⟨⟨outstanding, waiting, kept⟩, answered⟩, requests⟩ := state
  have noLoss : ¬(k.refused ≠ [] ∨ k.unreported ≠ []) := fun lost => absurd (told lost) (by simp [kept])
  simp only [not_or, ne_eq, not_not] at noLoss
  exact ⟨_, l', k, ms, start, played, records, stream, balance, requests, outstanding, waiting, answered, noLoss.1,
    noLoss.2, kept⟩

end Lane

end CanAdapter
