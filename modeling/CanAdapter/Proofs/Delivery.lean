/-
Delivery on the CAN pipe, in order and exactly once. In a session that starts with empty rings and nothing in the
collecting bank, the host reads every frame and every bus error that a ring accepted, in the order in which the ring
accepted them, apart from those that still wait there. The reports on transmissions are those of the transmit events
that left their ring and those of dropped requests, each of both in its own order.

`Lane.Starts` is how a session starts, and `starts_setBus` that joining the bus starts one. `delivered_in_order`
compares the stream that the host decodes with the ledger of the run.
-/
import CanAdapter.Bench.Controller
import CanAdapter.Proofs.Session

namespace CanAdapter

/-- the report as it arrives -/
def TxReport.normal (r : TxReport) : TxReport := { r with flags := .ofByte r.flags.bits }

namespace Message

theorem frame?_normal (m : Message) : m.normal.frame? = m.frame?.map Frame.normal := by cases m <;> rfl

theorem error?_normal (m : Message) : m.normal.error? = m.error? := by cases m <;> rfl

theorem txReport?_normal (m : Message) : m.normal.txReport? = m.txReport?.map TxReport.normal := by cases m <;> rfl

theorem frames_normal (ms : List Message) :
    (ms.map normal).filterMap frame? = (ms.filterMap frame?).map Frame.normal := by
  simp only [List.filterMap_map, List.map_filterMap, Function.comp_def, frame?_normal]

theorem errors_normal (ms : List Message) : (ms.map normal).filterMap error? = ms.filterMap error? := by
  simp only [List.filterMap_map, Function.comp_def, error?_normal]

theorem txReports_normal (ms : List Message) :
    (ms.map normal).filterMap txReport? = (ms.filterMap txReport?).map TxReport.normal := by
  simp only [List.filterMap_map, List.map_filterMap, Function.comp_def, txReport?_normal]

end Message

namespace Lane

variable {σ : Type} {l l' : Lane σ}

/-- a session that starts: nothing waits that an earlier one left -/
structure Starts (l : Lane σ) : Prop where
  mounted : l.channel.mounted = true
  enabled : l.channel.enabled = true
  settled : l.channel.Settled
  rx : l.channel.rx.toList = []
  tx : l.channel.tx.toList = []
  errors : l.channel.errors.toList = []
  filling : l.channel.can.filling = []

theorem Starts.session (h : l.Starts) : l.Session l.channel.config.order :=
  ⟨h.mounted, h.enabled, rfl, h.settled, Endpoint.whole_of_empty _ h.filling⟩

variable [Controller σ]

theorem starts_setBus (mounted : l.channel.mounted = true) (off : l.channel.enabled = false)
    (settled : l.channel.Settled) (rx : l.channel.rx.toList = []) (tx : l.channel.tx.toList = [])
    (errors : l.channel.errors.toList = []) (filling : l.channel.can.filling = []) :
    Starts { l with channel := l.channel.setBus true } := by
  have joins : l.channel.enabled ≠ true := by simp [off]
  simp only [Channel.setBus, joins, ↓reduceIte]
  exact ⟨mounted, rfl, ⟨settled.rx, settled.tx, settled.status, settled.errors⟩, rx, tx, errors, filling⟩

/-- the first session of a channel -/
theorem starts_of_create {index : UInt8} {config : Config} {s : σ} {c : Channel σ}
    (h : Channel.create index config s = .ok c) : Starts (ofChannel ((c.setMounted true).setBus true)) := by
  have sound := Channel.sound_create h
  obtain ⟨settings, -, h⟩ := Checked.bind_eq_ok.1 h
  cases h
  exact starts_setBus (l := ofChannel (Channel.setMounted true _)) rfl rfl
    ⟨sound.settled.rx, sound.settled.tx, sound.settled.status, sound.settled.errors⟩ (Ring.toList_empty _)
    (Ring.toList_empty _) (Ring.toList_empty _) rfl

/-- **Delivery.** Whatever happens in a session, the host decodes all that was handed to the CAN pipe. The frames and
bus errors in it, with those that still wait in their ring, are the ones that the ring accepted, in that order; the
reports on transmissions are a merge of those on the events that were taken out of the ring and those on dropped
requests. -/
theorem delivered_in_order {es : List (LaneEvent σ)} (start : l.Starts)
    (quiet : ∀ e ∈ es, e.InSession l.channel.config.order) (h : l.plays es = .ok l') :
    ∃ k ms, l.records es = .ok (k, l') ∧
      l'.channel.can.stream l.channel.config.order l.channel.can.started.length = .ok ms ∧
      ms.filterMap Message.frame? ++ l'.channel.rx.toList.map Frame.normal = k.frames.map Frame.normal ∧
      ms.filterMap Message.error? ++ l'.channel.errors.toList = k.errors ∧
      ∃ taken, taken ++ l'.channel.tx.toList = k.events ∧
        Interleaves (taken.map (·.report.normal)) (k.reports.map (·.normal)) (ms.filterMap Message.txReport?) := by
  obtain ⟨k, ms, records, -, balance⟩ := session_plays start.session quiet h
  have carries := balance.can _ _ (Endpoint.carries_of_empty l.channel.config.order start.filling)
  obtain ⟨taken, events, merged⟩ := balance.tx
  refine ⟨k, ms.map (·.normal), records, carries.stream, ?_, ?_, taken, ?_, ?_⟩
  · rw [Message.frames_normal, ← List.map_append, ← balance.rx, start.rx, List.nil_append]
  · rw [Message.errors_normal, ← balance.errors, start.errors, List.nil_append]
  · rw [← events, start.tx, List.nil_append]
  · rw [Message.txReports_normal]
    have normal := merged.map TxReport.normal
    rwa [List.map_map] at normal

/-- A frame, a bus error and a transmit event arrive; the controller refuses a request; the host takes a transfer. Then
another frame arrives. -/
def busySession : List (LaneEvent SimController) :=
  [.moved fun s => { s with
      rx := [{ Frame.empty with id := 5 }]
      errors := [⟨.stuff, false, false, 17⟩]
      events := [⟨9, .empty, 0, 0⟩]
      refuses := true },
    .op .poll, .op (.canData [0x12, 12, 0, 0, 5, 0, 0, 0, 7, 0, 0, 0]), .op (.commandData [3, 2]), .op (.wakeUp 0),
    .op .canDone, .op .poll, .op (.serve 1), .moved fun s => { s with rx := [{ Frame.empty with id := 6 }] }, .op .poll]

/-- the host reads the frame, the error, and the reports on the refused request and on the event; the other frame waits -/
theorem busySession_delivered : ∃ (l l' : Lane SimController) (k : Ledger) (ms : List Message),
    l.Starts ∧ l.plays busySession = .ok l' ∧ l.records busySession = .ok (k, l') ∧
      l'.channel.can.stream l.channel.config.order l.channel.can.started.length = .ok ms ∧
      ms.filterMap Message.frame? ++ l'.channel.rx.toList.map Frame.normal = k.frames.map Frame.normal ∧
      ms.filterMap Message.frame? = [{ Frame.empty with id := 5 }] ∧
      l'.channel.rx.toList = [{ Frame.empty with id := 6 }] ∧
      ms.filterMap Message.error? = [⟨.stuff, false, false, 17⟩] ∧
      ms.filterMap Message.txReport? = [⟨7, .drp, 0⟩, ⟨9, .empty, 0⟩] ∧ l'.channel.tx.toList = [] := by
  have ran : Checked.passes (fun r : Lane SimController × Lane SimController =>
      decide (r.2.channel.rx.toList = [{ Frame.empty with id := 6 }] ∧ r.2.channel.tx.toList = []) &&
      Checked.passes (fun ms => decide (ms.filterMap Message.frame? = [{ Frame.empty with id := 5 }] ∧
        ms.filterMap Message.error? = [⟨.stuff, false, false, 17⟩] ∧
        ms.filterMap Message.txReport? = [⟨7, .drp, 0⟩, ⟨9, .empty, 0⟩]))
        (r.2.channel.can.stream r.1.channel.config.order r.1.channel.can.started.length))
      ((fun c => ofChannel ((c.setMounted true).setBus true)) <$> Channel.create 0 .default {} >>= fun l =>
        l.plays busySession >>= fun l' => pure (l, l')) = true := by
    decide +kernel
  obtain ⟨l, l', joined, played, state⟩ := Checked.of_passes_pair ran
  obtain ⟨c, created, rfl⟩ := Checked.map_eq_ok.1 joined
  have start := starts_of_create created
  have harmless (o : ByteOrder) : Channel.Quiet o [3, 2] := by
    have asked : messages [3, 2] = [⟨3, [3, 2]⟩] := by decide
    intro m hm
    rw [asked, List.mem_singleton] at hm
    subst hm
    exact ⟨by decide, fun id => absurd id (by decide)⟩
  have quiet (o : ByteOrder) : ∀ e ∈ busySession, e.InSession o := by
    simp [busySession, LaneEvent.InSession, harmless o]
  obtain ⟨k, ms, records, stream, frames, -⟩ := delivered_in_order start (quiet _) played
  rw [stream, Checked.passes, Bool.and_eq_true] at state
  obtain ⟨waiting, untaken⟩ := of_decide_eq_true state.1
  obtain ⟨received, errors, reports⟩ := of_decide_eq_true state.2
  exact ⟨_, l', k, ms, start, played, records, stream, frames, received, waiting, errors, reports, untaken⟩

end Lane

end CanAdapter
