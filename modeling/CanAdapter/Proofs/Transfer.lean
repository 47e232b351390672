/-
What the host makes of the transfers of a pipe. It walks each transfer and reads every message in it; a transfer with a
header that cannot be right, or with a message that does not read, is refused as a whole.

`readTransfer_wire`: messages of the adapter, written one after the other, are read as these messages.
`Endpoint.stream` is all that the host has read, or will read, of an endpoint since some transfer: the transfers
started since, in order, and the bank that collects. `Endpoint.Carries` is the invariant that the bytes are always
those of whole messages, and `Endpoint.Appends` says of an operation which messages it adds to whatever the stream
was. `Endpoint.Uses` says what an operation may do to the pipe: it leaves an outstanding transfer alone and starts one
if there is none. `Endpoint.Posts` is both, with a lemma for each operation but completion; only `appendMessage` and
`push` add anything.
-/
import CanAdapter.Endpoint
import CanAdapter.Message.Walk
import CanAdapter.Proofs.RoundTrip

namespace CanAdapter

/-! ## Reading -/

/-- the messages of a walk of at most `n` steps, or what is wrong with a header -/
def Walker.readAll : Nat → Walker → Except WireError (List RawMessage)
  | 0, _ => .ok []
  | n + 1, w =>
    match w.next with
    | (none, _) => .ok []
    | (some (.error e), _) => .error e
    | (some (.ok m), w) => do
      return m :: (← readAll n w)

/-- reads a message that the adapter sent -/
def RawMessage.reply (o : ByteOrder) (m : RawMessage) : Except WireError Message := Message.decodeReply o m.id m.bytes

/-- the messages of one transfer -/
def readTransfer (o : ByteOrder) (bytes : Bytes) : Except WireError (List Message) := do
  (← Walker.readAll (bytes.length / headerLength + 1) (Walker.ofBytes bytes)).mapM (·.reply o)

/-- the messages of some transfers, one transfer after the other -/
def readTransfers (o : ByteOrder) : List Bytes → Except WireError (List Message)
  | [] => .ok []
  | t :: ts => do
    let ms ← readTransfer o t
    return ms ++ (← readTransfers o ts)

/-! ## Writing -/

/-- messages written one after the other -/
def wire (o : ByteOrder) (ms : List Message) : Bytes := ms.flatMap (·.encode o)

/-- the adapter sends messages of this kind, so the host knows it by its id -/
def Message.IsReply (m : Message) : Prop := MessageKind.ofReplyId? m.kind.id = some m.kind

/-- the end of a walk, or the zero bytes that mark it -/
def EndsWalk (rest : Bytes) : Prop := rest = [] ∨ ∃ b tail, rest = 0 :: b :: tail

theorem EndsWalk.next {rest : Bytes} (h : EndsWalk rest) (offset : Nat) :
    (Walker.next ⟨offset, rest, false⟩).1 = none := by
  rcases h with rfl | ⟨b, tail, rfl⟩ <;> simp [Walker.next]

theorem Walker.next_encode (m : Message) (o : ByteOrder) (offset : Nat) (rest : Bytes) :
    Walker.next ⟨offset, m.encode o ++ rest, false⟩ =
      (some (.ok ⟨m.kind.id, m.encode o⟩), ⟨offset + m.wireLength, rest, false⟩) := by
  have len := m.length_encode o
  have bounds := m.wireLength_le
  have byte : (UInt8.ofNat m.wireLength).toNat = m.wireLength := by
    simp only [maxCanMessage, maxPayload, alignLength, lengthUnit] at bounds
    simp only [UInt8.toNat_ofNat']
    omega
  have id : m.kind.id ≠ 0 := by cases m.kind <;> decide
  have length : UInt8.ofNat m.wireLength ≠ 0 := fun e => by
    rw [e] at byte
    simp at byte
    omega
  obtain ⟨tail, start⟩ : ∃ tail, m.encode o = m.kind.id :: UInt8.ofNat m.wireLength :: tail :=
    ⟨_, by rw [Message.encode, Packet.encode_eq, m.id_kind]; rfl⟩
  have total : (m.encode o ++ rest).length = m.wireLength + rest.length := by rw [List.length_append, len]
  rw [start] at len total ⊢
  simp only [next, List.cons_append, Bool.false_eq_true, ↓reduceIte, id, length, or_self, byte] at total ⊢
  rw [if_neg (by simp only [headerLength]; omega), if_neg (by omega)]
  have front : ((m.kind.id :: UInt8.ofNat m.wireLength :: tail) ++ rest).take m.wireLength = _ := List.take_left' len
  have back : ((m.kind.id :: UInt8.ofNat m.wireLength :: tail) ++ rest).drop m.wireLength = rest := List.drop_left' len
  simp only [List.cons_append] at front back
  rw [front, back]

/-- the message as a walk finds it -/
def Message.raw (o : ByteOrder) (m : Message) : RawMessage := ⟨m.kind.id, m.encode o⟩

theorem Walker.readAll_wire {o : ByteOrder} {ms : List Message} {rest : Bytes} (h : EndsWalk rest) {n : Nat}
    (bound : ms.length < n) (offset : Nat) :
    Walker.readAll n ⟨offset, wire o ms ++ rest, false⟩ = .ok (ms.map (·.raw o)) := by
  induction ms generalizing n offset with
  | nil =>
    obtain ⟨n, rfl⟩ := Nat.exists_eq_succ_of_ne_zero (Nat.ne_of_gt bound)
    have done := h.next offset
    simp only [wire, List.flatMap_nil, List.nil_append, readAll]
    generalize Walker.next ⟨offset, rest, false⟩ = r at done
    obtain ⟨a, w⟩ := r
    cases done
    rfl
  | cons m ms ih =>
    obtain ⟨n, rfl⟩ := Nat.exists_eq_succ_of_ne_zero (Nat.ne_of_gt (Nat.zero_lt_of_lt bound))
    have later := ih (n := n) (by simp at bound; omega) (offset + m.wireLength)
    have split : wire o (m :: ms) ++ rest = m.encode o ++ (wire o ms ++ rest) := by simp [wire]
    simp only [split, readAll, Walker.next_encode, later]
    rfl

theorem length_le_wire (o : ByteOrder) (ms : List Message) : 4 * ms.length ≤ (wire o ms).length := by
  induction ms with
  | nil => simp
  | cons m ms ih =>
    have := m.wireLength_le.1
    have len := m.length_encode o
    simp only [wire, List.flatMap_cons, List.length_append, List.length_cons] at ih ⊢
    omega

theorem Message.reply_raw {m : Message} (h : m.IsReply) (o : ByteOrder) : (m.raw o).reply o = .ok m.normal := by
  have read := m.decode_encode o []
  rw [List.append_nil] at read
  unfold IsReply at h
  simp only [RawMessage.reply, Message.raw, Message.decodeReply, h, read]

theorem mapM_reply {o : ByteOrder} {ms : List Message} (h : ∀ m ∈ ms, m.IsReply) :
    (ms.map (·.raw o)).mapM (·.reply o) = .ok (ms.map (·.normal)) := by
  induction ms with
  | nil => rfl
  | cons m ms ih =>
    have here := Message.reply_raw (h m (by simp)) o
    have later := ih fun x hx => h x (by simp [hx])
    simp only [List.map_cons, List.mapM_cons, here, later]
    rfl

theorem readTransfer_wire {o : ByteOrder} {ms : List Message} (h : ∀ m ∈ ms, m.IsReply) {rest : Bytes}
    (ends : EndsWalk rest) : readTransfer o (wire o ms ++ rest) = .ok (ms.map (·.normal)) := by
  have bound : ms.length < (wire o ms ++ rest).length / headerLength + 1 := by
    have := length_le_wire o ms
    simp only [headerLength, List.length_append]
    omega
  rw [readTransfer, Walker.ofBytes, Walker.readAll_wire ends bound 0]
  exact mapM_reply h

theorem readTransfers_append {o : ByteOrder} {ts more : List Bytes} {ms ns : List Message}
    (h : readTransfers o ts = .ok ms) (h' : readTransfers o more = .ok ns) :
    readTransfers o (ts ++ more) = .ok (ms ++ ns) := by
  induction ts generalizing ms with
  | nil =>
    cases h
    exact h'
  | cons t ts ih =>
    rw [readTransfers] at h
    obtain ⟨first, ht, h⟩ := Checked.bind_eq_ok.1 h
    obtain ⟨later, hts, h⟩ := Checked.bind_eq_ok.1 h
    cases h
    rw [List.cons_append, readTransfers, ht, ih hts, List.append_assoc]
    rfl

theorem readTransfers_singleton {o : ByteOrder} {t : Bytes} {ms : List Message} (h : readTransfer o t = .ok ms) :
    readTransfers o [t] = .ok ms := by
  simp [readTransfers, h, bind, Except.bind, pure, Except.pure]

/-! ## The operations of an endpoint, each with all it can do -/

namespace Endpoint

variable {size : Nat} {o : ByteOrder} {e e' : Endpoint size} {m : Message} {transfer : Bytes}

/-- the collecting bank goes to the host as one transfer -/
def HandsOver (e e' : Endpoint size) : Prop :=
  e.filling ≠ [] ∧ e.sending = [] ∧
    ∃ transfer, transferOf size e.filling = .ok transfer ∧
      e' = ⟨[], transfer, e.started ++ [transfer], e.collecting.other⟩

theorem transferOf_cases {content : Bytes} (h : transferOf size content = .ok transfer) :
    transfer = content ∨ transfer = content ++ shortPacketPad := by
  unfold transferOf at h
  split at h
  · split at h
    · cases h
      exact .inr rfl
    · cases h
  · cases h
    exact .inl rfl

theorem submit_cases {r : Except EndpointError (Endpoint size)} (h : e.submit = .ok r) :
    (r = .error .nothingToSend ∧ e.filling = []) ∨ (r = .error .busy ∧ e.filling ≠ [] ∧ e.sending ≠ []) ∨
      ∃ e', r = .ok e' ∧ e.HandsOver e' := by
  by_cases pending : e.filling = []
  · rw [submit_of_empty pending] at h
    cases h
    exact .inl ⟨rfl, pending⟩
  · by_cases idle : e.sending = []
    · rw [submit_of_idle pending idle] at h
      obtain ⟨transfer, ht, rfl⟩ := Checked.map_eq_ok.1 h
      exact .inr (.inr ⟨_, rfl, pending, idle, transfer, ht, rfl⟩)
    · rw [submit_of_busy pending idle] at h
      cases h
      exact .inr (.inl ⟨rfl, pending, idle⟩)

theorem trySubmit_cases (h : e.trySubmit = .ok e') :
    (e' = e ∧ (e.filling = [] ∨ e.sending ≠ [])) ∨ e.HandsOver e' := by
  obtain ⟨r, hr, h⟩ := Checked.bind_eq_ok.1 h
  rcases submit_cases hr with ⟨rfl, empty⟩ | ⟨rfl, -, busy⟩ | ⟨e₁, rfl, handed⟩
  · cases h
    exact .inl ⟨rfl, .inl empty⟩
  · cases h
    exact .inl ⟨rfl, .inr busy⟩
  · cases h
    exact .inr handed

theorem flush_cases (h : e.flush = .ok e') :
    (e' = e ∧ (e.filling = [] ∨ e.sending ≠ [])) ∨ e.HandsOver e' := by
  unfold flush at h
  split at h
  · exact trySubmit_cases h
  · rename_i none
    cases h
    refine .inl ⟨rfl, ?_⟩
    by_cases empty : e.filling = []
    · exact .inl empty
    · exact .inr (by simpa [hasPending, ready, empty] using none)

/-- after a flush nothing waits for a host that could take it -/
theorem settled_flush (h : e.flush = .ok e') : e'.filling = [] ∨ e'.sending ≠ [] := by
  rcases flush_cases h with ⟨rfl, settled⟩ | ⟨-, -, transfer, -, rfl⟩
  · exact settled
  · exact .inl rfl

theorem sending_flush (h : e.flush = .ok e') (busy : e.sending ≠ []) : e'.sending ≠ [] := by
  rcases flush_cases h with ⟨rfl, -⟩ | ⟨-, idle, -⟩
  · exact busy
  · exact absurd idle busy

theorem complete_cases (h : e.complete = .ok e') :
    (e.filling = [] ∧ e' = { e with sending := [] }) ∨ HandsOver { e with sending := [] } e' := by
  unfold complete at h
  simp only at h
  split at h
  · rename_i pending
    rcases trySubmit_cases h with ⟨-, none | busy⟩ | handed
    · exact absurd none (by simpa [hasPending] using pending)
    · exact absurd rfl busy
    · exact .inr handed
  · rename_i none
    cases h
    exact .inl ⟨by simpa [hasPending] using none, rfl⟩

theorem appendMessage_ne_none (h : m.wireLength ≤ e.remaining) : e.appendMessage o m ≠ none := by
  simp [appendMessage, h]

theorem push_cases {r : Except EndpointError Unit} (h : e.push o m = .ok (r, e')) :
    (r = .ok () ∧ (e.appendMessage o m = some e' ∨ ∃ e₁, e.HandsOver e₁ ∧ e₁.appendMessage o m = some e')) ∨
      (∃ err, r = .error err) ∧ (e' = e ∨ e.HandsOver e') := by
  unfold push at h
  split at h
  · rename_i fits
    cases h
    exact .inl ⟨rfl, .inl fits⟩
  · split at h
    · cases h
      exact .inr ⟨⟨_, rfl⟩, .inl rfl⟩
    · obtain ⟨s, hs, h⟩ := Checked.bind_eq_ok.1 h
      rcases submit_cases hs with ⟨rfl, -⟩ | ⟨rfl, -⟩ | ⟨e₁, rfl, handed⟩
      · cases h
        exact .inr ⟨⟨_, rfl⟩, .inl rfl⟩
      · cases h
        exact .inr ⟨⟨_, rfl⟩, .inl rfl⟩
      · simp only at h
        split at h
        · rename_i fits
          cases h
          exact .inl ⟨rfl, .inr ⟨e₁, handed, fits⟩⟩
        · cases h
          exact .inr ⟨⟨_, rfl⟩, .inr handed⟩

/-! ## The stream of an endpoint -/

/-- what the host has read, or will read, of an endpoint after its first `base` transfers -/
def stream (o : ByteOrder) (base : Nat) (e : Endpoint size) : Except WireError (List Message) :=
  readTransfers o (e.started.drop base ++ [e.filling])

/-- the stream after `base` transfers is the messages `ms`; the last of them may still wait in the collecting bank -/
def Carries (o : ByteOrder) (base : Nat) (ms : List Message) (e : Endpoint size) : Prop :=
  ∃ sent pending, ms = sent ++ pending ∧ (∀ m ∈ pending, m.IsReply) ∧ base ≤ e.started.length ∧
    readTransfers o (e.started.drop base) = .ok (sent.map (·.normal)) ∧ e.filling = wire o pending

/-- an operation from `e` to `e'` adds the messages `ms` to the stream, whatever it was -/
def Appends (o : ByteOrder) (ms : List Message) (e e' : Endpoint size) : Prop :=
  ∀ base before, e.Carries o base before → e'.Carries o base (before ++ ms)

theorem carries_of_empty (o : ByteOrder) (h : e.filling = []) : e.Carries o e.started.length [] :=
  ⟨[], [], rfl, by simp, Nat.le_refl _, by simp [readTransfers], h⟩

theorem Carries.stream {base : Nat} {ms : List Message} (h : e.Carries o base ms) :
    e.stream o base = .ok (ms.map (·.normal)) := by
  obtain ⟨sent, pending, rfl, replies, -, read, filling⟩ := h
  have last := readTransfer_wire (o := o) replies (.inl rfl)
  rw [List.append_nil, ← filling] at last
  rw [List.map_append]
  exact readTransfers_append read (readTransfers_singleton last)

theorem Appends.refl (o : ByteOrder) (e : Endpoint size) : Appends o [] e e := by
  intro base before h
  rwa [List.append_nil]

theorem Appends.trans {e'' : Endpoint size} {ms ns : List Message} (h : Appends o ms e e') (h' : Appends o ns e' e'') :
    Appends o (ms ++ ns) e e'' := by
  intro base before carries
  rw [← List.append_assoc]
  exact h' _ _ (h _ _ carries)

theorem appends_appendMessage (hm : m.IsReply) (h : e.appendMessage o m = some e') : Appends o [m] e e' := by
  rintro base before ⟨sent, pending, rfl, replies, started, read, filling⟩
  unfold appendMessage at h
  split at h
  · cases h
    refine ⟨sent, pending ++ [m], by simp, ?_, started, read, ?_⟩
    · simpa [or_imp, forall_and, hm] using replies
    · simp [filling, wire]
  · cases h

/-- the padding of a transfer is not read -/
theorem readTransfer_transferOf {ms : List Message} (replies : ∀ m ∈ ms, m.IsReply)
    (h : transferOf size (wire o ms) = .ok transfer) : readTransfer o transfer = .ok (ms.map (·.normal)) := by
  rcases transferOf_cases h with rfl | rfl
  · have read := readTransfer_wire (o := o) replies (.inl rfl)
    rwa [List.append_nil] at read
  · exact readTransfer_wire replies (.inr ⟨0, [0, 0], rfl⟩)

theorem appends_of_handsOver (h : e.HandsOver e') : Appends o [] e e' := by
  rintro base before ⟨sent, pending, rfl, replies, started, read, filling⟩
  obtain ⟨-, -, transfer, ht, rfl⟩ := h
  refine ⟨sent ++ pending, [], by simp, by simp, ?_, ?_, rfl⟩
  · simp only [List.length_append]
    omega
  · rw [filling] at ht
    rw [List.drop_append_of_le_length started, List.map_append]
    exact readTransfers_append read (readTransfers_singleton (readTransfer_transferOf replies ht))

theorem appends_complete (h : e.complete = .ok e') : Appends o [] e e' := by
  rcases complete_cases h with ⟨-, rfl⟩ | handed
  · exact .refl o e
  · exact fun base before carries => appends_of_handsOver handed base before carries

/-- the collecting bank holds whole messages -/
def Whole (o : ByteOrder) (e : Endpoint size) : Prop := ∃ ms, (∀ m ∈ ms, m.IsReply) ∧ e.filling = wire o ms

theorem whole_of_empty (o : ByteOrder) (h : e.filling = []) : e.Whole o := ⟨[], by simp, h⟩

theorem Whole.carries (h : e.Whole o) : ∃ ms, e.Carries o e.started.length ms := by
  obtain ⟨ms, replies, filling⟩ := h
  exact ⟨ms, [], ms, rfl, replies, Nat.le_refl _, by simp [readTransfers], filling⟩

theorem Carries.whole {base : Nat} {ms : List Message} (h : e.Carries o base ms) : e.Whole o := by
  obtain ⟨-, pending, -, replies, -, -, filling⟩ := h
  exact ⟨pending, replies, filling⟩

theorem Appends.whole {ms : List Message} (h : Appends o ms e e') (he : e.Whole o) : e'.Whole o := by
  obtain ⟨before, carries⟩ := he.carries
  exact (h _ _ carries).whole

/-! ## The pipe of an endpoint -/

/-- From `e` to `e'` the bank with the host is left alone. A transfer is started only if none was outstanding, and then
the other bank collects. -/
inductive Uses (e e' : Endpoint size) : Prop where
  | fills (sending : e'.sending = e.sending) (started : e'.started = e.started)
      (collecting : e'.collecting = e.collecting)
  | starts (idle : e.sending = []) (busy : e'.sending ≠ []) (started : e'.started = e.started ++ [e'.sending])
      (collecting : e'.collecting = e.collecting.other)

theorem Uses.refl (e : Endpoint size) : Uses e e := .fills rfl rfl rfl

theorem Uses.trans {e'' : Endpoint size} (h : Uses e e') (h' : Uses e' e'') : Uses e e'' := by
  cases h with
  | fills sending started collecting =>
    cases h' with
    | fills sending' started' collecting' =>
      exact .fills (sending'.trans sending) (started'.trans started) (collecting'.trans collecting)
    | starts idle busy started' collecting' =>
      exact .starts (sending.symm.trans idle) busy (started ▸ started') (collecting ▸ collecting')
  | starts idle busy started collecting =>
    cases h' with
    | fills sending' started' collecting' =>
      exact .starts idle (sending' ▸ busy) (by rw [started', started, sending']) (collecting'.trans collecting)
    | starts idle' => exact absurd idle' busy

theorem uses_of_handsOver (h : e.HandsOver e') : Uses e e' := by
  obtain ⟨some, idle, transfer, ht, rfl⟩ := h
  refine .starts idle ?_ rfl rfl
  rcases transferOf_cases ht with rfl | rfl
  · exact some
  · simp [some]

theorem uses_appendMessage (h : e.appendMessage o m = some e') : Uses e e' := by
  unfold appendMessage at h
  split at h
  · cases h
    exact .fills rfl rfl rfl
  · cases h

/-- once the outstanding transfer is done, what has collected may go next -/
theorem uses_complete (h : e.complete = .ok e') : Uses { e with sending := [] } e' := by
  rcases complete_cases h with ⟨-, rfl⟩ | handed
  · exact .refl _
  · exact uses_of_handsOver handed

/-- an operation from `e` to `e'` appends the messages `ms`, and that is all -/
structure Posts (o : ByteOrder) (ms : List Message) (e e' : Endpoint size) : Prop where
  appends : Appends o ms e e'
  uses : Uses e e'

theorem Posts.refl (o : ByteOrder) (e : Endpoint size) : Posts o [] e e := ⟨.refl o e, .refl e⟩

theorem Posts.trans {e'' : Endpoint size} {ms ns : List Message} (h : Posts o ms e e') (h' : Posts o ns e' e'') :
    Posts o (ms ++ ns) e e'' :=
  ⟨h.appends.trans h'.appends, h.uses.trans h'.uses⟩

theorem posts_appendMessage (hm : m.IsReply) (h : e.appendMessage o m = some e') : Posts o [m] e e' :=
  ⟨appends_appendMessage hm h, uses_appendMessage h⟩

theorem posts_of_handsOver (h : e.HandsOver e') : Posts o [] e e' := ⟨appends_of_handsOver h, uses_of_handsOver h⟩

theorem posts_flush (h : e.flush = .ok e') : Posts o [] e e' := by
  rcases flush_cases h with ⟨rfl, -⟩ | handed
  · exact .refl o _
  · exact posts_of_handsOver handed

/-- what a push adds: the message, if the answer is that there was room -/
def pushed (m : Message) : Except EndpointError Unit → List Message
  | .ok () => [m]
  | .error _ => []

theorem posts_push {r : Except EndpointError Unit} (hm : m.IsReply) (h : e.push o m = .ok (r, e')) :
    Posts o (pushed m r) e e' := by
  rcases push_cases h with ⟨rfl, fits | ⟨e₁, handed, fits⟩⟩ | ⟨⟨err, rfl⟩, rfl | handed⟩
  · exact posts_appendMessage hm fits
  · exact (posts_of_handsOver handed).trans (posts_appendMessage hm fits)
  · exact .refl o _
  · exact posts_of_handsOver handed

end Endpoint

end CanAdapter
