/-
The bytes of an endpoint. Whatever is done with an endpoint, the host gets the bytes that were accepted, in order and
once, apart from those that were forgotten while they waited in the collecting bank.

`Traffic` is an endpoint with an account beside it: the bytes that were accepted, the banks that were handed over, and
the transfer that is outstanding. `takes_step` says all that one operation can do: it adds bytes to the collecting bank,
and before that it may hand the bank over if nothing is outstanding. `lossless_step` keeps the account right over one
operation, `lossless_run` over a history; `stream_of_accepted` is the account of a history from the empty endpoint.
-/
import CanAdapter.Proofs.Transfer

namespace CanAdapter

namespace Endpoint

variable {size : Nat} {e e' : Endpoint size} {bytes : Bytes} {o : ByteOrder} {m : Message}

/-! ## One operation -/

/-- what is added to a bank's content when it goes to the host -/
def padding (size : Nat) (content : Bytes) : Bytes :=
  if packetSize < size ∧ content.length < size ∧ content.length % packetSize = 0 then shortPacketPad else []

theorem transferOf_eq {content transfer : Bytes} (h : transferOf size content = .ok transfer) :
    transfer = content ++ padding size content := by
  unfold transferOf at h
  unfold padding
  split at h
  · rename_i boundary
    split at h
    · cases h
      rw [if_pos boundary]
    · cases h
  · rename_i inside
    cases h
    rw [if_neg inside, List.append_nil]

/-- From `e` to `e'` the endpoint took the bytes, and started a transfer of what had collected before if that had to
make room. -/
inductive Takes (bytes : Bytes) (e e' : Endpoint size) : Prop where
  | fills (filling : e'.filling = e.filling ++ bytes) (sending : e'.sending = e.sending)
      (started : e'.started = e.started)
  | starts (idle : e.sending = []) (filling : e'.filling = bytes)
      (sending : e'.sending = e.filling ++ padding size e.filling) (started : e'.started = e.started ++ [e'.sending])

theorem Takes.refl (e : Endpoint size) : Takes [] e e := .fills (List.append_nil _).symm rfl rfl

theorem takes_of_handsOver (h : e.HandsOver e') : Takes [] e e' := by
  obtain ⟨-, idle, transfer, ht, rfl⟩ := h
  exact .starts idle rfl (transferOf_eq ht) rfl

theorem takes_append (h : e.append bytes = some e') : Takes bytes e e' := by
  unfold append at h
  split at h
  · cases h
    exact .fills rfl rfl rfl
  · cases h

theorem takes_appendMessage (h : e.appendMessage o m = some e') : Takes (m.encode o) e e' := by
  unfold appendMessage at h
  split at h
  · cases h
    exact .fills rfl rfl rfl
  · cases h

/-- a bank that was handed over leaves an empty one -/
theorem takes_of_starts {e₁ : Endpoint size} (h : e.HandsOver e₁) (h' : Takes bytes e₁ e') : Takes bytes e e' := by
  obtain ⟨some, idle, transfer, ht, rfl⟩ := h
  cases h' with
  | fills filling sending started =>
    refine .starts idle filling (sending.trans (transferOf_eq ht)) ?_
    rw [started, sending]
  | starts busy =>
    have empty : transfer = [] := busy
    rcases transferOf_cases ht with same | padded
    · exact absurd (same.symm.trans empty) some
    · rw [padded, List.append_eq_nil_iff] at empty
      exact absurd empty.1 some

end Endpoint

namespace EndpointOp

variable {size : Nat} {e e' : Endpoint size} {o : ByteOrder} {op : EndpointOp} {answer : EndpointAnswer}

/-- the bytes that an operation with this answer has accepted -/
def taken (o : ByteOrder) : EndpointOp → EndpointAnswer → Bytes
  | append bytes, .fits true => bytes
  | message m, .fits true => m.encode o
  | push m, .result (.ok ()) => m.encode o
  | _, _ => []

theorem takes_step (complete : op ≠ .complete) (discard : op ≠ .discard) (reset : op ≠ .reset)
    (h : op.step o e = .ok (answer, e')) : Endpoint.Takes (taken o op answer) e e' := by
  cases op with
  | append bytes =>
    simp only [step] at h
    split at h
    · rename_i fits
      cases h
      exact Endpoint.takes_append fits
    · cases h
      exact .refl _
  | message m =>
    simp only [step] at h
    split at h
    · rename_i fits
      cases h
      exact Endpoint.takes_appendMessage fits
    · cases h
      exact .refl _
  | push m =>
    obtain ⟨⟨r, e₁⟩, pushed, h⟩ := Checked.bind_eq_ok.1 h
    cases h
    rcases Endpoint.push_cases pushed with ⟨rfl, fits | ⟨e₂, handed, fits⟩⟩ | ⟨⟨err, rfl⟩, rfl | handed⟩
    · exact Endpoint.takes_appendMessage fits
    · exact Endpoint.takes_of_starts handed (Endpoint.takes_appendMessage fits)
    · exact .refl _
    · exact Endpoint.takes_of_handsOver handed
  | submit =>
    obtain ⟨r, submitted, h⟩ := Checked.bind_eq_ok.1 h
    rcases Endpoint.submit_cases submitted with ⟨rfl, -⟩ | ⟨rfl, -⟩ | ⟨e₁, rfl, handed⟩
    · cases h
      exact .refl _
    · cases h
      exact .refl _
    · cases h
      exact Endpoint.takes_of_handsOver handed
  | flush =>
    obtain ⟨e₁, flushed, h⟩ := Checked.bind_eq_ok.1 h
    cases h
    rcases Endpoint.flush_cases flushed with ⟨rfl, -⟩ | handed
    · exact .refl _
    · exact Endpoint.takes_of_handsOver handed
  | complete => exact absurd rfl complete
  | discard => exact absurd rfl discard
  | reset => exact absurd rfl reset

/-- a completion releases the bank with the host, and then goes on with what has collected -/
theorem takes_complete (h : EndpointOp.complete.step o e = .ok (answer, e')) :
    Endpoint.Takes [] { e with sending := [] } e' := by
  obtain ⟨e₁, completed, h⟩ := Checked.bind_eq_ok.1 h
  cases h
  rcases Endpoint.complete_cases completed with ⟨-, rfl⟩ | handed
  · exact .refl _
  · exact Endpoint.takes_of_handsOver handed

/-- an append that does not fit changes nothing -/
theorem same_of_refused (h : op.step o e = .ok (.fits false, e')) : e' = e := by
  cases op with
  | append bytes | message m =>
    simp only [step] at h
    split at h <;> cases h
    rfl
  | push m =>
    obtain ⟨r, -, h⟩ := Checked.bind_eq_ok.1 h
    cases h
  | submit =>
    obtain ⟨r, -, h⟩ := Checked.bind_eq_ok.1 h
    cases r <;> cases h
  | flush | complete =>
    obtain ⟨r, -, h⟩ := Checked.bind_eq_ok.1 h
    cases h
  | discard | reset => cases h

/-- an operation on a busy endpoint starts nothing, unless it releases the bank with the host -/
theorem started_of_busy (busy : e.sending ≠ []) (complete : op ≠ .complete) (h : op.step o e = .ok (answer, e')) :
    e'.started = e.started := by
  by_cases forgets : op = .discard ∨ op = .reset
  · rcases forgets with rfl | rfl <;> cases h <;> rfl
  · rw [not_or] at forgets
    cases takes_step complete forgets.1 forgets.2 h with
    | fills _ _ started => exact started
    | starts idle => exact absurd idle busy

/-- operations in order, each with the byte order of the moment -/
def runEach (ops : List (ByteOrder × EndpointOp)) (e : Endpoint size) : Checked (Endpoint size) :=
  ops.foldlM (fun e x => (·.2) <$> x.2.step x.1 e) e

end EndpointOp

/-! ## The account -/

/-- an endpoint with an account of the bytes beside it -/
structure Traffic (size : Nat) where
  endpoint : Endpoint size
  /-- the bytes accepted so far, but for those forgotten while they waited -/
  accepted : Bytes
  /-- the contents of the banks that were handed over, oldest first -/
  handedOver : List Bytes
  /-- the transfer that was started and has not completed -/
  outstanding : Option Bytes
deriving DecidableEq, Repr

namespace Traffic

variable {size : Nat} {t t' : Traffic size} {e' : Endpoint size} {bytes : Bytes} {o : ByteOrder} {op : EndpointOp}

def idle (size : Nat) : Traffic size := ⟨.empty size, [], [], none⟩

/-- the account of the endpoint `e'`, which took the bytes -/
def after (t : Traffic size) (bytes : Bytes) (e' : Endpoint size) : Traffic size :=
  let started := e'.started.drop t.endpoint.started.length
  { endpoint := e'
    accepted := t.accepted ++ bytes
    handedOver := t.handedOver ++ started.map fun _ => t.endpoint.filling
    outstanding := started.getLast?.or t.outstanding }

/-- What an operation means to the account before it is carried out: a completion ends the outstanding transfer, and
the bytes that wait are not accepted any more once they are forgotten. -/
def before (op : EndpointOp) (t : Traffic size) : Traffic size :=
  match op with
  | .complete => { t with outstanding := none }
  | .discard => { t with accepted := t.accepted.take (t.accepted.length - t.endpoint.filling.length) }
  | _ => t

def step (o : ByteOrder) (op : EndpointOp) (t : Traffic size) : Checked (Traffic size) := do
  let (answer, e) ← op.step o t.endpoint
  return (t.before op).after (op.taken o answer) e

def runEach (ops : List (ByteOrder × EndpointOp)) (t : Traffic size) : Checked (Traffic size) :=
  ops.foldlM (fun t x => t.step x.1 x.2) t

/-- beside every history of the endpoint there is one with the account -/
theorem runEach_of_endpoint {ops : List (ByteOrder × EndpointOp)}
    (h : EndpointOp.runEach ops t.endpoint = .ok e') : ∃ t', t.runEach ops = .ok t' ∧ t'.endpoint = e' := by
  induction ops generalizing t with
  | nil =>
    cases h
    exact ⟨t, rfl, rfl⟩
  | cons x ops ih =>
    rw [EndpointOp.runEach, List.foldlM_cons] at h
    obtain ⟨e₁, first, later⟩ := Checked.bind_eq_ok.1 h
    obtain ⟨⟨answer, e₂⟩, stepped, rfl⟩ := Checked.map_eq_ok.1 first
    obtain ⟨t', run, same⟩ := ih (t := (t.before x.2).after (x.2.taken x.1 answer) e₂) later
    refine ⟨t', ?_, same⟩
    rw [runEach, List.foldlM_cons]
    exact Checked.bind_eq_ok.2 ⟨_, Checked.bind_eq_ok.2 ⟨_, stepped, rfl⟩, run⟩

/-- no byte is lost, and the bank with the host is the transfer that is outstanding -/
structure Lossless (t : Traffic size) : Prop where
  stream : t.handedOver.flatten ++ t.endpoint.filling = t.accepted
  transfers : t.endpoint.started = t.handedOver.map fun content => content ++ Endpoint.padding size content
  frozen : t.endpoint.sending = t.outstanding.getD []
  latest : ∀ transfer ∈ t.outstanding, t.endpoint.started.getLast? = some transfer

theorem lossless_idle (size : Nat) : (idle size).Lossless := ⟨rfl, rfl, rfl, by simp [idle]⟩

theorem lossless_takes (ht : t.Lossless) (h : Endpoint.Takes bytes t.endpoint e') : (t.after bytes e').Lossless := by
  cases h with
  | fills filling sending started =>
    refine ⟨?_, ?_, ?_, ?_⟩
    · simp [after, started, filling, ← ht.stream]
    · simp [after, started, ht.transfers]
    · simp [after, started, sending, ht.frozen]
    · simpa [after, started] using ht.latest
  | starts _ filling sending started =>
    refine ⟨?_, ?_, ?_, ?_⟩
    · simp [after, started, filling, ← ht.stream]
    · simp [after, started, sending, ht.transfers]
    · simp [after, started]
    · simp [after, started]

/-- what has collected is the end of what was accepted -/
theorem Lossless.take_accepted (ht : t.Lossless) :
    t.accepted.take (t.accepted.length - t.endpoint.filling.length) = t.handedOver.flatten := by
  rw [← ht.stream, List.length_append, Nat.add_sub_cancel]
  exact List.take_left

theorem lossless_step (ht : t.Lossless) (reset : op ≠ .reset) (h : t.step o op = .ok t') : t'.Lossless := by
  obtain ⟨⟨answer, e'⟩, stepped, h⟩ := Checked.bind_eq_ok.1 h
  cases h
  by_cases complete : op = .complete
  · subst complete
    -- the account without the outstanding transfer goes with the endpoint whose bank was released
    let released : Traffic size := { t with endpoint := { t.endpoint with sending := [] }, outstanding := none }
    have free : released.Lossless := ⟨ht.stream, ht.transfers, rfl, by simp [released]⟩
    have moved := lossless_takes free (EndpointOp.takes_complete stepped)
    exact moved
  · by_cases discard : op = .discard
    · subst discard
      cases stepped
      refine ⟨?_, ?_, ?_, ?_⟩
      · simp [after, before, EndpointOp.taken, Endpoint.discard, ht.take_accepted]
      · simp [after, before, Endpoint.discard, ht.transfers]
      · simp [after, before, Endpoint.discard, ht.frozen]
      · simpa [after, before, Endpoint.discard] using ht.latest
    · have same : t.before op = t := by cases op <;> first | rfl | contradiction
      rw [same]
      exact lossless_takes ht (EndpointOp.takes_step complete discard reset stepped)

theorem lossless_run {ops : List (ByteOrder × EndpointOp)} (reset : ∀ x ∈ ops, x.2 ≠ .reset) (ht : t.Lossless)
    (h : t.runEach ops = .ok t') : t'.Lossless :=
  Checked.foldlM_keeps (fun x hx _ _ step keeps => lossless_step keeps (reset x hx) step) h ht

end Traffic

/-- **A lossless stream.** In every history from the empty endpoint, the banks that were handed over and the one that
collects are the bytes that were accepted, less those that were forgotten while they waited. Each transfer is its bank's
content, with the padding that the bank's size asks for. The bank with the host is the last transfer until that
completes, and empty between transfers. Nothing that does not fit changes anything, and while a transfer is outstanding
no operation but its completion starts another. A completion may come when no transfer is outstanding. -/
theorem stream_of_accepted {size : Nat} {ops : List (ByteOrder × EndpointOp)} {e : Endpoint size}
    (h : EndpointOp.runEach ops (.empty size) = .ok e) (reset : ∀ x ∈ ops, x.2 ≠ .reset) :
    ∃ t : Traffic size, (Traffic.idle size).runEach ops = .ok t ∧ t.endpoint = e ∧
      t.handedOver.flatten ++ e.filling = t.accepted ∧
      e.started = t.handedOver.map (fun content => content ++ Endpoint.padding size content) ∧
      e.sending = t.outstanding.getD [] ∧ (∀ transfer ∈ t.outstanding, e.started.getLast? = some transfer) ∧
      ∀ (o : ByteOrder) (op : EndpointOp) (answer : EndpointAnswer) (e' : Endpoint size),
        op.step o e = .ok (answer, e') →
          (answer = .fits false → e' = e) ∧ (e.sending ≠ [] → op ≠ .complete → e'.started = e.started) := by
  obtain ⟨t, run, rfl⟩ := Traffic.runEach_of_endpoint (t := Traffic.idle size) h
  have account := Traffic.lossless_run reset (Traffic.lossless_idle size) run
  refine ⟨t, run, rfl, account.stream, account.transfers, account.frozen, account.latest, ?_⟩
  intro o op answer e' step
  refine ⟨?_, fun busy complete => EndpointOp.started_of_busy busy complete step⟩
  rintro rfl
  exact EndpointOp.same_of_refused step

/-- a packet that needs padding, bytes that are forgotten, bytes that do not fit, and a bank that waits for the host -/
def paddedPacket : List (ByteOrder × EndpointOp) :=
  [(.little, .append (List.replicate 64 7)), (.little, .submit), (.little, .append [1]), (.little, .discard),
    (.big, .append [2, 3]), (.little, .flush), (.little, .append (List.replicate 127 9)), (.little, .complete),
    (.little, .append [4])]

theorem paddedPacket_stream : ∃ (e : Endpoint 128) (t : Traffic 128),
    EndpointOp.runEach paddedPacket (.empty 128) = .ok e ∧ (Traffic.idle 128).runEach paddedPacket = .ok t ∧
      t.accepted = List.replicate 64 7 ++ [2, 3, 4] ∧ t.handedOver.flatten ++ e.filling = t.accepted ∧
      e.started = [List.replicate 64 7 ++ [0, 0, 0, 0], [2, 3]] ∧ e.sending = [2, 3] := by
  obtain ⟨e, run, state⟩ := Checked.of_passes
    (p := fun e => e.started == [List.replicate 64 7 ++ [0, 0, 0, 0], [2, 3]] && e.sending == [2, 3])
    (x := EndpointOp.runEach paddedPacket (.empty 128)) (by decide +kernel)
  obtain ⟨t, beside, -, stream, -⟩ := stream_of_accepted run (by decide)
  obtain ⟨t', accounted, accepted⟩ := Checked.of_passes
    (p := fun t => t.accepted == List.replicate 64 7 ++ [2, 3, 4])
    (x := (Traffic.idle 128).runEach paddedPacket) (by decide +kernel)
  obtain rfl : t = t' := Except.ok.inj (beside.symm.trans accounted)
  simp only [Bool.and_eq_true, beq_iff_eq] at state accepted
  exact ⟨e, t, run, beside, accepted, stream, state.1, state.2⟩

end CanAdapter
