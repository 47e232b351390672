/-
A double-buffered IN endpoint. One bank collects bytes while the other is with the host; a bank that was handed over is
frozen until its transfer completes. A transfer that would end on a packet boundary before the bank's end gets four zero
bytes, which a reader takes for the end of the buffer, so that no empty packet has to follow it.

`started` is every transfer in order, so `sending`, the bank with the host, is the last of them until it completes.
`collecting` tells which of the two banks collects; the other one is with the host.
`append_eq_none_iff`: an append fails exactly when it is longer than what is left of the bank.
`submit_of_empty`, `submit_of_busy`: with nothing to send, or a transfer outstanding, a submission changes nothing.
`submit_of_idle`: otherwise the collecting bank goes to the host.
-/
import CanAdapter.Message.Format

namespace CanAdapter

/-- largest packet of a bulk endpoint -/
def packetSize : Nat := 64

/-- zero bytes that end a transfer off a packet boundary -/
def shortPacketPad : Bytes := [0, 0, 0, 0]

inductive EndpointError where
  /-- the bank to submit is empty -/
  | nothingToSend
  /-- the other bank is still with the host -/
  | busy
  /-- no bank has room for the message -/
  | overflow (len capacity : Nat)
deriving DecidableEq, Repr

def EndpointError.message : EndpointError → String
  | .nothingToSend => "Nothing to send"
  | .busy => "Endpoint busy"
  | .overflow len capacity => s!"Message of {len} bytes exceeds bank capacity {capacity}"

inductive Bank where
  | first
  | second
deriving DecidableEq, Repr

def Bank.other : Bank → Bank
  | first => second
  | second => first

/-- an endpoint with banks of `size` bytes -/
structure Endpoint (size : Nat) where
  /-- the bank that collects -/
  filling : Bytes
  /-- the bank with the host, empty between transfers -/
  sending : Bytes
  /-- the transfers started so far -/
  started : List Bytes
  collecting : Bank
deriving DecidableEq, Repr

namespace Endpoint

variable {size : Nat}

def empty (size : Nat) : Endpoint size := ⟨[], [], [], .first⟩

/-- no transfer is outstanding -/
def ready (e : Endpoint size) : Bool := e.sending.isEmpty

def hasPending (e : Endpoint size) : Bool := !e.filling.isEmpty

/-- bytes the collecting bank has room for -/
def remaining (e : Endpoint size) : Nat := size - e.filling.length

/-- adds bytes to the collecting bank; none if they do not fit -/
def append (bytes : Bytes) (e : Endpoint size) : Option (Endpoint size) :=
  if bytes.length ≤ e.remaining then some { e with filling := e.filling ++ bytes } else none

/-- adds a message to the collecting bank; none if it does not fit -/
def appendMessage (o : ByteOrder) (m : Message) (e : Endpoint size) : Option (Endpoint size) :=
  if m.wireLength ≤ e.remaining then some { e with filling := e.filling ++ m.encode o } else none

/-- a bank's content as it goes to the host -/
def transferOf (size : Nat) (content : Bytes) : Checked Bytes :=
  if packetSize < size ∧ content.length < size ∧ content.length % packetSize = 0 then
    if content.length + shortPacketPad.length ≤ size then .ok (content ++ shortPacketPad)
    else .error (.rangeEnd (content.length + shortPacketPad.length) size)
  else .ok content

/-- hands a transfer over and goes on with the other bank, which has to be empty -/
def start (transfer : Bytes) (e : Endpoint size) : Checked (Endpoint size) :=
  if e.sending.isEmpty then
    .ok {
      filling := e.sending
      sending := transfer
      started := e.started ++ [transfer]
      collecting := e.collecting.other }
  else .error .assertion

/-- hands the collecting bank to the host -/
def submit (e : Endpoint size) : Checked (Except EndpointError (Endpoint size)) :=
  if !e.hasPending then .ok (.error .nothingToSend)
  else if !e.ready then .ok (.error .busy)
  else do
    let transfer ← transferOf size e.filling
    return .ok (← e.start transfer)

/-- submits, and lets it be if that is not possible -/
def trySubmit (e : Endpoint size) : Checked (Endpoint size) := do
  match ← e.submit with
  | .ok e => return e
  | .error _ => return e

/-- submits if there is something to send and no transfer is outstanding -/
def flush (e : Endpoint size) : Checked (Endpoint size) :=
  if e.hasPending && e.ready then e.trySubmit else .ok e

/-- the outstanding transfer is done; what has collected since goes next -/
def complete (e : Endpoint size) : Checked (Endpoint size) :=
  let e := { e with sending := [] }
  if e.hasPending then e.trySubmit else .ok e

/-- forgets what has collected -/
def discard (e : Endpoint size) : Endpoint size := { e with filling := [] }

/-- forgets both banks, and goes on with the first -/
def reset (e : Endpoint size) : Endpoint size := { e with filling := [], sending := [], collecting := .first }

/-- Adds a message, after submitting the collecting bank once if the message does not fit. The answer tells what became
of the message; a bank that was submitted for it stays submitted. -/
def push (o : ByteOrder) (m : Message) (e : Endpoint size) : Checked (Except EndpointError Unit × Endpoint size) :=
  match e.appendMessage o m with
  | some e => .ok (.ok (), e)
  | none =>
    if !e.hasPending then .ok (.error (.overflow (size - e.remaining) size), e)
    else do
      match ← e.submit with
      | .error err => return (.error err, e)
      | .ok e =>
        match e.appendMessage o m with
        | some e => return (.ok (), e)
        | none => return (.error (.overflow size size), e)

theorem append_eq_none_iff {bytes : Bytes} {e : Endpoint size} :
    e.append bytes = none ↔ e.remaining < bytes.length := by
  simp [append]

theorem submit_of_empty {e : Endpoint size} (h : e.filling = []) : e.submit = .ok (.error .nothingToSend) := by
  simp [submit, hasPending, h]

theorem submit_of_busy {e : Endpoint size} (h : e.filling ≠ []) (hs : e.sending ≠ []) :
    e.submit = .ok (.error .busy) := by
  simp [submit, hasPending, ready, h, hs]

theorem submit_of_idle {e : Endpoint size} (h : e.filling ≠ []) (hs : e.sending = []) :
    e.submit = (fun transfer => .ok ⟨[], transfer, e.started ++ [transfer], e.collecting.other⟩) <$>
      transferOf size e.filling := by
  simp only [submit, hasPending, ready, start, List.isEmpty_eq_false_iff.2 h, hs, List.isEmpty_nil, Bool.not_false,
    Bool.not_true, Bool.false_eq_true, ↓reduceIte]
  rfl

end Endpoint

/-! ## Operations as data -/

/-- what can be done with an endpoint -/
inductive EndpointOp where
  | append (bytes : Bytes)
  | message (m : Message)
  | push (m : Message)
  | submit
  | flush
  | complete
  | discard
  | reset
deriving DecidableEq, Repr

inductive EndpointAnswer where
  | nothing
  | fits (b : Bool)
  | result (r : Except EndpointError Unit)

namespace EndpointOp

variable {size : Nat}

def step (o : ByteOrder) (op : EndpointOp) (e : Endpoint size) : Checked (EndpointAnswer × Endpoint size) :=
  match op with
  | .append bytes =>
    match e.append bytes with
    | some e => .ok (.fits true, e)
    | none => .ok (.fits false, e)
  | .message m =>
    match e.appendMessage o m with
    | some e => .ok (.fits true, e)
    | none => .ok (.fits false, e)
  | .push m => do
    let (r, e) ← e.push o m
    return (.result r, e)
  | .submit => do
    match ← e.submit with
    | .ok e => return (.result (.ok ()), e)
    | .error err => return (.result (.error err), e)
  | .flush => return (.nothing, ← e.flush)
  | .complete => return (.nothing, ← e.complete)
  | .discard => .ok (.nothing, e.discard)
  | .reset => .ok (.nothing, e.reset)

end EndpointOp

end CanAdapter
