/-
Walking a buffer of messages. Each header says how long its message is, and the next message follows. A zero id or a
zero length ends the buffer quietly; a header that cannot be right ends it with an error.

`messages` is the messages of a buffer up to its end. `next_of_done`: a walk that ended stays ended.
`length_rest_next`: a step that finds a message leaves fewer bytes, so the bound on steps in `messages` is never met.
-/
import CanAdapter.Message.Format

namespace CanAdapter

/-- a message as found in a buffer, header included -/
structure RawMessage where
  id : UInt8
  bytes : Bytes
deriving DecidableEq, Repr

structure Walker where
  /-- offset of the next header -/
  offset : Nat
  /-- the bytes from there on -/
  rest : Bytes
  done : Bool
deriving DecidableEq, Repr

namespace Walker

def ofBytes (bytes : Bytes) : Walker := ⟨0, bytes, false⟩

/-- the next message or what is wrong with its header; none at the end -/
def next (w : Walker) : Option (Except WireError RawMessage) × Walker :=
  if w.done then (none, w)
  else
    match w.rest with
    | [] => (none, w)
    | [_] => (some (.error (.truncatedHeader w.offset)), { w with done := true })
    | id :: len :: _ =>
      if id = 0 ∨ len = 0 then (none, { w with done := true })
      else if len.toNat < headerLength then (some (.error (.lengthBelowHeader w.offset len)), { w with done := true })
      else if w.rest.length < len.toNat then
        (some (.error (.lengthOverflow w.offset len w.rest.length)), { w with done := true })
      else
        (some (.ok ⟨id, w.rest.take len.toNat⟩), ⟨w.offset + len.toNat, w.rest.drop len.toNat, false⟩)

theorem next_of_done {w : Walker} (h : w.done = true) : w.next = (none, w) := by
  simp [next, h]

theorem length_rest_next {w w' : Walker} {m : RawMessage} (h : w.next = (some (.ok m), w')) :
    w'.rest.length + headerLength ≤ w.rest.length := by
  unfold next at h
  split at h
  · cases h
  · split at h
    · cases h
    · cases h
    · split at h
      · cases h
      · split at h
        · cases h
        · split at h
          · cases h
          · cases h
            simp only [List.length_drop, headerLength] at *
            omega

/-- the messages found in at most `n` steps -/
def collect : Nat → Walker → List RawMessage
  | 0, _ => []
  | n + 1, w =>
    match w.next with
    | (some (.ok m), w) => m :: collect n w
    | _ => []

end Walker

/-- the messages of a buffer, up to its end or the first header that cannot be right -/
def messages (bytes : Bytes) : List RawMessage :=
  Walker.collect (bytes.length / headerLength + 1) (Walker.ofBytes bytes)

end CanAdapter
