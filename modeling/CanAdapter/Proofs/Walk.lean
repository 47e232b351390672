/-
Any bytes at all. The host writes the buffer, so the walk meets headers that were never written as headers. Whatever
the bytes, it finds messages one behind the other from the first byte on, each as long as its length byte says, and
then ends in one of four ways, told apart by what is left at the offset it got to. After that it finds nothing more.

`Walker.next_cases` is all that one call can do: find a message in front of the rest, or halt (`Halts`).
`Walker.exists_path`: every walk is a path of finds that halts. `Walker.nextIn` is the call as it runs, on the whole
buffer with an index, where each access may be out of range; `Walker.nextIn_after`: none ever is.
`Walker.walk_accounted_for` puts these together.

So a buffer is its messages and bytes in which no message is found (`Walker.exists_rest`), the messages in front of
other bytes are found as they are (`Walker.messages_append`), and of what stops the walk the bytes behind the header do
not count (`Walker.messages_eq_nil_iff`).

The bound on the calls is met: a buffer of one byte is answered once, with an error, before the first nothing.
-/
import CanAdapter.Proofs.Framing

namespace CanAdapter

/-- a message that is what its own header says -/
structure RawMessage.Framed (m : RawMessage) : Prop where
  holdsHeader : headerLength ≤ m.bytes.length
  id : m.bytes[0]? = some m.id
  id_ne_zero : m.id ≠ 0
  length : ∃ len : UInt8, m.bytes[1]? = some len ∧ m.bytes.length = len.toNat

namespace Walker

/-! ## One call -/

/-- the walk cannot go on where `rest` is left; the error it says so with, none where it ends quietly -/
inductive Halts (offset : Nat) : Bytes → Option WireError → Prop
  | atEnd : Halts offset [] none
  | truncated (b : UInt8) : Halts offset [b] (some (.truncatedHeader offset))
  | zero {id len : UInt8} (tail : Bytes) (h : id = 0 ∨ len = 0) : Halts offset (id :: len :: tail) none
  | below {id : UInt8} (tail : Bytes) (h : id ≠ 0) :
    Halts offset (id :: 1 :: tail) (some (.lengthBelowHeader offset 1))
  | overflow {id len : UInt8} (tail : Bytes) (h : id ≠ 0) (more : 1 < len.toNat) (beyond : tail.length + 2 < len.toNat) :
    Halts offset (id :: len :: tail) (some (.lengthOverflow offset len (tail.length + 2)))

/-- the state after `n` calls -/
def after : Nat → Walker → Walker
  | 0, w => w
  | n + 1, w => after n w.next.2

theorem after_succ (n : Nat) (w : Walker) : after (n + 1) w = (after n w).next.2 := by
  induction n generalizing w with
  | zero => rfl
  | succ n ih => exact ih w.next.2

theorem after_of_done {w : Walker} (h : w.done = true) (n : Nat) : after n w = w := by
  induction n with
  | zero => rfl
  | succ n ih => rw [after, next_of_done h, ih]

/-- a message in front of `tail` is found, and the walk goes on behind it -/
def Finds (w : Walker) (m : RawMessage) (w' : Walker) : Prop :=
  w.next = (some (.ok m), w') ∧ m.Framed ∧ w.rest = m.bytes ++ w'.rest ∧
    w'.offset = w.offset + m.bytes.length ∧ w'.done = false

theorem find {id len : UInt8} {tail : Bytes} (offset : Nat) (hid : id ≠ 0) (more : 1 < len.toNat)
    (fits : len.toNat ≤ tail.length + 2) :
    Finds ⟨offset, id :: len :: tail, false⟩ ⟨id, (id :: len :: tail).take len.toNat⟩
      ⟨offset + len.toNat, (id :: len :: tail).drop len.toNat, false⟩ := by
  have hlen : len ≠ 0 := by
    rintro rfl
    cases more
  have whole : ((id :: len :: tail).take len.toNat).length = len.toNat := by
    rw [List.length_take, List.length_cons, List.length_cons]
    omega
  refine ⟨?_, ?_, (List.take_append_drop _ _).symm, ?_, rfl⟩
  · have longEnough : ¬len.toNat < headerLength := by
      simp only [headerLength]
      omega
    have here : ¬(id :: len :: tail).length < len.toNat := by
      simp only [List.length_cons]
      omega
    simp only [next, Bool.false_eq_true, if_false, hid, hlen, or_self, longEnough, here]
  · refine ⟨?_, ?_, hid, len, ?_, whole⟩
    · rw [whole]
      exact more
    · exact List.getElem?_take_of_lt (by omega)
    · exact List.getElem?_take_of_lt more
  · rw [whole]

/-- a walk that cannot go on says so once, if at all, and stands where it is -/
structure Halted (w : Walker) (last : Option WireError) : Prop where
  halts : Halts w.offset w.rest last
  calls : ∀ n, calls (last.toList.length + n) w = last.toList.map (some ∘ .error) ++ List.replicate n none
  stands : ∀ n, ∃ done, after n w = ⟨w.offset, w.rest, done⟩

theorem halted_of_next {offset : Nat} {rest : Bytes} {last : Option WireError} (halts : Halts offset rest last)
    (h : next ⟨offset, rest, false⟩ = (last.map .error, ⟨offset, rest, true⟩)) :
    Halted ⟨offset, rest, false⟩ last := by
  refine ⟨halts, ?_, ?_⟩
  · intro n
    cases last with
    | none =>
      cases n with
      | zero => rfl
      | succ n =>
        rw [Option.toList_none, List.length_nil, Nat.zero_add, Walker.calls, h, calls_of_done rfl]
        rfl
    | some e =>
      rw [Option.toList_some, List.length_singleton, Nat.add_comm, Walker.calls, h, calls_of_done rfl]
      rfl
  · intro n
    cases n with
    | zero => exact ⟨false, rfl⟩
    | succ n => exact ⟨true, by rw [after, h, after_of_done rfl]⟩

theorem halted_atEnd (offset : Nat) : Halted ⟨offset, [], false⟩ none := by
  have stays : next ⟨offset, [], false⟩ = (none, ⟨offset, [], false⟩) := rfl
  refine ⟨.atEnd, ?_, ?_⟩
  · intro n
    rw [Option.toList_none, List.length_nil, Nat.zero_add]
    exact calls_of_endsWalk (.inl rfl) offset n
  · intro n
    refine ⟨false, ?_⟩
    induction n with
    | zero => rfl
    | succ n ih => rw [after, stays, ih]

theorem Halted.answer {w : Walker} {last : Option WireError} (h : Halted w last) : w.next.1 = last.map .error := by
  have first := h.calls 1
  cases last with
  | none => exact (List.cons.inj first).1
  | some e => exact (List.cons.inj first).1

/-- all that one call can do -/
theorem next_cases (offset : Nat) (rest : Bytes) :
    (∃ m w', Finds ⟨offset, rest, false⟩ m w') ∨ ∃ last, Halted ⟨offset, rest, false⟩ last := by
  match rest with
  | [] => exact .inr ⟨none, halted_atEnd offset⟩
  | [b] => exact .inr ⟨_, halted_of_next (.truncated b) rfl⟩
  | id :: len :: tail =>
    by_cases zero : id = 0 ∨ len = 0
    · exact .inr ⟨none, halted_of_next (.zero tail zero) (by simp [next, zero])⟩
    obtain ⟨hid, hlen⟩ := not_or.1 zero
    have positive : len.toNat ≠ 0 := fun none => hlen (UInt8.toNat_inj.1 none)
    by_cases one : len.toNat < headerLength
    · have len_eq : len = 1 := UInt8.toNat_inj.1 (by simp only [headerLength] at one; change len.toNat = 1; omega)
      subst len_eq
      exact .inr ⟨_, halted_of_next (.below tail hid) (by simp [next, hid, headerLength])⟩
    have more : 1 < len.toNat := Nat.le_of_not_lt one
    by_cases beyond : tail.length + 2 < len.toNat
    · exact .inr ⟨_, halted_of_next (.overflow tail hid more beyond) (by simp [next, hid, hlen, one, beyond])⟩
    · exact .inl ⟨_, _, find offset hid more (Nat.le_of_not_lt beyond)⟩

/-! ## The whole walk -/

/-- one message after the other is found on the way from `w` to `w'` -/
inductive Path : Walker → List RawMessage → Walker → Prop
  | nil (w : Walker) : Path w [] w
  | cons {w w₁ w' : Walker} {m : RawMessage} {ms : List RawMessage} :
    Finds w m w₁ → Path w₁ ms w' → Path w (m :: ms) w'

/-- induction on the bytes that are left: a message takes its header at least -/
theorem exists_path (offset : Nat) (rest : Bytes) :
    ∃ ms w' last, Path ⟨offset, rest, false⟩ ms w' ∧ Halted w' last := by
  induction left : rest.length using Nat.strongRecOn generalizing offset rest with
  | _ n ih =>
    subst left
    rcases next_cases offset rest with ⟨m, ⟨offset', rest', done⟩, found⟩ | ⟨last, halted⟩
    · obtain ⟨-, framed, split, -, rfl⟩ := id found
      have fewer : rest'.length < rest.length := by
        have atLeast := framed.holdsHeader
        rw [show rest = m.bytes ++ rest' from split, List.length_append]
        simp only [headerLength] at atLeast
        omega
      obtain ⟨ms, w', last, path, halted⟩ := ih _ fewer offset' rest' rfl
      exact ⟨m :: ms, w', last, .cons found path, halted⟩
    · exact ⟨[], _, last, .nil _, halted⟩

namespace Path

variable {w w' : Walker} {ms : List RawMessage} {last : Option WireError}

theorem framed (h : Path w ms w') : ∀ m ∈ ms, m.Framed := by
  induction h with
  | nil w => simp
  | cons found _ ih =>
    obtain ⟨-, framed, -⟩ := found
    exact List.forall_mem_cons.2 ⟨framed, ih⟩

theorem rest_eq (h : Path w ms w') : w.rest = ms.flatMap (·.bytes) ++ w'.rest := by
  induction h with
  | nil w => rfl
  | cons found _ ih =>
    obtain ⟨-, -, split, -⟩ := found
    rw [split, ih, List.flatMap_cons, List.append_assoc]

theorem offset_eq (h : Path w ms w') : w'.offset = w.offset + (ms.flatMap (·.bytes)).length := by
  induction h with
  | nil w => rfl
  | cons found _ ih =>
    obtain ⟨-, -, -, behind, -⟩ := found
    rw [ih, behind, List.flatMap_cons, List.length_append, Nat.add_assoc]

theorem calls_eq (h : Path w ms w') (n : Nat) :
    calls (ms.length + n) w = ms.map (some ∘ .ok) ++ calls n w' := by
  induction h with
  | nil w => rw [List.length_nil, Nat.zero_add, List.map_nil, List.nil_append]
  | cons found _ ih =>
    obtain ⟨answer, -⟩ := found
    rw [List.length_cons, Nat.add_right_comm, Walker.calls, answer, ih]
    rfl

/-- at every call the walk stands behind the messages found so far -/
theorem offset_after (h : Path w ms w') (halted : Halted w' last) (n : Nat) :
    (after n w).offset = w.offset + ((ms.take n).flatMap (·.bytes)).length := by
  induction h generalizing n with
  | nil w =>
    obtain ⟨done, stands⟩ := halted.stands n
    rw [stands, List.take_nil, List.flatMap_nil, List.length_nil, Nat.add_zero]
  | cons found _ ih =>
    obtain ⟨answer, -, -, behind, -⟩ := found
    cases n with
    | zero => rfl
    | succ n =>
      rw [after, answer, ih halted, behind, List.take_succ_cons, List.flatMap_cons, List.length_append, Nat.add_assoc]

theorem length_le (h : Path w ms w') : headerLength * ms.length + w'.rest.length ≤ w.rest.length := by
  induction h with
  | nil w => simp
  | @cons w w₁ w' m ms found _ ih =>
    obtain ⟨-, framed, split, -⟩ := found
    have atLeast := framed.holdsHeader
    rw [split, List.length_append, List.length_cons, Nat.mul_succ]
    omega

/-- enough steps collect all of them, and no step collects more -/
theorem collect_eq (h : Path w ms w') (halted : Halted w' last) {n : Nat} (enough : ms.length ≤ n) :
    collect n w = ms := by
  induction h generalizing n with
  | nil w =>
    have answer := halted.answer
    cases n with
    | zero => rfl
    | succ n =>
      rw [collect]
      split
      · rename_i found
        rw [found] at answer
        cases last <;> cases answer
      · rfl
  | cons found _ ih =>
    obtain ⟨answer, -⟩ := found
    cases n with
    | zero => cases enough
    | succ n =>
      rw [collect, answer]
      exact congrArg _ (ih halted (Nat.le_of_succ_le_succ enough))

end Path

/-! ## What it ends with -/

section

variable {offset : Nat} {rest : Bytes} {last : Option WireError}

theorem Halts.silent_iff (h : Halts offset rest last) :
    last = none ↔ rest.length = 0 ∨ 2 ≤ rest.length ∧ (rest[0]? = some 0 ∨ rest[1]? = some 0) := by
  cases h with
  | atEnd => simp
  | truncated => simp
  | zero _ zero => simp [zero]
  | below _ hid => simp [hid]
  | @overflow id len _ hid more =>
    have hlen : len ≠ 0 := by
      rintro rfl
      cases more
    simp [hid, hlen]

theorem Halts.truncated_iff (h : Halts offset rest last) :
    last = some (.truncatedHeader offset) ↔ rest.length = 1 := by
  cases h <;> simp

theorem Halts.below_iff (h : Halts offset rest last) :
    last = some (.lengthBelowHeader offset 1) ↔ ∃ id, rest[0]? = some id ∧ id ≠ 0 ∧ rest[1]? = some 1 := by
  cases h with
  | atEnd => simp
  | truncated => simp
  | zero _ zero => rcases zero with rfl | rfl <;> simp
  | below _ hid => simp [hid]
  | @overflow id len _ _ more =>
    have hlen : len ≠ 1 := by
      rintro rfl
      exact absurd more (by decide)
    simp [hlen]

theorem Halts.overflow_iff (h : Halts offset rest last) (l : UInt8) :
    last = some (.lengthOverflow offset l rest.length) ↔
      ∃ id, rest[0]? = some id ∧ id ≠ 0 ∧ rest[1]? = some l ∧ 1 < l.toNat ∧ rest.length < l.toNat := by
  constructor
  · rintro rfl
    cases h with
    | overflow _ hid more beyond => exact ⟨_, rfl, hid, rfl, more, beyond⟩
  · rintro ⟨id, first, hid, second, more, beyond⟩
    cases h with
    | atEnd => cases first
    | truncated => cases second
    | zero _ zero =>
      obtain rfl : _ = id := Option.some.inj first
      obtain rfl : _ = l := Option.some.inj second
      rcases zero with rfl | rfl
      · exact absurd rfl hid
      · cases more
    | below =>
      obtain rfl : _ = l := Option.some.inj second
      exact absurd more (by decide)
    | overflow =>
      obtain rfl : _ = l := Option.some.inj second
      rfl

theorem Halts.error_cases (h : Halts offset rest last) {e : WireError} (some_e : last = some e) :
    e = .truncatedHeader offset ∨ e = .lengthBelowHeader offset 1 ∨ ∃ l, e = .lengthOverflow offset l rest.length := by
  subst some_e
  cases h with
  | truncated => exact .inl rfl
  | below => exact .inr (.inl rfl)
  | overflow => exact .inr (.inr ⟨_, rfl⟩)

end

/-! ## The call as it runs -/

/-- the byte at an index; stops where the buffer has none -/
def byteAt (buffer : Bytes) (i : Nat) : Checked UInt8 :=
  match buffer[i]? with
  | some b => .ok b
  | none => .error (.rangeEnd (i + 1) buffer.length)

/-- the bytes from one index up to another; stops where the buffer does not reach that far -/
def slice (buffer : Bytes) (start stop : Nat) : Checked Bytes :=
  if start ≤ stop ∧ stop ≤ buffer.length then .ok ((buffer.drop start).take (stop - start))
  else .error (.rangeEnd stop buffer.length)

/-- one call on the whole buffer, with the offset of the next header and whether the walk has ended: the answer, and
the two after it -/
def nextIn (buffer : Bytes) (offset : Nat) (done : Bool) :
    Checked (Option (Except WireError RawMessage) × Nat × Bool) :=
  if done ∨ buffer.length ≤ offset then .ok (none, offset, done)
  else
    let remaining := buffer.length - offset
    if remaining < headerLength then .ok (some (.error (.truncatedHeader offset)), offset, true)
    else do
      let id ← byteAt buffer offset
      let len ← byteAt buffer (offset + 1)
      if id = 0 ∨ len = 0 then return (none, offset, true)
      else if len.toNat < headerLength then return (some (.error (.lengthBelowHeader offset len)), offset, true)
      else if remaining < len.toNat then return (some (.error (.lengthOverflow offset len remaining)), offset, true)
      else do
        let bytes ← slice buffer offset (offset + len.toNat)
        return (some (.ok ⟨id, bytes⟩), offset + len.toNat, false)

/-- what is left of the walk is the buffer from its offset on -/
def IsAt (buffer : Bytes) (w : Walker) : Prop := w.rest = buffer.drop w.offset

theorem byteAt_eq {buffer : Bytes} {i : Nat} {b : UInt8} (h : buffer[i]? = some b) : byteAt buffer i = .ok b := by
  rw [byteAt, h]

theorem slice_eq {buffer : Bytes} {start n : Nat} (h : start + n ≤ buffer.length) :
    slice buffer start (start + n) = .ok ((buffer.drop start).take n) := by
  rw [slice, if_pos ⟨Nat.le_add_right .., h⟩, Nat.add_sub_cancel_left]

/-- where what is left of the walk is left of the buffer, a call makes no access out of range and does what a walk
does -/
theorem nextIn_eq {buffer : Bytes} {w : Walker} (h : IsAt buffer w) :
    nextIn buffer w.offset w.done = .ok (w.next.1, w.next.2.offset, w.next.2.done) := by
  obtain ⟨offset, rest, done⟩ := w
  have at_offset : buffer.drop offset = rest := h.symm
  have remaining : buffer.length - offset = rest.length := by rw [← at_offset, List.length_drop]
  cases done with
  | true => simp [nextIn, next]
  | false =>
    rcases rest with _ | ⟨id, _ | ⟨len, tail⟩⟩
    · have past : buffer.length ≤ offset := Nat.le_of_sub_eq_zero remaining
      simp [nextIn, next, past]
    · have before : ¬buffer.length ≤ offset := by
        intro past
        simp [Nat.sub_eq_zero_of_le past] at remaining
      simp [nextIn, next, before, remaining, headerLength]
    · have before : ¬buffer.length ≤ offset := by
        intro past
        simp [Nat.sub_eq_zero_of_le past] at remaining
      have first : byteAt buffer offset = .ok id :=
        byteAt_eq (by rw [← Nat.add_zero offset, ← List.getElem?_drop, at_offset]; rfl)
      have second : byteAt buffer (offset + 1) = .ok len :=
        byteAt_eq (by rw [← List.getElem?_drop, at_offset]; rfl)
      have header : ¬(id :: len :: tail).length < headerLength := by simp [headerLength]
      simp only [nextIn, next, Bool.false_eq_true, false_or, before, remaining, header, first, second, if_false, bind,
        Except.bind]
      by_cases zero : id = 0 ∨ len = 0
      · simp only [zero, if_true]
        rfl
      by_cases below : len.toNat < headerLength
      · simp only [zero, below, if_true, if_false]
        rfl
      by_cases beyond : (id :: len :: tail).length < len.toNat
      · simp only [zero, below, beyond, if_true, if_false]
        rfl
      have whole : slice buffer offset (offset + len.toNat) = .ok ((id :: len :: tail).take len.toNat) := by
        rw [← at_offset]
        apply slice_eq
        omega
      simp only [zero, below, beyond, whole, if_false]
      rfl

/-- a call leaves the walk on the buffer -/
theorem isAt_next {buffer : Bytes} {w : Walker} (h : IsAt buffer w) : IsAt buffer w.next.2 := by
  obtain ⟨offset, rest, done⟩ := w
  cases done with
  | true => exact h
  | false =>
    rcases next_cases offset rest with ⟨m, w', answer, -, split, behind, -⟩ | ⟨last, halted⟩
    · rw [answer]
      have tail : w'.rest = rest.drop m.bytes.length := by
        rw [show rest = m.bytes ++ w'.rest from split, List.drop_left]
      rw [IsAt, tail, behind, ← List.drop_drop]
      exact congrArg _ h
    · obtain ⟨done, stands⟩ := halted.stands 1
      rw [after, after] at stands
      rw [stands]
      exact h

theorem isAt_after {buffer : Bytes} {w : Walker} (h : IsAt buffer w) (n : Nat) : IsAt buffer (after n w) := by
  induction n generalizing w with
  | zero => exact h
  | succ n ih => exact ih (isAt_next h)

/-! ## Every buffer -/

/-- a walk over a whole buffer: the messages it finds, the error it ends with, if any, and the offset it gets to -/
structure Walked (bytes : Bytes) (ms : List RawMessage) (last : Option WireError) (offset : Nat) : Prop where
  /-- the messages, then the error, and then nothing, however often it is asked -/
  answers : ∀ n, calls (ms.length + (last.toList.length + n)) (ofBytes bytes) =
    ms.map (some ∘ .ok) ++ (last.toList.map (some ∘ .error) ++ List.replicate n none)
  few : ms.length + last.toList.length ≤ bytes.length / 2 + 1
  framed : ∀ m ∈ ms, m.Framed
  /-- at every call, the messages found so far are all the bytes up to where the walk stands -/
  tiles : ∀ n, (ms.take n).flatMap (·.bytes) = bytes.take (after n (ofBytes bytes)).offset
  stands : ∀ n, (after (ms.length + n) (ofBytes bytes)).offset = offset
  within : offset ≤ bytes.length
  silent : last = none ↔
    offset = bytes.length ∨ offset + 2 ≤ bytes.length ∧ (bytes[offset]? = some 0 ∨ bytes[offset + 1]? = some 0)
  truncated : last = some (.truncatedHeader offset) ↔ offset + 1 = bytes.length
  below : last = some (.lengthBelowHeader offset 1) ↔
    ∃ id, bytes[offset]? = some id ∧ id ≠ 0 ∧ bytes[offset + 1]? = some 1
  overflow : ∀ l, last = some (.lengthOverflow offset l (bytes.length - offset)) ↔
    ∃ id, bytes[offset]? = some id ∧ id ≠ 0 ∧ bytes[offset + 1]? = some l ∧ 1 < l.toNat ∧
      bytes.length - offset < l.toNat
  /-- there is no other error -/
  errors : ∀ e, last = some e → e = .truncatedHeader offset ∨ e = .lengthBelowHeader offset 1 ∨
    ∃ l, e = .lengthOverflow offset l (bytes.length - offset)
  /-- no call makes an access out of range -/
  inRange : ∀ n, nextIn bytes (after n (ofBytes bytes)).offset (after n (ofBytes bytes)).done =
    .ok ((after n (ofBytes bytes)).next.1, (after (n + 1) (ofBytes bytes)).offset,
      (after (n + 1) (ofBytes bytes)).done)

namespace Path

variable {bytes : Bytes} {ms : List RawMessage} {w' : Walker} {last : Option WireError}

theorem tiles (h : Path (ofBytes bytes) ms w') (halted : Halted w' last) (n : Nat) :
    (ms.take n).flatMap (·.bytes) = bytes.take (after n (ofBytes bytes)).offset := by
  have split : bytes = (ms.take n).flatMap (·.bytes) ++ ((ms.drop n).flatMap (·.bytes) ++ w'.rest) := by
    rw [← List.append_assoc, ← List.flatMap_append, List.take_append_drop]
    exact h.rest_eq
  have stands : (after n (ofBytes bytes)).offset = ((ms.take n).flatMap (·.bytes)).length :=
    (h.offset_after halted n).trans (Nat.zero_add _)
  rw [stands]
  exact (List.take_left.symm.trans (congrArg (List.take _) split.symm))

theorem few (h : Path (ofBytes bytes) ms w') (halted : Halted w' last) :
    ms.length + last.toList.length ≤ bytes.length / 2 + 1 := by
  have length : headerLength * ms.length + w'.rest.length ≤ bytes.length := h.length_le
  have once : last.toList.length ≤ 1 := by cases last <;> simp
  have left : w'.rest.length = 0 → last.toList.length = 0 := by
    intro empty
    rw [halted.halts.silent_iff.2 (.inl empty)]
    rfl
  simp only [headerLength] at length
  omega

theorem drop_offset (h : Path (ofBytes bytes) ms w') : bytes.drop w'.offset = w'.rest := by
  have reached : w'.offset = (ms.flatMap (·.bytes)).length := h.offset_eq.trans (Nat.zero_add _)
  rw [reached]
  exact (congrArg (List.drop _) h.rest_eq).trans List.drop_left

theorem offset_le (h : Path (ofBytes bytes) ms w') : w'.offset ≤ bytes.length := by
  have reached : w'.offset = (ms.flatMap (·.bytes)).length := h.offset_eq.trans (Nat.zero_add _)
  have split : bytes = ms.flatMap (·.bytes) ++ w'.rest := h.rest_eq
  rw [reached, split, List.length_append]
  exact Nat.le_add_right ..

end Path

/-- **The walk.** It is the same for every buffer: the messages of the buffer one behind the other from its first byte
on, and an end that the bytes at the offset it got to decide. -/
theorem walk_accounted_for (bytes : Bytes) : ∃ last offset, Walked bytes (messages bytes) last offset := by
  obtain ⟨ms, w', last, path, halted⟩ := exists_path 0 bytes
  have all : messages bytes = ms := by
    have few := path.few halted
    exact path.collect_eq halted (by simp only [headerLength]; omega)
  have within := path.offset_le
  have left : w'.rest.length = bytes.length - w'.offset := by rw [← path.drop_offset, List.length_drop]
  have first : w'.rest[0]? = bytes[w'.offset]? := by rw [← path.drop_offset, List.getElem?_drop, Nat.add_zero]
  have second : w'.rest[1]? = bytes[w'.offset + 1]? := by rw [← path.drop_offset, List.getElem?_drop]
  have halts := halted.halts
  refine ⟨last, w'.offset, ?_⟩
  rw [all]
  refine ⟨?_, path.few halted, path.framed, path.tiles halted, ?_, within, ?_, ?_, ?_, ?_, ?_, ?_⟩
  · intro n
    rw [ofBytes, path.calls_eq, halted.calls]
  · intro n
    have stands := path.offset_after halted (ms.length + n)
    rw [List.take_of_length_le (Nat.le_add_right ..), ← path.offset_eq] at stands
    exact stands
  · have none_left : w'.rest.length = 0 ↔ w'.offset = bytes.length := by omega
    have two_left : 2 ≤ w'.rest.length ↔ w'.offset + 2 ≤ bytes.length := by omega
    rw [halts.silent_iff, none_left, two_left, first, second]
  · have one_left : w'.rest.length = 1 ↔ w'.offset + 1 = bytes.length := by omega
    rw [halts.truncated_iff, one_left]
  · rw [halts.below_iff, first, second]
  · intro l
    rw [← left, halts.overflow_iff, first, second]
  · intro e some_e
    rw [← left]
    exact halts.error_cases some_e
  · intro n
    rw [after_succ]
    have start : IsAt bytes (ofBytes bytes) := rfl
    exact nextIn_eq (isAt_after start n)

/-- a message of four bytes, and a header that asks for more than is left -/
example : calls 4 (ofBytes [7, 4, 0, 0, 9, 3]) =
    [some (.ok ⟨7, [7, 4, 0, 0]⟩), some (.error (.lengthOverflow 4 3 2)), none, none] := by
  rfl

/-! ## Buffers in parts -/

/-- a message is found wherever it stands, and whatever stands behind it -/
theorem finds_framed {m : RawMessage} (h : m.Framed) (offset : Nat) (rest : Bytes) :
    Finds ⟨offset, m.bytes ++ rest, false⟩ m ⟨offset + m.bytes.length, rest, false⟩ := by
  obtain ⟨id, bytes⟩ := m
  obtain ⟨holds, first, hid, len, second, length⟩ := h
  match bytes with
  | [] => cases first
  | [_] => cases second
  | a :: b :: tail =>
    obtain rfl : a = id := Option.some.inj first
    obtain rfl : b = len := Option.some.inj second
    simp only [List.length_cons] at length
    have more : 1 < b.toNat := by omega
    have whole : (a :: b :: tail).length = b.toNat := length
    have fits : b.toNat ≤ (tail ++ rest).length + 2 := by
      rw [List.length_append]
      omega
    have found := find offset hid more fits
    have front : (a :: b :: (tail ++ rest)).take b.toNat = a :: b :: tail := by
      rw [← List.cons_append, ← List.cons_append]
      exact List.take_left' whole
    have back : (a :: b :: (tail ++ rest)).drop b.toNat = rest := by
      rw [← List.cons_append, ← List.cons_append]
      exact List.drop_left' whole
    rw [front, back, ← whole] at found
    exact found

theorem Path.append {w w₁ w' : Walker} {ms more : List RawMessage} (h : Path w ms w₁) (h' : Path w₁ more w') :
    Path w (ms ++ more) w' := by
  induction h with
  | nil => exact h'
  | cons found _ ih => exact .cons found (ih h')

theorem path_of_framed {ms : List RawMessage} (framed : ∀ m ∈ ms, m.Framed) (offset : Nat) (rest : Bytes) :
    Path ⟨offset, ms.flatMap (·.bytes) ++ rest, false⟩ ms
      ⟨offset + (ms.flatMap (·.bytes)).length, rest, false⟩ := by
  induction ms generalizing offset with
  | nil => exact .nil _
  | cons m ms ih =>
    obtain ⟨here, later⟩ := List.forall_mem_cons.1 framed
    have found := finds_framed here offset (ms.flatMap (·.bytes) ++ rest)
    rw [← List.append_assoc, ← List.flatMap_cons] at found
    have path := ih later (offset + m.bytes.length)
    rw [Nat.add_assoc, ← List.length_append, ← List.flatMap_cons] at path
    exact .cons found path

/-- where a walk cannot go on does not depend on the offset that it stands at -/
theorem Halted.shift {offset : Nat} {rest : Bytes} {last : Option WireError} (h : Halted ⟨offset, rest, false⟩ last)
    (offset' : Nat) : ∃ last', Halted ⟨offset', rest, false⟩ last' := by
  rcases next_cases offset' rest with ⟨m, w', -, framed, split, -⟩ | halted
  · have found := finds_framed framed offset w'.rest
    rw [← show rest = m.bytes ++ w'.rest from split] at found
    have answer := h.answer
    rw [found.1] at answer
    cases last <;> cases answer
  · exact halted

theorem Path.done {w w' : Walker} {ms : List RawMessage} (h : Path w ms w') (going : w.done = false) :
    w'.done = false := by
  induction h with
  | nil => exact going
  | cons found _ ih =>
    obtain ⟨-, -, -, -, going⟩ := found
    exact ih going

/-- the messages of some bytes are those on a walk over them, wherever it starts -/
theorem messages_eq {offset : Nat} {bytes : Bytes} {ms : List RawMessage} {w' : Walker} {last : Option WireError}
    (path : Path ⟨offset, bytes, false⟩ ms w') (halted : Halted w' last) : messages bytes = ms := by
  obtain ⟨offset', rest, done⟩ := w'
  obtain rfl : done = false := path.done rfl
  have fromStart := path_of_framed path.framed 0 rest
  rw [← show bytes = ms.flatMap (·.bytes) ++ rest from path.rest_eq] at fromStart
  obtain ⟨last', halted⟩ := halted.shift (0 + (ms.flatMap (·.bytes)).length)
  have few := fromStart.few halted
  exact fromStart.collect_eq halted (by simp only [headerLength]; omega)

/-- messages in front of some bytes are found in front of those that the bytes hold -/
theorem messages_append {ms : List RawMessage} (framed : ∀ m ∈ ms, m.Framed) (rest : Bytes) :
    messages (ms.flatMap (·.bytes) ++ rest) = ms ++ messages rest := by
  obtain ⟨more, w', last, path, halted⟩ := exists_path (0 + (ms.flatMap (·.bytes)).length) rest
  rw [messages_eq path halted]
  exact messages_eq ((path_of_framed framed 0 rest).append path) halted

/-- a buffer is its messages, and bytes that no message is found in -/
theorem exists_rest (bytes : Bytes) : ∃ rest, bytes = (messages bytes).flatMap (·.bytes) ++ rest ∧
    messages rest = [] ∧ ∀ m ∈ messages bytes, m.Framed := by
  obtain ⟨ms, ⟨offset, rest, done⟩, last, path, halted⟩ := exists_path 0 bytes
  obtain rfl : done = false := path.done rfl
  rw [messages_eq path halted]
  exact ⟨rest, path.rest_eq, messages_eq (.nil _) halted, path.framed⟩

/-- whether a header stops the walk does not depend on the bytes behind it, only on how many there are -/
theorem messages_eq_nil_iff {id len : UInt8} {tail : Bytes} :
    messages (id :: len :: tail) = [] ↔ id = 0 ∨ len.toNat < headerLength ∨ tail.length + 2 < len.toNat := by
  constructor
  · intro none
    refine Decidable.byContradiction ?_
    intro fine
    obtain ⟨hid, fine⟩ := not_or.1 fine
    obtain ⟨more, fits⟩ := not_or.1 fine
    obtain ⟨-, framed, split, -⟩ := find 0 hid (Nat.lt_of_not_le fun h => more (Nat.lt_succ_of_le h))
      (Nat.le_of_not_lt fits)
    have found := messages_append (List.forall_mem_singleton.2 framed) ((id :: len :: tail).drop len.toNat)
    rw [List.flatMap_singleton, ← split, none] at found
    cases found
  · intro wrong
    rcases next_cases 0 (id :: len :: tail) with ⟨m, w', -, framed, split, -⟩ | ⟨last, halted⟩
    · obtain ⟨holds, first, hid, len', second, length⟩ := framed
      replace split : id :: len :: tail = m.bytes ++ w'.rest := split
      have longer := congrArg List.length split
      have first' : (id :: len :: tail)[0]? = some m.id := by
        rw [split, List.getElem?_append_left (by simp only [headerLength] at holds; omega), first]
      have second' : (id :: len :: tail)[1]? = some len' := by
        rw [split, List.getElem?_append_left holds, second]
      obtain rfl : id = m.id := Option.some.inj first'
      obtain rfl : len = len' := Option.some.inj second'
      simp only [List.length_cons, List.length_append] at longer
      have long : ¬tail.length + 2 < len.toNat := by omega
      have whole : ¬len.toNat < headerLength := by
        rw [← length]
        exact Nat.not_lt_of_le holds
      simp [hid, whole, long] at wrong
    · exact messages_eq (.nil _) halted

end Walker

end CanAdapter
