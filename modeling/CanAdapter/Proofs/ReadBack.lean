/-
What is written is read back. A script of typed writes and the script of reads that mirrors it, one read of the same type
for each write and one of as many bytes for each gap, go through a buffer in step: in the same byte order the reads
return the values that were written, find zeros in the gaps, and end where the writes ended.

`WriteOp.step_eq` is all that one write does: it takes its place if it fits, and otherwise it is told what it asked for
and what there is, and changes nothing. `WriteOp.step_mirror` is the read of one write, whatever stands behind it.
`Writer.Lays` is a script of writes that all fit; induction on it goes from one position to the next, to `Lays.eq_laid`
and `Lays.reads_back`. `Writer.script_reads_back` is the result.
-/
import CanAdapter.Message.Encoding
import CanAdapter.Script

namespace CanAdapter

/-! ## One write -/

/-- the writer after a write that fits -/
def Writer.laying (op : WriteOp) (w : Writer) : Writer :=
  ⟨w.order, w.written ++ op.bytes w.order w.pos, w.rest.drop (op.size w.pos)⟩

@[simp] theorem Writer.pos_laying (op : WriteOp) (w : Writer) : (w.laying op).pos = w.pos + op.size w.pos := by
  simp [laying, pos]

/-- what is left of the buffer -/
theorem Writer.length_rest (w : Writer) : w.rest.length = w.buffer.length - w.pos := by simp [buffer, pos]

namespace WriteOp

variable {op : WriteOp} {w w' : Writer} {answer : Except OutOfBounds Unit}

theorem fault?_eq_none_iff {pos : Nat} : op.fault? pos = none ↔ op ≠ .padTo 0 ∧ pos + op.size pos < 2 ^ 64 := by
  unfold fault?
  split
  · simp
  · rename_i aligned
    simp only [ne_eq, ite_eq_left_iff, reduceCtorEq, imp_false, Decidable.not_not, iff_and_self]
    intro _
    exact aligned

theorem step_eq (aligned : op ≠ .padTo 0) (inside : w.pos + op.size w.pos < 2 ^ 64) :
    op.step w = .ok (if op.size w.pos ≤ w.rest.length then (.ok (), w.laying op)
      else (.error ⟨op.size w.pos, w.rest.length⟩, w)) := by
  have regular := fault?_eq_none_iff.2 ⟨aligned, inside⟩
  by_cases fits : op.size w.pos ≤ w.rest.length
  · have written : w.write op = .ok (w.laying op) := if_pos fits
    simp only [step, regular, written, if_pos fits]
  · have refused : w.write op = .error ⟨op.size w.pos, w.rest.length⟩ := if_neg fits
    simp only [step, regular, refused, if_neg fits]

theorem regular_of_step (h : op.step w = .ok (answer, w')) : op ≠ .padTo 0 ∧ w.pos + op.size w.pos < 2 ^ 64 := by
  unfold step at h
  split at h
  · cases h
  · rename_i none
    exact fault?_eq_none_iff.1 none

theorem length_buffer_step (h : op.step w = .ok (answer, w')) : w'.buffer.length = w.buffer.length := by
  unfold step at h
  split at h
  · cases h
  · split at h
    · rename_i written
      cases h
      exact Writer.length_buffer_write written
    · cases h
      rfl

/-! ## The read that mirrors a write -/

/-- the read that asks for what the write lays down at position `pos` -/
def mirror (pos : Nat) : WriteOp → ReadOp
  | .u8 _ => .u8
  | .i8 _ => .i8
  | .u16 _ => .u16
  | .u16be _ => .u16be
  | .u32 _ => .u32
  | .gap n => .slice n
  | .slice bytes => .slice bytes.length
  | .padTo align => .slice (paddingTo align pos)

/-- what that read has to return: the value that was written, or the zeros of a gap -/
def value (pos : Nat) : WriteOp → ReadValue
  | .u8 v => .u8 v
  | .i8 v => .i8 v
  | .u16 v => .u16 v
  | .u16be v => .u16 v
  | .u32 v => .u32 v
  | .gap n => .slice (List.replicate n 0)
  | .slice bytes => .slice bytes
  | .padTo align => .slice (List.replicate (paddingTo align pos) 0)

/-- the writes of a script, each with the position it starts at -/
def placed : Nat → List WriteOp → List (Nat × WriteOp)
  | _, [] => []
  | pos, op :: ops => (pos, op) :: placed (pos + op.size pos) ops

theorem size_mirror (pos : Nat) (op : WriteOp) : (op.mirror pos).size = op.size pos := by cases op <;> rfl

theorem run_mirror (o : ByteOrder) (pos : Nat) (op : WriteOp) (rest : Bytes) :
    (op.mirror pos).run ⟨o, pos, op.bytes o pos ++ rest⟩ = .ok (op.value pos, ⟨o, pos + op.size pos, rest⟩) := by
  cases op with
  | u8 v =>
    rw [bytes, digits_one]
    exact Reader.bind_ok (Reader.u8_append ..)
  | i8 v =>
    rw [bytes, digits_one]
    exact Reader.bind_ok (Reader.i8_append ..)
  | u16 v => exact Reader.bind_ok (Reader.u16_append ..)
  | u16be v => exact Reader.bind_ok (Reader.u16be_append ..)
  | u32 v => exact Reader.bind_ok (Reader.u32_append ..)
  | gap n => exact Reader.bind_ok (Reader.take_append List.length_replicate ..)
  | slice bytes => exact Reader.bind_ok (Reader.take_append rfl ..)
  | padTo align => exact Reader.bind_ok (Reader.take_append List.length_replicate ..)

theorem step_mirror {pos : Nat} (inside : pos + op.size pos < 2 ^ 64) (o : ByteOrder) (rest : Bytes) :
    (op.mirror pos).step ⟨o, pos, op.bytes o pos ++ rest⟩ =
      .ok (.ok (op.value pos), ⟨o, pos + op.size pos, rest⟩) := by
  rw [ReadOp.step, size_mirror, if_pos inside, run_mirror]

end WriteOp

/-! ## Scripts -/

namespace Writer

variable {script : List WriteOp} {op : WriteOp} {w w' : Writer} {answer : Except OutOfBounds Unit}

/-- the writer before the `i`-th write of a script -/
def before (script : List WriteOp) (i : Nat) (w : Writer) : Writer := (Script.run WriteOp.step (script.take i) w).2

/-- no write of the script pads to a multiple of zero, and none ends behind the last 64-bit position -/
def Regular (script : List WriteOp) (w : Writer) : Prop :=
  ∀ i (_ : i < script.length), script[i] ≠ .padTo 0 ∧
    (w.before script i).pos + script[i].size (w.before script i).pos < 2 ^ 64

instance (script : List WriteOp) (w : Writer) : Decidable (w.Regular script) :=
  inferInstanceAs (Decidable (∀ i (_ : i < script.length), script[i] ≠ .padTo 0 ∧
    (w.before script i).pos + script[i].size (w.before script i).pos < 2 ^ 64))

theorem before_succ (stepped : op.step w = .ok (answer, w')) (script : List WriteOp) (i : Nat) :
    w.before (op :: script) (i + 1) = w'.before script i := by
  rw [before, List.take_succ_cons, Script.run_cons stepped]
  rfl

theorem Regular.tail (regular : w.Regular (op :: script)) (stepped : op.step w = .ok (answer, w')) :
    w'.Regular script := by
  intro i inside
  have later := regular (i + 1) (Nat.succ_lt_succ inside)
  rwa [before_succ stepped] at later

/-- each write of a regular script has its answer, and leads from the writer before it to the one before the next -/
theorem Regular.steps (regular : w.Regular script) (i : Nat) (inside : i < script.length) :
    ∃ answer, (Script.run WriteOp.step script w).1[i]? = some (.ok answer) ∧
      script[i].step (w.before script i) = .ok (answer, w.before script (i + 1)) := by
  induction script generalizing w i with
  | nil => cases inside
  | cons op script ih =>
    obtain ⟨aligned, addressable⟩ := regular 0 (Nat.zero_lt_succ _)
    obtain ⟨⟨answer, w₁⟩, stepped⟩ : ∃ r, op.step w = .ok r := ⟨_, WriteOp.step_eq aligned addressable⟩
    rw [Script.run_cons stepped]
    cases i with
    | zero =>
      refine ⟨answer, rfl, ?_⟩
      rw [before_succ stepped]
      exact stepped
    | succ i =>
      rw [before_succ stepped, before_succ stepped]
      exact ih (regular.tail stepped) i (Nat.lt_of_succ_lt_succ inside)

theorem length_buffer_before (script : List WriteOp) (i : Nat) (w : Writer) :
    (w.before script i).buffer.length = w.buffer.length := by
  refine Script.run_keeps (P := fun w' : Writer => w'.buffer.length = w.buffer.length) ?_ _ rfl
  intro op w₁ answer w₂ stepped same
  exact (WriteOp.length_buffer_step stepped).trans same

/-! ## Writes that all fit -/

/-- from `w` to `w'` every write of the script fits -/
inductive Lays : Writer → List WriteOp → Writer → Prop where
  | nil (w : Writer) : Lays w [] w
  | cons {w w' : Writer} {op : WriteOp} {script : List WriteOp} (inside : w.pos + op.size w.pos < 2 ^ 64)
      (fits : op.size w.pos ≤ w.rest.length) (later : Lays (w.laying op) script w') : Lays w (op :: script) w'

theorem lays_of_run (h : Script.run WriteOp.step script w = (script.map fun _ => .ok (.ok ()), w')) :
    Lays w script w' := by
  induction script generalizing w with
  | nil =>
    cases h
    exact .nil _
  | cons op script ih =>
    cases stepped : op.step w with
    | error fault =>
      rw [Script.run, stepped] at h
      cases h
    | ok r =>
      obtain ⟨answer, w₁⟩ := r
      obtain ⟨aligned, inside⟩ := WriteOp.regular_of_step stepped
      rw [Script.run_cons stepped, List.map_cons, Prod.mk.injEq, List.cons.injEq] at h
      obtain ⟨⟨first, answers⟩, last⟩ := h
      cases first
      rw [WriteOp.step_eq aligned inside] at stepped
      split at stepped
      · rename_i fits
        cases stepped
        exact .cons inside fits (ih (Prod.ext answers last))
      · cases stepped

namespace Lays

/-- the writes lie one behind the other, and what is behind the last one is as it was -/
theorem eq_laid (h : Lays w script w') :
    w' = ⟨w.order, w.written ++ layBytes w.order w.pos script,
      w.rest.drop (layBytes w.order w.pos script).length⟩ := by
  induction h with
  | nil w => simp [layBytes]
  | @cons w w' op script _ _ _ ih =>
    rw [ih, pos_laying]
    simp only [laying, layBytes, List.append_assoc, List.drop_drop, List.length_append, WriteOp.length_bytes]

theorem length_le (h : Lays w script w') : (layBytes w.order w.pos script).length ≤ w.rest.length := by
  induction h with
  | nil w => exact Nat.zero_le _
  | @cons w w' op script _ fits _ ih =>
    rw [pos_laying] at ih
    simp only [laying, List.length_drop] at ih
    rw [layBytes, List.length_append, WriteOp.length_bytes]
    omega

/-- the reads find the writes one by one, whatever is behind the last -/
theorem reads_back (h : Lays w script w') (rest : Bytes) :
    Script.run ReadOp.step ((WriteOp.placed w.pos script).map fun x => x.2.mirror x.1)
        ⟨w.order, w.pos, layBytes w.order w.pos script ++ rest⟩ =
      ((WriteOp.placed w.pos script).map fun x => .ok (.ok (x.2.value x.1)), ⟨w.order, w'.pos, rest⟩) := by
  induction h with
  | nil w => rfl
  | @cons w w' op script inside _ _ ih =>
    rw [pos_laying] at ih
    rw [WriteOp.placed, List.map_cons, List.map_cons, layBytes, List.append_assoc,
      Script.run_cons (WriteOp.step_mirror inside w.order _)]
    rw [show w.order = (w.laying op).order from rfl, ih]

end Lays

/-- **What is written is read back.** In a script that divides by no zero and stays within 64-bit positions, every write
has its answer: it succeeds exactly if it fits what is left of the buffer, and otherwise it is told how many bytes it
asked for and how many there are, and leaves position and buffer alone. If all of them succeed they have written every
byte up to the last position, and none behind it. In the same byte order the mirrored reads then return the values that
were written, and zeros for the gaps, and end at the same position. -/
theorem script_reads_back (o : ByteOrder) (buffer : Bytes) (script : List WriteOp)
    (regular : (ofBuffer o buffer).Regular script) :
    (∀ i (_ : i < script.length), ∃ answer,
      let w := (ofBuffer o buffer).before script i
      let w' := (ofBuffer o buffer).before script (i + 1)
      (Script.run WriteOp.step script (ofBuffer o buffer)).1[i]? = some (.ok answer) ∧
        script[i].step w = .ok (answer, w') ∧
        (answer = .ok () ↔ script[i].size w.pos ≤ buffer.length - w.pos) ∧
        (answer ≠ .ok () → answer = .error ⟨script[i].size w.pos, buffer.length - w.pos⟩ ∧ w' = w)) ∧
    ∀ w, Script.run WriteOp.step script (ofBuffer o buffer) = (script.map fun _ => .ok (.ok ()), w) →
      w.pos = (layBytes o 0 script).length ∧ w.pos ≤ buffer.length ∧
        w.buffer = layBytes o 0 script ++ buffer.drop w.pos ∧
        Script.run ReadOp.step ((WriteOp.placed 0 script).map fun x => x.2.mirror x.1) (Reader.ofBytes o w.buffer) =
          ((WriteOp.placed 0 script).map fun x => .ok (.ok (x.2.value x.1)), ⟨o, w.pos, buffer.drop w.pos⟩) := by
  constructor
  · intro i inside
    obtain ⟨answer, told, stepped⟩ := regular.steps i inside
    obtain ⟨aligned, addressable⟩ := regular i inside
    have left : ((ofBuffer o buffer).before script i).rest.length =
        buffer.length - ((ofBuffer o buffer).before script i).pos := by
      rw [length_rest, length_buffer_before]
      rfl
    refine ⟨answer, told, stepped, ?_⟩
    rw [WriteOp.step_eq aligned addressable, left] at stepped
    split at stepped
    · rename_i fits
      obtain ⟨rfl, -⟩ := Prod.mk.inj (Except.ok.inj stepped)
      exact ⟨iff_of_true rfl fits, fun refused => absurd rfl refused⟩
    · rename_i short
      obtain ⟨rfl, same⟩ := Prod.mk.inj (Except.ok.inj stepped)
      exact ⟨iff_of_false nofun short, fun _ => ⟨rfl, same.symm⟩⟩
  · intro w ran
    have lays := lays_of_run ran
    obtain rfl : w = ⟨o, layBytes o 0 script, buffer.drop (layBytes o 0 script).length⟩ := lays.eq_laid
    exact ⟨rfl, lays.length_le, rfl, lays.reads_back _⟩

/-- each type once, a gap, and padding where some is needed and where none is -/
def mixedScript : List WriteOp :=
  [.u8 7, .gap 1, .u16be 0x0102, .padTo 4, .i8 (-2), .padTo 4, .u16 0x1234, .slice [9, 8], .u32 0xa1b2c3d4]

/-- the same with a word of four bytes and one of two behind it -/
def longerScript : List WriteOp := mixedScript ++ [.u32 5, .u16 6]

/-- of eighteen bytes two are left behind the script: too few for the first of the two words, and enough for the other -/
theorem mixedScript_reads_back :
    let start := ofBuffer .big (List.replicate 18 0xaa)
    start.Regular mixedScript ∧ start.Regular longerScript ∧
      (Script.run WriteOp.step longerScript start).1[9]? = some (.ok (.error ⟨4, 2⟩)) ∧
      start.before longerScript 10 = start.before longerScript 9 ∧
      ∃ w, Script.run WriteOp.step mixedScript start = (mixedScript.map fun _ => .ok (.ok ()), w) ∧
        w.buffer = [7, 0, 1, 2, 0xfe, 0, 0, 0, 0x12, 0x34, 9, 8, 0xa1, 0xb2, 0xc3, 0xd4, 0xaa, 0xaa] ∧
        Script.run ReadOp.step [.u8, .slice 1, .u16be, .slice 0, .i8, .slice 3, .u16, .slice 2, .u32]
            (Reader.ofBytes .big w.buffer) =
          ([.u8 7, .slice [0], .u16 0x0102, .slice [], .i8 (-2), .slice [0, 0, 0], .u16 0x1234, .slice [9, 8],
            .u32 0xa1b2c3d4].map fun v => .ok (.ok v), ⟨.big, 16, [0xaa, 0xaa]⟩) := by
  intro start
  have regular : start.Regular mixedScript := by decide +kernel
  have longer : start.Regular longerScript := by decide +kernel
  obtain ⟨answer, told, -, fits, refused⟩ := (script_reads_back _ _ longerScript longer).1 9 (by decide)
  have full : ¬4 ≤ 18 - (start.before longerScript 9).pos := by decide +kernel
  have left : 18 - (start.before longerScript 9).pos = 2 := by decide +kernel
  obtain ⟨error, same⟩ := refused fun ok => full (fits.1 ok)
  have ran : Script.run WriteOp.step mixedScript (ofBuffer .big (List.replicate 18 0xaa)) =
      (mixedScript.map fun _ => .ok (.ok ()),
        ⟨.big, [7, 0, 1, 2, 0xfe, 0, 0, 0, 0x12, 0x34, 9, 8, 0xa1, 0xb2, 0xc3, 0xd4], [0xaa, 0xaa]⟩) := rfl
  obtain ⟨-, -, -, reads⟩ := (script_reads_back _ _ mixedScript regular).2 _ ran
  refine ⟨regular, longer, ?_, same, _, ran, rfl, reads⟩
  have answered : answer = .error ⟨4, 2⟩ := error.trans (congrArg (fun n => Except.error (OutOfBounds.mk 4 n)) left)
  rw [told, answered]

end Writer

end CanAdapter
