/-
Scripts. A script is a list of steps on a state; every step answers something or stops the adapter. The answers come
back in order, and a fault takes the place of its step's answer and ends the script.

`length_run_le`: a script never has more answers than steps. `run_cons`: a step that answers is followed by the rest of
the script. `run_keeps`: what every step keeps, the script keeps.
-/
import CanAdapter.Fault

namespace CanAdapter.Script

variable {ι σ β : Type}

/-- the answers of a script and the state it ends in -/
def run (step : ι → σ → Checked (β × σ)) : List ι → σ → List (Checked β) × σ
  | [], s => ([], s)
  | i :: is, s =>
    match step i s with
    | .error f => ([.error f], s)
    | .ok (b, s) => ((.ok b :: (run step is s).1), (run step is s).2)

theorem length_run_le (step : ι → σ → Checked (β × σ)) (is : List ι) (s : σ) :
    (run step is s).1.length ≤ is.length := by
  induction is generalizing s with
  | nil => simp [run]
  | cons i is ih =>
    simp only [run]
    split
    · simp
    · simpa using ih _

theorem run_cons {step : ι → σ → Checked (β × σ)} {i : ι} {s s' : σ} {b : β} (h : step i s = .ok (b, s'))
    (is : List ι) : run step (i :: is) s = (.ok b :: (run step is s').1, (run step is s').2) := by
  rw [run, h]

theorem run_keeps {step : ι → σ → Checked (β × σ)} {P : σ → Prop}
    (keeps : ∀ i s b s', step i s = .ok (b, s') → P s → P s') (is : List ι) {s : σ} (hs : P s) :
    P (run step is s).2 := by
  induction is generalizing s with
  | nil => exact hs
  | cons i is ih =>
    rw [run]
    split
    · exact hs
    · rename_i b s' stepped
      exact ih (keeps i s b s' stepped hs)

end CanAdapter.Script
