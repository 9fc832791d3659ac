import Mathlib.Data.List.Basic
import Mathlib.Logic.Function.Basic

/-!
# Independent cells

A loop over the cells of an array that steps each cell by itself does to every
cell what the cell's own step does, and emits the outputs in the order of the
cells.  Repeating the loop over a list of inputs runs every cell as a machine of
its own.
-/

namespace SysTweak.Transition

universe u v w x

variable {κ : Type u} {σ : Type v} {ω : Type w} {ι : Type x} [DecidableEq κ]

/-- Step the cells one after the other. -/
def sweep (step : κ → σ → σ × List ω) : List κ → (κ → σ) → (κ → σ) × List ω
  | [], cells => (cells, [])
  | key :: keys, cells =>
      let stepped := step key (cells key)
      let rest := sweep step keys (Function.update cells key stepped.1)
      (rest.1, stepped.2 ++ rest.2)

/-- No cell sees what the loop did to another. -/
theorem sweep_eq (step : κ → σ → σ × List ω) {keys : List κ} (distinct : keys.Nodup)
    (cells : κ → σ) :
    sweep step keys cells =
      (fun key => if key ∈ keys then (step key (cells key)).1 else cells key,
        keys.flatMap fun key => (step key (cells key)).2) := by
  induction keys generalizing cells with
  | nil => simp [sweep]
  | cons head keys ih =>
      rcases List.nodup_cons.mp distinct with ⟨notLater, distinctTail⟩
      rw [sweep, ih distinctTail]
      apply Prod.ext
      · funext key
        by_cases same : key = head
        · subst key
          simp [notLater, Function.update_self]
        · simp [same]
      · have untouched : ∀ key ∈ keys,
            (step key (Function.update cells head (step head (cells head)).1 key)).2 =
              (step key (cells key)).2 := by
          intro key member
          have different : key ≠ head := by
            rintro rfl
            exact notLater member
          rw [Function.update_of_ne different]
        rw [List.flatMap_cons, ← List.flatMap_congr untouched]

/-- Repeat the loop for each input, keeping the outputs of each round apart. -/
def rounds (step : ι → κ → σ → σ × List ω) (keys : List κ) :
    (κ → σ) → List ι → List (List ω)
  | _, [] => []
  | cells, input :: inputs =>
      let swept := sweep (step input) keys cells
      swept.2 :: rounds step keys swept.1 inputs

/-- One cell after a list of inputs. -/
def cellAfter (step : ι → κ → σ → σ × List ω) (key : κ) (cell : σ)
    (inputs : List ι) : σ :=
  inputs.foldl (fun cell input => (step input key cell).1) cell

omit [DecidableEq κ] in
theorem cellAfter_take_succ (step : ι → κ → σ → σ × List ω) (key : κ) (cell : σ)
    {inputs : List ι} {n : Nat} {input : ι} (here : inputs[n]? = some input) :
    cellAfter step key cell (inputs.take (n + 1)) =
      (step input key (cellAfter step key cell (inputs.take n))).1 := by
  rw [cellAfter, List.take_add_one, here, Option.toList_some, List.foldl_append]
  rfl

/-- The outputs of a round are those of the cells, in order, each in the state its
own inputs led it to. -/
theorem rounds_getElem? (step : ι → κ → σ → σ × List ω) {keys : List κ}
    (distinct : keys.Nodup) (complete : ∀ key, key ∈ keys) (cells : κ → σ)
    (inputs : List ι) (n : Nat) :
    (rounds step keys cells inputs)[n]? =
      inputs[n]?.map fun input =>
        keys.flatMap fun key =>
          (step input key (cellAfter step key (cells key) (inputs.take n))).2 := by
  induction inputs generalizing cells n with
  | nil => simp [rounds]
  | cons input inputs ih =>
      rw [rounds, sweep_eq _ distinct]
      cases n with
      | zero => simp [cellAfter]
      | succ n =>
          simp only [complete, if_true, List.getElem?_cons_succ, List.take_succ_cons]
          rw [ih]
          rfl

/-- Where the cells of a round are arrays of cells themselves, an inner cell runs by
itself as well. -/
theorem cellAfter_sweep {μ : Type*} (step : ι → μ → κ → σ → σ × List ω)
    {keys : List κ} (distinct : keys.Nodup) {key : κ} (member : key ∈ keys) (outer : μ)
    (cells : κ → σ) (inputs : List ι) :
    cellAfter (fun input outer => sweep (step input outer) keys) outer cells inputs key =
      cellAfter (fun input => step input outer) key (cells key) inputs := by
  induction inputs generalizing cells with
  | nil => rfl
  | cons input inputs ih =>
      have stepped : (sweep (step input outer) keys cells).1 key =
          (step input outer key (cells key)).1 := by
        rw [sweep_eq _ distinct]
        simp [member]
      calc
        cellAfter (fun input outer => sweep (step input outer) keys) outer cells
            (input :: inputs) key
        _ = cellAfter (fun input outer => sweep (step input outer) keys) outer
              (sweep (step input outer) keys cells).1 inputs key := rfl
        _ = cellAfter (fun input => step input outer) key
              ((sweep (step input outer) keys cells).1 key) inputs := ih _
        _ = cellAfter (fun input => step input outer) key (cells key)
              (input :: inputs) := by rw [stepped]; rfl

end SysTweak.Transition
