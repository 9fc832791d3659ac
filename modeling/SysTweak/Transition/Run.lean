import Mathlib.Data.List.Induction

/-!
# Finite runs of fallible systems

A system is given by its step: from a state and one input it either faults or
reaches a next state and emits a finite list of outputs.  This file supplies
finite runs over lists of inputs, their composition, the steps taken inside a
run, and the induction rules that carry a property of one step to every run.
A fault at any input ends the run; it is never totalized.
-/

namespace SysTweak.Transition

universe u v w x y

/-- One step of a system with states `σ`, inputs `ι`, outputs `ω` and faults
`ε`. -/
abbrev Step (σ : Type u) (ι : Type v) (ω : Type w) (ε : Type x) :=
  σ → ι → Except ε (σ × List ω)

variable {σ : Type u} {ι : Type v} {ω : Type w} {ε : Type x}

/-- Feed a list of inputs to a system, collecting its outputs in order. -/
def run (step : Step σ ι ω ε) : σ → List ι → Except ε (σ × List ω)
  | state, [] => .ok (state, [])
  | state, input :: inputs =>
      match step state input with
      | .error fault => .error fault
      | .ok (next, out) =>
          match run step next inputs with
          | .error fault => .error fault
          | .ok (target, outs) => .ok (target, out ++ outs)

/-- `target` is reached from `source` by the inputs, without a fault, having
emitted `outs`. -/
def Runs (step : Step σ ι ω ε) (source : σ) (inputs : List ι) (target : σ)
    (outs : List ω) : Prop :=
  run step source inputs = .ok (target, outs)

@[simp]
theorem runs_nil_iff {step : Step σ ι ω ε} {source target : σ} {outs : List ω} :
    Runs step source [] target outs ↔ source = target ∧ outs = [] := by
  simp only [Runs, run, Except.ok.injEq, Prod.mk.injEq]
  exact and_congr_right fun _ => eq_comm

theorem Runs.nil (step : Step σ ι ω ε) (state : σ) :
    Runs step state [] state [] :=
  rfl

theorem runs_cons_iff {step : Step σ ι ω ε} {source target : σ} {input : ι}
    {inputs : List ι} {outs : List ω} :
    Runs step source (input :: inputs) target outs ↔
      ∃ next first rest, step source input = .ok (next, first) ∧
        Runs step next inputs target rest ∧ outs = first ++ rest := by
  unfold Runs
  rw [run]
  constructor
  · intro ran
    split at ran
    · contradiction
    · rename_i next first stepped
      split at ran
      · contradiction
      · rename_i reached rest continued
        cases ran
        exact ⟨next, first, rest, stepped, continued, rfl⟩
  · rintro ⟨next, first, rest, stepped, continued, rfl⟩
    simp only [stepped, continued]

/-- A run splits at every point of its input list. -/
theorem runs_append_iff {step : Step σ ι ω ε} {source target : σ}
    {before after : List ι} {outs : List ω} :
    Runs step source (before ++ after) target outs ↔
      ∃ middle first rest, Runs step source before middle first ∧
        Runs step middle after target rest ∧ outs = first ++ rest := by
  induction before generalizing source outs with
  | nil =>
      constructor
      · intro ran
        exact ⟨source, [], outs, Runs.nil step source, ran, rfl⟩
      · rintro ⟨middle, first, rest, nothing, ran, rfl⟩
        obtain ⟨rfl, rfl⟩ := runs_nil_iff.mp nothing
        exact ran
  | cons input before ih =>
      rw [List.cons_append, runs_cons_iff]
      constructor
      · rintro ⟨next, out, outs', stepped, continued, rfl⟩
        obtain ⟨middle, first, rest, prefixRun, suffixRun, rfl⟩ := ih.mp continued
        exact ⟨middle, out ++ first, rest,
          runs_cons_iff.mpr ⟨next, out, first, stepped, prefixRun, rfl⟩,
          suffixRun, (List.append_assoc _ _ _).symm⟩
      · rintro ⟨middle, first, rest, prefixRun, suffixRun, rfl⟩
        obtain ⟨next, out, first', stepped, continued, rfl⟩ :=
          runs_cons_iff.mp prefixRun
        exact ⟨next, out, first' ++ rest, stepped,
          ih.mpr ⟨middle, first', rest, continued, suffixRun, rfl⟩,
          List.append_assoc _ _ _⟩

theorem Runs.append {step : Step σ ι ω ε} {source middle target : σ}
    {before after : List ι} {first rest : List ω}
    (prefixRun : Runs step source before middle first)
    (suffixRun : Runs step middle after target rest) :
    Runs step source (before ++ after) target (first ++ rest) :=
  runs_append_iff.mpr ⟨middle, first, rest, prefixRun, suffixRun, rfl⟩

/-- The last step of a nonempty run. -/
theorem runs_snoc_iff {step : Step σ ι ω ε} {source target : σ}
    {inputs : List ι} {input : ι} {outs : List ω} :
    Runs step source (inputs ++ [input]) target outs ↔
      ∃ middle first last, Runs step source inputs middle first ∧
        step middle input = .ok (target, last) ∧ outs = first ++ last := by
  rw [runs_append_iff]
  constructor
  · rintro ⟨middle, first, rest, prefixRun, suffixRun, rfl⟩
    obtain ⟨next, last, nothing, stepped, ended, rfl⟩ := runs_cons_iff.mp suffixRun
    obtain ⟨rfl, rfl⟩ := runs_nil_iff.mp ended
    exact ⟨middle, first, last, prefixRun, stepped, by simp⟩
  · rintro ⟨middle, first, last, prefixRun, stepped, rfl⟩
    exact ⟨middle, first, last, prefixRun,
      runs_cons_iff.mpr ⟨target, last, [], stepped, Runs.nil step target, by simp⟩,
      rfl⟩

theorem Runs.snoc {step : Step σ ι ω ε} {source middle target : σ}
    {inputs : List ι} {input : ι} {first last : List ω}
    (prefixRun : Runs step source inputs middle first)
    (stepped : step middle input = .ok (target, last)) :
    Runs step source (inputs ++ [input]) target (first ++ last) :=
  runs_snoc_iff.mpr ⟨middle, first, last, prefixRun, stepped, rfl⟩

theorem Runs.deterministic {step : Step σ ι ω ε} {source first second : σ}
    {inputs : List ι} {firstOuts secondOuts : List ω}
    (firstRun : Runs step source inputs first firstOuts)
    (secondRun : Runs step source inputs second secondOuts) :
    first = second ∧ firstOuts = secondOuts := by
  have same : (first, firstOuts) = (second, secondOuts) :=
    Except.ok.inj (firstRun.symm.trans secondRun)
  exact Prod.mk.inj same

/-! ## Steps of a run -/

/-- The run of `inputs` from `source` gets to `before` without a fault and is
given `input` there. -/
def Meets (step : Step σ ι ω ε) (source : σ) (inputs : List ι) (before : σ)
    (input : ι) : Prop :=
  ∃ earlier later outs, inputs = earlier ++ input :: later ∧
    Runs step source earlier before outs

/-- A state some fault-free run reaches. -/
def Reachable (step : Step σ ι ω ε) (source target : σ) : Prop :=
  ∃ inputs outs, Runs step source inputs target outs

theorem Reachable.refl (step : Step σ ι ω ε) (state : σ) :
    Reachable step state state :=
  ⟨[], [], Runs.nil step state⟩

theorem Meets.reachable {step : Step σ ι ω ε} {source before : σ}
    {inputs : List ι} {input : ι} (met : Meets step source inputs before input) :
    Reachable step source before := by
  rcases met with ⟨earlier, _, outs, _, ran⟩
  exact ⟨earlier, outs, ran⟩

/-! ## Induction over runs -/

/-- What every step preserves, every run preserves. -/
theorem Runs.invariant {step : Step σ ι ω ε} {P : σ → Prop}
    (preserved : ∀ state input next out, P state →
      step state input = .ok (next, out) → P next)
    {source target : σ} {inputs : List ι} {outs : List ω}
    (ran : Runs step source inputs target outs) (initial : P source) :
    P target := by
  induction inputs generalizing source outs with
  | nil =>
      obtain ⟨rfl, _⟩ := runs_nil_iff.mp ran
      exact initial
  | cons input inputs ih =>
      obtain ⟨next, first, rest, stepped, continued, rfl⟩ := runs_cons_iff.mp ran
      exact ih continued (preserved source input next first initial stepped)

theorem Reachable.invariant {step : Step σ ι ω ε} {P : σ → Prop}
    (preserved : ∀ state input next out, P state →
      step state input = .ok (next, out) → P next)
    {source target : σ} (reached : Reachable step source target)
    (initial : P source) : P target := by
  obtain ⟨inputs, outs, ran⟩ := reached
  exact ran.invariant preserved initial

/-- Induction from the last step, for properties that speak about the inputs
consumed and the outputs emitted so far. -/
theorem Runs.history {step : Step σ ι ω ε} {source : σ}
    (P : List ι → List ω → σ → Prop) (initial : P [] [] source)
    (preserved : ∀ inputs outs state input next out,
      Runs step source inputs state outs → P inputs outs state →
      step state input = .ok (next, out) → P (inputs ++ [input]) (outs ++ out) next)
    {inputs : List ι} {target : σ} {outs : List ω}
    (ran : Runs step source inputs target outs) : P inputs outs target := by
  induction inputs using List.reverseRecOn generalizing target outs with
  | nil =>
      obtain ⟨rfl, rfl⟩ := runs_nil_iff.mp ran
      exact initial
  | append_singleton inputs input ih =>
      obtain ⟨middle, first, last, prefixRun, stepped, rfl⟩ := runs_snoc_iff.mp ran
      exact preserved inputs first middle input target last prefixRun
        (ih prefixRun) stepped

/-! ## Abstraction to a total system -/

/-- If every step of the system acts on an abstraction as the total function
`next`, then so does every run. -/
theorem Runs.abstraction {τ : Type y} {step : Step σ ι ω ε} {Inv : σ → Prop}
    {view : σ → τ} {next : τ → ι → τ}
    (preserved : ∀ state input target out, Inv state →
      step state input = .ok (target, out) → Inv target)
    (simulated : ∀ state input target out, Inv state →
      step state input = .ok (target, out) → view target = next (view state) input)
    {source target : σ} {inputs : List ι} {outs : List ω}
    (ran : Runs step source inputs target outs) (initial : Inv source) :
    view target = inputs.foldl next (view source) := by
  induction inputs generalizing source outs with
  | nil =>
      obtain ⟨rfl, _⟩ := runs_nil_iff.mp ran
      rfl
  | cons input inputs ih =>
      obtain ⟨middle, first, rest, stepped, continued, rfl⟩ := runs_cons_iff.mp ran
      rw [List.foldl_cons, ← simulated source input middle first initial stepped]
      exact ih continued (preserved source input middle first initial stepped)

theorem run_cons_eq_error_iff {step : Step σ ι ω ε} {source : σ} {input : ι}
    {inputs : List ι} {fault : ε} :
    run step source (input :: inputs) = .error fault ↔
      step source input = .error fault ∨
        ∃ next out, step source input = .ok (next, out) ∧
          run step next inputs = .error fault := by
  rw [run]
  cases stepped : step source input with
  | error first => simp
  | ok reached =>
      obtain ⟨next, out⟩ := reached
      cases continued : run step next inputs with
      | error second => simp [continued]
      | ok result => simp [continued]

/-- A run faults exactly when it reaches, without a fault, a state whose next
input faults. -/
theorem run_eq_error_iff {step : Step σ ι ω ε} {source : σ} {inputs : List ι}
    {fault : ε} :
    run step source inputs = .error fault ↔
      ∃ before input, Meets step source inputs before input ∧
        step before input = .error fault := by
  induction inputs generalizing source with
  | nil => simp [run, Meets]
  | cons input inputs ih =>
      rw [run_cons_eq_error_iff]
      constructor
      · rintro (failed | ⟨next, out, stepped, failed⟩)
        · exact ⟨source, input, ⟨[], inputs, [], rfl, Runs.nil step source⟩, failed⟩
        · rcases ih.mp failed with
            ⟨before, failing, ⟨earlier, later, outs, rfl, ran⟩, faulted⟩
          exact ⟨before, failing, ⟨input :: earlier, later, out ++ outs, rfl,
            runs_cons_iff.mpr ⟨next, out, outs, stepped, ran, rfl⟩⟩, faulted⟩
      · rintro ⟨before, failing, ⟨earlier, later, outs, split, ran⟩, failed⟩
        cases earlier with
        | nil =>
            obtain ⟨rfl, rfl⟩ := List.cons.inj split
            obtain ⟨rfl, _⟩ := runs_nil_iff.mp ran
            exact Or.inl failed
        | cons head earlier =>
            obtain ⟨rfl, rfl⟩ := List.cons.inj split
            rcases runs_cons_iff.mp ran with ⟨next, first, rest, stepped, continued, rfl⟩
            exact Or.inr ⟨next, first, stepped,
              ih.mpr ⟨before, failing, ⟨earlier, later, rest, rfl, continued⟩, failed⟩⟩

/-- A run whose every input is taken goes through. -/
theorem exists_runs_of_meets {step : Step σ ι ω ε} {source : σ} {inputs : List ι}
    (taken : ∀ before input, Meets step source inputs before input →
      ∃ result, step before input = .ok result) :
    ∃ target outs, Runs step source inputs target outs := by
  cases ran : run step source inputs with
  | ok result => exact ⟨result.1, result.2, ran⟩
  | error fault =>
      rcases run_eq_error_iff.mp ran with ⟨before, input, met, failed⟩
      rcases taken before input met with ⟨result, stepped⟩
      rw [stepped] at failed
      contradiction

end SysTweak.Transition
