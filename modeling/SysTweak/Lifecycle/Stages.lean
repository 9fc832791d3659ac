import SysTweak.Lifecycle.Service

/-!
# Stages of a thread that is created once

The calls served so far bring a service to one of four stages.  The last one, a `Start`
after a `Stop` after a `Start`, asks for the thread to be started twice.
-/

namespace SysTweak.Lifecycle

/-- What the calls have asked of the thread: nothing, to run, to end, and to run again. -/
inductive Stage
  | fresh | active | stopped | restarting
  deriving DecidableEq

/-- The stage after one more call. -/
def Stage.serve : Stage → Op → Stage
  | .fresh, .start => .active
  | .fresh, _ => .fresh
  | .active, .start => .active
  | .active, _ => .stopped
  | .stopped, .start => .restarting
  | .stopped, _ => .stopped
  | .restarting, _ => .restarting

/-- The stage after the calls served. -/
def served (ops : List Op) : Stage :=
  ops.foldl Stage.serve .fresh

theorem served_snoc (ops : List Op) (op : Op) :
    served (ops ++ [op]) = (served ops).serve op := by
  rw [served, List.foldl_append]
  rfl

/-- A `Start` was served, and after it a `Stop`. -/
def Halts (ops : List Op) : Prop :=
  ∃ halt, halt ≠ Op.start ∧ [Op.start, halt].Sublist ops

/-- A `Start` was served, after it a `Stop`, and after that a `Start`. -/
def Restarts (ops : List Op) : Prop :=
  ∃ halt, halt ≠ Op.start ∧ [Op.start, halt, Op.start].Sublist ops

/-- A list ends before the last element of another one, or with it. -/
theorem snoc_sublist_snoc_iff {α : Type} (xs : List α) {ys : List α} {x y : α} :
    (xs ++ [x]).Sublist (ys ++ [y]) ↔
      (xs ++ [x]).Sublist ys ∨ x = y ∧ xs.Sublist ys := by
  constructor
  · intro sublist
    rcases List.sublist_append_iff.mp sublist with ⟨first, last, split, inFirst, inLast⟩
    rcases List.sublist_singleton.mp inLast with rfl | rfl
    · rw [List.append_nil] at split
      exact Or.inl (split ▸ inFirst)
    · rcases List.append_inj' split rfl with ⟨rfl, same⟩
      exact Or.inr ⟨(List.cons.inj same).1, inFirst⟩
  · rintro (before | ⟨rfl, earlier⟩)
    · exact before.trans (List.sublist_append_left ys [y])
    · exact earlier.append (List.Sublist.refl [x])

theorem halts_snoc_iff {ops : List Op} {op : Op} :
    Halts (ops ++ [op]) ↔ Halts ops ∨ op ≠ .start ∧ Op.start ∈ ops := by
  constructor
  · rintro ⟨halt, halting, sublist⟩
    rcases (snoc_sublist_snoc_iff [Op.start]).mp sublist with before | ⟨rfl, started⟩
    · exact Or.inl ⟨halt, halting, before⟩
    · exact Or.inr ⟨halting, List.singleton_sublist.mp started⟩
  · rintro (⟨halt, halting, sublist⟩ | ⟨halting, started⟩)
    · exact ⟨halt, halting, sublist.trans (List.sublist_append_left ops [op])⟩
    · exact ⟨op, halting, (snoc_sublist_snoc_iff [Op.start]).mpr
        (Or.inr ⟨rfl, List.singleton_sublist.mpr started⟩)⟩

theorem restarts_snoc_iff {ops : List Op} {op : Op} :
    Restarts (ops ++ [op]) ↔ Restarts ops ∨ op = .start ∧ Halts ops := by
  constructor
  · rintro ⟨halt, halting, sublist⟩
    rcases (snoc_sublist_snoc_iff [Op.start, halt]).mp sublist with before | ⟨rfl, halted⟩
    · exact Or.inl ⟨halt, halting, before⟩
    · exact Or.inr ⟨rfl, halt, halting, halted⟩
  · rintro (⟨halt, halting, sublist⟩ | ⟨rfl, halt, halting, sublist⟩)
    · exact ⟨halt, halting, sublist.trans (List.sublist_append_left ops [op])⟩
    · exact ⟨halt, halting, (snoc_sublist_snoc_iff [Op.start, halt]).mpr
        (Or.inr ⟨rfl, sublist⟩)⟩

theorem Halts.start_mem {ops : List Op} (halts : Halts ops) : Op.start ∈ ops := by
  rcases halts with ⟨halt, _, sublist⟩
  exact sublist.subset List.mem_cons_self

theorem Restarts.halts {ops : List Op} (restarts : Restarts ops) : Halts ops := by
  rcases restarts with ⟨halt, halting, sublist⟩
  exact ⟨halt, halting, (List.sublist_append_left [Op.start, halt] [Op.start]).trans sublist⟩

/-- What was restarted stays restarted, whatever else is served. -/
theorem Restarts.of_sublist {ops more : List Op} (restarts : Restarts ops)
    (sublist : ops.Sublist more) : Restarts more := by
  rcases restarts with ⟨halt, halting, inOps⟩
  exact ⟨halt, halting, inOps.trans sublist⟩

/-- What a stage says of the calls that led to it. -/
def Stage.Describes : Stage → List Op → Prop
  | .fresh, ops => Op.start ∉ ops
  | .active, ops => Op.start ∈ ops ∧ ¬Halts ops
  | .stopped, ops => Halts ops ∧ ¬Restarts ops
  | .restarting, ops => Restarts ops

/-- To the stage every call but `Start` is a `Stop`. -/
theorem Stage.serve_of_halting {op : Op} (halting : op ≠ .start) (stage : Stage) :
    stage.serve op = stage.serve .stop := by
  cases op with
  | start => contradiction
  | stop => rfl
  | destroy => cases stage <;> rfl

theorem Stage.Describes.start {stage : Stage} {ops : List Op}
    (describes : stage.Describes ops) :
    (stage.serve .start).Describes (ops ++ [.start]) := by
  have mem : Op.start ∈ ops ++ [Op.start] := List.mem_append_right ops List.mem_cons_self
  have notHalted : ¬Halts ops → ¬Halts (ops ++ [Op.start]) := by
    intro running halts
    rcases halts_snoc_iff.mp halts with earlier | ⟨halting, _⟩
    · exact running earlier
    · exact halting rfl
  cases stage with
  | fresh => exact ⟨mem, notHalted fun halts => describes halts.start_mem⟩
  | active => exact ⟨mem, notHalted describes.2⟩
  | stopped => exact restarts_snoc_iff.mpr (Or.inr ⟨rfl, describes.1⟩)
  | restarting => exact restarts_snoc_iff.mpr (Or.inl describes)

theorem Stage.Describes.halt {stage : Stage} {ops : List Op} {op : Op}
    (describes : stage.Describes ops) (halting : op ≠ .start) :
    (stage.serve op).Describes (ops ++ [op]) := by
  have notRestarted : ¬Restarts ops → ¬Restarts (ops ++ [op]) := by
    intro orderly restarts
    rcases restarts_snoc_iff.mp restarts with earlier | ⟨starting, _⟩
    · exact orderly earlier
    · exact halting starting
  rw [Stage.serve_of_halting halting]
  cases stage with
  | fresh =>
      intro mem
      rcases List.mem_append.mp mem with earlier | last
      · exact describes earlier
      · exact halting (List.mem_singleton.mp last).symm
  | active =>
      constructor
      · exact halts_snoc_iff.mpr (Or.inr ⟨halting, describes.1⟩)
      · exact notRestarted fun restarts => describes.2 restarts.halts
  | stopped =>
      constructor
      · exact halts_snoc_iff.mpr (Or.inl describes.1)
      · exact notRestarted describes.2
  | restarting => exact restarts_snoc_iff.mpr (Or.inl describes)

theorem served_describes (ops : List Op) : (served ops).Describes ops := by
  induction ops using List.reverseRecOn with
  | nil => exact List.not_mem_nil
  | append_singleton ops op ih =>
      rw [served_snoc]
      cases op with
      | start => exact ih.start
      | stop => exact ih.halt (by decide)
      | destroy => exact ih.halt (by decide)

theorem served_eq_restarting_iff {ops : List Op} :
    served ops = .restarting ↔ Restarts ops := by
  have describes := served_describes ops
  cases stage : served ops with
  | fresh =>
      rw [stage] at describes
      exact iff_of_false Stage.noConfusion fun restarts => describes restarts.halts.start_mem
  | active =>
      rw [stage] at describes
      exact iff_of_false Stage.noConfusion fun restarts => describes.2 restarts.halts
  | stopped =>
      rw [stage] at describes
      exact iff_of_false Stage.noConfusion describes.2
  | restarting =>
      rw [stage] at describes
      exact iff_of_true rfl describes

theorem Stage.serve_eq_restarting_iff {stage : Stage} {op : Op} :
    stage.serve op = .restarting ↔ stage = .restarting ∨ stage = .stopped ∧ op = .start := by
  cases stage <;> cases op <;> simp [Stage.serve]

theorem Stage.serve_eq_active_iff {stage : Stage} {op : Op}
    (orderly : stage.serve op ≠ .restarting) : stage.serve op = .active ↔ op = .start := by
  cases stage <;> cases op <;> simp_all [Stage.serve]

/-- As long as nothing is restarted, the last call says whether the worker is to run. -/
theorem served_eq_active_iff {ops : List Op} (orderly : ¬Restarts ops) :
    served ops = .active ↔ ops.getLast? = some .start := by
  rw [← served_eq_restarting_iff] at orderly
  rcases List.eq_nil_or_concat' ops with rfl | ⟨earlier, op, rfl⟩
  · exact iff_of_false Stage.noConfusion (by simp)
  · rw [served_snoc] at orderly ⊢
    rw [List.getLast?_concat, Option.some.injEq]
    exact Stage.serve_eq_active_iff orderly

end SysTweak.Lifecycle
