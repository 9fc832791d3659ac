import Mathlib.Data.Finset.Basic
import Mathlib.Data.Finset.Lattice.Lemmas
import Mathlib.Data.List.Nodup

/-!
# Ledgers of acquired and released resources

A ledger lists, in order, which resources were acquired and which were
released.  Settling it replays the entries against the set of resources held:
a resource may be acquired only while it is not held and released only while
it is.  A ledger that settles never releases a resource before acquiring it or
twice in a row, and what it leaves held is what was acquired and not released.
-/

namespace SysTweak.Ledger

universe u

/-- One entry of a ledger. -/
inductive Entry (ρ : Type u)
  | acquire (resource : ρ)
  | release (resource : ρ)
  deriving DecidableEq

variable {ρ : Type u}

/-- The resources a ledger acquires, in order and with repetitions. -/
def acquired : List (Entry ρ) → List ρ :=
  List.filterMap fun
    | .acquire resource => some resource
    | .release _ => none

/-- The resources a ledger releases, in order and with repetitions. -/
def released : List (Entry ρ) → List ρ :=
  List.filterMap fun
    | .acquire _ => none
    | .release resource => some resource

@[simp]
theorem acquired_nil : acquired ([] : List (Entry ρ)) = [] :=
  rfl

@[simp]
theorem released_nil : released ([] : List (Entry ρ)) = [] :=
  rfl

@[simp]
theorem acquired_append (first second : List (Entry ρ)) :
    acquired (first ++ second) = acquired first ++ acquired second :=
  List.filterMap_append

@[simp]
theorem released_append (first second : List (Entry ρ)) :
    released (first ++ second) = released first ++ released second :=
  List.filterMap_append

@[simp]
theorem acquired_acquire_cons (resource : ρ) (rest : List (Entry ρ)) :
    acquired (.acquire resource :: rest) = resource :: acquired rest :=
  rfl

@[simp]
theorem acquired_release_cons (resource : ρ) (rest : List (Entry ρ)) :
    acquired (.release resource :: rest) = acquired rest :=
  rfl

@[simp]
theorem released_acquire_cons (resource : ρ) (rest : List (Entry ρ)) :
    released (.acquire resource :: rest) = released rest :=
  rfl

@[simp]
theorem released_release_cons (resource : ρ) (rest : List (Entry ρ)) :
    released (.release resource :: rest) = resource :: released rest :=
  rfl

variable [DecidableEq ρ]

/-- Post one entry against the resources held, if the discipline allows it. -/
def post (held : Finset ρ) : Entry ρ → Option (Finset ρ)
  | .acquire resource => if resource ∈ held then none else some (insert resource held)
  | .release resource => if resource ∈ held then some (held.erase resource) else none

/-- Replay a whole ledger, failing at the first entry that breaks the
discipline. -/
def settle : Finset ρ → List (Entry ρ) → Option (Finset ρ)
  | held, [] => some held
  | held, entry :: rest => (post held entry).bind fun next => settle next rest

@[simp]
theorem settle_nil (held : Finset ρ) : settle held [] = some held :=
  rfl

/-- A ledger settles piece by piece. -/
theorem settle_append (held : Finset ρ) (first second : List (Entry ρ)) :
    settle held (first ++ second) =
      (settle held first).bind fun next => settle next second := by
  induction first generalizing held with
  | nil => rfl
  | cons entry first ih =>
      simp only [List.cons_append, settle, Option.bind_assoc]
      exact congrArg _ (funext fun next => ih next)

theorem settle_append_eq_some {held middle target : Finset ρ}
    {first second : List (Entry ρ)} (settled : settle held first = some middle)
    (continued : settle middle second = some target) :
    settle held (first ++ second) = some target := by
  rw [settle_append, settled]
  exact continued

/-- Every prefix of a settled ledger settles. -/
theorem exists_settle_of_append {held target : Finset ρ}
    {first second : List (Entry ρ)}
    (settled : settle held (first ++ second) = some target) :
    ∃ middle, settle held first = some middle ∧ settle middle second = some target := by
  rw [settle_append] at settled
  exact Option.bind_eq_some_iff.mp settled

@[simp]
theorem settle_acquire_cons_eq_some_iff {held target : Finset ρ} {resource : ρ}
    {rest : List (Entry ρ)} :
    settle held (.acquire resource :: rest) = some target ↔
      resource ∉ held ∧ settle (insert resource held) rest = some target := by
  by_cases member : resource ∈ held <;> simp [settle, post, member]

@[simp]
theorem settle_release_cons_eq_some_iff {held target : Finset ρ} {resource : ρ}
    {rest : List (Entry ρ)} :
    settle held (.release resource :: rest) = some target ↔
      resource ∈ held ∧ settle (held.erase resource) rest = some target := by
  by_cases member : resource ∈ held <;> simp [settle, post, member]

/-- Conservation: what is held at the start or acquired is released or held at
the end, counted with multiplicity. -/
theorem count_conserved {held target : Finset ρ} {ledger : List (Entry ρ)}
    (settled : settle held ledger = some target) (resource : ρ) :
    (if resource ∈ held then 1 else 0) + (acquired ledger).count resource =
      (released ledger).count resource + (if resource ∈ target then 1 else 0) := by
  induction ledger generalizing held with
  | nil =>
      obtain rfl := Option.some.inj settled
      simp
  | cons entry rest ih =>
      cases entry with
      | acquire other =>
          obtain ⟨absent, continued⟩ := settle_acquire_cons_eq_some_iff.mp settled
          have conserved := ih continued
          by_cases same : other = resource
          · subst other
            simp only [Finset.mem_insert_self, if_true] at conserved
            simp only [absent, if_false, acquired_acquire_cons, List.count_cons_self,
              released_acquire_cons]
            omega
          · simpa [Finset.mem_insert, Ne.symm same, List.count_cons_of_ne same] using
              conserved
      | release other =>
          obtain ⟨present, continued⟩ := settle_release_cons_eq_some_iff.mp settled
          have conserved := ih continued
          by_cases same : other = resource
          · subst other
            simp only [Finset.notMem_erase, if_false] at conserved
            simp only [present, if_true, acquired_release_cons, List.count_cons_self,
              released_release_cons]
            omega
          · simpa [Finset.mem_erase, Ne.symm same, List.count_cons_of_ne same] using
              conserved

/-- No resource is released before it was acquired. -/
theorem mem_acquired_of_release {target : Finset ρ} {first second : List (Entry ρ)}
    {resource : ρ}
    (settled : settle ∅ (first ++ .release resource :: second) = some target) :
    resource ∈ acquired first := by
  obtain ⟨middle, before, after⟩ := exists_settle_of_append settled
  obtain ⟨present, _⟩ := settle_release_cons_eq_some_iff.mp after
  have conserved := count_conserved before resource
  simp only [Finset.notMem_empty, if_false, present, if_true] at conserved
  exact List.count_pos_iff.mp (by omega)

/-- When no resource is acquired twice, none is released twice. -/
theorem nodup_released {target : Finset ρ} {ledger : List (Entry ρ)}
    (settled : settle ∅ ledger = some target) (fresh : (acquired ledger).Nodup) :
    (released ledger).Nodup := by
  rw [List.nodup_iff_count_le_one]
  intro resource
  have conserved := count_conserved settled resource
  have once := List.nodup_iff_count_le_one.mp fresh resource
  simp only [Finset.notMem_empty, if_false] at conserved
  omega

/-- When no resource is acquired twice, the resources held are exactly those
acquired and not released. -/
theorem mem_settled_iff {target : Finset ρ} {ledger : List (Entry ρ)}
    (settled : settle ∅ ledger = some target) (fresh : (acquired ledger).Nodup)
    (resource : ρ) :
    resource ∈ target ↔
      resource ∈ acquired ledger ∧ resource ∉ released ledger := by
  have conserved := count_conserved settled resource
  have once := List.nodup_iff_count_le_one.mp fresh resource
  have gained := @List.count_pos_iff _ _ _ resource (acquired ledger)
  have lost := @List.count_pos_iff _ _ _ resource (released ledger)
  simp only [Finset.notMem_empty, if_false] at conserved
  rw [← gained, ← lost]
  by_cases member : resource ∈ target
  · simp only [member, if_true] at conserved
    exact iff_of_true member (by omega)
  · simp only [member, if_false] at conserved
    exact iff_of_false member (by omega)

/-! ## Resources one after another -/

omit [DecidableEq ρ] in
theorem acquired_map_acquire (resources : List ρ) :
    acquired (resources.map .acquire) = resources := by
  induction resources with
  | nil => rfl
  | cons resource rest ih => rw [List.map_cons, acquired_acquire_cons, ih]

omit [DecidableEq ρ] in
theorem acquired_map_release (resources : List ρ) :
    acquired (resources.map .release) = [] := by
  induction resources with
  | nil => rfl
  | cons resource rest ih => rw [List.map_cons, acquired_release_cons, ih]

theorem settle_map_acquire {held : Finset ρ} {resources : List ρ}
    (nodup : resources.Nodup) (fresh : ∀ resource ∈ resources, resource ∉ held) :
    settle held (resources.map .acquire) = some (resources.toFinset ∪ held) := by
  induction resources generalizing held with
  | nil => simp
  | cons resource rest ih =>
      rcases List.nodup_cons.mp nodup with ⟨once, others⟩
      rw [List.map_cons, settle_acquire_cons_eq_some_iff]
      refine ⟨fresh resource List.mem_cons_self, ?_⟩
      rw [ih others]
      · rw [List.toFinset_cons, Finset.insert_union, Finset.union_insert]
      · intro other member
        have different : other ≠ resource := by
          rintro rfl
          exact once member
        rw [Finset.mem_insert, not_or]
        exact ⟨different, fresh other (List.mem_cons_of_mem _ member)⟩

theorem settle_map_release {held : Finset ρ} {resources : List ρ}
    (nodup : resources.Nodup) (fresh : ∀ resource ∈ resources, resource ∉ held) :
    settle (resources.toFinset ∪ held) (resources.map .release) = some held := by
  induction resources with
  | nil => simp
  | cons resource rest ih =>
      rcases List.nodup_cons.mp nodup with ⟨once, others⟩
      have absent : resource ∉ rest.toFinset ∪ held := by
        rw [Finset.mem_union, List.mem_toFinset, not_or]
        exact ⟨once, fresh resource List.mem_cons_self⟩
      rw [List.map_cons, List.toFinset_cons, Finset.insert_union,
        settle_release_cons_eq_some_iff]
      refine ⟨Finset.mem_insert_self _ _, ?_⟩
      rw [Finset.erase_insert absent]
      exact ih others fun other member => fresh other (List.mem_cons_of_mem _ member)

end SysTweak.Ledger
