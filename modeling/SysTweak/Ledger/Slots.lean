import Mathlib.Logic.Function.Basic
import SysTweak.Ledger.Core

/-!
# Slots that hold resources

A system often keeps the resources it holds in slots: a field of an object, an
entry of a table.  The slots account for a set of resources when each resource
of the set sits in exactly one slot and nothing else does.  A ledger moves the
slots to new contents when, from any set they account for, it settles to a set
the new contents account for.  Moves compose, so a system that moves its slots
at every step moves them along every run.
-/

namespace SysTweak.Ledger

universe u v

variable {K : Type u} {ρ : Type v}

/-- The slots hold exactly the resources of `held`, each in one slot. -/
structure Occupies (slots : K → Option ρ) (held : Finset ρ) : Prop where
  mem_iff : ∀ resource, resource ∈ held ↔ ∃ key, slots key = some resource
  distinct : ∀ {first second resource}, slots first = some resource →
    slots second = some resource → first = second

theorem Occupies.empty {slots : K → Option ρ} (vacant : ∀ key, slots key = none) :
    Occupies slots ∅ where
  mem_iff resource := by simp [vacant]
  distinct filled _ := by
    rw [vacant] at filled
    contradiction

variable [DecidableEq K] [DecidableEq ρ]

theorem Occupies.fill {slots : K → Option ρ} {held : Finset ρ}
    (occupies : Occupies slots held) {key : K} (vacant : slots key = none)
    {resource : ρ} (fresh : resource ∉ held) :
    Occupies (Function.update slots key (some resource)) (insert resource held) where
  mem_iff other := by
    rw [Finset.mem_insert, occupies.mem_iff]
    constructor
    · rintro (rfl | ⟨slot, filled⟩)
      · exact ⟨key, Function.update_self _ _ _⟩
      · have different : slot ≠ key := by
          rintro rfl
          rw [vacant] at filled
          contradiction
        exact ⟨slot, (Function.update_of_ne different _ _).trans filled⟩
    · rintro ⟨slot, filled⟩
      by_cases same : slot = key
      · subst slot
        rw [Function.update_self] at filled
        exact Or.inl (Option.some.inj filled).symm
      · rw [Function.update_of_ne same] at filled
        exact Or.inr ⟨slot, filled⟩
  distinct := by
    have elsewhere : ∀ slot, slots slot ≠ some resource := fun slot filled =>
      fresh ((occupies.mem_iff resource).mpr ⟨slot, filled⟩)
    intro first second other firstFilled secondFilled
    by_cases firstSame : first = key <;> by_cases secondSame : second = key
    · rw [firstSame, secondSame]
    · rw [firstSame, Function.update_self] at firstFilled
      rw [Function.update_of_ne secondSame, ← firstFilled] at secondFilled
      exact absurd secondFilled (elsewhere second)
    · rw [secondSame, Function.update_self] at secondFilled
      rw [Function.update_of_ne firstSame, ← secondFilled] at firstFilled
      exact absurd firstFilled (elsewhere first)
    · rw [Function.update_of_ne firstSame] at firstFilled
      rw [Function.update_of_ne secondSame] at secondFilled
      exact occupies.distinct firstFilled secondFilled

theorem Occupies.clear {slots : K → Option ρ} {held : Finset ρ}
    (occupies : Occupies slots held) {key : K} {resource : ρ}
    (filled : slots key = some resource) :
    Occupies (Function.update slots key none) (held.erase resource) where
  mem_iff other := by
    rw [Finset.mem_erase, occupies.mem_iff]
    constructor
    · rintro ⟨different, slot, here⟩
      have elsewhere : slot ≠ key := by
        rintro rfl
        exact different (Option.some.inj (here.symm.trans filled))
      exact ⟨slot, (Function.update_of_ne elsewhere _ _).trans here⟩
    · rintro ⟨slot, here⟩
      by_cases same : slot = key
      · rw [same, Function.update_self] at here
        contradiction
      · rw [Function.update_of_ne same] at here
        constructor
        · rintro rfl
          exact same (occupies.distinct here filled)
        · exact ⟨slot, here⟩
  distinct := by
    intro first second other firstFilled secondFilled
    by_cases firstSame : first = key
    · rw [firstSame, Function.update_self] at firstFilled
      contradiction
    · by_cases secondSame : second = key
      · rw [secondSame, Function.update_self] at secondFilled
        contradiction
      · rw [Function.update_of_ne firstSame] at firstFilled
        rw [Function.update_of_ne secondSame] at secondFilled
        exact occupies.distinct firstFilled secondFilled

/-- What a ledger leaves held was held before or acquired in it. -/
theorem mem_or_acquired_of_settle {held target : Finset ρ} {ledger : List (Entry ρ)}
    (settled : settle held ledger = some target) {resource : ρ}
    (member : resource ∈ target) : resource ∈ held ∨ resource ∈ acquired ledger := by
  have conserved := count_conserved settled resource
  rw [if_pos member] at conserved
  by_cases before : resource ∈ held
  · exact Or.inl before
  · rw [if_neg before] at conserved
    exact Or.inr (List.count_pos_iff.mp (by omega))

/-- The ledger takes the slots from the contents `source` to `target`, provided
what it acquires is new. -/
def Moves (source : K → Option ρ) (ledger : List (Entry ρ))
    (target : K → Option ρ) : Prop :=
  ∀ held, Occupies source held → (acquired ledger).Nodup →
    (∀ resource ∈ acquired ledger, resource ∉ held) →
    ∃ after, settle held ledger = some after ∧ Occupies target after

namespace Moves

variable {source middle target : K → Option ρ}

omit [DecidableEq K] in
theorem nil (slots : K → Option ρ) : Moves slots [] slots :=
  fun held occupies _ _ => ⟨held, rfl, occupies⟩

omit [DecidableEq K] in
theorem append {first second : List (Entry ρ)} (earlier : Moves source first middle)
    (later : Moves middle second target) : Moves source (first ++ second) target := by
  intro held occupies nodup fresh
  rw [acquired_append] at nodup fresh
  rcases List.nodup_append'.mp nodup with ⟨firstNodup, secondNodup, disjoint⟩
  rcases earlier held occupies firstNodup
    (fun resource gained => fresh resource (List.mem_append_left _ gained)) with
    ⟨between, settled, occupied⟩
  have secondFresh : ∀ resource ∈ acquired second, resource ∉ between := by
    intro resource gained member
    rcases mem_or_acquired_of_settle settled member with before | here
    · exact fresh resource (List.mem_append_right _ gained) before
    · exact disjoint here gained
  rcases later between occupied secondNodup secondFresh with ⟨after, continued, occupied⟩
  exact ⟨after, settle_append_eq_some settled continued, occupied⟩

/-- Put a new resource in a vacant slot. -/
theorem acquire {key : K} (vacant : source key = none) (resource : ρ) :
    Moves source [.acquire resource] (Function.update source key (some resource)) := by
  intro held occupies _ fresh
  have absent : resource ∉ held := fresh resource List.mem_cons_self
  exact ⟨insert resource held, settle_acquire_cons_eq_some_iff.mpr ⟨absent, rfl⟩,
    occupies.fill vacant absent⟩

/-- Release the resource of a slot. -/
theorem release {key : K} {resource : ρ} (filled : source key = some resource) :
    Moves source [.release resource] (Function.update source key none) := by
  intro held occupies _ _
  have present : resource ∈ held := (occupies.mem_iff resource).mpr ⟨key, filled⟩
  exact ⟨held.erase resource, settle_release_cons_eq_some_iff.mpr ⟨present, rfl⟩,
    occupies.clear filled⟩

/-- Release the resource of a slot and put a new one in its place. -/
theorem replace {key : K} {old new : ρ} (filled : source key = some old) :
    Moves source [.release old, .acquire new]
      (Function.update source key (some new)) := by
  have vacant : Function.update source key none key = none := Function.update_self _ _ _
  have moved := (release filled).append (acquire vacant new)
  rwa [Function.update_idem] at moved

/-- Release whatever a slot holds. -/
theorem discard (source : K → Option ρ) (key : K) :
    Moves source ((source key).map Entry.release).toList
      (Function.update source key none) := by
  cases filled : source key with
  | none =>
      have same : Function.update source key none = source := by
        rw [← filled, Function.update_eq_self]
      rw [same]
      exact nil source
  | some resource => exact release filled

omit [DecidableEq K] in
/-- Resources that are acquired and released again leave the slots as they were. -/
theorem transient (slots : K → Option ρ) (resources : List ρ) :
    Moves slots (resources.map .acquire ++ resources.map .release) slots := by
  intro held occupies nodup fresh
  rw [acquired_append, acquired_map_release, List.append_nil, acquired_map_acquire]
    at nodup fresh
  refine ⟨held, settle_append_eq_some (settle_map_acquire nodup fresh) ?_, occupies⟩
  exact settle_map_release nodup fresh

end Moves

/-- The account of a ledger kept from vacant slots on: no resource is released
twice or before it was acquired, and the slots hold exactly the resources
acquired and not released. -/
structure Account (ledger : List (Entry ρ)) (slots : K → Option ρ) : Prop where
  released_once : (released ledger).Nodup
  acquired_before : ∀ before after resource,
    ledger = before ++ .release resource :: after → resource ∈ acquired before
  outstanding_iff : ∀ resource,
    (resource ∈ acquired ledger ∧ resource ∉ released ledger) ↔
      ∃ key, slots key = some resource
  distinct : ∀ {first second resource}, slots first = some resource →
    slots second = some resource → first = second

omit [DecidableEq K] in
theorem Moves.account {source target : K → Option ρ} {ledger : List (Entry ρ)}
    (moves : Moves source ledger target) (vacant : ∀ key, source key = none)
    (fresh : (acquired ledger).Nodup) : Account ledger target := by
  rcases moves ∅ (Occupies.empty vacant) fresh
    (fun resource _ => Finset.notMem_empty resource) with ⟨held, settled, occupies⟩
  constructor
  · exact nodup_released settled fresh
  · rintro before after resource rfl
    exact mem_acquired_of_release settled
  · intro resource
    rw [← mem_settled_iff settled fresh, occupies.mem_iff]
  · exact occupies.distinct

omit [DecidableEq K] [DecidableEq ρ] in
/-- Once the slots are vacant, what was acquired is what was released. -/
theorem Account.perm {ledger : List (Entry ρ)} {slots : K → Option ρ}
    (account : Account ledger slots) (vacant : ∀ key, slots key = none)
    (fresh : (acquired ledger).Nodup) : (released ledger).Perm (acquired ledger) := by
  rw [List.perm_ext_iff_of_nodup account.released_once fresh]
  intro resource
  constructor
  · intro closed
    rcases List.mem_filterMap.mp closed with ⟨entry, member, lost⟩
    cases entry with
    | acquire other => contradiction
    | release other =>
        cases lost
        rcases List.append_of_mem member with ⟨before, after, split⟩
        rw [split, acquired_append]
        exact List.mem_append_left _ (account.acquired_before before after resource split)
  · intro got
    apply Classical.byContradiction
    intro kept
    rcases (account.outstanding_iff resource).mp ⟨got, kept⟩ with ⟨key, filled⟩
    rw [vacant] at filled
    contradiction

end SysTweak.Ledger
