import Mathlib.Data.Multiset.AddSub
import Mathlib.Logic.Function.Basic

/-!
# Pools of slots

A pool is a fixed number of slots, each free or occupied by a value.  A new value goes
to the first free slot; there is none exactly when as many values are in the pool as it
has slots.
-/

namespace SysTweak.Memory

universe u

/-- The slots of a pool; a free one holds `none`. -/
abbrev Pool (V : Type u) := List (Option V)

namespace Pool

variable {V : Type u}

/-- A pool of free slots. -/
def vacant (size : Nat) : Pool V :=
  List.replicate size none

/-- The value in a slot, if there is one. -/
def get (pool : Pool V) (slot : Nat) : Option V :=
  pool[slot]?.join

/-- Put a value in a slot. -/
def fill (pool : Pool V) (slot : Nat) (value : V) : Pool V :=
  pool.set slot (some value)

/-- Free a slot. -/
def clear (pool : Pool V) (slot : Nat) : Pool V :=
  pool.set slot none

/-- The first free slot, if there is one. -/
def firstFree (pool : Pool V) : Option Nat :=
  pool.findIdx? Option.isNone

/-- The values in the pool. -/
def members (pool : Pool V) : Multiset V :=
  ↑(pool.filterMap id)

@[simp]
theorem length_vacant (size : Nat) : (vacant size : Pool V).length = size :=
  List.length_replicate

@[simp]
theorem length_fill (pool : Pool V) (slot : Nat) (value : V) :
    (pool.fill slot value).length = pool.length :=
  List.length_set

@[simp]
theorem length_clear (pool : Pool V) (slot : Nat) : (pool.clear slot).length = pool.length :=
  List.length_set

@[simp]
theorem get_vacant (size slot : Nat) : (vacant size : Pool V).get slot = none := by
  rw [get, vacant, List.getElem?_replicate]
  split <;> rfl

@[simp]
theorem members_vacant (size : Nat) : (vacant size : Pool V).members = 0 := by
  induction size with
  | zero => rfl
  | succ size ih => exact ih

theorem lt_length_of_get {pool : Pool V} {slot : Nat} {value : V}
    (occupied : pool.get slot = some value) : slot < pool.length := by
  rw [get, Option.join_eq_some_iff] at occupied
  exact (List.getElem?_eq_some_iff.mp occupied).1

theorem get_fill_self {pool : Pool V} {slot : Nat} (within : slot < pool.length)
    (value : V) : (pool.fill slot value).get slot = some value := by
  rw [get, fill, List.getElem?_set_self within]
  rfl

theorem get_fill_of_ne (pool : Pool V) {slot other : Nat} (different : other ≠ slot)
    (value : V) : (pool.fill slot value).get other = pool.get other := by
  rw [get, fill, List.getElem?_set_ne (Ne.symm different)]
  rfl

@[simp]
theorem get_clear_self (pool : Pool V) (slot : Nat) : (pool.clear slot).get slot = none := by
  rw [get, clear, List.getElem?_set_self']
  cases pool[slot]? <;> rfl

theorem get_clear_of_ne (pool : Pool V) {slot other : Nat} (different : other ≠ slot) :
    (pool.clear slot).get other = pool.get other := by
  rw [get, clear, List.getElem?_set_ne (Ne.symm different)]
  rfl

theorem get_fill {pool : Pool V} {slot : Nat} (within : slot < pool.length) (value : V) :
    (pool.fill slot value).get = Function.update pool.get slot (some value) := by
  funext other
  by_cases same : other = slot
  · rw [same, get_fill_self within, Function.update_self]
  · rw [get_fill_of_ne pool same, Function.update_of_ne same]

theorem get_clear (pool : Pool V) (slot : Nat) :
    (pool.clear slot).get = Function.update pool.get slot none := by
  funext other
  by_cases same : other = slot
  · rw [same, get_clear_self, Function.update_self]
  · rw [get_clear_of_ne pool same, Function.update_of_ne same]

theorem mem_members_iff {pool : Pool V} {value : V} :
    value ∈ pool.members ↔ ∃ slot, pool.get slot = some value := by
  rw [members, Multiset.mem_coe, List.mem_filterMap]
  constructor
  · rintro ⟨content, member, rfl⟩
    rcases List.getElem?_of_mem member with ⟨slot, here⟩
    exact ⟨slot, by rw [get, here]; rfl⟩
  · rintro ⟨slot, here⟩
    rw [get, Option.join_eq_some_iff] at here
    exact ⟨some value, List.mem_of_getElem? here, rfl⟩

/-- The value put in a free slot is one more in the pool. -/
theorem members_fill {pool : Pool V} {slot : Nat} (within : slot < pool.length)
    (free : pool.get slot = none) (value : V) :
    (pool.fill slot value).members = value ::ₘ pool.members := by
  induction pool generalizing slot with
  | nil => contradiction
  | cons content rest ih =>
      cases slot with
      | zero =>
          cases content with
          | none => rfl
          | some other => contradiction
      | succ slot =>
          have tail := ih (Nat.lt_of_succ_lt_succ within) free
          cases content with
          | none => exact tail
          | some other =>
              calc
                (fill (some other :: rest) (slot + 1) value).members
                _ = other ::ₘ (fill rest slot value).members := rfl
                _ = other ::ₘ value ::ₘ members rest := congrArg _ tail
                _ = value ::ₘ other ::ₘ members rest := Multiset.cons_swap _ _ _

/-- The value of a slot that is freed is one less in the pool. -/
theorem members_clear {pool : Pool V} {slot : Nat} {value : V}
    (occupied : pool.get slot = some value) :
    pool.members = value ::ₘ (pool.clear slot).members := by
  have within : slot < (pool.clear slot).length := by
    rw [length_clear]
    exact lt_length_of_get occupied
  rw [get, Option.join_eq_some_iff] at occupied
  rcases List.getElem?_eq_some_iff.mp occupied with ⟨bound, here⟩
  rw [← members_fill within (get_clear_self pool slot), fill, clear, List.set_set, ← here,
    List.set_getElem_self]

theorem fill_clear (pool : Pool V) (slot : Nat) (value : V) :
    (pool.clear slot).fill slot value = pool.fill slot value :=
  List.set_set ..

/-- The value put in an occupied slot takes the place of the old one. -/
theorem members_fill_of_get {pool : Pool V} {slot : Nat} {old : V}
    (occupied : pool.get slot = some old) (value : V) :
    (pool.fill slot value).members = value ::ₘ (pool.clear slot).members := by
  have within : slot < (pool.clear slot).length := by
    rw [length_clear]
    exact lt_length_of_get occupied
  rw [← fill_clear]
  exact members_fill within (get_clear_self pool slot) value

theorem firstFree_eq_some {pool : Pool V} {slot : Nat} (found : pool.firstFree = some slot) :
    slot < pool.length ∧ pool.get slot = none := by
  rcases List.findIdx?_eq_some_iff_getElem.mp found with ⟨within, free, _⟩
  constructor
  · exact within
  · rw [get, List.getElem?_eq_getElem within, Option.isNone_iff_eq_none.mp free]
    rfl

/-- No slot is free exactly when there are as many values as slots. -/
theorem firstFree_eq_none_iff {pool : Pool V} :
    pool.firstFree = none ↔ Multiset.card pool.members = pool.length := by
  rw [firstFree, List.findIdx?_eq_none_iff, members, Multiset.coe_card]
  induction pool with
  | nil => simp
  | cons content rest ih =>
      have bounded : (rest.filterMap id).length ≤ rest.length := List.length_filterMap_le _ _
      cases content with
      | none =>
          apply iff_of_false
          · intro occupied
            have first := occupied none List.mem_cons_self
            contradiction
          · exact Nat.ne_of_lt (Nat.lt_succ_of_le bounded)
      | some value =>
          simp only [List.mem_cons, forall_eq_or_imp, Option.isNone_some, true_and,
            List.filterMap_cons, id_eq, List.length_cons, Nat.add_right_cancel_iff]
          exact ih

theorem card_members_le (pool : Pool V) : Multiset.card pool.members ≤ pool.length := by
  rw [members, Multiset.coe_card]
  exact List.length_filterMap_le _ _

/-- A slot beyond the pool is not occupied. -/
theorem get_eq_none_of_le {pool : Pool V} {slot : Nat} (beyond : pool.length ≤ slot) :
    pool.get slot = none := by
  rw [get, List.getElem?_eq_none beyond]
  rfl

/-- A pool all slots of which are free has no members. -/
theorem members_eq_zero {pool : Pool V} (free : ∀ slot, pool.get slot = none) :
    pool.members = 0 := by
  apply Multiset.eq_zero_of_forall_notMem
  intro value member
  rcases mem_members_iff.mp member with ⟨slot, here⟩
  rw [free] at here
  contradiction

end Pool

end SysTweak.Memory
