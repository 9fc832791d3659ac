import SysTweak.Bytes.Memory
import SysTweak.Layout.Struct

/-!
# Structures in memory

A structure is stored member by member, each where its layout has it.  As members do not
overlap, every member can be loaded again.
-/

namespace SysTweak.Layout

open SysTweak.Bytes

namespace StructDecl

variable {μ : Type*} [DecidableEq μ] (decl : StructDecl μ)

/-- The memory once the members are stored from a base on. -/
def storeMembers (base : Nat) (values : μ → Nat) (memory : Nat → BitVec 8) :
    Nat → BitVec 8 :=
  decl.members.foldl
    (fun memory m => store memory (base + decl.offset m) (decl.type m).size (values m)) memory

/-- A member that was stored, now or before, is there after the others are stored. -/
theorem load_foldl_store {base : Nat} {values : μ → Nat}
    (fits : ∀ m, values m < 256 ^ (decl.type m).size) (m : μ) (members : List μ)
    (memory : Nat → BitVec 8)
    (stored : m ∈ members ∨
      load memory (base + decl.offset m) (decl.type m).size = values m) :
    load (members.foldl
        (fun memory m => store memory (base + decl.offset m) (decl.type m).size (values m))
        memory) (base + decl.offset m) (decl.type m).size = values m := by
  induction members generalizing memory with
  | nil => exact stored.resolve_left List.not_mem_nil
  | cons first members ih =>
      rw [List.foldl_cons]
      apply ih
      by_cases same : m = first
      · subst same
        exact Or.inr (load_store memory (fits m))
      · rcases stored with member | before
        · exact Or.inl ((List.mem_cons.mp member).resolve_left same)
        · right
          have apart := decl.apart same
          rw [load_store_of_apart memory _ (by omega)]
          exact before

/-- Every member that was stored can be loaded. -/
theorem load_storeMembers {base : Nat} {values : μ → Nat}
    (fits : ∀ m, values m < 256 ^ (decl.type m).size) (memory : Nat → BitVec 8) (m : μ) :
    load (decl.storeMembers base values memory) (base + decl.offset m) (decl.type m).size =
      values m :=
  decl.load_foldl_store fits m decl.members memory (Or.inl (decl.complete m))

/-- What lies before the structure is not stored to. -/
theorem storeMembers_of_before {base i : Nat} (values : μ → Nat) (memory : Nat → BitVec 8)
    (before : i < base) : decl.storeMembers base values memory i = memory i := by
  have kept : ∀ (members : List μ) (memory : Nat → BitVec 8),
      members.foldl (fun memory m =>
        store memory (base + decl.offset m) (decl.type m).size (values m)) memory i =
          memory i := by
    intro members
    induction members with
    | nil => exact fun _ => rfl
    | cons first members ih =>
        intro memory
        rw [List.foldl_cons, ih]
        exact store_of_outside memory _ (Or.inl (by omega))
  exact kept decl.members memory

/-- When one member is one and the others are zero, one byte is not zero. -/
theorem storeMembers_eq_zero {base i : Nat} (m : μ) {memory : Nat → BitVec 8}
    (zero : memory i = 0) (different : i ≠ base + decl.offset m) :
    decl.storeMembers base (fun other => if other = m then 1 else 0) memory i = 0 := by
  have kept : ∀ (members : List μ) (memory : Nat → BitVec 8), memory i = 0 →
      members.foldl (fun memory other =>
        store memory (base + decl.offset other) (decl.type other).size
          (if other = m then 1 else 0)) memory i = 0 := by
    intro members
    induction members with
    | nil => exact fun _ zero => zero
    | cons first members ih =>
        intro memory zero
        rw [List.foldl_cons]
        apply ih
        by_cases same : first = m
        · rw [if_pos same]
          exact store_one zero (same ▸ different) _
        · rw [if_neg same]
          exact store_zero zero _ _
  exact kept decl.members memory zero

end StructDecl

end SysTweak.Layout
