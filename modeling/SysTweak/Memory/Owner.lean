import Mathlib.Data.List.Basic
import Mathlib.Logic.Function.Basic

/-!
# Maps that own heap objects

A heap hands out cells that were never allocated before, so a pointer names
one allocation for good.  An index from keys to pointers owns the heap when
its pointers are live, no two keys share one, and no live cell is left out.
Seen through such an index the heap is a partial function from keys to values,
and the three operations that keep ownership, registering a new object,
writing to one and removing one, are updates of that function at one key.
-/

namespace SysTweak.Memory

universe u v

/-- The name of one allocation. -/
abbrev Ptr := Nat

/-- A heap of values; nothing is stored at or above the next pointer. -/
structure Heap (V : Type v) where
  cells : Ptr → Option V
  next : Ptr
  unallocated : ∀ ptr, next ≤ ptr → cells ptr = none

namespace Heap

variable {V : Type v}

/-- The heap nothing was allocated in. -/
def empty : Heap V :=
  ⟨fun _ => none, 0, fun _ _ => rfl⟩

/-- Allocate a cell holding `value` at the next pointer. -/
def alloc (heap : Heap V) (value : V) : Heap V where
  cells := Function.update heap.cells heap.next (some value)
  next := heap.next + 1
  unallocated ptr above := by
    rw [Function.update_of_ne (Nat.ne_of_gt above)]
    exact heap.unallocated ptr (Nat.le_of_lt above)

/-- Free a cell. -/
def free (heap : Heap V) (ptr : Ptr) : Heap V where
  cells := Function.update heap.cells ptr none
  next := heap.next
  unallocated other above := by
    by_cases same : other = ptr
    · rw [same, Function.update_self]
    · rw [Function.update_of_ne same]
      exact heap.unallocated other above

/-- Overwrite a live cell; writing elsewhere changes nothing. -/
def write (heap : Heap V) (ptr : Ptr) (value : V) : Heap V where
  cells := Function.update heap.cells ptr ((heap.cells ptr).map fun _ => value)
  next := heap.next
  unallocated other above := by
    by_cases same : other = ptr
    · subst other
      rw [Function.update_self, heap.unallocated ptr above]
      rfl
    · rw [Function.update_of_ne same]
      exact heap.unallocated other above

@[simp]
theorem alloc_cells_next (heap : Heap V) (value : V) :
    (heap.alloc value).cells heap.next = some value :=
  Function.update_self _ _ _

theorem alloc_cells_of_ne (heap : Heap V) (value : V) {ptr : Ptr}
    (different : ptr ≠ heap.next) : (heap.alloc value).cells ptr = heap.cells ptr :=
  Function.update_of_ne different _ _

@[simp]
theorem free_cells_self (heap : Heap V) (ptr : Ptr) : (heap.free ptr).cells ptr = none :=
  Function.update_self _ _ _

theorem free_cells_of_ne (heap : Heap V) {ptr other : Ptr} (different : other ≠ ptr) :
    (heap.free ptr).cells other = heap.cells other :=
  Function.update_of_ne different _ _

theorem write_cells_self {heap : Heap V} {ptr : Ptr} {old : V}
    (live : heap.cells ptr = some old) (value : V) :
    (heap.write ptr value).cells ptr = some value := by
  simp [write, live]

theorem write_cells_of_ne (heap : Heap V) (value : V) {ptr other : Ptr}
    (different : other ≠ ptr) : (heap.write ptr value).cells other = heap.cells other :=
  Function.update_of_ne different _ _

@[simp]
theorem cells_next (heap : Heap V) : heap.cells heap.next = none :=
  heap.unallocated heap.next (Nat.le_refl _)

end Heap

variable {K : Type u} {V : Type v} [Ord K] [Std.TransOrd K] [Std.LawfulEqOrd K]

omit [Std.LawfulEqOrd K] in
theorem getElem?_insert_self (index : Std.TreeMap K Ptr) (key : K) (ptr : Ptr) :
    (index.insert key ptr)[key]? = some ptr := by
  rw [Std.TreeMap.getElem?_insert]
  simp

theorem getElem?_insert_of_ne (index : Std.TreeMap K Ptr) (ptr : Ptr) {key other : K}
    (different : other ≠ key) : (index.insert key ptr)[other]? = index[other]? := by
  rw [Std.TreeMap.getElem?_insert, if_neg]
  intro equal
  exact different (Std.LawfulEqOrd.eq_of_compare equal).symm

omit [Std.LawfulEqOrd K] in
theorem getElem?_erase_self (index : Std.TreeMap K Ptr) (key : K) :
    (index.erase key)[key]? = none := by
  rw [Std.TreeMap.getElem?_erase]
  simp

theorem getElem?_erase_of_ne (index : Std.TreeMap K Ptr) {key other : K}
    (different : other ≠ key) : (index.erase key)[other]? = index[other]? := by
  rw [Std.TreeMap.getElem?_erase, if_neg]
  intro equal
  exact different (Std.LawfulEqOrd.eq_of_compare equal).symm

theorem getElem?_insert_eq_update [DecidableEq K] (index : Std.TreeMap K Ptr) (key : K)
    (ptr : Ptr) :
    (fun other => (index.insert key ptr)[other]?) =
      Function.update (fun other => index[other]?) key (some ptr) := by
  funext other
  by_cases same : other = key
  · rw [same, getElem?_insert_self, Function.update_self]
  · rw [getElem?_insert_of_ne index ptr same, Function.update_of_ne same]

theorem getElem?_erase_eq_update [DecidableEq K] (index : Std.TreeMap K Ptr) (key : K) :
    (fun other => (index.erase key)[other]?) =
      Function.update (fun other => index[other]?) key none := by
  funext other
  by_cases same : other = key
  · rw [same, getElem?_erase_self, Function.update_self]
  · rw [getElem?_erase_of_ne index same, Function.update_of_ne same]

/-- The index owns the heap: its pointers are live and not shared, and every
live cell is reached from it. -/
structure Owns (index : Std.TreeMap K Ptr) (heap : Heap V) : Prop where
  live : ∀ (key : K) (ptr : Ptr), index[key]? = some ptr →
    ∃ value, heap.cells ptr = some value
  distinct : ∀ (first second : K) (ptr : Ptr), index[first]? = some ptr →
    index[second]? = some ptr → first = second
  registered : ∀ (ptr : Ptr) (value : V), heap.cells ptr = some value →
    ∃ key : K, index[key]? = some ptr

/-- The value behind a key. -/
def view (index : Std.TreeMap K Ptr) (heap : Heap V) (key : K) : Option V :=
  index[key]?.bind heap.cells

omit [Std.TransOrd K] [Std.LawfulEqOrd K] in
theorem view_eq_of_mem {index : Std.TreeMap K Ptr} {heap : Heap V} {key : K}
    {ptr : Ptr} (member : index[key]? = some ptr) :
    view index heap key = heap.cells ptr := by
  rw [view, member]
  rfl

omit [Std.TransOrd K] [Std.LawfulEqOrd K] in
theorem view_eq_none_of_not_mem {index : Std.TreeMap K Ptr} {heap : Heap V} {key : K}
    (absent : index[key]? = none) : view index heap key = none := by
  rw [view, absent]
  rfl

omit [Std.LawfulEqOrd K] in
theorem Owns.empty : Owns (∅ : Std.TreeMap K Ptr) (Heap.empty : Heap V) where
  live key ptr member := by simp at member
  distinct first second ptr member _ := by simp at member
  registered ptr value live := by simp [Heap.empty] at live

namespace Owns

variable {index : Std.TreeMap K Ptr} {heap : Heap V}

omit [Std.TransOrd K] [Std.LawfulEqOrd K] in
theorem not_mem_next (owns : Owns index heap) (key : K) :
    index[key]? ≠ some heap.next := by
  intro member
  obtain ⟨value, live⟩ := owns.live key heap.next member
  rw [heap.cells_next] at live
  contradiction

omit [Std.TransOrd K] [Std.LawfulEqOrd K] in
/-- Two keys have two objects. -/
theorem ptr_ne (owns : Owns index heap) {key other : K} {ptr target : Ptr}
    (member : index[key]? = some ptr) (found : index[other]? = some target)
    (different : other ≠ key) : target ≠ ptr := by
  rintro rfl
  exact different (owns.distinct other key target found member)

omit [Std.TransOrd K] [Std.LawfulEqOrd K] in
/-- A key is in an owning index exactly when there is a value behind it. -/
theorem mem_iff_view (owns : Owns index heap) (key : K) :
    (∃ ptr, index[key]? = some ptr) ↔ ∃ value, view index heap key = some value := by
  constructor
  · rintro ⟨ptr, member⟩
    rw [view_eq_of_mem member]
    exact owns.live key ptr member
  · rintro ⟨value, found⟩
    obtain ⟨ptr, member, _⟩ := Option.bind_eq_some_iff.mp found
    exact ⟨ptr, member⟩

omit [Std.TransOrd K] [Std.LawfulEqOrd K] in
theorem not_mem_iff_view (owns : Owns index heap) (key : K) :
    index[key]? = none ↔ view index heap key = none := by
  rw [Option.eq_none_iff_forall_ne_some, Option.eq_none_iff_forall_ne_some]
  have same := not_congr (owns.mem_iff_view key)
  rwa [not_exists, not_exists] at same

/-! ## Registering a new object -/

theorem register (owns : Owns index heap) {key : K} (absent : index[key]? = none)
    (value : V) : Owns (index.insert key heap.next) (heap.alloc value) where
  live other ptr member := by
    by_cases same : other = key
    · rw [same, getElem?_insert_self] at member
      obtain rfl := Option.some.inj member
      exact ⟨value, heap.alloc_cells_next value⟩
    · rw [getElem?_insert_of_ne index _ same] at member
      have old : ptr ≠ heap.next := by
        rintro rfl
        exact owns.not_mem_next other member
      rw [heap.alloc_cells_of_ne value old]
      exact owns.live other ptr member
  distinct first second ptr firstMem secondMem := by
    by_cases firstSame : first = key <;> by_cases secondSame : second = key
    · rw [firstSame, secondSame]
    · rw [firstSame, getElem?_insert_self] at firstMem
      rw [getElem?_insert_of_ne index _ secondSame] at secondMem
      obtain rfl := Option.some.inj firstMem
      exact absurd secondMem (owns.not_mem_next second)
    · rw [secondSame, getElem?_insert_self] at secondMem
      rw [getElem?_insert_of_ne index _ firstSame] at firstMem
      obtain rfl := Option.some.inj secondMem
      exact absurd firstMem (owns.not_mem_next first)
    · rw [getElem?_insert_of_ne index _ firstSame] at firstMem
      rw [getElem?_insert_of_ne index _ secondSame] at secondMem
      exact owns.distinct first second ptr firstMem secondMem
  registered ptr stored live := by
    by_cases same : ptr = heap.next
    · exact ⟨key, by rw [same, getElem?_insert_self]⟩
    · rw [heap.alloc_cells_of_ne value same] at live
      obtain ⟨other, member⟩ := owns.registered ptr stored live
      refine ⟨other, ?_⟩
      rw [getElem?_insert_of_ne index]
      · exact member
      · rintro rfl
        rw [absent] at member
        contradiction

theorem view_register [DecidableEq K] (owns : Owns index heap) (key : K) (value : V)
    (other : K) :
    view (index.insert key heap.next) (heap.alloc value) other =
      Function.update (view index heap) key (some value) other := by
  by_cases same : other = key
  · rw [same, Function.update_self, view_eq_of_mem (getElem?_insert_self index key _)]
    exact heap.alloc_cells_next value
  · rw [Function.update_of_ne same, view, view, getElem?_insert_of_ne index _ same]
    cases member : index[other]? with
    | none => rfl
    | some ptr =>
        have old : ptr ≠ heap.next := by
          rintro rfl
          exact owns.not_mem_next other member
        exact heap.alloc_cells_of_ne value old

/-! ## Writing to an object -/

omit [Std.TransOrd K] [Std.LawfulEqOrd K] in
theorem store (owns : Owns index heap) {key : K} {ptr : Ptr}
    (member : index[key]? = some ptr) (value : V) : Owns index (heap.write ptr value) where
  live other target found := by
    obtain ⟨old, live⟩ := owns.live other target found
    by_cases same : target = ptr
    · subst target
      exact ⟨value, Heap.write_cells_self live value⟩
    · exact ⟨old, (heap.write_cells_of_ne value same).trans live⟩
  distinct := owns.distinct
  registered target stored live := by
    by_cases same : target = ptr
    · exact ⟨key, same ▸ member⟩
    · rw [heap.write_cells_of_ne value same] at live
      exact owns.registered target stored live

omit [Std.TransOrd K] [Std.LawfulEqOrd K] in
theorem view_store [DecidableEq K] (owns : Owns index heap) {key : K} {ptr : Ptr}
    (member : index[key]? = some ptr) (value : V) (other : K) :
    view index (heap.write ptr value) other =
      Function.update (view index heap) key (some value) other := by
  by_cases same : other = key
  · obtain ⟨old, live⟩ := owns.live key ptr member
    rw [same, Function.update_self, view_eq_of_mem member]
    exact Heap.write_cells_self live value
  · rw [Function.update_of_ne same, view, view]
    cases found : index[other]? with
    | none => rfl
    | some target => exact heap.write_cells_of_ne value (owns.ptr_ne member found same)

/-! ## Removing an object -/

theorem remove (owns : Owns index heap) {key : K} {ptr : Ptr}
    (member : index[key]? = some ptr) : Owns (index.erase key) (heap.free ptr) where
  live other target found := by
    by_cases same : other = key
    · rw [same, getElem?_erase_self] at found
      contradiction
    · rw [getElem?_erase_of_ne index same] at found
      rw [heap.free_cells_of_ne (owns.ptr_ne member found same)]
      exact owns.live other target found
  distinct first second target firstMem secondMem := by
    have survives : ∀ other : K, (index.erase key)[other]? = some target →
        index[other]? = some target := by
      intro other found
      by_cases same : other = key
      · rw [same, getElem?_erase_self] at found
        contradiction
      · rwa [getElem?_erase_of_ne index same] at found
    exact owns.distinct first second target (survives first firstMem)
      (survives second secondMem)
  registered target stored live := by
    have elsewhere : target ≠ ptr := by
      rintro rfl
      rw [heap.free_cells_self] at live
      contradiction
    rw [heap.free_cells_of_ne elsewhere] at live
    obtain ⟨other, found⟩ := owns.registered target stored live
    refine ⟨other, ?_⟩
    rw [getElem?_erase_of_ne index]
    · exact found
    · rintro rfl
      exact elsewhere (Option.some.inj (found.symm.trans member))

theorem view_remove [DecidableEq K] (owns : Owns index heap) {key : K} {ptr : Ptr}
    (member : index[key]? = some ptr) (other : K) :
    view (index.erase key) (heap.free ptr) other =
      Function.update (view index heap) key none other := by
  by_cases same : other = key
  · rw [same, Function.update_self]
    exact view_eq_none_of_not_mem (getElem?_erase_self index key)
  · rw [Function.update_of_ne same, view, view, getElem?_erase_of_ne index same]
    cases found : index[other]? with
    | none => rfl
    | some target => exact heap.free_cells_of_ne (owns.ptr_ne member found same)

end Owns

end SysTweak.Memory
