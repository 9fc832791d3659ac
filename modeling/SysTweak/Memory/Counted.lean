import Mathlib.Algebra.BigOperators.Group.Finset.Basic
import Mathlib.Algebra.Order.Group.Multiset
import SysTweak.Memory.Owner

/-!
# Counted cells

A counted cell stores a value and the number of references to it.  It is made with one
reference; the last reference given up frees it and hands its value back, so that what
the value refers to can be given up in turn.

A heap counts a collection of holders when every cell is counted as often as it occurs
among them.  Then no holder points to a freed cell, no cell outlives its holders, and the
operations keep the count as long as only holders give references up.
-/

namespace SysTweak.Memory

universe u v

/-- A value with the number of references to it. -/
structure Counted (V : Type v) where
  value : V
  references : Nat

namespace Heap

variable {V : Type v}

/-- The value of a counted cell, while it lives. -/
def value? (heap : Heap (Counted V)) (ptr : Ptr) : Option V :=
  (heap.cells ptr).map Counted.value

/-- A new cell at the next pointer, with the one reference of its maker. -/
def share (heap : Heap (Counted V)) (value : V) : Heap (Counted V) :=
  heap.alloc ⟨value, 1⟩

/-- One more reference to a cell, if it lives. -/
def retain (heap : Heap (Counted V)) (ptr : Ptr) : Option (Heap (Counted V)) :=
  (heap.cells ptr).map fun cell =>
    heap.write ptr { cell with references := cell.references + 1 }

/-- One reference less to a cell, if it lives; the last one frees it. -/
def release (heap : Heap (Counted V)) (ptr : Ptr) :
    Option (Heap (Counted V) × Option V) :=
  (heap.cells ptr).map fun cell =>
    if cell.references = 1 then (heap.free ptr, some cell.value)
    else (heap.write ptr { cell with references := cell.references - 1 }, none)

@[simp]
theorem share_next (heap : Heap (Counted V)) (value : V) :
    (heap.share value).next = heap.next + 1 :=
  rfl

theorem value?_eq_none_of_next_le (heap : Heap (Counted V)) {ptr : Ptr}
    (above : heap.next ≤ ptr) : heap.value? ptr = none := by
  rw [value?, heap.unallocated ptr above, Option.map_none]

theorem lt_next_of_value? {heap : Heap (Counted V)} {ptr : Ptr} {value : V}
    (live : heap.value? ptr = some value) : ptr < heap.next := by
  apply Nat.lt_of_not_le
  intro above
  rw [value?_eq_none_of_next_le heap above] at live
  contradiction

theorem share_value? (heap : Heap (Counted V)) (value : V) :
    (heap.share value).value? = Function.update heap.value? heap.next (some value) := by
  funext ptr
  by_cases same : ptr = heap.next
  · rw [same, value?, share, alloc_cells_next, Function.update_self]
    rfl
  · rw [value?, share, alloc_cells_of_ne heap _ same, Function.update_of_ne same]
    rfl

theorem free_value? (heap : Heap (Counted V)) (ptr : Ptr) :
    (heap.free ptr).value? = Function.update heap.value? ptr none := by
  funext other
  by_cases same : other = ptr
  · rw [same, value?, free_cells_self, Function.update_self]
    rfl
  · rw [value?, free_cells_of_ne heap same, Function.update_of_ne same]
    rfl

/-- Changing the count of a cell changes no value. -/
theorem write_value? {heap : Heap (Counted V)} {ptr : Ptr} {cell : Counted V}
    (live : heap.cells ptr = some cell) (references : Nat) :
    (heap.write ptr { cell with references := references }).value? = heap.value? := by
  funext other
  by_cases same : other = ptr
  · rw [same, value?, write_cells_self live, value?, live]
    rfl
  · rw [value?, write_cells_of_ne heap _ same]
    rfl

/-- The count of a cell; a cell that does not live has none. -/
def references (heap : Heap (Counted V)) (ptr : Ptr) : Nat :=
  (heap.cells ptr).elim 0 Counted.references

/-- The cells are counted as often as they occur among the holders. -/
structure Counts (heap : Heap (Counted V)) (holders : Multiset Ptr) : Prop where
  references_eq : ∀ ptr, heap.references ptr = holders.count ptr
  positive : ∀ {ptr cell}, heap.cells ptr = some cell → 0 < cell.references

namespace Counts

variable {heap : Heap (Counted V)} {holders : Multiset Ptr}

theorem empty : Counts (Heap.empty : Heap (Counted V)) 0 where
  references_eq _ := rfl
  positive live := by contradiction

theorem cell_references (counts : Counts heap holders) {ptr : Ptr} {cell : Counted V}
    (live : heap.cells ptr = some cell) : cell.references = holders.count ptr := by
  rw [← counts.references_eq, references, live]
  rfl

/-- A holder points to a cell that lives. -/
theorem exists_cell (counts : Counts heap holders) {ptr : Ptr} (held : ptr ∈ holders) :
    ∃ cell, heap.cells ptr = some cell := by
  cases stored : heap.cells ptr with
  | none =>
      have counted := counts.references_eq ptr
      rw [references, stored] at counted
      exact absurd held (Multiset.count_eq_zero.mp counted.symm)
  | some cell => exact ⟨cell, rfl⟩

/-- A cell lives exactly as long as it has a holder. -/
theorem value?_eq_none_iff (counts : Counts heap holders) (ptr : Ptr) :
    heap.value? ptr = none ↔ ptr ∉ holders := by
  rw [value?, Option.map_eq_none_iff]
  constructor
  · intro dead held
    rcases counts.exists_cell held with ⟨cell, live⟩
    rw [dead] at live
    contradiction
  · intro unheld
    cases stored : heap.cells ptr with
    | none => rfl
    | some cell =>
        have positive := counts.positive stored
        rw [counts.cell_references stored, Multiset.count_eq_zero.mpr unheld] at positive
        contradiction

theorem notMem_next (counts : Counts heap holders) : heap.next ∉ holders :=
  (counts.value?_eq_none_iff heap.next).mp
    (value?_eq_none_of_next_le heap (Nat.le_refl _))

theorem share (counts : Counts heap holders) (value : V) :
    Counts (heap.share value) (heap.next ::ₘ holders) where
  references_eq ptr := by
    by_cases same : ptr = heap.next
    · rw [same, references, Heap.share, alloc_cells_next, Multiset.count_cons_self,
        Multiset.count_eq_zero.mpr counts.notMem_next]
      rfl
    · rw [Multiset.count_cons_of_ne same, ← counts.references_eq, references, Heap.share,
        alloc_cells_of_ne heap _ same]
      rfl
  positive {ptr cell} live := by
    by_cases same : ptr = heap.next
    · rw [same, Heap.share, alloc_cells_next] at live
      cases live
      exact Nat.one_pos
    · rw [Heap.share, alloc_cells_of_ne heap _ same] at live
      exact counts.positive live

/-- Writing the new count of a cell counts the new holders. -/
theorem write (counts : Counts heap holders) {ptr : Ptr} {cell : Counted V}
    (live : heap.cells ptr = some cell) {others : Multiset Ptr}
    (elsewhere : ∀ other, other ≠ ptr → others.count other = holders.count other)
    (held : ptr ∈ others) :
    Counts (heap.write ptr { cell with references := others.count ptr }) others where
  references_eq other := by
    by_cases same : other = ptr
    · rw [same, references, write_cells_self live]
      rfl
    · rw [elsewhere other same, ← counts.references_eq, references,
        write_cells_of_ne heap _ same]
      rfl
  positive {other stored} kept := by
    by_cases same : other = ptr
    · rw [same, write_cells_self live] at kept
      cases kept
      exact Multiset.count_pos.mpr held
    · rw [write_cells_of_ne heap _ same] at kept
      exact counts.positive kept

/-- A holder can be copied. -/
theorem retain (counts : Counts heap holders) {ptr : Ptr} (held : ptr ∈ holders) :
    ∃ next, heap.retain ptr = some next ∧ Counts next (ptr ::ₘ holders) ∧
      next.value? = heap.value? ∧ next.next = heap.next := by
  rcases counts.exists_cell held with ⟨cell, live⟩
  have counted := counts.cell_references live
  have more : (ptr ::ₘ holders).count ptr = cell.references + 1 := by
    rw [Multiset.count_cons_self, counted]
  refine ⟨_, by rw [Heap.retain, live, Option.map_some], ?_, write_value? live _, rfl⟩
  rw [← more]
  exact counts.write live (fun other different => Multiset.count_cons_of_ne different _)
    (Multiset.mem_cons_self ptr holders)

/-- Of two holders or more, one gives its reference up and the cell stays. -/
theorem release_held {ptr : Ptr} (counts : Counts heap (ptr ::ₘ holders))
    (held : ptr ∈ holders) :
    ∃ next, heap.release ptr = some (next, none) ∧ Counts next holders ∧
      next.value? = heap.value? ∧ next.next = heap.next := by
  rcases counts.exists_cell (Multiset.mem_cons_self ptr holders) with ⟨cell, live⟩
  have counted := counts.cell_references live
  rw [Multiset.count_cons_self] at counted
  have several : cell.references ≠ 1 := by
    have positive := Multiset.count_pos.mpr held
    omega
  have fewer : holders.count ptr = cell.references - 1 := by omega
  refine ⟨_, by rw [Heap.release, live, Option.map_some, if_neg several], ?_,
    write_value? live _, rfl⟩
  rw [← fewer]
  exact counts.write live
    (fun other different => (Multiset.count_cons_of_ne different _).symm) held

/-- The last holder frees the cell and gets its value. -/
theorem release_last {ptr : Ptr} (counts : Counts heap (ptr ::ₘ holders))
    (unheld : ptr ∉ holders) :
    ∃ next value, heap.value? ptr = some value ∧
      heap.release ptr = some (next, some value) ∧ Counts next holders ∧
      next.value? = Function.update heap.value? ptr none ∧ next.next = heap.next := by
  rcases counts.exists_cell (Multiset.mem_cons_self ptr holders) with ⟨cell, live⟩
  have counted := counts.cell_references live
  rw [Multiset.count_cons_self, Multiset.count_eq_zero.mpr unheld] at counted
  refine ⟨heap.free ptr, cell.value, by rw [value?, live]; rfl,
    by rw [Heap.release, live, Option.map_some, if_pos counted], ?_, free_value? heap ptr, rfl⟩
  constructor
  · intro other
    by_cases same : other = ptr
    · rw [same, references, free_cells_self, Multiset.count_eq_zero.mpr unheld]
      rfl
    · rw [← Multiset.count_cons_of_ne same holders, ← counts.references_eq, references,
        free_cells_of_ne heap same]
      rfl
  · intro other stored kept
    by_cases same : other = ptr
    · rw [same, free_cells_self] at kept
      contradiction
    · rw [free_cells_of_ne heap same] at kept
      exact counts.positive kept

end Counts

/-! ## Later heaps -/

/-- Of the cells that the earlier heap allocated, the later one stores no other values. -/
structure Follows (later earlier : Heap (Counted V)) : Prop where
  next : earlier.next ≤ later.next
  values : ∀ {ptr value}, ptr < earlier.next → later.value? ptr = some value →
    earlier.value? ptr = some value

theorem Follows.refl (heap : Heap (Counted V)) : Follows heap heap :=
  ⟨Nat.le_refl _, fun _ live => live⟩

theorem Follows.trans {last middle first : Heap (Counted V)} (later : Follows last middle)
    (earlier : Follows middle first) : Follows last first where
  next := Nat.le_trans earlier.next later.next
  values allocated live :=
    earlier.values allocated
      (later.values (Nat.lt_of_lt_of_le allocated earlier.next) live)

/-- A cell that lives in both has the same value. -/
theorem Follows.value?_eq {later earlier : Heap (Counted V)} (follows : Follows later earlier)
    {ptr : Ptr} {old new : V} (before : earlier.value? ptr = some old)
    (after : later.value? ptr = some new) : new = old := by
  have kept := follows.values (lt_next_of_value? before) after
  rw [before] at kept
  exact (Option.some.inj kept).symm

theorem share_follows (heap : Heap (Counted V)) (value : V) :
    Follows (heap.share value) heap where
  next := Nat.le_succ heap.next
  values allocated live := by
    rwa [share_value?, Function.update_of_ne (Nat.ne_of_lt allocated)] at live

theorem retain_follows {heap next : Heap (Counted V)} {ptr : Ptr}
    (retained : heap.retain ptr = some next) : Follows next heap := by
  rcases Option.map_eq_some_iff.mp retained with ⟨cell, live, rfl⟩
  constructor
  · exact Nat.le_refl heap.next
  · intro other value _ kept
    rwa [write_value? live] at kept

theorem release_follows {heap next : Heap (Counted V)} {ptr : Ptr} {freed : Option V}
    (released : heap.release ptr = some (next, freed)) : Follows next heap := by
  rcases Option.map_eq_some_iff.mp released with ⟨cell, live, given⟩
  split at given
  · cases given
    constructor
    · exact Nat.le_refl heap.next
    · intro other value _ kept
      rw [free_value?] at kept
      by_cases same : other = ptr
      · rw [same, Function.update_self] at kept
        contradiction
      · rwa [Function.update_of_ne same] at kept
  · cases given
    constructor
    · exact Nat.le_refl heap.next
    · intro other value _ kept
      rwa [write_value? live] at kept

/-! ## What the cells hold -/

/-- The pointers the values of the live cells hold, to cells of another heap. -/
def holdings (heap : Heap (Counted V)) (holds : V → Multiset Ptr) : Multiset Ptr :=
  ∑ ptr ∈ Finset.range heap.next, (heap.value? ptr).elim 0 holds

theorem holdings_congr {heap other : Heap (Counted V)} (holds : V → Multiset Ptr)
    (values : other.value? = heap.value?) (next : other.next = heap.next) :
    other.holdings holds = heap.holdings holds := by
  rw [holdings, holdings, values, next]

theorem holdings_share (heap : Heap (Counted V)) (holds : V → Multiset Ptr) (value : V) :
    (heap.share value).holdings holds = holds value + heap.holdings holds := by
  rw [holdings, share_next, Finset.sum_range_succ, share_value?, Function.update_self,
    add_comm, holdings]
  congr 1
  apply Finset.sum_congr rfl
  intro ptr below
  rw [Function.update_of_ne (Nat.ne_of_lt (Finset.mem_range.mp below))]

/-- A freed cell holds nothing any more. -/
theorem holdings_free {heap other : Heap (Counted V)} (holds : V → Multiset Ptr) {ptr : Ptr}
    {value : V} (live : heap.value? ptr = some value)
    (values : other.value? = Function.update heap.value? ptr none)
    (next : other.next = heap.next) :
    heap.holdings holds = holds value + other.holdings holds := by
  have within : ptr ∈ Finset.range heap.next := Finset.mem_range.mpr (lt_next_of_value? live)
  rw [holdings, holdings, next, values, ← Finset.add_sum_erase _ _ within,
    ← Finset.add_sum_erase _ _ within, live, Function.update_self]
  congr 1
  rw [Option.elim_none, zero_add]
  apply Finset.sum_congr rfl
  intro other member
  rw [Function.update_of_ne (Finset.ne_of_mem_erase member)]

/-- What a live cell holds is among the holdings. -/
theorem le_holdings {heap : Heap (Counted V)} (holds : V → Multiset Ptr) {ptr : Ptr}
    {value : V} (live : heap.value? ptr = some value) : holds value ≤ heap.holdings holds := by
  have freed : heap.holdings holds = holds value + (heap.free ptr).holdings holds :=
    holdings_free holds live (free_value? heap ptr) rfl
  rw [freed]
  exact Multiset.le_add_right _ _

theorem mem_holdings_iff {heap : Heap (Counted V)} {holds : V → Multiset Ptr} {held : Ptr} :
    held ∈ heap.holdings holds ↔ ∃ ptr value, heap.value? ptr = some value ∧ held ∈ holds value := by
  constructor
  · rw [holdings, Multiset.mem_sum]
    rintro ⟨ptr, _, member⟩
    cases live : heap.value? ptr with
    | none =>
        rw [live] at member
        exact absurd member (Multiset.notMem_zero held)
    | some value =>
        rw [live] at member
        exact ⟨ptr, value, live, member⟩
  · rintro ⟨ptr, value, live, member⟩
    exact Multiset.mem_of_le (le_holdings holds live) member

end Heap

end SysTweak.Memory
