import Mathlib.Data.List.FinRange
import Mathlib.Data.List.Nodup
import Mathlib.Logic.Function.Basic
import SysTweak.Layout.Struct

/-!
# Raw data of a command

`RawDataOffsetCalculator` of `sf_impl_command_serialization.hpp` lays the arguments of a
command out: it sorts them by alignment, keeping the order of those that have the same,
and places them one after the other.  The client lays its arguments out as a C structure;
the two agree when the alignments do not decrease.
-/

namespace SysTweak.Sf

open SysTweak.Layout

universe u

/-! ## The sort -/

section

variable {ι : Type u} (value : ι → Nat)

/-- The inner loop of `StableSort`, on the sorted part from its end: the new index goes
past those with a larger value. -/
def sink (new : ι) : List ι → List ι
  | [] => [new]
  | last :: rest =>
      if value last > value new then last :: sink new rest else new :: last :: rest

/-- `StableSort`. -/
def stableSort (map : List ι) : List ι :=
  (map.foldl (fun sorted new => sink value new sorted) []).reverse

theorem sink_perm (new : ι) (sorted : List ι) : (sink value new sorted).Perm (new :: sorted) := by
  induction sorted with
  | nil => exact List.Perm.refl _
  | cons last rest ih =>
      rw [sink]
      split
      · exact (ih.cons last).trans (List.Perm.swap new last rest)
      · exact List.Perm.refl _

theorem pairwise_sink {sorted : List ι} (new : ι)
    (ordered : sorted.Pairwise fun later earlier => value earlier ≤ value later) :
    (sink value new sorted).Pairwise fun later earlier => value earlier ≤ value later := by
  induction sorted with
  | nil => exact List.pairwise_singleton _ _
  | cons last rest ih =>
      rcases List.pairwise_cons.mp ordered with ⟨below, orderedRest⟩
      rw [sink]
      split
      · rename_i larger
        apply List.pairwise_cons.mpr
        constructor
        · intro earlier member
          rcases List.mem_cons.mp ((sink_perm value new rest).mem_iff.mp member) with
            rfl | before
          · exact Nat.le_of_lt larger
          · exact below earlier before
        · exact ih orderedRest
      · rename_i notLarger
        have above : value last ≤ value new := Nat.not_lt.mp notLarger
        apply List.pairwise_cons.mpr
        constructor
        · intro earlier member
          rcases List.mem_cons.mp member with rfl | before
          · exact above
          · exact Nat.le_trans (below earlier before) above
        · exact ordered

theorem foldl_sink_perm (map sorted : List ι) :
    (map.foldl (fun sorted new => sink value new sorted) sorted).Perm (map ++ sorted) := by
  induction map generalizing sorted with
  | nil => exact List.Perm.refl _
  | cons new map ih =>
      calc
        (new :: map).foldl (fun sorted new => sink value new sorted) sorted
        _ = map.foldl (fun sorted new => sink value new sorted) (sink value new sorted) := rfl
        List.Perm _ (map ++ sink value new sorted) := ih _
        List.Perm _ (map ++ new :: sorted) := (sink_perm value new sorted).append_left map
        List.Perm _ (new :: (map ++ sorted)) := List.perm_middle

/-- The sort loses and adds nothing. -/
theorem stableSort_perm (map : List ι) : (stableSort value map).Perm map := by
  have sorted := foldl_sink_perm value map []
  rw [List.append_nil] at sorted
  exact (List.reverse_perm _).trans sorted

/-- The sort sorts. -/
theorem stableSort_pairwise (map : List ι) :
    (stableSort value map).Pairwise fun earlier later => value earlier ≤ value later := by
  have ordered : ∀ (map sorted : List ι),
      (sorted.Pairwise fun later earlier => value earlier ≤ value later) →
      (map.foldl (fun sorted new => sink value new sorted) sorted).Pairwise
        fun later earlier => value earlier ≤ value later := by
    intro map
    induction map with
    | nil => exact fun _ holds => holds
    | cons new map ih => exact fun sorted holds => ih _ (pairwise_sink value new holds)
  exact List.pairwise_reverse.mpr (ordered map [] List.Pairwise.nil)

/-- What is sorted already stays as it is. -/
theorem stableSort_of_pairwise {map : List ι}
    (ordered : map.Pairwise fun earlier later => value earlier ≤ value later) :
    stableSort value map = map := by
  have kept : ∀ (map sorted : List ι),
      (map.Pairwise fun earlier later => value earlier ≤ value later) →
      (∀ new ∈ map, ∀ last ∈ sorted, value last ≤ value new) →
      map.foldl (fun sorted new => sink value new sorted) sorted = map.reverse ++ sorted := by
    intro map
    induction map with
    | nil => exact fun _ _ _ => rfl
    | cons new map ih =>
        intro sorted holds above
        rcases List.pairwise_cons.mp holds with ⟨first, others⟩
        have onTop : sink value new sorted = new :: sorted := by
          cases sorted with
          | nil => rfl
          | cons last rest =>
              rw [sink, if_neg]
              exact Nat.not_lt.mpr (above new List.mem_cons_self last List.mem_cons_self)
        rw [List.foldl_cons, onTop, ih _ others, List.reverse_cons, List.append_assoc]
        · rfl
        · intro later member last before
          rcases List.mem_cons.mp before with rfl | before
          · exact first later member
          · exact above later (List.mem_cons_of_mem _ member) last before
  rw [stableSort, kept map [] ordered (fun _ _ _ none => absurd none List.not_mem_nil),
    List.append_nil, List.reverse_reverse]

end

/-! ## The offsets -/

section

variable {ι : Type u} [DecidableEq ι] (type : ι → CType)

/-- One round of the loop over the sorted arguments: the offsets so far and
`cur_offset`. -/
def placeArgument (placed : (ι → Nat) × Nat) (i : ι) : (ι → Nat) × Nat :=
  let offset := alignUp placed.2 (type i).align
  (Function.update placed.1 i offset, offset + (type i).size)

/-- The loop places the arguments as a structure with them as its members. -/
theorem foldl_placeArgument (order : List ι) (nodup : order.Nodup)
    (placed : (ι → Nat) × Nat) :
    order.foldl (placeArgument type) placed =
      (fun i => if i ∈ order then offsetFrom placed.2 (order.map type) (order.idxOf i)
        else placed.1 i,
        offsetFrom placed.2 (order.map type) order.length) := by
  induction order generalizing placed with
  | nil => rfl
  | cons first order ih =>
      rcases List.nodup_cons.mp nodup with ⟨absent, distinct⟩
      rw [List.foldl_cons, ih distinct]
      apply Prod.ext
      · funext i
        by_cases same : i = first
        · subst same
          simp only [absent, if_false, List.mem_cons_self, if_true, List.idxOf_cons_self,
            List.map_cons, offsetFrom, placeArgument, Function.update_self]
        · by_cases member : i ∈ order
          · simp only [member, if_true, List.mem_cons_of_mem first member,
              List.idxOf_cons_ne order (Ne.symm same), List.map_cons, offsetFrom,
              placeArgument]
          · simp only [member, if_false, List.mem_cons, same, or_self, placeArgument,
              Function.update_of_ne same]
      · rfl

end

variable (types : List CType)

/-- The arguments in the order in which they are placed. -/
def sortedArguments : List (Fin types.length) :=
  stableSort (fun i => (types.get i).align) (List.finRange types.length)

/-- `RawDataOffsetCalculator::Offsets`: the offset of each argument, and that of the
end. -/
def rawDataOffsets : (Fin types.length → Nat) × Nat :=
  (sortedArguments types).foldl (placeArgument types.get) (fun _ => 0, 0)

theorem mem_sortedArguments (i : Fin types.length) : i ∈ sortedArguments types :=
  (stableSort_perm _ _).mem_iff.mpr (List.mem_finRange i)

theorem nodup_sortedArguments : (sortedArguments types).Nodup :=
  (stableSort_perm _ _).nodup_iff.mpr (List.nodup_finRange _)

/-- The arguments as the members of a structure. -/
def rawDataStruct : StructDecl (Fin types.length) where
  members := sortedArguments types
  type := types.get
  complete := mem_sortedArguments types

theorem rawDataOffsets_fst (i : Fin types.length) :
    (rawDataOffsets types).1 i = (rawDataStruct types).offset i := by
  rw [rawDataOffsets, foldl_placeArgument _ _ (nodup_sortedArguments types)]
  exact if_pos (mem_sortedArguments types i)

theorem rawDataOffsets_snd :
    (rawDataOffsets types).2 =
      offsetOf ((sortedArguments types).map types.get) (sortedArguments types).length := by
  rw [rawDataOffsets, foldl_placeArgument _ _ (nodup_sortedArguments types)]
  rfl

/-- Every argument ends before the end of the raw data. -/
theorem rawDataOffsets_add_size_le (i : Fin types.length) :
    (rawDataOffsets types).1 i + (types.get i).size ≤ (rawDataOffsets types).2 := by
  rw [rawDataOffsets_fst, rawDataOffsets_snd]
  exact offsetFrom_add_size_le 0 ((rawDataStruct types).getElem?_idxOf i)
    (List.idxOf_lt_length_of_mem (mem_sortedArguments types i))

end SysTweak.Sf
