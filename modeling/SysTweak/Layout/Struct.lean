import Mathlib.Data.List.Basic

/-!
# Layout of C structures

Members are placed in declaration order, each at the next multiple of its
alignment; the size of the whole is rounded up to the largest alignment.  No two
members overlap, and all of them lie within the structure.
-/

namespace SysTweak.Layout

/-- Size and alignment of a C type. -/
structure CType where
  size : Nat
  align : Nat
  align_pos : 0 < align
  deriving DecidableEq

namespace CType

/-- An unsigned or signed integer of the given number of bytes. -/
def int (bytes : Nat) : CType where
  size := bytes
  align := max bytes 1
  align_pos := Nat.lt_of_lt_of_le Nat.zero_lt_one (Nat.le_max_right _ _)

/-- `T[count]`. -/
def array (type : CType) (count : Nat) : CType where
  size := count * type.size
  align := type.align
  align_pos := type.align_pos

/-- `char[count]`. -/
def chars (count : Nat) : CType :=
  array (int 1) count

end CType

/-- The least multiple of `align` that is at least `offset`. -/
def alignUp (offset align : Nat) : Nat :=
  (offset + (align - 1)) / align * align

/-- Offset of the member with the given index, when placing the members from
`offset` on. -/
def offsetFrom : Nat → List CType → Nat → Nat
  | offset, [], _ => offset
  | offset, type :: _, 0 => alignUp offset type.align
  | offset, type :: rest, index + 1 =>
      offsetFrom (alignUp offset type.align + type.size) rest index

/-- `offsetof` the member with the given index. -/
def offsetOf (members : List CType) (index : Nat) : Nat :=
  offsetFrom 0 members index

/-- The largest alignment of the members. -/
def maxAlign (members : List CType) : Nat :=
  (members.map CType.align).foldl max 1

theorem le_foldl_max (start : Nat) (values : List Nat) : start ≤ values.foldl max start := by
  induction values generalizing start with
  | nil => exact Nat.le_refl start
  | cons value values ih => exact Nat.le_trans (Nat.le_max_left _ _) (ih _)

/-- `struct { members }` as a type. -/
def struct (members : List CType) : CType where
  size := alignUp (offsetOf members members.length) (maxAlign members)
  align := maxAlign members
  align_pos := le_foldl_max 1 _

theorem le_alignUp (offset : Nat) {align : Nat} (positive : 0 < align) :
    offset ≤ alignUp offset align := by
  have upper : offset + (align - 1) <
      (offset + (align - 1)) / align * align + align := Nat.lt_div_mul_add positive
  unfold alignUp
  omega

theorem le_offsetFrom (offset : Nat) (members : List CType) (index : Nat) :
    offset ≤ offsetFrom offset members index := by
  induction members generalizing offset index with
  | nil => simp [offsetFrom]
  | cons type rest ih =>
      have aligned := le_alignUp offset type.align_pos
      cases index with
      | zero => exact aligned
      | succ index =>
          exact Nat.le_trans (Nat.le_trans aligned (Nat.le_add_right _ _)) (ih _ index)

/-- A member ends before every later one begins. -/
theorem offsetFrom_add_size_le (offset : Nat) {members : List CType} {index later : Nat}
    {type : CType} (here : members[index]? = some type) (before : index < later) :
    offsetFrom offset members index + type.size ≤ offsetFrom offset members later := by
  induction members generalizing offset index later with
  | nil => contradiction
  | cons first rest ih =>
      cases later with
      | zero => contradiction
      | succ later =>
          cases index with
          | zero =>
              cases here
              exact le_offsetFrom _ rest later
          | succ index => exact ih _ here (Nat.lt_of_succ_lt_succ before)

/-- Every member ends within the structure. -/
theorem offsetOf_add_size_le {members : List CType} {index : Nat} {type : CType}
    (here : members[index]? = some type) :
    offsetOf members index + type.size ≤ (struct members).size := by
  have within : index < members.length := (List.getElem?_eq_some_iff.mp here).1
  exact Nat.le_trans (offsetFrom_add_size_le 0 here within)
    (le_alignUp _ (struct members).align_pos)

/-- A structure type with named members. -/
structure StructDecl (μ : Type*) where
  members : List μ
  type : μ → CType
  complete : ∀ m, m ∈ members

namespace StructDecl

variable {μ : Type*} (decl : StructDecl μ)

/-- The structure as a type. -/
def ctype : CType :=
  struct (decl.members.map decl.type)

variable [DecidableEq μ]

/-- `offsetof` a member. -/
def offset (m : μ) : Nat :=
  offsetOf (decl.members.map decl.type) (decl.members.idxOf m)

theorem getElem?_idxOf (m : μ) :
    (decl.members.map decl.type)[decl.members.idxOf m]? = some (decl.type m) := by
  have within := List.idxOf_lt_length_of_mem (decl.complete m)
  rw [List.getElem?_map, List.getElem?_eq_getElem within, List.getElem_idxOf, Option.map_some]

theorem offset_add_size_le (m : μ) :
    decl.offset m + (decl.type m).size ≤ decl.ctype.size :=
  offsetOf_add_size_le (decl.getElem?_idxOf m)

theorem offset_add_size_le_offset {m m' : μ}
    (before : decl.members.idxOf m < decl.members.idxOf m') :
    decl.offset m + (decl.type m).size ≤ decl.offset m' :=
  offsetFrom_add_size_le 0 (decl.getElem?_idxOf m) before

/-- Two members do not overlap. -/
theorem apart {m m' : μ} (different : m ≠ m') :
    decl.offset m + (decl.type m).size ≤ decl.offset m' ∨
      decl.offset m' + (decl.type m').size ≤ decl.offset m := by
  rcases Nat.lt_trichotomy (decl.members.idxOf m) (decl.members.idxOf m') with
    before | same | after
  · exact .inl (decl.offset_add_size_le_offset before)
  · exact absurd ((List.idxOf_inj (decl.complete m)).mp same) different
  · exact .inr (decl.offset_add_size_le_offset after)

end StructDecl

end SysTweak.Layout
