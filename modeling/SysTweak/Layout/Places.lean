import SysTweak.Bytes.Buffer
import SysTweak.Layout.Struct

/-!
# Members as places

Where the members of a structure and the elements of an array lie in the bytes
of the whole.
-/

namespace SysTweak.Layout

open SysTweak.Bytes

namespace StructDecl

variable {μ : Type*} [DecidableEq μ] (decl : StructDecl μ)

/-- The bytes of a member. -/
def place (m : μ) : Place decl.ctype.size where
  offset := decl.offset m
  length := (decl.type m).size
  fits := decl.offset_add_size_le m

theorem place_apart {m m' : μ} (different : m ≠ m') :
    (decl.place m).Apart (decl.place m') :=
  decl.apart different

end StructDecl

/-- The bytes of an element of an array. -/
def element (type : CType) (count : Nat) (i : Fin count) :
    Place (type.array count).size where
  offset := i * type.size
  length := type.size
  fits := by
    rw [← Nat.succ_mul]
    exact Nat.mul_le_mul_right _ i.isLt

theorem element_apart (type : CType) {count : Nat} {i j : Fin count}
    (different : i ≠ j) : (element type count i).Apart (element type count j) := by
  have ends : ∀ {i j : Fin count}, i < j → i.val * type.size + type.size ≤ j * type.size := by
    intro i j before
    rw [← Nat.succ_mul]
    exact Nat.mul_le_mul_right _ before
  rcases lt_or_gt_of_ne different with before | after
  · exact .inl (ends before)
  · exact .inr (ends after)

end SysTweak.Layout
