import Mathlib.Data.BitVec

/-!
# Numbers in memory

Memory is a byte for every address.  A number is stored in consecutive bytes, the least
significant one first; what is loaded from there is what was stored, and a load from
bytes apart from these does not notice.
-/

namespace SysTweak.Bytes

/-- The number that the bytes from an offset on represent. -/
def load (memory : Nat → BitVec 8) : Nat → Nat → Nat
  | _, 0 => 0
  | offset, bytes + 1 => (memory offset).toNat + 256 * load memory (offset + 1) bytes

/-- The memory once a number is stored in the bytes from an offset on. -/
def store (memory : Nat → BitVec 8) : Nat → Nat → Nat → Nat → BitVec 8
  | _, 0, _ => memory
  | offset, bytes + 1, value =>
      Function.update (store memory (offset + 1) bytes (value / 256)) offset
        (BitVec.ofNat 8 value)

theorem load_congr {memory other : Nat → BitVec 8} {offset bytes : Nat}
    (same : ∀ i, offset ≤ i → i < offset + bytes → memory i = other i) :
    load memory offset bytes = load other offset bytes := by
  induction bytes generalizing offset with
  | zero => rfl
  | succ bytes ih =>
      rw [load, load, same offset (Nat.le_refl _) (by omega)]
      congr 2
      exact ih fun i above below => same i (by omega) (by omega)

theorem load_lt (memory : Nat → BitVec 8) (offset bytes : Nat) :
    load memory offset bytes < 256 ^ bytes := by
  induction bytes generalizing offset with
  | zero => exact Nat.one_pos
  | succ bytes ih =>
      have first : (memory offset).toNat < 256 := (memory offset).isLt
      have rest := ih (offset + 1)
      rw [load, Nat.pow_succ]
      omega

/-- A byte that is not stored to stays. -/
theorem store_of_outside (memory : Nat → BitVec 8) {offset bytes i : Nat} (value : Nat)
    (outside : i < offset ∨ offset + bytes ≤ i) : store memory offset bytes value i = memory i := by
  induction bytes generalizing offset value with
  | zero => rfl
  | succ bytes ih =>
      have different : i ≠ offset := by omega
      rw [store, Function.update_of_ne different]
      exact ih _ (by omega)

theorem load_store_of_apart (memory : Nat → BitVec 8) {offset bytes other size : Nat}
    (value : Nat) (apart : offset + bytes ≤ other ∨ other + size ≤ offset) :
    load (store memory offset bytes value) other size = load memory other size := by
  apply load_congr
  intro i above below
  exact store_of_outside memory value (by omega)

/-- What is loaded is what was stored. -/
theorem load_store (memory : Nat → BitVec 8) {offset bytes value : Nat}
    (fits : value < 256 ^ bytes) :
    load (store memory offset bytes value) offset bytes = value := by
  induction bytes generalizing offset value with
  | zero => exact (Nat.lt_one_iff.mp fits).symm
  | succ bytes ih =>
      have rest : load (store memory offset (bytes + 1) value) (offset + 1) bytes =
          load (store memory (offset + 1) bytes (value / 256)) (offset + 1) bytes := by
        apply load_congr
        intro i above _
        rw [store, Function.update_of_ne (by omega)]
      have quotient : value / 256 < 256 ^ bytes := by
        rw [Nat.pow_succ] at fits
        exact Nat.div_lt_of_lt_mul (by rwa [Nat.mul_comm])
      rw [load, rest, ih quotient, store, Function.update_self, BitVec.toNat_ofNat]
      exact Nat.mod_add_div value 256

/-- Storing zero leaves zeros. -/
theorem store_zero {memory : Nat → BitVec 8} {i : Nat} (zero : memory i = 0)
    (offset bytes : Nat) : store memory offset bytes 0 i = 0 := by
  induction bytes generalizing offset with
  | zero => exact zero
  | succ bytes ih =>
      rw [store]
      by_cases same : i = offset
      · rw [same, Function.update_self]
        rfl
      · rw [Function.update_of_ne same]
        exact ih (offset + 1)

/-- Storing one writes zeros but to its first byte. -/
theorem store_one {memory : Nat → BitVec 8} {i offset : Nat} (zero : memory i = 0)
    (later : i ≠ offset) (bytes : Nat) : store memory offset bytes 1 i = 0 := by
  cases bytes with
  | zero => exact zero
  | succ bytes =>
      rw [store, Function.update_of_ne later]
      exact store_zero zero (offset + 1) bytes

/-- A number that is one has a first byte that is not zero. -/
theorem ne_zero_of_load_eq_one {memory : Nat → BitVec 8} {offset bytes : Nat}
    (one : load memory offset bytes = 1) : memory offset ≠ 0 := by
  cases bytes with
  | zero => contradiction
  | succ bytes =>
      intro zero
      have first : (memory offset).toNat = 0 := by
        rw [zero]
        rfl
      rw [load, first] at one
      omega

end SysTweak.Bytes
