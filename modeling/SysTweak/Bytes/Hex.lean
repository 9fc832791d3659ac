import SysTweak.Bytes.CString

/-!
# Hexadecimal numbers

Numbers written with a fixed number of hexadecimal digits can be read back, and no
digit is NUL.
-/

namespace SysTweak.Bytes

/-- The lowest `digits` hexadecimal digits of a number, highest first. -/
def hexText : Nat → Nat → List (BitVec 8)
  | 0, _ => []
  | digits + 1, n => hexText digits (n / 16) ++ [hexDigit (BitVec.ofNat 4 n)]

/-- The value of a lower-case hexadecimal digit. -/
def hexDigitValue (c : BitVec 8) : Nat :=
  if c < char 'a' then (c - char '0').toNat else (c - char 'a').toNat + 10

/-- The number some digits stand for. -/
def readHex (digits : List (BitVec 8)) : Nat :=
  digits.foldl (fun n c => 16 * n + hexDigitValue c) 0

theorem hexDigitValue_hexDigit (nibble : BitVec 4) :
    hexDigitValue (hexDigit nibble) = nibble.toNat := by
  revert nibble
  decide

theorem hexDigit_mem (nibble : BitVec 4) :
    hexDigit nibble ∈ ascii "0123456789abcdef" := by
  revert nibble
  decide

theorem hexText_length (digits n : Nat) : (hexText digits n).length = digits := by
  induction digits generalizing n with
  | zero => rfl
  | succ digits ih => rw [hexText, List.length_append, ih, List.length_singleton]

theorem mem_of_mem_hexText {digits n : Nat} {c : BitVec 8} (member : c ∈ hexText digits n) :
    c ∈ ascii "0123456789abcdef" := by
  induction digits generalizing n with
  | zero => contradiction
  | succ digits ih =>
      rw [hexText, List.mem_append, List.mem_singleton] at member
      rcases member with earlier | rfl
      · exact ih earlier
      · exact hexDigit_mem _

theorem readHex_append_singleton (digits : List (BitVec 8)) (c : BitVec 8) :
    readHex (digits ++ [c]) = 16 * readHex digits + hexDigitValue c := by
  rw [readHex, List.foldl_append]
  rfl

/-- Reading back gives what fits in the digits. -/
theorem readHex_hexText (digits n : Nat) : readHex (hexText digits n) = n % 16 ^ digits := by
  induction digits generalizing n with
  | zero =>
      rw [Nat.pow_zero, Nat.mod_one]
      rfl
  | succ digits ih =>
      calc
        readHex (hexText (digits + 1) n)
        _ = 16 * readHex (hexText digits (n / 16)) + n % 16 := by
            rw [hexText, readHex_append_singleton, hexDigitValue_hexDigit, BitVec.toNat_ofNat]
        _ = 16 * (n / 16 % 16 ^ digits) + n % 16 := by rw [ih]
        _ = n % 16 ^ (digits + 1) := by
            rw [Nat.pow_succ', Nat.mod_mul, Nat.add_comm]

/-- The digits one by one. -/
theorem hexText_eq_map (digits n : Nat) :
    hexText digits n = (List.range digits).map fun k =>
      hexDigit (BitVec.ofNat 4 (n / 16 ^ (digits - 1 - k))) := by
  induction digits generalizing n with
  | zero => rfl
  | succ digits ih =>
      rw [hexText, ih, List.range_succ, List.map_append]
      congr 1
      · apply List.map_congr_left
        intro k member
        have below : k < digits := List.mem_range.mp member
        have exponent : digits + 1 - 1 - k = (digits - 1 - k) + 1 := by omega
        rw [exponent, Nat.pow_succ', Nat.div_div_eq_div_mul]
      · simp

theorem hex16_eq_hexText (value : BitVec 64) : hex16 value = hexText 16 value.toNat := by
  rw [hex16, hexText_eq_map]
  apply List.map_congr_left
  intro k _
  congr 1
  apply BitVec.eq_of_toNat_eq
  rw [BitVec.extractLsb'_toNat, BitVec.toNat_ofNat, Nat.shiftRight_eq_div_pow, Nat.pow_mul]

/-- `%016lx` prints sixteen digits. -/
theorem hex16_length (value : BitVec 64) : (hex16 value).length = 16 := by
  rw [hex16_eq_hexText, hexText_length]

theorem nul_not_mem_hex16 (value : BitVec 64) : 0 ∉ hex16 value := by
  rw [hex16_eq_hexText]
  intro member
  have digit : (0 : BitVec 8) ∈ ascii "0123456789abcdef" := mem_of_mem_hexText member
  revert digit
  decide

/-- What `%016lx` prints can be read back. -/
theorem readHex_hex16 (value : BitVec 64) : readHex (hex16 value) = value.toNat := by
  rw [hex16_eq_hexText, readHex_hexText]
  exact Nat.mod_eq_of_lt value.isLt

theorem hex16_injective : Function.Injective hex16 := by
  intro one other same
  apply BitVec.eq_of_toNat_eq
  rw [← readHex_hex16 one, same, readHex_hex16 other]

end SysTweak.Bytes
