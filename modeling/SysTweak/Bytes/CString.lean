import SysTweak.Bytes.Buffer

/-!
# C strings

The string functions of the C library, for strings that are lists of bytes other
than NUL.
-/

namespace SysTweak.Bytes

/-- The value of an ASCII character. -/
def char (c : Char) : BitVec 8 :=
  BitVec.ofNat 8 c.toNat

/-- The bytes of an ASCII string. -/
def ascii (text : String) : List (BitVec 8) :=
  text.toList.map char

/-- A NUL-terminated string; `bytes` is what comes before the NUL. -/
structure CString where
  bytes : List (BitVec 8)
  noNul : 0 ∉ bytes
  deriving DecidableEq

namespace CString

/-- The string a pointer to the given bytes stands for. -/
def ofBytes (bytes : List (BitVec 8)) : CString where
  bytes := bytes.takeWhile (· != 0)
  noNul member := by
    have nonzero := List.all_eq_true.mp List.all_takeWhile 0 member
    contradiction

/-- A string literal. -/
def lit (text : String) : CString :=
  ofBytes (ascii text)

/-- The byte with index `j`, zero past the end. -/
def byteAt (value : CString) (j : Nat) : BitVec 8 :=
  value.bytes.getD j 0

end CString

/-- `tolower` in the C locale. -/
def tolower (c : BitVec 8) : BitVec 8 :=
  if char 'A' ≤ c ∧ c ≤ char 'Z' then c + 0x20 else c

theorem tolower_ne_zero {c : BitVec 8} (nonzero : c ≠ 0) : tolower c ≠ 0 := by
  unfold tolower
  split
  · rename_i upper
    intro wrapped
    have low : 65 ≤ c.toNat := upper.1
    have high : c.toNat ≤ 90 := upper.2
    have wrapped := congrArg BitVec.toNat wrapped
    rw [BitVec.toNat_add] at wrapped
    simp at wrapped
    omega
  · exact nonzero

theorem tolower_toNat_ne_zero {c : BitVec 8} (nonzero : 0 ≠ c) : (tolower c).toNat ≠ 0 := by
  intro zero
  exact tolower_ne_zero (Ne.symm nonzero) (BitVec.eq_of_toNat_eq zero)

/-- The difference of the first bytes that differ up to case, for strings whose NUL
is not in the lists. -/
def compareBytes : List (BitVec 8) → List (BitVec 8) → Int
  | [], [] => 0
  | [], other :: _ => -(tolower other).toNat
  | one :: _, [] => (tolower one).toNat
  | one :: ones, other :: others =>
      if tolower one = tolower other then compareBytes ones others
      else (tolower one).toNat - (tolower other).toNat

/-- `strcasecmp`. -/
def strcasecmp (one other : CString) : Int :=
  compareBytes one.bytes other.bytes

/-- Two strings are the same up to case. -/
def SameIgnoringCase (one other : CString) : Prop :=
  one.bytes.map tolower = other.bytes.map tolower

instance (one other : CString) : Decidable (SameIgnoringCase one other) :=
  inferInstanceAs (Decidable (_ = _))

theorem compareBytes_eq_zero_iff {ones others : List (BitVec 8)} (noNul : 0 ∉ ones)
    (noNul' : 0 ∉ others) :
    compareBytes ones others = 0 ↔ ones.map tolower = others.map tolower := by
  induction ones generalizing others with
  | nil =>
      cases others with
      | nil => simp [compareBytes]
      | cons other others =>
          have nonzero := tolower_toNat_ne_zero (List.ne_of_not_mem_cons noNul')
          simp [compareBytes, nonzero]
  | cons one ones ih =>
      have nonzero := tolower_toNat_ne_zero (List.ne_of_not_mem_cons noNul)
      cases others with
      | nil => simp [compareBytes, nonzero]
      | cons other others =>
          have tails := ih (List.not_mem_of_not_mem_cons noNul)
            (List.not_mem_of_not_mem_cons noNul')
          by_cases same : tolower one = tolower other
          · simp [compareBytes, same, tails]
          · have different : (tolower one).toNat ≠ (tolower other).toNat :=
              fun equal => same (BitVec.eq_of_toNat_eq equal)
            simp [compareBytes, same]
            omega

theorem strcasecmp_eq_zero_iff (one other : CString) :
    strcasecmp one other = 0 ↔ SameIgnoringCase one other :=
  compareBytes_eq_zero_iff one.noNul other.noNul

/-- `strncpy(dest, value, n)`, where `dest` has `n` bytes: the string, cut off at
`n` bytes and padded with zeros. -/
def strncpy {size : Nat} (buf : Buffer size) (dest : Place size) (value : CString) :
    Buffer size :=
  buf.fill dest value.byteAt

/-- The string that begins at the start of a buffer. -/
def Buffer.toCString {size : Nat} (buf : Buffer size) : CString :=
  CString.ofBytes (List.ofFn buf)

/-- `snprintf(buf, limit, …)`, where `text` is what the format gives. -/
def snprintf {size : Nat} (buf : Buffer size) (limit : Nat) (fits : limit ≤ size)
    (text : List (BitVec 8)) : Buffer size :=
  if none : limit = 0 then buf
  else
    buf.fill ⟨0, min text.length (limit - 1) + 1, by omega⟩
      ((text.take (limit - 1)).getD · 0)

/-- A hexadecimal digit, in lower case. -/
def hexDigit (nibble : BitVec 4) : BitVec 8 :=
  if nibble.toNat < 10 then char '0' + nibble.setWidth 8
  else char 'a' + (nibble.setWidth 8 - 10)

/-- `%016lx`. -/
def hex16 (value : BitVec 64) : List (BitVec 8) :=
  (List.range 16).map fun k => hexDigit (value.extractLsb' (4 * (15 - k)) 4)

example : hex16 0x0100000000001000 = ascii "0100000000001000" := by decide

end SysTweak.Bytes
