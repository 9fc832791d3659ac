import Mathlib.Data.List.DropRight
import SysTweak.Bytes.CString

/-!
# The string functions of the INI parser

The static functions of `ini.c`, and what `isspace` and `strchr` do for them.  A
pointer into a string is the number of bytes before it.
-/

namespace SysTweak.Ini

open SysTweak.Bytes

/-- `isspace` in the C locale. -/
def isspace (c : BitVec 8) : Bool :=
  c = 0x20 || (0x09 ≤ c && c ≤ 0x0d)

/-- `strchr(chars, c) != NULL`; the NUL of `chars` counts. -/
def strchr (chars : List (BitVec 8)) (c : BitVec 8) : Bool :=
  c ∈ chars || c = 0

/-- `INI_START_COMMENT_PREFIXES`. -/
def startCommentPrefixes : List (BitVec 8) :=
  ascii ";#"

/-- `INI_INLINE_COMMENT_PREFIXES`. -/
def inlineCommentPrefixes : List (BitVec 8) :=
  ascii ";"

/-- The string with a NUL stored at index `n`. -/
def cut (s : CString) (n : Nat) : CString where
  bytes := s.bytes.take n
  noNul member := s.noNul (List.mem_of_mem_take member)

/-- The string from index `n` on. -/
def advance (s : CString) (n : Nat) : CString where
  bytes := s.bytes.drop n
  noNul member := s.noNul (List.mem_of_mem_drop member)

/-- `rstrip`. -/
def rstrip (s : CString) : CString where
  bytes := s.bytes.rdropWhile isspace
  noNul member := s.noNul ((List.rdropWhile_prefix isspace _).subset member)

/-- `lskip`. -/
def lskip (s : CString) : CString where
  bytes := s.bytes.dropWhile isspace
  noNul member := s.noNul ((List.dropWhile_suffix isspace).subset member)

/-- The loop of `find_chars_or_comment`; without `chars` the list is empty. -/
def findCharsOrCommentFrom (chars : List (BitVec 8)) (wasSpace : Bool) :
    List (BitVec 8) → Nat
  | [] => 0
  | c :: rest =>
      if c ∈ chars ∨ (wasSpace = true ∧ c ∈ inlineCommentPrefixes) then 0
      else findCharsOrCommentFrom chars (isspace c) rest + 1

/-- `find_chars_or_comment`. -/
def findCharsOrComment (s : CString) (chars : List (BitVec 8)) : Nat :=
  findCharsOrCommentFrom chars false s.bytes

/-- `strncpy0`. -/
def strncpy0 (s : CString) (size : Nat) : CString :=
  cut s (size - 1)

theorem cut_length_le (s : CString) (n : Nat) : (cut s n).bytes.length ≤ s.bytes.length :=
  List.length_take_le' n s.bytes

theorem advance_length_le (s : CString) (n : Nat) :
    (advance s n).bytes.length ≤ s.bytes.length :=
  (List.drop_sublist n s.bytes).length_le

theorem rstrip_length_le (s : CString) : (rstrip s).bytes.length ≤ s.bytes.length :=
  (List.rdropWhile_prefix isspace s.bytes).length_le

theorem lskip_length_le (s : CString) : (lskip s).bytes.length ≤ s.bytes.length :=
  (List.dropWhile_suffix isspace).length_le

/-- Stripping stops at the last character that is no whitespace. -/
theorem rdropWhile_append_cons {c : BitVec 8} (kept : isspace c = false)
    (front back : List (BitVec 8)) :
    (front ++ c :: back).rdropWhile isspace = front ++ c :: back.rdropWhile isspace := by
  induction back using List.reverseRecOn with
  | nil =>
      have last : ¬isspace c = true := by simp [kept]
      exact List.rdropWhile_concat_neg _ _ _ last
  | append_singleton back last ih =>
      have assoc : front ++ c :: (back ++ [last]) = (front ++ c :: back) ++ [last] := by simp
      rw [assoc]
      by_cases space : isspace last = true
      · rw [List.rdropWhile_concat_pos _ _ _ space, List.rdropWhile_concat_pos _ _ _ space, ih]
      · rw [List.rdropWhile_concat_neg _ _ _ space, List.rdropWhile_concat_neg _ _ _ space,
          assoc]

/-- Nothing is stripped that does not end in whitespace. -/
theorem rdropWhile_of_getLast? {bytes : List (BitVec 8)}
    (kept : ∀ c, bytes.getLast? = some c → isspace c = false) :
    bytes.rdropWhile isspace = bytes := by
  rw [List.rdropWhile_eq_self_iff]
  intro nonempty space
  rw [kept _ (List.getLast?_eq_some_getLast nonempty)] at space
  contradiction

/-- Nothing is skipped that does not begin with whitespace. -/
theorem dropWhile_of_head? {bytes : List (BitVec 8)}
    (kept : ∀ c, bytes.head? = some c → isspace c = false) :
    bytes.dropWhile isspace = bytes := by
  cases bytes with
  | nil => rfl
  | cons c bytes =>
      have first : ¬isspace c = true := by simp [kept c rfl]
      exact List.dropWhile_cons_of_neg first

/-- The first separator is found behind a word without whitespace. -/
theorem findCharsOrCommentFrom_word {chars word : List (BitVec 8)}
    (plain : ∀ c ∈ word, c ∉ chars ∧ isspace c = false) {c : BitVec 8} (found : c ∈ chars)
    (rest : List (BitVec 8)) :
    findCharsOrCommentFrom chars false (word ++ c :: rest) = word.length := by
  induction word with
  | nil => exact if_pos (Or.inl found)
  | cons first word ih =>
      rcases plain first List.mem_cons_self with ⟨other, noSpace⟩
      have later := ih fun c member => plain c (List.mem_cons_of_mem first member)
      rw [List.cons_append, findCharsOrCommentFrom, noSpace, later]
      exact if_neg (by simp [other])

/-- Without a semicolon there is no inline comment. -/
theorem findCharsOrCommentFrom_noComment {bytes : List (BitVec 8)}
    (noComment : char ';' ∉ bytes) (wasSpace : Bool) :
    findCharsOrCommentFrom [] wasSpace bytes = bytes.length := by
  induction bytes generalizing wasSpace with
  | nil => rfl
  | cons c bytes ih =>
      have other : c ∉ inlineCommentPrefixes := by
        intro member
        exact List.ne_of_not_mem_cons noComment (List.mem_singleton.mp member).symm
      rw [findCharsOrCommentFrom, if_neg (by simp [other]),
        ih (List.not_mem_of_not_mem_cons noComment)]
      rfl

end SysTweak.Ini
