import SysTweak.Bytes.Reading
import SysTweak.Ini.Parser

/-!
# Lines of keys

What the parser makes of the lines of a file: of a key with its value, of the pieces a
long line is read in, and of blank lines.
-/

namespace SysTweak.Ini

open SysTweak.Bytes

theorem ext_bytes {one other : CString} (same : one.bytes = other.bytes) : one = other := by
  cases one
  cases other
  cases same
  rfl

theorem ofBytes_bytes (line : CString) : CString.ofBytes line.bytes = line := by
  apply ext_bytes
  rw [CString.ofBytes, List.takeWhile_eq_self_iff]
  intro c member
  rw [bne_iff_ne]
  rintro rfl
  exact line.noNul member

/-! ## One line -/

theorem pairValue_length_le (rest : CString) :
    (pairValue rest).bytes.length ≤ rest.bytes.length :=
  calc
    (pairValue rest).bytes.length
    _ ≤ (lskip (cut rest (findCharsOrComment rest []))).bytes.length := rstrip_length_le _
    _ ≤ (cut rest (findCharsOrComment rest [])).bytes.length := lskip_length_le _
    _ ≤ rest.bytes.length := cut_length_le _ _

/-- A value is no longer than its line. -/
theorem lineAction_value_length_le {lineno : Nat} {prevName line prevName' name value : CString}
    (delivered : lineAction lineno prevName line = .deliver prevName' name value) :
    value.bytes.length ≤ line.bytes.length := by
  have start : (lskip (rstrip (advance line (bomLength lineno line)))).bytes.length ≤
      line.bytes.length :=
    calc
      (lskip (rstrip (advance line (bomLength lineno line)))).bytes.length
      _ ≤ (rstrip (advance line (bomLength lineno line))).bytes.length := lskip_length_le _
      _ ≤ (advance line (bomLength lineno line)).bytes.length := rstrip_length_le _
      _ ≤ line.bytes.length := advance_length_le _ _
  simp only [lineAction] at delivered
  split_ifs at delivered
  · cases delivered
    exact start
  · cases delivered
    exact Nat.le_trans (pairValue_length_le _) (Nat.le_trans (advance_length_le _ _) start)

theorem bomLength_of_ne {line : CString} (plain : line.byteAt 0 ≠ 0xef) (lineno : Nat) :
    bomLength lineno line = 0 := by
  apply if_neg
  rintro ⟨_, mark, _⟩
  exact plain mark

/-- A line of nothing but a newline is skipped. -/
theorem lineAction_newline (lineno : Nat) (prevName : CString) :
    lineAction lineno prevName (.ofBytes [newline]) = .skip := by
  rw [lineAction, bomLength_of_ne (by decide)]
  rfl

/-- The characters of a key that cannot be taken for anything else. -/
def PlainKey (key : CString) : Prop :=
  key.bytes ≠ [] ∧
    ∀ c ∈ key.bytes, isspace c = false ∧ c ∉ ascii ";#[=:" ∧ c ≠ 0xef

instance (key : CString) : Decidable (PlainKey key) :=
  inferInstanceAs (Decidable (_ ∧ _))

/-- A key, an equals sign and what follows. -/
def pairLine (key rest : CString) : CString where
  bytes := key.bytes ++ char '=' :: rest.bytes
  noNul := by
    rw [List.mem_append, List.mem_cons]
    rintro (inKey | sign | inRest)
    · exact key.noNul inKey
    · revert sign
      decide
    · exact rest.noNul inRest

theorem pairLine_bytes (key rest : CString) :
    (pairLine key rest).bytes = key.bytes ++ char '=' :: rest.bytes :=
  rfl

theorem rstrip_pairLine (key rest : CString) :
    rstrip (pairLine key rest) = pairLine key (rstrip rest) := by
  apply ext_bytes
  exact rdropWhile_append_cons (by decide) key.bytes rest.bytes

theorem PlainKey.rstrip_eq {key : CString} (plain : PlainKey key) : rstrip key = key := by
  apply ext_bytes
  apply rdropWhile_of_getLast?
  intro c last
  exact (plain.2 c (List.mem_of_getLast? last)).1

theorem PlainKey.lskip_pairLine {key : CString} (plain : PlainKey key) (rest : CString) :
    lskip (pairLine key rest) = pairLine key rest := by
  apply ext_bytes
  apply dropWhile_of_head?
  intro c first
  rcases List.exists_cons_of_ne_nil plain.1 with ⟨c', tail, split⟩
  rw [pairLine_bytes, split] at first
  cases first
  exact (plain.2 c (by rw [split]; exact List.mem_cons_self)).1

theorem cut_pairLine (key rest : CString) :
    cut (pairLine key rest) key.bytes.length = key :=
  ext_bytes List.take_left

theorem advance_pairLine (key rest : CString) :
    advance (pairLine key rest) (key.bytes.length + 1) = rest := by
  apply ext_bytes
  change (key.bytes ++ char '=' :: rest.bytes).drop (key.bytes.length + 1) = rest.bytes
  rw [← List.drop_drop, List.drop_left]
  rfl

theorem byteAt_pairLine (key rest : CString) :
    (pairLine key rest).byteAt key.bytes.length = char '=' := by
  simp [CString.byteAt, pairLine]

/-- A pair is delivered under its key. -/
theorem lineAction_pairLine {key : CString} (plain : PlainKey key) (rest : CString)
    (lineno : Nat) (prevName : CString) :
    lineAction lineno prevName (pairLine key rest) =
      .deliver (strncpy0 key maxName) key (pairValue (rstrip rest)) := by
  rcases List.exists_cons_of_ne_nil plain.1 with ⟨c, tail, split⟩
  have first : ∀ rest, (pairLine key rest).byteAt 0 = c := by
    intro rest
    rw [CString.byteAt, pairLine_bytes, split]
    rfl
  have member : c ∈ key.bytes := by
    rw [split]
    exact List.mem_cons_self
  rcases plain.2 c member with ⟨_, special, noMark⟩
  have noNul : c ≠ 0 := ne_of_mem_of_not_mem member key.noNul
  have noComment : strchr startCommentPrefixes c = false := by
    have prefixes : startCommentPrefixes ⊆ ascii ";#[=:" := by decide
    have other : c ∉ startCommentPrefixes := fun found => special (prefixes found)
    rw [strchr, Bool.or_eq_false_iff]
    exact ⟨decide_eq_false other, decide_eq_false noNul⟩
  have noSection : c ≠ char '[' := by
    rintro rfl
    exact special (by decide)
  have separators : ∀ c ∈ key.bytes, c ∉ ascii "=:" ∧ isspace c = false := by
    intro c member
    rcases plain.2 c member with ⟨noSpace, special, _⟩
    have signs : ascii "=:" ⊆ ascii ";#[=:" := by decide
    exact ⟨fun found => special (signs found), noSpace⟩
  have stop : findCharsOrComment (pairLine key (rstrip rest)) (ascii "=:") =
      key.bytes.length :=
    findCharsOrCommentFrom_word separators (by decide) _
  have noBom : bomLength lineno (pairLine key rest) = 0 :=
    bomLength_of_ne (by rw [first]; exact noMark) lineno
  have whole : advance (pairLine key rest) 0 = pairLine key rest := rfl
  simp only [lineAction, noBom, whole, rstrip_pairLine, plain.lskip_pairLine, first,
    noComment, noSection, stop, byteAt_pairLine, cut_pairLine, advance_pairLine,
    plain.rstrip_eq, Nat.sub_self, Nat.lt_irrefl, and_false, Bool.false_eq_true, if_false,
    true_or, if_true]
  exact if_pos noNul

/-! ## The value of a line -/

/-- A value that a line can give: it has a first character, no semicolon, and no
whitespace around it. -/
structure PlainValue (value : CString) : Prop where
  nonempty : value.bytes ≠ []
  noNewline : newline ∉ value.bytes
  noSemicolon : char ';' ∉ value.bytes
  head : ∀ c, value.bytes.head? = some c → isspace c = false
  last : ∀ c, value.bytes.getLast? = some c → isspace c = false

theorem PlainValue.pairValue_eq {value : CString} (plain : PlainValue value) :
    pairValue value = value := by
  apply ext_bytes
  have whole : findCharsOrComment value [] = value.bytes.length :=
    findCharsOrCommentFrom_noComment plain.noSemicolon false
  rw [pairValue, whole]
  change ((value.bytes.take value.bytes.length).dropWhile isspace).rdropWhile isspace =
    value.bytes
  rw [List.take_length, dropWhile_of_head? plain.head, rdropWhile_of_getLast? plain.last]

theorem PlainValue.rstrip_eq {value : CString} (plain : PlainValue value) :
    rstrip value = value :=
  ext_bytes (rdropWhile_of_getLast? plain.last)

/-- A value with the newline after it. -/
def endLine (value : CString) : CString where
  bytes := value.bytes ++ [newline]
  noNul := by
    rw [List.mem_append, List.mem_singleton]
    rintro (inValue | ending)
    · exact value.noNul inValue
    · revert ending
      decide

theorem PlainValue.rstrip_endLine {value : CString} (plain : PlainValue value) :
    rstrip (endLine value) = value := by
  apply ext_bytes
  have space : isspace newline = true := by decide
  calc
    (value.bytes ++ [newline]).rdropWhile isspace
    _ = value.bytes.rdropWhile isspace := List.rdropWhile_concat_pos _ _ _ space
    _ = value.bytes := rdropWhile_of_getLast? plain.last

/-! ## The lines that a key and its value are read in -/

/-- A line of a file that gives a value to a key. -/
def keyLine (key value : CString) : List (BitVec 8) :=
  (pairLine key value).bytes ++ [newline]

theorem newline_not_mem_pairLine {key value : CString} (plainKey : PlainKey key)
    (plainValue : PlainValue value) : newline ∉ (pairLine key value).bytes := by
  rw [pairLine_bytes, List.mem_append, List.mem_cons]
  rintro (inKey | sign | inValue)
  · have noSpace := (plainKey.2 newline inKey).1
    revert noSpace
    decide
  · revert sign
    decide
  · exact plainValue.noNewline inValue

theorem pairLine_length (key value : CString) :
    (pairLine key value).bytes.length = key.bytes.length + 1 + value.bytes.length := by
  rw [pairLine_bytes, List.length_append, List.length_cons]
  omega

/-- A buffer full of the line is the key and a part of the value. -/
theorem take_pairLine (key value : CString) (k : Nat) :
    (pairLine key value).bytes.take (key.bytes.length + (k + 1)) =
      (pairLine key (cut value k)).bytes := by
  rw [pairLine_bytes, List.take_length_add_append, List.take_succ_cons]
  rfl

/-- The first line read begins with the key and gives the value if it fits; the rest of
the value follows in pieces. -/
structure ReadAs (key value : CString) (lines : List (List (BitVec 8))) (rest : CString)
    (pieces : List (List (BitVec 8))) : Prop where
  lines_eq : lines = (pairLine key rest).bytes :: pieces
  rest_le : key.bytes.length + 1 + rest.bytes.length < maxLine
  pieces_le : ∀ piece ∈ pieces,
    piece.length + maxLine ≤ key.bytes.length + value.bytes.length + 3
  value_eq : key.bytes.length + 1 + value.bytes.length < maxLine →
    pairValue (rstrip rest) = value ∧ ∀ piece ∈ pieces, piece = [newline]

theorem readLines_keyLine {key value : CString} (plainKey : PlainKey key)
    (plainValue : PlainValue value) (short : key.bytes.length + 2 < maxLine) :
    ∃ rest pieces, ReadAs key value (readLines maxLine (keyLine key value)) rest pieces := by
  have oneLine := newline_not_mem_pairLine plainKey plainValue
  have length := pairLine_length key value
  rcases List.exists_cons_of_ne_nil plainKey.1 with ⟨c, tail, split⟩
  have first : readLines maxLine (keyLine key value) =
      (takeLine (maxLine - 1) (keyLine key value)).1 ::
        readLines maxLine (takeLine (maxLine - 1) (keyLine key value)).2 := by
    rw [keyLine, pairLine_bytes, split]
    exact readLines_cons (by decide) c _
  by_cases fits : (pairLine key value).bytes.length < maxLine - 1
  · refine ⟨endLine value, [], ?_, ?_, ?_, ?_⟩
    · rw [first, keyLine, takeLine_of_short oneLine fits, readLines_nil, pairLine_bytes,
        pairLine_bytes, List.append_assoc]
      rfl
    · change _ + (value.bytes ++ [newline]).length < _
      rw [List.length_append, List.length_singleton]
      omega
    · intro piece member
      contradiction
    · intro _
      rw [plainValue.rstrip_endLine, plainValue.pairValue_eq]
      exact ⟨rfl, fun piece member => by contradiction⟩
  · have long : maxLine - 1 ≤ (pairLine key value).bytes.length := Nat.not_lt.mp fits
    have room : maxLine - 1 = key.bytes.length + (maxLine - 2 - key.bytes.length + 1) := by
      omega
    refine ⟨cut value (maxLine - 2 - key.bytes.length),
      readLines maxLine ((pairLine key value).bytes.drop (maxLine - 1) ++ [newline]), ?_, ?_,
      ?_, ?_⟩
    · rw [first, keyLine, takeLine_of_long oneLine long, ← take_pairLine, ← room]
    · have part : (cut value (maxLine - 2 - key.bytes.length)).bytes.length ≤
          maxLine - 2 - key.bytes.length := List.length_take_le _ _
      omega
    · intro piece member
      have bound := length_le_of_mem_readLines (by decide) member
      rw [List.length_append, List.length_drop, List.length_singleton] at bound
      omega
    · intro whole
      have all : cut value (maxLine - 2 - key.bytes.length) = value :=
        ext_bytes (List.take_of_length_le (by omega))
      have nothing : (pairLine key value).bytes.drop (maxLine - 1) = [] :=
        List.drop_eq_nil_of_le (by omega)
      rw [all, nothing, plainValue.rstrip_eq, plainValue.pairValue_eq]
      exact ⟨rfl, fun piece member => List.mem_singleton.mp member⟩

end SysTweak.Ini
