import Mathlib.Data.List.GetD
import SysTweak.Ini.KeyLine

/-!
# Line ends

Editors end lines with a newline, or with a carriage return and a newline.  The parser
strips what whitespace stands at the end of a line, so it reads a file alike either way,
as long as the lines fit its buffer.
-/

namespace SysTweak.Ini

open SysTweak.Bytes

/-- `'\r'`. -/
def carriageReturn : BitVec 8 :=
  0x0d

/-- A text with a carriage return before each newline. -/
def withCarriageReturns (text : List (BitVec 8)) : List (BitVec 8) :=
  text.flatMap fun c => if c = newline then [carriageReturn, newline] else [c]

/-! ## One line -/

/-- Whitespace at the end hides no visible character. -/
theorem getD_append_spaces {body spaces : List (BitVec 8)}
    (spaced : ∀ c ∈ spaces, isspace c = true) {mark : BitVec 8} (visible : isspace mark = false)
    (nonzero : mark ≠ 0) (i : Nat) :
    (body ++ spaces).getD i 0 = mark ↔ body.getD i 0 = mark := by
  rcases Nat.lt_or_ge i body.length with inside | behind
  · rw [List.getD_append _ _ _ _ inside]
  · have none : body.getD i 0 = 0 := List.getD_eq_default _ _ behind
    rw [List.getD_append_right _ _ _ _ behind, none]
    constructor
    · intro found
      rcases Nat.lt_or_ge (i - body.length) spaces.length with within | beyond
      · rw [List.getD_eq_getElem _ _ within] at found
        have space := spaced _ (List.getElem_mem within)
        rw [found, visible] at space
        contradiction
      · rw [List.getD_eq_default _ _ beyond] at found
        exact absurd found.symm nonzero
    · intro found
      exact absurd found.symm nonzero

theorem bomLength_of_spaces {line text : CString} {spaces : List (BitVec 8)}
    (ends : line.bytes = text.bytes ++ spaces) (spaced : ∀ c ∈ spaces, isspace c = true)
    (lineno : Nat) : bomLength lineno line = bomLength lineno text := by
  have same : ∀ (mark : BitVec 8) (i : Nat), isspace mark = false → mark ≠ 0 →
      (line.byteAt i = mark ↔ text.byteAt i = mark) := by
    intro mark i visible nonzero
    rw [CString.byteAt, CString.byteAt, ends]
    exact getD_append_spaces spaced visible nonzero i
  simp only [bomLength, same 0xef 0 (by decide) (by decide), same 0xbb 1 (by decide) (by decide),
    same 0xbf 2 (by decide) (by decide)]

theorem rdropWhile_append_spaces {spaces : List (BitVec 8)}
    (spaced : ∀ c ∈ spaces, isspace c = true) (body : List (BitVec 8)) :
    (body ++ spaces).rdropWhile isspace = body.rdropWhile isspace := by
  induction spaces using List.reverseRecOn with
  | nil => rw [List.append_nil]
  | append_singleton spaces last ih =>
      have space := spaced last (List.mem_append_right _ (List.mem_singleton_self last))
      rw [← List.append_assoc, List.rdropWhile_concat_pos _ _ _ space]
      exact ih fun c member => spaced c (List.mem_append_left _ member)

/-- The byte order mark lies within the line. -/
theorem bomLength_le (lineno : Nat) (line : CString) :
    bomLength lineno line ≤ line.bytes.length := by
  unfold bomLength
  split
  · rename_i mark
    apply Nat.le_of_not_lt
    intro short
    have none : line.byteAt 2 = 0 := List.getD_eq_default _ _ (Nat.le_of_lt_succ short)
    rw [none] at mark
    exact absurd mark.2.2.2 (by decide)
  · exact Nat.zero_le _

/-- What is done with a line does not depend on the whitespace at its end. -/
theorem lineAction_of_spaces {line text : CString} {spaces : List (BitVec 8)}
    (ends : line.bytes = text.bytes ++ spaces) (spaced : ∀ c ∈ spaces, isspace c = true)
    (lineno : Nat) (prevName : CString) :
    lineAction lineno prevName line = lineAction lineno prevName text := by
  have bom := bomLength_of_spaces ends spaced lineno
  have stripped : rstrip (advance line (bomLength lineno text)) =
      rstrip (advance text (bomLength lineno text)) := by
    apply ext_bytes
    change (line.bytes.drop _).rdropWhile isspace = (text.bytes.drop _).rdropWhile isspace
    rw [ends, List.drop_append_of_le_length (bomLength_le lineno text),
      rdropWhile_append_spaces spaced]
  simp only [lineAction, bom, stripped]

/-- A NUL hides what follows. -/
theorem ofBytes_append_of_mem {body : List (BitVec 8)} (nul : 0 ∈ body)
    (rest : List (BitVec 8)) : CString.ofBytes (body ++ rest) = CString.ofBytes body := by
  apply ext_bytes
  induction body with
  | nil => contradiction
  | cons c body ih =>
      by_cases zero : c = 0
      · rw [zero, List.cons_append, CString.ofBytes_nul, CString.ofBytes_nul]
      · rw [List.cons_append, CString.ofBytes_cons zero, CString.ofBytes_cons zero,
          ih (List.mem_of_ne_of_mem (Ne.symm zero) nul)]

/-- A line is read alike whatever whitespace ends it. -/
theorem parseLine_append_spaces {υ : Type*} (handler : υ → CString → CString → CString → υ × Int)
    {spaces : List (BitVec 8)} (spaced : ∀ c ∈ spaces, isspace c = true) (state : Parsing υ)
    (body : List (BitVec 8)) :
    parseLine handler state (body ++ spaces) = parseLine handler state body := by
  by_cases nul : 0 ∈ body
  · rw [parseLine, parseLine, ofBytes_append_of_mem nul]
  · have noNul : 0 ∉ spaces := by
      intro member
      have space := spaced 0 member
      revert space
      decide
    have noNul' : 0 ∉ body ++ spaces := by
      rw [List.mem_append, not_or]
      exact ⟨nul, noNul⟩
    have action : lineAction (state.lineno + 1) state.prevName ⟨body ++ spaces, noNul'⟩ =
        lineAction (state.lineno + 1) state.prevName ⟨body, nul⟩ :=
      lineAction_of_spaces rfl spaced _ _
    have whole : CString.ofBytes (body ++ spaces) = ⟨body ++ spaces, noNul'⟩ :=
      ofBytes_bytes ⟨body ++ spaces, noNul'⟩
    have part : CString.ofBytes body = ⟨body, nul⟩ := ofBytes_bytes ⟨body, nul⟩
    rw [parseLine, parseLine, whole, part]
    exact congrArg (LineAction.run handler · _) action

/-! ## The lines of a text -/

/-- How a call of `fgets` ends: with a newline, with a full buffer, or with the text. -/
theorem takeLine_cases (room : Nat) (stream : List (BitVec 8)) :
    (∃ body, newline ∉ body ∧ (takeLine room stream).1 = body ++ [newline]) ∨
      newline ∉ (takeLine room stream).1 ∧
        ((takeLine room stream).1.length = room ∨ (takeLine room stream).2 = []) := by
  induction room generalizing stream with
  | zero => exact Or.inr ⟨List.not_mem_nil, Or.inl rfl⟩
  | succ room ih =>
      cases stream with
      | nil => exact Or.inr ⟨List.not_mem_nil, Or.inr rfl⟩
      | cons c stream =>
          rw [takeLine]
          split
          · rename_i last
            rw [last]
            exact Or.inl ⟨[], List.not_mem_nil, rfl⟩
          · rename_i other
            rcases ih stream with ⟨body, noNewline, line⟩ | ⟨noNewline, ends⟩
            · refine Or.inl ⟨c :: body, ?_, congrArg (c :: ·) line⟩
              exact List.not_mem_cons_of_ne_of_not_mem (Ne.symm other) noNewline
            · refine Or.inr ⟨List.not_mem_cons_of_ne_of_not_mem (Ne.symm other) noNewline, ?_⟩
              exact ends.imp (congrArg (· + 1)) id

theorem withCarriageReturns_append (text rest : List (BitVec 8)) :
    withCarriageReturns (text ++ rest) =
      withCarriageReturns text ++ withCarriageReturns rest :=
  List.flatMap_append

theorem withCarriageReturns_of_not_mem {text : List (BitVec 8)} (oneLine : newline ∉ text) :
    withCarriageReturns text = text := by
  induction text with
  | nil => rfl
  | cons c text ih =>
      have other : c ≠ newline := Ne.symm (List.ne_of_not_mem_cons oneLine)
      rw [withCarriageReturns, List.flatMap_cons, if_neg other]
      exact congrArg (c :: ·) (ih (List.not_mem_of_not_mem_cons oneLine))

/-- A file is parsed alike whether its lines end with a newline or with a carriage return
and a newline, as long as its lines leave room for the carriage return. -/
theorem line_ends_do_not_matter {υ : Type*}
    (handler : υ → CString → CString → CString → υ × Int) (user : υ) {text : List (BitVec 8)}
    (short : ∀ line ∈ readLines maxLine text, line.length + 1 < maxLine) :
    iniParse handler user (some (withCarriageReturns text)) =
      iniParse handler user (some text) := by
  have several : 1 < maxLine := by decide
  have parsed : ∀ state : Parsing υ,
      (readLines maxLine (withCarriageReturns text)).foldl (parseLine handler) state =
        (readLines maxLine text).foldl (parseLine handler) state := by
    induction text using readLines_induction several with
    | nil => exact fun _ => rfl
    | cons c stream ih =>
        intro state
        have whole := takeLine_append (maxLine - 1) (c :: stream)
        rw [readLines_cons several] at short ⊢
        have first := short _ List.mem_cons_self
        have later := ih fun line member => short line (List.mem_cons_of_mem _ member)
        rcases takeLine_cases (maxLine - 1) (c :: stream) with
          ⟨body, noNewline, line⟩ | ⟨noNewline, full | ended⟩
        · rw [line] at whole first ⊢
          have room : (body ++ [carriageReturn]).length + 1 < maxLine := by
            rw [List.length_append] at first ⊢
            exact first
          have noNewline' : newline ∉ body ++ [carriageReturn] := by
            rw [List.mem_append, List.mem_singleton, not_or]
            exact ⟨noNewline, by decide⟩
          have ends : (body ++ [carriageReturn] ++ [newline]).getLast? = some newline :=
            List.getLast?_concat
          have text : withCarriageReturns (c :: stream) = body ++ [carriageReturn] ++ [newline] ++
              withCarriageReturns (takeLine (maxLine - 1) (c :: stream)).2 := by
            calc
              withCarriageReturns (c :: stream)
              _ = withCarriageReturns (body ++ [newline] ++
                  (takeLine (maxLine - 1) (c :: stream)).2) := by rw [whole]
              _ = body ++ [carriageReturn, newline] ++
                  withCarriageReturns (takeLine (maxLine - 1) (c :: stream)).2 := by
                rw [withCarriageReturns_append, withCarriageReturns_append,
                  withCarriageReturns_of_not_mem noNewline]
                rfl
              _ = _ := by simp
          have same : parseLine handler state (body ++ [carriageReturn] ++ [newline]) =
              parseLine handler state (body ++ [newline]) := by
            have two : body ++ [carriageReturn] ++ [newline] = body ++ [carriageReturn, newline] :=
              List.append_assoc _ _ _
            rw [two, parseLine_append_spaces handler (by decide),
              parseLine_append_spaces handler (by decide)]
          rw [text, readLines_append several (Or.inr ends), readLines_of_short noNewline' room,
            List.foldl_append, List.foldl_cons, List.foldl_cons, List.foldl_nil, same, later]
        · rw [full] at first
          contradiction
        · rw [ended, List.append_nil] at whole
          rw [whole] at noNewline
          rw [withCarriageReturns_of_not_mem noNewline, readLines_cons several]
  rw [iniParse, iniParse, iniParseStream, iniParseStream, parsed]

/-- A file with one override. -/
def overrideText : List (BitVec 8) :=
  ascii "[override_nacp]" ++ [newline] ++ ascii "name=One" ++ [newline]

theorem line_ends_of_overrideText_do_not_matter :
    iniParse (fun user _ _ value => (user ++ [value], 1)) ([] : List CString)
        (some (withCarriageReturns overrideText)) =
      iniParse (fun user _ _ value => (user ++ [value], 1)) ([] : List CString)
        (some overrideText) :=
  line_ends_do_not_matter _ [] (by decide)

end SysTweak.Ini
