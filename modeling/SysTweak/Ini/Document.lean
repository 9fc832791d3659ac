import SysTweak.Ini.KeyLine

/-!
# Documents

A document is a list of entries: sections, keys with their values, more values for the
last key, comments and blank lines.  Whatever document a program writes, the parser calls
its handler with the entries of the document, in order and each under its section.
-/

namespace SysTweak.Ini

open SysTweak.Bytes

/-- A string behind one more character. -/
def prepend (c : BitVec 8) (nonzero : 0 ≠ c) (s : CString) : CString where
  bytes := c :: s.bytes
  noNul := by
    rw [List.mem_cons, not_or]
    exact ⟨nonzero, s.noNul⟩

/-- The name of a section in its brackets. -/
def bracketed (sectionName : CString) : CString where
  bytes := char '[' :: (sectionName.bytes ++ [char ']'])
  noNul := by
    simp only [List.mem_cons, List.mem_append, List.not_mem_nil, or_false, not_or]
    exact ⟨by decide, sectionName.noNul, by decide⟩

/-- One line of a document. -/
inductive Entry
  | blank
  | comment (text : CString)
  | openSection (sectionName : CString)
  | pair (key value : CString)
  /-- One more value for the last key, on a line that begins with a space. -/
  | more (value : CString)
  deriving DecidableEq

namespace Entry

/-- The text of the line. -/
def text : Entry → CString
  | .blank => .ofBytes []
  | .comment text => prepend (char ';') (by decide) text
  | .openSection sectionName => bracketed sectionName
  | .pair key value => pairLine key value
  | .more value => prepend 0x20 (by decide) value

/-- An entry the parser cannot take for anything else; `keyed` is whether a key stands
before it in its section. -/
def Plain (keyed : Bool) : Entry → Prop
  | .blank => True
  | .comment text => newline ∉ text.bytes
  | .openSection sectionName =>
      sectionName.bytes.length < maxSection ∧
        ∀ c ∈ sectionName.bytes, c ≠ newline ∧ c ∉ ascii ";]"
  | .pair key value => PlainKey key ∧ (value.bytes = [] ∨ PlainValue value)
  | .more value =>
      keyed = true ∧ PlainValue value ∧
        ∀ c, value.bytes.head? = some c → c ∉ startCommentPrefixes

/-- Whether a key stands before the next entry. -/
def leavesKey (keyed : Bool) : Entry → Bool
  | .blank | .comment _ => keyed
  | .openSection _ => false
  | .pair _ _ | .more _ => true

/-- What the parser does with the line. -/
def action (prevName : CString) : Entry → LineAction
  | .blank | .comment _ => .skip
  | .openSection sectionName => .enter sectionName
  | .pair key value => .deliver (strncpy0 key maxName) key value
  | .more value => .deliver prevName prevName value

end Entry

/-- A document whose entries are plain and whose lines fit the parser's buffer. -/
def PlainDocument : Bool → List Entry → Prop
  | _, [] => True
  | keyed, entry :: document =>
      entry.Plain keyed ∧ entry.text.bytes.length + 1 < maxLine ∧
        PlainDocument (entry.leavesKey keyed) document

/-- The text of a document. -/
def documentText (document : List Entry) : List (BitVec 8) :=
  document.flatMap fun entry => entry.text.bytes ++ [newline]

/-! ## One entry -/

/-- The separator is found behind any word without it and without a semicolon. -/
theorem findCharsOrCommentFrom_separator {chars word : List (BitVec 8)}
    (plain : ∀ c ∈ word, c ∉ chars ∧ c ≠ char ';') {c : BitVec 8} (found : c ∈ chars)
    (rest : List (BitVec 8)) (wasSpace : Bool) :
    findCharsOrCommentFrom chars wasSpace (word ++ c :: rest) = word.length := by
  induction word generalizing wasSpace with
  | nil => exact if_pos (Or.inl found)
  | cons first word ih =>
      rcases plain first List.mem_cons_self with ⟨other, noSemicolon⟩
      have noComment : first ∉ inlineCommentPrefixes := by
        intro member
        exact noSemicolon (List.mem_singleton.mp member)
      have later := fun wasSpace => ih (fun c member => plain c (List.mem_cons_of_mem _ member))
        wasSpace
      rw [List.cons_append, findCharsOrCommentFrom, later, if_neg (by simp [other, noComment])]
      rfl

/-- The branches of the loop, by what is left of the line. -/
theorem lineAction_of_start {line stripped start : CString} (noMark : line.byteAt 0 ≠ 0xef)
    (strip : rstrip line = stripped) (skip : lskip stripped = start) (lineno : Nat)
    (prevName : CString) :
    lineAction lineno prevName line =
      if strchr startCommentPrefixes (start.byteAt 0) then .skip
      else if prevName.byteAt 0 ≠ 0 ∧ start.byteAt 0 ≠ 0 ∧
          0 < stripped.bytes.length - start.bytes.length then
        .deliver prevName prevName start
      else if start.byteAt 0 = char '[' then
        if (advance start 1).byteAt (findCharsOrComment (advance start 1) (ascii "]")) =
            char ']' then
          .enter (strncpy0 (cut (advance start 1)
            (findCharsOrComment (advance start 1) (ascii "]"))) maxSection)
        else .fail
      else if start.byteAt 0 ≠ 0 then
        if start.byteAt (findCharsOrComment start (ascii "=:")) = char '=' ∨
            start.byteAt (findCharsOrComment start (ascii "=:")) = char ':' then
          .deliver (strncpy0 (rstrip (cut start (findCharsOrComment start (ascii "=:")))) maxName)
            (rstrip (cut start (findCharsOrComment start (ascii "=:"))))
            (pairValue (advance start (findCharsOrComment start (ascii "=:") + 1)))
        else .fail
      else .skip := by
  have whole : advance line 0 = line := rfl
  simp only [lineAction, bomLength_of_ne noMark, whole, strip, skip, Nat.zero_add]

/-- Stripping a line whose text ends with a character that is no whitespace. -/
theorem rstrip_endLine {text : CString}
    (kept : ∀ c, text.bytes.getLast? = some c → isspace c = false) :
    rstrip (endLine text) = text := by
  apply ext_bytes
  have space : isspace newline = true := by decide
  calc
    (text.bytes ++ [newline]).rdropWhile isspace
    _ = text.bytes.rdropWhile isspace := List.rdropWhile_concat_pos _ _ _ space
    _ = text.bytes := rdropWhile_of_getLast? kept

/-- A comment is skipped. -/
theorem lineAction_comment (text : CString) (lineno : Nat) (prevName : CString) :
    lineAction lineno prevName (endLine (Entry.comment text).text) = .skip := by
  have kept : isspace (char ';') = false := by decide
  have stripped : (endLine (Entry.comment text).text).bytes.rdropWhile isspace =
      char ';' :: (text.bytes ++ [newline]).rdropWhile isspace :=
    rdropWhile_append_cons kept [] _
  have start : (lskip (rstrip (endLine (Entry.comment text).text))).byteAt 0 = char ';' := by
    change (((endLine (Entry.comment text).text).bytes.rdropWhile isspace).dropWhile
      isspace).getD 0 0 = char ';'
    rw [stripped, List.dropWhile_cons_of_neg (by simp [kept])]
    rfl
  have sign : strchr startCommentPrefixes (char ';') = true := by decide
  have noMark : (endLine (Entry.comment text).text).byteAt 0 ≠ 0xef := by
    change char ';' ≠ 0xef
    decide
  rw [lineAction_of_start noMark rfl rfl, start, if_pos sign]

/-- A section line enters its section. -/
theorem lineAction_bracketed {sectionName : CString}
    (short : sectionName.bytes.length < maxSection)
    (plain : ∀ c ∈ sectionName.bytes, c ∉ ascii ";]") (lineno : Nat) (prevName : CString) :
    lineAction lineno prevName (endLine (bracketed sectionName)) = .enter sectionName := by
  have strip : rstrip (endLine (bracketed sectionName)) = bracketed sectionName := by
    apply rstrip_endLine
    intro c last
    have ends : (char '[' :: sectionName.bytes ++ [char ']']).getLast? = some c := last
    rw [List.getLast?_concat] at ends
    cases ends
    decide
  have skip : lskip (bracketed sectionName) = bracketed sectionName := by
    apply ext_bytes
    apply dropWhile_of_head?
    intro c first
    cases first
    decide
  have stop : findCharsOrComment (advance (bracketed sectionName) 1) (ascii "]") =
      sectionName.bytes.length := by
    have separator : char ']' ∈ ascii "]" := by decide
    apply findCharsOrCommentFrom_separator _ separator
    intro c member
    have special := plain c member
    constructor
    · intro bracket
      have all : ascii "]" ⊆ ascii ";]" := by decide
      exact special (all bracket)
    · rintro rfl
      exact special (by decide)
  have bracket : (advance (bracketed sectionName) 1).byteAt sectionName.bytes.length =
      char ']' := by
    simp [CString.byteAt, advance, bracketed]
  have name : strncpy0 (cut (advance (bracketed sectionName) 1) sectionName.bytes.length)
      maxSection = sectionName := by
    apply ext_bytes
    change ((sectionName.bytes ++ [char ']']).take sectionName.bytes.length).take
      (maxSection - 1) = sectionName.bytes
    rw [List.take_left, List.take_of_length_le (Nat.le_sub_one_of_lt short)]
  have sign : (bracketed sectionName).byteAt 0 = char '[' := rfl
  have noMark : (endLine (bracketed sectionName)).byteAt 0 ≠ 0xef := by
    change char '[' ≠ 0xef
    decide
  have noComment : strchr startCommentPrefixes (char '[') = false := by decide
  rw [lineAction_of_start noMark strip skip]
  simp only [sign, noComment, Bool.false_eq_true, if_false, Nat.sub_self, Nat.lt_irrefl,
    and_false, if_true, stop, bracket, name]

/-- A line that begins with a space gives one more value to the last key. -/
theorem lineAction_more {value : CString} (plain : PlainValue value)
    (noComment : ∀ c, value.bytes.head? = some c → c ∉ startCommentPrefixes)
    {prevName : CString} (key : prevName.byteAt 0 ≠ 0) (lineno : Nat) :
    lineAction lineno prevName (endLine (Entry.more value).text) =
      .deliver prevName prevName value := by
  rcases List.exists_cons_of_ne_nil plain.nonempty with ⟨c, rest, split⟩
  have strip : rstrip (endLine (Entry.more value).text) = (Entry.more value).text := by
    apply rstrip_endLine
    intro c last
    have end' : (0x20 :: value.bytes).getLast? = value.bytes.getLast? := by
      rw [split]
      rfl
    exact plain.last c (end' ▸ last)
  have skip : lskip (Entry.more value).text = value := by
    apply ext_bytes
    have space : isspace 0x20 = true := by decide
    change (0x20 :: value.bytes).dropWhile isspace = value.bytes
    rw [List.dropWhile_cons_of_pos space, dropWhile_of_head? plain.head]
  have first : value.byteAt 0 = c := by
    rw [CString.byteAt, split]
    rfl
  have nonzero : c ≠ 0 := by
    rintro rfl
    exact value.noNul (by rw [split]; exact List.mem_cons_self)
  have noSign : strchr startCommentPrefixes c = false := by
    have other := noComment c (by rw [split]; rfl)
    rw [strchr, Bool.or_eq_false_iff]
    exact ⟨decide_eq_false other, decide_eq_false nonzero⟩
  have noMark : (endLine (Entry.more value).text).byteAt 0 ≠ 0xef := by
    change (0x20 : BitVec 8) ≠ 0xef
    decide
  have indented : 0 < (Entry.more value).text.bytes.length - value.bytes.length := by
    change 0 < value.bytes.length + 1 - value.bytes.length
    rw [Nat.add_sub_cancel_left]
    exact Nat.one_pos
  rw [lineAction_of_start noMark strip skip, first, if_neg (by simp [noSign]),
    if_pos ⟨key, nonzero, indented⟩]

/-- A key without a value. -/
theorem lineAction_pair {key value : CString} (plainKey : PlainKey key)
    (plainValue : value.bytes = [] ∨ PlainValue value) (lineno : Nat) (prevName : CString) :
    lineAction lineno prevName (endLine (pairLine key value)) =
      .deliver (strncpy0 key maxName) key value := by
  have text : endLine (pairLine key value) = pairLine key (endLine value) := by
    apply ext_bytes
    simp [pairLine_bytes, endLine]
  rw [text, lineAction_pairLine plainKey]
  rcases plainValue with empty | plainValue
  · have nothing : value = .ofBytes [] := ext_bytes empty
    rw [nothing]
    rfl
  · rw [plainValue.rstrip_endLine, plainValue.pairValue_eq]

namespace Entry

variable {keyed : Bool} {entry : Entry}

theorem newline_not_mem_text (plain : entry.Plain keyed) : newline ∉ entry.text.bytes := by
  have other : newline ≠ char ';' ∧ newline ≠ char '[' ∧ newline ≠ char ']' ∧
      newline ≠ 0x20 ∧ newline ≠ char '=' := by decide
  cases entry with
  | blank => exact List.not_mem_nil
  | comment text => exact List.not_mem_cons_of_ne_of_not_mem other.1 plain
  | openSection sectionName =>
      have inside : newline ∉ sectionName.bytes := fun member => (plain.2 newline member).1 rfl
      simpa [Entry.text, bracketed, other] using inside
  | pair key value =>
      rcases plain with ⟨plainKey, empty | plainValue⟩
      · have inKey : newline ∉ key.bytes := by
          intro member
          have noSpace := (plainKey.2 newline member).1
          revert noSpace
          decide
        simpa [Entry.text, pairLine_bytes, empty, other] using inKey
      · exact newline_not_mem_pairLine plainKey plainValue
  | more value =>
      exact List.not_mem_cons_of_ne_of_not_mem other.2.2.2.1 plain.2.1.noNewline

/-- The parser does what the entry says. -/
theorem lineAction_line (plain : entry.Plain keyed) {prevName : CString}
    (key : keyed = true → prevName.byteAt 0 ≠ 0) (lineno : Nat) :
    lineAction lineno prevName (endLine entry.text) = entry.action prevName := by
  cases entry with
  | blank => exact lineAction_newline lineno prevName
  | comment text => exact lineAction_comment text lineno prevName
  | openSection sectionName =>
      exact lineAction_bracketed plain.1 (fun c member => (plain.2 c member).2) lineno prevName
  | pair key value => exact lineAction_pair plain.1 plain.2 lineno prevName
  | more value => exact lineAction_more plain.2.1 plain.2.2 (key plain.1) lineno

end Entry

/-! ## The whole document -/

/-- A call of the handler, with the line it is made for. -/
structure HandlerCall where
  lineno : Nat
  sectionName : CString
  name : CString
  value : CString

/-- The calls a document stands for, from the given line on. -/
def handlerCalls (lineno : Nat) (sectionName prevName : CString) :
    List Entry → List HandlerCall
  | [] => []
  | .blank :: document => handlerCalls (lineno + 1) sectionName prevName document
  | .comment _ :: document => handlerCalls (lineno + 1) sectionName prevName document
  | .openSection newName :: document =>
      handlerCalls (lineno + 1) newName (.ofBytes []) document
  | .pair key value :: document =>
      ⟨lineno + 1, sectionName, key, value⟩ ::
        handlerCalls (lineno + 1) sectionName (strncpy0 key maxName) document
  | .more value :: document =>
      ⟨lineno + 1, sectionName, prevName, value⟩ ::
        handlerCalls (lineno + 1) sectionName prevName document

section

variable {υ : Type*} (handler : υ → CString → CString → CString → υ × Int)

/-- Make a call; the line of the first that fails is kept. -/
def HandlerCall.make (made : υ × Nat) (call : HandlerCall) : υ × Nat :=
  let result := handler made.1 call.sectionName call.name call.value
  (result.1, if result.2 = 0 ∧ made.2 = 0 then call.lineno else made.2)

/-- The lines of a document as they are read. -/
theorem readLines_documentText {keyed : Bool} {document : List Entry}
    (plain : PlainDocument keyed document) :
    readLines maxLine (documentText document) =
      document.map fun entry => (endLine entry.text).bytes := by
  induction document generalizing keyed with
  | nil => rfl
  | cons entry document ih =>
      rcases plain with ⟨plainEntry, short, rest⟩
      have several : 1 < maxLine := by decide
      have ends : (entry.text.bytes ++ [newline]).getLast? = some newline :=
        List.getLast?_concat
      rw [documentText, List.flatMap_cons, readLines_append several (Or.inr ends),
        readLines_of_short (Entry.newline_not_mem_text plainEntry) short, List.map_cons, ← ih rest]
      rfl

theorem Parsing.handle_eq (state : Parsing υ) (name value : CString) :
    state.handle handler name value =
      { state with
        user := (handler state.user state.sectionName name value).1
        error :=
          if (handler state.user state.sectionName name value).2 = 0 ∧ state.error = 0 then
            state.lineno
          else state.error } := by
  by_cases failed : (handler state.user state.sectionName name value).2 = 0
  · rw [Parsing.handle_of_failed failed]
    simp only [Parsing.fail, failed, true_and]
  · rw [Parsing.handle_of_succeeded failed]
    simp only [failed, false_and, if_false]

/-- A key leaves its name for the lines that follow. -/
theorem byteAt_strncpy0 {key : CString} (plain : PlainKey key) :
    (strncpy0 key maxName).byteAt 0 ≠ 0 := by
  rcases List.exists_cons_of_ne_nil plain.1 with ⟨c, rest, split⟩
  have first : (strncpy0 key maxName).byteAt 0 = c := by
    change (key.bytes.take (maxName - 1)).getD 0 0 = c
    rw [split]
    rfl
  rw [first]
  rintro rfl
  exact key.noNul (by rw [split]; exact List.mem_cons_self)

/-- What the lines of a document do to the variables of the parser. -/
theorem foldl_parseLine_document {keyed : Bool} {document : List Entry}
    (plain : PlainDocument keyed document) (state : Parsing υ)
    (key : keyed = true → state.prevName.byteAt 0 ≠ 0) :
    let parsed := (document.map fun entry => (endLine entry.text).bytes).foldl
      (parseLine handler) state
    (parsed.user, parsed.error) =
      (handlerCalls state.lineno state.sectionName state.prevName document).foldl
        (HandlerCall.make handler) (state.user, state.error) := by
  induction document generalizing keyed state with
  | nil => rfl
  | cons entry document ih =>
      rcases plain with ⟨plainEntry, _, rest⟩
      have line : parseLine handler state (endLine entry.text).bytes =
          (entry.action state.prevName).run handler
            { state with lineno := state.lineno + 1 } := by
        rw [parseLine, ofBytes_bytes]
        exact congrArg (LineAction.run handler · _)
          (Entry.lineAction_line plainEntry key (state.lineno + 1))
      simp only [List.map_cons, List.foldl_cons, line]
      cases entry with
      | blank => exact ih rest _ key
      | comment text => exact ih rest _ key
      | openSection sectionName => exact ih rest _ (fun never => absurd never Bool.false_ne_true)
      | pair name value =>
          simp only [Entry.action, LineAction.run, Parsing.handle_eq]
          exact ih rest _ fun _ => byteAt_strncpy0 plainEntry.1
      | more value =>
          simp only [Entry.action, LineAction.run, Parsing.handle_eq]
          exact ih rest _ fun _ => key plainEntry.1

end

/-- A document with a name that is written twice. -/
def namesDocument : List Entry :=
  [.comment (.lit " names"), .openSection (.lit "override_nacp"),
    .pair (.lit "name") (.lit "One"), .blank, .more (.lit "Two")]

theorem plain_namesDocument : PlainDocument false namesDocument := by
  have comment : newline ∉ (CString.lit " names").bytes := by decide
  have one : PlainValue (.lit "One") :=
    ⟨by decide, by decide, by decide, fun c first => by cases first; decide,
      fun c last => by cases last; decide⟩
  have two : PlainValue (.lit "Two") :=
    ⟨by decide, by decide, by decide, fun c first => by cases first; decide,
      fun c last => by cases last; decide⟩
  refine ⟨comment, by decide, ⟨by decide, by decide⟩, by decide,
    ⟨by decide, Or.inr one⟩, by decide, trivial, by decide, ⟨rfl, two, ?_⟩, by decide, trivial⟩
  intro c first
  cases first
  decide

end SysTweak.Ini
