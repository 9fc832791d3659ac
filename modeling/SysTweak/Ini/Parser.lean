import SysTweak.Bytes.Lines
import SysTweak.Ini.Text

/-!
# The INI parser

`ini_parse_stream` of `ini.c`, built with the default macros of `ini.h`, on what
`fgets` reads from a file.
-/

namespace SysTweak.Ini

open SysTweak.Bytes

/-- `INI_MAX_LINE`. -/
def maxLine : Nat := 200

/-- `MAX_SECTION`. -/
def maxSection : Nat := 50

/-- `MAX_NAME`. -/
def maxName : Nat := 50

/-- What the body of the loop does with a line. -/
inductive LineAction
  /-- A comment or a blank line. -/
  | skip
  /-- `if (!error) error = lineno;`. -/
  | fail
  /-- A section line. -/
  | enter (sectionName : CString)
  /-- A call of the handler; `prevName` is what `prev_name` holds from then on. -/
  | deliver (prevName name value : CString)
  deriving DecidableEq

/-- The value of a `name[=:]value` pair: the rest of the line, without an inline comment
and the whitespace around it. -/
def pairValue (rest : CString) : CString :=
  rstrip (lskip (cut rest (findCharsOrComment rest [])))

/-- The length of the UTF-8 byte order mark at the start of the file, if it is there. -/
def bomLength (lineno : Nat) (line : CString) : Nat :=
  if lineno = 1 ∧ line.byteAt 0 = 0xef ∧ line.byteAt 1 = 0xbb ∧ line.byteAt 2 = 0xbf then 3
  else 0

/-- The branches of the loop of `ini_parse_stream`. -/
def lineAction (lineno : Nat) (prevName line : CString) : LineAction :=
  let bom := bomLength lineno line
  let stripped := rstrip (advance line bom)
  let start := lskip stripped
  -- How far `start` is from `line`.
  let offset := bom + (stripped.bytes.length - start.bytes.length)
  if strchr startCommentPrefixes (start.byteAt 0) then .skip
  else if prevName.byteAt 0 ≠ 0 ∧ start.byteAt 0 ≠ 0 ∧ 0 < offset then
    .deliver prevName prevName start
  else if start.byteAt 0 = char '[' then
    let sectionName := advance start 1
    let stop := findCharsOrComment sectionName (ascii "]")
    if sectionName.byteAt stop = char ']' then
      .enter (strncpy0 (cut sectionName stop) maxSection)
    else .fail
  else if start.byteAt 0 ≠ 0 then
    let stop := findCharsOrComment start (ascii "=:")
    if start.byteAt stop = char '=' ∨ start.byteAt stop = char ':' then
      let name := rstrip (cut start stop)
      .deliver (strncpy0 name maxName) name (pairValue (advance start (stop + 1)))
    else .fail
  else .skip

/-- The variables of `ini_parse_stream`, and what the handler makes of `user`. -/
structure Parsing (υ : Type*) where
  user : υ
  sectionName : CString
  prevName : CString
  lineno : Nat
  error : Nat

section

variable {υ : Type*} (handler : υ → CString → CString → CString → υ × Int)

/-- The variables before the loop. -/
def Parsing.start (user : υ) : Parsing υ :=
  ⟨user, .ofBytes [], .ofBytes [], 0, 0⟩

/-- `if (!error) error = lineno;`. -/
def Parsing.fail (state : Parsing υ) : Parsing υ :=
  { state with error := if state.error = 0 then state.lineno else state.error }

/-- `HANDLER(user, section, name, value)`, with what follows a zero result. -/
def Parsing.handle (state : Parsing υ) (name value : CString) : Parsing υ :=
  let result := handler state.user state.sectionName name value
  let handled := { state with user := result.1 }
  if result.2 = 0 then handled.fail else handled

/-- Do what a line asks for. -/
def LineAction.run (action : LineAction) (state : Parsing υ) : Parsing υ :=
  match action with
  | .skip => state
  | .fail => state.fail
  | .enter sectionName => { state with sectionName := sectionName, prevName := .ofBytes [] }
  | .deliver prevName name value => { state with prevName := prevName }.handle handler name value

/-- One turn of the loop. -/
def parseLine (state : Parsing υ) (line : List (BitVec 8)) : Parsing υ :=
  let next := { state with lineno := state.lineno + 1 }
  (lineAction next.lineno next.prevName (.ofBytes line)).run handler next

/-- `ini_parse_stream`: what the handler has made of `user`, and the first line with an
error. -/
def iniParseStream (user : υ) (stream : List (BitVec 8)) : υ × Int :=
  let state := (readLines maxLine stream).foldl (parseLine handler) (.start user)
  (state.user, state.error)

/-- `ini_parse`, with the content of the file if it can be opened. -/
def iniParse (user : υ) (file : Option (List (BitVec 8))) : υ × Int :=
  match file with
  | none => (user, -1)
  | some content => iniParseStream handler user content

end

section

variable {υ : Type*} {handler : υ → CString → CString → CString → υ × Int}

/-- A call with a result other than zero only changes `user`. -/
theorem Parsing.handle_of_succeeded {state : Parsing υ} {name value : CString}
    (succeeded : (handler state.user state.sectionName name value).2 ≠ 0) :
    state.handle handler name value =
      { state with user := (handler state.user state.sectionName name value).1 } :=
  if_neg succeeded

theorem Parsing.handle_of_failed {state : Parsing υ} {name value : CString}
    (failed : (handler state.user state.sectionName name value).2 = 0) :
    state.handle handler name value =
      { state with user := (handler state.user state.sectionName name value).1 }.fail :=
  if_pos failed

end

/-! ## Handlers that agree -/

section

variable {υ υ' : Type*} {handler : υ → CString → CString → CString → υ × Int}
  {handler' : υ' → CString → CString → CString → υ' × Int} {convert : υ → υ'}

/-- One handler does to `convert user` what the other does to `user`. -/
def Agree (handler : υ → CString → CString → CString → υ × Int)
    (handler' : υ' → CString → CString → CString → υ' × Int) (convert : υ → υ') : Prop :=
  ∀ user sectionName name value,
    handler' (convert user) sectionName name value =
      (convert (handler user sectionName name value).1,
        (handler user sectionName name value).2)

/-- The variables with `user` seen through `convert`. -/
def Parsing.map (convert : υ → υ') (state : Parsing υ) : Parsing υ' :=
  ⟨convert state.user, state.sectionName, state.prevName, state.lineno, state.error⟩

theorem Parsing.map_handle (agree : Agree handler handler' convert) (state : Parsing υ)
    (name value : CString) :
    (state.map convert).handle handler' name value =
      (state.handle handler name value).map convert := by
  have result : handler' (state.map convert).user (state.map convert).sectionName name value =
      (convert (handler state.user state.sectionName name value).1,
        (handler state.user state.sectionName name value).2) :=
    agree state.user state.sectionName name value
  by_cases failed : (handler state.user state.sectionName name value).2 = 0
  · have failed' : (handler' (state.map convert).user (state.map convert).sectionName name
        value).2 = 0 := by rw [result, failed]
    rw [handle_of_failed failed, handle_of_failed failed', result]
    rfl
  · have succeeded' : (handler' (state.map convert).user (state.map convert).sectionName name
        value).2 ≠ 0 := by rwa [result]
    rw [handle_of_succeeded failed, handle_of_succeeded succeeded', result]
    rfl

theorem LineAction.run_map (agree : Agree handler handler' convert) (action : LineAction)
    (state : Parsing υ) :
    action.run handler' (state.map convert) = (action.run handler state).map convert := by
  cases action with
  | skip => rfl
  | fail => rfl
  | enter sectionName => rfl
  | deliver prevName name value =>
      exact Parsing.map_handle agree { state with prevName := prevName } name value

/-- Handlers that agree are called alike. -/
theorem parseLine_map (agree : Agree handler handler' convert) (state : Parsing υ)
    (line : List (BitVec 8)) :
    parseLine handler' (state.map convert) line =
      (parseLine handler state line).map convert :=
  LineAction.run_map agree _ { state with lineno := state.lineno + 1 }

theorem foldl_parseLine_map (agree : Agree handler handler' convert)
    (lines : List (List (BitVec 8))) (state : Parsing υ) :
    lines.foldl (parseLine handler') (state.map convert) =
      (lines.foldl (parseLine handler) state).map convert := by
  induction lines generalizing state with
  | nil => rfl
  | cons line lines ih => rw [List.foldl_cons, List.foldl_cons, parseLine_map agree, ih]

theorem iniParse_map (agree : Agree handler handler' convert) (user : υ)
    (file : Option (List (BitVec 8))) :
    iniParse handler' (convert user) file =
      (convert (iniParse handler user file).1, (iniParse handler user file).2) := by
  cases file with
  | none => rfl
  | some content =>
      have whole := foldl_parseLine_map agree (readLines maxLine content) (.start user)
      have start : (Parsing.start user).map convert = .start (convert user) := rfl
      rw [start] at whole
      simp only [iniParse, iniParseStream]
      rw [whole]
      rfl

end

end SysTweak.Ini
