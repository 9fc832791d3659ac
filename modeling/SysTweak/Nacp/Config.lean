import SysTweak.Ini.KeyLine
import SysTweak.Nacp.Visible

/-!
# Overrides written to `config.ini`

Which names and authors a `config.ini` can give a title: those that fit one line of
the parser together with their key.
-/

namespace SysTweak.Nacp

open SysTweak.Bytes
open SysTweak.Ini

/-- A handler of `ini_parse` that keeps its arguments. -/
def recordEntry (entries : List IniEntry) (sectionName name value : CString) :
    List IniEntry × Int :=
  (entries ++ [⟨sectionName, name, value⟩], 1)

/-- `_ProcessControlDataIniHandler` with its result. -/
def overrideHandler {size : Nat} (fits : sizeofNacp ≤ size) (buf : Buffer size)
    (sectionName name value : CString) : Buffer size × Int :=
  (processControlDataIniHandler fits buf ⟨sectionName, name, value⟩, 1)

/-- The SD card with the given files. -/
def SdCard.ofFiles (files : CString → Option (List (BitVec 8))) : SdCard where
  iniParse path := (Ini.iniParse recordEntry [] (files path)).1
  fopen := files

/-- What `ini_parse` makes of the buffer is what the recorded calls make of it. -/
theorem iniParse_overrideHandler {size : Nat} (fits : sizeofNacp ≤ size)
    (buf : Buffer size) (files : CString → Option (List (BitVec 8))) (path : CString) :
    (Ini.iniParse (overrideHandler fits) buf (files path)).1 =
      ((SdCard.ofFiles files).iniParse path).foldl (processControlDataIniHandler fits) buf := by
  have agree : Agree recordEntry (overrideHandler fits)
      fun entries => entries.foldl (processControlDataIniHandler fits) buf := by
    intro entries sectionName name value
    simp [recordEntry, overrideHandler, List.foldl_append]
  exact congrArg Prod.fst (iniParse_map agree [] (files path))

/-! ## The calls of a file -/

/-- A line makes at most one call, with a value no longer than itself. -/
theorem parseLine_user (state : Parsing (List IniEntry)) (line : List (BitVec 8)) :
    (parseLine recordEntry state line).user = state.user ∨
      ∃ entry : IniEntry, entry.value.bytes.length ≤ line.length ∧
        (parseLine recordEntry state line).user = state.user ++ [entry] := by
  rw [parseLine]
  cases action : lineAction (state.lineno + 1) state.prevName (.ofBytes line) with
  | skip => exact Or.inl rfl
  | fail => exact Or.inl rfl
  | enter sectionName => exact Or.inl rfl
  | deliver prevName name value =>
      right
      have bound := lineAction_value_length_le action
      have cString : (CString.ofBytes line).bytes.length ≤ line.length :=
        (List.takeWhile_prefix _).length_le
      exact ⟨⟨state.sectionName, name, value⟩, Nat.le_trans bound cString, rfl⟩

/-- The values of a part of a file are no longer than its lines. -/
theorem foldl_parseLine_user {lines : List (List (BitVec 8))} {bound : Nat}
    (short : ∀ line ∈ lines, line.length ≤ bound) (state : Parsing (List IniEntry)) :
    ∃ added, (lines.foldl (parseLine recordEntry) state).user = state.user ++ added ∧
      ∀ entry ∈ added, entry.value.bytes.length ≤ bound := by
  induction lines generalizing state with
  | nil => exact ⟨[], (List.append_nil _).symm, fun _ member => by contradiction⟩
  | cons line lines ih =>
      rw [List.forall_mem_cons] at short
      rcases ih short.2 (parseLine recordEntry state line) with ⟨added, later, bounded⟩
      rw [List.foldl_cons, later]
      rcases parseLine_user state line with same | ⟨entry, value, one⟩
      · exact ⟨added, by rw [same], bounded⟩
      · refine ⟨entry :: added, by rw [one, List.append_assoc]; rfl, ?_⟩
        rw [List.forall_mem_cons]
        exact ⟨Nat.le_trans value short.1, bounded⟩

/-- No value of a file is longer than 199 bytes. -/
theorem iniParse_value_length_le (files : CString → Option (List (BitVec 8)))
    (path : CString) :
    ∀ entry ∈ (SdCard.ofFiles files).iniParse path, entry.value.bytes.length ≤ 199 := by
  intro entry member
  cases file : files path with
  | none =>
      simp only [SdCard.ofFiles, file] at member
      contradiction
  | some content =>
      have short : ∀ line ∈ readLines maxLine content, line.length ≤ 199 :=
        fun line inFile => Nat.le_of_lt_succ (length_lt_of_mem_readLines (by decide) inFile)
      rcases foldl_parseLine_user short (.start []) with ⟨added, all, bounded⟩
      simp only [SdCard.ofFiles, file, Ini.iniParse, iniParseStream, all] at member
      exact bounded entry member

/-! ## The calls of a key line -/

/-- A pair is called with the current section. -/
theorem parseLine_pairLine {key : CString} (plain : PlainKey key) (rest : CString)
    (state : Parsing (List IniEntry)) :
    parseLine recordEntry state (pairLine key rest).bytes =
      { state with
        user := state.user ++ [⟨state.sectionName, key, pairValue (rstrip rest)⟩]
        prevName := strncpy0 key maxName
        lineno := state.lineno + 1 } := by
  rw [parseLine, ofBytes_bytes, lineAction_pairLine plain]
  rfl

theorem foldl_parseLine_newlines {lines : List (List (BitVec 8))}
    (blank : ∀ line ∈ lines, line = [newline]) (state : Parsing (List IniEntry)) :
    (lines.foldl (parseLine recordEntry) state).user = state.user ∧
      (lines.foldl (parseLine recordEntry) state).sectionName = state.sectionName := by
  induction lines generalizing state with
  | nil => exact ⟨rfl, rfl⟩
  | cons line lines ih =>
      rw [List.forall_mem_cons] at blank
      have skipped : parseLine recordEntry state line =
          { state with lineno := state.lineno + 1 } := by
        rw [parseLine, blank.1, lineAction_newline]
        rfl
      rw [List.foldl_cons, skipped]
      exact ih blank.2 _

/-- The calls of a key line: the first has the key, the others have short values. -/
theorem foldl_parseLine_keyLine {key value : CString} (plainKey : PlainKey key)
    (plainValue : PlainValue value) (short : key.bytes.length + 2 < maxLine)
    (state : Parsing (List IniEntry)) :
    ∃ first added, ((readLines maxLine (keyLine key value)).foldl (parseLine recordEntry)
          state).user = state.user ++ ⟨state.sectionName, key, first⟩ :: added ∧
      key.bytes.length + 1 + first.bytes.length < maxLine ∧
      ∀ entry ∈ added, entry.value.bytes.length ≤
        key.bytes.length + value.bytes.length + 3 - maxLine := by
  rcases readLines_keyLine plainKey plainValue short with ⟨rest, pieces, readAs⟩
  have bounds : ∀ piece ∈ pieces,
      piece.length ≤ key.bytes.length + value.bytes.length + 3 - maxLine :=
    fun piece member => Nat.le_sub_of_add_le (readAs.pieces_le piece member)
  have pair := parseLine_pairLine plainKey rest state
  rcases foldl_parseLine_user bounds (parseLine recordEntry state (pairLine key rest).bytes)
    with ⟨added, later, bounded⟩
  refine ⟨pairValue (rstrip rest), added, ?_, ?_, bounded⟩
  · rw [readAs.lines_eq, List.foldl_cons, later, pair, List.append_assoc]
    rfl
  · have smaller : (pairValue (rstrip rest)).bytes.length ≤ rest.bytes.length :=
      Nat.le_trans (pairValue_length_le _) (rstrip_length_le _)
    exact Nat.lt_of_le_of_lt (Nat.add_le_add_left smaller _) readAs.rest_le

/-- A key line that fits makes one call, with the value. -/
theorem foldl_parseLine_keyLine_of_fits {key value : CString} (plainKey : PlainKey key)
    (plainValue : PlainValue value) (short : key.bytes.length + 2 < maxLine)
    (fits : key.bytes.length + 1 + value.bytes.length < maxLine)
    (state : Parsing (List IniEntry)) :
    ((readLines maxLine (keyLine key value)).foldl (parseLine recordEntry) state).user =
        state.user ++ [⟨state.sectionName, key, value⟩] ∧
      ((readLines maxLine (keyLine key value)).foldl (parseLine recordEntry)
        state).sectionName = state.sectionName := by
  rcases readLines_keyLine plainKey plainValue short with ⟨rest, pieces, readAs⟩
  rcases readAs.value_eq fits with ⟨whole, blank⟩
  have pair := parseLine_pairLine plainKey rest state
  have later :=
    foldl_parseLine_newlines blank (parseLine recordEntry state (pairLine key rest).bytes)
  rw [readAs.lines_eq, List.foldl_cons]
  constructor
  · rw [later.1, pair, whole]
  · rw [later.2, pair]

/-! ## The file with a name and an author -/

/-- A `config.ini` that overrides the name and the author. -/
def configText (name author : CString) : List (BitVec 8) :=
  ascii "[override_nacp]" ++ [newline] ++ keyLine (.lit "name") name ++
    keyLine (.lit "author") author

/-- What `ini_parse` calls for the file. -/
def configEntries (name author : CString) : List IniEntry :=
  ((readLines maxLine (configText name author)).foldl (parseLine recordEntry)
    (.start [])).user

/-- The variables of the parser after the section line. -/
def inOverrideSection : Parsing (List IniEntry) :=
  ⟨[], .lit "override_nacp", .ofBytes [], 1, 0⟩

theorem keyLine_ends (key value : CString) :
    keyLine key value = [] ∨ (keyLine key value).getLast? = some newline :=
  Or.inr List.getLast?_concat

theorem configEntries_eq (name author : CString) :
    configEntries name author =
      ((readLines maxLine (keyLine (.lit "author") author)).foldl (parseLine recordEntry)
        ((readLines maxLine (keyLine (.lit "name") name)).foldl (parseLine recordEntry)
          inOverrideSection)).user := by
  have several : 1 < maxLine := by decide
  have header : (readLines maxLine (ascii "[override_nacp]" ++ [newline])).foldl
      (parseLine recordEntry) (.start []) = inOverrideSection := by
    rfl
  have endsHeader : ascii "[override_nacp]" ++ [newline] = [] ∨
      (ascii "[override_nacp]" ++ [newline]).getLast? = some newline :=
    Or.inr List.getLast?_concat
  rw [configEntries, configText, List.append_assoc, readLines_append several endsHeader,
    readLines_append several (keyLine_ends _ _), List.foldl_append, List.foldl_append, header]

theorem plainKey_name : PlainKey (.lit "name") := by
  decide

theorem plainKey_author : PlainKey (.lit "author") := by
  decide

/-- A name and an author that fit their lines are called as they stand. -/
theorem configEntries_of_fits {name author : CString} (plainName : PlainValue name)
    (plainAuthor : PlainValue author) (nameFits : name.bytes.length ≤ 194)
    (authorFits : author.bytes.length ≤ 192) :
    configEntries name author =
      [⟨.lit "override_nacp", .lit "name", name⟩,
        ⟨.lit "override_nacp", .lit "author", author⟩] := by
  have nameLength : (CString.lit "name").bytes.length + 1 + name.bytes.length < maxLine :=
    Nat.lt_of_le_of_lt (Nat.add_le_add_left nameFits _) (by decide)
  have authorLength : (CString.lit "author").bytes.length + 1 + author.bytes.length < maxLine :=
    Nat.lt_of_le_of_lt (Nat.add_le_add_left authorFits _) (by decide)
  rcases foldl_parseLine_keyLine_of_fits plainKey_name plainName (by decide) nameLength
    inOverrideSection with ⟨nameCalls, nameSection⟩
  rcases foldl_parseLine_keyLine_of_fits plainKey_author plainAuthor (by decide) authorLength
    ((readLines maxLine (keyLine (.lit "name") name)).foldl (parseLine recordEntry)
      inOverrideSection) with ⟨authorCalls, _⟩
  rw [configEntries_eq, authorCalls, nameCalls, nameSection]
  rfl

/-- If every value for a key is short, the last one is. -/
theorem exists_lastValue_lt {key : OverrideKey} {entries : List IniEntry} {entry : IniEntry}
    (member : entry ∈ entries) (overrides : entry.Overrides key) {bound : Nat}
    (short : ∀ other ∈ entries, other.Overrides key → other.value.bytes.length < bound) :
    ∃ value, lastValue key entries = some value ∧ value.bytes.length < bound := by
  have kept : entry ∈ entries.filter fun entry => entry.Overrides key :=
    List.mem_filter.mpr ⟨member, decide_eq_true overrides⟩
  cases last : (entries.filter fun entry => entry.Overrides key).getLast? with
  | none =>
      rw [List.getLast?_eq_none_iff.mp last] at kept
      contradiction
  | some other =>
      rcases List.mem_filter.mp (List.mem_of_getLast? last) with ⟨inFile, matching⟩
      exact ⟨other.value, congrArg (Option.map IniEntry.value) last,
        short other inFile (of_decide_eq_true matching)⟩

theorem overrides_of_word (key : OverrideKey) (value : CString) :
    (⟨.lit "override_nacp", key.word, value⟩ : IniEntry).Overrides key :=
  ⟨rfl, rfl⟩

theorem not_overrides_of_ne (other : OverrideKey) {key : OverrideKey} (different : other ≠ key)
    (sectionName value : CString) :
    ¬(⟨sectionName, other.word, value⟩ : IniEntry).Overrides key :=
  fun overrides => different (OverrideKey.eq_of_word overrides.2)

/-- Of a name that does not fit its line only a part gets through. -/
theorem exists_lastValue_name_lt {name author : CString} (plainName : PlainValue name)
    (plainAuthor : PlainValue author) (long : 194 < name.bytes.length)
    (authorFits : author.bytes.length ≤ 255) :
    ∃ value, lastValue .name (configEntries name author) = some value ∧
      value.bytes.length < name.bytes.length := by
  have nameKey : (CString.lit "name").bytes.length = 4 := by decide
  have authorKey : (CString.lit "author").bytes.length = 6 := by decide
  have lineLength : maxLine = 200 := rfl
  rcases foldl_parseLine_keyLine plainKey_name plainName (by decide) inOverrideSection with
    ⟨first, added, nameCalls, firstLength, addedLength⟩
  rcases foldl_parseLine_keyLine plainKey_author plainAuthor (by decide)
    ((readLines maxLine (keyLine (.lit "name") name)).foldl (parseLine recordEntry)
      inOverrideSection) with ⟨first', added', authorCalls, _, addedLength'⟩
  rw [nameKey, lineLength] at firstLength addedLength
  rw [authorKey, lineLength] at addedLength'
  rw [configEntries_eq, authorCalls, nameCalls]
  have member : (⟨.lit "override_nacp", .lit "name", first⟩ : IniEntry) ∈
      inOverrideSection.user ++ ⟨inOverrideSection.sectionName, .lit "name", first⟩ :: added :=
    List.mem_cons_self
  apply exists_lastValue_lt (List.mem_append_left _ member) (overrides_of_word .name first)
  intro other inFile overrides
  rcases List.mem_append.mp inFile with inName | inAuthor
  · rcases List.mem_cons.mp inName with rfl | later
    · change first.bytes.length < name.bytes.length
      omega
    · have part := addedLength other later
      omega
  · rcases List.mem_cons.mp inAuthor with rfl | later
    · exact absurd overrides (not_overrides_of_ne .author (by decide) _ first')
    · have part := addedLength' other later
      omega

/-- Of an author that does not fit its line only a part gets through. -/
theorem exists_lastValue_author_lt {name author : CString} (plainName : PlainValue name)
    (plainAuthor : PlainValue author) (nameFits : name.bytes.length ≤ 194)
    (long : 192 < author.bytes.length) :
    ∃ value, lastValue .author (configEntries name author) = some value ∧
      value.bytes.length < author.bytes.length := by
  have authorKey : (CString.lit "author").bytes.length = 6 := by decide
  have lineLength : maxLine = 200 := rfl
  have nameLength : (CString.lit "name").bytes.length + 1 + name.bytes.length < maxLine :=
    Nat.lt_of_le_of_lt (Nat.add_le_add_left nameFits _) (by decide)
  rcases foldl_parseLine_keyLine_of_fits plainKey_name plainName (by decide) nameLength
    inOverrideSection with ⟨nameCalls, nameSection⟩
  rcases foldl_parseLine_keyLine plainKey_author plainAuthor (by decide)
    ((readLines maxLine (keyLine (.lit "name") name)).foldl (parseLine recordEntry)
      inOverrideSection) with ⟨first, added, authorCalls, firstLength, addedLength⟩
  rw [authorKey, lineLength] at firstLength addedLength
  rw [configEntries_eq, authorCalls, nameCalls, nameSection]
  have member : (⟨.lit "override_nacp", .lit "author", first⟩ : IniEntry) ∈
      ⟨inOverrideSection.sectionName, .lit "author", first⟩ :: added :=
    List.mem_cons_self
  apply exists_lastValue_lt (List.mem_append_right _ member) (overrides_of_word .author first)
  intro other inFile overrides
  rcases List.mem_append.mp inFile with inName | inAuthor
  · rcases List.mem_singleton.mp inName with rfl
    exact absurd overrides (not_overrides_of_ne .name (by decide) _ name)
  · rcases List.mem_cons.mp inAuthor with rfl | later
    · change first.bytes.length < author.bytes.length
      omega
    · have part := addedLength other later
      omega

/-! ## What the title shows -/

section

variable {size : Nat} (fits : sizeofNacp ≤ size)

/-- Every language entry has the name and the author, padded with zeros as far as a key
writes, and the other keys have changed nothing. -/
structure Expressed (name author : CString) (source target : Buffer size) : Prop where
  name : ∀ lang j (within : j < (nacpField fits (langEntry lang .name)).butLast.length),
    target ((nacpField fits (langEntry lang .name)).butLast.addr j within) = name.byteAt j
  author : ∀ lang j (within : j < (nacpField fits (langEntry lang .author)).butLast.length),
    target ((nacpField fits (langEntry lang .author)).butLast.addr j within) =
      author.byteAt j
  others : ∀ m ∈ [Member.displayVersion, Member.startupUserAccount],
    ∀ j (within : j < (nacpField fits (nacpMember m)).length),
      target ((nacpField fits (nacpMember m)).addr j within) =
        source ((nacpField fits (nacpMember m)).addr j within)

/-- The last byte of every name and author is zero. -/
def LastBytesZero (buf : Buffer size) : Prop :=
  ∀ lang m, buf (lastByte fits (.lang lang m)) = 0

end

section

variable {size : BitVec 64} {fits : sizeofNacp ≤ size.toNat} {entries : List IniEntry}
  {icon : Option (List (BitVec 8))} {source target : ControlReply size}

/-- Without a version and an account in the file both are those of the title. -/
theorem Overlaid.other_eq (overlaid : Overlaid fits entries icon source target)
    (noVersion : lastValue .displayVersion entries = none)
    (noAccount : lastValue .startupUserAccount entries = none) {m : Member}
    (other : .langEntries ≠ m) {j : Nat} (within : j < (nacpField fits (nacpMember m)).length) :
    target.buffer ((nacpField fits (nacpMember m)).addr j within) =
      source.buffer ((nacpField fits (nacpMember m)).addr j within) := by
  have own : (nacpMember m).Has ((nacpMember m).offset + j) :=
    ⟨Nat.le_add_right _ _, Nat.add_lt_add_left within _⟩
  have outside : ∀ m', ∀ inner ∈ langPlaces m', ¬inner.Has ((nacpMember m).offset + j) := by
    intro m' inner member
    rcases List.mem_map.mp member with ⟨lang, _, same⟩
    subst same
    exact (langEntry_apart_member lang m' other).butLast_left.symm.not_has own
  apply overlaid.frame
  · intro key occurs place member
    rcases List.mem_map.mp member with ⟨inner, innerMember, rfl⟩
    change ¬inner.Has ((nacpMember m).offset + j)
    cases key with
    | name => exact outside .name inner innerMember
    | author => exact outside .author inner innerMember
    | displayVersion =>
        rw [noVersion] at occurs
        contradiction
    | startupUserAccount =>
        rw [noAccount] at occurs
        contradiction
  · rintro file _ ⟨above, _⟩
    have inNacp : (nacpMember m).offset + j < sizeofNacp :=
      Nat.lt_of_lt_of_le (Nat.add_lt_add_left within _) (nacpMember m).fits
    exact Nat.not_le_of_lt inNacp above

/-- A field does not show a value that is longer than the last one it was given. -/
theorem Overlaid.string_ne (overlaid : Overlaid fits entries icon source target)
    (field : StringField) {value wanted : CString}
    (last : lastValue field.key entries = some value)
    (shorter : value.bytes.length < wanted.bytes.length)
    (wantedFits : wanted.bytes.length ≤ field.length - 1) :
    ¬∀ j (within : j < (nacpField fits field.place).butLast.length),
      target.buffer ((nacpField fits field.place).butLast.addr j within) =
        wanted.byteAt j := by
  intro all
  have within : value.bytes.length < (nacpField fits field.place).butLast.length := by
    change value.bytes.length < field.place.length - 1
    rw [field.place_length]
    exact Nat.lt_of_lt_of_le shorter wantedFits
  have given := overlaid.string_eq field last within
  rw [all _ within, value.byteAt_of_length_le (Nat.le_refl _)] at given
  exact wanted.noNul (List.mem_of_getElem? (given ▸ wanted.getElem?_bytes shorter))

end

section

variable {files : CString → Option (List (BitVec 8))} {tid : BitVec 64} {name author : CString}

theorem ofFiles_iniParse
    (config : files (configPath tid).toCString = some (configText name author)) :
    (SdCard.ofFiles files).iniParse (configPath tid).toCString = configEntries name author := by
  simp only [SdCard.ofFiles, config]
  rfl

variable {size : BitVec 64} (fits : sizeofNacp ≤ size.toNat) (reply : ControlReply size)

/-- A file gives a title its name and its author exactly if both fit their lines. -/
theorem expressed_iff (plainName : PlainValue name) (plainAuthor : PlainValue author)
    (nameFits : name.bytes.length ≤ 511) (authorFits : author.bytes.length ≤ 255)
    (config : files (configPath tid).toCString = some (configText name author)) :
    Expressed fits name author reply.buffer
        (processControlData (.ofFiles files) tid reply).buffer ↔
      name.bytes.length ≤ 194 ∧ author.bytes.length ≤ 192 := by
  have overlaid := processControlData_overlaid (.ofFiles files) tid fits reply
  rw [ofFiles_iniParse config] at overlaid
  constructor
  · intro expressed
    by_cases nameShort : name.bytes.length ≤ 194
    · by_cases authorShort : author.bytes.length ≤ 192
      · exact ⟨nameShort, authorShort⟩
      · rcases exists_lastValue_author_lt plainName plainAuthor nameShort
          (Nat.not_le.mp authorShort) with ⟨value, last, shorter⟩
        exact absurd (expressed.author 0)
          (overlaid.string_ne (.lang 0 .author) last shorter authorFits)
    · rcases exists_lastValue_name_lt plainName plainAuthor (Nat.not_le.mp nameShort)
        authorFits with ⟨value, last, shorter⟩
      exact absurd (expressed.name 0)
        (overlaid.string_ne (.lang 0 .name) last shorter nameFits)
  · rintro ⟨nameShort, authorShort⟩
    rw [configEntries_of_fits plainName plainAuthor nameShort authorShort] at overlaid
    constructor
    · intro lang j within
      exact overlaid.string_eq (.lang lang .name) rfl within
    · intro lang j within
      exact overlaid.string_eq (.lang lang .author) rfl within
    · intro m member j within
      apply overlaid.other_eq rfl rfl
      rintro rfl
      revert member
      decide

/-- A name of at most 511 bytes and an author of at most 255 end up in the title, and no
other key changes anything, exactly if they have at most 194 and 192 bytes.  The strings
are then zero to their very end if the last bytes of the title's own are. -/
theorem config_expresses_iff (plainName : PlainValue name) (plainAuthor : PlainValue author)
    (nameFits : name.bytes.length ≤ 511) (authorFits : author.bytes.length ≤ 255)
    (config : files (configPath tid).toCString = some (configText name author)) :
    (Expressed fits name author reply.buffer
        (processControlData (.ofFiles files) tid reply).buffer ↔
      name.bytes.length ≤ 194 ∧ author.bytes.length ≤ 192) ∧
    (Expressed fits name author reply.buffer
        (processControlData (.ofFiles files) tid reply).buffer ∧
        LastBytesZero fits (processControlData (.ofFiles files) tid reply).buffer ↔
      (name.bytes.length ≤ 194 ∧ author.bytes.length ≤ 192) ∧
        LastBytesZero fits reply.buffer) := by
  have expressed := expressed_iff fits reply plainName plainAuthor nameFits authorFits config
  have overlaid := processControlData_overlaid (.ofFiles files) tid fits reply
  have lastBytes : LastBytesZero fits (processControlData (.ofFiles files) tid reply).buffer ↔
      LastBytesZero fits reply.buffer := by
    apply forall_congr'
    intro lang
    apply forall_congr'
    intro m
    rw [overlaid.lastByte]
  exact ⟨expressed, and_congr expressed lastBytes⟩

end

/-- An SD card with a `config.ini` for one title. -/
def configCard (tid : BitVec 64) (name author : CString) (path : CString) :
    Option (List (BitVec 8)) :=
  if path = (configPath tid).toCString then some (configText name author) else none

theorem configCard_config (tid : BitVec 64) (name author : CString) :
    configCard tid name author (configPath tid).toCString = some (configText name author) :=
  if_pos rfl

theorem plainValue_game : PlainValue (.lit "Game: Deluxe") where
  nonempty := by decide
  noNewline := by decide
  noSemicolon := by decide
  head c first := by
    cases first
    rfl
  last c last := by
    cases last
    rfl

theorem config_expresses_game :
    Expressed filledReply_fits (.lit "Game: Deluxe") (.lit "Game: Deluxe") filledReply.buffer
      (processControlData
        (.ofFiles (configCard 0x1000 (.lit "Game: Deluxe") (.lit "Game: Deluxe"))) 0x1000
        filledReply).buffer :=
  (config_expresses_iff filledReply_fits filledReply plainValue_game plainValue_game
    (by decide) (by decide) (configCard_config 0x1000 _ _)).1.mpr ⟨by decide, by decide⟩

/-- A name of 195 characters. -/
def longName : CString where
  bytes := List.replicate 195 (char 'a')
  noNul member := absurd (List.eq_of_mem_replicate member) (by decide)

theorem longName_length : longName.bytes.length = 195 :=
  List.length_replicate

theorem plainValue_longName : PlainValue longName where
  nonempty := List.cons_ne_nil _ _
  noNewline member := absurd (List.eq_of_mem_replicate member) (by decide)
  noSemicolon member := absurd (List.eq_of_mem_replicate member) (by decide)
  head c first := by
    rw [List.eq_of_mem_replicate (List.mem_of_head? first)]
    decide
  last c last := by
    rw [List.eq_of_mem_replicate (List.mem_of_getLast? last)]
    decide

/-- The last character of the name is lost. -/
theorem longName_not_expressed :
    ¬Expressed filledReply_fits longName (.lit "Game: Deluxe") filledReply.buffer
      (processControlData (.ofFiles (configCard 0x1000 longName (.lit "Game: Deluxe")))
        0x1000 filledReply).buffer := by
  have nameFits : longName.bytes.length ≤ 511 := by
    rw [longName_length]
    decide
  rw [expressed_iff filledReply_fits filledReply plainValue_longName plainValue_game nameFits
    (by decide) (configCard_config 0x1000 _ _), longName_length]
  decide

end SysTweak.Nacp
