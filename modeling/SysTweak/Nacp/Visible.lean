import SysTweak.Bytes.Reading
import SysTweak.Nacp.Overlay

/-!
# What a reader sees of an overridden string

The handler never writes the last byte of a string, so what a reader sees of a long
value depends on what the title itself has there.
-/

namespace SysTweak.Nacp

open SysTweak.Bytes

/-- The strings of `Nacp` that can be overridden. -/
inductive StringField
  | lang (index : Fin 16) (m : LanguageEntryMember)
  | displayVersion
  deriving DecidableEq

namespace StringField

/-- The bytes the string is declared with. -/
def place : StringField → Place sizeofNacp
  | lang index m => langEntry index m
  | displayVersion => nacpMember .displayVersion

/-- The key that overrides the string. -/
def key : StringField → OverrideKey
  | lang _ .name => .name
  | lang _ .author => .author
  | displayVersion => .displayVersion

/-- The declared length of the string. -/
def length : StringField → Nat
  | lang _ .name => 512
  | lang _ .author => 256
  | displayVersion => 10

theorem place_length (field : StringField) : field.place.length = field.length := by
  cases field with
  | lang index m => cases m <;> rfl
  | displayVersion => rfl

theorem le_length_lang (index : Fin 16) (m : LanguageEntryMember) :
    256 ≤ (lang index m).length := by
  cases m <;> simp [length]

theorem room (field : StringField) : field.place.length - 1 < field.place.length := by
  rw [field.place_length]
  apply Nat.sub_one_lt
  cases field with
  | lang index m => exact Nat.ne_zero_of_lt (le_length_lang index m)
  | displayVersion => simp [length]

theorem place_apart {field other : StringField} (different : field ≠ other) :
    field.place.Apart other.place := by
  cases field with
  | lang index m =>
      cases other with
      | lang index' m' =>
          apply langEntry_apart
          by_cases same : index = index'
          · right
            rintro rfl
            exact different (congrArg (lang · m) same)
          · exact Or.inl same
      | displayVersion => exact langEntry_apart_member index m (by decide)
  | displayVersion =>
      cases other with
      | lang index' m' => exact (langEntry_apart_member index' m' (by decide)).symm
      | displayVersion => contradiction

theorem place_apart_account (field : StringField) :
    field.place.Apart (nacpMember .startupUserAccount) := by
  cases field with
  | lang index m => exact langEntry_apart_member index m (by decide)
  | displayVersion => exact nacpMember_apart (by decide)

/-- The key writes all but the last byte. -/
theorem butLast_mem_places (field : StringField) :
    field.place.butLast ∈ field.key.places := by
  cases field with
  | lang index m =>
      cases m with
      | name => exact List.mem_map_of_mem (List.mem_finRange index)
      | author => exact List.mem_map_of_mem (List.mem_finRange index)
  | displayVersion => exact List.mem_singleton_self _

/-- The key writes the value itself. -/
theorem key_text (field : StringField) (value : CString) (j : Nat) :
    field.key.text value j = value.byteAt j := by
  cases field with
  | lang index m => cases m <;> rfl
  | displayVersion => rfl

end StringField

/-- Every place that a key writes is a string without its last byte, or the account
flag. -/
theorem OverrideKey.mem_places {key : OverrideKey} {place : Place sizeofNacp}
    (member : place ∈ key.places) :
    (∃ field : StringField, place = field.place.butLast) ∨
      place = nacpMember .startupUserAccount := by
  have ofLang : ∀ m, place ∈ langPlaces m →
      ∃ field : StringField, place = field.place.butLast := by
    intro m inLang
    rcases List.mem_map.mp inLang with ⟨index, _, same⟩
    exact ⟨.lang index m, same.symm⟩
  cases key with
  | name => exact Or.inl (ofLang .name member)
  | author => exact Or.inl (ofLang .author member)
  | displayVersion => exact Or.inl ⟨.displayVersion, List.mem_singleton.mp member⟩
  | startupUserAccount => exact Or.inr (List.mem_singleton.mp member)

/-- No key writes the last byte of a string. -/
theorem lastByte_not_has (field : StringField) {key : OverrideKey}
    {place : Place sizeofNacp} (member : place ∈ key.places) :
    ¬place.Has (field.place.addr (field.place.length - 1) field.room) := by
  have own := field.place.has_addr field.room
  rcases key.mem_places member with ⟨other, same⟩ | same
  · subst same
    by_cases equal : field = other
    · subst equal
      rintro ⟨_, below⟩
      exact Nat.lt_irrefl _ below
    · rintro ⟨above, below⟩
      apply (StringField.place_apart equal).not_has own
      exact ⟨above, Nat.lt_of_lt_of_le below (Nat.add_le_add_left (Nat.sub_le _ _) _)⟩
  · subst same
    exact field.place_apart_account.not_has own

section

variable {size : Nat} (fits : sizeofNacp ≤ size)

/-- The last byte of a string in a buffer that begins with a `Nacp`. -/
def lastByte (field : StringField) : Fin size :=
  (nacpField fits field.place).addr (field.place.length - 1) field.room

/-- A reader finds the last value of every key that occurs, cut off at one byte less
than the declared length, with its NUL inside the string. -/
def ShowsOverrides (entries : List IniEntry) (buf : Buffer size) : Prop :=
  ∀ (field : StringField) (value : CString), lastValue field.key entries = some value →
    buf.Holds (nacpField fits field.place) (value.bytes.take (field.length - 1))

end

section

variable {size : BitVec 64} {fits : sizeofNacp ≤ size.toNat} {entries : List IniEntry}
  {icon : Option (List (BitVec 8))} {source target : ControlReply size}

/-- The last byte of a string is that of the title. -/
theorem Overlaid.lastByte (overlaid : Overlaid fits entries icon source target)
    (field : StringField) :
    target.buffer (lastByte fits field) = source.buffer (lastByte fits field) := by
  apply overlaid.frame
  · intro key _ place member
    rcases List.mem_map.mp member with ⟨inner, innerMember, rfl⟩
    exact lastByte_not_has field innerMember
  · rintro file _ ⟨above, _⟩
    have inNacp := (field.place.addr (field.place.length - 1) field.room).isLt
    exact Nat.not_le_of_lt inNacp above

/-- The strings of a key hold its last value. -/
theorem Overlaid.string_eq (overlaid : Overlaid fits entries icon source target)
    (field : StringField) {value : CString}
    (last : lastValue field.key entries = some value) {j : Nat}
    (within : j < (nacpField fits field.place).butLast.length) :
    target.buffer ((nacpField fits field.place).butLast.addr j within) = value.byteAt j := by
  have member : (nacpField fits field.place).butLast ∈ bufferPlaces fits field.key :=
    List.mem_map_of_mem field.butLast_mem_places
  rw [← field.key_text]
  exact overlaid.value field.key value last _ member j within

/-- What a reader finds is right exactly if the value is short or the title's last byte
is NUL. -/
theorem Overlaid.holds_iff (overlaid : Overlaid fits entries icon source target)
    {field : StringField} {value : CString}
    (last : lastValue field.key entries = some value) :
    target.buffer.Holds (nacpField fits field.place)
        (value.bytes.take (field.length - 1)) ↔
      value.bytes.length < field.length - 1 ∨
        source.buffer (Nacp.lastByte fits field) = 0 := by
  have truncated :=
    Buffer.holds_truncated_iff (nacpField fits field.place) value field.room
      fun _ within => overlaid.string_eq field last within
  rw [← overlaid.lastByte field, ← field.place_length]
  exact truncated

/-- The overrides of a reply are shown right exactly if each last value is short or the
title has a NUL in the byte that is not written. -/
theorem Overlaid.showsOverrides_iff (overlaid : Overlaid fits entries icon source target) :
    ShowsOverrides fits entries target.buffer ↔
      ∀ (field : StringField) (value : CString),
        lastValue field.key entries = some value →
          value.bytes.length < field.length - 1 ∨
            source.buffer (Nacp.lastByte fits field) = 0 := by
  constructor
  · intro shows field value last
    exact (overlaid.holds_iff last).mp (shows field value last)
  · intro each field value last
    exact (overlaid.holds_iff last).mpr (each field value last)

end

theorem lastValue_mem {key : OverrideKey} {entries : List IniEntry} {value : CString}
    (last : lastValue key entries = some value) :
    ∃ entry ∈ entries, entry.value = value := by
  rcases Option.map_eq_some_iff.mp last with ⟨entry, lastEntry, same⟩
  exact ⟨entry, List.mem_of_mem_filter (List.mem_of_getLast? lastEntry), same⟩

/-- With values of at most 199 bytes, every overridden string is shown right exactly if
`display_version` is not overridden, or its last value has at most eight bytes, or the
title has a NUL in the last byte of `display_version`. -/
theorem overrides_shown_iff (sdCard : SdCard) (tid : BitVec 64) {size : BitVec 64}
    (fits : sizeofNacp ≤ size.toNat) (reply : ControlReply size)
    (short : ∀ entry ∈ sdCard.iniParse (configPath tid).toCString,
      entry.value.bytes.length ≤ 199) :
    ShowsOverrides fits (sdCard.iniParse (configPath tid).toCString)
        (processControlData sdCard tid reply).buffer ↔
      ∀ value, lastValue .displayVersion (sdCard.iniParse (configPath tid).toCString) =
          some value →
        value.bytes.length ≤ 8 ∨ reply.buffer (lastByte fits .displayVersion) = 0 := by
  rw [(processControlData_overlaid sdCard tid fits reply).showsOverrides_iff]
  constructor
  · intro each value last
    exact (each .displayVersion value last).imp_left Nat.le_of_lt_succ
  · intro version field value last
    rcases lastValue_mem last with ⟨entry, member, rfl⟩
    have bound := short entry member
    cases field with
    | lang index m =>
        have room : 199 < (StringField.lang index m).length - 1 :=
          Nat.lt_of_lt_of_le (by decide)
            (Nat.sub_le_sub_right (StringField.le_length_lang index m) 1)
        exact Or.inl (Nat.lt_of_le_of_lt bound room)
    | displayVersion => exact (version entry.value last).imp_left Nat.lt_succ_of_le

theorem overrides_shown_iff_versionCard :
    ShowsOverrides filledReply_fits (versionCard.iniParse (configPath 0x1000).toCString)
      (processControlData versionCard 0x1000 filledReply).buffer := by
  apply (overrides_shown_iff versionCard 0x1000 filledReply_fits filledReply ?_).mpr
  · intro value last
    left
    have version : some value = some (.lit "2.5") := last.symm.trans (by decide)
    cases version
    decide
  · decide

/-- A title given a version of nine characters. -/
def longVersionCard : SdCard where
  iniParse _ := [⟨.lit "override_nacp", .lit "display_version", .lit "123456789"⟩]
  fopen _ := none

theorem lastValue_longVersionCard :
    lastValue .displayVersion (longVersionCard.iniParse (configPath 0x1000).toCString) =
      some (.lit "123456789") := by
  decide

/-- The reader of a title that has no NUL there runs on into the bytes of the title. -/
theorem longVersionCard_not_shown :
    ¬ShowsOverrides filledReply_fits
      (longVersionCard.iniParse (configPath 0x1000).toCString)
      (processControlData longVersionCard 0x1000 filledReply).buffer := by
  rw [(processControlData_overlaid longVersionCard 0x1000 filledReply_fits
    filledReply).showsOverrides_iff]
  intro each
  have shown := each .displayVersion _ lastValue_longVersionCard
  revert shown
  decide

end SysTweak.Nacp
