import SysTweak.Nacp.Service

/-!
# The override of the control data

The reply of `GetAppControlData` is the forwarded reply with the configured values
laid over it: every byte of it is given by the last entry for the key it belongs
to, by the icon file, or by the forwarded reply.
-/

namespace SysTweak.Nacp

open SysTweak.Bytes
open SysTweak.Layout
open SysTweak.Platform

/-- All but the last byte of one of the strings, in every language entry. -/
def langPlaces (m : LanguageEntryMember) : List (Place sizeofNacp) :=
  (List.finRange 16).map fun lang => (langEntry lang m).butLast

/-- The keys of the section `override_nacp`. -/
inductive OverrideKey
  | name | author | displayVersion | startupUserAccount
  deriving DecidableEq

namespace OverrideKey

/-- How the key is written in `config.ini`, up to case. -/
def word : OverrideKey → CString
  | name => .lit "name"
  | author => .lit "author"
  | displayVersion => .lit "display_version"
  | startupUserAccount => .lit "startup_user_account"

/-- The bytes of `Nacp` that the key determines; the last byte of a string is not
among them. -/
def places : OverrideKey → List (Place sizeofNacp)
  | name => langPlaces .name
  | author => langPlaces .author
  | displayVersion => [(nacpMember .displayVersion).butLast]
  | startupUserAccount => [nacpMember .startupUserAccount]

/-- What a value puts there. -/
def text (key : OverrideKey) (value : CString) (j : Nat) : BitVec 8 :=
  match key with
  | name | author | displayVersion => value.byteAt j
  | startupUserAccount =>
      if value.byteAt 0 = char 't' ∨ value.byteAt 0 = char '1' then 1 else 0

end OverrideKey

/-- The entry is for the key. -/
def IniEntry.Overrides (entry : IniEntry) (key : OverrideKey) : Prop :=
  SameIgnoringCase entry.sectionName (.lit "override_nacp") ∧
    SameIgnoringCase entry.name key.word

instance (entry : IniEntry) (key : OverrideKey) : Decidable (entry.Overrides key) :=
  inferInstanceAs (Decidable (_ ∧ _))

/-- The last value given for a key. -/
def lastValue (key : OverrideKey) (entries : List IniEntry) : Option CString :=
  (entries.filter fun entry => entry.Overrides key).getLast?.map IniEntry.value

/-- The key an entry is for, if any. -/
def IniEntry.key (entry : IniEntry) : Option OverrideKey :=
  if entry.Overrides .name then some .name
  else if entry.Overrides .author then some .author
  else if entry.Overrides .displayVersion then some .displayVersion
  else if entry.Overrides .startupUserAccount then some .startupUserAccount
  else none

/-- No two keys are the same up to case. -/
theorem OverrideKey.eq_of_word {key other : OverrideKey}
    (same : SameIgnoringCase key.word other.word) : key = other := by
  revert same
  cases key <;> cases other <;> decide

theorem IniEntry.Overrides.unique {entry : IniEntry} {key other : OverrideKey}
    (one : entry.Overrides key) (two : entry.Overrides other) : key = other :=
  OverrideKey.eq_of_word (one.2.symm.trans two.2)

theorem IniEntry.key_eq_some_iff {entry : IniEntry} {key : OverrideKey} :
    entry.key = some key ↔ entry.Overrides key := by
  constructor
  · intro found
    unfold IniEntry.key at found
    split_ifs at found <;> cases found <;> assumption
  · intro matching
    have others : ∀ other, other ≠ key → ¬entry.Overrides other :=
      fun other different two => different (two.unique matching)
    cases key <;> simp [IniEntry.key, matching, others]

theorem langPlaces_pairwise (m : LanguageEntryMember) :
    (langPlaces m).Pairwise Place.Apart :=
  List.Pairwise.map _ (fun _ _ different => (langEntry_apart (.inl different)).butLast)
    (List.nodup_finRange 16)

theorem langPlaces_apart {m m' : LanguageEntryMember} (different : m ≠ m') :
    AllApart (langPlaces m) (langPlaces m') := by
  intro one oneMember other otherMember
  rcases List.mem_map.mp oneMember with ⟨lang, _, rfl⟩
  rcases List.mem_map.mp otherMember with ⟨lang', _, rfl⟩
  exact (langEntry_apart (.inr different)).butLast

theorem langPlaces_apart_singleton (m : LanguageEntryMember) {place : Place sizeofNacp}
    (apart : ∀ lang, (langEntry lang m).Apart place) : AllApart (langPlaces m) [place] := by
  intro one oneMember other otherMember
  rcases List.mem_map.mp oneMember with ⟨lang, _, rfl⟩
  cases List.mem_singleton.mp otherMember
  exact (apart lang).butLast_left

/-- The keys write to different bytes, and a key to no byte twice. -/
theorem OverrideKey.places_separate : Separate OverrideKey.places where
  within key := by
    cases key with
    | name => exact langPlaces_pairwise .name
    | author => exact langPlaces_pairwise .author
    | displayVersion => exact List.pairwise_singleton _ _
    | startupUserAccount => exact List.pairwise_singleton _ _
  between key other different := by
    have strings : AllApart (langPlaces .name) (langPlaces .author) :=
      langPlaces_apart (by decide)
    have version : ∀ m, AllApart (langPlaces m) OverrideKey.displayVersion.places :=
      fun m => langPlaces_apart_singleton m fun lang =>
        (langEntry_apart_member lang m (by decide)).symm.butLast_left.symm
    have account : ∀ m, AllApart (langPlaces m) OverrideKey.startupUserAccount.places :=
      fun m => langPlaces_apart_singleton m fun lang =>
        langEntry_apart_member lang m (by decide)
    have members : AllApart OverrideKey.displayVersion.places
        OverrideKey.startupUserAccount.places := by
      intro one oneMember other otherMember
      rw [List.mem_singleton.mp oneMember, List.mem_singleton.mp otherMember]
      exact (nacpMember_apart (by decide)).butLast_left
    cases key with
    | name =>
        cases other with
        | name => contradiction
        | author => exact strings
        | displayVersion => exact version .name
        | startupUserAccount => exact account .name
    | author =>
        cases other with
        | name => exact strings.symm
        | author => contradiction
        | displayVersion => exact version .author
        | startupUserAccount => exact account .author
    | displayVersion =>
        cases other with
        | name => exact (version .name).symm
        | author => exact (version .author).symm
        | displayVersion => contradiction
        | startupUserAccount => exact members
    | startupUserAccount =>
        cases other with
        | name => exact (account .name).symm
        | author => exact (account .author).symm
        | displayVersion => exact members.symm
        | startupUserAccount => contradiction

section

variable {size : Nat} (fits : sizeofNacp ≤ size)

/-- Where a key writes in a buffer that begins with a `Nacp`. -/
def bufferPlaces (key : OverrideKey) : List (Place size) :=
  key.places.map (nacpField fits)

theorem bufferPlaces_separate : Separate (bufferPlaces fits) :=
  OverrideKey.places_separate.map (nacpField fits) fun apart => apart

theorem copyToLangEntries_eq_fillAll (m : LanguageEntryMember) (value : CString)
    (buf : Buffer size) :
    copyToLangEntries fits m value buf =
      buf.fillAll ((langPlaces m).map (nacpField fits)) value.byteAt := by
  rw [Buffer.fillAll, langPlaces, List.map_map, List.foldl_map]
  rfl

/-- The handler writes the value to the places of the key the entry is for. -/
theorem processControlDataIniHandler_eq (buf : Buffer size) (entry : IniEntry) :
    processControlDataIniHandler fits buf entry =
      overlayEntry IniEntry.key (bufferPlaces fits)
        (fun key entry => key.text entry.value) buf entry := by
  simp only [processControlDataIniHandler, strcasecmp_eq_zero_iff, overlayEntry]
  by_cases inSection : SameIgnoringCase entry.sectionName (.lit "override_nacp")
  · have overrides : ∀ key, entry.Overrides key ↔ SameIgnoringCase entry.name key.word :=
      fun key => and_iff_right inSection
    simp only [if_pos inSection, IniEntry.key, overrides, OverrideKey.word,
      copyToLangEntries_eq_fillAll]
    split
    · rfl
    · split
      · rfl
      · split
        · rfl
        · split <;> rfl
  · have noKey : entry.key = none := by
      have outside : ∀ key, ¬entry.Overrides key := fun key two => inSection two.1
      simp [IniEntry.key, outside]
    rw [if_neg inSection, noKey]

/-- The calls of the handler are an overlay. -/
theorem foldl_processControlDataIniHandler (entries : List IniEntry) (buf : Buffer size) :
    entries.foldl (processControlDataIniHandler fits) buf =
      overlay IniEntry.key (bufferPlaces fits) (fun key entry => key.text entry.value)
        entries buf := by
  rw [overlay]
  congr
  funext buf entry
  exact processControlDataIniHandler_eq fits buf entry

end

theorem lastFor_map_value (key : OverrideKey) (entries : List IniEntry) :
    (lastFor IniEntry.key key entries).map IniEntry.value = lastValue key entries := by
  simp only [lastFor, lastValue, IniEntry.key_eq_some_iff]

/-- The reply `target` is `source` with the values of `entries` and the icon laid
over it, and nothing else. -/
structure Overlaid {size : BitVec 64} (fits : sizeofNacp ≤ size.toNat)
    (entries : List IniEntry) (icon : Option (List (BitVec 8)))
    (source target : ControlReply size) : Prop where
  /-- A key that occurs has its last value in all its places. -/
  value : ∀ key value, lastValue key entries = some value →
    ∀ place ∈ bufferPlaces fits key, ∀ j (within : j < place.length),
      target.buffer (place.addr j within) = key.text value j
  /-- The icon follows the `Nacp`, as far as there is room. -/
  iconBytes : ∀ file, icon = some file → ∀ j byte, file[j]? = some byte →
    ∀ room : sizeofNacp + j < size.toNat, target.buffer ⟨sizeofNacp + j, room⟩ = byte
  outSize : ∀ file, icon = some file →
    target.outSize.toNat = sizeofNacp + min file.length (size.toNat - sizeofNacp)
  noIcon : icon = none → target.outSize = source.outSize
  /-- No other byte changes. -/
  frame : ∀ i : Fin size.toNat,
    (∀ key, (lastValue key entries).isSome →
      ∀ place ∈ bufferPlaces fits key, ¬place.Has i) →
    (∀ file, icon = some file → ¬(sizeofNacp ≤ i.val ∧ i < sizeofNacp + file.length)) →
      target.buffer i = source.buffer i

section

variable {size : Nat} (fits : sizeofNacp ≤ size)

theorem lastFor_isSome (key : OverrideKey) (entries : List IniEntry) :
    (lastFor IniEntry.key key entries).isSome = (lastValue key entries).isSome := by
  rw [← lastFor_map_value, Option.isSome_map]

/-- The places of a key hold its last value. -/
theorem foldl_handler_addr (entries : List IniEntry) (buf : Buffer size)
    {key : OverrideKey} {place : Place size} (member : place ∈ bufferPlaces fits key)
    {j : Nat} (within : j < place.length) :
    entries.foldl (processControlDataIniHandler fits) buf (place.addr j within) =
      (lastValue key entries).elim (buf (place.addr j within)) fun value =>
        key.text value j := by
  rw [foldl_processControlDataIniHandler,
    overlay_addr (bufferPlaces_separate fits) entries buf member within,
    ← lastFor_map_value, Option.elim_map]
  rfl

/-- No byte outside the places of the keys that occur is written by the handler. -/
theorem foldl_handler_of_not_has {entries : List IniEntry} (buf : Buffer size)
    {i : Fin size}
    (outside : ∀ key, (lastValue key entries).isSome →
      ∀ place ∈ bufferPlaces fits key, ¬place.Has i) :
    entries.foldl (processControlDataIniHandler fits) buf i = buf i := by
  rw [foldl_processControlDataIniHandler]
  apply overlay_of_not_has
  intro key occurs place member
  rw [lastFor_isSome] at occurs
  exact outside key occurs place member

/-- The places of the keys end before the icon begins. -/
theorem iconRead_not_has (length : Nat) {key : OverrideKey} {place : Place size}
    (member : place ∈ bufferPlaces fits key) {j : Nat} (within : j < place.length) :
    ¬(iconRead fits length).Has (place.addr j within) := by
  rcases List.mem_map.mp member with ⟨source, _, rfl⟩
  rintro ⟨above, _⟩
  exact Nat.not_le_of_lt
    (Nat.lt_of_lt_of_le (Nat.add_lt_add_left within source.offset) source.fits) above

end

section

variable (sdCard : SdCard) (tid : BitVec 64) {size : BitVec 64} (reply : ControlReply size)

theorem processControlData_of_small (small : size.toNat < sizeofNacp) :
    processControlData sdCard tid reply = reply :=
  dif_pos small

theorem processControlData_of_noIcon (fits : sizeofNacp ≤ size.toNat)
    (noIcon : sdCard.fopen (iconPath tid).toCString = none) :
    processControlData sdCard tid reply =
      { reply with
        buffer := (sdCard.iniParse (configPath tid).toCString).foldl
          (processControlDataIniHandler fits) reply.buffer } := by
  rw [processControlData, dif_neg (Nat.not_lt.mpr fits), noIcon]

theorem processControlData_of_icon (fits : sizeofNacp ≤ size.toNat)
    {file : List (BitVec 8)} (icon : sdCard.fopen (iconPath tid).toCString = some file) :
    processControlData sdCard tid reply =
      { reply with
        buffer :=
          ((sdCard.iniParse (configPath tid).toCString).foldl
            (processControlDataIniHandler fits) reply.buffer).fill
              (iconRead fits file.length) (file.getD · 0)
        outSize := BitVec.ofNat 64 sizeofNacp +
          BitVec.ofNat 64 (iconRead fits file.length).length } := by
  rw [processControlData, dif_neg (Nat.not_lt.mpr fits), icon]

end

/-- The size with the icon does not wrap. -/
theorem outSize_toNat {size : BitVec 64} (fits : sizeofNacp ≤ size.toNat) (length : Nat) :
    (BitVec.ofNat 64 sizeofNacp + BitVec.ofNat 64 (iconRead fits length).length).toNat =
      sizeofNacp + min length (size.toNat - sizeofNacp) := by
  have bound := (iconRead fits length).fits
  have small : sizeofNacp + min length (size.toNat - sizeofNacp) < 2 ^ 64 :=
    Nat.lt_of_le_of_lt bound size.isLt
  rw [← BitVec.ofNat_add, BitVec.toNat_ofNat]
  exact Nat.mod_eq_of_lt small

theorem overlaid_of_noIcon {size : BitVec 64} (fits : sizeofNacp ≤ size.toNat)
    (entries : List IniEntry) (reply : ControlReply size) :
    Overlaid fits entries none reply
      { reply with
        buffer := entries.foldl (processControlDataIniHandler fits) reply.buffer } := by
  constructor
  · intro key value last place member j within
    have written := foldl_handler_addr fits entries reply.buffer member within
    rw [last] at written
    exact written
  · intro file impossible
    contradiction
  · intro file impossible
    contradiction
  · intro _
    rfl
  · intro i outside _
    exact foldl_handler_of_not_has fits reply.buffer outside

theorem Overlaid.addIcon {size : BitVec 64} {fits : sizeofNacp ≤ size.toNat}
    {entries : List IniEntry} {source target : ControlReply size}
    (overlaid : Overlaid fits entries none source target) (file : List (BitVec 8)) :
    Overlaid fits entries (some file) source
      { target with
        buffer := target.buffer.fill (iconRead fits file.length) (file.getD · 0)
        outSize := BitVec.ofNat 64 sizeofNacp +
          BitVec.ofNat 64 (iconRead fits file.length).length } := by
  constructor
  · intro key value last place member j within
    have untouched := target.buffer.fill_of_not_has (file.getD · 0)
      (iconRead_not_has fits file.length member within)
    exact untouched.trans (overlaid.value key value last place member j within)
  · intro file' same j byte here room
    cases same
    have inside : j < (iconRead fits file.length).length := by
      have withinFile : j < file.length := (List.getElem?_eq_some_iff.mp here).1
      exact Nat.lt_min.mpr ⟨withinFile, by omega⟩
    have stored := target.buffer.fill_addr (iconRead fits file.length) (file.getD · 0) inside
    rw [List.getD_eq_getElem?_getD, here] at stored
    exact stored
  · intro file' same
    cases same
    exact outSize_toNat fits file.length
  · intro impossible
    contradiction
  · intro i outside outsideIcon
    have notIcon : ¬(iconRead fits file.length).Has i := by
      rintro ⟨above, below⟩
      exact outsideIcon file rfl
        ⟨above, Nat.lt_of_lt_of_le below (Nat.add_le_add_left (Nat.min_le_left _ _) _)⟩
    have untouched := target.buffer.fill_of_not_has (file.getD · 0) notIcon
    exact untouched.trans (overlaid.frame i outside fun _ impossible => by contradiction)

/-- `_ProcessControlData` overlays a buffer that has room for a `Nacp`. -/
theorem processControlData_overlaid (sdCard : SdCard) (tid : BitVec 64) {size : BitVec 64}
    (fits : sizeofNacp ≤ size.toNat) (reply : ControlReply size) :
    Overlaid fits (sdCard.iniParse (configPath tid).toCString)
      (sdCard.fopen (iconPath tid).toCString) reply
      (processControlData sdCard tid reply) := by
  have handled :=
    overlaid_of_noIcon fits (sdCard.iniParse (configPath tid).toCString) reply
  cases icon : sdCard.fopen (iconPath tid).toCString with
  | none =>
      rw [processControlData_of_noIcon sdCard tid reply fits icon]
      exact handled
  | some file =>
      rw [processControlData_of_icon sdCard tid reply fits icon]
      exact handled.addIcon file

theorem processControlData_rc (sdCard : SdCard) (tid : BitVec 64) {size : BitVec 64}
    (reply : ControlReply size) : (processControlData sdCard tid reply).rc = reply.rc := by
  by_cases fits : sizeofNacp ≤ size.toNat
  · cases icon : sdCard.fopen (iconPath tid).toCString with
    | none => rw [processControlData_of_noIcon sdCard tid reply fits icon]
    | some file => rw [processControlData_of_icon sdCard tid reply fits icon]
  · rw [processControlData_of_small sdCard tid reply (Nat.not_le.mp fits)]

theorem getAppControlData_of_refused {sdCard : SdCard} {fileUtils : FileUtils}
    {tid : BitVec 64} {size : BitVec 64} {forwarded : ControlReply size}
    (refused : forwarded.rc.failed = true ∨ fileUtils.waitInitialized = false) :
    getAppControlData sdCard fileUtils tid forwarded = forwarded := by
  apply if_neg
  rcases refused with failed | missing
  · rw [Result.failed_eq_not_succeeded, Bool.not_eq_true'] at failed
    simp [failed]
  · simp [missing]

theorem getAppControlData_of_succeeded {sdCard : SdCard} {fileUtils : FileUtils}
    {tid : BitVec 64} {size : BitVec 64} {forwarded : ControlReply size}
    (succeeded : forwarded.rc.failed = false) (initialized : fileUtils.waitInitialized = true) :
    getAppControlData sdCard fileUtils tid forwarded =
      processControlData sdCard tid forwarded := by
  rw [Result.failed_eq_not_succeeded, Bool.not_eq_false'] at succeeded
  rw [getAppControlData, succeeded, initialized]
  rfl

theorem getAppControlData_rc (sdCard : SdCard) (fileUtils : FileUtils) (tid : BitVec 64)
    {size : BitVec 64} (forwarded : ControlReply size) :
    (getAppControlData sdCard fileUtils tid forwarded).rc = forwarded.rc := by
  rw [getAppControlData]
  split
  · exact processControlData_rc sdCard tid forwarded
  · rfl

/-- `GetAppControlData` returns the result code of the forwarded call.  It leaves the
reply alone unless the call succeeded, the file system is there and the buffer has
room for a `Nacp`; then it lays the configured values and the icon over it. -/
theorem getAppControlData_refines (sdCard : SdCard) (fileUtils : FileUtils)
    (tid : BitVec 64) {size : BitVec 64} (forwarded : ControlReply size) :
    (getAppControlData sdCard fileUtils tid forwarded).rc = forwarded.rc ∧
      (forwarded.rc.failed = true ∨ fileUtils.waitInitialized = false ∨
          size.toNat < sizeofNacp →
        getAppControlData sdCard fileUtils tid forwarded = forwarded) ∧
      (forwarded.rc.failed = false → fileUtils.waitInitialized = true →
        ∀ fits : sizeofNacp ≤ size.toNat,
          Overlaid fits (sdCard.iniParse (configPath tid).toCString)
            (sdCard.fopen (iconPath tid).toCString) forwarded
            (getAppControlData sdCard fileUtils tid forwarded)) := by
  by_cases refused : forwarded.rc.failed = true ∨ fileUtils.waitInitialized = false
  · have same : getAppControlData sdCard fileUtils tid forwarded = forwarded :=
      getAppControlData_of_refused refused
    rw [same]
    constructor
    · rfl
    · constructor
      · intro _
        rfl
      · intro succeeded initialized
        simp [succeeded, initialized] at refused
  · rcases not_or.mp refused with ⟨succeeded, initialized⟩
    rw [Bool.not_eq_true] at succeeded
    rw [Bool.not_eq_false] at initialized
    rw [getAppControlData_of_succeeded succeeded initialized]
    constructor
    · exact processControlData_rc sdCard tid forwarded
    · constructor
      · intro bailOut
        apply processControlData_of_small
        simpa [succeeded, initialized] using bailOut
      · intro _ _ fits
        exact processControlData_overlaid sdCard tid fits forwarded

/-- A title with a version of its own and a short icon. -/
def versionCard : SdCard where
  iniParse _ :=
    [⟨.lit "override_nacp", .lit "display_version", .lit "1.0"⟩,
      ⟨.lit "Override_Nacp", .lit "DISPLAY_VERSION", .lit "2.5"⟩]
  fopen _ := some [0xff, 0xd8, 0xff, 0xe0]

/-- A reply with room for three bytes of the icon. -/
def filledReply : ControlReply 0x4003 where
  rc := 0
  buffer _ := 0xaa
  outSize := 0x4000

theorem filledReply_fits : sizeofNacp ≤ (0x4003 : BitVec 64).toNat := by
  rw [sizeofNacp_eq]
  decide

theorem getAppControlData_refines_versionCard :
    lastValue .displayVersion (versionCard.iniParse (configPath 0x1000).toCString) =
        some (.lit "2.5") ∧
      Overlaid filledReply_fits (versionCard.iniParse (configPath 0x1000).toCString)
        (versionCard.fopen (iconPath 0x1000).toCString) filledReply
        (getAppControlData versionCard ⟨true, true⟩ 0x1000 filledReply) :=
  ⟨by decide,
    (getAppControlData_refines versionCard ⟨true, true⟩ 0x1000 filledReply).2.2 rfl rfl
      filledReply_fits⟩

end SysTweak.Nacp
