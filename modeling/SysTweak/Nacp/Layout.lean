import SysTweak.Layout.Places

/-!
# The layout of `Nacp`

`ns.h` declares the application control data; where its members lie follows from
the declaration.  `NacpLanguageEntry` is declared by libnx.
-/

namespace SysTweak.Nacp

open SysTweak.Bytes
open SysTweak.Layout

/-- The members of `NacpLanguageEntry`. -/
inductive LanguageEntryMember
  | name | author
  deriving DecidableEq

namespace LanguageEntryMember

def all : List LanguageEntryMember :=
  [name, author]

def type : LanguageEntryMember → CType
  | name => .chars 0x200
  | author => .chars 0x100

end LanguageEntryMember

/-- `NacpLanguageEntry`. -/
def nacpLanguageEntry : StructDecl LanguageEntryMember where
  members := LanguageEntryMember.all
  type := LanguageEntryMember.type
  complete m := by cases m <;> decide

/-- The members of `Nacp`. -/
inductive Member
  | langEntries | isbn | startupUserAccount | userAccountSwitchLock
  | addonContentRegistrationType | appAttribute | supportedLanguages | parentalControl
  | screenshot | videoCaptureMode | dataLossConfirmation | playlogPolicy
  | presenceGroupTitleId | ratingRage | displayVersion | addonContentBaseTitleId
  | savedataOwnerId | userAccountSavedataSize | userAccountSavedataJournalSize
  | deviceSavedataSize | deviceSavedataJournalSize | bcatDeliveryCacheStorageSize
  | applicationErrorCodeCategory | localCommunicationIds | logoType | logoHandling
  | runtimeAddonContentInstall | unkX30F3 | crashReport | hdcp | seedForPseudoDeviceId
  | bcatPassphrase | unkX3141 | userAccountSavedataMaxSize
  | userAccountSavedataMaxJournalSize | deviceSavedataMaxSize
  | deviceSavedataMaxJournalSize | temporaryStorageSize | cacheStorageSize
  | cacheStorageJournalSize | cacheStorageMaxSize | cacheStorageMaxIndex
  | playlogQueryableTitleIds | playlogQueryCapability | repair | programIndex
  | requiredNetworkServiceLicenseOnLaunch | unkX3214
  deriving DecidableEq

namespace Member

/-- The members in the order of the declaration. -/
def all : List Member :=
  [langEntries, isbn, startupUserAccount, userAccountSwitchLock,
    addonContentRegistrationType, appAttribute, supportedLanguages, parentalControl,
    screenshot, videoCaptureMode, dataLossConfirmation, playlogPolicy,
    presenceGroupTitleId, ratingRage, displayVersion, addonContentBaseTitleId,
    savedataOwnerId, userAccountSavedataSize, userAccountSavedataJournalSize,
    deviceSavedataSize, deviceSavedataJournalSize, bcatDeliveryCacheStorageSize,
    applicationErrorCodeCategory, localCommunicationIds, logoType, logoHandling,
    runtimeAddonContentInstall, unkX30F3, crashReport, hdcp, seedForPseudoDeviceId,
    bcatPassphrase, unkX3141, userAccountSavedataMaxSize,
    userAccountSavedataMaxJournalSize, deviceSavedataMaxSize,
    deviceSavedataMaxJournalSize, temporaryStorageSize, cacheStorageSize,
    cacheStorageJournalSize, cacheStorageMaxSize, cacheStorageMaxIndex,
    playlogQueryableTitleIds, playlogQueryCapability, repair, programIndex,
    requiredNetworkServiceLicenseOnLaunch, unkX3214]

/-- The declared types; `NacpVideoCaptureMode` is a packed enumeration. -/
def type : Member → CType
  | langEntries => .array nacpLanguageEntry.ctype 16
  | isbn => .chars 37
  | startupUserAccount | userAccountSwitchLock | addonContentRegistrationType => .int 1
  | appAttribute | supportedLanguages | parentalControl => .int 4
  | screenshot | videoCaptureMode | dataLossConfirmation | playlogPolicy => .int 1
  | presenceGroupTitleId => .int 8
  | ratingRage => .chars 32
  | displayVersion => .chars 10
  | addonContentBaseTitleId | savedataOwnerId => .int 8
  | userAccountSavedataSize | userAccountSavedataJournalSize => .int 8
  | deviceSavedataSize | deviceSavedataJournalSize => .int 8
  | bcatDeliveryCacheStorageSize | applicationErrorCodeCategory => .int 8
  | localCommunicationIds => .array (.int 8) 8
  | logoType | logoHandling | runtimeAddonContentInstall => .int 1
  | unkX30F3 => .chars 3
  | crashReport | hdcp => .int 1
  | seedForPseudoDeviceId => .int 8
  | bcatPassphrase => .chars 65
  | unkX3141 => .chars 7
  | userAccountSavedataMaxSize | userAccountSavedataMaxJournalSize => .int 8
  | deviceSavedataMaxSize | deviceSavedataMaxJournalSize => .int 8
  | temporaryStorageSize | cacheStorageSize | cacheStorageJournalSize => .int 8
  | cacheStorageMaxSize | cacheStorageMaxIndex => .int 8
  | playlogQueryableTitleIds => .array (.int 8) 16
  | playlogQueryCapability | repair | programIndex => .int 1
  | requiredNetworkServiceLicenseOnLaunch => .int 1
  | unkX3214 => .chars 3564

end Member

/-- `Nacp`. -/
def nacp : StructDecl Member where
  members := Member.all
  type := Member.type
  complete m := by cases m <;> simp [Member.all]

/-- `sizeof(Nacp)`. -/
def sizeofNacp : Nat :=
  nacp.ctype.size

theorem sizeofNacp_eq : sizeofNacp = 0x4000 := by
  decide +kernel

/-- The bytes of a member of `Nacp`. -/
def nacpMember (m : Member) : Place sizeofNacp :=
  nacp.place m

/-- `lang_entries[lang].name` and `lang_entries[lang].author`. -/
def langEntry (lang : Fin 16) (m : LanguageEntryMember) : Place sizeofNacp :=
  (nacpMember .langEntries).inside
    ((element nacpLanguageEntry.ctype 16 lang).inside (nacpLanguageEntry.place m))

theorem nacpMember_apart {m m' : Member} (different : m ≠ m') :
    (nacpMember m).Apart (nacpMember m') :=
  nacp.place_apart different

/-- No two strings of the language entries overlap. -/
theorem langEntry_apart {lang lang' : Fin 16} {m m' : LanguageEntryMember}
    (different : lang ≠ lang' ∨ m ≠ m') :
    (langEntry lang m).Apart (langEntry lang' m') := by
  apply Place.Apart.inside
  by_cases same : lang = lang'
  · subst same
    have members := different.resolve_left fun other => other rfl
    exact (nacpLanguageEntry.place_apart members).inside
  · have elements := element_apart nacpLanguageEntry.ctype same
    exact ((elements.inside_left _).symm.inside_left _).symm

theorem langEntry_apart_member (lang : Fin 16) (m : LanguageEntryMember) {other : Member}
    (different : .langEntries ≠ other) :
    (langEntry lang m).Apart (nacpMember other) :=
  (nacpMember_apart different).inside_left _

example : (langEntry 15 .author).offset = 0x2f00 := by decide +kernel
example : (nacpMember .startupUserAccount).offset = 0x3025 := by decide +kernel
example : (nacpMember .displayVersion).offset = 0x3060 := by decide +kernel

-- The value is given by `sizeofNacp_eq`; nothing else computes it again.
attribute [irreducible] sizeofNacp

end SysTweak.Nacp
