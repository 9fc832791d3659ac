import SysTweak.Bytes.CString
import SysTweak.Nacp.Layout
import SysTweak.Platform.Libnx

/-!
# The control data service

`GetAppControlData` of `ns_srvget_mitm_service.cpp` and what it calls.  The reply
of the forwarded call, the files of the SD card and the calls that `ini_parse`
makes of the handler are inputs.
-/

namespace SysTweak.Nacp

open SysTweak.Bytes
open SysTweak.Platform

/-- The arguments of one call of the `ini_parse` handler. -/
structure IniEntry where
  sectionName : CString
  name : CString
  value : CString
  deriving DecidableEq

/-- What is read from the SD card. -/
structure SdCard where
  /-- The calls `ini_parse` makes of its handler for the file at a path; none when the
  file cannot be opened. -/
  iniParse : CString → List IniEntry
  /-- The content of the file at a path, if `fopen` opens it for reading. -/
  fopen : CString → Option (List (BitVec 8))

/-- The globals of `file_utils.cpp` that `WaitInitialized` reads. -/
structure FileUtils where
  hasInitialized : Bool
  /-- `g_init_thread.state` is not `State_NotInitialized`. -/
  initThreadCreated : Bool

/-- `FileUtils::WaitInitialized`; it returns after the thread has ended. -/
def FileUtils.waitInitialized (fileUtils : FileUtils) : Bool :=
  if !fileUtils.hasInitialized then
    if !fileUtils.initThreadCreated then false else true
  else true

/-- The result code, the buffer and `out_size` of a call of `GetAppControlData`. -/
structure ControlReply (size : BitVec 64) where
  rc : Result
  buffer : Buffer size.toNat
  outSize : BitVec 64

section

variable {size : Nat} (fits : sizeofNacp ≤ size)

/-- A place of the `Nacp` at the start of a buffer. -/
def nacpField (place : Place sizeofNacp) : Place size :=
  ⟨place.offset, place.length, Nat.le_trans place.fits fits⟩

/-- The loop over `lang_entries` that copies a value to one of their strings. -/
def copyToLangEntries (m : LanguageEntryMember) (value : CString) (buf : Buffer size) :
    Buffer size :=
  (List.finRange 16).foldl
    (fun buf lang => strncpy buf (nacpField fits (langEntry lang m)).butLast value) buf

/-- `_ProcessControlDataIniHandler`. -/
def processControlDataIniHandler (buf : Buffer size) (entry : IniEntry) : Buffer size :=
  if strcasecmp entry.sectionName (.lit "override_nacp") = 0 then
    if strcasecmp entry.name (.lit "name") = 0 then
      copyToLangEntries fits .name entry.value buf
    else if strcasecmp entry.name (.lit "author") = 0 then
      copyToLangEntries fits .author entry.value buf
    else if strcasecmp entry.name (.lit "display_version") = 0 then
      strncpy buf (nacpField fits (nacpMember .displayVersion)).butLast entry.value
    else if strcasecmp entry.name (.lit "startup_user_account") = 0 then
      buf.fill (nacpField fits (nacpMember .startupUserAccount)) fun _ =>
        if entry.value.byteAt 0 = char 't' ∨ entry.value.byteAt 0 = char '1' then 1 else 0
    else buf
  else buf

end

/-- The `path` buffer after one `snprintf`. -/
def overridePath (path : Buffer 50) (tid : BitVec 64) (file : String) : Buffer 50 :=
  snprintf path 49 (by decide) (ascii "/atmosphere/contents/" ++ hex16 tid ++ ascii file)

/-- The path of `config.ini`. -/
def configPath (tid : BitVec 64) : Buffer 50 :=
  overridePath (fun _ => 0) tid "/config.ini"

/-- The path of `icon.jpg`, which is printed over that of `config.ini`. -/
def iconPath (tid : BitVec 64) : Buffer 50 :=
  overridePath (configPath tid) tid "/icon.jpg"

/-- The bytes `fread(icon, buf_size - sizeof(Nacp), 1, f)` stores for a file of the
given length. -/
def iconRead {size : Nat} (fits : sizeofNacp ≤ size) (length : Nat) : Place size where
  offset := sizeofNacp
  length := min length (size - sizeofNacp)
  fits := by omega

/-- `_ProcessControlData`. -/
def processControlData (sdCard : SdCard) (tid : BitVec 64) {size : BitVec 64}
    (reply : ControlReply size) : ControlReply size :=
  if small : size.toNat < sizeofNacp then reply
  else
    have fits := Nat.not_lt.mp small
    let overridden :=
      (sdCard.iniParse (configPath tid).toCString).foldl
        (processControlDataIniHandler fits) reply.buffer
    match sdCard.fopen (iconPath tid).toCString with
    | some file =>
        { reply with
          buffer := overridden.fill (iconRead fits file.length) (file.getD · 0)
          outSize := BitVec.ofNat 64 sizeofNacp +
            BitVec.ofNat 64 (iconRead fits file.length).length }
    | none => { reply with buffer := overridden }

/-- `NsROAppControlDataService::GetAppControlData`, from the reply of the forwarded
call on. -/
def getAppControlData (sdCard : SdCard) (fileUtils : FileUtils) (tid : BitVec 64)
    {size : BitVec 64} (forwarded : ControlReply size) : ControlReply size :=
  if forwarded.rc.succeeded && fileUtils.waitInitialized then
    processControlData sdCard tid forwarded
  else forwarded

end SysTweak.Nacp
