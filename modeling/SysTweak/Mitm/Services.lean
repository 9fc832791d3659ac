import SysTweak.Nacp.Service
import SysTweak.Sf.Dispatch

/-!
# The services

The commands of `nsvm_mitm_service.cpp` and `ns_srvget_mitm_service.cpp`, and those of
`HipcManagerImpl` in `sf_hipc_server_domain_session_manager.cpp` that every session has,
with the dispatch tables of their interfaces.  What a command prints to the log is left
out.
-/

namespace SysTweak.Mitm

open SysTweak.Bytes
open SysTweak.Layout
open SysTweak.Nacp
open SysTweak.Platform
open SysTweak.Sf

/-- What a command has the server manager do before the reply. -/
inductive Effect
  /-- Serve a new `NsROAppControlDataService` in a session of its own. -/
  | registerObject (srv : Service)
  /-- Serve the object of the session in one more session. -/
  | cloneSession
  deriving DecidableEq

/-- Memory of size 0. -/
def noMemory : Mapped where
  size := 0
  bytes i := i.elim0

/-- The first buffer of a command. -/
def firstBuffer (arguments : Arguments) : Mapped :=
  arguments.buffers.headD noMemory

/-- The buffer after a call that wrote to it. -/
def writtenBuffer (buffer : Mapped) (reply : ServiceReply) : Mapped where
  size := buffer.size
  bytes i := reply.bytes i

section

variable {m : Type → Type} [Monad m]

/-- An entry for all versions of the system. -/
def methodInfo (cmdId : Nat) (info : CommandMetaInfo)
    (impl : Arguments → m (Performed Effect)) : ServiceCommandMeta m Effect where
  hosverLow := versionMin
  hosverHigh := versionMax
  cmdId := cmdId
  handler := invokeServiceCommand info impl

/-! ## `NsVmMitmService` -/

/-- `NsVmMitmService::NeedsUpdateVulnerability`. -/
def needsUpdateVulnerability (_ : Arguments) : m (Performed Effect) :=
  pure ⟨0, [0], [], none⟩

/-- The table of `NsVmMitmInterface`. -/
def nsVmMitmInterface : List (ServiceCommandMeta m Effect) :=
  [methodInfo 1200 ⟨[], [.int 1], 0, 0, 0⟩ needsUpdateVulnerability]

variable (upstream : Upstream m)

/-! ## `NsServiceGetterMitmService` -/

/-- `NsServiceGetterMitmService::GetROAppControlDataInterface`. -/
def getROAppControlDataInterface (forwardService : Service) (_ : Arguments) :
    m (Performed Effect) := do
  let s ← upstream.serviceDispatch forwardService.session ⟨7989, [], [], 1⟩
  pure ⟨s.rc, [], [], if s.rc.succeeded then some (.registerObject s.object) else none⟩

/-- The table of `NsServiceGetterMitmInterface`. -/
def nsServiceGetterMitmInterface (forwardService : Service) :
    List (ServiceCommandMeta m Effect) :=
  [methodInfo 7989 ⟨[], [], 0, 0, 1⟩ (getROAppControlDataInterface upstream forwardService)]

/-! ## `NsROAppControlDataService` -/

/-- A command without buffers that dispatches its argument and gives the answer back. -/
def dispatchInOut (srv : Service) (cmdId : Nat) (data : List Nat)
    (out : ServiceReply → List Nat) : m (Performed Effect) := do
  let reply ← upstream.serviceDispatch srv.session ⟨cmdId, data, [], 0⟩
  pure ⟨reply.rc, out reply, [], none⟩

/-- The `u8` a call gives out. -/
def outU8 (reply : ServiceReply) : List Nat :=
  [(BitVec.ofNat 8 (reply.data.headD 0)).toNat]

/-- The `u64` a call gives out. -/
def outU64 (reply : ServiceReply) : List Nat :=
  [(BitVec.ofNat 64 (reply.data.headD 0)).toNat]

/-- `NsROAppControlDataService::GetAppControlData`. -/
def getAppControlDataCommand (sdCard : SdCard) (fileUtils : FileUtils) (srv : Service)
    (arguments : Arguments) : m (Performed Effect) := do
  let flag := arguments.u8 0
  let tid := arguments.u64 1
  let buffer := firstBuffer arguments
  let reply ← upstream.serviceDispatch srv.session ⟨0, [flag.toNat, tid.toNat], [buffer], 0⟩
  let forwarded : ControlReply buffer.size :=
    ⟨reply.rc, (writtenBuffer buffer reply).bytes, BitVec.ofNat 64 (reply.data.headD 0)⟩
  let processed := getAppControlData sdCard fileUtils tid forwarded
  pure ⟨processed.rc, [processed.outSize.toNat], [⟨buffer.size, processed.buffer⟩], none⟩

/-- `NsROAppControlDataService::GetAppDesiredLanguage`. -/
def getAppDesiredLanguage (srv : Service) (arguments : Arguments) : m (Performed Effect) :=
  dispatchInOut upstream srv 1 [(arguments.u32 0).toNat] outU8

/-- `NsROAppControlDataService::ConvertAppLanguageToLanguageCode`. -/
def convertAppLanguageToLanguageCode (srv : Service) (arguments : Arguments) :
    m (Performed Effect) :=
  dispatchInOut upstream srv 2 [(arguments.u8 0).toNat] outU64

/-- `NsROAppControlDataService::ConvertLanguageCodeToAppLanguage`. -/
def convertLanguageCodeToAppLanguage (srv : Service) (arguments : Arguments) :
    m (Performed Effect) :=
  dispatchInOut upstream srv 3 [(arguments.u64 0).toNat] outU8

/-- `NsROAppControlDataService::SelectApplicationDesiredLanguage`. -/
def selectApplicationDesiredLanguage (srv : Service) (_ : Arguments) :
    m (Performed Effect) :=
  dispatchInOut upstream srv 4 [] fun _ => []

/-- The command that `Unk1` and `Unk2` have in common. -/
def unknownCommand (srv : Service) (cmdId : Nat) (arguments : Arguments) :
    m (Performed Effect) := do
  let flag := arguments.u8 0
  let tid := arguments.u64 1
  let buffer := firstBuffer arguments
  let reply ←
    upstream.serviceDispatch srv.session ⟨cmdId, [flag.toNat, tid.toNat], [buffer], 0⟩
  pure ⟨reply.rc, outU64 reply, [writtenBuffer buffer reply], none⟩

/-- `NsROAppControlDataService::Unk1`. -/
def unk1 (srv : Service) (arguments : Arguments) : m (Performed Effect) :=
  unknownCommand upstream srv 5 arguments

/-- `NsROAppControlDataService::Unk2`. -/
def unk2 (srv : Service) (arguments : Arguments) : m (Performed Effect) :=
  unknownCommand upstream srv 6 arguments

/-- `(u8 flag, u64 tid, const OutBuffer &buffer, Out<u64> out_count)`. -/
def controlDataInfo : CommandMetaInfo :=
  ⟨[.int 1, .int 8], [.int 8], 1, 0, 0⟩

/-- The table of `NsROAppControlDataInterface`. -/
def nsROAppControlDataInterface (sdCard : SdCard) (fileUtils : FileUtils) (srv : Service) :
    List (ServiceCommandMeta m Effect) :=
  [methodInfo 0 controlDataInfo (getAppControlDataCommand upstream sdCard fileUtils srv),
    methodInfo 1 ⟨[.int 4], [.int 1], 0, 0, 0⟩ (getAppDesiredLanguage upstream srv),
    methodInfo 2 ⟨[.int 1], [.int 8], 0, 0, 0⟩ (convertAppLanguageToLanguageCode upstream srv),
    methodInfo 3 ⟨[.int 8], [.int 1], 0, 0, 0⟩ (convertLanguageCodeToAppLanguage upstream srv),
    methodInfo 4 ⟨[], [], 0, 0, 0⟩ (selectApplicationDesiredLanguage upstream srv),
    methodInfo 5 controlDataInfo (unk1 upstream srv),
    methodInfo 6 controlDataInfo (unk2 upstream srv)]

end

/-! ## `HipcManagerImpl` -/

/-- `DefaultServerManagerOptions::MaxDomains`. -/
def maxDomains : Nat :=
  0

/-- `ServerManager::AllocateDomain`: the first domain that is not allocated. -/
def allocateDomain (domainAllocated : Fin maxDomains → Bool) : Option (Fin maxDomains) :=
  (List.finRange maxDomains).find? fun i => !domainAllocated i

section

variable {m : Type → Type} [Monad m]

/-- `HipcManagerImpl::ConvertCurrentObjectToDomain`; there is no domain to allocate. -/
def convertCurrentObjectToDomain (_ : Arguments) : m (Performed Effect) :=
  match allocateDomain fun i => i.elim0 with
  | none => pure ⟨resultOutOfDomains, [], [], none⟩
  | some domain => domain.elim0

/-- `HipcManagerImpl::CopyFromCurrentDomain`; no session serves a domain. -/
def copyFromCurrentDomain (_ : Arguments) : m (Performed Effect) :=
  pure ⟨resultTargetNotDomain, [], [], none⟩

/-- `HipcManagerImpl::CloneCurrentObject`. -/
def cloneCurrentObject (_ : Arguments) : m (Performed Effect) :=
  pure ⟨0, [], [], some .cloneSession⟩

/-- `HipcManagerImpl::QueryPointerBufferSize`. -/
def queryPointerBufferSize (pointerBufferSize : Nat) (_ : Arguments) : m (Performed Effect) :=
  pure ⟨0, [(BitVec.ofNat 16 pointerBufferSize).toNat], [], none⟩

/-- `HipcManagerImpl::CloneCurrentObjectEx`; every tag names the same manager. -/
def cloneCurrentObjectEx (_ : Arguments) : m (Performed Effect) :=
  pure ⟨0, [], [], some .cloneSession⟩

/-- The table of `IHipcManager`. -/
def hipcManagerInterface (pointerBufferSize : Nat) : List (ServiceCommandMeta m Effect) :=
  [methodInfo 0 ⟨[], [.int 4], 0, 0, 0⟩ convertCurrentObjectToDomain,
    methodInfo 1 ⟨[.int 4], [], 0, 1, 0⟩ copyFromCurrentDomain,
    methodInfo 2 ⟨[], [], 0, 1, 0⟩ cloneCurrentObject,
    methodInfo 3 ⟨[], [.int 2], 0, 0, 0⟩ (queryPointerBufferSize pointerBufferSize),
    methodInfo 4 ⟨[.int 4], [], 0, 1, 0⟩ cloneCurrentObjectEx]

end

end SysTweak.Mitm
