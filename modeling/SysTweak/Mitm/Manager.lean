import SysTweak.Ledger.Slots
import SysTweak.Memory.Counted
import SysTweak.Memory.Pool
import SysTweak.Mitm.Services
import SysTweak.Transition.Run

/-!
# The server manager

`MitmManager`, with what it inherits from `ServerManager`, `ServerManagerBase` and
`ServerSessionManager`: the servers of its ports, the sessions it has accepted, the
objects these serve and the forward services they share.  A step is one round of
`LoopProcess`, which processes one signaled holder of the wait list; what the kernel and
the other services answer meanwhile comes with the signal.  The outputs are the kernel
handles the process gets and closes.
-/

namespace SysTweak.Mitm

open SysTweak.Ledger
open SysTweak.Memory
open SysTweak.Nacp
open SysTweak.Platform
open SysTweak.Sf
open SysTweak.Transition

/-! ## The features -/

/-- `MitmManagerPort`. -/
inductive Port
  | nsVm | nsAm2 | nsRo
  deriving DecidableEq

/-- `HAVE_NSVM_SAFE`, `HAVE_NSAM_CONTROL` and `HAVE_NSRO_CONTROL`. -/
structure Features where
  nsvmSafe : Bool
  nsamControl : Bool
  nsroControl : Bool
  deriving DecidableEq

/-- The enumerators of `MitmManagerPort`, each at the index that is its value. -/
def Features.ports (features : Features) : List Port :=
  (if features.nsvmSafe then [.nsVm] else []) ++
    ((if features.nsamControl then [.nsAm2] else []) ++
      (if features.nsroControl then [.nsRo] else []))

/-- `GetMaxSessions` of the service of a port. -/
def Port.maxSessions : Port → Nat
  | .nsVm => 16
  | .nsAm2 => 4
  | .nsRo => 4

/-- `MitmManagerMaxSessions`. -/
def Features.maxSessions (features : Features) : Nat :=
  1 + (features.ports.map Port.maxSessions).sum

/-! ## The state -/

/-- The objects that sessions serve.  The first two share a forward service, the last
owns its service. -/
inductive ServiceObject
  | nsVmMitmService (forwardService : Ptr)
  | nsServiceGetterMitmService (forwardService : Ptr)
  | nsROAppControlDataService (srv : Service)
  deriving DecidableEq

/-- The object `OnNeedsToAccept` makes for a port. -/
def Port.object (port : Port) (forwardService : Ptr) : ServiceObject :=
  match port with
  | .nsVm => .nsVmMitmService forwardService
  | .nsAm2 => .nsServiceGetterMitmService forwardService
  | .nsRo => .nsServiceGetterMitmService forwardService

/-- `ServerSession`. -/
structure ServerSession where
  srvObjHolder : Ptr
  pointerBufferSize : Nat
  savedMessage : Option Message
  forwardService : Option Ptr
  sessionHandle : Handle
  isClosed : Bool
  hasReceived : Bool

/-- `ServerManagerBase::Server`. -/
structure Server where
  portHandle : Handle
  index : Nat
  deriving DecidableEq

/-- What can be in the wait list. -/
inductive Waitable
  | server (slot : Nat)
  | session (slot : Nat)
  deriving DecidableEq

/-- `MitmManager`, with the objects it serves and the forward services they share. -/
structure Manager where
  /-- `server_storages` and `server_allocated`. -/
  servers : Pool Server
  /-- `session_storages` and `session_allocated`. -/
  sessions : Pool ServerSession
  /-- The service objects, with their reference counts. -/
  objects : Heap (Counted ServiceObject)
  /-- What the `std::shared_ptr<Service>` point to, with the use counts. -/
  forwards : Heap (Counted Service)
  /-- The holders linked to `waitable_manager` or `waitlist`. -/
  linked : List Waitable

/-- What ends the process. -/
inductive Fault
  /-- `R_ABORT_UNLESS` of a result. -/
  | result (rc : Result)
  /-- `AMS_ABORT_UNLESS`. -/
  | assertion
  /-- `AMS_UNREACHABLE_DEFAULT_CASE`. -/
  | unreachable
  /-- Memory is used that was freed or never constructed. -/
  | dangling
  deriving DecidableEq

/-- `MitmManager` after its construction. -/
def Manager.create (features : Features) : Manager where
  servers := .vacant features.ports.length
  sessions := .vacant features.maxSessions
  objects := .empty
  forwards := .empty
  linked := []

/-! ## Actions -/

/-- The end of an action: a fault, or the next state and what was got and closed. -/
abbrev Outcome := Except Fault (Manager × List (Entry Handle))

/-- Something the manager does. -/
abbrev Action := Manager → Outcome

/-- One action after another. -/
def Action.andThen (first second : Action) : Action := fun manager =>
  match first manager with
  | .error fault => .error fault
  | .ok (next, ledger) =>
      match second next with
      | .error fault => .error fault
      | .ok (target, rest) => .ok (target, ledger ++ rest)

/-- Do nothing. -/
def Action.skip : Action := fun manager =>
  .ok (manager, [])

/-- End the process. -/
def Action.fail (fault : Fault) : Action := fun _ =>
  .error fault

/-- A new `std::shared_ptr` to a service that was just opened. -/
def addForward (service : Service) : Action := fun manager =>
  .ok ({ manager with forwards := manager.forwards.share service },
    [.acquire service.session])

/-- Copy a `std::shared_ptr`. -/
def retainForward (cell : Ptr) : Action := fun manager =>
  match manager.forwards.retain cell with
  | none => .error .dangling
  | some forwards => .ok ({ manager with forwards := forwards }, [])

/-- Destroy a `std::shared_ptr`; the last one runs `ForwardServiceDeleter`. -/
def dropForward (cell : Ptr) : Action := fun manager =>
  match manager.forwards.release cell with
  | none => .error .dangling
  | some (forwards, none) => .ok ({ manager with forwards := forwards }, [])
  | some (forwards, some service) =>
      .ok ({ manager with forwards := forwards }, [.release service.session])

/-- The handle an object closes in its destructor. -/
def ServiceObject.srv : ServiceObject → Option Handle
  | .nsVmMitmService _ => none
  | .nsServiceGetterMitmService _ => none
  | .nsROAppControlDataService srv => some srv.session

/-- `CreateSharedObjectEmplaced`. -/
def addObject (object : ServiceObject) : Action := fun manager =>
  .ok ({ manager with objects := manager.objects.share object },
    (object.srv.map Entry.acquire).toList)

/-- `SharedPointerBase` copied: `AddReferenceImpl` of the object. -/
def retainObject (cell : Ptr) : Action := fun manager =>
  if manager.objects.references cell < 0xffffffff then
    match manager.objects.retain cell with
    | none => .error .dangling
    | some objects => .ok ({ manager with objects := objects }, [])
  else .error .assertion

/-- The destructor of an object whose last reference was given up. -/
def destroyObject : ServiceObject → Action
  | .nsVmMitmService forwardService => dropForward forwardService
  | .nsServiceGetterMitmService forwardService => dropForward forwardService
  | .nsROAppControlDataService srv => fun manager => .ok (manager, [.release srv.session])

/-- `ReleaseImpl` of an object. -/
def dropObject (cell : Ptr) : Action := fun manager =>
  match manager.objects.release cell with
  | none => .error .dangling
  | some (objects, none) => .ok ({ manager with objects := objects }, [])
  | some (objects, some object) => destroyObject object { manager with objects := objects }

/-! ## Sessions -/

/-- `AllocateSession` and the construction of the session, which goes to the wait list. -/
def createSession (session : ServerSession) : Action := fun manager =>
  match manager.sessions.firstFree with
  | none => .error (.result resultOutOfSessionMemory)
  | some slot =>
      .ok ({ manager with
          sessions := manager.sessions.fill slot session
          linked := manager.linked ++ [.session slot] },
        [.acquire session.sessionHandle])

/-- `FreeSession`, and the session's handle closed. -/
def freeSession (slot : Nat) : Action := fun manager =>
  match manager.sessions.get slot with
  | none => .error .assertion
  | some session =>
      .ok ({ manager with sessions := manager.sessions.clear slot },
        [.release session.sessionHandle])

/-- `ServerSessionManager::CloseSessionImpl`; the members of a session are destroyed in
the reverse order of their declaration. -/
def closeSessionImpl (slot : Nat) : Action := fun manager =>
  match manager.sessions.get slot with
  | none => .error .dangling
  | some session =>
      ((session.forwardService.elim Action.skip dropForward).andThen
        ((dropObject session.srvObjHolder).andThen (freeSession slot))) manager

/-- The pointer buffer of every session, `DefaultServerManagerOptions::PointerBufferSize`. -/
def pointerBufferSize : Nat :=
  0

/-- A session that serves an object, after its constructor. -/
def serverSession (object : Ptr) (handle : Handle) : ServerSession where
  srvObjHolder := object
  pointerBufferSize := pointerBufferSize
  savedMessage := none
  forwardService := none
  sessionHandle := handle
  isClosed := false
  hasReceived := false

/-- `ServerSessionManager::RegisterSession`. -/
def registerSession (object : Ptr) (handle : Handle) : Action :=
  createSession (serverSession object handle)

/-- `ServerSessionManager::RegisterMitmSessionImpl`, in the memory of a new session. -/
def registerMitmSession (object : Ptr) (handle : Handle) (cell : Ptr) (service : Service) :
    Action :=
  if service.pointerBufferSize ≤ pointerBufferSize then
    createSession
      { serverSession object handle with
        forwardService := some cell
        pointerBufferSize := service.pointerBufferSize }
  else .fail .assertion

/-! ## Ports -/

/-- What is answered while a port is served: `sm::mitm::AcknowledgeSession` and
`svcAcceptSession`. -/
structure PortAnswers where
  acknowledgeSession : Result
  forwardService : Service
  acceptSession : Result
  sessionHandle : Handle
  deriving DecidableEq

/-- `ServerSessionManager::AcceptMitmSession`.  When no session is accepted, memory
without a session is destroyed before the process aborts. -/
def acceptMitmSession (answers : PortAnswers) (object cell : Ptr) : Action := fun manager =>
  if manager.sessions.firstFree.isNone then .error (.result resultOutOfSessionMemory)
  else if answers.acceptSession.failed then .error (.result answers.acceptSession)
  else registerMitmSession object answers.sessionHandle cell answers.forwardService manager

/-- `MitmManager::OnNeedsToAccept`. -/
def onNeedsToAccept (features : Features) (portIndex : Nat) (answers : PortAnswers) :
    Action := fun manager =>
  if answers.acknowledgeSession.failed then .error (.result answers.acknowledgeSession)
  else
    match features.ports[portIndex]? with
    | none => .error .unreachable
    | some port =>
        let fsrv := manager.forwards.next
        let object := manager.objects.next
        ((addForward answers.forwardService).andThen
          ((retainForward fsrv).andThen
            ((addObject (port.object fsrv)).andThen
              ((retainForward fsrv).andThen
                ((acceptMitmSession answers object fsrv).andThen
                  (dropForward fsrv)))))) manager

/-- Put a holder back in the wait list. -/
def registerToWaitList (waitable : Waitable) : Action := fun manager =>
  .ok ({ manager with linked := manager.linked ++ [waitable] }, [])

/-- `ServerManagerBase::ProcessForMitmServer`. -/
def processForMitmServer (features : Features) (slot : Nat) (answers : PortAnswers) :
    Action := fun manager =>
  match manager.servers.get slot with
  | none => .error .dangling
  | some server =>
      ((onNeedsToAccept features server.index answers).andThen
        (registerToWaitList (.server slot))) manager

/-! ## Requests -/

/-- How `hipc::Receive` ends. -/
inductive Received
  | failed (rc : Result)
  | closed
  | success (message : Message)

/-- What is answered while a session is served, and what the commands read besides. -/
structure SessionAnswers where
  received : Received
  upstream : Upstream Id
  sdCard : SdCard
  fileUtils : FileUtils
  /-- `hipc::CreateSession`, with the server's side of the session. -/
  createSession : Result
  serverHandle : Handle
  /-- `serviceClone`. -/
  serviceClone : Result
  clonedSession : Handle
  /-- `svcReplyAndReceive`, which does not receive. -/
  reply : Result

/-- The object of a session and the services it reaches; none if one was freed. -/
inductive Served
  | nsVm
  | nsServiceGetter (forwardService : Service)
  | nsROAppControlData (srv : Service)
  deriving DecidableEq

/-- The object of a session. -/
def Manager.served (manager : Manager) (session : ServerSession) : Option Served :=
  match manager.objects.value? session.srvObjHolder with
  | none => none
  | some (.nsVmMitmService _) => some .nsVm
  | some (.nsServiceGetterMitmService cell) =>
      (manager.forwards.value? cell).map .nsServiceGetter
  | some (.nsROAppControlDataService srv) => some (.nsROAppControlData srv)

/-- The forward service of a session; `some none` if it has none. -/
def Manager.servedForward (manager : Manager) (session : ServerSession) :
    Option (Option Service) :=
  match session.forwardService with
  | none => some none
  | some cell => (manager.forwards.value? cell).map some

section

variable {m : Type → Type} [Monad m]

/-- `ServiceObjectHolder::ProcessMessage`. -/
def processMessage (upstream : Upstream m) (sdCard : SdCard) (fileUtils : FileUtils)
    (hosVersion : Nat) (forwardService : Option Service) (served : Served)
    (message : Message) : m (Processed Effect) :=
  match served with
  | .nsVm =>
      processMessageForMitmImpl upstream forwardService hosVersion nsVmMitmInterface message
  | .nsServiceGetter objectService =>
      processMessageForMitmImpl upstream forwardService hosVersion
        (nsServiceGetterMitmInterface upstream objectService) message
  | .nsROAppControlData srv =>
      processMessageImpl hosVersion
        (nsROAppControlDataInterface upstream sdCard fileUtils srv) message

/-- `ServerSessionManager::ProcessRequestImpl` up to the reply. -/
def processRequestImpl (upstream : Upstream m) (sdCard : SdCard) (fileUtils : FileUtils)
    (hosVersion pointerBufferSize : Nat) (forwardService : Option Service) (served : Served)
    (message : Message) : m (Processed Effect) :=
  let request := dispatchRequest
    (processMessage upstream sdCard fileUtils hosVersion forwardService served) message
  let managerRequest := dispatchRequest
    (processMessageImpl hosVersion (hipcManagerInterface pointerBufferSize)) message
  match message.commandType with
  | .request => request
  | .requestWithContext => request
  | .control => managerRequest
  | .controlWithContext => managerRequest
  | .close => pure (.returned resultUnknownCommandType)
  | .unknown => pure (.returned resultUnknownCommandType)

end

/-- `SetOutObjectImpl` for a new `NsROAppControlDataService`. -/
def setOutObject (answers : SessionAnswers) (srv : Service) : Action := fun manager =>
  ((addObject (.nsROAppControlDataService srv)).andThen
    (if answers.createSession.failed then .fail (.result answers.createSession)
    else registerSession manager.objects.next answers.serverHandle)) manager

/-- `HipcManagerImpl::CloneCurrentObjectImpl`. -/
def cloneCurrentObjectImpl (session : ServerSession) (answers : SessionAnswers) : Action :=
  fun manager =>
    ((retainObject session.srvObjHolder).andThen
      (if answers.createSession.failed then .fail (.result answers.createSession)
      else
        match manager.servedForward session with
        | none => .fail .dangling
        | some none => registerSession session.srvObjHolder answers.serverHandle
        | some (some service) =>
            if answers.serviceClone.failed then .fail (.result answers.serviceClone)
            else
              let clone : Service := ⟨answers.clonedSession, service.pointerBufferSize⟩
              (addForward clone).andThen
                (registerMitmSession session.srvObjHolder answers.serverHandle
                  manager.forwards.next clone))) manager

/-- What a command has the manager do. -/
def carryOut (session : ServerSession) (answers : SessionAnswers) :
    Option Effect → Action
  | none => .skip
  | some (.registerObject srv) => setOutObject answers srv
  | some .cloneSession => cloneCurrentObjectImpl session answers

/-- `svc::ResultTimedOut`. -/
def timedOut : ResultRange :=
  ⟨1, 117, 117⟩

/-- `svc::ResultSessionClosed`. -/
def sessionClosed : ResultRange :=
  ⟨1, 123, 123⟩

/-- `RegisterSessionToWaitList`. -/
def registerSessionToWaitList (slot : Nat) : Action := fun manager =>
  match manager.sessions.get slot with
  | none => .error .dangling
  | some session =>
      .ok ({ manager with
          sessions := manager.sessions.fill slot { session with hasReceived := false }
          linked := manager.linked ++ [.session slot] }, [])

/-- A result of `ProcessRequestImpl` other than success: the session is closed, unless a
meta message has changed the context of the request. -/
def catchResult (slot : Nat) (rc : Result) : Action :=
  if requestContextChanged.includes rc then
    if requestInvalidated.includes rc then .skip else .fail (.result rc)
  else closeSessionImpl slot

/-- `hipc::Reply` and what follows. -/
def reply (slot : Nat) (rc : Result) : Action :=
  if timedOut.includes rc || sessionClosed.includes rc then registerSessionToWaitList slot
  else if rc.succeeded then .fail .assertion
  else catchResult slot rc

/-- The copies of handles in a response, which are closed after the reply. -/
def handlesToClose (handles : List Handle) : Action := fun manager =>
  .ok (manager, handles.map .acquire ++ handles.map .release)

/-- The rest of `ServerSessionManager::ProcessRequest`. -/
def finishRequest (slot : Nat) (session : ServerSession) (answers : SessionAnswers) :
    Processed Effect → Action
  | .aborted => .fail .assertion
  | .returned rc => catchResult slot rc
  | .replied (.header _ _ _ effect) =>
      (carryOut session answers effect).andThen (reply slot answers.reply)
  | .replied (.forwarded response) =>
      (handlesToClose response.copyHandles).andThen (reply slot answers.reply)

/-- `ServerSessionManager::ProcessRequest`, for the message in the TLS. -/
def processRequest (hosVersion slot : Nat) (session : ServerSession)
    (answers : SessionAnswers) (message : Message) : Action := fun manager =>
  if session.isClosed then closeSessionImpl slot manager
  else if message.commandType = .close then closeSessionImpl slot manager
  else
    match manager.servedForward session, manager.served session with
    | some forwardService, some served =>
        finishRequest slot session answers
          (processRequestImpl (m := Id) answers.upstream answers.sdCard answers.fileUtils
            hosVersion session.pointerBufferSize forwardService served message) manager
    | _, _ => .error .dangling

/-- The session with what it has received. -/
def ServerSession.receive (session : ServerSession) (closed : Bool)
    (message : Option Message) : ServerSession :=
  { session with isClosed := closed, hasReceived := true, savedMessage := message }

/-- `ServerManagerBase::ProcessForSession`.  A session that was deferred uses the message
it has saved. -/
def processForSession (hosVersion slot : Nat) (answers : SessionAnswers) : Action :=
  fun manager =>
    match manager.sessions.get slot with
    | none => .error .dangling
    | some session =>
        if session.hasReceived then
          match session.savedMessage with
          | none => .error .dangling
          | some message => processRequest hosVersion slot session answers message manager
        else
          match answers.received with
          | .failed rc => .error (.result rc)
          | .closed => closeSessionImpl slot manager
          | .success message =>
              let session := session.receive false (some message)
              processRequest hosVersion slot session answers message
                { manager with sessions := manager.sessions.fill slot session }

/-! ## The loop -/

/-- A holder is signaled. -/
inductive Signal
  | port (slot : Nat) (answers : PortAnswers)
  | session (slot : Nat) (answers : SessionAnswers)

/-- One round of `LoopProcess`.  Only a linked holder is signaled; it is unlinked before
it is processed. -/
def loopProcess (features : Features) (hosVersion : Nat) :
    Step Manager Signal (Entry Handle) Fault
  | manager, .port slot answers =>
      if .server slot ∈ manager.linked then
        processForMitmServer features slot answers
          { manager with linked := manager.linked.erase (.server slot) }
      else .ok (manager, [])
  | manager, .session slot answers =>
      if .session slot ∈ manager.linked then
        processForSession hosVersion slot answers
          { manager with linked := manager.linked.erase (.session slot) }
      else .ok (manager, [])

/-- What is answered while a service is installed: `sm::mitm::InstallMitm` and
`sm::mitm::ClearFutureMitm`. -/
structure InstallAnswers where
  installMitm : Result
  portHandle : Handle
  clearFutureMitm : Result
  deriving DecidableEq

/-- `ServerManagerBase::RegisterMitmServer`. -/
def registerMitmServer (portIndex : Nat) (answers : InstallAnswers) : Action :=
  fun manager =>
    if answers.installMitm.failed then .error (.result answers.installMitm)
    else if answers.clearFutureMitm.failed then .error (.result answers.clearFutureMitm)
    else
      match manager.servers.firstFree with
      | none => .error .assertion
      | some slot =>
          .ok ({ manager with
              servers := manager.servers.fill slot ⟨answers.portHandle, portIndex⟩
              linked := manager.linked ++ [.server slot] },
            [.acquire answers.portHandle])

/-- `MitmManager::RegisterServers`. -/
def registerServers (features : Features) (answers : Nat → InstallAnswers) : Action :=
  (List.range features.ports.length).foldr
    (fun portIndex rest => (registerMitmServer portIndex (answers portIndex)).andThen rest)
    .skip

/-- `DestroyServer`, after a successful `sm::mitm::UninstallMitm`. -/
def destroyServer (slot : Nat) : Action := fun manager =>
  match manager.servers.get slot with
  | none => .ok (manager, [])
  | some server =>
      .ok ({ manager with servers := manager.servers.clear slot },
        [.release server.portHandle])

/-- A slot of the first loop of `~ServerManager`. -/
def closeAllocated (slot : Nat) : Action := fun manager =>
  if (manager.sessions.get slot).isSome then closeSessionImpl slot manager
  else .ok (manager, [])

/-- `~ServerManager`. -/
def destroyManager (features : Features) : Action :=
  ((List.range features.maxSessions).foldr
    (fun slot rest => (closeAllocated slot).andThen rest) .skip).andThen
    ((List.range features.ports.length).foldr
      (fun slot rest => (destroyServer slot).andThen rest) .skip)

end SysTweak.Mitm
