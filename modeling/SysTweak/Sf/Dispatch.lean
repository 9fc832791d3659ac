import SysTweak.Sf.Message

/-!
# Dispatch

How a request gets from a session to the command it names: `DispatchRequest` of
`sf_hipc_server_session_manager.cpp`, and `ProcessMessageImpl` and
`ProcessMessageForMitmImpl` of `sf_cmif_service_dispatch.cpp`.  The sessions of other
services are reached through `Upstream`, in any monad; what a command does to the server
manager besides is an effect `ω`, which is carried out before the reply.
-/

namespace SysTweak.Sf

open SysTweak.Platform

/-- The name of one kernel session; it is never given to another. -/
abbrev Handle := Nat

/-- `Service`, a session of another service that was not made a domain. -/
structure Service where
  session : Handle
  pointerBufferSize : Nat
  deriving DecidableEq

/-- A call of `serviceDispatchInOut`: the members of `in`, the buffers, and how many
objects are asked for. -/
structure ServiceCall where
  commandId : Nat
  data : List Nat
  buffers : List Mapped
  numOutObjects : Nat

/-- The answer: the members of `out`, the bytes the buffers hold afterwards, and the
object. -/
structure ServiceReply where
  rc : Result
  data : List Nat
  bytes : Nat → BitVec 8
  object : Service

/-- What `svcSendSyncRequest` leaves in the TLS, with the handles it contains copies of. -/
structure Forwarded where
  message : List (BitVec 8)
  copyHandles : List Handle

/-- The calls that leave the process. -/
structure Upstream (m : Type → Type) where
  /-- `svcSendSyncRequest`, with the message that is in the TLS. -/
  sendSyncRequest : Handle → Message → m (Result × Forwarded)
  /-- `serviceDispatchInOut` and its relatives. -/
  serviceDispatch : Handle → ServiceCall → m ServiceReply

/-- What a command leaves behind. -/
structure Performed (ω : Type) where
  rc : Result
  data : List Nat
  buffers : List Mapped
  effect : Option ω

/-- What a handler returns: an error before the reply was begun, or the result of its
command. -/
inductive Handled (ω : Type)
  | rejected (rc : Result) (failed : rc.failed = true)
  | answered (performed : Performed ω)

/-- The reply that is in the TLS when a request was processed. -/
inductive Response (ω : Type)
  | header (rc : Result) (data : List Nat) (buffers : List Mapped) (effect : Option ω)
  | forwarded (response : Forwarded)

/-- How the processing of a request ends: the process aborts, an error is returned, or
success with a reply in the TLS. -/
inductive Processed (ω : Type)
  | aborted
  | returned (rc : Result)
  | replied (response : Response ω)

section

variable {m : Type → Type} [Monad m] {ω : Type}

/-- `InvokeServiceCommandImplCommon`. -/
def invokeServiceCommand (info : CommandMetaInfo) (impl : Arguments → m (Performed ω))
    (message : Message) : m (Handled ω) :=
  if prepared : (info.prepareForProcess message).failed = true then
    pure (.rejected _ prepared)
  else if processed : (processBuffers message).failed = true then
    pure (.rejected _ processed)
  else do
    let performed ← impl (info.deserializeArguments message)
    pure (.answered performed)

/-- A request that is accepted reaches its command. -/
theorem invokeServiceCommand_of_accepted {info : CommandMetaInfo}
    {impl : Arguments → m (Performed ω)} {message : Message}
    (prepared : info.prepareForProcess message = 0) (processed : processBuffers message = 0) :
    invokeServiceCommand info impl message =
      impl (info.deserializeArguments message) >>= fun performed =>
        pure (.answered performed) := by
  have valid : ¬ (info.prepareForProcess message).failed = true := by
    rw [prepared]
    decide
  have mapped : ¬ (processBuffers message).failed = true := by
    rw [processed]
    decide
  unfold invokeServiceCommand
  rw [dif_neg valid, dif_neg mapped]

/-- `hos::Version_Min`. -/
def versionMin : Nat :=
  0

/-- `hos::Version_5_0_0`. -/
def version500 : Nat :=
  0x05000000

/-- `hos::Version_Max`. -/
def versionMax : Nat :=
  0x0d000000

/-- `ServiceCommandMeta`. -/
structure ServiceCommandMeta (m : Type → Type) (ω : Type) where
  hosverLow : Nat
  hosverHigh : Nat
  cmdId : Nat
  handler : Message → m (Handled ω)

/-- `ServiceCommandMeta::Matches`. -/
def ServiceCommandMeta.matches (entry : ServiceCommandMeta m ω) (cmdId hosver : Nat) : Bool :=
  let minValid := entry.hosverLow == versionMin
  let maxValid := entry.hosverHigh == versionMax
  entry.cmdId == cmdId && (minValid || decide (entry.hosverLow ≤ hosver)) &&
    (maxValid || decide (hosver ≤ entry.hosverHigh))

/-- The loop that looks for a handler. -/
def findHandler (entries : List (ServiceCommandMeta m ω)) (cmdId hosver : Nat) :
    Option (Message → m (Handled ω)) :=
  (entries.find? fun entry => entry.matches cmdId hosver).map ServiceCommandMeta.handler

omit [Monad m] in
theorem exists_entry_of_findHandler {entries : List (ServiceCommandMeta m ω)}
    {cmdId hosver : Nat} {handler : Message → m (Handled ω)}
    (found : findHandler entries cmdId hosver = some handler) :
    ∃ entry ∈ entries, entry.handler = handler := by
  rw [findHandler, Option.map_eq_some_iff] at found
  rcases found with ⟨entry, found, rfl⟩
  exact ⟨entry, List.mem_of_find?_eq_some found, rfl⟩

/-- The header of a request, and the command it names. -/
def parseInHeader (hosVersion : Nat) (message : Message) : Except Result Nat :=
  let maxCmifVersion := if hosVersion ≥ version500 then 1 else 0
  if message.rawSize < sizeofCmifInHeader then .error resultInvalidHeaderSize
  else if message.inHeader.magic = cmifInHeaderMagic ∧
      message.inHeader.version ≤ maxCmifVersion then
    .ok message.inHeader.commandId
  else .error resultInvalidInHeader

/-- What follows a handler: its result goes to the caller or into the reply's header. -/
def writeOutHeader : Handled ω → Processed ω
  | .rejected rc _ => .returned rc
  | .answered performed =>
      if requestContextChanged.includes performed.rc then .returned performed.rc
      else if performed.rc.failed then
        .replied (.header performed.rc [] performed.buffers none)
      else .replied (.header performed.rc performed.data performed.buffers performed.effect)

/-- The result of a handler. -/
def Handled.result : Handled ω → Result
  | .rejected rc _ => rc
  | .answered performed => performed.rc

/-- `ServiceDispatchTableBase::ProcessMessageImpl`. -/
def processMessageImpl (hosVersion : Nat) (entries : List (ServiceCommandMeta m ω))
    (message : Message) : m (Processed ω) :=
  match parseInHeader hosVersion message with
  | .error rc => pure (.returned rc)
  | .ok cmdId =>
      match findHandler entries cmdId hosVersion with
      | none => pure (.returned resultUnknownCommandId)
      | some handler => do
          let handled ← handler message
          pure (writeOutHeader handled)

variable (upstream : Upstream m)

/-- `PreProcessCommandBufferForMitm`: the process id is tagged, and what the service
sends statically goes to the pointer buffer of the session. -/
def preProcessCommandBufferForMitm (pointerBufferSize : Nat) (message : Message) : Message :=
  { message with
    processId :=
      if message.sendPid then 0xFFFE000000000000 ||| (message.processId &&& 0x0000FFFFFFFFFFFF)
      else message.processId
    recvStatics :=
      if message.recvStatics.num ≠ 0 then
        { message.recvStatics with mode := 2, size := pointerBufferSize }
      else message.recvStatics }

/-- `ServerSession::ForwardRequest`; a session without a forward service aborts. -/
def forwardRequest (forwardService : Option Service) (savedMessage : Message) :
    m (Processed ω) :=
  match forwardService with
  | none => pure .aborted
  | some service => do
      let sent ← upstream.sendSyncRequest service.session
        (preProcessCommandBufferForMitm service.pointerBufferSize savedMessage)
      if sent.1.failed then pure (.returned sent.1)
      else pure (.replied (.forwarded sent.2))

/-- `ServiceDispatchTableBase::ProcessMessageForMitmImpl`. -/
def processMessageForMitmImpl (forwardService : Option Service) (hosVersion : Nat)
    (entries : List (ServiceCommandMeta m ω)) (message : Message) : m (Processed ω) :=
  match parseInHeader hosVersion message with
  | .error rc => pure (.returned rc)
  | .ok cmdId =>
      match findHandler entries cmdId hosVersion with
      | none => forwardRequest upstream forwardService message
      | some handler => do
          let handled ← handler message
          if shouldForwardToSession.includes handled.result then
            forwardRequest upstream forwardService message
          else pure (writeOutHeader handled)

/-- `ServerSessionManager::DispatchRequest` up to the reply. -/
def dispatchRequest (processMessage : Message → m (Processed ω)) (message : Message) :
    m (Processed ω) :=
  if message.validSizes then processMessage message
  else pure (.returned resultInvalidRequestSize)

end

end SysTweak.Sf
