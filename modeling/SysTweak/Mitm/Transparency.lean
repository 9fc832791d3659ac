import Mathlib.Control.Traversable.Instances
import Mathlib.Data.List.Forall2
import SysTweak.Mitm.Manager
import SysTweak.Nacp.Overlay
import SysTweak.Sf.Arguments
import SysTweak.Sf.Forwarding

/-!
# What clients and services notice

Between a client and the service it asked for stands an object of this process.  A client
of the control data service gets what the service itself answers, with the reply of
`GetAppControlData` overlaid; a client of `ns:vm` gets what the service answers to every
request but one, and the service gets these requests as the client sent them.
-/

namespace SysTweak.Mitm

open SysTweak.Bytes
open SysTweak.Layout
open SysTweak.Nacp
open SysTweak.Platform
open SysTweak.Sf

/-! ## The control data service -/

/-- A call of the control data service. -/
inductive ControlDataCall
  | getAppControlData (flag : BitVec 8) (tid : BitVec 64) (buffer : Mapped)
  | getAppDesiredLanguage (bitmask : BitVec 32)
  | convertAppLanguageToLanguageCode (lang : BitVec 8)
  | convertLanguageCodeToAppLanguage (code : BitVec 64)
  | selectApplicationDesiredLanguage
  | unk1 (flag : BitVec 8) (tid : BitVec 64) (buffer : Mapped)
  | unk2 (flag : BitVec 8) (tid : BitVec 64) (buffer : Mapped)

namespace ControlDataCall

/-- How the service is called. -/
def serviceCall : ControlDataCall → ServiceCall
  | .getAppControlData flag tid buffer => ⟨0, [flag.toNat, tid.toNat], [buffer], 0⟩
  | .getAppDesiredLanguage bitmask => ⟨1, [bitmask.toNat], [], 0⟩
  | .convertAppLanguageToLanguageCode lang => ⟨2, [lang.toNat], [], 0⟩
  | .convertLanguageCodeToAppLanguage code => ⟨3, [code.toNat], [], 0⟩
  | .selectApplicationDesiredLanguage => ⟨4, [], [], 0⟩
  | .unk1 flag tid buffer => ⟨5, [flag.toNat, tid.toNat], [buffer], 0⟩
  | .unk2 flag tid buffer => ⟨6, [flag.toNat, tid.toNat], [buffer], 0⟩

/-- What a caller of the service gets. -/
def original (call : ControlDataCall) (reply : ServiceReply) : Performed Effect :=
  match call with
  | .getAppControlData _ _ buffer => ⟨reply.rc, outU64 reply, [writtenBuffer buffer reply], none⟩
  | .getAppDesiredLanguage _ => ⟨reply.rc, outU8 reply, [], none⟩
  | .convertAppLanguageToLanguageCode _ => ⟨reply.rc, outU64 reply, [], none⟩
  | .convertLanguageCodeToAppLanguage _ => ⟨reply.rc, outU8 reply, [], none⟩
  | .selectApplicationDesiredLanguage => ⟨reply.rc, [], [], none⟩
  | .unk1 _ _ buffer => ⟨reply.rc, outU64 reply, [writtenBuffer buffer reply], none⟩
  | .unk2 _ _ buffer => ⟨reply.rc, outU64 reply, [writtenBuffer buffer reply], none⟩

/-- The answer to `GetAppControlData` with what is configured for the program laid over
it; every other answer stays. -/
def overlaid (sdCard : SdCard) (fileUtils : FileUtils) (call : ControlDataCall)
    (performed : Performed Effect) : Performed Effect :=
  match call with
  | .getAppControlData _ tid _ =>
      let buffer := performed.buffers.headD noMemory
      let processed := Nacp.getAppControlData sdCard fileUtils tid
        ⟨performed.rc, buffer.bytes, BitVec.ofNat 64 (performed.data.headD 0)⟩
      { performed with
        data := [processed.outSize.toNat]
        buffers := [⟨buffer.size, processed.buffer⟩] }
  | _ => performed

/-- What the interface says of a call. -/
def info : ControlDataCall → CommandMetaInfo
  | .getAppControlData _ _ _ => controlDataInfo
  | .getAppDesiredLanguage _ => ⟨[.int 4], [.int 1], 0, 0, 0⟩
  | .convertAppLanguageToLanguageCode _ => ⟨[.int 1], [.int 8], 0, 0, 0⟩
  | .convertLanguageCodeToAppLanguage _ => ⟨[.int 8], [.int 1], 0, 0, 0⟩
  | .selectApplicationDesiredLanguage => ⟨[], [], 0, 0, 0⟩
  | .unk1 _ _ _ => controlDataInfo
  | .unk2 _ _ _ => controlDataInfo

/-- The arguments of a call, by their place in the command. -/
def values (call : ControlDataCall) (i : Fin call.info.inDatas.length) : Nat :=
  call.serviceCall.data.getD i 0

/-- The arguments fit the types of the interface. -/
theorem values_lt (call : ControlDataCall) (i : Fin call.info.inDatas.length) :
    call.values i < 256 ^ (call.info.inDatas.get i).size := by
  rcases i with ⟨i, within⟩
  cases call with
  | getAppControlData flag tid buffer | unk1 flag tid buffer | unk2 flag tid buffer =>
      rcases i with _ | _ | i
      · exact flag.isLt
      · exact tid.isLt
      · exact absurd within (Nat.not_lt.mpr (Nat.le_add_left 2 i))
  | getAppDesiredLanguage bitmask =>
      rcases i with _ | i
      · exact bitmask.isLt
      · exact absurd within (Nat.not_lt.mpr (Nat.le_add_left 1 i))
  | convertAppLanguageToLanguageCode lang =>
      rcases i with _ | i
      · exact lang.isLt
      · exact absurd within (Nat.not_lt.mpr (Nat.le_add_left 1 i))
  | convertLanguageCodeToAppLanguage code =>
      rcases i with _ | i
      · exact code.isLt
      · exact absurd within (Nat.not_lt.mpr (Nat.le_add_left 1 i))
  | selectApplicationDesiredLanguage => exact absurd within (Nat.not_lt_zero i)

end ControlDataCall

/-- A message with which a client makes a call: a request that names the command, with
the arguments in a structure behind the header and the buffers mapped for output. -/
structure Sends (hosVersion : Nat) (call : ControlDataCall) (message : Message) : Prop where
  commandType : message.commandType = .request ∨ message.commandType = .requestWithContext
  validSizes : message.validSizes = true
  header : parseInHeader hosVersion message = .ok call.serviceCall.commandId
  noPid : message.sendPid = false
  noStatics : message.numSendStatics = 0
  noSendBuffers : message.numSendBuffers = 0
  noExchBuffers : message.numExchBuffers = 0
  noCopyHandles : message.numCopyHandles = 0
  noMoveHandles : message.numMoveHandles = 0
  buffers : message.recvBuffers = call.serviceCall.buffers.map fun buffer => ⟨.normal, buffer⟩
  size : alignUp call.info.unfixedOutPointerSizeOffset 4 ≤ message.inRawSize
  rawData : ∃ header, message.rawData = clientRawData call.info call.values header

namespace Sends

variable {hosVersion : Nat} {call : ControlDataCall} {message : Message}

theorem prepareForProcess (sends : Sends hosVersion call message) :
    call.info.prepareForProcess message = 0 := by
  have count : message.recvBuffers.length = call.info.numOutHipcMapAliasBuffers := by
    rw [sends.buffers, List.length_map]
    cases call <;> rfl
  rw [CommandMetaInfo.prepareForProcess]
  simp [sends.noPid, sends.noStatics, sends.noSendBuffers, sends.noExchBuffers,
    sends.noCopyHandles, sends.noMoveHandles, count, sends.size]

theorem processBuffers (sends : Sends hosVersion call message) :
    processBuffers message = 0 := by
  rw [Sf.processBuffers, sends.buffers]
  simp

/-- The command is called as the client calls it. -/
theorem deserializeArguments (sends : Sends hosVersion call message) :
    call.info.deserializeArguments message =
      ⟨call.serviceCall.data, call.serviceCall.buffers⟩ := by
  rcases sends.rawData with ⟨header, stored⟩
  have positive : ∀ type ∈ call.info.inDatas, 0 < type.size := by
    cases call <;> simp [ControlDataCall.info, controlDataInfo, CType.int]
  have ordered : Ordered call.info.inDatas := by
    cases call <;> simp [ControlDataCall.info, controlDataInfo, CType.int, Ordered]
  have values : List.ofFn call.values = call.serviceCall.data := by
    cases call <;> rfl
  rw [deserializeArguments_of_client positive ordered call.values_lt stored, values, sends.buffers,
    List.map_map]
  congr 1
  exact List.map_id _

end Sends

/-- The message of a client that makes a call. -/
def callMessage (call : ControlDataCall) : Message where
  commandType := .request
  sendPid := false
  processId := 0
  numSendStatics := 0
  recvStatics := ⟨0, 0, 0⟩
  numSendBuffers := 0
  recvBuffers := call.serviceCall.buffers.map fun buffer => ⟨.normal, buffer⟩
  numExchBuffers := 0
  numCopyHandles := 0
  numMoveHandles := 0
  numDataWords := alignUp call.info.unfixedOutPointerSizeOffset 4 / 4
  dataOffset := 8
  recvListOffset := 0x80
  rawData := clientRawData call.info call.values (requestHeader call.serviceCall.commandId)

theorem callMessage_inRawSize (call : ControlDataCall) :
    0x20 ≤ (callMessage call).inRawSize ∧ (callMessage call).inRawSize ≤ 0x30 ∧
      alignUp call.info.unfixedOutPointerSizeOffset 4 ≤ (callMessage call).inRawSize := by
  cases call <;> simp only [Message.inRawSize, callMessage, ControlDataCall.info] <;> decide

/-- Every call can be made. -/
theorem sends_callMessage (hosVersion : Nat) (call : ControlDataCall) :
    Sends hosVersion call (callMessage call) := by
  rcases callMessage_inRawSize call with ⟨long, short, enough⟩
  have data : 8 + (callMessage call).inRawSize ≤ tlsMessageBufferSize :=
    Nat.le_trans (Nat.add_le_add_left short 8) (by decide)
  have receiveList : 0x80 + 8 * 0 ≤ tlsMessageBufferSize := by decide
  have rawSize : ¬ (callMessage call).rawSize < sizeofCmifInHeader :=
    Nat.not_lt.mpr (Nat.le_sub_of_add_le long)
  have header : (callMessage call).inHeader =
      ⟨cmifInHeaderMagic, 0, call.serviceCall.commandId⟩ := by
    apply inHeader_of_requestHeader
    · cases call <;> simp [ControlDataCall.serviceCall]
    · exact fun i within => StructDecl.storeMembers_of_before _ _ _ within
  refine ⟨Or.inl rfl, ?_, ?_, rfl, rfl, rfl, rfl, rfl, rfl, rfl, enough, _, rfl⟩
  · simp only [Message.validSizes, Nat.le_trans (by decide : 0x10 ≤ 0x20) long, decide_true,
      Bool.true_and, Bool.and_eq_true, decide_eq_true_eq]
    exact ⟨data, receiveList⟩
  · simp only [parseInHeader, header, rawSize, if_false, true_and, Nat.zero_le, if_true]

section

variable {m : Type → Type} [Monad m] {hosVersion : Nat}

/-- An entry for all versions is found by its command. -/
theorem matches_methodInfo (cmdId : Nat) (info : CommandMetaInfo)
    (impl : Arguments → m (Performed Effect)) (wanted : Nat) :
    (methodInfo cmdId info impl).matches wanted hosVersion = (cmdId == wanted) := by
  simp [ServiceCommandMeta.matches, methodInfo]

variable (upstream : Upstream m) (sdCard : SdCard) (fileUtils : FileUtils) (srv : Service)

/-- The command of a call. -/
def ControlDataCall.command : ControlDataCall → Arguments → m (Performed Effect)
  | .getAppControlData _ _ _ => getAppControlDataCommand upstream sdCard fileUtils srv
  | .getAppDesiredLanguage _ => Mitm.getAppDesiredLanguage upstream srv
  | .convertAppLanguageToLanguageCode _ => Mitm.convertAppLanguageToLanguageCode upstream srv
  | .convertLanguageCodeToAppLanguage _ => Mitm.convertLanguageCodeToAppLanguage upstream srv
  | .selectApplicationDesiredLanguage => Mitm.selectApplicationDesiredLanguage upstream srv
  | .unk1 _ _ _ => Mitm.unk1 upstream srv
  | .unk2 _ _ _ => Mitm.unk2 upstream srv

/-- The table has every call. -/
theorem findHandler_of_call (call : ControlDataCall) :
    findHandler (nsROAppControlDataInterface upstream sdCard fileUtils srv)
        call.serviceCall.commandId hosVersion =
      some (invokeServiceCommand call.info
        (call.command upstream sdCard fileUtils srv)) := by
  cases call <;>
    simp only [findHandler, nsROAppControlDataInterface, List.find?_cons, matches_methodInfo,
      ControlDataCall.serviceCall] <;> rfl

variable [LawfulMonad m]

/-- A command passes its call on and overlays the answer. -/
theorem command_eq (call : ControlDataCall) :
    call.command upstream sdCard fileUtils srv
        ⟨call.serviceCall.data, call.serviceCall.buffers⟩ =
      (fun reply => call.overlaid sdCard fileUtils (call.original reply)) <$>
        upstream.serviceDispatch srv.session call.serviceCall := by
  cases call with
  | getAppControlData flag tid buffer =>
      simp only [ControlDataCall.command, getAppControlDataCommand, ControlDataCall.serviceCall,
        Arguments.u8, Arguments.u64, List.getD_cons_zero, List.getD_cons_succ,
        BitVec.ofNat_toNat, BitVec.setWidth_eq, firstBuffer, List.headD_cons, bind_pure_comp]
      congr 1
      funext reply
      simp only [ControlDataCall.overlaid, ControlDataCall.original, outU64, List.headD_cons,
        BitVec.ofNat_toNat, BitVec.setWidth_eq, getAppControlData_rc]
      rfl
  | getAppDesiredLanguage bitmask =>
      simp only [ControlDataCall.command, Mitm.getAppDesiredLanguage, dispatchInOut,
        ControlDataCall.serviceCall, Arguments.u32, List.getD_cons_zero, BitVec.ofNat_toNat,
        BitVec.setWidth_eq, bind_pure_comp]
      rfl
  | convertAppLanguageToLanguageCode lang =>
      simp only [ControlDataCall.command, Mitm.convertAppLanguageToLanguageCode, dispatchInOut,
        ControlDataCall.serviceCall, Arguments.u8, List.getD_cons_zero, BitVec.ofNat_toNat,
        BitVec.setWidth_eq, bind_pure_comp]
      rfl
  | convertLanguageCodeToAppLanguage code =>
      simp only [ControlDataCall.command, Mitm.convertLanguageCodeToAppLanguage, dispatchInOut,
        ControlDataCall.serviceCall, Arguments.u64, List.getD_cons_zero, BitVec.ofNat_toNat,
        BitVec.setWidth_eq, bind_pure_comp]
      rfl
  | selectApplicationDesiredLanguage =>
      simp only [ControlDataCall.command, Mitm.selectApplicationDesiredLanguage, dispatchInOut,
        ControlDataCall.serviceCall, bind_pure_comp]
      rfl
  | unk1 flag tid buffer | unk2 flag tid buffer =>
      simp only [ControlDataCall.command, Mitm.unk1, Mitm.unk2, unknownCommand,
        ControlDataCall.serviceCall, Arguments.u8, Arguments.u64, List.getD_cons_zero,
        List.getD_cons_succ, BitVec.ofNat_toNat, BitVec.setWidth_eq, firstBuffer,
        List.headD_cons, bind_pure_comp]
      rfl

/-- A request of a client for a call is the call of the service, with the answer to
`GetAppControlData` overlaid. -/
theorem processRequestImpl_of_sends {pointerBufferSize : Nat}
    {forwardService : Option Service} {call : ControlDataCall} {message : Message}
    (sends : Sends hosVersion call message) :
    processRequestImpl upstream sdCard fileUtils hosVersion pointerBufferSize forwardService
        (.nsROAppControlData srv) message =
      (fun reply => writeOutHeader (.answered
        (call.overlaid sdCard fileUtils (call.original reply)))) <$>
        upstream.serviceDispatch srv.session call.serviceCall := by
  have request : dispatchRequest (processMessage upstream sdCard fileUtils hosVersion
        forwardService (.nsROAppControlData srv)) message =
      (fun reply => writeOutHeader (.answered
        (call.overlaid sdCard fileUtils (call.original reply)))) <$>
        upstream.serviceDispatch srv.session call.serviceCall := by
    unfold dispatchRequest processMessage processMessageImpl
    simp only [sends.validSizes, if_true, sends.header, findHandler_of_call,
      invokeServiceCommand_of_accepted sends.prepareForProcess sends.processBuffers,
      sends.deserializeArguments, command_eq, bind_pure_comp, Functor.map_map]
  unfold processRequestImpl
  rcases sends.commandType with type | type
  · rw [type]
    exact request
  · rw [type]
    exact request

end

/-! ## What the control data service can see -/

section

variable {m : Type → Type} [Monad m] {hosVersion : Nat} {one other : Message}

theorem methodInfo_handler (same : SameRequest one other) (cmdId : Nat)
    (info : CommandMetaInfo) (impl : Arguments → m (Performed Effect)) :
    (methodInfo cmdId info impl).handler other = (methodInfo cmdId info impl).handler one :=
  same.invokeServiceCommand info impl

/-- A request with other memory behind its raw data. -/
def withMemoryBehind (message : Message) (memory : Nat → BitVec 8) : Message :=
  { message with
    rawData := fun i => if i < message.rawSize then message.rawData i else memory i }

end

/-! ## The vulnerability service -/

/-- The requests `ns:vm` gets from a session: those with a valid header that name any
command but `NeedsUpdateVulnerability`. -/
def reachesVm (hosVersion : Nat) (message : Message) : Bool :=
  (message.commandType == .request || message.commandType == .requestWithContext) &&
    (message.validSizes &&
      match parseInHeader hosVersion message with
      | .ok cmdId => cmdId != 1200
      | .error _ => false)

section

variable {m : Type → Type} [Monad m] [LawfulMonad m]

theorem nsVmMitmInterface_alone :
    List.Forall₂ Alone (nsVmMitmInterface (m := m)) nsVmMitmInterface :=
  .cons ⟨rfl, rfl, rfl, invokeServiceCommand_pure _ _⟩ .nil

theorem hipcManagerInterface_alone (pointerBufferSize : Nat) :
    List.Forall₂ Alone (hipcManagerInterface (m := m) pointerBufferSize)
      (hipcManagerInterface pointerBufferSize) :=
  .cons ⟨rfl, rfl, rfl, invokeServiceCommand_pure _ _⟩
    (.cons ⟨rfl, rfl, rfl, invokeServiceCommand_pure _ _⟩
      (.cons ⟨rfl, rfl, rfl, invokeServiceCommand_pure _ _⟩
        (.cons ⟨rfl, rfl, rfl, invokeServiceCommand_pure _ _⟩
          (.cons ⟨rfl, rfl, rfl, invokeServiceCommand_pure _ _⟩ .nil))))

/-- The one command never asks for its request to be forwarded. -/
theorem passedOn_nsVm (hosVersion : Nat) (message : Message) :
    passedOn hosVersion nsVmMitmInterface message =
      match parseInHeader hosVersion message with
      | .ok cmdId => cmdId != 1200
      | .error _ => false := by
  unfold passedOn
  cases parseInHeader hosVersion message with
  | error rc => rfl
  | ok cmdId =>
      simp only [findHandler, nsVmMitmInterface, List.find?_cons, List.find?_nil,
        matches_methodInfo]
      by_cases same : cmdId = 1200
      · subst same
        have kept : ∀ rc, rc = resultInvalidCmifRequest ∨ rc = 0 →
            shouldForwardToSession.includes rc = false := by
          rintro rc (rfl | rfl) <;> decide
        exact kept _ (invokeServiceCommand_result ⟨[], [.int 1], 0, 0, 0⟩ ⟨0, [0], [], none⟩
          message)
      · have other : (1200 == cmdId) = false := beq_false_of_ne (Ne.symm same)
        have differs : (cmdId != 1200) = true := bne_iff_ne.mpr same
        simp only [other, differs, Option.map_none]

/-- What a client gets for a request that does not reach `ns:vm`. -/
def vmAnswer (hosVersion pointerBufferSize : Nat) (message : Message) : Processed Effect :=
  match message.commandType with
  | .request | .requestWithContext =>
      (dispatchRequest (processMessageImpl (m := Id) hosVersion nsVmMitmInterface) message).run
  | .control | .controlWithContext =>
      (dispatchRequest (processMessageImpl (m := Id) hosVersion
        (hipcManagerInterface pointerBufferSize)) message).run
  | .close | .unknown => .returned resultUnknownCommandType

variable (upstream : Upstream m) (sdCard : SdCard) (fileUtils : FileUtils)

/-- A request reaches `ns:vm`, or is answered without any service. -/
theorem processRequestImpl_nsVm (hosVersion pointerBufferSize : Nat) (service : Service)
    (message : Message) :
    processRequestImpl upstream sdCard fileUtils hosVersion pointerBufferSize (some service)
        .nsVm message =
      if reachesVm hosVersion message then
        answerOf <$> upstream.sendSyncRequest service.session
          (preProcessCommandBufferForMitm service.pointerBufferSize message)
      else pure (vmAnswer hosVersion pointerBufferSize message) := by
  have request : message.commandType = .request ∨
        message.commandType = .requestWithContext →
      dispatchRequest (processMessage upstream sdCard fileUtils hosVersion (some service) .nsVm)
          message =
        if reachesVm hosVersion message then
          answerOf <$> upstream.sendSyncRequest service.session
            (preProcessCommandBufferForMitm service.pointerBufferSize message)
        else pure (dispatchRequest (processMessageImpl (m := Id) hosVersion nsVmMitmInterface)
          message).run := by
    intro type
    have isRequest : (message.commandType == .request ||
        message.commandType == .requestWithContext) = true := by
      simpa using type
    unfold dispatchRequest
    rw [reachesVm, isRequest, Bool.true_and]
    cases message.validSizes with
    | false => rfl
    | true =>
        simp only [if_true, Bool.true_and, processMessage,
          processMessageForMitmImpl_alone nsVmMitmInterface_alone, passedOn_nsVm,
          forwardRequest_some]
  have managerRequest : dispatchRequest (processMessageImpl hosVersion
        (hipcManagerInterface (m := m) pointerBufferSize)) message =
      pure (dispatchRequest (processMessageImpl (m := Id) hosVersion
        (hipcManagerInterface pointerBufferSize)) message).run := by
    unfold dispatchRequest
    split
    · exact processMessageImpl_alone (hipcManagerInterface_alone pointerBufferSize) _ _
    · rfl
  unfold processRequestImpl vmAnswer
  cases type : message.commandType with
  | request => exact request (Or.inl type)
  | requestWithContext => exact request (Or.inr type)
  | control | controlWithContext =>
      simp only [reachesVm, type, managerRequest]
      rfl
  | close | unknown =>
      simp only [reachesVm, type]
      rfl

/-- A service that answers every request with the same bytes. -/
def constantUpstream (message : List (BitVec 8)) : Upstream Id :=
  ⟨fun _ _ => (0, ⟨message, []⟩), fun _ _ => ⟨0, [], fun _ => 0, ⟨0, 0⟩⟩⟩

end

end SysTweak.Mitm
