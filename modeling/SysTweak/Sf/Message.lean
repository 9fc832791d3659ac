import SysTweak.Bytes.Buffer
import SysTweak.Bytes.Memory
import SysTweak.Sf.RawData
import SysTweak.Sf.Results

/-!
# Requests

A request as `hipcParseRequest` presents it, the command it names, and the arguments that
`HipcCommandProcessor` of `sf_impl_command_serialization.hpp` takes from it.  Commands take
data and buffers the client maps for output; other kinds of input the program has no use
for.
-/

namespace SysTweak.Sf

open SysTweak.Bytes
open SysTweak.Layout
open SysTweak.Platform

/-- `hipc::TlsMessageBufferSize`. -/
def tlsMessageBufferSize : Nat :=
  0x100

/-- `CmifCommandType`. -/
inductive CommandType
  | close | request | control | requestWithContext | controlWithContext | unknown
  deriving DecidableEq

/-- `HipcBufferMode`. -/
inductive BufferMode
  | normal | nonSecure | nonDevice
  deriving DecidableEq

/-- Memory of the client that is mapped for the time of a request. -/
structure Mapped where
  size : BitVec 64
  bytes : Buffer size.toNat

/-- `HipcBufferDescriptor`, with the memory it describes. -/
structure BufferDescriptor where
  mode : BufferMode
  mapped : Mapped

/-- The receive list of a message; `recv_static_mode` stands in its header. -/
structure RecvStatics where
  num : Nat
  mode : Nat
  size : Nat
  deriving DecidableEq

/-- A message in the TLS of the thread that received it. -/
structure Message where
  commandType : CommandType
  /-- `meta.send_pid`. -/
  sendPid : Bool
  /-- The process id that stands behind the special header. -/
  processId : BitVec 64
  numSendStatics : Nat
  recvStatics : RecvStatics
  numSendBuffers : Nat
  recvBuffers : List BufferDescriptor
  numExchBuffers : Nat
  numCopyHandles : Nat
  numMoveHandles : Nat
  numDataWords : Nat
  /-- Where `data_words` and `recv_list` are in the message. -/
  dataOffset : Nat
  recvListOffset : Nat
  /-- The memory behind `data_words`, from the next multiple of 0x10 on. -/
  rawData : Nat → BitVec 8

namespace Message

/-- The size of `data_words`. -/
def inRawSize (message : Message) : Nat :=
  message.numDataWords * 4

/-- The request is long enough for a header and lies within the message, as does its
receive list. -/
def validSizes (message : Message) : Bool :=
  decide (0x10 ≤ message.inRawSize) &&
    (decide (message.dataOffset + message.inRawSize ≤ tlsMessageBufferSize) &&
      decide (message.recvListOffset +
        8 * (if message.recvStatics.num = 0xff then 1 else message.recvStatics.num) ≤
          tlsMessageBufferSize))

/-- The size of `in_raw_data`, which leaves out 0x10 bytes for its alignment. -/
def rawSize (message : Message) : Nat :=
  message.inRawSize - 0x10

end Message

/-! ## The header -/

/-- `CMIF_IN_HEADER_MAGIC`. -/
def cmifInHeaderMagic : Nat :=
  0x49434653

/-- `CmifInHeader`, without its token. -/
structure CmifInHeader where
  magic : Nat
  version : Nat
  commandId : Nat

/-- `sizeof(CmifInHeader)`. -/
def sizeofCmifInHeader : Nat :=
  0x10

/-- `sizeof(CmifOutHeader)`. -/
def sizeofCmifOutHeader : Nat :=
  0x10

/-- The header at the start of the raw data. -/
def Message.inHeader (message : Message) : CmifInHeader where
  magic := load message.rawData 0 4
  version := load message.rawData 4 4
  commandId := load message.rawData 8 4

/-! ## Commands -/

/-- `CommandMetaInfo`: the types of the data, and how many of the rest there are. -/
structure CommandMetaInfo where
  inDatas : List CType
  outDatas : List CType
  numOutHipcMapAliasBuffers : Nat
  numOutMoveHandles : Nat
  numOutObjects : Nat

namespace CommandMetaInfo

variable (info : CommandMetaInfo)

/-- `InDataSize`. -/
def inDataSize : Nat :=
  alignUp (rawDataOffsets info.inDatas).2 2

/-- `ServerMessageRuntimeMetadata::GetUnfixedOutPointerSizeOffset`. -/
def unfixedOutPointerSizeOffset : Nat :=
  info.inDataSize + sizeofCmifInHeader + 0x10

/-- `HipcCommandProcessor::PrepareForProcess`. -/
def prepareForProcess (message : Message) : Result :=
  let commandRawSize := alignUp info.unfixedOutPointerSizeOffset 4
  let isRequestValid :=
    !message.sendPid && message.numSendStatics == 0 && message.numSendBuffers == 0 &&
      message.recvBuffers.length == info.numOutHipcMapAliasBuffers &&
      message.numExchBuffers == 0 && message.numCopyHandles == 0 &&
      message.numMoveHandles == 0 && decide (commandRawSize ≤ message.inRawSize)
  if isRequestValid then 0 else resultInvalidCmifRequest

/-- Where the argument of the given index is read in the raw data. -/
def inDataAddress (i : Fin info.inDatas.length) : Nat :=
  sizeofCmifInHeader + (rawDataOffsets info.inDatas).1 i

end CommandMetaInfo

/-- `HipcCommandProcessor::ProcessBuffers`: every buffer must be mapped normally. -/
def processBuffers (message : Message) : Result :=
  if message.recvBuffers.all fun desc => desc.mode == .normal then 0
  else resultInvalidCmifRequest

/-- What a command is called with: its data, and the buffers it writes to. -/
structure Arguments where
  data : List Nat
  buffers : List Mapped

namespace Arguments

variable (arguments : Arguments)

/-- An argument of type `u8`. -/
def u8 (index : Nat) : BitVec 8 :=
  BitVec.ofNat 8 (arguments.data.getD index 0)

/-- An argument of type `u32`. -/
def u32 (index : Nat) : BitVec 32 :=
  BitVec.ofNat 32 (arguments.data.getD index 0)

/-- An argument of type `u64`. -/
def u64 (index : Nat) : BitVec 64 :=
  BitVec.ofNat 64 (arguments.data.getD index 0)

end Arguments

/-- `HipcCommandProcessor::DeserializeArguments`. -/
def CommandMetaInfo.deserializeArguments (info : CommandMetaInfo) (message : Message) :
    Arguments where
  data := List.ofFn fun i =>
    load message.rawData (info.inDataAddress i) (info.inDatas.get i).size
  buffers := message.recvBuffers.map BufferDescriptor.mapped

theorem prepareForProcess_inRawSize {info : CommandMetaInfo} {message : Message}
    (prepared : (info.prepareForProcess message).succeeded = true) :
    info.unfixedOutPointerSizeOffset ≤ message.inRawSize := by
  have aligned : info.unfixedOutPointerSizeOffset ≤ alignUp info.unfixedOutPointerSizeOffset 4 :=
    le_alignUp _ (by decide)
  rw [CommandMetaInfo.prepareForProcess] at prepared
  split at prepared
  · rename_i valid
    simp only [Bool.and_eq_true, decide_eq_true_eq] at valid
    exact Nat.le_trans aligned valid.2
  · contradiction

end SysTweak.Sf
