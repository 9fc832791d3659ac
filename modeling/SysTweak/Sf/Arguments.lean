import SysTweak.Layout.Members
import SysTweak.Sf.Dispatch

/-!
# Arguments as clients send them

A client stores the arguments of a command as the members of a C structure.  The framework
reads them where its own layout has them: the two layouts are the same exactly when the
alignments do not decrease, and then a command is called with what the client stored.
What the framework reads lies within the request.
-/

namespace SysTweak.Sf

open SysTweak.Bytes
open SysTweak.Layout
open SysTweak.Platform

/-! ## The two layouts -/

/-- The structure of a client: the arguments in the order of the command. -/
def argumentStruct (types : List CType) : StructDecl (Fin types.length) where
  members := List.finRange types.length
  type := types.get
  complete := List.mem_finRange

/-- Alignments that do not decrease. -/
def Ordered (types : List CType) : Prop :=
  types.Pairwise fun earlier later => earlier.align ≤ later.align

instance (types : List CType) : Decidable (Ordered types) :=
  inferInstanceAs (Decidable (types.Pairwise _))

theorem ordered_iff (types : List CType) :
    Ordered types ↔ ∀ i j : Fin types.length, i < j →
      (types.get i).align ≤ (types.get j).align := by
  rw [Ordered, List.pairwise_iff_get]

theorem idxOf_finRange {n : Nat} (i : Fin n) : (List.finRange n).idxOf i = i := by
  have within : (i : Nat) < (List.finRange n).length := by
    rw [List.length_finRange]
    exact i.isLt
  have here : (List.finRange n)[(i : Nat)] = i := by simp
  rw [← here, (List.nodup_finRange n).idxOf_getElem _ within]
  simp

/-- Of two arguments, the one placed first ends before the other begins. -/
theorem offset_lt_of_idxOf_lt {types : List CType} (decl : StructDecl (Fin types.length))
    (same : decl.type = types.get) (positive : ∀ type ∈ types, 0 < type.size)
    {i j : Fin types.length} (before : decl.members.idxOf i < decl.members.idxOf j) :
    decl.offset i < decl.offset j := by
  have size : 0 < (decl.type i).size := by
    rw [same]
    exact positive _ (List.get_mem types i)
  exact Nat.lt_of_lt_of_le (Nat.lt_add_of_pos_right size)
    (decl.offset_add_size_le_offset before)

/-- The sort puts an argument with a smaller alignment before one with a larger. -/
theorem idxOf_sortedArguments_lt {types : List CType} {i j : Fin types.length}
    (smaller : (types.get i).align < (types.get j).align) :
    (sortedArguments types).idxOf i < (sortedArguments types).idxOf j := by
  apply Nat.lt_of_not_le
  intro notBefore
  have iWithin := List.idxOf_lt_length_of_mem (mem_sortedArguments types i)
  have jWithin := List.idxOf_lt_length_of_mem (mem_sortedArguments types j)
  have sorted : (sortedArguments types).Pairwise fun earlier later =>
      (types.get earlier).align ≤ (types.get later).align :=
    stableSort_pairwise _ (List.finRange types.length)
  rcases Nat.lt_or_eq_of_le notBefore with before | equal
  · have above := List.pairwise_iff_getElem.mp sorted _ _ jWithin iWithin before
    rw [List.getElem_idxOf, List.getElem_idxOf] at above
    exact absurd smaller (Nat.not_lt.mpr above)
  · have same := (List.idxOf_inj (mem_sortedArguments types j)).mp equal
    rw [same] at smaller
    exact Nat.lt_irrefl _ smaller

/-- The framework reads the arguments where a C structure has them exactly when their
alignments do not decrease. -/
theorem rawDataOffsets_eq_offset_iff (types : List CType)
    (positive : ∀ type ∈ types, 0 < type.size) :
    (rawDataOffsets types).1 = (argumentStruct types).offset ↔ Ordered types := by
  constructor
  · intro agree
    rw [ordered_iff]
    intro i j before
    apply Nat.le_of_not_lt
    intro larger
    have framework : (rawDataStruct types).offset j < (rawDataStruct types).offset i :=
      offset_lt_of_idxOf_lt (rawDataStruct types) rfl positive
        (idxOf_sortedArguments_lt larger)
    have client : (argumentStruct types).offset i < (argumentStruct types).offset j := by
      apply offset_lt_of_idxOf_lt (argumentStruct types) rfl positive
      rw [argumentStruct, idxOf_finRange, idxOf_finRange]
      exact before
    rw [← rawDataOffsets_fst, ← rawDataOffsets_fst, agree] at framework
    exact Nat.lt_asymm framework client
  · intro ordered
    have inOrder : sortedArguments types = List.finRange types.length := by
      apply stableSort_of_pairwise
      rw [List.pairwise_iff_getElem]
      intro i j iWithin jWithin before
      rw [List.getElem_finRange, List.getElem_finRange]
      exact (ordered_iff types).mp ordered _ _ before
    funext i
    rw [rawDataOffsets_fst]
    simp only [StructDecl.offset, rawDataStruct, argumentStruct, inOrder]

/-! ## What a command is called with -/

/-- The raw data of a client: a header, and behind it the structure of its arguments. -/
def clientRawData (info : CommandMetaInfo) (values : Fin info.inDatas.length → Nat)
    (header : Nat → BitVec 8) : Nat → BitVec 8 :=
  (argumentStruct info.inDatas).storeMembers sizeofCmifInHeader values header

/-- Whatever arguments a client stores in its structure, the command is called with these,
in the order of the command. -/
theorem deserializeArguments_of_client {info : CommandMetaInfo}
    (positive : ∀ type ∈ info.inDatas, 0 < type.size) (ordered : Ordered info.inDatas)
    {values : Fin info.inDatas.length → Nat}
    (fits : ∀ i, values i < 256 ^ (info.inDatas.get i).size) {header : Nat → BitVec 8}
    {message : Message} (sent : message.rawData = clientRawData info values header) :
    info.deserializeArguments message =
      ⟨List.ofFn values, message.recvBuffers.map BufferDescriptor.mapped⟩ := by
  have agree := (rawDataOffsets_eq_offset_iff info.inDatas positive).mpr ordered
  have loaded : (fun i => load message.rawData (info.inDataAddress i)
      (info.inDatas.get i).size) = values := by
    funext i
    rw [CommandMetaInfo.inDataAddress, agree, sent]
    exact (argumentStruct info.inDatas).load_storeMembers fits header i
  rw [CommandMetaInfo.deserializeArguments, loaded]

/-- A message with nothing but raw data. -/
def dataMessage (rawData : Nat → BitVec 8) : Message where
  commandType := .request
  sendPid := false
  processId := 0
  numSendStatics := 0
  recvStatics := ⟨0, 0, 0⟩
  numSendBuffers := 0
  recvBuffers := []
  numExchBuffers := 0
  numCopyHandles := 0
  numMoveHandles := 0
  numDataWords := 0
  dataOffset := 0
  recvListOffset := 0
  rawData := rawData

/-- A command is always called with the arguments its client stored exactly when the
alignments of its arguments do not decrease. -/
theorem arguments_arrive_iff_ordered (info : CommandMetaInfo)
    (positive : ∀ type ∈ info.inDatas, 0 < type.size) :
    (∀ values : Fin info.inDatas.length → Nat,
      (∀ i, values i < 256 ^ (info.inDatas.get i).size) →
      ∀ header message, message.rawData = clientRawData info values header →
        (info.deserializeArguments message).data = List.ofFn values) ↔
      Ordered info.inDatas := by
  constructor
  · intro arrive
    rw [← rawDataOffsets_eq_offset_iff info.inDatas positive]
    funext i
    -- The argument in question is one and all others are zero.
    have fits : ∀ j, (if j = i then 1 else 0) < 256 ^ (info.inDatas.get j).size := by
      intro j
      have size := positive _ (List.get_mem info.inDatas j)
      have one : 1 < 256 ^ (info.inDatas.get j).size :=
        Nat.one_lt_pow (Nat.ne_of_gt size) (by decide)
      split <;> omega
    have arrived := arrive (fun j => if j = i then 1 else 0) fits (fun _ => 0)
      (dataMessage _) rfl
    have loaded := congrFun (List.ofFn_injective arrived) i
    rw [if_pos rfl] at loaded
    apply Classical.byContradiction
    intro different
    apply ne_zero_of_load_eq_one loaded
    apply StructDecl.storeMembers_eq_zero
    · rfl
    · rw [CommandMetaInfo.inDataAddress]
      exact fun same => different (Nat.add_left_cancel same)
  · intro ordered values fits header message sent
    rw [deserializeArguments_of_client positive ordered fits sent]

theorem controlData_arguments_arrive :
    (∀ values : Fin 2 → Nat,
      (∀ i, values i < 256 ^ ([CType.int 1, CType.int 8].get i).size) →
      ∀ header message,
        message.rawData =
          clientRawData ⟨[.int 1, .int 8], [.int 8], 1, 0, 0⟩ values header →
        (CommandMetaInfo.deserializeArguments ⟨[.int 1, .int 8], [.int 8], 1, 0, 0⟩
          message).data = List.ofFn values) ↔ Ordered [.int 1, .int 8] :=
  arguments_arrive_iff_ordered ⟨[.int 1, .int 8], [.int 8], 1, 0, 0⟩ (by decide)

/-- The header of a request: the magic number, version 0 and the command. -/
def requestHeader (commandId : Nat) : Nat → BitVec 8 :=
  store (store (fun _ => 0) 0 4 cmifInHeaderMagic) 8 4 commandId

/-- The header of a request that starts with `requestHeader`. -/
theorem inHeader_of_requestHeader {message : Message} {commandId : Nat}
    (fits : commandId < 256 ^ 4)
    (starts : ∀ i < sizeofCmifInHeader, message.rawData i = requestHeader commandId i) :
    message.inHeader = ⟨cmifInHeaderMagic, 0, commandId⟩ := by
  have word : ∀ offset, offset + 4 ≤ sizeofCmifInHeader →
      load message.rawData offset 4 = load (requestHeader commandId) offset 4 := by
    intro offset within
    apply load_congr
    intro i _ below
    exact starts i (Nat.lt_of_lt_of_le below within)
  have magic : load (requestHeader commandId) 0 4 = cmifInHeaderMagic := by
    rw [requestHeader, load_store_of_apart _ _ (Or.inr (by decide))]
    exact load_store _ (by decide)
  have version : load (requestHeader commandId) 4 4 = 0 := by
    rw [requestHeader, load_store_of_apart _ _ (Or.inr (by decide)),
      load_store_of_apart _ _ (Or.inl (by decide))]
    rfl
  have command : load (requestHeader commandId) 8 4 = commandId := load_store _ fits
  rw [Message.inHeader, word 0 (by decide), word 4 (by decide), word 8 (by decide), magic,
    version, command]

/-! ## What a command can see -/

/-- Two messages that differ in the memory behind the raw data only. -/
structure SameRequest (one other : Message) : Prop where
  fields : other = { one with rawData := other.rawData }
  rawData : ∀ i < one.rawSize, one.rawData i = other.rawData i

/-- An argument lies within the raw data of a request that was accepted. -/
theorem inDataAddress_add_size_le {info : CommandMetaInfo} {message : Message}
    (prepared : (info.prepareForProcess message).succeeded = true)
    (i : Fin info.inDatas.length) :
    info.inDataAddress i + (info.inDatas.get i).size ≤ message.rawSize := by
  have size := prepareForProcess_inRawSize prepared
  have within := rawDataOffsets_add_size_le info.inDatas i
  have aligned : (rawDataOffsets info.inDatas).2 ≤ info.inDataSize :=
    le_alignUp _ (by decide)
  rw [CommandMetaInfo.unfixedOutPointerSizeOffset] at size
  rw [CommandMetaInfo.inDataAddress, Message.rawSize]
  omega

/-- The raw data of a request that was accepted lies within the message. -/
theorem rawData_within_message {message : Message} (valid : message.validSizes = true) :
    alignUp message.dataOffset 0x10 + message.rawSize ≤ tlsMessageBufferSize := by
  simp only [Message.validSizes, Bool.and_eq_true, decide_eq_true_eq] at valid
  have aligned : alignUp message.dataOffset 0x10 < message.dataOffset + 0x10 := by
    unfold alignUp
    omega
  rw [Message.rawSize]
  omega

section

variable {m : Type → Type} [Monad m] {ω : Type} {one other : Message}

theorem SameRequest.prepareForProcess (same : SameRequest one other) (info : CommandMetaInfo) :
    info.prepareForProcess other = info.prepareForProcess one := by
  rw [same.fields]
  rfl

theorem SameRequest.processBuffers (same : SameRequest one other) :
    processBuffers other = processBuffers one := by
  rw [same.fields]
  rfl

theorem SameRequest.parseInHeader (same : SameRequest one other) (hosVersion : Nat) :
    parseInHeader hosVersion other = parseInHeader hosVersion one := by
  have size : other.rawSize = one.rawSize := by
    rw [same.fields]
    rfl
  simp only [Sf.parseInHeader, size]
  by_cases short : one.rawSize < sizeofCmifInHeader
  · rw [if_pos short, if_pos short]
  · have header : other.inHeader = one.inHeader := by
      have word : ∀ offset, offset + 4 ≤ 0x10 →
          load other.rawData offset 4 = load one.rawData offset 4 := by
        intro offset within
        apply load_congr
        intro i _ below
        refine (same.rawData i ?_).symm
        rw [sizeofCmifInHeader] at short
        omega
      rw [Message.inHeader, Message.inHeader, word 0 (by decide), word 4 (by decide),
        word 8 (by decide)]
    rw [if_neg short, if_neg short, header]

theorem SameRequest.invokeServiceCommand (same : SameRequest one other) (info : CommandMetaInfo)
    (impl : Arguments → m (Performed ω)) :
    invokeServiceCommand info impl other = invokeServiceCommand info impl one := by
  unfold Sf.invokeServiceCommand
  simp only [same.prepareForProcess, same.processBuffers]
  split
  · rfl
  · rename_i prepared
    split
    · rfl
    · have succeeded : (info.prepareForProcess one).succeeded = true := by
        rw [Result.failed_eq_not_succeeded] at prepared
        simpa using prepared
      have buffers : other.recvBuffers = one.recvBuffers := by
        rw [same.fields]
      have arguments : info.deserializeArguments other = info.deserializeArguments one := by
        have data : (fun i => load other.rawData (info.inDataAddress i)
            (info.inDatas.get i).size) = fun i => load one.rawData (info.inDataAddress i)
              (info.inDatas.get i).size := by
          funext i
          apply load_congr
          intro address _ below
          exact (same.rawData address
            (Nat.lt_of_lt_of_le below (inDataAddress_add_size_le succeeded i))).symm
        rw [CommandMetaInfo.deserializeArguments, CommandMetaInfo.deserializeArguments, data,
          buffers]
      rw [arguments]

/-- A table whose handlers see the request only, sees the request only. -/
theorem SameRequest.processMessageImpl (same : SameRequest one other) (hosVersion : Nat)
    {entries : List (ServiceCommandMeta m ω)}
    (handlers : ∀ entry ∈ entries, entry.handler other = entry.handler one) :
    processMessageImpl hosVersion entries other = processMessageImpl hosVersion entries one := by
  unfold Sf.processMessageImpl
  rw [same.parseInHeader]
  cases Sf.parseInHeader hosVersion one with
  | error rc => rfl
  | ok cmdId =>
      cases found : findHandler entries cmdId hosVersion with
      | none => simp only [found]
      | some handler =>
          rcases exists_entry_of_findHandler found with ⟨entry, member, rfl⟩
          simp only [found, handlers entry member]

theorem SameRequest.dispatchRequest (same : SameRequest one other)
    {processMessage : Message → m (Processed ω)}
    (processed : processMessage other = processMessage one) :
    dispatchRequest processMessage other = dispatchRequest processMessage one := by
  have valid : other.validSizes = one.validSizes := by
    rw [same.fields]
    rfl
  rw [Sf.dispatchRequest, Sf.dispatchRequest, valid, processed]

end

end SysTweak.Sf
