import SysTweak.Mitm.Ports
import SysTweak.Nacp.Overlay

/-!
# Serving a session

A request that a session receives is processed and replied to, and the session waits for
the next one or is closed, or the process ends for one of the reasons listed here.
-/

namespace SysTweak.Mitm

open SysTweak.Ledger
open SysTweak.Memory
open SysTweak.Nacp
open SysTweak.Platform
open SysTweak.Sf

/-! ## What a request comes to -/

/-- A signaled session receives a request, which comes to this. -/
inductive Requests (hosVersion : Nat) (manager : Manager) (slot : Nat)
    (answers : SessionAnswers) : Processed Effect → Prop
  | processed {session message forwardService served}
      (here : manager.sessions.get slot = some session)
      (received : answers.received = .success message)
      (kept : message.commandType ≠ .close)
      (forward : manager.servedForward session = some forwardService)
      (object : manager.served session = some served) :
      Requests hosVersion manager slot answers
        (processRequestImpl (m := Id) answers.upstream answers.sdCard answers.fileUtils
          hosVersion session.pointerBufferSize forwardService served message)

/-- What a request comes to depends on nothing else. -/
theorem Requests.unique {hosVersion : Nat} {manager : Manager} {slot : Nat}
    {answers : SessionAnswers} {first second : Processed Effect}
    (one : Requests hosVersion manager slot answers first)
    (other : Requests hosVersion manager slot answers second) : first = second := by
  rcases one with ⟨here, received, _, forward, object⟩
  rcases other with ⟨there, again, _, otherForward, otherObject⟩
  rw [here] at there
  cases there
  rw [received] at again
  cases again
  rw [forward] at otherForward
  cases otherForward
  rw [object] at otherObject
  cases otherObject
  rfl

/-- A request that is to be replied to once the manager has done something for it. -/
def Demanded (processed : Processed Effect) : Prop :=
  ∃ rc data buffers effect, processed = .replied (.header rc data buffers (some effect))

/-- Why the process ends while a session is served. -/
inductive SessionFault (features : Features) (hosVersion : Nat) (manager : Manager)
    (slot : Nat) (answers : SessionAnswers) : Fault → Prop
  | receive {rc} (failed : answers.received = .failed rc) :
      SessionFault features hosVersion manager slot answers (.result rc)
  | createSession {processed} (request : Requests hosVersion manager slot answers processed)
      (demanded : Demanded processed) (failed : answers.createSession.failed = true) :
      SessionFault features hosVersion manager slot answers (.result answers.createSession)
  | serviceClone {processed} (request : Requests hosVersion manager slot answers processed)
      (demanded : Demanded processed) (failed : answers.serviceClone.failed = true) :
      SessionFault features hosVersion manager slot answers (.result answers.serviceClone)
  | outOfSessionMemory {processed}
      (request : Requests hosVersion manager slot answers processed)
      (demanded : Demanded processed)
      (full : Multiset.card manager.sessions.members = features.maxSessions) :
      SessionFault features hosVersion manager slot answers
        (.result resultOutOfSessionMemory)
  | reply (succeeded : answers.reply.succeeded = true) :
      SessionFault features hosVersion manager slot answers .assertion
  | contextChanged {rc}
      (returned : answers.reply = rc ∨ Requests hosVersion manager slot answers (.returned rc))
      (changed : requestContextChanged.includes rc = true)
      (kept : requestInvalidated.includes rc = false) :
      SessionFault features hosVersion manager slot answers (.result rc)

section

variable {ω : Type} {hosVersion : Nat} {message : Message}
  {entries : List (ServiceCommandMeta Id ω)} {P : Processed ω → Prop}

/-- What holds of the ways `ProcessMessageImpl` can end holds of its end. -/
theorem processMessageImpl_induction
    (rejected : ∀ rc, parseInHeader hosVersion message = .error rc → P (.returned rc))
    (unknown : P (.returned resultUnknownCommandId))
    (handled : ∀ entry ∈ entries, P (writeOutHeader (entry.handler message))) :
    P (processMessageImpl (m := Id) hosVersion entries message) := by
  unfold processMessageImpl
  cases parsed : parseInHeader hosVersion message with
  | error rc => exact rejected rc parsed
  | ok cmdId =>
      cases found : findHandler entries cmdId hosVersion with
      | none =>
          simp only [found]
          exact unknown
      | some handler =>
          rcases exists_entry_of_findHandler found with ⟨entry, member, rfl⟩
          simp only [found]
          exact handled entry member

/-- What holds of the ways `ProcessMessageForMitmImpl` can end holds of its end. -/
theorem processMessageForMitmImpl_induction {upstream : Upstream Id}
    {forwardService : Option Service}
    (rejected : ∀ rc, parseInHeader hosVersion message = .error rc → P (.returned rc))
    (forwarded : P (forwardRequest (m := Id) upstream forwardService message))
    (handled : ∀ entry ∈ entries, P (writeOutHeader (entry.handler message))) :
    P (processMessageForMitmImpl (m := Id) upstream forwardService hosVersion entries
      message) := by
  unfold processMessageForMitmImpl
  cases parsed : parseInHeader hosVersion message with
  | error rc => exact rejected rc parsed
  | ok cmdId =>
      cases found : findHandler entries cmdId hosVersion with
      | none =>
          simp only [found]
          exact forwarded
      | some handler =>
          rcases exists_entry_of_findHandler found with ⟨entry, member, rfl⟩
          simp only [found]
          change P (if shouldForwardToSession.includes (Handled.result (entry.handler message))
            then forwardRequest (m := Id) upstream forwardService message
            else writeOutHeader (entry.handler message))
          split
          · exact forwarded
          · exact handled entry member

/-- What holds of the ways a forwarded request can end holds of its end. -/
theorem forwardRequest_induction {upstream : Upstream Id} {service : Service}
    (returned : ∀ sent, P (.returned (upstream.sendSyncRequest service.session sent).1))
    (replied : ∀ response, P (.replied (.forwarded response))) :
    P (forwardRequest (m := Id) upstream (some service) message) := by
  change P (if (upstream.sendSyncRequest service.session (preProcessCommandBufferForMitm
      service.pointerBufferSize message)).1.failed
    then .returned (upstream.sendSyncRequest service.session (preProcessCommandBufferForMitm
      service.pointerBufferSize message)).1
    else .replied (.forwarded (upstream.sendSyncRequest service.session
      (preProcessCommandBufferForMitm service.pointerBufferSize message)).2))
  split
  · exact returned _
  · exact replied _

/-- The processing does not abort, and an error it returns meets a condition. -/
def Settles (Accepted : Result → Prop) : Processed ω → Prop
  | .aborted => False
  | .returned rc => Accepted rc
  | .replied _ => True

/-- The results the framework and its manager come up with themselves. -/
def frameworkResults : List Result :=
  [0, resultInvalidHeaderSize, resultInvalidInHeader, resultUnknownCommandId,
    resultInvalidCmifRequest, resultInvalidRequestSize, resultUnknownCommandType,
    resultOutOfDomains, resultTargetNotDomain]

theorem frameworkResults_unchanged {rc : Result} (member : rc ∈ frameworkResults) :
    requestContextChanged.includes rc = false := by
  simp only [frameworkResults, List.mem_cons, List.not_mem_nil, or_false] at member
  rcases member with rfl | rfl | rfl | rfl | rfl | rfl | rfl | rfl | rfl <;> decide

variable {Accepted : Result → Prop}

theorem writeOutHeader_settles {handled : Handled ω} (accepted : Accepted handled.result) :
    Settles Accepted (writeOutHeader handled) := by
  cases handled with
  | rejected rc failed => exact accepted
  | answered performed =>
      rw [writeOutHeader]
      split
      · exact accepted
      · split <;> exact True.intro

section

variable (framework : ∀ rc ∈ frameworkResults, Accepted rc)

include framework

theorem parseInHeader_accepted {rc : Result}
    (parsed : parseInHeader hosVersion message = .error rc) : Accepted rc := by
  simp only [parseInHeader] at parsed
  generalize (if hosVersion ≥ version500 then 1 else 0) = maxCmifVersion at parsed
  split at parsed
  · cases parsed
    exact framework _ (by simp [frameworkResults])
  · split at parsed
    · contradiction
    · cases parsed
      exact framework _ (by simp [frameworkResults])

/-- The result of a handler is one of the framework or that of its command. -/
theorem invokeServiceCommand_accepted {info : CommandMetaInfo}
    {impl : Arguments → Id (Performed ω)}
    (commands : ∀ arguments, Accepted (Performed.rc (impl arguments))) :
    Accepted (Handled.result (invokeServiceCommand (m := Id) info impl message)) := by
  unfold invokeServiceCommand
  split
  · change Accepted (info.prepareForProcess message)
    rw [CommandMetaInfo.prepareForProcess]
    split <;> exact framework _ (by simp [frameworkResults])
  · split
    · change Accepted (processBuffers message)
      rw [processBuffers]
      split <;> exact framework _ (by simp [frameworkResults])
    · exact commands _

theorem processMessageImpl_settles
    (commands : ∀ entry ∈ entries, Accepted (Handled.result (entry.handler message))) :
    Settles Accepted (processMessageImpl (m := Id) hosVersion entries message) := by
  apply processMessageImpl_induction
  · exact fun rc parsed => parseInHeader_accepted framework parsed
  · exact framework _ (by simp [frameworkResults])
  · exact fun entry member => writeOutHeader_settles (commands entry member)

end

end

/-! ## What the commands of the services come to -/

section

variable {Accepted : Result → Prop} (framework : ∀ rc ∈ frameworkResults, Accepted rc)
  {upstream : Upstream Id}

include framework

theorem nsVmMitmInterface_accepted {message : Message} :
    ∀ entry ∈ nsVmMitmInterface (m := Id), Accepted (Handled.result (entry.handler message)) := by
  intro entry member
  rcases List.mem_singleton.mp member with rfl
  exact invokeServiceCommand_accepted framework fun _ =>
    framework 0 (by simp [frameworkResults])

theorem hipcManagerInterface_accepted {message : Message} (pointerBufferSize : Nat) :
    ∀ entry ∈ hipcManagerInterface (m := Id) pointerBufferSize,
      Accepted (Handled.result (entry.handler message)) := by
  intro entry member
  simp only [hipcManagerInterface, List.mem_cons, List.not_mem_nil, or_false] at member
  rcases member with rfl | rfl | rfl | rfl | rfl
  · exact invokeServiceCommand_accepted framework fun _ =>
      framework resultOutOfDomains (by simp [frameworkResults])
  · exact invokeServiceCommand_accepted framework fun _ =>
      framework resultTargetNotDomain (by simp [frameworkResults])
  all_goals
    exact invokeServiceCommand_accepted framework fun _ =>
      framework 0 (by simp [frameworkResults])

variable (dispatched :
  ∀ handle call, Accepted (ServiceReply.rc (upstream.serviceDispatch handle call)))

include dispatched

theorem nsServiceGetterMitmInterface_accepted {message : Message} (forwardService : Service) :
    ∀ entry ∈ nsServiceGetterMitmInterface upstream forwardService,
      Accepted (Handled.result (entry.handler message)) := by
  intro entry member
  rcases List.mem_singleton.mp member with rfl
  exact invokeServiceCommand_accepted framework fun _ => dispatched _ _

theorem nsROAppControlDataInterface_accepted {message : Message} (sdCard : SdCard)
    (fileUtils : FileUtils) (srv : Service) :
    ∀ entry ∈ nsROAppControlDataInterface upstream sdCard fileUtils srv,
      Accepted (Handled.result (entry.handler message)) := by
  intro entry member
  simp only [nsROAppControlDataInterface, List.mem_cons, List.not_mem_nil, or_false] at member
  rcases member with rfl | rfl | rfl | rfl | rfl | rfl | rfl
  · apply invokeServiceCommand_accepted framework
    intro arguments
    change Accepted (getAppControlData _ _ _ _).rc
    rw [getAppControlData_rc]
    exact dispatched _ _
  all_goals exact invokeServiceCommand_accepted framework fun _ => dispatched _ _

variable (sent : ∀ handle message, Accepted (upstream.sendSyncRequest handle message).1)

include sent

theorem processMessage_settles {sdCard : SdCard} {fileUtils : FileUtils} {hosVersion : Nat}
    {forwardService : Option Service} {served : Served} {message : Message}
    (fits : (∃ service, forwardService = some service) ∨
      ∃ srv, served = .nsROAppControlData srv) :
    Settles Accepted (processMessage (m := Id) upstream sdCard fileUtils hosVersion
      forwardService served message) := by
  have forwarded : (∃ service, forwardService = some service) → Settles Accepted
      (forwardRequest (m := Id) (ω := Effect) upstream forwardService message) := by
    rintro ⟨service, rfl⟩
    exact forwardRequest_induction (fun _ => sent _ _) fun _ => True.intro
  have parsed : ∀ rc, parseInHeader hosVersion message = .error rc →
      Settles (ω := Effect) Accepted (.returned rc) :=
    fun rc failed => parseInHeader_accepted framework failed
  cases served with
  | nsROAppControlData srv =>
      exact processMessageImpl_settles framework
        (nsROAppControlDataInterface_accepted framework dispatched sdCard fileUtils srv)
  | nsVm =>
      have forward := fits.resolve_right (by rintro ⟨srv, other⟩; contradiction)
      exact processMessageForMitmImpl_induction parsed (forwarded forward)
        fun entry member => writeOutHeader_settles
          (nsVmMitmInterface_accepted framework entry member)
  | nsServiceGetter objectService =>
      have forward := fits.resolve_right (by rintro ⟨srv, other⟩; contradiction)
      exact processMessageForMitmImpl_induction parsed (forwarded forward)
        fun entry member => writeOutHeader_settles
          (nsServiceGetterMitmInterface_accepted framework dispatched objectService entry
            member)

/-- A request that reaches the object of its session, or the manager, is replied to or
fails with an error of the framework or of the service behind. -/
theorem processRequestImpl_settles {sdCard : SdCard} {fileUtils : FileUtils}
    {hosVersion pointerBufferSize : Nat} {forwardService : Option Service} {served : Served}
    {message : Message}
    (fits : (∃ service, forwardService = some service) ∨
      ∃ srv, served = .nsROAppControlData srv) :
    Settles Accepted (processRequestImpl (m := Id) upstream sdCard fileUtils hosVersion
      pointerBufferSize forwardService served message) := by
  have request : Settles Accepted (dispatchRequest (m := Id) (processMessage upstream sdCard
      fileUtils hosVersion forwardService served) message) := by
    unfold dispatchRequest
    split
    · exact processMessage_settles framework dispatched sent fits
    · exact framework resultInvalidRequestSize (by simp [frameworkResults])
  have managerRequest : Settles Accepted (dispatchRequest (m := Id)
      (processMessageImpl hosVersion (hipcManagerInterface pointerBufferSize)) message) := by
    unfold dispatchRequest
    split
    · exact processMessageImpl_settles framework
        (hipcManagerInterface_accepted framework pointerBufferSize)
    · exact framework resultInvalidRequestSize (by simp [frameworkResults])
  have unknown : Settles (ω := Effect) Accepted (.returned resultUnknownCommandType) :=
    framework resultUnknownCommandType (by simp [frameworkResults])
  unfold processRequestImpl
  cases message.commandType with
  | request | requestWithContext => exact request
  | control | controlWithContext => exact managerRequest
  | close | unknown => exact unknown

end

end SysTweak.Mitm
