import SysTweak.Mitm.Requests

/-!
# Rounds of the loop

What a round of `LoopProcess` does to a manager in order: it ends in order, and the kernel
handles it gets and closes are those that its servers, sessions, objects and forward
services gain and lose, or the process ends for one of the reasons listed.
-/

namespace SysTweak.Mitm

open SysTweak.Ledger
open SysTweak.Memory
open SysTweak.Platform
open SysTweak.Sf
open SysTweak.Transition

/-- Neither the kernel nor a service asks for a request to be processed once more. -/
structure SessionAnswers.Prompt (answers : SessionAnswers) : Prop where
  reply : requestInvalidated.includes answers.reply = false
  sent : ∀ handle message,
    requestInvalidated.includes (answers.upstream.sendSyncRequest handle message).1 = false
  dispatched : ∀ handle call, requestInvalidated.includes
    (ServiceReply.rc (answers.upstream.serviceDispatch handle call)) = false

/-- There are at most 25 sessions. -/
theorem maxSessions_le (features : Features) : features.maxSessions ≤ 25 := by
  rcases features with ⟨nsvmSafe, nsamControl, nsroControl⟩
  cases nsvmSafe <;> cases nsamControl <;> cases nsroControl <;> decide

section

variable {features : Features} {Prompt : Prop} {busy : Option Waitable}
  {forwardHolders objectHolders : Multiset Ptr} {manager : Manager} {slot : Nat}
  {session : ServerSession} {answers : SessionAnswers} {Excused : Fault → Prop}

/-- The object and the services of a session live, and a session whose object lets
requests pass has a forward service. -/
theorem Sound.exists_served
    (sound : Sound features Prompt busy forwardHolders objectHolders manager)
    (member : session ∈ manager.sessions.members) :
    ∃ forwardService served, manager.servedForward session = some forwardService ∧
      manager.served session = some served ∧
      ((∃ service, forwardService = some service) ∨
        ∃ srv, served = .nsROAppControlData srv) := by
  have liveForward : ∀ {cell}, cell ∈ forwardHolders + forwardsOf manager.sessions +
      manager.objects.holdings ServiceObject.forwards →
      ∃ service, manager.forwards.value? cell = some service := by
    intro cell holder
    rcases sound.held.forwards.exists_cell holder with ⟨stored, live⟩
    exact ⟨stored.value, by rw [Heap.value?, live]; rfl⟩
  rcases sound.held.objects.exists_cell (Multiset.mem_add.mpr (Or.inr (mem_objectsOf member)))
    with ⟨stored, live⟩
  have object : manager.objects.value? session.srvObjHolder = some stored.value := by
    rw [Heap.value?, live]
    rfl
  have fits := (sound.proper session member).object object
  have owned : ∀ {cell}, cell ∈ stored.value.forwards →
      ∃ service, manager.forwards.value? cell = some service := by
    intro cell holds
    exact liveForward (Multiset.mem_add.mpr (Or.inr
      (Multiset.mem_of_le (Heap.le_holdings ServiceObject.forwards object) holds)))
  have forward : ∃ forwardService, manager.servedForward session = some forwardService ∧
      ((∃ cell, session.forwardService = some cell) →
        ∃ service, forwardService = some service) := by
    cases shared : session.forwardService with
    | none =>
        refine ⟨none, by rw [Manager.servedForward, shared], ?_⟩
        rintro ⟨cell, absent⟩
        contradiction
    | some cell =>
        rcases liveForward (Multiset.mem_add.mpr (Or.inl (Multiset.mem_add.mpr
          (Or.inr (mem_forwardsOf member shared))))) with ⟨service, here⟩
        exact ⟨some service, by simp only [Manager.servedForward, shared, here, Option.map_some],
          fun _ => ⟨service, rfl⟩⟩
  rcases forward with ⟨forwardService, servedForward, whenShared⟩
  cases kind : stored.value with
  | nsVmMitmService cell =>
      rw [kind] at object fits
      refine ⟨forwardService, .nsVm, servedForward, ?_, Or.inl (whenShared (fits.mp rfl))⟩
      simp only [Manager.served, object]
  | nsServiceGetterMitmService cell =>
      rcases owned (by rw [kind]; exact Multiset.mem_singleton_self cell) with ⟨service, here⟩
      rw [kind] at object fits
      refine ⟨forwardService, .nsServiceGetter service, servedForward, ?_,
        Or.inl (whenShared (fits.mp rfl))⟩
      simp only [Manager.served, object, here, Option.map_some]
  | nsROAppControlDataService srv =>
      rw [kind] at object
      refine ⟨forwardService, .nsROAppControlData srv, servedForward, ?_, Or.inr ⟨srv, rfl⟩⟩
      simp only [Manager.served, object]

/-! ## The session that is processed -/

/-- The session that is processed keeps its references when it is written to. -/
theorem Sound.refill {renewed : ServerSession}
    (sound : Sound features Prompt (some (.session slot)) forwardHolders objectHolders manager)
    (here : manager.sessions.get slot = some session)
    (object : renewed.srvObjHolder = session.srvObjHolder)
    (forward : renewed.forwardService = session.forwardService) :
    Sound features Prompt (some (.session slot)) forwardHolders objectHolders
      { manager with sessions := manager.sessions.fill slot renewed } := by
  have within := Pool.lt_length_of_get here
  have forwards : forwardsOf (manager.sessions.fill slot renewed) =
      forwardsOf manager.sessions := by
    rw [forwardsOf_clear here, forwardsOf, Pool.members_fill_of_get here, Multiset.cons_bind,
      forwardsOf, ServerSession.forwards, ServerSession.forwards, forward]
  have objects : objectsOf (manager.sessions.fill slot renewed) =
      objectsOf manager.sessions := by
    rw [objectsOf_clear here, objectsOf, Pool.members_fill_of_get here, Multiset.map_cons,
      objectsOf, object]
  have others : ∀ {other}, other ≠ slot →
      (manager.sessions.fill slot renewed).get other = manager.sessions.get other :=
    fun different => Pool.get_fill_of_ne _ different _
  refine ⟨?_, ?_, ?_, sound.servers, sound.indices, sound.once, ?_, ?_⟩
  · rw [forwards, objects]
    exact ⟨sound.held.forwards, sound.held.objects⟩
  · intro other member
    rw [Pool.members_fill_of_get here, Multiset.mem_cons] at member
    rcases member with rfl | member
    · have proper := sound.proper session (Pool.mem_members_iff.mpr ⟨slot, here⟩)
      refine ⟨?_, ?_⟩
      · rw [object, forward]
        exact proper.object
      · rw [forward]
        exact proper.sized
    · have kept : other ∈ manager.sessions.members := by
        rw [Pool.members_clear here]
        exact Multiset.mem_cons_of_mem member
      exact ⟨(sound.proper other kept).object, (sound.proper other kept).sized⟩
  · rw [Pool.length_fill]
    exact sound.sessions
  · intro waitable
    rw [sound.linked_iff]
    cases waitable with
    | server other => rfl
    | session other =>
        by_cases same : other = slot
        · rw [same]
          exact iff_of_false (fun linked => linked.2 rfl) fun linked => linked.2 rfl
        · simp only [Manager.Awaits, others same]
  · intro promptly other kept there received
    by_cases same : other = slot
    · rw [same]
    · rw [others same] at there
      exact sound.prompt promptly there received

/-- Writing to a session leaves its handle. -/
theorem handles_refill {target : Manager} {renewed : ServerSession}
    (here : manager.sessions.get slot = some session)
    (same : renewed.sessionHandle = session.sessionHandle)
    (servers : target.servers = manager.servers) (objects : target.objects = manager.objects)
    (forwards : target.forwards = manager.forwards)
    (sessions : target.sessions = manager.sessions.fill slot renewed) :
    target.handles = manager.handles := by
  have slots : target.sessions.get =
      Function.update manager.sessions.get slot (some renewed) := by
    rw [sessions, Pool.get_fill (Pool.lt_length_of_get here)]
  have before : manager.handles (.session slot) =
      (some renewed).map ServerSession.sessionHandle := by
    rw [Manager.handles, here, Option.map_some, Option.map_some, same]
  rw [handles_update_session servers forwards objects slots, ← before,
    Function.update_eq_self]

theorem Sound.registerSessionToWaitList
    (sound : Sound features Prompt (some (.session slot)) 0 0 manager)
    (here : manager.sessions.get slot = some session) :
    Yields (registerSessionToWaitList slot manager) manager Excused
      (Sound features Prompt none 0 0) := by
  have within := Pool.lt_length_of_get here
  have renewed : Sound features Prompt (some (.session slot)) 0 0 { manager with
      sessions := manager.sessions.fill slot { session with hasReceived := false } } :=
    sound.refill here rfl rfl
  simp only [Mitm.registerSessionToWaitList, here]
  have kept : session.sessionHandle =
      ServerSession.sessionHandle { session with hasReceived := false } := rfl
  refine yields_of_handles_eq (handles_refill here kept.symm rfl rfl rfl rfl)
    (renewed.link ?_ ?_)
  · exact ⟨_, Pool.get_fill_self within _, rfl⟩
  · intro _ other kept there received same
    cases same
    rw [Pool.get_fill_self within] at there
    cases there
    contradiction

/-- The session that is processed is closed. -/
theorem Sound.close (sound : Sound features Prompt (some (.session slot)) 0 0 manager)
    (here : manager.sessions.get slot = some session) :
    Yields (Mitm.closeSessionImpl slot manager) manager Excused
      (Sound features Prompt none 0 0) := by
  have unlinked : .session slot ∉ manager.linked := by
    rw [sound.linked_iff]
    exact fun linked => linked.2 rfl
  refine (sound.closeSessionImpl here unlinked).mono ?_
  rintro target ⟨sound, sessions⟩
  have free : target.sessions.get slot = none := by
    rw [sessions, Pool.get_clear_self]
  apply sound.rest
  · rintro ⟨kept, there, _⟩
    rw [free] at there
    contradiction
  · intro _ other kept there _ same
    cases same
    rw [free] at there
    contradiction

/-! ## Replies -/

theorem Sound.catchResult {rc : Result}
    (sound : Sound features Prompt (some (.session slot)) 0 0 manager)
    (here : manager.sessions.get slot = some session) (received : session.hasReceived = true)
    (changed : requestContextChanged.includes rc = true →
      requestInvalidated.includes rc = false → Excused (.result rc))
    (promptly : Prompt → requestInvalidated.includes rc = false) :
    Yields (catchResult slot rc manager) manager Excused (Sound features Prompt none 0 0) := by
  rw [Mitm.catchResult]
  by_cases context : requestContextChanged.includes rc = true
  · rw [if_pos context]
    by_cases invalidated : requestInvalidated.includes rc = true
    · rw [if_pos invalidated]
      apply yields_skip
      apply sound.rest
      · rintro ⟨kept, there, waiting⟩
        rw [here] at there
        cases there
        rw [received] at waiting
        contradiction
      · intro prompt
        rw [promptly prompt] at invalidated
        contradiction
    · rw [if_neg invalidated]
      exact changed context (Bool.eq_false_of_not_eq_true invalidated)
  · rw [if_neg context]
    exact sound.close here

theorem Sound.reply {rc : Result}
    (sound : Sound features Prompt (some (.session slot)) 0 0 manager)
    (here : manager.sessions.get slot = some session) (received : session.hasReceived = true)
    (succeeded : rc.succeeded = true → Excused .assertion)
    (changed : requestContextChanged.includes rc = true →
      requestInvalidated.includes rc = false → Excused (.result rc))
    (promptly : Prompt → requestInvalidated.includes rc = false) :
    Yields (reply slot rc manager) manager Excused (Sound features Prompt none 0 0) := by
  rw [Mitm.reply]
  split
  · exact sound.registerSessionToWaitList here
  · split
    · rename_i success
      exact succeeded success
    · exact sound.catchResult here received changed promptly

/-! ## Commands -/

theorem Sound.setOutObject {srv : Service}
    (sound : Sound features Prompt (some (.session slot)) 0 0 manager)
    (here : manager.sessions.get slot = some session)
    (refused : answers.createSession.failed = true →
      Excused (.result answers.createSession))
    (full : manager.sessions.firstFree = none →
      Excused (.result resultOutOfSessionMemory)) :
    Yields (setOutObject answers srv manager) manager Excused fun target =>
      Sound features Prompt (some (.session slot)) 0 0 target ∧
        target.sessions.get slot = some session ∧ manager.sessions.firstFree ≠ none := by
  have owning : Sound features Prompt (some (.session slot))
      ((ServiceObject.nsROAppControlDataService srv).forwards + 0) 0 manager := sound
  rw [Mitm.setOutObject]
  refine owning.addObject.andThen ?_
  rintro _ ⟨added, rfl⟩
  by_cases failed : answers.createSession.failed = true
  · rw [if_pos failed]
    exact refused failed
  · rw [if_neg failed]
    refine (added.registerSession ?_ ?_ full).mono ?_
    · intro stored there
      rw [Heap.share_value?, Function.update_self] at there
      cases there
      exact Option.some_ne_none _
    · intro other busy
      cases Option.some.inj busy
      exact ⟨session, here⟩
    · rintro target ⟨sound, more⟩
      exact ⟨sound, more.sessions here, more.room⟩

theorem Sound.cloneCurrentObjectImpl
    (sound : Sound features Prompt (some (.session slot)) 0 0 manager)
    (here : manager.sessions.get slot = some session)
    (refused : answers.createSession.failed = true →
      Excused (.result answers.createSession))
    (uncloned : answers.serviceClone.failed = true → Excused (.result answers.serviceClone))
    (full : manager.sessions.firstFree = none →
      Excused (.result resultOutOfSessionMemory)) :
    Yields (cloneCurrentObjectImpl session answers manager) manager Excused fun target =>
      Sound features Prompt (some (.session slot)) 0 0 target ∧
        target.sessions.get slot = some session ∧ manager.sessions.firstFree ≠ none := by
  have member : session ∈ manager.sessions.members := Pool.mem_members_iff.mpr ⟨slot, here⟩
  have present : ∀ other, some (Waitable.session slot) = some (.session other) →
      ∃ session, manager.sessions.get other = some session := by
    intro other busy
    cases Option.some.inj busy
    exact ⟨session, here⟩
  have few : Multiset.card (0 + objectsOf manager.sessions) < 0xffffffff := by
    have bounded := Pool.card_members_le manager.sessions
    have limit := maxSessions_le features
    rw [sound.sessions] at bounded
    rw [zero_add, objectsOf, Multiset.card_map]
    omega
  rw [Mitm.cloneCurrentObjectImpl]
  refine (sound.retainObject (Multiset.mem_add.mpr (Or.inr (mem_objectsOf member))) few).andThen
    ?_
  rintro second ⟨retained, copied⟩
  have proper := (sound.proper session member).of_shrinks copied.shrinks
  by_cases failed : answers.createSession.failed = true
  · rw [if_pos failed]
    exact refused failed
  rw [if_neg failed, ← copied.nextForward]
  have there : second.sessions.get slot = some session := by
    rw [copied.sessions, here]
  rw [← copied.sessions] at present full
  rcases sound.exists_served member with ⟨forwardService, _, forward, _⟩
  rw [forward]
  cases shared : session.forwardService with
  | none =>
      rw [Manager.servedForward, shared] at forward
      cases forward
      refine (retained.registerSession ?_ present full).mono ?_
      · intro stored live unowned
        rcases (proper.object live).mp unowned with ⟨cell, other⟩
        rw [shared] at other
        contradiction
      · rintro target ⟨sound, more⟩
        exact ⟨sound, more.sessions there, copied.sessions ▸ more.room⟩
  | some cell =>
      simp only [Manager.servedForward, shared] at forward
      rcases Option.map_eq_some_iff.mp forward with ⟨service, live, rfl⟩
      have size := (sound.proper session member).sized shared live
      by_cases failed : answers.serviceClone.failed = true
      · simp only [failed, if_true]
        exact uncloned failed
      simp only [failed, Bool.false_eq_true, if_false]
      refine (retained.addForward _).andThen ?_
      rintro _ ⟨cloned, rfl⟩
      refine (cloned.registerMitmSession ?_ ?_ present full ?_).mono ?_
      · rw [Heap.share_value?, Function.update_self]
      · intro stored live
        exact (proper.object live).mpr ⟨cell, shared⟩
      · exact fun large => absurd size large
      · rintro target ⟨sound, more⟩
        exact ⟨sound, more.sessions there, copied.sessions ▸ more.room⟩

theorem Sound.carryOut {effect : Option Effect}
    (sound : Sound features Prompt (some (.session slot)) 0 0 manager)
    (here : manager.sessions.get slot = some session)
    (refused : ∀ demanded, effect = some demanded → answers.createSession.failed = true →
      Excused (.result answers.createSession))
    (uncloned : effect = some .cloneSession → answers.serviceClone.failed = true →
      Excused (.result answers.serviceClone))
    (full : ∀ demanded, effect = some demanded → manager.sessions.firstFree = none →
      Excused (.result resultOutOfSessionMemory)) :
    Yields (carryOut session answers effect manager) manager Excused fun target =>
      Sound features Prompt (some (.session slot)) 0 0 target ∧
        target.sessions.get slot = some session ∧
        (effect ≠ none → manager.sessions.firstFree ≠ none) := by
  cases effect with
  | none => exact yields_skip ⟨sound, here, fun some => absurd rfl some⟩
  | some demanded =>
      cases demanded with
      | registerObject srv =>
          refine (sound.setOutObject here (refused _ rfl) (full _ rfl)).mono ?_
          exact fun target holds => ⟨holds.1, holds.2.1, fun _ => holds.2.2⟩
      | cloneSession =>
          refine (sound.cloneCurrentObjectImpl here (refused _ rfl) (uncloned rfl)
            (full _ rfl)).mono ?_
          exact fun target holds => ⟨holds.1, holds.2.1, fun _ => holds.2.2⟩

/-- The copies of handles in a response are closed again. -/
theorem yields_handlesToClose {Good : Manager → Prop} (holds : Good manager)
    (handles : List Handle) :
    Yields (handlesToClose handles manager) manager Excused Good :=
  ⟨Moves.transient _ handles, holds⟩

/-! ## Requests -/

section

variable {hosVersion : Nat} {source : Manager}

/-- What a request came to is carried out and replied to. -/
theorem Sound.finishRequest {processed : Processed Effect}
    (sound : Sound features Prompt (some (.session slot)) 0 0 manager)
    (here : manager.sessions.get slot = some session) (received : session.hasReceived = true)
    (request : Requests hosVersion source slot answers processed)
    (full : manager.sessions.firstFree = none →
      Multiset.card source.sessions.members = features.maxSessions)
    (settles : Settles (fun rc => Prompt → requestInvalidated.includes rc = false) processed)
    (promptly : Prompt → answers.Prompt) :
    Yields (finishRequest slot session answers processed manager) manager
      (SessionFault features hosVersion source slot answers) fun target =>
        Sound features Prompt none 0 0 target ∧
          (Demanded processed → manager.sessions.firstFree ≠ none) := by
  have replied : ∀ target, Sound features Prompt (some (.session slot)) 0 0 target →
      target.sessions.get slot = some session →
      Yields (Mitm.reply slot answers.reply target) target
        (SessionFault features hosVersion source slot answers)
        (Sound features Prompt none 0 0) := by
    intro target sound there
    apply sound.reply there received .reply
    · exact .contextChanged (Or.inl rfl)
    · exact fun prompt => (promptly prompt).reply
  cases processed with
  | aborted => exact absurd settles id
  | returned rc =>
      refine (sound.catchResult here received (.contextChanged (Or.inr request))
        settles).mono ?_
      refine fun target sound => ⟨sound, ?_⟩
      rintro ⟨_, _, _, _, other⟩
      contradiction
  | replied response =>
      cases response with
      | header rc data buffers effect =>
          have demanded : ∀ {effect'}, effect = some effect' →
              Demanded (.replied (.header rc data buffers effect)) := by
            rintro effect' rfl
            exact ⟨rc, data, buffers, effect', rfl⟩
          refine (sound.carryOut here (fun _ some => .createSession request (demanded some))
            (fun some => .serviceClone request (demanded some))
            fun _ some taken => .outOfSessionMemory request (demanded some)
              (full taken)).andThen ?_
          rintro middle ⟨sound, there, room⟩
          refine (replied middle sound there).mono fun target sound => ⟨sound, ?_⟩
          rintro ⟨_, _, _, effect', same⟩
          cases same
          exact room (Option.some_ne_none effect')
      | forwarded response =>
          have closed : Yields (handlesToClose response.copyHandles manager) manager
              (SessionFault features hosVersion source slot answers) fun middle =>
                Sound features Prompt (some (.session slot)) 0 0 middle ∧
                  middle.sessions.get slot = some session :=
            yields_handlesToClose ⟨sound, here⟩ _
          refine closed.andThen ?_
          rintro middle ⟨sound, there⟩
          refine (replied middle sound there).mono fun target sound => ⟨sound, ?_⟩
          rintro ⟨_, _, _, _, other⟩
          cases other

theorem Sound.processRequest {message : Message}
    (sound : Sound features Prompt (some (.session slot)) 0 0 manager)
    (here : manager.sessions.get slot = some session) (received : session.hasReceived = true)
    (opened : session.isClosed = false)
    (requests : ∀ {forwardService served}, message.commandType ≠ .close →
      manager.servedForward session = some forwardService →
      manager.served session = some served →
      Requests hosVersion source slot answers
        (processRequestImpl (m := Id) answers.upstream answers.sdCard answers.fileUtils
          hosVersion session.pointerBufferSize forwardService served message))
    (closing : message.commandType = .close →
      ∀ processed, ¬ Requests hosVersion source slot answers processed)
    (full : manager.sessions.firstFree = none →
      Multiset.card source.sessions.members = features.maxSessions)
    (promptly : Prompt → answers.Prompt) :
    Yields (processRequest hosVersion slot session answers message manager) manager
      (SessionFault features hosVersion source slot answers) fun target =>
        Sound features Prompt none 0 0 target ∧
          ∀ processed, Requests hosVersion source slot answers processed →
            Demanded processed → manager.sessions.firstFree ≠ none := by
  rcases sound.exists_served (Pool.mem_members_iff.mpr ⟨slot, here⟩) with
    ⟨forwardService, served, forward, object, fits⟩
  rw [Mitm.processRequest, opened, if_neg Bool.false_ne_true]
  by_cases close : message.commandType = .close
  · rw [if_pos close]
    refine (sound.close here).mono fun target sound => ⟨sound, ?_⟩
    exact fun processed request => absurd request (closing close processed)
  · have request := requests close forward object
    rw [if_neg close]
    simp only [forward, object]
    refine (sound.finishRequest here received request full ?_ promptly).mono ?_
    · apply processRequestImpl_settles _ _ _ fits
      · intro rc member _
        apply Bool.eq_false_of_not_eq_true
        intro invalidated
        have changed := includes_of_requestInvalidated invalidated
        rw [frameworkResults_unchanged member] at changed
        contradiction
      · exact fun handle call prompt => (promptly prompt).dispatched handle call
      · exact fun handle message prompt => (promptly prompt).sent handle message
    · rintro target ⟨sound, room⟩
      refine ⟨sound, ?_⟩
      intro processed other demanded
      exact room (request.unique other ▸ demanded)

/-- A signaled session receives a request, or learns that its client is gone. -/
theorem Sound.processForSession
    (sound : Sound features Prompt (some (.session slot)) 0 0 manager)
    (here : manager.sessions.get slot = some session) (waiting : session.hasReceived = false)
    (sessions : manager.sessions = source.sessions) (objects : manager.objects = source.objects)
    (forwards : manager.forwards = source.forwards) (promptly : Prompt → answers.Prompt) :
    Yields (processForSession hosVersion slot answers manager) manager
      (SessionFault features hosVersion source slot answers) fun target =>
        Sound features Prompt none 0 0 target ∧
          ∀ processed, Requests hosVersion source slot answers processed →
            Demanded processed →
            Multiset.card source.sessions.members ≠ features.maxSessions := by
  simp only [Mitm.processForSession, here, waiting, Bool.false_eq_true, if_false]
  cases received : answers.received with
  | failed rc => exact .receive received
  | closed =>
      refine (sound.close here).mono fun target sound => ⟨sound, ?_⟩
      rintro _ ⟨_, other, _⟩
      rw [received] at other
      contradiction
  | success message =>
      have handle : (session.receive false (some message)).sessionHandle =
          session.sessionHandle := rfl
      simp only
      generalize stored : ({ manager with
        sessions := manager.sessions.fill slot (session.receive false (some message)) } :
          Manager) = middle
      have written : Sound features Prompt (some (.session slot)) 0 0 middle := by
        rw [← stored]
        exact sound.refill here rfl rfl
      have kept : middle.handles = manager.handles := by
        rw [← stored]
        exact handles_refill here handle rfl rfl rfl rfl
      have full : middle.sessions.firstFree = none ↔
          Multiset.card source.sessions.members = features.maxSessions := by
        rw [written.firstFree_eq_none_iff, ← stored, ← sessions, Pool.members_fill_of_get here,
          Pool.members_clear here, Multiset.card_cons, Multiset.card_cons]
      have processed : Yields (Mitm.processRequest hosVersion slot
          (session.receive false (some message)) answers message middle) middle
          (SessionFault features hosVersion source slot answers) fun target =>
            Sound features Prompt none 0 0 target ∧
              ∀ processed, Requests hosVersion source slot answers processed →
                Demanded processed → middle.sessions.firstFree ≠ none := by
        subst stored
        apply written.processRequest (Pool.get_fill_self (Pool.lt_length_of_get here) _) rfl rfl
        · intro forwardService served kept forward object
          have there : source.sessions.get slot = some session := by
            rw [← sessions, here]
          have sameForward : source.servedForward session = some forwardService := by
            rw [← forward, Manager.servedForward, Manager.servedForward, forwards]
            rfl
          have sameObject : source.served session = some served := by
            rw [← object, Manager.served, Manager.served, objects, forwards]
            rfl
          exact @Requests.processed hosVersion source slot answers session message
            forwardService served there received kept sameForward sameObject
        · rintro close _ ⟨_, again, kept, _⟩
          rw [received] at again
          cases again
          exact kept close
        · exact full.mp
        · exact promptly
      refine (processed.of_handles_eq kept).mono ?_
      rintro target ⟨sound, room⟩
      exact ⟨sound, fun _ request demanded => mt full.mpr (room _ request demanded)⟩

end

end

end SysTweak.Mitm
