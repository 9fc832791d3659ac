import SysTweak.Mitm.Runs

/-!
# Sessions apart

While the manager serves its ports and the other sessions, it leaves a session alone: the
session stays in its slot and waits, and the object it serves and the forward service it
reaches stay what they are.  So what a client is answered does not depend on what the
other clients did since its last request.
-/

namespace SysTweak.Mitm

open SysTweak.Ledger
open SysTweak.Memory
open SysTweak.Platform
open SysTweak.Sf
open SysTweak.Transition

/-- The session in a slot is left alone: it is kept and waits if it did, and no cell that
was allocated has a new value. -/
structure Undisturbed (slot : Nat) (source target : Manager) : Prop where
  session : ∀ {session}, source.sessions.get slot = some session →
    target.sessions.get slot = some session
  linked : .session slot ∈ source.linked → .session slot ∈ target.linked
  forwards : target.forwards.Follows source.forwards
  objects : target.objects.Follows source.objects

theorem Undisturbed.refl (slot : Nat) (manager : Manager) : Undisturbed slot manager manager :=
  ⟨id, id, .refl _, .refl _⟩

theorem Undisturbed.trans {slot : Nat} {source middle target : Manager}
    (first : Undisturbed slot source middle) (second : Undisturbed slot middle target) :
    Undisturbed slot source target where
  session here := second.session (first.session here)
  linked waits := second.linked (first.linked waits)
  forwards := second.forwards.trans first.forwards
  objects := second.objects.trans first.objects

/-- An action that does not end the process leaves the session in a slot alone. -/
def Spares (slot : Nat) (manager : Manager) : Outcome → Prop
  | .error _ => True
  | .ok (target, _) => Undisturbed slot manager target

section

variable {slot : Nat} {manager : Manager}

theorem Spares.andThen {first second : Action} (earlier : Spares slot manager (first manager))
    (later : ∀ middle, Spares slot middle (second middle)) :
    Spares slot manager ((first.andThen second) manager) := by
  rw [Action.andThen]
  cases began : first manager with
  | error fault => exact True.intro
  | ok reached =>
      rcases reached with ⟨middle, ledger⟩
      rw [began] at earlier
      have continued := later middle
      cases ended : second middle with
      | error fault =>
          simp only [ended]
          exact True.intro
      | ok reached =>
          rcases reached with ⟨target, rest⟩
          rw [ended] at continued
          simp only [ended]
          exact Undisturbed.trans earlier continued

/-- What is done before an action that leaves the session alone. -/
theorem Spares.after {source : Manager} {outcome : Outcome}
    (spares : Spares slot manager outcome) (before : Undisturbed slot source manager) :
    Spares slot source outcome := by
  cases outcome with
  | error fault => exact True.intro
  | ok reached => exact before.trans spares

theorem skip_spares : Spares slot manager (Action.skip manager) :=
  Undisturbed.refl slot manager

/-! ## References -/

theorem addForward_spares (service : Service) :
    Spares slot manager (addForward service manager) :=
  ⟨id, id, Heap.share_follows _ _, .refl _⟩

theorem retainForward_spares (cell : Ptr) :
    Spares slot manager (retainForward cell manager) := by
  rw [retainForward]
  cases retained : manager.forwards.retain cell with
  | none => exact True.intro
  | some forwards => exact ⟨id, id, Heap.retain_follows retained, .refl _⟩

theorem dropForward_spares (cell : Ptr) : Spares slot manager (dropForward cell manager) := by
  rw [dropForward]
  cases released : manager.forwards.release cell with
  | none => exact True.intro
  | some given =>
      rcases given with ⟨forwards, freed⟩
      have later := Heap.release_follows released
      cases freed with
      | none => exact ⟨id, id, later, .refl _⟩
      | some service => exact ⟨id, id, later, .refl _⟩

theorem addObject_spares (object : ServiceObject) :
    Spares slot manager (addObject object manager) :=
  ⟨id, id, .refl _, Heap.share_follows _ _⟩

theorem retainObject_spares (cell : Ptr) :
    Spares slot manager (retainObject cell manager) := by
  rw [retainObject]
  split
  · cases retained : manager.objects.retain cell with
    | none => exact True.intro
    | some objects => exact ⟨id, id, .refl _, Heap.retain_follows retained⟩
  · exact True.intro

theorem destroyObject_spares (object : ServiceObject) :
    Spares slot manager (destroyObject object manager) := by
  cases object with
  | nsVmMitmService forwardService => exact dropForward_spares forwardService
  | nsServiceGetterMitmService forwardService => exact dropForward_spares forwardService
  | nsROAppControlDataService srv => exact Undisturbed.refl slot manager

theorem dropObject_spares (cell : Ptr) : Spares slot manager (dropObject cell manager) := by
  rw [dropObject]
  cases released : manager.objects.release cell with
  | none => exact True.intro
  | some given =>
      rcases given with ⟨objects, freed⟩
      have before : Undisturbed slot manager { manager with objects := objects } :=
        ⟨id, id, .refl _, Heap.release_follows released⟩
      cases freed with
      | none => exact before
      | some object => exact (destroyObject_spares object).after before

/-! ## Sessions -/

/-- A new session goes to a free slot. -/
theorem createSession_spares (session : ServerSession) :
    Spares slot manager (createSession session manager) := by
  rw [createSession]
  cases found : manager.sessions.firstFree with
  | none => exact True.intro
  | some vacant =>
      rcases Pool.firstFree_eq_some found with ⟨_, free⟩
      refine ⟨?_, List.mem_append_left _, .refl _, .refl _⟩
      intro kept here
      have different : slot ≠ vacant := by
        rintro rfl
        rw [free] at here
        contradiction
      rwa [Pool.get_fill_of_ne _ different]

theorem registerSession_spares (object : Ptr) (handle : Handle) :
    Spares slot manager (registerSession object handle manager) :=
  createSession_spares _

theorem registerMitmSession_spares (object : Ptr) (handle : Handle) (cell : Ptr)
    (service : Service) :
    Spares slot manager (registerMitmSession object handle cell service manager) := by
  rw [registerMitmSession]
  split
  · exact createSession_spares _
  · exact True.intro

section

variable {other : Nat} (different : slot ≠ other)

include different

theorem freeSession_spares : Spares slot manager (freeSession other manager) := by
  rw [freeSession]
  cases manager.sessions.get other with
  | none => exact True.intro
  | some session =>
      refine ⟨?_, id, .refl _, .refl _⟩
      intro kept here
      rwa [Pool.get_clear_of_ne _ different]

theorem closeSessionImpl_spares : Spares slot manager (closeSessionImpl other manager) := by
  rw [closeSessionImpl]
  cases manager.sessions.get other with
  | none => exact True.intro
  | some session =>
      refine Spares.andThen ?_ fun _ =>
        (dropObject_spares session.srvObjHolder).andThen fun _ => freeSession_spares different
      cases session.forwardService with
      | none => exact skip_spares
      | some cell => exact dropForward_spares cell

theorem registerSessionToWaitList_spares :
    Spares slot manager (registerSessionToWaitList other manager) := by
  rw [registerSessionToWaitList]
  cases manager.sessions.get other with
  | none => exact True.intro
  | some session =>
      refine ⟨?_, List.mem_append_left _, .refl _, .refl _⟩
      intro kept here
      rwa [Pool.get_fill_of_ne _ different]

end

/-! ## Ports -/

theorem acceptMitmSession_spares (answers : PortAnswers) (object cell : Ptr) :
    Spares slot manager (acceptMitmSession answers object cell manager) := by
  rw [acceptMitmSession]
  split
  · exact True.intro
  · split
    · exact True.intro
    · exact registerMitmSession_spares _ _ _ _

theorem onNeedsToAccept_spares (features : Features) (portIndex : Nat)
    (answers : PortAnswers) :
    Spares slot manager (onNeedsToAccept features portIndex answers manager) := by
  rw [onNeedsToAccept]
  split
  · exact True.intro
  · cases features.ports[portIndex]? with
    | none => exact True.intro
    | some port =>
        exact (addForward_spares _).andThen fun _ =>
          (retainForward_spares _).andThen fun _ =>
            (addObject_spares _).andThen fun _ =>
              (retainForward_spares _).andThen fun _ =>
                (acceptMitmSession_spares _ _ _).andThen fun _ => dropForward_spares _

theorem registerToWaitList_spares (waitable : Waitable) :
    Spares slot manager (registerToWaitList waitable manager) :=
  ⟨id, List.mem_append_left _, .refl _, .refl _⟩

theorem processForMitmServer_spares (features : Features) (server : Nat)
    (answers : PortAnswers) :
    Spares slot manager (processForMitmServer features server answers manager) := by
  rw [processForMitmServer]
  cases manager.servers.get server with
  | none => exact True.intro
  | some here =>
      exact (onNeedsToAccept_spares features here.index answers).andThen fun _ =>
        registerToWaitList_spares _

/-! ## Requests -/

theorem setOutObject_spares (answers : SessionAnswers) (srv : Service) :
    Spares slot manager (setOutObject answers srv manager) := by
  rw [setOutObject]
  refine (addObject_spares _).andThen fun _ => ?_
  split
  · exact True.intro
  · exact registerSession_spares _ _

theorem cloneCurrentObjectImpl_spares (session : ServerSession) (answers : SessionAnswers) :
    Spares slot manager (cloneCurrentObjectImpl session answers manager) := by
  rw [cloneCurrentObjectImpl]
  refine (retainObject_spares _).andThen fun _ => ?_
  split
  · exact True.intro
  · cases manager.servedForward session with
    | none => exact True.intro
    | some forwardService =>
        cases forwardService with
        | none => exact registerSession_spares _ _
        | some service =>
            split
            · exact True.intro
            · exact (addForward_spares _).andThen fun _ => registerMitmSession_spares _ _ _ _

theorem carryOut_spares (session : ServerSession) (answers : SessionAnswers)
    (effect : Option Effect) :
    Spares slot manager (carryOut session answers effect manager) := by
  cases effect with
  | none => exact skip_spares
  | some effect =>
      cases effect with
      | registerObject srv => exact setOutObject_spares answers srv
      | cloneSession => exact cloneCurrentObjectImpl_spares session answers

section

variable {other : Nat} (different : slot ≠ other)

include different

theorem catchResult_spares (rc : Result) :
    Spares slot manager (catchResult other rc manager) := by
  rw [catchResult]
  split
  · split
    · exact skip_spares
    · exact True.intro
  · exact closeSessionImpl_spares different

theorem reply_spares (rc : Result) : Spares slot manager (reply other rc manager) := by
  rw [reply]
  split
  · exact registerSessionToWaitList_spares different
  · split
    · exact True.intro
    · exact catchResult_spares different rc

theorem finishRequest_spares (session : ServerSession) (answers : SessionAnswers)
    (processed : Processed Effect) :
    Spares slot manager (finishRequest other session answers processed manager) := by
  cases processed with
  | aborted => exact True.intro
  | returned rc => exact catchResult_spares different rc
  | replied reply =>
      cases reply with
      | header rc data buffers effect =>
          exact (carryOut_spares session answers effect).andThen fun _ =>
            reply_spares different _
      | forwarded response =>
          have closed : Spares slot manager (handlesToClose response.copyHandles manager) :=
            Undisturbed.refl slot manager
          exact closed.andThen fun _ => reply_spares different _

theorem processRequest_spares (hosVersion : Nat) (session : ServerSession)
    (answers : SessionAnswers) (message : Message) :
    Spares slot manager (processRequest hosVersion other session answers message manager) := by
  rw [processRequest]
  split
  · exact closeSessionImpl_spares different
  · split
    · exact closeSessionImpl_spares different
    · split
      · exact finishRequest_spares different session answers _
      · exact True.intro

theorem processForSession_spares (hosVersion : Nat) (answers : SessionAnswers) :
    Spares slot manager (processForSession hosVersion other answers manager) := by
  rw [processForSession]
  cases manager.sessions.get other with
  | none => exact True.intro
  | some session =>
      simp only
      split
      · cases session.savedMessage with
        | none => exact True.intro
        | some message => exact processRequest_spares different _ _ _ _
      · cases answers.received with
        | failed rc => exact True.intro
        | closed => exact closeSessionImpl_spares different
        | success message =>
            refine (processRequest_spares different _ _ _ _).after
              ⟨?_, id, .refl _, .refl _⟩
            intro kept here
            rwa [Pool.get_fill_of_ne _ different]

end

end

/-! ## Rounds and runs -/

/-- The signal is for the session in a slot. -/
def Signal.For (slot : Nat) : Signal → Prop
  | .port _ _ => False
  | .session other _ => slot = other

section

variable {features : Features} {hosVersion slot : Nat}

theorem loopProcess_spares {manager : Manager} {signal : Signal} (foreign : ¬ signal.For slot) :
    Spares slot manager (loopProcess features hosVersion manager signal) := by
  have unlink : ∀ waitable, Waitable.session slot ≠ waitable → Undisturbed slot manager
      { manager with linked := manager.linked.erase waitable } := fun waitable different =>
    ⟨id, fun waits => (List.mem_erase_of_ne different).mpr waits, .refl _, .refl _⟩
  cases signal with
  | port server answers =>
      rw [loopProcess]
      split
      · exact (processForMitmServer_spares features server answers).after
          (unlink (.server server) (by simp))
      · exact Undisturbed.refl slot manager
  | session other answers =>
      rw [loopProcess]
      split
      · exact (processForSession_spares foreign hosVersion answers).after
          (unlink (.session other) fun same => foreign (Waitable.session.inj same))
      · exact Undisturbed.refl slot manager

theorem undisturbed_runs {source target : Manager} {signals : List Signal}
    {outs : List (Entry Handle)}
    (ran : Runs (loopProcess features hosVersion) source signals target outs)
    (foreign : ∀ signal ∈ signals, ¬ signal.For slot) : Undisturbed slot source target := by
  induction signals generalizing source outs with
  | nil =>
      rcases runs_nil_iff.mp ran with ⟨rfl, rfl⟩
      exact Undisturbed.refl slot source
  | cons signal rest ih =>
      rcases runs_cons_iff.mp ran with ⟨middle, first, last, stepped, continued, rfl⟩
      have round : Spares slot source (loopProcess features hosVersion source signal) :=
        loopProcess_spares (foreign signal List.mem_cons_self)
      rw [stepped] at round
      exact Undisturbed.trans round
        (ih continued fun other member => foreign other (List.mem_cons_of_mem signal member))

end

/-! ## What a client sees -/

section

variable {slot : Nat} {source target : Manager} {session : ServerSession}

/-- A session that serves a live object before and after serves the same. -/
theorem Undisturbed.served_eq (undisturbed : Undisturbed slot source target)
    {before after : Served} (earlier : source.served session = some before)
    (later : target.served session = some after) : after = before := by
  rw [Manager.served] at earlier later
  cases live : source.objects.value? session.srvObjHolder with
  | none =>
      rw [live] at earlier
      contradiction
  | some object =>
      cases kept : target.objects.value? session.srvObjHolder with
      | none =>
          rw [kept] at later
          contradiction
      | some same =>
          rw [undisturbed.objects.value?_eq live kept] at kept
          rw [live] at earlier
          rw [kept] at later
          cases object with
          | nsVmMitmService cell =>
              cases earlier
              cases later
              rfl
          | nsServiceGetterMitmService cell =>
              rcases Option.map_eq_some_iff.mp earlier with ⟨old, before, rfl⟩
              rcases Option.map_eq_some_iff.mp later with ⟨new, after, rfl⟩
              rw [undisturbed.forwards.value?_eq before after]
          | nsROAppControlDataService srv =>
              cases earlier
              cases later
              rfl

/-- A session that reaches a live forward service before and after reaches the same. -/
theorem Undisturbed.servedForward_eq (undisturbed : Undisturbed slot source target)
    {before after : Option Service} (earlier : source.servedForward session = some before)
    (later : target.servedForward session = some after) : after = before := by
  rw [Manager.servedForward] at earlier later
  cases shared : session.forwardService with
  | none =>
      rw [shared] at earlier later
      cases earlier
      cases later
      rfl
  | some cell =>
      rw [shared] at earlier later
      rcases Option.map_eq_some_iff.mp earlier with ⟨old, before, rfl⟩
      rcases Option.map_eq_some_iff.mp later with ⟨new, after, rfl⟩
      rw [undisturbed.forwards.value?_eq before after]

/-- Two managers in order, one reached from the other without the session. -/
theorem Undisturbed.requests_iff {features : Features} {Prompt : Prop} {hosVersion : Nat}
    {answers : SessionAnswers} {processed : Processed Effect}
    (undisturbed : Undisturbed slot source target)
    (before : Sound features Prompt none 0 0 source)
    (after : Sound features Prompt none 0 0 target)
    (here : source.sessions.get slot = some session) :
    Requests hosVersion target slot answers processed ↔
      Requests hosVersion source slot answers processed := by
  have there := undisturbed.session here
  rcases before.exists_served (Pool.mem_members_iff.mpr ⟨slot, here⟩) with
    ⟨forwardService, served, forward, object, _⟩
  rcases after.exists_served (Pool.mem_members_iff.mpr ⟨slot, there⟩) with
    ⟨laterForward, laterServed, forwardThen, objectThen, _⟩
  cases undisturbed.servedForward_eq forward forwardThen
  cases undisturbed.served_eq object objectThen
  constructor
  · rintro ⟨found, received, kept, reached, serving⟩
    rw [there] at found
    cases found
    rw [forwardThen] at reached
    rw [objectThen] at serving
    exact ⟨here, received, kept, forward.trans reached, object.trans serving⟩
  · rintro ⟨found, received, kept, reached, serving⟩
    rw [here] at found
    cases found
    rw [forward] at reached
    rw [object] at serving
    exact ⟨there, received, kept, forwardThen.trans reached, objectThen.trans serving⟩

end

section

variable {features : Features} {hosVersion slot : Nat} {installed : Nat → InstallAnswers}
  {source middle target : Manager} {session : ServerSession}
  {opened outs rest : List (Entry Handle)} {signals others : List Signal}

/-- Two clients come to a port. -/
def arrivals : List Signal :=
  [.port 0 ⟨0, ⟨101, 0⟩, 0, 102⟩, .port 0 ⟨0, ⟨111, 0⟩, 0, 112⟩]

/-- The second one asks for the control data interface and leaves, and a third one comes. -/
def meanwhile : List Signal :=
  [.session 1 (grantingAnswers (.success (plainRequest .request 7989)) 104),
    .session 1 (grantingAnswers .closed 0), .port 0 ⟨0, ⟨121, 0⟩, 0, 122⟩]

end

end SysTweak.Mitm
