import SysTweak.Mitm.Runs

/-!
# How the manager ends

The process ends in a round of the loop for a listed reason only, and never because memory
is used that was freed.  When the calls the loop makes are granted, it ends exactly when a
session is needed and there are already as many as there can be.  A manager that is
destroyed after a run closes every kernel handle it had.
-/

namespace SysTweak.Mitm

open SysTweak.Ledger
open SysTweak.Memory
open SysTweak.Platform
open SysTweak.Sf
open SysTweak.Transition

/-! ## Faults -/

/-- Nothing the loop asks the kernel or a service for while it serves a session is
refused, and no service changes the context of a request. -/
structure SessionAnswers.Granted (answers : SessionAnswers) : Prop where
  received : ∀ rc, answers.received ≠ .failed rc
  createSession : answers.createSession.failed = false
  serviceClone : answers.serviceClone.failed = false
  reply : answers.reply.succeeded = false
  unchanged : requestContextChanged.includes answers.reply = false
  sent : ∀ handle message,
    requestContextChanged.includes (answers.upstream.sendSyncRequest handle message).1 = false
  dispatched : ∀ handle call, requestContextChanged.includes
    (ServiceReply.rc (answers.upstream.serviceDispatch handle call)) = false

/-- Nothing the loop asks for while it serves a port is refused, and the service of the
client has no pointer buffer. -/
structure PortAnswers.Granted (answers : PortAnswers) : Prop where
  acknowledgeSession : answers.acknowledgeSession.failed = false
  acceptSession : answers.acceptSession.failed = false
  pointerBuffer : answers.forwardService.pointerBufferSize = 0

/-- What the processing of a signal asks for is granted. -/
def Signal.Granted : Signal → Prop
  | .port _ answers => answers.Granted
  | .session _ answers => answers.Granted

section

variable {features : Features} {Prompt : Prop} {hosVersion : Nat} {manager : Manager}

theorem Sound.requests_settle {slot : Nat} {answers : SessionAnswers}
    {processed : Processed Effect} {Accepted : Result → Prop}
    (sound : Sound features Prompt none 0 0 manager)
    (request : Requests hosVersion manager slot answers processed)
    (framework : ∀ rc ∈ frameworkResults, Accepted rc)
    (dispatched : ∀ handle call,
      Accepted (ServiceReply.rc (answers.upstream.serviceDispatch handle call)))
    (sent : ∀ handle message,
      Accepted (answers.upstream.sendSyncRequest handle message).1) :
    Settles Accepted processed := by
  rcases request with ⟨here, _, _, forward, object⟩
  rcases sound.exists_served (Pool.mem_members_iff.mpr ⟨slot, here⟩) with
    ⟨forwardService, served, otherForward, otherObject, fits⟩
  rw [forward] at otherForward
  cases otherForward
  rw [object] at otherObject
  cases otherObject
  exact processRequestImpl_settles framework dispatched sent fits

/-- When everything is granted, the one reason to end is that there is no room for the
session that is needed. -/
theorem Sound.loopFault_of_granted {signal : Signal} {fault : Fault}
    (sound : Sound features Prompt none 0 0 manager) (granted : signal.Granted)
    (reason : LoopFault features hosVersion manager signal fault) :
    fault = .result resultOutOfSessionMemory ∧ signal.Needs hosVersion manager ∧
      Multiset.card manager.sessions.members = features.maxSessions := by
  cases reason with
  | port linked reason =>
      cases reason with
      | acknowledgeSession failed =>
          rw [granted.acknowledgeSession] at failed
          contradiction
      | outOfSessionMemory full => exact ⟨rfl, .port linked, full⟩
      | acceptSession failed =>
          rw [granted.acceptSession] at failed
          contradiction
      | pointerBuffer large => exact absurd granted.pointerBuffer large
  | session linked reason =>
      cases reason with
      | receive failed => exact absurd failed (granted.received _)
      | createSession request demanded failed =>
          rw [granted.createSession] at failed
          contradiction
      | serviceClone request demanded failed =>
          rw [granted.serviceClone] at failed
          contradiction
      | outOfSessionMemory request demanded full =>
          exact ⟨rfl, .session linked request demanded, full⟩
      | reply succeeded =>
          rw [granted.reply] at succeeded
          contradiction
      | contextChanged returned changed kept =>
          rcases returned with rfl | request
          · rw [granted.unchanged] at changed
            contradiction
          · have settles := sound.requests_settle request
              (fun rc member => frameworkResults_unchanged member) granted.dispatched
              granted.sent
            rw [Settles] at settles
            rw [settles] at changed
            contradiction

/-- A manager in order ends a round for a listed reason only. -/
theorem Sound.loopFault_of_error {signal : Signal} {fault : Fault}
    (sound : Sound features Prompt none 0 0 manager) (promptly : Prompt → signal.Prompt)
    (faulted : Mitm.loopProcess features hosVersion manager signal = .error fault) :
    LoopFault features hosVersion manager signal fault := by
  have round : Yields (Mitm.loopProcess features hosVersion manager signal) manager _ _ :=
    sound.loopProcess promptly
  rw [faulted] at round
  exact round

end

section

variable {features : Features} {hosVersion : Nat} {answers : Nat → InstallAnswers}
  {source : Manager} {opened : List (Entry Handle)} {signals : List Signal}

theorem sound_of_meets
    (registered : registerServers features answers (.create features) = .ok (source, opened))
    {before : Manager} {signal : Signal}
    (met : Meets (loopProcess features hosVersion) source signals before signal) :
    Sound features False none 0 0 before := by
  rcases met with ⟨earlier, later, outs, _, ran⟩
  rcases sound_registerServers False registered with ⟨_, sound⟩
  exact (sound.runs ran fun never => absurd never id).2

/-- Six clients, one more than `MitmManagerMaxSessions` of the build. -/
def sixVisitors : List Signal :=
  List.replicate 6 (.port 0 ⟨0, ⟨101, 0⟩, 0, 102⟩)

end

/-! ## Destruction -/

/-- An action that gets no handle. -/
def Action.Closes (action : Action) : Prop :=
  ∀ manager target ledger, action manager = .ok (target, ledger) → acquired ledger = []

theorem closes_skip : Action.skip.Closes := by
  intro manager target ledger ended
  cases ended
  rfl

theorem Action.Closes.andThen {first second : Action} (earlier : first.Closes)
    (later : second.Closes) : (first.andThen second).Closes := by
  intro manager target ledger ended
  rw [Action.andThen] at ended
  cases began : first manager with
  | error fault =>
      rw [began] at ended
      contradiction
  | ok reached =>
      rcases reached with ⟨middle, before⟩
      rw [began] at ended
      cases continued : second middle with
      | error fault =>
          simp only [continued] at ended
          contradiction
      | ok reached =>
          rcases reached with ⟨last, after⟩
          simp only [continued] at ended
          cases ended
          rw [acquired_append, earlier _ _ _ began, later _ _ _ continued, List.append_nil]

theorem closes_foldr {actions : Nat → Action} (each : ∀ slot, (actions slot).Closes)
    (slots : List Nat) :
    (slots.foldr (fun slot rest => (actions slot).andThen rest) .skip).Closes := by
  induction slots with
  | nil => exact closes_skip
  | cons slot rest ih => exact (each slot).andThen ih

theorem closes_dropForward (cell : Ptr) : (dropForward cell).Closes := by
  intro manager target ledger ended
  rw [dropForward] at ended
  split at ended
  · contradiction
  · cases ended
    rfl
  · cases ended
    rfl

theorem closes_destroyObject (object : ServiceObject) : (destroyObject object).Closes := by
  cases object with
  | nsVmMitmService forwardService => exact closes_dropForward forwardService
  | nsServiceGetterMitmService forwardService => exact closes_dropForward forwardService
  | nsROAppControlDataService srv =>
      intro manager target ledger ended
      cases ended
      rfl

theorem closes_dropObject (cell : Ptr) : (dropObject cell).Closes := by
  intro manager target ledger ended
  rw [dropObject] at ended
  split at ended
  · contradiction
  · cases ended
    rfl
  · exact closes_destroyObject _ _ _ _ ended

theorem closes_closeSessionImpl (slot : Nat) : (closeSessionImpl slot).Closes := by
  intro manager target ledger ended
  rw [closeSessionImpl] at ended
  split at ended
  · contradiction
  · have dropped : ∀ forwardService : Option Ptr,
        (forwardService.elim Action.skip dropForward).Closes := by
      rintro (_ | cell)
      · exact closes_skip
      · exact closes_dropForward cell
    have freed : (freeSession slot).Closes := by
      intro manager target ledger ended
      rw [freeSession] at ended
      split at ended
      · contradiction
      · cases ended
        rfl
    exact ((dropped _).andThen ((closes_dropObject _).andThen freed)) _ _ _ ended

theorem closes_closeAllocated (slot : Nat) : (closeAllocated slot).Closes := by
  intro manager target ledger ended
  rw [closeAllocated] at ended
  split at ended
  · exact closes_closeSessionImpl slot _ _ _ ended
  · cases ended
    rfl

theorem closes_destroyServer (slot : Nat) : (destroyServer slot).Closes := by
  intro manager target ledger ended
  rw [destroyServer] at ended
  split at ended
  · cases ended
    rfl
  · cases ended
    rfl

theorem closes_destroyManager (features : Features) : (destroyManager features).Closes :=
  (closes_foldr closes_closeAllocated _).andThen (closes_foldr closes_destroyServer _)

section

variable {features : Features} {manager : Manager} {Excused : Fault → Prop}

/-- The references of the sessions are all there are. -/
def Manager.Settled (manager : Manager) : Prop :=
  Held manager (0 + forwardsOf manager.sessions) (0 + objectsOf manager.sessions)

theorem settled_closeAllocated (settled : manager.Settled) (slot : Nat) :
    Yields (closeAllocated slot manager) manager Excused fun target =>
      target.Settled ∧ target.servers = manager.servers ∧
        target.sessions.get = Function.update manager.sessions.get slot none := by
  rw [closeAllocated]
  cases here : manager.sessions.get slot with
  | none =>
      refine yields_skip ⟨settled, rfl, ?_⟩
      rw [← here, Function.update_eq_self]
  | some session =>
      refine (settled.closeSessionImpl here).mono ?_
      rintro target ⟨held, middle, shrinks, rfl⟩
      refine ⟨held, shrinks.servers, ?_⟩
      rw [Pool.get_clear, shrinks.sessions]

/-- The first loop of the destructor frees the slots it goes over. -/
theorem settled_closeSlots (settled : manager.Settled) (slots : List Nat) :
    Yields (slots.foldr (fun slot rest => (closeAllocated slot).andThen rest) .skip manager)
      manager Excused fun target =>
        target.Settled ∧ target.servers = manager.servers ∧
          ∀ slot, slot ∈ slots ∨ manager.sessions.get slot = none →
            target.sessions.get slot = none := by
  induction slots generalizing manager with
  | nil =>
      refine yields_skip ⟨settled, rfl, ?_⟩
      rintro slot (member | free)
      · contradiction
      · exact free
  | cons slot rest ih =>
      refine (settled_closeAllocated settled slot).andThen ?_
      rintro middle ⟨settled, servers, cleared⟩
      refine (ih settled).mono ?_
      rintro target ⟨settled, sameServers, free⟩
      refine ⟨settled, sameServers.trans servers, ?_⟩
      intro other closed
      apply free
      rw [cleared]
      by_cases same : other = slot
      · exact Or.inr (by rw [same, Function.update_self])
      · rw [Function.update_of_ne same]
        exact closed.imp_left fun member => (List.mem_cons.mp member).resolve_left same

theorem yields_destroyServer (slot : Nat) :
    Yields (destroyServer slot manager) manager Excused fun target =>
      target = { manager with servers := target.servers } ∧
        target.servers.get = Function.update manager.servers.get slot none := by
  rw [destroyServer]
  cases here : manager.servers.get slot with
  | none =>
      refine yields_skip ⟨rfl, ?_⟩
      rw [← here, Function.update_eq_self]
  | some server =>
      exact ⟨moves_clear_server here rfl rfl rfl rfl, rfl, Pool.get_clear _ slot⟩

/-- The second loop of the destructor closes the ports it goes over. -/
theorem yields_destroyServers (slots : List Nat) :
    Yields (slots.foldr (fun slot rest => (destroyServer slot).andThen rest) .skip manager)
      manager Excused fun target =>
        target = { manager with servers := target.servers } ∧
          ∀ slot, slot ∈ slots ∨ manager.servers.get slot = none →
            target.servers.get slot = none := by
  induction slots generalizing manager with
  | nil =>
      refine yields_skip ⟨rfl, ?_⟩
      rintro slot (member | free)
      · contradiction
      · exact free
  | cons slot rest ih =>
      refine (yields_destroyServer slot).andThen ?_
      rintro middle ⟨same, cleared⟩
      refine ih.mono ?_
      rintro target ⟨sameTarget, free⟩
      constructor
      · rw [sameTarget, same]
      · intro other closed
        apply free
        rw [cleared]
        by_cases here : other = slot
        · exact Or.inr (by rw [here, Function.update_self])
        · rw [Function.update_of_ne here]
          exact closed.imp_left fun member => (List.mem_cons.mp member).resolve_left here

/-- Without sessions nothing has a reference, so that nothing is left. -/
theorem handles_eq_none (settled : manager.Settled)
    (sessions : ∀ slot, manager.sessions.get slot = none)
    (servers : ∀ slot, manager.servers.get slot = none) (owner : Owner) :
    manager.handles owner = none := by
  rw [Manager.Settled, forwardsOf, objectsOf, Pool.members_eq_zero sessions] at settled
  have objects : ∀ cell, manager.objects.value? cell = none :=
    fun cell => (settled.objects.value?_eq_none_iff cell).mpr (Multiset.notMem_zero cell)
  cases owner with
  | server slot => rw [Manager.handles, servers, Option.map_none]
  | session slot => rw [Manager.handles, sessions, Option.map_none]
  | object cell => rw [Manager.handles, objects, Option.bind_none]
  | forward cell =>
      have unheld : cell ∉ 0 + Multiset.bind 0 ServerSession.forwards +
          manager.objects.holdings ServiceObject.forwards := by
        intro holder
        rcases Multiset.mem_add.mp holder with none | owned
        · exact absurd none (Multiset.notMem_zero cell)
        · rcases Heap.mem_holdings_iff.mp owned with ⟨ptr, object, live, _⟩
          rw [objects] at live
          contradiction
      rw [Manager.handles, (settled.forwards.value?_eq_none_iff cell).mpr unheld,
        Option.map_none]

/-- A manager in order can be destroyed, and then has no handle. -/
theorem Sound.destroyManager {Prompt : Prop} (sound : Sound features Prompt none 0 0 manager) :
    Yields (destroyManager features manager) manager Excused fun target =>
      ∀ owner, target.handles owner = none := by
  rw [Mitm.destroyManager]
  refine (settled_closeSlots sound.held _).andThen ?_
  rintro middle ⟨settled, servers, freed⟩
  refine (yields_destroyServers _).mono ?_
  rintro target ⟨same, closed⟩
  have sessions : ∀ slot, target.sessions.get slot = none := by
    intro slot
    rw [same]
    apply freed
    by_cases within : slot < features.maxSessions
    · exact Or.inl (List.mem_range.mpr within)
    · exact Or.inr (Pool.get_eq_none_of_le (sound.sessions ▸ Nat.not_lt.mp within))
  have ports : ∀ slot, target.servers.get slot = none := by
    intro slot
    apply closed
    by_cases within : slot < features.ports.length
    · exact Or.inl (List.mem_range.mpr within)
    · right
      rw [servers]
      exact Pool.get_eq_none_of_le (sound.servers ▸ Nat.not_lt.mp within)
  have rest : target.Settled := by
    rw [same]
    exact ⟨settled.forwards, settled.objects⟩
  exact handles_eq_none rest sessions ports

end

end SysTweak.Mitm
