import SysTweak.Mitm.Loop
import SysTweak.Sf.Arguments

/-!
# Runs of the server manager

What holds over every run of the manager, from the registration of its servers to its
destruction, whatever clients connect, ask for and close, and whatever the kernel and the
other services answer.
-/

namespace SysTweak.Mitm

open SysTweak.Ledger
open SysTweak.Memory
open SysTweak.Platform
open SysTweak.Sf
open SysTweak.Transition

/-- Why the process ends in a round of the loop. -/
inductive LoopFault (features : Features) (hosVersion : Nat) (manager : Manager) :
    Signal → Fault → Prop
  | port {slot answers fault} (linked : .server slot ∈ manager.linked)
      (reason : PortFault features manager.sessions answers fault) :
      LoopFault features hosVersion manager (.port slot answers) fault
  | session {slot answers fault} (linked : .session slot ∈ manager.linked)
      (reason : SessionFault features hosVersion manager slot answers fault) :
      LoopFault features hosVersion manager (.session slot answers) fault

/-- Nothing asks for the request of a signal to be processed once more. -/
def Signal.Prompt : Signal → Prop
  | .port _ _ => True
  | .session _ answers => answers.Prompt

/-- A signal that needs a new session: a client at a port, or a request whose reply
names one. -/
inductive Signal.Needs (hosVersion : Nat) (manager : Manager) : Signal → Prop
  | port {slot answers} (linked : .server slot ∈ manager.linked) :
      Needs hosVersion manager (.port slot answers)
  | session {slot answers processed} (linked : .session slot ∈ manager.linked)
      (request : Requests hosVersion manager slot answers processed)
      (demanded : Demanded processed) : Needs hosVersion manager (.session slot answers)

section

variable {features : Features} {Prompt : Prop} {hosVersion : Nat} {manager : Manager}

/-- A round of the loop ends in order, with room for the session it needed, or for a
reason. -/
theorem Sound.loopProcess {signal : Signal} (sound : Sound features Prompt none 0 0 manager)
    (promptly : Prompt → signal.Prompt) :
    Yields (loopProcess features hosVersion manager signal) manager
      (LoopFault features hosVersion manager signal) fun target =>
        Sound features Prompt none 0 0 target ∧
          (signal.Needs hosVersion manager →
            Multiset.card manager.sessions.members ≠ features.maxSessions) := by
  cases signal with
  | port slot answers =>
      rw [Mitm.loopProcess]
      by_cases linked : .server slot ∈ manager.linked
      · rw [if_pos linked]
        rcases ((sound.linked_iff _).mp linked).1 with ⟨server, here⟩
        have unlinked : Sound features Prompt (some (.server slot)) 0 0
            { manager with linked := manager.linked.erase (.server slot) } := sound.unlink
        have processed : Yields (Mitm.processForMitmServer features slot answers
            { manager with linked := manager.linked.erase (.server slot) }) manager
            (PortFault features manager.sessions answers) fun target =>
              Sound features Prompt none 0 0 target ∧ manager.sessions.firstFree ≠ none :=
          (unlinked.processForMitmServer here).of_handles_eq rfl
        refine (processed.excuse fun fault => .port linked).mono ?_
        rintro target ⟨sound', room⟩
        exact ⟨sound', fun _ => mt sound.firstFree_eq_none_iff.mpr room⟩
      · rw [if_neg linked]
        refine yields_skip ⟨sound, ?_⟩
        rintro ⟨there⟩
        exact absurd there linked
  | session slot answers =>
      rw [Mitm.loopProcess]
      by_cases linked : .session slot ∈ manager.linked
      · rw [if_pos linked]
        rcases ((sound.linked_iff _).mp linked).1 with ⟨session, here, waiting⟩
        have unlinked : Sound features Prompt (some (.session slot)) 0 0
            { manager with linked := manager.linked.erase (.session slot) } := sound.unlink
        have processed : Yields (Mitm.processForSession hosVersion slot answers
            { manager with linked := manager.linked.erase (.session slot) })
            { manager with linked := manager.linked.erase (.session slot) }
            (SessionFault features hosVersion manager slot answers) fun target =>
              Sound features Prompt none 0 0 target ∧
                ∀ processed, Requests hosVersion manager slot answers processed →
                  Demanded processed →
                  Multiset.card manager.sessions.members ≠ features.maxSessions :=
          unlinked.processForSession here waiting rfl rfl rfl promptly
        have same : { manager with linked := manager.linked.erase (.session slot) }.handles =
          manager.handles := rfl
        refine ((processed.of_handles_eq same).excuse fun fault => .session linked).mono ?_
        rintro target ⟨sound', room⟩
        refine ⟨sound', ?_⟩
        rintro (_ | ⟨_, request, demanded⟩)
        exact room _ request demanded
      · rw [if_neg linked]
        refine yields_skip ⟨sound, ?_⟩
        rintro (_ | ⟨there, _, _⟩)
        exact absurd there linked

/-- A run from a manager in order ends in order, and its ledger is what its servers,
sessions, objects and forward services gained and lost. -/
theorem Sound.runs {source target : Manager} {signals : List Signal}
    {outs : List (Entry Handle)} (sound : Sound features Prompt none 0 0 source)
    (ran : Runs (Mitm.loopProcess features hosVersion) source signals target outs)
    (promptly : Prompt → ∀ signal ∈ signals, signal.Prompt) :
    Moves source.handles outs target.handles ∧ Sound features Prompt none 0 0 target := by
  induction signals generalizing source outs with
  | nil =>
      rcases runs_nil_iff.mp ran with ⟨rfl, rfl⟩
      exact ⟨Moves.nil _, sound⟩
  | cons signal rest ih =>
      rcases runs_cons_iff.mp ran with ⟨middle, first, last, stepped, continued, rfl⟩
      have round : Yields (Mitm.loopProcess features hosVersion source signal) source _ _ :=
        sound.loopProcess fun prompt => promptly prompt signal List.mem_cons_self
      rw [stepped] at round
      rcases round with ⟨moved, sound', _⟩
      have later := ih sound' continued fun prompt other member =>
        promptly prompt other (List.mem_cons_of_mem signal member)
      exact ⟨moved.append later.1, later.2⟩

end

/-! ## From the registration of the servers -/

section

variable {features : Features} {Prompt : Prop} {manager : Manager}

/-- A new manager has nothing. -/
theorem handles_create (features : Features) (owner : Owner) :
    (Manager.create features).handles owner = none := by
  cases owner with
  | server slot | session slot =>
      simp only [Manager.handles, Manager.create, Pool.get_vacant, Option.map_none]
  | forward cell | object cell => rfl

theorem sound_create (features : Features) :
    Sound features Prompt none 0 0 (.create features) where
  held := by
    rw [Manager.create, forwardsOf, objectsOf, Pool.members_vacant]
    exact ⟨Heap.Counts.empty, Heap.Counts.empty⟩
  proper session member := by
    rw [Manager.create, Pool.members_vacant] at member
    exact absurd member (Multiset.notMem_zero session)
  sessions := Pool.length_vacant _
  servers := Pool.length_vacant _
  indices {slot server} here := by
    rw [Manager.create, Pool.get_vacant] at here
    contradiction
  once := List.nodup_nil
  linked_iff waitable := by
    cases waitable with
    | server slot | session slot => simp [Manager.create, Manager.Awaits]
  prompt _ {slot session} here := by
    rw [Manager.create, Pool.get_vacant] at here
    contradiction

/-- A port in a free slot. -/
theorem Sound.fillServer {target : Manager} {slot : Nat} {server : Server}
    (sound : Sound features Prompt none 0 0 manager)
    (within : slot < manager.servers.length) (free : manager.servers.get slot = none)
    (index : server.index < features.ports.length)
    (filled : target = { manager with
      servers := manager.servers.fill slot server
      linked := manager.linked ++ [.server slot] }) :
    Sound features Prompt none 0 0 target := by
  subst filled
  refine ⟨⟨sound.held.forwards, sound.held.objects⟩, ?_, sound.sessions, ?_, ?_, ?_, ?_,
    sound.prompt⟩
  · exact fun session member =>
      ⟨(sound.proper session member).object, (sound.proper session member).sized⟩
  · rw [Pool.length_fill]
    exact sound.servers
  · intro other stored here
    rw [Pool.get_fill within] at here
    by_cases same : other = slot
    · rw [same, Function.update_self] at here
      cases here
      exact index
    · rw [Function.update_of_ne same] at here
      exact sound.indices here
  · rw [List.nodup_append']
    refine ⟨sound.once, List.nodup_singleton _, ?_⟩
    rw [List.disjoint_singleton, sound.linked_iff]
    rintro ⟨⟨other, here⟩, _⟩
    rw [free] at here
    contradiction
  · intro waitable
    rw [List.mem_append, List.mem_singleton, sound.linked_iff]
    cases waitable with
    | session other => simp [Manager.Awaits]
    | server other =>
        rw [Manager.Awaits, Manager.Awaits, Pool.get_fill within]
        by_cases same : other = slot
        · simp [same]
        · simp [same, Function.update_of_ne]

theorem Sound.registerMitmServer {portIndex : Nat} {answers : InstallAnswers}
    (sound : Sound features Prompt none 0 0 manager)
    (index : portIndex < features.ports.length) :
    Yields (registerMitmServer portIndex answers manager) manager (fun _ => True)
      (Sound features Prompt none 0 0) := by
  rw [Mitm.registerMitmServer]
  split
  · exact True.intro
  · split
    · exact True.intro
    · cases found : manager.servers.firstFree with
      | none => exact True.intro
      | some slot =>
          rcases Pool.firstFree_eq_some found with ⟨within, free⟩
          refine ⟨?_, sound.fillServer within free index rfl⟩
          exact @moves_fill_server manager _ slot ⟨answers.portHandle, portIndex⟩ within free rfl
            rfl rfl rfl

theorem Sound.registerServers {answers : Nat → InstallAnswers}
    (sound : Sound features Prompt none 0 0 manager) {indices : List Nat}
    (ports : ∀ portIndex ∈ indices, portIndex < features.ports.length) :
    Yields (indices.foldr (fun portIndex rest =>
        (Mitm.registerMitmServer portIndex (answers portIndex)).andThen rest) .skip manager)
      manager (fun _ => True) (Sound features Prompt none 0 0) := by
  induction indices generalizing manager with
  | nil => exact yields_skip sound
  | cons portIndex rest ih =>
      refine (sound.registerMitmServer (ports portIndex List.mem_cons_self)).andThen ?_
      exact fun middle sound =>
        ih sound fun other member => ports other (List.mem_cons_of_mem portIndex member)

theorem sound_registerServers (Prompt : Prop) {answers : Nat → InstallAnswers}
    {source : Manager} {opened : List (Entry Handle)}
    (registered : Mitm.registerServers features answers (.create features) =
      .ok (source, opened)) :
    Moves (Manager.create features).handles opened source.handles ∧
      Sound features Prompt none 0 0 source := by
  have yields : Yields (Mitm.registerServers features answers (.create features))
      (.create features) (fun _ => True) (Sound features Prompt none 0 0) :=
    (sound_create features).registerServers fun portIndex member => List.mem_range.mp member
  rw [registered] at yields
  exact yields

/-! ## Who needs a handle -/

/-- A holder of a handle is in use: it is a server or a session, or a session serves the
object or reaches the forward service. -/
def Owner.InUse (manager : Manager) : Owner → Prop
  | .server slot => ∃ server, manager.servers.get slot = some server
  | .session slot => ∃ session, manager.sessions.get slot = some session
  | .forward cell => ∃ slot session, manager.sessions.get slot = some session ∧
      (session.forwardService = some cell ∨
        ∃ object, manager.objects.value? session.srvObjHolder = some object ∧
          cell ∈ object.forwards)
  | .object cell => ∃ slot session, manager.sessions.get slot = some session ∧
      session.srvObjHolder = cell

/-- An object lives as long as a session serves it. -/
theorem Sound.exists_session_of_object (sound : Sound features Prompt none 0 0 manager)
    {cell : Ptr} {object : ServiceObject} (live : manager.objects.value? cell = some object) :
    ∃ slot session, manager.sessions.get slot = some session ∧
      session.srvObjHolder = cell := by
  have holder : cell ∈ 0 + objectsOf manager.sessions := by
    apply Classical.byContradiction
    intro unheld
    rw [(sound.held.objects.value?_eq_none_iff cell).mpr unheld] at live
    contradiction
  rw [zero_add, objectsOf, Multiset.mem_map] at holder
  rcases holder with ⟨session, member, same⟩
  rcases Pool.mem_members_iff.mp member with ⟨slot, here⟩
  exact ⟨slot, session, here, same⟩

theorem Sound.inUse_of_handles (sound : Sound features Prompt none 0 0 manager)
    {owner : Owner} {handle : Handle} (filled : manager.handles owner = some handle) :
    owner.InUse manager := by
  cases owner with
  | server slot =>
      rcases Option.map_eq_some_iff.mp filled with ⟨server, here, _⟩
      exact ⟨server, here⟩
  | session slot =>
      rcases Option.map_eq_some_iff.mp filled with ⟨session, here, _⟩
      exact ⟨session, here⟩
  | object cell =>
      rcases Option.bind_eq_some_iff.mp filled with ⟨object, live, _⟩
      exact sound.exists_session_of_object live
  | forward cell =>
      rcases Option.map_eq_some_iff.mp filled with ⟨service, live, _⟩
      have holder : cell ∈ 0 + forwardsOf manager.sessions +
          manager.objects.holdings ServiceObject.forwards := by
        apply Classical.byContradiction
        intro unheld
        rw [(sound.held.forwards.value?_eq_none_iff cell).mpr unheld] at live
        contradiction
      rw [zero_add, Multiset.mem_add] at holder
      rcases holder with shared | owned
      · rcases Multiset.mem_bind.mp shared with ⟨session, member, reaches⟩
        rcases Pool.mem_members_iff.mp member with ⟨slot, here⟩
        refine ⟨slot, session, here, Or.inl ?_⟩
        cases forward : session.forwardService with
        | none =>
            rw [ServerSession.forwards, forward] at reaches
            exact absurd reaches (Multiset.notMem_zero cell)
        | some other =>
            rw [ServerSession.forwards, forward] at reaches
            rw [Multiset.mem_singleton.mp reaches]
      · rcases Heap.mem_holdings_iff.mp owned with ⟨objectCell, object, objectLive, holds⟩
        rcases sound.exists_session_of_object objectLive with ⟨slot, session, here, serves⟩
        exact ⟨slot, session, here, Or.inr ⟨object, serves ▸ objectLive, holds⟩⟩

end

/-! ## Every run -/

/-- A request without arguments. -/
def plainRequest (commandType : CommandType) (commandId : Nat) : Message where
  commandType := commandType
  sendPid := false
  processId := 0
  numSendStatics := 0
  recvStatics := ⟨0, 0, 0⟩
  numSendBuffers := 0
  recvBuffers := []
  numExchBuffers := 0
  numCopyHandles := 0
  numMoveHandles := 0
  numDataWords := 8
  dataOffset := 8
  recvListOffset := 40
  rawData := requestHeader commandId

/-- A session is signaled while all calls succeed; a service that is asked for an object
gives out the session 103. -/
def grantingAnswers (received : Received) (serverHandle : Handle) : SessionAnswers where
  received := received
  upstream :=
    { sendSyncRequest := fun _ _ => (0, ⟨[], []⟩)
      serviceDispatch := fun _ _ => ⟨0, [], fun _ => 0, ⟨103, 0⟩⟩ }
  sdCard := ⟨fun _ => [], fun _ => none⟩
  fileUtils := ⟨true, true⟩
  createSession := 0
  serverHandle := serverHandle
  serviceClone := 0
  clonedSession := 105
  reply := makeValue 1 117

theorem grantingAnswers_prompt (received : Received) (serverHandle : Handle) :
    (grantingAnswers received serverHandle).Prompt := by
  have success : requestInvalidated.includes 0 = false := by decide
  have received : requestInvalidated.includes (makeValue 1 117) = false := by decide
  exact ⟨received, fun _ _ => success, fun _ _ => success⟩

/-- A build with `HAVE_NSAM_CONTROL` only. -/
def nsamFeatures : Features :=
  ⟨false, true, false⟩

/-- Its manager with the server of the one port. -/
def nsamManager : Manager :=
  { Manager.create nsamFeatures with
    servers := Pool.fill (.vacant 1) 0 ⟨100, 0⟩
    linked := [.server 0] }

/-- A client comes to the port, asks for the control data interface and leaves. -/
def visit : List Signal :=
  [.port 0 ⟨0, ⟨101, 0⟩, 0, 102⟩,
    .session 0 (grantingAnswers (.success (plainRequest .request 7989)) 104),
    .session 0 (grantingAnswers .closed 0)]

theorem registerServers_nsam :
    registerServers nsamFeatures (fun _ => ⟨0, 100, 0⟩) (.create nsamFeatures) =
      .ok (nsamManager, [.acquire 100]) :=
  rfl

theorem runs_visit : ∃ target, Runs (loopProcess nsamFeatures versionMax) nsamManager visit
    target [.acquire 101, .acquire 102, .acquire 103, .acquire 104, .release 101,
      .release 102] :=
  ⟨_, rfl⟩

section

variable {features : Features} {hosVersion : Nat} {answers : Nat → InstallAnswers}
  {source target : Manager} {opened outs : List (Entry Handle)} {signals : List Signal}

/-- While no service asks for a request to be processed once more, every server and every
session is in the wait list, once, so that every client is served or was let go. -/
theorem waitlist_has_every_session
    (registered : registerServers features answers (.create features) = .ok (source, opened))
    (ran : Runs (loopProcess features hosVersion) source signals target outs)
    (promptly : ∀ signal ∈ signals, signal.Prompt) :
    target.linked.Nodup ∧
      (∀ slot, .server slot ∈ target.linked ↔
        ∃ server, target.servers.get slot = some server) ∧
      ∀ slot, .session slot ∈ target.linked ↔
        ∃ session, target.sessions.get slot = some session := by
  rcases sound_registerServers True registered with ⟨_, sound⟩
  rcases sound.runs ran (fun _ => promptly) with ⟨_, sound⟩
  refine ⟨sound.once, ?_, ?_⟩
  · intro slot
    rw [sound.linked_iff]
    exact ⟨fun linked => linked.1, fun here => ⟨here, Option.some_ne_none _⟩⟩
  · intro slot
    rw [sound.linked_iff]
    constructor
    · rintro ⟨⟨session, here, _⟩, _⟩
      exact ⟨session, here⟩
    · rintro ⟨session, here⟩
      refine ⟨⟨session, here, ?_⟩, Option.some_ne_none _⟩
      apply Bool.eq_false_of_not_eq_true
      intro received
      have busy := sound.prompt True.intro here received
      contradiction

theorem visit_waitlist_has_every_session : ∃ target : Manager, target.linked.Nodup ∧
    (∀ slot, .server slot ∈ target.linked ↔
      ∃ server, target.servers.get slot = some server) ∧
    ∀ slot, .session slot ∈ target.linked ↔
      ∃ session, target.sessions.get slot = some session := by
  rcases runs_visit with ⟨target, ran⟩
  refine ⟨target, waitlist_has_every_session registerServers_nsam ran ?_⟩
  intro signal member
  simp only [visit, List.mem_cons, List.not_mem_nil, or_false] at member
  rcases member with rfl | rfl | rfl
  · exact True.intro
  · exact grantingAnswers_prompt _ _
  · exact grantingAnswers_prompt _ _

end

end SysTweak.Mitm
