import SysTweak.Mitm.Manager

/-!
# Who holds what

The kernel handles the manager has, by what holds them, and the references to its
objects and forward services.  An action that begins with every reference accounted for
ends so, and the handles it gets and closes are those its holders gain and lose.
-/

namespace SysTweak.Mitm

open SysTweak.Ledger
open SysTweak.Memory
open SysTweak.Platform
open SysTweak.Sf

/-- What can hold a kernel handle. -/
inductive Owner
  | server (slot : Nat)
  | session (slot : Nat)
  | forward (cell : Ptr)
  | object (cell : Ptr)
  deriving DecidableEq

/-- The kernel handles the manager holds. -/
def Manager.handles (manager : Manager) : Owner → Option Handle
  | .server slot => (manager.servers.get slot).map Server.portHandle
  | .session slot => (manager.sessions.get slot).map ServerSession.sessionHandle
  | .forward cell => (manager.forwards.value? cell).map Service.session
  | .object cell => (manager.objects.value? cell).bind ServiceObject.srv

/-- The forward services an object has a reference to. -/
def ServiceObject.forwards : ServiceObject → Multiset Ptr
  | .nsVmMitmService forwardService => {forwardService}
  | .nsServiceGetterMitmService forwardService => {forwardService}
  | .nsROAppControlDataService _ => 0

/-- The references are counted: those to forward services besides the ones the objects
have, and those to objects. -/
structure Held (manager : Manager) (forwardHolders objectHolders : Multiset Ptr) : Prop where
  forwards : manager.forwards.Counts
    (forwardHolders + manager.objects.holdings ServiceObject.forwards)
  objects : manager.objects.Counts objectHolders

/-- The target has the sessions and servers of the source, and no object or forward
service that the source has not. -/
structure Shrinks (source target : Manager) : Prop where
  servers : target.servers = source.servers
  sessions : target.sessions = source.sessions
  linked : target.linked = source.linked
  forwards : ∀ {cell service}, target.forwards.value? cell = some service →
    source.forwards.value? cell = some service
  objects : ∀ {cell object}, target.objects.value? cell = some object →
    source.objects.value? cell = some object

theorem Shrinks.refl (manager : Manager) : Shrinks manager manager :=
  ⟨rfl, rfl, rfl, id, id⟩

theorem Shrinks.trans {source middle target : Manager} (first : Shrinks source middle)
    (second : Shrinks middle target) : Shrinks source target where
  servers := second.servers.trans first.servers
  sessions := second.sessions.trans first.sessions
  linked := second.linked.trans first.linked
  forwards live := first.forwards (second.forwards live)
  objects live := first.objects (second.objects live)

/-- The same servers and sessions, objects and forward services; only the counts of
references may differ. -/
structure Alike (source target : Manager) : Prop where
  servers : target.servers = source.servers
  sessions : target.sessions = source.sessions
  linked : target.linked = source.linked
  forwards : target.forwards.value? = source.forwards.value?
  objects : target.objects.value? = source.objects.value?
  nextForward : target.forwards.next = source.forwards.next
  nextObject : target.objects.next = source.objects.next

theorem Alike.shrinks {source target : Manager} (alike : Alike source target) :
    Shrinks source target where
  servers := alike.servers
  sessions := alike.sessions
  linked := alike.linked
  forwards live := by rwa [alike.forwards] at live
  objects live := by rwa [alike.objects] at live

/-- An action either faults for a reason that is excused, or moves the handles as its
ledger says and ends well. -/
def Yields (outcome : Outcome) (source : Manager) (Excused : Fault → Prop)
    (Good : Manager → Prop) : Prop :=
  match outcome with
  | .error fault => Excused fault
  | .ok (target, ledger) => Moves source.handles ledger target.handles ∧ Good target

section

variable {Excused : Fault → Prop} {Middle Good Better : Manager → Prop} {manager : Manager}

theorem Yields.andThen {first second : Action}
    (earlier : Yields (first manager) manager Excused Middle)
    (later : ∀ middle, Middle middle → Yields (second middle) middle Excused Good) :
    Yields ((first.andThen second) manager) manager Excused Good := by
  rw [Action.andThen]
  cases began : first manager with
  | error fault =>
      rw [began] at earlier
      exact earlier
  | ok reached =>
      rcases reached with ⟨middle, ledger⟩
      rw [began] at earlier
      rcases earlier with ⟨moved, holds⟩
      have continued := later middle holds
      cases ended : second middle with
      | error fault =>
          rw [ended] at continued
          simp only [ended]
          exact continued
      | ok reached =>
          rcases reached with ⟨target, rest⟩
          rw [ended] at continued
          simp only [ended]
          exact ⟨moved.append continued.1, continued.2⟩

theorem Yields.mono {outcome : Outcome} (yields : Yields outcome manager Excused Good)
    (weaker : ∀ target, Good target → Better target) :
    Yields outcome manager Excused Better := by
  cases outcome with
  | error fault => exact yields
  | ok reached => exact ⟨yields.1, weaker _ yields.2⟩

theorem Yields.excuse {outcome : Outcome} {Others : Fault → Prop}
    (yields : Yields outcome manager Excused Good)
    (weaker : ∀ fault, Excused fault → Others fault) :
    Yields outcome manager Others Good := by
  cases outcome with
  | error fault => exact weaker fault yields
  | ok reached => exact yields

/-- Only the handles of the source matter. -/
theorem Yields.of_handles_eq {outcome : Outcome} {source : Manager}
    (yields : Yields outcome source Excused Good) (same : source.handles = manager.handles) :
    Yields outcome manager Excused Good := by
  cases outcome with
  | error fault => exact yields
  | ok reached =>
      refine ⟨?_, yields.2⟩
      rw [← same]
      exact yields.1

theorem yields_skip (holds : Good manager) :
    Yields (Action.skip manager) manager Excused Good :=
  ⟨Moves.nil _, holds⟩

/-- An action that gets and closes nothing and leaves every holder its handle. -/
theorem yields_of_handles_eq {target : Manager} (same : target.handles = manager.handles)
    (holds : Good target) : Yields (.ok (target, [])) manager Excused Good := by
  constructor
  · rw [same]
    exact Moves.nil _
  · exact holds

end

/-! ## Servers and sessions -/

/-- The handles once a slot of a server has a new content. -/
theorem handles_update_server {manager target : Manager} {slot : Nat}
    {content : Option Server} (sessions : target.sessions = manager.sessions)
    (forwards : target.forwards = manager.forwards) (objects : target.objects = manager.objects)
    (servers : target.servers.get = Function.update manager.servers.get slot content) :
    target.handles = Function.update manager.handles (.server slot)
      (content.map Server.portHandle) := by
  funext owner
  by_cases same : owner = .server slot
  · subst same
    simp only [Manager.handles, servers, Function.update_self]
  · rw [Function.update_of_ne same]
    cases owner with
    | server other =>
        have different : other ≠ slot := fun equal => same (congrArg Owner.server equal)
        simp only [Manager.handles, servers, Function.update_of_ne different]
    | session _ => simp only [Manager.handles, sessions]
    | forward _ => simp only [Manager.handles, forwards]
    | object _ => simp only [Manager.handles, objects]

/-- A new server has the handle of its port. -/
theorem moves_fill_server {manager target : Manager} {slot : Nat} {server : Server}
    (within : slot < manager.servers.length) (free : manager.servers.get slot = none)
    (sessions : target.sessions = manager.sessions)
    (forwards : target.forwards = manager.forwards) (objects : target.objects = manager.objects)
    (filled : target.servers = manager.servers.fill slot server) :
    Moves manager.handles [.acquire server.portHandle] target.handles := by
  have slots : target.servers.get =
      Function.update manager.servers.get slot (some server) := by
    rw [filled, Pool.get_fill within]
  rw [handles_update_server sessions forwards objects slots]
  exact Moves.acquire (by rw [Manager.handles, free]; rfl) server.portHandle

/-- The handle of the port of a server that is destroyed is closed. -/
theorem moves_clear_server {manager target : Manager} {slot : Nat} {server : Server}
    (occupied : manager.servers.get slot = some server)
    (sessions : target.sessions = manager.sessions)
    (forwards : target.forwards = manager.forwards) (objects : target.objects = manager.objects)
    (cleared : target.servers = manager.servers.clear slot) :
    Moves manager.handles [.release server.portHandle] target.handles := by
  have slots : target.servers.get = Function.update manager.servers.get slot none := by
    rw [cleared, Pool.get_clear]
  rw [handles_update_server sessions forwards objects slots]
  exact Moves.release (by rw [Manager.handles, occupied]; rfl)

/-- The handles once a slot of a session has a new content. -/
theorem handles_update_session {manager target : Manager} {slot : Nat}
    {content : Option ServerSession} (servers : target.servers = manager.servers)
    (forwards : target.forwards = manager.forwards) (objects : target.objects = manager.objects)
    (sessions : target.sessions.get = Function.update manager.sessions.get slot content) :
    target.handles = Function.update manager.handles (.session slot)
      (content.map ServerSession.sessionHandle) := by
  funext owner
  by_cases same : owner = .session slot
  · subst same
    simp only [Manager.handles, sessions, Function.update_self]
  · rw [Function.update_of_ne same]
    cases owner with
    | session other =>
        have different : other ≠ slot := fun equal => same (congrArg Owner.session equal)
        simp only [Manager.handles, sessions, Function.update_of_ne different]
    | server _ => simp only [Manager.handles, servers]
    | forward _ => simp only [Manager.handles, forwards]
    | object _ => simp only [Manager.handles, objects]

/-- A new session has its handle. -/
theorem moves_fill_session {manager target : Manager} {slot : Nat} {session : ServerSession}
    (within : slot < manager.sessions.length) (free : manager.sessions.get slot = none)
    (servers : target.servers = manager.servers)
    (forwards : target.forwards = manager.forwards) (objects : target.objects = manager.objects)
    (filled : target.sessions = manager.sessions.fill slot session) :
    Moves manager.handles [.acquire session.sessionHandle] target.handles := by
  have slots : target.sessions.get =
      Function.update manager.sessions.get slot (some session) := by
    rw [filled, Pool.get_fill within]
  rw [handles_update_session servers forwards objects slots]
  exact Moves.acquire (by rw [Manager.handles, free]; rfl) session.sessionHandle

/-- The handle of a session that is freed is closed. -/
theorem moves_clear_session {manager target : Manager} {slot : Nat} {session : ServerSession}
    (occupied : manager.sessions.get slot = some session)
    (servers : target.servers = manager.servers) (forwards : target.forwards = manager.forwards)
    (objects : target.objects = manager.objects)
    (cleared : target.sessions = manager.sessions.clear slot) :
    Moves manager.handles [.release session.sessionHandle] target.handles := by
  have slots : target.sessions.get = Function.update manager.sessions.get slot none := by
    rw [cleared, Pool.get_clear]
  rw [handles_update_session servers forwards objects slots]
  exact Moves.release (by rw [Manager.handles, occupied]; rfl)

/-! ## Forward services -/

section

variable {Excused : Fault → Prop} {manager : Manager}
  {forwardHolders objectHolders : Multiset Ptr} {cell : Ptr}

theorem handles_congr_forwards (manager : Manager) {forwards : Heap (Counted Service)}
    (values : forwards.value? = manager.forwards.value?) :
    { manager with forwards := forwards }.handles = manager.handles := by
  funext owner
  cases owner with
  | forward cell => simp only [Manager.handles, values]
  | server _ | session _ | object _ => rfl

/-- The handles once a forward service is stored or freed. -/
theorem handles_update_forward (manager : Manager) {forwards : Heap (Counted Service)}
    {cell : Ptr} {content : Option Service}
    (values : forwards.value? = Function.update manager.forwards.value? cell content) :
    { manager with forwards := forwards }.handles =
      Function.update manager.handles (.forward cell) (content.map Service.session) := by
  funext owner
  by_cases same : owner = .forward cell
  · subst same
    simp only [Manager.handles, values, Function.update_self]
  · rw [Function.update_of_ne same]
    cases owner with
    | forward other =>
        have different : other ≠ cell := fun equal => same (congrArg Owner.forward equal)
        simp only [Manager.handles, values, Function.update_of_ne different]
    | server _ | session _ | object _ => rfl

theorem Held.addForward (held : Held manager forwardHolders objectHolders)
    (service : Service) :
    Yields (addForward service manager) manager Excused fun target =>
      Held target (manager.forwards.next ::ₘ forwardHolders) objectHolders ∧
        target = { manager with forwards := manager.forwards.share service } := by
  constructor
  · rw [handles_update_forward manager (manager.forwards.share_value? service)]
    have vacant : manager.handles (.forward manager.forwards.next) = none := by
      rw [Manager.handles, manager.forwards.value?_eq_none_of_next_le (Nat.le_refl _)]
      rfl
    exact Moves.acquire vacant service.session
  · refine ⟨⟨?_, held.objects⟩, rfl⟩
    rw [Multiset.cons_add]
    exact held.forwards.share service

theorem Held.retainForward (held : Held manager forwardHolders objectHolders)
    (member : cell ∈ forwardHolders) :
    Yields (retainForward cell manager) manager Excused fun target =>
      Held target (cell ::ₘ forwardHolders) objectHolders ∧ Alike manager target := by
  rcases held.forwards.retain (Multiset.mem_add.mpr (Or.inl member)) with
    ⟨forwards, retained, counts, values, next⟩
  simp only [Mitm.retainForward, retained]
  apply yields_of_handles_eq (handles_congr_forwards manager values)
  refine ⟨⟨?_, held.objects⟩, rfl, rfl, rfl, values, rfl, next, rfl⟩
  rw [Multiset.cons_add]
  exact counts

theorem Held.dropForward (held : Held manager (cell ::ₘ forwardHolders) objectHolders) :
    Yields (dropForward cell manager) manager Excused fun target =>
      Held target forwardHolders objectHolders ∧ Shrinks manager target := by
  have counted := held.forwards
  rw [Multiset.cons_add] at counted
  by_cases last : cell ∈ forwardHolders + manager.objects.holdings ServiceObject.forwards
  · rcases counted.release_held last with ⟨forwards, released, counts, values, _⟩
    simp only [Mitm.dropForward, released]
    apply yields_of_handles_eq (handles_congr_forwards manager values)
    refine ⟨⟨counts, held.objects⟩, rfl, rfl, rfl, ?_, id⟩
    intro cell service live
    rw [← values]
    exact live
  · rcases counted.release_last last with
      ⟨forwards, service, live, released, counts, values, _⟩
    simp only [Mitm.dropForward, released]
    constructor
    · rw [handles_update_forward manager values]
      exact Moves.release (by rw [Manager.handles, live]; rfl)
    · refine ⟨⟨counts, held.objects⟩, rfl, rfl, rfl, ?_, id⟩
      intro other service live
      rw [values] at live
      by_cases same : other = cell
      · rw [same, Function.update_self] at live
        contradiction
      · rwa [Function.update_of_ne same] at live

/-! ## Objects -/

theorem handles_congr_objects (manager : Manager) {objects : Heap (Counted ServiceObject)}
    (values : objects.value? = manager.objects.value?) :
    { manager with objects := objects }.handles = manager.handles := by
  funext owner
  cases owner with
  | object cell => simp only [Manager.handles, values]
  | server _ | session _ | forward _ => rfl

/-- The handles once an object is stored or freed. -/
theorem handles_update_object (manager : Manager) {objects : Heap (Counted ServiceObject)}
    {cell : Ptr} {content : Option ServiceObject}
    (values : objects.value? = Function.update manager.objects.value? cell content) :
    { manager with objects := objects }.handles =
      Function.update manager.handles (.object cell) (content.bind ServiceObject.srv) := by
  funext owner
  by_cases same : owner = .object cell
  · subst same
    simp only [Manager.handles, values, Function.update_self]
  · rw [Function.update_of_ne same]
    cases owner with
    | object other =>
        have different : other ≠ cell := fun equal => same (congrArg Owner.object equal)
        simp only [Manager.handles, values, Function.update_of_ne different]
    | server _ | session _ | forward _ => rfl

theorem Held.addObject {object : ServiceObject}
    (held : Held manager (object.forwards + forwardHolders) objectHolders) :
    Yields (addObject object manager) manager Excused fun target =>
      Held target forwardHolders (manager.objects.next ::ₘ objectHolders) ∧
        target = { manager with objects := manager.objects.share object } := by
  have vacant : manager.handles (.object manager.objects.next) = none := by
    rw [Manager.handles, manager.objects.value?_eq_none_of_next_le (Nat.le_refl _)]
    rfl
  constructor
  · rw [handles_update_object manager (manager.objects.share_value? object), Option.bind_some]
    cases owned : object.srv with
    | none =>
        have same : Function.update manager.handles (.object manager.objects.next) none =
            manager.handles := by
          rw [← vacant, Function.update_eq_self]
        rw [same]
        exact Moves.nil _
    | some handle => exact Moves.acquire vacant handle
  · refine ⟨⟨?_, held.objects.share object⟩, rfl⟩
    have counted := held.forwards
    rw [add_comm object.forwards, add_assoc] at counted
    rw [Heap.holdings_share]
    exact counted

theorem Held.retainObject (held : Held manager forwardHolders objectHolders)
    (member : cell ∈ objectHolders) (few : Multiset.card objectHolders < 0xffffffff) :
    Yields (retainObject cell manager) manager Excused fun target =>
      Held target forwardHolders (cell ::ₘ objectHolders) ∧ Alike manager target := by
  have counted : manager.objects.references cell < 0xffffffff := by
    rw [held.objects.references_eq]
    exact Nat.lt_of_le_of_lt (Multiset.count_le_card _ _) few
  rcases held.objects.retain member with ⟨objects, retained, counts, values, next⟩
  simp only [Mitm.retainObject, counted, if_true, retained]
  apply yields_of_handles_eq (handles_congr_objects manager values)
  refine ⟨⟨?_, counts⟩, rfl, rfl, rfl, rfl, values, rfl, next⟩
  rw [Heap.holdings_congr _ values next]
  exact held.forwards

/-- The destructor of an object gives up what it holds. -/
theorem Held.destroyObject {object : ServiceObject} {objects : Heap (Counted ServiceObject)}
    (live : manager.objects.value? cell = some object)
    (values : objects.value? = Function.update manager.objects.value? cell none)
    (held : Held { manager with objects := objects } (object.forwards + forwardHolders)
      objectHolders) :
    Yields (Mitm.destroyObject object { manager with objects := objects }) manager Excused
      fun target =>
        Held target forwardHolders objectHolders ∧
          Shrinks { manager with objects := objects } target := by
  have freed := handles_update_object manager values
  rw [Option.bind_none] at freed
  have owned : manager.handles (.object cell) = object.srv := by
    rw [Manager.handles, live, Option.bind_some]
  have mitm : ∀ forwardService, object.srv = none → object.forwards = {forwardService} →
      Yields (Mitm.dropForward forwardService { manager with objects := objects }) manager
        Excused fun target =>
          Held target forwardHolders objectHolders ∧
            Shrinks { manager with objects := objects } target := by
    intro forwardService unowned forwards
    rw [unowned] at owned
    have same : { manager with objects := objects }.handles = manager.handles := by
      rw [freed, ← owned, Function.update_eq_self]
    rw [forwards, Multiset.singleton_add] at held
    have dropped : Yields (Mitm.dropForward forwardService { manager with objects := objects })
        { manager with objects := objects } Excused fun target =>
          Held target forwardHolders objectHolders ∧
            Shrinks { manager with objects := objects } target :=
      held.dropForward
    exact dropped.of_handles_eq same
  cases object with
  | nsVmMitmService forwardService => exact mitm forwardService rfl rfl
  | nsServiceGetterMitmService forwardService => exact mitm forwardService rfl rfl
  | nsROAppControlDataService srv =>
      constructor
      · rw [freed]
        exact Moves.release owned
      · rw [ServiceObject.forwards, zero_add] at held
        exact ⟨held, Shrinks.refl _⟩

theorem Held.dropObject (held : Held manager forwardHolders (cell ::ₘ objectHolders)) :
    Yields (dropObject cell manager) manager Excused fun target =>
      Held target forwardHolders objectHolders ∧ Shrinks manager target := by
  by_cases last : cell ∈ objectHolders
  · rcases held.objects.release_held last with ⟨objects, released, counts, values, next⟩
    simp only [Mitm.dropObject, released]
    apply yields_of_handles_eq (handles_congr_objects manager values)
    refine ⟨⟨?_, counts⟩, rfl, rfl, rfl, id, ?_⟩
    · rw [Heap.holdings_congr _ values next]
      exact held.forwards
    · intro cell object live
      rw [← values]
      exact live
  · rcases held.objects.release_last last with
      ⟨objects, object, live, released, counts, values, next⟩
    have shrunk : Shrinks manager { manager with objects := objects } := by
      refine ⟨rfl, rfl, rfl, id, ?_⟩
      intro other object live
      rw [values] at live
      by_cases same : other = cell
      · rw [same, Function.update_self] at live
        contradiction
      · rwa [Function.update_of_ne same] at live
    have rest : Held { manager with objects := objects } (object.forwards + forwardHolders)
        objectHolders := by
      refine ⟨?_, counts⟩
      have counted := held.forwards
      rw [Heap.holdings_free _ live values next, ← add_assoc] at counted
      rw [add_comm object.forwards]
      exact counted
    simp only [Mitm.dropObject, released]
    exact (rest.destroyObject live values).mono fun _ holds => ⟨holds.1, shrunk.trans holds.2⟩

end

end SysTweak.Mitm
