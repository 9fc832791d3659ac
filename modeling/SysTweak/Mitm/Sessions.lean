import Mathlib.Data.Multiset.Bind
import SysTweak.Mitm.Ownership

/-!
# Sessions in order

What holds of the manager while it processes a holder of the wait list: every reference
belongs to a session or is in the hands of the processing, a session and its object fit
each other, and in the wait list is exactly what waits.  Each action of the manager keeps
that, and ends the process for the reasons its calls give it only.
-/

namespace SysTweak.Mitm

open SysTweak.Ledger
open SysTweak.Memory
open SysTweak.Platform
open SysTweak.Sf

/-- The references of a session to forward services. -/
def ServerSession.forwards (session : ServerSession) : Multiset Ptr :=
  session.forwardService.elim 0 singleton

/-- The references of sessions to forward services. -/
def forwardsOf (sessions : Pool ServerSession) : Multiset Ptr :=
  sessions.members.bind ServerSession.forwards

/-- The references of sessions to objects. -/
def objectsOf (sessions : Pool ServerSession) : Multiset Ptr :=
  sessions.members.map ServerSession.srvObjHolder

/-- A server waits for a client, a session for its next request. -/
def Manager.Awaits (manager : Manager) : Waitable → Prop
  | .server slot => ∃ server, manager.servers.get slot = some server
  | .session slot => ∃ session, manager.sessions.get slot = some session ∧
      session.hasReceived = false

/-- A session fits its object: it has a forward service exactly when the object does not
own a service, and the forward service sends nothing to a pointer buffer. -/
structure Proper (manager : Manager) (session : ServerSession) : Prop where
  object : ∀ {object}, manager.objects.value? session.srvObjHolder = some object →
    (object.srv = none ↔ ∃ cell, session.forwardService = some cell)
  sized : ∀ {cell service}, session.forwardService = some cell →
    manager.forwards.value? cell = some service → service.pointerBufferSize = 0

/-- The manager is in order while it processes the holder `busy`, with some references
in hand.  When every processing is prompt, no other session has a request it did not
reply to. -/
structure Sound (features : Features) (Prompt : Prop) (busy : Option Waitable)
    (forwardHolders objectHolders : Multiset Ptr) (manager : Manager) : Prop where
  held : Held manager (forwardHolders + forwardsOf manager.sessions)
    (objectHolders + objectsOf manager.sessions)
  proper : ∀ session ∈ manager.sessions.members, Proper manager session
  sessions : manager.sessions.length = features.maxSessions
  servers : manager.servers.length = features.ports.length
  indices : ∀ {slot server}, manager.servers.get slot = some server →
    server.index < features.ports.length
  once : manager.linked.Nodup
  linked_iff : ∀ waitable, waitable ∈ manager.linked ↔
    manager.Awaits waitable ∧ some waitable ≠ busy
  prompt : Prompt → ∀ {slot session}, manager.sessions.get slot = some session →
    session.hasReceived = true → busy = some (.session slot)

theorem Proper.of_shrinks {source target : Manager} {session : ServerSession}
    (shrinks : Shrinks source target) (proper : Proper source session) :
    Proper target session where
  object live := proper.object (shrinks.objects live)
  sized cell live := proper.sized cell (shrinks.forwards live)

/-- The manager processes nothing once the holder it processed no longer waits. -/
theorem Sound.rest {features : Features} {Prompt : Prop} {busy : Waitable}
    {forwardHolders objectHolders : Multiset Ptr} {manager : Manager}
    (sound : Sound features Prompt (some busy) forwardHolders objectHolders manager)
    (idle : ¬ manager.Awaits busy)
    (replied : Prompt → ∀ {slot session}, manager.sessions.get slot = some session →
      session.hasReceived = true → busy ≠ .session slot) :
    Sound features Prompt none forwardHolders objectHolders manager where
  held := sound.held
  proper := sound.proper
  sessions := sound.sessions
  servers := sound.servers
  indices := sound.indices
  once := sound.once
  linked_iff waitable := by
    rw [sound.linked_iff]
    constructor
    · rintro ⟨awaits, _⟩
      exact ⟨awaits, Option.some_ne_none _⟩
    · rintro ⟨awaits, _⟩
      refine ⟨awaits, ?_⟩
      intro same
      exact idle (Option.some.inj same ▸ awaits)
  prompt promptly {slot session} here received := by
    have busyHere := sound.prompt promptly here received
    exact absurd (Option.some.inj busyHere) (replied promptly here received)

section

variable {features : Features} {Prompt : Prop} {busy : Option Waitable}
  {forwardHolders objectHolders : Multiset Ptr} {manager : Manager}
  {Excused : Fault → Prop}

/-! ## The references a session has -/

theorem forwardsOf_fill {sessions : Pool ServerSession} {slot : Nat} {session : ServerSession}
    (within : slot < sessions.length) (free : sessions.get slot = none) :
    forwardsOf (sessions.fill slot session) = session.forwards + forwardsOf sessions := by
  rw [forwardsOf, Pool.members_fill within free, Multiset.cons_bind, forwardsOf]

theorem objectsOf_fill {sessions : Pool ServerSession} {slot : Nat} {session : ServerSession}
    (within : slot < sessions.length) (free : sessions.get slot = none) :
    objectsOf (sessions.fill slot session) = session.srvObjHolder ::ₘ objectsOf sessions := by
  rw [objectsOf, Pool.members_fill within free, Multiset.map_cons, objectsOf]

theorem forwardsOf_clear {sessions : Pool ServerSession} {slot : Nat} {session : ServerSession}
    (occupied : sessions.get slot = some session) :
    forwardsOf sessions = session.forwards + forwardsOf (sessions.clear slot) := by
  rw [forwardsOf, Pool.members_clear occupied, Multiset.cons_bind, forwardsOf]

theorem objectsOf_clear {sessions : Pool ServerSession} {slot : Nat} {session : ServerSession}
    (occupied : sessions.get slot = some session) :
    objectsOf sessions = session.srvObjHolder ::ₘ objectsOf (sessions.clear slot) := by
  rw [objectsOf, Pool.members_clear occupied, Multiset.map_cons, objectsOf]

theorem mem_forwardsOf {sessions : Pool ServerSession} {session : ServerSession} {cell : Ptr}
    (member : session ∈ sessions.members) (shared : session.forwardService = some cell) :
    cell ∈ forwardsOf sessions := by
  refine Multiset.mem_bind.mpr ⟨session, member, ?_⟩
  rw [ServerSession.forwards, shared]
  exact Multiset.mem_singleton_self cell

theorem mem_objectsOf {sessions : Pool ServerSession} {session : ServerSession}
    (member : session ∈ sessions.members) : session.srvObjHolder ∈ objectsOf sessions :=
  Multiset.mem_map_of_mem ServerSession.srvObjHolder member

/-! ## References in hand -/

/-- What changes references only keeps the manager in order. -/
theorem Sound.transfer {target : Manager} {otherForwards otherObjects : Multiset Ptr}
    (sound : Sound features Prompt busy forwardHolders objectHolders manager)
    (servers : target.servers = manager.servers)
    (sessions : target.sessions = manager.sessions)
    (linked : target.linked = manager.linked)
    (held : Held target (otherForwards + forwardsOf manager.sessions)
      (otherObjects + objectsOf manager.sessions))
    (proper : ∀ session ∈ manager.sessions.members, Proper target session) :
    Sound features Prompt busy otherForwards otherObjects target where
  held := by
    rw [sessions]
    exact held
  proper := by
    rw [sessions]
    exact proper
  sessions := by
    rw [sessions]
    exact sound.sessions
  servers := by
    rw [servers]
    exact sound.servers
  indices := by
    rw [servers]
    exact sound.indices
  once := by
    rw [linked]
    exact sound.once
  linked_iff waitable := by
    rw [linked, sound.linked_iff]
    cases waitable with
    | server slot => simp only [Manager.Awaits, servers]
    | session slot => simp only [Manager.Awaits, sessions]
  prompt := by
    rw [sessions]
    exact sound.prompt

theorem Sound.addForward
    (sound : Sound features Prompt busy forwardHolders objectHolders manager)
    (service : Service) :
    Yields (addForward service manager) manager Excused fun target =>
      Sound features Prompt busy (manager.forwards.next ::ₘ forwardHolders) objectHolders
          target ∧
        target = { manager with forwards := manager.forwards.share service } := by
  refine (sound.held.addForward service).mono ?_
  rintro target ⟨held, rfl⟩
  refine ⟨sound.transfer rfl rfl rfl ?_ ?_, rfl⟩
  · rw [Multiset.cons_add]
    exact held
  · intro session member
    refine ⟨(sound.proper session member).object, ?_⟩
    intro cell service shared live
    have older : cell ≠ manager.forwards.next := by
      rintro rfl
      apply sound.held.forwards.notMem_next
      rw [add_assoc]
      exact Multiset.mem_add.mpr (Or.inr (Multiset.mem_add.mpr
        (Or.inl (mem_forwardsOf member shared))))
    rw [manager.forwards.share_value?, Function.update_of_ne older] at live
    exact (sound.proper session member).sized shared live

theorem Sound.retainForward {cell : Ptr}
    (sound : Sound features Prompt busy forwardHolders objectHolders manager)
    (member : cell ∈ forwardHolders + forwardsOf manager.sessions) :
    Yields (retainForward cell manager) manager Excused fun target =>
      Sound features Prompt busy (cell ::ₘ forwardHolders) objectHolders target ∧
        Alike manager target := by
  refine (sound.held.retainForward member).mono ?_
  rintro target ⟨held, alike⟩
  refine ⟨sound.transfer alike.servers alike.sessions alike.linked ?_ ?_, alike⟩
  · rw [Multiset.cons_add]
    exact held
  · exact fun session member => (sound.proper session member).of_shrinks alike.shrinks

theorem Sound.dropForward {cell : Ptr}
    (sound : Sound features Prompt busy (cell ::ₘ forwardHolders) objectHolders manager) :
    Yields (dropForward cell manager) manager Excused fun target =>
      Sound features Prompt busy forwardHolders objectHolders target ∧
        Shrinks manager target := by
  have held := sound.held
  rw [Multiset.cons_add] at held
  refine held.dropForward.mono ?_
  rintro target ⟨held, shrinks⟩
  refine ⟨sound.transfer shrinks.servers shrinks.sessions shrinks.linked held ?_, shrinks⟩
  exact fun session member => (sound.proper session member).of_shrinks shrinks

theorem Sound.addObject {object : ServiceObject}
    (sound : Sound features Prompt busy (object.forwards + forwardHolders) objectHolders
      manager) :
    Yields (addObject object manager) manager Excused fun target =>
      Sound features Prompt busy forwardHolders (manager.objects.next ::ₘ objectHolders)
          target ∧
        target = { manager with objects := manager.objects.share object } := by
  have held := sound.held
  rw [add_assoc] at held
  refine held.addObject.mono ?_
  rintro target ⟨held, rfl⟩
  refine ⟨sound.transfer rfl rfl rfl ?_ ?_, rfl⟩
  · rw [Multiset.cons_add]
    exact held
  · intro session member
    refine ⟨?_, (sound.proper session member).sized⟩
    intro other live
    have older : session.srvObjHolder ≠ manager.objects.next := by
      intro same
      apply sound.held.objects.notMem_next
      rw [← same]
      exact Multiset.mem_add.mpr (Or.inr (mem_objectsOf member))
    rw [manager.objects.share_value?, Function.update_of_ne older] at live
    exact (sound.proper session member).object live

theorem Sound.retainObject {cell : Ptr}
    (sound : Sound features Prompt busy forwardHolders objectHolders manager)
    (member : cell ∈ objectHolders + objectsOf manager.sessions)
    (few : Multiset.card (objectHolders + objectsOf manager.sessions) < 0xffffffff) :
    Yields (retainObject cell manager) manager Excused fun target =>
      Sound features Prompt busy forwardHolders (cell ::ₘ objectHolders) target ∧
        Alike manager target := by
  refine (sound.held.retainObject member few).mono ?_
  rintro target ⟨held, alike⟩
  refine ⟨sound.transfer alike.servers alike.sessions alike.linked ?_ ?_, alike⟩
  · rw [Multiset.cons_add]
    exact held
  · exact fun session member => (sound.proper session member).of_shrinks alike.shrinks

/-! ## Sessions made and closed -/

/-- A session more, for which there was room, and nothing else. -/
structure Extends (source target : Manager) : Prop where
  room : source.sessions.firstFree ≠ none
  servers : target.servers = source.servers
  forwards : target.forwards = source.forwards
  objects : target.objects = source.objects
  sessions : ∀ {slot session}, source.sessions.get slot = some session →
    target.sessions.get slot = some session

/-- A new session in a free slot. -/
theorem Sound.fill {target : Manager} {slot : Nat} {session : ServerSession}
    (sound : Sound features Prompt busy (session.forwards + forwardHolders)
      (session.srvObjHolder ::ₘ objectHolders) manager)
    (proper : Proper manager session) (new : session.hasReceived = false)
    (present : ∀ slot, busy = some (.session slot) →
      ∃ session, manager.sessions.get slot = some session)
    (within : slot < manager.sessions.length) (free : manager.sessions.get slot = none)
    (servers : target.servers = manager.servers)
    (sessions : target.sessions = manager.sessions.fill slot session)
    (objects : target.objects = manager.objects)
    (forwards : target.forwards = manager.forwards)
    (linked : target.linked = manager.linked ++ [.session slot]) :
    Sound features Prompt busy forwardHolders objectHolders target where
  held := by
    have held := sound.held
    rw [add_comm session.forwards, add_assoc, Multiset.cons_add, ← Multiset.add_cons] at held
    rw [sessions, forwardsOf_fill within free, objectsOf_fill within free]
    refine ⟨?_, ?_⟩
    · rw [forwards, objects]
      exact held.forwards
    · rw [objects]
      exact held.objects
  proper other member := by
    rw [sessions, Pool.members_fill within free, Multiset.mem_cons] at member
    rcases member with rfl | member
    · refine ⟨?_, ?_⟩
      · rw [objects]
        exact proper.object
      · rw [forwards]
        exact proper.sized
    · refine ⟨?_, ?_⟩
      · rw [objects]
        exact (sound.proper other member).object
      · rw [forwards]
        exact (sound.proper other member).sized
  sessions := by
    rw [sessions, Pool.length_fill]
    exact sound.sessions
  servers := by
    rw [servers]
    exact sound.servers
  indices := by
    rw [servers]
    exact sound.indices
  once := by
    rw [linked, List.nodup_append']
    refine ⟨sound.once, List.nodup_singleton _, ?_⟩
    rw [List.disjoint_singleton, sound.linked_iff]
    rintro ⟨⟨session, here, _⟩, _⟩
    rw [free] at here
    contradiction
  linked_iff waitable := by
    rw [linked, List.mem_append, List.mem_singleton, sound.linked_iff]
    cases waitable with
    | server other => simp [Manager.Awaits, servers]
    | session other =>
        rw [Manager.Awaits, Manager.Awaits, sessions, Pool.get_fill within]
        by_cases same : other = slot
        · subst same
          simp only [Function.update_self, or_true, true_iff]
          refine ⟨⟨session, rfl, new⟩, ?_⟩
          intro here
          rcases present other here.symm with ⟨session, here⟩
          rw [free] at here
          contradiction
        · simp only [Function.update_of_ne same, Waitable.session.injEq, same, or_false]
  prompt promptly {other kept} here received := by
    rw [sessions, Pool.get_fill within] at here
    by_cases same : other = slot
    · rw [same, Function.update_self] at here
      cases here
      rw [new] at received
      contradiction
    · rw [Function.update_of_ne same] at here
      exact sound.prompt promptly here received

theorem Sound.createSession {session : ServerSession}
    (sound : Sound features Prompt busy (session.forwards + forwardHolders)
      (session.srvObjHolder ::ₘ objectHolders) manager)
    (proper : Proper manager session) (new : session.hasReceived = false)
    (present : ∀ slot, busy = some (.session slot) →
      ∃ session, manager.sessions.get slot = some session)
    (full : manager.sessions.firstFree = none →
      Excused (.result resultOutOfSessionMemory)) :
    Yields (createSession session manager) manager Excused fun target =>
      Sound features Prompt busy forwardHolders objectHolders target ∧
        Extends manager target := by
  rw [Mitm.createSession]
  cases found : manager.sessions.firstFree with
  | none => exact full found
  | some slot =>
      rcases Pool.firstFree_eq_some found with ⟨within, free⟩
      refine ⟨?_, sound.fill proper new present within free rfl rfl rfl rfl rfl, ?_, rfl, rfl,
        rfl, ?_⟩
      · exact moves_fill_session within free rfl rfl rfl rfl
      · rw [found]
        exact Option.some_ne_none slot
      · intro other kept here
        have different : other ≠ slot := by
          rintro rfl
          rw [free] at here
          contradiction
        rw [Pool.get_fill_of_ne _ different, here]

/-- A session less, which was not in the wait list. -/
theorem Sound.clear {middle target : Manager} {otherForwards otherObjects : Multiset Ptr}
    {slot : Nat} (sound : Sound features Prompt busy otherForwards otherObjects manager)
    (shrinks : Shrinks manager middle) (unlinked : .session slot ∉ manager.linked)
    (cleared : target = { middle with sessions := middle.sessions.clear slot })
    (held : Held middle (forwardHolders + forwardsOf target.sessions)
      (objectHolders + objectsOf target.sessions)) :
    Sound features Prompt busy forwardHolders objectHolders target := by
  subst cleared
  refine ⟨⟨held.forwards, held.objects⟩, ?_, ?_, ?_, ?_, ?_, ?_, ?_⟩
  · intro session member
    have before : session ∈ manager.sessions.members := by
      rw [Pool.mem_members_iff] at member
      rcases member with ⟨other, here⟩
      rw [shrinks.sessions, Pool.get_clear] at here
      by_cases same : other = slot
      · rw [same, Function.update_self] at here
        contradiction
      · rw [Function.update_of_ne same] at here
        exact Pool.mem_members_iff.mpr ⟨other, here⟩
    have kept := (sound.proper session before).of_shrinks shrinks
    exact ⟨kept.object, kept.sized⟩
  · rw [Pool.length_clear, shrinks.sessions]
    exact sound.sessions
  · rw [shrinks.servers]
    exact sound.servers
  · rw [shrinks.servers]
    exact sound.indices
  · rw [shrinks.linked]
    exact sound.once
  · intro waitable
    rw [shrinks.linked, sound.linked_iff]
    cases waitable with
    | server other => simp only [Manager.Awaits, shrinks.servers]
    | session other =>
        by_cases same : other = slot
        · subst same
          have idle := mt (sound.linked_iff _).mpr unlinked
          simp only [idle, false_iff]
          rintro ⟨⟨session, here, _⟩, _⟩
          rw [Pool.get_clear_self] at here
          contradiction
        · simp only [Manager.Awaits, Pool.get_clear_of_ne _ same, shrinks.sessions]
  · intro promptly other session here received
    rw [Pool.get_clear, shrinks.sessions] at here
    by_cases same : other = slot
    · rw [same, Function.update_self] at here
      contradiction
    · rw [Function.update_of_ne same] at here
      exact sound.prompt promptly here received

/-- A session that is closed gives up its references and closes its handle. -/
theorem Held.closeSessionImpl {slot : Nat} {session : ServerSession}
    (held : Held manager (forwardHolders + forwardsOf manager.sessions)
      (objectHolders + objectsOf manager.sessions))
    (occupied : manager.sessions.get slot = some session) :
    Yields (closeSessionImpl slot manager) manager Excused fun target =>
      Held target (forwardHolders + forwardsOf target.sessions)
          (objectHolders + objectsOf target.sessions) ∧
        ∃ middle, Shrinks manager middle ∧
          target = { middle with sessions := middle.sessions.clear slot } := by
  rw [forwardsOf_clear occupied, objectsOf_clear occupied, Multiset.add_cons] at held
  simp only [Mitm.closeSessionImpl, occupied]
  have dropped : Yields ((session.forwardService.elim Action.skip Mitm.dropForward) manager)
      manager Excused fun middle =>
        Held middle (forwardHolders + forwardsOf (manager.sessions.clear slot))
            (session.srvObjHolder ::ₘ
              (objectHolders + objectsOf (manager.sessions.clear slot))) ∧
          Shrinks manager middle := by
    cases shared : session.forwardService with
    | none =>
        rw [ServerSession.forwards, shared, Option.elim_none, zero_add] at held
        exact yields_skip ⟨held, Shrinks.refl manager⟩
    | some cell =>
        rw [ServerSession.forwards, shared, Option.elim_some, Multiset.singleton_add,
          Multiset.add_cons] at held
        exact held.dropForward
  refine dropped.andThen ?_
  rintro middle ⟨held, shrinks⟩
  refine held.dropObject.andThen ?_
  rintro last ⟨held, more⟩
  have shrunk := shrinks.trans more
  have here : last.sessions.get slot = some session := by
    rw [shrunk.sessions]
    exact occupied
  rw [← shrunk.sessions] at held
  simp only [Mitm.freeSession, here]
  exact ⟨moves_clear_session here rfl rfl rfl rfl, ⟨held.forwards, held.objects⟩, last, shrunk,
    rfl⟩

theorem Sound.closeSessionImpl {slot : Nat} {session : ServerSession}
    (sound : Sound features Prompt busy forwardHolders objectHolders manager)
    (occupied : manager.sessions.get slot = some session)
    (unlinked : .session slot ∉ manager.linked) :
    Yields (closeSessionImpl slot manager) manager Excused fun target =>
      Sound features Prompt busy forwardHolders objectHolders target ∧
        target.sessions = manager.sessions.clear slot := by
  refine (sound.held.closeSessionImpl occupied).mono ?_
  rintro target ⟨held, middle, shrinks, cleared⟩
  refine ⟨sound.clear shrinks unlinked cleared ?_, ?_⟩
  · rw [cleared] at held
    rw [cleared]
    exact ⟨held.forwards, held.objects⟩
  · rw [cleared, shrinks.sessions]

end

end SysTweak.Mitm
