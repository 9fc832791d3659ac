import SysTweak.Mitm.Sessions

/-!
# Serving a port

A client that comes to a port gets a session, an object and a forward service that both
share, or the process ends for one of the reasons listed here.
-/

namespace SysTweak.Mitm

open SysTweak.Ledger
open SysTweak.Memory
open SysTweak.Platform
open SysTweak.Sf

/-- Why the process ends while a port is served. -/
inductive PortFault (features : Features) (sessions : Pool ServerSession)
    (answers : PortAnswers) : Fault → Prop
  | acknowledgeSession (failed : answers.acknowledgeSession.failed = true) :
      PortFault features sessions answers (.result answers.acknowledgeSession)
  | outOfSessionMemory (full : Multiset.card sessions.members = features.maxSessions) :
      PortFault features sessions answers (.result resultOutOfSessionMemory)
  | acceptSession (failed : answers.acceptSession.failed = true) :
      PortFault features sessions answers (.result answers.acceptSession)
  | pointerBuffer (large : answers.forwardService.pointerBufferSize ≠ 0) :
      PortFault features sessions answers .assertion

section

variable {features : Features} {Prompt : Prop} {busy : Option Waitable}
  {forwardHolders objectHolders : Multiset Ptr} {manager : Manager}
  {Excused : Fault → Prop}

/-! ## Holders of the wait list -/

/-- A holder that was processed waits again. -/
theorem Sound.link {waitable : Waitable}
    (sound : Sound features Prompt (some waitable) forwardHolders objectHolders manager)
    (awaits : manager.Awaits waitable)
    (replied : Prompt → ∀ {slot session}, manager.sessions.get slot = some session →
      session.hasReceived = true → waitable ≠ .session slot) :
    Sound features Prompt none forwardHolders objectHolders
      { manager with linked := manager.linked ++ [waitable] } where
  held := ⟨sound.held.forwards, sound.held.objects⟩
  proper session member :=
    ⟨(sound.proper session member).object, (sound.proper session member).sized⟩
  sessions := sound.sessions
  servers := sound.servers
  indices := sound.indices
  once := by
    rw [List.nodup_append']
    refine ⟨sound.once, List.nodup_singleton _, ?_⟩
    rw [List.disjoint_singleton, sound.linked_iff]
    exact fun linked => linked.2 rfl
  linked_iff other := by
    rw [List.mem_append, List.mem_singleton, sound.linked_iff]
    constructor
    · rintro (⟨waits, _⟩ | rfl)
      · exact ⟨waits, Option.some_ne_none _⟩
      · exact ⟨awaits, Option.some_ne_none _⟩
    · rintro ⟨waits, _⟩
      by_cases same : other = waitable
      · exact Or.inr same
      · exact Or.inl ⟨waits, fun equal => same (Option.some.inj equal)⟩
  prompt promptly {slot session} here received := by
    have busyHere := sound.prompt promptly here received
    exact absurd (Option.some.inj busyHere) (replied promptly here received)

/-- A holder that is signaled leaves the wait list. -/
theorem Sound.unlink {waitable : Waitable}
    (sound : Sound features Prompt none forwardHolders objectHolders manager) :
    Sound features Prompt (some waitable) forwardHolders objectHolders
      { manager with linked := manager.linked.erase waitable } where
  held := ⟨sound.held.forwards, sound.held.objects⟩
  proper session member :=
    ⟨(sound.proper session member).object, (sound.proper session member).sized⟩
  sessions := sound.sessions
  servers := sound.servers
  indices := sound.indices
  once := sound.once.erase waitable
  linked_iff other := by
    rw [sound.once.mem_erase_iff, sound.linked_iff]
    constructor
    · rintro ⟨different, awaits, _⟩
      exact ⟨awaits, fun equal => different (Option.some.inj equal)⟩
    · rintro ⟨awaits, different⟩
      exact ⟨fun equal => different (congrArg some equal), awaits, Option.some_ne_none _⟩
  prompt promptly {slot session} here received := by
    have idle := sound.prompt promptly here received
    contradiction

/-! ## Ports -/

theorem forwards_object (port : Port) (cell : Ptr) :
    (port.object cell).forwards = {cell} := by
  cases port <;> rfl

theorem srv_object (port : Port) (cell : Ptr) : (port.object cell).srv = none := by
  cases port <;> rfl

theorem Sound.registerMitmSession {object cell : Ptr} {service : Service} {handle : Handle}
    (sound : Sound features Prompt busy (cell ::ₘ forwardHolders) (object ::ₘ objectHolders)
      manager)
    (live : manager.forwards.value? cell = some service)
    (shared : ∀ {stored}, manager.objects.value? object = some stored → stored.srv = none)
    (present : ∀ slot, busy = some (.session slot) →
      ∃ session, manager.sessions.get slot = some session)
    (full : manager.sessions.firstFree = none →
      Excused (.result resultOutOfSessionMemory))
    (large : service.pointerBufferSize ≠ 0 → Excused .assertion) :
    Yields (registerMitmSession object handle cell service manager) manager Excused
      fun target =>
        Sound features Prompt busy forwardHolders objectHolders target ∧
          Extends manager target := by
  rw [Mitm.registerMitmSession]
  by_cases fits : service.pointerBufferSize ≤ pointerBufferSize
  · rw [if_pos fits]
    apply Sound.createSession
    · rw [ServerSession.forwards, Option.elim_some, Multiset.singleton_add]
      exact sound
    · constructor
      · intro stored here
        exact iff_of_true (shared here) ⟨cell, rfl⟩
      · rintro _ stored ⟨⟩ here
        rw [live] at here
        cases here
        exact Nat.le_zero.mp fits
    · rfl
    · exact present
    · exact full
  · rw [if_neg fits]
    exact large fun zero => fits (zero ▸ Nat.le_refl 0)

theorem Sound.registerSession {object : Ptr} {handle : Handle}
    (sound : Sound features Prompt busy forwardHolders (object ::ₘ objectHolders) manager)
    (owned : ∀ {stored}, manager.objects.value? object = some stored → stored.srv ≠ none)
    (present : ∀ slot, busy = some (.session slot) →
      ∃ session, manager.sessions.get slot = some session)
    (full : manager.sessions.firstFree = none →
      Excused (.result resultOutOfSessionMemory)) :
    Yields (registerSession object handle manager) manager Excused fun target =>
      Sound features Prompt busy forwardHolders objectHolders target ∧
        Extends manager target := by
  apply Sound.createSession
  · rw [ServerSession.forwards]
    exact (zero_add forwardHolders).symm ▸ sound
  · constructor
    · intro stored here
      apply iff_of_false (owned here)
      rintro ⟨cell, absent⟩
      contradiction
    · intro cell service absent
      contradiction
  · rfl
  · exact present
  · exact full

/-- No slot is free exactly when all sessions there can be are there. -/
theorem Sound.firstFree_eq_none_iff
    (sound : Sound features Prompt busy forwardHolders objectHolders manager) :
    manager.sessions.firstFree = none ↔
      Multiset.card manager.sessions.members = features.maxSessions := by
  rw [Pool.firstFree_eq_none_iff, sound.sessions]

theorem Sound.acceptMitmSession {object cell : Ptr} {answers : PortAnswers}
    (sound : Sound features Prompt busy (cell ::ₘ forwardHolders) (object ::ₘ objectHolders)
      manager)
    (live : manager.forwards.value? cell = some answers.forwardService)
    (shared : ∀ {stored}, manager.objects.value? object = some stored → stored.srv = none)
    (present : ∀ slot, busy = some (.session slot) →
      ∃ session, manager.sessions.get slot = some session) :
    Yields (acceptMitmSession answers object cell manager) manager
      (PortFault features manager.sessions answers) fun target =>
        Sound features Prompt busy forwardHolders objectHolders target ∧
          Extends manager target := by
  rw [Mitm.acceptMitmSession]
  cases found : manager.sessions.firstFree with
  | none => exact .outOfSessionMemory (sound.firstFree_eq_none_iff.mp found)
  | some slot =>
      rw [if_neg (by simp)]
      by_cases refused : answers.acceptSession.failed = true
      · rw [if_pos refused]
        exact .acceptSession refused
      · rw [if_neg refused]
        apply sound.registerMitmSession live shared present
        · intro full
          rw [found] at full
          contradiction
        · exact .pointerBuffer

theorem Sound.onNeedsToAccept {portIndex : Nat} {answers : PortAnswers}
    (sound : Sound features Prompt busy 0 0 manager)
    (present : ∀ slot, busy = some (.session slot) →
      ∃ session, manager.sessions.get slot = some session)
    (within : portIndex < features.ports.length) :
    Yields (onNeedsToAccept features portIndex answers manager) manager
      (PortFault features manager.sessions answers) fun target =>
        Sound features Prompt busy 0 0 target ∧ target.servers = manager.servers ∧
          manager.sessions.firstFree ≠ none := by
  rw [Mitm.onNeedsToAccept]
  by_cases refused : answers.acknowledgeSession.failed = true
  · rw [if_pos refused]
    exact .acknowledgeSession refused
  rw [if_neg refused, List.getElem?_eq_getElem within]
  generalize features.ports[portIndex] = port
  have stored : (manager.forwards.share answers.forwardService).value? manager.forwards.next =
      some answers.forwardService := by
    rw [Heap.share_value?, Function.update_self]
  -- The pointer the acknowledgement made, and the copy for the object.
  refine (sound.addForward answers.forwardService).andThen ?_
  rintro _ ⟨sound, rfl⟩
  refine (sound.retainForward (Multiset.mem_add.mpr (Or.inl
    (Multiset.mem_cons_self _ _)))).andThen ?_
  rintro second ⟨sound, copied⟩
  rw [← Multiset.singleton_add, ← forwards_object port] at sound
  rw [← copied.nextObject]
  refine sound.addObject.andThen ?_
  rintro _ ⟨sound, rfl⟩
  -- The copy for the session.
  refine (sound.retainForward (Multiset.mem_add.mpr (Or.inl
    (Multiset.mem_cons_self _ _)))).andThen ?_
  rintro fourth ⟨sound, shared⟩
  have live : fourth.forwards.value? manager.forwards.next = some answers.forwardService := by
    rw [shared.forwards, copied.forwards]
    exact stored
  have fits : ∀ {object}, fourth.objects.value? second.objects.next = some object →
      object.srv = none := by
    intro object here
    rw [shared.objects, Heap.share_value?, Function.update_self] at here
    cases here
    exact srv_object port _
  have sessions : fourth.sessions = manager.sessions :=
    shared.sessions.trans copied.sessions
  have accepted := sound.acceptMitmSession live fits (by rwa [sessions])
  rw [sessions] at accepted
  refine accepted.andThen ?_
  rintro fifth ⟨sound, more⟩
  refine sound.dropForward.mono ?_
  rintro target ⟨sound, shrinks⟩
  exact ⟨sound, shrinks.servers.trans (more.servers.trans
    (shared.servers.trans copied.servers)), sessions ▸ more.room⟩

theorem Sound.processForMitmServer {slot : Nat} {server : Server} {answers : PortAnswers}
    (sound : Sound features Prompt (some (.server slot)) 0 0 manager)
    (here : manager.servers.get slot = some server) :
    Yields (processForMitmServer features slot answers manager) manager
      (PortFault features manager.sessions answers) fun target =>
        Sound features Prompt none 0 0 target ∧ manager.sessions.firstFree ≠ none := by
  simp only [Mitm.processForMitmServer, here]
  have accepted : Yields (Mitm.onNeedsToAccept features server.index answers manager) manager
      (PortFault features manager.sessions answers) fun target =>
        Sound features Prompt (some (.server slot)) 0 0 target ∧
          target.servers = manager.servers ∧ manager.sessions.firstFree ≠ none := by
    apply sound.onNeedsToAccept
    · intro slot busy
      cases Option.some.inj busy
    · exact sound.indices here
  refine accepted.andThen ?_
  rintro target ⟨sound, servers, room⟩
  have linked : Sound features Prompt none 0 0
      { target with linked := target.linked ++ [.server slot] } := by
    apply sound.link
    · exact ⟨server, by rw [servers, here]⟩
    · intro _ _ _ _ _ same
      contradiction
  exact yields_of_handles_eq rfl ⟨linked, room⟩

end

end SysTweak.Mitm
