import SysTweak.Vcon.Worker

/-!
# Expiry

`Inactive` compares the clock with `lastUpdateTick`, which the constructor and
every accepted datagram set and no stale one does.  This module records, along a
run, the datagrams of a client that were accepted since its controller was
created, and shows that a cleanup drops exactly the controllers whose last
accepted datagram is more than ten seconds old.
-/

namespace SysTweak.Vcon

open SysTweak.Memory
open SysTweak.Platform
open SysTweak.Transition

/-- An accepted datagram: the tick it carries and the tick it was handled at. -/
structure Acceptance where
  clientTick : BitVec 64
  now : BitVec 64
  deriving DecidableEq

/-- A run of the service from the loop's start, with the datagrams accepted from
a client since its controller was created, oldest first.  A valid datagram that
is not EXIT is accepted when no tick accepted before is greater. -/
inductive History (nx : Libnx) (fd : Int) (addr : Addr) :
    List Event → VirtualControllerService → List Acceptance → Prop
  | start : History nx fd addr [] (listening fd) []
  | absent {events : List Event} {service target : VirtualControllerService}
      {accepted : List Acceptance} {event : Event} {calls : List Call} :
      History nx fd addr events service accepted →
      serviceStep nx service event = .ok (target, calls) →
      addr ∉ target.controllers →
      History nx fd addr (events ++ [event]) target []
  | accepted {events : List Event} {service target : VirtualControllerService}
      {accepted : List Acceptance} {event : Event} {calls : List Call}
      {packet : ControllerPacket} {now : BitVec 64} :
      History nx fd addr events service accepted →
      serviceStep nx service event = .ok (target, calls) →
      addr ∈ target.controllers →
      event.forAddr addr = some (.state packet now) →
      (∀ earlier ∈ accepted, earlier.clientTick ≤ packet.tick) →
      History nx fd addr (events ++ [event]) target (accepted ++ [⟨packet.tick, now⟩])
  | other {events : List Event} {service target : VirtualControllerService}
      {accepted : List Acceptance} {event : Event} {calls : List Call} :
      History nx fd addr events service accepted →
      serviceStep nx service event = .ok (target, calls) →
      addr ∈ target.controllers →
      (∀ packet now, event.forAddr addr = some (.state packet now) →
        ∃ earlier ∈ accepted, packet.tick < earlier.clientTick) →
      History nx fd addr (events ++ [event]) target accepted

/-- The session is what the accepted datagrams say: there is none exactly when
nothing was accepted, and otherwise its ticks are those of the last one, which
carries the greatest tick. -/
def Reflects (session : Option ControllerInput) (accepted : List Acceptance) : Prop :=
  match session with
  | none => accepted = []
  | some input =>
      accepted.getLast? = some ⟨input.clientTick, input.lastUpdateTick⟩ ∧
        ∀ earlier ∈ accepted, earlier.clientTick ≤ input.clientTick

section

variable {nx : Libnx} {addr : Addr}

open VirtualControllerService

/-- Accepting a datagram by the history is accepting it by `SetState`. -/
theorem Reflects.accepts_iff {session : Option ControllerInput}
    {accepted : List Acceptance} (reflects : Reflects session accepted)
    (packet : ControllerPacket) :
    (∀ earlier ∈ accepted, earlier.clientTick ≤ packet.tick) ↔
      ∀ input, session = some input → ¬packet.tick < input.clientTick := by
  cases session with
  | none =>
      have nothing : accepted = [] := reflects
      simp [nothing]
  | some input =>
      rcases reflects with ⟨last, greatest⟩
      constructor
      · intro below _ same
        cases same
        rw [BitVec.not_lt]
        exact below _ (List.mem_of_getLast? last)
      · intro accepts earlier member
        have newer := accepts input rfl
        rw [BitVec.not_lt] at newer
        exact BitVec.le_trans (greatest earlier member) newer

theorem Reflects.accept {session : Option ControllerInput} {accepted : List Acceptance}
    (reflects : Reflects session accepted) {packet : ControllerPacket}
    (accepts : ∀ earlier ∈ accepted, earlier.clientTick ≤ packet.tick)
    (now : BitVec 64) :
    Reflects (Session.step nx session (.state packet now))
      (accepted ++ [⟨packet.tick, now⟩]) := by
  have greatest : ∀ earlier ∈ accepted ++ [⟨packet.tick, now⟩],
      earlier.clientTick ≤ packet.tick := by
    intro earlier member
    rcases List.mem_append.mp member with before | here
    · exact accepts earlier before
    · rw [List.mem_singleton.mp here]
      exact BitVec.le_refl _
  cases session with
  | none => exact ⟨List.getLast?_concat, greatest⟩
  | some input =>
      have newer := (reflects.accepts_iff packet).mp accepts input rfl
      rw [Session.step, if_neg newer]
      exact ⟨List.getLast?_concat, greatest⟩

theorem Reflects.stale {session : Option ControllerInput} {accepted : List Acceptance}
    (reflects : Reflects session accepted) {packet : ControllerPacket}
    (refused : ∃ earlier ∈ accepted, packet.tick < earlier.clientTick)
    (now : BitVec 64) :
    Session.step nx session (.state packet now) = session := by
  rcases refused with ⟨earlier, member, older⟩
  cases session with
  | none =>
      rw [show accepted = [] from reflects] at member
      contradiction
  | some input =>
      have below : packet.tick < input.clientTick := by
        have greatest := reflects.2 earlier member
        rw [BitVec.le_def] at greatest
        rw [BitVec.lt_def] at older ⊢
        exact Nat.lt_of_lt_of_le older greatest
      exact if_pos below

/-- A cleanup that leaves a session leaves it as it was. -/
theorem Session.step_cleanup_of_some {session : Option ControllerInput}
    {now : BitVec 64} {input : ControllerInput}
    (kept : Session.step nx session (.cleanup now) = some input) :
    session = some input := by
  cases session with
  | none => exact kept
  | some old =>
      rw [Session.step, Option.filter_eq_some_iff] at kept
      exact kept.1

/-- The history of a run reflects the session. -/
theorem History.reflects {fd : Int} {events : List Event}
    {service : VirtualControllerService} {accepted : List Acceptance}
    (history : History nx fd addr events service accepted) :
    service.Owned ∧ Reflects (service.session addr) accepted := by
  induction history with
  | start =>
      constructor
      · exact owned_listening fd
      · rw [VirtualControllerService.session, Table.session, table_listening]
        exact rfl
  | absent _ stepped gone ih =>
      have owned := serviceStep_owned ih.1 stepped
      constructor
      · exact owned
      · rw [(owned.not_mem_iff_session addr).mp gone]
        exact rfl
  | accepted _ stepped _ means accepts ih =>
      constructor
      · exact serviceStep_owned ih.1 stepped
      · rw [serviceStep_session ih.1 stepped, Session.next, means]
        exact ih.2.accept accepts _
  | @other events service target accepted event calls _ stepped present refuses ih =>
      have owned := serviceStep_owned ih.1 stepped
      constructor
      · exact owned
      · have next := serviceStep_session ih.1 stepped addr
        have same : target.session addr = service.session addr := by
          rcases (owned.mem_iff_session addr).mp present with ⟨input, kept⟩
          rw [Session.next] at next
          cases means : event.forAddr addr with
          | none => rw [next, means]
          | some mine =>
              rw [means] at next
              cases mine with
              | state packet now =>
                  rw [next]
                  exact ih.2.stale (refuses packet now means) now
              | exit =>
                  have gone : target.session addr = none := by
                    rw [next]
                    cases service.session addr <;> rfl
                  rw [gone] at kept
                  contradiction
              | cleanup now =>
                  rw [kept] at next ⊢
                  exact (Session.step_cleanup_of_some next.symm).symm
        rw [same]
        exact ih.2

/-- Every run has a history. -/
theorem exists_history {fd : Int} {events : List Event}
    {service : VirtualControllerService} {calls : List Call}
    (ran : Runs (serviceStep nx) (listening fd) events service calls) (addr : Addr) :
    ∃ accepted, History nx fd addr events service accepted := by
  apply Runs.history (fun events _ service =>
    ∃ accepted, History nx fd addr events service accepted) _ _ ran
  · exact ⟨[], .start⟩
  · rintro events outs before event after out _ ⟨accepted, history⟩ stepped
    by_cases present : addr ∈ after.controllers
    · by_cases accepts : ∃ packet now, event.forAddr addr = some (.state packet now) ∧
          ∀ earlier ∈ accepted, earlier.clientTick ≤ packet.tick
      · rcases accepts with ⟨packet, now, means, accepts⟩
        exact ⟨_, .accepted history stepped present means accepts⟩
      · refine ⟨accepted, .other history stepped present fun packet now means => ?_⟩
        by_contra refused
        apply accepts
        refine ⟨packet, now, means, fun earlier member => ?_⟩
        by_contra newer
        exact refused ⟨earlier, member, BitVec.not_le.mp newer⟩
    · exact ⟨[], .absent history stepped present⟩

/-! ## Cleanups -/

/-- What a cleanup leaves in the map it leaves in place. -/
theorem VirtualControllerService.Sweep.kept {service target : VirtualControllerService}
    {calls : List Call} (sweep : service.Sweep calls target) {ptr : Ptr}
    (member : target.controllers[addr]? = some ptr) :
    service.controllers[addr]? = some ptr := by
  induction sweep with
  | done => exact member
  | @drop service target key dropped controller calls _ _ _ ih =>
      have later := ih member
      by_cases same : addr = key
      · subst same
        rw [VirtualControllerService.removed, getElem?_erase_self] at later
        contradiction
      · rwa [VirtualControllerService.removed, getElem?_erase_of_ne _ same] at later

variable (addr) in
/-- A cleanup drops a client exactly if its session has expired, and leaves the
entry of every other client as it is. -/
theorem VirtualControllerService.Owned.cleanup_exact
    {service target : VirtualControllerService} {now : Addr → BitVec 64}
    {calls : List Call} (owned : service.Owned)
    (cleaned : service.cleanup nx false now = .ok (target, calls)) :
    (∀ input, service.session addr = some input →
      (addr ∉ target.controllers ↔ Session.expired nx input (now addr) = true)) ∧
    (addr ∈ target.controllers →
      target.controllers[addr]? = service.controllers[addr]? ∧
        target.table addr = service.table addr) := by
  rcases owned.cleanup_spec nx false now with ⟨same, sameCalls, ran, sweep, tables⟩
  cases Except.ok.inj (cleaned.symm.trans ran)
  have targetOwned := sweep.owned owned
  constructor
  · intro input present
    rw [targetOwned.not_mem_iff_session, VirtualControllerService.session, tables,
      Table.session_cleanup, ← VirtualControllerService.session, present, Session.step]
    cases gone : Session.expired nx input (now addr) <;> simp [gone]
  · intro kept
    have present : ∃ ptr, target.controllers[addr]? = some ptr := by
      rw [Std.TreeMap.mem_iff_isSome_getElem?] at kept
      exact Option.isSome_iff_exists.mp kept
    rcases present with ⟨ptr, member⟩
    constructor
    · rw [member, sweep.kept member]
    · rcases (targetOwned.mem_iff_view addr).mp ⟨ptr, member⟩ with ⟨controller, here⟩
      have shown : target.table addr = some controller := here
      have before := shown
      rw [tables, Table.cleanup, Option.filter_eq_some_iff] at before
      rw [shown, before.1]

/-- Every valid datagram of the client among the events is a state datagram with
a smaller tick. -/
def Stale (addr : Addr) (tick : BitVec 64) (events : List Event) : Prop :=
  ∀ received replies, .receive received replies ∈ events → received.addr = addr →
    received.Valid → received.packet.exit = false ∧ received.packet.tick < tick

/-- No event is a valid datagram of the client. -/
def Silent (addr : Addr) (events : List Event) : Prop :=
  ∀ received replies, .receive received replies ∈ events → received.addr = addr →
    ¬received.Valid

/-- No cleanup among the events comes more than ten seconds after `last`. -/
def Timely (nx : Libnx) (addr : Addr) (last : BitVec 64) (events : List Event) : Prop :=
  ∀ now, .cleanup now ∈ events → ¬nx.armTicksToNs (now addr - last) > 10000000000

/-- Stale datagrams and timely cleanups leave a session as it is. -/
theorem foldl_next_of_stale {input : ControllerInput} {events : List Event}
    (stale : Stale addr input.clientTick events)
    (timely : Timely nx addr input.lastUpdateTick events) :
    events.foldl (Session.next nx addr) (some input) = some input := by
  induction events with
  | nil => rfl
  | cons event events ih =>
      have head : Session.next nx addr (some input) event = some input := by
        cases event with
        | receive received replies =>
            by_cases mine : received.addr = addr ∧ received.Valid
            · rcases stale received replies List.mem_cons_self mine.1 mine.2 with
                ⟨stays, older⟩
              have means : (Event.receive received replies).forAddr addr =
                  some (.state received.packet replies.updateTick) := by
                simp [Event.forAddr, mine, stays]
              rw [Session.next, means]
              exact if_pos older
            · have means : (Event.receive received replies).forAddr addr = none :=
                if_neg mine
              rw [Session.next, means]
        | restart fd => rfl
        | cleanup now =>
            have stays : Session.expired nx input (now addr) = false :=
              decide_eq_false (timely now List.mem_cons_self)
            change (some input).filter (fun input =>
              !Session.expired nx input (now addr)) = some input
            rw [Option.filter_some, stays]
            rfl
      rw [List.foldl_cons, head]
      apply ih
      · intro received replies member
        exact stale received replies (List.mem_cons_of_mem _ member)
      · intro now member
        exact timely now (List.mem_cons_of_mem _ member)

/-- Without datagrams of the client no session begins. -/
theorem foldl_next_of_silent {events : List Event} (silent : Silent addr events) :
    events.foldl (Session.next nx addr) none = none := by
  induction events with
  | nil => rfl
  | cons event events ih =>
      have head : Session.next nx addr none event = none := by
        cases event with
        | receive received replies =>
            have means : (Event.receive received replies).forAddr addr = none :=
              if_neg fun mine => silent received replies List.mem_cons_self mine.1 mine.2
            rw [Session.next, means]
        | restart fd => rfl
        | cleanup now => rfl
      rw [List.foldl_cons, head]
      exact ih fun received replies member =>
        silent received replies (List.mem_cons_of_mem _ member)

/-- In every run, a cleanup drops a client exactly if its last accepted datagram
is more than ten seconds old, and leaves every other entry as it was.  So a
client whose datagrams all have become stale is dropped by the first cleanup
after that time, and its next state datagram is applied to a new controller. -/
theorem expiry_is_exact {fd : Int} {events : List Event}
    {service : VirtualControllerService} {calls : List Call}
    (ran : Runs (serviceStep nx) (listening fd) events service calls) (addr : Addr) :
    (∃ accepted, History nx fd addr events service accepted) ∧
    ∀ accepted, History nx fd addr events service accepted →
      (∀ now target cleanupCalls,
        service.cleanup nx false now = .ok (target, cleanupCalls) →
        (addr ∈ service.controllers → ∃ last, accepted.getLast? = some last ∧
          (addr ∉ target.controllers ↔
            nx.armTicksToNs (now addr - last.now) > 10000000000)) ∧
        (addr ∈ target.controllers →
          target.controllers[addr]? = service.controllers[addr]? ∧
            target.table addr = service.table addr)) ∧
      (∀ last tail now target tailCalls,
        addr ∈ service.controllers → accepted.getLast? = some last →
        Stale addr last.clientTick tail → Timely nx addr last.now tail →
        nx.armTicksToNs (now addr - last.now) > 10000000000 →
        Runs (serviceStep nx) service (tail ++ [.cleanup now]) target tailCalls →
        addr ∉ target.controllers ∧
          ∀ between received replies renewed renewedCalls,
            Silent addr between → received.addr = addr → received.Valid →
            received.packet.exit = false →
            Runs (serviceStep nx) target (between ++ [.receive received replies]) renewed
              renewedCalls →
            renewed.session addr =
              some ⟨applyPacket nx .zero received.packet, received.packet.tick,
                replies.updateTick⟩) := by
  refine ⟨exists_history ran addr, fun accepted history => ⟨?_, ?_⟩⟩
  · intro now target cleanupCalls cleaned
    rcases history.reflects with ⟨owned, reflects⟩
    rcases owned.cleanup_exact addr cleaned with ⟨dropped_iff, kept⟩
    refine ⟨fun present => ?_, kept⟩
    rcases (owned.mem_iff_session addr).mp present with ⟨input, here⟩
    rw [here] at reflects
    refine ⟨_, reflects.1, ?_⟩
    rw [dropped_iff input here]
    exact decide_eq_true_iff
  · intro last tail now target tailCalls present isLast stale timely late tailRan
    rcases history.reflects with ⟨owned, reflects⟩
    rcases (owned.mem_iff_session addr).mp present with ⟨input, here⟩
    rw [here] at reflects
    cases Option.some.inj (isLast.symm.trans reflects.1)
    have targetOwned := owned_of_reachable owned ⟨_, _, tailRan⟩
    have gone : target.session addr = none := by
      rw [session_eq_foldl_next owned tailRan, List.foldl_append, here,
        foldl_next_of_stale stale timely]
      have expired : Session.expired nx input (now addr) = true := decide_eq_true late
      change (some input).filter (fun input =>
        !Session.expired nx input (now addr)) = none
      rw [Option.filter_some, expired]
      rfl
    refine ⟨(targetOwned.not_mem_iff_session addr).mpr gone, ?_⟩
    intro between received replies renewed renewedCalls silent mine valid stays renewedRan
    rw [session_eq_foldl_next targetOwned renewedRan, List.foldl_append, gone,
      foldl_next_of_silent silent]
    have means : (Event.receive received replies).forAddr addr =
        some (.state received.packet replies.updateTick) := by
      simp [Event.forAddr, mine, valid, stays]
    change Session.next nx addr none (.receive received replies) = _
    rw [Session.next, means]
    rfl

/-- One datagram with tick 1, handled at tick 10. -/
def oneDatagram : Event :=
  .receive (.whole 1 (.neutral 1 0)) ⟨5, ⟨0, 7⟩, 10, .fine⟩

theorem oneDatagram_expires :
    ∃ service calls,
      Runs (serviceStep Libnx.console) (listening 3) [oneDatagram] service calls ∧
      ∀ now target cleanupCalls,
        service.cleanup Libnx.console false (fun _ => now) = .ok (target, cleanupCalls) →
        ((1 : Addr) ∉ target.controllers ↔
          Libnx.console.armTicksToNs (now - 10) > 10000000000) := by
  have runs : ∃ service calls,
      Runs (serviceStep Libnx.console) (listening 3) [oneDatagram] service calls ∧
      serviceStep Libnx.console (listening 3) oneDatagram = .ok (service, calls) ∧
      (1 : Addr) ∈ service.controllers := ⟨_, _, rfl, rfl, by decide⟩
  rcases runs with ⟨service, calls, ran, stepped, present⟩
  have history : History Libnx.console 3 1 [oneDatagram] service [⟨1, 10⟩] :=
    .accepted .start stepped present rfl (by simp)
  refine ⟨service, calls, ran, fun now target cleanupCalls cleaned => ?_⟩
  have spec := ((expiry_is_exact ran 1).2 _ history).1 _ target cleanupCalls cleaned
  rcases spec.1 present with ⟨last, same, dropped_iff⟩
  cases same
  exact dropped_iff

end

end SysTweak.Vcon
