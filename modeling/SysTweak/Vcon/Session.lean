import SysTweak.Vcon.Table

/-!
# Sessions

What a client can observe of its controller is the input state it holds and
two ticks.  A session is that observation, or nothing while the client has no
controller, and it is driven by three kinds of events: an accepted or stale
state datagram, EXIT, and a cleanup.  Whatever the HDLS calls return and
whatever other clients send, the table shows at each address exactly the
session of that address.
-/

namespace SysTweak.Vcon

open SysTweak.Memory
open SysTweak.Platform
open SysTweak.Transition

/-- The part of a controller that does not depend on its device. -/
structure ControllerInput where
  hidState : HiddbgHdlsState
  clientTick : BitVec 64
  lastUpdateTick : BitVec 64
  deriving DecidableEq

/-- The input state and ticks of a controller. -/
def VirtualController.input (this : VirtualController) : ControllerInput :=
  ⟨this.hidState, this.clientTick, this.lastUpdateTick⟩

@[simp]
theorem VirtualController.flushState_input (this : VirtualController)
    (replies : FlushReplies) : (this.flushState replies).this.input = this.input := by
  rw [flushState_this]
  rfl

/-- What happens to one client: a state datagram with the tick at which it is
handled, an EXIT datagram, or a cleanup with the tick `Inactive` reads. -/
inductive SessionEvent
  | state (packet : ControllerPacket) (now : BitVec 64)
  | exit
  | cleanup (now : BitVec 64)
  deriving DecidableEq

/-- What an event of the service means to one client. -/
def Event.forAddr (addr : Addr) : Event → Option SessionEvent
  | .receive received replies =>
      if received.addr = addr ∧ received.Valid then
        if received.packet.exit then some .exit
        else some (.state received.packet replies.updateTick)
      else none
  | .restart _ => none
  | .cleanup now => some (.cleanup (now addr))

namespace Session

variable (nx : Libnx)

/-- Ten seconds have passed since the last accepted datagram. -/
def expired (input : ControllerInput) (now : BitVec 64) : Bool :=
  nx.armTicksToNs (now - input.lastUpdateTick) > 10000000000

/-- The session after one event. -/
def step : Option ControllerInput → SessionEvent → Option ControllerInput
  | none, .state packet now =>
      some ⟨applyPacket nx .zero packet, packet.tick, now⟩
  | some input, .state packet now =>
      if packet.tick < input.clientTick then some input
      else some ⟨applyPacket nx input.hidState packet, packet.tick, now⟩
  | _, .exit => none
  | session, .cleanup now => session.filter fun input => !expired nx input now

end Session

namespace Table

/-- The session the table shows at an address. -/
def session (table : Table) (addr : Addr) : Option ControllerInput :=
  (table addr).map VirtualController.input

variable {nx : Libnx}

/-- Creating a controller for a state datagram always accepts that datagram. -/
theorem created_setState_input (replies : ReceiveReplies) (packet : ControllerPacket)
    (now : BitVec 64) :
    ((created nx replies).setState nx packet now).input =
      ⟨applyPacket nx .zero packet, packet.tick, now⟩ := by
  have accepted : ¬packet.tick < (created nx replies).clientTick := by
    change ¬packet.tick < 0
    exact BitVec.not_lt_zero
  rw [VirtualController.setState_of_accepted accepted]
  rfl

theorem setState_input (controller : VirtualController) (packet : ControllerPacket)
    (now : BitVec 64) :
    some (controller.setState nx packet now).input =
      Session.step nx (some controller.input) (.state packet now) := by
  unfold Session.step
  by_cases stale : packet.tick < controller.clientTick
  · rw [VirtualController.setState_of_stale stale]
    exact (if_pos stale).symm
  · rw [VirtualController.setState_of_accepted stale]
    exact (if_neg stale).symm

/-- The sender's session once its controller was found or created. -/
theorem session_of_controllerFor {table : Table} {addr : Addr}
    {replies : ReceiveReplies} {controller : VirtualController} {calls : List HdlsCall}
    (found : table.controllerFor nx addr replies = .ok (controller, calls))
    (packet : ControllerPacket) (now : BitVec 64) :
    some (controller.setState nx packet now).input =
      Session.step nx (table.session addr) (.state packet now) := by
  rcases controllerFor_cases found with ⟨present, _⟩ | ⟨absent, _, rfl, _⟩
  · rw [session, present]
    exact setState_input controller packet now
  · rw [session, absent]
    exact congrArg some (created_setState_input replies packet now)

theorem session_update_self (table : Table) (addr : Addr)
    (entry : Option VirtualController) :
    (show Table from Function.update table addr entry).session addr =
      entry.map VirtualController.input := by
  rw [session, Function.update_self]

theorem session_update_of_ne (table : Table) {addr other : Addr}
    (different : other ≠ addr) (entry : Option VirtualController) :
    (show Table from Function.update table addr entry).session other =
      table.session other := by
  rw [session, Function.update_of_ne different, session]

/-- A `ReceiveMessages` that does not abort does to every session what the
datagram means to that client. -/
theorem session_receive {table target : Table} {received : Received}
    {replies : ReceiveReplies} {calls : List HdlsCall} {returned : Bool}
    (ran : table.receive nx received replies = .ok (target, calls, returned))
    (addr : Addr) :
    target.session addr =
      match (Event.receive received replies).forAddr addr with
      | none => table.session addr
      | some event => Session.step nx (table.session addr) event := by
  rcases receive_cases ran with
    ⟨invalid, rfl, _⟩ | ⟨valid, controller, foundCalls, found,
      ⟨exits, rfl, _⟩ | ⟨stays, flushed, rfl, rfl, _⟩⟩
  · simp [Event.forAddr, invalid]
  · by_cases here : received.addr = addr
    · subst addr
      rw [session_update_self]
      simp [Event.forAddr, valid, exits, Session.step]
    · rw [session_update_of_ne table (Ne.symm here)]
      simp [Event.forAddr, here]
  · by_cases here : received.addr = addr
    · subst addr
      rw [session_update_self, Option.map_some, VirtualController.flushState_input,
        session_of_controllerFor found]
      simp [Event.forAddr, valid, stays]
    · rw [session_update_of_ne table (Ne.symm here)]
      simp [Event.forAddr, here]

theorem session_cleanup (table : Table) (now : Addr → BitVec 64) (addr : Addr) :
    (table.cleanup nx false now).session addr =
      Session.step nx (table.session addr) (.cleanup (now addr)) := by
  rw [session, session]
  cases present : table addr with
  | none =>
      rw [cleanup_of_none present]
      rfl
  | some controller =>
      by_cases goes : controller.inactive nx (now addr) = true
      · rw [cleanup_of_dropped present (by simpa using goes)]
        have gone : Session.expired nx controller.input (now addr) = true := goes
        rw [Option.map_none, Option.map_some, Session.step, Option.filter_some, gone]
        rfl
      · rw [cleanup_of_kept present (by simpa using goes)]
        have stays : Session.expired nx controller.input (now addr) = false :=
          Bool.eq_false_iff.mpr goes
        rw [Option.map_some, Session.step, Option.filter_some, stays]
        rfl

/-- Every event that does not abort does to every session what it means to
that client. -/
theorem session_next {table : Table} {event : Event}
    (fine : ∀ received replies, event = .receive received replies →
      ∃ result, table.receive nx received replies = .ok result) (addr : Addr) :
    (table.next nx event).session addr =
      match event.forAddr addr with
      | none => table.session addr
      | some mine => Session.step nx (table.session addr) mine := by
  cases event with
  | receive received replies =>
      obtain ⟨⟨target, calls, returned⟩, ran⟩ := fine received replies rfl
      rw [next, ran]
      exact session_receive ran addr
  | restart fd => rfl
  | cleanup now => exact session_cleanup table now addr

end Table

/-! ## Runs -/

section

variable {nx : Libnx}

open VirtualControllerService

/-- The session the service shows at an address. -/
def VirtualControllerService.session (service : VirtualControllerService)
    (addr : Addr) : Option ControllerInput :=
  service.table.session addr

/-- Advance a session by what an event means to its client. -/
def Session.next (nx : Libnx) (addr : Addr) (session : Option ControllerInput)
    (event : Event) : Option ControllerInput :=
  match event.forAddr addr with
  | none => session
  | some mine => Session.step nx session mine

theorem serviceStep_session {service target : VirtualControllerService} {event : Event}
    {calls : List Call} (owned : service.Owned)
    (stepped : serviceStep nx service event = .ok (target, calls)) (addr : Addr) :
    target.session addr = Session.next nx addr (service.session addr) event := by
  rw [VirtualControllerService.session, serviceStep_table owned stepped]
  apply Table.session_next
  rintro received replies rfl
  cases stepped_of_serviceStep owned stepped with
  | receive ran =>
      have refines := owned.receiveMessages_refines nx received replies
      rw [ran] at refines
      exact ⟨_, refines.symm⟩

/-- Along a run each client's session advances by what the events mean to it. -/
theorem session_eq_foldl_next {service target : VirtualControllerService}
    {events : List Event} {calls : List Call} (owned : service.Owned)
    (ran : Runs (serviceStep nx) service events target calls) (addr : Addr) :
    target.session addr = events.foldl (Session.next nx addr) (service.session addr) :=
  ran.abstraction (fun _ _ _ _ owned stepped => serviceStep_owned owned stepped)
    (fun _ _ _ _ owned stepped => serviceStep_session owned stepped addr) owned

/-- Each client's session after a run depends only on what the events meant to
that client. -/
theorem session_of_runs {service target : VirtualControllerService}
    {events : List Event} {calls : List Call} (owned : service.Owned)
    (ran : Runs (serviceStep nx) service events target calls) (addr : Addr) :
    target.session addr =
      (events.filterMap (Event.forAddr addr)).foldl (Session.step nx)
        (service.session addr) := by
  rw [session_eq_foldl_next owned ran, List.foldl_filterMap]
  congr 1
  funext session event
  unfold Session.next
  cases event.forAddr addr <;> rfl

/-- A client is in the map exactly when it has a session. -/
theorem VirtualControllerService.Owned.not_mem_iff_session
    {service : VirtualControllerService} (owned : service.Owned) (addr : Addr) :
    addr ∉ service.controllers ↔ service.session addr = none := by
  rw [VirtualControllerService.session, Table.session, Option.map_eq_none_iff]
  rw [Std.TreeMap.mem_iff_isSome_getElem?, Bool.not_eq_true, Option.isSome_eq_false_iff,
    Option.isNone_iff_eq_none]
  exact owned.not_mem_iff_view addr

theorem VirtualControllerService.Owned.mem_iff_session
    {service : VirtualControllerService} (owned : service.Owned) (addr : Addr) :
    addr ∈ service.controllers ↔ ∃ input, service.session addr = some input := by
  rw [← Option.ne_none_iff_exists', Ne, ← owned.not_mem_iff_session, not_not]

/-- An event goes through unless it is a valid datagram of a client without a
session for which no device can be attached. -/
theorem exists_serviceStep_iff {service : VirtualControllerService}
    (owned : service.Owned) (event : Event) :
    (∃ result, serviceStep nx service event = .ok result) ↔
      ∀ received replies, event = .receive received replies → received.Valid →
        service.session received.addr = none → replies.attach.rc.succeeded = true := by
  cases event with
  | receive received replies =>
      have absent_iff : service.session received.addr = none ↔
          service.table received.addr = none := by
        rw [VirtualControllerService.session, Table.session, Option.map_eq_none_iff]
      constructor
      · rintro ⟨result, stepped⟩ _ _ same valid absent
        cases same
        by_contra refused
        rw [serviceStep, (owned.receiveMessages_of_refused nx valid
          (absent_iff.mp absent) (Bool.eq_false_iff.mpr refused)).1] at stepped
        contradiction
      · intro attachable
        rcases owned.exists_serves nx received replies
          (fun valid absent =>
            attachable received replies rfl valid (absent_iff.mpr absent)) with
          ⟨outcome, ran, _⟩
        exact ⟨(outcome.service, outcome.calls), by rw [serviceStep, ran]⟩
  | restart fd =>
      constructor
      · intro _ _ _ same
        contradiction
      · intro _
        exact ⟨_, rfl⟩
  | cleanup now =>
      constructor
      · intro _ _ _ same
        contradiction
      · intro _
        rcases owned.cleanup_spec nx false now with ⟨target, calls, ran, _⟩
        exact ⟨(target, calls), ran⟩

end

end SysTweak.Vcon
