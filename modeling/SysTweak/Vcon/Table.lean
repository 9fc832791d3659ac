import SysTweak.Vcon.Service

/-!
# The service without pointers

Seen from outside, the service is a partial function from client addresses to
controllers.  `Table.receive` and `Table.cleanup` say what the two operations
do to that function.  The service owns its heap in every state its steps
reach, and while it does, `ReceiveMessages` and `Cleanup` are exactly these
functions of the table; in particular no step uses a dangling pointer.
-/

namespace SysTweak.Vcon

open SysTweak.Memory
open SysTweak.Platform
open SysTweak.Transition

/-- The controller of each address that has one. -/
abbrev Table := Addr → Option VirtualController

namespace Table

variable (nx : Libnx)

/-- The controller a datagram of an unknown sender creates and connects. -/
def created (replies : ReceiveReplies) : VirtualController :=
  { VirtualController.create nx replies.createTick with
    hdlsHandle := replies.attach.handle }

/-- The attach call that connects it. -/
def createCall (replies : ReceiveReplies) : HdlsCall :=
  .attachVirtualDevice (created nx replies).hidDeviceInfo replies.attach.rc
    replies.attach.handle

/-- The sender's controller, with the calls made if it had to be created. -/
def controllerFor (table : Table) (addr : Addr) (replies : ReceiveReplies) :
    Except Fault (VirtualController × List HdlsCall) :=
  match table addr with
  | some controller => .ok (controller, [])
  | none =>
      let connecting :=
        (VirtualController.create nx replies.createTick).connect replies.attach
      if connecting.rc.failed then .error .abort
      else .ok (connecting.this, connecting.calls)

/-- One `ReceiveMessages`: the table afterwards, the libnx calls and the value
returned. -/
def receive (table : Table) (received : Received) (replies : ReceiveReplies) :
    Except Fault (Table × List HdlsCall × Bool) :=
  if received.count ≠ ControllerPacket.size then .ok (table, [], false)
  else if received.packet.magic ≠ controllerPacketMagic then .ok (table, [], true)
  else
    match table.controllerFor nx received.addr replies with
    | .error fault => .error fault
    | .ok (controller, calls) =>
        if received.packet.exit then
          .ok (Function.update table received.addr none,
            calls ++ controller.disconnect.2, true)
        else
          let flushed :=
            (controller.setState nx received.packet replies.updateTick).flushState
              replies.flush
          .ok (Function.update table received.addr (some flushed.this),
            calls ++ flushed.calls, flushed.rc.succeeded)

/-- One `Cleanup`: exactly the inactive controllers are dropped. -/
def cleanup (table : Table) (force : Bool) (now : Addr → BitVec 64) : Table :=
  fun addr =>
    (table addr).filter fun controller => !(force || controller.inactive nx (now addr))

section

variable {nx : Libnx} {table : Table} {addr : Addr} {controller : VirtualController}
  {replies : ReceiveReplies}

theorem controllerFor_of_present (present : table addr = some controller)
    (replies : ReceiveReplies) :
    table.controllerFor nx addr replies = .ok (controller, []) := by
  rw [controllerFor, present]

theorem controllerFor_of_created (absent : table addr = none)
    (attached : replies.attach.rc.succeeded = true) :
    table.controllerFor nx addr replies =
      .ok (created nx replies, [createCall nx replies]) := by
  have connecting := VirtualController.connect_of_disconnected
    (show (VirtualController.create nx replies.createTick).hdlsHandle = 0 from rfl)
    replies.attach
  simp [controllerFor, absent, connecting, Result.failed_eq_not_succeeded, attached,
    created, createCall]

theorem controllerFor_of_refused (absent : table addr = none)
    (refused : replies.attach.rc.succeeded = false) :
    table.controllerFor nx addr replies = .error .abort := by
  have connecting := VirtualController.connect_of_disconnected
    (show (VirtualController.create nx replies.createTick).hdlsHandle = 0 from rfl)
    replies.attach
  simp [controllerFor, absent, connecting, Result.failed_eq_not_succeeded, refused]

/-- The sender's controller is the one it has, or a new connected one. -/
theorem controllerFor_cases {calls : List HdlsCall}
    (found : table.controllerFor nx addr replies = .ok (controller, calls)) :
    (table addr = some controller ∧ calls = []) ∨
      (table addr = none ∧ replies.attach.rc.succeeded = true ∧
        controller = created nx replies ∧ calls = [createCall nx replies]) := by
  cases present : table addr with
  | some old =>
      rw [controllerFor_of_present present] at found
      cases found
      exact Or.inl ⟨rfl, rfl⟩
  | none =>
      cases attached : replies.attach.rc.succeeded with
      | true =>
          rw [controllerFor_of_created present attached] at found
          cases found
          exact Or.inr ⟨rfl, rfl, rfl, rfl⟩
      | false =>
          rw [controllerFor_of_refused present attached] at found
          contradiction

/-- What a `ReceiveMessages` that does not abort can have done. -/
theorem receive_cases {received : Received} {target : Table} {calls : List HdlsCall}
    {returned : Bool}
    (ran : table.receive nx received replies = .ok (target, calls, returned)) :
    (¬received.Valid ∧ target = table ∧ calls = []) ∨
      (received.Valid ∧ ∃ controller foundCalls,
        table.controllerFor nx received.addr replies = .ok (controller, foundCalls) ∧
        ((received.packet.exit = true ∧
            target = Function.update table received.addr none ∧
            calls = foundCalls ++ controller.disconnect.2 ∧ returned = true) ∨
          (received.packet.exit = false ∧ ∃ flushed,
            flushed =
              (controller.setState nx received.packet replies.updateTick).flushState
                replies.flush ∧
            target = Function.update table received.addr (some flushed.this) ∧
            calls = foundCalls ++ flushed.calls ∧
            returned = flushed.rc.succeeded))) := by
  by_cases size : received.count = ControllerPacket.size
  · by_cases magic : received.packet.magic = controllerPacketMagic
    · right
      apply And.intro ⟨size, magic⟩
      simp only [receive, size, magic, ne_eq, not_true, if_false] at ran
      cases lookup : table.controllerFor nx received.addr replies with
      | error fault =>
          rw [lookup] at ran
          contradiction
      | ok found =>
          obtain ⟨controller, foundCalls⟩ := found
          rw [lookup] at ran
          refine ⟨controller, foundCalls, rfl, ?_⟩
          cases exits : received.packet.exit with
          | true =>
              rw [exits] at ran
              cases ran
              exact Or.inl ⟨rfl, rfl, rfl, rfl⟩
          | false =>
              rw [exits] at ran
              cases ran
              exact Or.inr ⟨rfl, _, rfl, rfl, rfl, rfl⟩
    · simp only [receive, size, magic, ne_eq, not_true, not_false_iff, if_false,
        if_true] at ran
      cases ran
      exact Or.inl ⟨fun valid => magic valid.2, rfl, rfl⟩
  · simp only [receive, size, ne_eq, not_false_iff, if_true] at ran
    cases ran
    exact Or.inl ⟨fun valid => size valid.1, rfl, rfl⟩

end

section

variable {nx : Libnx} {table : Table} {force : Bool} {now : Addr → BitVec 64}
  {addr : Addr} {controller : VirtualController}

theorem cleanup_of_none (absent : table addr = none) :
    table.cleanup nx force now addr = none := by
  rw [cleanup, absent]
  rfl

theorem cleanup_of_dropped (present : table addr = some controller)
    (goes : (force || controller.inactive nx (now addr)) = true) :
    table.cleanup nx force now addr = none := by
  rw [cleanup, present, Option.filter_some, goes]
  rfl

theorem cleanup_of_kept (present : table addr = some controller)
    (stays : (force || controller.inactive nx (now addr)) = false) :
    table.cleanup nx force now addr = some controller := by
  rw [cleanup, present, Option.filter_some, stays]
  rfl

end

end Table

/-- The libnx calls of a trace. -/
def hdlsCalls : List Call → List HdlsCall :=
  List.filterMap fun
    | .hdls call => some call
    | _ => none

@[simp]
theorem hdlsCalls_nil : hdlsCalls [] = [] :=
  rfl

@[simp]
theorem hdlsCalls_append (first second : List Call) :
    hdlsCalls (first ++ second) = hdlsCalls first ++ hdlsCalls second :=
  List.filterMap_append

@[simp]
theorem hdlsCalls_map_hdls (calls : List HdlsCall) :
    hdlsCalls (calls.map Call.hdls) = calls := by
  induction calls with
  | nil => rfl
  | cons call calls ih => exact congrArg (call :: ·) ih

@[simp]
theorem hdlsCalls_recvfrom_cons (fd : Int) (calls : List Call) :
    hdlsCalls (.recvfrom fd :: calls) = hdlsCalls calls :=
  rfl

@[simp]
theorem hdlsCalls_hdls_cons (call : HdlsCall) (calls : List Call) :
    hdlsCalls (.hdls call :: calls) = call :: hdlsCalls calls :=
  rfl

@[simp]
theorem hdlsCalls_newController_cons (ptr : Ptr) (calls : List Call) :
    hdlsCalls (.newController ptr :: calls) = hdlsCalls calls :=
  rfl

@[simp]
theorem hdlsCalls_deleteController_cons (ptr : Ptr) (calls : List Call) :
    hdlsCalls (.deleteController ptr :: calls) = hdlsCalls calls :=
  rfl

namespace VirtualControllerService

/-- The service as a table. -/
def table (service : VirtualControllerService) : Table :=
  view service.controllers service.heap

/-- The map owns the controllers on the heap. -/
def Owned (service : VirtualControllerService) : Prop :=
  Owns service.controllers service.heap

theorem owned_initial : initial.Owned :=
  Owns.empty

@[simp]
theorem table_initial (addr : Addr) : initial.table addr = none := by
  simp [initial, table, view]

/-! ## The heap operations on the table -/

section

variable {service : VirtualControllerService} {addr : Addr} {ptr : Ptr}
  {controller : VirtualController}

theorem table_of_mem (member : service.controllers[addr]? = some ptr) :
    service.table addr = service.heap.cells ptr :=
  view_eq_of_mem member

theorem Owned.table_of_not_mem (absent : service.controllers[addr]? = none) :
    service.table addr = none :=
  view_eq_none_of_not_mem absent

theorem Owned.register (owned : service.Owned)
    (absent : service.controllers[addr]? = none) (controller : VirtualController) :
    (service.register addr controller).Owned :=
  Owns.register owned absent controller

theorem Owned.table_register (owned : service.Owned) (addr : Addr)
    (controller : VirtualController) :
    (service.register addr controller).table =
      Function.update service.table addr (some controller) :=
  funext (Owns.view_register owned addr controller)

theorem Owned.store (owned : service.Owned)
    (member : service.controllers[addr]? = some ptr) (controller : VirtualController) :
    (service.store ptr controller).Owned :=
  Owns.store owned member controller

theorem Owned.table_store (owned : service.Owned)
    (member : service.controllers[addr]? = some ptr) (controller : VirtualController) :
    (service.store ptr controller).table =
      Function.update service.table addr (some controller) :=
  funext (Owns.view_store owned member controller)

/-- The service after `delete controller` and `controllers.erase(addr)`. -/
def removed (service : VirtualControllerService) (addr : Addr) (ptr : Ptr) :
    VirtualControllerService :=
  { service with
    controllers := service.controllers.erase addr
    heap := service.heap.free ptr }

theorem delete_of_live (live : service.heap.cells ptr = some controller) :
    service.delete ptr =
      .ok ({ service with heap := service.heap.free ptr },
        controller.disconnect.2.map Call.hdls ++ [.deleteController ptr]) := by
  rw [delete, live]

theorem Owned.removed (owned : service.Owned)
    (member : service.controllers[addr]? = some ptr) :
    (service.removed addr ptr).Owned :=
  Owns.remove owned member

theorem Owned.table_removed (owned : service.Owned)
    (member : service.controllers[addr]? = some ptr) :
    (service.removed addr ptr).table = Function.update service.table addr none :=
  funext (Owns.view_remove owned member)

end

/-! ## `ReceiveMessages` -/

section

variable {nx : Libnx} {service : VirtualControllerService}

/-- Where `ReceiveMessages` gets the sender's controller from: the service to
go on with, the pointer, the object behind it and the calls made. -/
inductive Found (nx : Libnx) (service : VirtualControllerService) (addr : Addr)
    (replies : ReceiveReplies) :
    VirtualControllerService → Ptr → VirtualController → List Call → Prop
  | present {ptr : Ptr} {controller : VirtualController} :
      service.controllers[addr]? = some ptr →
      service.heap.cells ptr = some controller →
      Found nx service addr replies service ptr controller []
  | created :
      service.controllers[addr]? = none → replies.attach.rc.succeeded = true →
      Found nx service addr replies (service.register addr (Table.created nx replies))
        service.heap.next (Table.created nx replies)
        [.newController service.heap.next, .hdls (Table.createCall nx replies)]

namespace Found

variable {addr : Addr} {replies : ReceiveReplies} {found : VirtualControllerService}
  {ptr : Ptr} {controller : VirtualController} {calls : List Call}

theorem owned (lookup : Found nx service addr replies found ptr controller calls)
    (owned : service.Owned) : found.Owned := by
  cases lookup with
  | present => exact owned
  | created absent => exact owned.register absent _

theorem member (lookup : Found nx service addr replies found ptr controller calls) :
    found.controllers[addr]? = some ptr := by
  cases lookup with
  | present member => exact member
  | created => exact getElem?_insert_self _ _ _

theorem live (lookup : Found nx service addr replies found ptr controller calls) :
    found.heap.cells ptr = some controller := by
  cases lookup with
  | present _ live => exact live
  | created => exact service.heap.alloc_cells_next _

@[simp]
theorem sock (lookup : Found nx service addr replies found ptr controller calls) :
    found.sock = service.sock := by
  cases lookup <;> rfl

/-- Finding the controller changes the table at most at the sender. -/
theorem table (lookup : Found nx service addr replies found ptr controller calls)
    (owned : service.Owned) :
    found.table = Function.update service.table addr (some controller) := by
  cases lookup with
  | present member live =>
      rw [← live, ← table_of_mem member, Function.update_eq_self]
  | created => exact owned.table_register addr _

theorem controllerFor
    (lookup : Found nx service addr replies found ptr controller calls) :
    service.controllerFor nx addr replies = .ok (ptr, found, calls) := by
  cases lookup with
  | present member => rw [VirtualControllerService.controllerFor, member]
  | created absent attached =>
      have connecting := VirtualController.connect_of_disconnected
        (show (VirtualController.create nx replies.createTick).hdlsHandle = 0 from rfl)
        replies.attach
      simp [VirtualControllerService.controllerFor, absent, connecting,
        Result.failed_eq_not_succeeded, attached, Table.created, Table.createCall]

theorem table_controllerFor
    (lookup : Found nx service addr replies found ptr controller calls) :
    service.table.controllerFor nx addr replies = .ok (controller, hdlsCalls calls) := by
  cases lookup with
  | present member live =>
      exact Table.controllerFor_of_present ((table_of_mem member).trans live) replies
  | created absent attached =>
      exact Table.controllerFor_of_created (Owned.table_of_not_mem absent) attached

end Found

/-- Unless a new controller cannot be connected, the sender's controller is
found. -/
theorem Owned.exists_found (owned : service.Owned) (nx : Libnx) {addr : Addr}
    {replies : ReceiveReplies}
    (served : service.table addr = none → replies.attach.rc.succeeded = true) :
    ∃ found ptr controller calls,
      Found nx service addr replies found ptr controller calls := by
  cases member : service.controllers[addr]? with
  | some ptr =>
      rcases owned.live addr ptr member with ⟨controller, live⟩
      exact ⟨service, ptr, controller, [], .present member live⟩
  | none =>
      exact ⟨_, _, _, _, .created member (served (Owned.table_of_not_mem member))⟩

variable (nx service) in
/-- A datagram that fails the size or the magic check changes nothing. -/
theorem receiveMessages_of_not_valid {received : Received} (invalid : ¬received.Valid)
    (replies : ReceiveReplies) :
    ∃ returned, service.receiveMessages nx received replies =
        .ok ⟨service, [.recvfrom service.sock], returned⟩ ∧
      service.table.receive nx received replies = .ok (service.table, [], returned) := by
  by_cases size : received.count = ControllerPacket.size
  · have magic : received.packet.magic ≠ controllerPacketMagic := fun same =>
      invalid ⟨size, same⟩
    exact ⟨true, by simp [receiveMessages, size, magic],
      by simp [Table.receive, size, magic]⟩
  · exact ⟨false, by simp [receiveMessages, size], by simp [Table.receive, size]⟩

variable (nx) in
/-- A valid datagram from an unknown sender aborts the process when no device
can be attached for it. -/
theorem Owned.receiveMessages_of_refused (owned : service.Owned) {received : Received}
    (valid : received.Valid) {replies : ReceiveReplies}
    (absent : service.table received.addr = none)
    (refused : replies.attach.rc.succeeded = false) :
    service.receiveMessages nx received replies = .error .abort ∧
      service.table.receive nx received replies = .error .abort := by
  have notMem := (owned.not_mem_iff_view received.addr).mpr absent
  have connecting := VirtualController.connect_of_disconnected
    (show (VirtualController.create nx replies.createTick).hdlsHandle = 0 from rfl)
    replies.attach
  have aborts : service.controllerFor nx received.addr replies = .error .abort := by
    simp [controllerFor, notMem, connecting, Result.failed_eq_not_succeeded, refused]
  have tableAborts : service.table.controllerFor nx received.addr replies =
      .error .abort := Table.controllerFor_of_refused absent refused
  constructor
  · simp [receiveMessages, valid.1, valid.2, aborts]
  · simp [Table.receive, valid.1, valid.2, tableAborts]

section

variable {received : Received} {replies : ReceiveReplies}
  {found : VirtualControllerService} {ptr : Ptr} {controller : VirtualController}
  {calls : List Call}

/-- EXIT drops the sender's controller. -/
theorem Found.receiveMessages_of_exit (valid : received.Valid)
    (exits : received.packet.exit = true)
    (lookup : Found nx service received.addr replies found ptr controller calls) :
    service.receiveMessages nx received replies = .ok
      ⟨found.removed received.addr ptr,
        .recvfrom service.sock :: calls ++
          (controller.disconnect.2.map Call.hdls ++ [.deleteController ptr]), true⟩ := by
  simp [receiveMessages, valid.1, valid.2, lookup.controllerFor, exits,
    delete_of_live lookup.live, VirtualControllerService.erase,
    VirtualControllerService.removed]

/-- A state datagram updates and flushes the sender's controller. -/
theorem Found.receiveMessages_of_state (valid : received.Valid)
    (stays : received.packet.exit = false)
    (lookup : Found nx service received.addr replies found ptr controller calls) :
    service.receiveMessages nx received replies = .ok
      ⟨found.store ptr
          ((controller.setState nx received.packet replies.updateTick).flushState
            replies.flush).this,
        .recvfrom service.sock :: calls ++
          ((controller.setState nx received.packet replies.updateTick).flushState
            replies.flush).calls.map Call.hdls,
        ((controller.setState nx received.packet replies.updateTick).flushState
          replies.flush).rc.succeeded⟩ := by
  simp [receiveMessages, valid.1, valid.2, lookup.controllerFor, stays, lookup.live]

end

/-- What one `ReceiveMessages` that does not abort does: it ignores the
datagram, drops the sender's controller, or updates and flushes it. -/
inductive Serves (nx : Libnx) (service : VirtualControllerService)
    (received : Received) (replies : ReceiveReplies) : ReceiveOutcome → Prop
  | ignored {returned : Bool} :
      ¬received.Valid →
      Serves nx service received replies ⟨service, [.recvfrom service.sock], returned⟩
  | exited {found : VirtualControllerService} {ptr : Ptr}
      {controller : VirtualController} {calls : List Call} :
      received.Valid → received.packet.exit = true →
      Found nx service received.addr replies found ptr controller calls →
      Serves nx service received replies
        ⟨found.removed received.addr ptr,
          .recvfrom service.sock :: calls ++
            (controller.disconnect.2.map Call.hdls ++ [.deleteController ptr]), true⟩
  | updated {found : VirtualControllerService} {ptr : Ptr}
      {controller : VirtualController} {calls : List Call} {flushed : Effect} :
      received.Valid → received.packet.exit = false →
      Found nx service received.addr replies found ptr controller calls →
      flushed =
        (controller.setState nx received.packet replies.updateTick).flushState
          replies.flush →
      Serves nx service received replies
        ⟨found.store ptr flushed.this,
          .recvfrom service.sock :: calls ++ flushed.calls.map Call.hdls,
          flushed.rc.succeeded⟩

variable (nx) in
/-- A datagram that does not abort the process is served. -/
theorem Owned.exists_serves (owned : service.Owned) (received : Received)
    (replies : ReceiveReplies)
    (served : received.Valid → service.table received.addr = none →
      replies.attach.rc.succeeded = true) :
    ∃ outcome, service.receiveMessages nx received replies = .ok outcome ∧
      Serves nx service received replies outcome := by
  by_cases valid : received.Valid
  · rcases owned.exists_found nx (served valid) with ⟨found, ptr, controller, calls, lookup⟩
    cases exits : received.packet.exit with
    | true =>
        exact ⟨_, lookup.receiveMessages_of_exit valid exits, .exited valid exits lookup⟩
    | false =>
        exact ⟨_, lookup.receiveMessages_of_state valid exits,
          .updated valid exits lookup rfl⟩
  · rcases receiveMessages_of_not_valid nx service valid replies with
      ⟨returned, outcome, _⟩
    exact ⟨_, outcome, .ignored valid⟩

theorem Owned.serves (owned : service.Owned) {received : Received}
    {replies : ReceiveReplies} {outcome : ReceiveOutcome}
    (ran : service.receiveMessages nx received replies = .ok outcome) :
    Serves nx service received replies outcome := by
  have served : received.Valid → service.table received.addr = none →
      replies.attach.rc.succeeded = true := by
    intro valid absent
    by_contra refused
    rw [(owned.receiveMessages_of_refused nx valid absent
      (Bool.eq_false_iff.mpr refused)).1] at ran
    contradiction
  rcases owned.exists_serves nx received replies served with ⟨same, ran', serves⟩
  rw [Except.ok.inj (ran.symm.trans ran')]
  exact serves

variable (nx) in
/-- `ReceiveMessages` on a service that owns its heap is `Table.receive` on
its table. -/
theorem Owned.receiveMessages_refines (owned : service.Owned) (received : Received)
    (replies : ReceiveReplies) :
    (service.receiveMessages nx received replies).map
        (fun outcome =>
          (outcome.service.table, hdlsCalls outcome.calls, outcome.returned)) =
      service.table.receive nx received replies := by
  by_cases valid : received.Valid
  · by_cases served :
        service.table received.addr = none → replies.attach.rc.succeeded = true
    · rcases owned.exists_found nx served with ⟨found, ptr, controller, calls, lookup⟩
      have tableLookup := lookup.table_controllerFor
      cases exits : received.packet.exit with
      | true =>
          rw [lookup.receiveMessages_of_exit valid exits]
          simp [Except.map, Table.receive, valid.1, valid.2, tableLookup, exits,
            (lookup.owned owned).table_removed lookup.member, lookup.table owned]
      | false =>
          rw [lookup.receiveMessages_of_state valid exits]
          simp [Except.map, Table.receive, valid.1, valid.2, tableLookup, exits,
            (lookup.owned owned).table_store lookup.member, lookup.table owned]
    · rcases Classical.not_imp.mp served with ⟨absent, refused⟩
      rcases owned.receiveMessages_of_refused nx valid absent
        (Bool.eq_false_iff.mpr refused) with ⟨aborts, tableAborts⟩
      rw [aborts, tableAborts]
      rfl
  · rcases receiveMessages_of_not_valid nx service valid replies with
      ⟨returned, outcome, tableOutcome⟩
    rw [outcome, tableOutcome]
    rfl

theorem Owned.receiveMessages (owned : service.Owned) {received : Received}
    {replies : ReceiveReplies} {outcome : ReceiveOutcome}
    (ran : service.receiveMessages nx received replies = .ok outcome) :
    outcome.service.Owned := by
  cases owned.serves ran with
  | ignored => exact owned
  | exited _ _ lookup => exact (lookup.owned owned).removed lookup.member
  | updated _ _ lookup => exact (lookup.owned owned).store lookup.member _

end

/-! ## `Cleanup` -/

/-- A sequence of removals, with the calls they make.  This is all a cleanup
does to the service. -/
inductive Sweep : VirtualControllerService → List Call → VirtualControllerService → Prop
  | done {service : VirtualControllerService} : Sweep service [] service
  | drop {service target : VirtualControllerService} {addr : Addr} {ptr : Ptr}
      {controller : VirtualController} {calls : List Call} :
      service.controllers[addr]? = some ptr →
      service.heap.cells ptr = some controller →
      Sweep (service.removed addr ptr) calls target →
      Sweep service
        (controller.disconnect.2.map Call.hdls ++ [.deleteController ptr] ++ calls) target

theorem Sweep.owned {service target : VirtualControllerService} {calls : List Call}
    (sweep : Sweep service calls target) (owned : service.Owned) : target.Owned := by
  induction sweep with
  | done => exact owned
  | drop member _ _ ih => exact ih (owned.removed member)

theorem Sweep.sock {service target : VirtualControllerService} {calls : List Call}
    (sweep : Sweep service calls target) : target.sock = service.sock := by
  induction sweep with
  | done => rfl
  | drop _ _ _ ih => exact ih

section

variable {nx : Libnx} {force : Bool} {now : Addr → BitVec 64}

variable (nx force now) in
/-- The loop never faults: it removes exactly the controllers of the remaining
entries that are to go, and leaves every other entry alone. -/
theorem Owned.cleanupFrom_spec {entries : List (Addr × Ptr)}
    {service : VirtualControllerService} (owned : service.Owned)
    (members : ∀ entry ∈ entries, service.controllers[entry.1]? = some entry.2)
    (distinct : entries.Pairwise fun first second => first.1 ≠ second.1) :
    ∃ target calls, service.cleanupFrom nx force now entries = .ok (target, calls) ∧
      Sweep service calls target ∧
      ∀ addr, target.table addr =
        if addr ∈ entries.map Prod.fst then service.table.cleanup nx force now addr
        else service.table addr := by
  induction entries generalizing service with
  | nil => exact ⟨service, [], rfl, .done, fun addr => by simp⟩
  | cons entry entries ih =>
      obtain ⟨key, ptr⟩ := entry
      obtain ⟨headDistinct, tailDistinct⟩ := List.pairwise_cons.mp distinct
      have member : service.controllers[key]? = some ptr :=
        members (key, ptr) List.mem_cons_self
      obtain ⟨controller, live⟩ := owned.live key ptr member
      have found : service.table key = some controller := by
        rw [table_of_mem member, live]
      have notLater : key ∉ entries.map Prod.fst := by
        intro later
        obtain ⟨entry, entryMem, same⟩ := List.mem_map.mp later
        exact headDistinct entry entryMem same.symm
      by_cases goes : (force || controller.inactive nx (now key)) = true
      · have removedMembers : ∀ entry ∈ entries,
            (service.removed key ptr).controllers[entry.1]? = some entry.2 := by
          intro entry entryMem
          have other : entry.1 ≠ key := (headDistinct entry entryMem).symm
          exact (getElem?_erase_of_ne service.controllers other).trans
            (members entry (List.mem_cons_of_mem _ entryMem))
        obtain ⟨target, calls, ran, sweep, tables⟩ :=
          ih (owned.removed member) removedMembers tailDistinct
        refine ⟨target, controller.disconnect.2.map Call.hdls ++ [.deleteController ptr] ++
          calls, ?_, .drop member live sweep, ?_⟩
        · have same : (VirtualControllerService.erase
              { service with heap := service.heap.free ptr } key) =
              service.removed key ptr := rfl
          simp only [cleanupFrom, live, goes, if_true, delete_of_live live, same, ran]
        · intro addr
          rw [tables addr, owned.table_removed member]
          by_cases here : addr = key
          · subst addr
            rw [if_neg notLater, if_pos (by simp), Function.update_self,
              Table.cleanup_of_dropped found goes]
          · have same : addr ∈ ((key, ptr) :: entries).map Prod.fst ↔
                addr ∈ entries.map Prod.fst := by simp [here]
            simp only [same, Table.cleanup, Function.update_of_ne here]
      · obtain ⟨target, calls, ran, sweep, tables⟩ :=
          ih owned (fun entry entryMem => members entry (List.mem_cons_of_mem _ entryMem))
            tailDistinct
        refine ⟨target, calls, ?_, sweep, ?_⟩
        · simp only [cleanupFrom, live, goes]
          exact ran
        · intro addr
          rw [tables addr]
          by_cases here : addr = key
          · subst addr
            rw [if_neg notLater, if_pos (by simp),
              Table.cleanup_of_kept found (Bool.eq_false_iff.mpr goes), found]
          · have same : addr ∈ ((key, ptr) :: entries).map Prod.fst ↔
                addr ∈ entries.map Prod.fst := by simp [here]
            simp only [same]

variable (nx force now) in
/-- `Cleanup` on a service that owns its heap is `Table.cleanup` on its
table. -/
theorem Owned.cleanup_spec {service : VirtualControllerService} (owned : service.Owned) :
    ∃ target calls, service.cleanup nx force now = .ok (target, calls) ∧
      Sweep service calls target ∧
      target.table = service.table.cleanup nx force now := by
  have members : ∀ entry ∈ service.controllers.toList,
      service.controllers[entry.1]? = some entry.2 := fun entry member =>
    Std.TreeMap.mem_toList_iff_getElem?_eq_some.mp member
  have distinct : service.controllers.toList.Pairwise
      fun first second => first.1 ≠ second.1 :=
    Std.TreeMap.distinct_keys_toList.imp fun different same =>
      different (by rw [same]; exact Std.ReflCmp.compare_self)
  obtain ⟨target, calls, ran, sweep, tables⟩ :=
    owned.cleanupFrom_spec nx force now members distinct
  refine ⟨target, calls, ran, sweep, funext fun addr => ?_⟩
  rw [tables addr]
  split
  · rfl
  · rename_i absent
    have notMem : service.controllers[addr]? = none := by
      cases found : service.controllers[addr]? with
      | none => rfl
      | some ptr =>
          exact absurd (List.mem_map.mpr ⟨(addr, ptr),
            Std.TreeMap.mem_toList_iff_getElem?_eq_some.mpr found, rfl⟩) absent
    rw [Table.cleanup_of_none (Owned.table_of_not_mem notMem),
      Owned.table_of_not_mem notMem]

end

end VirtualControllerService

/-! ## Runs of the service -/

namespace Table

/-- The table after an event that does not abort. -/
def next (nx : Libnx) (table : Table) : Event → Table
  | .receive received replies =>
      match table.receive nx received replies with
      | .ok (target, _, _) => target
      | .error _ => table
  | .restart _ => table
  | .cleanup now => table.cleanup nx false now

end Table

section

variable {nx : Libnx}

open VirtualControllerService

/-- The ways a step can go while the service owns its controllers. -/
inductive Stepped (nx : Libnx) (service : VirtualControllerService) :
    Event → VirtualControllerService → List Call → Prop
  | receive {received : Received} {replies : ReceiveReplies} {outcome : ReceiveOutcome}
      (ran : service.receiveMessages nx received replies = .ok outcome) :
      Stepped nx service (.receive received replies) outcome.service outcome.calls
  | restart (fd : Int) :
      Stepped nx service (.restart fd) (service.closeServer.1.bindServer fd).1
        (service.closeServer.2 ++ (service.closeServer.1.bindServer fd).2)
  | cleanup {now : Addr → BitVec 64} {target : VirtualControllerService} {calls : List Call}
      (sweep : Sweep service calls target)
      (tables : target.table = service.table.cleanup nx false now) :
      Stepped nx service (.cleanup now) target calls

theorem stepped_of_serviceStep {service target : VirtualControllerService} {event : Event}
    {calls : List Call} (owned : service.Owned)
    (stepped : serviceStep nx service event = .ok (target, calls)) :
    Stepped nx service event target calls := by
  cases event with
  | receive received replies =>
      simp only [serviceStep] at stepped
      cases ran : service.receiveMessages nx received replies with
      | error fault =>
          rw [ran] at stepped
          contradiction
      | ok outcome =>
          rw [ran] at stepped
          cases stepped
          exact .receive ran
  | restart fd =>
      cases stepped
      exact .restart fd
  | cleanup now =>
      rcases owned.cleanup_spec nx false now with ⟨reached, made, ran, sweep, tables⟩
      simp only [serviceStep, ran] at stepped
      cases stepped
      exact .cleanup sweep tables

theorem serviceStep_owned {service target : VirtualControllerService} {event : Event}
    {calls : List Call} (owned : service.Owned)
    (stepped : serviceStep nx service event = .ok (target, calls)) : target.Owned := by
  cases stepped_of_serviceStep owned stepped with
  | receive ran => exact owned.receiveMessages ran
  | restart fd => exact owned
  | cleanup sweep _ => exact sweep.owned owned

theorem serviceStep_table {service target : VirtualControllerService} {event : Event}
    {calls : List Call} (owned : service.Owned)
    (stepped : serviceStep nx service event = .ok (target, calls)) :
    target.table = service.table.next nx event := by
  cases stepped_of_serviceStep owned stepped with
  | @receive received replies outcome ran =>
      have refines := owned.receiveMessages_refines nx received replies
      rw [ran] at refines
      rw [Table.next, ← refines]
      rfl
  | restart fd => rfl
  | cleanup _ tables => exact tables

/-- Every fault-free run keeps ownership of the heap. -/
theorem owned_of_reachable {service target : VirtualControllerService}
    (owned : service.Owned) (reached : Reachable (serviceStep nx) service target) :
    target.Owned :=
  reached.invariant (fun _ _ _ _ owned stepped => serviceStep_owned owned stepped) owned

/-- The table at the end of a run is a function of the table at its start and
of the events. -/
theorem table_of_runs {service target : VirtualControllerService} {events : List Event}
    {calls : List Call} (owned : service.Owned)
    (ran : Runs (serviceStep nx) service events target calls) :
    target.table = events.foldl (Table.next nx) service.table :=
  ran.abstraction (fun _ _ _ _ owned stepped => serviceStep_owned owned stepped)
    (fun _ _ _ _ owned stepped => serviceStep_table owned stepped) owned

end

end SysTweak.Vcon
