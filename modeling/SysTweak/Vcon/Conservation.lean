import SysTweak.Ledger.Slots
import SysTweak.Vcon.Worker

/-!
# Conservation of devices and controllers

Device handles are acquired by a successful attach and released by a detach;
controllers by `new` and `delete`.  Every step of the worker moves the handles
the map holds, and the pointers it holds, by exactly the entries its calls make
in the two ledgers, so nothing is lost or released twice along any run.
-/

namespace SysTweak.Vcon

open SysTweak.Ledger
open SysTweak.Memory
open SysTweak.Platform
open SysTweak.Transition

/-! ## The two ledgers of a trace -/

/-- What a call does to the set of attached devices. -/
def handleEntry : Call → Option (Entry (BitVec 64))
  | .hdls (.attachVirtualDevice _ rc handle) =>
      if rc.succeeded then some (.acquire handle) else none
  | .hdls (.detachVirtualDevice handle) => some (.release handle)
  | _ => none

/-- What a call does to the set of allocated controllers. -/
def controllerEntry : Call → Option (Entry Ptr)
  | .newController ptr => some (.acquire ptr)
  | .deleteController ptr => some (.release ptr)
  | _ => none

def handleLedger : List Call → List (Entry (BitVec 64)) :=
  List.filterMap handleEntry

def controllerLedger : List Call → List (Entry Ptr) :=
  List.filterMap controllerEntry

@[simp]
theorem handleLedger_append (first second : List Call) :
    handleLedger (first ++ second) = handleLedger first ++ handleLedger second :=
  List.filterMap_append

@[simp]
theorem controllerLedger_append (first second : List Call) :
    controllerLedger (first ++ second) =
      controllerLedger first ++ controllerLedger second :=
  List.filterMap_append

/-- HDLS calls neither allocate nor free controllers. -/
@[simp]
theorem controllerLedger_map_hdls (calls : List HdlsCall) :
    controllerLedger (calls.map Call.hdls) = [] := by
  induction calls with
  | nil => rfl
  | cons call calls ih => exact ih

/-- The device a controller holds. -/
def VirtualController.device (this : VirtualController) : Option (BitVec 64) :=
  if this.hdlsHandle = 0 then none else some this.hdlsHandle

namespace VirtualController

theorem device_eq_some_iff {this : VirtualController} {handle : BitVec 64} :
    this.device = some handle ↔ handle ≠ 0 ∧ this.hdlsHandle = handle := by
  unfold device
  split
  · rename_i detached
    constructor
    · intro impossible
      contradiction
    · rintro ⟨nonzero, rfl⟩
      exact absurd detached nonzero
  · rename_i attached
    rw [Option.some.injEq]
    constructor
    · rintro rfl
      exact ⟨attached, rfl⟩
    · exact fun held => held.2

theorem device_of_handle {this : VirtualController} (attached : this.hdlsHandle ≠ 0) :
    this.device = some this.hdlsHandle :=
  if_neg attached

theorem device_of_zero {this : VirtualController} (detached : this.hdlsHandle = 0) :
    this.device = none :=
  if_pos detached

@[simp]
theorem setState_device (nx : Libnx) (this : VirtualController)
    (packet : ControllerPacket) (now : BitVec 64) :
    (this.setState nx packet now).device = this.device := by
  rw [device, setState_hdlsHandle, device]

/-- `Disconnect` releases the device the controller holds, if any. -/
theorem handleLedger_disconnect (this : VirtualController) :
    handleLedger (this.disconnect.2.map Call.hdls) =
      (this.device.map Entry.release).toList := by
  by_cases attached : this.hdlsHandle = 0
  · rw [disconnect_of_disconnected attached, device_of_zero attached]
    rfl
  · rw [disconnect_of_connected attached, device_of_handle attached]
    rfl

/-- `FlushState` keeps the device, exchanges it for a new one, or gives it up. -/
theorem flushState_moves {K : Type} [DecidableEq K] {slots : K → Option (BitVec 64)}
    {key : K} {this : VirtualController} {replies : FlushReplies}
    (held : slots key = this.device)
    (nonzero : ∀ handle ∈ acquired (handleLedger
      ((this.flushState replies).calls.map Call.hdls)), handle ≠ 0) :
    Moves slots (handleLedger ((this.flushState replies).calls.map Call.hdls))
      (Function.update slots key (this.flushState replies).this.device) := by
  rcases flushState_cases this replies with
    detached | ⟨attached, present⟩ | ⟨attached, lost, replaced⟩ |
      ⟨attached, lost, failed⟩
  · rw [flushState_of_disconnected detached, ← held, Function.update_eq_self]
    exact Moves.nil slots
  · rw [flushState_of_attached attached present, ← held, Function.update_eq_self]
    exact Moves.nil slots
  · rw [flushState_of_reattached attached lost replaced] at nonzero ⊢
    have ledger : handleLedger
        ([.isVirtualDeviceAttached this.hdlsHandle replies.isAttachedRc replies.attached,
          .detachVirtualDevice this.hdlsHandle,
          .attachVirtualDevice this.hidDeviceInfo replies.reattach.rc
            replies.reattach.handle,
          .setState replies.reattach.handle this.hidState
            replies.setStateRc].map Call.hdls) =
        [.release this.hdlsHandle, .acquire replies.reattach.handle] := by
      simp [handleLedger, handleEntry, List.filterMap_cons, replaced]
    rw [ledger] at nonzero ⊢
    rw [device_of_handle (nonzero _ List.mem_cons_self)]
    exact Moves.replace (held.trans (device_of_handle attached))
  · rw [flushState_of_lost attached lost failed]
    have ledger : handleLedger
        ([.isVirtualDeviceAttached this.hdlsHandle replies.isAttachedRc replies.attached,
          .detachVirtualDevice this.hdlsHandle,
          .attachVirtualDevice this.hidDeviceInfo replies.reattach.rc
            replies.reattach.handle].map Call.hdls) =
        [.release this.hdlsHandle] := by
      simp [handleLedger, handleEntry, List.filterMap_cons, failed]
    rw [ledger, device_of_zero rfl]
    exact Moves.release (held.trans (device_of_handle attached))

end VirtualController

/-- The device of each address. -/
def Table.devices (table : Table) (addr : Addr) : Option (BitVec 64) :=
  (table addr).bind VirtualController.device

theorem Table.devices_update (table : Table) (addr : Addr)
    (entry : Option VirtualController) :
    (show Table from Function.update table addr entry).devices =
      Function.update table.devices addr (entry.bind VirtualController.device) := by
  funext other
  by_cases same : other = addr
  · subst other
    rw [devices, Function.update_self, Function.update_self]
  · rw [devices, Function.update_of_ne same, Function.update_of_ne same, devices]

/-- The pointer of each address. -/
def VirtualControllerService.pointers (service : VirtualControllerService)
    (addr : Addr) : Option Ptr :=
  service.controllers[addr]?

/-! ## What a stretch of calls does to the slots -/

/-- The calls between two states account for the change of the devices and the
pointers the map holds, and allocate consecutive cells. -/
structure Accounts (source : VirtualControllerService) (calls : List Call)
    (target : VirtualControllerService) : Prop where
  devices : (∀ handle ∈ acquired (handleLedger calls), handle ≠ 0) →
    Moves source.table.devices (handleLedger calls) target.table.devices
  pointers : Moves source.pointers (controllerLedger calls) target.pointers
  allocates : ∃ count,
    acquired (controllerLedger calls) = List.range' source.heap.next count ∧
      target.heap.next = source.heap.next + count

namespace Accounts

variable {source middle target : VirtualControllerService}

/-- Calls without ledger entries account for a step that keeps the map and the
heap. -/
theorem silent {calls : List Call} (noHandles : handleLedger calls = [])
    (noControllers : controllerLedger calls = [])
    (controllers : target.controllers = source.controllers)
    (heap : target.heap = source.heap) : Accounts source calls target where
  devices _ := by
    have same : target.table = source.table := by
      rw [VirtualControllerService.table, controllers, heap]
      rfl
    rw [noHandles, same]
    exact Moves.nil _
  pointers := by
    have same : target.pointers = source.pointers := by
      funext addr
      rw [VirtualControllerService.pointers, controllers]
      rfl
    rw [noControllers, same]
    exact Moves.nil _
  allocates := ⟨0, by rw [noControllers]; rfl, by rw [heap]; rfl⟩

theorem refl (service : VirtualControllerService) : Accounts service [] service :=
  silent rfl rfl rfl rfl

theorem append {first second : List Call} (earlier : Accounts source first middle)
    (later : Accounts middle second target) :
    Accounts source (first ++ second) target where
  devices nonzero := by
    rw [handleLedger_append] at nonzero ⊢
    rw [acquired_append] at nonzero
    apply (earlier.devices _).append (later.devices _)
    · intro handle gained
      exact nonzero handle (List.mem_append_left _ gained)
    · intro handle gained
      exact nonzero handle (List.mem_append_right _ gained)
  pointers := by
    rw [controllerLedger_append]
    exact earlier.pointers.append later.pointers
  allocates := by
    rcases earlier.allocates with ⟨firstCount, firstGained, firstNext⟩
    rcases later.allocates with ⟨secondCount, secondGained, secondNext⟩
    refine ⟨firstCount + secondCount, ?_, ?_⟩
    · rw [controllerLedger_append, acquired_append, firstGained, secondGained, firstNext,
        List.range'_append_1]
    · rw [secondNext, firstNext, Nat.add_assoc]

end Accounts

/-! ## Every step accounts for its calls -/

namespace VirtualControllerService

variable {nx : Libnx} {service : VirtualControllerService}

theorem Found.accounts {addr : Addr} {replies : ReceiveReplies}
    {found : VirtualControllerService} {ptr : Ptr} {controller : VirtualController}
    {calls : List Call} (owned : service.Owned)
    (lookup : Found nx service addr replies found ptr controller calls) :
    Accounts service calls found := by
  cases lookup with
  | present => exact Accounts.refl service
  | created absent attached =>
      have handles : handleLedger
          [.newController service.heap.next, .hdls (Table.createCall nx replies)] =
          [.acquire replies.attach.handle] := by
        simp [handleLedger, handleEntry, List.filterMap_cons, Table.createCall, attached]
      constructor
      · intro nonzero
        rw [handles] at nonzero ⊢
        have vacant : service.table.devices addr = none := by
          rw [Table.devices, Owned.table_of_not_mem absent]
          rfl
        have device : (Table.created nx replies).device = some replies.attach.handle :=
          VirtualController.device_of_handle (nonzero _ List.mem_cons_self)
        rw [owned.table_register, Table.devices_update, Option.bind_some, device]
        exact Moves.acquire vacant _
      · have pointers : (service.register addr (Table.created nx replies)).pointers =
            Function.update service.pointers addr (some service.heap.next) :=
          getElem?_insert_eq_update _ _ _
        rw [pointers]
        exact Moves.acquire absent _
      · exact ⟨1, rfl, rfl⟩

/-- Writing back a flushed controller. -/
theorem Owned.store_accounts {addr : Addr} {ptr : Ptr} {controller : VirtualController}
    {replies : FlushReplies} {old : VirtualController} (owned : service.Owned)
    (member : service.controllers[addr]? = some ptr)
    (live : service.heap.cells ptr = some old) (same : controller.device = old.device) :
    Accounts service ((controller.flushState replies).calls.map Call.hdls)
      (service.store ptr (controller.flushState replies).this) where
  devices nonzero := by
    rw [owned.table_store member, Table.devices_update, Option.bind_some]
    apply VirtualController.flushState_moves _ nonzero
    rw [Table.devices, table_of_mem member, live, same]
    rfl
  pointers := by
    rw [controllerLedger_map_hdls]
    exact Moves.nil service.pointers
  allocates := ⟨0, by rw [controllerLedger_map_hdls]; rfl, rfl⟩

/-- Deleting a controller and erasing its entry. -/
theorem Owned.removed_accounts {addr : Addr} {ptr : Ptr}
    {controller : VirtualController} (owned : service.Owned)
    (member : service.controllers[addr]? = some ptr)
    (live : service.heap.cells ptr = some controller) :
    Accounts service (controller.disconnect.2.map Call.hdls ++ [.deleteController ptr])
      (service.removed addr ptr) where
  devices _ := by
    have held : service.table.devices addr = controller.device := by
      rw [Table.devices, table_of_mem member, live]
      rfl
    have nothing : handleLedger [.deleteController ptr] = [] := rfl
    rw [owned.table_removed member, Table.devices_update, Option.bind_none,
      handleLedger_append, nothing, List.append_nil,
      VirtualController.handleLedger_disconnect, ← held]
    exact Moves.discard _ addr
  pointers := by
    have pointers : (service.removed addr ptr).pointers =
        Function.update service.pointers addr none :=
      getElem?_erase_eq_update _ _
    rw [pointers, controllerLedger_append, controllerLedger_map_hdls]
    exact Moves.release member
  allocates := by
    refine ⟨0, ?_, rfl⟩
    rw [controllerLedger_append, controllerLedger_map_hdls]
    rfl

theorem Serves.accounts {received : Received} {replies : ReceiveReplies}
    {outcome : ReceiveOutcome} (owned : service.Owned)
    (serves : Serves nx service received replies outcome) :
    Accounts service outcome.calls outcome.service := by
  have heard : Accounts service [.recvfrom service.sock] service :=
    Accounts.silent rfl rfl rfl rfl
  cases serves with
  | ignored => exact heard
  | exited _ _ lookup =>
      rw [List.cons_append]
      exact heard.append ((lookup.accounts owned).append
        ((lookup.owned owned).removed_accounts lookup.member lookup.live))
  | updated _ _ lookup same =>
      subst same
      rw [List.cons_append]
      exact heard.append ((lookup.accounts owned).append
        ((lookup.owned owned).store_accounts lookup.member lookup.live
          (VirtualController.setState_device nx _ _ _)))

theorem Sweep.accounts {target : VirtualControllerService} {calls : List Call}
    (sweep : service.Sweep calls target) (owned : service.Owned) :
    Accounts service calls target := by
  induction sweep with
  | done => exact Accounts.refl _
  | drop member live _ ih =>
      exact (owned.removed_accounts member live).append (ih (owned.removed member))

end VirtualControllerService

section

variable {nx : Libnx}

open VirtualControllerService

theorem serviceStep_accounts {service target : VirtualControllerService} {event : Event}
    {calls : List Call} (owned : service.Owned)
    (stepped : serviceStep nx service event = .ok (target, calls)) :
    Accounts service calls target := by
  cases stepped_of_serviceStep owned stepped with
  | receive ran => exact (owned.serves ran).accounts owned
  | restart fd => exact Accounts.silent rfl rfl rfl rfl
  | cleanup sweep _ => exact sweep.accounts owned

/-- Every run accounts for its calls. -/
theorem runs_accounts {source target : VirtualControllerService} {events : List Event}
    {calls : List Call} (owned : source.Owned)
    (ran : Runs (serviceStep nx) source events target calls) :
    Accounts source calls target := by
  induction events generalizing source calls with
  | nil =>
      rcases runs_nil_iff.mp ran with ⟨rfl, rfl⟩
      exact Accounts.refl _
  | cons event events ih =>
      rcases runs_cons_iff.mp ran with ⟨next, first, rest, stepped, continued, rfl⟩
      exact (serviceStep_accounts owned stepped).append
        (ih (serviceStep_owned owned stepped) continued)

/-- The whole thread accounts for its calls. -/
theorem ThreadRun.accounts {startup : Startup} {iterations : List Iteration}
    {stopped : Bool} {service : VirtualControllerService} {calls : List Call}
    (ran : ThreadRun nx startup iterations stopped service calls) :
    Accounts initial calls service := by
  have begins : Accounts initial (startCalls startup.fd) (listening startup.fd) :=
    Accounts.silent rfl rfl rfl rfl
  cases ran with
  | looping loop =>
      rcases Worker.runs_of_loop loop with ⟨events, inner⟩
      exact begins.append (runs_accounts (owned_listening _) inner)
  | @stopped looped cleaned loopCalls cleanupCalls loop sweep =>
      rcases Worker.runs_of_loop loop with ⟨events, inner⟩
      have owned := Worker.owned_of_loop loop (owned_listening startup.fd)
      have closes : Accounts cleaned
          [.controllersExit, .socketExit, .close cleaned.sock]
          { cleaned with sock := -1 } :=
        Accounts.silent rfl rfl rfl rfl
      exact (begins.append (runs_accounts (owned_listening _) inner)).append
        ((sweep.accounts owned).append closes)

theorem ThreadRun.owned {startup : Startup} {iterations : List Iteration}
    {stopped : Bool} {service : VirtualControllerService} {calls : List Call}
    (ran : ThreadRun nx startup iterations stopped service calls) : service.Owned := by
  cases ran with
  | looping loop => exact Worker.owned_of_loop loop (owned_listening startup.fd)
  | stopped loop sweep =>
      exact sweep.owned (Worker.owned_of_loop loop (owned_listening startup.fd))

/-! ## Conservation -/

/-- The books of the service balance after the calls `calls`.  A handle 0 stands
for no device. -/
structure Conserved (service : VirtualControllerService) (calls : List Call) : Prop where
  /-- The devices attached and not detached are those the map holds. -/
  attached_iff : ∀ handle,
    (handle ∈ acquired (handleLedger calls) ∧ handle ∉ released (handleLedger calls)) ↔
      handle ≠ 0 ∧ ∃ addr controller,
        service.table addr = some controller ∧ controller.hdlsHandle = handle
  handle_distinct : ∀ first second controller other,
    service.table first = some controller → service.table second = some other →
    controller.hdlsHandle ≠ 0 → controller.hdlsHandle = other.hdlsHandle → first = second
  pointer_distinct : ∀ (first second : Addr) (ptr : Ptr),
    service.controllers[first]? = some ptr → service.controllers[second]? = some ptr →
    first = second
  detached_once : (released (handleLedger calls)).Nodup
  attached_before : ∀ before after handle,
    handleLedger calls = before ++ .release handle :: after → handle ∈ acquired before
  /-- An allocated controller is in the map, or was deleted exactly once. -/
  fate : ∀ ptr ∈ acquired (controllerLedger calls),
    ((∃ addr : Addr, service.controllers[addr]? = some ptr) ∧
        ptr ∉ released (controllerLedger calls)) ∨
      ((∀ addr : Addr, service.controllers[addr]? ≠ some ptr) ∧
        (released (controllerLedger calls)).count ptr = 1)
  /-- The map holds no deleted controller. -/
  live : ∀ (addr : Addr) (ptr : Ptr), service.controllers[addr]? = some ptr →
    ptr ∈ acquired (controllerLedger calls) ∧
      ptr ∉ released (controllerLedger calls) ∧
      ∃ controller, service.heap.cells ptr = some controller

theorem Table.devices_eq_some_iff {table : Table} {addr : Addr} {handle : BitVec 64} :
    table.devices addr = some handle ↔
      handle ≠ 0 ∧ ∃ controller, table addr = some controller ∧
        controller.hdlsHandle = handle := by
  rw [devices, Option.bind_eq_some_iff]
  constructor
  · rintro ⟨controller, present, device⟩
    rcases VirtualController.device_eq_some_iff.mp device with ⟨nonzero, held⟩
    exact ⟨nonzero, controller, present, held⟩
  · rintro ⟨nonzero, controller, present, held⟩
    exact ⟨controller, present, VirtualController.device_eq_some_iff.mpr ⟨nonzero, held⟩⟩

/-- A service that accounts for all calls since its construction is balanced. -/
theorem Accounts.conserved {service : VirtualControllerService} {calls : List Call}
    (accounts : Accounts initial calls service) (owned : service.Owned)
    (nonzero : ∀ handle ∈ acquired (handleLedger calls), handle ≠ 0)
    (fresh : (acquired (handleLedger calls)).Nodup) : Conserved service calls := by
  have devices : Account (handleLedger calls) service.table.devices := by
    apply (accounts.devices nonzero).account _ fresh
    intro addr
    rw [Table.devices, table_initial]
    rfl
  have allocated : (acquired (controllerLedger calls)).Nodup := by
    rcases accounts.allocates with ⟨count, gained, _⟩
    rw [gained]
    exact List.nodup_range'
  have pointers : Account (controllerLedger calls) service.pointers := by
    apply accounts.pointers.account _ allocated
    intro addr
    simp [VirtualControllerService.pointers, initial]
  constructor
  · intro handle
    rw [devices.outstanding_iff]
    simp only [Table.devices_eq_some_iff]
    constructor
    · rintro ⟨addr, attached, controller, present, held⟩
      exact ⟨attached, addr, controller, present, held⟩
    · rintro ⟨attached, addr, controller, present, held⟩
      exact ⟨addr, attached, controller, present, held⟩
  · intro first second controller other firstPresent secondPresent attached same
    apply devices.distinct
    · exact Table.devices_eq_some_iff.mpr ⟨attached, controller, firstPresent, rfl⟩
    · exact Table.devices_eq_some_iff.mpr ⟨attached, other, secondPresent, same.symm⟩
  · intro first second ptr
    exact pointers.distinct
  · exact devices.released_once
  · exact devices.acquired_before
  · intro ptr gained
    by_cases lost : ptr ∈ released (controllerLedger calls)
    · right
      constructor
      · intro addr member
        exact ((pointers.outstanding_iff ptr).mpr ⟨addr, member⟩).2 lost
      · exact List.count_eq_one_of_mem pointers.released_once lost
    · left
      exact ⟨(pointers.outstanding_iff ptr).mp ⟨gained, lost⟩, lost⟩
  · intro addr ptr member
    rcases (pointers.outstanding_iff ptr).mpr ⟨addr, member⟩ with ⟨gained, kept⟩
    exact ⟨gained, kept, owned.live addr ptr member⟩

/-- In every state the thread reaches without an abort the books balance, and
once it has stopped nothing is left: the map is empty, every attached device was
detached and every controller deleted. -/
theorem devices_and_controllers_conserved {startup : Startup}
    {iterations : List Iteration} {stopped : Bool} {service : VirtualControllerService}
    {calls : List Call}
    (ran : processThreadFunc nx startup iterations stopped = .ok (service, calls))
    (nonzero : ∀ handle ∈ acquired (handleLedger calls), handle ≠ 0)
    (fresh : (acquired (handleLedger calls)).Nodup) :
    Conserved service calls ∧
      (stopped = true →
        (∀ addr : Addr, service.controllers[addr]? = none) ∧
        (∀ handle ∈ acquired (handleLedger calls),
          handle ∈ released (handleLedger calls)) ∧
        ∀ ptr ∈ acquired (controllerLedger calls),
          (released (controllerLedger calls)).count ptr = 1) := by
  have thread := threadRun_of_processThreadFunc ran
  have conserved := thread.accounts.conserved thread.owned nonzero fresh
  constructor
  · exact conserved
  · rintro rfl
    have empty : ∀ addr, service.table addr = none := by
      cases thread with
      | stopped _ _ empty => exact empty
    have unmapped : ∀ addr : Addr, service.controllers[addr]? = none :=
      fun addr => (thread.owned.not_mem_iff_view addr).mpr (empty addr)
    apply And.intro unmapped
    constructor
    · intro handle gained
      by_contra kept
      rcases (conserved.attached_iff handle).mp ⟨gained, kept⟩ with
        ⟨_, addr, controller, present, _⟩
      rw [empty addr] at present
      contradiction
    · intro ptr gained
      rcases conserved.fate ptr gained with ⟨⟨addr, member⟩, _⟩ | ⟨_, once⟩
      · rw [unmapped addr] at member
        contradiction
      · exact once

/-- A client whose device is lost and replaced. -/
def replacesDevice : List Iteration :=
  [{ received := .whole 1 (.neutral 1 0)
     replies := ⟨0, ⟨0, 7⟩, 0, ⟨0, false, ⟨0, 8⟩, 0⟩⟩
     fd := 4
     checkTick := 0
     inactiveTick := fun _ => 0
     cleanupTick := 0 }]

theorem replaced_device_conserved :
    ∃ service calls,
      processThreadFunc Libnx.console ⟨0, 0, 3, 0⟩ replacesDevice true =
        .ok (service, calls) ∧
      handleLedger calls = [.acquire 7, .release 7, .acquire 8, .release 8] ∧
      Conserved service calls := by
  have runs : ∃ service calls,
      processThreadFunc Libnx.console ⟨0, 0, 3, 0⟩ replacesDevice true =
        .ok (service, calls) ∧
      handleLedger calls = [.acquire 7, .release 7, .acquire 8, .release 8] :=
    ⟨_, _, rfl, rfl⟩
  rcases runs with ⟨service, calls, ran, ledger⟩
  have conserved := devices_and_controllers_conserved ran
    (by simp [ledger]) (by simp [ledger])
  exact ⟨service, calls, ran, ledger, conserved.1⟩

end

end SysTweak.Vcon
