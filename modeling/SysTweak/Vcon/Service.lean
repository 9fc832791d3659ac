import SysTweak.Memory.Owner
import SysTweak.Transition.Run
import SysTweak.Vcon.Controller

/-!
# The virtual controller service

`VirtualControllerService` of `virtual_controller_service.cpp`: the map from
client addresses to heap-allocated controllers, `ReceiveMessages` and
`Cleanup`.  Controllers live in an explicit heap; using or deleting a pointer
that is not allocated is a fault, and so is every failed `R_ABORT_UNLESS`.
-/

namespace SysTweak.Vcon

open SysTweak.Memory
open SysTweak.Platform
open SysTweak.Transition

/-- An IPv4 source address, `sin_addr.s_addr`. -/
abbrev Addr := BitVec 32

/-- How a step can end the process. -/
inductive Fault
  /-- An `R_ABORT_UNLESS` failed. -/
  | abort
  /-- A pointer that is not allocated was used. -/
  | badPointer
  deriving DecidableEq

/-- The calls the worker makes that outlive a step, in order. -/
inductive Call
  | socketInitialize
  | socketExit
  /-- `VirtualController::Initialize()`. -/
  | controllersInitialize
  /-- `VirtualController::Exit()`. -/
  | controllersExit
  | socket (fd : Int)
  | bind (fd : Int)
  | recvfrom (fd : Int)
  | close (fd : Int)
  /-- `new VirtualController()`. -/
  | newController (ptr : Ptr)
  /-- `delete controller`. -/
  | deleteController (ptr : Ptr)
  | hdls (call : HdlsCall)
  deriving DecidableEq

/-- The data members of `VirtualControllerService` the worker uses, with the
heap its controllers live in; a `VirtualController*` is the name of its
allocation. -/
structure VirtualControllerService where
  sock : Int
  controllers : Std.TreeMap Addr Ptr
  heap : Heap VirtualController

/-- What the calls of one `ReceiveMessages` return, had they all been made:
the two tick readings and the libnx results. -/
structure ReceiveReplies where
  createTick : BitVec 64
  attach : AttachReply
  updateTick : BitVec 64
  flush : FlushReplies
  deriving DecidableEq

/-- The outcome of `ReceiveMessages`: the service afterwards, the calls made
and the value returned. -/
structure ReceiveOutcome where
  service : VirtualControllerService
  calls : List Call
  returned : Bool

namespace VirtualControllerService

/-- The service after its constructor. -/
def initial : VirtualControllerService where
  sock := -1
  controllers := ∅
  heap := .empty

/-- `delete controller`: the destructor disconnects, then the memory is
freed. -/
def delete (service : VirtualControllerService) (ptr : Ptr) :
    Except Fault (VirtualControllerService × List Call) :=
  match service.heap.cells ptr with
  | none => .error .badPointer
  | some controller =>
      .ok ({ service with heap := service.heap.free ptr },
        controller.disconnect.2.map Call.hdls ++ [.deleteController ptr])

/-- `controllers[addr] = controller` for a controller just allocated. -/
def register (service : VirtualControllerService) (addr : Addr)
    (controller : VirtualController) : VirtualControllerService :=
  { service with
    controllers := service.controllers.insert addr service.heap.next
    heap := service.heap.alloc controller }

/-- Write back a controller its methods changed. -/
def store (service : VirtualControllerService) (ptr : Ptr)
    (controller : VirtualController) : VirtualControllerService :=
  { service with heap := service.heap.write ptr controller }

/-- `controllers.erase(addr)`. -/
def erase (service : VirtualControllerService) (addr : Addr) :
    VirtualControllerService :=
  { service with controllers := service.controllers.erase addr }

/-- `VirtualControllerService::BindServer`, with the descriptor `socket`
returns. -/
def bindServer (service : VirtualControllerService) (fd : Int) :
    VirtualControllerService × List Call :=
  ({ service with sock := fd }, [.socket fd, .bind fd])

/-- `VirtualControllerService::CloseServer`. -/
def closeServer (service : VirtualControllerService) :
    VirtualControllerService × List Call :=
  ({ service with sock := -1 }, [.close service.sock])

variable (nx : Libnx)

/-- The part of `ReceiveMessages` that finds the sender's controller, or
creates, connects and registers a new one. -/
def controllerFor (service : VirtualControllerService) (addr : Addr)
    (replies : ReceiveReplies) :
    Except Fault (Ptr × VirtualControllerService × List Call) :=
  match service.controllers[addr]? with
  | some ptr => .ok (ptr, service, [])
  | none =>
      let connecting :=
        (VirtualController.create nx replies.createTick).connect replies.attach
      let ptr := service.heap.next
      if connecting.rc.failed then .error .abort
      else
        .ok (ptr, service.register addr connecting.this,
          .newController ptr :: connecting.calls.map Call.hdls)

/-- `VirtualControllerService::ReceiveMessages`. -/
def receiveMessages (service : VirtualControllerService) (received : Received)
    (replies : ReceiveReplies) : Except Fault ReceiveOutcome :=
  let heard := Call.recvfrom service.sock
  if received.count ≠ ControllerPacket.size then .ok ⟨service, [heard], false⟩
  else if received.packet.magic ≠ controllerPacketMagic then
    .ok ⟨service, [heard], true⟩
  else
    match service.controllerFor nx received.addr replies with
    | .error fault => .error fault
    | .ok (ptr, found, foundCalls) =>
        if received.packet.exit then
          match found.delete ptr with
          | .error fault => .error fault
          | .ok (deleted, deleteCalls) =>
              .ok ⟨deleted.erase received.addr, heard :: foundCalls ++ deleteCalls, true⟩
        else
          match found.heap.cells ptr with
          | none => .error .badPointer
          | some controller =>
              let flushed :=
                (controller.setState nx received.packet replies.updateTick).flushState
                  replies.flush
              .ok ⟨found.store ptr flushed.this,
                heard :: foundCalls ++ flushed.calls.map Call.hdls,
                flushed.rc.succeeded⟩

/-- The loop of `Cleanup` over the entries the iterator has not passed yet.
`now addr` is the tick `Inactive` reads when the loop is at `addr`. -/
def cleanupFrom (force : Bool) (now : Addr → BitVec 64) :
    List (Addr × Ptr) → VirtualControllerService →
      Except Fault (VirtualControllerService × List Call)
  | [], service => .ok (service, [])
  | (addr, ptr) :: rest, service =>
      match service.heap.cells ptr with
      | none => .error .badPointer
      | some controller =>
          if force || controller.inactive nx (now addr) then
            match service.delete ptr with
            | .error fault => .error fault
            | .ok (deleted, deleteCalls) =>
                match cleanupFrom force now rest (deleted.erase addr) with
                | .error fault => .error fault
                | .ok (target, restCalls) => .ok (target, deleteCalls ++ restCalls)
          else cleanupFrom force now rest service

/-- `VirtualControllerService::Cleanup`. -/
def cleanup (service : VirtualControllerService) (force : Bool)
    (now : Addr → BitVec 64) : Except Fault (VirtualControllerService × List Call) :=
  cleanupFrom nx force now service.controllers.toList service

end VirtualControllerService

/-- What the loop of the worker does to the service in one go: a
`ReceiveMessages` call, a restart of the server, or a `Cleanup(false)` call. -/
inductive Event
  | receive (received : Received) (replies : ReceiveReplies)
  | restart (fd : Int)
  | cleanup (now : Addr → BitVec 64)

/-- The service as a system that consumes events and emits calls. -/
def serviceStep (nx : Libnx) : Step VirtualControllerService Event Call Fault :=
  fun service event =>
    match event with
    | .receive received replies =>
        match service.receiveMessages nx received replies with
        | .error fault => .error fault
        | .ok outcome => .ok (outcome.service, outcome.calls)
    | .restart fd =>
        let (closed, closeCalls) := service.closeServer
        let (bound, bindCalls) := closed.bindServer fd
        .ok (bound, closeCalls ++ bindCalls)
    | .cleanup now => service.cleanup nx false now

end SysTweak.Vcon
