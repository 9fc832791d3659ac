import SysTweak.Platform.Thread
import SysTweak.Transition.Monitor

/-!
# Starting and stopping the services

`HotkeyService` and `VirtualControllerService` have the same constructor, `Start`, `Stop`
and destructor around a `ProcessThreadFunc` of their own.  `Start` and `Stop` run under
`threadMutex`; the worker reads `running` without it, and the destructor calls
`DestroyThread` without it.  The destructor is the last call: what has not got the mutex
when it begins does not get it.  What the workers do in their loops, aborts included, is
the subject of `SysTweak.Hotkey` and `SysTweak.Vcon`.
-/

namespace SysTweak.Lifecycle

open SysTweak.Platform
open SysTweak.Transition
open SysTweak.Transition.Monitor

universe u

/-- Where the destructor is. -/
inductive Destructor
  | notBegun
  /-- In its call of `Stop`. -/
  | stopping
  | destroyThread
  /-- In `DestroyThread`, before `WaitForThreadExit`. -/
  | waitForThreadExit
  /-- In `DestroyThread`, before `DestroyThreadUnsafe`. -/
  | closeThread
  | finished
  deriving DecidableEq

/-- The fields of a service that `Start` and `Stop` use, and where its destructor is. -/
structure Service (φ : Type u) where
  running : Bool
  thread : ThreadType φ
  destructor : Destructor
  deriving DecidableEq

/-- The calls made under `threadMutex`: `Start`, `Stop`, and `Stop` from the destructor. -/
inductive Op
  | start | stop | destroy
  deriving DecidableEq

/-- The statements of `Start` and `Stop`; the last one of each unlocks the mutex. -/
inductive Point
  | startEntered | startThread | startLeaving
  | stopEntered | waitThread | stopLeaving
  deriving DecidableEq

/-- Who acts on the service without the mutex. -/
inductive Party
  | worker | destructor
  deriving DecidableEq

namespace Service

variable {φ : Type u}

/-- After the constructor. -/
def create : Service φ :=
  ⟨false, .create, .notBegun⟩

/-- A call gets the mutex. -/
def enter (service : Service φ) (op : Op) : Option (Service φ × Point) :=
  if service.destructor = .notBegun then
    match op with
    | .start => some (service, .startEntered)
    | .stop => some (service, .stopEntered)
    | .destroy => some ({ service with destructor := .stopping }, .stopEntered)
  else none

section

variable (calls : ThreadCalls φ)

/-- `Start` and `Stop`. -/
def turn (service : Service φ) : Point → Except Abort (Turn (Service φ) Point)
  | .startEntered =>
      if service.running then .ok (.next service .startLeaving)
      else .ok (.next { service with running := true } .startThread)
  | .startThread =>
      match service.thread.startThread calls with
      | .error fault => .error fault
      | .ok thread => .ok (.next { service with thread := thread } .startLeaving)
  | .startLeaving => .ok (.leave service)
  | .stopEntered =>
      if !service.running then .ok (.next service .stopLeaving)
      else .ok (.next { service with running := false } .waitThread)
  | .waitThread =>
      if service.thread.waitForThreadExit then .ok (.next service .stopLeaving)
      else .ok .blocked
  | .stopLeaving =>
      match service.destructor with
      | .stopping => .ok (.leave { service with destructor := .destroyThread })
      | _ => .ok (.leave service)

/-- The worker, and the destructor after its `Stop`. -/
def act (function : ThreadFunction φ) (service : Service φ) :
    Party → Except Abort (Service φ)
  | .worker =>
      .ok { service with thread := service.thread.invokeThread function service.running }
  | .destructor =>
      match service.destructor with
      | .destroyThread =>
          match service.thread.destroyUnstarted calls with
          | .error fault => .error fault
          | .ok thread =>
              .ok { service with thread := thread, destructor := .waitForThreadExit }
      | .waitForThreadExit =>
          if service.thread.waitForThreadExit then
            .ok { service with destructor := .closeThread }
          else .ok service
      | .closeThread =>
          match service.thread.destroyExited calls with
          | .error fault => .error fault
          | .ok thread => .ok { service with thread := thread, destructor := .finished }
      | _ => .ok service

/-- A service under its mutex. -/
def program (function : ThreadFunction φ) : Program (Service φ) Op Point Party Abort where
  enter := enter
  turn := turn calls
  background := act calls function

end

end Service

/-! ## The two services -/

/-- The points of `HotkeyService::ProcessThreadFunc`. -/
inductive HotkeyPoint
  | sleep | initializing | loop | pollHidStates | sleepTick | exit
  deriving DecidableEq

/-- `HotkeyService::ProcessThreadFunc`, by its reads of `running`. -/
def HotkeyService.processThreadFunc : ThreadFunction HotkeyPoint where
  entry := .sleep
  next running
    | .sleep => some .initializing
    | .initializing => some .loop
    | .loop => if running then some .pollHidStates else some .exit
    | .pollHidStates => some .sleepTick
    | .sleepTick => some .loop
    | .exit => none
  looping
    | .exit => false
    | _ => true
  looping_entry := rfl
  looping_next := by
    intro point looping
    cases point with
    | exit => contradiction
    | _ => exact ⟨_, rfl, rfl⟩
  remaining
    | .exit => 0
    | .loop => 1
    | .initializing | .sleepTick => 2
    | .sleep | .pollHidStates => 3
  remaining_next := by
    intro point point' goesOn
    cases point <;> cases goesOn <;> decide

/-- The points of `VirtualControllerService::ProcessThreadFunc`. -/
inductive VirtualControllerPoint
  | sleep | initializing | bindServer | loop | receiveMessages | cleanup | exit | closeServer
  deriving DecidableEq

/-- `VirtualControllerService::ProcessThreadFunc`, by its reads of `running`. -/
def VirtualControllerService.processThreadFunc : ThreadFunction VirtualControllerPoint where
  entry := .sleep
  next running
    | .sleep => some .initializing
    | .initializing => some .bindServer
    | .bindServer => some .loop
    | .loop => if running then some .receiveMessages else some .exit
    | .receiveMessages => some .cleanup
    | .cleanup => some .loop
    | .exit => some .closeServer
    | .closeServer => none
  looping
    | .exit | .closeServer => false
    | _ => true
  looping_entry := rfl
  looping_next := by
    intro point looping
    cases point with
    | exit => contradiction
    | closeServer => contradiction
    | _ => exact ⟨_, rfl, rfl⟩
  remaining
    | .closeServer => 0
    | .exit => 1
    | .loop => 2
    | .bindServer | .cleanup => 3
    | .initializing | .receiveMessages => 4
    | .sleep => 5
  remaining_next := by
    intro point point' goesOn
    cases point <;> cases goesOn <;> decide

/-- The services with a worker thread. -/
inductive SysService
  | hotkey | virtualController

namespace SysService

/-- The points of the service's `ProcessThreadFunc`. -/
def WorkerPoint : SysService → Type
  | hotkey => HotkeyPoint
  | virtualController => VirtualControllerPoint

/-- The service's `ProcessThreadFunc`. -/
def processThreadFunc : (service : SysService) → ThreadFunction service.WorkerPoint
  | hotkey => HotkeyService.processThreadFunc
  | virtualController => VirtualControllerService.processThreadFunc

end SysService

end SysTweak.Lifecycle
