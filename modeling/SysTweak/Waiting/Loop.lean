import SysTweak.Transition.Run
import SysTweak.Waiting.Wakeups

/-!
# The loop of a server manager

`WaitSignaled` and `RegisterToWaitList` of `ServerManagerBase`: the thread that runs
`LoopProcess`, while any thread puts holders in the wait list, requests the loop to stop
or lets it go on.  The outputs are the holders that `WaitSignaled` returns.
-/

namespace SysTweak.Waiting

open SysTweak.Transition

universe v

/-- `request_stop_event` and `notify_event`. -/
inductive Event
  | requestStopEvent | notifyEvent
  deriving DecidableEq

/-- Where the thread is in `LoopProcess`. -/
inductive LoopPoint (η : Type v)
  /-- In `WaitSignaled`, before `ProcessWaitList`. -/
  | selecting
  /-- Before `WaitAny`. -/
  | collected
  /-- In `WaitAny`. -/
  | waiting
  /-- `WaitAny` has returned this holder. -/
  | selected (holder : Holder Event η)
  /-- `WaitSignaled` has returned this holder, and it is processed. -/
  | processing (waitable : η)
  /-- `WaitSignaled` has returned `nullptr`. -/
  | stopped

/-- Where the call of `RegisterToWaitList` is that has `waitlist_mutex`. -/
inductive Registering
  /-- Before `Signal` of `notify_event`. -/
  | linked
  /-- In `SignalEvent`. -/
  | signaling
  | leaving
  deriving DecidableEq

/-- The members of `ServerManagerBase` that the loop uses. -/
structure Loop (η : Type v) where
  /-- `waitable_manager`, with the two events. -/
  waits : WaitableManager Event η
  waitlist : List η
  registering : Option Registering
  point : LoopPoint η

/-- What happens next. -/
inductive Move (η : Type v)
  /-- The thread of the loop goes on. -/
  | thread
  /-- The thread is done with the holder it processes. -/
  | finish
  /-- The kernel ends the wait of the thread. -/
  | report (handle : η)
  | cancel
  /-- A kernel object is signaled, or no longer. -/
  | raise (handle : η) (signaled : Bool)
  /-- A thread calls `RegisterToWaitList` and gets `waitlist_mutex`. -/
  | register (waitable : η)
  /-- The call that has `waitlist_mutex` goes on. -/
  | registering
  /-- A thread calls `RequestStopProcessing`. -/
  | requestStop
  /-- The call that is in `SignalEvent` goes on. -/
  | stopping
  /-- A thread calls `ResumeProcessing`. -/
  | resume

namespace Loop

variable {η : Type v} [DecidableEq η]

/-- The manager with the holders of its events and of some ports. -/
def create (ports : List η) : Loop η where
  waits :=
    { waitableList := .event .requestStopEvent :: .event .notifyEvent :: ports.map .handle
      signaledHolder := none
      threadHandle := false
      events := fun _ => ⟨false, [], none⟩
      signaled := fun _ => false
      waitCancelled := false
      point := .outside }
  waitlist := []
  registering := none
  point := .selecting

/-- The holder of a kernel object is in `waitable_manager` or in `waitlist`. -/
def Linked (loop : Loop η) (waitable : η) : Prop :=
  .handle waitable ∈ loop.waits.waitableList ∨ waitable ∈ loop.waitlist

instance (loop : Loop η) (waitable : η) : Decidable (loop.Linked waitable) :=
  inferInstanceAs (Decidable (_ ∨ _))

/-- `ProcessWaitList`. -/
def processWaitList (loop : Loop η) : Loop η :=
  { loop with
    waits := { loop.waits with
      waitableList := loop.waits.waitableList ++ loop.waitlist.map .handle }
    waitlist := [] }

/-- The thread of the loop. -/
def thread (loop : Loop η) : Loop η × List η :=
  match loop.point with
  | .selecting =>
      if loop.registering.isSome then (loop, [])
      else ({ loop.processWaitList with point := .collected }, [])
  | .collected => ({ loop with waits := loop.waits.waitAny, point := .waiting }, [])
  | .waiting =>
      match loop.waits.next with
      | (waits, none) => ({ loop with waits := waits }, [])
      | (waits, some holder) => ({ loop with waits := waits, point := .selected holder }, [])
  | .selected (.event .requestStopEvent) => ({ loop with point := .stopped }, [])
  | .selected (.event .notifyEvent) =>
      if (loop.waits.events .notifyEvent).signaling.isSome then (loop, [])
      else
        ({ loop with waits := loop.waits.clearEvent .notifyEvent, point := .selecting }, [])
  | .selected (.handle waitable) =>
      ({ loop with
          waits := { loop.waits with
            waitableList := loop.waits.waitableList.erase (.handle waitable) }
          point := .processing waitable }, [waitable])
  | .processing _ => (loop, [])
  | .stopped => (loop, [])

/-- `RegisterToWaitList` once it has `waitlist_mutex`. -/
def register (loop : Loop η) (waitable : η) : Except Fault (Loop η) :=
  if loop.registering.isSome then .ok loop
  else if loop.Linked waitable then .error .linkedTwice
  else .ok { loop with
    waitlist := loop.waitlist ++ [waitable]
    registering := some .linked }

/-- `RegisterToWaitList` after it has linked the holder. -/
def signal (loop : Loop η) : Except Fault (Loop η) :=
  match loop.registering with
  | none => .ok loop
  | some .linked =>
      if (loop.waits.events .notifyEvent).signaling.isSome then .ok loop
      else if (loop.waits.events .notifyEvent).signaled then
        .ok { loop with registering := some .leaving }
      else .ok { loop with
        waits := loop.waits.signalEvent .notifyEvent
        registering := some .signaling }
  | some .signaling =>
      match loop.waits.signalAllThreads .notifyEvent with
      | .error fault => .error fault
      | .ok waits =>
          if (waits.events .notifyEvent).signaling.isSome then
            .ok { loop with waits := waits }
          else .ok { loop with waits := waits, registering := some .leaving }
  | some .leaving => .ok { loop with registering := none }

/-- One step of the loop or of the threads around it. -/
def step : Step (Loop η) (Move η) η Fault
  | loop, .thread => .ok loop.thread
  | loop, .finish =>
      match loop.point with
      | .processing _ => .ok ({ loop with point := .selecting }, [])
      | _ => .ok (loop, [])
  | loop, .report handle => .ok ({ loop with waits := loop.waits.report handle }, [])
  | loop, .cancel => .ok ({ loop with waits := loop.waits.cancel }, [])
  | loop, .raise handle signaled =>
      .ok ({ loop with waits := { loop.waits with
        signaled := Function.update loop.waits.signaled handle signaled } }, [])
  | loop, .register waitable =>
      match loop.register waitable with
      | .error fault => .error fault
      | .ok next => .ok (next, [])
  | loop, .registering =>
      match loop.signal with
      | .error fault => .error fault
      | .ok next => .ok (next, [])
  | loop, .requestStop =>
      .ok ({ loop with waits := loop.waits.signalEvent .requestStopEvent }, [])
  | loop, .stopping =>
      match loop.waits.signalAllThreads .requestStopEvent with
      | .error fault => .error fault
      | .ok waits => .ok ({ loop with waits := waits }, [])
  | loop, .resume =>
      .ok ({ loop with waits := loop.waits.clearEvent .requestStopEvent }, [])

end Loop

end SysTweak.Waiting
