import Mathlib.Data.List.Nodup
import Mathlib.Logic.Function.Basic

/-!
# Waiting for any of many holders

`WaitableManagerImpl` with the events whose holders it waits for: `WaitAny` of one thread,
while other threads call `SignalEvent` and `ClearEvent`.  A step is what is done under one
critical section; `SignalEvent` keeps `cs_event` while it enters the critical section of
the manager for each holder.  The thread waits without a timeout and for no reply.
-/

namespace SysTweak.Waiting

universe u v

/-- A `WaitableHolderBase`, by what it holds: an event, or a kernel object that has a
handle. -/
inductive Holder (ε : Type u) (η : Type v)
  | event (event : ε)
  | handle (handle : η)
  deriving DecidableEq

/-- `EventType`, as far as holders are concerned. -/
structure EventType (ε : Type u) (η : Type v) where
  signaled : Bool
  waitableObjectList : List (Holder ε η)
  /-- A call of `SignalEvent` is in `cs_event` and has these holders left to signal. -/
  signaling : Option (List (Holder ε η))

/-- Where the thread is in `WaitAnyImpl`. -/
inductive Point (ε : Type u) (η : Type v)
  | outside
  /-- In `LinkHoldersToObjectList`, with the holders it has not linked. -/
  | linking (rest : List (Holder ε η)) (signaledHolder : Option (Holder ε η))
  /-- Before it checks whether it was signaled. -/
  | linked (signaledHolder : Option (Holder ε η))
  /-- In `svcWaitSynchronization`. -/
  | waiting
  /-- The kernel has returned the index of this holder. -/
  | reported (holder : Holder ε η)
  /-- The kernel has returned `ResultCancelled`. -/
  | cancelled
  /-- In `UnlinkHoldersFromObjectList`, with the holders it has not unlinked. -/
  | unlinking (rest : List (Holder ε η)) (holder : Holder ε η)

/-- What ends the process. -/
inductive Fault
  /-- `R_ABORT_UNLESS` in `CancelWait`: there is no thread to cancel the wait of. -/
  | cancelWait
  /-- A holder is linked that is in a list. -/
  | linkedTwice
  deriving DecidableEq

/-- `WaitableManagerImpl` and the objects its holders hold. -/
structure WaitableManager (ε : Type u) (η : Type v) where
  waitableList : List (Holder ε η)
  signaledHolder : Option (Holder ε η)
  /-- `target_impl` has the handle of the thread. -/
  threadHandle : Bool
  events : ε → EventType ε η
  /-- The kernel objects that are signaled. -/
  signaled : η → Bool
  /-- The kernel has canceled the next wait of the thread. -/
  waitCancelled : Bool
  point : Point ε η

namespace WaitableManager

variable {ε : Type u} {η : Type v}

section

variable [DecidableEq ε]

/-! ## Events -/

/-- Change an event. -/
def setEvent (manager : WaitableManager ε η) (event : ε) (content : EventType ε η) :
    WaitableManager ε η :=
  { manager with events := Function.update manager.events event content }

@[simp]
theorem setEvent_events_self (manager : WaitableManager ε η) (event : ε)
    (content : EventType ε η) : (manager.setEvent event content).events event = content :=
  Function.update_self ..

theorem setEvent_events_of_ne (manager : WaitableManager ε η) {event other : ε}
    (different : other ≠ event) (content : EventType ε η) :
    (manager.setEvent event content).events other = manager.events other :=
  Function.update_of_ne different ..

/-- `SignalEvent` enters `cs_event` and signals an event that is not signaled. -/
def signalEvent (event : ε) (manager : WaitableManager ε η) : WaitableManager ε η :=
  let content := manager.events event
  if content.signaling.isSome || content.signaled then manager
  else
    manager.setEvent event
      { content with signaled := true, signaling := some content.waitableObjectList }

/-- `SignalAndWakeupThread`. -/
def signalAndWakeupThread (holder : Holder ε η) (manager : WaitableManager ε η) :
    Except Fault (WaitableManager ε η) :=
  if manager.signaledHolder.isSome then .ok manager
  else if manager.threadHandle then
    .ok { manager with signaledHolder := some holder, waitCancelled := true }
  else .error .cancelWait

/-- `SignalEvent` in `cs_event`: the next holder of `SignalAllThreads`, or the end. -/
def signalAllThreads (event : ε) (manager : WaitableManager ε η) :
    Except Fault (WaitableManager ε η) :=
  let content := manager.events event
  match content.signaling with
  | none => .ok manager
  | some [] => .ok (manager.setEvent event { content with signaling := none })
  | some (holder :: rest) =>
      (manager.setEvent event { content with signaling := some rest }).signalAndWakeupThread
        holder

/-- `ClearEvent`. -/
def clearEvent (event : ε) (manager : WaitableManager ε η) : WaitableManager ε η :=
  let content := manager.events event
  if content.signaling.isSome then manager
  else manager.setEvent event { content with signaled := false }

end

/-! ## The thread -/

/-- The thread goes on to another point. -/
def goTo (manager : WaitableManager ε η) (point : Point ε η) : WaitableManager ε η :=
  { manager with point := point }

@[simp]
theorem goTo_events (manager : WaitableManager ε η) (point : Point ε η) :
    (manager.goTo point).events = manager.events :=
  rfl

@[simp]
theorem goTo_point (manager : WaitableManager ε η) (point : Point ε η) :
    (manager.goTo point).point = point :=
  rfl

/-- The thread enters `WaitAnyImpl`. -/
def waitAny (manager : WaitableManager ε η) : WaitableManager ε η :=
  { manager with
    signaledHolder := none
    threadHandle := true
    point := .linking manager.waitableList none }

/-- The thread has a holder and unlinks them all. -/
def unlinkHolders (manager : WaitableManager ε η) (holder : Holder ε η) :
    WaitableManager ε η :=
  manager.goTo (.unlinking manager.waitableList holder)

section

variable [DecidableEq ε]

/-- `LinkToObjectList` of the holder of an event. -/
def linkToObjectList (event : ε) (manager : WaitableManager ε η) : WaitableManager ε η :=
  let content := manager.events event
  manager.setEvent event { content with
    waitableObjectList := content.waitableObjectList ++ [.event event] }

@[simp]
theorem linkToObjectList_events_self (manager : WaitableManager ε η) (event : ε) :
    (manager.linkToObjectList event).events event = { manager.events event with
      waitableObjectList := (manager.events event).waitableObjectList ++ [.event event] } :=
  setEvent_events_self ..

theorem linkToObjectList_events_of_ne (manager : WaitableManager ε η) {event other : ε}
    (different : other ≠ event) :
    (manager.linkToObjectList event).events other = manager.events other :=
  setEvent_events_of_ne _ different _

variable [DecidableEq η]

/-- `UnlinkFromObjectList` of the holder of an event. -/
def unlinkFromObjectList (event : ε) (manager : WaitableManager ε η) :
    WaitableManager ε η :=
  let content := manager.events event
  manager.setEvent event { content with
    waitableObjectList := content.waitableObjectList.erase (.event event) }

@[simp]
theorem unlinkFromObjectList_events_self (manager : WaitableManager ε η) (event : ε) :
    (manager.unlinkFromObjectList event).events event = { manager.events event with
      waitableObjectList := (manager.events event).waitableObjectList.erase
        (.event event) } :=
  setEvent_events_self ..

theorem unlinkFromObjectList_events_of_ne (manager : WaitableManager ε η) {event other : ε}
    (different : other ≠ event) :
    (manager.unlinkFromObjectList event).events other = manager.events other :=
  setEvent_events_of_ne _ different _

/-- The thread in `WaitAnyImpl`, outside the kernel: its next step, and the holder that is
returned by the last one.  It does not go on while `cs_event` of the event it is at is
not free. -/
def next (manager : WaitableManager ε η) : WaitableManager ε η × Option (Holder ε η) :=
  match manager.point with
  | .outside => (manager, none)
  | .linking [] signaledHolder => (manager.goTo (.linked signaledHolder), none)
  | .linking (.handle _ :: rest) signaledHolder =>
      (manager.goTo (.linking rest signaledHolder), none)
  | .linking (.event event :: rest) signaledHolder =>
      if (manager.events event).signaling.isSome then (manager, none)
      else if signaledHolder.isNone && (manager.events event).signaled then
        ((manager.linkToObjectList event).goTo (.linking rest (some (.event event))), none)
      else ((manager.linkToObjectList event).goTo (.linking rest signaledHolder), none)
  | .linked signaledHolder =>
      match manager.signaledHolder, signaledHolder with
      | some holder, _ => (manager.unlinkHolders holder, none)
      | none, some holder => (manager.unlinkHolders holder, none)
      | none, none => (manager.goTo .waiting, none)
  | .waiting => (manager, none)
  | .reported holder =>
      ({ manager with signaledHolder := some holder }.unlinkHolders holder, none)
  | .cancelled =>
      match manager.signaledHolder with
      | some holder => (manager.unlinkHolders holder, none)
      | none => (manager.goTo .waiting, none)
  | .unlinking [] holder =>
      ({ manager with threadHandle := false, point := .outside }, some holder)
  | .unlinking (.handle _ :: rest) holder => (manager.goTo (.unlinking rest holder), none)
  | .unlinking (.event event :: rest) holder =>
      if (manager.events event).signaling.isSome then (manager, none)
      else ((manager.unlinkFromObjectList event).goTo (.unlinking rest holder), none)

/-- The kernel ends the wait since an object of the array is signaled. -/
def report (handle : η) (manager : WaitableManager ε η) : WaitableManager ε η :=
  match manager.point with
  | .waiting =>
      if .handle handle ∈ manager.waitableList ∧ manager.signaled handle then
        manager.goTo (.reported (.handle handle))
      else manager
  | _ => manager

end

/-- The kernel ends the wait since it was canceled. -/
def cancel (manager : WaitableManager ε η) : WaitableManager ε η :=
  match manager.point with
  | .waiting =>
      if manager.waitCancelled then
        { manager with waitCancelled := false, point := .cancelled }
      else manager
  | _ => manager

/-- The thread is in `svcWaitSynchronization` and nothing there ends its wait. -/
structure Asleep (manager : WaitableManager ε η) : Prop where
  point : manager.point = .waiting
  waitCancelled : manager.waitCancelled = false
  signaled : ∀ handle, .handle handle ∈ manager.waitableList →
    manager.signaled handle = false

end WaitableManager

end SysTweak.Waiting
