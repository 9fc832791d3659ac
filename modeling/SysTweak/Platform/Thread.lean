import SysTweak.Platform.Libnx

/-!
# Threads

Threads of `libstratosphere`: `os_thread.cpp`, `os_thread_manager.cpp` and its Horizon
part.  What is done under `cs_thread` is one step.  The assertions of these files are
not compiled into the program; `R_ABORT_UNLESS` is.  `threadStart` and `threadClose` are
libnx's, and all that is known of them is when they succeed.
-/

namespace SysTweak.Platform

universe u

/-- `ThreadType::State`. -/
inductive ThreadState
  | notInitialized | initialized | destroyedBeforeStarted | started | terminated
  deriving DecidableEq

/-- Where the thread itself is, with the point of its function while it runs it. -/
inductive KernelThread (φ : Type u)
  /-- Created, and not started. -/
  | created
  /-- In `InvokeThread`, before its function. -/
  | invoked
  | running (point : φ)
  /-- Before `CleanupThread`. -/
  | cleanup
  /-- After `CleanupThread`. -/
  | exiting
  | exited
  deriving DecidableEq

/-- `ThreadType`, with the kernel's view of the thread. -/
structure ThreadType (φ : Type u) where
  state : ThreadState
  kernel : KernelThread φ
  deriving DecidableEq

/-- What libnx answers about a thread, by where the thread is: a created thread can be
started, one that has exited cannot be started again and can be closed. -/
structure ThreadCalls (φ : Type u) where
  threadStart : KernelThread φ → Result
  threadClose : KernelThread φ → Result
  start_created : (threadStart .created).succeeded = true
  start_exited : (threadStart .exited).succeeded = false
  close_exited : (threadClose .exited).succeeded = true

/-- The console's answers: what is not created, or not exited, is in an invalid state. -/
def ThreadCalls.console {φ : Type u} : ThreadCalls φ where
  threadStart
    | .created => 0
    | _ => 0xfa01
  threadClose
    | .exited => 0
    | _ => 0xfa01
  start_created := rfl
  start_exited := rfl
  close_exited := rfl

/-- An `R_ABORT_UNLESS` that fails; it ends the process. -/
inductive Abort
  | abort
  deriving DecidableEq

/-- A thread function that reads one flag: where it begins, and the next point of each
point; there is none where it returns.  While the flag is set it stays before the end of
its loop; once it is cleared it returns after a bounded number of steps. -/
structure ThreadFunction (φ : Type u) where
  entry : φ
  next : Bool → φ → Option φ
  /-- The loop is not left yet. -/
  looping : φ → Bool
  looping_entry : looping entry = true
  looping_next : ∀ point, looping point = true →
    ∃ point', next true point = some point' ∧ looping point' = true
  remaining : φ → Nat
  remaining_next : ∀ point point', next false point = some point' →
    remaining point' < remaining point

namespace ThreadType

variable {φ : Type u}

/-- What a successful `os::CreateThread` leaves. -/
def create : ThreadType φ :=
  ⟨.initialized, .created⟩

section

variable (calls : ThreadCalls φ)

/-- `ThreadManagerHorizonImpl::StartThread`. -/
def kernelStart (thread : ThreadType φ) : Except Abort (ThreadType φ) :=
  if (calls.threadStart thread.kernel).succeeded then
    .ok { thread with kernel := .invoked }
  else .error .abort

/-- `ThreadManager::StartThread`. -/
def startThread (thread : ThreadType φ) : Except Abort (ThreadType φ) :=
  match thread.kernelStart calls with
  | .error fault => .error fault
  | .ok invoked => .ok { invoked with state := .started }

/-- `ThreadManager::DestroyThread` up to `WaitForThreadExit`. -/
def destroyUnstarted (thread : ThreadType φ) : Except Abort (ThreadType φ) :=
  if thread.state = .initialized then
    kernelStart calls { thread with state := .destroyedBeforeStarted }
  else .ok thread

/-- The rest of `ThreadManager::DestroyThread`. -/
def destroyExited (thread : ThreadType φ) : Except Abort (ThreadType φ) :=
  if (calls.threadClose thread.kernel).succeeded then
    .ok { thread with state := .notInitialized }
  else .error .abort

end

/-- `WaitForThreadExit` returns. -/
def waitForThreadExit (thread : ThreadType φ) : Bool :=
  match thread.kernel with
  | .exited => true
  | _ => false

/-- A step of the thread itself: `ThreadManager::InvokeThread`, its function with the
flag as it is, and `ThreadManager::CleanupThread`. -/
def invokeThread (function : ThreadFunction φ) (flag : Bool) (thread : ThreadType φ) :
    ThreadType φ :=
  match thread.kernel with
  | .created => thread
  | .invoked =>
      if thread.state = .initialized then thread
      else if thread.state = .started then { thread with kernel := .running function.entry }
      else { thread with kernel := .cleanup }
  | .running point =>
      match function.next flag point with
      | some point' => { thread with kernel := .running point' }
      | none => { thread with kernel := .cleanup }
  | .cleanup => ⟨.terminated, .exiting⟩
  | .exiting => { thread with kernel := .exited }
  | .exited => thread

/-- What is left of a started thread once it has exited. -/
def ended : ThreadType φ :=
  ⟨.terminated, .exited⟩

/-- Started, and its function has not left its loop. -/
inductive Works (function : ThreadFunction φ) : ThreadType φ → Prop
  | invoked : Works function ⟨.started, .invoked⟩
  | running {point : φ} (looping : function.looping point = true) :
      Works function ⟨.started, .running point⟩

/-- Started, anywhere on its way to its end. -/
inductive Drains : ThreadType φ → Prop
  | invoked : Drains ⟨.started, .invoked⟩
  | running (point : φ) : Drains ⟨.started, .running point⟩
  | cleanup : Drains ⟨.started, .cleanup⟩
  | exiting : Drains ⟨.terminated, .exiting⟩
  | exited : Drains ended

/-- Destroyed before it was started, anywhere on its way to its end, or at its end. -/
inductive Discarded : ThreadType φ → Prop
  | invoked : Discarded ⟨.destroyedBeforeStarted, .invoked⟩
  | cleanup : Discarded ⟨.destroyedBeforeStarted, .cleanup⟩
  | exiting : Discarded ⟨.terminated, .exiting⟩
  | exited : Discarded ended

theorem create_startThread (calls : ThreadCalls φ) :
    create.startThread calls = .ok ⟨.started, .invoked⟩ := by
  simp only [startThread, kernelStart, create, calls.start_created, if_true]

theorem ended_startThread (calls : ThreadCalls φ) :
    ended.startThread calls = .error .abort := by
  simp only [startThread, kernelStart, ended, calls.start_exited, Bool.false_eq_true,
    if_false]

theorem create_destroyUnstarted (calls : ThreadCalls φ) :
    create.destroyUnstarted calls = .ok ⟨.destroyedBeforeStarted, .invoked⟩ := by
  simp only [destroyUnstarted, kernelStart, create, calls.start_created, if_true]

theorem ended_destroyUnstarted (calls : ThreadCalls φ) :
    ended.destroyUnstarted calls = .ok ended :=
  rfl

theorem ended_destroyExited (calls : ThreadCalls φ) :
    ended.destroyExited calls = .ok ⟨.notInitialized, .exited⟩ := by
  simp only [destroyExited, ended, calls.close_exited, if_true]

theorem waitForThreadExit_iff (thread : ThreadType φ) :
    thread.waitForThreadExit = true ↔ thread.kernel = .exited := by
  rcases thread with ⟨state, kernel⟩
  cases kernel <;> simp [waitForThreadExit]

theorem Works.drains {function : ThreadFunction φ} {thread : ThreadType φ}
    (works : Works function thread) : Drains thread := by
  cases works with
  | invoked => exact .invoked
  | running => exact .running _

theorem Works.started {function : ThreadFunction φ} {thread : ThreadType φ}
    (works : Works function thread) : thread.state = .started := by
  cases works with
  | invoked => rfl
  | running => rfl

/-- A working thread works on as long as the flag is set. -/
theorem Works.invokeThread {function : ThreadFunction φ} {thread : ThreadType φ}
    (works : Works function thread) : Works function (thread.invokeThread function true) := by
  cases works with
  | invoked => exact .running function.looping_entry
  | @running point looping =>
      rcases function.looping_next point looping with ⟨point', goesOn, looping'⟩
      simp only [ThreadType.invokeThread, goesOn]
      exact .running looping'

theorem Drains.invokeThread {thread : ThreadType φ} (drains : Drains thread)
    (function : ThreadFunction φ) (flag : Bool) :
    Drains (thread.invokeThread function flag) := by
  cases drains with
  | invoked => exact .running _
  | running point =>
      cases goesOn : function.next flag point with
      | none =>
          simp only [ThreadType.invokeThread, goesOn]
          exact .cleanup
      | some point' =>
          simp only [ThreadType.invokeThread, goesOn]
          exact .running point'
  | cleanup => exact .exiting
  | exiting => exact .exited
  | exited => exact .exited

/-- With its flag cleared a started thread ends. -/
theorem Drains.exists_ended {thread : ThreadType φ} (drains : Drains thread)
    (function : ThreadFunction φ) :
    ∃ steps, (ThreadType.invokeThread function false)^[steps] thread = ended := by
  have cleanup : (ThreadType.invokeThread function false)^[2] ⟨.started, .cleanup⟩ = ended := rfl
  have running : ∀ bound point, function.remaining point < bound →
      ∃ steps, (ThreadType.invokeThread function false)^[steps] ⟨.started, .running point⟩ =
        ended := by
    intro bound
    induction bound with
    | zero =>
        intro point below
        contradiction
    | succ bound ih =>
        intro point below
        cases goesOn : function.next false point with
        | none =>
            use 3
            rw [Function.iterate_succ_apply, ThreadType.invokeThread]
            simp only [goesOn]
            exact cleanup
        | some point' =>
            have closer := function.remaining_next point point' goesOn
            rcases ih point' (Nat.lt_of_lt_of_le closer (Nat.le_of_lt_succ below)) with
              ⟨steps, ends⟩
            use steps + 1
            rw [Function.iterate_succ_apply, ThreadType.invokeThread]
            simp only [goesOn]
            exact ends
  cases drains with
  | invoked =>
      rcases running _ function.entry (Nat.lt_succ_self _) with ⟨steps, ends⟩
      exact ⟨steps + 1, ends⟩
  | running point => exact running _ point (Nat.lt_succ_self _)
  | cleanup => exact ⟨2, cleanup⟩
  | exiting => exact ⟨1, rfl⟩
  | exited => exact ⟨0, rfl⟩

theorem Drains.eq_ended {thread : ThreadType φ} (drains : Drains thread)
    (exited : thread.kernel = .exited) : thread = ended := by
  cases drains <;> first | rfl | contradiction

theorem Discarded.invokeThread {thread : ThreadType φ} (discarded : Discarded thread)
    (function : ThreadFunction φ) (flag : Bool) :
    Discarded (thread.invokeThread function flag) := by
  cases discarded with
  | invoked => exact .cleanup
  | cleanup => exact .exiting
  | exiting => exact .exited
  | exited => exact .exited

theorem Discarded.eq_ended {thread : ThreadType φ} (discarded : Discarded thread)
    (exited : thread.kernel = .exited) : thread = ended := by
  cases discarded <;> first | rfl | contradiction

theorem Discarded.not_works {function : ThreadFunction φ} {thread : ThreadType φ}
    (discarded : Discarded thread) : ¬Works function thread := by
  intro works
  cases discarded <;> cases works

end ThreadType

end SysTweak.Platform
