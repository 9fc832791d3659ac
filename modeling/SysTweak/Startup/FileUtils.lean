import SysTweak.Nacp.Service
import SysTweak.Platform.Thread
import SysTweak.Transition.Monitor

/-!
# The SD card

`file_utils.cpp` mounts the SD card in a thread of its own while the program goes on.  One
thread of the program calls `InitializeAsync`, `WaitInitialized` and `Exit`, one call after
the other; the init thread takes its steps whenever it likes.  What is written to the log
is left out.
-/

namespace SysTweak.Startup

open SysTweak.Nacp
open SysTweak.Platform
open SysTweak.Transition

universe u

/-! ## The init thread -/

/-- The statements of `FileUtils::Initialize`. -/
inductive InitializePoint
  | timeInitialize
  | fsInitialize
  | fsdevMountSdmc
  | setHasInitialized
  deriving DecidableEq

/-- The globals of `file_utils.cpp`, with what is open of the file system. -/
structure Globals where
  hasInitialized : Bool
  initThread : ThreadType InitializePoint
  /-- Between a successful `fsInitialize` and `fsExit`. -/
  fsInitialized : Bool
  /-- Between a successful `fsdevMountSdmc` and `fsdevUnmountAll`. -/
  sdmcMounted : Bool
  deriving DecidableEq

/-- The globals of a program that starts, and after `Exit`. -/
def Globals.initial : Globals :=
  ⟨false, ⟨.notInitialized, .exited⟩, false, false⟩

/-- What the calls of the claims' code read of the globals. -/
def Globals.fileUtils (globals : Globals) : FileUtils :=
  ⟨globals.hasInitialized, globals.initThread.state != .notInitialized⟩

/-- Where `FileUtils::Initialize` begins; the clock is read for the log only. -/
def initializeEntry (enableLogging : Bool) : InitializePoint :=
  if enableLogging then .timeInitialize else .fsInitialize

/-- A statement of `FileUtils::Initialize`, under the `R_ABORT_UNLESS` of
`_FileUtils_InitializeThreadFunc`. -/
def fileUtilsInitialize (globals : Globals) (rc : Result) : InitializePoint → Except Abort Globals
  | .timeInitialize =>
      if rc.succeeded then
        .ok { globals with initThread := ⟨.started, .running .fsInitialize⟩ }
      else .error .abort
  | .fsInitialize =>
      if rc.succeeded then
        .ok { globals with
          fsInitialized := true
          initThread := ⟨.started, .running .fsdevMountSdmc⟩ }
      else .error .abort
  | .fsdevMountSdmc =>
      if rc.succeeded then
        .ok { globals with
          sdmcMounted := true
          initThread := ⟨.started, .running .setHasInitialized⟩ }
      else .error .abort
  | .setHasInitialized =>
      .ok { globals with hasInitialized := true, initThread := ⟨.started, .cleanup⟩ }

/-- A step of the init thread: `ThreadManager::InvokeThread`, its function with the answer
of the call it makes, and `ThreadManager::CleanupThread`. -/
def initThreadStep (enableLogging : Bool) (globals : Globals) (rc : Result) :
    Except Abort Globals :=
  match globals.initThread.kernel with
  | .created => .ok globals
  | .invoked =>
      match globals.initThread.state with
      | .initialized => .ok globals
      | .started =>
          .ok { globals with
            initThread := ⟨.started, .running (initializeEntry enableLogging)⟩ }
      | state => .ok { globals with initThread := ⟨state, .cleanup⟩ }
  | .running point => fileUtilsInitialize globals rc point
  | .cleanup => .ok { globals with initThread := ⟨.terminated, .exiting⟩ }
  | .exiting => .ok { globals with initThread := ⟨globals.initThread.state, .exited⟩ }
  | .exited => .ok globals

/-! ## The calls -/

/-- The calls, `InitializeAsync` with the answer of the kernel to `CreateThread`. -/
inductive Call
  | initializeAsync (rc : Result)
  | waitInitialized
  | exit
  deriving DecidableEq

/-- The statements of the calls. -/
inductive CallPoint
  /-- `InitializeAsync` has created the thread. -/
  | startThread
  | initializeAsyncReturns (rc : Result)
  /-- `WaitInitialized` has found that the flag is not set. -/
  | checkThreadState
  | waitThread
  | waitInitializedReturns (value : Bool)
  /-- `Exit`, before `os::WaitThread`. -/
  | exitWaitThread
  /-- `os::DestroyThread`, with the parts it has. -/
  | destroyThread
  | waitForThreadExit
  | closeThread
  | checkHasInitialized
  | unmountAll
  | fsExit
  deriving DecidableEq

/-- Where a call begins.  `InitializeAsync` is not called while there is a thread, nor
`Exit` while there is none. -/
def enter (globals : Globals) : Call → Option (Globals × CallPoint)
  | .initializeAsync rc =>
      if globals.initThread.state = .notInitialized then
        if rc.succeeded then
          some ({ globals with initThread := .create }, .startThread)
        else some (globals, .initializeAsyncReturns rc)
      else none
  | .waitInitialized =>
      if globals.hasInitialized then some (globals, .waitInitializedReturns true)
      else some (globals, .checkThreadState)
  | .exit =>
      if globals.initThread.state = .notInitialized then none
      else some (globals, .exitWaitThread)

/-- A thread that is waited for. -/
def awaitExit (globals : Globals) (next : CallPoint) : Monitor.Turn Globals CallPoint :=
  if globals.initThread.waitForThreadExit then .next globals next else .blocked

section

variable (calls : ThreadCalls InitializePoint)

/-- A call of the thread manager. -/
def withThread (globals : Globals) (thread : Except Abort (ThreadType InitializePoint))
    (next : CallPoint) : Except Abort (Monitor.Turn Globals CallPoint) :=
  match thread with
  | .error fault => .error fault
  | .ok thread => .ok (.next { globals with initThread := thread } next)

/-- The statement at a point of a call. -/
def turn (globals : Globals) : CallPoint → Except Abort (Monitor.Turn Globals CallPoint)
  | .startThread =>
      withThread globals (globals.initThread.startThread calls) (.initializeAsyncReturns 0)
  | .initializeAsyncReturns _ => .ok (.leave globals)
  | .checkThreadState =>
      if globals.initThread.state = .notInitialized then
        .ok (.next globals (.waitInitializedReturns false))
      else .ok (.next globals .waitThread)
  | .waitThread => .ok (awaitExit globals (.waitInitializedReturns true))
  | .waitInitializedReturns _ => .ok (.leave globals)
  | .exitWaitThread => .ok (awaitExit globals .destroyThread)
  | .destroyThread =>
      withThread globals (globals.initThread.destroyUnstarted calls) .waitForThreadExit
  | .waitForThreadExit => .ok (awaitExit globals .closeThread)
  | .closeThread =>
      withThread globals (globals.initThread.destroyExited calls) .checkHasInitialized
  | .checkHasInitialized =>
      if globals.hasInitialized then
        .ok (.next { globals with hasInitialized := false } .unmountAll)
      else .ok (.leave globals)
  | .unmountAll => .ok (.next { globals with sdmcMounted := false } .fsExit)
  | .fsExit => .ok (.leave { globals with fsInitialized := false })

/-- The program's calls with the init thread in the background. -/
def fileUtilsProgram (enableLogging : Bool) :
    Monitor.Program Globals Call CallPoint Result Abort where
  enter := enter
  turn := turn calls
  background := initThreadStep enableLogging

end

/-! ## What holds between the statements -/

/-- The globals on the way of a started init thread. -/
inductive Starting : Globals → Prop
  | invoked : Starting ⟨false, ⟨.started, .invoked⟩, false, false⟩
  | timeInitialize : Starting ⟨false, ⟨.started, .running .timeInitialize⟩, false, false⟩
  | fsInitialize : Starting ⟨false, ⟨.started, .running .fsInitialize⟩, false, false⟩
  | fsdevMountSdmc : Starting ⟨false, ⟨.started, .running .fsdevMountSdmc⟩, true, false⟩
  | setHasInitialized : Starting ⟨false, ⟨.started, .running .setHasInitialized⟩, true, true⟩
  | cleanup : Starting ⟨true, ⟨.started, .cleanup⟩, true, true⟩
  | exiting : Starting ⟨true, ⟨.terminated, .exiting⟩, true, true⟩
  | exited : Starting ⟨true, .ended, true, true⟩

/-- The SD card is mounted and known to be, and the init thread has ended. -/
def Globals.started : Globals :=
  ⟨true, .ended, true, true⟩

namespace Starting

variable {globals : Globals}

theorem state_ne (starting : Starting globals) :
    globals.initThread.state ≠ .notInitialized := by
  cases starting <;> decide

theorem eq_started (starting : Starting globals)
    (exited : globals.initThread.waitForThreadExit = true) : globals = .started := by
  cases starting <;> first | rfl | contradiction

/-- The flag is set last. -/
theorem mounted (starting : Starting globals) (flag : globals.hasInitialized = true) :
    globals.fsInitialized = true ∧ globals.sdmcMounted = true := by
  cases starting <;> first | exact ⟨rfl, rfl⟩ | contradiction

/-- A step of the init thread, unless it aborts. -/
theorem step {enableLogging : Bool} {rc : Result} {next : Globals}
    (starting : Starting globals)
    (stepped : initThreadStep enableLogging globals rc = .ok next) : Starting next := by
  cases starting with
  | invoked =>
      cases stepped
      cases enableLogging with
      | false => exact .fsInitialize
      | true => exact .timeInitialize
  | timeInitialize =>
      simp only [initThreadStep, fileUtilsInitialize] at stepped
      split at stepped
      · cases stepped
        exact .fsInitialize
      · contradiction
  | fsInitialize =>
      simp only [initThreadStep, fileUtilsInitialize] at stepped
      split at stepped
      · cases stepped
        exact .fsdevMountSdmc
      · contradiction
  | fsdevMountSdmc =>
      simp only [initThreadStep, fileUtilsInitialize] at stepped
      split at stepped
      · cases stepped
        exact .setHasInitialized
      · contradiction
  | setHasInitialized =>
      cases stepped
      exact .cleanup
  | cleanup =>
      cases stepped
      exact .exiting
  | exiting =>
      cases stepped
      exact .exited
  | exited =>
      cases stepped
      exact .exited

/-- The flag stays set. -/
theorem flag_step {enableLogging : Bool} {rc : Result} {next : Globals}
    (starting : Starting globals) (flag : globals.hasInitialized = true)
    (stepped : initThreadStep enableLogging globals rc = .ok next) :
    next.hasInitialized = true := by
  cases starting <;> first | (cases stepped; rfl) | contradiction

end Starting

/-- Whether there is an init thread after a call, by whether there was one before. -/
def Call.leaves (before : Bool) : Call → Bool
  | .initializeAsync rc => before || rc.succeeded
  | .waitInitialized => before
  | .exit => false

/-- Whether the calls so far leave the program with an init thread. -/
def initialised (ops : List Call) : Bool :=
  ops.foldl Call.leaves false

theorem initialised_append (ops : List Call) (call : Call) :
    initialised (ops ++ [call]) = call.leaves (initialised ops) :=
  List.foldl_append

/-- Between two calls, by whether there is an init thread. -/
def Rests : Bool → Globals → Prop
  | true, globals => Starting globals
  | false, globals => globals = .initial

/-- At the statements of a call; `there` is whether there is an init thread once the call
is done. -/
def Inside (there : Bool) (globals : Globals) : CallPoint → Prop
  | .startThread => there = true ∧ globals = { Globals.initial with initThread := .create }
  | .initializeAsyncReturns rc => rc.succeeded = there ∧ Rests there globals
  | .checkThreadState => Rests there globals
  | .waitThread => there = true ∧ Starting globals
  | .waitInitializedReturns value =>
      value = there ∧ Rests there globals ∧ globals.hasInitialized = there
  | .exitWaitThread => there = false ∧ Starting globals
  | .destroyThread => there = false ∧ globals = .started
  | .waitForThreadExit => there = false ∧ globals = .started
  | .closeThread => there = false ∧ globals = .started
  | .checkHasInitialized =>
      there = false ∧ globals = { Globals.started with
        initThread := ⟨.notInitialized, .exited⟩ }
  | .unmountAll =>
      there = false ∧ globals = ⟨false, ⟨.notInitialized, .exited⟩, true, true⟩
  | .fsExit => there = false ∧ globals = ⟨false, ⟨.notInitialized, .exited⟩, true, false⟩

theorem Rests.background {there enableLogging : Bool} {globals next : Globals} {rc : Result}
    (rests : Rests there globals)
    (stepped : initThreadStep enableLogging globals rc = .ok next) : Rests there next := by
  cases there with
  | true => exact Starting.step rests stepped
  | false =>
      cases rests
      cases stepped
      rfl

/-- The init thread changes nothing that the calls rely on. -/
theorem Inside.background {there enableLogging : Bool} {globals next : Globals}
    {point : CallPoint} {rc : Result} (inside : Inside there globals point)
    (stepped : initThreadStep enableLogging globals rc = .ok next) :
    Inside there next point := by
  cases point with
  | startThread =>
      rcases inside with ⟨rfl, rfl⟩
      cases stepped
      exact ⟨rfl, rfl⟩
  | initializeAsyncReturns rc => exact ⟨inside.1, inside.2.background stepped⟩
  | checkThreadState => exact Rests.background inside stepped
  | waitThread => exact ⟨inside.1, inside.2.step stepped⟩
  | waitInitializedReturns value =>
      rcases inside with ⟨returned, rests, flag⟩
      have flag' : next.hasInitialized = there := by
        cases there with
        | true => exact Starting.flag_step rests flag stepped
        | false =>
            cases rests
            cases stepped
            rfl
      exact ⟨returned, rests.background stepped, flag'⟩
  | exitWaitThread => exact ⟨inside.1, inside.2.step stepped⟩
  | destroyThread | waitForThreadExit | closeThread | checkHasInitialized | unmountAll
  | fsExit =>
      rcases inside with ⟨rfl, rfl⟩
      cases stepped
      exact ⟨rfl, rfl⟩

/-- A call begins. -/
theorem Rests.enter {there : Bool} {globals next : Globals} {call : Call} {point : CallPoint}
    (rests : Rests there globals)
    (entered : Startup.enter globals call = some (next, point)) :
    Inside (call.leaves there) next point := by
  cases call with
  | initializeAsync rc =>
      cases there with
      | true =>
          simp only [Startup.enter, Starting.state_ne rests, if_false] at entered
          contradiction
      | false =>
          cases rests
          cases answered : rc.succeeded with
          | true =>
              simp only [Startup.enter, Globals.initial, answered, if_true] at entered
              cases entered
              exact ⟨answered, rfl⟩
          | false =>
              simp only [Startup.enter, Globals.initial, answered, if_true,
                Bool.false_eq_true, if_false] at entered
              cases entered
              simp only [Call.leaves, answered]
              exact ⟨answered, rfl⟩
  | waitInitialized =>
      simp only [Startup.enter] at entered
      split at entered
      · rename_i flag
        cases entered
        cases there with
        | true => exact ⟨rfl, rests, flag⟩
        | false =>
            cases rests
            contradiction
      · cases entered
        exact rests
  | exit =>
      cases there with
      | true =>
          simp only [Startup.enter, Starting.state_ne rests, if_false] at entered
          cases entered
          exact ⟨rfl, rests⟩
      | false =>
          cases rests
          contradiction

/-- What holds after a statement of a call. -/
def After (there : Bool) : Monitor.Turn Globals CallPoint → Prop
  | .blocked => True
  | .next globals point => Inside there globals point
  | .leave globals => Rests there globals

/-- Whoever waited for the init thread finds the SD card mounted. -/
theorem Starting.after_awaitExit {there : Bool} {globals : Globals} {point : CallPoint}
    (starting : Starting globals) (ended : Inside there .started point) :
    After there (awaitExit globals point) := by
  unfold awaitExit
  split
  · rename_i exited
    rw [starting.eq_started exited]
    exact ended
  · trivial

/-- A statement of a call does not abort. -/
theorem Inside.turn {calls : ThreadCalls InitializePoint} {there : Bool} {globals : Globals}
    {point : CallPoint} (inside : Inside there globals point) :
    ∃ turned, Startup.turn calls globals point = .ok turned ∧ After there turned := by
  cases point with
  | startThread =>
      rcases inside with ⟨rfl, rfl⟩
      simp only [Startup.turn, withThread, ThreadType.create_startThread]
      exact ⟨_, rfl, rfl, .invoked⟩
  | initializeAsyncReturns rc => exact ⟨_, rfl, inside.2⟩
  | checkThreadState =>
      simp only [Startup.turn]
      cases there with
      | true =>
          rw [if_neg (Starting.state_ne inside)]
          exact ⟨_, rfl, rfl, inside⟩
      | false =>
          cases inside
          exact ⟨_, rfl, rfl, rfl, rfl⟩
  | waitThread =>
      rcases inside with ⟨rfl, starting⟩
      exact ⟨_, rfl, starting.after_awaitExit ⟨rfl, .exited, rfl⟩⟩
  | waitInitializedReturns value => exact ⟨_, rfl, inside.2.1⟩
  | exitWaitThread =>
      rcases inside with ⟨rfl, starting⟩
      exact ⟨_, rfl, starting.after_awaitExit ⟨rfl, rfl⟩⟩
  | destroyThread =>
      rcases inside with ⟨rfl, rfl⟩
      exact ⟨_, rfl, rfl, rfl⟩
  | waitForThreadExit =>
      rcases inside with ⟨rfl, rfl⟩
      exact ⟨_, rfl, rfl, rfl⟩
  | closeThread =>
      rcases inside with ⟨rfl, rfl⟩
      simp only [Startup.turn, withThread, Globals.started, ThreadType.ended_destroyExited]
      exact ⟨_, rfl, rfl, rfl⟩
  | checkHasInitialized =>
      rcases inside with ⟨rfl, rfl⟩
      exact ⟨_, rfl, rfl, rfl⟩
  | unmountAll =>
      rcases inside with ⟨rfl, rfl⟩
      exact ⟨_, rfl, rfl, rfl⟩
  | fsExit =>
      rcases inside with ⟨rfl, rfl⟩
      exact ⟨_, rfl, rfl⟩

/-- What holds of the globals, by the calls so far. -/
def outline (calls : ThreadCalls InitializePoint) (enableLogging : Bool) :
    Monitor.Outline (fileUtilsProgram calls enableLogging) where
  Free ops := Rests (initialised ops)
  Inside ops point globals := Inside (initialised ops) globals point
  enter rests entered := by
    rw [initialised_append]
    exact rests.enter entered
  next inside turned := by
    rcases inside.turn with ⟨_, same, after⟩
    cases same.symm.trans turned
    exact after
  leave inside turned := by
    rcases inside.turn with ⟨_, same, after⟩
    cases same.symm.trans turned
    exact after
  backgroundFree rests stepped := rests.background stepped
  backgroundInside inside stepped := inside.background stepped

/-! ## Every run -/

section

variable {κ : Type u} {calls : ThreadCalls InitializePoint} {enableLogging : Bool}
  {moves : List (Monitor.Move κ Call Result)} {ops : List Call} {globals : Globals}
  {client : κ}

/-- `InitializeAsync`, a call of `WaitInitialized`, and the steps of the init thread. -/
def firstWait : List (Monitor.Move Unit Call Result) :=
  [.enter () (.initializeAsync 0), .turn, .turn, .enter () .waitInitialized, .turn] ++
    List.replicate 6 (.background 0) ++ [.turn]

theorem runs_firstWait :
    Runs (Monitor.step (fileUtilsProgram .console false)) ⟨.initial, none⟩ firstWait
      ⟨.started, some ((), .waitInitializedReturns true)⟩
      [.initializeAsync 0, .waitInitialized] :=
  rfl

end

/-! ## Calls return -/

section

variable {κ : Type u} {calls : ThreadCalls InitializePoint} {enableLogging : Bool}
  {globals next : Globals} {client : κ} {point point' : CallPoint}

/-- The steps of a started init thread up to its end. -/
theorem Starting.exists_started (starting : Starting globals)
    (holder : Option (κ × CallPoint)) :
    ∃ steps, Runs (Monitor.step (fileUtilsProgram calls enableLogging)) ⟨globals, holder⟩
      (List.replicate steps (.background 0)) ⟨.started, holder⟩ [] := by
  cases starting with
  | invoked =>
      cases enableLogging with
      | false => exact ⟨6, rfl⟩
      | true => exact ⟨7, rfl⟩
  | timeInitialize => exact ⟨6, rfl⟩
  | fsInitialize => exact ⟨5, rfl⟩
  | fsdevMountSdmc => exact ⟨4, rfl⟩
  | setHasInitialized => exact ⟨3, rfl⟩
  | cleanup => exact ⟨2, rfl⟩
  | exiting => exact ⟨1, rfl⟩
  | exited => exact ⟨0, rfl⟩

/-- A call that returns once the init thread, whose calls succeed, has ended. -/
def Returns (calls : ThreadCalls InitializePoint) (enableLogging : Bool) (client : κ)
    (globals : Globals) (point : CallPoint) : Prop :=
  ∃ steps turns target,
    Runs (Monitor.step (fileUtilsProgram calls enableLogging)) ⟨globals, some (client, point)⟩
      (List.replicate steps (.background 0) ++ List.replicate turns .turn) ⟨target, none⟩ []

theorem runs_of_next {turns : Nat} {target : Globals}
    (turned : turn calls globals point = .ok (.next next point'))
    (rest : Runs (Monitor.step (fileUtilsProgram calls enableLogging))
      ⟨next, some (client, point')⟩ (List.replicate turns .turn) ⟨target, none⟩ []) :
    Runs (Monitor.step (fileUtilsProgram calls enableLogging)) ⟨globals, some (client, point)⟩
      (List.replicate (turns + 1) .turn) ⟨target, none⟩ [] := by
  refine runs_cons_iff.mpr ⟨_, [], [], ?_, rest, rfl⟩
  simp only [Monitor.step, fileUtilsProgram, turned]

/-- From every statement of a call the call returns. -/
theorem Inside.returns {there : Bool} (inside : Inside there globals point) :
    Returns calls enableLogging client globals point := by
  have closed : Startup.turn calls .started .closeThread =
      .ok (.next { Globals.started with initThread := ⟨.notInitialized, .exited⟩ }
        .checkHasInitialized) := by
    simp only [Startup.turn, withThread, Globals.started, ThreadType.ended_destroyExited]
  have closeThread : Runs (Monitor.step (fileUtilsProgram calls enableLogging))
      ⟨.started, some (client, .closeThread)⟩ (List.replicate 4 .turn) ⟨.initial, none⟩ [] :=
    runs_of_next closed rfl
  cases point with
  | startThread =>
      rcases inside with ⟨rfl, rfl⟩
      have started : Startup.turn calls { Globals.initial with initThread := .create }
          .startThread = .ok (.next { Globals.initial with initThread := ⟨.started, .invoked⟩ }
            (.initializeAsyncReturns 0)) := by
        simp only [Startup.turn, withThread, ThreadType.create_startThread]
      exact ⟨0, 2, _, runs_of_next started rfl⟩
  | initializeAsyncReturns rc => exact ⟨0, 1, _, rfl⟩
  | checkThreadState =>
      cases there with
      | true =>
          rcases Starting.exists_started inside _ with ⟨steps, ran⟩
          exact ⟨steps, 3, _, ran.append rfl⟩
      | false =>
          cases inside
          exact ⟨0, 2, _, rfl⟩
  | waitThread =>
      rcases inside.2.exists_started _ with ⟨steps, ran⟩
      exact ⟨steps, 2, _, ran.append rfl⟩
  | waitInitializedReturns value => exact ⟨0, 1, _, rfl⟩
  | exitWaitThread =>
      rcases inside.2.exists_started _ with ⟨steps, ran⟩
      exact ⟨steps, 7, _, ran.append
        (runs_of_next rfl (runs_of_next rfl (runs_of_next rfl closeThread)))⟩
  | destroyThread =>
      rcases inside with ⟨rfl, rfl⟩
      exact ⟨0, 6, _, runs_of_next rfl (runs_of_next rfl closeThread)⟩
  | waitForThreadExit =>
      rcases inside with ⟨rfl, rfl⟩
      exact ⟨0, 5, _, runs_of_next rfl closeThread⟩
  | closeThread =>
      rcases inside with ⟨rfl, rfl⟩
      exact ⟨0, 4, _, closeThread⟩
  | checkHasInitialized =>
      rcases inside with ⟨rfl, rfl⟩
      exact ⟨0, 3, _, rfl⟩
  | unmountAll =>
      rcases inside with ⟨rfl, rfl⟩
      exact ⟨0, 2, _, rfl⟩
  | fsExit =>
      rcases inside with ⟨rfl, rfl⟩
      exact ⟨0, 1, _, rfl⟩

/-- The init thread aborts only at a call that is refused. -/
theorem exists_initThreadStep {rc : Result} (granted : rc.succeeded = true) :
    ∃ next, initThreadStep enableLogging globals rc = .ok next := by
  unfold initThreadStep
  split
  · exact ⟨_, rfl⟩
  · split <;> exact ⟨_, rfl⟩
  · rename_i point _
    cases point <;> simp only [fileUtilsInitialize, granted, if_true] <;> exact ⟨_, rfl⟩
  · exact ⟨_, rfl⟩
  · exact ⟨_, rfl⟩
  · exact ⟨_, rfl⟩

end

end SysTweak.Startup
