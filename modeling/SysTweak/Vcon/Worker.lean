import SysTweak.Vcon.Session

/-!
# The worker thread

`VirtualControllerService::ProcessThreadFunc`: the start-up sequence, the loop
that receives, restarts the server after a hundred errors and cleans up about
once a second, and the shutdown sequence.  One iteration of the loop is a short
run of the service, so whatever holds along runs of the service holds along
runs of the worker.
-/

namespace SysTweak.Vcon

open SysTweak.Platform
open SysTweak.Transition

/-- What the calls before the loop return. -/
structure Startup where
  socketInitializeRc : Result
  controllersInitializeRc : Result
  fd : Int
  tick : BitVec 64

/-- What the calls of one loop iteration return, had they all been made. -/
structure Iteration where
  received : Received
  replies : ReceiveReplies
  /-- The descriptor `socket` returns if the server is restarted. -/
  fd : Int
  /-- The tick of the elapsed-time check. -/
  checkTick : BitVec 64
  /-- The tick `Inactive` reads when the cleanup is at an address. -/
  inactiveTick : Addr → BitVec 64
  /-- The tick `lastCleanupTicks` is set to. -/
  cleanupTick : BitVec 64

/-- The service and the local variables of the loop. -/
structure Worker where
  service : VirtualControllerService
  lastCleanupTicks : BitVec 64
  errorCount : BitVec 64

namespace Worker

/-- Everything before the loop. -/
def start (startup : Startup) : Except Fault (Worker × List Call) :=
  if startup.socketInitializeRc.failed then .error .abort
  else if startup.controllersInitializeRc.failed then .error .abort
  else
    let (bound, bindCalls) := VirtualControllerService.initial.bindServer startup.fd
    .ok (⟨bound, startup.tick, 0⟩,
      [.socketInitialize, .controllersInitialize] ++ bindCalls)

/-- The error branch of the loop: the service, the error count and the calls
after `ReceiveMessages` returned false. -/
def countError (service : VirtualControllerService) (errorCount : BitVec 64)
    (fd : Int) : VirtualControllerService × BitVec 64 × List Call :=
  let errorCount := errorCount + 1
  if errorCount ≥ 100 then
    let (closed, closeCalls) := service.closeServer
    let (bound, bindCalls) := closed.bindServer fd
    (bound, 0, closeCalls ++ bindCalls)
  else (service, errorCount, [])

/-- One iteration of the loop, entered with `running` true. -/
def iterate (nx : Libnx) : Step Worker Iteration Call Fault :=
  fun worker iteration =>
    match worker.service.receiveMessages nx iteration.received iteration.replies with
    | .error fault => .error fault
    | .ok outcome =>
        let (service, errorCount, restartCalls) :=
          if outcome.returned then (outcome.service, worker.errorCount, [])
          else countError outcome.service worker.errorCount iteration.fd
        if nx.armTicksToNs (iteration.checkTick - worker.lastCleanupTicks) > 1000000000 then
          match service.cleanup nx false iteration.inactiveTick with
          | .error fault => .error fault
          | .ok (cleaned, cleanupCalls) =>
              .ok (⟨cleaned, iteration.cleanupTick, errorCount⟩,
                outcome.calls ++ restartCalls ++ cleanupCalls)
        else
          .ok (⟨service, worker.lastCleanupTicks, errorCount⟩,
            outcome.calls ++ restartCalls)

/-- Everything after the loop.  `Cleanup(true)` reads no clock. -/
def shutdown (nx : Libnx) (worker : Worker) :
    Except Fault (VirtualControllerService × List Call) :=
  match worker.service.cleanup nx true fun _ => 0 with
  | .error fault => .error fault
  | .ok (cleaned, cleanupCalls) =>
      let (closed, closeCalls) := cleaned.closeServer
      .ok (closed, cleanupCalls ++ [.controllersExit, .socketExit] ++ closeCalls)

end Worker

/-- `VirtualControllerService::ProcessThreadFunc` up to some point: the
iterations entered so far, each having read `running` as true, and whether the
read after them gave false. -/
def processThreadFunc (nx : Libnx) (startup : Startup) (iterations : List Iteration)
    (stopped : Bool) : Except Fault (VirtualControllerService × List Call) :=
  match Worker.start startup with
  | .error fault => .error fault
  | .ok (worker, startCalls) =>
      match run (Worker.iterate nx) worker iterations with
      | .error fault => .error fault
      | .ok (looped, loopCalls) =>
          if stopped then
            match looped.shutdown nx with
            | .error fault => .error fault
            | .ok (service, shutdownCalls) =>
                .ok (service, startCalls ++ loopCalls ++ shutdownCalls)
          else .ok (looped.service, startCalls ++ loopCalls)

/-! ## Start-up -/

/-- The service when the loop is entered. -/
def listening (fd : Int) : VirtualControllerService :=
  { VirtualControllerService.initial with sock := fd }

theorem Worker.start_eq_ok_iff {startup : Startup} {worker : Worker}
    {calls : List Call} :
    Worker.start startup = .ok (worker, calls) ↔
      startup.socketInitializeRc.succeeded = true ∧
        startup.controllersInitializeRc.succeeded = true ∧
        worker = ⟨listening startup.fd, startup.tick, 0⟩ ∧
        calls = [.socketInitialize, .controllersInitialize, .socket startup.fd,
          .bind startup.fd] := by
  unfold Worker.start
  rw [Result.failed_eq_not_succeeded, Result.failed_eq_not_succeeded]
  cases startup.socketInitializeRc.succeeded with
  | false => simp
  | true =>
      cases startup.controllersInitializeRc.succeeded with
      | false => simp
      | true =>
          simp only [Bool.not_true, Bool.false_eq_true, if_false, Except.ok.injEq,
            Prod.mk.injEq, true_and]
          constructor
          · rintro ⟨rfl, rfl⟩
            exact ⟨rfl, rfl⟩
          · rintro ⟨rfl, rfl⟩
            exact ⟨rfl, rfl⟩

theorem owned_listening (fd : Int) : (listening fd).Owned :=
  VirtualControllerService.owned_initial

@[simp]
theorem table_listening (fd : Int) (addr : Addr) : (listening fd).table addr = none :=
  VirtualControllerService.table_initial addr

/-! ## An iteration as a run of the service -/

namespace Worker

variable {nx : Libnx}

/-- The events of one iteration, given what `ReceiveMessages` returned. -/
def events (nx : Libnx) (worker : Worker) (iteration : Iteration) (returned : Bool) :
    List Event :=
  .receive iteration.received iteration.replies ::
    ((if !returned && worker.errorCount + 1 ≥ 100 then [.restart iteration.fd] else []) ++
      if nx.armTicksToNs (iteration.checkTick - worker.lastCleanupTicks) > 1000000000 then
        [.cleanup iteration.inactiveTick]
      else [])

/-- What the loop does between the receive and the cleanup is a run over at most
one restart. -/
theorem runs_of_counted (nx : Libnx) (worker : Worker) (outcome : ReceiveOutcome)
    (fd : Int) :
    ∃ service errorCount restartCalls,
      (if outcome.returned then (outcome.service, worker.errorCount, [])
        else countError outcome.service worker.errorCount fd) =
          (service, errorCount, restartCalls) ∧
      Runs (serviceStep nx) outcome.service
        (if !outcome.returned && worker.errorCount + 1 ≥ 100 then [.restart fd] else [])
        service restartCalls := by
  by_cases returned : outcome.returned = true
  · refine ⟨outcome.service, worker.errorCount, [], by simp [returned], ?_⟩
    simp [returned]
  · by_cases many : worker.errorCount + 1 ≥ 100
    · refine ⟨{ outcome.service with sock := fd }, 0,
        [.close outcome.service.sock, .socket fd, .bind fd], ?_, ?_⟩
      · rw [if_neg returned, countError, if_pos many]
        rfl
      · rw [if_pos (by simpa [returned] using many)]
        exact runs_cons_iff.mpr ⟨_, _, [], rfl, Runs.nil _ _, rfl⟩
    · refine ⟨outcome.service, worker.errorCount + 1, [], ?_, ?_⟩
      · rw [if_neg returned, countError, if_neg many]
      · rw [if_neg (by simpa [returned] using many)]
        exact Runs.nil _ _

/-- Whether the server was restarted does not show in the map or the heap. -/
theorem entries_of_counted {worker : Worker} {outcome : ReceiveOutcome} {fd : Int}
    {service : VirtualControllerService} {errorCount : BitVec 64} {calls : List Call}
    (branch : (if outcome.returned then (outcome.service, worker.errorCount, [])
      else countError outcome.service worker.errorCount fd) =
        (service, errorCount, calls)) :
    service.controllers = outcome.service.controllers ∧
      service.heap = outcome.service.heap := by
  rcases runs_of_counted Libnx.console worker outcome fd with
    ⟨same, sameCount, sameCalls, branch', restarted⟩
  cases branch.symm.trans branch'
  split at restarted
  · rcases runs_cons_iff.mp restarted with ⟨next, _, _, stepped, ended, _⟩
    rcases runs_nil_iff.mp ended with ⟨rfl, _⟩
    cases stepped
    exact ⟨rfl, rfl⟩
  · rcases runs_nil_iff.mp restarted with ⟨rfl, _⟩
    exact ⟨rfl, rfl⟩

/-- One iteration is a run of the service over one datagram, and possibly a
restart and a cleanup. -/
theorem runs_of_iterate {worker target : Worker} {iteration : Iteration}
    {calls : List Call} (stepped : iterate nx worker iteration = .ok (target, calls)) :
    ∃ outcome, worker.service.receiveMessages nx iteration.received iteration.replies =
        .ok outcome ∧
      Runs (serviceStep nx) worker.service (events nx worker iteration outcome.returned)
        target.service calls := by
  unfold iterate at stepped
  cases ran : worker.service.receiveMessages nx iteration.received iteration.replies with
  | error fault =>
      rw [ran] at stepped
      contradiction
  | ok outcome =>
      rw [ran] at stepped
      refine ⟨outcome, rfl, ?_⟩
      have heard : serviceStep nx worker.service
          (.receive iteration.received iteration.replies) =
            .ok (outcome.service, outcome.calls) := by
        simp only [serviceStep, ran]
      obtain ⟨service, errorCount, restartCalls, branch, restarted⟩ :=
        runs_of_counted nx worker outcome iteration.fd
      simp only [branch] at stepped
      refine runs_cons_iff.mpr ⟨outcome.service, outcome.calls, ?_⟩
      split at stepped
      · rename_i due
        cases cleaned : service.cleanup nx false iteration.inactiveTick with
        | error fault =>
            rw [cleaned] at stepped
            contradiction
        | ok result =>
            obtain ⟨reached, cleanupCalls⟩ := result
            rw [cleaned] at stepped
            cases stepped
            refine ⟨restartCalls ++ cleanupCalls, heard, ?_, List.append_assoc _ _ _⟩
            rw [if_pos due]
            exact restarted.append
              (runs_cons_iff.mpr ⟨reached, cleanupCalls, [], cleaned, Runs.nil _ _,
                (List.append_nil _).symm⟩)
      · rename_i notDue
        cases stepped
        refine ⟨restartCalls, heard, ?_, rfl⟩
        rw [if_neg notDue, List.append_nil]
        exact restarted

/-- A run of the worker's loop is a run of the service with the same calls. -/
theorem runs_of_loop {worker target : Worker} {iterations : List Iteration}
    {calls : List Call} (ran : Runs (iterate nx) worker iterations target calls) :
    ∃ events, Runs (serviceStep nx) worker.service events target.service calls := by
  induction iterations generalizing worker calls with
  | nil =>
      obtain ⟨rfl, rfl⟩ := runs_nil_iff.mp ran
      exact ⟨[], Runs.nil _ _⟩
  | cons iteration iterations ih =>
      obtain ⟨next, first, rest, stepped, continued, rfl⟩ := runs_cons_iff.mp ran
      obtain ⟨outcome, _, inner⟩ := runs_of_iterate stepped
      obtain ⟨later, outer⟩ := ih continued
      exact ⟨events nx worker iteration outcome.returned ++ later, inner.append outer⟩

theorem owned_of_loop {worker target : Worker} {iterations : List Iteration}
    {calls : List Call} (ran : Runs (iterate nx) worker iterations target calls)
    (owned : worker.service.Owned) : target.service.Owned := by
  obtain ⟨events, inner⟩ := runs_of_loop ran
  exact owned_of_reachable owned ⟨events, calls, inner⟩

/-- The only way an iteration ends the process is the abort in
`ReceiveMessages`. -/
theorem iterate_eq_error_iff {worker : Worker} {iteration : Iteration} {fault : Fault}
    (owned : worker.service.Owned) :
    iterate nx worker iteration = .error fault ↔
      worker.service.receiveMessages nx iteration.received iteration.replies =
        .error fault := by
  unfold iterate
  cases ran : worker.service.receiveMessages nx iteration.received iteration.replies with
  | error first => simp
  | ok outcome =>
      obtain ⟨service, errorCount, restartCalls, branch, restarted⟩ :=
        runs_of_counted nx worker outcome iteration.fd
      have counted := owned_of_reachable (owned.receiveMessages ran)
        ⟨_, _, restarted⟩
      obtain ⟨cleaned, cleanupCalls, cleanup, _⟩ :=
        counted.cleanup_spec nx false iteration.inactiveTick
      simp only [branch, cleanup]
      split <;> simp

end Worker

/-! ## Runs of the whole thread -/

/-- The calls before the loop. -/
def startCalls (fd : Int) : List Call :=
  [.socketInitialize, .controllersInitialize, .socket fd, .bind fd]

/-- What the thread does up to some point: start-up, a run of the loop and,
once it was asked to stop, the removal of all controllers and the teardown. -/
inductive ThreadRun (nx : Libnx) (startup : Startup) (iterations : List Iteration) :
    Bool → VirtualControllerService → List Call → Prop
  | looping {looped : Worker} {loopCalls : List Call} :
      Runs (Worker.iterate nx) ⟨listening startup.fd, startup.tick, 0⟩ iterations looped
        loopCalls →
      ThreadRun nx startup iterations false looped.service
        (startCalls startup.fd ++ loopCalls)
  | stopped {looped : Worker} {cleaned : VirtualControllerService}
      {loopCalls cleanupCalls : List Call} :
      Runs (Worker.iterate nx) ⟨listening startup.fd, startup.tick, 0⟩ iterations looped
        loopCalls →
      looped.service.Sweep cleanupCalls cleaned →
      (∀ addr, cleaned.table addr = none) →
      ThreadRun nx startup iterations true { cleaned with sock := -1 }
        (startCalls startup.fd ++ loopCalls ++
          (cleanupCalls ++ [.controllersExit, .socketExit, .close cleaned.sock]))

theorem threadRun_of_processThreadFunc {nx : Libnx} {startup : Startup}
    {iterations : List Iteration} {stopped : Bool} {service : VirtualControllerService}
    {calls : List Call}
    (ran : processThreadFunc nx startup iterations stopped = .ok (service, calls)) :
    ThreadRun nx startup iterations stopped service calls := by
  unfold processThreadFunc at ran
  cases started : Worker.start startup with
  | error fault =>
      rw [started] at ran
      contradiction
  | ok begun =>
      rcases begun with ⟨worker, made⟩
      rcases Worker.start_eq_ok_iff.mp started with ⟨_, _, rfl, rfl⟩
      simp only [started] at ran
      cases looping : run (Worker.iterate nx) ⟨listening startup.fd, startup.tick, 0⟩
          iterations with
      | error fault =>
          rw [looping] at ran
          contradiction
      | ok result =>
          rcases result with ⟨looped, loopCalls⟩
          rw [looping] at ran
          cases stopped with
          | false =>
              cases ran
              exact .looping looping
          | true =>
              have owned := Worker.owned_of_loop looping (owned_listening startup.fd)
              rcases owned.cleanup_spec nx true fun _ => 0 with
                ⟨cleaned, cleanupCalls, cleanup, sweep, tables⟩
              have empty : ∀ addr, cleaned.table addr = none := by
                intro addr
                rw [tables, Table.cleanup]
                cases looped.service.table addr <;> rfl
              simp only [Worker.shutdown, cleanup, if_true] at ran
              cases ran
              rw [List.append_assoc cleanupCalls]
              exact .stopped looping sweep empty

end SysTweak.Vcon
