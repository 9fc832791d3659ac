import SysTweak.Lifecycle.Discipline

/-!
# Any order of `Start` and `Stop`

A service that is never started again after it was stopped never aborts, and its flag,
its mutex and its thread agree in every state.  One that is started again aborts in that
`Start`: the thread is created by the constructor alone, and has ended.
-/

namespace SysTweak.Lifecycle

open SysTweak.Platform
open SysTweak.Transition
open SysTweak.Transition.Monitor

universe u v

variable {φ : Type u} {κ : Type v}

/-- After the constructor; nobody has the mutex. -/
def initial : State κ (Service φ) Point :=
  ⟨.create, none⟩

section

variable (calls : ThreadCalls φ) (function : ThreadFunction φ)

/-- Flag, mutex and thread agree, the calls served so far being `ops`. -/
structure InStep (ops : List Op) (state : State κ (Service φ) Point) : Prop where
  /-- `os::StartThread` is only given a thread in `State_Initialized`. -/
  startThread : ∀ client, state.holder = some (client, .startThread) →
    state.shared.thread.state = .initialized
  /-- A `Start` after a `Start` and a `Stop` after a `Stop` change nothing and do not wait. -/
  repeated : ∀ earlier op client point, op ≠ .destroy → ops = earlier ++ [op, op] →
    state.holder = some (client, point) →
    (∃ point', state.shared.turn calls point = .ok (.next state.shared point')) ∨
      state.shared.turn calls point = .ok (.leave state.shared)
  /-- When `Start` returns the worker is running. -/
  started : ∀ client, state.holder = some (client, .startLeaving) →
    state.shared.running = true ∧ state.shared.thread.Works function
  /-- When `Stop` returns the worker has returned, unless there never was one. -/
  stopped : ∀ client, state.holder = some (client, .stopLeaving) →
    state.shared.running = false ∧
      (Op.start ∈ ops → state.shared.thread.kernel = .exited) ∧
      (Op.start ∉ ops → state.shared.thread.kernel = .created)
  /-- Between calls the flag is set exactly when a worker was started and has not left its
  loop, and exactly when the last call was a `Start`. -/
  between : state.holder = none →
    (state.shared.running = true ↔ state.shared.thread.Works function) ∧
      (state.shared.running = true ↔ ops.getLast? = some .start)
  /-- The destructor closes the thread after it has exited. -/
  closed : state.shared.destructor = .closeThread → state.shared.thread.kernel = .exited

end

theorem Stage.Idle.ne_active {stage : Stage} (idle : stage.Idle) : stage ≠ .active := by
  rintro rfl
  exact idle

namespace Service

variable {calls : ThreadCalls φ} {function : ThreadFunction φ}

theorem Rests.running_iff_works {stage : Stage} {service : Service φ}
    (rests : service.Rests function stage) :
    service.running = true ↔ service.thread.Works function := by
  rcases service with ⟨running, thread, destructor⟩
  cases stage with
  | fresh =>
      rcases rests with ⟨rfl, rfl⟩
      exact iff_of_false Bool.noConfusion fun works => nomatch works
  | active => exact iff_of_true rests.1 rests.2
  | stopped =>
      rcases rests with ⟨rfl, rfl⟩
      exact iff_of_false Bool.noConfusion fun works => nomatch works
  | restarting => exact rests.elim

theorem Rests.running_iff_active {stage : Stage} {service : Service φ}
    (rests : service.Rests function stage) :
    service.running = true ↔ stage = .active := by
  rcases service with ⟨running, thread, destructor⟩
  cases stage with
  | fresh =>
      rcases rests with ⟨rfl, _⟩
      exact iff_of_false Bool.noConfusion Stage.noConfusion
  | active => exact iff_of_true rests.1 rfl
  | stopped =>
      rcases rests with ⟨rfl, _⟩
      exact iff_of_false Bool.noConfusion Stage.noConfusion
  | restarting => exact rests.elim

/-- While the mutex is free the flag says whether the worker works, and whether it is to. -/
theorem Free.running_iff {stage : Stage} {service : Service φ}
    (free : service.Free function stage) :
    (service.running = true ↔ service.thread.Works function) ∧
      (service.running = true ↔ stage = .active) := by
  rcases service with ⟨running, thread, destructor⟩
  cases destructor with
  | notBegun => exact ⟨Rests.running_iff_works free, Rests.running_iff_active free⟩
  | stopping => exact free.elim
  | destroyThread => exact ⟨free.2.running_iff_works, free.2.running_iff_active⟩
  | waitForThreadExit =>
      rcases free with ⟨idle, rfl, discarded⟩
      exact ⟨iff_of_false Bool.noConfusion discarded.not_works,
        iff_of_false Bool.noConfusion idle.ne_active⟩
  | closeThread =>
      rcases free with ⟨idle, rfl, rfl⟩
      exact ⟨iff_of_false Bool.noConfusion (fun works => nomatch works),
        iff_of_false Bool.noConfusion idle.ne_active⟩
  | finished =>
      rcases free with ⟨idle, rfl, rfl⟩
      exact ⟨iff_of_false Bool.noConfusion (fun works => nomatch works),
        iff_of_false Bool.noConfusion idle.ne_active⟩

theorem Inside.initialized {found : Stage} {service : Service φ}
    (inside : service.Inside function found .start .startThread)
    (orderly : found.serve .start ≠ .restarting) : service.thread.state = .initialized := by
  rcases inside with ⟨_, _, ⟨_, created⟩ | ⟨rfl, _⟩⟩
  · rw [created]
    rfl
  · exact absurd rfl orderly

theorem Inside.works {found : Stage} {service : Service φ}
    (inside : service.Inside function found .start .startLeaving)
    (orderly : found.serve .start ≠ .restarting) :
    service.running = true ∧ service.thread.Works function := by
  rcases inside with ⟨_, rests⟩
  rw [(Stage.serve_eq_active_iff orderly).mpr rfl] at rests
  exact rests

/-- A stopped service has an ended thread, or one that was never started. -/
theorem Rests.stopped {ops : List Op} {service : Service φ}
    (rests : service.Rests function (served ops)) (idle : served ops ≠ .active) :
    service.running = false ∧ (Op.start ∈ ops → service.thread.kernel = .exited) ∧
      (Op.start ∉ ops → service.thread.kernel = .created) := by
  have describes := served_describes ops
  cases stage : served ops with
  | fresh =>
      rw [stage] at rests describes
      have created : service.thread.kernel = .created := congrArg ThreadType.kernel rests.2
      exact ⟨rests.1, fun started => absurd started describes, fun _ => created⟩
  | active => exact absurd stage idle
  | stopped =>
      rw [stage] at rests describes
      have exited : service.thread.kernel = .exited := congrArg ThreadType.kernel rests.2
      exact ⟨rests.1, fun _ => exited,
        fun unstarted => absurd describes.1.start_mem unstarted⟩
  | restarting =>
      rw [stage] at rests
      exact rests.elim

/-- The second of two equal calls finds nothing to do. -/
theorem Inside.repeated {found : Stage} {op : Op} {service : Service φ} {point : Point}
    (notDestroy : op ≠ .destroy) (begun : service.destructor = op.destructor)
    (inside : service.Inside function (found.serve op) op point) :
    (∃ point', service.turn calls point = .ok (.next service point')) ∨
      service.turn calls point = .ok (.leave service) := by
  rcases service with ⟨running, thread, destructor⟩
  cases op with
  | start =>
      cases point with
      | startEntered =>
          rcases inside with ⟨_, rests⟩
          cases found with
          | fresh =>
              rcases rests with ⟨rfl, _⟩
              exact Or.inl ⟨_, rfl⟩
          | active =>
              rcases rests with ⟨rfl, _⟩
              exact Or.inl ⟨_, rfl⟩
          | stopped => exact rests.elim
          | restarting => exact rests.elim
      | startThread =>
          rcases inside with ⟨_, _, ⟨fresh, _⟩ | ⟨stopped, _⟩⟩
          · cases found <;> contradiction
          · cases found <;> contradiction
      | startLeaving => exact Or.inr rfl
      | stopEntered => exact absurd rfl inside.1
      | waitThread => exact absurd rfl inside.1
      | stopLeaving => exact absurd rfl inside.1
  | stop =>
      obtain rfl : destructor = .notBegun := begun
      cases point with
      | startEntered => exact Op.noConfusion inside.1
      | startThread => exact Op.noConfusion inside.1
      | startLeaving => exact Op.noConfusion inside.1
      | stopEntered =>
          rcases inside with ⟨_, rests⟩
          cases found with
          | restarting => exact rests.elim
          | _ =>
              rcases rests with ⟨rfl, _⟩
              exact Or.inl ⟨_, rfl⟩
      | waitThread =>
          rcases inside with ⟨_, active, _⟩
          cases found <;> contradiction
      | stopLeaving => exact Or.inr rfl
  | destroy => exact absurd rfl notDestroy

theorem inStep_of_free {ops : List Op} {service : Service φ}
    (free : service.Free function (served ops)) (orderly : ¬Restarts ops) :
    InStep calls function ops (⟨service, none⟩ : State κ (Service φ) Point) where
  startThread := by
    intro client held
    contradiction
  repeated := by
    intro earlier op client point _ _ held
    contradiction
  started := by
    intro client held
    contradiction
  stopped := by
    intro client held
    contradiction
  between := by
    intro _
    rw [← served_eq_active_iff orderly]
    exact free.running_iff
  closed := by
    rcases service with ⟨running, thread, destructor⟩
    rintro rfl
    rw [free.2.2]
    rfl

theorem inStep_of_inside {earlier : List Op} {op : Op} {client : κ} {point : Point}
    {service : Service φ} (begun : service.destructor = op.destructor)
    (inside : service.Inside function (served earlier) op point)
    (orderly : ¬Restarts (earlier ++ [op])) :
    InStep calls function (earlier ++ [op]) ⟨service, some (client, point)⟩ := by
  have fine : (served earlier).serve op ≠ .restarting := by
    rw [← served_snoc]
    exact fun restarting => orderly (served_eq_restarting_iff.mp restarting)
  constructor
  · intro _ held
    cases held
    obtain rfl := inside.1
    exact inside.initialized fine
  · intro before twice _ _ notDestroy split held
    cases held
    rw [List.append_cons before] at split
    rcases List.append_inj' split rfl with ⟨rfl, same⟩
    cases same
    rw [served_snoc] at inside
    exact inside.repeated notDestroy begun
  · intro _ held
    cases held
    obtain rfl := inside.1
    exact inside.works fine
  · intro _ held
    cases held
    rcases inside with ⟨halting, rests⟩
    rw [← served_snoc] at rests
    apply rests.stopped
    rw [served_snoc]
    exact fun active => halting ((Stage.serve_eq_active_iff fine).mp active)
  · intro free
    contradiction
  · intro closing
    rw [show service.destructor = _ from begun] at closing
    cases op <;> contradiction

/-- What the outline says is agreement, as long as nothing is restarted. -/
theorem inStep_of_holds {ops : List Op} {state : State κ (Service φ) Point}
    (holds : (outline calls function).Holds ops state)
    (orderly : ¬Restarts ops) : InStep calls function ops state := by
  rcases state with ⟨service, holder⟩
  cases holder with
  | none => exact inStep_of_free holds orderly
  | some taken =>
      rcases taken with ⟨client, point⟩
      rcases holds with ⟨earlier, op, rfl, begun, inside⟩
      exact inStep_of_inside begun inside orderly

theorem outline_initial :
    (outline calls function).Holds [] (initial : State κ (Service φ) Point) :=
  ⟨rfl, rfl⟩

/-- Every statement finds a service it can go on with, as long as nothing is restarted. -/
theorem runs_inStep {moves : List (Move κ Op Party)}
    (orderly : ∀ earlier target ops, earlier <+: moves →
      Runs (step (program calls function)) initial earlier target ops → ¬Restarts ops) :
    ∃ target ops, Runs (step (program calls function)) initial moves target ops ∧
      InStep calls function ops target := by
  have ran : ∃ target ops, Runs (step (program calls function)) initial moves target ops := by
    apply (outline calls function).exists_runs outline_initial _ _ orderly
    · rintro ops point service ⟨earlier, op, rfl, begun, inside⟩ notRestarted
      have kept := turn_kept calls begun inside
      cases turned : service.turn calls point with
      | ok turn => exact ⟨turn, turned⟩
      | error fault =>
          rw [turned] at kept
          rcases kept with ⟨stopped, rfl⟩
          apply absurd _ notRestarted
          rw [← served_eq_restarting_iff, served_snoc, stopped]
          rfl
    · rintro ops ⟨service, holder⟩ party holds
      cases holder with
      | none =>
          rcases free_act calls holds party with ⟨service', acted, _⟩
          exact ⟨service', acted⟩
      | some taken =>
          rcases holds with ⟨earlier, op, rfl, begun, inside⟩
          rcases inside_act calls begun inside party with ⟨service', acted, _⟩
          exact ⟨service', acted⟩
  rcases ran with ⟨target, ops, ran⟩
  exact ⟨target, ops, ran, inStep_of_holds ((outline calls function).holds_runs outline_initial ran)
    (orderly moves target ops List.prefix_rfl ran)⟩

/-- A `Start` that restarts the thread aborts: nothing but its own two statements can be
done under the mutex, and the second one is `R_ABORT_UNLESS`. -/
theorem restart_aborts {moves : List (Move κ Op Party)}
    {target : State κ (Service φ) Point} {ops : List Op}
    (ran : Runs (step (program calls function)) initial moves target ops)
    (restarts : Restarts ops) :
    run (step (program calls function)) target [.turn, .turn] = .error .abort := by
  have holds := (outline calls function).holds_runs outline_initial ran
  have restarting := served_eq_restarting_iff.mpr restarts
  rcases target with ⟨⟨running, thread, destructor⟩, holder⟩
  cases holder with
  | none =>
      simp only [Outline.Holds, outline, Free, restarting] at holds
      cases destructor with
      | notBegun => exact holds.elim
      | stopping => exact holds.elim
      | _ => exact holds.1.elim
  | some taken =>
      rcases taken with ⟨client, point⟩
      rcases holds with ⟨earlier, op, rfl, begun, inside⟩
      rw [served_snoc] at restarting
      rcases Stage.serve_eq_restarting_iff.mp restarting with found | ⟨found, rfl⟩
      · rw [found] at inside
        cases point with
        | startThread =>
            rcases inside with ⟨_, _, ⟨other, _⟩ | ⟨other, _⟩⟩
            · contradiction
            · contradiction
        | waitThread =>
            rcases inside with ⟨_, other, _⟩
            contradiction
        | _ => exact inside.2.elim
      · rw [found] at inside
        cases point with
        | startEntered =>
            rcases inside with ⟨_, rfl, rfl⟩
            simp [run, step, program, turn, ThreadType.ended_startThread]
        | startThread =>
            rcases inside with ⟨_, rfl, ⟨other, _⟩ | ⟨_, rfl⟩⟩
            · contradiction
            · simp [run, step, program, turn, ThreadType.ended_startThread]
        | startLeaving => exact inside.2.elim
        | stopEntered => exact absurd rfl inside.1
        | waitThread => exact absurd rfl inside.1
        | stopLeaving => exact absurd rfl inside.1

/-- Steps of the worker while nobody else moves. -/
theorem runs_worker (calls : ThreadCalls φ) (function : ThreadFunction φ)
    (service : Service φ) (holder : Option (κ × Point)) (steps : Nat) :
    Runs (step (program calls function)) ⟨service, holder⟩
      (List.replicate steps (.background .worker))
      ⟨{ service with
          thread := (ThreadType.invokeThread function service.running)^[steps] service.thread },
        holder⟩ [] := by
  induction steps generalizing service with
  | zero => exact Runs.nil _ _
  | succ steps ih =>
      rw [List.replicate_succ]
      exact runs_cons_iff.mpr ⟨_, [], [], rfl, ih _, rfl⟩

/-- A `Stop` that waits returns as soon as the worker has had its steps. -/
theorem stop_returns {moves : List (Move κ Op Party)}
    {target : State κ (Service φ) Point} {ops : List Op} {client : κ}
    (ran : Runs (step (program calls function)) initial moves target ops)
    (waiting : target.holder = some (client, .waitThread)) :
    ∃ steps after, after.holder = some (client, .stopLeaving) ∧
      Runs (step (program calls function)) target
        (List.replicate steps (.background .worker) ++ [.turn]) after [] := by
  have holds := (outline calls function).holds_runs outline_initial ran
  rcases target with ⟨⟨running, thread, destructor⟩, holder⟩
  obtain rfl : holder = some (client, .waitThread) := waiting
  rcases holds with ⟨earlier, op, rfl, begun, _, _, rfl, drains⟩
  rcases drains.exists_ended function with ⟨steps, ends⟩
  have worked := runs_worker calls function ⟨false, thread, destructor⟩
    (some (client, .waitThread)) steps
  simp only [ends] at worked
  exact ⟨steps, _, rfl, worked.snoc rfl⟩

end Service

/-! ## The services -/

namespace SysService

/-- The moves of a service, its clients and its worker. -/
def step (service : SysService) (calls : ThreadCalls service.WorkerPoint) :
    Step (State κ (Service service.WorkerPoint) Point) (Move κ Op Party) Op Abort :=
  Monitor.step (Service.program calls service.processThreadFunc)

/-- If no call is a `Start` after a `Stop` after a `Start`, none that is served is. -/
theorem orderly_of_called {service : SysService} {calls : ThreadCalls service.WorkerPoint}
    {moves earlier : List (Move κ Op Party)}
    (orderly : ¬Restarts (moves.filterMap Move.called)) (before : earlier <+: moves)
    {target : State κ (Service service.WorkerPoint) Point} {ops : List Op}
    (ran : Runs (service.step calls) initial earlier target ops) : ¬Restarts ops := by
  intro restarts
  apply orderly
  apply restarts.of_sublist
  exact (served_sublist ran).trans (before.sublist.filterMap Move.called)

/-- Unless a `Start` gets the mutex after a `Stop` that got it after a `Start`, no run of
the service aborts, and flag, mutex and thread agree in every state of it. -/
theorem exists_runs_inStep (service : SysService) (calls : ThreadCalls service.WorkerPoint)
    {moves : List (Move κ Op Party)}
    (orderly : ∀ earlier target ops, earlier <+: moves →
      Runs (service.step calls) initial earlier target ops → ¬Restarts ops) :
    ∀ earlier, earlier <+: moves → ∃ target ops,
      Runs (service.step calls) initial earlier target ops ∧
        InStep calls service.processThreadFunc ops target := by
  intro earlier before
  apply Service.runs_inStep
  intro first target ops within ran
  exact orderly first target ops (within.trans before) ran

/-- Two clients: a `Start` repeated by the other one, a `Stop` that waits for the worker,
and the destructor. -/
def startStopMoves : List (Move Bool Op Party) :=
  [.enter true .start, .turn, .enter false .start, .turn, .turn,
    .background .worker, .background .worker, .enter false .start, .turn, .turn,
    .background .worker, .background .worker, .enter false .stop, .turn, .turn] ++
  List.replicate 8 (.background .worker) ++
  [.turn, .turn, .enter true .destroy, .turn, .turn,
    .background .destructor, .background .destructor, .background .destructor]

theorem startStopMoves_inStep :
    ∃ target ops, Runs (hotkey.step .console) initial startStopMoves target ops ∧
      InStep .console hotkey.processThreadFunc ops target := by
  have orderly : ¬Restarts (startStopMoves.filterMap Move.called) := by
    rintro ⟨halt, halting, sublist⟩
    cases halt with
    | start => contradiction
    | stop => exact absurd sublist (by decide)
    | destroy => exact absurd sublist (by decide)
  exact exists_runs_inStep hotkey .console
    (fun _ _ _ before ran => orderly_of_called orderly before ran) startStopMoves
    List.prefix_rfl

/-- A `Start` after a `Stop`, once the worker has exited. -/
def restartMoves : List (Move Unit Op Party) :=
  [.enter () .start, .turn, .turn, .turn, .enter () .stop, .turn] ++
  List.replicate 9 (.background .worker) ++ [.turn, .turn, .enter () .start, .turn]

/-- `os::StartThread` is called on a thread in `State_Terminated`, and aborts. -/
theorem restartMoves_abort :
    (∃ state,
      Runs (hotkey.step .console) initial restartMoves state [.start, .stop, .start] ∧
        state.holder = some ((), .startThread) ∧ state.shared.thread.state = .terminated ∧
        hotkey.step .console state .turn = .error .abort) ∧
    ∃ state,
      Runs (virtualController.step .console) initial restartMoves state
          [.start, .stop, .start] ∧
        state.holder = some ((), .startThread) ∧ state.shared.thread.state = .terminated ∧
        virtualController.step .console state .turn = .error .abort := by
  constructor
  · exact ⟨⟨⟨true, .ended, .notBegun⟩, some ((), .startThread)⟩, rfl, rfl, rfl, rfl⟩
  · exact ⟨⟨⟨true, .ended, .notBegun⟩, some ((), .startThread)⟩, rfl, rfl, rfl, rfl⟩

end SysService

end SysTweak.Lifecycle
