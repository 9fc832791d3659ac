import SysTweak.Lifecycle.Stages

/-!
# The flag, the mutex and the thread

What holds of a service while its mutex is free and at each statement of `Start` and
`Stop`, by the stage the calls have brought it to.  The only statement that can abort is
`os::StartThread`, and it aborts exactly when the thread is asked to start again.
-/

namespace SysTweak.Lifecycle

open SysTweak.Platform
open SysTweak.Transition
open SysTweak.Transition.Monitor

universe u v

variable {φ : Type u} {κ : Type v}

/-- Nothing is asked of the thread. -/
def Stage.Idle : Stage → Prop
  | .fresh | .stopped => True
  | .active | .restarting => False

/-- Where the destructor is while a call has the mutex. -/
def Op.destructor : Op → Destructor
  | .destroy => .stopping
  | .start | .stop => .notBegun

namespace Service

section

variable (function : ThreadFunction φ)

/-- The flag and the thread between two calls. -/
def Rests : Stage → Service φ → Prop
  | .fresh, service => service.running = false ∧ service.thread = .create
  | .active, service => service.running = true ∧ service.thread.Works function
  | .stopped, service => service.running = false ∧ service.thread = .ended
  | .restarting, _ => False

/-- While the mutex is free. -/
def Free (stage : Stage) (service : Service φ) : Prop :=
  match service.destructor with
  | .notBegun => service.Rests function stage
  | .stopping => False
  | .destroyThread => stage.Idle ∧ service.Rests function stage
  | .waitForThreadExit => stage.Idle ∧ service.running = false ∧ service.thread.Discarded
  | .closeThread => stage.Idle ∧ service.running = false ∧ service.thread = .ended
  | .finished =>
      stage.Idle ∧ service.running = false ∧ service.thread = ⟨.notInitialized, .exited⟩

/-- At a statement of a call that found the service at the stage `found`. -/
def Inside (found : Stage) (op : Op) (service : Service φ) : Point → Prop
  | .startEntered => op = .start ∧ service.Rests function found
  | .startThread => op = .start ∧ service.running = true ∧
      (found = .fresh ∧ service.thread = .create ∨ found = .stopped ∧ service.thread = .ended)
  | .startLeaving => op = .start ∧ service.Rests function (found.serve .start)
  | .stopEntered => op ≠ .start ∧ service.Rests function found
  | .waitThread =>
      op ≠ .start ∧ found = .active ∧ service.running = false ∧ service.thread.Drains
  | .stopLeaving => op ≠ .start ∧ service.Rests function (found.serve op)

/-- What a statement may do: it aborts only if the thread has ended and is to start. -/
def TurnKept (found : Stage) (op : Op) : Except Abort (Turn (Service φ) Point) → Prop
  | .error _ => found = .stopped ∧ op = .start
  | .ok .blocked => True
  | .ok (.next service point) =>
      service.destructor = op.destructor ∧ service.Inside function found op point
  | .ok (.leave service) => service.Free function (found.serve op)

end

theorem Rests.serve_halt {function : ThreadFunction φ} {stage : Stage} {op : Op}
    {service : Service φ} (rests : service.Rests function stage) (halting : op ≠ .start)
    (stopped : service.running = false) : service.Rests function (stage.serve op) := by
  rw [Stage.serve_of_halting halting]
  cases stage with
  | active =>
      rw [rests.1] at stopped
      contradiction
  | _ => exact rests

/-- What the worker does changes nothing that matters between calls. -/
theorem Rests.worker {function : ThreadFunction φ} {stage : Stage} {service : Service φ}
    (rests : service.Rests function stage) :
    Rests function stage
      { service with thread := service.thread.invokeThread function service.running } := by
  rcases service with ⟨running, thread, destructor⟩
  cases stage with
  | fresh =>
      rcases rests with ⟨rfl, rfl⟩
      exact ⟨rfl, rfl⟩
  | active =>
      rcases rests with ⟨rfl, works⟩
      exact ⟨rfl, works.invokeThread⟩
  | stopped =>
      rcases rests with ⟨rfl, rfl⟩
      exact ⟨rfl, rfl⟩
  | restarting => exact rests

theorem Rests.idle_of_destroy {function : ThreadFunction φ} {stage : Stage}
    {service : Service φ} (rests : service.Rests function (stage.serve .destroy)) :
    (stage.serve .destroy).Idle := by
  cases stage with
  | restarting => exact rests
  | _ => trivial

theorem inside_enter {function : ThreadFunction φ} {stage : Stage} {op : Op}
    {service service' : Service φ} {point : Point} (free : service.Free function stage)
    (entered : service.enter op = some (service', point)) :
    service'.destructor = op.destructor ∧ service'.Inside function stage op point := by
  rcases service with ⟨running, thread, destructor⟩
  cases destructor with
  | notBegun =>
      cases op with
      | start =>
          cases entered
          exact ⟨rfl, rfl, free⟩
      | stop =>
          cases entered
          exact ⟨rfl, by decide, free⟩
      | destroy =>
          cases entered
          constructor
          · rfl
          · cases stage <;> exact ⟨by decide, free⟩
  | _ => cases entered

section

variable (calls : ThreadCalls φ) {function : ThreadFunction φ}

theorem turn_start_kept {found : Stage} {service : Service φ} {point : Point}
    (begun : service.destructor = .notBegun) (inside : service.Inside function found .start point) :
    TurnKept function found .start (service.turn calls point) := by
  rcases service with ⟨running, thread, destructor⟩
  obtain rfl : destructor = .notBegun := begun
  cases point with
  | startEntered =>
      cases found with
      | fresh =>
          rcases inside with ⟨_, rfl, rfl⟩
          exact ⟨rfl, rfl, rfl, Or.inl ⟨rfl, rfl⟩⟩
      | active =>
          rcases inside with ⟨_, rfl, works⟩
          exact ⟨rfl, rfl, rfl, works⟩
      | stopped =>
          rcases inside with ⟨_, rfl, rfl⟩
          exact ⟨rfl, rfl, rfl, Or.inr ⟨rfl, rfl⟩⟩
      | restarting => exact inside.2.elim
  | startThread =>
      rcases inside with ⟨_, rfl, ⟨rfl, rfl⟩ | ⟨rfl, rfl⟩⟩
      · simp only [turn, ThreadType.create_startThread]
        exact ⟨rfl, rfl, rfl, .invoked⟩
      · simp only [turn, ThreadType.ended_startThread]
        exact ⟨rfl, rfl⟩
  | startLeaving => exact inside.2
  | stopEntered => exact absurd rfl inside.1
  | waitThread => exact absurd rfl inside.1
  | stopLeaving => exact absurd rfl inside.1

theorem turn_stop_kept {found : Stage} {op : Op} {service : Service φ} {point : Point}
    (halting : op ≠ .start) (begun : service.destructor = op.destructor)
    (inside : service.Inside function found op point) :
    TurnKept function found op (service.turn calls point) := by
  rcases service with ⟨running, thread, destructor⟩
  cases point with
  | startEntered => exact absurd inside.1 halting
  | startThread => exact absurd inside.1 halting
  | startLeaving => exact absurd inside.1 halting
  | stopEntered =>
      cases running with
      | false => exact ⟨begun, halting, inside.2.serve_halt halting rfl⟩
      | true =>
          cases found with
          | active => exact ⟨begun, halting, rfl, rfl, inside.2.2.drains⟩
          | restarting => exact inside.2.elim
          | _ => exact Bool.noConfusion inside.2.1
  | waitThread =>
      rcases inside with ⟨_, rfl, rfl, drains⟩
      cases exited : thread.waitForThreadExit with
      | false =>
          simp only [turn, exited]
          trivial
      | true =>
          simp only [turn, exited]
          obtain rfl := drains.eq_ended ((ThreadType.waitForThreadExit_iff thread).mp exited)
          change _ ∧ _ ∧ Rests function (Stage.active.serve op) _
          rw [Stage.serve_of_halting halting]
          exact ⟨begun, halting, rfl, rfl⟩
  | stopLeaving =>
      cases op with
      | start => contradiction
      | stop =>
          obtain rfl : destructor = .notBegun := begun
          exact inside.2
      | destroy =>
          obtain rfl : destructor = .stopping := begun
          constructor
          · exact inside.2.idle_of_destroy
          · cases found <;> exact inside.2

theorem turn_kept {found : Stage} {op : Op} {service : Service φ} {point : Point}
    (begun : service.destructor = op.destructor)
    (inside : service.Inside function found op point) :
    TurnKept function found op (service.turn calls point) := by
  by_cases starting : op = .start
  · subst starting
    exact turn_start_kept calls begun inside
  · exact turn_stop_kept calls starting begun inside

theorem free_act {stage : Stage} {service : Service φ} (free : service.Free function stage)
    (party : Party) :
    ∃ service', service.act calls function party = .ok service' ∧
      service'.Free function stage := by
  rcases service with ⟨running, thread, destructor⟩
  cases party with
  | worker =>
      refine ⟨_, rfl, ?_⟩
      cases destructor with
      | notBegun => exact Rests.worker free
      | stopping => exact free.elim
      | destroyThread => exact ⟨free.1, free.2.worker⟩
      | waitForThreadExit => exact ⟨free.1, free.2.1, free.2.2.invokeThread _ _⟩
      | closeThread =>
          rcases free with ⟨idle, stopped, rfl⟩
          exact ⟨idle, stopped, rfl⟩
      | finished =>
          rcases free with ⟨idle, stopped, rfl⟩
          exact ⟨idle, stopped, rfl⟩
  | destructor =>
      cases destructor with
      | notBegun => exact ⟨_, rfl, free⟩
      | stopping => exact free.elim
      | destroyThread =>
          rcases free with ⟨idle, rests⟩
          cases stage with
          | fresh =>
              rcases rests with ⟨rfl, rfl⟩
              simp only [act, ThreadType.create_destroyUnstarted]
              exact ⟨_, rfl, idle, rfl, .invoked⟩
          | active => exact idle.elim
          | stopped =>
              rcases rests with ⟨rfl, rfl⟩
              simp only [act, ThreadType.ended_destroyUnstarted]
              exact ⟨_, rfl, idle, rfl, .exited⟩
          | restarting => exact idle.elim
      | waitForThreadExit =>
          rcases free with ⟨idle, stopped, discarded⟩
          cases exited : thread.waitForThreadExit with
          | false =>
              simp only [act, exited]
              exact ⟨_, rfl, idle, stopped, discarded⟩
          | true =>
              simp only [act, exited]
              exact ⟨_, rfl, idle, stopped,
                discarded.eq_ended ((ThreadType.waitForThreadExit_iff thread).mp exited)⟩
      | closeThread =>
          rcases free with ⟨idle, stopped, rfl⟩
          simp only [act, ThreadType.ended_destroyExited]
          exact ⟨_, rfl, idle, stopped, rfl⟩
      | finished => exact ⟨_, rfl, free⟩

theorem inside_act {found : Stage} {op : Op} {service : Service φ} {point : Point}
    (begun : service.destructor = op.destructor)
    (inside : service.Inside function found op point) (party : Party) :
    ∃ service', service.act calls function party = .ok service' ∧
      service'.destructor = op.destructor ∧ service'.Inside function found op point := by
  cases party with
  | worker =>
      refine ⟨_, rfl, begun, ?_⟩
      cases point with
      | startEntered => exact ⟨inside.1, inside.2.worker⟩
      | startThread =>
          rcases service with ⟨running, thread, destructor⟩
          rcases inside with ⟨starting, started, ⟨fresh, rfl⟩ | ⟨stopped, rfl⟩⟩
          · exact ⟨starting, started, Or.inl ⟨fresh, rfl⟩⟩
          · exact ⟨starting, started, Or.inr ⟨stopped, rfl⟩⟩
      | startLeaving => exact ⟨inside.1, inside.2.worker⟩
      | stopEntered => exact ⟨inside.1, inside.2.worker⟩
      | waitThread =>
          exact ⟨inside.1, inside.2.1, inside.2.2.1, inside.2.2.2.invokeThread _ _⟩
      | stopLeaving => exact ⟨inside.1, inside.2.worker⟩
  | destructor =>
      rcases service with ⟨running, thread, destructor⟩
      obtain rfl : destructor = op.destructor := begun
      refine ⟨_, ?_, rfl, inside⟩
      cases op <;> rfl

/-- What is known of a service at every moment of its life. -/
def outline (function : ThreadFunction φ) : Outline (program calls function) where
  Free ops service := service.Free function (served ops)
  Inside ops point service := ∃ earlier op, ops = earlier ++ [op] ∧
    service.destructor = op.destructor ∧ service.Inside function (served earlier) op point
  enter := by
    intro ops op service service' point free entered
    exact ⟨ops, op, rfl, inside_enter free entered⟩
  next := by
    rintro ops point service service' point' ⟨earlier, op, rfl, begun, inside⟩ turned
    have kept := turn_kept calls begun inside
    rw [show service.turn calls point = _ from turned] at kept
    exact ⟨earlier, op, rfl, kept⟩
  leave := by
    rintro ops point service service' ⟨earlier, op, rfl, begun, inside⟩ turned
    have kept := turn_kept calls begun inside
    rw [show service.turn calls point = _ from turned] at kept
    rw [served_snoc]
    exact kept
  backgroundFree := by
    intro ops party service service' free acted
    rcases free_act calls free party with ⟨reached, acted', free'⟩
    cases acted.symm.trans acted'
    exact free'
  backgroundInside := by
    rintro ops point party service service' ⟨earlier, op, rfl, begun, inside⟩ acted
    rcases inside_act calls begun inside party with ⟨reached, acted', kept⟩
    cases acted.symm.trans acted'
    exact ⟨earlier, op, rfl, kept⟩

end

end Service

end SysTweak.Lifecycle
