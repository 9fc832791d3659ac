import SysTweak.Vcon.Sockets

/-!
# Restarts of the server

The worker counts the calls of `ReceiveMessages` that fail and restarts its server at
every hundredth.  The count is not reset by calls that succeed, so over the life of the
thread the restarts are the failures divided by a hundred.
-/

namespace SysTweak.Vcon

open SysTweak.Platform
open SysTweak.Transition
open VirtualControllerService

/-- The call opens a descriptor. -/
def Call.opensSocket : Call → Bool
  | .socket _ => true
  | _ => false

/-- The event restarts the server. -/
def Event.restarts : Event → Bool
  | .restart _ => true
  | _ => false

theorem countP_opensSocket_of_onController {calls : List Call}
    (onController : ∀ call ∈ calls, call.onController = true) :
    calls.countP Call.opensSocket = 0 := by
  rw [List.countP_eq_zero]
  intro call member
  have other := onController call member
  cases call <;> first | exact Bool.false_ne_true | contradiction

section

variable {nx : Libnx} {service : VirtualControllerService}

theorem Found.onController {addr : Addr} {replies : ReceiveReplies}
    {found : VirtualControllerService} {ptr : Nat} {controller : VirtualController}
    {calls : List Call}
    (lookup : Found nx service addr replies found ptr controller calls) :
    ∀ call ∈ calls, call.onController = true := by
  intro call member
  cases lookup with
  | present => contradiction
  | created =>
      simp only [List.mem_cons, List.not_mem_nil, or_false] at member
      rcases member with rfl | rfl
      · rfl
      · rfl

/-- Receiving opens no descriptor. -/
theorem Serves.countP_opensSocket {received : Received} {replies : ReceiveReplies}
    {outcome : ReceiveOutcome} (serves : Serves nx service received replies outcome) :
    outcome.calls.countP Call.opensSocket = 0 := by
  cases serves with
  | ignored => rfl
  | exited _ _ lookup =>
      rw [List.cons_append, List.countP_cons, List.countP_append,
        countP_opensSocket_of_onController (Found.onController lookup),
        countP_opensSocket_of_onController fun call member => onController_of_mem_delete member]
      rfl
  | updated _ _ lookup =>
      rw [List.cons_append, List.countP_cons, List.countP_append,
        countP_opensSocket_of_onController (Found.onController lookup),
        countP_opensSocket_of_onController fun call member =>
          onController_of_mem_map_hdls member]
      rfl

/-- Nor does cleaning up. -/
theorem Sweep.countP_opensSocket {target : VirtualControllerService} {calls : List Call}
    (sweep : service.Sweep calls target) : calls.countP Call.opensSocket = 0 := by
  induction sweep with
  | done => rfl
  | drop _ _ _ ih =>
      rw [List.countP_append, ih, countP_opensSocket_of_onController fun call member =>
        onController_of_mem_delete member]

/-- The descriptors a run opens are those of its restarts. -/
theorem countP_opensSocket_of_runs {target : VirtualControllerService} {events : List Event}
    {calls : List Call} (owned : service.Owned)
    (ran : Runs (serviceStep nx) service events target calls) :
    calls.countP Call.opensSocket = events.countP Event.restarts := by
  induction events generalizing service calls with
  | nil =>
      rcases runs_nil_iff.mp ran with ⟨rfl, rfl⟩
      rfl
  | cons event events ih =>
      rcases runs_cons_iff.mp ran with ⟨next, first, rest, stepped, continued, rfl⟩
      rw [List.countP_append, ih (serviceStep_owned owned stepped) continued, List.countP_cons,
        Nat.add_comm]
      congr 1
      cases stepped_of_serviceStep owned stepped with
      | receive received => exact Serves.countP_opensSocket (owned.serves received)
      | restart fd => rfl
      | cleanup sweep _ => exact Sweep.countP_opensSocket sweep

end

namespace Worker

variable {nx : Libnx} {worker target : Worker} {iteration : Iteration} {calls : List Call}

/-- How many calls of `ReceiveMessages` fail while the loop takes the iterations. -/
def failedReceives (nx : Libnx) : Worker → List Iteration → Nat
  | _, [] => 0
  | worker, iteration :: iterations =>
      match worker.service.receiveMessages nx iteration.received iteration.replies,
        iterate nx worker iteration with
      | .ok outcome, .ok (next, _) =>
          (if outcome.returned then 0 else 1) + failedReceives nx next iterations
      | _, _ => 0

/-- The error count after an iteration. -/
theorem iterate_errorCount {outcome : ReceiveOutcome}
    (received : worker.service.receiveMessages nx iteration.received iteration.replies =
      .ok outcome)
    (stepped : iterate nx worker iteration = .ok (target, calls)) :
    target.errorCount =
      if outcome.returned then worker.errorCount
      else if worker.errorCount + 1 ≥ 100 then 0
      else worker.errorCount + 1 := by
  have counted : (if outcome.returned then (outcome.service, worker.errorCount, ([] : List Call))
        else countError outcome.service worker.errorCount iteration.fd).2.1 =
      if outcome.returned then worker.errorCount
      else if worker.errorCount + 1 ≥ 100 then 0
      else worker.errorCount + 1 := by
    split
    · rfl
    · by_cases full : worker.errorCount + 1 ≥ 100
      · simp only [countError, full, if_true]
      · simp only [countError, full, if_false]
  rw [← counted]
  unfold iterate at stepped
  simp only [received] at stepped
  split at stepped
  · split at stepped
    · contradiction
    · cases stepped
      rfl
  · cases stepped
    rfl

/-- One iteration restarts the server when it brings the count to a hundred. -/
theorem counts_iterate {outcome : ReceiveOutcome} (owned : worker.service.Owned)
    (few : worker.errorCount.toNat < 100)
    (received : worker.service.receiveMessages nx iteration.received iteration.replies =
      .ok outcome)
    (stepped : iterate nx worker iteration = .ok (target, calls)) :
    worker.errorCount.toNat + (if outcome.returned then 0 else 1) =
        100 * calls.countP Call.opensSocket + target.errorCount.toNat ∧
      target.errorCount.toNat < 100 := by
  rcases runs_of_iterate stepped with ⟨outcome', received', ran⟩
  cases received.symm.trans received'
  have errors := iterate_errorCount received stepped
  have restarts := countP_opensSocket_of_runs owned ran
  have one : (1#64).toNat = 1 := rfl
  have next : (worker.errorCount + 1#64).toNat = worker.errorCount.toNat + 1 := by
    rw [BitVec.toNat_add, one]
    exact Nat.mod_eq_of_lt (by omega)
  have many : 100#64 ≤ worker.errorCount + 1#64 ↔ 100 ≤ worker.errorCount.toNat + 1 := by
    rw [BitVec.le_def, next]
    exact Iff.rfl
  have cleanups : ∀ (due : Prop) [Decidable due],
      List.countP Event.restarts (if due then [.cleanup iteration.inactiveTick] else []) = 0 := by
    intro due _
    split <;> rfl
  rw [restarts, events, List.countP_cons, List.countP_append, cleanups, errors]
  cases outcome.returned with
  | true =>
      refine ⟨?_, few⟩
      simp [Event.restarts]
  | false =>
      by_cases full : 100 ≤ worker.errorCount.toNat + 1
      · simp [many, full, Event.restarts]
        omega
      · simp [many, full, Event.restarts, next]
        omega

/-- Over every stretch of the loop the failures are a hundred for each restart, and the
count is what is left over. -/
theorem counts_loop {iterations : List Iteration} (owned : worker.service.Owned)
    (few : worker.errorCount.toNat < 100)
    (ran : Runs (iterate nx) worker iterations target calls) :
    worker.errorCount.toNat + failedReceives nx worker iterations =
        100 * calls.countP Call.opensSocket + target.errorCount.toNat ∧
      target.errorCount.toNat < 100 := by
  induction iterations generalizing worker calls with
  | nil =>
      rcases runs_nil_iff.mp ran with ⟨rfl, rfl⟩
      exact ⟨by simp [failedReceives], few⟩
  | cons iteration iterations ih =>
      rcases runs_cons_iff.mp ran with ⟨next, first, rest, stepped, continued, rfl⟩
      rcases runs_of_iterate stepped with ⟨outcome, received, once⟩
      rcases counts_iterate owned few received stepped with ⟨here, few'⟩
      have owned' : next.service.Owned :=
        once.invariant (fun _ _ _ _ holds stepped => serviceStep_owned holds stepped) owned
      rcases ih owned' few' continued with ⟨later, few''⟩
      simp only [failedReceives, received, stepped]
      rw [List.countP_append]
      exact ⟨by omega, few''⟩

/-- A receive that times out. -/
def timedOut : Iteration where
  received := ⟨-1, .neutral 0 0, 0⟩
  replies := ⟨0, ⟨0, 7⟩, 0, .fine⟩
  fd := 4
  checkTick := 0
  inactiveTick := fun _ => 0
  cleanupTick := 0

end Worker

end SysTweak.Vcon
