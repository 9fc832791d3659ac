import SysTweak.Vcon.Worker

/-!
# Datagrams that cannot be served

A call that refuses a device or the state should make `ReceiveMessages` return
false and leave the other clients alone.  It does so while the sender is known;
for a new sender the attach call is wrapped in `R_ABORT_UNLESS`.  This module
says exactly which datagrams are tolerated and carries that to the worker's
loop.
-/

namespace SysTweak.Vcon

open SysTweak.Memory
open SysTweak.Platform
open SysTweak.Transition

/-- The call refused a device or the state. -/
def refusal : HdlsCall → Bool
  | .attachVirtualDevice _ rc _ => rc.failed
  | .setState _ _ rc => rc.failed
  | _ => false

namespace VirtualController

/-- A refusal inside `FlushState` is reported. -/
theorem flushState_rc_of_refusal {this : VirtualController} {replies : FlushReplies}
    {call : HdlsCall} (made : call ∈ (this.flushState replies).calls)
    (refused : refusal call = true) :
    (this.flushState replies).rc.succeeded = false := by
  rcases flushState_cases this replies with
    detached | ⟨attached, present⟩ | ⟨attached, lost, replaced⟩ |
      ⟨attached, lost, failed⟩
  · rw [flushState_of_disconnected detached] at made
    contradiction
  · rw [flushState_of_attached attached present] at made ⊢
    simp only [List.mem_cons, List.not_mem_nil, or_false] at made
    rcases made with rfl | rfl
    · contradiction
    · simpa [refusal, Result.failed_eq_not_succeeded] using refused
  · rw [flushState_of_reattached attached lost replaced] at made ⊢
    simp only [List.mem_cons, List.not_mem_nil, or_false] at made
    rcases made with rfl | rfl | rfl | rfl
    · contradiction
    · contradiction
    · rw [refusal, Result.failed_eq_not_succeeded, replaced] at refused
      contradiction
    · simpa [refusal, Result.failed_eq_not_succeeded] using refused
  · rw [flushState_of_lost attached lost failed]
    exact failed

theorem not_refusal_of_disconnect {this : VirtualController} {call : HdlsCall}
    (made : call ∈ this.disconnect.2) : refusal call = false := by
  by_cases attached : this.hdlsHandle = 0
  · rw [disconnect_of_disconnected attached] at made
    contradiction
  · rw [disconnect_of_connected attached] at made
    rw [List.mem_singleton.mp made]
    rfl

end VirtualController

/-- `ReceiveMessages` copes with the datagram: it does not abort, it reports
every refusal, and when it reports a failure it has left the map and every
other controller as they were. -/
def Tolerates (nx : Libnx) (service : VirtualControllerService) (received : Received)
    (replies : ReceiveReplies) : Prop :=
  ∃ outcome : ReceiveOutcome,
    service.receiveMessages nx received replies = .ok outcome ∧
    ((∃ call ∈ hdlsCalls outcome.calls, refusal call = true) →
      outcome.returned = false) ∧
    (outcome.returned = false →
      (∀ addr : Addr, outcome.service.controllers[addr]? = service.controllers[addr]?) ∧
      ∀ addr, addr ≠ received.addr → outcome.service.table addr = service.table addr)

/-- If the datagram comes from a new sender, a device can be attached for it
and, unless the datagram is EXIT, the new device takes the state. -/
def Admissible (service : VirtualControllerService) (received : Received)
    (replies : ReceiveReplies) : Prop :=
  received.Valid → service.controllers[received.addr]? = none →
    replies.attach.rc.succeeded = true ∧
      (received.packet.exit = true ∨ replies.attach.handle = 0 ∨
        ((replies.flush.lost = true → replies.flush.reattach.rc.succeeded = true) ∧
          replies.flush.setStateRc.succeeded = true))

section

variable {nx : Libnx} {service : VirtualControllerService} {received : Received}
  {replies : ReceiveReplies}

open VirtualControllerService

/-- Finding the sender's controller is never refused: it aborts instead. -/
theorem VirtualControllerService.Found.not_refusal {addr : Addr}
    {found : VirtualControllerService} {ptr : Ptr} {controller : VirtualController}
    {calls : List Call} {call : HdlsCall}
    (lookup : Found nx service addr replies found ptr controller calls)
    (made : call ∈ hdlsCalls calls) : refusal call = false := by
  cases lookup with
  | present => contradiction
  | created _ attached =>
      rw [hdlsCalls_newController_cons, hdlsCalls_hdls_cons] at made
      rw [List.mem_singleton.mp made, Table.createCall, refusal,
        Result.failed_eq_not_succeeded, attached]
      rfl

/-- For a new sender that stays, admissible means that its first flush
succeeds. -/
theorem admissible_iff_of_new (valid : received.Valid)
    (unknown : service.controllers[received.addr]? = none)
    (attached : replies.attach.rc.succeeded = true)
    (stays : received.packet.exit = false) (nx : Libnx) :
    Admissible service received replies ↔
      (((Table.created nx replies).setState nx received.packet
        replies.updateTick).flushState replies.flush).rc.succeeded = true := by
  have handle : ((Table.created nx replies).setState nx received.packet
      replies.updateTick).hdlsHandle = replies.attach.handle :=
    VirtualController.setState_hdlsHandle _ _ _
  rw [VirtualController.flushState_succeeded_iff, handle]
  simp [Admissible, valid, unknown, attached, stays]

/-- A datagram that is served is tolerated, unless its sender is new and the new
device does not take the state. -/
theorem VirtualControllerService.Serves.tolerates_iff {outcome : ReceiveOutcome} (owned : service.Owned)
    (ran : service.receiveMessages nx received replies = .ok outcome)
    (serves : Serves nx service received replies outcome) :
    Tolerates nx service received replies ↔
      (outcome.returned = false →
        ∀ addr : Addr, outcome.service.controllers[addr]? = service.controllers[addr]?) := by
  have reported : (∃ call ∈ hdlsCalls outcome.calls, refusal call = true) →
      outcome.returned = false := by
    rintro ⟨call, made, refused⟩
    cases serves with
    | ignored => contradiction
    | @exited found ptr controller calls _ _ lookup =>
        have split : call ∈ hdlsCalls calls ∨ call ∈ controller.disconnect.2 := by
          simpa using made
        rcases split with made | made
        · rw [lookup.not_refusal made] at refused
          contradiction
        · rw [VirtualController.not_refusal_of_disconnect made] at refused
          contradiction
    | @updated found ptr controller calls flushed _ _ lookup same =>
        have split : call ∈ hdlsCalls calls ∨ call ∈ flushed.calls := by
          simpa using made
        rcases split with made | made
        · rw [lookup.not_refusal made] at refused
          contradiction
        · subst same
          exact VirtualController.flushState_rc_of_refusal made refused
  have others : ∀ addr, addr ≠ received.addr →
      outcome.service.table addr = service.table addr := by
    intro addr other
    cases serves with
    | ignored => rfl
    | exited _ _ lookup =>
        rw [(lookup.owned owned).table_removed lookup.member, lookup.table owned,
          Function.update_of_ne other, Function.update_of_ne other]
    | updated _ _ lookup =>
        rw [(lookup.owned owned).table_store lookup.member, lookup.table owned,
          Function.update_of_ne other, Function.update_of_ne other]
  constructor
  · rintro ⟨same, ran', _, untouched⟩ returned
    rw [Except.ok.inj (ran.symm.trans ran')] at returned ⊢
    exact (untouched returned).1
  · intro kept
    exact ⟨outcome, ran, reported, fun returned => ⟨kept returned, others⟩⟩

/-- `ReceiveMessages` copes with exactly the admissible datagrams. -/
theorem tolerates_iff_admissible (owned : service.Owned) :
    Tolerates nx service received replies ↔ Admissible service received replies := by
  by_cases served : received.Valid → service.table received.addr = none →
      replies.attach.rc.succeeded = true
  · rcases owned.exists_serves nx received replies served with ⟨outcome, ran, serves⟩
    rw [serves.tolerates_iff owned ran]
    cases serves with
    | ignored invalid =>
        constructor
        · intro _ valid
          exact absurd valid invalid
        · intro _ _ _
          rfl
    | exited valid exits lookup =>
        constructor
        · intro _ _ unknown
          exact ⟨served valid (Owned.table_of_not_mem unknown), Or.inl exits⟩
        · intro _ returned
          contradiction
    | updated valid stays lookup same =>
        subst same
        cases lookup with
        | present member =>
            constructor
            · intro _ _ unknown
              rw [unknown] at member
              contradiction
            · intro _ _ _
              rfl
        | created unknown attached =>
            rw [admissible_iff_of_new valid unknown attached stays nx]
            constructor
            · intro kept
              -- a failure would have to leave the sender unregistered
              by_contra failed
              have still := kept (Bool.eq_false_iff.mpr failed) received.addr
              rw [unknown] at still
              exact absurd ((getElem?_insert_self _ _ _).symm.trans still) (by simp)
            · intro succeeded returned
              rw [succeeded] at returned
              contradiction
  · rcases Classical.not_imp.mp served with ⟨valid, refused⟩
    rcases Classical.not_imp.mp refused with ⟨absent, refused⟩
    have unknown := (owned.not_mem_iff_view received.addr).mpr absent
    rw [Bool.not_eq_true] at refused
    rcases owned.receiveMessages_of_refused nx valid absent refused with ⟨aborts, _⟩
    constructor
    · rintro ⟨outcome, ran, _⟩
      rw [aborts] at ran
      contradiction
    · intro admissible
      rw [(admissible valid unknown).1] at refused
      contradiction

end

/-! ## The worker's loop -/

/-- From the moment the loop is entered, the worker gets through the iterations
and copes with every datagram, exactly if every datagram is admissible when it
arrives. -/
theorem loop_tolerates_iff_admissible (nx : Libnx) (fd : Int) (tick : BitVec 64)
    (iterations : List Iteration) :
    ((∃ target calls,
        Runs (Worker.iterate nx) ⟨listening fd, tick, 0⟩ iterations target calls) ∧
      ∀ worker iteration,
        Meets (Worker.iterate nx) ⟨listening fd, tick, 0⟩ iterations worker iteration →
        Tolerates nx worker.service iteration.received iteration.replies) ↔
      ∀ worker iteration,
        Meets (Worker.iterate nx) ⟨listening fd, tick, 0⟩ iterations worker iteration →
        Admissible worker.service iteration.received iteration.replies := by
  have owned : ∀ worker iteration,
      Meets (Worker.iterate nx) ⟨listening fd, tick, 0⟩ iterations worker iteration →
      worker.service.Owned := by
    intro worker iteration met
    rcases met.reachable with ⟨earlier, outs, ran⟩
    exact Worker.owned_of_loop ran (owned_listening fd)
  constructor
  · rintro ⟨_, tolerates⟩ worker iteration met
    exact (tolerates_iff_admissible (owned worker iteration met)).mp
      (tolerates worker iteration met)
  · intro admissible
    have tolerates : ∀ worker iteration,
        Meets (Worker.iterate nx) ⟨listening fd, tick, 0⟩ iterations worker iteration →
        Tolerates nx worker.service iteration.received iteration.replies :=
      fun worker iteration met =>
        (tolerates_iff_admissible (owned worker iteration met)).mpr
          (admissible worker iteration met)
    apply And.intro _ tolerates
    apply exists_runs_of_meets
    intro worker iteration met
    rcases tolerates worker iteration met with ⟨outcome, ran, _⟩
    cases stepped : Worker.iterate nx worker iteration with
    | ok result => exact ⟨result, rfl⟩
    | error fault =>
        have failed :=
          (Worker.iterate_eq_error_iff (owned worker iteration met)).mp stepped
        rw [ran] at failed
        contradiction

/-- One datagram of a new client, with no device slot left, ends the process in
the first iteration. -/
theorem loop_aborts_without_device_slot :
    run (Worker.iterate Libnx.console) ⟨listening 3, 0, 0⟩
      [{ received := .whole 0x0100007F (.neutral 1 0)
         replies := ⟨0, ⟨1, 0⟩, 0, .fine⟩
         fd := 4
         checkTick := 0
         inactiveTick := fun _ => 0
         cleanupTick := 0 }] = .error .abort :=
  rfl

end SysTweak.Vcon
