import SysTweak.Vcon.Worker

/-!
# Success means delivery

When `ReceiveMessages` returns true for a state datagram, the client should be
able to rely on the virtual device having its input.  `FlushState` however
reports success for a controller that has no device, and a failed re-attach
leaves such a controller in the map.  This module says exactly in which states
success means delivery, and carries that to every run.
-/

namespace SysTweak.Vcon

open SysTweak.Memory
open SysTweak.Platform
open SysTweak.Transition

/-- The device behind the controller took the controller's state. -/
def Effect.Delivers (effect : Effect) : Prop :=
  effect.this.hdlsHandle ≠ 0 ∧
    ∃ rc, rc.succeeded = true ∧
      .setState effect.this.hdlsHandle effect.this.hidState rc ∈ effect.calls

/-- A re-attach that is needed and succeeds, and whose device takes the state,
yields a device. -/
def FlushReplies.Sound (replies : FlushReplies) : Prop :=
  replies.lost = true → replies.reattach.rc.succeeded = true →
    replies.setStateRc.succeeded = true → replies.reattach.handle ≠ 0

/-- `FlushState` means what it reports exactly for a controller with a device. -/
theorem VirtualController.flushState_delivers_iff (this : VirtualController)
    (replies : FlushReplies) :
    ((this.flushState replies).rc.succeeded = true →
        (this.flushState replies).Delivers) ↔
      this.hdlsHandle ≠ 0 ∧ replies.Sound := by
  rcases flushState_cases this replies with
    detached | ⟨attached, present⟩ | ⟨attached, lost, replaced⟩ |
      ⟨attached, lost, failed⟩
  · rw [flushState_of_disconnected detached]
    constructor
    · intro delivers
      exact absurd detached (delivers rfl).1
    · intro sound
      exact absurd detached sound.1
  · rw [flushState_of_attached attached present]
    constructor
    · intro _
      constructor
      · exact attached
      · intro lost
        rw [present] at lost
        contradiction
    · intro _ succeeded
      exact ⟨attached, replies.setStateRc, succeeded, by simp⟩
  · rw [flushState_of_reattached attached lost replaced]
    constructor
    · intro delivers
      constructor
      · exact attached
      · intro _ _ succeeded
        exact (delivers succeeded).1
    · intro sound succeeded
      exact ⟨sound.2 lost replaced succeeded, replies.setStateRc, succeeded, by simp⟩
  · rw [flushState_of_lost attached lost failed]
    constructor
    · intro _
      constructor
      · exact attached
      · intro _ replaced
        rw [failed] at replaced
        contradiction
    · intro _ succeeded
      rw [failed] at succeeded
      contradiction

/-- During the call `hiddbgSetHdlsState` succeeded with the sender's current
`hidState`, on the sender's current non-zero handle. -/
def Delivered (received : Received) (outcome : ReceiveOutcome) : Prop :=
  ∃ controller, outcome.service.table received.addr = some controller ∧
    controller.hdlsHandle ≠ 0 ∧
    ∃ rc, rc.succeeded = true ∧
      .setState controller.hdlsHandle controller.hidState rc ∈ hdlsCalls outcome.calls

/-- If `ReceiveMessages` returns true for a state datagram, the state was
delivered. -/
def Delivers (nx : Libnx) (service : VirtualControllerService) (received : Received)
    (replies : ReceiveReplies) : Prop :=
  ∀ outcome, service.receiveMessages nx received replies = .ok outcome →
    received.Valid → received.packet.exit = false → outcome.returned = true →
    Delivered received outcome

/-- The sender's controller has a device when its state is flushed, be it known
or new, and every re-attach that succeeds yields one. -/
def Wired (service : VirtualControllerService) (received : Received)
    (replies : ReceiveReplies) : Prop :=
  received.Valid → received.packet.exit = false →
    match service.table received.addr with
    | some controller => controller.hdlsHandle ≠ 0 ∧ replies.flush.Sound
    | none =>
        replies.attach.rc.succeeded = true →
          replies.attach.handle ≠ 0 ∧ replies.flush.Sound

section

variable {nx : Libnx} {service : VirtualControllerService} {received : Received}
  {replies : ReceiveReplies}

open VirtualControllerService

/-- Finding the sender's controller hands no state to any device. -/
theorem VirtualControllerService.Found.setState_not_mem {addr : Addr}
    {found : VirtualControllerService} {ptr : Ptr} {controller : VirtualController}
    {calls : List Call} (lookup : Found nx service addr replies found ptr controller calls)
    (handle : BitVec 64) (state : HiddbgHdlsState) (rc : Result) :
    .setState handle state rc ∉ hdlsCalls calls := by
  cases lookup with
  | present => exact List.not_mem_nil
  | created =>
      rw [hdlsCalls_newController_cons, hdlsCalls_hdls_cons, Table.createCall]
      simp

/-- `ReceiveMessages` delivers exactly when the flush at its end does. -/
theorem VirtualControllerService.Found.delivers_iff {found : VirtualControllerService}
    {ptr : Ptr} {controller : VirtualController} {calls : List Call}
    (owned : service.Owned) (valid : received.Valid)
    (stays : received.packet.exit = false)
    (lookup : Found nx service received.addr replies found ptr controller calls) :
    Delivers nx service received replies ↔
      controller.hdlsHandle ≠ 0 ∧ replies.flush.Sound := by
  have handle : (controller.setState nx received.packet replies.updateTick).hdlsHandle =
      controller.hdlsHandle := VirtualController.setState_hdlsHandle _ _ _
  rw [← handle, ← VirtualController.flushState_delivers_iff]
  have outcome := lookup.receiveMessages_of_state valid stays
  have entry : ∀ this : VirtualController,
      (found.store ptr this).table received.addr = some this := by
    intro this
    rw [(lookup.owned owned).table_store lookup.member, Function.update_self]
  constructor
  · intro delivers succeeded
    rcases delivers _ outcome valid stays succeeded with
      ⟨current, present, attached, rc, took, made⟩
    cases Option.some.inj ((entry _).symm.trans present)
    have split := made
    rw [List.cons_append, hdlsCalls_recvfrom_cons, hdlsCalls_append, hdlsCalls_map_hdls,
      List.mem_append] at split
    rcases split with early | late
    · exact absurd early (lookup.setState_not_mem _ _ _)
    · exact ⟨attached, rc, took, late⟩
  · intro delivers reached ran _ _ returned
    cases Except.ok.inj (outcome.symm.trans ran)
    rcases delivers returned with ⟨attached, rc, took, made⟩
    refine ⟨_, entry _, attached, rc, took, ?_⟩
    rw [List.cons_append, hdlsCalls_recvfrom_cons, hdlsCalls_append, hdlsCalls_map_hdls]
    exact List.mem_append_right _ made

/-- One `ReceiveMessages` delivers what it reports exactly in the wired
states. -/
theorem delivers_iff_wired (owned : service.Owned) :
    Delivers nx service received replies ↔ Wired service received replies := by
  by_cases valid : received.Valid
  · cases stays : received.packet.exit with
    | true => simp [Delivers, Wired, stays]
    | false =>
        cases present : service.table received.addr with
        | some controller =>
            rcases (owned.mem_iff_view received.addr).mpr ⟨controller, present⟩ with
              ⟨ptr, member⟩
            have live := (table_of_mem member).symm.trans present
            rw [(Found.present member live).delivers_iff owned valid stays]
            simp [Wired, valid, stays, present]
        | none =>
            cases attached : replies.attach.rc.succeeded with
            | true =>
                have absent := (owned.not_mem_iff_view received.addr).mpr present
                rw [(Found.created absent attached).delivers_iff owned valid stays]
                simp [Wired, valid, stays, present, attached, Table.created]
            | false =>
                rcases owned.receiveMessages_of_refused nx valid present attached with
                  ⟨aborts, _⟩
                simp [Delivers, Wired, present, attached, aborts]
  · simp [Delivers, Wired, valid]

end

/-! ## Runs -/

/-- In a run of the service every reported success is a delivery exactly if
every state datagram finds its sender wired. -/
theorem runs_deliver_iff_wired (nx : Libnx) (fd : Int) (events : List Event) :
    (∀ service received replies,
        Meets (serviceStep nx) (listening fd) events service
          (.receive received replies) →
        Delivers nx service received replies) ↔
      ∀ service received replies,
        Meets (serviceStep nx) (listening fd) events service
          (.receive received replies) →
        Wired service received replies := by
  have owned : ∀ service input,
      Meets (serviceStep nx) (listening fd) events service input → service.Owned :=
    fun service input met => owned_of_reachable (owned_listening fd) met.reachable
  constructor
  · intro delivers service received replies met
    exact (delivers_iff_wired (owned service _ met)).mp
      (delivers service received replies met)
  · intro wired service received replies met
    exact (delivers_iff_wired (owned service _ met)).mpr
      (wired service received replies met)

/-- A client's device is lost and cannot be replaced. -/
def losesDevice : List Event :=
  [.receive (.whole 1 (.neutral 1 0)) ⟨0, ⟨0, 7⟩, 0, .fine⟩,
    .receive (.whole 1 (.neutral 2 0)) ⟨0, ⟨0, 0⟩, 0, ⟨0, false, ⟨1, 0⟩, 0⟩⟩]

/-- From then on every datagram of the client is reported as a success and goes
nowhere. -/
theorem lost_device_mutes_client :
    ∃ service calls outcome,
      Runs (serviceStep Libnx.console) (listening 3) losesDevice service calls ∧
      service.receiveMessages Libnx.console (.whole 1 (.neutral 3 1))
        ⟨0, ⟨0, 8⟩, 0, .fine⟩ = .ok outcome ∧
      outcome.returned = true ∧
      ¬Delivered (.whole 1 (.neutral 3 1)) outcome := by
  refine ⟨_, _, _, rfl, rfl, rfl, ?_⟩
  rintro ⟨controller, _, _, rc, _, made⟩
  contradiction

end SysTweak.Vcon
