import SysTweak.Vcon.Packet

/-!
# Virtual controllers

`VirtualController` of `virtual_controller.cpp`.  A method is a function from
the object, and from what the libnx calls it makes return, to the object
afterwards, its result code and the calls in order.
-/

namespace SysTweak.Vcon

open SysTweak.Platform

/-- The data members of `VirtualController`. -/
structure VirtualController where
  hidDeviceInfo : HiddbgHdlsDeviceInfo
  hidState : HiddbgHdlsState
  hdlsHandle : BitVec 64
  clientTick : BitVec 64
  lastUpdateTick : BitVec 64
  deriving DecidableEq

/-- What `hiddbgAttachHdlsVirtualDevice` returns. -/
structure AttachReply where
  rc : Result
  handle : BitVec 64
  deriving DecidableEq

/-- What the libnx calls of one `FlushState` return, had they all been made. -/
structure FlushReplies where
  isAttachedRc : Result
  attached : Bool
  reattach : AttachReply
  setStateRc : Result
  deriving DecidableEq

/-- `R_FAILED(rc) || !attached`: the device was not reported attached. -/
def FlushReplies.lost (replies : FlushReplies) : Bool :=
  replies.isAttachedRc.failed || !replies.attached

/-- The device is attached and takes the state. -/
def FlushReplies.fine : FlushReplies :=
  ⟨0, true, ⟨0, 0⟩, 0⟩

/-- The outcome of a method: result code, object, calls made. -/
structure Effect where
  rc : Result
  this : VirtualController
  calls : List HdlsCall
  deriving DecidableEq

/-- The `_UPDATE_BUTTON` lines of `SetState`, in order. -/
def buttonUpdates : List (ControllerPacketKey × HidNpadButton) :=
  [(.a, .a), (.b, .b), (.select, .minus), (.start, .plus), (.dright, .right),
    (.dleft, .left), (.dup, .up), (.ddown, .down), (.r, .r), (.l, .l), (.x, .x),
    (.y, .y), (.lstick, .stickL), (.rstick, .stickR), (.zl, .zl), (.zr, .zr),
    (.capture, .hiddbgCapture), (.home, .hiddbgHome)]

section

variable (nx : Libnx)

/-- `hidState.buttons` after the `_UPDATE_BUTTON` lines. -/
def updateButtons (packet : ControllerPacket) : BitVec 64 :=
  buttonUpdates.foldl
    (fun buttons (key, button) =>
      if packet.has key then buttons ||| nx.hidNpadButton button else buttons)
    0

/-- The three divisions that fill a six-axis vector. -/
def scaledVector (vector : ControllerPacketHidVector) : HidVector where
  x := nx.scaleVector vector.x
  y := nx.scaleVector vector.y
  z := nx.scaleVector vector.z

/-- The assignments `SetState` makes to `hidState` for an accepted packet. -/
def applyPacket (hidState : HiddbgHdlsState) (packet : ControllerPacket) :
    HiddbgHdlsState where
  batteryLevel := 4
  buttons := updateButtons nx packet
  analogStickL := packet.leftStick
  analogStickR := packet.rightStick
  sixAxisSensorAcceleration :=
    if packet.attributes &&& nx.hasVirtualSixAxisSensorAcceleration != 0 then
      scaledVector nx packet.accel
    else hidState.sixAxisSensorAcceleration
  sixAxisSensorAngle :=
    if packet.attributes &&& nx.hasVirtualSixAxisSensorAngle != 0 then
      scaledVector nx packet.angle
    else hidState.sixAxisSensorAngle
  attributeBits := packet.attributes &&&
    (nx.hasVirtualSixAxisSensorAcceleration ||| nx.hasVirtualSixAxisSensorAngle)

namespace VirtualController

/-- `VirtualController::VirtualController`, with the tick the constructor
reads. -/
def create (tick : BitVec 64) : VirtualController where
  hidDeviceInfo :=
    { deviceType := nx.hidDeviceTypeFullKey3
      npadInterfaceType := nx.hidNpadInterfaceTypeBluetooth
      singleColorBody := 0xFF735A01
      singleColorButtons := 0xFF000000
      colorLeftGrip := 0xFF464646
      colorRightGrip := 0xFF464646 }
  hidState := .zero
  hdlsHandle := 0
  clientTick := 0
  lastUpdateTick := tick

/-- `VirtualController::Inactive`, with the tick it reads. -/
def inactive (this : VirtualController) (now : BitVec 64) : Bool :=
  nx.armTicksToNs (now - this.lastUpdateTick) > 10000000000

/-- `VirtualController::SetState`, with the tick it reads. -/
def setState (this : VirtualController) (packet : ControllerPacket)
    (now : BitVec 64) : VirtualController :=
  if packet.tick < this.clientTick then this
  else
    { this with
      lastUpdateTick := now
      clientTick := packet.tick
      hidState := applyPacket nx this.hidState packet }

end VirtualController

end

namespace VirtualController

/-- `VirtualController::Connected`. -/
def connected (this : VirtualController) : Bool :=
  this.hdlsHandle != 0

/-- `VirtualController::Connect`.  The handle is cleared on every failure,
whatever the failed call left in it. -/
def connect (this : VirtualController) (reply : AttachReply) : Effect :=
  let attempt : Effect :=
    if this.connected then ⟨0, this, []⟩
    else
      ⟨reply.rc, { this with hdlsHandle := reply.handle },
        [.attachVirtualDevice this.hidDeviceInfo reply.rc reply.handle]⟩
  if attempt.rc.failed then
    { attempt with this := { attempt.this with hdlsHandle := 0 } }
  else attempt

/-- `VirtualController::Disconnect`, which reports no result. -/
def disconnect (this : VirtualController) : VirtualController × List HdlsCall :=
  if this.connected then
    ({ this with hdlsHandle := 0 }, [.detachVirtualDevice this.hdlsHandle])
  else (this, [])

/-- `VirtualController::FlushState`. -/
def flushState (this : VirtualController) (replies : FlushReplies) : Effect :=
  if !this.connected then ⟨0, this, []⟩
  else
    let asked : HdlsCall :=
      .isVirtualDeviceAttached this.hdlsHandle replies.isAttachedRc replies.attached
    let linked : Effect :=
      if replies.lost then
        let (detached, detachCalls) := this.disconnect
        let connecting := detached.connect replies.reattach
        { connecting with calls := asked :: detachCalls ++ connecting.calls }
      else ⟨replies.isAttachedRc, this, [asked]⟩
    if linked.rc.succeeded then
      ⟨replies.setStateRc, linked.this,
        linked.calls ++
          [.setState linked.this.hdlsHandle linked.this.hidState replies.setStateRc]⟩
    else linked

/-! ## What each method does -/

theorem connected_iff {this : VirtualController} :
    this.connected = true ↔ this.hdlsHandle ≠ 0 := by
  simp [connected]

theorem connected_eq_false_iff {this : VirtualController} :
    this.connected = false ↔ this.hdlsHandle = 0 := by
  simp [connected]

/-- `Connect` on a controller without a device makes exactly one attach call,
and keeps the handle it returned exactly when that call succeeded. -/
theorem connect_of_disconnected {this : VirtualController}
    (detached : this.hdlsHandle = 0) (reply : AttachReply) :
    this.connect reply =
      ⟨reply.rc,
        { this with hdlsHandle := if reply.rc.failed then 0 else reply.handle },
        [.attachVirtualDevice this.hidDeviceInfo reply.rc reply.handle]⟩ := by
  have notConnected : this.connected = false := connected_eq_false_iff.mpr detached
  by_cases failed : reply.rc.failed <;> simp [connect, notConnected, failed]

theorem disconnect_of_connected {this : VirtualController}
    (attached : this.hdlsHandle ≠ 0) :
    this.disconnect =
      ({ this with hdlsHandle := 0 }, [.detachVirtualDevice this.hdlsHandle]) := by
  rw [disconnect, if_pos (connected_iff.mpr attached)]

theorem disconnect_of_disconnected {this : VirtualController}
    (detached : this.hdlsHandle = 0) : this.disconnect = (this, []) := by
  rw [disconnect, connected_eq_false_iff.mpr detached]
  rfl

/-- Without a device `FlushState` does nothing and reports success. -/
theorem flushState_of_disconnected {this : VirtualController}
    (detached : this.hdlsHandle = 0) (replies : FlushReplies) :
    this.flushState replies = ⟨0, this, []⟩ := by
  rw [flushState, connected_eq_false_iff.mpr detached]
  rfl

/-- While the device is attached `FlushState` hands it the current state. -/
theorem flushState_of_attached {this : VirtualController} {replies : FlushReplies}
    (attached : this.hdlsHandle ≠ 0) (present : replies.lost = false) :
    this.flushState replies =
      ⟨replies.setStateRc, this,
        [.isVirtualDeviceAttached this.hdlsHandle replies.isAttachedRc replies.attached,
          .setState this.hdlsHandle this.hidState replies.setStateRc]⟩ := by
  have isConnected : this.connected = true := connected_iff.mpr attached
  have asked : replies.isAttachedRc.succeeded = true := by
    simpa [Result.failed_eq_not_succeeded] using
      (Bool.or_eq_false_iff.mp present).1
  simp [flushState, isConnected, present, asked]

/-- A device reported lost is replaced by a new one, which gets the state. -/
theorem flushState_of_reattached {this : VirtualController} {replies : FlushReplies}
    (attached : this.hdlsHandle ≠ 0)
    (lost : replies.lost = true)
    (replaced : replies.reattach.rc.succeeded = true) :
    this.flushState replies =
      ⟨replies.setStateRc, { this with hdlsHandle := replies.reattach.handle },
        [.isVirtualDeviceAttached this.hdlsHandle replies.isAttachedRc replies.attached,
          .detachVirtualDevice this.hdlsHandle,
          .attachVirtualDevice this.hidDeviceInfo replies.reattach.rc
            replies.reattach.handle,
          .setState replies.reattach.handle this.hidState replies.setStateRc]⟩ := by
  have isConnected : this.connected = true := connected_iff.mpr attached
  simp [flushState, isConnected, lost, disconnect_of_connected attached,
    connect_of_disconnected, Result.failed_eq_not_succeeded, replaced]

/-- When the replacement cannot be attached the controller is left without a
device and the failure is reported. -/
theorem flushState_of_lost {this : VirtualController} {replies : FlushReplies}
    (attached : this.hdlsHandle ≠ 0)
    (lost : replies.lost = true)
    (failed : replies.reattach.rc.succeeded = false) :
    this.flushState replies =
      ⟨replies.reattach.rc, { this with hdlsHandle := 0 },
        [.isVirtualDeviceAttached this.hdlsHandle replies.isAttachedRc replies.attached,
          .detachVirtualDevice this.hdlsHandle,
          .attachVirtualDevice this.hidDeviceInfo replies.reattach.rc
            replies.reattach.handle]⟩ := by
  have isConnected : this.connected = true := connected_iff.mpr attached
  simp [flushState, isConnected, lost, disconnect_of_connected attached,
    connect_of_disconnected, Result.failed_eq_not_succeeded, failed]

/-- The four ways one `FlushState` can go. -/
theorem flushState_cases (this : VirtualController) (replies : FlushReplies) :
    this.hdlsHandle = 0 ∨
      (this.hdlsHandle ≠ 0 ∧ replies.lost = false) ∨
      (this.hdlsHandle ≠ 0 ∧ replies.lost = true ∧
        replies.reattach.rc.succeeded = true) ∨
      (this.hdlsHandle ≠ 0 ∧ replies.lost = true ∧
        replies.reattach.rc.succeeded = false) := by
  by_cases attached : this.hdlsHandle = 0
  · exact Or.inl attached
  · cases replies.lost with
    | false => exact Or.inr (Or.inl ⟨attached, rfl⟩)
    | true =>
        cases replies.reattach.rc.succeeded with
        | true => exact Or.inr (Or.inr (Or.inl ⟨attached, rfl, rfl⟩))
        | false => exact Or.inr (Or.inr (Or.inr ⟨attached, rfl, rfl⟩))

/-- Exactly when `FlushState` reports success. -/
theorem flushState_succeeded_iff (this : VirtualController) (replies : FlushReplies) :
    (this.flushState replies).rc.succeeded = true ↔
      this.hdlsHandle = 0 ∨
        ((replies.lost = true → replies.reattach.rc.succeeded = true) ∧
          replies.setStateRc.succeeded = true) := by
  rcases flushState_cases this replies with
    detached | ⟨attached, present⟩ | ⟨attached, lost, replaced⟩ |
      ⟨attached, lost, failed⟩
  · rw [flushState_of_disconnected detached, or_iff_left_of_imp fun _ => detached]
    exact iff_of_true rfl detached
  · rw [flushState_of_attached attached present, or_iff_right attached]
    simp [present]
  · rw [flushState_of_reattached attached lost replaced, or_iff_right attached]
    simp [replaced]
  · rw [flushState_of_lost attached lost failed, or_iff_right attached]
    simp [lost, failed]

/-- `FlushState` changes at most the device handle. -/
theorem flushState_this (this : VirtualController) (replies : FlushReplies) :
    (this.flushState replies).this =
      { this with hdlsHandle := (this.flushState replies).this.hdlsHandle } := by
  rcases flushState_cases this replies with
    detached | ⟨attached, present⟩ | ⟨attached, lost, replaced⟩ |
      ⟨attached, lost, failed⟩
  · rw [flushState_of_disconnected detached]
  · rw [flushState_of_attached attached present]
  · rw [flushState_of_reattached attached lost replaced]
  · rw [flushState_of_lost attached lost failed]

section

variable {nx : Libnx}

@[simp]
theorem setState_hdlsHandle (this : VirtualController) (packet : ControllerPacket)
    (now : BitVec 64) :
    (this.setState nx packet now).hdlsHandle = this.hdlsHandle := by
  unfold setState
  split <;> rfl

/-- A packet older than the newest accepted one changes nothing. -/
theorem setState_of_stale {this : VirtualController} {packet : ControllerPacket}
    (stale : packet.tick < this.clientTick) (now : BitVec 64) :
    this.setState nx packet now = this :=
  if_pos stale

theorem setState_of_accepted {this : VirtualController} {packet : ControllerPacket}
    (accepted : ¬packet.tick < this.clientTick) (now : BitVec 64) :
    this.setState nx packet now =
      { this with
        lastUpdateTick := now
        clientTick := packet.tick
        hidState := applyPacket nx this.hidState packet } :=
  if_neg accepted

end

end VirtualController

end SysTweak.Vcon
