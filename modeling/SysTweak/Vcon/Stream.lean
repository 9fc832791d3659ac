import SysTweak.Register.Records
import SysTweak.Vcon.Controller

/-!
# Streams of packets

What a new controller holds after any stream of packets.  `SetState` acts on the
records of the ticks: most of the state is that of the last packet with the greatest
tick, and each six-axis vector is that of the last record that carries it.
-/

namespace SysTweak.Vcon

open SysTweak.Platform
open SysTweak.Register

/-- A packet handed to `SetState`, with the tick `SetState` reads. -/
structure Arrival where
  packet : ControllerPacket
  now : BitVec 64
  deriving DecidableEq

/-- What arrivals are compared on. -/
def Arrival.stamp (arrival : Arrival) : Nat :=
  arrival.packet.tick.toNat

section

variable (nx : Libnx)

/-- The packet carries an acceleration. -/
def Arrival.HasAcceleration (arrival : Arrival) : Prop :=
  arrival.packet.attributes &&& nx.hasVirtualSixAxisSensorAcceleration ≠ 0

instance : DecidablePred (Arrival.HasAcceleration nx) :=
  fun _ => inferInstanceAs (Decidable (_ ≠ _))

/-- The packet carries an angle. -/
def Arrival.HasAngle (arrival : Arrival) : Prop :=
  arrival.packet.attributes &&& nx.hasVirtualSixAxisSensorAngle ≠ 0

instance : DecidablePred (Arrival.HasAngle nx) :=
  fun _ => inferInstanceAs (Decidable (_ ≠ _))

namespace VirtualController

/-- `SetState` for each packet in turn. -/
def setStates (this : VirtualController) (arrivals : List Arrival) : VirtualController :=
  arrivals.foldl (fun this arrival => this.setState nx arrival.packet arrival.now) this

/-- What `SetState` does with a packet that is not stale. -/
def accept (this : VirtualController) (arrival : Arrival) : VirtualController :=
  { this with
    lastUpdateTick := arrival.now
    clientTick := arrival.packet.tick
    hidState := applyPacket nx this.hidState arrival.packet }

end VirtualController

/-- The controller is in the state that a stream of packets, not empty, leaves a new
controller in. -/
structure HoldsStream (arrivals : List Arrival) (this : VirtualController) : Prop where
  /-- The greatest tick of the stream. -/
  clientTick : (∃ arrival ∈ arrivals, arrival.packet.tick = this.clientTick) ∧
    ∀ arrival ∈ arrivals, arrival.packet.tick ≤ this.clientTick
  /-- The newest packet gives the buttons, the sticks and the attributes. -/
  newest : ∃ newest, newestOf Arrival.stamp arrivals = some newest ∧
    (∀ bit, this.hidState.buttons.getLsbD bit = true ↔
      ∃ update ∈ buttonUpdates, newest.packet.has update.1 = true ∧
        (nx.hidNpadButton update.2).getLsbD bit = true) ∧
      this.hidState.analogStickL = newest.packet.leftStick ∧
      this.hidState.analogStickR = newest.packet.rightStick ∧
      this.hidState.attributeBits = newest.packet.attributes &&&
        (nx.hasVirtualSixAxisSensorAcceleration ||| nx.hasVirtualSixAxisSensorAngle)
  batteryLevel : this.hidState.batteryLevel = 4
  /-- The last record with an acceleration gives the acceleration. -/
  acceleration : this.hidState.sixAxisSensorAcceleration =
    ((records Arrival.stamp arrivals).filter (Arrival.HasAcceleration nx)).getLast?.elim
      ⟨0, 0, 0⟩ fun arrival => scaledVector nx arrival.packet.accel
  /-- The last record with an angle gives the angle. -/
  angle : this.hidState.sixAxisSensorAngle =
    ((records Arrival.stamp arrivals).filter (Arrival.HasAngle nx)).getLast?.elim
      ⟨0, 0, 0⟩ fun arrival => scaledVector nx arrival.packet.angle
  /-- The clock reading at the last record. -/
  lastUpdateTick : ∃ last, (records Arrival.stamp arrivals).getLast? = some last ∧
    this.lastUpdateTick = last.now

end

section

variable {nx : Libnx}

/-- The buttons have the bits of the masks of the mapped keys that are pressed. -/
theorem foldl_buttons_getLsbD (updates : List (ControllerPacketKey × HidNpadButton))
    (packet : ControllerPacket) (buttons : BitVec 64) (bit : Nat) :
    (updates.foldl
        (fun buttons (key, button) =>
          if packet.has key then buttons ||| nx.hidNpadButton button else buttons)
        buttons).getLsbD bit = true ↔
      buttons.getLsbD bit = true ∨
        ∃ update ∈ updates, packet.has update.1 = true ∧
          (nx.hidNpadButton update.2).getLsbD bit = true := by
  induction updates generalizing buttons with
  | nil => simp
  | cons update updates ih =>
      rw [List.foldl_cons, ih]
      by_cases pressed : packet.has update.1 = true
      · simp [pressed, or_assoc]
      · simp [pressed]

theorem updateButtons_getLsbD (packet : ControllerPacket) (bit : Nat) :
    (updateButtons nx packet).getLsbD bit = true ↔
      ∃ update ∈ buttonUpdates, packet.has update.1 = true ∧
        (nx.hidNpadButton update.2).getLsbD bit = true := by
  rw [updateButtons, foldl_buttons_getLsbD]
  simp

example : buttonUpdates.length = 18 ∧ .exit ∉ buttonUpdates.map Prod.fst := by decide

namespace VirtualController

/-- The packets that are not stale are the records. -/
theorem setStates_create (tick : BitVec 64) (arrivals : List Arrival) :
    (create nx tick).setStates nx arrivals =
      (records Arrival.stamp arrivals).foldl (accept nx) (create nx tick) := by
  have raises : ∀ (this : VirtualController) arrival,
      (this.accept nx arrival).clientTick.toNat = arrival.stamp := fun _ _ => rfl
  have lowest : ∀ arrival, (create nx tick).clientTick.toNat ≤ Arrival.stamp arrival :=
    fun arrival => Nat.zero_le arrival.stamp
  have gated :=
    foldl_gated (fun this : VirtualController => this.clientTick.toNat) raises lowest arrivals
  rw [← gated]
  rfl

variable (nx) (this : VirtualController) (arrivals : List Arrival)

/-- An acceptance keeps the acceleration or overwrites it. -/
theorem foldl_accept_acceleration :
    (arrivals.foldl (accept nx) this).hidState.sixAxisSensorAcceleration =
      (arrivals.filter (Arrival.HasAcceleration nx)).getLast?.elim
        this.hidState.sixAxisSensorAcceleration
        fun arrival => scaledVector nx arrival.packet.accel := by
  rw [← foldl_overwrite]
  symm
  apply List.foldl_hom fun this : VirtualController => this.hidState.sixAxisSensorAcceleration
  intro this arrival
  simp only [accept, applyPacket, Arrival.HasAcceleration, bne_iff_ne]
  congr

/-- An acceptance keeps the angle or overwrites it. -/
theorem foldl_accept_angle :
    (arrivals.foldl (accept nx) this).hidState.sixAxisSensorAngle =
      (arrivals.filter (Arrival.HasAngle nx)).getLast?.elim
        this.hidState.sixAxisSensorAngle
        fun arrival => scaledVector nx arrival.packet.angle := by
  rw [← foldl_overwrite]
  symm
  apply List.foldl_hom fun this : VirtualController => this.hidState.sixAxisSensorAngle
  intro this arrival
  simp only [accept, applyPacket, Arrival.HasAngle, bne_iff_ne]
  congr

/-- What the last acceptance wrote is still there. -/
theorem exists_foldl_accept_eq {arrivals : List Arrival} {last : Arrival}
    (ends : arrivals.getLast? = some last) :
    ∃ before : VirtualController,
      arrivals.foldl (accept nx) this = before.accept nx last := by
  rcases List.getLast?_eq_some_iff.mp ends with ⟨earlier, rfl⟩
  exact ⟨earlier.foldl (accept nx) this, List.foldl_append⟩

end VirtualController

/-- A reading, a late packet, and two packets with one tick. -/
def reordered : List Arrival :=
  [⟨{ ControllerPacket.neutral 5 0x1 with attributes := 0x1, accel := ⟨1, 2, 3⟩ }, 100⟩,
    ⟨{ ControllerPacket.neutral 3 0x2 with attributes := 0x2, angle := ⟨4, 5, 6⟩ }, 101⟩,
    ⟨ControllerPacket.neutral 7 0x4, 102⟩, ⟨ControllerPacket.neutral 7 0x20008, 103⟩]

end

end SysTweak.Vcon
