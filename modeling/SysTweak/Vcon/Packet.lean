import SysTweak.Layout.Struct
import SysTweak.Platform.Libnx

/-!
# Controller packets

The datagram format of `controller_packet.h`, and what `recvfrom` hands to the
server for one call.
-/

namespace SysTweak.Vcon

open SysTweak.Layout
open SysTweak.Platform

/-- `CONTROLLER_PACKET_MAGIC`. -/
def controllerPacketMagic : BitVec 32 :=
  0x33434333

/-- The `CONTROLLER_PACKET_KEY_*` enumeration. -/
inductive ControllerPacketKey
  | a | b | select | start | dright | dleft | dup | ddown | r | l | x | y
  | lstick | rstick | zl | zr | exit | capture | home
  deriving DecidableEq

/-- The `BIT(n)` of a key; bit 16 is not assigned. -/
def ControllerPacketKey.mask : ControllerPacketKey → BitVec 32
  | .a => 1 <<< 0
  | .b => 1 <<< 1
  | .select => 1 <<< 2
  | .start => 1 <<< 3
  | .dright => 1 <<< 4
  | .dleft => 1 <<< 5
  | .dup => 1 <<< 6
  | .ddown => 1 <<< 7
  | .r => 1 <<< 8
  | .l => 1 <<< 9
  | .x => 1 <<< 10
  | .y => 1 <<< 11
  | .lstick => 1 <<< 12
  | .rstick => 1 <<< 13
  | .zl => 1 <<< 14
  | .zr => 1 <<< 15
  | .exit => 1 <<< 17
  | .capture => 1 <<< 18
  | .home => 1 <<< 19

/-- `ControllerPacketHidVector`; the components are signed. -/
structure ControllerPacketHidVector where
  x : BitVec 32
  y : BitVec 32
  z : BitVec 32
  deriving DecidableEq

/-- `ControllerPacket`. -/
structure ControllerPacket where
  magic : BitVec 32
  tick : BitVec 64
  buttons : BitVec 32
  attributes : BitVec 32
  leftStick : HidAnalogStickState
  rightStick : HidAnalogStickState
  accel : ControllerPacketHidVector
  angle : ControllerPacketHidVector
  deriving DecidableEq

namespace ControllerPacket

/-- The members of `ControllerPacket`, in declaration order. -/
def members : List CType :=
  let stick := struct [.int 4, .int 4]
  let vector := struct [.int 4, .int 4, .int 4]
  [.int 4, .int 8, .int 4, .int 4, stick, stick, vector, vector]

/-- `sizeof(ControllerPacket)`. -/
def size : Nat :=
  (struct members).size

example : size = 64 := rfl

/-- `packet.buttons & (mask of key)` is non-zero. -/
def has (packet : ControllerPacket) (key : ControllerPacketKey) : Bool :=
  packet.buttons &&& key.mask != 0

/-- The EXIT flag of a packet. -/
def exit (packet : ControllerPacket) : Bool :=
  packet.has .exit

/-- A packet with centred sticks and no motion data. -/
def neutral (tick : BitVec 64) (buttons : BitVec 32) : ControllerPacket where
  magic := controllerPacketMagic
  tick := tick
  buttons := buttons
  attributes := 0
  leftStick := ⟨0, 0⟩
  rightStick := ⟨0, 0⟩
  accel := ⟨0, 0, 0⟩
  angle := ⟨0, 0, 0⟩

end ControllerPacket

/-- What one `recvfrom` call leaves behind: its return value, the packet
buffer, and the IPv4 source address.  A datagram longer than the buffer is cut
to it, so `count` is at most the size of a packet; a negative `count` is an
error. -/
structure Received where
  count : Int
  packet : ControllerPacket
  addr : BitVec 32
  deriving DecidableEq

/-- A datagram that holds exactly one packet. -/
def Received.whole (addr : BitVec 32) (packet : ControllerPacket) : Received :=
  ⟨ControllerPacket.size, packet, addr⟩

/-- The datagram passes the size and magic checks of `ReceiveMessages`. -/
def Received.Valid (received : Received) : Prop :=
  received.count = ControllerPacket.size ∧
    received.packet.magic = controllerPacketMagic

instance (received : Received) : Decidable received.Valid :=
  inferInstanceAs (Decidable (_ ∧ _))

end SysTweak.Vcon
