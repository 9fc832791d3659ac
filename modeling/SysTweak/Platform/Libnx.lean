import Mathlib.Data.BitVec

/-!
# The platform interface

The sysmodule is linked against libnx, whose sources are not part of the
repository.  `Libnx` collects what the modelled code takes from it: the values
of the HID constants, the two tick conversions, and the single-precision
division applied to the six-axis readings.  Everything above is stated for an
arbitrary value of this structure.
-/

namespace SysTweak.Platform

/-- A result code; zero is success. -/
abbrev Result := BitVec 32

/-- `R_SUCCEEDED`. -/
def Result.succeeded (rc : Result) : Bool :=
  rc == 0

/-- `R_FAILED`. -/
def Result.failed (rc : Result) : Bool :=
  rc != 0

theorem Result.failed_eq_not_succeeded (rc : Result) :
    rc.failed = !rc.succeeded :=
  rfl

/-- The `HidNpadButton` and `HiddbgNpadButton` bits the source names. -/
inductive HidNpadButton
  | a | b | x | y | stickL | stickR | l | r | zl | zr | plus | minus
  | left | up | right | down
  | hiddbgHome | hiddbgCapture
  deriving DecidableEq

/-- The values and functions of libnx the modelled code depends on. -/
structure Libnx where
  /-- Bit mask of a button in `HidNpadSystemExtState` and `HiddbgHdlsState`. -/
  hidNpadButton : HidNpadButton → BitVec 64
  /-- `HidNpadStyleTag_NpadLucia`. -/
  hidNpadStyleTagNpadLucia : BitVec 32
  /-- `HidNpadAttribute_IsConnected`. -/
  hidNpadAttributeIsConnected : BitVec 32
  /-- `HidDeviceType_FullKey3`. -/
  hidDeviceTypeFullKey3 : BitVec 8
  /-- `HidNpadInterfaceType_Bluetooth`. -/
  hidNpadInterfaceTypeBluetooth : BitVec 8
  /-- `HiddbgHdlsAttribute_HasVirtualSixAxisSensorAcceleration`. -/
  hasVirtualSixAxisSensorAcceleration : BitVec 32
  /-- `HiddbgHdlsAttribute_HasVirtualSixAxisSensorAngle`. -/
  hasVirtualSixAxisSensorAngle : BitVec 32
  /-- `armTicksToNs`. -/
  armTicksToNs : BitVec 64 → BitVec 64
  /-- `armNsToTicks`. -/
  armNsToTicks : BitVec 64 → BitVec 64
  /-- `((float)v) / CONTROLLER_PACKET_VECTOR_PRECISION` as a bit pattern. -/
  scaleVector : BitVec 32 → BitVec 32

/-- `HidAnalogStickState`. -/
structure HidAnalogStickState where
  x : BitVec 32
  y : BitVec 32
  deriving DecidableEq

/-- `HidVector`; each component is the bit pattern of a float. -/
structure HidVector where
  x : BitVec 32
  y : BitVec 32
  z : BitVec 32
  deriving DecidableEq

/-- The fields of `HiddbgHdlsDeviceInfo` the source sets. -/
structure HiddbgHdlsDeviceInfo where
  deviceType : BitVec 8
  npadInterfaceType : BitVec 8
  singleColorBody : BitVec 32
  singleColorButtons : BitVec 32
  colorLeftGrip : BitVec 32
  colorRightGrip : BitVec 32
  deriving DecidableEq

/-- The fields of `HiddbgHdlsState` the source writes after clearing it. -/
structure HiddbgHdlsState where
  batteryLevel : BitVec 32
  buttons : BitVec 64
  analogStickL : HidAnalogStickState
  analogStickR : HidAnalogStickState
  sixAxisSensorAcceleration : HidVector
  sixAxisSensorAngle : HidVector
  attributeBits : BitVec 32
  deriving DecidableEq

/-- `memset(&state, 0, sizeof(state))`. -/
def HiddbgHdlsState.zero : HiddbgHdlsState where
  batteryLevel := 0
  buttons := 0
  analogStickL := ⟨0, 0⟩
  analogStickR := ⟨0, 0⟩
  sixAxisSensorAcceleration := ⟨0, 0, 0⟩
  sixAxisSensorAngle := ⟨0, 0, 0⟩
  attributeBits := 0

/-- The libnx calls the virtual controllers make, with what they returned. -/
inductive HdlsCall
  /-- `hiddbgAttachHdlsVirtualDevice(&handle, &info)`. -/
  | attachVirtualDevice (info : HiddbgHdlsDeviceInfo) (rc : Result) (handle : BitVec 64)
  /-- `hiddbgDetachHdlsVirtualDevice(handle)`. -/
  | detachVirtualDevice (handle : BitVec 64)
  /-- `hiddbgIsHdlsVirtualDeviceAttached(session, handle, &attached)`. -/
  | isVirtualDeviceAttached (handle : BitVec 64) (rc : Result) (attached : Bool)
  /-- `hiddbgSetHdlsState(handle, &state)`. -/
  | setState (handle : BitVec 64) (state : HiddbgHdlsState) (rc : Result)
  deriving DecidableEq

/-- libnx as the console has it.  The tick counter runs at 19.2 MHz, so a tick
is 625/12 ns.  The six-axis scaling is only given at zero readings. -/
def Libnx.console : Libnx where
  hidNpadButton
    | .a => 0x1
    | .b => 0x2
    | .x => 0x4
    | .y => 0x8
    | .stickL => 0x10
    | .stickR => 0x20
    | .l => 0x40
    | .r => 0x80
    | .zl => 0x100
    | .zr => 0x200
    | .plus => 0x400
    | .minus => 0x800
    | .left => 0x1000
    | .up => 0x2000
    | .right => 0x4000
    | .down => 0x8000
    | .hiddbgHome => 0x40000
    | .hiddbgCapture => 0x80000
  hidNpadStyleTagNpadLucia := 0x200
  hidNpadAttributeIsConnected := 0x1
  hidDeviceTypeFullKey3 := 3
  hidNpadInterfaceTypeBluetooth := 1
  hasVirtualSixAxisSensorAcceleration := 0x1
  hasVirtualSixAxisSensorAngle := 0x2
  armTicksToNs ticks := ticks * 625 / 12
  armNsToTicks ns := ns * 12 / 625
  scaleVector _ := 0

end SysTweak.Platform
