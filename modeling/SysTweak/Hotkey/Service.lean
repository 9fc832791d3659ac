import SysTweak.Platform.Libnx
import SysTweak.Transition.Cells

/-!
# The hotkey service

`HotkeyService` of `hotkey_service.cpp`: the combinations, the cache that times
them, and `PollHidStates`, which reads the four pads and issues the actions.
-/

namespace SysTweak.Hotkey

open SysTweak.Platform
open SysTweak.Transition

/-- `HotkeyType`. -/
inductive HotkeyType
  | capture | home | custom
  deriving DecidableEq

/-- The types in the order of the loop in `ProcessHidState`. -/
def HotkeyType.all : List HotkeyType :=
  [.capture, .home, .custom]

/-- The index of a pad in `g_npad_types` and in `hotkeyCache`. -/
abbrev Pad := Fin 4

/-- `HotkeyCacheCombo`; a `tick` of 0 means that the combination is not held. -/
structure HotkeyCacheCombo where
  tick : BitVec 64
  longPressed : Bool
  deriving DecidableEq

/-- `HotkeyCache`. -/
abbrev HotkeyCache := HotkeyType → HotkeyCacheCombo

/-- `hotkeyCache` after the constructor's `memset`. -/
def zeroedCache : Pad → HotkeyCache :=
  fun _ _ => ⟨0, false⟩

/-- What one poll reads of a pad. -/
structure PadReading where
  npadStatesCount : Nat
  attributeBits : BitVec 32
  buttons : BitVec 64
  styleSet : BitVec 32
  tick : BitVec 64

/-- A call of `Action`, with the pad it was issued for. -/
structure HotkeyAction where
  pad : Pad
  type : HotkeyType
  longPressed : Bool
  deriving DecidableEq

section

variable (nx : Libnx)

/-- `HotkeyService::ComboPressed`. -/
def comboPressed (type : HotkeyType) (deviceType : BitVec 32) (buttons : BitVec 64) :
    Bool :=
  let lucia := deviceType &&& nx.hidNpadStyleTagNpadLucia != 0
  let held := fun button => buttons &&& nx.hidNpadButton button != 0
  match type with
  | .capture => if lucia then held .zl && held .l else false
  | .home => if lucia then held .zr && held .r else false
  | .custom => if lucia then held .zl && held .zr else held .stickL && held .stickR

/-- `HotkeyService::ComboLongPressDuration`. -/
def comboLongPressDuration : HotkeyType → BitVec 64
  | .capture => nx.armNsToTicks 500000000
  | .home => nx.armNsToTicks 1000000000
  | .custom => nx.armNsToTicks 1000000000

end

/-- The body of the loop in `ProcessHidState`: the entry of one type afterwards,
and the `longPressed` argument of the `Action` call, if there is one. -/
def processCombo (duration : BitVec 64) (combo : HotkeyCacheCombo) (pressed : Bool)
    (tick : BitVec 64) : HotkeyCacheCombo × Option Bool :=
  if pressed then
    if combo.tick = 0 then ({ combo with tick := tick }, none)
    else if !combo.longPressed && tick - combo.tick > duration then
      ({ combo with longPressed := true }, some true)
    else (combo, none)
  else if combo.tick ≠ 0 then
    if combo.longPressed then (⟨0, false⟩, none)
    else ({ combo with tick := 0 }, some false)
  else (combo, none)

section

variable (nx : Libnx)

/-- `HotkeyService::ProcessHidState`, with the tick it reads. -/
def processHidState (pad : Pad) (cache : HotkeyCache) (deviceType : BitVec 32)
    (buttons tick : BitVec 64) : HotkeyCache × List HotkeyAction :=
  sweep
    (fun type combo =>
      let stepped :=
        processCombo (comboLongPressDuration nx type) combo
          (comboPressed nx type deviceType buttons) tick
      (stepped.1, (stepped.2.map (HotkeyAction.mk pad type)).toList))
    HotkeyType.all cache

/-- The state is valid and the pad is connected. -/
def connected (reading : PadReading) : Bool :=
  reading.npadStatesCount != 0 &&
    reading.attributeBits &&& nx.hidNpadAttributeIsConnected != 0

/-- What `PollHidStates` passes on as `deviceType`. -/
def deviceType (reading : PadReading) : BitVec 32 :=
  if connected nx reading then reading.styleSet else 0

/-- What `PollHidStates` passes on as `buttons`. -/
def buttons (reading : PadReading) : BitVec 64 :=
  if connected nx reading then reading.buttons else 0

/-- The body of the loop in `PollHidStates`. -/
def pollPad (readings : Pad → PadReading) (pad : Pad) (cache : HotkeyCache) :
    HotkeyCache × List HotkeyAction :=
  processHidState nx pad cache (deviceType nx (readings pad))
    (buttons nx (readings pad)) (readings pad).tick

/-- `HotkeyService::PollHidStates`. -/
def pollHidStates (cache : Pad → HotkeyCache) (readings : Pad → PadReading) :
    (Pad → HotkeyCache) × List HotkeyAction :=
  sweep (pollPad nx readings) (List.finRange 4) cache

/-- The calls of `Action` that each of a sequence of polls makes. -/
def actionTrace : (Pad → HotkeyCache) → List (Pad → PadReading) → List (List HotkeyAction)
  | _, [] => []
  | cache, readings :: polls =>
      let polled := pollHidStates nx cache readings
      polled.2 :: actionTrace polled.1 polls

end

end SysTweak.Hotkey
