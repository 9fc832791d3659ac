import SysTweak.Hotkey.Combo

/-!
# The action trace of the poller

Every pad and type is timed by itself: the polls are a stream for each of them,
and the actions of a poll are those of the pads and, within a pad, of the types.
-/

namespace SysTweak.Hotkey

open SysTweak.Platform
open SysTweak.Transition

theorem HotkeyType.all_nodup : HotkeyType.all.Nodup := by
  decide

theorem HotkeyType.mem_all (type : HotkeyType) : type ∈ HotkeyType.all := by
  cases type <;> decide

section

variable (nx : Libnx) (polls : List (Pad → PadReading)) (pad : Pad)

/-- `ComboPressed` for what a poll reads of a pad. -/
def pressedIn (type : HotkeyType) (reading : PadReading) : Bool :=
  comboPressed nx type (deviceType nx reading) (buttons nx reading)

/-- Whether the combination is pressed at poll `n`. -/
def pressedAt (type : HotkeyType) (n : Nat) : Bool :=
  (polls[n]?).any fun readings => pressedIn nx type (readings pad)

/-- The tick of poll `n`. -/
def tickAt (n : Nat) : BitVec 64 :=
  (polls[n]?).elim 0 fun readings => (readings pad).tick

/-- What is issued at poll `n`. -/
def issued (type : HotkeyType) : Nat → Option Bool :=
  issuedAt (comboLongPressDuration nx type) (pressedAt nx polls pad type) (tickAt polls pad)

/-- The loop body of `ProcessHidState` for what a poll reads of a pad. -/
def pollType (readings : Pad → PadReading) (type : HotkeyType)
    (combo : HotkeyCacheCombo) : HotkeyCacheCombo × List HotkeyAction :=
  let stepped :=
    processCombo (comboLongPressDuration nx type) combo
      (pressedIn nx type (readings pad)) (readings pad).tick
  (stepped.1, (stepped.2.map (HotkeyAction.mk pad type)).toList)

end

/-- The calls of `Action`, in the order of the pads and then of the types. -/
def inOrder (actions : Pad → HotkeyType → Option Bool) : List HotkeyAction :=
  (List.finRange 4).flatMap fun pad =>
    HotkeyType.all.flatMap fun type =>
      ((actions pad type).map (HotkeyAction.mk pad type)).toList

section

variable {nx : Libnx} {polls : List (Pad → PadReading)}

theorem pollPad_eq_sweep (readings : Pad → PadReading) (pad : Pad) :
    pollPad nx readings pad = sweep (pollType nx pad readings) HotkeyType.all :=
  rfl

theorem pressedAt_of_getElem? {n : Nat} {readings : Pad → PadReading}
    (here : polls[n]? = some readings) (pad : Pad) (type : HotkeyType) :
    pressedAt nx polls pad type n = pressedIn nx type (readings pad) := by
  rw [pressedAt, here, Option.any_some]

theorem tickAt_of_getElem? {n : Nat} {readings : Pad → PadReading}
    (here : polls[n]? = some readings) (pad : Pad) :
    tickAt polls pad n = (readings pad).tick := by
  rw [tickAt, here, Option.elim_some]

/-- The entry of a pad and type after the first polls is the one its stream leads
to. -/
theorem cellAfter_pollType (pad : Pad) (type : HotkeyType) {n : Nat}
    (within : n ≤ polls.length) :
    cellAfter (fun readings => pollType nx pad readings) type (zeroedCache pad type)
        (polls.take n) =
      comboAt (comboLongPressDuration nx type) (pressedAt nx polls pad type)
        (tickAt polls pad) n := by
  induction n with
  | zero => rfl
  | succ n ih =>
      have here := List.getElem?_eq_getElem within
      rw [cellAfter_take_succ _ _ _ here, ih (Nat.le_of_succ_le within), comboAt,
        pressedAt_of_getElem? here, tickAt_of_getElem? here]
      rfl

theorem cellAfter_pollPad (pad : Pad) (type : HotkeyType) {n : Nat}
    (within : n ≤ polls.length) :
    cellAfter (pollPad nx) pad (zeroedCache pad) (polls.take n) type =
      comboAt (comboLongPressDuration nx type) (pressedAt nx polls pad type)
        (tickAt polls pad) n := by
  rw [← cellAfter_pollType pad type within]
  exact cellAfter_sweep (fun readings pad => pollType nx pad readings)
    HotkeyType.all_nodup type.mem_all pad (zeroedCache pad) (polls.take n)

/-- The calls one poll makes for a pad are those of its types, in order. -/
theorem pollPad_actions (pad : Pad) {n : Nat} {readings : Pad → PadReading}
    (here : polls[n]? = some readings) :
    (pollPad nx readings pad
        (cellAfter (pollPad nx) pad (zeroedCache pad) (polls.take n))).2 =
      HotkeyType.all.flatMap fun type =>
        ((issued nx polls pad type n).map (HotkeyAction.mk pad type)).toList := by
  have within : n < polls.length := (List.getElem?_eq_some_iff.mp here).1
  rw [pollPad_eq_sweep, sweep_eq _ HotkeyType.all_nodup]
  have same : ∀ type ∈ HotkeyType.all,
      (pollType nx pad readings type
          (cellAfter (pollPad nx) pad (zeroedCache pad) (polls.take n) type)).2 =
        ((issued nx polls pad type n).map (HotkeyAction.mk pad type)).toList := by
    intro type _
    rw [cellAfter_pollPad pad type (Nat.le_of_lt within), issued, issuedAt,
      pressedAt_of_getElem? here, tickAt_of_getElem? here]
    rfl
  exact List.flatMap_congr same

theorem actionTrace_eq_rounds (cache : Pad → HotkeyCache) :
    actionTrace nx cache polls = rounds (pollPad nx) (List.finRange 4) cache polls := by
  induction polls generalizing cache with
  | nil => rfl
  | cons readings polls ih => exact congrArg (List.cons _) (ih _)

/-- A poll issues the actions of the streams, in order. -/
theorem actionTrace_eq :
    actionTrace nx zeroedCache polls =
      (List.range polls.length).map fun n =>
        inOrder fun pad type => issued nx polls pad type n := by
  apply List.ext_getElem?
  intro n
  rw [actionTrace_eq_rounds, rounds_getElem? _ (List.nodup_finRange 4) (List.mem_finRange)]
  cases here : polls[n]? with
  | none =>
      have past : polls.length ≤ n := List.getElem?_eq_none_iff.mp here
      simp [past]
  | some readings =>
      have within : n < polls.length := (List.getElem?_eq_some_iff.mp here).1
      simp only [Option.map_some, List.getElem?_map, List.getElem?_range within, inOrder,
        Option.some.injEq]
      apply List.flatMap_congr
      intro pad _
      exact pollPad_actions pad here

theorem tickAt_ne_zero (running : ∀ readings ∈ polls, ∀ pad, (readings pad).tick ≠ 0)
    (pad : Pad) {n : Nat} (within : n < polls.length) : tickAt polls pad n ≠ 0 := by
  rw [tickAt_of_getElem? (List.getElem?_eq_getElem within)]
  exact running _ (List.getElem_mem within) pad

/-- The polls issue, for every pad and type, exactly the action trace of the
combination, and within a poll in the order of the pads and then of the types. -/
theorem pollHidStates_traced (nx : Libnx) (polls : List (Pad → PadReading))
    (running : ∀ readings ∈ polls, ∀ pad, (readings pad).tick ≠ 0) :
    ∃ actions : Pad → HotkeyType → Nat → Option Bool,
      actionTrace nx zeroedCache polls =
          (List.range polls.length).map (fun n =>
            inOrder fun pad type => actions pad type n) ∧
        ∀ pad type,
          Traced (comboLongPressDuration nx type) (pressedAt nx polls pad type)
            (tickAt polls pad) polls.length (actions pad type) :=
  ⟨issued nx polls, actionTrace_eq, fun pad _ =>
    issuedAt_traced fun _ within => tickAt_ne_zero running pad within⟩

end

/-- A pad without Lucia buttons that is connected and has both sticks pressed in, or
none. -/
def stickReading (held : Bool) (tick : BitVec 64) : PadReading where
  npadStatesCount := 1
  attributeBits := 0x1
  buttons := if held then 0x30 else 0
  styleSet := 0x1
  tick := tick

/-- The sticks of every pad are held for a second, let go, tapped and let go. -/
def stickPolls : List (Pad → PadReading) :=
  [fun _ => stickReading true 5, fun _ => stickReading true 100,
    fun _ => stickReading true 19200006, fun _ => stickReading false 19200100,
    fun _ => stickReading true 19200200, fun _ => stickReading false 19200300]

theorem pollHidStates_traced_stickPolls :
    actionTrace Libnx.console zeroedCache stickPolls =
        [[], [],
          [⟨0, .custom, true⟩, ⟨1, .custom, true⟩, ⟨2, .custom, true⟩, ⟨3, .custom, true⟩],
          [], [],
          [⟨0, .custom, false⟩, ⟨1, .custom, false⟩, ⟨2, .custom, false⟩,
            ⟨3, .custom, false⟩]] ∧
      ∃ actions : Pad → HotkeyType → Nat → Option Bool,
        actionTrace Libnx.console zeroedCache stickPolls =
            (List.range stickPolls.length).map (fun n =>
              inOrder fun pad type => actions pad type n) ∧
          ∀ pad type,
            Traced (comboLongPressDuration Libnx.console type)
              (pressedAt Libnx.console stickPolls pad type) (tickAt stickPolls pad)
              stickPolls.length (actions pad type) :=
  ⟨by decide, pollHidStates_traced Libnx.console stickPolls (by
    simp [stickPolls, stickReading])⟩

end SysTweak.Hotkey
