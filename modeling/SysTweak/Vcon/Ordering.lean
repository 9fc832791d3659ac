import SysTweak.Register.Latest
import SysTweak.Vcon.Worker

/-!
# Order of arrival

Among the state datagrams of one client the greatest tick wins, in whatever
order they arrive.  EXIT is handled before the tick is looked at, so it acts as
a reset: what a client's datagrams lead to is what a latest-message register
with resets holds.  This module relates the two and says exactly which orders of
arrival end like the order of the ticks.
-/

namespace SysTweak.Vcon

open SysTweak.Platform
open SysTweak.Register
open SysTweak.Transition

/-- What the order of arrival is compared on: the tick, the buttons, the sticks,
the attributes and each six-axis vector whose attribute bit is set. -/
structure Observation where
  clientTick : BitVec 64
  buttons : BitVec 64
  analogStickL : HidAnalogStickState
  analogStickR : HidAnalogStickState
  attributeBits : BitVec 32
  acceleration : Option HidVector
  angle : Option HidVector
  deriving DecidableEq

section

variable (nx : Libnx)

/-- What is observed of a controller. -/
def ControllerInput.observe (input : ControllerInput) : Observation where
  clientTick := input.clientTick
  buttons := input.hidState.buttons
  analogStickL := input.hidState.analogStickL
  analogStickR := input.hidState.analogStickR
  attributeBits := input.hidState.attributeBits
  acceleration :=
    if input.hidState.attributeBits &&& nx.hasVirtualSixAxisSensorAcceleration != 0 then
      some input.hidState.sixAxisSensorAcceleration
    else none
  angle :=
    if input.hidState.attributeBits &&& nx.hasVirtualSixAxisSensorAngle != 0 then
      some input.hidState.sixAxisSensorAngle
    else none

/-- What an accepted packet makes observable. -/
def ControllerPacket.shows (packet : ControllerPacket) : Observation where
  clientTick := packet.tick
  buttons := updateButtons nx packet
  analogStickL := packet.leftStick
  analogStickR := packet.rightStick
  attributeBits := packet.attributes &&&
    (nx.hasVirtualSixAxisSensorAcceleration ||| nx.hasVirtualSixAxisSensorAngle)
  acceleration :=
    if packet.attributes &&& nx.hasVirtualSixAxisSensorAcceleration != 0 then
      some (scaledVector nx packet.accel)
    else none
  angle :=
    if packet.attributes &&& nx.hasVirtualSixAxisSensorAngle != 0 then
      some (scaledVector nx packet.angle)
    else none

/-- What is observed at an address; nothing while it has no controller. -/
def VirtualControllerService.observe (service : VirtualControllerService)
    (addr : Addr) : Option Observation :=
  (service.session addr).map (ControllerInput.observe nx)

end

/-- The stamp a packet carries. -/
def ControllerPacket.stamp (packet : ControllerPacket) : Nat :=
  packet.tick.toNat

theorem and_or_and_left (bits first second : BitVec 32) :
    bits &&& (first ||| second) &&& first = bits &&& first := by
  ext index
  simp only [BitVec.getElem_and, BitVec.getElem_or]
  cases bits[index] <;> cases first[index] <;> cases second[index] <;> rfl

theorem and_or_and_right (bits first second : BitVec 32) :
    bits &&& (first ||| second) &&& second = bits &&& second := by
  rw [BitVec.or_comm, and_or_and_left]

/-- Applying a packet makes exactly what it shows observable: a six-axis vector
kept from before is not, as its attribute bit is then clear. -/
theorem observe_applyPacket (nx : Libnx) (hidState : HiddbgHdlsState)
    (packet : ControllerPacket) (now : BitVec 64) :
    ControllerInput.observe nx ⟨applyPacket nx hidState packet, packet.tick, now⟩ =
      packet.shows nx := by
  unfold ControllerInput.observe ControllerPacket.shows applyPacket
  simp only [and_or_and_left, and_or_and_right, Observation.mk.injEq, true_and]
  constructor
  · split <;> rfl
  · split <;> rfl

/-- A datagram of the client, with the replies to the calls it causes. -/
def datagram (addr : Addr) (entry : ControllerPacket × ReceiveReplies) : Event :=
  .receive (.whole addr entry.1) entry.2

theorem forAddr_datagram {addr : Addr} {entry : ControllerPacket × ReceiveReplies}
    (magic : entry.1.magic = controllerPacketMagic) :
    (datagram addr entry).forAddr addr =
      if entry.1.exit then some .exit else some (.state entry.1 entry.2.updateTick) :=
  if_pos ⟨rfl, rfl, magic⟩

/-! ## A session as a register -/

section

variable {nx : Libnx} {addr : Addr}

/-- A datagram does to what is observed what receiving its packet does to the
register. -/
theorem next_datagram_observe {session : Option ControllerInput}
    {held : Option ControllerPacket} {entry : ControllerPacket × ReceiveReplies}
    (magic : entry.1.magic = controllerPacketMagic)
    (shown : session.map (ControllerInput.observe nx) =
      held.map (ControllerPacket.shows nx)) :
    (Session.next nx addr session (datagram addr entry)).map
        (ControllerInput.observe nx) =
      (receive ControllerPacket.stamp ControllerPacket.exit held entry.1).map
        (ControllerPacket.shows nx) := by
  rw [Session.next, forAddr_datagram magic]
  cases exits : entry.1.exit with
  | true =>
      rw [receive_of_reset exits]
      cases session <;> rfl
  | false =>
      rw [if_neg Bool.false_ne_true]
      cases held with
      | none =>
          rw [Option.map_none, Option.map_eq_none_iff] at shown
          subst session
          rw [receive_none exits]
          exact congrArg some (observe_applyPacket nx _ _ _)
      | some packet =>
          rcases Option.map_eq_some_iff.mp shown with ⟨input, rfl, same⟩
          have tick : input.clientTick = packet.tick :=
            congrArg Observation.clientTick same
          have stale_iff : entry.1.tick < input.clientTick ↔
              entry.1.stamp < packet.stamp := by
            rw [tick]
            exact BitVec.lt_def
          simp only [Session.step]
          by_cases stale : entry.1.tick < input.clientTick
          · rw [if_pos stale, receive_some_of_lt exits (stale_iff.mp stale)]
            exact congrArg some same
          · rw [if_neg stale, receive_some_of_not_lt exits (fun older =>
              stale (stale_iff.mpr older))]
            exact congrArg some (observe_applyPacket nx _ _ _)

/-- The datagrams of a client lead to what the register holds after their
packets. -/
theorem foldl_datagram_observe {session : Option ControllerInput}
    {held : Option ControllerPacket} {arrival : List (ControllerPacket × ReceiveReplies)}
    (magic : ∀ entry ∈ arrival, entry.1.magic = controllerPacketMagic)
    (shown : session.map (ControllerInput.observe nx) =
      held.map (ControllerPacket.shows nx)) :
    ((arrival.map (datagram addr)).foldl (Session.next nx addr) session).map
        (ControllerInput.observe nx) =
      (replay ControllerPacket.stamp ControllerPacket.exit held
        (arrival.map Prod.fst)).map (ControllerPacket.shows nx) := by
  induction arrival generalizing session held with
  | nil => exact shown
  | cons entry arrival ih =>
      apply ih
      · intro later member
        exact magic later (List.mem_cons_of_mem _ member)
      · exact next_datagram_observe (magic entry List.mem_cons_self) shown

/-- The datagrams take the service from one state to the other. -/
def Ends (nx : Libnx) (service : VirtualControllerService) (addr : Addr)
    (arrival : List (ControllerPacket × ReceiveReplies))
    (target : VirtualControllerService) : Prop :=
  ∃ calls, Runs (serviceStep nx) service (arrival.map (datagram addr)) target calls

/-- The packet is one of ours, and a device can be attached for it. -/
def Acceptable (entry : ControllerPacket × ReceiveReplies) : Prop :=
  entry.1.magic = controllerPacketMagic ∧ entry.2.attach.rc.succeeded = true

theorem Ends.unique {service first second : VirtualControllerService}
    {arrival : List (ControllerPacket × ReceiveReplies)}
    (firstEnds : Ends nx service addr arrival first)
    (secondEnds : Ends nx service addr arrival second) : first = second := by
  rcases firstEnds with ⟨firstCalls, firstRan⟩
  rcases secondEnds with ⟨secondCalls, secondRan⟩
  exact (firstRan.deterministic secondRan).1

variable (nx addr) in
theorem exists_ends {service : VirtualControllerService} (owned : service.Owned)
    {arrival : List (ControllerPacket × ReceiveReplies)}
    (acceptable : ∀ entry ∈ arrival, Acceptable entry) :
    ∃ target, Ends nx service addr arrival target := by
  have goes : ∃ target calls,
      Runs (serviceStep nx) service (arrival.map (datagram addr)) target calls := by
    apply exists_runs_of_meets
    intro before event met
    apply (exists_serviceStep_iff (owned_of_reachable owned met.reachable) event).mpr
    rintro received replies rfl _ _
    rcases met with ⟨earlier, later, _, split, _⟩
    have member : Event.receive received replies ∈ arrival.map (datagram addr) := by
      rw [split]
      exact List.mem_append_right _ List.mem_cons_self
    rcases List.mem_map.mp member with ⟨entry, entryMem, same⟩
    cases same
    exact (acceptable entry entryMem).2
  rcases goes with ⟨target, calls, ran⟩
  exact ⟨target, calls, ran⟩

theorem Ends.observe {service target : VirtualControllerService} (owned : service.Owned)
    (absent : addr ∉ service.controllers)
    {arrival : List (ControllerPacket × ReceiveReplies)}
    (acceptable : ∀ entry ∈ arrival, Acceptable entry)
    (ends : Ends nx service addr arrival target) :
    target.observe nx addr =
      (replay ControllerPacket.stamp ControllerPacket.exit none
        (arrival.map Prod.fst)).map (ControllerPacket.shows nx) := by
  rcases ends with ⟨calls, ran⟩
  rw [VirtualControllerService.observe, session_eq_foldl_next owned ran,
    (owned.not_mem_iff_session addr).mp absent]
  apply foldl_datagram_observe
  · intro entry member
    exact (acceptable entry member).1
  · rfl

end

/-- With distinct ticks, what two registers show agrees exactly if they hold the
same packet. -/
theorem map_shows_eq_iff {nx : Libnx} {packets first second : List ControllerPacket}
    (distinct : packets.Pairwise fun first second => first.stamp < second.stamp)
    (firstPerm : packets.Perm first) (secondPerm : packets.Perm second) :
    (replay ControllerPacket.stamp ControllerPacket.exit none first).map
        (ControllerPacket.shows nx) =
      (replay ControllerPacket.stamp ControllerPacket.exit none second).map
        (ControllerPacket.shows nx) ↔
      replay ControllerPacket.stamp ControllerPacket.exit none first =
        replay ControllerPacket.stamp ControllerPacket.exit none second := by
  constructor
  · intro same
    cases held : replay ControllerPacket.stamp ControllerPacket.exit none first with
    | none =>
        rw [held, Option.map_none, eq_comm, Option.map_eq_none_iff] at same
        exact same.symm
    | some packet =>
        rw [held, Option.map_some, eq_comm, Option.map_eq_some_iff] at same
        rcases same with ⟨other, otherHeld, shown⟩
        have packetMem := firstPerm.mem_iff.mpr (mem_of_replay held).1
        have otherMem := secondPerm.mem_iff.mpr (mem_of_replay otherHeld).1
        have tick : other.stamp = packet.stamp :=
          congrArg (fun shown => shown.clientTick.toNat) shown
        have apart : packets.Pairwise fun first second => first.stamp ≠ second.stamp :=
          distinct.imp fun below => Nat.ne_of_lt below
        have symmetric : Std.Symm fun first second : ControllerPacket =>
            first.stamp ≠ second.stamp := ⟨fun _ _ apart => apart.symm⟩
        have equal : other = packet := by
          by_contra different
          exact apart.forall otherMem packetMem different tick
        rw [otherHeld, equal]
  · intro same
    rw [same]

/-! ## Arrival orders of a session -/

/-- From a state without a controller for the client, an order of arrival ends
like the order of the ticks exactly if it is arranged; and every order of arrival
of some datagrams does exactly if they are all EXIT or none of them is. -/
theorem arrival_order_iff_arranged (nx : Libnx) (fd : Int)
    {service : VirtualControllerService} {addr : Addr}
    (reached : Reachable (serviceStep nx) (listening fd) service)
    (absent : addr ∉ service.controllers)
    {inOrder : List (ControllerPacket × ReceiveReplies)}
    (acceptable : ∀ entry ∈ inOrder, Acceptable entry)
    (increasing : (inOrder.map Prod.fst).Pairwise fun first second =>
      first.tick < second.tick) :
    ∃ expected, Ends nx service addr inOrder expected ∧
      (∀ arrival, (∀ entry ∈ arrival, Acceptable entry) →
        (inOrder.map Prod.fst).Perm (arrival.map Prod.fst) →
        ∃ arrived, Ends nx service addr arrival arrived ∧
          (arrived.observe nx addr = expected.observe nx addr ↔
            Arranged ControllerPacket.stamp ControllerPacket.exit
              (arrival.map Prod.fst))) ∧
      ((∀ arrival arrived, (∀ entry ∈ arrival, Acceptable entry) →
          (inOrder.map Prod.fst).Perm (arrival.map Prod.fst) →
          Ends nx service addr arrival arrived →
          arrived.observe nx addr = expected.observe nx addr) ↔
        (∀ packet ∈ inOrder.map Prod.fst, packet.exit = false) ∨
          ∀ packet ∈ inOrder.map Prod.fst, packet.exit = true) := by
  have owned := owned_of_reachable (owned_listening fd) reached
  have distinct : (inOrder.map Prod.fst).Pairwise fun first second =>
      ControllerPacket.stamp first < ControllerPacket.stamp second :=
    increasing.imp fun below => BitVec.lt_def.mp below
  rcases exists_ends nx addr owned acceptable with ⟨expected, ends⟩
  have each : ∀ arrival, (∀ entry ∈ arrival, Acceptable entry) →
      (inOrder.map Prod.fst).Perm (arrival.map Prod.fst) →
      ∃ arrived, Ends nx service addr arrival arrived ∧
        (arrived.observe nx addr = expected.observe nx addr ↔
          Arranged ControllerPacket.stamp ControllerPacket.exit
            (arrival.map Prod.fst)) := by
    intro arrival arrivalAcceptable perm
    rcases exists_ends nx addr owned arrivalAcceptable with
      ⟨arrived, arrivedEnds⟩
    use arrived, arrivedEnds
    rw [arrivedEnds.observe owned absent arrivalAcceptable,
      ends.observe owned absent acceptable,
      map_shows_eq_iff distinct perm (List.Perm.refl _)]
    exact replay_eq_replay_increasing_iff perm distinct
  refine ⟨expected, ends, each, ?_⟩
  rw [← forall_arranged_iff ControllerPacket.stamp]
  constructor
  · intro always packets perm
    -- let the packets arrive with replies that attach a device
    let arrival : List (ControllerPacket × ReceiveReplies) :=
      packets.map fun packet => (packet, ⟨0, ⟨0, 1⟩, 0, .fine⟩)
    have packets_eq : arrival.map Prod.fst = packets := by
      simp [arrival, Function.comp_def]
    have arrivalAcceptable : ∀ entry ∈ arrival, Acceptable entry := by
      intro entry member
      rcases List.mem_map.mp member with ⟨packet, packetMem, rfl⟩
      rcases List.mem_map.mp (perm.mem_iff.mpr packetMem) with ⟨original, originalMem, rfl⟩
      exact ⟨(acceptable original originalMem).1, rfl⟩
    rw [← packets_eq] at perm
    rcases each arrival arrivalAcceptable perm with ⟨arrived, arrivedEnds, same_iff⟩
    rw [← packets_eq]
    exact same_iff.mp (always arrival arrived arrivalAcceptable perm arrivedEnds)
  · intro arranged arrival arrived arrivalAcceptable perm arrivedEnds
    rcases each arrival arrivalAcceptable perm with ⟨same, sameEnds, same_iff⟩
    rw [arrivedEnds.unique sameEnds]
    exact same_iff.mpr (arranged _ perm)

/-- A state datagram and an EXIT that was sent after it. -/
def beforeExit : List (ControllerPacket × ReceiveReplies) :=
  [(.neutral 1 1, ⟨0, ⟨0, 7⟩, 0, .fine⟩), (.neutral 2 0x20000, ⟨0, ⟨0, 8⟩, 0, .fine⟩)]

/-- When they arrive in the other order the controller comes back. -/
theorem late_datagram_revives_controller :
    ∃ arrived expected,
      Ends Libnx.console (listening 3) 1 beforeExit.reverse arrived ∧
      Ends Libnx.console (listening 3) 1 beforeExit expected ∧
      (arrived.observe Libnx.console 1).isSome ∧
      (expected.observe Libnx.console 1).isSome = false :=
  ⟨_, _, ⟨_, rfl⟩, ⟨_, rfl⟩, rfl, rfl⟩

/-- Two state datagrams. -/
def twoStates : List (ControllerPacket × ReceiveReplies) :=
  [(.neutral 1 1, ⟨0, ⟨0, 7⟩, 0, .fine⟩), (.neutral 2 2, ⟨0, ⟨0, 8⟩, 0, .fine⟩)]

theorem twoStates_order_irrelevant :
    ∃ expected, Ends Libnx.console (listening 3) 1 twoStates expected ∧
      ∀ arrived, Ends Libnx.console (listening 3) 1 twoStates.reverse arrived →
        arrived.observe Libnx.console 1 = expected.observe Libnx.console 1 := by
  have acceptable : ∀ entry ∈ twoStates, Acceptable entry := by
    simp [twoStates, Acceptable, ControllerPacket.neutral, Result.succeeded]
  have reversed : ∀ entry ∈ twoStates.reverse, Acceptable entry :=
    fun entry member => acceptable entry (List.mem_reverse.mp member)
  have absent : (1 : Addr) ∉ (listening 3).controllers := by decide
  rcases arrival_order_iff_arranged Libnx.console 3 (Reachable.refl _ (listening 3))
    absent acceptable (by decide) with ⟨expected, ends, _, every⟩
  refine ⟨expected, ends, fun arrived arrivedEnds => ?_⟩
  exact every.mpr (Or.inl (by decide)) _ arrived reversed
    ((List.reverse_perm _).symm.map _) arrivedEnds

end SysTweak.Vcon
