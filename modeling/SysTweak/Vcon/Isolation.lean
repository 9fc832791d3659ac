import SysTweak.Vcon.Worker

/-!
# Clients do not interfere

A datagram changes the session of its sender only, and whether it aborts the
process depends on the presence of its sender only.  So the datagrams of all
other clients can be deleted from a run, and any two runs that mean the same to
a client end with the same entry for it.
-/

namespace SysTweak.Vcon

open SysTweak.Memory
open SysTweak.Platform
open SysTweak.Transition

/-- The event is not a datagram of another client. -/
def Event.concerns (addr : Addr) : Event → Bool
  | .receive received _ => received.addr = addr
  | .restart _ => true
  | .cleanup _ => true

theorem Event.forAddr_of_not_concerns {addr : Addr} {event : Event}
    (foreign : event.concerns addr = false) : event.forAddr addr = none := by
  cases event with
  | receive received replies =>
      have other : received.addr ≠ addr := of_decide_eq_false foreign
      exact if_neg fun passes => other passes.1
  | restart fd => contradiction
  | cleanup now => contradiction

/-- Two services have the same entry for a client: presence, ticks and input
state. -/
def SameEntry (addr : Addr) (first second : VirtualControllerService) : Prop :=
  (addr ∈ first.controllers ↔ addr ∈ second.controllers) ∧
    first.session addr = second.session addr

section

variable {nx : Libnx}

open VirtualControllerService

theorem sameEntry_of_session {first second : VirtualControllerService} {addr : Addr}
    (firstOwned : first.Owned) (secondOwned : second.Owned)
    (same : first.session addr = second.session addr) :
    SameEntry addr first second := by
  constructor
  · rw [← not_iff_not, firstOwned.not_mem_iff_session, secondOwned.not_mem_iff_session,
      same]
  · exact same

/-- Without the datagrams of the other clients a run still goes through, and
shows the client the same session. -/
theorem runs_alone {first second target : VirtualControllerService}
    {events : List Event} {calls : List Call} {addr : Addr}
    (firstOwned : first.Owned) (secondOwned : second.Owned)
    (same : first.session addr = second.session addr)
    (ran : Runs (serviceStep nx) first events target calls) :
    ∃ alone aloneCalls,
      Runs (serviceStep nx) second (events.filter (Event.concerns addr)) alone
        aloneCalls := by
  induction events generalizing first second calls with
  | nil => exact ⟨second, [], Runs.nil _ _⟩
  | cons event events ih =>
      rcases runs_cons_iff.mp ran with ⟨next, made, rest, stepped, continued, rfl⟩
      have nextOwned := serviceStep_owned firstOwned stepped
      have nextSession := serviceStep_session firstOwned stepped addr
      cases kept : event.concerns addr with
      | false =>
          rw [List.filter_cons_of_neg (by simp [kept])]
          apply ih nextOwned secondOwned _ continued
          rw [nextSession, Session.next, Event.forAddr_of_not_concerns kept, same]
      | true =>
          rw [List.filter_cons_of_pos kept]
          -- the sender of a kept datagram is the client itself
          have goes : ∃ result, serviceStep nx second event = .ok result := by
            apply (exists_serviceStep_iff secondOwned event).mpr
            intro received replies receives valid absent
            apply (exists_serviceStep_iff firstOwned event).mp ⟨_, stepped⟩ received
              replies receives valid
            subst receives
            have sender : received.addr = addr := of_decide_eq_true kept
            rw [sender, same, ← sender, absent]
          rcases goes with ⟨⟨other, otherCalls⟩, stepped'⟩
          have otherOwned := serviceStep_owned secondOwned stepped'
          have otherSession := serviceStep_session secondOwned stepped' addr
          rcases ih nextOwned otherOwned (by rw [nextSession, otherSession, same])
            continued with ⟨alone, aloneCalls, aloneRan⟩
          exact ⟨alone, otherCalls ++ aloneCalls,
            runs_cons_iff.mpr ⟨other, otherCalls, aloneCalls, stepped', aloneRan, rfl⟩⟩

theorem filterMap_forAddr_filter (addr : Addr) (events : List Event) :
    (events.filter (Event.concerns addr)).filterMap (Event.forAddr addr) =
      events.filterMap (Event.forAddr addr) := by
  induction events with
  | nil => rfl
  | cons event events ih =>
      cases kept : event.concerns addr with
      | false =>
          rw [List.filter_cons_of_neg (by simp [kept]), List.filterMap_cons,
            Event.forAddr_of_not_concerns kept, ih]
      | true =>
          rw [List.filter_cons_of_pos kept, List.filterMap_cons, List.filterMap_cons, ih]

/-- Runs of two services that mean the same to a client keep its entries the
same, whatever the HDLS calls returned in either. -/
theorem sameEntry_of_runs {first second : VirtualControllerService}
    {firstTarget secondTarget : VirtualControllerService}
    {firstEvents secondEvents : List Event} {firstCalls secondCalls : List Call}
    {addr : Addr} (firstOwned : first.Owned) (secondOwned : second.Owned)
    (same : first.session addr = second.session addr)
    (firstRan : Runs (serviceStep nx) first firstEvents firstTarget firstCalls)
    (secondRan : Runs (serviceStep nx) second secondEvents secondTarget secondCalls)
    (means : firstEvents.filterMap (Event.forAddr addr) =
      secondEvents.filterMap (Event.forAddr addr)) :
    SameEntry addr firstTarget secondTarget := by
  apply sameEntry_of_session
  · exact owned_of_reachable firstOwned ⟨_, _, firstRan⟩
  · exact owned_of_reachable secondOwned ⟨_, _, secondRan⟩
  · rw [session_of_runs firstOwned firstRan, session_of_runs secondOwned secondRan, same,
      means]

/-- Deleting the datagrams of all other clients from a run leaves a client's
entry after the run unchanged.  Two runs that mean the same to a client end
with the same entry for it, however they interleave the others. -/
theorem clients_do_not_interfere (nx : Libnx) (fd : Int) {events : List Event}
    {target : VirtualControllerService} {calls : List Call}
    (ran : Runs (serviceStep nx) (listening fd) events target calls) :
    (∀ addr, ∃ alone aloneCalls,
      Runs (serviceStep nx) (listening fd) (events.filter (Event.concerns addr)) alone
        aloneCalls ∧ SameEntry addr alone target) ∧
    (∀ addr otherEvents otherTarget otherCalls,
      Runs (serviceStep nx) (listening fd) otherEvents otherTarget otherCalls →
      otherEvents.filterMap (Event.forAddr addr) = events.filterMap (Event.forAddr addr) →
      SameEntry addr otherTarget target) := by
  have owned := owned_listening fd
  constructor
  · intro addr
    rcases runs_alone owned owned rfl ran with ⟨alone, aloneCalls, aloneRan⟩
    exact ⟨alone, aloneCalls, aloneRan,
      sameEntry_of_runs owned owned rfl aloneRan ran (filterMap_forAddr_filter addr events)⟩
  · intro addr otherEvents otherTarget otherCalls otherRan means
    exact sameEntry_of_runs owned owned rfl otherRan ran means

/-- Two clients, one of which loses its device and then leaves. -/
def crossing : List Event :=
  [.receive (.whole 1 (.neutral 5 1)) ⟨0, ⟨0, 7⟩, 10, .fine⟩,
    .receive (.whole 2 (.neutral 9 2)) ⟨0, ⟨0, 8⟩, 20, ⟨0, false, ⟨1, 0⟩, 0⟩⟩,
    .receive (.whole 2 (.neutral 9 0x20000)) ⟨0, ⟨0, 0⟩, 30, .fine⟩,
    .cleanup fun _ => 40]

theorem crossing_does_not_interfere :
    ∃ target calls, Runs (serviceStep Libnx.console) (listening 3) crossing target calls ∧
      ∃ alone aloneCalls, Runs (serviceStep Libnx.console) (listening 3)
        (crossing.filter (Event.concerns 1)) alone aloneCalls ∧
        SameEntry 1 alone target :=
  have ⟨target, calls, ran⟩ : ∃ target calls,
      Runs (serviceStep Libnx.console) (listening 3) crossing target calls :=
    ⟨_, _, rfl⟩
  ⟨target, calls, ran, (clients_do_not_interfere Libnx.console 3 ran).1 1⟩

end

end SysTweak.Vcon
