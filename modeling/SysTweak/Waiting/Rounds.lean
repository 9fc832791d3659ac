import SysTweak.Waiting.Loop

/-!
# Rounds that miss nothing

What holds of the loop at every step, whatever the other threads do: the wait list is
empty, or its thread is told of it or about to be.  So the thread of the loop sleeps only
while there is nothing for it to do.
-/

namespace SysTweak.Waiting

open SysTweak.Transition

universe u v

/-! ## What a step of the manager leaves as it is -/

namespace WaitableManager

variable {ε : Type u} {η : Type v} [DecidableEq ε] [DecidableEq η]
  {manager : WaitableManager ε η}

/-- The list is the same, and the events are signaled and being signaled as before. -/
structure Same (source target : WaitableManager ε η) : Prop where
  list : target.waitableList = source.waitableList
  signaled : ∀ event, (target.events event).signaled = (source.events event).signaled
  signaling : ∀ event, (target.events event).signaling = (source.events event).signaling

theorem Same.refl (manager : WaitableManager ε η) : Same manager manager :=
  ⟨rfl, fun _ => rfl, fun _ => rfl⟩

theorem Same.of_events_eq {source target : WaitableManager ε η}
    (list : target.waitableList = source.waitableList)
    (events : target.events = source.events) : Same source target :=
  ⟨list, fun event => by rw [events], fun event => by rw [events]⟩

theorem linkToObjectList_same (event : ε) (point : Point ε η) :
    Same manager ((manager.linkToObjectList event).goTo point) := by
  refine ⟨rfl, ?_, ?_⟩ <;>
    · intro other
      rw [goTo_events]
      by_cases same : other = event
      · rw [same, linkToObjectList_events_self]
      · rw [linkToObjectList_events_of_ne manager same]

theorem unlinkFromObjectList_same (event : ε) (point : Point ε η) :
    Same manager ((manager.unlinkFromObjectList event).goTo point) := by
  refine ⟨rfl, ?_, ?_⟩ <;>
    · intro other
      rw [goTo_events]
      by_cases same : other = event
      · rw [same, unlinkFromObjectList_events_self]
      · rw [unlinkFromObjectList_events_of_ne manager same]

theorem next_same (manager : WaitableManager ε η) : Same manager manager.next.1 := by
  unfold next
  split
  · exact .refl manager
  · exact .of_events_eq rfl rfl
  · exact .of_events_eq rfl rfl
  · split
    · exact .refl manager
    · split
      · exact linkToObjectList_same ..
      · exact linkToObjectList_same ..
  · split <;> exact .of_events_eq rfl rfl
  · exact .refl manager
  · exact .of_events_eq rfl rfl
  · split <;> exact .of_events_eq rfl rfl
  · exact .of_events_eq rfl rfl
  · exact .of_events_eq rfl rfl
  · split
    · exact .refl manager
    · exact unlinkFromObjectList_same ..

theorem report_same (handle : η) (manager : WaitableManager ε η) :
    Same manager (manager.report handle) := by
  unfold report
  split
  · split
    · exact .of_events_eq rfl rfl
    · exact .refl manager
  · exact .refl manager

theorem cancel_same (manager : WaitableManager ε η) : Same manager manager.cancel := by
  unfold cancel
  split
  · split
    · exact .of_events_eq rfl rfl
    · exact .refl manager
  · exact .refl manager

end WaitableManager

end SysTweak.Waiting
