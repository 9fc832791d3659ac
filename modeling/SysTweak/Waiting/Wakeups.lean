import SysTweak.Waiting.Manager

/-!
# No signal is lost

While the thread is in `WaitAny`, an event that is signaled either was seen by the thread,
or has told the manager, or is about to: whoever signals it still has its holder left.  So
a thread that sleeps in the kernel misses no event.  And a wait is canceled only while
there is a thread that waits.
-/

namespace SysTweak.Waiting

universe u v

variable {ε : Type u} {η : Type v}

/-- The holders that are in object lists. -/
def Point.Links (list : List (Holder ε η)) (holder : Holder ε η) : Point ε η → Prop
  | .outside => False
  | .linking rest _ => holder ∈ list ∧ holder ∉ rest
  | .linked _ => holder ∈ list
  | .waiting => holder ∈ list
  | .reported _ => holder ∈ list
  | .cancelled => holder ∈ list
  | .unlinking rest _ => holder ∈ rest

/-- The holder the thread has found signaled. -/
def Point.found : Point ε η → Option (Holder ε η)
  | .outside => none
  | .linking _ signaledHolder => signaledHolder
  | .linked signaledHolder => signaledHolder
  | .waiting => none
  | .reported holder => some holder
  | .cancelled => none
  | .unlinking _ holder => some holder

/-- The holders the thread has left to link or to unlink. -/
def Point.rest : Point ε η → List (Holder ε η)
  | .linking rest _ => rest
  | .unlinking rest _ => rest
  | _ => []

/-- The event has told the manager, or it has no holder of it left to tell about. -/
def EventType.Told (content : EventType ε η) (holder : Holder ε η) : Prop :=
  ∀ rest, content.signaling = some rest → holder ∉ rest

/-- What holds at every step, when only events that meet `Ever` are ever signaled. -/
structure Sound (Ever : ε → Prop) (manager : WaitableManager ε η) : Prop where
  once : manager.waitableList.Nodup
  rest : manager.point.rest <:+ manager.waitableList
  /-- In the object list of an event is its holder while it is linked. -/
  objects : ∀ event holder, holder ∈ (manager.events event).waitableObjectList ↔
    holder = .event event ∧ manager.point.Links manager.waitableList holder
  objectsOnce : ∀ event, (manager.events event).waitableObjectList.Nodup
  /-- An event that is being signaled is signaled, and the holders left are linked. -/
  signaling : ∀ event rest, (manager.events event).signaling = some rest →
    (manager.events event).signaled = true ∧
      ∀ holder ∈ rest, holder ∈ (manager.events event).waitableObjectList
  threadHandle : manager.threadHandle = true ↔ manager.point ≠ .outside
  /-- A signal was seen or told, if it is not about to be told. -/
  seen : ∀ event, manager.point.Links manager.waitableList (.event event) →
    (manager.events event).signaled = true → (manager.events event).Told (.event event) →
    manager.signaledHolder ≠ none ∨ manager.point.found ≠ none
  /-- A thread that was told does not sleep. -/
  waitCancelled : manager.point = .waiting → manager.signaledHolder ≠ none →
    manager.waitCancelled = true
  /-- What is picked is a holder in the list, and of an event that may be signaled. -/
  picked : ∀ holder, manager.point ≠ .outside →
    manager.signaledHolder = some holder ∨ manager.point.found = some holder →
    holder ∈ manager.waitableList
  ever : ∀ event, (manager.events event).signaled = true ∨
    manager.signaledHolder = some (.event event) ∨
    manager.point.found = some (.event event) → Ever event

namespace Sound

section

variable {Ever : ε → Prop} {manager : WaitableManager ε η}

/-- A thread that sleeps misses an event only as long as its holder is left to signal. -/
theorem missed_of_asleep (sound : Sound Ever manager) (asleep : manager.Asleep) {event : ε}
    (member : .event event ∈ manager.waitableList)
    (signaled : (manager.events event).signaled = true) :
    ∃ rest, (manager.events event).signaling = some rest ∧ .event event ∈ rest := by
  apply Classical.byContradiction
  intro told
  have links : manager.point.Links manager.waitableList (.event event) := by
    rw [asleep.point]
    exact member
  have seen := sound.seen event links signaled fun rest signaling left =>
    told ⟨rest, signaling, left⟩
  rcases seen with holder | found
  · have cancelled := sound.waitCancelled asleep.point holder
    rw [asleep.waitCancelled] at cancelled
    contradiction
  · rw [asleep.point] at found
    exact found rfl

/-- A holder that is left to signal is linked, so that there is a thread that waits. -/
theorem links_of_signaling (sound : Sound Ever manager) {event : ε} {holder : Holder ε η}
    {rest : List (Holder ε η)} (signaling : (manager.events event).signaling = some rest)
    (left : holder ∈ rest) :
    holder = .event event ∧ manager.point.Links manager.waitableList holder :=
  (sound.objects event holder).mp ((sound.signaling event rest signaling).2 holder left)

theorem point_ne_outside {list : List (Holder ε η)} {holder : Holder ε η} {point : Point ε η}
    (links : point.Links list holder) : point ≠ .outside := by
  rintro rfl
  exact links

/-- A holder that is linked is in the list of the manager. -/
theorem mem_of_links (sound : Sound Ever manager) {holder : Holder ε η}
    (links : manager.point.Links manager.waitableList holder) :
    holder ∈ manager.waitableList := by
  have suffix := sound.rest
  cases here : manager.point with
  | unlinking rest picked =>
      rw [here] at links suffix
      exact suffix.subset links
  | linking rest found =>
      rw [here] at links
      exact links.1
  | outside =>
      rw [here] at links
      exact False.elim links
  | linked _ | waiting | reported _ | cancelled =>
      rw [here] at links
      exact links

/-! ## What the manager is told -/

/-- The manager is told of a holder in its list. -/
theorem tell (sound : Sound Ever manager) {holder : Holder ε η} (cancelled : Bool)
    (member : holder ∈ manager.waitableList)
    (ever : ∀ event, holder = .event event → Ever event)
    (awake : manager.point = .waiting → cancelled = true) :
    Sound Ever { manager with signaledHolder := some holder, waitCancelled := cancelled } where
  once := sound.once
  rest := sound.rest
  objects := sound.objects
  objectsOnce := sound.objectsOnce
  signaling := sound.signaling
  threadHandle := sound.threadHandle
  seen _ _ _ _ := Or.inl (Option.some_ne_none holder)
  waitCancelled waiting _ := awake waiting
  picked other inside pick := by
    rcases pick with told | found
    · cases told
      exact member
    · exact sound.picked other inside (Or.inr found)
  ever event signaled := by
    rcases signaled with signaled | told | found
    · exact sound.ever event (Or.inl signaled)
    · exact ever event (Option.some.inj told)
    · exact sound.ever event (Or.inr (Or.inr found))

/-- The thread is at another point, where as many events are linked. -/
theorem move (sound : Sound Ever manager) {point : Point ε η}
    (inside : manager.point ≠ .outside) (stays : point ≠ .outside)
    (rest : point.rest <:+ manager.waitableList)
    (links : ∀ event, point.Links manager.waitableList (.event event) ↔
      manager.point.Links manager.waitableList (.event event))
    (kept : manager.point.found ≠ none → manager.signaledHolder = none → point.found ≠ none)
    (picked : ∀ holder, point.found = some holder → holder ∈ manager.waitableList ∧
      ∀ event, holder = .event event → Ever event)
    (awake : point = .waiting → manager.signaledHolder ≠ none →
      manager.waitCancelled = true) :
    Sound Ever (manager.goTo point) where
  once := sound.once
  rest := rest
  objects event holder := by
    refine (sound.objects event holder).trans ?_
    constructor
    · rintro ⟨rfl, linked⟩
      exact ⟨rfl, (links event).mpr linked⟩
    · rintro ⟨rfl, linked⟩
      exact ⟨rfl, (links event).mp linked⟩
  objectsOnce := sound.objectsOnce
  signaling := sound.signaling
  threadHandle := sound.threadHandle.trans (iff_of_true inside stays)
  seen event linked signaled told := by
    rcases sound.seen event ((links event).mp linked) signaled told with holder | found
    · exact Or.inl holder
    · by_cases silent : manager.signaledHolder = none
      · exact Or.inr (kept found silent)
      · exact Or.inl silent
  waitCancelled := awake
  picked holder _ pick := by
    rcases pick with told | found
    · exact sound.picked holder inside (Or.inl told)
    · exact (picked holder found).1
  ever event signaled := by
    rcases signaled with signaled | told | found
    · exact sound.ever event (Or.inl signaled)
    · exact sound.ever event (Or.inr (Or.inl told))
    · exact (picked _ found).2 event rfl

/-- What was found is still a holder in the list. -/
theorem found_picked (sound : Sound Ever manager) (inside : manager.point ≠ .outside)
    {holder : Holder ε η}
    (pick : manager.signaledHolder = some holder ∨ manager.point.found = some holder) :
    holder ∈ manager.waitableList ∧ ∀ event, holder = .event event → Ever event := by
  constructor
  · exact sound.picked holder inside pick
  · rintro event rfl
    exact sound.ever event (Or.inr pick)

/-- The thread has a holder. -/
theorem unlinkHolders (sound : Sound Ever manager) {holder : Holder ε η}
    (inside : manager.point ≠ .outside)
    (all : ∀ event, manager.point.Links manager.waitableList (.event event) ↔
      .event event ∈ manager.waitableList)
    (picked : holder ∈ manager.waitableList ∧ ∀ event, holder = .event event → Ever event) :
    Sound Ever (manager.unlinkHolders holder) := by
  apply sound.move inside
  · simp
  · exact List.suffix_refl _
  · exact fun event => (all event).symm
  · simp [Point.found]
  · intro other found
    cases found
    exact picked
  · intro waiting
    contradiction

/-! ## The kernel -/

theorem cancel (sound : Sound Ever manager) : Sound Ever manager.cancel := by
  rw [WaitableManager.cancel]
  cases here : manager.point with
  | waiting =>
      simp only
      split
      · have moved : Sound Ever (manager.goTo .cancelled) := by
          apply sound.move
          · simp [here]
          · simp
          · exact List.nil_suffix
          · simp [here, Point.Links]
          · simp [here, Point.found]
          · simp [Point.found]
          · simp
        exact { moved with waitCancelled := fun waiting => by contradiction }
      · exact sound
  | outside | linking _ _ | linked _ | reported _ | cancelled | unlinking _ _ => exact sound

theorem waitAny (sound : Sound Ever manager) (outside : manager.point = .outside) :
    Sound Ever manager.waitAny where
  once := sound.once
  rest := List.suffix_refl _
  objects event holder := by
    rw [WaitableManager.waitAny]
    simp only [sound.objects, outside, Point.Links]
    simp
  objectsOnce := sound.objectsOnce
  signaling := sound.signaling
  threadHandle := by simp [WaitableManager.waitAny]
  seen event linked := absurd linked.1 linked.2
  waitCancelled waiting := by simp [WaitableManager.waitAny] at waiting
  picked holder _ pick := by simp [WaitableManager.waitAny, Point.found] at pick
  ever event signaled := by
    simp only [WaitableManager.waitAny, Point.found, reduceCtorEq, or_false] at signaled
    exact sound.ever event (Or.inl signaled)

/-- The thread leaves `WaitAny`. -/
theorem leave (sound : Sound Ever manager) {holder : Holder ε η}
    (here : manager.point = .unlinking [] holder) :
    Sound Ever { manager with threadHandle := false, point := .outside } where
  once := sound.once
  rest := List.nil_suffix
  objects event other := by
    rw [sound.objects, here]
    simp [Point.Links]
  objectsOnce := sound.objectsOnce
  signaling := sound.signaling
  threadHandle := by simp
  seen event linked := False.elim linked
  waitCancelled waiting := by contradiction
  picked other inside := absurd rfl inside
  ever event signaled := by
    rcases signaled with signaled | told | found
    · exact sound.ever event (Or.inl signaled)
    · exact sound.ever event (Or.inr (Or.inl told))
    · contradiction

/-- Outside of `WaitAny` the list can change. -/
theorem setList (sound : Sound Ever manager) (outside : manager.point = .outside)
    {list : List (Holder ε η)} (once : list.Nodup) :
    Sound Ever { manager with waitableList := list } where
  once := once
  rest := by
    simp only [outside, Point.rest]
    exact List.nil_suffix
  objects event holder := by
    rw [sound.objects]
    simp only [outside, Point.Links]
  objectsOnce := sound.objectsOnce
  signaling := sound.signaling
  threadHandle := sound.threadHandle
  seen event linked := by
    simp only [outside, Point.Links] at linked
  waitCancelled := sound.waitCancelled
  picked holder inside := absurd outside inside
  ever := sound.ever

end

section

variable [DecidableEq ε] {Ever : ε → Prop} {manager : WaitableManager ε η}

/-- An event changes, its holders in the object list do not. -/
theorem setEvent (sound : Sound Ever manager) {event : ε} {content : EventType ε η}
    (list : content.waitableObjectList = (manager.events event).waitableObjectList)
    (signaling : ∀ rest, content.signaling = some rest → content.signaled = true ∧
      ∀ holder ∈ rest, holder ∈ content.waitableObjectList)
    (seen : manager.point.Links manager.waitableList (.event event) →
      content.signaled = true → content.Told (.event event) →
      manager.signaledHolder ≠ none ∨ manager.point.found ≠ none)
    (ever : content.signaled = true → Ever event) :
    Sound Ever (manager.setEvent event content) where
  once := sound.once
  rest := sound.rest
  objects other holder := by
    by_cases same : other = event
    · subst same
      rw [WaitableManager.setEvent_events_self, list]
      exact sound.objects other holder
    · rw [WaitableManager.setEvent_events_of_ne _ same]
      exact sound.objects other holder
  objectsOnce other := by
    by_cases same : other = event
    · subst same
      rw [WaitableManager.setEvent_events_self, list]
      exact sound.objectsOnce other
    · rw [WaitableManager.setEvent_events_of_ne _ same]
      exact sound.objectsOnce other
  signaling other rest := by
    by_cases same : other = event
    · subst same
      rw [WaitableManager.setEvent_events_self]
      exact signaling rest
    · rw [WaitableManager.setEvent_events_of_ne _ same]
      exact sound.signaling other rest
  threadHandle := sound.threadHandle
  seen other linked := by
    by_cases same : other = event
    · subst same
      rw [WaitableManager.setEvent_events_self]
      exact seen linked
    · rw [WaitableManager.setEvent_events_of_ne _ same]
      exact sound.seen other linked
  waitCancelled := sound.waitCancelled
  picked := sound.picked
  ever other := by
    by_cases same : other = event
    · subst same
      rw [WaitableManager.setEvent_events_self]
      rintro (signaled | picked)
      · exact ever signaled
      · exact sound.ever other (Or.inr picked)
    · rw [WaitableManager.setEvent_events_of_ne _ same]
      exact sound.ever other

theorem signalEvent (sound : Sound Ever manager) {event : ε} (ever : Ever event) :
    Sound Ever (manager.signalEvent event) := by
  rw [WaitableManager.signalEvent]
  split
  · exact sound
  · apply sound.setEvent
    · rfl
    · intro rest signaling
      cases signaling
      exact ⟨rfl, fun holder left => left⟩
    · intro linked _ told
      have member := (sound.objects event (.event event)).mpr ⟨rfl, linked⟩
      exact absurd member (told _ rfl)
    · exact fun _ => ever

theorem clearEvent (sound : Sound Ever manager) (event : ε) :
    Sound Ever (manager.clearEvent event) := by
  rw [WaitableManager.clearEvent]
  split
  · exact sound
  · rename_i free
    apply sound.setEvent
    · rfl
    · intro rest signaling
      have left : (manager.events event).signaling = some rest := signaling
      rw [left] at free
      exact absurd rfl free
    · intro _ signaled
      contradiction
    · intro signaled
      contradiction

/-- Signaling goes on without a fault, and tells the manager of the holder. -/
theorem signalAllThreads (sound : Sound Ever manager) (event : ε) :
    ∃ next, manager.signalAllThreads event = .ok next ∧ Sound Ever next := by
  rw [WaitableManager.signalAllThreads]
  cases signaling : (manager.events event).signaling with
  | none => exact ⟨manager, rfl, sound⟩
  | some left =>
      have signaled := (sound.signaling event left signaling).1
      cases left with
      | nil =>
          refine ⟨_, rfl, sound.setEvent rfl ?_ ?_ ?_⟩
          · intro rest left
            contradiction
          · intro linked _ _
            apply sound.seen event linked signaled
            intro rest left
            rw [signaling] at left
            cases left
            exact List.not_mem_nil
          · exact fun _ => sound.ever event (Or.inl signaled)
      | cons holder rest =>
          rcases sound.links_of_signaling signaling List.mem_cons_self with ⟨rfl, linked⟩
          have inside := point_ne_outside linked
          have fewer : ∀ told : WaitableManager ε η, Sound Ever told →
              told.events = manager.events → told.signaledHolder ≠ none →
              Sound Ever (told.setEvent event
                { manager.events event with signaling := some rest }) := by
            intro told sound' same holder
            apply sound'.setEvent
            · rw [same]
            · intro others left
              cases left
              exact ⟨signaled, fun other member =>
                (sound.signaling event _ signaling).2 other (List.mem_cons_of_mem _ member)⟩
            · exact fun _ _ _ => Or.inl holder
            · exact fun _ => sound.ever event (Or.inl signaled)
          simp only [WaitableManager.signalAndWakeupThread]
          cases told : manager.signaledHolder with
          | some holder =>
              have still : manager.signaledHolder ≠ none := by simp [told]
              refine ⟨_, by simp [WaitableManager.setEvent, told],
                fewer manager sound rfl still⟩
          | none =>
              have thread := sound.threadHandle.mpr inside
              have woken := sound.tell true (sound.mem_of_links linked)
                (fun _ same => (Holder.event.inj same) ▸ sound.ever event (Or.inl signaled))
                fun _ => rfl
              refine ⟨_, by simp [WaitableManager.setEvent, told, thread],
                fewer _ woken rfl (by simp)⟩

/-! ## The thread -/

/-- The next event is linked, unless it is being signaled. -/
theorem linkNext (sound : Sound Ever manager) {event : ε} {rest : List (Holder ε η)}
    {old new : Option (Holder ε η)} (here : manager.point = .linking (.event event :: rest) old)
    (free : (manager.events event).signaling = none) (kept : old ≠ none → new ≠ none)
    (sees : (manager.events event).signaled = true → new ≠ none)
    (picks : ∀ holder, new = some holder →
      old = some holder ∨ holder = .event event ∧ (manager.events event).signaled = true) :
    Sound Ever ((manager.linkToObjectList event).goTo (.linking rest new)) := by
  have suffix := sound.rest
  have inside : manager.point ≠ .outside := by simp [here]
  rw [here, Point.rest] at suffix
  have member : .event event ∈ manager.waitableList := suffix.subset List.mem_cons_self
  have fresh : .event event ∉ rest :=
    (List.nodup_cons.mp (suffix.sublist.nodup sound.once)).1
  have unlinked : .event event ∉ (manager.events event).waitableObjectList := by
    rw [sound.objects, here]
    exact fun linked => linked.2.2 List.mem_cons_self
  have found : ∀ {holder}, old = some holder → manager.point.found = some holder := by
    intro holder before
    rw [here]
    exact before
  refine ⟨sound.once, (List.suffix_cons _ rest).trans suffix, ?_, ?_, ?_, ?_, ?_, ?_, ?_, ?_⟩
  · intro other holder
    by_cases same : other = event
    · subst same
      simp only [WaitableManager.goTo_events,
        WaitableManager.linkToObjectList_events_self, List.mem_append, List.mem_singleton]
      constructor
      · rintro (linked | rfl)
        · rcases (sound.objects other holder).mp linked with ⟨rfl, _⟩
          exact ⟨rfl, member, fresh⟩
        · exact ⟨rfl, member, fresh⟩
      · exact fun linked => Or.inr linked.1
    · simp only [WaitableManager.goTo_events,
        WaitableManager.linkToObjectList_events_of_ne _ same]
      rw [sound.objects, here]
      constructor
      · rintro ⟨rfl, listed, left⟩
        exact ⟨rfl, listed, fun inRest => left (List.mem_cons_of_mem _ inRest)⟩
      · rintro ⟨rfl, listed, left⟩
        refine ⟨rfl, listed, ?_⟩
        rw [List.mem_cons]
        rintro (equal | inRest)
        · exact same (Holder.event.inj equal)
        · exact left inRest
  · intro other
    by_cases same : other = event
    · subst same
      simp only [WaitableManager.goTo_events,
        WaitableManager.linkToObjectList_events_self]
      rw [List.nodup_append']
      refine ⟨sound.objectsOnce other, List.nodup_singleton _, ?_⟩
      rw [List.disjoint_singleton]
      exact unlinked
    · simp only [WaitableManager.goTo_events,
        WaitableManager.linkToObjectList_events_of_ne _ same]
      exact sound.objectsOnce other
  · intro other left signaling
    by_cases same : other = event
    · subst same
      simp only [WaitableManager.goTo_events,
        WaitableManager.linkToObjectList_events_self] at signaling
      rw [free] at signaling
      contradiction
    · simp only [WaitableManager.goTo_events,
        WaitableManager.linkToObjectList_events_of_ne _ same] at signaling ⊢
      exact sound.signaling other left signaling
  · exact sound.threadHandle.trans (iff_of_true inside (by simp))
  · intro other linked signaled told
    by_cases same : other = event
    · subst same
      simp only [WaitableManager.goTo_events,
        WaitableManager.linkToObjectList_events_self] at signaled
      exact Or.inr (sees signaled)
    · simp only [WaitableManager.goTo_events,
        WaitableManager.linkToObjectList_events_of_ne _ same] at signaled told
      have before : manager.point.Links manager.waitableList (.event other) := by
        rw [here]
        refine ⟨linked.1, ?_⟩
        rw [List.mem_cons]
        rintro (equal | inRest)
        · exact same (Holder.event.inj equal)
        · exact linked.2 inRest
      rcases sound.seen other before signaled told with holder | seen
      · exact Or.inl holder
      · rw [here] at seen
        exact Or.inr (kept seen)
  · intro waiting
    contradiction
  · intro holder _ pick
    rcases pick with told | now
    · exact sound.picked holder inside (Or.inl told)
    · rcases picks holder now with before | ⟨rfl, _⟩
      · exact sound.picked holder inside (Or.inr (found before))
      · exact member
  · intro other signaled
    rcases signaled with signaled | told | now
    · by_cases same : other = event
      · subst same
        simp only [WaitableManager.goTo_events,
        WaitableManager.linkToObjectList_events_self] at signaled
        exact sound.ever other (Or.inl signaled)
      · simp only [WaitableManager.goTo_events,
        WaitableManager.linkToObjectList_events_of_ne _ same] at signaled
        exact sound.ever other (Or.inl signaled)
    · exact sound.ever other (Or.inr (Or.inl told))
    · rcases picks _ now with before | ⟨same, signaled⟩
      · exact sound.ever other (Or.inr (Or.inr (found before)))
      · cases Holder.event.inj same
        exact sound.ever _ (Or.inl signaled)

/-- The next event is unlinked, unless it is being signaled. -/
theorem unlinkNext [DecidableEq η] (sound : Sound Ever manager) {event : ε}
    {rest : List (Holder ε η)} {holder : Holder ε η}
    (here : manager.point = .unlinking (.event event :: rest) holder)
    (free : (manager.events event).signaling = none) :
    Sound Ever ((manager.unlinkFromObjectList event).goTo (.unlinking rest holder)) := by
  have suffix := sound.rest
  have inside : manager.point ≠ .outside := by simp [here]
  rw [here, Point.rest] at suffix
  have fresh : .event event ∉ rest :=
    (List.nodup_cons.mp (suffix.sublist.nodup sound.once)).1
  have found : manager.point.found = some holder := by rw [here, Point.found]
  refine ⟨sound.once, (List.suffix_cons _ rest).trans suffix, ?_, ?_, ?_, ?_, ?_, ?_, ?_, ?_⟩
  · intro other linked
    by_cases same : other = event
    · subst same
      simp only [WaitableManager.goTo_events,
        WaitableManager.unlinkFromObjectList_events_self]
      rw [(sound.objectsOnce other).mem_erase_iff, sound.objects]
      constructor
      · rintro ⟨different, equal, _⟩
        exact absurd equal different
      · rintro ⟨rfl, inRest⟩
        exact absurd inRest fresh
    · simp only [WaitableManager.goTo_events,
        WaitableManager.unlinkFromObjectList_events_of_ne _ same]
      rw [sound.objects, here]
      constructor
      · rintro ⟨rfl, inRest⟩
        rcases List.mem_cons.mp inRest with equal | inRest
        · exact absurd (Holder.event.inj equal) same
        · exact ⟨rfl, inRest⟩
      · rintro ⟨rfl, inRest⟩
        exact ⟨rfl, List.mem_cons_of_mem _ inRest⟩
  · intro other
    by_cases same : other = event
    · subst same
      simp only [WaitableManager.goTo_events,
        WaitableManager.unlinkFromObjectList_events_self]
      exact (sound.objectsOnce other).erase _
    · simp only [WaitableManager.goTo_events,
        WaitableManager.unlinkFromObjectList_events_of_ne _ same]
      exact sound.objectsOnce other
  · intro other left signaling
    by_cases same : other = event
    · subst same
      simp only [WaitableManager.goTo_events,
        WaitableManager.unlinkFromObjectList_events_self] at signaling
      rw [free] at signaling
      contradiction
    · simp only [WaitableManager.goTo_events,
        WaitableManager.unlinkFromObjectList_events_of_ne _ same] at signaling ⊢
      exact sound.signaling other left signaling
  · exact sound.threadHandle.trans (iff_of_true inside (by simp))
  · exact fun _ _ _ _ => Or.inr (by simp [Point.found])
  · intro waiting
    contradiction
  · intro other _ pick
    exact sound.picked other inside (by rwa [found])
  · intro other signaled
    rcases signaled with signaled | picked
    · by_cases same : other = event
      · subst same
        simp only [WaitableManager.goTo_events,
        WaitableManager.unlinkFromObjectList_events_self] at signaled
        exact sound.ever other (Or.inl signaled)
      · simp only [WaitableManager.goTo_events,
        WaitableManager.unlinkFromObjectList_events_of_ne _ same] at signaled
        exact sound.ever other (Or.inl signaled)
    · exact sound.ever other (Or.inr (by rwa [found]))

variable [DecidableEq η]

theorem report (sound : Sound Ever manager) (handle : η) :
    Sound Ever (manager.report handle) := by
  rw [WaitableManager.report]
  cases here : manager.point with
  | waiting =>
      simp only
      split
      · rename_i signaled
        apply sound.move
        · simp [here]
        · simp
        · exact List.nil_suffix
        · simp [here, Point.Links]
        · simp [Point.found]
        · intro holder found
          cases found
          refine ⟨signaled.1, ?_⟩
          intro event same
          contradiction
        · simp
      · exact sound
  | outside | linking _ _ | linked _ | reported _ | cancelled | unlinking _ _ => exact sound

theorem next (sound : Sound Ever manager) : Sound Ever manager.next.1 := by
  have suffix := sound.rest
  unfold WaitableManager.next
  cases here : manager.point with
  | outside => exact sound
  | waiting => exact sound
  | linking rest signaledHolder =>
      have inside : manager.point ≠ .outside := by simp [here]
      have found : ∀ {holder}, signaledHolder = some holder →
          manager.point.found = some holder := by
        intro holder before
        rw [here]
        exact before
      rw [here, Point.rest] at suffix
      cases rest with
      | nil =>
          apply sound.move inside
          · simp
          · exact List.nil_suffix
          · simp [here, Point.Links]
          · exact fun seen _ => by rwa [here] at seen
          · exact fun holder before => sound.found_picked inside (Or.inr (found before))
          · intro waiting
            contradiction
      | cons holder rest =>
          cases holder with
          | handle handle =>
              apply sound.move inside
              · simp
              · exact (List.suffix_cons _ rest).trans suffix
              · simp [here, Point.Links]
              · exact fun seen _ => by rwa [here] at seen
              · exact fun holder before => sound.found_picked inside (Or.inr (found before))
              · intro waiting
                contradiction
          | event event =>
              cases free : (manager.events event).signaling with
              | some left =>
                  simp only [free, Option.isSome_some, if_true]
                  exact sound
              | none =>
                  simp only [free, Option.isSome_none, Bool.false_eq_true, if_false]
                  by_cases sees : signaledHolder.isNone && (manager.events event).signaled
                  · rw [if_pos sees]
                    have signaled := (Bool.and_eq_true_iff.mp sees).2
                    apply sound.linkNext here free
                    · exact fun _ => Option.some_ne_none _
                    · exact fun _ => Option.some_ne_none _
                    · intro holder now
                      cases now
                      exact Or.inr ⟨rfl, signaled⟩
                  · rw [if_neg sees]
                    apply sound.linkNext here free
                    · exact id
                    · intro signaled
                      simpa [signaled] using sees
                    · exact fun holder before => Or.inl before
  | linked signaledHolder =>
      have inside : manager.point ≠ .outside := by simp [here]
      have all : ∀ event, manager.point.Links manager.waitableList (.event event) ↔
          .event event ∈ manager.waitableList := by
        simp [here, Point.Links]
      cases told : manager.signaledHolder with
      | some holder =>
          exact sound.unlinkHolders inside all (sound.found_picked inside (Or.inl told))
      | none =>
          cases signaledHolder with
          | some holder =>
              have found : manager.point.found = some holder := by rw [here, Point.found]
              exact sound.unlinkHolders inside all (sound.found_picked inside (Or.inr found))
          | none =>
              apply sound.move inside
              · simp
              · exact List.nil_suffix
              · exact fun event => (all event).symm
              · simp [here, Point.found]
              · simp [Point.found]
              · exact fun _ still => absurd told still
  | reported holder =>
      have inside : manager.point ≠ .outside := by simp [here]
      have found : manager.point.found = some holder := by rw [here, Point.found]
      have picked := sound.found_picked inside (Or.inr found)
      have told : Sound Ever { manager with signaledHolder := some holder } :=
        sound.tell manager.waitCancelled picked.1 picked.2 fun waiting => by
          rw [here] at waiting
          contradiction
      exact told.unlinkHolders inside (by simp [here, Point.Links]) picked
  | cancelled =>
      have inside : manager.point ≠ .outside := by simp [here]
      have all : ∀ event, manager.point.Links manager.waitableList (.event event) ↔
          .event event ∈ manager.waitableList := by
        simp [here, Point.Links]
      cases told : manager.signaledHolder with
      | some holder =>
          exact sound.unlinkHolders inside all (sound.found_picked inside (Or.inl told))
      | none =>
          apply sound.move inside
          · simp
          · exact List.nil_suffix
          · exact fun event => (all event).symm
          · simp [here, Point.found]
          · simp [Point.found]
          · exact fun _ still => absurd told still
  | unlinking rest holder =>
      have inside : manager.point ≠ .outside := by simp [here]
      rw [here, Point.rest] at suffix
      cases rest with
      | nil => exact sound.leave here
      | cons first rest =>
          cases first with
          | handle handle =>
              have found : manager.point.found = some holder := by rw [here, Point.found]
              have picked := sound.found_picked inside (Or.inr found)
              apply sound.move inside
              · simp
              · exact (List.suffix_cons _ rest).trans suffix
              · simp [here, Point.Links]
              · simp [Point.found]
              · intro other found
                cases found
                exact picked
              · intro waiting
                contradiction
          | event event =>
              cases free : (manager.events event).signaling with
              | some left =>
                  simp only [free, Option.isSome_some, if_true]
                  exact sound
              | none =>
                  simp only [free, Option.isSome_none, Bool.false_eq_true, if_false]
                  exact sound.unlinkNext here free

/-- What `WaitAny` returns was in the list, and it is over. -/
theorem next_returns (sound : Sound Ever manager) {holder : Holder ε η}
    (returned : manager.next.2 = some holder) :
    manager.next.1.point = .outside ∧ holder ∈ manager.next.1.waitableList ∧
      ∀ event, holder = .event event → Ever event := by
  unfold WaitableManager.next at returned ⊢
  cases here : manager.point with
  | unlinking rest picked =>
      rw [here] at returned
      cases rest with
      | nil =>
          cases returned
          have inside : manager.point ≠ .outside := by simp [here]
          have found : manager.point.found = some holder := by rw [here, Point.found]
          exact ⟨rfl, sound.found_picked inside (Or.inr found)⟩
      | cons first rest =>
          exfalso
          cases first with
          | handle handle => contradiction
          | event event =>
              simp only at returned
              split at returned <;> contradiction
  | linking rest found =>
      rw [here] at returned
      exfalso
      cases rest with
      | nil => contradiction
      | cons first rest =>
          cases first with
          | handle handle => contradiction
          | event event =>
              simp only at returned
              split at returned
              · contradiction
              · split at returned <;> contradiction
  | linked found =>
      rw [here] at returned
      exfalso
      simp only at returned
      split at returned <;> contradiction
  | cancelled =>
      rw [here] at returned
      exfalso
      simp only at returned
      split at returned <;> contradiction
  | outside | waiting | reported _ =>
      rw [here] at returned
      contradiction

end

end Sound

end SysTweak.Waiting
