import Mathlib.Logic.Relation
import SysTweak.Platform.Clock
import SysTweak.Vcon.Worker

/-!
# The worker's loop in time

Time passes while the worker is inside `recvfrom`, which blocks until a datagram
arrives, and while it handles one.  Nothing else wakes the worker, so a cleanup
that is due has to wait for the next datagram.  This module gives the loop as a
timed step relation, shows that every iteration of the loop is a path of it, and
bounds the age of every controller in runs whose `recvfrom` calls do not keep
blocking for a second once a controller has been idle for eleven seconds.
-/

namespace SysTweak.Vcon

open SysTweak.Memory
open SysTweak.Platform
open SysTweak.Transition

/-- Where the worker is in an iteration, with the times it remembers. -/
inductive Stage
  /-- Inside `recvfrom` since that time. -/
  | blocked (since : Nat)
  /-- `recvfrom` returned at that time. -/
  | handling (returned : Nat) (received : Received)
  /-- Before the elapsed-time check. -/
  | checking (returned : Nat)
  /-- Inside `Cleanup(false)`, after the check found it due. -/
  | cleaning (returned checked : Nat)

/-- A moment of a run.  `accepted addr` is the time the last datagram from `addr`
was accepted; the worker does not keep it. -/
structure Moment where
  worker : Worker
  stage : Stage
  now : Nat
  accepted : Addr → Nat

/-- The datagram is one `SetState` accepts. -/
def accepts (service : VirtualControllerService) (received : Received) : Bool :=
  decide received.Valid && !received.packet.exit &&
    match service.session received.addr with
    | none => true
    | some input => !decide (received.packet.tick < input.clientTick)

/-- The times of acceptance after a datagram was handled. -/
def Moment.acceptedAfter (moment : Moment) (received : Received) : Addr → Nat :=
  if accepts moment.worker.service received then
    Function.update moment.accepted received.addr moment.now
  else moment.accepted

/-- One step of the worker, or a stretch of time.  Every clock the worker reads
shows the time at which it is read. -/
inductive TimedStep (nx : Libnx) : Moment → Moment → Prop
  | wait {moment : Moment} (ticks : Nat) :
      TimedStep nx moment { moment with now := moment.now + ticks }
  | arrive {moment : Moment} {since : Nat} (received : Received) :
      moment.stage = .blocked since →
      TimedStep nx moment { moment with stage := .handling moment.now received }
  | handle {moment : Moment} {returned : Nat} {received : Received}
      {replies : ReceiveReplies} {outcome : ReceiveOutcome} {fd : Int}
      {service : VirtualControllerService} {errorCount : BitVec 64} {calls : List Call} :
      moment.stage = .handling returned received →
      replies.updateTick = clock moment.now →
      moment.worker.service.receiveMessages nx received replies = .ok outcome →
      (if outcome.returned then (outcome.service, moment.worker.errorCount, [])
        else Worker.countError outcome.service moment.worker.errorCount fd) =
          (service, errorCount, calls) →
      TimedStep nx moment
        { worker := ⟨service, moment.worker.lastCleanupTicks, errorCount⟩
          stage := .checking returned
          now := moment.now
          accepted := moment.acceptedAfter received }
  | skip {moment : Moment} {returned : Nat} :
      moment.stage = .checking returned →
      ¬nx.armTicksToNs (clock moment.now - moment.worker.lastCleanupTicks) > 1000000000 →
      TimedStep nx moment { moment with stage := .blocked moment.now }
  | due {moment : Moment} {returned : Nat} :
      moment.stage = .checking returned →
      nx.armTicksToNs (clock moment.now - moment.worker.lastCleanupTicks) > 1000000000 →
      TimedStep nx moment { moment with stage := .cleaning returned moment.now }
  | clean {moment : Moment} {returned checked : Nat} {times : Addr → Nat}
      {service : VirtualControllerService} {calls : List Call} :
      moment.stage = .cleaning returned checked →
      (∀ addr, checked ≤ times addr ∧ times addr ≤ moment.now) →
      moment.worker.service.cleanup nx false (fun addr => clock (times addr)) =
        .ok (service, calls) →
      TimedStep nx moment
        { worker := ⟨service, clock moment.now, moment.worker.errorCount⟩
          stage := .blocked moment.now
          now := moment.now
          accepted := moment.accepted }

/-- The moment the loop is entered. -/
def entered (fd : Int) (now : Nat) : Moment where
  worker := ⟨listening fd, clock now, 0⟩
  stage := .blocked now
  now := now
  accepted := fun _ => 0

/-- Every iteration of the loop, with clocks that show the time, is a path of the
timed relation from one `recvfrom` to the next. -/
theorem exists_path_of_iterate {nx : Libnx} {moment : Moment} {since : Nat}
    {iteration : Iteration} {target : Worker} {calls : List Call}
    {arrival update check cleanup : Nat} {times : Addr → Nat}
    (blocked : moment.stage = .blocked since)
    (order : moment.now ≤ arrival ∧ arrival ≤ update ∧ update ≤ check ∧
      check ≤ cleanup ∧ ∀ addr, check ≤ times addr ∧ times addr ≤ cleanup)
    (updateTick : iteration.replies.updateTick = clock update)
    (checkTick : iteration.checkTick = clock check)
    (inactiveTick : iteration.inactiveTick = fun addr => clock (times addr))
    (cleanupTick : iteration.cleanupTick = clock cleanup)
    (stepped : Worker.iterate nx moment.worker iteration = .ok (target, calls)) :
    ∃ reached since', Relation.ReflTransGen (TimedStep nx) moment reached ∧
      reached.worker = target ∧ reached.stage = .blocked since' := by
  rcases order with ⟨arrivalOrder, updateOrder, checkOrder, cleanupOrder, timesOrder⟩
  have waits : ∀ (moment : Moment) (later : Nat), moment.now ≤ later →
      Relation.ReflTransGen (TimedStep nx) moment { moment with now := later } := by
    intro moment later order
    have step : TimedStep nx moment
        { moment with now := moment.now + (later - moment.now) } := .wait _
    rw [Nat.add_sub_cancel' order] at step
    exact Relation.ReflTransGen.single step
  unfold Worker.iterate at stepped
  cases ran : moment.worker.service.receiveMessages nx iteration.received
      iteration.replies with
  | error fault =>
      rw [ran] at stepped
      contradiction
  | ok outcome =>
      rw [ran] at stepped
      rcases branch : (if outcome.returned then
        (outcome.service, moment.worker.errorCount, [])
        else Worker.countError outcome.service moment.worker.errorCount iteration.fd) with
        ⟨service, errorCount, restartCalls⟩
      simp only [branch] at stepped
      have arrived := (waits moment arrival arrivalOrder).tail
        (TimedStep.arrive iteration.received blocked)
      have updated := arrived.trans (waits _ update updateOrder)
      have handled := updated.tail (TimedStep.handle rfl updateTick ran branch)
      have checked := handled.trans (waits _ check checkOrder)
      split at stepped
      · rename_i late
        rw [checkTick] at late
        have cleaning := (checked.tail (TimedStep.due rfl late)).trans
          (waits _ cleanup cleanupOrder)
        cases swept : service.cleanup nx false iteration.inactiveTick with
        | error fault =>
            rw [swept] at stepped
            contradiction
        | ok result =>
            rw [swept] at stepped
            cases stepped
            rw [inactiveTick] at swept
            have ended := cleaning.tail (TimedStep.clean rfl timesOrder swept)
            exact ⟨_, _, ended, by rw [cleanupTick], rfl⟩
      · rename_i early
        rw [checkTick] at early
        cases stepped
        exact ⟨_, _, checked.tail (TimedStep.skip rfl early), rfl, rfl⟩

/-! ## What a handled datagram does to a session -/

/-- A client's session after a datagram was handled: unchanged, gone, or accepted
now. -/
theorem session_of_handled {nx : Libnx} {worker : Worker} {received : Received}
    {replies : ReceiveReplies} {outcome : ReceiveOutcome} {fd : Int}
    {service : VirtualControllerService} {errorCount : BitVec 64} {calls : List Call}
    (owned : worker.service.Owned)
    (ran : worker.service.receiveMessages nx received replies = .ok outcome)
    (branch : (if outcome.returned then (outcome.service, worker.errorCount, [])
      else Worker.countError outcome.service worker.errorCount fd) =
        (service, errorCount, calls)) (addr : Addr) :
    (service.session addr = worker.service.session addr ∧
        ¬(accepts worker.service received = true ∧ received.addr = addr)) ∨
      service.session addr = none ∨
      (accepts worker.service received = true ∧ received.addr = addr ∧
        ∃ input, service.session addr = some input ∧
          input.lastUpdateTick = replies.updateTick) := by
  have same : service.session addr = outcome.service.session addr := by
    rcases Worker.entries_of_counted branch with ⟨controllers, heap⟩
    simp only [VirtualControllerService.session, VirtualControllerService.table,
      controllers, heap]
  have stepped : serviceStep nx worker.service (.receive received replies) =
      .ok (outcome.service, outcome.calls) := by
    rw [serviceStep, ran]
  have next := serviceStep_session owned stepped addr
  rw [same, next, Session.next]
  by_cases mine : received.addr = addr ∧ received.Valid
  · rcases mine with ⟨rfl, valid⟩
    cases exits : received.packet.exit with
    | true =>
        have means : (Event.receive received replies).forAddr received.addr =
            some .exit := by
          simp [Event.forAddr, valid, exits]
        rw [means]
        right
        left
        cases worker.service.session received.addr <;> rfl
    | false =>
        have means : (Event.receive received replies).forAddr received.addr =
            some (.state received.packet replies.updateTick) := by
          simp [Event.forAddr, valid, exits]
        rw [means]
        cases before : worker.service.session received.addr with
        | none =>
            right
            right
            exact ⟨by simp [accepts, valid, exits, before], rfl, _, rfl, rfl⟩
        | some input =>
            by_cases stale : received.packet.tick < input.clientTick
            · left
              constructor
              · exact if_pos stale
              · simp [accepts, valid, exits, before, stale]
            · right
              right
              refine ⟨by simp [accepts, valid, exits, before, stale], rfl, _,
                if_neg stale, rfl⟩
  · have means : (Event.receive received replies).forAddr addr = none := if_neg mine
    rw [means]
    left
    constructor
    · rfl
    · rintro ⟨accepted, here⟩
      simp only [accepts, Bool.and_eq_true, decide_eq_true_eq] at accepted
      exact mine ⟨here, accepted.1.1⟩

/-! ## Punctual runs -/

/-- The timing asked of a moment.  While the worker is inside `recvfrom`, a
controller idle for more than eleven seconds has been so, or the call has been
blocking, for no longer than what an iteration leaves of a second.  Between two
calls of `recvfrom` the worker takes at most `processing`. -/
def Moment.Prompt (processing : Nat) (moment : Moment) : Prop :=
  match moment.stage with
  | .blocked since =>
      ∀ addr ∈ moment.worker.service.controllers,
        moment.now ≤ moment.accepted addr + 11 * ticksPerSecond ∨
          moment.now + processing ≤
            max since (moment.accepted addr + 11 * ticksPerSecond) + ticksPerSecond
  | .handling returned _ => moment.now ≤ returned + processing
  | .checking returned => moment.now ≤ returned + processing
  | .cleaning returned _ => moment.now ≤ returned + processing

/-- The moment is reached from the entry of the loop through prompt moments
only. -/
inductive Punctual (nx : Libnx) (fd : Int) (begun processing : Nat) : Moment → Prop
  | start : Punctual nx fd begun processing (entered fd begun)
  | step {moment next : Moment} :
      Punctual nx fd begun processing moment → TimedStep nx moment next →
      next.Prompt processing → Punctual nx fd begun processing next

/-- At the time `anchor` no cleanup was due, and no controller of the map had been
idle for much more than ten seconds. -/
def Moment.Anchored (nx : Libnx) (processing : Nat) (moment : Moment)
    (anchor : Nat) : Prop :=
  ¬nx.armTicksToNs (clock anchor - moment.worker.lastCleanupTicks) > 1000000000 ∧
    ∀ addr ∈ moment.worker.service.controllers,
      anchor ≤ moment.accepted addr + 10 * ticksPerSecond + processing

/-- What is known at each stage of an iteration. -/
def Moment.StageSound (nx : Libnx) (processing : Nat) (moment : Moment) : Prop :=
  match moment.stage with
  | .blocked since =>
      since ≤ moment.now ∧
      (∀ addr ∈ moment.worker.service.controllers, moment.accepted addr ≤ since) ∧
      (processing ≤ ticksPerSecond →
        (∃ addr, addr ∈ moment.worker.service.controllers) →
        ∃ anchor, anchor ≤ since ∧ since ≤ anchor + ticksPerSecond ∧
          moment.Anchored nx processing anchor)
  | .handling returned _ =>
      returned ≤ moment.now ∧
      (∀ addr ∈ moment.worker.service.controllers,
        returned ≤ moment.accepted addr + 12 * ticksPerSecond) ∧
      (processing ≤ ticksPerSecond →
        (∃ addr, addr ∈ moment.worker.service.controllers) →
        ∃ anchor, anchor ≤ returned ∧ returned ≤ anchor + 13 * ticksPerSecond ∧
          moment.Anchored nx processing anchor)
  | .checking returned =>
      returned ≤ moment.now ∧
      (∀ addr ∈ moment.worker.service.controllers,
        returned ≤ moment.accepted addr + 12 * ticksPerSecond) ∧
      (processing ≤ ticksPerSecond →
        (∀ addr ∈ moment.worker.service.controllers, returned ≤ moment.accepted addr) ∨
        ∃ anchor, anchor ≤ returned ∧ returned ≤ anchor + 13 * ticksPerSecond ∧
          moment.Anchored nx processing anchor)
  | .cleaning returned checked =>
      returned ≤ checked ∧ checked ≤ moment.now ∧
      ∀ addr ∈ moment.worker.service.controllers,
        returned ≤ moment.accepted addr + 12 * ticksPerSecond ∧
          moment.accepted addr ≤ checked

/-- What holds at every moment of a punctual run. -/
structure Moment.Sound (nx : Libnx) (processing : Nat) (moment : Moment) : Prop where
  owned : moment.worker.service.Owned
  stamped : ∀ addr input, moment.worker.service.session addr = some input →
    input.lastUpdateTick = clock (moment.accepted addr) ∧
      moment.accepted addr ≤ moment.now
  prompt : moment.Prompt processing
  stage : moment.StageSound nx processing

namespace Moment

variable {nx : Libnx} {processing : Nat} {moment : Moment}

theorem Sound.accepted_le (sound : moment.Sound nx processing) {addr : Addr}
    (present : addr ∈ moment.worker.service.controllers) :
    moment.accepted addr ≤ moment.now := by
  rcases (sound.owned.mem_iff_session addr).mp present with ⟨input, here⟩
  exact (sound.stamped addr input here).2

/-- While the worker is inside `recvfrom` no controller has been idle for more
than twelve seconds. -/
theorem Sound.age_of_blocked (sound : moment.Sound nx processing) {since : Nat}
    (blocked : moment.stage = .blocked since) {addr : Addr}
    (present : addr ∈ moment.worker.service.controllers) :
    moment.now ≤ moment.accepted addr + 12 * ticksPerSecond := by
  have prompt := sound.prompt
  have stage := sound.stage
  simp only [Prompt, blocked] at prompt
  simp only [StageSound, blocked] at stage
  rcases stage with ⟨sinceOrder, _, anchored⟩
  rcases prompt addr present with young | short
  · rw [ticksPerSecond] at young ⊢
    omega
  · rcases le_total since (moment.accepted addr + 11 * ticksPerSecond) with earlier | later
    · rw [max_eq_right earlier, ticksPerSecond] at short
      rw [ticksPerSecond]
      omega
    · rw [max_eq_left later] at short
      rcases anchored (by omega) ⟨addr, present⟩ with ⟨anchor, _, recent, _, age⟩
      have anchorAge := age addr present
      rw [ticksPerSecond] at short recent anchorAge ⊢
      omega

/-- At every moment of a punctual run every controller is young enough. -/
theorem Sound.age (sound : moment.Sound nx processing) {addr : Addr}
    (present : addr ∈ moment.worker.service.controllers) :
    moment.now ≤ moment.accepted addr + 12 * ticksPerSecond + processing := by
  have prompt := sound.prompt
  have soundStage := sound.stage
  cases stage : moment.stage with
  | blocked since =>
      exact Nat.le_add_right_of_le (sound.age_of_blocked stage present)
  | handling returned received =>
      simp only [Prompt, stage] at prompt
      simp only [StageSound, stage] at soundStage
      have returnedAge := soundStage.2.1 addr present
      omega
  | checking returned =>
      simp only [Prompt, stage] at prompt
      simp only [StageSound, stage] at soundStage
      have returnedAge := soundStage.2.1 addr present
      omega
  | cleaning returned checked =>
      simp only [Prompt, stage] at prompt
      simp only [StageSound, stage] at soundStage
      have returnedAge := (soundStage.2.2 addr present).1
      omega

/-! ### What each step preserves -/

theorem Sound.wait (sound : moment.Sound nx processing) (ticks : Nat)
    (prompt : Prompt processing { moment with now := moment.now + ticks }) :
    Sound nx processing { moment with now := moment.now + ticks } where
  owned := sound.owned
  stamped addr input here := by
    rcases sound.stamped addr input here with ⟨stamp, before⟩
    exact ⟨stamp, Nat.le_add_right_of_le before⟩
  prompt := prompt
  stage := by
    have soundStage := sound.stage
    cases stage : moment.stage with
    | blocked since =>
        simp only [StageSound, stage] at soundStage ⊢
        exact ⟨Nat.le_add_right_of_le soundStage.1, soundStage.2⟩
    | handling returned received =>
        simp only [StageSound, stage] at soundStage ⊢
        exact ⟨Nat.le_add_right_of_le soundStage.1, soundStage.2⟩
    | checking returned =>
        simp only [StageSound, stage] at soundStage ⊢
        exact ⟨Nat.le_add_right_of_le soundStage.1, soundStage.2⟩
    | cleaning returned checked =>
        simp only [StageSound, stage] at soundStage ⊢
        exact ⟨soundStage.1, Nat.le_add_right_of_le soundStage.2.1, soundStage.2.2⟩

theorem Sound.arrive (sound : moment.Sound nx processing) {since : Nat}
    (received : Received) (blocked : moment.stage = .blocked since)
    (prompt : Prompt processing { moment with stage := .handling moment.now received }) :
    Sound nx processing { moment with stage := .handling moment.now received } where
  owned := sound.owned
  stamped := sound.stamped
  prompt := prompt
  stage := by
    have stage := sound.stage
    simp only [StageSound, blocked] at stage
    rcases stage with ⟨sinceOrder, acceptedOrder, anchored⟩
    apply And.intro (Nat.le_refl _)
    constructor
    · intro addr present
      exact sound.age_of_blocked blocked present
    · rintro short ⟨addr, present⟩
      rcases anchored short ⟨addr, present⟩ with ⟨anchor, anchorOrder, recent, isAnchored⟩
      have young := sound.age_of_blocked blocked present
      have before := acceptedOrder addr present
      have stillRecent : moment.now ≤ anchor + 13 * ticksPerSecond := by
        rw [ticksPerSecond] at young recent ⊢
        omega
      exact ⟨anchor, Nat.le_trans anchorOrder sinceOrder, stillRecent, isAnchored⟩

theorem Sound.skip (counts : nx.CountsTicks) (sound : moment.Sound nx processing)
    {returned : Nat} (checking : moment.stage = .checking returned)
    (early : ¬nx.armTicksToNs (clock moment.now - moment.worker.lastCleanupTicks) >
      1000000000)
    (prompt : Prompt processing { moment with stage := .blocked moment.now }) :
    Sound nx processing { moment with stage := .blocked moment.now } where
  owned := sound.owned
  stamped := sound.stamped
  prompt := prompt
  stage := by
    have stage := sound.stage
    have quick := sound.prompt
    simp only [StageSound, checking] at stage
    simp only [Prompt, checking] at quick
    rcases stage with ⟨returnedOrder, _, anchored⟩
    apply And.intro (Nat.le_refl _)
    constructor
    · intro addr present
      exact sound.accepted_le present
    · intro short _
      rcases anchored short with fresh | ⟨anchor, anchorOrder, recent, isAnchored⟩
      · -- every controller was accepted in this iteration: this check is the anchor
        have young : ∀ addr ∈ moment.worker.service.controllers,
            moment.now ≤ moment.accepted addr + 10 * ticksPerSecond + processing := by
          intro addr present
          have accepted : returned ≤ moment.accepted addr := fresh addr present
          omega
        exact ⟨moment.now, Nat.le_refl _, Nat.le_add_right _ _, early, young⟩
      · have order : anchor ≤ moment.now := Nat.le_trans anchorOrder returnedOrder
        have near : moment.now ≤ anchor + 2 ^ 40 := by
          rw [ticksPerSecond] at recent short
          omega
        exact ⟨anchor, order, counts.le_second order near isAnchored.1 early, isAnchored⟩

theorem Sound.due (sound : moment.Sound nx processing) {returned : Nat}
    (checking : moment.stage = .checking returned)
    (prompt : Prompt processing { moment with stage := .cleaning returned moment.now }) :
    Sound nx processing { moment with stage := .cleaning returned moment.now } where
  owned := sound.owned
  stamped := sound.stamped
  prompt := prompt
  stage := by
    have stage := sound.stage
    simp only [StageSound, checking] at stage
    exact ⟨stage.1, Nat.le_refl _, fun addr present =>
      ⟨stage.2.1 addr present, sound.accepted_le present⟩⟩

/-- A client that is still there after a datagram was handled was there before, with
the same acceptance, or was accepted now. -/
theorem Sound.entry_of_handled (sound : moment.Sound nx processing)
    {received : Received} {replies : ReceiveReplies} {outcome : ReceiveOutcome}
    {fd : Int} {service : VirtualControllerService} {errorCount : BitVec 64}
    {calls : List Call} (updateTick : replies.updateTick = clock moment.now)
    (ran : moment.worker.service.receiveMessages nx received replies = .ok outcome)
    (branch : (if outcome.returned then (outcome.service, moment.worker.errorCount, [])
      else Worker.countError outcome.service moment.worker.errorCount fd) =
        (service, errorCount, calls))
    {addr : Addr} {input : ControllerInput} (here : service.session addr = some input) :
    (moment.worker.service.session addr = some input ∧
        moment.acceptedAfter received addr = moment.accepted addr) ∨
      (input.lastUpdateTick = clock moment.now ∧
        moment.acceptedAfter received addr = moment.now) := by
  rcases session_of_handled sound.owned ran branch addr with
    ⟨same, kept⟩ | gone | ⟨accepted, rfl, fresh, freshHere, stamp⟩
  · left
    constructor
    · rw [← same, here]
    · by_cases accepted : accepts moment.worker.service received = true
      · have other : addr ≠ received.addr := fun same => kept ⟨accepted, same.symm⟩
        rw [acceptedAfter, if_pos accepted, Function.update_of_ne other]
      · rw [acceptedAfter, if_neg accepted]
  · rw [gone] at here
    contradiction
  · right
    rw [here] at freshHere
    cases freshHere
    constructor
    · rw [stamp, updateTick]
    · rw [acceptedAfter, if_pos accepted, Function.update_self]

/-- A handled datagram makes some controllers younger and none older. -/
theorem Sound.handle (sound : moment.Sound nx processing) {returned : Nat}
    {received : Received} {replies : ReceiveReplies} {outcome : ReceiveOutcome}
    {fd : Int} {service : VirtualControllerService} {errorCount : BitVec 64}
    {calls : List Call} (handling : moment.stage = .handling returned received)
    (updateTick : replies.updateTick = clock moment.now)
    (ran : moment.worker.service.receiveMessages nx received replies = .ok outcome)
    (branch : (if outcome.returned then (outcome.service, moment.worker.errorCount, [])
      else Worker.countError outcome.service moment.worker.errorCount fd) =
        (service, errorCount, calls))
    {next : Moment}
    (isNext : next =
      { worker := ⟨service, moment.worker.lastCleanupTicks, errorCount⟩
        stage := .checking returned
        now := moment.now
        accepted := moment.acceptedAfter received })
    (prompt : next.Prompt processing) : next.Sound nx processing := by
  have owned : service.Owned := by
    rcases Worker.entries_of_counted branch with ⟨controllers, heap⟩
    have before := sound.owned.receiveMessages ran
    rw [VirtualControllerService.Owned, controllers, heap]
    exact before
  have member : ∀ addr ∈ service.controllers,
      (addr ∈ moment.worker.service.controllers ∧
        moment.acceptedAfter received addr = moment.accepted addr) ∨
      moment.acceptedAfter received addr = moment.now := by
    intro addr present
    rcases (owned.mem_iff_session addr).mp present with ⟨input, here⟩
    rcases sound.entry_of_handled updateTick ran branch here with
      ⟨before, same⟩ | ⟨_, now⟩
    · exact Or.inl ⟨(sound.owned.mem_iff_session addr).mpr ⟨input, before⟩, same⟩
    · exact Or.inr now
  have stage := sound.stage
  simp only [StageSound, handling] at stage
  rcases stage with ⟨returnedOrder, ages, anchored⟩
  subst isNext
  constructor
  · exact owned
  · intro addr input here
    change input.lastUpdateTick = clock (moment.acceptedAfter received addr) ∧
      moment.acceptedAfter received addr ≤ moment.now
    rcases sound.entry_of_handled updateTick ran branch here with
      ⟨before, same⟩ | ⟨stamp, now⟩
    · rw [same]
      exact sound.stamped addr input before
    · rw [now]
      exact ⟨stamp, Nat.le_refl _⟩
  · exact prompt
  · apply And.intro returnedOrder
    constructor
    · intro addr present
      change returned ≤ moment.acceptedAfter received addr + 12 * ticksPerSecond
      rcases member addr present with ⟨before, same⟩ | now
      · rw [same]
        exact ages addr before
      · rw [now]
        exact Nat.le_add_right_of_le returnedOrder
    · intro short
      by_cases populated : ∃ addr, addr ∈ moment.worker.service.controllers
      · right
        rcases anchored short populated with
          ⟨anchor, anchorOrder, recent, notDue, anchorAges⟩
        have stillYoung : ∀ addr ∈ service.controllers,
            anchor ≤ moment.acceptedAfter received addr + 10 * ticksPerSecond +
              processing := by
          intro addr present
          rcases member addr present with ⟨before, same⟩ | now
          · rw [same]
            exact anchorAges addr before
          · rw [now]
            omega
        exact ⟨anchor, anchorOrder, recent, notDue, stillYoung⟩
      · left
        intro addr present
        change returned ≤ moment.acceptedAfter received addr
        rcases member addr present with ⟨before, _⟩ | now
        · exact absurd ⟨addr, before⟩ populated
        · rw [now]
          exact returnedOrder

/-- A cleanup becomes the new anchor: what it leaves had been idle for at most ten
seconds when it was looked at. -/
theorem Sound.clean (counts : nx.CountsTicks) (sound : moment.Sound nx processing)
    {returned checked : Nat} {times : Addr → Nat} {service : VirtualControllerService}
    {calls : List Call} (cleaning : moment.stage = .cleaning returned checked)
    (timesOrder : ∀ addr, checked ≤ times addr ∧ times addr ≤ moment.now)
    (swept : moment.worker.service.cleanup nx false (fun addr => clock (times addr)) =
      .ok (service, calls))
    {next : Moment}
    (isNext : next =
      { worker := ⟨service, clock moment.now, moment.worker.errorCount⟩
        stage := .blocked moment.now
        now := moment.now
        accepted := moment.accepted })
    (prompt : next.Prompt processing) : next.Sound nx processing := by
  rcases sound.owned.cleanup_spec nx false (fun addr => clock (times addr)) with
    ⟨same, sameCalls, ran, sweep, tables⟩
  cases Except.ok.inj (swept.symm.trans ran)
  have owned := sweep.owned sound.owned
  have kept : ∀ addr input, service.session addr = some input →
      moment.worker.service.session addr = some input ∧
        Session.expired nx input (clock (times addr)) = false := by
    intro addr input here
    rw [VirtualControllerService.session, tables, Table.session_cleanup,
      Session.step, Option.filter_eq_some_iff] at here
    exact ⟨here.1, by simpa using here.2⟩
  have stage := sound.stage
  have quick := sound.prompt
  simp only [StageSound, cleaning] at stage
  simp only [Prompt, cleaning] at quick
  rcases stage with ⟨returnedOrder, checkedOrder, ages⟩
  subst isNext
  constructor
  · exact owned
  · intro addr input here
    exact sound.stamped addr input (kept addr input here).1
  · exact prompt
  · apply And.intro (Nat.le_refl _)
    constructor
    · intro addr present
      rcases (owned.mem_iff_session addr).mp present with ⟨input, here⟩
      exact (sound.stamped addr input (kept addr input here).1).2
    · intro short _
      refine ⟨moment.now, Nat.le_refl _, Nat.le_add_right _ _,
        counts.not_late_self _ _, ?_⟩
      intro addr present
      rcases (owned.mem_iff_session addr).mp present with ⟨input, here⟩
      rcases kept addr input here with ⟨before, stays⟩
      have stamp := (sound.stamped addr input before).1
      have age := ages addr ((sound.owned.mem_iff_session addr).mpr ⟨input, before⟩)
      rcases timesOrder addr with ⟨afterCheck, beforeNow⟩
      have early : ¬nx.armTicksToNs (clock (times addr) - clock (moment.accepted addr)) >
          10000000000 := by
        rw [← stamp]
        exact of_decide_eq_false stays
      have order : moment.accepted addr ≤ times addr := Nat.le_trans age.2 afterCheck
      have near : times addr ≤ moment.accepted addr + 2 ^ 40 := by
        have returnedAge := age.1
        rw [ticksPerSecond] at short returnedAge
        omega
      have idle := counts.le_ten_seconds order near early
      change moment.now ≤ moment.accepted addr + 10 * ticksPerSecond + processing
      omega

theorem Sound.step (counts : nx.CountsTicks) (sound : moment.Sound nx processing)
    {next : Moment} (stepped : TimedStep nx moment next)
    (prompt : next.Prompt processing) : next.Sound nx processing := by
  cases stepped with
  | wait ticks => exact sound.wait ticks prompt
  | arrive received blocked => exact sound.arrive received blocked prompt
  | handle handling updateTick ran branch =>
      exact sound.handle handling updateTick ran branch rfl prompt
  | skip checking early => exact sound.skip counts checking early prompt
  | due checking late => exact sound.due checking prompt
  | clean cleaning timesOrder swept =>
      exact sound.clean counts cleaning timesOrder swept rfl prompt

end Moment

theorem sound_entered (nx : Libnx) (fd : Int) (begun processing : Nat) :
    (entered fd begun).Sound nx processing where
  owned := owned_listening fd
  stamped addr input here := by
    rw [VirtualControllerService.session, Table.session] at here
    simp [entered] at here
  prompt addr present := by
    have absent : (listening fd).session addr = none := by
      rw [VirtualControllerService.session, Table.session, table_listening]
      rfl
    exact absurd present (((owned_listening fd).not_mem_iff_session addr).mpr absent)
  stage := by
    have empty : ∀ addr, addr ∉ (listening fd).controllers := by
      intro addr
      rw [(owned_listening fd).not_mem_iff_session, VirtualControllerService.session,
        Table.session, table_listening]
      rfl
    apply And.intro (Nat.le_refl _)
    constructor
    · intro addr present
      exact absurd present (empty addr)
    · rintro _ ⟨addr, present⟩
      exact absurd present (empty addr)

/-- The first datagram of a client, just received. -/
def firstArrival : Moment :=
  { entered 3 0 with stage := .handling 0 (.whole 1 (.neutral 1 1)) }

/-- Handling it takes no time and leaves the client connected. -/
theorem exists_handled_firstArrival :
    ∃ moment, TimedStep Libnx.console firstArrival moment ∧
      moment.stage = .checking 0 ∧ moment.now = 0 ∧ moment.accepted 1 = 0 ∧
      moment.worker.lastCleanupTicks = 0 ∧
      (∃ controller, moment.worker.service.table 1 = some controller ∧
        controller.hdlsHandle = 7 ∧ controller.hidState.buttons = 1) ∧
      (1 : Addr) ∈ moment.worker.service.controllers :=
  ⟨_, @TimedStep.handle Libnx.console firstArrival 0 (.whole 1 (.neutral 1 1))
    ⟨0, ⟨0, 7⟩, 0, .fine⟩ _ 0 _ _ _ rfl rfl rfl rfl, rfl, rfl, rfl, rfl,
    ⟨_, rfl, rfl, rfl⟩, by decide⟩

end SysTweak.Vcon
