import SysTweak.Hotkey.Service
import SysTweak.Transition.Episode

/-!
# The timing of one combination

The entry of one pad and type sees a stream of polls: whether the combination is
pressed, and the tick.  The entry follows the episodes of the stream, and the
actions are read off it.
-/

namespace SysTweak.Hotkey

open SysTweak.Transition

section

variable (duration : BitVec 64) (pressed : Nat → Bool) (tick : Nat → BitVec 64)

/-- The entry before poll `n`. -/
def comboAt : Nat → HotkeyCacheCombo
  | 0 => ⟨0, false⟩
  | n + 1 => (processCombo duration (comboAt n) (pressed n) (tick n)).1

/-- The action of poll `n`. -/
def issuedAt (n : Nat) : Option Bool :=
  (processCombo duration (comboAt duration pressed tick n) (pressed n) (tick n)).2

end

section

variable (duration : BitVec 64) (tick : Nat → BitVec 64)

/-- At `n`, a combination pressed since `start` is pressed for longer than
`duration`; the difference wraps. -/
def LongPress (start n : Nat) : Prop :=
  tick n - tick start > duration

/-- No poll after `start` and before `n` is a long press. -/
def NotYetLong (start n : Nat) : Prop :=
  ∀ m, start < m → m < n → ¬LongPress duration tick start m

/-- The first poll after `start` that is a long press. -/
structure FirstLongPress (start first : Nat) : Prop where
  later : start < first
  long : LongPress duration tick start first
  notBefore : NotYetLong duration tick start first

end

section

variable {duration : BitVec 64} {tick : Nat → BitVec 64}

theorem notYetLong_succ (start : Nat) : NotYetLong duration tick start (start + 1) := by
  intro m after before
  omega

theorem NotYetLong.extend {start n : Nat} (notYet : NotYetLong duration tick start n)
    (short : ¬LongPress duration tick start n) :
    NotYetLong duration tick start (n + 1) := by
  intro m after before
  rcases Nat.lt_succ_iff_lt_or_eq.mp before with earlier | rfl
  · exact notYet m after earlier
  · exact short

theorem FirstLongPress.not_notYetLong {start first n : Nat}
    (one : FirstLongPress duration tick start first) (before : first < n) :
    ¬NotYetLong duration tick start n :=
  fun notYet => notYet first one.later before one.long

theorem FirstLongPress.unique {start first second : Nat}
    (one : FirstLongPress duration tick start first)
    (other : FirstLongPress duration tick start second) : first = second := by
  rcases Nat.lt_trichotomy first second with earlier | same | later
  · exact absurd other.notBefore (one.not_notYetLong earlier)
  · exact same
  · exact absurd one.notBefore (other.not_notYetLong later)

end

section

variable (duration : BitVec 64) (pressed : Nat → Bool) (tick : Nat → BitVec 64)

/-- What the entry knows before poll `n`: nothing while the combination is not
held, otherwise the tick of the first poll of the episode and whether a long press
has been seen in it. -/
inductive Follows (n : Nat) : HotkeyCacheCombo → Prop
  | idle (resting : Resting (pressed · = true) n) : Follows n ⟨0, false⟩
  | held (start : Nat) (episode : Episode (pressed · = true) start n)
      (notYet : NotYetLong duration tick start n) : Follows n ⟨tick start, false⟩
  | fired (start first : Nat) (episode : Episode (pressed · = true) start n)
      (one : FirstLongPress duration tick start first) (past : first < n) :
      Follows n ⟨tick start, true⟩

end

section

variable {duration start tick : BitVec 64}

theorem processCombo_idle :
    processCombo duration ⟨0, false⟩ false tick = (⟨0, false⟩, none) :=
  rfl

theorem processCombo_press :
    processCombo duration ⟨0, false⟩ true tick = (⟨tick, false⟩, none) :=
  rfl

theorem processCombo_wait (nonzero : start ≠ 0) (short : ¬tick - start > duration) :
    processCombo duration ⟨start, false⟩ true tick = (⟨start, false⟩, none) := by
  simp only [processCombo, if_true, if_neg nonzero, Bool.not_false, Bool.true_and,
    decide_eq_true_eq, if_neg short]

theorem processCombo_long (nonzero : start ≠ 0) (long : tick - start > duration) :
    processCombo duration ⟨start, false⟩ true tick = (⟨start, true⟩, some true) := by
  simp only [processCombo, if_true, if_neg nonzero, Bool.not_false, Bool.true_and,
    decide_eq_true_eq, if_pos long]

theorem processCombo_hold (nonzero : start ≠ 0) :
    processCombo duration ⟨start, true⟩ true tick = (⟨start, true⟩, none) := by
  simp only [processCombo, if_true, if_neg nonzero, Bool.not_true, Bool.false_and,
    Bool.false_eq_true, if_false]

theorem processCombo_release_short (nonzero : start ≠ 0) :
    processCombo duration ⟨start, false⟩ false tick = (⟨0, false⟩, some false) := by
  simp only [processCombo, Bool.false_eq_true, if_false, if_pos nonzero]

theorem processCombo_release_long (nonzero : start ≠ 0) :
    processCombo duration ⟨start, true⟩ false tick = (⟨0, false⟩, none) := by
  simp only [processCombo, Bool.false_eq_true, if_false, if_true, if_pos nonzero]

end

section

variable (duration : BitVec 64) (pressed : Nat → Bool) (tick : Nat → BitVec 64)

/-- The action poll `n` is to issue, from the episode that has lasted until it. -/
inductive Due (n : Nat) : Option Bool → Prop
  | rest (resting : Resting (pressed · = true) n) : Due n none
  | wait (start : Nat) (episode : Episode (pressed · = true) start n)
      (here : pressed n = true) (notYet : NotYetLong duration tick start (n + 1)) :
      Due n none
  | long (start : Nat) (episode : Episode (pressed · = true) start n)
      (here : pressed n = true) (one : FirstLongPress duration tick start n) :
      Due n (some true)
  | short (start : Nat) (episode : Episode (pressed · = true) start n)
      (released : pressed n = false) (notYet : NotYetLong duration tick start n) :
      Due n (some false)
  | spent (start first : Nat) (episode : Episode (pressed · = true) start n)
      (one : FirstLongPress duration tick start first) (past : first < n) :
      Due n none

end

section

variable {duration : BitVec 64} {pressed : Nat → Bool} {tick : Nat → BitVec 64}
  {length : Nat}

/-- One poll issues what is due and keeps the entry following the episodes, as long
as no tick is the value that stands for a combination that is not held. -/
theorem Follows.poll {n : Nat} {combo : HotkeyCacheCombo}
    (running : ∀ m, m ≤ n → tick m ≠ 0)
    (follows : Follows duration pressed tick n combo) :
    Due duration pressed tick n
        (processCombo duration combo (pressed n) (tick n)).2 ∧
      Follows duration pressed tick (n + 1)
        (processCombo duration combo (pressed n) (tick n)).1 := by
  cases here : pressed n with
  | false =>
      have resting : Resting (pressed · = true) (n + 1) :=
        resting_succ_iff.mpr (by simp [here])
      cases follows with
      | idle before =>
          rw [processCombo_idle]
          exact ⟨.rest before, .idle resting⟩
      | held start episode notYet =>
          rw [processCombo_release_short (running start (Nat.le_of_lt episode.nonempty))]
          exact ⟨.short start episode here notYet, .idle resting⟩
      | fired start first episode one past =>
          rw [processCombo_release_long (running start (Nat.le_of_lt episode.nonempty))]
          exact ⟨.spent start first episode one past, .idle resting⟩
  | true =>
      cases follows with
      | idle before =>
          rw [processCombo_press]
          exact ⟨.rest before, .held n (before.episode here) (notYetLong_succ n)⟩
      | held start episode notYet =>
          have nonzero := running start (Nat.le_of_lt episode.nonempty)
          by_cases long : LongPress duration tick start n
          · have one : FirstLongPress duration tick start n :=
              ⟨episode.nonempty, long, notYet⟩
            rw [processCombo_long nonzero long]
            exact ⟨.long start episode here one,
              .fired start n (episode.extend here) one (Nat.lt_succ_self n)⟩
          · have still := notYet.extend long
            rw [processCombo_wait nonzero long]
            exact ⟨.wait start episode here still,
              .held start (episode.extend here) still⟩
      | fired start first episode one past =>
          rw [processCombo_hold (running start (Nat.le_of_lt episode.nonempty))]
          exact ⟨.spent start first episode one past,
            .fired start first (episode.extend here) one (Nat.lt_succ_of_lt past)⟩

/-- The entry follows the episodes at every poll. -/
theorem comboAt_follows (running : ∀ m, m < length → tick m ≠ 0) {n : Nat}
    (within : n ≤ length) :
    Follows duration pressed tick n (comboAt duration pressed tick n) := by
  induction n with
  | zero => exact .idle resting_zero
  | succ n ih =>
      have runningUntil : ∀ m, m ≤ n → tick m ≠ 0 := fun m before =>
        running m (Nat.lt_of_le_of_lt before within)
      exact ((ih (Nat.le_of_succ_le within)).poll runningUntil).2

/-- Every poll issues what is due. -/
theorem issuedAt_due (running : ∀ m, m < length → tick m ≠ 0) {n : Nat}
    (within : n < length) :
    Due duration pressed tick n (issuedAt duration pressed tick n) := by
  have runningUntil : ∀ m, m ≤ n → tick m ≠ 0 := fun m before =>
    running m (Nat.lt_of_le_of_lt before within)
  exact ((comboAt_follows running (Nat.le_of_lt within)).poll runningUntil).1

/-- Nothing is due unless an episode has lasted until the poll. -/
theorem Due.of_rest {n : Nat} {action : Option Bool}
    (due : Due duration pressed tick n action)
    (noEpisode : ∀ start, ¬Episode (pressed · = true) start n) : action = none := by
  cases due with
  | rest | wait | spent => rfl
  | long start episode | short start episode => exact absurd episode (noEpisode start)

/-- In an episode with a long press the action is due at the first one, and no other
is until the release. -/
theorem Due.of_long {start stop first n : Nat} {action : Option Bool}
    (due : Due duration pressed tick n action)
    (maximal : MaximalEpisode (pressed · = true) length start stop)
    (one : FirstLongPress duration tick start first)
    (inside : first < stop) (above : start ≤ n) (below : n ≤ stop) :
    action = if n = first then some true else none := by
  rcases Nat.lt_or_eq_of_le above with after | rfl
  · have lasted := maximal.episode.truncate after below
    cases due with
    | rest resting => exact absurd resting lasted.not_resting
    | wait start' episode here notYet =>
        cases episode.start_unique lasted
        have different : n ≠ first := by
          rintro rfl
          exact one.not_notYetLong (Nat.lt_succ_self n) notYet
        rw [if_neg different]
    | long start' episode here other =>
        cases episode.start_unique lasted
        rw [if_pos (other.unique one)]
    | short start' episode released notYet =>
        cases episode.start_unique lasted
        have atStop : n = stop := maximal.eq_stop above below (by simp [released])
        subst atStop
        exact absurd notYet (one.not_notYetLong inside)
    | spent start' first' episode other past =>
        cases episode.start_unique lasted
        rw [if_neg (by rw [one.unique other]; exact Nat.ne_of_gt past)]
  · rw [if_neg (Nat.ne_of_lt one.later)]
    apply due.of_rest
    intro earlier episode
    exact episode.not_resting maximal.episode.begins

/-- In an episode without a long press the action is due at the release, and no
other is. -/
theorem Due.of_short {start stop n : Nat} {action : Option Bool}
    (due : Due duration pressed tick n action) (within : n < length)
    (maximal : MaximalEpisode (pressed · = true) length start stop)
    (notYet : NotYetLong duration tick start stop)
    (above : start ≤ n) (below : n ≤ stop) :
    action = if n = stop then some false else none := by
  rcases Nat.lt_or_eq_of_le above with after | rfl
  · have lasted := maximal.episode.truncate after below
    cases due with
    | rest resting => exact absurd resting lasted.not_resting
    | wait start' episode here =>
        have different : n ≠ stop := by
          rintro rfl
          exact maximal.finished within here
        rw [if_neg different]
    | long start' episode here other =>
        cases episode.start_unique lasted
        have inside : n < stop := by
          rcases Nat.lt_or_eq_of_le below with inside | rfl
          · exact inside
          · exact absurd here (maximal.finished within)
        exact absurd notYet (other.not_notYetLong inside)
    | short start' episode released =>
        rw [if_pos (maximal.eq_stop above below (by simp [released]))]
    | spent start' first episode other past =>
        cases episode.start_unique lasted
        exact absurd notYet (other.not_notYetLong (Nat.lt_of_lt_of_le past below))
  · rw [if_neg (Nat.ne_of_lt maximal.episode.nonempty)]
    apply due.of_rest
    intro earlier episode
    exact episode.not_resting maximal.episode.begins

end

section

variable (duration : BitVec 64) (pressed : Nat → Bool) (tick : Nat → BitVec 64)
  (length : Nat) (issued : Nat → Option Bool)

/-- The action trace of one combination over `length` polls.  Every action belongs
to an episode: the only one of an episode with a long press is at the first long
press, the only one of any other episode is at the first poll after it. -/
structure Traced : Prop where
  long : ∀ start stop first, MaximalEpisode (pressed · = true) length start stop →
    FirstLongPress duration tick start first → first < stop →
      ∀ n, start ≤ n → n ≤ stop → n < length →
        issued n = if n = first then some true else none
  short : ∀ start stop, MaximalEpisode (pressed · = true) length start stop →
    NotYetLong duration tick start stop →
      ∀ n, start ≤ n → n ≤ stop → n < length →
        issued n = if n = stop then some false else none
  noOther : ∀ n, n < length →
    (∀ start stop, MaximalEpisode (pressed · = true) length start stop →
      ¬(start ≤ n ∧ n ≤ stop)) → issued n = none

end

/-- The entry issues exactly the action trace. -/
theorem issuedAt_traced {duration : BitVec 64} {pressed : Nat → Bool}
    {tick : Nat → BitVec 64} {length : Nat}
    (running : ∀ m, m < length → tick m ≠ 0) :
    Traced duration pressed tick length (issuedAt duration pressed tick) where
  long start stop first maximal one inside n above below within :=
    (issuedAt_due running within).of_long maximal one inside above below
  short start stop maximal notYet n above below within :=
    (issuedAt_due running within).of_short within maximal notYet above below
  noOther n within outside := by
    apply (issuedAt_due running within).of_rest
    intro start episode
    rcases episode.exists_maximal (Nat.le_of_lt within) with ⟨stop, later, maximal⟩
    exact outside start stop maximal ⟨Nat.le_of_lt episode.nonempty, later⟩

end SysTweak.Hotkey
