import Mathlib.Data.Nat.Basic

/-!
# Episodes

An episode of a predicate on the natural numbers is a stretch on which it holds,
with nothing before it.  An episode that has lasted until `stop` either goes on
at `stop` or is over; at every point there is exactly one episode that has
lasted until there, or none.
-/

namespace SysTweak.Transition

variable {holds : Nat → Prop}

/-- The predicate does not hold just before `n`. -/
def Resting (holds : Nat → Prop) (n : Nat) : Prop :=
  ∀ m, m + 1 = n → ¬holds m

/-- The predicate holds from `start` until just before `stop`, and not just before
`start`. -/
structure Episode (holds : Nat → Prop) (start stop : Nat) : Prop where
  nonempty : start < stop
  throughout : ∀ n, start ≤ n → n < stop → holds n
  begins : Resting holds start

theorem resting_zero : Resting holds 0 := by
  intro m impossible
  contradiction

theorem resting_succ_iff {n : Nat} : Resting holds (n + 1) ↔ ¬holds n := by
  constructor
  · intro resting
    exact resting n rfl
  · rintro ends m same
    cases same
    exact ends

theorem Resting.episode {n : Nat} (resting : Resting holds n) (here : holds n) :
    Episode holds n (n + 1) where
  nonempty := Nat.lt_succ_self n
  throughout m above below := by
    rw [Nat.le_antisymm (Nat.le_of_lt_succ below) above]
    exact here
  begins := resting

theorem Episode.extend {start n : Nat} (episode : Episode holds start n)
    (here : holds n) : Episode holds start (n + 1) where
  nonempty := Nat.lt_succ_of_lt episode.nonempty
  throughout m above below := by
    rcases Nat.lt_succ_iff_lt_or_eq.mp below with earlier | rfl
    · exact episode.throughout m above earlier
    · exact here
  begins := episode.begins

theorem Episode.truncate {start stop n : Nat} (episode : Episode holds start stop)
    (above : start < n) (below : n ≤ stop) : Episode holds start n where
  nonempty := above
  throughout m after before :=
    episode.throughout m after (Nat.lt_of_lt_of_le before below)
  begins := episode.begins

theorem Episode.not_resting {start n : Nat} (episode : Episode holds start n) :
    ¬Resting holds n := by
  intro resting
  cases n with
  | zero => exact Nat.not_lt_zero start episode.nonempty
  | succ n =>
      exact resting n rfl (episode.throughout n (Nat.le_of_lt_succ episode.nonempty)
        (Nat.lt_succ_self n))

/-- Two episodes that last until the same point begin at the same point. -/
theorem Episode.start_unique {first second n : Nat} (one : Episode holds first n)
    (other : Episode holds second n) : first = second := by
  have notBefore : ∀ {first second : Nat}, Episode holds first n →
      Episode holds second n → ¬first < second := by
    intro first second one other earlier
    cases second with
    | zero => exact Nat.not_lt_zero first earlier
    | succ second =>
        exact other.begins second rfl (one.throughout second
          (Nat.le_of_lt_succ earlier) (Nat.lt_of_succ_lt other.nonempty))
  exact Nat.le_antisymm (Nat.not_lt.mp (notBefore other one))
    (Nat.not_lt.mp (notBefore one other))

/-- An episode among the first `length` points that is over, or lasts until
`length`. -/
structure MaximalEpisode (holds : Nat → Prop) (length start stop : Nat) : Prop where
  episode : Episode holds start stop
  within : stop ≤ length
  finished : stop < length → ¬holds stop

/-- Every episode goes on until it is over. -/
theorem Episode.exists_maximal {length start n : Nat} (episode : Episode holds start n)
    (within : n ≤ length) :
    ∃ stop, n ≤ stop ∧ MaximalEpisode holds length start stop := by
  induction rest : length - n generalizing n with
  | zero =>
      have reached : n = length :=
        Nat.le_antisymm within (Nat.le_of_sub_eq_zero rest)
      exact ⟨n, Nat.le_refl n, episode, within, fun before => by
        rw [reached] at before
        exact absurd before (Nat.lt_irrefl length)⟩
  | succ left ih =>
      by_cases here : holds n
      · have more : n + 1 ≤ length := by omega
        rcases ih (episode.extend here) more (by omega) with ⟨stop, later, maximal⟩
        exact ⟨stop, Nat.le_of_succ_le later, maximal⟩
      · exact ⟨n, Nat.le_refl n, episode, within, fun _ => here⟩

/-- Within a maximal episode the point at its end is the only one that does not
hold. -/
theorem MaximalEpisode.eq_stop {length start stop n : Nat}
    (maximal : MaximalEpisode holds length start stop) (above : start ≤ n)
    (below : n ≤ stop) (ends : ¬holds n) : n = stop := by
  rcases Nat.lt_or_eq_of_le below with inside | same
  · exact absurd (maximal.episode.throughout n above inside) ends
  · exact same

end SysTweak.Transition
