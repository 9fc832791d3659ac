import Mathlib.Tactic.Abel
import Mathlib.Data.BitVec
import SysTweak.Platform.Libnx

/-!
# The system tick counter

`armGetSystemTick` is a 64-bit counter of 19.2 MHz, and `armTicksToNs` scales a
difference of two readings to nanoseconds, in 64 bits again.  This file says
what the comparisons the source makes on such differences mean for the time
that has passed.
-/

namespace SysTweak.Platform

/-- Ticks in one second. -/
def ticksPerSecond : Nat :=
  19200000

/-- The counter at a time given in ticks. -/
def clock (now : Nat) : BitVec 64 :=
  BitVec.ofNat 64 now

/-- `armTicksToNs` is `(tick * 625) / 12`. -/
def Libnx.CountsTicks (nx : Libnx) : Prop :=
  ∀ ticks, nx.armTicksToNs ticks = ticks * 625 / 12

theorem Libnx.console_countsTicks : Libnx.console.CountsTicks :=
  fun _ => rfl

theorem clock_sub_clock {earlier later : Nat} (order : earlier ≤ later) :
    clock later - clock earlier = clock (later - earlier) := by
  apply BitVec.eq_of_toNat_eq
  simp only [clock, BitVec.toNat_sub, BitVec.toNat_ofNat]
  omega

/-- A gap too short for the scaling to wrap again. -/
theorem gap_le_second {scaled gap : Nat} (first : scaled / 12 ≤ 1000000000)
    (second : (scaled + gap * 625) % 2 ^ 64 / 12 ≤ 1000000000) (near : gap ≤ 2 ^ 40) :
    gap ≤ ticksPerSecond := by
  have small : scaled + gap * 625 < 2 ^ 64 := by omega
  rw [Nat.mod_eq_of_lt small] at second
  rw [ticksPerSecond]
  omega

section

variable {nx : Libnx} (counts : nx.CountsTicks)

include counts

theorem Libnx.CountsTicks.toNat_armTicksToNs (ticks : BitVec 64) :
    (nx.armTicksToNs ticks).toNat = ticks.toNat * 625 % 2 ^ 64 / 12 := by
  rw [counts, BitVec.toNat_udiv, BitVec.toNat_mul]
  rfl

/-- A difference of no time is not late. -/
theorem Libnx.CountsTicks.not_late_self (now : Nat) (limit : BitVec 64) :
    ¬nx.armTicksToNs (clock now - clock now) > limit := by
  have zero : nx.armTicksToNs (clock now - clock now) = 0 := by
    rw [counts, BitVec.sub_self]
    rfl
  rw [zero]
  exact BitVec.not_lt_zero

/-- Not more than ten seconds between two readings that are not too far apart. -/
theorem Libnx.CountsTicks.le_ten_seconds {earlier later : Nat} (order : earlier ≤ later)
    (near : later ≤ earlier + 2 ^ 40)
    (early : ¬nx.armTicksToNs (clock later - clock earlier) > 10000000000) :
    later ≤ earlier + 10 * ticksPerSecond := by
  have bound : (nx.armTicksToNs (clock later - clock earlier)).toNat ≤ 10000000000 :=
    Nat.not_lt.mp fun above => early (BitVec.lt_def.mpr above)
  have ticks : (clock later - clock earlier).toNat = later - earlier := by
    rw [clock_sub_clock order, clock, BitVec.toNat_ofNat]
    exact Nat.mod_eq_of_lt (by omega)
  rw [counts.toNat_armTicksToNs, ticks, Nat.mod_eq_of_lt (by omega)] at bound
  rw [ticksPerSecond]
  omega

/-- Two readings at which one and the same earlier reading was not more than a
second away are not more than a second apart, even if the counter or the scaling
has wrapped since that reading. -/
theorem Libnx.CountsTicks.le_second {reference : BitVec 64} {earlier later : Nat}
    (order : earlier ≤ later) (near : later ≤ earlier + 2 ^ 40)
    (first : ¬nx.armTicksToNs (clock earlier - reference) > 1000000000)
    (second : ¬nx.armTicksToNs (clock later - reference) > 1000000000) :
    later ≤ earlier + ticksPerSecond := by
  have firstBound : (nx.armTicksToNs (clock earlier - reference)).toNat ≤ 1000000000 :=
    Nat.not_lt.mp fun above => first (BitVec.lt_def.mpr above)
  have secondBound : (nx.armTicksToNs (clock later - reference)).toNat ≤ 1000000000 :=
    Nat.not_lt.mp fun above => second (BitVec.lt_def.mpr above)
  rw [counts.toNat_armTicksToNs] at firstBound secondBound
  have split : clock later - reference =
      clock earlier - reference + clock (later - earlier) := by
    rw [← clock_sub_clock order]
    abel
  have ticks : (clock (later - earlier)).toNat = later - earlier := by
    rw [clock, BitVec.toNat_ofNat]
    exact Nat.mod_eq_of_lt (by omega)
  have scaled : (clock later - reference).toNat * 625 % 2 ^ 64 =
      ((clock earlier - reference).toNat * 625 % 2 ^ 64 + (later - earlier) * 625) %
        2 ^ 64 := by
    rw [split, BitVec.toNat_add, ticks, Nat.mod_mul_mod, Nat.mod_add_mod, Nat.add_mul]
  rw [scaled] at secondBound
  have gap := gap_le_second firstBound secondBound (Nat.sub_le_iff_le_add'.mpr near)
  exact Nat.sub_le_iff_le_add'.mp gap

end

end SysTweak.Platform
