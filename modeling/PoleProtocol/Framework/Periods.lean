import Mathlib

/-!
# Periods of a clock

Time is cut into periods of one length from an origin on. A clock that remembers the start of its
current period and rolls it over by the whole periods elapsed is where the origin alone would put
it, however often it was rolled over in between.
-/

namespace PoleProtocol.Framework

/-- The number of whole periods between the origin and `t`. -/
def periodIndex (origin period t : ℤ) : ℤ := (t - origin) / period

/-- The start of the period that `t` lies in. -/
def periodStart (origin period t : ℤ) : ℤ := origin + periodIndex origin period t * period

section Periods

variable {origin period t t' : ℤ}

theorem periodIndex_self (origin period : ℤ) : periodIndex origin period origin = 0 := by
  unfold periodIndex
  rw [sub_self, Int.zero_ediv]

theorem periodStart_self (origin period : ℤ) : periodStart origin period origin = origin := by
  unfold periodStart
  rw [periodIndex_self, zero_mul, add_zero]

theorem periodIndex_nonneg (hperiod : 0 < period) (h : origin ≤ t) :
    0 ≤ periodIndex origin period t :=
  Int.ediv_nonneg (sub_nonneg.mpr h) hperiod.le

theorem periodIndex_mono (hperiod : 0 < period) (h : t ≤ t') :
    periodIndex origin period t ≤ periodIndex origin period t' :=
  Int.ediv_le_ediv hperiod (by omega)

theorem periodStart_le (hperiod : 0 < period) : periodStart origin period t ≤ t := by
  have hdiv : (t - origin) / period * period ≤ t - origin := Int.ediv_mul_le _ hperiod.ne'
  unfold periodStart periodIndex
  omega

/-- The periods elapsed since the current one began. -/
theorem periodIndex_periodStart (hperiod : 0 < period) :
    periodIndex (periodStart origin period t) period t' =
      periodIndex origin period t' - periodIndex origin period t := by
  have hsplit : t' - periodStart origin period t =
      t' - origin + -periodIndex origin period t * period := by
    unfold periodStart
    ring
  unfold periodIndex at hsplit ⊢
  rw [hsplit, Int.add_mul_ediv_right _ _ hperiod.ne']
  ring

/-- Rolling a start over by the periods in between. -/
theorem periodStart_add (origin period t t' : ℤ) :
    periodStart origin period t +
        (periodIndex origin period t' - periodIndex origin period t) * period =
      periodStart origin period t' := by
  unfold periodStart
  ring

/-- Rolling over from a period's start is rolling over from the origin. -/
theorem periodStart_periodStart (hperiod : 0 < period) :
    periodStart (periodStart origin period t) period t' = periodStart origin period t' := by
  rw [← periodStart_add origin period t t', ← periodIndex_periodStart hperiod]
  rfl

/-- A quotient rounded towards zero counts the periods of a time that does not lie before. -/
theorem tdiv_eq_periodIndex (h : origin ≤ t) :
    (t - origin).tdiv period = periodIndex origin period t :=
  Int.tdiv_eq_ediv_of_nonneg (sub_nonneg.mpr h)

/-- A period start is the last one until the next period has begun. -/
theorem periodStart_eq_of_index
    (hindex : periodIndex origin period t' = periodIndex origin period t) :
    periodStart origin period t' = periodStart origin period t := by
  rw [periodStart, hindex]
  rfl

end Periods

end PoleProtocol.Framework
