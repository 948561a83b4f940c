import PoleProtocol.Framework.Rounding
import PoleProtocol.Chain.Emission

/-!
# Player rewards of an hour

The chain splits an hourly pool in proportion to the players' weights. The product of pool and
weight is formed in a 64-bit word, so the shares are the exact ones as long as every product fits,
and only then.
-/

namespace PoleProtocol.Chain

open Framework

def computePlayerHourReward (hourlyRewardPool playerWeight totalWeight : ℕ) : ℕ :=
  if hourlyRewardPool = 0 ∨ playerWeight = 0 ∨ totalWeight = 0 then 0
  else wrap64 (hourlyRewardPool * playerWeight) / totalWeight

/-- The share is exact for a product inside 64 bits, and for no other. -/
theorem computePlayerHourReward_eq_iff {pool weight total : ℕ} (hle : weight ≤ total)
    (hword : total < 2 ^ 64) :
    computePlayerHourReward pool weight total = pool * weight / total ↔ pool * weight < 2 ^ 64 := by
  unfold computePlayerHourReward
  split
  · next hnothing =>
      have hzero : pool * weight = 0 := by
        rcases hnothing with hpool | hweight | htotal
        · rw [hpool, Nat.zero_mul]
        · rw [hweight, Nat.mul_zero]
        · have hweight : weight = 0 := by omega
          rw [hweight, Nat.mul_zero]
      rw [hzero, Nat.zero_div]
      exact iff_of_true rfl (by norm_num)
  · next hsome =>
      have hpos : 0 < total := by
        rw [not_or, not_or] at hsome
        omega
      exact wrap64_div_eq_iff hpos hword.le

/-- Exact shares come to at most the pool. -/
theorem sum_shares_le (pool : ℕ) (weights : List ℕ) :
    (weights.map fun weight => pool * weight / weights.sum).sum ≤ pool :=
  (sum_shares_le_div pool weights weights.sum).trans
    (Nat.div_le_of_le_mul (Nat.mul_comm pool weights.sum).le)

end PoleProtocol.Chain
