import PoleProtocol.Chain.HourRewards
import PoleProtocol.Node.PlayerTick
import PoleProtocol.Node.RewardAdjustment

/-!
# The reward formulas of the chain and of the node

The chain and the node compute the adjusted reward, the yearly emission and the players' shares each
on its own. The chain reads big integers back into 64 bits before it clamps, the node saturates at
128 bits. They agree on the emission of every year; the adjustments and the shares agree where the
chain reduces nothing that matters.
-/

namespace PoleProtocol.Node

open Framework

/-! ## The adjustment -/

/-- Clamping what 64 bits leave of a number and of its upper bound gives the clamped number when
both fit, and otherwise when the clamp hides what was cut off. -/
theorem clamps_agree_iff {lower upper uncapped : ℕ} (hlower : lower < 2 ^ 64)
    (hupper : upper < 2 ^ 65) (hbounds : lower ≤ upper) :
    max (min (max (uncapped % 2 ^ 64) lower) (upper % 2 ^ 64)) 1 =
        max (max lower (min uncapped upper)) 1 ↔
      if upper < 2 ^ 64 then
        uncapped < 2 ^ 64 ∨ upper ≤ max (max (uncapped % 2 ^ 64) lower) 1
      else uncapped < 2 ^ 64 ∧ max uncapped lower ≤ max (upper - 2 ^ 64) 1 := by
  have hreduced : uncapped % 2 ^ 64 < 2 ^ 64 := Nat.mod_lt _ (by norm_num)
  by_cases hfits : upper < 2 ^ 64
  · rw [if_pos hfits, Nat.mod_eq_of_lt hfits]
    by_cases hword : uncapped < 2 ^ 64
    · rw [Nat.mod_eq_of_lt hword]
      omega
    · generalize uncapped % 2 ^ 64 = reduced at *
      omega
  · obtain ⟨excess, rfl⟩ := Nat.exists_eq_add_of_le (Nat.not_lt.mp hfits)
    have hexcess : excess < 2 ^ 64 := by omega
    rw [if_neg hfits, Nat.add_mod_left, Nat.mod_eq_of_lt hexcess, Nat.add_sub_cancel_left]
    by_cases hword : uncapped < 2 ^ 64
    · rw [Nat.mod_eq_of_lt hword]
      omega
    · generalize uncapped % 2 ^ 64 = reduced at *
      omega

/-- The chain clamps what 64 bits leave of the uncapped reward and of the upper bound. -/
theorem adjustedHourlyReward_eq {base target current : ℕ} (cap : ℕ) (hbase : base ≠ 0)
    (htarget : target ≠ 0) (hcurrent : current ≠ 0) (hbaseWord : base < 2 ^ 64) :
    Chain.adjustedHourlyReward base target current cap =
      max (min (max (uncappedReward base target current % 2 ^ 64) (cappedBelow base cap))
        (cappedAbove base cap % 2 ^ 64)) 1 := by
  have hbelow : Chain.mulDiv base (10000 - min cap 10000) 10000 = cappedBelow base cap :=
    wrap64_of_lt ((cappedBelow_le base cap).trans_lt hbaseWord)
  have habove : Chain.mulDiv base (10000 + min cap 10000) 10000 = cappedAbove base cap % 2 ^ 64 :=
    rfl
  have huncapped : wrap64 (base * (target * Chain.rewardAdjustScale / current).sqrt / 1000000) =
      uncappedReward base target current % 2 ^ 64 := rfl
  unfold Chain.adjustedHourlyReward
  rw [if_neg hbase, if_neg (not_or.mpr ⟨htarget, hcurrent⟩)]
  simp only [Chain.basisPointsDivisor, hbelow, habove, huncapped]
  generalize min (max (uncappedReward base target current % 2 ^ 64) (cappedBelow base cap))
    (cappedAbove base cap % 2 ^ 64) = clamped
  split <;> omega

/-- Where the two adjustments agree: a weight or the base is zero, or the chain's 64-bit words cut
off nothing that decides the result. -/
def AdjustmentsAgree (base target current cap : ℕ) : Prop :=
  base = 0 ∨ target = 0 ∨ current = 0 ∨
    if cappedAbove base cap < 2 ^ 64 then
      uncappedReward base target current < 2 ^ 64 ∨
        cappedAbove base cap ≤
          max (max (uncappedReward base target current % 2 ^ 64) (cappedBelow base cap)) 1
    else
      uncappedReward base target current < 2 ^ 64 ∧
        max (uncappedReward base target current) (cappedBelow base cap) ≤
          max (cappedAbove base cap - 2 ^ 64) 1

theorem reward_adjustments_agree_iff (base target current cap : ℕ) (hbase : base < 2 ^ 64)
    (htarget : target < 2 ^ 64) :
    Chain.adjustedHourlyReward base target current cap =
        adjustedPlayerBlockReward base target current cap ↔
      AdjustmentsAgree base target current cap := by
  unfold AdjustmentsAgree
  by_cases hzero : base = 0 ∨ target = 0 ∨ current = 0
  · have hsame : Chain.adjustedHourlyReward base target current cap =
        adjustedPlayerBlockReward base target current cap := by
      unfold Chain.adjustedHourlyReward adjustedPlayerBlockReward
      by_cases hnone : base = 0
      · rw [if_pos hnone, if_pos hnone]
      · have hweight : target = 0 ∨ current = 0 := hzero.resolve_left hnone
        rw [if_neg hnone, if_neg hnone, if_pos hweight, if_pos hweight]
    refine iff_of_true hsame ?_
    rcases hzero with h | h | h
    · exact .inl h
    · exact .inr (.inl h)
    · exact .inr (.inr (.inl h))
  · rw [not_or, not_or] at hzero
    obtain ⟨hbase', htarget', hcurrent'⟩ := hzero
    rw [or_iff_right hbase', or_iff_right htarget', or_iff_right hcurrent',
      adjustedHourlyReward_eq cap hbase' htarget' hcurrent' hbase,
      adjustedPlayerBlockReward_eq cap hbase' htarget' hcurrent' hbase htarget]
    have htwice := cappedAbove_le base cap
    exact clamps_agree_iff ((cappedBelow_le base cap).trans_lt hbase) (by omega)
      ((cappedBelow_le base cap).trans (le_cappedAbove base cap))

/-- The largest base loses nine tenths on the chain, at a weight that is on target. -/
theorem large_rewards_disagree :
    Chain.adjustedHourlyReward 18446744073709551615 100 100 1000 = 1844674407370955160 ∧
      adjustedPlayerBlockReward 18446744073709551615 100 100 1000 = 18446744073709551615 := by
  have hroot : (100 * 1000000000000 / 100).sqrt = 1000000 :=
    (Nat.eq_sqrt.mpr ⟨by norm_num, by norm_num⟩).symm
  constructor
  · rw [adjustedHourlyReward_eq 1000 (by norm_num) (by norm_num) (by norm_num) (by norm_num),
      uncappedReward, hroot]
    decide
  · rw [adjustedPlayerBlockReward_eq 1000 (by norm_num) (by norm_num) (by norm_num) (by norm_num)
      (by norm_num), uncappedReward, hroot]
    decide

/-- A base of a thousand is far from the end of a word. -/
theorem reward_adjustments_agree_thousand :
    Chain.adjustedHourlyReward 1000 100 100 1000 = adjustedPlayerBlockReward 1000 100 100 1000 := by
  refine (reward_adjustments_agree_iff 1000 100 100 1000 (by norm_num) (by norm_num)).mpr ?_
  have hroot : (100 * 1000000000000 / 100).sqrt = 1000000 :=
    (Nat.eq_sqrt.mpr ⟨by norm_num, by norm_num⟩).symm
  refine .inr (.inr (.inr ?_))
  rw [uncappedReward, hroot]
  decide

/-! ## The emission of a year -/

/-- The emission of a year before its adjustment is a multiple of a million. -/
theorem annualEmissionAmount_millions {year : ℕ} (hyear : 1 ≤ year) :
    ∃ millions, 0 < millions ∧ millions ≤ 200 ∧
      Chain.annualEmissionAmount year = 1000000 * millions ∧
      annualEmissionAmount year = 1000000 * millions := by
  by_cases htail : 4 ≤ year
  · refine ⟨20, by decide, by decide, ?_, ?_⟩
    · have hrate : Chain.annualEmissionRateBps year = 200 := if_pos htail
      rw [Chain.annualEmissionAmount, hrate]
      rfl
    · have hrate : annualEmissionRateBps year = 200 := if_pos htail
      rw [annualEmissionAmount, hrate]
      rfl
  · have hfirst : year = 1 ∨ year = 2 ∨ year = 3 := by omega
    rcases hfirst with rfl | rfl | rfl
    · exact ⟨200, by decide, by decide, by decide, by decide⟩
    · exact ⟨200, by decide, by decide, by decide, by decide⟩
    · exact ⟨100, by decide, by decide, by decide, by decide⟩

/-- Clamping the factor is clamping the reward when the base is a multiple of a million. -/
theorem adjustedHourlyReward_millions {millions target current cap : ℕ} (hsome : 0 < millions)
    (hfew : millions ≤ 200) (htarget : target ≠ 0) (hcurrent : current ≠ 0)
    (htargetWord : target < 2 ^ 64) (hcap : cap < 10000) :
    Chain.adjustedHourlyReward (1000000 * millions) target current cap =
      millions * max (1000000 - cap * 100)
        (min (target * 1000000000000 / current).sqrt (1000000 + cap * 100)) := by
  have hroot := @ratio_sqrt_lt target current htargetWord
  have hbelow : cappedBelow (1000000 * millions) cap = millions * (1000000 - cap * 100) := by
    rw [cappedBelow, min_eq_left (by omega)]
    refine Nat.div_eq_of_eq_mul_left (by decide) ?_
    have hscale : 1000000 - cap * 100 = 100 * (10000 - cap) := by omega
    rw [hscale]
    ring
  have habove : cappedAbove (1000000 * millions) cap = millions * (1000000 + cap * 100) := by
    rw [cappedAbove, min_eq_left (by omega)]
    refine Nat.div_eq_of_eq_mul_left (by decide) ?_
    ring
  have huncapped : uncappedReward (1000000 * millions) target current =
      millions * (target * 1000000000000 / current).sqrt := by
    refine Nat.div_eq_of_eq_mul_left (by decide) ?_
    ring
  rw [adjustedHourlyReward_eq cap (by omega) htarget hcurrent (by omega), hbelow, habove,
    huncapped]
  generalize (target * 1000000000000 / current).sqrt = root at *
  have hproduct : millions * root < 2 ^ 64 := by
    calc millions * root ≤ 200 * (2 ^ 32 * 1000000) := Nat.mul_le_mul hfew hroot.le
      _ < 2 ^ 64 := by norm_num
  have hupper : millions * (1000000 + cap * 100) < 2 ^ 64 := by
    calc millions * (1000000 + cap * 100) ≤ 200 * 2000000 := Nat.mul_le_mul hfew (by omega)
      _ < 2 ^ 64 := by norm_num
  rw [Nat.mod_eq_of_lt hproduct, Nat.mod_eq_of_lt hupper, ← Nat.mul_max_mul_left,
    ← Nat.mul_min_mul_left]
  have hpositive : 0 < millions * (1000000 - cap * 100) := Nat.mul_pos hsome (by omega)
  have hbounds : millions * (1000000 - cap * 100) ≤ millions * (1000000 + cap * 100) :=
    Nat.mul_le_mul_left millions (by omega)
  omega

theorem emission_curves_agree (year target current cap : ℕ) (hyear : 1 ≤ year)
    (htarget : target < 2 ^ 64) (hcap : cap < 10000) :
    Chain.annualAdjustedEmission year target current cap =
      annualEmission year target current cap := by
  obtain ⟨millions, hsome, hfew, hchain, hnode⟩ := annualEmissionAmount_millions hyear
  rw [Chain.annualAdjustedEmission, annualEmission, hchain, hnode]
  have hscaled : ∀ factor, factor ≤ 2000000 →
      saturatingMul128 (1000000 * millions) factor / 1000000 = millions * factor := by
    intro factor hfactor
    have hproduct : 1000000 * millions * factor < 2 ^ 128 := by
      calc 1000000 * millions * factor ≤ 1000000 * 200 * 2000000 :=
            Nat.mul_le_mul (by omega) hfactor
        _ < 2 ^ 128 := by norm_num
    rw [saturatingMul128_of_lt hproduct, Nat.mul_assoc, Nat.mul_div_cancel_left _ (by decide)]
  by_cases hzero : target = 0 ∨ current = 0
  · rw [annualEmissionActivityFactor, if_pos hzero, hscaled _ (by decide)]
    rw [Chain.adjustedHourlyReward, if_neg (by omega), if_pos hzero, Nat.mul_comm]
  · rw [not_or] at hzero
    have hratio : target * 1000000000000 < 2 ^ 128 := by omega
    rw [adjustedHourlyReward_millions hsome hfew hzero.1 hzero.2 htarget hcap,
      annualEmissionActivityFactor, if_neg (not_or.mpr hzero)]
    simp only [saturatingMul128_of_lt hratio, integerSqrt_eq, min_eq_left hcap.le]
    rw [hscaled]
    omega

/-- The first year, with a third more activity than the target. -/
theorem emission_curves_agree_first :
    Chain.annualAdjustedEmission 1 300 400 1000 = annualEmission 1 300 400 1000 :=
  emission_curves_agree 1 300 400 1000 (by decide) (by decide) (by decide)

/-! ## The players' shares -/

/-- The players of an hour share its pool exactly, and alike on the chain and on the node. -/
def SharesExact (pool : ℕ) (weights : List ℕ) : Prop :=
  (∀ weight ∈ weights,
    Chain.computePlayerHourReward pool weight weights.sum = pool * weight / weights.sum ∧
      proportionalAmount pool weight weights.sum =
        Chain.computePlayerHourReward pool weight weights.sum) ∧
    (weights.map fun weight => Chain.computePlayerHourReward pool weight weights.sum).sum ≤ pool

theorem player_shares_exact_iff (pool : ℕ) (weights : List ℕ) (hpool : pool < 2 ^ 64)
    (htotal : weights.sum < 2 ^ 64) :
    SharesExact pool weights ↔ ∀ weight ∈ weights, pool * weight < 2 ^ 64 := by
  have hle : ∀ weight ∈ weights, weight ≤ weights.sum :=
    fun weight hweight => List.single_le_sum (fun _ _ => Nat.zero_le _) _ hweight
  have hchain : ∀ weight ∈ weights,
      Chain.computePlayerHourReward pool weight weights.sum = pool * weight / weights.sum ↔
        pool * weight < 2 ^ 64 :=
    fun weight hweight => Chain.computePlayerHourReward_eq_iff (hle weight hweight) htotal
  have hnode : ∀ weight ∈ weights,
      proportionalAmount pool weight weights.sum = pool * weight / weights.sum := by
    intro weight hweight
    have hproduct : pool * weight < 2 ^ 128 := by
      calc pool * weight ≤ 2 ^ 64 * (2 ^ 64 - 1) :=
            Nat.mul_le_mul hpool.le (by have := hle weight hweight; omega)
        _ < 2 ^ 128 := by norm_num
    exact proportionalAmount_eq hproduct weights.sum
  constructor
  · rintro ⟨hshares, _⟩ weight hweight
    exact (hchain weight hweight).mp (hshares weight hweight).1
  · intro hfits
    have hexact : ∀ weight ∈ weights,
        Chain.computePlayerHourReward pool weight weights.sum = pool * weight / weights.sum :=
      fun weight hweight => (hchain weight hweight).mpr (hfits weight hweight)
    refine ⟨fun weight hweight => ⟨hexact weight hweight, ?_⟩, ?_⟩
    · rw [hexact weight hweight, hnode weight hweight]
    · rw [List.map_congr_left hexact]
      exact Chain.sum_shares_le pool weights

/-- Two players share a pool of ten. -/
theorem player_shares_exact_iff_two : SharesExact 10 [1, 2] :=
  (player_shares_exact_iff 10 [1, 2] (by decide) (by decide)).mpr (by decide)

/-- One player that holds the whole weight gets nothing of the pool. -/
theorem large_pool_pays_nothing :
    Chain.computePlayerHourReward (2 ^ 32) (2 ^ 32) (2 ^ 32) = 0 ∧
      2 ^ 32 * 2 ^ 32 / 2 ^ 32 = 2 ^ 32 ∧
      proportionalAmount (2 ^ 32) (2 ^ 32) (2 ^ 32) = 2 ^ 32 := by
  decide

end PoleProtocol.Node
