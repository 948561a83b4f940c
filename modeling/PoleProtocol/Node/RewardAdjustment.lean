import PoleProtocol.Framework.SquareRoot
import PoleProtocol.Node.RewardSettings

/-!
# The adjustment of rewards

A reward moves with the square root of the target over the current network weight, inside a cap.
Newton's iteration computes the integer square root, and inside 64 bits no product saturates, so the
adjustment is exact: it stays between its bounds, grows with the target and falls with the current
weight.
-/

namespace PoleProtocol.Node

open Framework

/-! ## The integer square root -/

theorem integerSqrtFrom_eq {value guess : ℕ} (hvalue : 0 < value) (habove : value.sqrt ≤ guess) :
    integerSqrtFrom value guess (newtonStep value guess) = value.sqrt := by
  have hroot : 0 < value.sqrt := Nat.sqrt_pos.mpr hvalue
  induction guess using Nat.strong_induction_on with
  | h guess ih =>
      rw [integerSqrtFrom]
      split
      · next hlower => exact ih _ hlower (sqrt_le_newtonStep value (hroot.trans_le habove))
      · next hstays =>
          exact le_antisymm (le_sqrt_of_le_newtonStep (Nat.not_lt.mp hstays)) habove

theorem integerSqrt_eq (value : ℕ) : integerSqrt value = value.sqrt := by
  unfold integerSqrt
  split
  · next hsmall =>
      interval_cases value <;> rfl
  · next hlarge =>
      exact integerSqrtFrom_eq (by omega) (Nat.sqrt_le_self value)

/-! ## The exact adjustment -/

/-- The reward before it is capped. -/
def uncappedReward (base target current : ℕ) : ℕ :=
  base * (target * 1000000000000 / current).sqrt / 1000000

/-- The least that the cap leaves of a reward. -/
def cappedBelow (base cap : ℕ) : ℕ := base * (10000 - min cap 10000) / 10000

/-- The most that the cap allows. -/
def cappedAbove (base cap : ℕ) : ℕ := base * (10000 + min cap 10000) / 10000

theorem cappedBelow_le (base cap : ℕ) : cappedBelow base cap ≤ base := by
  refine Nat.div_le_of_le_mul ?_
  rw [Nat.mul_comm 10000]
  exact Nat.mul_le_mul_left base (Nat.sub_le _ _)

theorem le_cappedAbove (base cap : ℕ) : base ≤ cappedAbove base cap := by
  refine (Nat.le_div_iff_mul_le (by decide)).mpr ?_
  exact Nat.mul_le_mul_left base (Nat.le_add_right _ _)

theorem cappedAbove_le (base cap : ℕ) : cappedAbove base cap ≤ 2 * base := by
  refine Nat.div_le_of_le_mul ?_
  have hcap : 10000 + min cap 10000 ≤ 20000 := by omega
  calc base * (10000 + min cap 10000) ≤ base * 20000 := Nat.mul_le_mul_left base hcap
    _ = 10000 * (2 * base) := by ring

/-- The root of the ratio is taken in millionths. -/
theorem ratio_sqrt_lt {target current : ℕ} (htarget : target < 2 ^ 64) :
    (target * 1000000000000 / current).sqrt < 2 ^ 32 * 1000000 := by
  have hle : (target * 1000000000000 / current).sqrt ≤ (target * (1000000 * 1000000)).sqrt :=
    Nat.sqrt_le_sqrt (Nat.div_le_self _ _)
  exact hle.trans_lt (sqrt_scaled_lt (by omega) (by decide))

section Exact

variable {base target current : ℕ} (cap : ℕ)

/-- No product of the adjustment saturates. -/
def ProductsExact (base target current cap : ℕ) : Prop :=
  saturatingMul128 base (10000 - min cap 10000) = base * (10000 - min cap 10000) ∧
    saturatingMul128 base (10000 + min cap 10000) = base * (10000 + min cap 10000) ∧
    saturatingMul128 target 1000000000000 = target * 1000000000000 ∧
    saturatingMul128 base (integerSqrt (target * 1000000000000 / current)) =
      base * integerSqrt (target * 1000000000000 / current)

theorem productsExact (hbase : base < 2 ^ 64) (htarget : target < 2 ^ 64) (current cap : ℕ) :
    ProductsExact base target current cap := by
  have hcap : 10000 + min cap 10000 ≤ 20000 := by omega
  have hroot := @ratio_sqrt_lt target current htarget
  refine ⟨saturatingMul128_of_lt ?_, saturatingMul128_of_lt ?_, saturatingMul128_of_lt ?_,
    saturatingMul128_of_lt ?_⟩
  · calc base * (10000 - min cap 10000) ≤ 2 ^ 64 * 20000 := Nat.mul_le_mul hbase.le (by omega)
      _ < 2 ^ 128 := by norm_num
  · calc base * (10000 + min cap 10000) ≤ 2 ^ 64 * 20000 := Nat.mul_le_mul hbase.le hcap
      _ < 2 ^ 128 := by norm_num
  · omega
  · rw [integerSqrt_eq]
    calc base * (target * 1000000000000 / current).sqrt ≤ 2 ^ 64 * (2 ^ 32 * 1000000) :=
          Nat.mul_le_mul hbase.le hroot.le
      _ < 2 ^ 128 := by norm_num

/-- Inside 64 bits the adjustment is the uncapped reward between its bounds. -/
theorem adjustedPlayerBlockReward_eq (hbase : base ≠ 0) (htarget : target ≠ 0)
    (hcurrent : current ≠ 0) (hbaseWord : base < 2 ^ 64) (htargetWord : target < 2 ^ 64) :
    adjustedPlayerBlockReward base target current cap =
      max (max (cappedBelow base cap)
        (min (uncappedReward base target current) (cappedAbove base cap))) 1 := by
  obtain ⟨hbelow, habove, hratio, hroot⟩ := productsExact hbaseWord htargetWord current cap
  unfold adjustedPlayerBlockReward
  rw [if_neg hbase, if_neg (not_or.mpr ⟨htarget, hcurrent⟩)]
  simp only [hbelow, habove, hratio, hroot]
  rw [integerSqrt_eq]
  rfl

theorem uncappedReward_mono {target' current' : ℕ} (htarget : target ≤ target')
    (hcurrent : current' ≤ current) (hpos : 0 < current') :
    uncappedReward base target current ≤ uncappedReward base target' current' := by
  have hratio : target * 1000000000000 / current ≤ target' * 1000000000000 / current' :=
    Nat.div_le_div (Nat.mul_le_mul_right _ htarget) hcurrent hpos.ne'
  exact Nat.div_le_div_right (Nat.mul_le_mul_left base (Nat.sqrt_le_sqrt hratio))

end Exact

/-- The adjustment stays between its bounds, grows with the target, falls with the current weight,
and forms no product that saturates. -/
theorem reward_adjustment_bounded (base target current cap : ℕ) (hbase : 0 < base)
    (hbaseWord : base < 2 ^ 64) (htarget : 0 < target) (htargetWord : target < 2 ^ 64)
    (hcurrent : 0 < current) :
    (max 1 (base * (10000 - min cap 10000) / 10000) ≤
        adjustedPlayerBlockReward base target current cap ∧
      adjustedPlayerBlockReward base target current cap ≤
        max 1 (base * (10000 + min cap 10000) / 10000)) ∧
      (∀ target', target ≤ target' → target' < 2 ^ 64 →
        adjustedPlayerBlockReward base target current cap ≤
          adjustedPlayerBlockReward base target' current cap) ∧
      (∀ current', current ≤ current' →
        adjustedPlayerBlockReward base target current' cap ≤
          adjustedPlayerBlockReward base target current cap) ∧
      ProductsExact base target current cap := by
  have hexact := adjustedPlayerBlockReward_eq cap hbase.ne' htarget.ne' hcurrent.ne' hbaseWord
    htargetWord
  have hbelow := cappedBelow_le base cap
  have habove := le_cappedAbove base cap
  refine ⟨⟨?_, ?_⟩, ?_, ?_, productsExact hbaseWord htargetWord current cap⟩
  · change max 1 (cappedBelow base cap) ≤ _
    rw [hexact]
    omega
  · change _ ≤ max 1 (cappedAbove base cap)
    rw [hexact]
    omega
  · intro target' hle hword
    rw [hexact, adjustedPlayerBlockReward_eq cap hbase.ne' (htarget.trans_le hle).ne' hcurrent.ne'
      hbaseWord hword]
    exact max_le_max_right 1 (max_le_max_left _ (min_le_min_right _
      (uncappedReward_mono hle le_rfl hcurrent)))
  · intro current' hle
    rw [hexact, adjustedPlayerBlockReward_eq cap hbase.ne' htarget.ne' (hcurrent.trans_le hle).ne'
      hbaseWord htargetWord]
    exact max_le_max_right 1 (max_le_max_left _ (min_le_min_right _
      (uncappedReward_mono le_rfl hle hcurrent)))

/-- A tenth is the cap, and the target is four times the current weight. -/
theorem reward_adjustment_bounded_tenth :
    max 1 (1000 * 9000 / 10000) ≤ adjustedPlayerBlockReward 1000 400 100 1000 ∧
      adjustedPlayerBlockReward 1000 400 100 1000 ≤ max 1 (1000 * 11000 / 10000) :=
  (reward_adjustment_bounded 1000 400 100 1000 (by decide) (by decide) (by decide) (by decide)
    (by decide)).1

/-! ## The adjusted emission of a year -/

def annualEmissionRateBps (year : ℕ) : ℕ :=
  annualEmissionRateBpsWithTail year longTermTailStartYear longTermTailEmissionRateBps

def annualEmissionAmount (year : ℕ) : ℕ := emissionShare totalSupply (annualEmissionRateBps year)

/-- The factor of the emission in millionths, inside the cap. -/
def annualEmissionActivityFactor (targetNetworkWeightUnits currentNetworkWeightUnits capBps : ℕ) :
    ℕ :=
  if targetNetworkWeightUnits = 0 ∨ currentNetworkWeightUnits = 0 then 1000000
  else
    let capPpm := min capBps 10000 * 100
    let lower := 1000000 - capPpm
    let upper := 1000000 + capPpm
    let scaledRatio :=
      saturatingMul128 targetNetworkWeightUnits 1000000000000 / currentNetworkWeightUnits
    max lower (min (integerSqrt scaledRatio) upper)

def annualEmission (year targetNetworkWeightUnits currentNetworkWeightUnits capBps : ℕ) : ℕ :=
  saturatingMul128 (annualEmissionAmount year)
    (annualEmissionActivityFactor targetNetworkWeightUnits currentNetworkWeightUnits capBps) /
      1000000

end PoleProtocol.Node
