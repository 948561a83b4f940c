import PoleProtocol.Framework.Word
import PoleProtocol.Node.RewardAdjustment

/-!
# The square root in machine words

Newton's iteration adds a guess and a quotient in a 128-bit word. The first sum is one more than the
value itself, so the largest word is the one value whose root the iteration does not reach: the sum
leaves the word, and a build that wraps divides by zero next. Every other sum fits.
-/

namespace PoleProtocol.Node

open Framework

/-! ## The iteration in words -/

/-- `(x + value / x) / 2` in 128-bit words; no result is a panic. -/
def meanWord (policy : Overflow) (value x : ℕ) : Option ℕ :=
  if x = 0 then none
  else (policy.add 128 x (value / x)).map (· / 2)

def integerSqrtWordFrom (policy : Overflow) (value x0 x1 : ℕ) : Option ℕ :=
  if x1 < x0 then
    match meanWord policy value x1 with
    | none => none
    | some next => integerSqrtWordFrom policy value x1 next
  else some x0
termination_by x0

def integerSqrtWord (policy : Overflow) (value : ℕ) : Option ℕ :=
  if value < 2 then some value
  else
    match meanWord policy value value with
    | none => none
    | some x1 => integerSqrtWordFrom policy value value x1

/-! ## Sums that fit -/

theorem meanWord_of_lt (policy : Overflow) {value x : ℕ} (hpos : 0 < x)
    (hfits : x + value / x < 2 ^ 128) : meanWord policy value x = some (newtonStep value x) := by
  rw [meanWord, if_neg hpos.ne', policy.add_of_lt hfits]
  rfl

/-- Below the largest word, no guess up to the value forms a sum that leaves the word. -/
theorem meanWord_eq (policy : Overflow) {value x : ℕ} (hpos : 0 < x) (hle : x ≤ value)
    (hvalue : value < 2 ^ 128 - 1) : meanWord policy value x = some (newtonStep value x) := by
  have hsum := add_div_le_succ hpos hle
  exact meanWord_of_lt policy hpos (by omega)

/-- The iteration in words is the iteration on numbers. -/
theorem integerSqrtWordFrom_eq (policy : Overflow) {value x0 x1 : ℕ} (hvalue : value < 2 ^ 128 - 1)
    (hpos : 0 < value.sqrt) (hroot : value.sqrt ≤ x1) (hle : x0 ≤ value) :
    integerSqrtWordFrom policy value x0 x1 = some (integerSqrtFrom value x0 x1) := by
  induction x0 using Nat.strong_induction_on generalizing x1 with
  | h x0 ih =>
      rw [integerSqrtWordFrom, integerSqrtFrom]
      split
      · next hlower =>
          have hx1 : 0 < x1 := hpos.trans_le hroot
          have hbelow : x1 ≤ value := hlower.le.trans hle
          rw [meanWord_eq policy hx1 hbelow hvalue]
          exact ih x1 hlower (sqrt_le_newtonStep value hx1) hbelow
      · rfl

/-- Below the largest word the iteration returns the root, under either policy. -/
theorem integerSqrtWord_eq (policy : Overflow) {value : ℕ} (hvalue : value < 2 ^ 128 - 1) :
    integerSqrtWord policy value = some value.sqrt := by
  rw [← integerSqrt_eq]
  unfold integerSqrtWord integerSqrt
  split
  · rfl
  · next hlarge =>
      have hroot : 0 < value.sqrt := Nat.sqrt_pos.mpr (by omega)
      rw [meanWord_eq policy (by omega) le_rfl hvalue]
      exact integerSqrtWordFrom_eq policy hvalue hroot (sqrt_le_newtonStep value (by omega)) le_rfl

/-- At the largest word the first sum leaves the word: a checked build stops there, and a wrapped
sum is zero, by which the next step divides. -/
theorem integerSqrtWord_max (policy : Overflow) : integerSqrtWord policy (2 ^ 128 - 1) = none := by
  cases policy with
  | panic => rfl
  | wrap =>
      have hmean : meanWord .wrap (2 ^ 128 - 1) (2 ^ 128 - 1) = some 0 := by decide
      have hzero : meanWord .wrap (2 ^ 128 - 1) 0 = none := by decide
      rw [integerSqrtWord, if_neg (by omega), hmean]
      dsimp only
      rw [integerSqrtWordFrom, if_pos (by omega), hzero]

/-! ## The floor of the root -/

/-- What the root is to be: whether sums are checked or wrap, the iteration ends with the one number
whose square is the last not above the value. -/
def FloorRootReached (value : ℕ) : Prop :=
  ∀ policy, ∃ r, integerSqrtWord policy value = some r ∧ r * r ≤ value ∧
    value < (r + 1) * (r + 1) ∧ ∀ s, s * s ≤ value → value < (s + 1) * (s + 1) → s = r

theorem sqrt_unique {value r : ℕ} (hle : r * r ≤ value) (hlt : value < (r + 1) * (r + 1)) :
    r = value.sqrt :=
  le_antisymm (Nat.le_sqrt.mpr hle) (Nat.lt_succ_iff.mp (Nat.sqrt_lt.mpr hlt))

/-- The root is reached for every word but the largest. -/
theorem floorRootReached_iff (value : ℕ) (hword : value < 2 ^ 128) :
    FloorRootReached value ↔ value ≠ 2 ^ 128 - 1 := by
  constructor
  · intro hreached hmax
    obtain ⟨r, hr, -⟩ := hreached .panic
    rw [hmax, integerSqrtWord_max] at hr
    cases hr
  · intro hne policy
    refine ⟨value.sqrt, integerSqrtWord_eq policy (by omega), Nat.sqrt_le value,
      Nat.sqrt_lt.mp (Nat.lt_succ_self _), fun s hle hlt => sqrt_unique hle hlt⟩

/-- The theorem at ten. -/
theorem floorRootReached_ten : FloorRootReached 10 ↔ 10 ≠ 2 ^ 128 - 1 :=
  floorRootReached_iff 10 (by norm_num)

/-- The largest word has a root, and the iteration does not end with it. -/
theorem largest_word_not_reached :
    2 ^ 128 - 1 < 2 ^ 128 ∧ integerSqrtWord .panic (2 ^ 128 - 1) = none ∧
      ¬ FloorRootReached (2 ^ 128 - 1) := by
  refine ⟨by norm_num, integerSqrtWord_max .panic, fun hreached => ?_⟩
  obtain ⟨r, hr, -⟩ := hreached .panic
  rw [integerSqrtWord_max] at hr
  cases hr

/-! ## The callers -/

/-- A saturated product over a single unit is the largest word. -/
theorem scaledRatio_max_iff (target current : ℕ) :
    saturatingMul128 target 1000000000000 / current = 2 ^ 128 - 1 ↔
      current = 1 ∧ 2 ^ 128 ≤ target * 1000000000000 := by
  have hle : saturatingMul128 target 1000000000000 ≤ 2 ^ 128 - 1 := min_le_right _ _
  constructor
  · intro h
    have hcurrent : current = 1 := by
      by_contra hne
      rcases Nat.eq_zero_or_pos current with hzero | hpos
      · rw [hzero, Nat.div_zero] at h
        omega
      · have hhalf : saturatingMul128 target 1000000000000 / current ≤
            saturatingMul128 target 1000000000000 / 2 :=
          Nat.div_le_div_left (by omega) (by omega)
        omega
    rw [hcurrent, Nat.div_one, saturatingMul128] at h
    exact ⟨hcurrent, by omega⟩
  · rintro ⟨rfl, hlarge⟩
    rw [Nat.div_one, saturatingMul128]
    omega

theorem scaledRatio_root (policy : Overflow) (target current : ℕ) :
    integerSqrtWord policy (saturatingMul128 target 1000000000000 / current) =
      if current = 1 ∧ 2 ^ 128 ≤ target * 1000000000000 then none
      else some (integerSqrt (saturatingMul128 target 1000000000000 / current)) := by
  have hle : saturatingMul128 target 1000000000000 / current ≤ 2 ^ 128 - 1 :=
    (Nat.div_le_self _ _).trans (min_le_right _ _)
  split
  · next hmax => rw [(scaledRatio_max_iff target current).mpr hmax, integerSqrtWord_max]
  · next hbelow =>
      have hne := mt (scaledRatio_max_iff target current).mp hbelow
      rw [integerSqrtWord_eq policy (by omega), integerSqrt_eq]

/-- The adjusted player reward with its root in words. -/
def adjustedPlayerBlockRewardWord (policy : Overflow) (baseBlockReward targetNetworkWeightUnits
    currentNetworkWeightUnits rewardAdjustmentCapBps : ℕ) : Option ℕ :=
  if baseBlockReward = 0 then some 0
  else if targetNetworkWeightUnits = 0 ∨ currentNetworkWeightUnits = 0 then some baseBlockReward
  else
    let capBps := min rewardAdjustmentCapBps 10000
    let lowerBound := saturatingMul128 baseBlockReward (10000 - capBps) / 10000
    let upperBound := saturatingMul128 baseBlockReward (10000 + capBps) / 10000
    let scaledRatio :=
      saturatingMul128 targetNetworkWeightUnits 1000000000000 / currentNetworkWeightUnits
    (integerSqrtWord policy scaledRatio).map fun ratioSqrt =>
      let adjusted := saturatingMul128 baseBlockReward ratioSqrt / 1000000
      max (max lowerBound (min adjusted upperBound)) 1

/-- The factor of the yearly emission with its root in words. -/
def annualEmissionActivityFactorWord (policy : Overflow) (targetNetworkWeightUnits
    currentNetworkWeightUnits capBps : ℕ) : Option ℕ :=
  if targetNetworkWeightUnits = 0 ∨ currentNetworkWeightUnits = 0 then some 1000000
  else
    let capPpm := min capBps 10000 * 100
    let lower := 1000000 - capPpm
    let upper := 1000000 + capPpm
    let scaledRatio :=
      saturatingMul128 targetNetworkWeightUnits 1000000000000 / currentNetworkWeightUnits
    (integerSqrtWord policy scaledRatio).map fun root => max lower (min root upper)

section Callers

variable (policy : Overflow) (base target current cap : ℕ)

/-- The reward is lost only where one unit meets a target whose product saturates; everywhere else
it is the one that exact roots give. -/
theorem adjustedPlayerBlockRewardWord_eq :
    adjustedPlayerBlockRewardWord policy base target current cap =
      if base ≠ 0 ∧ current = 1 ∧ 2 ^ 128 ≤ target * 1000000000000 then none
      else some (adjustedPlayerBlockReward base target current cap) := by
  unfold adjustedPlayerBlockRewardWord adjustedPlayerBlockReward
  rcases eq_or_ne base 0 with hbase | hbase
  · simp [hbase]
  · rw [if_neg hbase, if_neg hbase]
    by_cases hzero : target = 0 ∨ current = 0
    · have hbelow : ¬ (base ≠ 0 ∧ current = 1 ∧ 2 ^ 128 ≤ target * 1000000000000) := by
        rintro ⟨-, hone, hlarge⟩
        omega
      rw [if_pos hzero, if_pos hzero, if_neg hbelow]
    · rw [if_neg hzero, if_neg hzero]
      simp only [scaledRatio_root, ne_eq, hbase, not_false_eq_true, true_and]
      split <;> rfl

/-- The factor is lost in the same case. -/
theorem annualEmissionActivityFactorWord_eq :
    annualEmissionActivityFactorWord policy target current cap =
      if current = 1 ∧ 2 ^ 128 ≤ target * 1000000000000 then none
      else some (annualEmissionActivityFactor target current cap) := by
  unfold annualEmissionActivityFactorWord annualEmissionActivityFactor
  by_cases hzero : target = 0 ∨ current = 0
  · have hbelow : ¬ (current = 1 ∧ 2 ^ 128 ≤ target * 1000000000000) := by
      rintro ⟨hone, hlarge⟩
      omega
    rw [if_pos hzero, if_pos hzero, if_neg hbelow]
  · rw [if_neg hzero, if_neg hzero]
    simp only [scaledRatio_root]
    split <;> rfl

end Callers

end PoleProtocol.Node
