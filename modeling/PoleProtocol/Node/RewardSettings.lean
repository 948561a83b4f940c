import PoleProtocol.Framework.Word
import PoleProtocol.Ledger.Params
import PoleProtocol.Node.Retention

/-!
# Reward settings

The reward part of the node configuration, what the activated protocol parameters override in it,
and the amounts that follow from it: the emission of a year by reward blocks, the player reward of
an adjusted block, and the weight of the network over a time.
-/

namespace PoleProtocol.Node

open Framework Ledger

inductive RewardSourceMode where
  | static
  | tokenomics
  deriving DecidableEq

structure RewardGameMapping where
  processName : String
  appId : ℕ
  gameCoefficientPpm : ℕ
  deriving DecidableEq

structure RewardConfig where
  rewardSource : RewardSourceMode
  emissionYear : ℕ
  rewardBlockSecs : ℕ
  playerBlockReward : ℕ
  rewardAdjustmentPeriodBlocks : ℕ
  targetNetworkWeightUnits : ℕ
  rewardAdjustmentCapBps : ℕ
  collectRewardBps : ℕ
  storeRewardBps : ℕ
  verifyRewardBps : ℕ
  proposeRewardBps : ℕ
  tailEmissionStartYear : ℕ
  tailEmissionRateBps : ℕ
  gameMappings : List RewardGameMapping

/-- The configured rewards and the protocol parameters that were activated last. -/
structure RewardSettings where
  reward : RewardConfig
  activated : Option ProtocolParams

/-- A plain sum of 128-bit amounts; a release build wraps around. -/
def sumAmounts (amounts : List ℕ) : ℕ := amounts.sum % 2 ^ 128

theorem sumAmounts_of_lt {amounts : List ℕ} (h : amounts.sum < 2 ^ 128) :
    sumAmounts amounts = amounts.sum := Nat.mod_eq_of_lt h

/-! ## Emission -/

def totalSupply : ℕ := 1000000000
def initialEmissionRateBps : ℕ := 2000
def longTermTailStartYear : ℕ := 4
def longTermTailEmissionRateBps : ℕ := 200
def playerRewardAllocationBps : ℕ := 8000
def serviceRewardAllocationBps : ℕ := 1000
def hoursPerYear : ℕ := 24 * 365

def emissionShare (total bps : ℕ) : ℕ := saturatingMul128 total bps / 10000

/-- The rate after a number of halvings. -/
def halvedRate : ℕ → ℕ → ℕ
  | 0, rate => rate
  | periods + 1, rate => if rate / 2 = 0 then 0 else halvedRate periods (rate / 2)

def annualEmissionRateBpsWithTail (year tailStartYear tailEmissionRateBps : ℕ) : ℕ :=
  if max tailStartYear 1 ≤ year then tailEmissionRateBps
  else halvedRate ((year - 1) / 2) initialEmissionRateBps

def annualEmissionAmountWithTail (year tailStartYear tailEmissionRateBps : ℕ) : ℕ :=
  emissionShare totalSupply (annualEmissionRateBpsWithTail year tailStartYear tailEmissionRateBps)

/-- The part of a year's emission that falls on one reward block. -/
def emissionPerBlock (annualBudget rewardBlockSecs : ℕ) : ℕ :=
  if rewardBlockSecs = 0 then 0
  else
    let blocksPerYear := hoursPerYear * 3600 / rewardBlockSecs
    if blocksPerYear = 0 then 0 else annualBudget / blocksPerYear

def basePlayerRewardPerBlockWithTail
    (year rewardBlockSecs tailStartYear tailEmissionRateBps : ℕ) : ℕ :=
  emissionPerBlock
    (emissionShare (annualEmissionAmountWithTail year tailStartYear tailEmissionRateBps)
      playerRewardAllocationBps)
    rewardBlockSecs

def baseServiceRewardPerBlock (year rewardBlockSecs : ℕ) : ℕ :=
  emissionPerBlock
    (emissionShare
      (annualEmissionAmountWithTail year longTermTailStartYear longTermTailEmissionRateBps)
      serviceRewardAllocationBps)
    rewardBlockSecs

def RewardConfig.basePlayerBlockReward (reward : RewardConfig) : ℕ :=
  match reward.rewardSource with
  | .static => reward.playerBlockReward
  | .tokenomics =>
      max (basePlayerRewardPerBlockWithTail reward.emissionYear reward.rewardBlockSecs
        reward.tailEmissionStartYear reward.tailEmissionRateBps) 1

/-! ## What the activated parameters override -/

namespace RewardSettings

variable (settings : RewardSettings)

def effectiveRewardBlockSecs : ℕ :=
  (settings.activated.map (·.rewards.rewardBlockSecs)).getD settings.reward.rewardBlockSecs

def effectivePlayerBlockReward : ℕ :=
  (settings.activated.map (·.rewards.effectivePlayerBlockReward)).getD
    settings.reward.basePlayerBlockReward

def effectiveTargetNetworkWeightUnits : ℕ :=
  (settings.activated.map (·.rewards.targetNetworkWeightUnits)).getD
    settings.reward.targetNetworkWeightUnits

def effectiveRewardAdjustmentCapBps : ℕ :=
  (settings.activated.map (·.rewards.rewardAdjustmentCapBps)).getD
    settings.reward.rewardAdjustmentCapBps

/-! ## The weight of the network -/

def gameCoefficientPpmForApp (appId : ℕ) : ℕ :=
  match settings.activated.bind fun params =>
      params.rewards.appWeightOverrides.find? (·.appId = appId) with
  | some entry => entry.gameCoefficientPpm
  | none =>
      (((settings.reward.gameMappings.filter (·.appId = appId)).map
        (·.gameCoefficientPpm)).max?).getD 1000000

def networkWeightUnitsForDuration (samples : List ActivitySample) (durationSecs : ℕ) : ℕ :=
  sumAmounts (samples.map fun sample =>
    saturatingMul128 (saturatingMul128 sample.observedPlayers durationSecs)
      (settings.gameCoefficientPpmForApp sample.appId))

end RewardSettings

/-! ## The adjusted player reward -/

/-- Newton's iteration from above; it stops when the next value is no smaller. -/
def integerSqrtFrom (value x0 x1 : ℕ) : ℕ :=
  if x1 < x0 then integerSqrtFrom value x1 ((x1 + value / x1) / 2) else x0
termination_by x0

def integerSqrt (value : ℕ) : ℕ :=
  if value < 2 then value else integerSqrtFrom value value ((value + value / value) / 2)

def adjustedPlayerBlockReward (baseBlockReward targetNetworkWeightUnits
    currentNetworkWeightUnits rewardAdjustmentCapBps : ℕ) : ℕ :=
  if baseBlockReward = 0 then 0
  else if targetNetworkWeightUnits = 0 ∨ currentNetworkWeightUnits = 0 then baseBlockReward
  else
    let capBps := min rewardAdjustmentCapBps 10000
    let lowerBound := saturatingMul128 baseBlockReward (10000 - capBps) / 10000
    let upperBound := saturatingMul128 baseBlockReward (10000 + capBps) / 10000
    let scaledRatio :=
      saturatingMul128 targetNetworkWeightUnits 1000000000000 / currentNetworkWeightUnits
    let adjusted := saturatingMul128 baseBlockReward (integerSqrt scaledRatio) / 1000000
    max (max lowerBound (min adjusted upperBound)) 1

end PoleProtocol.Node
