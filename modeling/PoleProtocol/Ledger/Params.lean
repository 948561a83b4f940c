import PoleProtocol.Framework.Checks

/-!
# Protocol parameters

The parameter record of the off-chain ledger and its validation. Integers of every width are
natural numbers; validation adds at most four sixteen-bit shares, so it cannot leave its width.
-/

namespace PoleProtocol.Ledger

open Framework

structure SlashingParams where
  doubleSignBps : ℕ
  offlineBps : ℕ
  mediumDeviationBps : ℕ
  severeDeviationBps : ℕ
  deriving DecidableEq

structure FeeParams where
  baseGasPriceNano : ℕ
  maxGasPriceNano : ℕ
  gasAdjustmentPpm : ℕ
  congestionThresholdPpm : ℕ
  feeBurnBps : ℕ
  deriving DecidableEq

structure AppWeightOverride where
  appId : ℕ
  gameCoefficientPpm : ℕ
  deriving DecidableEq

structure RewardParams where
  rewardSourceIsTokenomics : Bool
  emissionYear : ℕ
  rewardBlockSecs : ℕ
  initialEmissionRateBps : ℕ
  tailEmissionStartYear : ℕ
  tailEmissionRateBps : ℕ
  playerRewardAllocationBps : ℕ
  serviceRewardAllocationBps : ℕ
  collectRewardBps : ℕ
  storeRewardBps : ℕ
  verifyRewardBps : ℕ
  proposeRewardBps : ℕ
  configuredPlayerBlockReward : ℕ
  effectivePlayerBlockReward : ℕ
  targetNetworkWeightUnits : ℕ
  rewardAdjustmentCapBps : ℕ
  tier1WeightPpm : ℕ
  tier2WeightMinPpm : ℕ
  tier2WeightMaxPpm : ℕ
  tier3WeightMinPpm : ℕ
  tier3WeightMaxPpm : ℕ
  appWeightOverrides : List AppWeightOverride
  rewardBurnThreshold : ℕ
  rewardBurnBps : ℕ
  governanceBurnBps : ℕ
  deriving DecidableEq

structure GovernanceParams where
  paramsUpdateBond : ℕ
  paramsUpdateQuorumBps : ℕ
  paramsUpdateApprovalBps : ℕ
  slowParamsUpdateBond : ℕ
  slowParamsUpdateQuorumBps : ℕ
  slowParamsUpdateApprovalBps : ℕ
  deriving DecidableEq

/-- The thresholds that decide whether a play claim is corroborated. -/
structure MutualProofParams where
  minWitnessCount : ℕ := 2
  minWitnessObservationTolerancePpm : ℕ := 50000
  minDistinctObservations : ℕ := 2
  sessionSlashBps : ℕ := 5000
  minHeartbeatCount : ℕ := 2
  heartbeatBucketSeconds : ℕ := 300
  minHeartbeatCoverageBps : ℕ := 5000
  challengeBondBurnBps : ℕ := 2500
  deriving DecidableEq

structure ProtocolParams where
  slotSeconds : ℕ
  epochSlots : ℕ
  committeeSize : ℕ
  unbondingBlocks : ℕ
  minVerifyBond : ℕ
  minProposeBond : ℕ
  challengeWindowBlocks : ℕ
  maxEmergencyBrakeBlocks : ℕ
  minRetentionEpochs : ℕ
  fee : FeeParams
  rewards : RewardParams
  governance : GovernanceParams
  slashing : SlashingParams
  mutualProof : MutualProofParams
  deriving DecidableEq

inductive ProtocolParamsError where
  | zeroSlotSeconds
  | zeroEpochSlots
  | zeroChallengeWindowBlocks
  | zeroMinRetentionEpochs
  | zeroEmissionYear
  | zeroTailEmissionStartYear
  | zeroRewardBlockSecs
  | serviceRewardSplitInvalid (totalBps : ℕ)
  | allocationSplitInvalid (totalBps : ℕ)
  | effectivePlayerBlockRewardZero
  | invalidAppWeightOverrides
  | governanceThresholdInvalid
  | governanceBondZero
  | minWitnessCountZero
  | minDistinctObservationsZero
  | minHeartbeatCountZero
  | heartbeatBucketSecondsZero
  | observationToleranceInvalid (ppm : ℕ)
  | burnBpsOutOfRange (field : String) (bps : ℕ)
  deriving DecidableEq

/-- The overrides are sorted by application, and no coefficient is zero. -/
def checkAppWeightOverrides : Option ℕ → List AppWeightOverride → Except ProtocolParamsError Unit
  | _, [] => .ok ()
  | previousAppId, entry :: entries => do
      ensure (entry.gameCoefficientPpm ≠ 0) .invalidAppWeightOverrides
      ensure (∀ last ∈ previousAppId, last < entry.appId) .invalidAppWeightOverrides
      checkAppWeightOverrides (some entry.appId) entries

def checkBurnBps (field : String) (bps : ℕ) : Except ProtocolParamsError Unit :=
  ensure (bps ≤ 10000) (.burnBpsOutOfRange field bps)

def ProtocolParams.validate (params : ProtocolParams) : Except ProtocolParamsError Unit := do
  ensure (params.slotSeconds ≠ 0) .zeroSlotSeconds
  ensure (params.epochSlots ≠ 0) .zeroEpochSlots
  ensure (params.challengeWindowBlocks ≠ 0) .zeroChallengeWindowBlocks
  ensure (params.minRetentionEpochs ≠ 0) .zeroMinRetentionEpochs
  ensure (params.rewards.emissionYear ≠ 0) .zeroEmissionYear
  ensure (params.rewards.tailEmissionStartYear ≠ 0) .zeroTailEmissionStartYear
  ensure (params.rewards.rewardBlockSecs ≠ 0) .zeroRewardBlockSecs
  let serviceSplitTotal := params.rewards.collectRewardBps + params.rewards.storeRewardBps +
    params.rewards.verifyRewardBps + params.rewards.proposeRewardBps
  ensure (serviceSplitTotal = 10000) (.serviceRewardSplitInvalid serviceSplitTotal)
  let allocationTotal :=
    params.rewards.playerRewardAllocationBps + params.rewards.serviceRewardAllocationBps
  ensure (allocationTotal = 9000) (.allocationSplitInvalid allocationTotal)
  ensure (params.rewards.effectivePlayerBlockReward ≠ 0) .effectivePlayerBlockRewardZero
  checkAppWeightOverrides none params.rewards.appWeightOverrides
  let governance := params.governance
  ensure (governance.paramsUpdateQuorumBps ≠ 0 ∧ governance.paramsUpdateQuorumBps ≤ 10000 ∧
    governance.paramsUpdateApprovalBps ≠ 0 ∧ governance.paramsUpdateApprovalBps ≤ 10000)
    .governanceThresholdInvalid
  ensure (governance.paramsUpdateBond ≠ 0) .governanceBondZero
  ensure (governance.slowParamsUpdateBond ≠ 0 ∧ governance.slowParamsUpdateQuorumBps ≠ 0 ∧
    governance.slowParamsUpdateQuorumBps ≤ 10000 ∧ governance.slowParamsUpdateApprovalBps ≠ 0 ∧
    governance.slowParamsUpdateApprovalBps ≤ 10000) .governanceThresholdInvalid
  let proof := params.mutualProof
  ensure (proof.minWitnessCount ≠ 0) .minWitnessCountZero
  ensure (proof.minDistinctObservations ≠ 0) .minDistinctObservationsZero
  ensure (proof.minHeartbeatCount ≠ 0) .minHeartbeatCountZero
  ensure (proof.heartbeatBucketSeconds ≠ 0) .heartbeatBucketSecondsZero
  ensure (proof.minWitnessObservationTolerancePpm ≠ 0 ∧
    proof.minWitnessObservationTolerancePpm ≤ 1000000)
    (.observationToleranceInvalid proof.minWitnessObservationTolerancePpm)
  checkBurnBps "session_slash_bps" proof.sessionSlashBps
  checkBurnBps "min_heartbeat_coverage_bps" proof.minHeartbeatCoverageBps
  checkBurnBps "challenge_bond_burn_bps" proof.challengeBondBurnBps

def defaultProtocolParams : ProtocolParams where
  slotSeconds := 300
  epochSlots := 12
  committeeSize := 21
  unbondingBlocks := 5
  minVerifyBond := 100
  minProposeBond := 10000
  challengeWindowBlocks := 20
  maxEmergencyBrakeBlocks := 100
  minRetentionEpochs := 2
  fee :=
    { baseGasPriceNano := 100
      maxGasPriceNano := 1000
      gasAdjustmentPpm := 1150000
      congestionThresholdPpm := 500000
      feeBurnBps := 2500 }
  rewards :=
    { rewardSourceIsTokenomics := true
      emissionYear := 1
      rewardBlockSecs := 3600
      initialEmissionRateBps := 2000
      tailEmissionStartYear := 4
      tailEmissionRateBps := 200
      playerRewardAllocationBps := 8000
      serviceRewardAllocationBps := 1000
      collectRewardBps := 5000
      storeRewardBps := 2500
      verifyRewardBps := 1500
      proposeRewardBps := 1000
      configuredPlayerBlockReward := 1000
      effectivePlayerBlockReward := 18264
      targetNetworkWeightUnits := 150000000000000
      rewardAdjustmentCapBps := 2000
      tier1WeightPpm := 1000000
      tier2WeightMinPpm := 300000
      tier2WeightMaxPpm := 600000
      tier3WeightMinPpm := 50000
      tier3WeightMaxPpm := 150000
      appWeightOverrides := []
      rewardBurnThreshold := 10000
      rewardBurnBps := 1000
      governanceBurnBps := 100 }
  governance :=
    { paramsUpdateBond := 10000
      paramsUpdateQuorumBps := 2500
      paramsUpdateApprovalBps := 6000
      slowParamsUpdateBond := 20000
      slowParamsUpdateQuorumBps := 3300
      slowParamsUpdateApprovalBps := 7500 }
  slashing :=
    { doubleSignBps := 5000
      offlineBps := 100
      mediumDeviationBps := 500
      severeDeviationBps := 2000 }
  mutualProof := {}

/-- The reference parameters pass their own validation. -/
theorem defaultProtocolParams_valid : defaultProtocolParams.validate = .ok () := by
  decide

end PoleProtocol.Ledger
