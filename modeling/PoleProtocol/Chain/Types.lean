import PoleProtocol.Framework.Word
import PoleProtocol.Framework.Checks

/-!
# Records of the chain module

The protobuf records of the pole module, its parameters and their validation. Unsigned fields
are natural numbers, heights are integers, and an absent message field is `none`. A protobuf
enumeration is open, so each enumeration keeps the numbers outside its named values.
-/

namespace PoleProtocol.Chain

open Framework

structure MerkleCommitment where
  root : String := ""
  leafCount : ℕ := 0
  deriving DecidableEq

inductive NodeRole where
  | unspecified
  | player
  | service
  | coordinator
  | other (number : ℤ)
  deriving DecidableEq

structure NodeCapabilitySet where
  collect : Bool := false
  store : Bool := false
  verify : Bool := false
  propose : Bool := false
  deriving DecidableEq

structure NodeRecord where
  operatorAddress : String := ""
  rewardAddress : String := ""
  consensusAddress : String := ""
  role : NodeRole := .unspecified
  capabilities : Option NodeCapabilitySet := none
  active : Bool := false
  bondedTokens : ℕ := 0
  lastUpdatedEpoch : ℕ := 0
  isPlayer : Bool := false
  deriving DecidableEq

structure BatchCommit where
  epochId : ℕ := 0
  collectorAddress : String := ""
  slotStart : ℕ := 0
  slotEnd : ℕ := 0
  batch : Option MerkleCommitment := none
  payloadCid : String := ""
  observationCount : ℕ := 0
  submittedAtHeight : ℤ := 0
  deriving DecidableEq

structure AvailabilityRecord where
  epochId : ℕ := 0
  operatorAddress : String := ""
  payloadCid : String := ""
  retentionUntilEpoch : ℕ := 0
  receiptHashHex : String := ""
  deriving DecidableEq

structure RewardRecord where
  epochId : ℕ := 0
  recipient : String := ""
  playerReward : ℕ := 0
  collectReward : ℕ := 0
  storeReward : ℕ := 0
  verifyReward : ℕ := 0
  proposeReward : ℕ := 0
  slashDebit : ℕ := 0
  netReward : ℕ := 0
  deriving DecidableEq

structure AggregateRecord where
  epochId : ℕ := 0
  appId : ℕ := 0
  totalWeightUnits : ℕ := 0
  playerCount : ℕ := 0
  deriving DecidableEq

@[ext] structure EpochCommit where
  epochId : ℕ := 0
  acceptedBatches : Option MerkleCommitment := none
  observations : Option MerkleCommitment := none
  aggregates : Option MerkleCommitment := none
  rewards : Option MerkleCommitment := none
  availability : Option MerkleCommitment := none
  randomnessSeedHex : String := ""
  proposerAddress : String := ""
  challengeOpenHeight : ℤ := 0
  challengeDeadlineHeight : ℤ := 0
  finalized : Bool := false
  totalNetworkWeightUnits : ℕ := 0
  deriving DecidableEq

inductive ChallengeKind where
  | unspecified
  | badBatch
  | omission
  | badAggregate
  | badReward
  | badStorage
  | other (number : ℤ)
  deriving DecidableEq

inductive ChallengeState where
  | unspecified
  | open
  | resolved
  | rejected
  | other (number : ℤ)
  deriving DecidableEq

structure ChallengeEvidenceRef where
  batchRootHex : String := ""
  aggregateRootHex : String := ""
  rewardRootHex : String := ""
  payloadCid : String := ""
  merkleProofHex : List String := []
  aggregateAppId : ℕ := 0
  deriving DecidableEq

/-- The bond keeps its word type: its width decides whether a forfeiture can fail. -/
structure Challenge where
  challengeIdHex : String := ""
  kind : ChallengeKind := .unspecified
  epochId : ℕ := 0
  targetAddress : String := ""
  challenger : String := ""
  bondAmount : UInt64 := 0
  openedAtHeight : ℤ := 0
  deadlineHeight : ℤ := 0
  state : ChallengeState := .unspecified
  evidence : Option ChallengeEvidenceRef := none
  slashAmount : ℕ := 0
  challengerReward : ℕ := 0
  resolutionSummary : String := ""
  targetConsAddress : String := ""
  deriving DecidableEq

structure GameWeightEntry where
  appId : ℕ := 0
  gameWeightPpm : ℕ := 0
  tier : String := ""
  effectiveFromEpochId : ℕ := 0
  deriving DecidableEq

structure ReplicaReceipt where
  epochId : ℕ := 0
  payloadCid : String := ""
  storerAddress : String := ""
  retentionUntilEpoch : ℕ := 0
  receiptSignature : String := ""
  receiptHashHex : String := ""
  deriving DecidableEq

structure ClaimedReward where
  epochId : ℕ := 0
  recipient : String := ""
  claimedAtHeight : ℤ := 0
  amount : ℕ := 0
  deriving DecidableEq

structure VerificationRecord where
  epochId : ℕ := 0
  verifierAddress : String := ""
  targetBatchRootHex : String := ""
  targetCollector : String := ""
  isPlayer : Bool := false
  verified : Bool := false
  verifiedAtHeight : ℤ := 0
  signatureHex : String := ""
  deriving DecidableEq

structure PlaySession where
  sessionIdHex : String := ""
  nodeAddress : String := ""
  appId : ℕ := 0
  epochId : ℕ := 0
  slotId : ℕ := 0
  playSeconds : ℕ := 0
  collectorAddress : String := ""
  observationCid : String := ""
  observedPlayers : ℕ := 0
  submittedAtHeight : ℤ := 0
  sessionSignature : String := ""
  deriving DecidableEq

structure PlayHeartbeat where
  sessionIdHex : String := ""
  nodeAddress : String := ""
  bucketIndex : ℕ := 0
  signedAtMillis : ℤ := 0
  heartbeatSignature : String := ""
  deriving DecidableEq

structure WitnessAttestation where
  sessionIdHex : String := ""
  witnessAddress : String := ""
  observedPlaySeconds : ℕ := 0
  witnessObservationCid : String := ""
  observedPlayers : ℕ := 0
  attestedAtHeight : ℤ := 0
  witnessSignature : String := ""
  deriving DecidableEq

structure SessionSettlement where
  sessionIdHex : String := ""
  epochId : ℕ := 0
  appId : ℕ := 0
  nodeAddress : String := ""
  valid : Bool := false
  playSeconds : ℕ := 0
  gameWeightPpm : ℕ := 0
  playerWeightUnits : ℕ := 0
  witnessCount : ℕ := 0
  distinctObservationCount : ℕ := 0
  heartbeatCount : ℕ := 0
  heartbeatCoverageBps : ℕ := 0
  settledAtHeight : ℤ := 0
  invalidReason : String := ""
  deriving DecidableEq

/-- The SDK error a message handler wraps. -/
inductive SdkError where
  | invalidRequest
  | invalidAddress
  | unauthorized
  | notFound
  | insufficientFunds
  deriving DecidableEq

/-- An error of the module: an SDK error wrapped with a text, a plain formatted text, a missing
collection key, an error text of code outside the module, a recovered run-time panic, or an error
with a text put in front of it. -/
inductive ChainError where
  | wrapped (error : SdkError) (text : String)
  | plain (text : String)
  | missingKey (collection : String)
  | foreign (text : String)
  | panicked (text : String)
  | context (text : String) (cause : ChainError)
  deriving DecidableEq

/-! ## Bonded roles -/

def minServiceBondedTokens : ℕ := 1000000
def minCoordinatorBondedTokens : ℕ := 10000000
def minVerifyBondedTokens : ℕ := 2500000
def minProposeBondedTokens : ℕ := 10000000

/-- The stake a node record needs. A record that declares itself a player needs none. -/
def requiredBondedTokensForNode (node : NodeRecord) : ℕ :=
  if node.isPlayer then 0
  else
    let byRole := match node.role with
      | .service => max 0 minServiceBondedTokens
      | .coordinator => max 0 minCoordinatorBondedTokens
      | _ => 0
    match node.capabilities with
    | none => byRole
    | some capabilities =>
        let byVerify := if capabilities.verify then max byRole minVerifyBondedTokens else byRole
        if capabilities.propose then max byVerify minProposeBondedTokens else byVerify

/-! ## Parameters -/

structure Params where
  rewardBlockDurationSeconds : ℕ
  baseHourlyReward : ℕ
  targetNetworkWeightUnits : ℕ
  rewardAdjustmentCapBps : ℕ
  challengeWindowBlocks : ℕ
  minRetentionEpochs : ℕ
  playerRewardAllocationBps : ℕ
  serviceRewardAllocationBps : ℕ
  collectRewardBps : ℕ
  storeRewardBps : ℕ
  verifyRewardBps : ℕ
  proposeRewardBps : ℕ
  tier1WeightPpm : ℕ
  tier2WeightMinPpm : ℕ
  tier2WeightMaxPpm : ℕ
  tier3WeightMinPpm : ℕ
  tier3WeightMaxPpm : ℕ
  feeBurnBps : ℕ
  rewardBurnThreshold : ℕ
  rewardBurnBps : ℕ
  governanceBurnBps : ℕ
  minVerificationCount : ℕ
  minPlayerVerifierShareBps : ℕ
  minWitnessCount : ℕ
  minWitnessObservationTolerancePpm : ℕ
  minDistinctObservations : ℕ
  sessionSlashBps : ℕ
  minHeartbeatCount : ℕ
  heartbeatBucketSeconds : ℕ
  minHeartbeatCoverageBps : ℕ
  challengeBondBurnBps : ℕ
  deriving DecidableEq

def defaultParams : Params where
  rewardBlockDurationSeconds := 3600
  baseHourlyReward := 1000
  targetNetworkWeightUnits := 150000000000000
  rewardAdjustmentCapBps := 2000
  challengeWindowBlocks := 20
  minRetentionEpochs := 2
  playerRewardAllocationBps := 8000
  serviceRewardAllocationBps := 1000
  collectRewardBps := 5000
  storeRewardBps := 2500
  verifyRewardBps := 1500
  proposeRewardBps := 1000
  tier1WeightPpm := 1000000
  tier2WeightMinPpm := 300000
  tier2WeightMaxPpm := 600000
  tier3WeightMinPpm := 50000
  tier3WeightMaxPpm := 150000
  feeBurnBps := 2500
  rewardBurnThreshold := 10000
  rewardBurnBps := 1000
  governanceBurnBps := 100
  minVerificationCount := 3
  minPlayerVerifierShareBps := 5000
  minWitnessCount := 2
  minWitnessObservationTolerancePpm := 50000
  minDistinctObservations := 2
  sessionSlashBps := 5000
  minHeartbeatCount := 2
  heartbeatBucketSeconds := 300
  minHeartbeatCoverageBps := 5000
  challengeBondBurnBps := 2500

def validateBps (field : String) (value : ℕ) : Except ChainError Unit :=
  ensure (value ≤ 10000) (.plain (field ++ " must be <= 10000"))

/-- The checks run before a parameter set is stored. The two sums are 32-bit additions. -/
def Params.validate (p : Params) : Except ChainError Unit := do
  ensure (p.minPlayerVerifierShareBps ≤ 10000)
    (.plain "min_player_verifier_share_bps must be <= 10000")
  ensure (p.rewardBlockDurationSeconds ≠ 0)
    (.plain "reward_block_duration_seconds must be greater than 0")
  ensure (p.baseHourlyReward ≠ 0) (.plain "base_hourly_reward must be greater than 0")
  ensure (p.targetNetworkWeightUnits ≠ 0)
    (.plain "target_network_weight_units must be greater than 0")
  ensure (p.rewardAdjustmentCapBps ≤ 10000) (.plain "reward_adjustment_cap_bps must be <= 10000")
  ensure (p.challengeWindowBlocks ≠ 0) (.plain "challenge_window_blocks must be greater than 0")
  ensure (p.minRetentionEpochs ≠ 0) (.plain "min_retention_epochs must be greater than 0")
  let allocationTotal := wrap32 (p.playerRewardAllocationBps + p.serviceRewardAllocationBps)
  ensure (allocationTotal ≤ 10000)
    (.plain s!"player and service reward allocations must total <= 10000 bps, got {allocationTotal}")
  let serviceSplitTotal :=
    wrap32 (p.collectRewardBps + p.storeRewardBps + p.verifyRewardBps + p.proposeRewardBps)
  ensure (serviceSplitTotal = 10000)
    (.plain s!"service reward split must total 10000 bps, got {serviceSplitTotal}")
  validateBps "fee_burn_bps" p.feeBurnBps
  validateBps "reward_burn_bps" p.rewardBurnBps
  validateBps "governance_burn_bps" p.governanceBurnBps
  ensure (p.tier1WeightPpm ≠ 0) (.plain "tier1_weight_ppm must be greater than 0")
  ensure (p.tier2WeightMinPpm ≠ 0 ∧ p.tier2WeightMaxPpm ≠ 0 ∧
    p.tier2WeightMinPpm ≤ p.tier2WeightMaxPpm) (.plain "tier2 weight bounds are invalid")
  ensure (p.tier3WeightMinPpm ≠ 0 ∧ p.tier3WeightMaxPpm ≠ 0 ∧
    p.tier3WeightMinPpm ≤ p.tier3WeightMaxPpm) (.plain "tier3 weight bounds are invalid")
  ensure (p.minWitnessObservationTolerancePpm ≤ 1000000)
    (.plain "min_witness_observation_tolerance_ppm must be <= 1000000")
  validateBps "session_slash_bps" p.sessionSlashBps
  validateBps "min_heartbeat_coverage_bps" p.minHeartbeatCoverageBps
  validateBps "challenge_bond_burn_bps" p.challengeBondBurnBps
  ensure (p.heartbeatBucketSeconds ≠ 0) (.plain "heartbeat_bucket_seconds must be greater than 0")
  ensure (p.minDistinctObservations ≤ p.minWitnessCount)
    (.plain s!"min_distinct_observations ({p.minDistinctObservations}) must be <= min_witness_count ({p.minWitnessCount})")

/-- Validated burn and slash shares are genuine fractions. -/
theorem Params.validate_shares {p : Params} {u : Unit} (h : p.validate = .ok u) :
    p.rewardBurnBps ≤ 10000 ∧ p.governanceBurnBps ≤ 10000 ∧
      p.sessionSlashBps ≤ 10000 ∧ p.challengeBondBurnBps ≤ 10000 := by
  simp only [Params.validate, validateBps, ensure_bind_eq_ok, ensure_eq_ok] at h
  obtain ⟨_, _, _, _, _, _, _, _, _, _, hreward, hgovernance, _, _, _, _, hsession, _, hbond, _⟩ := h
  exact ⟨hreward, hgovernance, hsession, hbond⟩

example : defaultParams.validate = .ok () := by decide

end PoleProtocol.Chain
