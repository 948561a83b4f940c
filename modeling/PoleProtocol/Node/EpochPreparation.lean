import PoleProtocol.Node.LocalChain

/-!
# The preparation of an epoch

Before an epoch is settled, a node aggregates its observations, computes its rewards, verifies its
batches and builds the commit that names the roots of all of them.
-/

namespace PoleProtocol.Node

open Framework Ledger OrderedMap

/-- The code outside the node that a settlement calls. -/
structure SettlementEnv where
  ledger : Ledger.Env
  encodeBatchCommit : BatchCommit → Bytes
  encodeStoredPayload : StoredPayloadRecord → Bytes
  encodeBech32 : String → Bytes → Except String String

structure EpochVerificationReport where
  batchCount : ℕ
  storedPayloadCount : ℕ
  allValid : Bool

/-- What the files of a node and the chain say about its epochs. -/
structure LocalData where
  /-- The files as the rewards read them, with the batches of all epochs. -/
  inputs : EpochRewardInputs
  /-- The outcome of the verification of an epoch. -/
  verifyLocalEpoch : ℕ → Except String EpochVerificationReport

def LocalData.loadBatchesForEpoch (data : LocalData) (epochId : ℕ) : List AssembledBatch :=
  data.inputs.batches.filter (·.batchCommit.epochId = epochId)

def LocalData.inputsForEpoch (data : LocalData) (epochId : ℕ) : EpochRewardInputs :=
  { data.inputs with batches := data.loadBatchesForEpoch epochId }

structure EpochCommitArtifact where
  epochId : ℕ
  currentHeight : ℕ
  challengeDeadlineHeight : ℕ
  batchCount : ℕ
  payloadCount : ℕ
  acceptedBatchesRootHex : String
  observationsRootHex : String
  availabilityRootHex : String
  aggregatesRootHex : String
  rewardsRootHex : String
  randomnessSeedHex : String

structure EpochPreparationArtifact where
  epochId : ℕ
  currentHeight : ℕ
  challengeWindowBlocks : ℕ
  challengeDeadlineHeight : ℕ
  batchCount : ℕ
  payloadCount : ℕ
  verificationBatchCount : ℕ
  storedPayloadCount : ℕ
  aggregateCount : ℕ
  rewardCount : ℕ
  playerRewardBlockCount : ℕ
  totalObservationCount : ℕ
  dedupedObservationCount : ℕ
  acceptedObservationCount : ℕ
  localPlayerRewardTotal : ℕ
  totalGvsUnits : ℕ
  totalDistributed : ℕ
  verificationAllValid : Bool
  acceptedBatchesRootHex : String
  observationsRootHex : String
  availabilityRootHex : String
  aggregatesRootHex : String
  rewardsRootHex : String
  randomnessSeedHex : String
  readyForSubmission : Bool

structure EpochPreparationComputation where
  artifact : EpochPreparationArtifact
  aggregationArtifact : EpochAggregationArtifact
  rewardArtifact : EpochRewardArtifact
  verificationReport : EpochVerificationReport
  epochCommit : EpochCommit
  epochCommitArtifact : EpochCommitArtifact

/-- The reward records of an artifact. -/
def EpochRewardArtifact.rewards (artifact : EpochRewardArtifact) : List RewardRecord :=
  artifact.records.map (·.reward)

/-- An error of another service, as the preparation reports it. -/
def reported {α : Type} (report : String → NodePreparationError) :
    Except String α → Attempt NodePreparationError α
  | .ok a => .ok a
  | .error message => .error (.refused (report message))

theorem reported_ok {α : Type} {report : String → NodePreparationError} {x : Except String α}
    {a : α} : reported report x = .ok a ↔ x = .ok a := by
  cases x <;> simp [reported]

/-! ## The commit -/

structure EpochCommitInputs where
  epochId : ℕ
  currentHeight : ℕ
  challengeWindowBlocks : ℕ
  batches : List AssembledBatch
  storedPayloads : List StoredPayloadRecord
  aggregatesRoot : Hash32
  rewardsRoot : Hash32

/-- A commitment to a root that stands for one leaf, unless it is zero. -/
def rootCommitment (root : Hash32) : MerkleCommitment := ⟨root, if root = 0 then 0 else 1⟩

section Preparation

variable (senv : SettlementEnv) (config : NodeConfig)

def buildEpochCommit (inputs : EpochCommitInputs) : Attempt NodePreparationError EpochCommit := do
  ensure (config.propose = true) (.refused (.missingCapability .propose))
  ensure (inputs.batches ≠ []) (.refused .emptyBatchSet)
  let acceptedBatchesRoot := config.env.merkleRoot (inputs.batches.map fun batch =>
    config.env.merkleLeaf (senv.encodeBatchCommit batch.batchCommit))
  let observations := inputs.batches.flatMap (·.observations)
  let observationsRoot := config.env.merkleRoot (config.env.observationLeaves observations)
  let availabilityRoot := config.env.merkleRoot (inputs.storedPayloads.map fun record =>
    config.env.merkleLeaf (senv.encodeStoredPayload record))
  let randomnessSeed := stableHash32
    (wordLeBytes 8 inputs.epochId ++ acceptedBatchesRoot.bytes ++ observationsRoot.bytes)
  let challengeDeadlineHeight ←
    require (senv.ledger.narrow.add 64 inputs.currentHeight inputs.challengeWindowBlocks) .panic
  return {
    epochId := inputs.epochId
    acceptedBatches := ⟨acceptedBatchesRoot, wrap32 inputs.batches.length⟩
    observations := ⟨observationsRoot, wrap32 observations.length⟩
    aggregates := rootCommitment inputs.aggregatesRoot
    rewards := rootCommitment inputs.rewardsRoot
    availability := ⟨availabilityRoot, wrap32 inputs.storedPayloads.length⟩
    randomnessSeed
    proposerId := config.env.nodeId
    challengeOpenHeight := inputs.currentHeight
    challengeDeadlineHeight }

def epochCommitArtifact (commit : EpochCommit) (currentHeight : ℕ) : EpochCommitArtifact where
  epochId := commit.epochId
  currentHeight
  challengeDeadlineHeight := commit.challengeDeadlineHeight
  batchCount := commit.acceptedBatches.leafCount
  payloadCount := commit.availability.leafCount
  acceptedBatchesRootHex := hex32 commit.acceptedBatches.root
  observationsRootHex := hex32 commit.observations.root
  availabilityRootHex := hex32 commit.availability.root
  aggregatesRootHex := hex32 commit.aggregates.root
  rewardsRootHex := hex32 commit.rewards.root
  randomnessSeedHex := hex32 commit.randomnessSeed

variable (store : InMemoryStore) (data : LocalData) (epochId : ℕ)

/-- The configuration of the rewards, under what the local chain has activated. -/
def NodeConfig.epochRewardConfig : EpochRewardConfig where
  env := config.env
  settings := config.rewardSettings store
  slotsPerEpoch := config.slotsPerEpoch
  verify := config.verify
  propose := config.propose

def aggregateLocalEpoch : EpochAggregationArtifact :=
  (rewardAggregation senv.encodeBatchCommit (config.epochRewardConfig store)
    (data.inputsForEpoch epochId) epochId).artifact

def rewardLocalEpoch : Except String EpochRewardArtifact := do
  let computation ← computeLocalEpochRewards senv.encodeBatchCommit senv.encodeBech32
    (config.epochRewardConfig store) (data.inputsForEpoch epochId) epochId
  return computation.artifact

/-- A root of zero is computed again, from the files of the node. -/
def buildEpochCommitFromLocalData (currentHeight challengeWindowBlocks : ℕ)
    (aggregatesRoot rewardsRoot : Hash32) :
    Attempt NodePreparationError (EpochCommit × EpochCommitArtifact) := do
  let batches := data.loadBatchesForEpoch epochId
  let resolvedAggregatesRoot :=
    if aggregatesRoot = 0 then
      aggregateRecordRoot config.env
        ((aggregateLocalEpoch senv config store data epochId).records.map (·.aggregate))
    else aggregatesRoot
  let resolvedRewardsRoot ←
    if rewardsRoot = 0 then do
      let artifact ← reported .reward (rewardLocalEpoch senv config store data epochId)
      reported .reward (rewardRecordRoot senv.encodeBech32 config.env artifact.rewards)
    else pure rewardsRoot
  let epochCommit ← buildEpochCommit senv config
    { epochId
      currentHeight
      challengeWindowBlocks
      batches
      storedPayloads := retainedForEpoch data.inputs epochId
      aggregatesRoot := resolvedAggregatesRoot
      rewardsRoot := resolvedRewardsRoot }
  return (epochCommit, epochCommitArtifact epochCommit currentHeight)

def computeLocalEpochPreparation (currentHeight challengeWindowBlocks : ℕ) :
    Attempt NodePreparationError EpochPreparationComputation := do
  let aggregation := aggregateLocalEpoch senv config store data epochId
  let aggregatesRoot := aggregateRecordRoot config.env (aggregation.records.map (·.aggregate))
  let rewards ← reported .reward (rewardLocalEpoch senv config store data epochId)
  let rewardsRoot ← reported .reward
    (rewardRecordRoot senv.encodeBech32 config.env rewards.rewards)
  let report ← reported .verification (data.verifyLocalEpoch epochId)
  let (epochCommit, commitArtifact) ← buildEpochCommitFromLocalData senv config store data epochId
    currentHeight challengeWindowBlocks aggregatesRoot rewardsRoot
  let readyForSubmission : Bool := report.allValid ∧ 0 < commitArtifact.batchCount ∧
    0 < commitArtifact.payloadCount ∧ currentHeight ≤ commitArtifact.challengeDeadlineHeight
  return {
    artifact :=
      { epochId
        currentHeight
        challengeWindowBlocks
        challengeDeadlineHeight := commitArtifact.challengeDeadlineHeight
        batchCount := commitArtifact.batchCount
        payloadCount := commitArtifact.payloadCount
        verificationBatchCount := report.batchCount
        storedPayloadCount := report.storedPayloadCount
        aggregateCount := aggregation.aggregateCount
        rewardCount := rewards.rewardCount
        playerRewardBlockCount := rewards.playerRewardBlockCount
        totalObservationCount := aggregation.totalObservationCount
        dedupedObservationCount := aggregation.dedupedObservationCount
        acceptedObservationCount := aggregation.acceptedObservationCount
        localPlayerRewardTotal := rewards.localPlayerRewardTotal
        totalGvsUnits := rewards.totalGvsUnits
        totalDistributed := rewards.totalDistributed
        verificationAllValid := report.allValid
        acceptedBatchesRootHex := commitArtifact.acceptedBatchesRootHex
        observationsRootHex := commitArtifact.observationsRootHex
        availabilityRootHex := commitArtifact.availabilityRootHex
        aggregatesRootHex := commitArtifact.aggregatesRootHex
        rewardsRootHex := commitArtifact.rewardsRootHex
        randomnessSeedHex := commitArtifact.randomnessSeedHex
        readyForSubmission }
    aggregationArtifact := aggregation
    rewardArtifact := rewards
    verificationReport := report
    epochCommit
    epochCommitArtifact := commitArtifact }

end Preparation

end PoleProtocol.Node
