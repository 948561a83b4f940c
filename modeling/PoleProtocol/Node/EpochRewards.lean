import PoleProtocol.Framework.Shares
import PoleProtocol.Node.EpochAggregation
import PoleProtocol.Node.PlayerTick
import PoleProtocol.Node.WitnessRewards

/-!
# The rewards of an epoch

A node computes the reward records of an epoch from what its files and the chain tell it. Pools are
derived from the weight of the epoch or from the emission; the collect and store pools are split
over scores by node, the verify pool over witness credits by account, and the rest goes to the node
itself. Shares are gathered by node id, and the chain names a record by its account.
-/

namespace PoleProtocol.Node

open Framework Ledger OrderedMap

structure VerificationCredential where
  epochId : ℕ
  targetCollectorHex : String
  verified : Bool

structure ServiceRewardPools where
  collectPool : ℕ
  storePool : ℕ
  verifyPool : ℕ
  proposePool : ℕ

structure EpochRewardConfig where
  env : NodeEnv
  settings : RewardSettings
  slotsPerEpoch : ℕ
  /-- The capabilities to verify and to propose. -/
  verify : Bool
  propose : Bool

/-- What the files of the node and the chain say. -/
structure EpochRewardInputs where
  batches : List AssembledBatch
  retentionBook : LocalRetentionBook
  playerTicks : List PlayerRewardTickArtifact
  evidence : EvidenceStore
  credentials : List VerificationCredential
  /-- Whether the chain has settled a session as valid. -/
  settlementValid : String → Bool
  /-- The witness credits of the epoch, where the chain answers. -/
  witnessCredits : Option (OrderedMap String ℕ)

structure EpochRewardEntry where
  nodeIdHex : String
  playerBlockCount : ℕ
  playerWeightUnits : ℕ
  playerRewardUnits : ℕ
  collectScoreUnits : ℕ
  storageScoreUnits : ℕ
  reward : RewardRecord

structure EpochRewardArtifact where
  epochId : ℕ
  rewardBlockSecs : ℕ
  playerBlockReward : ℕ
  rewardAdjustmentPeriodBlocks : ℕ
  targetNetworkWeightUnits : ℕ
  rewardAdjustmentCapBps : ℕ
  playerRewardBlockCount : ℕ
  playerRewardPool : ℕ
  localPlayerWeightUnits : ℕ
  totalNetworkWeightUnits : ℕ
  localPlayerRewardTotal : ℕ
  pendingPlayerRewardTotal : ℕ
  totalGvsUnits : ℕ
  collectPool : ℕ
  storePool : ℕ
  verifyPool : ℕ
  proposePool : ℕ
  totalDistributed : ℕ
  rewardCount : ℕ
  rewardRootHex : String
  records : List EpochRewardEntry

structure EpochRewardComputation where
  artifact : EpochRewardArtifact
  records : List RewardRecord

/-! ## The player reward -/

/-- The verified and the pending player reward with one more amount. -/
def addPlayerReward (verified : Bool) (amount : ℕ) (totals : ℕ × ℕ) : ℕ × ℕ :=
  if verified then (saturatingAdd128 totals.1 amount, totals.2)
  else (totals.1, saturatingAdd128 totals.2 amount)

/-- A tick without records counts as verified when any session is. -/
def countTick (verifiedSessions : Finset String) (totals : ℕ × ℕ)
    (tick : PlayerRewardTickArtifact) : ℕ × ℕ :=
  let totals := tick.records.foldl (fun totals record =>
    addPlayerReward (record.sessionId ≠ "" ∧ record.sessionId ∈ verifiedSessions)
      record.playerReward totals) totals
  if tick.records = [] ∧ 0 < tick.totalPlayerReward then
    addPlayerReward (verifiedSessions ≠ ∅) tick.totalPlayerReward totals
  else totals

/-! ## The pools -/

def rewardUnitsFromGvs (gvsMicrounits : ℕ) : ℕ := gvsMicrounits / 1000000

def proportionalServicePool (baseServicePool bps : ℕ) : ℕ :=
  if baseServicePool = 0 ∨ bps = 0 then 0 else max (saturatingMul128 baseServicePool bps / 10000) 1

def serviceRewardPoolsForEpoch (config : EpochRewardConfig) (playerBlockCount totalGvsUnits : ℕ)
    (hasRetentionRecords hasAggregationGroups hasWitnessCredits : Bool) : ServiceRewardPools :=
  let reward := config.settings.reward
  match reward.rewardSource with
  | .static =>
      { collectPool := totalGvsUnits
        storePool :=
          if 0 < totalGvsUnits ∧ hasRetentionRecords then max (totalGvsUnits / 5) 1 else 0
        verifyPool :=
          if 0 < totalGvsUnits ∧ (config.verify ∧ hasAggregationGroups) then
            max (totalGvsUnits / 10) 1
          else if hasWitnessCredits ∧ 0 < playerBlockCount then max (playerBlockCount * 100) 1
          else 0
        proposePool :=
          if 0 < totalGvsUnits ∧ config.propose ∧ hasAggregationGroups then
            max (totalGvsUnits / 20) 1
          else 0 }
  | .tokenomics =>
      let baseServicePool := saturatingMul128
        (baseServiceRewardPerBlock reward.emissionYear reward.rewardBlockSecs) playerBlockCount
      { collectPool := proportionalServicePool baseServicePool reward.collectRewardBps
        storePool :=
          if hasRetentionRecords then
            proportionalServicePool baseServicePool reward.storeRewardBps
          else 0
        verifyPool :=
          if (config.verify ∧ hasAggregationGroups) ∨ hasWitnessCredits then
            proportionalServicePool baseServicePool reward.verifyRewardBps
          else 0
        proposePool :=
          if config.propose ∧ hasAggregationGroups then
            proportionalServicePool baseServicePool reward.proposeRewardBps
          else 0 }

/-! ## Scores and credits -/

/-- Each accepted observation of a group counts for its collector. -/
def collectGroupScores (scores : OrderedMap NodeId ℕ) (group : EpochAggregationGroup) :
    OrderedMap NodeId ℕ :=
  if group.acceptedObservations = [] then scores
  else
    let groupUnits := rewardUnitsFromGvs group.aggregate.gvsMicrounits
    if groupUnits = 0 then scores
    else
      let perObservationWeight := max (groupUnits / group.acceptedObservations.length) 1
      group.acceptedObservations.foldl
        (fun scores observation => addAmount scores observation.collectorId perObservationWeight)
        scores

def collectCollectScores (groups : List EpochAggregationGroup) : OrderedMap NodeId ℕ :=
  groups.foldl collectGroupScores ∅

/-- Each retained payload of the epoch counts for its storer. -/
def storageScores (retained : List StoredPayloadRecord) : OrderedMap NodeId ℕ :=
  retained.foldl (fun scores record =>
    addAmount scores record.receipt.storerId (max record.sizeBytes 1)) ∅

/-- The attestations of the epoch's stored sessions, counted by the account of the witness. -/
def localWitnessCredits (encodeBech32 : String → Bytes → Except String String)
    (evidence : EvidenceStore) (epochId : ℕ) : OrderedMap String ℕ :=
  evidence.loadWitnessAttestations.foldl (fun credits attestation =>
    evidence.loadPlaySessions.foldl (fun credits session =>
      if session.sessionId = attestation.sessionId ∧ session.epochId = epochId then
        match nodeIdToBech32 encodeBech32 attestation.witnessAddress with
        | .ok account => addAmount credits account 1
        | .error _ => credits
      else credits) credits) ∅

/-- The credits the chain recorded; without any, the local ones. -/
def loadWitnessCredits (encodeBech32 : String → Bytes → Except String String)
    (inputs : EpochRewardInputs) (epochId : ℕ) : OrderedMap String ℕ :=
  let credits := inputs.witnessCredits.getD ∅
  if credits.isEmpty then localWitnessCredits encodeBech32 inputs.evidence epochId else credits

def localWitnessAttestationCount (env : NodeEnv) (credentials : List VerificationCredential)
    (epochId : ℕ) : ℕ :=
  (credentials.filter fun credential =>
    credential.epochId = epochId ∧ credential.verified ∧
      credential.targetCollectorHex ≠ hex32 env.nodeId).length

/-! ## Splitting a pool over scores -/

/-- Write the rounded share of one node, count it as distributed and note its remainder. -/
def shareOut (pool totalWeight : ℕ) (acc : OrderedMap NodeId ℕ × ℕ × List (ℕ × NodeId))
    (entry : NodeId × ℕ) : OrderedMap NodeId ℕ × ℕ × List (ℕ × NodeId) :=
  let numerator := saturatingMul128 pool entry.2
  let share := numerator / totalWeight
  (acc.1.insert entry.1 share, saturatingAdd128 acc.2.1 share,
    acc.2.2 ++ [(numerator % totalWeight, entry.1)])

def largestFirst (left right : ℕ × NodeId) : Prop :=
  (compare right.1 left.1).then (compare right.2 left.2) ≠ .gt

instance : DecidableRel largestFirst := fun _ _ => inferInstanceAs (Decidable (_ ≠ _))

/-- Give one unit after the other, going around the ranked nodes. -/
def handAround (remainders : List (ℕ × NodeId)) :
    (leftover index : ℕ) → OrderedMap NodeId ℕ → OrderedMap NodeId ℕ
  | 0, _, allocations => allocations
  | leftover + 1, index, allocations =>
      match remainders[index % remainders.length]? with
      | some entry => handAround remainders leftover (index + 1) (addAmount allocations entry.2 1)
      | none => allocations

def allocateProportional (weights : OrderedMap NodeId ℕ) (pool : ℕ) : OrderedMap NodeId ℕ :=
  if pool = 0 ∨ weights.isEmpty then ∅
  else
    let totalWeight := sumAmounts (weights.toList.map (·.2))
    if totalWeight = 0 then ∅
    else
      let (allocations, distributed, remainders) :=
        weights.toList.foldl (shareOut pool totalWeight) (∅, 0, [])
      handAround (remainders.insertionSort largestFirst) (pool - distributed) 0 allocations

/-! ## Gathering the shares by node -/

inductive RewardComponent where
  | collect
  | store
  deriving DecidableEq

def emptyRewardRecord (epochId : ℕ) (nodeId : NodeId) : RewardRecord where
  epochId := epochId
  nodeId := nodeId
  recipientAddress := ""
  playerReward := 0
  collectReward := 0
  storeReward := 0
  verifyReward := 0
  proposeReward := 0
  slashDebit := 0
  netReward := 0

/-- Name the record by the account when one is known. -/
def stampRecipient (recipient : Option String) (record : RewardRecord) : RewardRecord :=
  match recipient with
  | some address => if address ≠ "" then { record with recipientAddress := address } else record
  | none => record

abbrev RewardMap := OrderedMap NodeId RewardRecord

/-- Change the record of a node, or the empty record where it has none. -/
def updateReward (epochId : ℕ) (rewards : RewardMap) (nodeId : NodeId)
    (update : RewardRecord → RewardRecord) : RewardMap :=
  rewards.insert nodeId (update (rewards[nodeId]?.getD (emptyRewardRecord epochId nodeId)))

def RewardComponent.credit (component : RewardComponent) (amount : ℕ) (record : RewardRecord) :
    RewardRecord :=
  match component with
  | .collect => { record with collectReward := record.collectReward + amount }
  | .store => { record with storeReward := record.storeReward + amount }

def mergeRewardComponent (epochId : ℕ) (component : RewardComponent)
    (componentRewards : OrderedMap NodeId ℕ) (rewards : RewardMap) : RewardMap :=
  componentRewards.toList.foldl
    (fun rewards entry => updateReward epochId rewards entry.1 (component.credit entry.2)) rewards

/-- A node id for a witness of which only the account is known. -/
def witnessNodeId (recipient : String) : NodeId := stableHash32 recipient.toUTF8.toList

/-- The scores, credits, pools and amounts that the records of an epoch are made of. -/
structure EpochRewardParts where
  localNodeId : NodeId
  localRecipient : Option String
  collectScores : OrderedMap NodeId ℕ
  storageScores : OrderedMap NodeId ℕ
  credits : OrderedMap String ℕ
  pools : ServiceRewardPools
  verifiedPlayerRewardTotal : ℕ
  localAttestationCount : ℕ

namespace EpochRewardParts

variable (parts : EpochRewardParts)

def collectRewards : OrderedMap NodeId ℕ :=
  allocateProportional parts.collectScores parts.pools.collectPool

def storeRewards : OrderedMap NodeId ℕ :=
  allocateProportional parts.storageScores parts.pools.storePool

/-- The node a witness stands for: the local node under its own account, else one of its own. -/
def witnessNode (recipient : String) : NodeId :=
  if parts.localRecipient = some recipient then parts.localNodeId else witnessNodeId recipient

/-- Name the local record, if there is one, by the account of the identity. -/
def nameLocalRecord (rewards : RewardMap) : RewardMap :=
  match parts.localRecipient with
  | some address =>
      rewards.map fun _ record =>
        if record.nodeId = parts.localNodeId then { record with recipientAddress := address }
        else record
  | none => rewards

variable (epochId : ℕ)

def creditPlayer (rewards : RewardMap) : RewardMap :=
  if 0 < parts.verifiedPlayerRewardTotal then
    updateReward epochId rewards parts.localNodeId fun record =>
      let record := stampRecipient parts.localRecipient record
      { record with playerReward := record.playerReward + parts.verifiedPlayerRewardTotal }
  else rewards

/-- Split the pool over the credits; without any, the node's own attestations earn it whole. -/
def creditVerification (rewards : RewardMap) : RewardMap :=
  if ¬ parts.credits.isEmpty then
    (allocateWitnessRewards parts.credits parts.pools.verifyPool).toList.foldl
      (fun rewards entry =>
        updateReward epochId rewards (parts.witnessNode entry.1) fun record =>
          let record := stampRecipient (some entry.1) record
          { record with verifyReward := saturatingAdd128 record.verifyReward entry.2 })
      rewards
  else if 0 < parts.pools.verifyPool ∧ 0 < parts.localAttestationCount then
    updateReward epochId rewards parts.localNodeId fun record =>
      let record := stampRecipient parts.localRecipient record
      { record with verifyReward := record.verifyReward + parts.pools.verifyPool }
  else rewards

def creditProposal (rewards : RewardMap) : RewardMap :=
  if 0 < parts.pools.proposePool then
    updateReward epochId rewards parts.localNodeId fun record =>
      let record := stampRecipient parts.localRecipient record
      { record with proposeReward := record.proposeReward + parts.pools.proposePool }
  else rewards

def rewardMap : RewardMap :=
  let rewards := mergeRewardComponent epochId .collect parts.collectRewards ∅
  let rewards := mergeRewardComponent epochId .store parts.storeRewards rewards
  let rewards := parts.nameLocalRecord rewards
  let rewards := parts.creditPlayer epochId rewards
  let rewards := parts.creditVerification epochId rewards
  parts.creditProposal epochId rewards

end EpochRewardParts

/-! ## The records -/

/-- The key of the chain's store; a record without an account comes first. -/
def recordKey (encodeBech32 : String → Bytes → Except String String) (record : RewardRecord) :
    ℕ × String :=
  (record.epochId, (chainRecipient encodeBech32 record).toOption.getD "")

def withNetReward (record : RewardRecord) : RewardRecord :=
  { record with
    netReward := saturatingAdd128 (saturatingAdd128 (saturatingAdd128 (saturatingAdd128
      record.playerReward record.collectReward) record.storeReward) record.verifyReward)
      record.proposeReward - record.slashDebit }

section Computation

variable (encodeBatchCommit : BatchCommit → Bytes)
  (encodeBech32 : String → Bytes → Except String String) (config : EpochRewardConfig)
  (inputs : EpochRewardInputs) (epochId : ℕ)

/-- The account of the node's identity. -/
def identityAccountBech32 (env : NodeEnv) : Option String :=
  env.identityKeypair.bind fun identity =>
    (encodeBech32 defaultBech32Prefix
      ((env.sha256 identity.publicKey.bytes).bytes.take 20)).toOption

def rewardAggregation : EpochAggregationComputation :=
  computeLocalEpochAggregation config.env encodeBatchCommit
    ⟨config.slotsPerEpoch, config.settings.activated.map (·.rewards)⟩ epochId inputs.batches

def playerTicksForEpoch : List PlayerRewardTickArtifact :=
  inputs.playerTicks.filter (·.epochId = epochId)

def verifiedSessions : Finset String :=
  inputs.evidence.verifiedSessionIdsForEpoch config.env inputs.settlementValid epochId

/-- The verified and the pending player reward of the epoch. -/
def playerRewardTotals : ℕ × ℕ :=
  (playerTicksForEpoch inputs epochId).foldl
    (countTick (verifiedSessions config inputs epochId)) (0, 0)

/-- The completed blocks of the epoch, once a session is verified. -/
def verifiedPlayerBlockCount : ℕ :=
  if verifiedSessions config inputs epochId ≠ ∅ then
    ((playerTicksForEpoch inputs epochId).map (·.completedRewardBlockCount)).sum
  else 0

def totalGvsUnits : ℕ :=
  sumAmounts ((rewardAggregation encodeBatchCommit config inputs epochId).groups.map fun group =>
    rewardUnitsFromGvs group.aggregate.gvsMicrounits)

def retainedForEpoch : List StoredPayloadRecord :=
  (OrderedMap.records inputs.retentionBook.payloads).filter (·.epochId = epochId)

def epochRewardParts : EpochRewardParts :=
  let aggregation := rewardAggregation encodeBatchCommit config inputs epochId
  let retained := retainedForEpoch inputs epochId
  let credits := loadWitnessCredits encodeBech32 inputs epochId
  { localNodeId := config.env.nodeId
    localRecipient := identityAccountBech32 encodeBech32 config.env
    collectScores := collectCollectScores aggregation.groups
    storageScores := storageScores retained
    credits
    pools :=
      serviceRewardPoolsForEpoch config (verifiedPlayerBlockCount config inputs epochId)
        (totalGvsUnits encodeBatchCommit config inputs epochId) (!retained.isEmpty)
        (!aggregation.groups.isEmpty) (!credits.isEmpty)
    verifiedPlayerRewardTotal := (playerRewardTotals config inputs epochId).1
    localAttestationCount :=
      localWitnessAttestationCount config.env inputs.credentials epochId }

/-- The records in the order of the reward root, each with its net reward. -/
def epochRewardRecords : List RewardRecord :=
  let parts := epochRewardParts encodeBatchCommit encodeBech32 config inputs epochId
  (sortByKey (recordKey encodeBech32) (OrderedMap.records (parts.rewardMap epochId))).map
    withNetReward

def computeLocalEpochRewards : Except String EpochRewardComputation := do
  let parts := epochRewardParts encodeBatchCommit encodeBech32 config inputs epochId
  let records := epochRewardRecords encodeBatchCommit encodeBech32 config inputs epochId
  let rewardRoot ← rewardRecordRoot encodeBech32 config.env records
  let tickRecords := (playerTicksForEpoch inputs epochId).flatMap (·.records)
  let settings := config.settings
  let totals := playerRewardTotals config inputs epochId
  let blockCount := verifiedPlayerBlockCount config inputs epochId
  let localPlayerWeightUnits :=
    if 0 < totals.1 then sumAmounts (tickRecords.map (·.playerWeightUnits)) else 0
  return {
    artifact :=
      { epochId
        rewardBlockSecs := settings.effectiveRewardBlockSecs
        playerBlockReward := settings.effectivePlayerBlockReward
        rewardAdjustmentPeriodBlocks := settings.reward.rewardAdjustmentPeriodBlocks
        targetNetworkWeightUnits := settings.effectiveTargetNetworkWeightUnits
        rewardAdjustmentCapBps := settings.effectiveRewardAdjustmentCapBps
        playerRewardBlockCount := blockCount
        playerRewardPool := sumAmounts (tickRecords.map (·.fixedPlayerReward))
        localPlayerWeightUnits
        totalNetworkWeightUnits := sumAmounts (tickRecords.map (·.totalNetworkWeightUnits))
        localPlayerRewardTotal := totals.1
        pendingPlayerRewardTotal := totals.2
        totalGvsUnits := totalGvsUnits encodeBatchCommit config inputs epochId
        collectPool := parts.pools.collectPool
        storePool := parts.pools.storePool
        verifyPool := parts.pools.verifyPool
        proposePool := parts.pools.proposePool
        totalDistributed := sumAmounts (records.map (·.netReward))
        rewardCount := records.length
        rewardRootHex := hex32 rewardRoot
        records := records.map fun record =>
          let isLocal : Bool := record.nodeId = parts.localNodeId
          { nodeIdHex := hex32 record.nodeId
            playerBlockCount := if isLocal then blockCount else 0
            playerWeightUnits := if isLocal then localPlayerWeightUnits else 0
            playerRewardUnits := if isLocal then totals.1 else 0
            collectScoreUnits := parts.collectScores[record.nodeId]?.getD 0
            storageScoreUnits := parts.storageScores[record.nodeId]?.getD 0
            reward := record } }
    records }

end Computation

end PoleProtocol.Node
