import PoleProtocol.Ledger.Params
import PoleProtocol.Node.Retention
import PoleProtocol.Node.RewardRoot

/-!
# The aggregation of an epoch

A node groups the observations of an epoch by slot and app, and condenses each group into an
aggregate record: one observation for each collector, without the extremes, and a weight from the
median. The chain stores one record for each app of an epoch.
-/

namespace PoleProtocol.Node

open Framework Ledger

inductive GvsTier where
  | tier1
  | tier2
  | tier3
  deriving DecidableEq

structure AggregateRecord where
  epochId : ℕ
  slotId : ℕ
  appId : ℕ
  gvsTier : GvsTier
  primarySourceKind : ActivitySourceKind
  sourceConfidencePpm : ℕ
  acceptedObservations : ℕ
  medianPlayers : ℕ
  baseGlvMicrounits : ℕ
  tierWeightPpm : ℕ
  timeDecayPpm : ℕ
  coverageBonusPpm : ℕ
  gvsMicrounits : ℕ
  sourceBatchRoot : Hash32
  deriving DecidableEq

/-- The runtime configuration, and the rewards part of the protocol parameters that were activated
last. -/
structure AggregationConfig where
  slotsPerEpoch : ℕ
  activatedRewards : Option RewardParams

/-! ## The weight of a group -/

def ppmDenominator : ℕ := 1000000
def tier1MinPlayers : ℕ := 1000
def tier1MinCollectors : ℕ := 3

/-- The counters are 32-bit words. -/
def classifyTier (config : AggregationConfig) (uniqueCollectors medianPlayers : ℕ) :
    GvsTier × ℕ :=
  let tier1Weight := (config.activatedRewards.map (·.tier1WeightPpm)).getD 1000000
  let tier2Min := (config.activatedRewards.map (·.tier2WeightMinPpm)).getD 300000
  let tier2Max := (config.activatedRewards.map (·.tier2WeightMaxPpm)).getD 600000
  let tier3Min := (config.activatedRewards.map (·.tier3WeightMinPpm)).getD 50000
  let tier3Max := (config.activatedRewards.map (·.tier3WeightMaxPpm)).getD 150000
  if tier1MinCollectors ≤ uniqueCollectors ∧ tier1MinPlayers ≤ medianPlayers then
    (.tier1, tier1Weight)
  else if tier1MinCollectors ≤ uniqueCollectors then
    let collectorBonus := wrap32 ((uniqueCollectors - tier1MinCollectors) * 50000)
    let playerBonus := min (medianPlayers / 500) 3 * 50000
    (.tier2, min (wrap32 (tier2Min + collectorBonus + playerBonus)) tier2Max)
  else
    let collectorBonus := wrap32 ((uniqueCollectors - 1) * 25000)
    let playerBonus := min (medianPlayers / 500) 2 * 25000
    (.tier3, min (wrap32 (tier3Min + collectorBonus + playerBonus)) tier3Max)

/-- Later slots of an epoch weigh more. -/
def computeTimeDecayPpm (config : AggregationConfig) (slotId : ℕ) : ℕ :=
  let slotsPerEpoch := max config.slotsPerEpoch 1
  if slotsPerEpoch ≤ 1 then 1000000
  else
    let slotIndex := min (slotId - 1) (slotsPerEpoch - 1)
    let ramp := wrap64 (slotIndex * 150000) / (slotsPerEpoch - 1)
    min (wrap32 (850000 + wrap32 ramp)) 1000000

def computeCoverageBonusPpm (uniqueCollectors : ℕ) : ℕ :=
  let extraCollectors := uniqueCollectors - 1
  min (wrap32 (1000000 + min (extraCollectors * 50000) (2 ^ 32 - 1))) 1250000

def computeGvsMicrounits (baseGlvMicrounits tierWeightPpm timeDecayPpm coverageBonusPpm : ℕ) : ℕ :=
  let weighted := saturatingMul128 (saturatingMul128 (saturatingMul128 baseGlvMicrounits
    tierWeightPpm) timeDecayPpm) coverageBonusPpm
  min (weighted / ppmDenominator ^ 3) (2 ^ 64 - 1)

structure GvsFactors where
  baseGlvMicrounits : ℕ
  tier : GvsTier
  tierWeightPpm : ℕ
  timeDecayPpm : ℕ
  coverageBonusPpm : ℕ
  gvsMicrounits : ℕ

def computeGvsFactors (config : AggregationConfig) (slotId uniqueCollectors medianPlayers : ℕ) :
    GvsFactors :=
  let baseGlvMicrounits := min (medianPlayers * ppmDenominator) (2 ^ 64 - 1)
  let (tier, tierWeightPpm) := classifyTier config uniqueCollectors medianPlayers
  let timeDecayPpm := computeTimeDecayPpm config slotId
  let coverageBonusPpm := computeCoverageBonusPpm uniqueCollectors
  { baseGlvMicrounits
    tier
    tierWeightPpm
    timeDecayPpm
    coverageBonusPpm
    gvsMicrounits :=
      computeGvsMicrounits baseGlvMicrounits tierWeightPpm timeDecayPpm coverageBonusPpm }

/-! ## The observations of a group -/

structure AggregateInput where
  observation : ObservationRecord
  batchCommitHash : Hash32

def candidateRank (input : AggregateInput) : ℕ × ℕ × Hash32 × Hash32 × Bytes :=
  (input.observation.observedAtMillis, input.observation.observedPlayers,
    input.observation.rawBodyHash, input.batchCommitHash, input.observation.collectorSignature)

/-- Keep the first input of a collector until one of a lower rank comes. -/
def selectCandidate (selected : OrderedMap NodeId AggregateInput) (input : AggregateInput) :
    OrderedMap NodeId AggregateInput :=
  match selected[input.observation.collectorId]? with
  | some existing =>
      if compare (candidateRank input) (candidateRank existing) = .lt then
        selected.insert input.observation.collectorId input
      else selected
  | none => selected.insert input.observation.collectorId input

def deduplicateByCollector (inputs : List AggregateInput) : List AggregateInput :=
  OrderedMap.records (inputs.foldl selectCandidate ∅)

def trimmedRank (input : AggregateInput) : ℕ × NodeId × ℕ × Hash32 × Hash32 :=
  (input.observation.observedPlayers, input.observation.collectorId,
    input.observation.observedAtMillis, input.observation.rawBodyHash, input.batchCommitHash)

/-- Of five and more observations, the lowest and the highest are left out. -/
def trimExtremeObservations (inputs : List AggregateInput) : List AggregateInput :=
  if inputs.length < 5 then inputs else (sortByKey trimmedRank inputs).tail.dropLast

/-- The root over the distinct batches that contributed, in the order of their hashes. -/
def aggregateSourceBatchRoot (env : NodeEnv) (inputs : List AggregateInput) : Hash32 :=
  let leaves : OrderedMap Hash32 Unit :=
    inputs.foldl (fun leaves input => leaves.insert input.batchCommitHash ()) ∅
  env.merkleRoot leaves.keys

/-- The source kinds in their order. -/
def activitySourceKinds : List ActivitySourceKind := [.steam, .epic, .ea, .gog, .community]

/-- The kind that occurs most often; of several, the last one in their order. -/
def dominantSourceKind (observations : List ObservationRecord) : ActivitySourceKind :=
  let counts := (activitySourceKinds.map fun kind =>
    (kind, observations.countP (·.sourceKind = kind))).filter (·.2 ≠ 0)
  let best := counts.foldl (fun best entry =>
    match best with
    | none => some entry
    | some winner => if winner.2 ≤ entry.2 then some entry else some winner) none
  (best.map (·.1)).getD .steam

def averageSourceConfidencePpm (observations : List ObservationRecord) : ℕ :=
  if observations = [] then 1000000
  else wrap32 (wrap64 (observations.map (·.sourceConfidencePpm)).sum / observations.length)

def medianPlayers (inputs : List AggregateInput) : ℕ :=
  if inputs.isEmpty then 0
  else
    let players := (inputs.map (·.observation.observedPlayers)).insertionSort (· ≤ ·)
    let middle := players.length / 2
    if players.length % 2 = 1 then players.getD middle 0
    else saturatingAdd64 (players.getD (middle - 1) 0) (players.getD middle 0) / 2

/-! ## The aggregation -/

structure EpochAggregationGroup where
  slotId : ℕ
  appId : ℕ
  totalObservations : ℕ
  uniqueCollectors : ℕ
  trimmedObservations : ℕ
  acceptedObservations : List ObservationRecord
  aggregate : AggregateRecord

structure EpochAggregationArtifact where
  epochId : ℕ
  aggregateCount : ℕ
  totalObservationCount : ℕ
  dedupedObservationCount : ℕ
  acceptedObservationCount : ℕ
  aggregateRootHex : String
  /-- The groups; the artifact leaves their accepted observations out. -/
  records : List EpochAggregationGroup

structure EpochAggregationComputation where
  artifact : EpochAggregationArtifact
  groups : List EpochAggregationGroup

def aggregateRecordToChainJson (record : AggregateRecord) : String :=
  serializeStruct [natField "epoch_id" record.epochId, natField "app_id" record.appId,
    natField "total_weight_units" record.gvsMicrounits,
    natField "player_count" record.medianPlayers]

def aggregateKey (record : AggregateRecord) : ℕ × ℕ := (record.epochId, record.appId)

/-- The records are sorted like the store of the chain. -/
def aggregateRecordRoot (env : NodeEnv) (records : List AggregateRecord) : Hash32 :=
  env.merkleRoot ((sortByKey aggregateKey records).map fun record =>
    env.merkleLeaf (aggregateRecordToChainJson record).toUTF8.toList)

/-- The sum of 32-bit counters, up to the greatest one. -/
def saturatingSum32 (counts : List ℕ) : ℕ :=
  counts.foldl (fun total count => min (total + count) (2 ^ 32 - 1)) 0

section Aggregation

variable (env : NodeEnv) (encodeBatchCommit : BatchCommit → Bytes) (config : AggregationConfig)
  (epochId : ℕ)

def hashBatchCommit (batchCommit : BatchCommit) : Hash32 :=
  env.merkleLeaf (encodeBatchCommit batchCommit)

/-- The observations of the epoch, each with the batch it came in. -/
def epochInputs (batches : List AssembledBatch) : List AggregateInput :=
  batches.flatMap fun batch =>
    (batch.observations.filter (·.epochId = epochId)).map fun observation =>
      ⟨observation, hashBatchCommit env encodeBatchCommit batch.batchCommit⟩

def groupKey (input : AggregateInput) : ℕ × ℕ :=
  (input.observation.slotId, input.observation.appId)

def groupInputs (inputs : List AggregateInput) : OrderedMap (ℕ × ℕ) (List AggregateInput) :=
  inputs.foldl (fun groups input =>
    groups.insert (groupKey input) (groups[groupKey input]?.getD [] ++ [input])) ∅

def aggregateGroup (slotId appId : ℕ) (inputs : List AggregateInput) : EpochAggregationGroup :=
  let deduped := deduplicateByCollector inputs
  let uniqueCollectors := wrap32 deduped.length
  let accepted := trimExtremeObservations deduped
  let acceptedCount := wrap32 accepted.length
  let median := medianPlayers accepted
  let acceptedObservations := accepted.map (·.observation)
  let gvs := computeGvsFactors config slotId uniqueCollectors median
  { slotId
    appId
    totalObservations := wrap32 inputs.length
    uniqueCollectors
    trimmedObservations := uniqueCollectors - acceptedCount
    acceptedObservations
    aggregate :=
      { epochId
        slotId
        appId
        gvsTier := gvs.tier
        primarySourceKind := dominantSourceKind acceptedObservations
        sourceConfidencePpm := averageSourceConfidencePpm acceptedObservations
        acceptedObservations := acceptedCount
        medianPlayers := median
        baseGlvMicrounits := gvs.baseGlvMicrounits
        tierWeightPpm := gvs.tierWeightPpm
        timeDecayPpm := gvs.timeDecayPpm
        coverageBonusPpm := gvs.coverageBonusPpm
        gvsMicrounits := gvs.gvsMicrounits
        sourceBatchRoot := aggregateSourceBatchRoot env accepted } }

def computeLocalEpochAggregation (batches : List AssembledBatch) : EpochAggregationComputation :=
  let inputs := epochInputs env encodeBatchCommit epochId batches
  let groups := (groupInputs inputs).toList.map fun group =>
    aggregateGroup env config epochId group.1.1 group.1.2 group.2
  { artifact :=
      { epochId
        aggregateCount := groups.length
        totalObservationCount := min inputs.length (2 ^ 32 - 1)
        dedupedObservationCount := saturatingSum32 (groups.map (·.uniqueCollectors))
        acceptedObservationCount := saturatingSum32 (groups.map (·.aggregate.acceptedObservations))
        aggregateRootHex := hex32 (aggregateRecordRoot env (groups.map (·.aggregate)))
        records := groups }
    groups }

/-- The aggregate records of the epoch. -/
def localAggregates (batches : List AssembledBatch) : List AggregateRecord :=
  (computeLocalEpochAggregation env encodeBatchCommit config epochId batches).groups.map
    (·.aggregate)

end Aggregation

end PoleProtocol.Node
