import PoleProtocol.Framework.Protobuf
import PoleProtocol.Chain.MsgServer

/-!
# Messages read off the wire

The fields of the chain's messages, with their numbers and their widths. A number that is wider
than its field loses its high bits.
-/

namespace PoleProtocol.Chain

open Framework Framework.Protobuf

/-! ## Widths -/

def readUint64 (fields : List WireField) (number : ℕ) : Option ℕ := readNumber fields number

def readUint32 (fields : List WireField) (number : ℕ) : Option ℕ :=
  (readNumber fields number).map wrap32

def readInt64 (fields : List WireField) (number : ℕ) : Option ℤ :=
  (readNumber fields number).map toInt64

/-- The number of a constant, of 32 bits with a sign. -/
def readEnum (fields : List WireField) (number : ℕ) : Option ℤ :=
  (readNumber fields number).map fun n => (BitVec.ofNat 32 n).toInt

/-! ## Records -/

def RewardRecord.unmarshal (fields : List WireField) : Option RewardRecord := do
  let epochId ← readUint64 fields 1
  let recipient ← readString fields 2
  let playerReward ← readUint64 fields 3
  let collectReward ← readUint64 fields 4
  let storeReward ← readUint64 fields 5
  let verifyReward ← readUint64 fields 6
  let proposeReward ← readUint64 fields 7
  let slashDebit ← readUint64 fields 8
  let netReward ← readUint64 fields 9
  return { epochId, recipient, playerReward, collectReward, storeReward, verifyReward,
           proposeReward, slashDebit, netReward }

def Params.unmarshal (fields : List WireField) : Option Params := do
  let rewardBlockDurationSeconds ← readUint64 fields 1
  let baseHourlyReward ← readUint64 fields 2
  let targetNetworkWeightUnits ← readUint64 fields 3
  let rewardAdjustmentCapBps ← readUint32 fields 4
  let challengeWindowBlocks ← readUint64 fields 5
  let minRetentionEpochs ← readUint64 fields 6
  let playerRewardAllocationBps ← readUint32 fields 7
  let serviceRewardAllocationBps ← readUint32 fields 8
  let collectRewardBps ← readUint32 fields 9
  let storeRewardBps ← readUint32 fields 10
  let verifyRewardBps ← readUint32 fields 11
  let proposeRewardBps ← readUint32 fields 12
  let tier1WeightPpm ← readUint32 fields 13
  let tier2WeightMinPpm ← readUint32 fields 14
  let tier2WeightMaxPpm ← readUint32 fields 15
  let tier3WeightMinPpm ← readUint32 fields 16
  let tier3WeightMaxPpm ← readUint32 fields 17
  let feeBurnBps ← readUint32 fields 18
  let rewardBurnThreshold ← readUint64 fields 19
  let rewardBurnBps ← readUint32 fields 20
  let governanceBurnBps ← readUint32 fields 21
  let minVerificationCount ← readUint64 fields 22
  let minPlayerVerifierShareBps ← readUint32 fields 23
  let minWitnessCount ← readUint64 fields 24
  let minWitnessObservationTolerancePpm ← readUint32 fields 25
  let minDistinctObservations ← readUint64 fields 26
  let sessionSlashBps ← readUint32 fields 27
  let minHeartbeatCount ← readUint64 fields 28
  let heartbeatBucketSeconds ← readUint64 fields 29
  let minHeartbeatCoverageBps ← readUint32 fields 30
  let challengeBondBurnBps ← readUint32 fields 31
  return { rewardBlockDurationSeconds, baseHourlyReward, targetNetworkWeightUnits,
           rewardAdjustmentCapBps, challengeWindowBlocks, minRetentionEpochs,
           playerRewardAllocationBps, serviceRewardAllocationBps, collectRewardBps, storeRewardBps,
           verifyRewardBps, proposeRewardBps, tier1WeightPpm, tier2WeightMinPpm, tier2WeightMaxPpm,
           tier3WeightMinPpm, tier3WeightMaxPpm, feeBurnBps, rewardBurnThreshold, rewardBurnBps,
           governanceBurnBps, minVerificationCount, minPlayerVerifierShareBps, minWitnessCount,
           minWitnessObservationTolerancePpm, minDistinctObservations, sessionSlashBps,
           minHeartbeatCount, heartbeatBucketSeconds, minHeartbeatCoverageBps,
           challengeBondBurnBps }

def ChallengeKind.ofNumber : ℤ → ChallengeKind
  | 0 => .unspecified
  | 1 => .badBatch
  | 2 => .omission
  | 3 => .badAggregate
  | 4 => .badReward
  | 5 => .badStorage
  | number => .other number

def ChallengeState.ofNumber : ℤ → ChallengeState
  | 0 => .unspecified
  | 1 => .open
  | 2 => .resolved
  | 3 => .rejected
  | number => .other number

def ChallengeEvidenceRef.unmarshal (fields : List WireField) : Option ChallengeEvidenceRef := do
  let batchRootHex ← readString fields 1
  let aggregateRootHex ← readString fields 2
  let rewardRootHex ← readString fields 3
  let payloadCid ← readString fields 4
  let merkleProofHex ← readTexts fields 5
  let aggregateAppId ← readUint32 fields 6
  return { batchRootHex, aggregateRootHex, rewardRootHex, payloadCid, merkleProofHex,
           aggregateAppId }

def Challenge.unmarshal (fields : List WireField) : Option Challenge := do
  let challengeIdHex ← readString fields 1
  let kind ← readEnum fields 2
  let epochId ← readUint64 fields 3
  let targetAddress ← readString fields 4
  let challenger ← readString fields 5
  let bondAmount ← readUint64 fields 6
  let openedAtHeight ← readInt64 fields 7
  let deadlineHeight ← readInt64 fields 8
  let state ← readEnum fields 9
  let evidence ← readMessage ChallengeEvidenceRef.unmarshal fields 10
  let slashAmount ← readUint64 fields 11
  let challengerReward ← readUint64 fields 12
  let resolutionSummary ← readString fields 13
  let targetConsAddress ← readString fields 14
  return { challengeIdHex, kind := .ofNumber kind, epochId, targetAddress, challenger,
           bondAmount := UInt64.ofNat bondAmount, openedAtHeight, deadlineHeight,
           state := .ofNumber state, evidence, slashAmount, challengerReward, resolutionSummary,
           targetConsAddress }

/-! ## Messages -/

def MsgSubmitRewardRecords.unmarshal (bytes : Bytes) : Option MsgSubmitRewardRecords := do
  let fields ← parseFields bytes
  let proposer ← readString fields 1
  let epochId ← readUint64 fields 2
  let records ← readMessages RewardRecord.unmarshal fields 3
  return { proposer, epochId, records := records.map some }

def MsgUpdateParams.unmarshal (bytes : Bytes) : Option MsgUpdateParams := do
  let fields ← parseFields bytes
  let authority ← readString fields 1
  let params ← readMessage Params.unmarshal fields 2
  return { authority, params }

def MsgOpenChallenge.unmarshal (bytes : Bytes) : Option MsgOpenChallenge := do
  let fields ← parseFields bytes
  let challenger ← readString fields 1
  let challenge ← readMessage Challenge.unmarshal fields 2
  return { challenger, challenge }

end PoleProtocol.Chain
