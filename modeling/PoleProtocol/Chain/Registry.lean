import PoleProtocol.Chain.Unmarshal

/-!
# The messages of the module

Every message that the module registers, read off the wire under the name of its type, and the
account that has to sign it.
-/

namespace PoleProtocol.Chain

open Framework Framework.Protobuf

def readBool (fields : List WireField) (number : ℕ) : Option Bool :=
  (readNumber fields number).map fun n => decide (n ≠ 0)

/-! ## Records -/

def MerkleCommitment.unmarshal (fields : List WireField) : Option MerkleCommitment := do
  let root ← readString fields 1
  let leafCount ← readUint32 fields 2
  return { root, leafCount }

def NodeRole.ofNumber : ℤ → NodeRole
  | 0 => .unspecified
  | 1 => .player
  | 2 => .service
  | 3 => .coordinator
  | number => .other number

def NodeCapabilitySet.unmarshal (fields : List WireField) : Option NodeCapabilitySet := do
  let collect ← readBool fields 1
  let store ← readBool fields 2
  let verify ← readBool fields 3
  let propose ← readBool fields 4
  return { collect, store, verify, propose }

def NodeRecord.unmarshal (fields : List WireField) : Option NodeRecord := do
  let operatorAddress ← readString fields 1
  let rewardAddress ← readString fields 2
  let consensusAddress ← readString fields 3
  let role ← readEnum fields 4
  let capabilities ← readMessage NodeCapabilitySet.unmarshal fields 5
  let active ← readBool fields 6
  let bondedTokens ← readUint64 fields 7
  let lastUpdatedEpoch ← readUint64 fields 8
  let isPlayer ← readBool fields 9
  return { operatorAddress, rewardAddress, consensusAddress, role := .ofNumber role, capabilities,
           active, bondedTokens, lastUpdatedEpoch, isPlayer }

def AggregateRecord.unmarshal (fields : List WireField) : Option AggregateRecord := do
  let epochId ← readUint64 fields 1
  let appId ← readUint32 fields 2
  let totalWeightUnits ← readUint64 fields 3
  let playerCount ← readUint64 fields 4
  return { epochId, appId, totalWeightUnits, playerCount }

def BatchCommit.unmarshal (fields : List WireField) : Option BatchCommit := do
  let epochId ← readUint64 fields 1
  let collectorAddress ← readString fields 2
  let slotStart ← readUint64 fields 3
  let slotEnd ← readUint64 fields 4
  let batch ← readMessage MerkleCommitment.unmarshal fields 5
  let payloadCid ← readString fields 6
  let observationCount ← readUint32 fields 7
  let submittedAtHeight ← readInt64 fields 8
  return { epochId, collectorAddress, slotStart, slotEnd, batch, payloadCid, observationCount,
           submittedAtHeight }

def ReplicaReceipt.unmarshal (fields : List WireField) : Option ReplicaReceipt := do
  let epochId ← readUint64 fields 1
  let payloadCid ← readString fields 2
  let storerAddress ← readString fields 3
  let retentionUntilEpoch ← readUint64 fields 4
  let receiptSignature ← readString fields 5
  let receiptHashHex ← readString fields 6
  return { epochId, payloadCid, storerAddress, retentionUntilEpoch, receiptSignature,
           receiptHashHex }

def EpochCommit.unmarshal (fields : List WireField) : Option EpochCommit := do
  let epochId ← readUint64 fields 1
  let acceptedBatches ← readMessage MerkleCommitment.unmarshal fields 2
  let observations ← readMessage MerkleCommitment.unmarshal fields 3
  let aggregates ← readMessage MerkleCommitment.unmarshal fields 4
  let rewards ← readMessage MerkleCommitment.unmarshal fields 5
  let availability ← readMessage MerkleCommitment.unmarshal fields 6
  let randomnessSeedHex ← readString fields 7
  let proposerAddress ← readString fields 8
  let challengeOpenHeight ← readInt64 fields 9
  let challengeDeadlineHeight ← readInt64 fields 10
  let finalized ← readBool fields 11
  let totalNetworkWeightUnits ← readUint64 fields 12
  return { epochId, acceptedBatches, observations, aggregates, rewards, availability,
           randomnessSeedHex, proposerAddress, challengeOpenHeight, challengeDeadlineHeight,
           finalized, totalNetworkWeightUnits }

def GameWeightEntry.unmarshal (fields : List WireField) : Option GameWeightEntry := do
  let appId ← readUint32 fields 1
  let gameWeightPpm ← readUint32 fields 2
  let tier ← readString fields 3
  let effectiveFromEpochId ← readUint64 fields 4
  return { appId, gameWeightPpm, tier, effectiveFromEpochId }

def PlaySession.unmarshal (fields : List WireField) : Option PlaySession := do
  let sessionIdHex ← readString fields 1
  let nodeAddress ← readString fields 2
  let appId ← readUint32 fields 3
  let epochId ← readUint64 fields 4
  let slotId ← readUint64 fields 5
  let playSeconds ← readUint64 fields 6
  let collectorAddress ← readString fields 7
  let observationCid ← readString fields 8
  let observedPlayers ← readUint64 fields 9
  let submittedAtHeight ← readInt64 fields 10
  let sessionSignature ← readString fields 11
  return { sessionIdHex, nodeAddress, appId, epochId, slotId, playSeconds, collectorAddress,
           observationCid, observedPlayers, submittedAtHeight, sessionSignature }

def PlayHeartbeat.unmarshal (fields : List WireField) : Option PlayHeartbeat := do
  let sessionIdHex ← readString fields 1
  let nodeAddress ← readString fields 2
  let bucketIndex ← readUint64 fields 3
  let signedAtMillis ← readInt64 fields 4
  let heartbeatSignature ← readString fields 5
  return { sessionIdHex, nodeAddress, bucketIndex, signedAtMillis, heartbeatSignature }

def WitnessAttestation.unmarshal (fields : List WireField) : Option WitnessAttestation := do
  let sessionIdHex ← readString fields 1
  let witnessAddress ← readString fields 2
  let observedPlaySeconds ← readUint64 fields 3
  let witnessObservationCid ← readString fields 4
  let observedPlayers ← readUint64 fields 5
  let attestedAtHeight ← readInt64 fields 6
  let witnessSignature ← readString fields 7
  return { sessionIdHex, witnessAddress, observedPlaySeconds, witnessObservationCid,
           observedPlayers, attestedAtHeight, witnessSignature }

/-! ## Messages -/

def MsgUpsertNode.unmarshal (bytes : Bytes) : Option MsgUpsertNode := do
  let fields ← parseFields bytes
  let operator ← readString fields 1
  let node ← readMessage NodeRecord.unmarshal fields 2
  return { operator, node }

def MsgUpsertAggregateRecord.unmarshal (bytes : Bytes) : Option MsgUpsertAggregateRecord := do
  let fields ← parseFields bytes
  let operator ← readString fields 1
  let aggregateRecord ← readMessage AggregateRecord.unmarshal fields 2
  return { operator, aggregateRecord }

def MsgSubmitBatch.unmarshal (bytes : Bytes) : Option MsgSubmitBatch := do
  let fields ← parseFields bytes
  let collector ← readString fields 1
  let batchCommit ← readMessage BatchCommit.unmarshal fields 2
  return { collector, batchCommit }

def MsgSubmitReplicaReceipt.unmarshal (bytes : Bytes) : Option MsgSubmitReplicaReceipt := do
  let fields ← parseFields bytes
  let storer ← readString fields 1
  let replicaReceipt ← readMessage ReplicaReceipt.unmarshal fields 2
  return { storer, replicaReceipt }

def MsgCommitEpoch.unmarshal (bytes : Bytes) : Option MsgCommitEpoch := do
  let fields ← parseFields bytes
  let proposer ← readString fields 1
  let epochCommit ← readMessage EpochCommit.unmarshal fields 2
  return { proposer, epochCommit }

def MsgResolveChallenge.unmarshal (bytes : Bytes) : Option MsgResolveChallenge := do
  let fields ← parseFields bytes
  let resolver ← readString fields 1
  let challengeIdHex ← readString fields 2
  let slashAmount ← readUint64 fields 3
  let challengerReward ← readUint64 fields 4
  let resolutionSummary ← readString fields 5
  let finalState ← readEnum fields 6
  let slashFractionBps ← readUint32 fields 7
  let jailValidator ← readBool fields 8
  return { resolver, challengeIdHex, slashAmount, challengerReward, resolutionSummary,
           finalState := .ofNumber finalState, slashFractionBps, jailValidator }

def MsgFinalizeEpoch.unmarshal (bytes : Bytes) : Option MsgFinalizeEpoch := do
  let fields ← parseFields bytes
  let finalizer ← readString fields 1
  let epochId ← readUint64 fields 2
  return { finalizer, epochId }

def MsgVerifyBatch.unmarshal (bytes : Bytes) : Option MsgVerifyBatch := do
  let fields ← parseFields bytes
  let verifier ← readString fields 1
  let epochId ← readUint64 fields 2
  let targetBatchRootHex ← readString fields 3
  let targetCollector ← readString fields 4
  let isPlayer ← readBool fields 5
  let verified ← readBool fields 6
  let signatureHex ← readString fields 7
  return { verifier, epochId, targetBatchRootHex, targetCollector, isPlayer, verified,
           signatureHex }

def MsgClaimReward.unmarshal (bytes : Bytes) : Option MsgClaimReward := do
  let fields ← parseFields bytes
  let claimer ← readString fields 1
  let epochId ← readUint64 fields 2
  let recipient ← readString fields 3
  return { claimer, epochId, recipient }

def MsgUpsertGameWeight.unmarshal (bytes : Bytes) : Option MsgUpsertGameWeight := do
  let fields ← parseFields bytes
  let authority ← readString fields 1
  let entry ← readMessage GameWeightEntry.unmarshal fields 2
  return { authority, entry }

def MsgSubmitPlaySession.unmarshal (bytes : Bytes) : Option MsgSubmitPlaySession := do
  let fields ← parseFields bytes
  let nodeAddress ← readString fields 1
  let session ← readMessage PlaySession.unmarshal fields 2
  return { nodeAddress, session }

def MsgSubmitPlayHeartbeat.unmarshal (bytes : Bytes) : Option MsgSubmitPlayHeartbeat := do
  let fields ← parseFields bytes
  let nodeAddress ← readString fields 1
  let heartbeat ← readMessage PlayHeartbeat.unmarshal fields 2
  return { nodeAddress, heartbeat }

def MsgAttestSession.unmarshal (bytes : Bytes) : Option MsgAttestSession := do
  let fields ← parseFields bytes
  let witness ← readString fields 1
  let attestation ← readMessage WitnessAttestation.unmarshal fields 2
  return { witness, attestation }

def MsgSettleSession.unmarshal (bytes : Bytes) : Option MsgSettleSession := do
  let fields ← parseFields bytes
  let settler ← readString fields 1
  let sessionIdHex ← readString fields 2
  return { settler, sessionIdHex }

def MsgActivityBurn.unmarshal (bytes : Bytes) : Option MsgActivityBurn := do
  let fields ← parseFields bytes
  let sender ← readString fields 1
  let amount ← readUint64 fields 2
  let activityId ← readString fields 3
  let burnType ← readString fields 4
  let memo ← readString fields 5
  return { sender, amount, activityId, burnType, memo }

/-! ## The registry -/

/-- The messages that the module registers, by the name of their type. -/
def registeredMessages : List (String × (Bytes → Option Msg)) :=
  [("/pole.chain.pole.v1.MsgUpsertNode", fun b => (MsgUpsertNode.unmarshal b).map .upsertNode),
    ("/pole.chain.pole.v1.MsgUpsertAggregateRecord",
      fun b => (MsgUpsertAggregateRecord.unmarshal b).map .upsertAggregateRecord),
    ("/pole.chain.pole.v1.MsgSubmitBatch",
      fun b => (MsgSubmitBatch.unmarshal b).map .submitBatch),
    ("/pole.chain.pole.v1.MsgSubmitReplicaReceipt",
      fun b => (MsgSubmitReplicaReceipt.unmarshal b).map .submitReplicaReceipt),
    ("/pole.chain.pole.v1.MsgCommitEpoch",
      fun b => (MsgCommitEpoch.unmarshal b).map .commitEpoch),
    ("/pole.chain.pole.v1.MsgOpenChallenge",
      fun b => (MsgOpenChallenge.unmarshal b).map .openChallenge),
    ("/pole.chain.pole.v1.MsgResolveChallenge",
      fun b => (MsgResolveChallenge.unmarshal b).map .resolveChallenge),
    ("/pole.chain.pole.v1.MsgFinalizeEpoch",
      fun b => (MsgFinalizeEpoch.unmarshal b).map .finalizeEpoch),
    ("/pole.chain.pole.v1.MsgVerifyBatch",
      fun b => (MsgVerifyBatch.unmarshal b).map .verifyBatch),
    ("/pole.chain.pole.v1.MsgClaimReward",
      fun b => (MsgClaimReward.unmarshal b).map .claimReward),
    ("/pole.chain.pole.v1.MsgUpsertGameWeight",
      fun b => (MsgUpsertGameWeight.unmarshal b).map .upsertGameWeight),
    ("/pole.chain.pole.v1.MsgUpdateParams",
      fun b => (MsgUpdateParams.unmarshal b).map .updateParams),
    ("/pole.chain.pole.v1.MsgSubmitPlaySession",
      fun b => (MsgSubmitPlaySession.unmarshal b).map .submitPlaySession),
    ("/pole.chain.pole.v1.MsgSubmitPlayHeartbeat",
      fun b => (MsgSubmitPlayHeartbeat.unmarshal b).map .submitPlayHeartbeat),
    ("/pole.chain.pole.v1.MsgAttestSession",
      fun b => (MsgAttestSession.unmarshal b).map .attestSession),
    ("/pole.chain.pole.v1.MsgSettleSession",
      fun b => (MsgSettleSession.unmarshal b).map .settleSession),
    ("/pole.chain.pole.v1.MsgSubmitRewardRecords",
      fun b => (MsgSubmitRewardRecords.unmarshal b).map .submitRewardRecords),
    ("/pole.chain.pole.v1.MsgActivityBurn",
      fun b => (MsgActivityBurn.unmarshal b).map .activityBurn)]

/-- The message behind a type name; a name that is not registered has none. -/
def Msg.unpack (typeUrl : String) (value : Bytes) : Option Msg :=
  (registeredMessages.lookup typeUrl).bind fun unmarshal => unmarshal value

/-- The address that `GetSigners` turns into the account which must sign. -/
def Msg.signer : Msg → String
  | .upsertNode msg => msg.operator
  | .upsertAggregateRecord msg => msg.operator
  | .submitBatch msg => msg.collector
  | .submitReplicaReceipt msg => msg.storer
  | .commitEpoch msg => msg.proposer
  | .openChallenge msg => msg.challenger
  | .resolveChallenge msg => msg.resolver
  | .finalizeEpoch msg => msg.finalizer
  | .verifyBatch msg => msg.verifier
  | .claimReward msg => msg.claimer
  | .upsertGameWeight msg => msg.authority
  | .updateParams msg => msg.authority
  | .submitPlaySession msg => msg.nodeAddress
  | .submitPlayHeartbeat msg => msg.nodeAddress
  | .attestSession msg => msg.witness
  | .settleSession msg => msg.settler
  | .submitRewardRecords msg => msg.proposer
  | .activityBurn msg => msg.sender

end PoleProtocol.Chain
