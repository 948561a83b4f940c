import PoleProtocol.Node.ChallengeEncoding
import PoleProtocol.Node.MessageRoundTrip

/-!
# Bridge messages

The messages that the bridge sends to the chain, with the records they carry in their wire form and
the bytes that are written for each of them.
-/

namespace PoleProtocol.Node

open Framework Framework.Protobuf Ledger

/-! ## Records in wire form -/

structure MerkleCommitmentWire where
  root : String
  leafCount : UInt32
  deriving DecidableEq

inductive NodeRoleWire where
  | player
  | service
  | coordinator
  deriving DecidableEq

structure NodeCapabilitySetWire where
  collect : Bool
  store : Bool
  verify : Bool
  propose : Bool
  deriving DecidableEq

structure NodeRecordWire where
  operatorAddress : String
  rewardAddress : String
  consensusAddress : String
  role : NodeRoleWire
  capabilities : NodeCapabilitySetWire
  active : Bool
  bondedTokens : UInt64
  lastUpdatedEpoch : UInt64
  isPlayer : Bool
  deriving DecidableEq

structure AggregateRecordWire where
  epochId : UInt64
  appId : UInt32
  totalWeightUnits : UInt64
  playerCount : UInt64
  deriving DecidableEq

structure BatchCommitWire where
  epochId : UInt64
  collectorAddress : String
  slotStart : UInt64
  slotEnd : UInt64
  batch : MerkleCommitmentWire
  payloadCid : String
  observationCount : UInt32
  submittedAtHeight : Int64
  deriving DecidableEq

structure PlaySessionWire where
  sessionIdHex : String
  nodeAddress : String
  appId : UInt32
  epochId : UInt64
  slotId : UInt64
  playSeconds : UInt64
  collectorAddress : String
  observationCid : String
  observedPlayers : UInt64
  submittedAtHeight : Int64
  sessionSignature : String
  deriving DecidableEq

structure PlayHeartbeatWire where
  sessionIdHex : String
  nodeAddress : String
  bucketIndex : UInt64
  signedAtMillis : Int64
  heartbeatSignature : String
  deriving DecidableEq

structure WitnessAttestationWire where
  sessionIdHex : String
  witnessAddress : String
  observedPlaySeconds : UInt64
  witnessObservationCid : String
  observedPlayers : UInt64
  attestedAtHeight : Int64
  witnessSignature : String
  deriving DecidableEq

structure ReplicaReceiptWire where
  epochId : UInt64
  payloadCid : String
  storerAddress : String
  retentionUntilEpoch : UInt64
  receiptSignature : String
  receiptHashHex : String
  deriving DecidableEq

structure EpochCommitWire where
  epochId : UInt64
  acceptedBatches : MerkleCommitmentWire
  observations : MerkleCommitmentWire
  aggregates : MerkleCommitmentWire
  rewards : MerkleCommitmentWire
  availability : MerkleCommitmentWire
  randomnessSeedHex : String
  proposerAddress : String
  challengeOpenHeight : Int64
  challengeDeadlineHeight : Int64
  finalized : Bool
  totalNetworkWeightUnits : UInt64
  deriving DecidableEq

structure GameWeightEntryWire where
  appId : UInt32
  gameWeightPpm : UInt32
  tier : String
  effectiveFromEpochId : UInt64
  deriving DecidableEq

/-! ## What is written -/

def encodeBool (fieldNumber : UInt32) (value : Bool) : Bytes :=
  encodeUint64 fieldNumber (if value then 1 else 0)

def nodeRoleToProto : NodeRoleWire → Int32
  | .player => 1
  | .service => 2
  | .coordinator => 3

def encodeMerkleCommitmentInner (m : MerkleCommitmentWire) : Bytes :=
  [encodeString 1 m.root,
    encodeUint32 2 m.leafCount].flatten

def encodeNodeCapabilitySetInner (c : NodeCapabilitySetWire) : Bytes :=
  [encodeBool 1 c.collect,
    encodeBool 2 c.store,
    encodeBool 3 c.verify,
    encodeBool 4 c.propose].flatten

def encodeNodeRecordInner (node : NodeRecordWire) : Bytes :=
  [encodeString 1 node.operatorAddress,
    encodeString 2 node.rewardAddress,
    encodeString 3 node.consensusAddress,
    encodeInt32 4 (nodeRoleToProto node.role),
    encodeBytes 5 (encodeNodeCapabilitySetInner node.capabilities),
    encodeBool 6 node.active,
    encodeUint64 7 node.bondedTokens,
    encodeUint64 8 node.lastUpdatedEpoch,
    encodeBool 9 node.isPlayer].flatten

def encodeAggregateRecordInner (a : AggregateRecordWire) : Bytes :=
  [encodeUint64 1 a.epochId,
    encodeUint32 2 a.appId,
    encodeUint64 3 a.totalWeightUnits,
    encodeUint64 4 a.playerCount].flatten

def encodeBatchCommitInner (b : BatchCommitWire) : Bytes :=
  [encodeUint64 1 b.epochId,
    encodeString 2 b.collectorAddress,
    encodeUint64 3 b.slotStart,
    encodeUint64 4 b.slotEnd,
    encodeBytes 5 (encodeMerkleCommitmentInner b.batch),
    encodeString 6 b.payloadCid,
    encodeUint32 7 b.observationCount,
    encodeInt64 8 b.submittedAtHeight].flatten

def encodeReplicaReceiptInner (r : ReplicaReceiptWire) : Bytes :=
  [encodeUint64 1 r.epochId,
    encodeString 2 r.payloadCid,
    encodeString 3 r.storerAddress,
    encodeUint64 4 r.retentionUntilEpoch,
    encodeString 5 r.receiptSignature,
    encodeString 6 r.receiptHashHex].flatten

def encodeEpochCommitInner (c : EpochCommitWire) : Bytes :=
  [encodeUint64 1 c.epochId,
    encodeBytes 2 (encodeMerkleCommitmentInner c.acceptedBatches),
    encodeBytes 3 (encodeMerkleCommitmentInner c.observations),
    encodeBytes 4 (encodeMerkleCommitmentInner c.aggregates),
    encodeBytes 5 (encodeMerkleCommitmentInner c.rewards),
    encodeBytes 6 (encodeMerkleCommitmentInner c.availability),
    encodeString 7 c.randomnessSeedHex,
    encodeString 8 c.proposerAddress,
    encodeInt64 9 c.challengeOpenHeight,
    encodeInt64 10 c.challengeDeadlineHeight,
    encodeBool 11 c.finalized,
    encodeUint64 12 c.totalNetworkWeightUnits].flatten

def encodeGameWeightEntryInner (e : GameWeightEntryWire) : Bytes :=
  [encodeUint32 1 e.appId,
    encodeUint32 2 e.gameWeightPpm,
    encodeString 3 e.tier,
    encodeUint64 4 e.effectiveFromEpochId].flatten

def encodePlaySessionInner (s : PlaySessionWire) : Bytes :=
  [encodeString 1 s.sessionIdHex,
    encodeString 2 s.nodeAddress,
    encodeUint32 3 s.appId,
    encodeUint64 4 s.epochId,
    encodeUint64 5 s.slotId,
    encodeUint64 6 s.playSeconds,
    encodeString 7 s.collectorAddress,
    encodeString 8 s.observationCid,
    encodeUint64 9 s.observedPlayers,
    encodeInt64 10 s.submittedAtHeight,
    encodeString 11 s.sessionSignature].flatten

def encodePlayHeartbeatInner (h : PlayHeartbeatWire) : Bytes :=
  [encodeString 1 h.sessionIdHex,
    encodeString 2 h.nodeAddress,
    encodeUint64 3 h.bucketIndex,
    encodeInt64 4 h.signedAtMillis,
    encodeString 5 h.heartbeatSignature].flatten

def encodeWitnessAttestationInner (a : WitnessAttestationWire) : Bytes :=
  [encodeString 1 a.sessionIdHex,
    encodeString 2 a.witnessAddress,
    encodeUint64 3 a.observedPlaySeconds,
    encodeString 4 a.witnessObservationCid,
    encodeUint64 5 a.observedPlayers,
    encodeInt64 6 a.attestedAtHeight,
    encodeString 7 a.witnessSignature].flatten

/-- A message of an account and one record: the account first, the record embedded. -/
def encodeSigned (typeUrl account : String) (inner : Bytes) : AnyMessage where
  typeUrl
  value := [encodeString 1 account, encodeBytes 2 inner].flatten

def encodeMsgUpsertNode (operatorBech32 : String) (node : NodeRecordWire) : AnyMessage :=
  encodeSigned "/pole.chain.pole.v1.MsgUpsertNode" operatorBech32 (encodeNodeRecordInner node)

def encodeMsgUpsertAggregateRecord (operatorBech32 : String)
    (aggregateRecord : AggregateRecordWire) : AnyMessage :=
  encodeSigned "/pole.chain.pole.v1.MsgUpsertAggregateRecord" operatorBech32
    (encodeAggregateRecordInner aggregateRecord)

def encodeMsgSubmitBatch (collectorBech32 : String) (batch : BatchCommitWire) : AnyMessage :=
  encodeSigned "/pole.chain.pole.v1.MsgSubmitBatch" collectorBech32 (encodeBatchCommitInner batch)

def encodeMsgSubmitReplicaReceipt (storerBech32 : String) (receipt : ReplicaReceiptWire) :
    AnyMessage :=
  encodeSigned "/pole.chain.pole.v1.MsgSubmitReplicaReceipt" storerBech32
    (encodeReplicaReceiptInner receipt)

def encodeMsgCommitEpoch (proposerBech32 : String) (commit : EpochCommitWire) : AnyMessage :=
  encodeSigned "/pole.chain.pole.v1.MsgCommitEpoch" proposerBech32 (encodeEpochCommitInner commit)

def encodeMsgUpsertGameWeight (authorityBech32 : String) (entry : GameWeightEntryWire) :
    AnyMessage :=
  encodeSigned "/pole.chain.pole.v1.MsgUpsertGameWeight" authorityBech32
    (encodeGameWeightEntryInner entry)

def encodeMsgSubmitPlaySession (nodeAddressBech32 : String) (session : PlaySessionWire) :
    AnyMessage :=
  encodeSigned "/pole.chain.pole.v1.MsgSubmitPlaySession" nodeAddressBech32
    (encodePlaySessionInner session)

def encodeMsgSubmitPlayHeartbeat (nodeAddressBech32 : String) (heartbeat : PlayHeartbeatWire) :
    AnyMessage :=
  encodeSigned "/pole.chain.pole.v1.MsgSubmitPlayHeartbeat" nodeAddressBech32
    (encodePlayHeartbeatInner heartbeat)

def encodeMsgAttestSession (witnessBech32 : String) (attestation : WitnessAttestationWire) :
    AnyMessage :=
  encodeSigned "/pole.chain.pole.v1.MsgAttestSession" witnessBech32
    (encodeWitnessAttestationInner attestation)

def encodeMsgFinalizeEpoch (finalizerBech32 : String) (epochId : UInt64) : AnyMessage where
  typeUrl := "/pole.chain.pole.v1.MsgFinalizeEpoch"
  value := [encodeString 1 finalizerBech32, encodeUint64 2 epochId].flatten

def encodeMsgVerifyBatch (verifierBech32 : String) (epochId : UInt64)
    (targetBatchRootHex targetCollectorBech32 : String) (isPlayer verified : Bool)
    (signatureHex : String) : AnyMessage where
  typeUrl := "/pole.chain.pole.v1.MsgVerifyBatch"
  value :=
    [encodeString 1 verifierBech32,
      encodeUint64 2 epochId,
      encodeString 3 targetBatchRootHex,
      encodeString 4 targetCollectorBech32,
      encodeBool 5 isPlayer,
      encodeBool 6 verified,
      encodeString 7 signatureHex].flatten

def encodeMsgClaimReward (claimerBech32 : String) (epochId : UInt64) (recipientBech32 : String) :
    AnyMessage where
  typeUrl := "/pole.chain.pole.v1.MsgClaimReward"
  value :=
    [encodeString 1 claimerBech32,
      encodeUint64 2 epochId,
      encodeString 3 recipientBech32].flatten

def encodeMsgResolveChallenge (resolverBech32 challengeIdHex : String)
    (slashAmount challengerReward : UInt64) (resolutionSummary : String)
    (finalState : ChallengeState) (slashFractionBps : UInt32) (jailValidator : Bool) :
    AnyMessage where
  typeUrl := "/pole.chain.pole.v1.MsgResolveChallenge"
  value :=
    [encodeString 1 resolverBech32,
      encodeString 2 challengeIdHex,
      encodeUint64 3 slashAmount,
      encodeUint64 4 challengerReward,
      encodeString 5 resolutionSummary,
      encodeInt32 6 (challengeStateToProto finalState),
      encodeUint32 7 slashFractionBps,
      encodeBool 8 jailValidator].flatten

def encodeMsgSettleSession (settlerBech32 sessionIdHex : String) : AnyMessage where
  typeUrl := "/pole.chain.pole.v1.MsgSettleSession"
  value := [encodeString 1 settlerBech32, encodeString 2 sessionIdHex].flatten

def encodeMsgActivityBurn (senderBech32 : String) (amount : UInt64)
    (activityId burnType memo : String) : AnyMessage where
  typeUrl := "/pole.chain.pole.v1.MsgActivityBurn"
  value :=
    [encodeString 1 senderBech32,
      encodeUint64 2 amount,
      encodeString 3 activityId,
      encodeString 4 burnType,
      encodeString 5 memo].flatten

/-! ## The messages -/

/-- An account, by its identifier and its bech32 text. -/
structure CosmosAddress where
  account : Bytes
  bech32 : String
  deriving DecidableEq

inductive BridgeMessage where
  | finalizeEpoch (finalizer : CosmosAddress) (epochId : UInt64)
  | claimReward (claimer : CosmosAddress) (epochId : UInt64) (recipient : CosmosAddress)
  | openChallenge (challenger : CosmosAddress) (challenge : Challenge)
  | upsertNode (operator : CosmosAddress) (node : NodeRecordWire)
  | upsertAggregateRecord (operator : CosmosAddress) (aggregateRecord : AggregateRecordWire)
  | submitBatch (collector : CosmosAddress) (batchCommit : BatchCommitWire)
  | submitReplicaReceipt (storer : CosmosAddress) (replicaReceipt : ReplicaReceiptWire)
  | commitEpoch (proposer : CosmosAddress) (epochCommit : EpochCommitWire)
  | resolveChallenge (resolver : CosmosAddress) (challengeIdHex : String)
      (slashAmount challengerReward : UInt64) (resolutionSummary : String)
      (finalState : ChallengeState) (slashFractionBps : UInt32) (jailValidator : Bool)
  | upsertGameWeight (authority : CosmosAddress) (entry : GameWeightEntryWire)
  | updateParams (authority : CosmosAddress) (params : ParamsWire)
  | verifyBatch (verifier : CosmosAddress) (epochId : UInt64) (targetBatchRootHex : String)
      (targetCollector : CosmosAddress) (isPlayer verified : Bool) (signatureHex : String)
  | unsupported (typeUrl note : String)
  | submitPlaySession (nodeAddress : CosmosAddress) (session : PlaySessionWire)
  | submitPlayHeartbeat (nodeAddress : CosmosAddress) (heartbeat : PlayHeartbeatWire)
  | attestSession (witness : CosmosAddress) (attestation : WitnessAttestationWire)
  | settleSession (settler : CosmosAddress) (sessionIdHex : String)
  | submitRewardRecords (proposer : CosmosAddress) (epochId : UInt64)
      (records : List RewardRecordWire)

def BridgeMessage.toAny : BridgeMessage → AnyMessage
  | .finalizeEpoch finalizer epochId => encodeMsgFinalizeEpoch finalizer.bech32 epochId
  | .claimReward claimer epochId recipient =>
      encodeMsgClaimReward claimer.bech32 epochId recipient.bech32
  | .openChallenge challenger challenge => encodeMsgOpenChallenge challenger.bech32 challenge
  | .upsertNode operator node => encodeMsgUpsertNode operator.bech32 node
  | .upsertAggregateRecord operator record =>
      encodeMsgUpsertAggregateRecord operator.bech32 record
  | .submitBatch collector batch => encodeMsgSubmitBatch collector.bech32 batch
  | .submitReplicaReceipt storer receipt => encodeMsgSubmitReplicaReceipt storer.bech32 receipt
  | .commitEpoch proposer commit => encodeMsgCommitEpoch proposer.bech32 commit
  | .resolveChallenge resolver challengeIdHex slashAmount challengerReward resolutionSummary
      finalState slashFractionBps jailValidator =>
      encodeMsgResolveChallenge resolver.bech32 challengeIdHex slashAmount challengerReward
        resolutionSummary finalState slashFractionBps jailValidator
  | .upsertGameWeight authority entry => encodeMsgUpsertGameWeight authority.bech32 entry
  | .updateParams authority params => encodeMsgUpdateParams authority.bech32 params
  | .verifyBatch verifier epochId targetBatchRootHex targetCollector isPlayer verified
      signatureHex =>
      encodeMsgVerifyBatch verifier.bech32 epochId targetBatchRootHex targetCollector.bech32
        isPlayer verified signatureHex
  | .unsupported typeUrl note => { typeUrl, value := note.toUTF8.toList }
  | .submitPlaySession nodeAddress session =>
      encodeMsgSubmitPlaySession nodeAddress.bech32 session
  | .submitPlayHeartbeat nodeAddress heartbeat =>
      encodeMsgSubmitPlayHeartbeat nodeAddress.bech32 heartbeat
  | .attestSession witness attestation => encodeMsgAttestSession witness.bech32 attestation
  | .settleSession settler sessionIdHex => encodeMsgSettleSession settler.bech32 sessionIdHex
  | .submitRewardRecords proposer epochId records =>
      encodeMsgSubmitRewardRecords proposer.bech32 epochId records

end PoleProtocol.Node
