import PoleProtocol.Framework.Fallible
import PoleProtocol.Framework.OrderedMap
import PoleProtocol.Ledger.Params

/-!
# Records of the off-chain ledger

Accounts, nodes, the records that transactions create, the transactions themselves, and the store
that holds them. Thirty-two byte identifiers are bit vectors whose first byte is the most
significant one, so that they are ordered as byte arrays are. Amounts, heights and counters are
natural numbers; the transitions bound them where they add.
-/

namespace PoleProtocol.Ledger

open Framework

abbrev Bytes := List UInt8
abbrev Hash32 := BitVec 256
abbrev NodeId := Hash32
abbrev Address := Hash32

instance transOrdHash32 : Std.TransOrd Hash32 := inferInstance

/-! ## Primitives -/

inductive Capability where
  | collect
  | store
  | verify
  | propose
  | archive
  deriving DecidableEq

inductive NodeStatus where
  | pending
  | active
  | jailed
  | tombstoned
  deriving DecidableEq

inductive ChallengeKind where
  | badBatch
  | omission
  | badAggregate
  | badReward
  | badStorage
  deriving DecidableEq

inductive ChallengeState where
  | open
  | responded
  | succeeded
  | rejected
  | expired
  deriving DecidableEq

inductive VoteChoice where
  | yes
  | no
  | abstain
  deriving DecidableEq

structure MerkleCommitment where
  root : Hash32
  leafCount : ℕ
  deriving DecidableEq

/-- The bytes of an identifier, first byte first. -/
def Hash32.bytes (hash : Hash32) : Bytes :=
  (List.range 32).map fun i => UInt8.ofBitVec (hash.extractLsb' (8 * (31 - i)) 8)

/-- A 64-bit word with its least significant byte first. -/
def toLeBytes (word : BitVec 64) : BitVec 64 :=
  word.extractLsb' 0 8 ++ word.extractLsb' 8 8 ++ word.extractLsb' 16 8 ++ word.extractLsb' 24 8 ++
    word.extractLsb' 32 8 ++ word.extractLsb' 40 8 ++ word.extractLsb' 48 8 ++
    word.extractLsb' 56 8

/-- One of the four accumulators of the hash, by its position and its seed. -/
def stableHashLane (index : ℕ) (seed : BitVec 64) (bytes : Bytes) : BitVec 64 :=
  bytes.foldl (fun acc byte =>
    (((acc ^^^ byte.toBitVec.setWidth 64) * 0x100000001B3#64) ^^^
      (BitVec.ofNat 64 (index + 1) * 0x9e3779b9#64)).rotateLeft 5) seed

def stableHash32 (bytes : Bytes) : Hash32 :=
  toLeBytes (stableHashLane 0 0xcbf29ce484222325#64 bytes) ++
    toLeBytes (stableHashLane 1 0x84222325cbf29ce4#64 bytes) ++
    toLeBytes (stableHashLane 2 0x9e3779b185ebca87#64 bytes) ++
    toLeBytes (stableHashLane 3 0x517cc1b727220a95#64 bytes)

/-! ## Accounts and nodes -/

structure AccountState where
  address : Address
  balance : ℕ
  staked : ℕ
  locked : ℕ
  nonce : ℕ
  deriving DecidableEq

structure ReputationSnapshot where
  scorePpm : ℕ
  successfulChallenges : ℕ
  failedChallenges : ℕ
  challengeableFaults : ℕ
  collectionSuccesses : ℕ
  collectionFailures : ℕ
  storageProofsPassed : ℕ
  storageProofsFailed : ℕ
  lastUpdatedEpoch : ℕ
  deriving DecidableEq

structure NodeRegistry where
  nodeId : NodeId
  pubkey : Bytes
  rewardAddress : Address
  bond : ℕ
  status : NodeStatus
  enabledCapabilities : List Capability
  reputation : ReputationSnapshot
  joinedAtHeight : ℕ
  deriving DecidableEq

/-! ## Records -/

structure BatchCommit where
  epochId : ℕ
  collectorId : NodeId
  slotStart : ℕ
  slotEnd : ℕ
  batch : MerkleCommitment
  payloadCid : String
  obsCount : ℕ
  submittedAtHeight : ℕ
  deriving DecidableEq

structure RewardRecord where
  epochId : ℕ
  nodeId : NodeId
  recipientAddress : String
  playerReward : ℕ
  collectReward : ℕ
  storeReward : ℕ
  verifyReward : ℕ
  proposeReward : ℕ
  slashDebit : ℕ
  netReward : ℕ
  deriving DecidableEq

structure EpochCommit where
  epochId : ℕ
  acceptedBatches : MerkleCommitment
  observations : MerkleCommitment
  aggregates : MerkleCommitment
  rewards : MerkleCommitment
  availability : MerkleCommitment
  randomnessSeed : Hash32
  proposerId : NodeId
  challengeOpenHeight : ℕ
  challengeDeadlineHeight : ℕ
  deriving DecidableEq

structure ChallengeEvidenceRef where
  batchRoot : Option Hash32 := none
  aggregateRoot : Option Hash32 := none
  rewardRoot : Option Hash32 := none
  payloadCid : Option String := none
  merkleProof : List Hash32 := []
  deriving DecidableEq

structure Challenge where
  challengeId : Hash32
  kind : ChallengeKind
  epochId : ℕ
  targetNode : Option NodeId
  challenger : Address
  bond : ℕ
  openedAtHeight : ℕ
  deadlineHeight : ℕ
  state : ChallengeState
  evidence : ChallengeEvidenceRef
  deriving DecidableEq

structure DelegationRecord where
  delegator : Address
  operator : NodeId
  amount : ℕ
  deriving DecidableEq

structure UnbondingRecord where
  delegator : Address
  operator : NodeId
  amount : ℕ
  unlockHeight : ℕ
  deriving DecidableEq

structure GovernanceVoteRecord where
  proposalId : Hash32
  voter : Address
  choice : VoteChoice
  votingPower : ℕ
  recordedHeight : ℕ
  deriving DecidableEq

inductive GovernanceProposalState where
  | pending
  | scheduled
  | activated
  | expired
  deriving DecidableEq

inductive GovernanceProposalKind where
  | fastParams
  | slowParams
  deriving DecidableEq

structure GovernanceParamsUpdateProposalRecord where
  proposalId : Hash32
  proposer : Address
  kind : GovernanceProposalKind
  effectiveEpoch : ℕ
  submittedHeight : ℕ
  bondAmount : ℕ
  paramsHash : Hash32
  params : ProtocolParams
  state : GovernanceProposalState
  deriving DecidableEq

structure ChallengeResponseRecord where
  challengeId : Hash32
  responder : NodeId
  responsePayloadCid : Option String
  responseHash : Option Hash32
  respondedAtHeight : ℕ
  deriving DecidableEq

inductive ChallengeResolutionDetails where
  | rejected
  | badBatch (rejectedBatchRoot : Option Hash32)
  | omission (omittedBatchRoot : Hash32)
  | badAggregate (correctedAggregateRoot : Option Hash32)
  | badReward (correctedRewardRoot : Option Hash32)
  | badStorage (missingPayloadCid : Option String)
  deriving DecidableEq

structure ChallengeResolutionRecord where
  challengeId : Hash32
  kind : ChallengeKind
  slashAmount : ℕ
  challengerReward : ℕ
  details : ChallengeResolutionDetails
  resolvedAtHeight : ℕ
  deriving DecidableEq

/-! ## Transactions -/

structure TransferTx where
  sender : Address
  recipient : Address
  amount : ℕ
  fee : ℕ
  nonce : ℕ
  pubkey : Hash32
  signature : Bytes
  deriving DecidableEq

structure StakeTx where
  delegator : Address
  operator : NodeId
  amount : ℕ
  nonce : ℕ
  pubkey : Hash32
  signature : Bytes
  deriving DecidableEq

structure UnbondTx where
  delegator : Address
  operator : NodeId
  amount : ℕ
  nonce : ℕ
  pubkey : Hash32
  signature : Bytes
  deriving DecidableEq

structure ClaimRewardTx where
  claimer : Address
  epochId : ℕ
  nodeId : NodeId
  amount : ℕ
  merkleProof : List Hash32
  nonce : ℕ
  pubkey : Hash32
  signature : Bytes
  deriving DecidableEq

structure SubmitBatchTx where
  batchCommit : BatchCommit
  pubkey : Hash32
  signature : Bytes
  deriving DecidableEq

structure CommitEpochTx where
  epochCommit : EpochCommit
  pubkey : Hash32
  signature : Bytes
  deriving DecidableEq

structure OpenChallengeTx where
  challenge : Challenge
  pubkey : Hash32
  signature : Bytes
  deriving DecidableEq

structure ChallengeResponseTx where
  challengeId : Hash32
  responder : NodeId
  responsePayloadCid : Option String
  responseHash : Option Hash32
  pubkey : Hash32
  signature : Bytes
  deriving DecidableEq

structure VoteTx where
  proposalId : Hash32
  voter : Address
  choice : VoteChoice
  votingPower : ℕ
  nonce : ℕ
  pubkey : Hash32
  signature : Bytes
  deriving DecidableEq

structure ProposeProtocolParamsUpdateTx where
  proposalId : Hash32
  proposer : Address
  effectiveEpoch : ℕ
  params : ProtocolParams
  nonce : ℕ
  pubkey : Hash32
  signature : Bytes
  deriving DecidableEq

inductive Transaction where
  | transfer (tx : TransferTx)
  | stake (tx : StakeTx)
  | unbond (tx : UnbondTx)
  | claimReward (tx : ClaimRewardTx)
  | submitBatch (tx : SubmitBatchTx)
  | commitEpoch (tx : CommitEpochTx)
  | openChallenge (tx : OpenChallengeTx)
  | challengeResponse (tx : ChallengeResponseTx)
  | vote (tx : VoteTx)
  | proposeProtocolParamsUpdate (tx : ProposeProtocolParamsUpdateTx)
  deriving DecidableEq

/-- The transaction with its signature cleared, which is what its signer signs. -/
def Transaction.unsigned : Transaction → Transaction
  | .transfer tx => .transfer { tx with signature := [] }
  | .stake tx => .stake { tx with signature := [] }
  | .unbond tx => .unbond { tx with signature := [] }
  | .claimReward tx => .claimReward { tx with signature := [] }
  | .submitBatch tx => .submitBatch { tx with signature := [] }
  | .commitEpoch tx => .commitEpoch { tx with signature := [] }
  | .openChallenge tx => .openChallenge { tx with signature := [] }
  | .challengeResponse tx => .challengeResponse { tx with signature := [] }
  | .vote tx => .vote { tx with signature := [] }
  | .proposeProtocolParamsUpdate tx => .proposeProtocolParamsUpdate { tx with signature := [] }

/-! ## The store -/

abbrev BatchKey := ℕ × NodeId × Hash32
abbrev RewardKey := ℕ × NodeId
abbrev DelegationKey := Address × NodeId
abbrev VoteKey := Hash32 × Address

instance transOrdBatchKey : Std.TransOrd BatchKey := inferInstance
instance transOrdRewardKey : Std.TransOrd RewardKey := inferInstance
instance transOrdDelegationKey : Std.TransOrd DelegationKey := inferInstance
instance transOrdVoteKey : Std.TransOrd VoteKey := inferInstance

structure InMemoryStore where
  accounts : OrderedMap Address AccountState := ∅
  nodes : OrderedMap NodeId NodeRegistry := ∅
  batches : OrderedMap BatchKey BatchCommit := ∅
  epochCommits : OrderedMap ℕ EpochCommit := ∅
  openChallenges : OrderedMap Hash32 Challenge := ∅
  resolvedChallenges : OrderedMap Hash32 Challenge := ∅
  challengeResolutions : OrderedMap Hash32 ChallengeResolutionRecord := ∅
  rewardRecords : OrderedMap RewardKey RewardRecord := ∅
  claimedRewards : OrderedMap RewardKey Unit := ∅
  delegations : OrderedMap DelegationKey DelegationRecord := ∅
  unbondingQueue : List UnbondingRecord := []
  votes : OrderedMap VoteKey GovernanceVoteRecord := ∅
  paramsUpdateProposals : OrderedMap Hash32 GovernanceParamsUpdateProposalRecord := ∅
  challengeResponses : OrderedMap Hash32 ChallengeResponseRecord := ∅
  scheduledProtocolParams : OrderedMap ℕ ProtocolParams := ∅
  finalizedEpochs : OrderedMap ℕ Unit := ∅

structure ProtocolState where
  height : ℕ
  currentEpoch : ℕ
  params : ProtocolParams
  store : InMemoryStore := {}

inductive ChallengeResolution where
  | badBatch (slashAmount challengerReward : ℕ) (rejectedBatchRoot : Option Hash32)
  | omission (slashAmount challengerReward : ℕ) (omittedBatchRoot : Hash32)
  | badAggregate (slashAmount challengerReward : ℕ) (correctedAggregateRoot : Option Hash32)
  | badReward (slashAmount challengerReward : ℕ) (correctedRewardRoot : Option Hash32)
  | badStorage (slashAmount challengerReward : ℕ) (missingPayloadCid : Option String)
  | rejected
  deriving DecidableEq

inductive TransitionEffect where
  | batchAccepted (key : BatchKey)
  | epochCommitted (epochId : ℕ) (challengeDeadlineHeight : ℕ)
  | challengeOpened (challengeId : Hash32) (lockedBond : ℕ)
  | challengeResolved (challengeId : Hash32) (kind : ChallengeKind)
      (slashAmount challengerReward : ℕ)
  | epochFinalized (epochId : ℕ)
  | rewardClaimed (epochId : ℕ) (nodeId : NodeId) (claimer : Address) (amount : ℕ)
  | transferApplied (sender recipient : Address) (amount fee : ℕ)
  | stakeApplied (delegator : Address) (operator : NodeId) (amount : ℕ)
  | unbondQueued (delegator : Address) (operator : NodeId) (amount : ℕ) (unlockHeight : ℕ)
  | unbondMatured (delegator : Address) (operator : NodeId) (amount : ℕ)
  | voteRecorded (proposalId : Hash32) (voter : Address) (votingPower : ℕ)
  | protocolParamsUpdateProposed (proposalId : Hash32) (proposer : Address)
      (effectiveEpoch : ℕ)
  | challengeResponded (challengeId : Hash32) (responder : NodeId)
  deriving DecidableEq

inductive TransitionError where
  | invalidSignature
  | invalidSigner
  | emptyPayloadCid
  | emptyBatch
  | invalidSlotRange
  | staleEpoch (epochId currentEpoch : ℕ)
  | unknownNode (nodeId : NodeId)
  | unknownAccount (address : Address)
  | nodeNotActive (nodeId : NodeId)
  | missingCapability (nodeId : NodeId) (capability : Capability)
  | insufficientBond (nodeId : NodeId) (required actual : ℕ)
  | duplicateBatch (key : BatchKey)
  | duplicateEpochCommit (epochId : ℕ)
  | missingBatchForEpoch (epochId : ℕ)
  | challengeWindowInvalid (openHeight deadlineHeight : ℕ) (maxWindow : ℕ)
  | epochCommitNotFound (epochId : ℕ)
  | challengeAlreadyExists (challengeId : Hash32)
  | challengeNotFound (challengeId : Hash32)
  | invalidChallengeBond
  | missingChallengeTarget (challengeId : Hash32)
  | invalidChallengeReward (slashAmount challengerReward : ℕ)
  | resolutionKindMismatch (challengeId : Hash32) (expected : ChallengeKind)
  | challengeStillOpen (epochId : ℕ)
  | challengeWindowNotElapsed (currentHeight deadlineHeight : ℕ)
  | epochAlreadyFinalized (epochId : ℕ)
  | epochNotFinalized (epochId : ℕ)
  | rewardNotFound (key : RewardKey)
  | rewardAlreadyClaimed (key : RewardKey)
  | claimAmountMismatch (expected actual : ℕ)
  | invalidRewardClaimer (expected actual : Address)
  | invalidAmount
  | delegationNotFound (key : DelegationKey)
  | insufficientDelegation (key : DelegationKey) (required actual : ℕ)
  | insufficientVotingPower (address : Address) (required available : ℕ)
  | duplicateVote (key : VoteKey)
  | challengeAlreadyResponded (challengeId : Hash32)
  | challengeResponseWindowElapsed (challengeId : Hash32) (currentHeight deadlineHeight : ℕ)
  | duplicateParamsUpdateProposal (proposalId : Hash32)
  | paramsUpdateProposalNotFound (proposalId : Hash32)
  | paramsUpdateMustTargetFutureEpoch (currentEpoch effectiveEpoch : ℕ)
  | invalidChallengeResponder (challengeId : Hash32) (expected actual : NodeId)
  | emptyChallengeResponse
  | nonceMismatch (address : Address) (expected actual : ℕ)
  | insufficientBalance (address : Address) (required available : ℕ)
  | paramsSerialization (message : String)
  | invalidProtocolParams (error : ProtocolParamsError)
  deriving DecidableEq

inductive BlockExecutionError where
  | heightRegression (currentHeight blockHeight : ℕ)
  | transition (error : TransitionError)
  deriving DecidableEq

structure Block where
  height : ℕ
  transactions : List Transaction

end PoleProtocol.Ledger
