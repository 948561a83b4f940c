import PoleProtocol.Framework.Word
import PoleProtocol.Ledger.Types

/-!
# Transitions of the off-chain ledger

Every transition works on the protocol state in place and keeps what it wrote when a later check
refuses, as the source does: nothing is rolled back. A mutable borrow of an account, a node or a
proposal is a read of the record followed by a write of what the body makes of it.
-/

namespace PoleProtocol.Ledger

open Framework

/-- The code outside the ledger, and the overflow behaviour of the build for 128-bit amounts and
for the narrower counters. -/
structure Env where
  /-- Ed25519 verification of a message under a public key. -/
  verifySignature : Hash32 → Bytes → Bytes → Bool
  /-- The encoding of the record inside a transaction. -/
  encode : Transaction → Option Bytes
  encodeParams : ProtocolParams → Except String Bytes
  /-- A record is encoded field by field, so its fields are encoded as well. -/
  encodeParams_of_encode : ∀ (tx : ProposeProtocolParamsUpdateTx) (bytes : Bytes),
    encode (.proposeProtocolParamsUpdate tx) = some bytes →
      ∃ paramBytes, encodeParams tx.params = .ok paramBytes
  wide : Overflow
  narrow : Overflow

abbrev Transition := Action ProtocolState TransitionError

def refuseUnless (p : Prop) [Decidable p] (error : TransitionError) : Attempt TransitionError Unit :=
  ensure p (.refused error)

def found {α : Type} (x : Option α) (error : TransitionError) : Attempt TransitionError α :=
  require x (.refused error)

namespace Env

def add128 (env : Env) (a b : ℕ) : Attempt TransitionError ℕ := require (env.wide.add 128 a b) .panic

def add64 (env : Env) (a b : ℕ) : Attempt TransitionError ℕ :=
  require (env.narrow.add 64 a b) .panic

def add32 (env : Env) (a b : ℕ) : Attempt TransitionError ℕ :=
  require (env.narrow.add 32 a b) .panic

def serializeParams (env : Env) (params : ProtocolParams) : Attempt TransitionError Bytes :=
  match env.encodeParams params with
  | .ok bytes => .ok bytes
  | .error message => .error (.refused (.paramsSerialization message))

end Env

/-! ## Checks -/

/-- The payload is built before the signer is compared; encoding it may panic. -/
def ensureSignature (env : Env) (tx : Transaction) (pubkey expectedSigner : Hash32)
    (signature : Bytes) : Attempt TransitionError Unit := do
  let message ← require (env.encode tx.unsigned) .panic
  refuseUnless (stableHash32 pubkey.bytes = expectedSigner) .invalidSigner
  refuseUnless (env.verifySignature pubkey message signature = true) .invalidSignature

def ensureNonEmptyPayload (payloadCid : String) : Attempt TransitionError Unit :=
  refuseUnless (payloadCid ≠ "") .emptyPayloadCid

def ensureEpochNotStale (epochId currentEpoch : ℕ) : Attempt TransitionError Unit :=
  refuseUnless (currentEpoch ≤ epochId) (.staleEpoch epochId currentEpoch)

def ensurePositiveAmount (amount : ℕ) : Attempt TransitionError Unit :=
  refuseUnless (amount ≠ 0) .invalidAmount

def ensureNonce (address : Address) (expected actual : ℕ) : Attempt TransitionError Unit :=
  refuseUnless (expected = actual) (.nonceMismatch address expected actual)

def ensureBond (nodeId : NodeId) (actual required : ℕ) : Attempt TransitionError Unit :=
  refuseUnless (required ≤ actual) (.insufficientBond nodeId required actual)

/-! ## Bonds of an account -/

def lockBond (env : Env) (account : AccountState) (amount : ℕ) :
    Attempt TransitionError AccountState := do
  refuseUnless (amount ≤ account.balance)
    (.insufficientBalance account.address amount account.balance)
  let locked ← env.add128 account.locked amount
  return { account with balance := account.balance - amount, locked }

def unlockBondToBalance (env : Env) (account : AccountState) (lockedAmount creditAmount : ℕ) :
    Attempt TransitionError AccountState := do
  refuseUnless (lockedAmount ≤ account.locked)
    (.insufficientBalance account.address lockedAmount account.locked)
  let balance ← env.add128 account.balance creditAmount
  return { account with locked := account.locked - lockedAmount, balance }

def burnLockedBond (account : AccountState) (amount : ℕ) :
    Attempt TransitionError AccountState := do
  refuseUnless (amount ≤ account.locked)
    (.insufficientBalance account.address amount account.locked)
  return { account with locked := account.locked - amount }

/-! ## Access to the store -/

namespace ProtocolState

def insertAccount (s : ProtocolState) (address : Address) (account : AccountState) : ProtocolState :=
  { s with store := { s.store with accounts := s.store.accounts.insert address account } }

def insertNode (s : ProtocolState) (nodeId : NodeId) (node : NodeRegistry) : ProtocolState :=
  { s with store := { s.store with nodes := s.store.nodes.insert nodeId node } }

def insertParamsUpdateProposal (s : ProtocolState) (proposalId : Hash32)
    (proposal : GovernanceParamsUpdateProposalRecord) : ProtocolState :=
  { s with store := { s.store with
      paramsUpdateProposals := s.store.paramsUpdateProposals.insert proposalId proposal } }

def insertOpenChallenge (s : ProtocolState) (challengeId : Hash32) (challenge : Challenge) :
    ProtocolState :=
  { s with store := { s.store with
      openChallenges := s.store.openChallenges.insert challengeId challenge } }

def removeOpenChallenge (s : ProtocolState) (challengeId : Hash32) : ProtocolState :=
  { s with store := { s.store with openChallenges := s.store.openChallenges.erase challengeId } }

def insertDelegation (s : ProtocolState) (delegation : DelegationRecord) : ProtocolState :=
  { s with store := { s.store with
      delegations :=
        s.store.delegations.insert (delegation.delegator, delegation.operator) delegation } }

def removeDelegation (s : ProtocolState) (key : DelegationKey) : ProtocolState :=
  { s with store := { s.store with delegations := s.store.delegations.erase key } }

def hasAnyBatchForEpoch (s : ProtocolState) (epochId : ℕ) : Bool :=
  s.store.batches.keys.any (·.1 == epochId)

def hasOpenChallengesForEpoch (s : ProtocolState) (epochId : ℕ) : Bool :=
  s.store.openChallenges.records.any (·.epochId == epochId)

def voteRecordsForProposal (s : ProtocolState) (proposalId : Hash32) : List GovernanceVoteRecord :=
  (s.store.votes.toList.filter (·.1.1 == proposalId)).map (·.2)

def requireActiveNode (s : ProtocolState) (nodeId : NodeId) :
    Attempt TransitionError NodeRegistry := do
  let node ← found s.store.nodes[nodeId]? (.unknownNode nodeId)
  refuseUnless (node.status = .active) (.nodeNotActive nodeId)
  return node

def requireActiveNodeWithCapability (s : ProtocolState) (nodeId : NodeId)
    (capability : Capability) : Attempt TransitionError NodeRegistry := do
  let node ← s.requireActiveNode nodeId
  refuseUnless (capability ∈ node.enabledCapabilities) (.missingCapability nodeId capability)
  return node

end ProtocolState

/-- Borrow an account mutably. -/
def accountMut (address : Address) (body : AccountState → Attempt TransitionError AccountState) :
    Transition Unit :=
  .update (fun s => found s.store.accounts[address]? (.unknownAccount address) >>= body)
    fun s account => s.insertAccount address account

/-- Borrow a node mutably. -/
def nodeMut (nodeId : NodeId) (body : NodeRegistry → Attempt TransitionError NodeRegistry) :
    Transition Unit :=
  .update (fun s => found s.store.nodes[nodeId]? (.unknownNode nodeId) >>= body)
    fun s node => s.insertNode nodeId node

/-- Borrow a proposal mutably and move it to another state. -/
def setProposalState (proposalId : Hash32) (state : GovernanceProposalState) : Transition Unit :=
  .update (fun s => found s.store.paramsUpdateProposals[proposalId]?
      (.paramsUpdateProposalNotFound proposalId))
    fun s proposal => s.insertParamsUpdateProposal proposalId { proposal with state }

/-! ## Batches and epochs -/

def applySubmitBatch (env : Env) (tx : SubmitBatchTx) : Transition TransitionEffect := do
  let batch := tx.batchCommit
  ensureSignature env (.submitBatch tx) tx.pubkey batch.collectorId tx.signature
  let s ← get
  ensureEpochNotStale batch.epochId s.currentEpoch
  ensureNonEmptyPayload batch.payloadCid
  refuseUnless (batch.obsCount ≠ 0) .emptyBatch
  refuseUnless (batch.slotStart ≤ batch.slotEnd) .invalidSlotRange
  let node ← s.requireActiveNodeWithCapability batch.collectorId .collect
  let key : BatchKey := (batch.epochId, node.nodeId, batch.batch.root)
  refuseUnless (s.store.batches[key]? = none) (.duplicateBatch key)
  modify fun s => { s with store := { s.store with
    batches := s.store.batches.insert key { batch with submittedAtHeight := s.height } } }
  return .batchAccepted key

def applyCommitEpoch (env : Env) (tx : CommitEpochTx) : Transition TransitionEffect := do
  let commit := tx.epochCommit
  ensureSignature env (.commitEpoch tx) tx.pubkey commit.proposerId tx.signature
  let s ← get
  ensureEpochNotStale commit.epochId s.currentEpoch
  let proposer ← s.requireActiveNodeWithCapability commit.proposerId .propose
  ensureBond proposer.nodeId proposer.bond s.params.minProposeBond
  refuseUnless (s.store.epochCommits[commit.epochId]? = none) (.duplicateEpochCommit commit.epochId)
  refuseUnless (s.hasAnyBatchForEpoch commit.epochId = true) (.missingBatchForEpoch commit.epochId)
  refuseUnless (s.height < commit.challengeDeadlineHeight ∧
      commit.challengeDeadlineHeight - s.height ≤ s.params.challengeWindowBlocks)
    (.challengeWindowInvalid s.height commit.challengeDeadlineHeight s.params.challengeWindowBlocks)
  modify fun s => { s with store := { s.store with
    epochCommits :=
      s.store.epochCommits.insert commit.epochId { commit with challengeOpenHeight := s.height } } }
  return .epochCommitted commit.epochId commit.challengeDeadlineHeight

/-! ## Challenges -/

/-- A target that a challenge names has to be an active node. -/
def ProtocolState.requireActiveTarget (s : ProtocolState) (challenge : Challenge) :
    Attempt TransitionError Unit :=
  match challenge.targetNode with
  | some target => do let _ ← s.requireActiveNode target
  | none => return

def applyOpenChallenge (env : Env) (tx : OpenChallengeTx) : Transition TransitionEffect := do
  let challenge := tx.challenge
  ensureSignature env (.openChallenge tx) tx.pubkey challenge.challenger tx.signature
  refuseUnless (challenge.bond ≠ 0) .invalidChallengeBond
  let s ← get
  refuseUnless (s.store.openChallenges[challenge.challengeId]? = none)
    (.challengeAlreadyExists challenge.challengeId)
  let commit ← found s.store.epochCommits[challenge.epochId]?
    (.epochCommitNotFound challenge.epochId)
  refuseUnless (s.height < challenge.deadlineHeight ∧
      challenge.deadlineHeight ≤ commit.challengeDeadlineHeight)
    (.challengeWindowInvalid s.height challenge.deadlineHeight s.params.challengeWindowBlocks)
  s.requireActiveTarget challenge
  accountMut challenge.challenger fun account => lockBond env account challenge.bond
  modify fun s =>
    s.insertOpenChallenge challenge.challengeId { challenge with openedAtHeight := s.height }
  return .challengeOpened challenge.challengeId challenge.bond

def applyChallengeResponse (env : Env) (tx : ChallengeResponseTx) : Transition TransitionEffect := do
  ensureSignature env (.challengeResponse tx) tx.pubkey tx.responder tx.signature
  refuseUnless (¬ (tx.responsePayloadCid = none ∧ tx.responseHash = none)) .emptyChallengeResponse
  let s ← get
  refuseUnless (s.store.challengeResponses[tx.challengeId]? = none)
    (.challengeAlreadyResponded tx.challengeId)
  let challenge ← found s.store.openChallenges[tx.challengeId]? (.challengeNotFound tx.challengeId)
  refuseUnless (s.height ≤ challenge.deadlineHeight)
    (.challengeResponseWindowElapsed tx.challengeId s.height challenge.deadlineHeight)
  let expected ← found challenge.targetNode (.missingChallengeTarget tx.challengeId)
  refuseUnless (expected = tx.responder)
    (.invalidChallengeResponder tx.challengeId expected tx.responder)
  modify fun s => (s.removeOpenChallenge tx.challengeId).insertOpenChallenge tx.challengeId
    { challenge with state := .responded }
  modify fun s => { s with store := { s.store with
    challengeResponses := s.store.challengeResponses.insert tx.challengeId
      { challengeId := tx.challengeId
        responder := tx.responder
        responsePayloadCid := tx.responsePayloadCid
        responseHash := tx.responseHash
        respondedAtHeight := s.height } } }
  return .challengeResponded tx.challengeId tx.responder

def ChallengeResolution.amounts : ChallengeResolution → ℕ × ℕ
  | .badBatch slashAmount challengerReward _ => (slashAmount, challengerReward)
  | .omission slashAmount challengerReward _ => (slashAmount, challengerReward)
  | .badAggregate slashAmount challengerReward _ => (slashAmount, challengerReward)
  | .badReward slashAmount challengerReward _ => (slashAmount, challengerReward)
  | .badStorage slashAmount challengerReward _ => (slashAmount, challengerReward)
  | .rejected => (0, 0)

def resolutionDetails (challengeId : Hash32) (expectedKind : ChallengeKind) :
    ChallengeResolution → Attempt TransitionError ChallengeResolutionDetails
  | .badBatch _ _ root => do
      refuseUnless (expectedKind = .badBatch) (.resolutionKindMismatch challengeId expectedKind)
      return .badBatch root
  | .omission _ _ root => do
      refuseUnless (expectedKind = .omission) (.resolutionKindMismatch challengeId expectedKind)
      return .omission root
  | .badAggregate _ _ root => do
      refuseUnless (expectedKind = .badAggregate) (.resolutionKindMismatch challengeId expectedKind)
      return .badAggregate root
  | .badReward _ _ root => do
      refuseUnless (expectedKind = .badReward) (.resolutionKindMismatch challengeId expectedKind)
      return .badReward root
  | .badStorage _ _ cid => do
      refuseUnless (expectedKind = .badStorage) (.resolutionKindMismatch challengeId expectedKind)
      return .badStorage cid
  | .rejected => return .rejected

/-- Store the outcome of a challenge. -/
def ProtocolState.insertResolution (s : ProtocolState) (challenge : Challenge)
    (state : ChallengeState) (slashAmount challengerReward : ℕ)
    (details : ChallengeResolutionDetails) : ProtocolState :=
  { s with store := { s.store with
      resolvedChallenges :=
        s.store.resolvedChallenges.insert challenge.challengeId { challenge with state }
      challengeResolutions := s.store.challengeResolutions.insert challenge.challengeId
        { challengeId := challenge.challengeId
          kind := challenge.kind
          slashAmount
          challengerReward
          details
          resolvedAtHeight := s.height } } }

/-- The challenger's bond is burnt. -/
def rejectChallenge (challenge : Challenge) : Transition TransitionEffect := do
  accountMut challenge.challenger fun account => burnLockedBond account challenge.bond
  modify (·.insertResolution challenge .rejected 0 0 .rejected)
  return .challengeResolved challenge.challengeId challenge.kind 0 0

/-- The target is slashed, and the challenger gets the bond and a reward. -/
def upholdChallenge (env : Env) (challenge : Challenge) (resolution : ChallengeResolution) :
    Transition TransitionEffect := do
  let slashAmount := resolution.amounts.1
  let challengerReward := resolution.amounts.2
  let details ← resolutionDetails challenge.challengeId challenge.kind resolution
  refuseUnless (challengerReward ≤ slashAmount)
    (.invalidChallengeReward slashAmount challengerReward)
  let targetNodeId ← found challenge.targetNode (.missingChallengeTarget challenge.challengeId)
  nodeMut targetNodeId fun node => do
    ensureBond node.nodeId node.bond slashAmount
    let challengeableFaults ← env.add32 node.reputation.challengeableFaults 1
    return { node with
      bond := node.bond - slashAmount
      reputation := { node.reputation with challengeableFaults } }
  accountMut challenge.challenger fun account => do
    let creditAmount ← env.add128 challenge.bond challengerReward
    unlockBondToBalance env account challenge.bond creditAmount
  modify (·.insertResolution challenge .succeeded slashAmount challengerReward details)
  return .challengeResolved challenge.challengeId challenge.kind slashAmount challengerReward

def resolveChallenge (env : Env) (challengeId : Hash32) (resolution : ChallengeResolution) :
    Transition TransitionEffect := do
  let s ← get
  let challenge ← found s.store.openChallenges[challengeId]? (.challengeNotFound challengeId)
  modify (·.removeOpenChallenge challengeId)
  if resolution = .rejected then rejectChallenge challenge
  else upholdChallenge env challenge resolution

/-! ## Parameter updates -/

def ensureValidParams (params : ProtocolParams) : Attempt TransitionError Unit :=
  match params.validate with
  | .ok () => .ok ()
  | .error e => .error (.refused (.invalidProtocolParams e))

def scheduleProtocolParamsUpdate (effectiveEpoch : ℕ) (params : ProtocolParams) :
    Transition Unit := do
  ensureValidParams params
  let s ← get
  refuseUnless (s.currentEpoch < effectiveEpoch)
    (.paramsUpdateMustTargetFutureEpoch s.currentEpoch effectiveEpoch)
  modify fun s => { s with store := { s.store with
    scheduledProtocolParams := s.store.scheduledProtocolParams.insert effectiveEpoch params } }

/-- Move a scheduled proposal of the current epoch to the activated state. -/
def ProtocolState.activateProposal (s : ProtocolState)
    (proposal : GovernanceParamsUpdateProposalRecord) : ProtocolState :=
  if proposal.state = .scheduled ∧ proposal.effectiveEpoch = s.currentEpoch then
    match s.store.paramsUpdateProposals[proposal.proposalId]? with
    | none => s
    | some record =>
        s.insertParamsUpdateProposal proposal.proposalId { record with state := .activated }
  else s

/-- Install the parameters scheduled for the current epoch. -/
def ProtocolState.activateScheduledProtocolParams (s : ProtocolState) : ProtocolState :=
  match s.store.scheduledProtocolParams[s.currentEpoch]? with
  | none => s
  | some params =>
      let installed : ProtocolState :=
        { s with
          params
          store := { s.store with
            scheduledProtocolParams := s.store.scheduledProtocolParams.erase s.currentEpoch } }
      s.store.paramsUpdateProposals.records.foldl ProtocolState.activateProposal installed

/-- The pending proposals whose epoch has come. -/
def ProtocolState.staleParamsUpdateProposals (s : ProtocolState) :
    List GovernanceParamsUpdateProposalRecord :=
  s.store.paramsUpdateProposals.records.filter fun proposal =>
    proposal.state = .pending ∧ proposal.effectiveEpoch ≤ s.currentEpoch

def expireProposal (proposal : GovernanceParamsUpdateProposalRecord) : Transition Unit := do
  accountMut proposal.proposer fun account => burnLockedBond account proposal.bondAmount
  setProposalState proposal.proposalId .expired

/-- The listing is taken before the loop; the loop moves neither the epoch nor the listing. -/
def expireStaleParamsUpdateProposals : Transition Unit := do
  let s ← get
  s.staleParamsUpdateProposals.forM expireProposal

structure Tally where
  yes : ℕ := 0
  no : ℕ := 0
  abstain : ℕ := 0
  totalVotes : ℕ := 0
  deriving DecidableEq

def Tally.record (env : Env) (tally : Tally) (vote : GovernanceVoteRecord) :
    Attempt TransitionError Tally := do
  let totalVotes ← env.add32 tally.totalVotes 1
  match vote.choice with
  | .yes => return { tally with totalVotes, yes := ← env.add128 tally.yes vote.votingPower }
  | .no => return { tally with totalVotes, no := ← env.add128 tally.no vote.votingPower }
  | .abstain => return { tally with totalVotes, abstain := ← env.add128 tally.abstain vote.votingPower }

def AccountState.votingPower (env : Env) (account : AccountState) : Attempt TransitionError ℕ := do
  env.add128 (← env.add128 account.balance account.staked) account.locked

namespace ProtocolState

def totalVotingPower (env : Env) (s : ProtocolState) : Attempt TransitionError ℕ :=
  s.store.accounts.records.foldlM (fun sum account => do
    env.add128 sum (← account.votingPower env)) 0

def requiredQuorumBps (s : ProtocolState) : GovernanceProposalKind → ℕ
  | .fastParams => s.params.governance.paramsUpdateQuorumBps
  | .slowParams => s.params.governance.slowParamsUpdateQuorumBps

def requiredApprovalBps (s : ProtocolState) : GovernanceProposalKind → ℕ
  | .fastParams => s.params.governance.paramsUpdateApprovalBps
  | .slowParams => s.params.governance.slowParamsUpdateApprovalBps

/-- The votes recorded for a proposal reach its quorum and its approval threshold. -/
def approved (env : Env) (s : ProtocolState) (proposalId : Hash32) (kind : GovernanceProposalKind) :
    Attempt TransitionError Bool := do
  let tally ← (s.voteRecordsForProposal proposalId).foldlM (Tally.record env) {}
  if tally.totalVotes = 0 then return false
  else
    let participatingPower ← env.add128 (← env.add128 tally.yes tally.no) tally.abstain
    let totalVotingPower ← s.totalVotingPower env
    if totalVotingPower = 0 then return false
    else if saturatingMul128 participatingPower 10000 / totalVotingPower < s.requiredQuorumBps kind
    then return false
    else
      let decisivePower ← env.add128 tally.yes tally.no
      return decisivePower ≠ 0 ∧
        s.requiredApprovalBps kind ≤ saturatingMul128 tally.yes 10000 / decisivePower

end ProtocolState

/-- Schedule an approved proposal and return its bond. -/
def scheduleApprovedProposal (env : Env) (proposalId : Hash32)
    (proposal : GovernanceParamsUpdateProposalRecord) : Transition Unit := do
  scheduleProtocolParamsUpdate proposal.effectiveEpoch proposal.params
  accountMut proposal.proposer fun account =>
    unlockBondToBalance env account proposal.bondAmount proposal.bondAmount
  setProposalState proposalId .scheduled

def tryScheduleParamsUpdateAfterVote (env : Env) (proposalId : Hash32) : Transition Unit := do
  let s ← get
  match s.store.paramsUpdateProposals[proposalId]? with
  | none => pure ()
  | some proposal =>
      if proposal.state = .pending then
        let approved ← s.approved env proposalId proposal.kind
        if approved = true then scheduleApprovedProposal env proposalId proposal else pure ()
      else pure ()

def ProtocolState.markEpochFinalized (s : ProtocolState) (epochId : ℕ) : ProtocolState :=
  { s with store := { s.store with finalizedEpochs := s.store.finalizedEpochs.insert epochId () } }

/-- Enter the next epoch: install its parameters and expire the proposals that came too late. -/
def enterEpoch (currentEpoch : ℕ) : Transition Unit := do
  modify fun s => { s with currentEpoch }.activateScheduledProtocolParams
  expireStaleParamsUpdateProposals

/-- A finalized epoch before the current one does not move the current one. -/
def advanceEpoch (env : Env) (currentEpoch epochId : ℕ) : Transition Unit :=
  if currentEpoch ≤ epochId then do
    let next ← env.add64 epochId 1
    enterEpoch next
  else pure ()

def finalizeEpoch (env : Env) (epochId : ℕ) : Transition TransitionEffect := do
  let s ← get
  refuseUnless (s.store.finalizedEpochs[epochId]? = none) (.epochAlreadyFinalized epochId)
  let commit ← found s.store.epochCommits[epochId]? (.epochCommitNotFound epochId)
  refuseUnless (commit.challengeDeadlineHeight < s.height)
    (.challengeWindowNotElapsed s.height commit.challengeDeadlineHeight)
  refuseUnless (s.hasOpenChallengesForEpoch epochId = false) (.challengeStillOpen epochId)
  modify (·.markEpochFinalized epochId)
  advanceEpoch env s.currentEpoch epochId
  return .epochFinalized epochId

/-! ## Rewards and transfers -/

def applyClaimReward (env : Env) (tx : ClaimRewardTx) : Transition TransitionEffect := do
  ensureSignature env (.claimReward tx) tx.pubkey tx.claimer tx.signature
  let s ← get
  refuseUnless (s.store.finalizedEpochs[tx.epochId]? ≠ none) (.epochNotFinalized tx.epochId)
  let rewardKey : RewardKey := (tx.epochId, tx.nodeId)
  refuseUnless (s.store.claimedRewards[rewardKey]? = none) (.rewardAlreadyClaimed rewardKey)
  let reward ← found s.store.rewardRecords[rewardKey]? (.rewardNotFound rewardKey)
  let node ← found s.store.nodes[tx.nodeId]? (.unknownNode tx.nodeId)
  refuseUnless (node.rewardAddress = tx.claimer) (.invalidRewardClaimer node.rewardAddress tx.claimer)
  refuseUnless (reward.netReward = tx.amount) (.claimAmountMismatch reward.netReward tx.amount)
  accountMut tx.claimer fun account => do
    return { account with balance := ← env.add128 account.balance tx.amount }
  modify fun s => { s with store := { s.store with
    claimedRewards := s.store.claimedRewards.insert rewardKey () } }
  return .rewardClaimed tx.epochId tx.nodeId tx.claimer tx.amount

/-- The sender's side of a transfer: the nonce and the balance are checked, then both move. -/
def TransferTx.debit (env : Env) (tx : TransferTx) (sender : AccountState) :
    Attempt TransitionError AccountState := do
  ensureNonce sender.address sender.nonce tx.nonce
  let total := saturatingAdd128 tx.amount tx.fee
  refuseUnless (total ≤ sender.balance) (.insufficientBalance sender.address total sender.balance)
  let nonce ← env.add64 sender.nonce 1
  return { sender with balance := sender.balance - total, nonce }

def applyTransfer (env : Env) (tx : TransferTx) : Transition TransitionEffect := do
  ensureSignature env (.transfer tx) tx.pubkey tx.sender tx.signature
  accountMut tx.sender fun sender => tx.debit env sender
  accountMut tx.recipient fun recipient => do
    return { recipient with balance := ← env.add128 recipient.balance tx.amount }
  return .transferApplied tx.sender tx.recipient tx.amount tx.fee

/-! ## Stake -/

def StakeTx.debit (env : Env) (tx : StakeTx) (delegator : AccountState) :
    Attempt TransitionError AccountState := do
  ensureNonce delegator.address delegator.nonce tx.nonce
  refuseUnless (tx.amount ≤ delegator.balance)
    (.insufficientBalance delegator.address tx.amount delegator.balance)
  let staked ← env.add128 delegator.staked tx.amount
  let nonce ← env.add64 delegator.nonce 1
  return { delegator with balance := delegator.balance - tx.amount, staked, nonce }

def applyStake (env : Env) (tx : StakeTx) : Transition TransitionEffect := do
  ensureSignature env (.stake tx) tx.pubkey tx.delegator tx.signature
  ensurePositiveAmount tx.amount
  let s ← get
  let _ ← s.requireActiveNode tx.operator
  accountMut tx.delegator fun delegator => tx.debit env delegator
  nodeMut tx.operator fun operator => do
    return { operator with bond := ← env.add128 operator.bond tx.amount }
  let delegated := (s.store.delegations[(tx.delegator, tx.operator)]?.map (·.amount)).getD 0
  let amount ← env.add128 delegated tx.amount
  modify (·.insertDelegation { delegator := tx.delegator, operator := tx.operator, amount })
  return .stakeApplied tx.delegator tx.operator tx.amount

def UnbondTx.lock (env : Env) (tx : UnbondTx) (delegator : AccountState) :
    Attempt TransitionError AccountState := do
  ensureNonce delegator.address delegator.nonce tx.nonce
  refuseUnless (tx.amount ≤ delegator.staked)
    (.insufficientBalance delegator.address tx.amount delegator.staked)
  let locked ← env.add128 delegator.locked tx.amount
  let nonce ← env.add64 delegator.nonce 1
  return { delegator with staked := delegator.staked - tx.amount, locked, nonce }

def applyUnbond (env : Env) (tx : UnbondTx) : Transition TransitionEffect := do
  ensureSignature env (.unbond tx) tx.pubkey tx.delegator tx.signature
  ensurePositiveAmount tx.amount
  let key : DelegationKey := (tx.delegator, tx.operator)
  let s ← get
  let existing ← found s.store.delegations[key]? (.delegationNotFound key)
  refuseUnless (tx.amount ≤ existing.amount)
    (.insufficientDelegation key tx.amount existing.amount)
  accountMut tx.delegator fun delegator => tx.lock env delegator
  nodeMut tx.operator fun operator => do
    ensureBond operator.nodeId operator.bond tx.amount
    return { operator with bond := operator.bond - tx.amount }
  let remaining := existing.amount - tx.amount
  modify fun s =>
    if remaining = 0 then s.removeDelegation key
    else s.insertDelegation
      { delegator := tx.delegator, operator := tx.operator, amount := remaining }
  let unlockHeight ← env.add64 s.height s.params.unbondingBlocks
  modify fun s => { s with store := { s.store with
    unbondingQueue := s.store.unbondingQueue ++
      [{ delegator := tx.delegator, operator := tx.operator, amount := tx.amount, unlockHeight }] } }
  return .unbondQueued tx.delegator tx.operator tx.amount unlockHeight

/-- Return one unbonded amount to its delegator. -/
def releaseUnbond (env : Env) (request : UnbondingRecord) : Transition TransitionEffect := do
  accountMut request.delegator fun delegator =>
    unlockBondToBalance env delegator request.amount request.amount
  return .unbondMatured request.delegator request.operator request.amount

def processMatureUnbonds (env : Env) : Transition (List TransitionEffect) := do
  let s ← get
  modify fun s => { s with store := { s.store with
    unbondingQueue := s.store.unbondingQueue.filter fun request =>
      s.height < request.unlockHeight } }
  (s.store.unbondingQueue.filter fun request => request.unlockHeight ≤ s.height).mapM
    (releaseUnbond env)

/-! ## Governance -/

def VoteTx.authorize (env : Env) (tx : VoteTx) (voter : AccountState) :
    Attempt TransitionError AccountState := do
  ensureNonce voter.address voter.nonce tx.nonce
  let availableVotingPower ← voter.votingPower env
  refuseUnless (tx.votingPower ≤ availableVotingPower)
    (.insufficientVotingPower voter.address tx.votingPower availableVotingPower)
  return { voter with nonce := ← env.add64 voter.nonce 1 }

/-- Store the vote of a transaction. -/
def ProtocolState.insertVote (s : ProtocolState) (tx : VoteTx) : ProtocolState :=
  { s with store := { s.store with
      votes := s.store.votes.insert (tx.proposalId, tx.voter)
        { proposalId := tx.proposalId
          voter := tx.voter
          choice := tx.choice
          votingPower := tx.votingPower
          recordedHeight := s.height } } }

def applyVote (env : Env) (tx : VoteTx) : Transition TransitionEffect := do
  ensureSignature env (.vote tx) tx.pubkey tx.voter tx.signature
  ensurePositiveAmount tx.votingPower
  let key : VoteKey := (tx.proposalId, tx.voter)
  let s ← get
  refuseUnless (s.store.votes[key]? = none) (.duplicateVote key)
  accountMut tx.voter fun voter => tx.authorize env voter
  modify (·.insertVote tx)
  tryScheduleParamsUpdateAfterVote env tx.proposalId
  return .voteRecorded tx.proposalId tx.voter tx.votingPower

def classifyProtocolParamsUpdate (current proposed : ProtocolParams) : GovernanceProposalKind :=
  if current.rewards.rewardBlockSecs ≠ proposed.rewards.rewardBlockSecs then .slowParams
  else .fastParams

def requiredProposalBond (params : ProtocolParams) : GovernanceProposalKind → ℕ
  | .fastParams => params.governance.paramsUpdateBond
  | .slowParams => params.governance.slowParamsUpdateBond

def ProposeProtocolParamsUpdateTx.lock (env : Env) (tx : ProposeProtocolParamsUpdateTx)
    (requiredBond : ℕ) (proposer : AccountState) : Attempt TransitionError AccountState := do
  ensureNonce proposer.address proposer.nonce tx.nonce
  let account ← lockBond env proposer requiredBond
  return { account with nonce := ← env.add64 account.nonce 1 }

def applyProposeProtocolParamsUpdate (env : Env) (tx : ProposeProtocolParamsUpdateTx) :
    Transition TransitionEffect := do
  ensureSignature env (.proposeProtocolParamsUpdate tx) tx.pubkey tx.proposer tx.signature
  let s ← get
  refuseUnless (s.store.paramsUpdateProposals[tx.proposalId]? = none)
    (.duplicateParamsUpdateProposal tx.proposalId)
  let kind := classifyProtocolParamsUpdate s.params tx.params
  let bondAmount := requiredProposalBond s.params kind
  accountMut tx.proposer fun proposer => tx.lock env bondAmount proposer
  let paramBytes ← env.serializeParams tx.params
  modify fun s => s.insertParamsUpdateProposal tx.proposalId
    { proposalId := tx.proposalId
      proposer := tx.proposer
      kind
      effectiveEpoch := tx.effectiveEpoch
      submittedHeight := s.height
      bondAmount
      paramsHash := stableHash32 paramBytes
      params := tx.params
      state := .pending }
  return .protocolParamsUpdateProposed tx.proposalId tx.proposer tx.effectiveEpoch

/-! ## Blocks -/

def Transaction.apply (env : Env) : Transaction → Transition TransitionEffect
  | .transfer tx => applyTransfer env tx
  | .stake tx => applyStake env tx
  | .unbond tx => applyUnbond env tx
  | .submitBatch tx => applySubmitBatch env tx
  | .commitEpoch tx => applyCommitEpoch env tx
  | .openChallenge tx => applyOpenChallenge env tx
  | .challengeResponse tx => applyChallengeResponse env tx
  | .claimReward tx => applyClaimReward env tx
  | .vote tx => applyVote env tx
  | .proposeProtocolParamsUpdate tx => applyProposeProtocolParamsUpdate env tx

/-- The calls of the ledger's interface. -/
inductive Call where
  | transaction (tx : Transaction)
  | processMatureUnbonds
  | resolveChallenge (challengeId : Hash32) (resolution : ChallengeResolution)
  | finalizeEpoch (epochId : ℕ)
  | scheduleProtocolParamsUpdate (effectiveEpoch : ℕ) (params : ProtocolParams)

/-- Make a call and drop the effects it reports. -/
def Call.perform (env : Env) : Call → Transition Unit
  | .transaction tx => do let _ ← tx.apply env
  | .processMatureUnbonds => do let _ ← Ledger.processMatureUnbonds env
  | .resolveChallenge challengeId resolution => do
      let _ ← Ledger.resolveChallenge env challengeId resolution
  | .finalizeEpoch epochId => do let _ ← Ledger.finalizeEpoch env epochId
  | .scheduleProtocolParamsUpdate effectiveEpoch params =>
      Ledger.scheduleProtocolParamsUpdate effectiveEpoch params

/-- The first transaction that fails ends the block; the ones before it stay applied. -/
def executeBlock (env : Env) (block : Block) :
    Action ProtocolState BlockExecutionError (List TransitionEffect) := do
  let s ← get
  if block.height ≤ s.height then
    throw (.refused (.heightRegression s.height block.height))
  else
    modify fun s => { s with height := block.height }
    let matured ← (processMatureUnbonds env).mapError .transition
    let effects ← block.transactions.mapM fun tx => (tx.apply env).mapError .transition
    return matured ++ effects

/-! ## A small ledger

An account with a real key pair, the encodings of the transactions it signs, and its signatures of
them. -/

namespace Sample

def littleEndian (width value : ℕ) : Bytes :=
  (List.range width).map fun i => UInt8.ofNat (value / 256 ^ i)

def bigEndian (width value : ℕ) : Bytes := (littleEndian width value).reverse

def aliceKey : Hash32 := 0xd75a980182b10ab7d54bfed3c964073a0ee172f3daa62325af021a68f707511a#256
def alice : Address := stableHash32 aliceKey.bytes
def bob : Address := 2#256
def challengeId : Hash32 := 12#256

/-- Alice sends five coins to Bob for a fee of one. -/
def transfer : TransferTx where
  sender := alice
  recipient := bob
  amount := 5
  fee := 1
  nonce := 0
  pubkey := aliceKey
  signature := bigEndian 64 0x5a9ef8a2e70ad1ee49eb9a30c75510ab7a775cc471a6844196fc320c085e88eead73502bbebc144357c5a41683ca5f350de3cf277ac38e2345d3be1a92bfcb06

/-- Alice challenges a batch of epoch seven, naming no target. -/
def openChallenge : OpenChallengeTx where
  challenge :=
    { challengeId
      kind := .badBatch
      epochId := 7
      targetNode := none
      challenger := alice
      bond := 3
      openedAtHeight := 0
      deadlineHeight := 20
      state := .open
      evidence := {} }
  pubkey := aliceKey
  signature := bigEndian 64 0xe7e2e8567badd88837ab6cf10f53ded45723ed3cf5bd2c31731141ade7ec58042d3f1dbd71b75e22382eff8bde449d02e279766d15b5b56ad7f73efe49319a0c

/-- The records of the two transactions, field by field. -/
def encode : Transaction → Option Bytes
  | .transfer tx => some (tx.sender.bytes ++ tx.recipient.bytes ++ littleEndian 16 tx.amount ++
      littleEndian 16 tx.fee ++ littleEndian 8 tx.nonce ++ tx.pubkey.bytes ++
      littleEndian 4 tx.signature.length ++ tx.signature)
  | .openChallenge tx =>
      if tx.challenge.kind = .badBatch ∧ tx.challenge.targetNode = none ∧
          tx.challenge.state = .open ∧ tx.challenge.evidence = {} then
        some (tx.challenge.challengeId.bytes ++ [0] ++ littleEndian 8 tx.challenge.epochId ++ [0] ++
          tx.challenge.challenger.bytes ++ littleEndian 16 tx.challenge.bond ++
          littleEndian 8 tx.challenge.openedAtHeight ++ littleEndian 8 tx.challenge.deadlineHeight ++
          [0] ++ [0, 0, 0, 0] ++ littleEndian 4 0 ++ tx.pubkey.bytes ++
          littleEndian 4 tx.signature.length ++ tx.signature)
      else none
  | _ => none

/-- Alice's key has signed the two transactions. -/
def verifySignature (pubkey : Hash32) (message signature : Bytes) : Bool :=
  pubkey = aliceKey ∧
    (some message = encode (Transaction.transfer transfer).unsigned ∧
        signature = transfer.signature ∨
      some message = encode (Transaction.openChallenge openChallenge).unsigned ∧
        signature = openChallenge.signature)

def env (overflow : Overflow) : Env where
  verifySignature
  encode
  encodeParams _ := .ok []
  encodeParams_of_encode _ _ _ := ⟨[], rfl⟩
  wide := overflow
  narrow := overflow

def account (address : Address) (balance : ℕ) : AccountState where
  address
  balance
  staked := 0
  locked := 0
  nonce := 0

/-- Alice with ten coins, and epoch seven committed with a window up to height twenty. -/
def challengeable : ProtocolState where
  height := 1
  currentEpoch := 0
  params := defaultProtocolParams
  store :=
    { accounts := (∅ : OrderedMap Address AccountState).insert alice (account alice 10)
      epochCommits := (∅ : OrderedMap ℕ EpochCommit).insert 7
        { epochId := 7
          acceptedBatches := ⟨0, 0⟩
          observations := ⟨0, 0⟩
          aggregates := ⟨0, 0⟩
          rewards := ⟨0, 0⟩
          availability := ⟨0, 0⟩
          randomnessSeed := 0
          proposerId := 5
          challengeOpenHeight := 1
          challengeDeadlineHeight := 20 } }

end Sample

end PoleProtocol.Ledger
