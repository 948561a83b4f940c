import PoleProtocol.Node.EpochPreparation

/-!
# The settlement of an epoch

A node settles an epoch on its local chain: it submits the batches and the commit, stores the
rewards, finalizes the epoch and claims its own reward. What was done before is tolerated. The state
lives in memory until the end, when the two files of the chain are written one after the other.
-/

namespace PoleProtocol.Node

open Framework Ledger OrderedMap

structure EpochSettlementArtifact where
  epochId : ℕ
  submissionHeight : ℕ
  challengeWindowBlocks : ℕ
  challengeDeadlineHeight : ℕ
  finalizationHeight : ℕ
  preparedReadyForSubmission : Bool
  batchCount : ℕ
  payloadCount : ℕ
  batchSubmissionCount : ℕ
  batchAlreadyPresentCount : ℕ
  rewardRecordCount : ℕ
  acceptedBatchesRootHex : String
  observationsRootHex : String
  availabilityRootHex : String
  aggregatesRootHex : String
  rewardsRootHex : String
  randomnessSeedHex : String
  commitApplied : Bool
  commitAlreadyPresent : Bool
  epochFinalized : Bool
  epochAlreadyFinalized : Bool
  localNodeIdHex : String
  localRewardAvailable : ℕ
  localRewardClaimed : Bool
  localRewardAlreadyClaimed : Bool
  localRewardBalance : ℕ
  currentEpochAfter : ℕ

/-! ## Tolerated refusals -/

def isDuplicateBatch : TransitionError → Bool
  | .duplicateBatch _ => true
  | _ => false

def isDuplicateEpochCommit : TransitionError → Bool
  | .duplicateEpochCommit _ => true
  | _ => false

def isEpochAlreadyFinalized : TransitionError → Bool
  | .epochAlreadyFinalized _ => true
  | _ => false

def isRewardAlreadyClaimed : TransitionError → Bool
  | .rewardAlreadyClaimed _ => true
  | _ => false

/-! ## The steps of a settlement -/

def signingPayload (env : Ledger.Env) (tx : Transaction) : Attempt TransitionError Bytes :=
  require (env.encode tx.unsigned) .panic

section Steps

variable (env : Ledger.Env) (identity : KeyPair)

/-- Submit a batch. The result says whether it is new. -/
def submitLocalBatch (batchCommit : BatchCommit) : Transition Bool := do
  let tx : SubmitBatchTx := { batchCommit, pubkey := identity.publicKey, signature := [] }
  let payload ← signingPayload env (.submitBatch tx)
  (applySubmitBatch env { tx with signature := identity.sign payload }).tolerate isDuplicateBatch

/-- Commit the epoch. The result says whether the commit is new. -/
def applyEpochCommit (epochCommit : EpochCommit) : Transition Bool := do
  let tx : CommitEpochTx := { epochCommit, pubkey := identity.publicKey, signature := [] }
  let payload ← signingPayload env (.commitEpoch tx)
  (applyCommitEpoch env { tx with signature := identity.sign payload }).tolerate
    isDuplicateEpochCommit

def upsertRewardRecord (s : ProtocolState) (reward : RewardRecord) : ProtocolState :=
  { s with store := { s.store with
    rewardRecords := s.store.rewardRecords.insert (reward.epochId, reward.nodeId) reward } }

variable (config : NodeConfig)

/-- Claim a reward of the node. The result says whether it is claimed only now. -/
def claimLocalReward (epochId amount : ℕ) : Transition Bool := do
  let s ← get
  let tx : ClaimRewardTx :=
    { claimer := config.identityAddress
      epochId
      nodeId := config.env.nodeId
      amount
      merkleProof := []
      nonce := (s.store.accounts[config.identityAddress]?.map (·.nonce)).getD 0
      pubkey := identity.publicKey
      signature := [] }
  let payload ← signingPayload env (.claimReward tx)
  (applyClaimReward env { tx with signature := identity.sign payload }).tolerate
    isRewardAlreadyClaimed

/-- The reward of the node itself, nothing when it has none. -/
def localRewardAvailable (rewards : EpochRewardArtifact) : ℕ :=
  ((rewards.records.find? (·.reward.nodeId = config.env.nodeId)).map (·.reward.netReward)).getD 0

def finalizationHeight (challengeDeadlineHeight : ℕ) : ℕ := saturatingAdd64 challengeDeadlineHeight 1

/-- Claim a reward of the node if there is one. -/
def claimAvailableReward (epochId available : ℕ) : Transition (Option Bool) :=
  if 0 < available then do
    let claimed ← claimLocalReward env identity config epochId available
    return some claimed
  else return none

structure SettlementOutcome where
  /-- For each batch, whether it is new. -/
  submissions : List Bool
  commitApplied : Bool
  epochFinalized : Bool
  /-- Whether the reward is claimed only now, when there is one. -/
  rewardClaimed : Option Bool

/-- What a settlement does to the state. -/
def performSettlement (batchCommits : List BatchCommit) (preparation : EpochPreparationComputation)
    (epochId : ℕ) : Transition SettlementOutcome := do
  let submissions ← batchCommits.mapM (submitLocalBatch env identity)
  let commitApplied ← applyEpochCommit env identity preparation.epochCommit
  modify fun s => preparation.rewardArtifact.rewards.foldl upsertRewardRecord s
  modify fun s => { s with
    height := max s.height (finalizationHeight preparation.artifact.challengeDeadlineHeight) }
  let epochFinalized ← (finalizeEpoch env epochId).tolerate isEpochAlreadyFinalized
  let rewardClaimed ← claimAvailableReward env identity config epochId
    (localRewardAvailable config preparation.rewardArtifact)
  return { submissions, commitApplied, epochFinalized, rewardClaimed }

end Steps

/-! ## The settlement -/

/-- What a settlement that goes through has prepared, and what it writes. -/
structure Settlement where
  preparation : EpochPreparationComputation
  runtime : LocalChainRuntimeState
  store : InMemoryStore
  artifact : EpochSettlementArtifact

def inPreparation {α : Type} :
    Attempt NodePreparationError α → Attempt NodeSettlementError α
  | .ok a => .ok a
  | .error (.refused e) => .error (.refused (.preparation e))
  | .error .panic => .error .panic

/-- Make the transitions on a state in memory. -/
def runTransitions {α : Type} (x : Transition α) (s : ProtocolState) :
    Attempt NodeSettlementError (α × ProtocolState) :=
  match x.run s with
  | .ok a s' => .ok (a, s')
  | .error (.refused e) _ => .error (.refused (.transition e))
  | .error .panic _ => .error .panic

section Settle

variable (senv : SettlementEnv) (config : NodeConfig) (data : LocalData)

def settleLocalEpoch (files : LocalChainFiles)
    (epochId submissionHeight challengeWindowBlocks : ℕ) :
    Attempt NodeSettlementError Settlement := do
  let identity ← require config.env.identityKeypair (.refused .missingIdentity)
  let preparation ← inPreparation (computeLocalEpochPreparation senv config files.openStore data
    epochId submissionHeight challengeWindowBlocks)
  let state ← beginSettlement config files identity epochId submissionHeight challengeWindowBlocks
  let batchCommits := (data.loadBatchesForEpoch epochId).map (·.batchCommit)
  let (outcome, settled) ← runTransitions
    (performSettlement senv.ledger identity config batchCommits preparation epochId) state
  let commitArtifact := preparation.epochCommitArtifact
  return {
    preparation
    runtime := { height := settled.height, currentEpoch := settled.currentEpoch }
    store := settled.store
    artifact :=
      { epochId
        submissionHeight
        challengeWindowBlocks
        challengeDeadlineHeight := preparation.artifact.challengeDeadlineHeight
        finalizationHeight := finalizationHeight preparation.artifact.challengeDeadlineHeight
        preparedReadyForSubmission := preparation.artifact.readyForSubmission
        batchCount := commitArtifact.batchCount
        payloadCount := commitArtifact.payloadCount
        batchSubmissionCount := outcome.submissions.count true
        batchAlreadyPresentCount := outcome.submissions.count false
        rewardRecordCount := preparation.rewardArtifact.rewardCount
        acceptedBatchesRootHex := commitArtifact.acceptedBatchesRootHex
        observationsRootHex := commitArtifact.observationsRootHex
        availabilityRootHex := commitArtifact.availabilityRootHex
        aggregatesRootHex := commitArtifact.aggregatesRootHex
        rewardsRootHex := commitArtifact.rewardsRootHex
        randomnessSeedHex := commitArtifact.randomnessSeedHex
        commitApplied := outcome.commitApplied
        commitAlreadyPresent := !outcome.commitApplied
        epochFinalized := outcome.epochFinalized
        epochAlreadyFinalized := !outcome.epochFinalized
        localNodeIdHex := hex32 config.env.nodeId
        localRewardAvailable := localRewardAvailable config preparation.rewardArtifact
        localRewardClaimed := outcome.rewardClaimed = some true
        localRewardAlreadyClaimed := outcome.rewardClaimed = some false
        localRewardBalance :=
          (settled.store.accounts[config.identityAddress]?.map (·.balance)).getD 0
        currentEpochAfter := settled.currentEpoch } }

end Settle

/-! ## The files -/

/-- The writes of a settlement. The artifacts of governance are read from the store. -/
inductive SettlementWrite where
  | preparationArtifact (artifact : EpochPreparationArtifact)
  | runtime (runtime : LocalChainRuntimeState)
  | store (store : InMemoryStore)
  | governanceArtifacts (store : InMemoryStore) (currentEpoch : ℕ)
  | settlementArtifact (artifact : EpochSettlementArtifact)

/-- The runtime file is saved before the store is. -/
def Settlement.writes (settlement : Settlement) : List SettlementWrite :=
  [.preparationArtifact settlement.preparation.artifact, .runtime settlement.runtime,
    .store settlement.store, .governanceArtifacts settlement.store settlement.runtime.currentEpoch,
    .settlementArtifact settlement.artifact]

namespace LocalChainFiles

/-- Only the two files of the chain are ever read again. -/
def write (files : LocalChainFiles) : SettlementWrite → LocalChainFiles
  | .runtime runtime => { files with runtime := some runtime }
  | .store store => { files with store := some store }
  | .preparationArtifact _ | .governanceArtifacts _ _ | .settlementArtifact _ => files

/-- The files after some of the writes of a settlement. -/
def afterWrites (files : LocalChainFiles) (settlement : Settlement) (completed : ℕ) :
    LocalChainFiles :=
  (settlement.writes.take completed).foldl write files

/-- The height that the files say, to a settlement at the given height. -/
def storedHeight (files : LocalChainFiles) (submissionHeight : ℕ) : ℕ :=
  (files.runtime.map (·.height)).getD (submissionHeight - 1)

end LocalChainFiles

end PoleProtocol.Node
