import PoleProtocol.Framework.Listings
import PoleProtocol.Chain.MsgServer

/-!
# Genesis

The state a chain starts from, as a document: what a running chain writes into it, what is checked
of it, and what a new chain reads from it.
-/

namespace PoleProtocol.Chain

open Framework

/-- The genesis document. An entry of a list may be missing. -/
structure GenesisState where
  params : Option Params := none
  nodes : List (Option NodeRecord) := []
  batchCommits : List (Option BatchCommit) := []
  epochCommits : List (Option EpochCommit) := []
  rewardRecords : List (Option RewardRecord) := []
  aggregateRecords : List (Option AggregateRecord) := []
  challenges : List (Option Challenge) := []
  availability : List (Option AvailabilityRecord) := []
  gameWeightEntries : List (Option GameWeightEntry) := []
  claimedRewards : List (Option ClaimedReward) := []
  replicaReceipts : List (Option ReplicaReceipt) := []
  playSessions : List (Option PlaySession) := []
  playHeartbeats : List (Option PlayHeartbeat) := []
  witnessAttestations : List (Option WitnessAttestation) := []
  sessionSettlements : List (Option SessionSettlement) := []

def defaultGenesisState : GenesisState where
  params := some defaultParams

/-! ## Validation

Epoch commits, challenges, game weights and nodes are told apart by one field, the other lists by a
text put together from several. -/

def claimText (claim : ClaimedReward) : String := s!"{claim.epochId}/{claim.recipient}"

def receiptText (receipt : ReplicaReceipt) : String :=
  s!"{receipt.epochId}/{receipt.storerAddress}/{receipt.payloadCid}"

def aggregateText (record : AggregateRecord) : String := s!"{record.epochId}/{record.appId}"

/-- An entry that needs no further check. -/
def noCheck {α : Type} (_ : α) : Except ChainError Unit := .ok ()

def checkChallengeId (challenge : Challenge) : Except ChainError Unit :=
  ensure (challenge.challengeIdHex ≠ "") (.plain "challenge id must not be empty")

def checkWindow (commit : EpochCommit) : Except ChainError Unit :=
  ensure (commit.challengeOpenHeight < commit.challengeDeadlineHeight)
    (.plain s!"epoch {commit.epochId} has invalid challenge window")

def checkWeight (entry : GameWeightEntry) : Except ChainError Unit :=
  ensure (entry.gameWeightPpm ≠ 0)
    (.plain s!"game weight for app {entry.appId} must be greater than 0")

def checkReceipt (receipt : ReplicaReceipt) : Except ChainError Unit := do
  ensure (receipt.payloadCid ≠ "") (.plain "replica receipt payload_cid must not be empty")
  ensure (receipt.storerAddress ≠ "") (.plain "replica receipt storer_address must not be empty")

def checkOperator (node : NodeRecord) : Except ChainError Unit :=
  ensure (node.operatorAddress ≠ "") (.plain "node operator_address must not be empty")

/-- The checks run before a document is read. Sessions, heartbeats, attestations, settlements,
batches, rewards and availability records are not looked at. -/
def GenesisState.validate (g : GenesisState) : Except ChainError Unit := do
  let params ← require g.params (.plain "genesis params must not be nil")
  params.validate
  checkDistinct (.plain "epoch commit entry must not be nil") noCheck EpochCommit.epochId
    (fun commit => .plain s!"duplicate epoch commit for epoch {commit.epochId}") checkWindow []
    g.epochCommits
  checkDistinct (.plain "challenge entry must not be nil") checkChallengeId Challenge.challengeIdHex
    (fun challenge => .plain s!"duplicate challenge {challenge.challengeIdHex}") noCheck []
    g.challenges
  checkDistinct (.plain "game weight entry must not be nil") checkWeight GameWeightEntry.appId
    (fun entry => .plain s!"duplicate game weight entry for app {entry.appId}") noCheck []
    g.gameWeightEntries
  checkDistinct (.plain "claimed reward entry must not be nil") noCheck claimText
    (fun claim => .plain s!"duplicate claimed reward entry for {claimText claim}") noCheck []
    g.claimedRewards
  checkDistinct (.plain "replica receipt entry must not be nil") checkReceipt receiptText
    (fun receipt => .plain s!"duplicate replica receipt entry for {receiptText receipt}") noCheck []
    g.replicaReceipts
  checkDistinct (.plain "aggregate record entry must not be nil") noCheck aggregateText
    (fun record => .plain s!"duplicate aggregate record entry for {aggregateText record}") noCheck []
    g.aggregateRecords
  checkDistinct (.plain "node record entry must not be nil") checkOperator NodeRecord.operatorAddress
    (fun node => .plain s!"duplicate node record for {node.operatorAddress}") noCheck [] g.nodes

/-! ## Import and export -/

namespace KeeperState

/-- A store nothing was written to. -/
def emptyStore (bank : Bank) : KeeperState where
  params := none
  nodes := ∅
  batchCommits := ∅
  epochCommits := ∅
  rewardRecords := ∅
  aggregateRecords := ∅
  challenges := ∅
  availability := ∅
  gameWeightEntries := ∅
  claimedRewards := ∅
  replicaReceipts := ∅
  verificationRecords := ∅
  annualEmission := none
  playSessions := ∅
  playHeartbeats := ∅
  witnessAttestations := ∅
  sessionSettlements := ∅
  totalActivityBurned := none
  bank := bank

/-- The emission state starts over at the time of the block. -/
def initAnnualEmission (blockTime : ℤ) (s : KeeperState) : KeeperState :=
  { s with annualEmission := some (defaultAnnualEmissionState blockTime) }

/-- Read a genesis document into a store; without one, the default document. -/
def initGenesis (blockTime : ℤ) (s : KeeperState) (genesis : Option GenesisState) :
    Except ChainError KeeperState := do
  let genesis := genesis.getD defaultGenesisState
  genesis.validate
  let s ← s.setParams (genesis.params.getD defaultParams)
  let s := s.initAnnualEmission blockTime
  let s := genesis.nodes.reduceOption.foldl setNode s
  let s := genesis.batchCommits.reduceOption.foldl setBatchCommit s
  let s := genesis.epochCommits.reduceOption.foldl setEpochCommit s
  let s := genesis.rewardRecords.reduceOption.foldl setRewardRecord s
  let s := genesis.aggregateRecords.reduceOption.foldl setAggregateRecord s
  let s := genesis.challenges.reduceOption.foldl setChallenge s
  let s := genesis.availability.reduceOption.foldl setAvailabilityRecord s
  let s := genesis.gameWeightEntries.reduceOption.foldl setGameWeightEntry s
  let s := genesis.claimedRewards.reduceOption.foldl setClaimedReward s
  let s := genesis.replicaReceipts.reduceOption.foldl setReplicaReceipt s
  let s := genesis.playSessions.reduceOption.foldl setPlaySession s
  let s := genesis.playHeartbeats.reduceOption.foldl setPlayHeartbeat s
  let s := genesis.witnessAttestations.reduceOption.foldl setWitnessAttestation s
  return genesis.sessionSettlements.reduceOption.foldl setSessionSettlement s

/-- The document a chain leaves: its parameters and what fourteen of its collections hold. -/
def exportGenesis (s : KeeperState) : GenesisState where
  params := some s.getParams
  nodes := s.nodes.records.map some
  batchCommits := s.batchCommits.records.map some
  epochCommits := s.epochCommits.records.map some
  rewardRecords := s.rewardRecords.records.map some
  aggregateRecords := s.aggregateRecords.records.map some
  challenges := s.challenges.records.map some
  availability := s.availability.records.map some
  gameWeightEntries := s.gameWeightEntries.records.map some
  claimedRewards := s.claimedRewards.records.map some
  replicaReceipts := s.replicaReceipts.records.map some
  playSessions := s.playSessions.records.map some
  playHeartbeats := s.playHeartbeats.records.map some
  witnessAttestations := s.witnessAttestations.records.map some
  sessionSettlements := s.sessionSettlements.records.map some

/-- Default genesis is what reading no document gives. -/
theorem initGenesis_default (bank : Bank) (genesisUnix : ℤ) :
    (emptyStore bank).initGenesis genesisUnix none = .ok (defaultGenesis bank genesisUnix) := by
  have hvalid : defaultGenesisState.validate = .ok () := by decide
  have hparams : defaultParams.validate = .ok () := by decide
  rw [initGenesis, Option.getD_none, hvalid]
  simp only [ok_bind, setParams, hparams, defaultGenesisState, Option.getD_some]
  rfl

/-! ## Reading back -/

/-- A store after the listings were read into it, one collection at a time. -/
theorem initGenesis_export (blockTime : ℤ) (bank : Bank) {s : KeeperState}
    (hvalid : s.exportGenesis.validate = .ok ()) (hparams : s.getParams.validate = .ok ()) :
    (emptyStore bank).initGenesis blockTime (some s.exportGenesis) = .ok
      { emptyStore bank with
        params := some s.getParams
        annualEmission := some (defaultAnnualEmissionState blockTime)
        nodes := storeAll (·.operatorAddress) ∅ s.nodes.records
        batchCommits := storeAll batchCommitKey ∅ s.batchCommits.records
        epochCommits := storeAll (·.epochId) ∅ s.epochCommits.records
        rewardRecords := storeAll (fun r => (r.epochId, r.recipient)) ∅ s.rewardRecords.records
        aggregateRecords := storeAll (fun r => (r.epochId, r.appId)) ∅ s.aggregateRecords.records
        challenges := storeAll (·.challengeIdHex) ∅ s.challenges.records
        availability := storeAll (fun r => (r.epochId, r.operatorAddress, r.payloadCid)) ∅
          s.availability.records
        gameWeightEntries := storeAll (fun e => (e.appId, e.effectiveFromEpochId)) ∅
          s.gameWeightEntries.records
        claimedRewards := storeAll (fun c => (c.epochId, c.recipient)) ∅ s.claimedRewards.records
        replicaReceipts := storeAll (fun r => (r.epochId, r.storerAddress, r.payloadCid)) ∅
          s.replicaReceipts.records
        playSessions := storeAll (·.sessionIdHex) ∅ s.playSessions.records
        playHeartbeats := storeAll (fun h => (h.sessionIdHex, h.bucketIndex)) ∅
          s.playHeartbeats.records
        witnessAttestations := storeAll (fun a => (a.sessionIdHex, a.witnessAddress)) ∅
          s.witnessAttestations.records
        sessionSettlements := storeAll (·.sessionIdHex) ∅ s.sessionSettlements.records } := by
  have hread : ∀ {α : Type} (xs : List α), (xs.map some).reduceOption = xs := by
    intro α xs
    rw [List.reduceOption, List.filterMap_map]
    exact List.filterMap_some
  have hset : (emptyStore bank).setParams s.getParams =
      .ok { emptyStore bank with params := some s.getParams } := by
    rw [setParams, hparams]
    rfl
  rw [initGenesis, Option.getD_some, hvalid]
  simp only [ok_bind, exportGenesis, hread, Option.getD_some, hset]
  refine congrArg Except.ok ?_
  rw [
    foldl_store setNode (·.nodes) (fun s m => { s with nodes := m }) NodeRecord.operatorAddress
      (fun _ _ => rfl) (fun _ _ => rfl) (fun _ _ _ => rfl) (fun _ => rfl),
    foldl_store setBatchCommit (·.batchCommits) (fun s m => { s with batchCommits := m }) batchCommitKey
      (fun _ _ => rfl) (fun _ _ => rfl) (fun _ _ _ => rfl) (fun _ => rfl),
    foldl_store setEpochCommit (·.epochCommits) (fun s m => { s with epochCommits := m }) EpochCommit.epochId
      (fun _ _ => rfl) (fun _ _ => rfl) (fun _ _ _ => rfl) (fun _ => rfl),
    foldl_store setRewardRecord (·.rewardRecords) (fun s m => { s with rewardRecords := m }) (fun r => (r.epochId, r.recipient))
      (fun _ _ => rfl) (fun _ _ => rfl) (fun _ _ _ => rfl) (fun _ => rfl),
    foldl_store setAggregateRecord (·.aggregateRecords) (fun s m => { s with aggregateRecords := m }) (fun r => (r.epochId, r.appId))
      (fun _ _ => rfl) (fun _ _ => rfl) (fun _ _ _ => rfl) (fun _ => rfl),
    foldl_store setChallenge (·.challenges) (fun s m => { s with challenges := m }) Challenge.challengeIdHex
      (fun _ _ => rfl) (fun _ _ => rfl) (fun _ _ _ => rfl) (fun _ => rfl),
    foldl_store setAvailabilityRecord (·.availability) (fun s m => { s with availability := m }) (fun r => (r.epochId, r.operatorAddress, r.payloadCid))
      (fun _ _ => rfl) (fun _ _ => rfl) (fun _ _ _ => rfl) (fun _ => rfl),
    foldl_store setGameWeightEntry (·.gameWeightEntries) (fun s m => { s with gameWeightEntries := m }) (fun e => (e.appId, e.effectiveFromEpochId))
      (fun _ _ => rfl) (fun _ _ => rfl) (fun _ _ _ => rfl) (fun _ => rfl),
    foldl_store setClaimedReward (·.claimedRewards) (fun s m => { s with claimedRewards := m }) (fun c => (c.epochId, c.recipient))
      (fun _ _ => rfl) (fun _ _ => rfl) (fun _ _ _ => rfl) (fun _ => rfl),
    foldl_store setReplicaReceipt (·.replicaReceipts) (fun s m => { s with replicaReceipts := m }) (fun r => (r.epochId, r.storerAddress, r.payloadCid))
      (fun _ _ => rfl) (fun _ _ => rfl) (fun _ _ _ => rfl) (fun _ => rfl),
    foldl_store setPlaySession (·.playSessions) (fun s m => { s with playSessions := m }) PlaySession.sessionIdHex
      (fun _ _ => rfl) (fun _ _ => rfl) (fun _ _ _ => rfl) (fun _ => rfl),
    foldl_store setPlayHeartbeat (·.playHeartbeats) (fun s m => { s with playHeartbeats := m }) (fun h => (h.sessionIdHex, h.bucketIndex))
      (fun _ _ => rfl) (fun _ _ => rfl) (fun _ _ _ => rfl) (fun _ => rfl),
    foldl_store setWitnessAttestation (·.witnessAttestations) (fun s m => { s with witnessAttestations := m }) (fun a => (a.sessionIdHex, a.witnessAddress))
      (fun _ _ => rfl) (fun _ _ => rfl) (fun _ _ _ => rfl) (fun _ => rfl),
    foldl_store setSessionSettlement (·.sessionSettlements) (fun s m => { s with sessionSettlements := m }) SessionSettlement.sessionIdHex
      (fun _ _ => rfl) (fun _ _ => rfl) (fun _ _ _ => rfl) (fun _ => rfl)]
  rfl

end KeeperState

end PoleProtocol.Chain
