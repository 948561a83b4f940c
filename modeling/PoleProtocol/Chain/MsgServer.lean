import PoleProtocol.Framework.Run
import PoleProtocol.Chain.Challenges
import PoleProtocol.Chain.Emission
import PoleProtocol.Chain.Session

/-!
# The message server

One handler per message, the dispatcher over them, and the machine the chain runs: a delivered
message or a begin-block step, whose writes are discarded when it fails.
-/

namespace PoleProtocol.Chain

open Framework

/-- A malformed address is reported as an invalid address with the codec's text. -/
def addressOk {α : Type} (x : Except String α) : Except ChainError α :=
  match x with
  | .ok a => .ok a
  | .error text => .error (.wrapped .invalidAddress text)

theorem addressOk_eq_ok {α : Type} {x : Except String α} {a : α} :
    addressOk x = .ok a ↔ x = .ok a := by
  cases x <;> simp [addressOk]

/-! ## Nodes, aggregates, batches and receipts -/

structure MsgUpsertNode where
  operator : String := ""
  node : Option NodeRecord := none
  deriving DecidableEq

/-- The stake behind a consensus address, zero without one or without a staking keeper. -/
def validatorBond (env : Env) (ctx : Ctx) (consensusAddress : String) : Except ChainError ℕ :=
  if consensusAddress = "" then .ok 0
  else do
    let consAddr ← addressOk (env.consAddressFromBech32 consensusAddress)
    match ctx.staking with
    | none => return 0
    | some staking => do
        let tokens ← foreign (staking.validatorTokens consAddr)
        ensure (tokens < 2 ^ 64)
          (.wrapped .invalidRequest "validator tokens exceed uint64 range")
        return tokens

namespace KeeperState

def upsertNode (env : Env) (ctx : Ctx) (s : KeeperState) (msg : MsgUpsertNode) :
    Except ChainError KeeperState := do
  let supplied ← require msg.node (.wrapped .invalidRequest "node is required")
  ensure (msg.operator ≠ "" ∧ supplied.operatorAddress ≠ "")
    (.wrapped .invalidAddress "operator address is required")
  ensure (msg.operator = supplied.operatorAddress)
    (.wrapped .unauthorized "operator must match node.operator_address")
  let capabilities := supplied.capabilities.getD {}
  let _ ← addressOk (env.accAddressFromBech32 supplied.operatorAddress)
  let rewardAddress :=
    if supplied.rewardAddress = "" then supplied.operatorAddress else supplied.rewardAddress
  let _ ← addressOk (env.accAddressFromBech32 rewardAddress)
  ensure (¬ (supplied.role = .player ∧
    (capabilities.store ∨ capabilities.verify ∨ capabilities.propose)))
    (.wrapped .unauthorized "player role cannot enable service/coordinator capabilities")
  ensure (¬ (supplied.role = .service ∧ capabilities.propose))
    (.wrapped .unauthorized "service role cannot enable propose capability")
  ensure (¬ (supplied.role ≠ .coordinator ∧ capabilities.propose))
    (.wrapped .unauthorized "only coordinator role can propose")
  let node := { supplied with capabilities := some capabilities, rewardAddress }
  let requiredBond := requiredBondedTokensForNode node
  let bondedTokens ← validatorBond env ctx node.consensusAddress
  ensure (requiredBond = 0 ∨ node.consensusAddress ≠ "")
    (.wrapped .unauthorized "service/coordinator nodes must provide consensus_address")
  ensure (requiredBond ≤ bondedTokens)
    (.wrapped .unauthorized "node bonded_tokens below required threshold")
  return s.setNode { node with bondedTokens }

end KeeperState

structure MsgUpsertAggregateRecord where
  operator : String := ""
  aggregateRecord : Option AggregateRecord := none
  deriving DecidableEq

structure MsgSubmitBatch where
  collector : String := ""
  batchCommit : Option BatchCommit := none
  deriving DecidableEq

structure MsgSubmitReplicaReceipt where
  storer : String := ""
  replicaReceipt : Option ReplicaReceipt := none
  deriving DecidableEq

namespace KeeperState

def upsertAggregateRecord (env : Env) (s : KeeperState) (msg : MsgUpsertAggregateRecord) :
    Except ChainError KeeperState := do
  let record ← require msg.aggregateRecord
    (.wrapped .invalidRequest "aggregate_record is required")
  ensure (msg.operator ≠ "") (.wrapped .invalidAddress "operator address is required")
  let _ ← addressOk (env.accAddressFromBech32 msg.operator)
  let _ ← s.requireNodeCapability msg.operator .verify
  return (s.setAggregateRecord record).refreshAggregatesCommitment env record.epochId

def submitBatch (ctx : Ctx) (s : KeeperState) (msg : MsgSubmitBatch) :
    Except ChainError KeeperState := do
  let batch ← require msg.batchCommit (.wrapped .invalidRequest "batch_commit is required")
  ensure (msg.collector ≠ "" ∧ batch.collectorAddress ≠ "")
    (.wrapped .invalidAddress "collector address is required")
  ensure (msg.collector = batch.collectorAddress)
    (.wrapped .unauthorized "collector must match batch commit collector_address")
  ensure (batch.payloadCid ≠ "") (.wrapped .invalidRequest "payload_cid is required")
  ensure (batch.observationCount ≠ 0)
    (.wrapped .invalidRequest "observation_count must be greater than 0")
  ensure (batch.slotStart ≤ batch.slotEnd)
    (.wrapped .invalidRequest "slot_start must be <= slot_end")
  let _ ← s.requireNodeCapability msg.collector .collect
  return s.setBatchCommit { batch with submittedAtHeight := ctx.height }

def submitReplicaReceipt (s : KeeperState) (msg : MsgSubmitReplicaReceipt) :
    Except ChainError KeeperState := do
  let receipt ← require msg.replicaReceipt
    (.wrapped .invalidRequest "replica_receipt is required")
  ensure (msg.storer ≠ "" ∧ receipt.storerAddress ≠ "")
    (.wrapped .invalidAddress "storer address is required")
  ensure (msg.storer = receipt.storerAddress)
    (.wrapped .unauthorized "storer must match replica receipt storer_address")
  ensure (receipt.payloadCid ≠ "") (.wrapped .invalidRequest "payload_cid is required")
  let _ ← s.requireNodeCapability msg.storer .store
  return (s.setReplicaReceipt receipt).setAvailabilityRecord
    { epochId := receipt.epochId
      operatorAddress := receipt.storerAddress
      payloadCid := receipt.payloadCid
      retentionUntilEpoch := receipt.retentionUntilEpoch
      receiptHashHex := receipt.receiptHashHex }

end KeeperState

/-! ## Epochs -/

structure MsgCommitEpoch where
  proposer : String := ""
  epochCommit : Option EpochCommit := none
  deriving DecidableEq

structure MsgFinalizeEpoch where
  finalizer : String := ""
  epochId : ℕ := 0
  deriving DecidableEq

structure MsgVerifyBatch where
  verifier : String := ""
  epochId : ℕ := 0
  targetBatchRootHex : String := ""
  targetCollector : String := ""
  isPlayer : Bool := false
  verified : Bool := false
  signatureHex : String := ""
  deriving DecidableEq

/-- The commit a proposal stores: the supplied one, with its window opened at the current height
when it names none. Every other field is the caller's, the finalized bit included. -/
def EpochCommit.proposed (commit : EpochCommit) (ctx : Ctx) : EpochCommit :=
  if commit.challengeOpenHeight = 0 then { commit with challengeOpenHeight := ctx.height }
  else commit

namespace KeeperState

def commitEpoch (ctx : Ctx) (s : KeeperState) (msg : MsgCommitEpoch) :
    Except ChainError KeeperState := do
  let supplied ← require msg.epochCommit (.wrapped .invalidRequest "epoch_commit is required")
  ensure (msg.proposer ≠ "" ∧ supplied.proposerAddress ≠ "")
    (.wrapped .invalidAddress "proposer address is required")
  ensure (msg.proposer = supplied.proposerAddress)
    (.wrapped .unauthorized "proposer must match epoch commit proposer_address")
  let commit := supplied.proposed ctx
  ensure (commit.challengeOpenHeight < commit.challengeDeadlineHeight)
    (.wrapped .invalidRequest "challenge deadline must be after challenge open height")
  let _ ← s.requireNodeCapability msg.proposer .propose
  return s.setEpochCommit commit

def finalizeEpochMsg (env : Env) (ctx : Ctx) (s : KeeperState) (msg : MsgFinalizeEpoch) :
    Except ChainError KeeperState := do
  ensure (msg.finalizer ≠ "") (.wrapped .invalidAddress "finalizer address is required")
  let _ ← addressOk (env.accAddressFromBech32 msg.finalizer)
  s.finalizeEpoch env ctx msg.epochId

/-- The player flag of the message is ignored: a verifier is a player when it submitted a batch
in the previous epoch. -/
def verifyBatch (ctx : Ctx) (s : KeeperState) (msg : MsgVerifyBatch) :
    Except ChainError KeeperState := do
  ensure (msg.verifier ≠ "") (.wrapped .invalidAddress "verifier address is required")
  ensure (msg.targetBatchRootHex ≠ "")
    (.wrapped .invalidRequest "target_batch_root_hex is required")
  ensure (msg.targetCollector ≠ "") (.wrapped .invalidRequest "target_collector is required")
  ensure (msg.verifier ≠ msg.targetCollector)
    (.wrapped .unauthorized "verifier cannot attest its own batch")
  let node ← s.getNode msg.verifier
  ensure (node.active = true) (.wrapped .unauthorized "node is not active")
  ensure (node.allows .verify = true) (.wrapped .unauthorized "node missing verify capability")
  let isPlayer := s.isPlayerCollector msg.verifier (msg.epochId - 1)
  ensure (isPlayer = true ∨ minVerifyBondedTokens ≤ node.bondedTokens)
    (.wrapped .unauthorized s!"non-player verifier {msg.verifier} must post the verify bond ({minVerifyBondedTokens} upole) to verify")
  return s.setVerificationRecord
    { epochId := msg.epochId
      verifierAddress := msg.verifier
      targetBatchRootHex := msg.targetBatchRootHex
      targetCollector := msg.targetCollector
      isPlayer
      verified := msg.verified
      verifiedAtHeight := ctx.height
      signatureHex := msg.signatureHex }

end KeeperState

/-! ## Rewards -/

structure MsgClaimReward where
  claimer : String := ""
  epochId : ℕ := 0
  recipient : String := ""
  deriving DecidableEq

structure MsgSubmitRewardRecords where
  proposer : String := ""
  epochId : ℕ := 0
  records : List (Option RewardRecord) := []
  deriving DecidableEq

structure MsgActivityBurn where
  sender : String := ""
  amount : ℕ := 0
  activityId : String := ""
  burnType : String := ""
  memo : String := ""
  deriving DecidableEq

/-- A submitted record is present, of the message's epoch, and names a recipient. -/
def checkRewardRecord (epochId : ℕ) (record : Option RewardRecord) :
    Except ChainError RewardRecord := do
  let record ← require record (.wrapped .invalidRequest "reward record must not be nil")
  ensure (record.epochId = epochId)
    (.wrapped .invalidRequest s!"reward record epoch {record.epochId} does not match message epoch {epochId}")
  ensure (record.recipient ≠ "")
    (.wrapped .invalidAddress "reward record recipient is required")
  return record

/-- The verify reward of a record is its witness share, and none without credits. -/
def checkVerifyReward (epochId : ℕ) (credits allocation : OrderedMap String ℕ)
    (record : RewardRecord) : Except ChainError Unit :=
  if credits[record.recipient]?.getD 0 = 0 then
    ensure (record.verifyReward = 0)
      (.wrapped .invalidRequest s!"reward record {record.recipient} has verify reward {record.verifyReward} but corroborated no settled session in epoch {epochId}")
  else
    let want := allocation[record.recipient]?.getD 0
    ensure (record.verifyReward = want)
      (.wrapped .invalidRequest s!"reward record {record.recipient} verify reward {record.verifyReward} does not match the attestation-proportional split {want} in epoch {epochId}")

namespace KeeperState

def claimReward (env : Env) (ctx : Ctx) (s : KeeperState) (msg : MsgClaimReward) :
    Except ChainError KeeperState := do
  ensure (msg.claimer ≠ "" ∧ msg.recipient ≠ "")
    (.wrapped .invalidAddress "claimer and recipient are required")
  ensure (msg.claimer = msg.recipient)
    (.wrapped .unauthorized "claimer must match recipient")
  ensure (s.claimedRewards[(msg.epochId, msg.recipient)]? = none)
    (.wrapped .invalidRequest "reward already claimed")
  let commit ← s.getEpochCommit msg.epochId
  ensure (commit.finalized = true) (.wrapped .invalidRequest "epoch is not finalized")
  let record ← s.getRewardRecord msg.epochId msg.recipient
  ensure (record.netReward ≠ 0) (.wrapped .invalidRequest "reward amount is zero")
  let claim : ClaimedReward :=
    { epochId := msg.epochId
      recipient := msg.recipient
      claimedAtHeight := ctx.height
      amount := record.netReward }
  let s ← s.payoutClaimedReward env claim
  return s.setClaimedReward claim

/-- Every credited witness appears among the records, and the verify rewards of the credited ones
are the proportional split of their own total. The first missing witness in address order is
named; the source reports an arbitrary one. -/
def validateWitnessRewardSplit (s : KeeperState) (epochId : ℕ) (records : List RewardRecord) :
    Except ChainError Unit :=
  let credits := s.witnessCreditsForEpoch epochId
  if credits.toList = [] then .ok ()
  else
    let credited := records.filter fun record => 0 < credits[record.recipient]?.getD 0
    let creditedPool := wrap64 (credited.map (·.verifyReward)).sum
    let isPresent := fun witness => records.any fun record => record.recipient = witness
    match credits.toList.find? fun entry => ¬ isPresent entry.1 with
    | some (witness, _) =>
        .error (.wrapped .invalidRequest s!"epoch {epochId} reward records are missing witness {witness}, which corroborated settled sessions")
    | none =>
        records.forM (checkVerifyReward epochId credits (allocateWitnessRewards credits creditedPool))

def submitRewardRecords (env : Env) (s : KeeperState) (msg : MsgSubmitRewardRecords) :
    Except ChainError KeeperState := do
  ensure (msg.proposer ≠ "") (.wrapped .invalidAddress "proposer address is required")
  ensure (msg.records ≠ []) (.wrapped .invalidRequest "records must not be empty")
  let _ ← s.requireNodeCapability msg.proposer .propose
  let commit ← s.getEpochCommit msg.epochId
  ensure (commit.finalized = false) (.wrapped .invalidRequest "epoch is already finalized")
  let records ← msg.records.mapM (checkRewardRecord msg.epochId)
  let derived := merkleRootHexForRecords env.sha256 records
  let committed := commit.rewards.getD derived
  ensure (committed.root = derived.root ∧ committed.leafCount = derived.leafCount)
    (.wrapped .invalidRequest s!"reward records root {derived.root} ({derived.leafCount} leaves) does not match committed root {committed.root} ({committed.leafCount} leaves)")
  s.validateWitnessRewardSplit msg.epochId records
  return records.foldl setRewardRecord s

def activityBurn (env : Env) (s : KeeperState) (msg : MsgActivityBurn) :
    Except ChainError KeeperState := do
  ensure (msg.sender ≠ "") (.wrapped .invalidAddress "sender address is required")
  ensure (msg.amount ≠ 0) (.wrapped .invalidRequest "burn amount must be positive")
  s.executeActivityBurn env msg.sender msg.amount

end KeeperState

/-! ## Governance -/

structure MsgUpsertGameWeight where
  authority : String := ""
  entry : Option GameWeightEntry := none
  deriving DecidableEq

structure MsgUpdateParams where
  authority : String := ""
  params : Option Params := none
  deriving DecidableEq

namespace KeeperState

def upsertGameWeight (ctx : Ctx) (s : KeeperState) (msg : MsgUpsertGameWeight) :
    Except ChainError KeeperState := do
  let entry ← require msg.entry (.wrapped .invalidRequest "entry is required")
  ensure (ctx.isAuthority msg.authority = true) (.foreign "invalid authority")
  ensure (entry.gameWeightPpm ≠ 0)
    (.wrapped .invalidRequest "game_weight_ppm must be greater than 0")
  return s.setGameWeightEntry entry

def updateParams (ctx : Ctx) (s : KeeperState) (msg : MsgUpdateParams) :
    Except ChainError KeeperState := do
  let params ← require msg.params (.wrapped .invalidRequest "params are required")
  ensure (ctx.isAuthority msg.authority = true) (.foreign "invalid authority")
  s.setParams params

end KeeperState

/-! ## Play sessions -/

structure MsgSubmitPlaySession where
  nodeAddress : String := ""
  session : Option PlaySession := none
  deriving DecidableEq

structure MsgSubmitPlayHeartbeat where
  nodeAddress : String := ""
  heartbeat : Option PlayHeartbeat := none
  deriving DecidableEq

structure MsgAttestSession where
  witness : String := ""
  attestation : Option WitnessAttestation := none
  deriving DecidableEq

structure MsgSettleSession where
  settler : String := ""
  sessionIdHex : String := ""
  deriving DecidableEq

namespace KeeperState

/-- A session is stored under its own id; an existing record of that id is not looked at. -/
def submitPlaySession (ctx : Ctx) (s : KeeperState) (msg : MsgSubmitPlaySession) :
    Except ChainError KeeperState := do
  let session ← require msg.session (.wrapped .invalidRequest "session is required")
  ensure (msg.nodeAddress ≠ "" ∧ session.nodeAddress ≠ "")
    (.wrapped .invalidAddress "node_address is required")
  ensure (msg.nodeAddress = session.nodeAddress)
    (.wrapped .unauthorized "node_address must match session.node_address")
  ensure (session.sessionIdHex ≠ "") (.wrapped .invalidRequest "session_id_hex is required")
  ensure (session.playSeconds ≠ 0)
    (.wrapped .invalidRequest "play_seconds must be greater than 0")
  let node ← s.getNode msg.nodeAddress
  ensure (node.active = true) (.wrapped .unauthorized "node is not active")
  let slotSeconds := s.getParams.rewardBlockDurationSeconds
  ensure (slotSeconds = 0 ∨ session.playSeconds ≤ slotSeconds)
    (.wrapped .invalidRequest s!"play_seconds {session.playSeconds} exceeds slot duration {slotSeconds}")
  return s.setPlaySession { session with submittedAtHeight := ctx.height }

def submitPlayHeartbeat (s : KeeperState) (msg : MsgSubmitPlayHeartbeat) :
    Except ChainError KeeperState := do
  let heartbeat ← require msg.heartbeat (.wrapped .invalidRequest "heartbeat is required")
  ensure (msg.nodeAddress ≠ "" ∧ heartbeat.nodeAddress ≠ "")
    (.wrapped .invalidAddress "node_address is required")
  ensure (msg.nodeAddress = heartbeat.nodeAddress)
    (.wrapped .unauthorized "node_address must match heartbeat.node_address")
  ensure (heartbeat.sessionIdHex ≠ "") (.wrapped .invalidRequest "session_id_hex is required")
  let session ← require s.playSessions[heartbeat.sessionIdHex]?
    (.wrapped .notFound "play session not found")
  ensure (session.nodeAddress = msg.nodeAddress)
    (.wrapped .unauthorized "heartbeat node does not own the session")
  ensure (s.sessionSettlements[heartbeat.sessionIdHex]? = none)
    (.wrapped .invalidRequest "session is already settled")
  return s.setPlayHeartbeat heartbeat

def attestSession (ctx : Ctx) (s : KeeperState) (msg : MsgAttestSession) :
    Except ChainError KeeperState := do
  let attestation ← require msg.attestation (.wrapped .invalidRequest "attestation is required")
  ensure (msg.witness ≠ "" ∧ attestation.witnessAddress ≠ "")
    (.wrapped .invalidAddress "witness address is required")
  ensure (msg.witness = attestation.witnessAddress)
    (.wrapped .unauthorized "witness must match attestation.witness_address")
  ensure (attestation.sessionIdHex ≠ "") (.wrapped .invalidRequest "session_id_hex is required")
  let session ← require s.playSessions[attestation.sessionIdHex]?
    (.wrapped .notFound "play session not found")
  ensure (s.sessionSettlements[attestation.sessionIdHex]? = none)
    (.wrapped .invalidRequest "session is already settled")
  match s.validateWitnessIndependence session attestation s.getParams with
  | .error text => .error (.wrapped .unauthorized text)
  | .ok _ => return s.setWitnessAttestation { attestation with attestedAtHeight := ctx.height }

def settleSession (ctx : Ctx) (s : KeeperState) (msg : MsgSettleSession) :
    Except ChainError KeeperState := do
  ensure (msg.sessionIdHex ≠ "") (.wrapped .invalidRequest "session_id_hex is required")
  ensure (msg.settler ≠ "") (.wrapped .invalidAddress "settler address is required")
  let _ ← s.requireNodeCapability msg.settler .verify
  s.settlePlaySession ctx msg.sessionIdHex

end KeeperState

/-! ## The machine -/

inductive Msg where
  | upsertNode (msg : MsgUpsertNode)
  | upsertAggregateRecord (msg : MsgUpsertAggregateRecord)
  | submitBatch (msg : MsgSubmitBatch)
  | submitReplicaReceipt (msg : MsgSubmitReplicaReceipt)
  | commitEpoch (msg : MsgCommitEpoch)
  | openChallenge (msg : MsgOpenChallenge)
  | resolveChallenge (msg : MsgResolveChallenge)
  | finalizeEpoch (msg : MsgFinalizeEpoch)
  | verifyBatch (msg : MsgVerifyBatch)
  | claimReward (msg : MsgClaimReward)
  | upsertGameWeight (msg : MsgUpsertGameWeight)
  | updateParams (msg : MsgUpdateParams)
  | submitPlaySession (msg : MsgSubmitPlaySession)
  | submitPlayHeartbeat (msg : MsgSubmitPlayHeartbeat)
  | attestSession (msg : MsgAttestSession)
  | settleSession (msg : MsgSettleSession)
  | submitRewardRecords (msg : MsgSubmitRewardRecords)
  | activityBurn (msg : MsgActivityBurn)
  deriving DecidableEq

/-- The handler of a message. -/
def handle (env : Env) (ctx : Ctx) (s : KeeperState) : Msg → Except ChainError KeeperState
  | .upsertNode msg => s.upsertNode env ctx msg
  | .upsertAggregateRecord msg => s.upsertAggregateRecord env msg
  | .submitBatch msg => s.submitBatch ctx msg
  | .submitReplicaReceipt msg => s.submitReplicaReceipt msg
  | .commitEpoch msg => s.commitEpoch ctx msg
  | .openChallenge msg => s.openChallenge env ctx msg
  | .resolveChallenge msg => s.resolveChallenge env ctx msg
  | .finalizeEpoch msg => s.finalizeEpochMsg env ctx msg
  | .verifyBatch msg => s.verifyBatch ctx msg
  | .claimReward msg => s.claimReward env ctx msg
  | .upsertGameWeight msg => s.upsertGameWeight ctx msg
  | .updateParams msg => s.updateParams ctx msg
  | .submitPlaySession msg => s.submitPlaySession ctx msg
  | .submitPlayHeartbeat msg => s.submitPlayHeartbeat msg
  | .attestSession msg => s.attestSession ctx msg
  | .settleSession msg => s.settleSession ctx msg
  | .submitRewardRecords msg => s.submitRewardRecords env msg
  | .activityBurn msg => s.activityBurn env msg

/-- One step of the chain. -/
inductive Input where
  | deliver (ctx : Ctx) (msg : Msg)
  | beginBlock (ctx : Ctx)

namespace Input

/-- The commit a proposal supplies. -/
def proposal : Input → Option EpochCommit
  | .deliver _ (.commitEpoch msg) => msg.epochCommit
  | _ => none

/-- The record an aggregate upsert supplies. -/
def aggregateUpsert : Input → Option AggregateRecord
  | .deliver _ (.upsertAggregateRecord msg) => msg.aggregateRecord
  | _ => none

/-- The challenge an opening stores. -/
def opening : Input → Option Challenge
  | .deliver ctx (.openChallenge msg) => msg.challenge.map (·.opened ctx)
  | _ => none

def resolution : Input → Option MsgResolveChallenge
  | .deliver _ (.resolveChallenge msg) => some msg
  | _ => none

def rewardClaim : Input → Option MsgClaimReward
  | .deliver _ (.claimReward msg) => some msg
  | _ => none

/-- The session a play claim supplies. -/
def playClaim : Input → Option PlaySession
  | .deliver _ (.submitPlaySession msg) => msg.session
  | _ => none

/-- The records a reward submission supplies. -/
def rewardSubmission : Input → List RewardRecord
  | .deliver _ (.submitRewardRecords msg) => msg.records.reduceOption
  | _ => []

end Input

def step (env : Env) (s : KeeperState) : Input → Except ChainError KeeperState
  | .deliver ctx msg => handle env ctx s msg
  | .beginBlock ctx => s.beginBlockAnnualEmission ctx

/-- The state default genesis leaves, over any balances. -/
def defaultGenesis (bank : Bank) (genesisUnix : ℤ) : KeeperState where
  params := some defaultParams
  nodes := ∅
  batchCommits := ∅
  epochCommits := ∅
  rewardRecords := ∅
  aggregateRecords := ∅
  challenges := ∅
  availability := ∅
  gameWeightEntries := ∅
  claimedRewards := ∅
  replicaReceipts := ∅
  verificationRecords := ∅
  annualEmission := some (defaultAnnualEmissionState genesisUnix)
  playSessions := ∅
  playHeartbeats := ∅
  witnessAttestations := ∅
  sessionSettlements := ∅
  totalActivityBurned := none
  bank := bank

/-- The machine: a step that fails leaves the state as it was. -/
def next (env : Env) : KeeperState → Input → KeeperState := attempt (step env)

end PoleProtocol.Chain
