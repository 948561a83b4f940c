import PoleProtocol.Framework.OrderedMap
import PoleProtocol.Chain.Merkle

/-!
# The keeper

The collections of the pole module, the bank it moves coins in, and the keeper operations that
read and write them. A collection is an ordered map and iterates in key order. Keeper operations
take the state and return the new one or an error; the caller discards the writes of a message
that fails.
-/

namespace PoleProtocol.Chain

open Framework

/-! ## Surroundings -/

/-- Code outside the module whose results do not change: the digest and the address codecs. -/
structure Env where
  sha256 : Bytes → Bytes
  accAddressFromBech32 : String → Except String Bytes
  consAddressFromBech32 : String → Except String Bytes

/-- What the staking and slashing keepers answer while one message is handled. -/
structure StakingView where
  validatorTokens : Bytes → Except String ℕ
  jail : Bytes → Except String Unit
  slash : (consAddr : Bytes) → (slashFractionBps : ℕ) → Except String Unit

/-- The block a message is handled in. `staking` is `none` when the keepers are not wired. -/
structure Ctx where
  height : ℤ
  blockTime : ℤ
  isAuthority : String → Bool
  staking : Option StakingView

/-- Carry an error text of foreign code. -/
def foreign {α : Type} (x : Except String α) : Except ChainError α :=
  match x with
  | .ok a => .ok a
  | .error text => .error (.foreign text)

@[simp] theorem foreign_eq_ok {α : Type} {x : Except String α} {a : α} :
    foreign x = .ok a ↔ x = .ok a := by
  cases x <;> simp [foreign]

/-- Put a text in front of an error. -/
def withContext {α : Type} (text : String) (x : Except ChainError α) : Except ChainError α :=
  match x with
  | .ok a => .ok a
  | .error cause => .error (.context text cause)

@[simp] theorem withContext_eq_ok {α : Type} {text : String} {x : Except ChainError α} {a : α} :
    withContext text x = .ok a ↔ x = .ok a := by
  cases x <;> simp [withContext]

/-! ## The bank

The base denomination only. The module account has no key and signs nothing, so its balance is
kept apart from the accounts of message signers. -/

structure Bank where
  pool : ℕ
  accounts : Bytes → ℕ
  supply : ℤ

namespace Bank

def insufficientFunds : ChainError := .wrapped .insufficientFunds "spendable balance is smaller"

def mintCoins (bank : Bank) (amount : ℕ) : Bank :=
  { bank with pool := bank.pool + amount, supply := bank.supply + amount }

def burnCoins (bank : Bank) (amount : ℕ) : Except ChainError Bank := do
  ensure (amount ≤ bank.pool) insufficientFunds
  return { bank with pool := bank.pool - amount, supply := bank.supply - amount }

def sendCoinsFromAccountToModule (bank : Bank) (sender : Bytes) (amount : ℕ) :
    Except ChainError Bank := do
  ensure (amount ≤ bank.accounts sender) insufficientFunds
  return { bank with
    pool := bank.pool + amount
    accounts := Function.update bank.accounts sender (bank.accounts sender - amount) }

def sendCoinsFromModuleToAccount (bank : Bank) (recipient : Bytes) (amount : ℕ) :
    Except ChainError Bank := do
  ensure (amount ≤ bank.pool) insufficientFunds
  return { bank with
    pool := bank.pool - amount
    accounts := Function.update bank.accounts recipient (bank.accounts recipient + amount) }

end Bank

/-! ## The collections -/

/-- The issuance reference curve; kept as one encoded item in the store. -/
structure AnnualEmissionState where
  yearIndex : ℕ
  yearStartUnix : ℤ
  monthStartUnix : ℤ
  lastMintUnix : ℤ
  mintedThisMonth : ℕ
  prevEpochWeight : ℕ
  deriving DecidableEq

/-- Batches, receipts and verifications are keyed by an epoch and two texts. -/
instance transOrdRecordKey : Std.TransOrd (ℕ × String × String) := inferInstance

structure KeeperState where
  params : Option Params
  nodes : OrderedMap String NodeRecord
  batchCommits : OrderedMap (ℕ × String × String) BatchCommit
  epochCommits : OrderedMap ℕ EpochCommit
  rewardRecords : OrderedMap (ℕ × String) RewardRecord
  aggregateRecords : OrderedMap (ℕ × ℕ) AggregateRecord
  challenges : OrderedMap String Challenge
  availability : OrderedMap (ℕ × String × String) AvailabilityRecord
  gameWeightEntries : OrderedMap (ℕ × ℕ) GameWeightEntry
  claimedRewards : OrderedMap (ℕ × String) ClaimedReward
  replicaReceipts : OrderedMap (ℕ × String × String) ReplicaReceipt
  verificationRecords : OrderedMap (ℕ × String × String) VerificationRecord
  annualEmission : Option AnnualEmissionState
  playSessions : OrderedMap String PlaySession
  playHeartbeats : OrderedMap (String × ℕ) PlayHeartbeat
  witnessAttestations : OrderedMap (String × String) WitnessAttestation
  sessionSettlements : OrderedMap String SessionSettlement
  totalActivityBurned : Option ℕ
  bank : Bank

namespace KeeperState

def getParams (s : KeeperState) : Params := s.params.getD defaultParams

def setParams (s : KeeperState) (params : Params) : Except ChainError KeeperState := do
  params.validate
  return { s with params := some params }

def setNode (s : KeeperState) (node : NodeRecord) : KeeperState :=
  { s with nodes := s.nodes.insert node.operatorAddress node }

def getNode (s : KeeperState) (operatorAddress : String) : Except ChainError NodeRecord :=
  require s.nodes[operatorAddress]? (.missingKey "nodes")

def batchCommitKey (batch : BatchCommit) : ℕ × String × String :=
  (batch.epochId, batch.collectorAddress, (batch.batch.map (·.root)).getD "")

def setBatchCommit (s : KeeperState) (batch : BatchCommit) : KeeperState :=
  { s with batchCommits := s.batchCommits.insert (batchCommitKey batch) batch }

def setEpochCommit (s : KeeperState) (commit : EpochCommit) : KeeperState :=
  { s with epochCommits := s.epochCommits.insert commit.epochId commit }

def getEpochCommit (s : KeeperState) (epochId : ℕ) : Except ChainError EpochCommit :=
  require s.epochCommits[epochId]? (.missingKey "epoch_commits")

def setRewardRecord (s : KeeperState) (record : RewardRecord) : KeeperState :=
  { s with rewardRecords := s.rewardRecords.insert (record.epochId, record.recipient) record }

def getRewardRecord (s : KeeperState) (epochId : ℕ) (recipient : String) :
    Except ChainError RewardRecord :=
  require s.rewardRecords[(epochId, recipient)]? (.missingKey "reward_records")

def setAggregateRecord (s : KeeperState) (record : AggregateRecord) : KeeperState :=
  { s with aggregateRecords := s.aggregateRecords.insert (record.epochId, record.appId) record }

def setChallenge (s : KeeperState) (challenge : Challenge) : KeeperState :=
  { s with challenges := s.challenges.insert challenge.challengeIdHex challenge }

def getChallenge (s : KeeperState) (challengeIdHex : String) : Except ChainError Challenge :=
  require s.challenges[challengeIdHex]? (.missingKey "challenges")

def setAvailabilityRecord (s : KeeperState) (record : AvailabilityRecord) : KeeperState :=
  let key := (record.epochId, record.operatorAddress, record.payloadCid)
  { s with availability := s.availability.insert key record }

def setGameWeightEntry (s : KeeperState) (entry : GameWeightEntry) : KeeperState :=
  { s with gameWeightEntries :=
      s.gameWeightEntries.insert (entry.appId, entry.effectiveFromEpochId) entry }

def setClaimedReward (s : KeeperState) (claim : ClaimedReward) : KeeperState :=
  { s with claimedRewards := s.claimedRewards.insert (claim.epochId, claim.recipient) claim }

def setVerificationRecord (s : KeeperState) (record : VerificationRecord) : KeeperState :=
  let key := (record.epochId, record.verifierAddress, record.targetBatchRootHex)
  { s with verificationRecords := s.verificationRecords.insert key record }

def setReplicaReceipt (s : KeeperState) (receipt : ReplicaReceipt) : KeeperState :=
  let key := (receipt.epochId, receipt.storerAddress, receipt.payloadCid)
  { s with replicaReceipts := s.replicaReceipts.insert key receipt }

def setPlaySession (s : KeeperState) (session : PlaySession) : KeeperState :=
  { s with playSessions := s.playSessions.insert session.sessionIdHex session }

def getPlaySession (s : KeeperState) (sessionIdHex : String) : Except ChainError PlaySession :=
  require s.playSessions[sessionIdHex]? (.missingKey "play_sessions")

def setPlayHeartbeat (s : KeeperState) (heartbeat : PlayHeartbeat) : KeeperState :=
  { s with playHeartbeats :=
      s.playHeartbeats.insert (heartbeat.sessionIdHex, heartbeat.bucketIndex) heartbeat }

def setWitnessAttestation (s : KeeperState) (attestation : WitnessAttestation) : KeeperState :=
  let key := (attestation.sessionIdHex, attestation.witnessAddress)
  { s with witnessAttestations := s.witnessAttestations.insert key attestation }

def setSessionSettlement (s : KeeperState) (settlement : SessionSettlement) : KeeperState :=
  { s with sessionSettlements := s.sessionSettlements.insert settlement.sessionIdHex settlement }

end KeeperState

/-- The values under a key prefix whose own field repeats the prefix, in key order. -/
def prefixedValues {α β V : Type} [Ord α] [Ord β] [Std.TransOrd α] [Std.TransOrd β]
    [DecidableEq α] (owner : V → α) (m : OrderedMap (α × β) V) (key : α) : List V :=
  (m.toList.filter fun entry => entry.1.1 = key ∧ owner entry.2 = key).map (·.2)

/-- A write under another prefix is not listed. -/
theorem prefixedValues_insert_ne {α β V : Type} [Ord α] [Ord β] [Std.TransOrd α] [Std.TransOrd β]
    [Std.LawfulEqOrd α] [Std.LawfulEqOrd β] [DecidableEq α] [DecidableEq β] (owner : V → α)
    (m : OrderedMap (α × β) V) {key : α} {k : α × β} (v : V) (h : k.1 ≠ key) :
    prefixedValues owner (m.insert k v) key = prefixedValues owner m key := by
  unfold prefixedValues
  congr 1
  apply OrderedMap.filter_toList_congr
  intro a w hselected
  have hprefix : a.1 = key := (of_decide_eq_true hselected).1
  have hne : k ≠ a := by
    rintro rfl
    exact h hprefix
  rw [OrderedMap.get_insert_ne _ _ hne]

namespace KeeperState

def verificationRecordsForEpoch (s : KeeperState) (epochId : ℕ) : List VerificationRecord :=
  prefixedValues (·.epochId) s.verificationRecords epochId

def rewardRecordsForEpoch (s : KeeperState) (epochId : ℕ) : List RewardRecord :=
  prefixedValues (·.epochId) s.rewardRecords epochId

def batchCommitsForEpoch (s : KeeperState) (epochId : ℕ) : List BatchCommit :=
  prefixedValues (·.epochId) s.batchCommits epochId

def availabilityRecordsForEpoch (s : KeeperState) (epochId : ℕ) : List AvailabilityRecord :=
  prefixedValues (·.epochId) s.availability epochId

def aggregateRecordsForEpoch (s : KeeperState) (epochId : ℕ) : List AggregateRecord :=
  prefixedValues (·.epochId) s.aggregateRecords epochId

/-- Whether the operator submitted a batch for the epoch. -/
def isPlayerCollector (s : KeeperState) (operatorAddress : String) (epochId : ℕ) : Bool :=
  (s.batchCommitsForEpoch epochId).any fun batch => batch.collectorAddress = operatorAddress

/-- The number of distinct verifiers of an epoch and the share of them, in basis points, that
verified as players. Both counts are 32-bit words in the division. -/
def verificationCoverage (s : KeeperState) (epochId : ℕ) : Except ChainError (ℕ × ℕ) := do
  let records := s.verificationRecordsForEpoch epochId
  let count := (records.map (·.verifierAddress)).dedup.length
  let players := ((records.filter (·.isPlayer)).map (·.verifierAddress)).dedup.length
  if count = 0 then return (count, 0)
  ensure (wrap32 count ≠ 0) (.panicked "integer divide by zero")
  return (count, wrap32 (wrap32 players * 10000) / wrap32 count)

def hasOpenChallengesForEpoch (s : KeeperState) (epochId : ℕ) : Bool :=
  s.challenges.toList.any fun entry => entry.2.epochId = epochId ∧ entry.2.state = .open

def playSessionsForEpoch (s : KeeperState) (epochId : ℕ) : List PlaySession :=
  (s.playSessions.toList.filter fun entry => entry.2.epochId = epochId).map (·.2)

/-- The sessions of an epoch that have no settlement yet. -/
def unsettledSessionsForEpoch (s : KeeperState) (epochId : ℕ) : List PlaySession :=
  (s.playSessionsForEpoch epochId).filter fun session =>
    s.sessionSettlements[session.sessionIdHex]? = none

def totalWeightUnits (records : List AggregateRecord) : ℕ :=
  wrap64 (records.map (·.totalWeightUnits)).sum

/-! ## Epoch commitments -/

/-- The stored records of the epoch hash to the committed roots and sum to the committed
weight. -/
def validateEpochRoots (env : Env) (s : KeeperState) (epochId : ℕ) (commit : EpochCommit) :
    Except ChainError Unit := do
  let rewards := merkleRootHexForRecords env.sha256 (s.rewardRecordsForEpoch epochId)
  let aggregateRecords := s.aggregateRecordsForEpoch epochId
  let aggregates := merkleRootHexForRecords env.sha256 aggregateRecords
  let committed ← require commit.rewards (.plain s!"epoch {epochId} missing rewards commitment")
  ensure (committed.root = rewards.root ∧ committed.leafCount = rewards.leafCount)
    (.plain s!"epoch {epochId} reward root mismatch (committed {committed.root}/{committed.leafCount}, derived {rewards.root}/{rewards.leafCount})")
  let committedAggregates ← require commit.aggregates
    (.plain s!"epoch {epochId} missing aggregates commitment")
  ensure (committedAggregates.root = aggregates.root ∧
    committedAggregates.leafCount = aggregates.leafCount)
    (.plain s!"epoch {epochId} aggregate root mismatch")
  ensure (commit.totalNetworkWeightUnits = totalWeightUnits aggregateRecords)
    (.plain s!"epoch {epochId} total_network_weight_units mismatch")

/-- Close an epoch once its window has passed and every gate accepts. Closing a closed epoch is
a successful no-op. -/
def finalizeEpoch (env : Env) (ctx : Ctx) (s : KeeperState) (epochId : ℕ) :
    Except ChainError KeeperState := do
  let commit ← s.getEpochCommit epochId
  if commit.finalized then return s
  ensure (commit.challengeDeadlineHeight < ctx.height)
    (.plain s!"epoch {epochId} challenge window still open")
  ensure (s.hasOpenChallengesForEpoch epochId = false)
    (.plain s!"epoch {epochId} still has open challenges")
  let unsettled := s.unsettledSessionsForEpoch epochId
  ensure (unsettled = [])
    (.plain s!"epoch {epochId} has {unsettled.length} unsettled play session(s)")
  s.validateEpochRoots env epochId commit
  let params := s.getParams
  let (verifierCount, playerShareBps) ← s.verificationCoverage epochId
  ensure (params.minVerificationCount = 0 ∨ params.minVerificationCount ≤ verifierCount)
    (.plain s!"epoch {epochId} has insufficient verifications ({verifierCount} < {params.minVerificationCount})")
  ensure (params.minPlayerVerifierShareBps = 0 ∨ params.minPlayerVerifierShareBps ≤ playerShareBps)
    (.plain s!"epoch {epochId} player verifier share {playerShareBps} bps < {params.minPlayerVerifierShareBps} bps")
  return s.setEpochCommit { commit with finalized := true }

/-- Recompute the aggregates commitment of an open commit; a closed one is left alone. -/
def refreshAggregatesCommitment (env : Env) (s : KeeperState) (epochId : ℕ) : KeeperState :=
  match s.epochCommits[epochId]? with
  | none => s
  | some commit =>
      if commit.finalized then s
      else
        let records := s.aggregateRecordsForEpoch epochId
        s.setEpochCommit { commit with
          aggregates := some (merkleRootHexForRecords env.sha256 records)
          totalNetworkWeightUnits := totalWeightUnits records }

/-- The commit with every derived commitment recomputed from the records. -/
def recomputedCommit (env : Env) (s : KeeperState) (epochId : ℕ) (commit : EpochCommit) :
    EpochCommit :=
  let aggregateRecords := s.aggregateRecordsForEpoch epochId
  { commit with
    rewards := some (merkleRootHexForRecords env.sha256 (s.rewardRecordsForEpoch epochId))
    aggregates := some (merkleRootHexForRecords env.sha256 aggregateRecords)
    totalNetworkWeightUnits := totalWeightUnits aggregateRecords }

/-- Recompute the commitments of an epoch, closed or not. -/
def recomputeEpochCommitments (env : Env) (s : KeeperState) (epochId : ℕ) :
    Except ChainError KeeperState := do
  let commit ← s.getEpochCommit epochId
  return s.setEpochCommit (s.recomputedCommit env epochId commit)

/-! ## Money -/

/-- Slash and jail a validator through the foreign keepers; no collection of the module is
written. -/
def applyValidatorSlash (env : Env) (ctx : Ctx) (consAddress : String) (slashFractionBps : ℕ)
    (jail : Bool) : Except ChainError Unit := do
  if consAddress = "" then return ()
  let staking ← require ctx.staking (.plain "staking/slashing keepers are not configured")
  ensure (slashFractionBps ≤ 10000) (.plain "slash_fraction_bps must be <= 10000")
  let consAddr ← foreign (env.consAddressFromBech32 consAddress)
  let _ ← foreign (staking.validatorTokens consAddr)
  if jail then foreign (staking.jail consAddr)
  if slashFractionBps = 0 then return ()
  foreign (staking.slash consAddr slashFractionBps)

end KeeperState

def totalSupplyAmount : ℕ := 1000000000

namespace Bank

/-- Mint what the pool lacks for a payout. -/
def ensureRewardPool (bank : Bank) (payout : ℕ) : Except ChainError Bank :=
  if payout ≤ bank.pool then .ok bank
  else if totalSupplyAmount < payout then
    .error (.plain s!"claimed payout {payout} exceeds protocol total supply soft guardrail {totalSupplyAmount}")
  else .ok (bank.mintCoins (payout - bank.pool))

/-- Destroy up to `amount` from the pool, and say how much was destroyed. Reading a balance
outside the 64-bit range panics. -/
def burnFromRewardPool (bank : Bank) (amount : ℕ) : Except ChainError (Bank × ℕ) := do
  if amount = 0 then return (bank, 0)
  if bank.pool = 0 then return (bank, 0)
  ensure (bank.pool < 2 ^ 64) (.panicked "Uint64() out of bounds")
  let burnable := min bank.pool amount
  let bank ← bank.burnCoins burnable
  return (bank, burnable)

def escrowChallengeBond (env : Env) (bank : Bank) (challenger : String) (amount : ℕ) :
    Except ChainError Bank := do
  if amount = 0 then return bank
  let addr ← foreign (env.accAddressFromBech32 challenger)
  bank.sendCoinsFromAccountToModule addr amount

/-- Return an escrowed bond, or destroy the burn share of a forfeited one. The second component
is the destroyed quantity. -/
def settleChallengeBond (env : Env) (bank : Bank) (challenger : String) (bond burnBps : ℕ)
    (forfeit : Bool) : Except ChainError (Bank × ℕ) := do
  if bond = 0 then return (bank, 0)
  if forfeit then bank.burnFromRewardPool (bpsShare64 bond (min burnBps 10000))
  else do
    let addr ← foreign (env.accAddressFromBech32 challenger)
    let bank ← bank.sendCoinsFromModuleToAccount addr bond
    return (bank, 0)

/-- Send the paid part of a claim after minting what the pool lacks for the whole of it. -/
def payClaim (bank : Bank) (recipient : Bytes) (amount payout : ℕ) : Except ChainError Bank :=
  if 0 < payout then do
    let bank ← bank.ensureRewardPool amount
    bank.sendCoinsFromModuleToAccount recipient payout
  else .ok bank

def burnClaimShare (bank : Bank) (burnAmount : ℕ) : Except ChainError Bank :=
  if 0 < burnAmount then bank.burnCoins burnAmount else .ok bank

end Bank

/-- The part of a claim that is destroyed: the burn share of what exceeds the threshold. -/
def claimBurnAmount (params : Params) (amount : ℕ) : ℕ :=
  if params.rewardBurnThreshold < amount ∧ 0 < params.rewardBurnBps then
    bpsShare64 (amount - params.rewardBurnThreshold) params.rewardBurnBps
  else 0

namespace KeeperState

/-- Pay a claim: the excess above the burn threshold loses its burn share. -/
def payoutClaimedReward (env : Env) (s : KeeperState) (claim : ClaimedReward) :
    Except ChainError KeeperState := do
  ensure (claim.amount ≠ 0) (.plain "claimed reward amount must be greater than 0")
  let recipient ← foreign (env.accAddressFromBech32 claim.recipient)
  let burnAmount := claimBurnAmount s.getParams claim.amount
  let bank ← s.bank.payClaim recipient claim.amount (sub64 claim.amount burnAmount)
  let bank ← bank.burnClaimShare burnAmount
  return { s with bank }

/-- Burn a holder's coins for an application activity. -/
def executeActivityBurn (env : Env) (s : KeeperState) (sender : String) (amount : ℕ) :
    Except ChainError KeeperState := do
  ensure (amount ≠ 0) (.plain "burn amount must be positive")
  let addr ← withContext "invalid sender address" (foreign (env.accAddressFromBech32 sender))
  let bank ← withContext "failed to transfer coins for burn"
    (s.bank.sendCoinsFromAccountToModule addr amount)
  let bank ← withContext "failed to burn coins" (bank.burnCoins amount)
  let total := s.totalActivityBurned.getD 0
  return { s with bank, totalActivityBurned := some (wrap64 (total + amount)) }

end KeeperState

end PoleProtocol.Chain
