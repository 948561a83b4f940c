import PoleProtocol.Chain.Keeper

/-!
# Challenges

Opening a challenge escrows a bond in the module account. Resolving one checks its evidence and
target, settles the bond, moves the reward records of target and challenger, and recomputes the
commitments of the epoch.
-/

namespace PoleProtocol.Chain

open Framework

/-! ## Capabilities -/

inductive Capability where
  | collect
  | store
  | verify
  | propose
  deriving DecidableEq

def Capability.name : Capability → String
  | .collect => "collect"
  | .store => "store"
  | .verify => "verify"
  | .propose => "propose"

def NodeCapabilitySet.allows (capabilities : NodeCapabilitySet) : Capability → Bool
  | .collect => capabilities.collect
  | .store => capabilities.store
  | .verify => capabilities.verify
  | .propose => capabilities.propose

/-- The node lists the capability; a node without a capability set lists none. -/
def NodeRecord.allows (node : NodeRecord) (capability : Capability) : Bool :=
  (node.capabilities.map (·.allows capability)).getD false

namespace KeeperState

def requireNodeCapability (s : KeeperState) (operator : String) (capability : Capability) :
    Except ChainError NodeRecord := do
  let node ← s.getNode operator
  ensure (node.active = true) (.wrapped .unauthorized "node is not active")
  let capabilities ← require node.capabilities
    (.wrapped .unauthorized "node capabilities are not configured")
  ensure (capabilities.allows capability = true)
    (.wrapped .unauthorized s!"node missing {capability.name} capability")
  ensure (requiredBondedTokensForNode node ≤ node.bondedTokens)
    (.wrapped .unauthorized "node bonded_tokens below required threshold")
  return node

/-- A node with a capability is stored, active and bonded as its record asks. -/
theorem requireNodeCapability_ok {s : KeeperState} {operator : String} {capability : Capability}
    {node : NodeRecord} (h : s.requireNodeCapability operator capability = .ok node) :
    s.nodes[operator]? = some node ∧ node.active = true ∧
      requiredBondedTokensForNode node ≤ node.bondedTokens := by
  simp only [requireNodeCapability, getNode, bind_eq_ok, ensure_eq_ok, exists_const,
    require_eq_ok, pure_eq_ok] at h
  obtain ⟨stored, hstored, hactive, _, _, _, hbond, rfl⟩ := h
  exact ⟨hstored, hactive, hbond⟩

end KeeperState

/-! ## Opening -/

structure MsgOpenChallenge where
  challenger : String := ""
  challenge : Option Challenge := none
  deriving DecidableEq

/-- The record an opening stores: stamped with the height, and open unless it claims a state. -/
def Challenge.opened (challenge : Challenge) (ctx : Ctx) : Challenge :=
  { challenge with
    openedAtHeight := ctx.height
    state := if challenge.state = .unspecified then .open else challenge.state }

namespace KeeperState

def openChallenge (env : Env) (ctx : Ctx) (s : KeeperState) (msg : MsgOpenChallenge) :
    Except ChainError KeeperState := do
  let supplied ← require msg.challenge (.wrapped .invalidRequest "challenge is required")
  ensure (msg.challenger ≠ "" ∧ supplied.challenger ≠ "")
    (.wrapped .invalidAddress "challenger address is required")
  ensure (msg.challenger = supplied.challenger)
    (.wrapped .unauthorized "challenger must match challenge.challenger")
  ensure (supplied.challengeIdHex ≠ "") (.wrapped .invalidRequest "challenge_id_hex is required")
  let challenge := supplied.opened ctx
  ensure (challenge.openedAtHeight < challenge.deadlineHeight)
    (.wrapped .invalidRequest "deadline_height must be after opened_at_height")
  let _ ← s.requireNodeCapability msg.challenger .verify
  let bank ← s.bank.escrowChallengeBond env msg.challenger challenge.bondAmount.toNat
  return { s with bank }.setChallenge challenge

end KeeperState

/-! ## Evidence and target -/

structure MsgResolveChallenge where
  resolver : String := ""
  challengeIdHex : String := ""
  slashAmount : ℕ := 0
  challengerReward : ℕ := 0
  resolutionSummary : String := ""
  finalState : ChallengeState := .unspecified
  slashFractionBps : ℕ := 0
  jailValidator : Bool := false
  deriving DecidableEq

/-- The proof places the first matching record under the root. -/
def checkMembership {α : Type} [JsonRecord α] (env : Env) (records : List α) (isTarget : α → Bool)
    (proofHex : List String) (rootHex name : String) : Except ChainError Unit := do
  let notFound := ChainError.wrapped .notFound s!"{name} record referenced by challenge not found"
  let index ← require (records.findIdx? isTarget) notFound
  let target ← require records[index]? notFound
  ensure (verifyMerkleProofHex env.sha256 (merkleLeafFromRecord env.sha256 target) proofHex index
    rootHex = true) (.wrapped .invalidRequest s!"{name} merkle proof verification failed")

namespace KeeperState

/-- A challenge without evidence, or of a kind without an evidence rule, is not examined. -/
def validateChallengeEvidence (env : Env) (s : KeeperState) (challenge : Challenge) :
    Except ChainError Unit :=
  match challenge.evidence with
  | none => .ok ()
  | some evidence => do
      let commit ← s.getEpochCommit challenge.epochId
      match challenge.kind with
      | .badBatch => do
          ensure (challenge.targetAddress ≠ "" ∧ evidence.batchRootHex ≠ "" ∧
            evidence.merkleProofHex ≠ [])
            (.wrapped .invalidRequest "bad batch challenge requires target_address, batch_root_hex, and merkle_proof_hex")
          let accepted ← require commit.acceptedBatches
            (.wrapped .invalidRequest "epoch missing accepted_batches commitment")
          checkMembership env (s.batchCommitsForEpoch challenge.epochId)
            (fun record => record.collectorAddress = challenge.targetAddress ∧
              record.batch.map (·.root) = some evidence.batchRootHex)
            evidence.merkleProofHex accepted.root "batch"
      | .badReward => do
          ensure (challenge.targetAddress ≠ "" ∧ evidence.rewardRootHex ≠ "" ∧
            evidence.merkleProofHex ≠ [])
            (.wrapped .invalidRequest "bad reward challenge requires target_address, reward_root_hex, and merkle_proof_hex")
          ensure (commit.rewards.map (·.root) = some evidence.rewardRootHex)
            (.wrapped .invalidRequest "reward_root_hex does not match committed reward root")
          checkMembership env (s.rewardRecordsForEpoch challenge.epochId)
            (fun record => record.recipient = challenge.targetAddress)
            evidence.merkleProofHex evidence.rewardRootHex "reward"
      | .badAggregate => do
          ensure (evidence.aggregateRootHex ≠ "" ∧ evidence.merkleProofHex ≠ [])
            (.wrapped .invalidRequest "bad aggregate challenge requires aggregate_root_hex and merkle_proof_hex")
          ensure (commit.aggregates.map (·.root) = some evidence.aggregateRootHex)
            (.wrapped .invalidRequest "aggregate_root_hex does not match committed aggregate root")
          checkMembership env (s.aggregateRecordsForEpoch challenge.epochId)
            (fun record => record.appId = evidence.aggregateAppId)
            evidence.merkleProofHex evidence.aggregateRootHex "aggregate"
      | .badStorage => do
          ensure (challenge.targetAddress ≠ "" ∧ evidence.payloadCid ≠ "" ∧
            evidence.merkleProofHex ≠ [])
            (.wrapped .invalidRequest "bad storage challenge requires target_address, payload_cid, and merkle_proof_hex")
          let availability ← require commit.availability
            (.wrapped .invalidRequest "epoch missing availability commitment")
          checkMembership env (s.availabilityRecordsForEpoch challenge.epochId)
            (fun record => record.operatorAddress = challenge.targetAddress ∧
              record.payloadCid = evidence.payloadCid)
            evidence.merkleProofHex availability.root "availability"
      | _ => .ok ()

/-- A named target is an active node with the capability its kind of challenge is about. -/
def validateChallengeTarget (s : KeeperState) (challenge : Challenge) :
    Except ChainError Unit :=
  if challenge.targetAddress = "" then .ok ()
  else do
    let target ← s.getNode challenge.targetAddress
    ensure (target.active = true) (.wrapped .unauthorized "challenge target node is not active")
    match challenge.kind with
    | .badBatch =>
        ensure (target.allows .collect = true)
          (.wrapped .unauthorized "challenge target lacks collect capability")
    | .badStorage =>
        ensure (target.allows .store = true)
          (.wrapped .unauthorized "challenge target lacks store capability")
    | .badAggregate =>
        ensure (target.allows .verify = true)
          (.wrapped .unauthorized "challenge target lacks verify capability")
    | .badReward =>
        ensure (target.allows .propose = true ∨ target.allows .verify = true)
          (.wrapped .unauthorized "challenge target lacks reward-related capability")
    | _ => .ok ()

end KeeperState

/-! ## Effects of a resolution -/

/-- Take `amount` out of the net reward and book it as slashed. -/
def RewardRecord.debit (record : RewardRecord) (amount : ℕ) : RewardRecord :=
  { record with
    slashDebit := wrap64 (record.slashDebit + amount)
    netReward := sub64 record.netReward amount }

/-- Add `amount` to the verify reward and the net reward. -/
def RewardRecord.credit (record : RewardRecord) (amount : ℕ) : RewardRecord :=
  { record with
    verifyReward := wrap64 (record.verifyReward + amount)
    netReward := wrap64 (record.netReward + amount) }

/-- What a bad-reward resolution slashes on top of the resolver's amount. -/
def sessionSlash (params : Params) (challenge : Challenge) (record : RewardRecord) : ℕ :=
  if challenge.kind = .badReward ∧ 0 < params.sessionSlashBps then
    bpsShare64 (min record.playerReward record.netReward) params.sessionSlashBps
  else 0

namespace KeeperState

/-- The stored record of a recipient, or an empty one. -/
def rewardRecordOrNew (s : KeeperState) (epochId : ℕ) (recipient : String) : RewardRecord :=
  s.rewardRecords[(epochId, recipient)]?.getD { epochId, recipient }

/-- Settle the escrowed bond: rejection forfeits it, every other state returns it. -/
def settleChallengeBond (env : Env) (s : KeeperState) (challenge : Challenge) :
    Except ChainError KeeperState :=
  if challenge.bondAmount = 0 ∨ challenge.challenger = "" then .ok s
  else do
    let (bank, _) ← s.bank.settleChallengeBond env challenge.challenger
      challenge.bondAmount.toNat s.getParams.challengeBondBurnBps
      (decide (challenge.state = .rejected))
    return { s with bank }

/-- Slash the target's reward record and destroy the burn shares of the slashed amounts. -/
def slashTarget (s : KeeperState) (challenge : Challenge) : Except ChainError KeeperState :=
  if challenge.targetAddress = "" ∨ challenge.slashAmount = 0 then .ok s
  else do
    let params := s.getParams
    let record := s.rewardRecordOrNew challenge.epochId challenge.targetAddress
    let slashApplied := min challenge.slashAmount record.netReward
    let record := record.debit slashApplied
    let (bank, _) ← s.bank.burnFromRewardPool (bpsShare64 slashApplied params.governanceBurnBps)
    let slashed := sessionSlash params challenge record
    let (bank, _) ← bank.burnFromRewardPool slashed
    return { s with bank }.setRewardRecord (record.debit slashed)

def rewardChallenger (s : KeeperState) (challenge : Challenge) : KeeperState :=
  if challenge.challenger = "" ∨ challenge.challengerReward = 0 then s
  else
    s.setRewardRecord ((s.rewardRecordOrNew challenge.epochId challenge.challenger).credit
      challenge.challengerReward)

def applyChallengeRewardEffects (s : KeeperState) (challenge : Challenge) :
    Except ChainError KeeperState := do
  let s ← s.slashTarget challenge
  return s.rewardChallenger challenge

end KeeperState

/-- The record a resolution works on and stores. -/
def Challenge.resolvedBy (challenge : Challenge) (msg : MsgResolveChallenge) : Challenge :=
  { challenge with
    slashAmount := msg.slashAmount
    challengerReward := msg.challengerReward
    resolutionSummary := msg.resolutionSummary
    state := msg.finalState }

namespace KeeperState

def resolveChallenge (env : Env) (ctx : Ctx) (s : KeeperState) (msg : MsgResolveChallenge) :
    Except ChainError KeeperState := do
  ensure (ctx.isAuthority msg.resolver = true) (.foreign "invalid authority")
  let stored ← s.getChallenge msg.challengeIdHex
  let challenge := stored.resolvedBy msg
  ensure (challenge.state ≠ .unspecified)
    (.wrapped .invalidRequest "final_state must be specified")
  s.validateChallengeEvidence env challenge
  s.validateChallengeTarget challenge
  applyValidatorSlash env ctx challenge.targetConsAddress msg.slashFractionBps msg.jailValidator
  let s ← s.settleChallengeBond env challenge
  let s ← s.applyChallengeRewardEffects challenge
  let s ← s.recomputeEpochCommitments env challenge.epochId
  return s.setChallenge challenge

end KeeperState

end PoleProtocol.Chain
