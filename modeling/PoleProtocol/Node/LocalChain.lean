import PoleProtocol.Framework.Tolerance
import PoleProtocol.Ledger.ActiveParams
import PoleProtocol.Node.EpochRewards

/-!
# The local chain of a node

A node keeps a ledger of its own in two files: one with the height and the current epoch, one with
the store. The commands of governance and the settlement of an epoch build the protocol state from
these files, each in its own way.
-/

namespace PoleProtocol.Node

open Framework Ledger OrderedMap

/-- The configuration of a node that settles epochs. -/
structure NodeConfig where
  env : NodeEnv
  /-- The address that the key file of the identity names. -/
  identityAddress : Address
  verify : Bool
  propose : Bool
  archive : Bool
  defaultEpochId : ℕ
  pollIntervalSecs : ℕ
  slotsPerEpoch : ℕ
  retentionEpochs : ℕ
  reward : RewardConfig

structure LocalChainRuntimeState where
  height : ℕ
  currentEpoch : ℕ
  deriving DecidableEq

/-- The two files; a file that was never written is absent. -/
structure LocalChainFiles where
  runtime : Option LocalChainRuntimeState := none
  store : Option InMemoryStore := none

inductive NodePreparationError where
  | reward (message : String)
  | verification (message : String)
  | missingCapability (capability : Capability)
  | emptyBatchSet
  deriving DecidableEq

inductive NodeSettlementError where
  | missingIdentity
  | preparation (error : NodePreparationError)
  | transition (error : TransitionError)
  | submissionHeightRegression (requested current : ℕ)
  deriving DecidableEq

namespace LocalChainFiles

variable (files : LocalChainFiles)

def loadRuntime (defaultHeight defaultEpoch : ℕ) : LocalChainRuntimeState :=
  files.runtime.getD ⟨defaultHeight, defaultEpoch⟩

def openStore : InMemoryStore := files.store.getD {}

end LocalChainFiles

/-! ## Parameters -/

/-- A number clamped to a positive 32-bit word. -/
def clampPositive32 (n : ℕ) : ℕ := max 1 (min n (2 ^ 32 - 1))

def localFeeParams : FeeParams where
  baseGasPriceNano := 100
  maxGasPriceNano := 1000
  gasAdjustmentPpm := 1150000
  congestionThresholdPpm := 500000
  feeBurnBps := 2500

/-- The reward parameters of a configuration, under the four values that activated parameters
override. -/
def RewardConfig.localRewardParams (reward : RewardConfig) (rewardBlockSecs
    effectivePlayerBlockReward targetNetworkWeightUnits rewardAdjustmentCapBps : ℕ) :
    RewardParams where
  rewardSourceIsTokenomics := reward.rewardSource = .tokenomics
  emissionYear := reward.emissionYear
  rewardBlockSecs
  initialEmissionRateBps := initialEmissionRateBps
  tailEmissionStartYear := reward.tailEmissionStartYear
  tailEmissionRateBps := reward.tailEmissionRateBps
  playerRewardAllocationBps := playerRewardAllocationBps
  serviceRewardAllocationBps := serviceRewardAllocationBps
  collectRewardBps := reward.collectRewardBps
  storeRewardBps := reward.storeRewardBps
  verifyRewardBps := reward.verifyRewardBps
  proposeRewardBps := reward.proposeRewardBps
  configuredPlayerBlockReward := reward.playerBlockReward
  effectivePlayerBlockReward
  targetNetworkWeightUnits
  rewardAdjustmentCapBps
  tier1WeightPpm := 1000000
  tier2WeightMinPpm := 300000
  tier2WeightMaxPpm := 600000
  tier3WeightMinPpm := 50000
  tier3WeightMaxPpm := 150000
  appWeightOverrides :=
    reward.gameMappings.map fun mapping => ⟨mapping.appId, mapping.gameCoefficientPpm⟩
  rewardBurnThreshold := 10000
  rewardBurnBps := 1000
  governanceBurnBps := 100

def localGovernanceParams : GovernanceParams where
  paramsUpdateBond := 10000
  paramsUpdateQuorumBps := 2500
  paramsUpdateApprovalBps := 6000
  slowParamsUpdateBond := 20000
  slowParamsUpdateQuorumBps := 3300
  slowParamsUpdateApprovalBps := 7500

def localSlashingParams : SlashingParams where
  doubleSignBps := 5000
  offlineBps := 100
  mediumDeviationBps := 500
  severeDeviationBps := 2000

section Open

variable (config : NodeConfig)

/-- The configured rewards, and what the stored proposals override in them. -/
def NodeConfig.rewardSettings (store : InMemoryStore) : RewardSettings :=
  ⟨config.reward, latestActivatedProtocolParams store.paramsUpdateProposals⟩

def effectiveMinRetentionEpochs (store : InMemoryStore) : ℕ :=
  ((latestActivatedProtocolParams store.paramsUpdateProposals).map (·.minRetentionEpochs)).getD
    config.retentionEpochs

def localProtocolParams (store : InMemoryStore) (challengeWindowBlocks : ℕ) : ProtocolParams where
  slotSeconds := clampPositive32 config.pollIntervalSecs
  epochSlots := clampPositive32 config.slotsPerEpoch
  committeeSize := 21
  unbondingBlocks := 5
  minVerifyBond := 100
  minProposeBond := 10000
  challengeWindowBlocks
  maxEmergencyBrakeBlocks := 100
  minRetentionEpochs := effectiveMinRetentionEpochs config store
  fee := localFeeParams
  rewards :=
    let settings := config.rewardSettings store
    config.reward.localRewardParams settings.effectiveRewardBlockSecs
      settings.effectivePlayerBlockReward settings.effectiveTargetNetworkWeightUnits
      settings.effectiveRewardAdjustmentCapBps
  governance := localGovernanceParams
  slashing := localSlashingParams
  mutualProof := {}

/-- The parameters that the commands of governance work under. -/
def openedParams (store : InMemoryStore) (challengeWindowBlocks : ℕ) : ProtocolParams :=
  (latestActivatedProtocolParams store.paramsUpdateProposals).getD
    (localProtocolParams config store challengeWindowBlocks)

/-! ## The protocol state -/

/-- Invalid parameters panic. -/
def withStore (params : ProtocolParams) (height currentEpoch : ℕ) (store : InMemoryStore) :
    Attempt NodeSettlementError ProtocolState :=
  match params.validate with
  | .ok () => .ok { height, currentEpoch, params, store }
  | .error _ => .error .panic

def enabledCapabilities : List Capability :=
  (if config.env.collect then [.collect] else []) ++ (if config.env.store then [.store] else []) ++
    (if config.verify then [.verify] else []) ++ (if config.propose then [.propose] else []) ++
    if config.archive then [.archive] else []

/-- The registry entry of the node itself. -/
def localNodeRegistry (identity : KeyPair) (params : ProtocolParams) : NodeRegistry where
  nodeId := config.env.nodeId
  pubkey := identity.publicKey.bytes
  rewardAddress := config.identityAddress
  bond := max params.minProposeBond params.minVerifyBond
  status := .active
  enabledCapabilities := enabledCapabilities config
  reputation :=
    { scorePpm := 1000000
      successfulChallenges := 0
      failedChallenges := 0
      challengeableFaults := 0
      collectionSuccesses := 0
      collectionFailures := 0
      storageProofsPassed := 0
      storageProofsFailed := 0
      lastUpdatedEpoch := config.defaultEpochId }
  joinedAtHeight := 1

def ensureAccountExists (s : ProtocolState) (address : Address) : ProtocolState :=
  if s.store.accounts[address]? = none then
    s.insertAccount address { address, balance := 0, staked := 0, locked := 0, nonce := 0 }
  else s

def bootstrapLocalChainState (identity : KeyPair) (s : ProtocolState) : ProtocolState :=
  let registered :=
    if s.store.nodes[config.env.nodeId]? = none then
      s.insertNode config.env.nodeId (localNodeRegistry config identity s.params)
    else s
  ensureAccountExists registered config.identityAddress

variable (files : LocalChainFiles)

def openLocalProtocolState (challengeWindowBlocks : ℕ) :
    Attempt NodeSettlementError (LocalChainRuntimeState × ProtocolState) := do
  let runtime := files.loadRuntime 0 config.defaultEpochId
  let store := files.openStore
  let currentEpoch := max runtime.currentEpoch config.defaultEpochId
  let state ← withStore (openedParams config store challengeWindowBlocks) runtime.height
    currentEpoch store
  let identity ← require config.env.identityKeypair (.refused .missingIdentity)
  return (runtime, bootstrapLocalChainState config identity state)

/-- How the settlement of an epoch begins: the files are read, and the state is taken to the
submission height. -/
def beginSettlement (identity : KeyPair) (epochId submissionHeight challengeWindowBlocks : ℕ) :
    Attempt NodeSettlementError ProtocolState := do
  let runtime := files.loadRuntime (submissionHeight - 1) epochId
  ensure (runtime.height < submissionHeight)
    (.refused (.submissionHeightRegression submissionHeight runtime.height))
  let store := files.openStore
  let currentEpoch := max runtime.currentEpoch epochId
  let state ← withStore (localProtocolParams config store challengeWindowBlocks) runtime.height
    currentEpoch store
  return { bootstrapLocalChainState config identity state with height := submissionHeight }

end Open

end PoleProtocol.Node
