import PoleProtocol.Node.LocalChain

/-!
# The parameters of a settlement

The commands of governance work under the activated parameters. A settlement takes only five values
from them and everything else from the configuration, so both work under the same parameters just
when the activated ones follow the configuration elsewhere.
-/

namespace PoleProtocol.Node

open Framework Ledger OrderedMap Action

section Params

variable (env : Ledger.Env) (config : NodeConfig) (challengeWindowBlocks : ℕ)

/-- The parameters say what the configuration says, but for the retention, the reward block, the
player reward, the target weight and the adjustment cap. -/
structure FollowsConfig (params : ProtocolParams) : Prop where
  slotSeconds : params.slotSeconds = clampPositive32 config.pollIntervalSecs
  epochSlots : params.epochSlots = clampPositive32 config.slotsPerEpoch
  committeeSize : params.committeeSize = 21
  unbondingBlocks : params.unbondingBlocks = 5
  minVerifyBond : params.minVerifyBond = 100
  minProposeBond : params.minProposeBond = 10000
  challengeWindow : params.challengeWindowBlocks = challengeWindowBlocks
  maxEmergencyBrakeBlocks : params.maxEmergencyBrakeBlocks = 100
  fee : params.fee = localFeeParams
  rewards : params.rewards = config.reward.localRewardParams params.rewards.rewardBlockSecs
    params.rewards.effectivePlayerBlockReward params.rewards.targetNetworkWeightUnits
    params.rewards.rewardAdjustmentCapBps
  governance : params.governance = localGovernanceParams
  slashing : params.slashing = localSlashingParams
  mutualProof : params.mutualProof = {}

/-- A settlement and the commands of governance work under the same parameters, and either accepts
a transition just when the other one accepts it in the same state. -/
structure SameParams (store : InMemoryStore) : Prop where
  params : localProtocolParams config store challengeWindowBlocks =
    openedParams config store challengeWindowBlocks
  accepts : ∀ (call : Call) (height currentEpoch : ℕ) (store' : InMemoryStore),
    (call.perform env).succeeds
        ⟨height, currentEpoch, localProtocolParams config store challengeWindowBlocks, store'⟩ =
      (call.perform env).succeeds
        ⟨height, currentEpoch, openedParams config store challengeWindowBlocks, store'⟩

variable {config challengeWindowBlocks}

theorem sameParams_of_eq {store : InMemoryStore}
    (h : localProtocolParams config store challengeWindowBlocks =
      openedParams config store challengeWindowBlocks) :
    SameParams env config challengeWindowBlocks store := by
  refine ⟨h, ?_⟩
  intro call height currentEpoch store'
  rw [h]

/-- A settlement works under the activated parameters when these follow the configuration. -/
theorem localProtocolParams_eq_iff {store : InMemoryStore} {params : ProtocolParams}
    (hactivated : latestActivatedProtocolParams store.paramsUpdateProposals = some params) :
    localProtocolParams config store challengeWindowBlocks = params ↔
      FollowsConfig config challengeWindowBlocks params := by
  unfold localProtocolParams effectiveMinRetentionEpochs NodeConfig.rewardSettings
    RewardSettings.effectiveRewardBlockSecs RewardSettings.effectivePlayerBlockReward
    RewardSettings.effectiveTargetNetworkWeightUnits
    RewardSettings.effectiveRewardAdjustmentCapBps
  simp only [hactivated, Option.map_some, Option.getD_some]
  constructor
  · intro h
    rw [← h]
    exact ⟨rfl, rfl, rfl, rfl, rfl, rfl, rfl, rfl, rfl, rfl, rfl, rfl, rfl⟩
  · intro h
    obtain ⟨slotSeconds, epochSlots, committeeSize, unbondingBlocks, minVerifyBond, minProposeBond,
      window, maxEmergencyBrakeBlocks, minRetentionEpochs, fee, rewards, governance, slashing,
      mutualProof⟩ := params
    obtain ⟨rfl, rfl, rfl, rfl, rfl, rfl, rfl, rfl, rfl, hrewards, rfl, rfl, rfl⟩ := h
    dsimp only at hrewards ⊢
    rw [← hrewards]

theorem bootstrapLocalChainState_params (identity : KeyPair) (s : ProtocolState) :
    (bootstrapLocalChainState config identity s).params = s.params := by
  unfold bootstrapLocalChainState ensureAccountExists
  dsimp only
  split <;> split <;> rfl

theorem withStore_params {params : ProtocolParams} {height currentEpoch : ℕ}
    {store : InMemoryStore} {s : ProtocolState}
    (h : withStore params height currentEpoch store = .ok s) : s.params = params := by
  unfold withStore at h
  split at h
  · cases h
    rfl
  · cases h

end Params

/-- What the two ways into the local chain put into the state, and when it is the same. -/
theorem settlement_params_iff (env : Ledger.Env) (config : NodeConfig) (files : LocalChainFiles)
    (challengeWindowBlocks : ℕ) :
    (∀ (identity : KeyPair) (epochId submissionHeight : ℕ) (s : ProtocolState),
      beginSettlement config files identity epochId submissionHeight challengeWindowBlocks =
        .ok s → s.params = localProtocolParams config files.openStore challengeWindowBlocks) ∧
      (∀ (runtime : LocalChainRuntimeState) (s : ProtocolState),
        openLocalProtocolState config files challengeWindowBlocks = .ok (runtime, s) →
          s.params = openedParams config files.openStore challengeWindowBlocks) ∧
      (SameParams env config challengeWindowBlocks files.openStore ↔
        ∀ params ∈ latestActivatedProtocolParams files.openStore.paramsUpdateProposals,
          FollowsConfig config challengeWindowBlocks params) := by
  refine ⟨?_, ?_, ?_⟩
  · intro identity epochId submissionHeight s h
    simp only [beginSettlement, bind_eq_ok, pure_eq_ok] at h
    obtain ⟨_, _, state, hstate, rfl⟩ := h
    exact (bootstrapLocalChainState_params identity state).trans (withStore_params hstate)
  · intro runtime s h
    simp only [openLocalProtocolState, bind_eq_ok, pure_eq_ok, Prod.mk.injEq] at h
    obtain ⟨state, hstate, identity, _, _, rfl⟩ := h
    exact (bootstrapLocalChainState_params identity state).trans (withStore_params hstate)
  · cases hactivated : latestActivatedProtocolParams files.openStore.paramsUpdateProposals with
    | none =>
        refine iff_of_true (sameParams_of_eq env ?_) fun params hmem => absurd hmem (by simp)
        rw [openedParams, hactivated, Option.getD_none]
    | some params =>
        have hopened : openedParams config files.openStore challengeWindowBlocks = params := by
          rw [openedParams, hactivated, Option.getD_some]
        constructor
        · rintro hsame _ ⟨⟩
          exact (localProtocolParams_eq_iff hactivated).mp (hsame.params.trans hopened)
        · intro hfollows
          refine sameParams_of_eq env ?_
          rw [hopened]
          exact (localProtocolParams_eq_iff hactivated).mpr (hfollows params rfl)

namespace SettlementSample

def ownKey : Hash32 := 7
def ownId : NodeId := stableHash32 ownKey.bytes

/-- A node with an identity, which stores nothing. -/
def nodeEnv : NodeEnv :=
  { RootSample.env with nodeId := ownId, identityKeypair := some ⟨ownKey, fun _ => [1]⟩ }

/-- A configuration that says what the default parameters say. -/
def config : NodeConfig where
  env := nodeEnv
  identityAddress := ownId
  verify := true
  propose := true
  archive := false
  defaultEpochId := 1
  pollIntervalSecs := 300
  slotsPerEpoch := 12
  retentionEpochs := 2
  reward :=
    { rewardSource := .tokenomics
      emissionYear := 1
      rewardBlockSecs := 3600
      playerBlockReward := 1000
      rewardAdjustmentPeriodBlocks := 168
      targetNetworkWeightUnits := 150000000000000
      rewardAdjustmentCapBps := 2000
      collectRewardBps := 5000
      storeRewardBps := 2500
      verifyRewardBps := 1500
      proposeRewardBps := 1000
      tailEmissionStartYear := 4
      tailEmissionRateBps := 200
      gameMappings := [] }

/-- The primitives of a ledger on which every signature verifies. -/
def ledger : Ledger.Env where
  verifySignature _ _ _ := true
  encode _ := some []
  encodeParams _ := .ok []
  encodeParams_of_encode _ _ _ := ⟨[], rfl⟩
  wide := .panic
  narrow := .panic

/-- An activated proposal that raises the bond of proposers. -/
def raisedBond : GovernanceParamsUpdateProposalRecord where
  proposalId := 1
  proposer := 2
  kind := .fastParams
  effectiveEpoch := 5
  submittedHeight := 1
  bondAmount := 10000
  paramsHash := 0
  params := { defaultProtocolParams with minProposeBond := 20000 }
  state := .activated

/-- The files of a local chain on which the proposal is activated. -/
def raisedFiles : LocalChainFiles where
  runtime := some ⟨40, 5⟩
  store := some { paramsUpdateProposals :=
    (∅ : OrderedMap Hash32 GovernanceParamsUpdateProposalRecord).insert 1 raisedBond }

end SettlementSample

open SettlementSample in
/-- Governance works with the raised bond, settlements with the old one. -/
theorem raised_bond_ignored :
    raisedBond.params.validate = .ok () ∧
      (openedParams config raisedFiles.openStore 20).minProposeBond = 20000 ∧
      (localProtocolParams config raisedFiles.openStore 20).minProposeBond = 10000 ∧
      ¬ SameParams ledger config 20 raisedFiles.openStore := by
  have hopened : (openedParams config raisedFiles.openStore 20).minProposeBond = 20000 := by
    decide +kernel
  refine ⟨by decide, hopened, rfl, fun hsame => ?_⟩
  have hbond := congrArg ProtocolParams.minProposeBond hsame.params
  rw [hopened] at hbond
  exact absurd hbond (by decide)

end PoleProtocol.Node
