import PoleProtocol.Chain.Finality
import PoleProtocol.Node.AggregationOrder
import PoleProtocol.Node.SettlementRuns

/-!
# The leaf counts of a commit

A commit counts the leaves of its aggregates and of its rewards as one, whatever the number of
records under the root. The chain counts its records.
-/

namespace PoleProtocol.Node

open Framework Ledger

/-! ## The commit on the wire -/

def merkleWire (commitment : MerkleCommitment) : Chain.MerkleCommitment :=
  ⟨hex32 commitment.root, commitment.leafCount⟩

def epochCommitToWire (commit : EpochCommit) (proposerAddress : String)
    (totalNetworkWeightUnits : ℕ) : Chain.EpochCommit where
  epochId := commit.epochId
  acceptedBatches := some (merkleWire commit.acceptedBatches)
  observations := some (merkleWire commit.observations)
  aggregates := some (merkleWire commit.aggregates)
  rewards := some (merkleWire commit.rewards)
  availability := some (merkleWire commit.availability)
  randomnessSeedHex := hex32 commit.randomnessSeed
  proposerAddress
  challengeOpenHeight := toInt64 commit.challengeOpenHeight
  challengeDeadlineHeight := toInt64 commit.challengeDeadlineHeight
  finalized := false
  totalNetworkWeightUnits

/-- The chain holds these records of the epoch and no others. Recipients are account addresses,
which the chain's encoder writes without escapes. -/
structure HoldsRecords (senv : SettlementEnv) (s : Chain.KeeperState) (epochId : ℕ)
    (aggregates : List AggregateRecord) (rewards : List RewardRecord)
    (recipient : RewardRecord → String) : Prop where
  listedAggregates : (s.aggregateRecordsForEpoch epochId).Perm
    (aggregates.map chainAggregateRecord)
  listedRewards : (s.rewardRecordsForEpoch epochId).Perm
    (rewards.map fun record => chainRewardRecord record (recipient record))
  recipients : ∀ record ∈ rewards,
    chainRecipient senv.encodeBech32 record = .ok (recipient record)
  addresses : ∀ record ∈ rewards, HtmlSafe (recipient record)

/-- The commit counts the records under its roots, and the roots and counts pass the chain's check
once the chain holds these records. -/
structure CountsRecords (senv : SettlementEnv) (env : NodeEnv) (epochId : ℕ)
    (aggregates : List AggregateRecord) (rewards : List RewardRecord) (commit : EpochCommit) :
    Prop where
  aggregateCount : commit.aggregates.leafCount = aggregates.length
  rewardCount : commit.rewards.leafCount = rewards.length
  validates : ∀ (chainEnv : Chain.Env) (s : Chain.KeeperState) (recipient : RewardRecord → String)
    (proposerAddress : String), chainEnv.sha256 = env.chainSha256 →
    HoldsRecords senv s epochId aggregates rewards recipient →
    s.validateEpochRoots chainEnv epochId (epochCommitToWire commit proposerAddress
      (Chain.KeeperState.totalWeightUnits (s.aggregateRecordsForEpoch epochId))) = .ok ()

/-- No record, or one under a root that is not zero. -/
def OneLeaf (root : Hash32) (count : ℕ) : Prop := count = 0 ∨ (count = 1 ∧ root ≠ 0)

instance (root : Hash32) (count : ℕ) : Decidable (OneLeaf root count) :=
  inferInstanceAs (Decidable (_ ∨ _))

section Roots

variable {env : NodeEnv}

theorem rootCommitment_leafCount_iff {root : Hash32} {count : ℕ} (hempty : count = 0 → root = 0) :
    (rootCommitment root).leafCount = count ↔ OneLeaf root count := by
  unfold rootCommitment OneLeaf
  by_cases hzero : root = 0
  · rw [if_pos hzero]
    constructor
    · exact fun h => .inl h.symm
    · rintro (h | h)
      · exact h.symm
      · exact absurd hzero h.2
  · rw [if_neg hzero]
    constructor
    · exact fun h => .inr ⟨h.symm, hzero⟩
    · rintro (h | h)
      · exact absurd (hempty h) hzero
      · exact h.1.symm

/-- The chain derives the commitment of the node from no record or from one. -/
theorem derived_of_oneLeaf {α : Type} [Chain.JsonRecord α] {records : List α} {root : Hash32}
    (hroot : env.merkleRoot (records.map fun record =>
      env.merkleLeaf (Chain.JsonRecord.json record).toUTF8.toList) = root)
    (hone : OneLeaf root records.length) :
    Chain.merkleRootHexForRecords env.chainSha256 records = merkleWire (rootCommitment root) := by
  have hempty : records.length = 0 → root = 0 := by
    intro hlength
    rw [← hroot, List.length_eq_zero_iff.mp hlength]
    rfl
  have hderived := merkleRootHexForRecords_root env records
  have hcount := merkleRootHexForRecords_leafCount env.chainSha256 records
  have hsmall : wrap32 records.length = records.length := by
    apply Nat.mod_eq_of_lt
    rcases hone with h | h <;> omega
  rw [hroot] at hderived
  rw [hsmall, ← (rootCommitment_leafCount_iff hempty).mpr hone] at hcount
  generalize Chain.merkleRootHexForRecords env.chainSha256 records = derived at hderived hcount
  obtain ⟨derivedRoot, leafCount⟩ := derived
  dsimp only at hderived hcount
  rw [hderived, hcount]
  rfl

theorem perm_eq_of_length_le_one {α : Type} {xs ys : List α} (hperm : xs.Perm ys)
    (hshort : ys.length ≤ 1) : xs = ys := by
  match ys with
  | [] => exact hperm.eq_nil
  | [y] => exact List.perm_singleton.mp hperm

theorem OneLeaf.length_le {root : Hash32} {count : ℕ} (h : OneLeaf root count) : count ≤ 1 := by
  rcases h with h | h <;> omega

theorem aggregates_derived {s : Chain.KeeperState} {epochId : ℕ}
    {aggregates : List AggregateRecord}
    (hperm : (s.aggregateRecordsForEpoch epochId).Perm (aggregates.map chainAggregateRecord))
    (hone : OneLeaf (aggregateRecordRoot env aggregates) aggregates.length) :
    Chain.merkleRootHexForRecords env.chainSha256 (s.aggregateRecordsForEpoch epochId) =
      merkleWire (rootCommitment (aggregateRecordRoot env aggregates)) := by
  have hshort : (aggregates.map chainAggregateRecord).length ≤ 1 := by
    rw [List.length_map]
    exact hone.length_le
  have hsorted : sortByKey chainAggregateKey (aggregates.map chainAggregateRecord) =
      aggregates.map chainAggregateRecord :=
    perm_eq_of_length_le_one (sortByKey_perm _ _) hshort
  rw [perm_eq_of_length_le_one hperm hshort]
  refine derived_of_oneLeaf ?_ ?_
  · rw [aggregateRecordRoot_chain, hsorted]
  · rwa [List.length_map]

theorem rewards_derived {encodeBech32 : String → Bytes → Except String String}
    {s : Chain.KeeperState} {epochId : ℕ} {rewards : List RewardRecord}
    {recipient : RewardRecord → String} {root : Hash32}
    (hperm : (s.rewardRecordsForEpoch epochId).Perm
      (rewards.map fun record => chainRewardRecord record (recipient record)))
    (hrecipient : ∀ record ∈ rewards, chainRecipient encodeBech32 record = .ok (recipient record))
    (hsafe : ∀ record ∈ rewards, HtmlSafe (recipient record))
    (hroot : rewardRecordRoot encodeBech32 env rewards = .ok root)
    (hone : OneLeaf root rewards.length) :
    Chain.merkleRootHexForRecords env.chainSha256 (s.rewardRecordsForEpoch epochId) =
      merkleWire (rootCommitment root) := by
  have hshort :
      (rewards.map fun record => chainRewardRecord record (recipient record)).length ≤ 1 := by
    rw [List.length_map]
    exact hone.length_le
  have hsame := rewardRecordRoot_eq env hrecipient hsafe (List.Perm.refl _) (by
    refine List.pairwise_iff_get.mpr ?_
    intro i j hij
    have hi := i.isLt
    have hj := j.isLt
    omega)
  rw [hroot] at hsame
  rw [perm_eq_of_length_le_one hperm hshort]
  refine derived_of_oneLeaf (Except.ok.inj hsame).symm ?_
  rwa [List.length_map]

end Roots

/-! ## The commits of a node -/

section Commits

variable {senv : SettlementEnv} {config : NodeConfig} {store : InMemoryStore} {data : LocalData}
  {epochId currentHeight challengeWindowBlocks : ℕ}

theorem buildEpochCommit_counts {inputs : EpochCommitInputs} {commit : EpochCommit}
    (h : buildEpochCommit senv config inputs = .ok commit) :
    commit.aggregates = rootCommitment inputs.aggregatesRoot ∧
      commit.rewards = rootCommitment inputs.rewardsRoot := by
  simp only [buildEpochCommit, bind_eq_ok, ensure_eq_ok, require_eq_ok, pure_eq_ok] at h
  obtain ⟨_, _, _, _, deadline, _, rfl⟩ := h
  exact ⟨rfl, rfl⟩

theorem countsRecords_iff (epochId : ℕ) {aggregates : List AggregateRecord}
    {rewards : List RewardRecord} {rewardsRoot : Hash32} {commit : EpochCommit}
    (hrewards : rewardRecordRoot senv.encodeBech32 config.env rewards = .ok rewardsRoot)
    (hcommit : commit.aggregates = rootCommitment (aggregateRecordRoot config.env aggregates) ∧
      commit.rewards = rootCommitment rewardsRoot) :
    CountsRecords senv config.env epochId aggregates rewards commit ↔
      OneLeaf (aggregateRecordRoot config.env aggregates) aggregates.length ∧
        OneLeaf rewardsRoot rewards.length := by
  have hnone : aggregates.length = 0 → aggregateRecordRoot config.env aggregates = 0 := by
    intro hlength
    rw [List.length_eq_zero_iff.mp hlength]
    rfl
  have hunrewarded : rewards.length = 0 → rewardsRoot = 0 := by
    intro hlength
    rw [List.length_eq_zero_iff.mp hlength] at hrewards
    exact (Except.ok.inj hrewards).symm
  constructor
  · intro h
    have haggregates := h.aggregateCount
    have hrewarded := h.rewardCount
    rw [hcommit.1, rootCommitment_leafCount_iff hnone] at haggregates
    rw [hcommit.2, rootCommitment_leafCount_iff hunrewarded] at hrewarded
    exact ⟨haggregates, hrewarded⟩
  · rintro ⟨haggregates, hrewarded⟩
    constructor
    · rw [hcommit.1]
      exact (rootCommitment_leafCount_iff hnone).mpr haggregates
    · rw [hcommit.2]
      exact (rootCommitment_leafCount_iff hunrewarded).mpr hrewarded
    · intro chainEnv s recipient proposerAddress hsha hholds
      rw [Chain.validateEpochRoots_iff, Chain.KeeperState.recomputedCommit, hsha,
        aggregates_derived hholds.listedAggregates haggregates,
        rewards_derived hholds.listedRewards hholds.recipients hholds.addresses hrewards hrewarded]
      simp only [epochCommitToWire, hcommit.1, hcommit.2]

/-- A root of zero stands for the root of the local records. -/
theorem localCommit_counts {rewards : EpochRewardArtifact}
    {localRewardsRoot aggregatesRoot rewardsRoot : Hash32}
    {result : EpochCommit × EpochCommitArtifact}
    (hrewards : rewardLocalEpoch senv config store data epochId = .ok rewards)
    (hroot : rewardRecordRoot senv.encodeBech32 config.env rewards.rewards = .ok localRewardsRoot)
    (haggregatesRoot : aggregatesRoot = 0 ∨ aggregatesRoot = aggregateRecordRoot config.env
      ((aggregateLocalEpoch senv config store data epochId).records.map (·.aggregate)))
    (hrewardsRoot : rewardsRoot = 0 ∨ rewardsRoot = localRewardsRoot)
    (h : buildEpochCommitFromLocalData senv config store data epochId currentHeight
      challengeWindowBlocks aggregatesRoot rewardsRoot = .ok result) :
    result.1.aggregates = rootCommitment (aggregateRecordRoot config.env
        ((aggregateLocalEpoch senv config store data epochId).records.map (·.aggregate))) ∧
      result.1.rewards = rootCommitment localRewardsRoot := by
  have hresolved : (if aggregatesRoot = 0 then aggregateRecordRoot config.env
        ((aggregateLocalEpoch senv config store data epochId).records.map (·.aggregate))
      else aggregatesRoot) = aggregateRecordRoot config.env
        ((aggregateLocalEpoch senv config store data epochId).records.map (·.aggregate)) := by
    split
    · rfl
    · next hnonzero => exact haggregatesRoot.resolve_left hnonzero
  unfold buildEpochCommitFromLocalData at h
  simp only [hresolved] at h
  by_cases hzero : rewardsRoot = 0
  · simp only [if_pos hzero, bind_eq_ok, reported_ok, pure_eq_ok, hrewards, hroot,
      Except.ok.injEq, exists_eq_left'] at h
    obtain ⟨commit, hcommit, rfl⟩ := h
    exact buildEpochCommit_counts hcommit
  · simp only [if_neg hzero, bind_eq_ok, pure_eq_ok, exists_eq_left'] at h
    obtain ⟨commit, hcommit, rfl⟩ := h
    rw [← hrewardsRoot.resolve_left hzero]
    exact buildEpochCommit_counts hcommit

theorem preparation_counts {preparation : EpochPreparationComputation}
    (h : computeLocalEpochPreparation senv config store data epochId currentHeight
      challengeWindowBlocks = .ok preparation) :
    ∃ rewardsRoot, rewardRecordRoot senv.encodeBech32 config.env
        preparation.rewardArtifact.rewards = .ok rewardsRoot ∧
      preparation.epochCommit.aggregates = rootCommitment (aggregateRecordRoot config.env
        (preparation.aggregationArtifact.records.map (·.aggregate))) ∧
      preparation.epochCommit.rewards = rootCommitment rewardsRoot := by
  simp only [computeLocalEpochPreparation, bind_eq_ok, reported_ok, pure_eq_ok] at h
  obtain ⟨rewards, hrewards, root, hroot, report, _, result, hcommit, rfl⟩ := h
  exact ⟨root, hroot, localCommit_counts hrewards hroot (.inr rfl) (.inr rfl) hcommit⟩

end Commits

/-- The commit that is built from the roots of some records, the one a node builds from its local
data, and the one of a preparation count the records under their roots, and pass the chain's check
of roots and counts once it holds these records, exactly when there is at most one aggregate and at
most one reward, and no root over a record is zero. -/
theorem commit_counts_iff (senv : SettlementEnv) (config : NodeConfig) :
    (∀ (inputs : EpochCommitInputs) (commit : EpochCommit) (aggregates : List AggregateRecord)
      (rewards : List RewardRecord), buildEpochCommit senv config inputs = .ok commit →
      inputs.aggregatesRoot = aggregateRecordRoot config.env aggregates →
      rewardRecordRoot senv.encodeBech32 config.env rewards = .ok inputs.rewardsRoot →
      (CountsRecords senv config.env inputs.epochId aggregates rewards commit ↔
        OneLeaf inputs.aggregatesRoot aggregates.length ∧
          OneLeaf inputs.rewardsRoot rewards.length)) ∧
    ∀ (store : InMemoryStore) (data : LocalData) (epochId currentHeight window : ℕ),
      (∀ (aggregatesRoot rewardsRoot localRewardsRoot : Hash32) (artifact : EpochRewardArtifact)
        (result : EpochCommit × EpochCommitArtifact),
        rewardLocalEpoch senv config store data epochId = .ok artifact →
        rewardRecordRoot senv.encodeBech32 config.env artifact.rewards = .ok localRewardsRoot →
        (aggregatesRoot = 0 ∨ aggregatesRoot = aggregateRecordRoot config.env
          ((aggregateLocalEpoch senv config store data epochId).records.map (·.aggregate))) →
        (rewardsRoot = 0 ∨ rewardsRoot = localRewardsRoot) →
        buildEpochCommitFromLocalData senv config store data epochId currentHeight window
          aggregatesRoot rewardsRoot = .ok result →
        (CountsRecords senv config.env epochId
            ((aggregateLocalEpoch senv config store data epochId).records.map (·.aggregate))
            artifact.rewards result.1 ↔
          OneLeaf (aggregateRecordRoot config.env
              ((aggregateLocalEpoch senv config store data epochId).records.map (·.aggregate)))
            (aggregateLocalEpoch senv config store data epochId).records.length ∧
          OneLeaf localRewardsRoot artifact.rewards.length)) ∧
      ∀ preparation : EpochPreparationComputation,
        computeLocalEpochPreparation senv config store data epochId currentHeight window =
          .ok preparation →
        (CountsRecords senv config.env epochId
            (preparation.aggregationArtifact.records.map (·.aggregate))
            preparation.rewardArtifact.rewards preparation.epochCommit ↔
          OneLeaf preparation.epochCommit.aggregates.root
            preparation.aggregationArtifact.records.length ∧
          OneLeaf preparation.epochCommit.rewards.root
            preparation.rewardArtifact.rewards.length) := by
  refine ⟨?_, fun store data epochId currentHeight window => ⟨?_, ?_⟩⟩
  · intro inputs commit aggregates rewards hcommit haggregates hrewards
    have hcounts := buildEpochCommit_counts hcommit
    rw [haggregates] at hcounts ⊢
    exact countsRecords_iff _ hrewards hcounts
  · intro aggregatesRoot rewardsRoot localRewardsRoot artifact result hartifact hroot haggregates
      hrewards hresult
    have hcounts := countsRecords_iff epochId hroot
      (localCommit_counts hartifact hroot haggregates hrewards hresult)
    rwa [List.length_map] at hcounts
  · intro preparation hpreparation
    obtain ⟨rewardsRoot, hroot, hcommitted⟩ := preparation_counts hpreparation
    have hcounts := countsRecords_iff epochId hroot hcommitted
    rw [List.length_map] at hcounts
    rw [hcommitted.1, hcommitted.2]
    exact hcounts

namespace CountSample

open SettlementSample

/-- The local data of a node with readings of some apps. -/
def dataOf (apps : List ℕ) : LocalData :=
  { ownData with
    inputs := { ownData.inputs with
      batches := [{ ownBatch with
        observations := apps.map fun appId =>
          { RewardSample.observation ownId with appId } }] } }

def prepared (apps : List ℕ) : Attempt NodePreparationError EpochPreparationComputation :=
  computeLocalEpochPreparation services settlingConfig {} (dataOf apps) 1 10 20

end CountSample

open SettlementSample CountSample in
/-- One app and one rewarded node. -/
theorem commit_counts_one_app : ∃ preparation, prepared [730] = .ok preparation ∧
    CountsRecords services nodeEnv 1 (preparation.aggregationArtifact.records.map (·.aggregate))
      preparation.rewardArtifact.rewards preparation.epochCommit := by
  have hrun : (prepared [730]).toOption.any (fun preparation =>
      OneLeaf preparation.epochCommit.aggregates.root
          preparation.aggregationArtifact.records.length ∧
        OneLeaf preparation.epochCommit.rewards.root
          preparation.rewardArtifact.rewards.length) = true := by
    decide +kernel
  cases hprepared : prepared [730] with
  | error e =>
      rw [hprepared] at hrun
      cases hrun
  | ok preparation =>
      rw [hprepared] at hrun
      refine ⟨preparation, rfl, ?_⟩
      exact (((commit_counts_iff services settlingConfig).2 {} (dataOf [730]) 1 10 20).2 preparation
        hprepared).mpr (of_decide_eq_true hrun)

open SettlementSample CountSample in
/-- Two apps: two aggregates under the root, and one leaf in the commit. -/
theorem two_apps_one_leaf : ∃ preparation, prepared [730, 570] = .ok preparation ∧
    preparation.aggregationArtifact.records.length = 2 ∧
    preparation.epochCommit.aggregates.leafCount = 1 ∧
    ¬ CountsRecords services nodeEnv 1
      (preparation.aggregationArtifact.records.map (·.aggregate))
      preparation.rewardArtifact.rewards preparation.epochCommit := by
  have hrun : (prepared [730, 570]).toOption.any (fun preparation =>
      preparation.aggregationArtifact.records.length = 2 ∧
        preparation.epochCommit.aggregates.leafCount = 1) = true := by
    decide +kernel
  cases hprepared : prepared [730, 570] with
  | error e =>
      rw [hprepared] at hrun
      cases hrun
  | ok preparation =>
      rw [hprepared] at hrun
      obtain ⟨htwo, hone⟩ := of_decide_eq_true hrun
      refine ⟨preparation, rfl, htwo, hone, ?_⟩
      intro hcounts
      have hcount := hcounts.aggregateCount
      rw [hone, List.length_map, htwo] at hcount
      cases hcount

end PoleProtocol.Node
