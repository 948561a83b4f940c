import PoleProtocol.Node.RewardDistribution
import PoleProtocol.Node.SettlementSteps

/-!
# The rewards that a prepared commit names

A preparation hands its rewards over in the order of the chain's store. The local store lists them
by node id instead; the root of the commit is the root of both listings.
-/

namespace PoleProtocol.Node

open Framework Ledger OrderedMap

/-! ## The root of a listing -/

section Root

variable {encodeBech32 : String → Bytes → Except String String} {env : NodeEnv}
  {records : List RewardRecord}

/-- A record under its recipient, as the root sorts it. -/
def recipientEntry (encodeBech32 : String → Bytes → Except String String) (record : RewardRecord) :
    ℕ × String × RewardRecord :=
  (record.epochId, (recordKey encodeBech32 record).2, record)

def entriesRoot (env : NodeEnv) (entries : List (ℕ × String × RewardRecord)) : Hash32 :=
  env.merkleRoot (entries.map fun entry =>
    env.merkleLeaf (rewardRecordToChainJson entry.2.2 entry.2.1).toUTF8.toList)

private theorem recipients_of_mapM {entries : List (ℕ × String × RewardRecord)}
    (h : (records.mapM fun record => do
      let recipient ← chainRecipient encodeBech32 record
      return (record.epochId, recipient, record) :
        Except String (List (ℕ × String × RewardRecord))) = .ok entries) :
    ∀ record ∈ records,
      chainRecipient encodeBech32 record = .ok (recordKey encodeBech32 record).2 := by
  intro record hmem
  obtain ⟨entry, _, hentry⟩ := ok_of_mapM_ok h record hmem
  obtain ⟨recipient, hrecipient, _⟩ := bind_eq_ok.mp hentry
  rw [recordKey, hrecipient]
  rfl

/-- A root is computed when every record has a recipient, from the sorted entries. -/
theorem rewardRecordRoot_ok {root : Hash32} :
    rewardRecordRoot encodeBech32 env records = .ok root ↔
      (∀ record ∈ records,
        chainRecipient encodeBech32 record = .ok (recordKey encodeBech32 record).2) ∧
      entriesRoot env (sortByKey recipientKey (records.map (recipientEntry encodeBech32))) =
        root := by
  unfold rewardRecordRoot
  rw [bind_eq_ok]
  constructor
  · rintro ⟨entries, hentries, hroot⟩
    have hrecipients := recipients_of_mapM hentries
    rw [mapM_recipients hrecipients, Except.ok.injEq] at hentries
    subst hentries
    exact ⟨hrecipients, Except.ok.inj hroot⟩
  · rintro ⟨hrecipients, rfl⟩
    exact ⟨_, mapM_recipients hrecipients, rfl⟩

/-- Listing the records by their chain keys first does not change the root. -/
theorem rewardRecordRoot_sorted {root : Hash32}
    (h : rewardRecordRoot encodeBech32 env
      ((sortByKey (recordKey encodeBech32) records).map withNetReward) = .ok root) :
    rewardRecordRoot encodeBech32 env (records.map withNetReward) = .ok root := by
  obtain ⟨hrecipients, hroot⟩ := rewardRecordRoot_ok.mp h
  refine rewardRecordRoot_ok.mpr ⟨fun record hmem => ?_, ?_⟩
  · refine hrecipients record ?_
    exact ((sortByKey_perm _ records).map withNetReward).mem_iff.mpr hmem
  · rw [← hroot]
    have hentries : ((sortByKey (recordKey encodeBech32) records).map withNetReward).map
          (recipientEntry encodeBech32) =
        sortByKey recipientKey
          ((records.map withNetReward).map (recipientEntry encodeBech32)) := by
      rw [List.map_map, List.map_map]
      exact sortByKey_map fun record _ => rfl
    rw [hentries]
    exact congrArg (entriesRoot env) (sortByKey_sorted _ _).insertionSort_eq.symm

end Root

/-! ## The listing of the local store -/

/-- The key under which the local store keeps a record. -/
def rewardKey (reward : RewardRecord) : RewardKey := (reward.epochId, reward.nodeId)

/-- The stored rewards of an epoch, in the order of the store. -/
def rewardRecordsOf (store : InMemoryStore) (epochId : ℕ) : List RewardRecord :=
  store.rewardRecords.records.filter (·.epochId = epochId)

theorem foldl_upsertRewardRecord (rewards : List RewardRecord) (s : ProtocolState) :
    rewards.foldl upsertRewardRecord s =
      { s with store := { s.store with
        rewardRecords := storeAll rewardKey s.store.rewardRecords rewards } } := by
  refine foldl_store upsertRewardRecord (·.store.rewardRecords)
    (fun s rewardRecords => { s with store := { s.store with rewardRecords } }) rewardKey
    ?_ ?_ ?_ ?_
    rewards s
  · exact fun _ _ => rfl
  · exact fun _ _ => rfl
  · exact fun _ _ _ => rfl
  · exact fun _ => rfl

section Listing

variable {m : OrderedMap RewardKey RewardRecord} {epochId : ℕ} {rewards listed : List RewardRecord}

/-- The keys of other epochs are not written. -/
theorem get_storeAll_other (hepoch : ∀ reward ∈ rewards, reward.epochId = epochId) {key : RewardKey}
    (hother : key.1 ≠ epochId) : (storeAll rewardKey m rewards)[key]? = m[key]? := by
  refine get_foldl_update_of_not_mem rewardKey (fun reward _ => reward) m ?_
  intro hmem
  obtain ⟨reward, hreward, rfl⟩ := List.mem_map.mp hmem
  exact hother (hepoch reward hreward)

/-- Where an epoch had no rewards, its stored rewards are those written, in the order of their
keys. -/
theorem filter_records_storeAll (hkeyed : KeyedBy rewardKey m)
    (habsent : ∀ nodeId, m[((epochId, nodeId) : RewardKey)]? = none)
    (hepoch : ∀ reward ∈ rewards, reward.epochId = epochId) (hperm : rewards.Perm listed)
    (hordered : listed.Pairwise fun v w => compare (rewardKey v) (rewardKey w) = .lt) :
    (storeAll rewardKey m rewards).records.filter (·.epochId = epochId) = listed := by
  have hkeyed' : KeyedBy rewardKey (storeAll rewardKey m rewards) := keyedBy_storeAll hkeyed rewards
  have hstored := (ordered_records rewardKey hkeyed').filter (·.epochId = epochId)
  have hdistinct : (rewards.map rewardKey).Nodup := by
    refine (hperm.map rewardKey).nodup_iff.mpr ?_
    rw [List.Nodup, List.pairwise_map]
    refine hordered.imp ?_
    intro v w hlt heq
    rw [heq, Std.ReflOrd.compare_self] at hlt
    cases hlt
  have hmem : ∀ reward, reward ∈ (storeAll rewardKey m rewards).records.filter
      (·.epochId = epochId) ↔ reward ∈ rewards := by
    intro reward
    rw [List.mem_filter, mem_records, decide_eq_true_eq]
    constructor
    · rintro ⟨⟨key, hget⟩, hreward⟩
      have hkey := hkeyed' key reward hget
      by_cases hwritten : key ∈ rewards.map rewardKey
      · obtain ⟨other, hother, rfl⟩ := List.mem_map.mp hwritten
        have hvalue := get_foldl_update_of_mem rewardKey (fun reward _ => reward) hdistinct m hother
        rw [storeAll] at hget
        cases hvalue.symm.trans hget
        exact hother
      · rw [storeAll, get_foldl_update_of_not_mem rewardKey (fun reward _ => reward) m hwritten,
          ← hkey, rewardKey, hreward, habsent] at hget
        cases hget
    · intro hreward
      exact ⟨⟨_, get_foldl_update_of_mem rewardKey (fun reward _ => reward) hdistinct m hreward⟩,
        hepoch reward hreward⟩
  have hsame :
      ((storeAll rewardKey m rewards).records.filter (·.epochId = epochId)).Perm listed := by
    refine (List.perm_of_nodup_nodup_toFinset_eq ?_ ?_ ?_).trans hperm
    · refine hstored.imp ?_
      rintro v w hlt rfl
      rw [Std.ReflOrd.compare_self] at hlt
      cases hlt
    · exact hdistinct.of_map
    · ext reward
      rw [List.mem_toFinset, List.mem_toFinset, hmem]
  exact (sortByKey_eq (List.Perm.refl _) hstored).symm.trans (sortByKey_eq hsame hordered)

end Listing

/-! ## The preparation -/

section Preparation

variable {senv : SettlementEnv} {config : NodeConfig} {store : InMemoryStore} {data : LocalData}
  {epochId currentHeight challengeWindowBlocks : ℕ}

/-- What a settlement relies on in a preparation. -/
structure Prepared (senv : SettlementEnv) (config : NodeConfig) (store : InMemoryStore)
    (data : LocalData) (epochId currentHeight challengeWindowBlocks : ℕ)
    (preparation : EpochPreparationComputation) : Prop where
  rewards : rewardLocalEpoch senv config store data epochId = .ok preparation.rewardArtifact
  root : rewardRecordRoot senv.encodeBech32 config.env preparation.rewardArtifact.rewards =
    .ok preparation.epochCommit.rewards.root
  verified : data.verifyLocalEpoch epochId = .ok preparation.verificationReport
  proposes : config.propose = true
  batches : data.loadBatchesForEpoch epochId ≠ []
  deadline : senv.ledger.narrow.add 64 currentHeight challengeWindowBlocks =
    some preparation.epochCommit.challengeDeadlineHeight
  reported : preparation.artifact.challengeDeadlineHeight =
    preparation.epochCommit.challengeDeadlineHeight
  epoch : preparation.epochCommit.epochId = epochId
  proposer : preparation.epochCommit.proposerId = config.env.nodeId

theorem buildEpochCommit_ok {inputs : EpochCommitInputs} {commit : EpochCommit}
    (h : buildEpochCommit senv config inputs = .ok commit) :
    config.propose = true ∧ inputs.batches ≠ [] ∧
      senv.ledger.narrow.add 64 inputs.currentHeight inputs.challengeWindowBlocks =
        some commit.challengeDeadlineHeight ∧
      commit.rewards.root = inputs.rewardsRoot ∧ commit.epochId = inputs.epochId ∧
      commit.proposerId = config.env.nodeId := by
  simp only [buildEpochCommit, bind_eq_ok, ensure_eq_ok, require_eq_ok, pure_eq_ok] at h
  obtain ⟨_, hproposes, _, hbatches, deadline, hdeadline, rfl⟩ := h
  exact ⟨hproposes, hbatches, hdeadline, rfl, rfl, rfl⟩

/-- A root of zero is computed again to zero. -/
theorem buildEpochCommitFromLocalData_ok {aggregatesRoot rewardsRoot : Hash32}
    {rewards : EpochRewardArtifact} {result : EpochCommit × EpochCommitArtifact}
    (hrewards : rewardLocalEpoch senv config store data epochId = .ok rewards)
    (hroot : rewardRecordRoot senv.encodeBech32 config.env rewards.rewards = .ok rewardsRoot)
    (h : buildEpochCommitFromLocalData senv config store data epochId currentHeight
      challengeWindowBlocks aggregatesRoot rewardsRoot = .ok result) :
    config.propose = true ∧ data.loadBatchesForEpoch epochId ≠ [] ∧
      senv.ledger.narrow.add 64 currentHeight challengeWindowBlocks =
        some result.1.challengeDeadlineHeight ∧
      result.1.rewards.root = rewardsRoot ∧ result.1.epochId = epochId ∧
      result.1.proposerId = config.env.nodeId ∧
      result.2 = epochCommitArtifact result.1 currentHeight := by
  unfold buildEpochCommitFromLocalData at h
  by_cases hzero : rewardsRoot = 0
  · simp only [if_pos hzero, bind_eq_ok, reported_ok, pure_eq_ok, hrewards, hroot,
      Except.ok.injEq, exists_eq_left'] at h
    obtain ⟨commit, hcommit, rfl⟩ := h
    obtain ⟨hproposes, hbatches, hdeadline, hrest⟩ := buildEpochCommit_ok hcommit
    exact ⟨hproposes, hbatches, hdeadline, hrest.1, hrest.2.1, hrest.2.2, rfl⟩
  · simp only [if_neg hzero, bind_eq_ok, pure_eq_ok, exists_eq_left'] at h
    obtain ⟨commit, hcommit, rfl⟩ := h
    obtain ⟨hproposes, hbatches, hdeadline, hrest⟩ := buildEpochCommit_ok hcommit
    exact ⟨hproposes, hbatches, hdeadline, hrest.1, hrest.2.1, hrest.2.2, rfl⟩

theorem prepared_of_ok {preparation : EpochPreparationComputation}
    (h : computeLocalEpochPreparation senv config store data epochId currentHeight
      challengeWindowBlocks = .ok preparation) :
    Prepared senv config store data epochId currentHeight challengeWindowBlocks preparation := by
  simp only [computeLocalEpochPreparation, bind_eq_ok, reported_ok, pure_eq_ok] at h
  obtain ⟨rewards, hrewards, root, hroot, report, hreport, ⟨commit, artifact⟩, hcommit, rfl⟩ := h
  obtain ⟨hproposes, hbatches, hdeadline, hcommitted, hepoch, hproposer, hartifact⟩ :=
    buildEpochCommitFromLocalData_ok hrewards hroot hcommit
  refine ⟨hrewards, ?_, hreport, hproposes, hbatches, hdeadline,
    congrArg EpochCommitArtifact.challengeDeadlineHeight hartifact, hepoch, hproposer⟩
  rw [hroot, hcommitted]

theorem rewardLocalEpoch_rewards {artifact : EpochRewardArtifact}
    (h : rewardLocalEpoch senv config store data epochId = .ok artifact) :
    artifact.rewards = epochRewardRecords senv.encodeBatchCommit senv.encodeBech32
      (config.epochRewardConfig store) (data.inputsForEpoch epochId) epochId := by
  simp only [rewardLocalEpoch, computeLocalEpochRewards, bind_eq_ok, pure_eq_ok] at h
  obtain ⟨_, ⟨root, _, rfl⟩, rfl⟩ := h
  simp only [EpochRewardArtifact.rewards, List.map_map]
  exact List.map_id _

/-- The rewards of a preparation are a listing by node id, in another order, and the root of the
commit is the root of that listing. -/
theorem Prepared.listing {preparation : EpochPreparationComputation}
    (h : Prepared senv config store data epochId currentHeight challengeWindowBlocks preparation) :
    ∃ listed, preparation.rewardArtifact.rewards.Perm listed ∧
      (listed.Pairwise fun v w => compare (rewardKey v) (rewardKey w) = .lt) ∧
      (∀ reward ∈ preparation.rewardArtifact.rewards, reward.epochId = epochId) ∧
      rewardRecordRoot senv.encodeBech32 config.env listed =
        .ok preparation.epochCommit.rewards.root := by
  let parts := epochRewardParts senv.encodeBatchCommit senv.encodeBech32
    (config.epochRewardConfig store) (data.inputsForEpoch epochId) epochId
  have hrewards := rewardLocalEpoch_rewards h.rewards
  have hgathered : ∀ nodeId (record : RewardRecord),
      (parts.rewardMap epochId)[nodeId]? = some record →
      record.nodeId = nodeId ∧ record.epochId = epochId := by
    intro nodeId record hget
    rw [EpochRewardParts.rewardMap_eq_gather] at hget
    exact ⟨(gathered hget).node, (gathered hget).epoch⟩
  have hkeyed : KeyedBy RewardRecord.nodeId (parts.rewardMap epochId) := fun nodeId record hget =>
    (hgathered nodeId record hget).1
  have hepoch : ∀ record ∈ (parts.rewardMap epochId).records, record.epochId = epochId := by
    intro record hmem
    obtain ⟨nodeId, hget⟩ := mem_records.mp hmem
    exact (hgathered nodeId record hget).2
  have hperm : preparation.rewardArtifact.rewards.Perm
      ((parts.rewardMap epochId).records.map withNetReward) := by
    rw [hrewards]
    exact epochRewardRecords_perm
  refine ⟨_, hperm, ?_, ?_, ?_⟩
  · rw [List.pairwise_map]
    refine (ordered_records RewardRecord.nodeId hkeyed).imp_of_mem ?_
    intro v w hv hw hlt
    change compare (v.epochId, v.nodeId) (w.epochId, w.nodeId) = .lt
    rw [hepoch v hv, hepoch w hw, compare_pair, Std.ReflOrd.compare_self]
    exact hlt
  · intro reward hmem
    obtain ⟨record, hrecord, rfl⟩ := List.mem_map.mp (hperm.mem_iff.mp hmem)
    exact hepoch record hrecord
  · refine rewardRecordRoot_sorted ?_
    have hroot := h.root
    rw [hrewards] at hroot
    exact hroot

end Preparation

end PoleProtocol.Node
