import PoleProtocol.Ledger.Unbonding
import PoleProtocol.Node.PreparedRewards
import PoleProtocol.Node.SettlementParams

/-!
# Runs of settlements

A node settles one epoch after the other, and any of the calls may fail or be cut off between its
writes. What the store keeps of an epoch is written by one call: the saved current epoch is past
every epoch that the store knows, so that no later call gets by the check for stale epochs.
-/

namespace PoleProtocol.Node

open Framework Ledger OrderedMap Action

/-! ## What is kept of the epochs -/

/-- What a state keeps of the epochs. -/
structure EpochBook where
  currentEpoch : ℕ
  epochCommits : OrderedMap ℕ EpochCommit
  finalizedEpochs : OrderedMap ℕ Unit
  rewardRecords : OrderedMap RewardKey RewardRecord
  claimedRewards : OrderedMap RewardKey Unit

def epochBook (s : ProtocolState) : EpochBook :=
  ⟨s.currentEpoch, s.store.epochCommits, s.store.finalizedEpochs, s.store.rewardRecords,
    s.store.claimedRewards⟩

/-- Nothing changes in what is kept of the epochs. -/
def SameBook (s s' : ProtocolState) : Prop := epochBook s' = epochBook s

instance : Std.Refl SameBook := ⟨fun _ => rfl⟩

instance : IsTrans ProtocolState SameBook := ⟨fun _ _ _ hst htu => htu.trans hst⟩

section Step

variable {env : Ledger.Env} {identity : KeyPair} {config : NodeConfig} {s s' : ProtocolState}
  {epochId : ℕ}

/-- Entering an epoch installs parameters and moves proposals. -/
theorem sameBook_activate (s : ProtocolState) : SameBook s s.activateScheduledProtocolParams :=
  activate_related (fun _ _ => rfl) fun _ _ _ _ => rfl

/-- A commit of an epoch that had none is stored. -/
theorem epochBook_committed {commit : EpochCommit} (h : CommitStep commit s s')
    (habsent : (epochBook s).epochCommits[commit.epochId]? = none) :
    ∃ stored, stored.rewards = commit.rewards ∧ epochBook s' = { epochBook s with
      epochCommits := (epochBook s).epochCommits.insert commit.epochId stored } := by
  rcases h with ⟨_, _, rfl⟩ | ⟨hpresent, _⟩
  · exact ⟨{ commit with challengeOpenHeight := s.height }, rfl, rfl⟩
  · exact absurd habsent hpresent

theorem epochBook_withRewards (preparation : EpochPreparationComputation) (s : ProtocolState) :
    epochBook (withRewards preparation s) = { epochBook s with
      rewardRecords := storeAll rewardKey (epochBook s).rewardRecords
        preparation.rewardArtifact.rewards } := by
  unfold withRewards
  rw [foldl_upsertRewardRecord]
  rfl

/-- The finalization of an epoch that is neither finalized nor past. -/
theorem epochBook_finalized (h : FinalizeStep env epochId s s')
    (habsent : (epochBook s).finalizedEpochs[epochId]? = none)
    (hcurrent : (epochBook s).currentEpoch ≤ epochId) (hfits : epochId < 2 ^ 64 - 1) :
    epochBook s' = { epochBook s with
      currentEpoch := epochId + 1
      finalizedEpochs := (epochBook s).finalizedEpochs.insert epochId () } := by
  rcases h with ⟨hpresent, _⟩ | ⟨_, hadvance⟩
  · exact absurd habsent hpresent
  · change s.currentEpoch ≤ epochId at hcurrent
    rw [advanceEpoch, if_pos hcurrent, lift_bind_ok] at hadvance
    obtain ⟨next, hnext, henter⟩ := hadvance
    have hsum : next = epochId + 1 := add64_exact (fun _ => by omega) hnext
    subst hsum
    have hexpiry : Returns
        ((s.entered epochId (epochId + 1)).staleParamsUpdateProposals.forM expireProposal)
        (s.entered epochId (epochId + 1)) s' := .inl ⟨(), henter⟩
    have hexpired : SameBook (s.entered epochId (epochId + 1)) s' :=
      expire_returns (fun _ _ _ _ _ _ => rfl) (fun _ _ _ _ _ => rfl) hexpiry
    exact hexpired.trans (sameBook_activate _)

/-- A claim marks a reward that is stored. -/
theorem epochBook_claimed {amount : ℕ}
    (h : ClaimStep env identity config epochId amount s s') :
    SameBook s s' ∨
      (epochBook s).rewardRecords[((epochId, config.env.nodeId) : RewardKey)]? ≠ none ∧
        epochBook s' = { epochBook s with
          claimedRewards :=
            (epochBook s).claimedRewards.insert (epochId, config.env.nodeId) () } := by
  rcases h with ⟨_, rfl⟩ | ⟨_, _, _, ⟨_, account, balance, hpayable, rfl⟩ | ⟨_, rfl⟩⟩
  · exact .inl rfl
  · obtain ⟨reward, hstored, _⟩ := hpayable.reward
    refine .inr ⟨?_, rfl⟩
    intro hnone
    cases hstored.symm.trans hnone
  · exact .inl rfl

end Step

/-! ## One settlement -/

/-- The store has nothing under the epoch. -/
structure Untouched (store : InMemoryStore) (epochId : ℕ) : Prop where
  uncommitted : store.epochCommits[epochId]? = none
  unfinalized : store.finalizedEpochs[epochId]? = none
  unrewarded : ∀ nodeId, store.rewardRecords[((epochId, nodeId) : RewardKey)]? = none
  unclaimed : ∀ nodeId, store.claimedRewards[((epochId, nodeId) : RewardKey)]? = none

/-- What a settlement leaves of an epoch that it found untouched. -/
structure Settled (config : NodeConfig) (store : InMemoryStore) (epochId : ℕ)
    (settlement : Settlement) : Prop where
  entered : settlement.runtime.currentEpoch = epochId + 1
  committed : ∃ commit, commit.rewards = settlement.preparation.epochCommit.rewards ∧
    settlement.store.epochCommits = store.epochCommits.insert epochId commit
  finalized : settlement.store.finalizedEpochs = store.finalizedEpochs.insert epochId ()
  rewarded : settlement.store.rewardRecords =
    storeAll rewardKey store.rewardRecords settlement.preparation.rewardArtifact.rewards
  claimed : settlement.store.claimedRewards = store.claimedRewards ∨
    settlement.store.rewardRecords[((epochId, config.env.nodeId) : RewardKey)]? ≠ none ∧
      settlement.store.claimedRewards =
        store.claimedRewards.insert (epochId, config.env.nodeId) ()

section Call

variable {senv : SettlementEnv} {config : NodeConfig} {data : LocalData} {files : LocalChainFiles}
  {epochId submissionHeight challengeWindowBlocks : ℕ} {settlement : Settlement}

theorem epochBook_opened (config : NodeConfig) (data : LocalData) (files : LocalChainFiles)
    (identity : KeyPair) (epochId submissionHeight challengeWindowBlocks : ℕ) :
    epochBook
        (openedState config data files identity epochId submissionHeight challengeWindowBlocks) =
      ⟨max (files.storedEpoch epochId) epochId, files.openStore.epochCommits,
        files.openStore.finalizedEpochs, files.openStore.rewardRecords,
        files.openStore.claimedRewards⟩ := by
  obtain ⟨nodes, accounts, batches, hopened⟩ := openedState_eq config data files identity epochId
    submissionHeight challengeWindowBlocks
  rw [hopened]
  rfl

/-- Only an epoch that is not behind the saved current epoch is settled. -/
theorem storedEpoch_le (h : settleLocalEpoch senv config data files epochId submissionHeight
    challengeWindowBlocks = .ok settlement) : files.storedEpoch epochId ≤ epochId := by
  obtain ⟨identity, committed, finalized, settled, hsettles, _, _⟩ := settleLocalEpoch_ok h
  have hcurrent := hsettles.committable.current
  have hepoch := congrArg EpochBook.currentEpoch (epochBook_opened config data files identity
    epochId submissionHeight challengeWindowBlocks)
  rw [(prepared_of_ok hsettles.prepares).epoch] at hcurrent
  exact (le_max_left _ _).trans (hepoch.symm.trans_le hcurrent)

theorem settled_of_ok (hfits : epochId < 2 ^ 64 - 1)
    (huntouched : Untouched files.openStore epochId)
    (h : settleLocalEpoch senv config data files epochId submissionHeight challengeWindowBlocks =
      .ok settlement) : Settled config files.openStore epochId settlement := by
  have hstale := storedEpoch_le h
  obtain ⟨identity, committed, finalized, settled, hsettles, hruntime, hstore⟩ :=
    settleLocalEpoch_ok h
  have hepoch := (prepared_of_ok hsettles.prepares).epoch
  have hperformed := hsettles.performed
  have hopened := epochBook_opened config data files identity epochId submissionHeight
    challengeWindowBlocks
  rw [max_eq_right hstale] at hopened
  obtain ⟨commit, hrewards, hcommitted⟩ := epochBook_committed hsettles.commit (by
    rw [hopened, hepoch]
    exact huntouched.uncommitted)
  rw [hopened, hepoch] at hcommitted
  have hrewarded := epochBook_withRewards settlement.preparation committed
  rw [hcommitted] at hrewarded
  have hfinalized := epochBook_finalized hperformed.finalize (by
    rw [hrewarded]
    exact huntouched.unfinalized) (by rw [hrewarded]) hfits
  rw [hrewarded] at hfinalized
  -- what the files are given is the book of the last state
  have hentered : settlement.runtime.currentEpoch = (epochBook settled).currentEpoch := by
    rw [hruntime]
    rfl
  have hcommits : settlement.store.epochCommits = (epochBook settled).epochCommits := by
    rw [hstore]
    rfl
  have hfinals : settlement.store.finalizedEpochs = (epochBook settled).finalizedEpochs := by
    rw [hstore]
    rfl
  have hrecords : settlement.store.rewardRecords = (epochBook settled).rewardRecords := by
    rw [hstore]
    rfl
  have hclaims : settlement.store.claimedRewards = (epochBook settled).claimedRewards := by
    rw [hstore]
    rfl
  rcases epochBook_claimed hperformed.claim with hsame | ⟨hstored, hclaimed⟩
  · rw [hsame.trans hfinalized] at hentered hcommits hfinals hrecords hclaims
    exact ⟨hentered, ⟨commit, hrewards, hcommits⟩, hfinals, hrecords, .inl hclaims⟩
  · rw [hclaimed] at hentered hcommits hfinals hrecords hclaims
    have hpresent : settlement.store.rewardRecords[((epochId, config.env.nodeId) :
        RewardKey)]? ≠ none := by
      rw [hrecords]
      exact hstored
    rw [hfinalized] at hentered hcommits hfinals hrecords hclaims
    exact ⟨hentered, ⟨commit, hrewards, hcommits⟩, hfinals, hrecords, .inr ⟨hpresent, hclaims⟩⟩

end Call

/-! ## Runs -/

/-- A call to settle an epoch, with what the node finds at that time, and how many of its writes are
completed. -/
structure SettlementCall where
  config : NodeConfig
  data : LocalData
  epochId : ℕ
  submissionHeight : ℕ
  challengeWindowBlocks : ℕ
  completed : ℕ

section Runs

variable (senv : SettlementEnv) (env : NodeEnv)

/-- The files after a call. The identity of the node and its services stay the same. -/
def settleNext (files : LocalChainFiles) (call : SettlementCall) : LocalChainFiles :=
  match settleLocalEpoch senv { call.config with env } call.data files call.epochId
      call.submissionHeight call.challengeWindowBlocks with
  | .ok settlement => files.afterWrites settlement call.completed
  | .error _ => files

/-- The saved current epoch is past every epoch of the store, and the rewards of an epoch are those
that its commit names. -/
structure Consistent (files : LocalChainFiles) : Prop where
  passed : ∀ epochId, Untouched files.openStore epochId ∨
    ∃ runtime, files.runtime = some runtime ∧ epochId < runtime.currentEpoch
  keyed : KeyedBy rewardKey files.openStore.rewardRecords
  committed : ∀ (epochId : ℕ) (commit : EpochCommit),
    files.openStore.epochCommits[epochId]? = some commit →
      rewardRecordRoot senv.encodeBech32 env (rewardRecordsOf files.openStore epochId) =
        .ok commit.rewards.root
  claimed : ∀ key : RewardKey, files.openStore.claimedRewards[key]? ≠ none →
    files.openStore.rewardRecords[key]? ≠ none ∧ files.openStore.epochCommits[key.1]? ≠ none

variable {senv env}

theorem untouched_empty (epochId : ℕ) : Untouched {} epochId := by
  constructor <;> intros <;> simp

theorem consistent_empty : Consistent senv env {} := by
  refine ⟨fun epochId => .inl (untouched_empty epochId), keyedBy_empty rewardKey, ?_, ?_⟩
  · intro epochId commit hget
    cases hget.symm.trans (untouched_empty epochId).uncommitted
  · intro key hclaimed
    exact absurd ((untouched_empty key.1).unclaimed key.2) hclaimed

/-- The files after some of the writes: the second write is the runtime file, the third the
store. -/
theorem afterWrites_cases (files : LocalChainFiles) (settlement : Settlement) (completed : ℕ) :
    completed < 2 ∧ files.afterWrites settlement completed = files ∨
      completed = 2 ∧ files.afterWrites settlement completed =
        { files with runtime := some settlement.runtime } ∨
      2 < completed ∧ files.afterWrites settlement completed =
        { runtime := some settlement.runtime, store := some settlement.store } := by
  rcases completed with _ | _ | _ | _ | _ | rest
  · exact .inl ⟨by decide, rfl⟩
  · exact .inl ⟨by decide, rfl⟩
  · exact .inr (.inl ⟨rfl, rfl⟩)
  · exact .inr (.inr ⟨by decide, rfl⟩)
  · exact .inr (.inr ⟨by decide, rfl⟩)
  · refine .inr (.inr ⟨by omega, ?_⟩)
    rw [LocalChainFiles.afterWrites, List.take_of_length_le (by simp [Settlement.writes])]
    rfl

section Step

variable {files : LocalChainFiles} {call : SettlementCall} {settlement : Settlement}

/-- A call that goes through settles an epoch that the store does not know. -/
theorem Consistent.untouched (hfiles : Consistent senv env files)
    (h : settleLocalEpoch senv { call.config with env } call.data files call.epochId
      call.submissionHeight call.challengeWindowBlocks = .ok settlement) :
    Untouched files.openStore call.epochId := by
  rcases hfiles.passed call.epochId with huntouched | ⟨runtime, hruntime, hpassed⟩
  · exact huntouched
  · have hstale := storedEpoch_le h
    rw [LocalChainFiles.storedEpoch, hruntime] at hstale
    exact absurd hpassed (Nat.not_lt.mpr hstale)

theorem Consistent.advances (hfiles : Consistent senv env files)
    (hfits : call.epochId < 2 ^ 64 - 1)
    (h : settleLocalEpoch senv { call.config with env } call.data files call.epochId
      call.submissionHeight call.challengeWindowBlocks = .ok settlement)
    {runtime : LocalChainRuntimeState} (hruntime : files.runtime = some runtime) :
    runtime.currentEpoch < settlement.runtime.currentEpoch := by
  have hstale := storedEpoch_le h
  rw [LocalChainFiles.storedEpoch, hruntime] at hstale
  rw [(settled_of_ok hfits (hfiles.untouched h) h).entered]
  exact Nat.lt_succ_of_le hstale

/-- The listing of an epoch depends on what is stored under it. -/
theorem rewardRecordsOf_congr {store store' : InMemoryStore} {epochId : ℕ}
    (hkeyed : KeyedBy rewardKey store.rewardRecords)
    (hkeyed' : KeyedBy rewardKey store'.rewardRecords)
    (hsame : ∀ nodeId, store'.rewardRecords[((epochId, nodeId) : RewardKey)]? =
      store.rewardRecords[((epochId, nodeId) : RewardKey)]?) :
    rewardRecordsOf store' epochId = rewardRecordsOf store epochId := by
  refine filter_records_congr _ fun key reward hreward => ?_
  have hkey : rewardKey reward = (epochId, reward.nodeId) :=
    congrArg (·, reward.nodeId) (of_decide_eq_true hreward)
  constructor
  · intro hstored
    obtain rfl : rewardKey reward = key := hkeyed' key reward hstored
    rw [hkey] at hstored ⊢
    exact (hsame _).symm.trans hstored
  · intro hstored
    obtain rfl : rewardKey reward = key := hkeyed key reward hstored
    rw [hkey] at hstored ⊢
    exact (hsame _).trans hstored

/-- Every other epoch stays as it was. -/
theorem Settled.frame {config : NodeConfig} {store : InMemoryStore} {epochId other : ℕ}
    (h : Settled config store epochId settlement)
    (hrewards : ∀ reward ∈ settlement.preparation.rewardArtifact.rewards, reward.epochId = epochId)
    (hother : other ≠ epochId) :
    settlement.store.epochCommits[other]? = store.epochCommits[other]? ∧
      settlement.store.finalizedEpochs[other]? = store.finalizedEpochs[other]? ∧
      (∀ nodeId, settlement.store.rewardRecords[((other, nodeId) : RewardKey)]? =
        store.rewardRecords[((other, nodeId) : RewardKey)]?) ∧
      ∀ nodeId, settlement.store.claimedRewards[((other, nodeId) : RewardKey)]? =
        store.claimedRewards[((other, nodeId) : RewardKey)]? := by
  obtain ⟨commit, _, hcommits⟩ := h.committed
  refine ⟨?_, ?_, fun nodeId => ?_, fun nodeId => ?_⟩
  · rw [hcommits, get_insert_ne _ _ (Ne.symm hother)]
  · rw [h.finalized, get_insert_ne _ _ (Ne.symm hother)]
  · rw [h.rewarded, get_storeAll_other hrewards hother]
  · rcases h.claimed with hclaims | ⟨_, hclaims⟩
    · rw [hclaims]
    · rw [hclaims, get_insert_ne]
      rintro heq
      exact hother (congrArg Prod.fst heq).symm

/-- What a call that goes through leaves in the two files. -/
theorem Consistent.settled (hfiles : Consistent senv env files) (hfits : call.epochId < 2 ^ 64 - 1)
    (h : settleLocalEpoch senv { call.config with env } call.data files call.epochId
      call.submissionHeight call.challengeWindowBlocks = .ok settlement) :
    Consistent senv env { runtime := some settlement.runtime, store := some settlement.store } := by
  have huntouched := hfiles.untouched h
  have hsettled := settled_of_ok hfits huntouched h
  obtain ⟨identity, _, _, _, hsettles, _, _⟩ := settleLocalEpoch_ok h
  obtain ⟨listed, hperm, hordered, hepoch, hroot⟩ := (prepared_of_ok hsettles.prepares).listing
  have hframe := fun other (hother : other ≠ call.epochId) => hsettled.frame hepoch hother
  have hkeyed : KeyedBy rewardKey settlement.store.rewardRecords := by
    rw [hsettled.rewarded]
    exact keyedBy_storeAll hfiles.keyed _
  refine ⟨fun epochId => ?_, hkeyed, ?_, ?_⟩
  · by_cases hother : epochId = call.epochId
    · refine .inr ⟨settlement.runtime, rfl, ?_⟩
      rw [hsettled.entered, hother]
      exact Nat.lt_succ_self _
    · rcases hfiles.passed epochId with huntouched | ⟨runtime, hruntime, hpassed⟩
      · obtain ⟨hcommits, hfinals, hrecords, hclaims⟩ := hframe epochId hother
        exact .inl ⟨hcommits.trans huntouched.uncommitted, hfinals.trans huntouched.unfinalized,
          fun nodeId => (hrecords nodeId).trans (huntouched.unrewarded nodeId),
          fun nodeId => (hclaims nodeId).trans (huntouched.unclaimed nodeId)⟩
      · exact .inr ⟨settlement.runtime, rfl, hpassed.trans (hfiles.advances hfits h hruntime)⟩
  · intro epochId commit hget
    change settlement.store.epochCommits[epochId]? = some commit at hget
    change rewardRecordRoot _ _ (rewardRecordsOf settlement.store epochId) = _
    obtain ⟨stored, hrewards, hcommits⟩ := hsettled.committed
    rw [hcommits] at hget
    rcases get_insert_cases hget with ⟨rfl, rfl⟩ | ⟨hother, hold⟩
    · have hlisted : rewardRecordsOf settlement.store call.epochId = listed := by
        rw [rewardRecordsOf, hsettled.rewarded]
        exact filter_records_storeAll hfiles.keyed huntouched.unrewarded hepoch hperm hordered
      rw [hlisted, hrewards]
      exact hroot
    · rw [rewardRecordsOf_congr hfiles.keyed hkeyed (hframe epochId hother).2.2.1]
      exact hfiles.committed epochId commit hold
  · intro key hclaimed
    by_cases hother : key.1 = call.epochId
    · obtain ⟨stored, _, hcommits⟩ := hsettled.committed
      refine ⟨?_, ?_⟩
      · rcases hsettled.claimed with hclaims | ⟨hstored, hclaims⟩
        · change settlement.store.claimedRewards[key]? ≠ none at hclaimed
          rw [hclaims, ← Prod.mk.eta (p := key), hother, huntouched.unclaimed] at hclaimed
          exact absurd rfl hclaimed
        · change settlement.store.claimedRewards[key]? ≠ none at hclaimed
          rw [hclaims, get_insert] at hclaimed
          split at hclaimed
          · next heq =>
              rw [← heq]
              exact hstored
          · rw [← Prod.mk.eta (p := key), hother, huntouched.unclaimed] at hclaimed
            exact absurd rfl hclaimed
      · change settlement.store.epochCommits[key.1]? ≠ none
        rw [hcommits, hother, get_insert_self]
        exact Option.some_ne_none _
    · obtain ⟨hcommits, _, hrecords, hclaims⟩ := hframe key.1 hother
      have hold := hfiles.claimed key ((hclaims key.2).symm.trans_ne hclaimed)
      exact ⟨(hrecords key.2).trans_ne hold.1, hcommits.trans_ne hold.2⟩

/-- A call keeps the files consistent, whichever of its writes are completed. -/
theorem Consistent.next (hfiles : Consistent senv env files)
    (hfits : call.epochId < 2 ^ 64 - 1) : Consistent senv env (settleNext senv env files call) := by
  unfold settleNext
  split
  · next settlement h =>
      rcases afterWrites_cases files settlement call.completed with ⟨_, heq⟩ | ⟨_, heq⟩ | ⟨_, heq⟩
      · rw [heq]
        exact hfiles
      · rw [heq]
        refine ⟨fun epochId => ?_, hfiles.keyed, hfiles.committed, hfiles.claimed⟩
        rcases hfiles.passed epochId with huntouched | ⟨runtime, hruntime, hpassed⟩
        · exact .inl huntouched
        · exact .inr ⟨settlement.runtime, rfl, hpassed.trans (hfiles.advances hfits h hruntime)⟩
      · rw [heq]
        exact hfiles.settled hfits h
  · exact hfiles

/-- The commit and the rewards of an epoch are the same in both stores. -/
def SameRewards (epochId : ℕ) (store store' : InMemoryStore) : Prop :=
  store'.epochCommits[epochId]? = store.epochCommits[epochId]? ∧
    ∀ nodeId, store'.rewardRecords[((epochId, nodeId) : RewardKey)]? =
      store.rewardRecords[((epochId, nodeId) : RewardKey)]?

/-- A finalized epoch is never settled again. -/
theorem Consistent.keeps_finalized (hfiles : Consistent senv env files)
    (hfits : call.epochId < 2 ^ 64 - 1) {epochId : ℕ}
    (hfinal : files.openStore.finalizedEpochs[epochId]? ≠ none) :
    (settleNext senv env files call).openStore.finalizedEpochs[epochId]? ≠ none ∧
      SameRewards epochId files.openStore (settleNext senv env files call).openStore := by
  unfold settleNext
  split
  · next settlement h =>
      have huntouched := hfiles.untouched h
      have hother : epochId ≠ call.epochId := by
        rintro rfl
        exact hfinal huntouched.unfinalized
      obtain ⟨identity, _, _, _, hsettles, _, _⟩ := settleLocalEpoch_ok h
      obtain ⟨_, _, _, hepoch, _⟩ := (prepared_of_ok hsettles.prepares).listing
      obtain ⟨hcommits, hfinals, hrecords, _⟩ :=
        (settled_of_ok hfits huntouched h).frame hepoch hother
      rcases afterWrites_cases files settlement call.completed with ⟨_, heq⟩ | ⟨_, heq⟩ | ⟨_, heq⟩
      · rw [heq]
        exact ⟨hfinal, rfl, fun _ => rfl⟩
      · rw [heq]
        exact ⟨hfinal, rfl, fun _ => rfl⟩
      · rw [heq]
        exact ⟨hfinals.trans_ne hfinal, hcommits, hrecords⟩
  · exact ⟨hfinal, rfl, fun _ => rfl⟩

end Step

/-- From consistent files, no run changes the commit or the rewards of a finalized epoch. -/
theorem Consistent.run_keeps_finalized {files : LocalChainFiles}
    (hfiles : Consistent senv env files) {calls : List SettlementCall}
    (hfits : ∀ call ∈ calls, call.epochId < 2 ^ 64 - 1) {epochId : ℕ}
    (hfinal : files.openStore.finalizedEpochs[epochId]? ≠ none) :
    SameRewards epochId files.openStore (run (settleNext senv env) files calls).openStore := by
  induction calls generalizing files with
  | nil => exact ⟨rfl, fun _ => rfl⟩
  | cons call calls ih =>
      have hfirst := hfits call List.mem_cons_self
      obtain ⟨hfinal', hcommit, hrecords⟩ := hfiles.keeps_finalized hfirst hfinal
      obtain ⟨hcommit', hrecords'⟩ := ih (hfiles.next hfirst)
        (fun later hmem => hfits later (List.mem_cons_of_mem _ hmem)) hfinal'
      exact ⟨hcommit'.trans hcommit, fun nodeId => (hrecords' nodeId).trans (hrecords nodeId)⟩

theorem consistent_run {calls : List SettlementCall}
    (hfits : ∀ call ∈ calls, call.epochId < 2 ^ 64 - 1) :
    Consistent senv env (run (settleNext senv env) {} calls) := by
  refine run_invariant (C := fun _ call => call.epochId < 2 ^ 64 - 1)
    (fun files call hcall hfiles => hfiles.next hcall) ?_ consistent_empty
  rw [meets_iff_steps]
  rintro before call after rfl
  exact hfits call (List.mem_append_right _ List.mem_cons_self)

/-- In every run from empty files a claimed reward is stored with its epoch's commit, whose root is
the root of the stored rewards; and what is stored of a finalized epoch stays. -/
theorem claimed_rewards_are_committed (senv : SettlementEnv) (env : NodeEnv)
    (calls later : List SettlementCall)
    (hfits : ∀ call ∈ calls ++ later, call.epochId < 2 ^ 64 - 1) :
    let files := run (settleNext senv env) {} calls
    (∀ (epochId : ℕ) (nodeId : NodeId),
      files.openStore.claimedRewards[((epochId, nodeId) : RewardKey)]? ≠ none →
        files.openStore.rewardRecords[((epochId, nodeId) : RewardKey)]? ≠ none ∧
          ∃ commit, files.openStore.epochCommits[epochId]? = some commit ∧
            rewardRecordRoot senv.encodeBech32 env (rewardRecordsOf files.openStore epochId) =
              .ok commit.rewards.root) ∧
      ∀ epochId, files.openStore.finalizedEpochs[epochId]? ≠ none →
        SameRewards epochId files.openStore
          (run (settleNext senv env) {} (calls ++ later)).openStore := by
  intro files
  have hfiles : Consistent senv env files :=
    consistent_run fun call hmem => hfits call (List.mem_append_left _ hmem)
  constructor
  · intro epochId nodeId hclaimed
    obtain ⟨hstored, hcommitted⟩ := hfiles.claimed (epochId, nodeId) hclaimed
    obtain ⟨commit, hcommit⟩ := Option.ne_none_iff_exists'.mp hcommitted
    exact ⟨hstored, commit, hcommit, hfiles.committed epochId commit hcommit⟩
  · intro epochId hfinal
    rw [run_append]
    exact hfiles.run_keeps_finalized
      (fun call hmem => hfits call (List.mem_append_right _ hmem)) hfinal

end Runs

namespace SettlementSample

/-- The configuration with static rewards, which a single observation earns. -/
def settlingConfig : NodeConfig :=
  { config with
    slotsPerEpoch := 1
    reward := { config.reward with rewardSource := .static } }

def services : SettlementEnv where
  ledger := ledger
  encodeBatchCommit _ := []
  encodeStoredPayload _ := []
  encodeBech32 := RewardSample.encodeBech32

/-- A batch of the node itself in the first epoch. -/
def ownBatch : AssembledBatch :=
  { RewardSample.batch [RewardSample.observation ownId] with
    batchCommit := ⟨1, ownId, 1, 1, ⟨0, 1⟩, "cid://batch-payload/00", 1, 0⟩ }

def ownData : LocalData where
  inputs := { RewardSample.inputs [] with batches := [ownBatch] }
  verifyLocalEpoch _ := .ok ⟨1, 0, true⟩

/-- A settlement of the first epoch at a height. -/
def settling (submissionHeight completed : ℕ) : SettlementCall :=
  ⟨settlingConfig, ownData, 1, submissionHeight, 20, completed⟩

end SettlementSample

open SettlementSample in
/-- The reward of a settled epoch is claimed and committed, and a second call changes nothing. -/
theorem claimed_rewards_are_committed_one :
    (run (settleNext services nodeEnv) {} [settling 10 5]).openStore.claimedRewards[
        ((1, ownId) : RewardKey)]? ≠ none ∧
      (∃ commit,
        (run (settleNext services nodeEnv) {} [settling 10 5]).openStore.epochCommits[1]? =
          some commit ∧
        rewardRecordRoot RewardSample.encodeBech32 nodeEnv
          (rewardRecordsOf (run (settleNext services nodeEnv) {} [settling 10 5]).openStore 1) =
            .ok commit.rewards.root) ∧
      SameRewards 1 (run (settleNext services nodeEnv) {} [settling 10 5]).openStore
        (run (settleNext services nodeEnv) {} [settling 10 5, settling 40 5]).openStore := by
  have hsample :
      (run (settleNext services nodeEnv) {} [settling 10 5]).openStore.claimedRewards[
          ((1, ownId) : RewardKey)]? ≠ none ∧
        (run (settleNext services nodeEnv) {} [settling 10 5]).openStore.finalizedEpochs[1]? ≠
          none := by
    decide +kernel
  obtain ⟨hclaimed, hfinal⟩ := hsample
  obtain ⟨hcommitted, hkept⟩ := claimed_rewards_are_committed services nodeEnv [settling 10 5]
    [settling 40 5] (by decide)
  exact ⟨hclaimed, (hcommitted 1 ownId hclaimed).2, hkept 1 hfinal⟩

end PoleProtocol.Node
