import PoleProtocol.Node.SettlementRuns

/-!
# Repeating a settlement

A settlement that was cut off between its writes is called again at another height. Heights, batches
and commits may then differ, which the later steps do not look at; the saved current epoch is looked
at first, and it is saved before the store.
-/

namespace PoleProtocol.Node

open Framework Ledger OrderedMap Action

/-! ## Heights, batches and commits aside -/

/-- The state with another height and other batches and commits. -/
def overlay (height : ℕ) (batches : OrderedMap BatchKey BatchCommit)
    (epochCommits : OrderedMap ℕ EpochCommit) (s : ProtocolState) : ProtocolState :=
  { s with height, store := { s.store with batches, epochCommits } }

section Overlay

variable {env : Ledger.Env} {identity : KeyPair} {config : NodeConfig} {s s' : ProtocolState}
  {epochId height : ℕ} {batches : OrderedMap BatchKey BatchCommit}
  {commits : OrderedMap ℕ EpochCommit}

theorem overlay_activateProposal (s : ProtocolState)
    (proposal : GovernanceParamsUpdateProposalRecord) :
    (overlay height batches commits s).activateProposal proposal =
      overlay height batches commits (s.activateProposal proposal) := by
  have hepoch : (overlay height batches commits s).currentEpoch = s.currentEpoch := rfl
  have hproposals : (overlay height batches commits s).store.paramsUpdateProposals =
      s.store.paramsUpdateProposals := rfl
  unfold ProtocolState.activateProposal
  rw [hepoch, hproposals]
  split
  · cases s.store.paramsUpdateProposals[proposal.proposalId]? <;> rfl
  · rfl

theorem overlay_activate (s : ProtocolState) :
    (overlay height batches commits s).activateScheduledProtocolParams =
      overlay height batches commits s.activateScheduledProtocolParams := by
  have hepoch : (overlay height batches commits s).currentEpoch = s.currentEpoch := rfl
  have hscheduled : (overlay height batches commits s).store.scheduledProtocolParams =
      s.store.scheduledProtocolParams := rfl
  unfold ProtocolState.activateScheduledProtocolParams
  rw [hepoch, hscheduled]
  cases s.store.scheduledProtocolParams[s.currentEpoch]? with
  | none => rfl
  | some params =>
      let installed : ProtocolState := { s with params, store := { s.store with
        scheduledProtocolParams := s.store.scheduledProtocolParams.erase s.currentEpoch } }
      change s.store.paramsUpdateProposals.records.foldl ProtocolState.activateProposal
          (overlay height batches commits installed) =
        overlay height batches commits
          (s.store.paramsUpdateProposals.records.foldl ProtocolState.activateProposal installed)
      exact List.foldl_hom (overlay height batches commits) overlay_activateProposal

theorem overlay_expireProposal (proposal : GovernanceParamsUpdateProposalRecord) :
    Commutes (overlay height batches commits) (expireProposal proposal) := by
  refine Commutes.bind ?_ fun _ => ?_
  · exact commutes_update (fun _ => rfl) fun _ _ => rfl
  · exact commutes_update (fun _ => rfl) fun _ _ => rfl

/-- Entering an epoch does not look at them. -/
theorem overlay_advanceEpoch (currentEpoch : ℕ) :
    Commutes (overlay height batches commits) (advanceEpoch env currentEpoch epochId) := by
  unfold advanceEpoch
  split
  · refine (commutes_lift _).bind fun next => ?_
    refine (commutes_modify fun s => ?_).bind fun _ => ?_
    · exact overlay_activate { s with currentEpoch := next }
    · exact Commutes.after_get (fun _ => rfl) fun t =>
        Commutes.forM overlay_expireProposal t.staleParamsUpdateProposals
  · exact commutes_pure ()

/-- A finalization goes through again where the commit has elapsed. -/
theorem FinalizeStep.overlay (h : FinalizeStep env epochId s s')
    (helapsed : s.store.finalizedEpochs[epochId]? = none →
      ∃ commit, commits[epochId]? = some commit ∧ commit.challengeDeadlineHeight < height) :
    FinalizeStep env epochId (overlay height batches commits s)
      (overlay height batches commits s') := by
  rcases h with ⟨hpresent, rfl⟩ | ⟨hfinalizable, hadvance⟩
  · exact .inl ⟨hpresent, rfl⟩
  · exact .inr ⟨⟨hfinalizable.unfinalized, helapsed hfinalizable.unfinalized,
      hfinalizable.unchallenged⟩, (overlay_advanceEpoch s.currentEpoch).ok hadvance⟩

theorem ClaimStep.overlay {amount : ℕ} (h : ClaimStep env identity config epochId amount s s') :
    ClaimStep env identity config epochId amount (overlay height batches commits s)
      (overlay height batches commits s') := by
  rcases h with ⟨hzero, rfl⟩ | ⟨hpositive, hsigned, hfinal, ⟨hunclaimed, account, balance, hpayable,
    rfl⟩ | ⟨hclaimed, rfl⟩⟩
  · exact .inl ⟨hzero, rfl⟩
  · exact .inr ⟨hpositive, hsigned, hfinal, .inl ⟨hunclaimed, account, balance,
      ⟨hpayable.reward, hpayable.node, hpayable.stored, hpayable.credit⟩, rfl⟩⟩
  · exact .inr ⟨hpositive, hsigned, hfinal, .inr ⟨hclaimed, rfl⟩⟩

end Overlay

/-! ## What a settlement credits -/

def balanceOf (store : InMemoryStore) (address : Address) : ℕ :=
  (store.accounts[address]?.map (·.balance)).getD 0

/-- The claims, the finalized epochs and the balances are the same. -/
def SameCredits (s s' : ProtocolState) : Prop :=
  s'.store.claimedRewards = s.store.claimedRewards ∧
    s'.store.finalizedEpochs = s.store.finalizedEpochs ∧
    ∀ address, balanceOf s'.store address = balanceOf s.store address

instance : Std.Refl SameCredits := ⟨fun _ => ⟨rfl, rfl, fun _ => rfl⟩⟩

instance : IsTrans ProtocolState SameCredits :=
  ⟨fun _ _ _ hst htu => ⟨htu.1.trans hst.1, htu.2.1.trans hst.2.1, fun address =>
    (htu.2.2 address).trans (hst.2.2 address)⟩⟩

section Credits

variable {env : Ledger.Env} {identity : KeyPair} {config : NodeConfig} {s s' : ProtocolState}
  {epochId : ℕ}

theorem balanceOf_insertAccount (s : ProtocolState) (address other : Address)
    (account : AccountState) : balanceOf (s.insertAccount address account).store other =
      if address = other then account.balance else balanceOf s.store other := by
  unfold balanceOf
  change (((s.store.accounts.insert address account)[other]?).map (·.balance)).getD 0 = _
  rw [get_insert]
  split <;> rfl

/-- A bond that is burnt was locked. -/
theorem sameCredits_burn (s : ProtocolState) (address : Address) (account : AccountState)
    (locked : ℕ) (h : s.store.accounts[address]? = some account) :
    SameCredits s (s.insertAccount address { account with locked }) := by
  refine ⟨rfl, rfl, fun other => ?_⟩
  rw [balanceOf_insertAccount]
  split
  · next heq => rw [← heq, balanceOf, h, Option.map_some, Option.getD_some]
  · rfl

theorem sameCredits_advanceEpoch {currentEpoch : ℕ}
    (h : (advanceEpoch env currentEpoch epochId).run s = .ok () s') : SameCredits s s' := by
  unfold advanceEpoch at h
  split at h
  · obtain ⟨next, _, henter⟩ := lift_bind_ok.mp h
    have hentered : SameCredits s
        { s with currentEpoch := next }.activateScheduledProtocolParams :=
      IsTrans.trans _ _ _ (⟨rfl, rfl, fun _ => rfl⟩ : SameCredits s { s with currentEpoch := next })
        (activate_related (fun _ _ => ⟨rfl, rfl, fun _ => rfl⟩)
          fun _ _ _ _ => ⟨rfl, rfl, fun _ => rfl⟩)
    refine IsTrans.trans _ _ _ hentered (expire_returns ?_ ?_ (.inl ⟨(), henter⟩))
    · exact fun t address account amount hget _ => sameCredits_burn t address account _ hget
    · exact fun _ _ _ _ _ => ⟨rfl, rfl, fun _ => rfl⟩
  · obtain ⟨_, rfl⟩ := pure_ok.mp h
    exact Std.Refl.refl _

/-- The reward of the node is claimed and its balance has risen by it, unless it was claimed before;
then the balance is what it was. -/
structure CreditedOnce (env : Ledger.Env) (config : NodeConfig) (epochId amount : ℕ)
    (before after : InMemoryStore) : Prop where
  claimed : 0 < amount →
    after.claimedRewards[((epochId, config.env.nodeId) : RewardKey)]? ≠ none
  balance :
    if 0 < amount ∧ before.claimedRewards[((epochId, config.env.nodeId) : RewardKey)]? = none then
      env.add128 (balanceOf before config.identityAddress) amount =
        .ok (balanceOf after config.identityAddress)
    else balanceOf after config.identityAddress = balanceOf before config.identityAddress

theorem credited_of_claim {amount : ℕ} (h : ClaimStep env identity config epochId amount s s') :
    CreditedOnce env config epochId amount s.store s'.store := by
  rcases h with ⟨rfl, rfl⟩ | ⟨hpositive, _, _, ⟨hunclaimed, account, balance, hpayable, rfl⟩ |
    ⟨hclaimed, rfl⟩⟩
  · refine ⟨fun hpositive => absurd hpositive (Nat.lt_irrefl 0), ?_⟩
    rw [if_neg fun h => Nat.lt_irrefl 0 h.1]
  · refine ⟨fun _ => ?_, ?_⟩
    · change (s.store.claimedRewards.insert (epochId, config.env.nodeId) ())[
        ((epochId, config.env.nodeId) : RewardKey)]? ≠ none
      rw [get_insert_self]
      exact Option.some_ne_none _
    · rw [if_pos ⟨hpositive, hunclaimed⟩]
      have hbefore : balanceOf s.store config.identityAddress = account.balance := by
        rw [balanceOf]
        exact congrArg (fun x => (Option.map AccountState.balance x).getD 0) hpayable.stored
      have hafter : balanceOf (s.insertAccount config.identityAddress
          { account with balance }).store config.identityAddress = balance := by
        rw [balanceOf_insertAccount, if_pos rfl]
      rw [hbefore]
      exact hpayable.credit.trans (congrArg Except.ok hafter.symm)
  · refine ⟨fun _ => hclaimed, ?_⟩
    rw [if_neg fun h => hclaimed h.2]

/-- What a credit says of the state before it, it says of the stores with the same credits. -/
theorem CreditedOnce.of_same {amount : ℕ} {before before' after : InMemoryStore}
    (h : CreditedOnce env config epochId amount before after)
    (hclaims : before.claimedRewards = before'.claimedRewards)
    (hbalance : balanceOf before config.identityAddress =
      balanceOf before' config.identityAddress) :
    CreditedOnce env config epochId amount before' after := by
  refine ⟨h.claimed, ?_⟩
  rw [← hclaims, ← hbalance]
  exact h.balance

/-- A second credit adds nothing to the first. -/
theorem CreditedOnce.trans {amount : ℕ} {before between after : InMemoryStore}
    (hfirst : CreditedOnce env config epochId amount before between)
    (hsecond : CreditedOnce env config epochId amount between after) :
    CreditedOnce env config epochId amount before after := by
  have hsame : balanceOf after config.identityAddress =
      balanceOf between config.identityAddress := by
    have hbalance := hsecond.balance
    rwa [if_neg fun h => hfirst.claimed h.1 h.2] at hbalance
  refine ⟨hsecond.claimed, ?_⟩
  rw [hsame]
  exact hfirst.balance

theorem sameCredits_commit {commit : EpochCommit} (h : CommitStep commit s s') :
    SameCredits s s' := by
  rcases h with ⟨_, _, rfl⟩ | ⟨_, rfl⟩
  · exact ⟨rfl, rfl, fun _ => rfl⟩
  · exact Std.Refl.refl _

theorem sameCredits_withBatches (batchCommits : List BatchCommit) (s : ProtocolState) :
    SameCredits s (withBatches s batchCommits) := by
  obtain ⟨batches, heq⟩ := withBatches_eq batchCommits s
  rw [heq]
  exact ⟨rfl, rfl, fun _ => rfl⟩

theorem sameCredits_withRewards (preparation : EpochPreparationComputation) (s : ProtocolState) :
    SameCredits s (withRewards preparation s) := by
  unfold withRewards
  rw [foldl_upsertRewardRecord]
  exact ⟨rfl, rfl, fun _ => rfl⟩

/-- A finalization leaves the epoch finalized, and credits nothing. -/
theorem credits_finalized (h : FinalizeStep env epochId s s') :
    s'.store.finalizedEpochs[epochId]? ≠ none ∧
      s'.store.claimedRewards = s.store.claimedRewards ∧
      ∀ address, balanceOf s'.store address = balanceOf s.store address := by
  rcases h with ⟨hpresent, rfl⟩ | ⟨_, hadvance⟩
  · exact ⟨hpresent, rfl, fun _ => rfl⟩
  · obtain ⟨hclaims, hfinals, hbalances⟩ := sameCredits_advanceEpoch hadvance
    refine ⟨?_, hclaims, hbalances⟩
    rw [hfinals]
    change (s.store.finalizedEpochs.insert epochId ())[epochId]? ≠ none
    rw [get_insert_self]
    exact Option.some_ne_none _

theorem finalizedEpochs_claim {amount : ℕ} (h : ClaimStep env identity config epochId amount s s') :
    s'.store.finalizedEpochs = s.store.finalizedEpochs := by
  rcases h with ⟨_, rfl⟩ | ⟨_, _, _, ⟨_, _, _, _, rfl⟩ | ⟨_, rfl⟩⟩ <;> rfl

theorem sameCredits_bootstrap (s : ProtocolState) :
    SameCredits s (bootstrapLocalChainState config identity s) := by
  have hensure : ∀ t : ProtocolState, SameCredits t
      (ensureAccountExists t config.identityAddress) := by
    intro t
    unfold ensureAccountExists
    split
    · next habsent =>
        refine ⟨rfl, rfl, fun address => ?_⟩
        rw [balanceOf_insertAccount]
        split
        · next heq => rw [← heq, balanceOf, habsent, Option.map_none, Option.getD_none]
        · rfl
    · exact Std.Refl.refl t
  unfold bootstrapLocalChainState
  dsimp only
  split
  · exact IsTrans.trans _ _ _ (⟨rfl, rfl, fun _ => rfl⟩ : SameCredits s _) (hensure _)
  · exact hensure s

end Credits

section Settling

variable {senv : SettlementEnv} {config : NodeConfig} {data : LocalData}
  {files retried : LocalChainFiles} {epochId submissionHeight challengeWindowBlocks : ℕ}
  {identity : KeyPair} {preparation : EpochPreparationComputation}
  {committed finalized settled : ProtocolState}

/-- A settlement that goes through finalizes its epoch and credits the reward of the node. -/
theorem Settles.credits (h : Settles senv config data files epochId submissionHeight
    challengeWindowBlocks identity preparation committed finalized settled) :
    settled.store.finalizedEpochs[epochId]? ≠ none ∧
      CreditedOnce senv.ledger config epochId
        (localRewardAvailable config preparation.rewardArtifact) files.openStore settled.store := by
  have hperformed := h.performed
  have hopened : SameCredits
      (readState config files epochId submissionHeight challengeWindowBlocks)
      (openedState config data files identity epochId submissionHeight challengeWindowBlocks) :=
    IsTrans.trans _ _ _ (sameCredits_bootstrap _)
      (IsTrans.trans _ _ _ (⟨rfl, rfl, fun _ => rfl⟩ : SameCredits _
        (startState config files identity epochId submissionHeight challengeWindowBlocks))
        (sameCredits_withBatches _ _))
  obtain ⟨hclaims, _, hbalances⟩ := IsTrans.trans _ _ _
    (IsTrans.trans _ _ _ hopened (sameCredits_commit h.commit))
    (sameCredits_withRewards preparation committed)
  obtain ⟨hfinal, hclaims', hbalances'⟩ := credits_finalized hperformed.finalize
  refine ⟨?_, (credited_of_claim hperformed.claim).of_same (hclaims'.trans hclaims)
    ((hbalances' _).trans (hbalances _))⟩
  rw [finalizedEpochs_claim hperformed.claim]
  exact hfinal

/-! ## The conditions of a repetition -/

/-- What a node relies on in its services: a signature of its own verifies, and a commit, all of
whose fields have a fixed size, is encoded. -/
structure Serves (env : Ledger.Env) (identity : KeyPair) : Prop where
  verifies : ∀ message, env.verifySignature identity.publicKey message (identity.sign message) =
    true
  encodes : ∀ commit, env.encode (commitment identity commit).unsigned ≠ none

/-- A settlement at the height has a deadline, which is ahead where the store has no commit yet; and
where the epoch is not finalized yet, the height of the finalization is past its deadline. -/
def HeightsFit (senv : SettlementEnv) (files : LocalChainFiles)
    (epochId submissionHeight challengeWindowBlocks : ℕ) : Prop :=
  ∃ deadline, senv.ledger.narrow.add 64 submissionHeight challengeWindowBlocks = some deadline ∧
    (files.openStore.epochCommits[epochId]? = none → submissionHeight < deadline) ∧
    (files.openStore.finalizedEpochs[epochId]? = none →
      (files.openStore.epochCommits[epochId]?.map (·.challengeDeadlineHeight)).getD deadline <
        max submissionHeight (finalizationHeight deadline))

/-- A window is not longer than the sum says. -/
theorem window_fits {deadline : ℕ} (h : senv.ledger.narrow.add 64 submissionHeight
    challengeWindowBlocks = some deadline) :
    deadline - submissionHeight ≤ challengeWindowBlocks := by
  have hle := Overflow.add_le h
  omega

/-- The stored commit of an epoch, or the new one. -/
theorem stored_deadline {s s' : ProtocolState} {commit : EpochCommit} (h : CommitStep commit s s') :
    ∃ stored, s'.store.epochCommits[commit.epochId]? = some stored ∧
      stored.challengeDeadlineHeight =
        (s.store.epochCommits[commit.epochId]?.map (·.challengeDeadlineHeight)).getD
          commit.challengeDeadlineHeight := by
  rcases h with ⟨habsent, _, rfl⟩ | ⟨hpresent, rfl⟩
  · refine ⟨{ commit with challengeOpenHeight := s.height }, get_insert_self _ _ _, ?_⟩
    rw [habsent, Option.map_none, Option.getD_none]
  · obtain ⟨stored, hstored⟩ := Option.ne_none_iff_exists'.mp hpresent
    refine ⟨stored, hstored, ?_⟩
    rw [hstored, Option.map_some, Option.getD_some]

theorem commitStep_eq {s s' : ProtocolState} {commit : EpochCommit} (h : CommitStep commit s s') :
    ∃ epochCommits, s' = { s with store := { s.store with epochCommits } } := by
  rcases h with ⟨_, _, rfl⟩ | ⟨_, rfl⟩ <;> exact ⟨_, rfl⟩

/-- A commit is accepted, or there is one already. -/
theorem exists_commitStep (s : ProtocolState) (commit : EpochCommit)
    (hany : s.hasAnyBatchForEpoch commit.epochId = true)
    (hahead : s.store.epochCommits[commit.epochId]? = none →
      s.height < commit.challengeDeadlineHeight)
    (hwindow : commit.challengeDeadlineHeight - s.height ≤ s.params.challengeWindowBlocks) :
    ∃ epochCommits, CommitStep commit s { s with store := { s.store with epochCommits } } := by
  by_cases habsent : s.store.epochCommits[commit.epochId]? = none
  · exact ⟨s.store.epochCommits.insert commit.epochId
      { commit with challengeOpenHeight := s.height },
      .inl ⟨habsent, ⟨hany, hahead habsent, hwindow⟩, rfl⟩⟩
  · exact ⟨s.store.epochCommits, .inr ⟨habsent, rfl⟩⟩

theorem withRewards_eq (preparation : EpochPreparationComputation) (s : ProtocolState) :
    withRewards preparation s =
      { s with
        height := max s.height (finalizationHeight preparation.artifact.challengeDeadlineHeight)
        store := { s.store with
          rewardRecords :=
            storeAll rewardKey s.store.rewardRecords preparation.rewardArtifact.rewards } } := by
  unfold withRewards
  rw [foldl_upsertRewardRecord]

/-- Heights fit in every settlement that goes through. -/
theorem Settles.heightsFit (h : Settles senv config data files epochId submissionHeight
    challengeWindowBlocks identity preparation committed finalized settled) :
    HeightsFit senv files epochId submissionHeight challengeWindowBlocks := by
  have hprepared := prepared_of_ok h.prepares
  obtain ⟨nodes, accounts, batches, hopened⟩ := openedState_eq config data files identity epochId
    submissionHeight challengeWindowBlocks
  have hcommit := h.commit
  rw [hopened] at hcommit
  refine ⟨preparation.epochCommit.challengeDeadlineHeight, hprepared.deadline, ?_, ?_⟩
  · intro habsent
    rcases hcommit with ⟨_, hopens, _⟩ | ⟨hpresent, _⟩
    · exact hopens.ahead
    · rw [hprepared.epoch] at hpresent
      exact absurd habsent hpresent
  · intro hunfinalized
    obtain ⟨stored, hstored, hdeadline⟩ := stored_deadline hcommit
    rw [hprepared.epoch] at hstored hdeadline
    obtain ⟨commits, rfl⟩ := commitStep_eq hcommit
    have hfinalize := h.performed.finalize
    rw [withRewards_eq, hprepared.reported] at hfinalize
    rcases hfinalize with ⟨hpresent, _⟩ | ⟨hfinalizable, _⟩
    · exact absurd hunfinalized hpresent
    · obtain ⟨commit, hcommit, helapsed⟩ := hfinalizable.elapsed
      cases hstored.symm.trans hcommit
      exact hdeadline.symm.trans_lt helapsed

/-! ## Repeating from the same store -/

/-- The preparation of an epoch depends on the store through what the rewards take from it. -/
theorem Prepared.again (h : Prepared senv config files.openStore data epochId submissionHeight
      challengeWindowBlocks preparation)
    {store : InMemoryStore}
    (hsettings : config.rewardSettings store = config.rewardSettings files.openStore)
    {height deadline : ℕ}
    (hdeadline : senv.ledger.narrow.add 64 height challengeWindowBlocks = some deadline) :
    ∃ again, computeLocalEpochPreparation senv config store data epochId height
        challengeWindowBlocks = .ok again ∧
      Prepared senv config store data epochId height challengeWindowBlocks again ∧
      again.rewardArtifact = preparation.rewardArtifact ∧
      again.epochCommit.challengeDeadlineHeight = deadline := by
  have hrewards : rewardLocalEpoch senv config store data epochId =
      .ok preparation.rewardArtifact := by
    rw [← h.rewards]
    unfold rewardLocalEpoch NodeConfig.epochRewardConfig
    rw [hsettings]
  have hbuild : ∀ aggregatesRoot, ∃ result,
      buildEpochCommitFromLocalData senv config store data epochId height
        challengeWindowBlocks aggregatesRoot preparation.epochCommit.rewards.root = .ok result := by
    intro aggregatesRoot
    unfold buildEpochCommitFromLocalData
    by_cases hzero : preparation.epochCommit.rewards.root = 0
    · simp only [if_pos hzero, bind_eq_ok, reported_ok, pure_eq_ok, hrewards, h.root,
        Except.ok.injEq, exists_eq_left', buildEpochCommit, ensure_eq_ok, require_eq_ok, h.proposes,
        hdeadline]
      exact ⟨_, _, ⟨(), .intro, (), h.batches, deadline, rfl, rfl⟩, rfl⟩
    · simp only [if_neg hzero, bind_eq_ok, pure_eq_ok, exists_eq_left', buildEpochCommit,
        ensure_eq_ok, require_eq_ok, h.proposes, hdeadline]
      exact ⟨_, _, ⟨(), .intro, (), h.batches, deadline, rfl, rfl⟩, rfl⟩
  obtain ⟨result, hresult⟩ := hbuild (aggregateRecordRoot config.env
    ((aggregateLocalEpoch senv config store data epochId).records.map (·.aggregate)))
  have hcomputed : ∃ again, computeLocalEpochPreparation senv config store data epochId
      height challengeWindowBlocks = .ok again := by
    simp only [computeLocalEpochPreparation, bind_eq_ok, reported_ok, pure_eq_ok]
    exact ⟨_, _, hrewards, _, h.root, _, h.verified, result, hresult, rfl⟩
  obtain ⟨again, hagain⟩ := hcomputed
  have hprepared := prepared_of_ok hagain
  exact ⟨again, hagain, hprepared, Except.ok.inj (hprepared.rewards.symm.trans hrewards),
    Option.some.inj (hprepared.deadline.symm.trans hdeadline)⟩

/-- The state at another height. -/
def atHeight (height : ℕ) (s : ProtocolState) : ProtocolState := { s with height }

theorem ite_atHeight (height : ℕ) {p : Prop} [Decidable p] (change : ProtocolState → ProtocolState)
    (s : ProtocolState) (hchange : change (atHeight height s) = atHeight height (change s)) :
    (if p then change (atHeight height s) else atHeight height s) =
      atHeight height (if p then change s else s) := by
  split
  · exact hchange
  · rfl

/-- The node enters itself alike at every height. -/
theorem bootstrap_height (s : ProtocolState) (height : ℕ) :
    bootstrapLocalChainState config identity (atHeight height s) =
      atHeight height (bootstrapLocalChainState config identity s) := by
  have hregister := ite_atHeight height (p := s.store.nodes[config.env.nodeId]? = none)
    (fun t => t.insertNode config.env.nodeId (localNodeRegistry config identity t.params)) s rfl
  have hensure : ∀ t, ensureAccountExists (atHeight height t) config.identityAddress =
      atHeight height (ensureAccountExists t config.identityAddress) := fun t =>
    ite_atHeight height (fun t => t.insertAccount config.identityAddress
      { address := config.identityAddress, balance := 0, staked := 0, locked := 0, nonce := 0 }) t
      rfl
  exact (congrArg (ensureAccountExists · config.identityAddress) hregister).trans (hensure _)

/-- Two settlements that find the same store and the same current epoch start alike. -/
theorem startState_again (config : NodeConfig) (identity : KeyPair)
    (submissionHeight challengeWindowBlocks height : ℕ)
    (hstore : retried.openStore = files.openStore)
    (hepoch : max (retried.storedEpoch epochId) epochId = max (files.storedEpoch epochId) epochId) :
    startState config retried identity epochId height challengeWindowBlocks =
      atHeight height
        (startState config files identity epochId submissionHeight challengeWindowBlocks) := by
  have hread : readState config retried epochId height challengeWindowBlocks =
      atHeight (retried.storedHeight height)
        (readState config files epochId submissionHeight challengeWindowBlocks) := by
    unfold readState
    rw [hstore, hepoch]
    rfl
  rw [startState, hread, bootstrap_height]
  rfl

theorem hasAnyBatch_of_mem {s : ProtocolState} {key : BatchKey}
    (h : s.store.batches[key]? ≠ none) : s.hasAnyBatchForEpoch key.1 = true := by
  refine List.any_eq_true.mpr ⟨key, ?_, beq_self_eq_true key.1⟩
  rw [Std.ExtTreeMap.mem_keys, Std.ExtTreeMap.mem_iff_isSome_getElem?]
  exact Option.isSome_iff_ne_none.mpr h

/-- Once a batch of the epoch has been submitted, there is one. -/
theorem hasAnyBatch_withBatches {batchCommits : List BatchCommit} {s : ProtocolState}
    (h : (∃ key : BatchKey, key.1 = epochId ∧ s.store.batches[key]? ≠ none) ∨
      ∃ batch ∈ batchCommits, batch.epochId = epochId) :
    (withBatches s batchCommits).hasAnyBatchForEpoch epochId = true := by
  induction batchCommits generalizing s with
  | nil =>
      rcases h with ⟨key, rfl, hkey⟩ | ⟨batch, hmem, _⟩
      · exact hasAnyBatch_of_mem hkey
      · exact absurd hmem List.not_mem_nil
  | cons first batchCommits ih =>
      refine ih ?_
      rcases h with ⟨key, hepoch, hkey⟩ | ⟨batch, hmem, hepoch⟩
      · refine .inl ⟨key, hepoch, ?_⟩
        unfold withBatch
        split
        · exact insert_ne_none _ _ hkey
        · exact hkey
      · rcases List.mem_cons.mp hmem with rfl | hlater
        · refine .inl ⟨batchKey s batch, hepoch, ?_⟩
          unfold withBatch
          split
          · change (s.store.batches.insert (batchKey s batch) _)[batchKey s batch]? ≠ none
            rw [get_insert_self]
            exact Option.some_ne_none _
          · next hpresent => exact hpresent
        · exact .inr ⟨batch, hlater, hepoch⟩

/-- Only the heights and the batches differ before the commit. -/
theorem openedState_again (config : NodeConfig) (data : LocalData) (identity : KeyPair)
    (submissionHeight challengeWindowBlocks height : ℕ)
    (hstore : retried.openStore = files.openStore)
    (hepoch : max (retried.storedEpoch epochId) epochId = max (files.storedEpoch epochId) epochId) :
    ∃ batches, openedState config data retried identity epochId height challengeWindowBlocks =
      overlay height batches files.openStore.epochCommits
        (openedState config data files identity epochId submissionHeight
          challengeWindowBlocks) := by
  obtain ⟨batches, hbatches⟩ := withBatches_eq
    ((data.loadBatchesForEpoch epochId).map (·.batchCommit))
    (startState config retried identity epochId height challengeWindowBlocks)
  obtain ⟨_, hbatches'⟩ := withBatches_eq
    ((data.loadBatchesForEpoch epochId).map (·.batchCommit))
    (startState config files identity epochId submissionHeight challengeWindowBlocks)
  obtain ⟨nodes, accounts, hstart⟩ := bootstrapLocalChainState_eq config identity
    (readState config files epochId submissionHeight challengeWindowBlocks)
  refine ⟨batches, ?_⟩
  rw [openedState, openedState, hbatches, hbatches',
    startState_again config identity submissionHeight challengeWindowBlocks height hstore hepoch,
    startState, hstart]
  rfl

/-- A signature of the node on a new commit verifies. -/
theorem Serves.signs {env : Ledger.Env} (h : Serves env identity) {commit : EpochCommit}
    {signer : Hash32} (hsigner : stableHash32 identity.publicKey.bytes = signer) :
    SignsAs env identity signer (commitment identity commit) := by
  obtain ⟨payload, hpayload⟩ := Option.ne_none_iff_exists'.mp (h.encodes commit)
  exact ⟨hsigner, payload, hpayload, h.verifies payload⟩

/-- From the same store and in the same epoch a settlement goes through again where the heights
fit. -/
theorem Settles.again (h : Settles senv config data files epochId submissionHeight
      challengeWindowBlocks identity preparation committed finalized settled)
    (hserves : Serves senv.ledger identity) (hstore : retried.openStore = files.openStore)
    (hepoch : max (retried.storedEpoch epochId) epochId = max (files.storedEpoch epochId) epochId)
    {height : ℕ} (hahead : retried.storedHeight height < height)
    (hfit : HeightsFit senv retried epochId height challengeWindowBlocks) :
    ∃ again committed' finalized' settled',
      Settles senv config data retried epochId height challengeWindowBlocks identity again
        committed' finalized' settled' ∧
      again.rewardArtifact = preparation.rewardArtifact := by
  obtain ⟨deadline, hdeadline, hopens, helapsed⟩ := hfit
  have hbefore := prepared_of_ok h.prepares
  obtain ⟨again, hagain, hprepared, hrewards, hcommitted⟩ :=
    hbefore.again (congrArg config.rewardSettings hstore) hdeadline
  obtain ⟨batches, hopened⟩ := openedState_again config data identity submissionHeight
    challengeWindowBlocks height hstore hepoch
  have hstart := startState_again config identity submissionHeight challengeWindowBlocks height
    hstore hepoch
  have hany : (openedState config data retried identity epochId height
      challengeWindowBlocks).hasAnyBatchForEpoch epochId = true := by
    obtain ⟨batch, hmem⟩ := List.exists_mem_of_ne_nil _ hprepared.batches
    have hbatch := of_decide_eq_true (List.mem_filter.mp hmem).2
    exact hasAnyBatch_withBatches (.inr ⟨_, List.mem_map_of_mem hmem, hbatch⟩)
  obtain ⟨nodes, accounts, _, hfirst⟩ := openedState_eq config data files identity epochId
    submissionHeight challengeWindowBlocks
  obtain ⟨commits, hcommit⟩ := exists_commitStep
    (openedState config data retried identity epochId height challengeWindowBlocks)
    again.epochCommit (by rwa [hprepared.epoch])
    (by
      rw [hprepared.epoch, hcommitted, hopened, hfirst]
      intro habsent
      exact hopens ((congrArg (·.epochCommits[epochId]?) hstore).trans habsent))
    (by
      rw [hcommitted, hopened, hfirst]
      exact window_fits hdeadline)
  obtain ⟨stored, hstored, hstoredDeadline⟩ := stored_deadline hcommit
  rw [hprepared.epoch, hcommitted] at hstoredDeadline
  rw [hprepared.epoch] at hstored
  obtain ⟨_, hcommittedFirst⟩ := commitStep_eq h.commit
  -- both settlements go on from the same state, heights, batches and commits aside
  have hwithRewards : withRewards again
      { openedState config data retried identity epochId height challengeWindowBlocks with
        store := { (openedState config data retried identity epochId height
          challengeWindowBlocks).store with epochCommits := commits } } =
      overlay (max height (finalizationHeight deadline)) batches commits
        (withRewards preparation committed) := by
    rw [withRewards_eq, withRewards_eq, hrewards, hprepared.reported, hcommitted, hopened,
      hcommittedFirst]
    rfl
  have hperformed := h.performed
  have hsigned := hperformed.committable.signed.signer
  refine ⟨again, _, overlay (max height (finalizationHeight deadline)) batches commits finalized,
    overlay (max height (finalizationHeight deadline)) batches commits settled,
    ⟨h.identified, hagain, hahead, ?_, ⟨?_, ⟨?_, ?_, ?_⟩, hcommit, ?_, ?_⟩⟩, hrewards⟩
  · rw [hstore]
    exact h.valid
  · intro batch hmem
    rw [hstart]
    exact (hperformed.batches batch hmem).congr rfl rfl
  · refine hserves.signs (hsigned.trans ?_)
    rw [hbefore.proposer, hprepared.proposer]
  · have hcurrent := h.committable.current
    rw [hbefore.epoch] at hcurrent
    change (openedState config data retried identity epochId height
      challengeWindowBlocks).currentEpoch ≤ _
    rw [hprepared.epoch, hopened]
    exact hcurrent
  · have hproposer := h.committable.proposer
    rw [hbefore.proposer] at hproposer
    change ∃ node, Capable (openedState config data retried identity epochId height
      challengeWindowBlocks) _ _ node ∧ (openedState config data retried identity epochId height
        challengeWindowBlocks).params.minProposeBond ≤ _
    rw [hprepared.proposer, hopened]
    exact hproposer
  · rw [hwithRewards]
    refine hperformed.finalize.overlay fun hunfinalized => ⟨stored, hstored, ?_⟩
    rw [withRewards_eq, hcommittedFirst, hfirst] at hunfinalized
    have hpast := helapsed ((congrArg (·.finalizedEpochs[epochId]?) hstore).trans hunfinalized)
    rw [hstoredDeadline, hopened, hfirst]
    rw [hstore] at hpast
    exact hpast
  · rw [hrewards]
    exact hperformed.claim.overlay

/-! ## Repeating from the store that was saved -/

theorem Settles.submittable (h : Settles senv config data files epochId submissionHeight
      challengeWindowBlocks identity preparation committed finalized settled) {batch : BatchCommit}
    (hmem : batch ∈ (data.loadBatchesForEpoch epochId).map (·.batchCommit)) :
    Submittable senv.ledger identity
      (openedState config data files identity epochId submissionHeight challengeWindowBlocks)
      batch := by
  obtain ⟨batches, hbatches⟩ := withBatches_eq
    ((data.loadBatchesForEpoch epochId).map (·.batchCommit))
    (startState config files identity epochId submissionHeight challengeWindowBlocks)
  rw [openedState, hbatches]
  exact (h.performed.batches batch hmem).congr rfl rfl

def nonceOf (s : ProtocolState) (address : Address) : ℕ :=
  (s.store.accounts[address]?.map (·.nonce)).getD 0

theorem nonceOf_insertAccount (s : ProtocolState) (address : Address) (account : AccountState) :
    nonceOf (s.insertAccount address account) address = account.nonce := by
  unfold nonceOf
  change (((s.store.accounts.insert address account)[address]?).map (·.nonce)).getD 0 = _
  rw [get_insert_self]
  rfl

/-- What a claim signs depends on the state through the nonce. -/
theorem localClaim_congr {s s' : ProtocolState} (amount : ℕ)
    (h : nonceOf s' config.identityAddress = nonceOf s config.identityAddress) :
    localClaim identity config s' epochId amount = localClaim identity config s epochId amount := by
  have hnonce : localClaim identity config s' epochId amount =
      { localClaim identity config s epochId amount with
        nonce := nonceOf s' config.identityAddress } := rfl
  rw [hnonce, h]
  rfl

/-- A claim changes accounts and claims, and not the nonce. -/
theorem claimStep_eq {env : Ledger.Env} {s s' : ProtocolState} {amount : ℕ}
    (h : ClaimStep env identity config epochId amount s s') :
    (∃ accounts claimedRewards,
      s' = { s with store := { s.store with accounts, claimedRewards } }) ∧
      nonceOf s' config.identityAddress = nonceOf s config.identityAddress := by
  rcases h with ⟨_, rfl⟩ | ⟨_, _, _, ⟨_, account, balance, hpayable, rfl⟩ | ⟨_, rfl⟩⟩
  · exact ⟨⟨_, _, rfl⟩, rfl⟩
  · have hstored : s.store.accounts[config.identityAddress]? = some account := hpayable.stored
    refine ⟨⟨_, _, rfl⟩, ?_⟩
    change nonceOf (s.insertAccount config.identityAddress { account with balance }) _ = _
    rw [nonceOf_insertAccount, nonceOf, hstored]
    rfl
  · exact ⟨⟨_, _, rfl⟩, rfl⟩

/-- A node that is known does not enter itself again. -/
theorem bootstrap_known (config : NodeConfig) (identity : KeyPair) {s : ProtocolState}
    (hknown : s.store.nodes[config.env.nodeId]? ≠ none) :
    (∃ accounts, bootstrapLocalChainState config identity s =
      { s with store := { s.store with accounts } }) ∧
      nonceOf (bootstrapLocalChainState config identity s) config.identityAddress =
        nonceOf s config.identityAddress := by
  have hbootstrap : bootstrapLocalChainState config identity s =
      ensureAccountExists s config.identityAddress :=
    congrArg (ensureAccountExists · config.identityAddress) (if_neg hknown)
  rw [hbootstrap]
  unfold ensureAccountExists
  split
  · next habsent =>
      refine ⟨⟨_, rfl⟩, ?_⟩
      rw [nonceOf_insertAccount, nonceOf, habsent]
      rfl
  · exact ⟨⟨_, rfl⟩, rfl⟩

/-- A tolerated finalization stays in its epoch. -/
theorem Settles.stays (h : Settles senv config data files epochId submissionHeight
      challengeWindowBlocks identity preparation committed finalized settled)
    (hfinal : files.openStore.finalizedEpochs[epochId]? ≠ none) :
    finalized = withRewards preparation committed := by
  rcases h.performed.finalize with ⟨_, heq⟩ | ⟨hfinalizable, _⟩
  · exact heq
  · obtain ⟨_, _, _, hfirst⟩ := openedState_eq config data files identity epochId submissionHeight
      challengeWindowBlocks
    obtain ⟨_, hcommitted⟩ := commitStep_eq h.commit
    have hnone := hfinalizable.unfinalized
    rw [withRewards_eq, hcommitted, hfirst] at hnone
    exact absurd hnone hfinal

theorem Settles.currentEpoch_stays (h : Settles senv config data files epochId submissionHeight
      challengeWindowBlocks identity preparation committed finalized settled)
    (hfinal : files.openStore.finalizedEpochs[epochId]? ≠ none) :
    settled.currentEpoch = max (files.storedEpoch epochId) epochId := by
  obtain ⟨⟨_, _, hsettled⟩, _⟩ := claimStep_eq h.performed.claim
  obtain ⟨_, _, _, hfirst⟩ := openedState_eq config data files identity epochId submissionHeight
    challengeWindowBlocks
  obtain ⟨_, hcommitted⟩ := commitStep_eq h.commit
  rw [hsettled, h.stays hfinal, withRewards_eq, hcommitted, hfirst]

/-- The files after all writes that matter. -/
def savedFiles (settled : ProtocolState) : LocalChainFiles where
  runtime := some ⟨settled.height, settled.currentEpoch⟩
  store := some settled.store

/-- Of an epoch that was finalized before, a settlement goes through again from what the first one
saved where the heights fit. -/
theorem Settles.again_saved (h : Settles senv config data files epochId submissionHeight
      challengeWindowBlocks identity preparation committed finalized settled)
    (hserves : Serves senv.ledger identity)
    (hfinal : files.openStore.finalizedEpochs[epochId]? ≠ none)
    {height : ℕ} (hahead : settled.height < height)
    (hfit : HeightsFit senv (savedFiles settled) epochId height challengeWindowBlocks) :
    ∃ again committed' finalized' settled',
      Settles senv config data (savedFiles settled) epochId height challengeWindowBlocks identity
        again committed' finalized' settled' ∧
      again.rewardArtifact = preparation.rewardArtifact := by
  obtain ⟨deadline, hdeadline, _, _⟩ := hfit
  have hbefore := prepared_of_ok h.prepares
  have hperformed := h.performed
  obtain ⟨nodes, accounts, batches, hfirst⟩ := openedState_eq config data files identity epochId
    submissionHeight challengeWindowBlocks
  obtain ⟨commits, hcommitted⟩ := commitStep_eq h.commit
  obtain ⟨⟨accounts', claims, hsettled⟩, hnonce⟩ := claimStep_eq hperformed.claim
  have hkept := h.stays hfinal
  rw [hkept, withRewards_eq, hcommitted, hfirst] at hsettled
  have hnodes : settled.store.nodes = nodes := by rw [hsettled]
  have hcurrent := h.currentEpoch_stays hfinal
  have hparams : localProtocolParams config settled.store challengeWindowBlocks =
      localProtocolParams config files.openStore challengeWindowBlocks := by
    rw [hsettled]
    rfl
  have hsettings : config.rewardSettings settled.store = config.rewardSettings files.openStore := by
    rw [hsettled]
    rfl
  obtain ⟨again, hagain, hprepared, hrewards, _⟩ := hbefore.again hsettings hdeadline
  -- the node is known, so that nothing but its account can change at the start
  have hproposer := h.committable.proposer
  rw [hbefore.proposer, hfirst] at hproposer
  obtain ⟨proposer, hcapable, hbond⟩ := hproposer
  have hknown : settled.store.nodes[config.env.nodeId]? ≠ none := by
    rw [hnodes, hcapable.1]
    exact Option.some_ne_none _
  obtain ⟨⟨accounts'', hstart⟩, hstartNonce⟩ := bootstrap_known config identity
    (s := readState config (savedFiles settled) epochId height challengeWindowBlocks) hknown
  obtain ⟨batches', hbatches⟩ := withBatches_eq
    ((data.loadBatchesForEpoch epochId).map (·.batchCommit))
    (startState config (savedFiles settled) identity epochId height challengeWindowBlocks)
  have hopened : openedState config data (savedFiles settled) identity epochId height
      challengeWindowBlocks =
        { height
          currentEpoch := max settled.currentEpoch epochId
          params := localProtocolParams config settled.store challengeWindowBlocks
          store := { settled.store with accounts := accounts'', batches := batches' } } := by
    rw [openedState, hbatches, startState, hstart]
    rfl
  have hsame : nonceOf (withRewards again (openedState config data (savedFiles settled) identity
      epochId height challengeWindowBlocks)) config.identityAddress =
        nonceOf finalized config.identityAddress := by
    rw [← hnonce, withRewards_eq, hopened]
    rw [hstart] at hstartNonce
    exact hstartNonce
  obtain ⟨stored, hstored, _⟩ := stored_deadline h.commit
  rw [hbefore.epoch, hcommitted] at hstored
  have hpresent : settled.store.epochCommits[epochId]? = some stored := by
    rw [hsettled]
    exact hstored
  have hstillFinal : settled.store.finalizedEpochs[epochId]? ≠ none := h.credits.1
  refine ⟨again, openedState config data (savedFiles settled) identity epochId height
    challengeWindowBlocks,
    withRewards again (openedState config data (savedFiles settled) identity epochId height
      challengeWindowBlocks),
    withRewards again (openedState config data (savedFiles settled) identity epochId height
      challengeWindowBlocks),
    ⟨h.identified, hagain, hahead, ?_, ⟨?_, ⟨?_, ?_, ?_⟩, .inr ⟨?_, rfl⟩, .inl ⟨?_, rfl⟩, ?_⟩⟩,
    hrewards⟩
  · exact hparams.symm ▸ h.valid
  · intro batch hmem
    have hsubmittable := h.submittable hmem
    rw [hfirst] at hsubmittable
    rw [startState, hstart]
    refine hsubmittable.congr ?_ hnodes
    change max settled.currentEpoch epochId = _
    rw [hcurrent]
    exact max_eq_left (le_max_right _ _)
  · refine hserves.signs (hperformed.committable.signed.signer.trans ?_)
    rw [hbefore.proposer, hprepared.proposer]
  · change (openedState config data (savedFiles settled) identity epochId height
      challengeWindowBlocks).currentEpoch ≤ _
    have hle := h.committable.current
    rw [hfirst, hbefore.epoch] at hle
    rw [hopened, hprepared.epoch, hcurrent]
    exact max_le hle le_rfl
  · change ∃ node, Capable (openedState config data (savedFiles settled) identity epochId height
      challengeWindowBlocks) _ _ node ∧ (openedState config data (savedFiles settled) identity
        epochId height challengeWindowBlocks).params.minProposeBond ≤ _
    rw [hopened, hprepared.proposer, hparams]
    refine ⟨proposer, ⟨?_, hcapable.2⟩, hbond⟩
    exact (congrArg (·[config.env.nodeId]?) hnodes).trans hcapable.1
  · change (openedState config data (savedFiles settled) identity epochId height
      challengeWindowBlocks).store.epochCommits[again.epochCommit.epochId]? ≠ none
    rw [hopened, hprepared.epoch]
    exact hpresent.trans_ne (Option.some_ne_none _)
  · rw [withRewards_eq, hopened]
    exact hstillFinal
  · by_cases hpositive : 0 < localRewardAvailable config again.rewardArtifact
    · have hclaimed := h.credits.2.claimed (by rwa [← hrewards])
      rcases hperformed.claim with ⟨hzero, _⟩ | ⟨_, hsigned, _, _⟩
      · rw [hrewards, hzero] at hpositive
        exact absurd hpositive (Nat.lt_irrefl 0)
      · refine .inr ⟨hpositive, ?_, ?_, .inr ⟨?_, rfl⟩⟩
        · rw [localClaim_congr _ hsame, hrewards]
          exact hsigned
        · rw [withRewards_eq, hopened]
          exact hstillFinal
        · rw [withRewards_eq, hopened]
          exact hclaimed
    · exact .inl ⟨Nat.eq_zero_of_not_pos hpositive, rfl⟩

/-! ## The repetition -/

/-- A new finalization enters the next epoch. -/
theorem Settles.entered (h : Settles senv config data files epochId submissionHeight
      challengeWindowBlocks identity preparation committed finalized settled)
    (hfits : epochId < 2 ^ 64 - 1) (hopen : files.openStore.finalizedEpochs[epochId]? = none) :
    settled.currentEpoch = epochId + 1 := by
  have hperformed := h.performed
  have hcurrent := h.committable.current
  rw [(prepared_of_ok h.prepares).epoch] at hcurrent
  obtain ⟨_, hcommitted⟩ := commitStep_eq h.commit
  have hbook : epochBook (withRewards preparation committed) =
      { epochBook (openedState config data files identity epochId submissionHeight
          challengeWindowBlocks) with
        epochCommits := committed.store.epochCommits
        rewardRecords := (withRewards preparation committed).store.rewardRecords } := by
    rw [withRewards_eq, hcommitted]
    rfl
  have hentered := epochBook_finalized hperformed.finalize (by
    rw [hbook, epochBook_opened]
    exact hopen) (by
    rw [hbook]
    exact hcurrent) hfits
  obtain ⟨⟨_, _, hsettled⟩, _⟩ := claimStep_eq hperformed.claim
  rw [hsettled]
  exact congrArg EpochBook.currentEpoch hentered

/-- A later call goes through, after which the epoch is finalized in the store and the reward of the
node is credited once, counted from the files before the first call. -/
def RetrySucceeds (senv : SettlementEnv) (config : NodeConfig) (data : LocalData)
    (files retried : LocalChainFiles) (epochId submissionHeight challengeWindowBlocks amount : ℕ) :
    Prop :=
  ∃ again, settleLocalEpoch senv config data retried epochId submissionHeight
      challengeWindowBlocks = .ok again ∧
    again.store.finalizedEpochs[epochId]? ≠ none ∧
    CreditedOnce senv.ledger config epochId amount files.openStore again.store

/-- What a settlement from the files does, said of the settlement. -/
theorem Settles.retrySucceeds {height amount : ℕ} {again : EpochPreparationComputation}
    (h : Settles senv config data retried epochId height challengeWindowBlocks identity again
      committed finalized settled)
    (hamount : localRewardAvailable config again.rewardArtifact = amount)
    (hcredits : CreditedOnce senv.ledger config epochId amount files.openStore
      retried.openStore ∨ retried.openStore = files.openStore) :
    RetrySucceeds senv config data files retried epochId height challengeWindowBlocks amount := by
  obtain ⟨settlement, hok, _, hstore⟩ := settleLocalEpoch_of h
  obtain ⟨hfinal, hcredited⟩ := h.credits
  rw [hamount] at hcredited
  refine ⟨settlement, hok, ?_, ?_⟩
  · rw [hstore]
    exact hfinal
  · rw [hstore]
    rcases hcredits with hbefore | hsame
    · exact hbefore.trans hcredited
    · rw [← hsame]
      exact hcredited

end Settling

namespace SettlementSample

/-- The error of a computation that follows another one and a test of its result. -/
def refusalAfter {ε α β : Type} (first : Except ε α) (ahead : α → Bool) (second : α → Except ε β) :
    Option ε :=
  match first with
  | .ok a =>
      match ahead a, second a with
      | true, .error e => some e
      | _, _ => none
  | .error _ => none

theorem of_refusalAfter {ε α β : Type} {first : Except ε α} {ahead : α → Bool}
    {second : α → Except ε β} {e : ε} (h : refusalAfter first ahead second = some e) :
    ∃ a, first = .ok a ∧ ahead a = true ∧ second a = .error e := by
  cases first with
  | error _ => cases h
  | ok a =>
      refine ⟨a, rfl, ?_⟩
      simp only [refusalAfter] at h
      split at h
      · next hahead hsecond =>
          cases h
          exact ⟨hahead, hsecond⟩
      · cases h

/-- A settlement of the first epoch from empty files goes through, and a second one at height 40
from the files that it leaves is stale. -/
theorem second_stale :
    ∃ settlement, settleLocalEpoch services settlingConfig ownData {} 1 10 20 = .ok settlement ∧
      decide ((({} : LocalChainFiles).afterWrites settlement 5).storedHeight 40 < 40) = true ∧
      settleLocalEpoch services settlingConfig ownData
          (({} : LocalChainFiles).afterWrites settlement 5) 1 40 20 =
        .error (.refused (.transition (.staleEpoch 1 2))) :=
  of_refusalAfter (by decide +kernel)

theorem serves_ledger (identity : KeyPair) : Serves ledger identity := by
  refine ⟨fun _ => rfl, fun commit h => ?_⟩
  cases h

end SettlementSample

end PoleProtocol.Node
