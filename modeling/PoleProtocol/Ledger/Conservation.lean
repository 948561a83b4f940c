import PoleProtocol.Ledger.Transitions

/-!
# Conservation of value

The total of the ledger is what its accounts hold free or locked together with the bonds of its
nodes. Every part of a transition moves the total by a fixed amount, so a transition moves it by
the sum of its parts.
-/

namespace PoleProtocol.Ledger

open Framework OrderedMap Action

/-- What an account holds outside of node bonds. -/
def AccountState.worth (account : AccountState) : ℕ := account.balance + account.locked

def ProtocolState.total (s : ProtocolState) : ℕ :=
  OrderedMap.total (fun _ => AccountState.worth) s.store.accounts +
    OrderedMap.total (fun _ => NodeRegistry.bond) s.store.nodes

/-- The environment of a build that panics on 128-bit overflow. -/
def Env.checked (env : Env) : Env := { env with wide := .panic }

variable {env : Env} {s s' : ProtocolState}

abbrev MovesTotal {α : Type} (d : ℤ) (x : Transition α) : Prop :=
  Moves (fun s : ProtocolState => (s.total : ℤ)) d x

theorem add128_checked {a b c : ℕ} : env.checked.add128 a b = .ok c ↔ a + b < 2 ^ 128 ∧ c = a + b := by
  unfold Env.add128
  rw [require_eq_ok]
  exact Overflow.panic_add

/-! ## Parts of a transition -/

theorem total_insertAccount {address : Address} {account account' : AccountState} {d : ℤ}
    (hget : s.store.accounts[address]? = some account)
    (hworth : (account'.worth : ℤ) = account.worth + d) :
    ((s.insertAccount address account').total : ℤ) = s.total + d := by
  have hswap := total_insert_of_get (fun _ => AccountState.worth) account' hget
  have hafter : (s.insertAccount address account').total =
      OrderedMap.total (fun _ => AccountState.worth) (s.store.accounts.insert address account') +
        OrderedMap.total (fun _ => NodeRegistry.bond) s.store.nodes := rfl
  have hbefore : s.total = OrderedMap.total (fun _ => AccountState.worth) s.store.accounts +
      OrderedMap.total (fun _ => NodeRegistry.bond) s.store.nodes := rfl
  omega

theorem total_insertNode {nodeId : NodeId} {node node' : NodeRegistry} {d : ℤ}
    (hget : s.store.nodes[nodeId]? = some node) (hbond : (node'.bond : ℤ) = node.bond + d) :
    ((s.insertNode nodeId node').total : ℤ) = s.total + d := by
  have hswap : OrderedMap.total (fun _ => NodeRegistry.bond) (s.store.nodes.insert nodeId node') +
      node.bond = OrderedMap.total (fun _ => NodeRegistry.bond) s.store.nodes + node'.bond :=
    total_insert_of_get _ node' hget
  have hafter : (s.insertNode nodeId node').total =
      OrderedMap.total (fun _ => AccountState.worth) s.store.accounts +
        OrderedMap.total (fun _ => NodeRegistry.bond) (s.store.nodes.insert nodeId node') := rfl
  have hbefore : s.total = OrderedMap.total (fun _ => AccountState.worth) s.store.accounts +
      OrderedMap.total (fun _ => NodeRegistry.bond) s.store.nodes := rfl
  omega

theorem moves_accountMut {address : Address} {d : ℤ}
    {body : AccountState → Attempt TransitionError AccountState}
    (hbody : ∀ account account', body account = .ok account' →
      (account'.worth : ℤ) = account.worth + d) : MovesTotal d (accountMut address body) := by
  refine moves_update fun s account' hread => ?_
  simp only [found, bind_eq_ok, require_eq_ok] at hread
  obtain ⟨account, hget, hok⟩ := hread
  exact total_insertAccount hget (hbody account account' hok)

theorem moves_nodeMut {nodeId : NodeId} {d : ℤ}
    {body : NodeRegistry → Attempt TransitionError NodeRegistry}
    (hbody : ∀ node node', body node = .ok node' → (node'.bond : ℤ) = node.bond + d) :
    MovesTotal d (nodeMut nodeId body) := by
  refine moves_update fun s node' hread => ?_
  simp only [found, bind_eq_ok, require_eq_ok] at hread
  obtain ⟨node, hget, hok⟩ := hread
  exact total_insertNode hget (hbody node node' hok)

theorem moves_setProposalState (proposalId : Hash32) (state : GovernanceProposalState) :
    MovesTotal 0 (setProposalState proposalId state) :=
  moves_update fun _ _ _ => (add_zero _).symm

theorem lockBond_worth {account account' : AccountState} {amount : ℕ}
    (h : lockBond env.checked account amount = .ok account') : account'.worth = account.worth := by
  simp only [lockBond, refuseUnless, bind_eq_ok, ensure_eq_ok, exists_const, pure_eq_ok,
    add128_checked] at h
  obtain ⟨hfunds, locked, ⟨_, rfl⟩, rfl⟩ := h
  simp only [AccountState.worth]
  omega

theorem unlockBondToBalance_worth {account account' : AccountState} {lockedAmount creditAmount : ℕ}
    (h : unlockBondToBalance env.checked account lockedAmount creditAmount = .ok account') :
    (account'.worth : ℤ) = account.worth + (creditAmount - lockedAmount) := by
  simp only [unlockBondToBalance, refuseUnless, bind_eq_ok, ensure_eq_ok, exists_const, pure_eq_ok,
    add128_checked] at h
  obtain ⟨hfunds, balance, ⟨_, rfl⟩, rfl⟩ := h
  simp only [AccountState.worth]
  omega

theorem burnLockedBond_worth {account account' : AccountState} {amount : ℕ}
    (h : burnLockedBond account amount = .ok account') :
    (account'.worth : ℤ) = account.worth + -amount := by
  simp only [burnLockedBond, refuseUnless, bind_eq_ok, ensure_eq_ok, exists_const, pure_eq_ok] at h
  obtain ⟨hfunds, rfl⟩ := h
  simp only [AccountState.worth]
  omega

/-! ## Transitions -/

section Transitions

theorem moves_applySubmitBatch (tx : SubmitBatchTx) :
    MovesTotal 0 (applySubmitBatch env tx) := by
  refine .after_lift fun _ => .after_get fun s => .after_lift fun _ => .after_lift fun _ =>
    .after_lift fun _ => .after_lift fun _ => .after_lift fun node => .after_lift fun _ => ?_
  exact .after_modify (fun _ => rfl) fun _ => moves_pure _

theorem moves_applyCommitEpoch (tx : CommitEpochTx) :
    MovesTotal 0 (applyCommitEpoch env tx) := by
  refine .after_lift fun _ => .after_get fun s => .after_lift fun _ => .after_lift fun _ =>
    .after_lift fun _ => .after_lift fun _ => .after_lift fun _ => .after_lift fun _ => ?_
  exact .after_modify (fun _ => rfl) fun _ => moves_pure _

theorem moves_applyOpenChallenge (tx : OpenChallengeTx) :
    MovesTotal 0 (applyOpenChallenge env.checked tx) := by
  have hlock : MovesTotal 0 (accountMut tx.challenge.challenger fun account =>
      lockBond env.checked account tx.challenge.bond) := by
    refine moves_accountMut fun account account' h => ?_
    rw [lockBond_worth h, add_zero]
  refine .after_lift fun _ => .after_lift fun _ => .after_get fun s => .after_lift fun _ =>
    .after_lift fun _ => .after_lift fun _ => .after_lift fun _ => hlock.bind_still fun _ => ?_
  exact .after_modify (fun _ => rfl) fun _ => moves_pure _

theorem moves_applyChallengeResponse (tx : ChallengeResponseTx) :
    MovesTotal 0 (applyChallengeResponse env tx) := by
  refine .after_lift fun _ => .after_lift fun _ => .after_get fun s => .after_lift fun _ =>
    .after_lift fun _ => .after_lift fun _ => .after_lift fun _ => .after_lift fun _ => ?_
  exact .after_modify (fun _ => rfl) fun _ => .after_modify (fun _ => rfl) fun _ => moves_pure _

theorem moves_credit (env : Env) (address : Address) (amount : ℕ) :
    MovesTotal amount (accountMut address fun account => do
      return { account with balance := ← env.checked.add128 account.balance amount }) := by
  refine moves_accountMut fun account account' h => ?_
  simp only [bind_eq_ok, pure_eq_ok, add128_checked] at h
  obtain ⟨balance, ⟨_, rfl⟩, rfl⟩ := h
  simp only [AccountState.worth]
  omega

theorem moves_applyClaimReward (tx : ClaimRewardTx) :
    MovesTotal tx.amount (applyClaimReward env.checked tx) := by
  have hmark : MovesTotal 0 (do
      modify fun s : ProtocolState => { s with store := { s.store with
        claimedRewards := s.store.claimedRewards.insert (tx.epochId, tx.nodeId) () } }
      return TransitionEffect.rewardClaimed tx.epochId tx.nodeId tx.claimer tx.amount) :=
    .after_modify (fun _ => rfl) fun _ => moves_pure _
  have hall := (moves_credit env tx.claimer tx.amount).bind fun _ => hmark
  rw [add_zero] at hall
  exact .after_lift fun _ => .after_get fun s => .after_lift fun _ => .after_lift fun _ =>
    .after_lift fun _ => .after_lift fun _ => .after_lift fun _ => .after_lift fun _ => hall

theorem moves_applyTransfer {tx : TransferTx} (hfits : tx.amount + tx.fee < 2 ^ 128) :
    MovesTotal (-tx.fee) (applyTransfer env.checked tx) := by
  have hdebit : MovesTotal (-(tx.amount + tx.fee : ℕ))
      (accountMut tx.sender fun sender => tx.debit env.checked sender) := by
    refine moves_accountMut fun sender sender' h => ?_
    simp only [TransferTx.debit, ensureNonce, refuseUnless, bind_eq_ok, ensure_eq_ok, exists_const,
      pure_eq_ok] at h
    obtain ⟨_, hfunds, nonce, _, rfl⟩ := h
    simp only [saturatingAdd128, AccountState.worth] at hfunds ⊢
    omega
  have hcredit := moves_credit env tx.recipient tx.amount
  have hall := hdebit.bind fun _ => hcredit.return fun _ =>
    TransitionEffect.transferApplied tx.sender tx.recipient tx.amount tx.fee
  have hsum : -((tx.amount + tx.fee : ℕ) : ℤ) + tx.amount = -tx.fee := by
    push_cast
    omega
  rw [hsum] at hall
  exact .after_lift fun _ => hall

theorem moves_applyStake (tx : StakeTx) : MovesTotal 0 (applyStake env.checked tx) := by
  have hdebit : MovesTotal (-tx.amount)
      (accountMut tx.delegator fun delegator => tx.debit env.checked delegator) := by
    refine moves_accountMut fun delegator delegator' h => ?_
    simp only [StakeTx.debit, ensureNonce, refuseUnless, bind_eq_ok, ensure_eq_ok, exists_const,
      pure_eq_ok] at h
    obtain ⟨_, hfunds, _, _, _, _, rfl⟩ := h
    simp only [AccountState.worth]
    omega
  have hbond : MovesTotal tx.amount (nodeMut tx.operator fun operator => do
      return { operator with bond := ← env.checked.add128 operator.bond tx.amount }) := by
    refine moves_nodeMut fun operator operator' h => ?_
    simp only [bind_eq_ok, pure_eq_ok, add128_checked] at h
    obtain ⟨bond, ⟨_, rfl⟩, rfl⟩ := h
    push_cast
    rfl
  refine .after_lift fun _ => .after_lift fun _ => .after_get fun s => .after_lift fun _ => ?_
  rw [← neg_add_cancel (tx.amount : ℤ)]
  refine hdebit.bind fun _ => ?_
  rw [← add_zero (tx.amount : ℤ)]
  exact hbond.bind fun _ => .after_lift fun _ => .after_modify (fun _ => rfl) fun _ => moves_pure _

theorem moves_applyUnbond (tx : UnbondTx) : MovesTotal 0 (applyUnbond env.checked tx) := by
  have hlock : MovesTotal tx.amount
      (accountMut tx.delegator fun delegator => tx.lock env.checked delegator) := by
    refine moves_accountMut fun delegator delegator' h => ?_
    simp only [UnbondTx.lock, ensureNonce, refuseUnless, bind_eq_ok, ensure_eq_ok, exists_const,
      pure_eq_ok, add128_checked] at h
    obtain ⟨_, _, _, ⟨_, rfl⟩, _, _, rfl⟩ := h
    simp only [AccountState.worth]
    omega
  have hbond : MovesTotal (-tx.amount) (nodeMut tx.operator fun operator => do
      ensureBond operator.nodeId operator.bond tx.amount
      return { operator with bond := operator.bond - tx.amount }) := by
    refine moves_nodeMut fun operator operator' h => ?_
    simp only [ensureBond, refuseUnless, bind_eq_ok, ensure_eq_ok, exists_const, pure_eq_ok] at h
    obtain ⟨hcovers, rfl⟩ := h
    change ((operator.bond - tx.amount : ℕ) : ℤ) = _
    omega
  refine .after_lift fun _ => .after_lift fun _ => .after_get fun s => .after_lift fun _ =>
    .after_lift fun _ => ?_
  rw [← add_neg_cancel (tx.amount : ℤ)]
  refine hlock.bind fun _ => ?_
  rw [← add_zero (-(tx.amount : ℤ))]
  refine hbond.bind fun _ => .after_modify ?_ fun _ => .after_lift fun _ =>
    .after_modify (fun _ => rfl) fun _ => moves_pure _
  intro s
  split <;> rfl

theorem moves_processMatureUnbonds : MovesTotal 0 (processMatureUnbonds env.checked) := by
  have hrelease : ∀ request, MovesTotal 0 (releaseUnbond env.checked request) := by
    intro request
    refine Moves.return (moves_accountMut fun account account' h => ?_) _
    rw [unlockBondToBalance_worth h, sub_self]
  exact .after_get fun s => .after_modify (fun _ => rfl) fun _ => .mapM hrelease _

theorem moves_scheduleProtocolParamsUpdate (effectiveEpoch : ℕ) (params : ProtocolParams) :
    MovesTotal 0 (scheduleProtocolParamsUpdate effectiveEpoch params) :=
  .after_lift fun _ => .after_get fun _ => .after_lift fun _ => moves_modify fun _ => rfl

theorem moves_tryScheduleParamsUpdateAfterVote (proposalId : Hash32) :
    MovesTotal 0 (tryScheduleParamsUpdateAfterVote env.checked proposalId) := by
  have hschedule : ∀ proposal,
      MovesTotal 0 (scheduleApprovedProposal env.checked proposalId proposal) := by
    intro proposal
    refine (moves_scheduleProtocolParamsUpdate _ _).bind_still fun _ => ?_
    refine Moves.bind_still (moves_accountMut fun account account' h => ?_) fun _ =>
      moves_setProposalState _ _
    rw [unlockBondToBalance_worth h, sub_self]
  refine .after_get fun s => ?_
  split
  · exact moves_pure _
  · next proposal _ =>
      split
      · refine .after_lift fun approved => ?_
        split
        · exact hschedule proposal
        · exact moves_pure _
      · exact moves_pure _

theorem moves_applyVote (tx : VoteTx) : MovesTotal 0 (applyVote env.checked tx) := by
  have hauthorize : MovesTotal 0
      (accountMut tx.voter fun voter => tx.authorize env.checked voter) := by
    refine moves_accountMut fun voter voter' h => ?_
    simp only [VoteTx.authorize, ensureNonce, refuseUnless, bind_eq_ok, ensure_eq_ok, exists_const,
      pure_eq_ok] at h
    obtain ⟨_, _, _, _, _, _, _, _, rfl⟩ := h
    exact (add_zero _).symm
  exact .after_lift fun _ => .after_lift fun _ => .after_get fun s => .after_lift fun _ =>
    hauthorize.bind_still fun _ => .after_modify (fun _ => rfl) fun _ =>
      (moves_tryScheduleParamsUpdateAfterVote tx.proposalId).bind_still fun _ => moves_pure _

theorem moves_applyProposeProtocolParamsUpdate (tx : ProposeProtocolParamsUpdateTx) :
    MovesTotal 0 (applyProposeProtocolParamsUpdate env.checked tx) := by
  have hlock : ∀ bond, MovesTotal 0
      (accountMut tx.proposer fun proposer => tx.lock env.checked bond proposer) := by
    intro bond
    refine moves_accountMut fun proposer proposer' h => ?_
    simp only [ProposeProtocolParamsUpdateTx.lock, ensureNonce, refuseUnless, bind_eq_ok,
      ensure_eq_ok, exists_const, pure_eq_ok] at h
    obtain ⟨_, account, hlock, _, _, rfl⟩ := h
    rw [add_zero, ← lockBond_worth hlock]
    rfl
  exact .after_lift fun _ => .after_get fun s => .after_lift fun _ => (hlock _).bind_still fun _ =>
    .after_lift fun _ => .after_modify (fun _ => rfl) fun _ => moves_pure _

theorem moves_rejectChallenge (challenge : Challenge) :
    MovesTotal (-challenge.bond) (rejectChallenge challenge) := by
  have hburn : MovesTotal (-challenge.bond) (accountMut challenge.challenger fun account =>
      burnLockedBond account challenge.bond) :=
    moves_accountMut fun account account' h => burnLockedBond_worth h
  rw [← add_zero (-(challenge.bond : ℤ))]
  exact hburn.bind fun _ => .after_modify (fun _ => rfl) fun _ => moves_pure _

theorem moves_upholdChallenge (challenge : Challenge) (resolution : ChallengeResolution) :
    MovesTotal (-(resolution.amounts.1 - resolution.amounts.2))
      (upholdChallenge env.checked challenge resolution) := by
  have hslash : ∀ nodeId, MovesTotal (-resolution.amounts.1) (nodeMut nodeId fun node => do
      ensureBond node.nodeId node.bond resolution.amounts.1
      let challengeableFaults ← env.checked.add32 node.reputation.challengeableFaults 1
      return { node with
        bond := node.bond - resolution.amounts.1
        reputation := { node.reputation with challengeableFaults } }) := by
    intro nodeId
    refine moves_nodeMut fun node node' h => ?_
    simp only [ensureBond, refuseUnless, bind_eq_ok, ensure_eq_ok, exists_const, pure_eq_ok] at h
    obtain ⟨hcovers, _, _, rfl⟩ := h
    change ((node.bond - resolution.amounts.1 : ℕ) : ℤ) = _
    omega
  have hcredit : MovesTotal resolution.amounts.2
      (accountMut challenge.challenger fun account => do
        let creditAmount ← env.checked.add128 challenge.bond resolution.amounts.2
        unlockBondToBalance env.checked account challenge.bond creditAmount) := by
    refine moves_accountMut fun account account' h => ?_
    simp only [bind_eq_ok, add128_checked] at h
    obtain ⟨creditAmount, ⟨_, rfl⟩, hunlock⟩ := h
    rw [unlockBondToBalance_worth hunlock]
    push_cast
    omega
  have hsum : -((resolution.amounts.1 : ℤ) - resolution.amounts.2) =
      -resolution.amounts.1 + (resolution.amounts.2 + 0) := by
    omega
  rw [hsum]
  exact .after_lift fun _ => .after_lift fun _ => .after_lift fun nodeId =>
    (hslash nodeId).bind fun _ => hcredit.bind fun _ =>
      .after_modify (fun _ => rfl) fun _ => moves_pure _

theorem moves_expireProposals (proposals : List GovernanceParamsUpdateProposalRecord) :
    MovesTotal (proposals.map fun proposal => -(proposal.bondAmount : ℤ)).sum
      (proposals.forM expireProposal) := by
  refine .forM (fun proposal => ?_) proposals
  have hburn : MovesTotal (-proposal.bondAmount) (accountMut proposal.proposer fun account =>
      burnLockedBond account proposal.bondAmount) :=
    moves_accountMut fun account account' h => burnLockedBond_worth h
  rw [← add_zero (-(proposal.bondAmount : ℤ))]
  exact hburn.bind fun _ => moves_setProposalState _ _

/-- What installing the scheduled parameters and moving one proposal keep, entering an epoch
keeps. -/
theorem activate_related {R : ProtocolState → ProtocolState → Prop}
    [Std.Refl R] [IsTrans ProtocolState R] {s : ProtocolState}
    (hinstall : ∀ params, s.store.scheduledProtocolParams[s.currentEpoch]? = some params →
      R s { s with params, store := { s.store with
        scheduledProtocolParams := s.store.scheduledProtocolParams.erase s.currentEpoch } })
    (hmove : ∀ (t : ProtocolState) (proposalId : Hash32)
      (record : GovernanceParamsUpdateProposalRecord),
      t.store.paramsUpdateProposals[proposalId]? = some record →
      R t (t.insertParamsUpdateProposal proposalId { record with state := .activated })) :
    R s s.activateScheduledProtocolParams := by
  have hproposal : ∀ (t : ProtocolState) (proposal : GovernanceParamsUpdateProposalRecord),
      R t (t.activateProposal proposal) := by
    intro t proposal
    unfold ProtocolState.activateProposal
    split
    · split
      · exact Std.Refl.refl t
      · next record hstored => exact hmove t _ record hstored
    · exact Std.Refl.refl t
  have hloop : ∀ (proposals : List GovernanceParamsUpdateProposalRecord) (t : ProtocolState),
      R t (proposals.foldl ProtocolState.activateProposal t) := by
    intro proposals
    induction proposals with
    | nil => exact Std.Refl.refl
    | cons proposal proposals ih =>
        intro t
        exact IsTrans.trans _ _ _ (hproposal t proposal) (ih _)
  unfold ProtocolState.activateScheduledProtocolParams
  split
  · exact Std.Refl.refl s
  · next params hparams => exact IsTrans.trans _ _ _ (hinstall params hparams) (hloop _ _)

theorem keeps_activateScheduledProtocolParams {R : ProtocolState → ProtocolState → Prop}
    [Std.Refl R] [IsTrans ProtocolState R]
    (hinstall : ∀ (t : ProtocolState) (params : ProtocolParams)
      (scheduled : OrderedMap ℕ ProtocolParams),
      R t { t with params, store := { t.store with scheduledProtocolParams := scheduled } })
    (hmove : ∀ (t : ProtocolState) (proposalId : Hash32)
      (record : GovernanceParamsUpdateProposalRecord),
      t.store.paramsUpdateProposals[proposalId]? = some record →
      R t (t.insertParamsUpdateProposal proposalId { record with state := .activated }))
    (s : ProtocolState) : R s s.activateScheduledProtocolParams :=
  activate_related (fun params _ => hinstall s params _) hmove

theorem total_activateScheduledProtocolParams (s : ProtocolState) :
    s.activateScheduledProtocolParams.total = s.total :=
  keeps_activateScheduledProtocolParams (R := SameField ProtocolState.total)
    (fun _ _ _ => rfl) (fun _ _ _ _ => rfl) s

end Transitions

/-! ## Builds with and without overflow checks -/

section Agreement

theorem agrees_add128 (env : Env) (a b : ℕ) :
    Attempt.Agrees (env.checked.add128 a b) (env.add128 a b) := by
  intro hcalm
  by_cases hfits : a + b < 2 ^ 128
  · simp only [Env.add128, Overflow.add_of_lt _ hfits]
  · have hpanic : env.checked.add128 a b = .error .panic := by
      simp only [Env.add128, Env.checked, Overflow.add, if_neg hfits]
      rfl
    exact absurd hpanic hcalm

theorem agrees_accountMut {address : Address}
    {body body' : AccountState → Attempt TransitionError AccountState}
    (h : ∀ account, Attempt.Agrees (body account) (body' account)) :
    Agrees (accountMut address body) (accountMut address body') :=
  .update _ fun _ => .bind (.refl _) h

theorem agrees_nodeMut {nodeId : NodeId}
    {body body' : NodeRegistry → Attempt TransitionError NodeRegistry}
    (h : ∀ node, Attempt.Agrees (body node) (body' node)) :
    Agrees (nodeMut nodeId body) (nodeMut nodeId body') :=
  .update _ fun _ => .bind (.refl _) h

theorem agrees_lockBond (env : Env) (account : AccountState) (amount : ℕ) :
    Attempt.Agrees (lockBond env.checked account amount) (lockBond env account amount) :=
  .bind (.refl _) fun _ => .bind (agrees_add128 env _ _) fun _ => .refl _

theorem agrees_unlockBondToBalance (env : Env) (account : AccountState)
    (lockedAmount creditAmount : ℕ) :
    Attempt.Agrees (unlockBondToBalance env.checked account lockedAmount creditAmount)
      (unlockBondToBalance env account lockedAmount creditAmount) :=
  .bind (.refl _) fun _ => .bind (agrees_add128 env _ _) fun _ => .refl _

theorem agrees_applyOpenChallenge (env : Env) (tx : OpenChallengeTx) :
    Agrees (applyOpenChallenge env.checked tx) (applyOpenChallenge env tx) :=
  .bind (.refl _) fun _ => .bind (.refl _) fun _ => .bind (.refl _) fun _ => .bind (.refl _) fun _ =>
    .bind (.refl _) fun _ => .bind (.refl _) fun _ => .bind (.refl _) fun _ =>
      .bind (agrees_accountMut fun account => agrees_lockBond env account _) fun _ => .refl _

theorem agrees_upholdChallenge (env : Env) (challenge : Challenge) (resolution : ChallengeResolution) :
    Agrees (upholdChallenge env.checked challenge resolution)
      (upholdChallenge env challenge resolution) :=
  .bind (.refl _) fun _ => .bind (.refl _) fun _ => .bind (.refl _) fun _ => .bind (.refl _) fun _ =>
    .bind (agrees_accountMut fun account => .bind (agrees_add128 env _ _) fun _ =>
      agrees_unlockBondToBalance env account _ _) fun _ => .refl _

theorem agrees_resolveChallenge (env : Env) (challengeId : Hash32) (resolution : ChallengeResolution) :
    Agrees (resolveChallenge env.checked challengeId resolution)
      (resolveChallenge env challengeId resolution) := by
  refine .bind (.refl _) fun s => .bind (.refl _) fun challenge => .bind (.refl _) fun _ => ?_
  split
  · exact .refl _
  · exact agrees_upholdChallenge env challenge resolution

theorem agrees_credit (env : Env) (address : Address) (amount : ℕ) :
    Agrees
      (accountMut address fun account => do
        return { account with balance := ← env.checked.add128 account.balance amount })
      (accountMut address fun account => do
        return { account with balance := ← env.add128 account.balance amount }) :=
  agrees_accountMut fun _ => .bind (agrees_add128 env _ _) fun _ => .refl _

theorem agrees_applyClaimReward (env : Env) (tx : ClaimRewardTx) :
    Agrees (applyClaimReward env.checked tx) (applyClaimReward env tx) :=
  .bind (.refl _) fun _ => .bind (.refl _) fun _ => .bind (.refl _) fun _ => .bind (.refl _) fun _ =>
    .bind (.refl _) fun _ => .bind (.refl _) fun _ => .bind (.refl _) fun _ => .bind (.refl _) fun _ =>
      .bind (agrees_credit env _ _) fun _ => .refl _

theorem agrees_applyTransfer (env : Env) (tx : TransferTx) :
    Agrees (applyTransfer env.checked tx) (applyTransfer env tx) :=
  .bind (.refl _) fun _ => .bind (.refl _) fun _ => .bind (agrees_credit env _ _) fun _ => .refl _

theorem agrees_applyStake (env : Env) (tx : StakeTx) :
    Agrees (applyStake env.checked tx) (applyStake env tx) :=
  .bind (.refl _) fun _ => .bind (.refl _) fun _ => .bind (.refl _) fun _ => .bind (.refl _) fun _ =>
    .bind (agrees_accountMut fun _ => .bind (.refl _) fun _ => .bind (.refl _) fun _ =>
      .bind (agrees_add128 env _ _) fun _ => .refl _) fun _ =>
    .bind (agrees_nodeMut fun _ => .bind (agrees_add128 env _ _) fun _ => .refl _) fun _ =>
    .bind (.lift (agrees_add128 env _ _)) fun _ => .refl _

theorem agrees_applyUnbond (env : Env) (tx : UnbondTx) :
    Agrees (applyUnbond env.checked tx) (applyUnbond env tx) :=
  .bind (.refl _) fun _ => .bind (.refl _) fun _ => .bind (.refl _) fun _ => .bind (.refl _) fun _ =>
    .bind (.refl _) fun _ =>
    .bind (agrees_accountMut fun _ => .bind (.refl _) fun _ => .bind (.refl _) fun _ =>
      .bind (agrees_add128 env _ _) fun _ => .refl _) fun _ => .refl _

theorem agrees_processMatureUnbonds (env : Env) :
    Agrees (processMatureUnbonds env.checked) (processMatureUnbonds env) :=
  .bind (.refl _) fun _ => .bind (.refl _) fun _ => .mapM (fun _ =>
    .bind (agrees_accountMut fun _ => agrees_unlockBondToBalance env _ _ _) fun _ => .refl _) _

theorem agrees_record (env : Env) (tally : Tally) (vote : GovernanceVoteRecord) :
    Attempt.Agrees (tally.record env.checked vote) (tally.record env vote) := by
  refine .bind (.refl _) fun totalVotes => ?_
  split
  all_goals exact .bind (agrees_add128 env _ _) fun _ => .refl _

theorem agrees_votingPower (env : Env) (account : AccountState) :
    Attempt.Agrees (account.votingPower env.checked) (account.votingPower env) :=
  .bind (agrees_add128 env _ _) fun _ => agrees_add128 env _ _

theorem agrees_totalVotingPower (env : Env) (s : ProtocolState) :
    Attempt.Agrees (s.totalVotingPower env.checked) (s.totalVotingPower env) := by
  refine .foldlM (fun sum account => ?_) _ _
  exact .bind (agrees_votingPower env account) fun _ => agrees_add128 env _ _

theorem agrees_approved (env : Env) (s : ProtocolState) (proposalId : Hash32)
    (kind : GovernanceProposalKind) :
    Attempt.Agrees (s.approved env.checked proposalId kind) (s.approved env proposalId kind) := by
  refine .bind (.foldlM (agrees_record env) _ _) fun tally => ?_
  split
  · exact .refl _
  refine .bind (agrees_add128 env _ _) fun _ => .bind (agrees_add128 env _ _) fun _ =>
    .bind (agrees_totalVotingPower env s) fun totalVotingPower => ?_
  split
  · exact .refl _
  split
  · exact .refl _
  · exact .bind (agrees_add128 env _ _) fun _ => .refl _

theorem agrees_tryScheduleParamsUpdateAfterVote (env : Env) (proposalId : Hash32) :
    Agrees (tryScheduleParamsUpdateAfterVote env.checked proposalId)
      (tryScheduleParamsUpdateAfterVote env proposalId) := by
  refine .bind (.refl _) fun s => ?_
  split
  · exact .refl _
  · next proposal _ =>
      split
      · refine .bind (.lift (agrees_approved env s proposalId proposal.kind)) fun approved => ?_
        split
        · exact .bind (.refl _) fun _ => .bind (agrees_accountMut fun _ =>
            agrees_unlockBondToBalance env _ _ _) fun _ => .refl _
        · exact .refl _
      · exact .refl _

theorem agrees_applyVote (env : Env) (tx : VoteTx) :
    Agrees (applyVote env.checked tx) (applyVote env tx) :=
  .bind (.refl _) fun _ => .bind (.refl _) fun _ => .bind (.refl _) fun _ => .bind (.refl _) fun _ =>
    .bind (agrees_accountMut fun _ => .bind (.refl _) fun _ => .bind (agrees_votingPower env _)
      fun _ => .refl _) fun _ =>
    .bind (.refl _) fun _ => .bind (agrees_tryScheduleParamsUpdateAfterVote env _) fun _ => .refl _

theorem agrees_applyProposeProtocolParamsUpdate (env : Env) (tx : ProposeProtocolParamsUpdateTx) :
    Agrees (applyProposeProtocolParamsUpdate env.checked tx)
      (applyProposeProtocolParamsUpdate env tx) :=
  .bind (.refl _) fun _ => .bind (.refl _) fun _ => .bind (.refl _) fun _ =>
    .bind (agrees_accountMut fun _ => .bind (.refl _) fun _ => .bind (agrees_lockBond env _ _) fun _ =>
      .refl _) fun _ => .refl _

theorem agrees_apply (env : Env) (tx : Transaction) :
    Agrees (tx.apply env.checked) (tx.apply env) := by
  cases tx with
  | transfer tx => exact agrees_applyTransfer env tx
  | stake tx => exact agrees_applyStake env tx
  | unbond tx => exact agrees_applyUnbond env tx
  | claimReward tx => exact agrees_applyClaimReward env tx
  | submitBatch tx => exact .refl _
  | commitEpoch tx => exact .refl _
  | openChallenge tx => exact agrees_applyOpenChallenge env tx
  | challengeResponse tx => exact .refl _
  | vote tx => exact agrees_applyVote env tx
  | proposeProtocolParamsUpdate tx => exact agrees_applyProposeProtocolParamsUpdate env tx

/-- A build without overflow checks does what a build with them does, as long as that one does not
panic. -/
theorem agrees_perform (env : Env) (call : Call) :
    Agrees (call.perform env.checked) (call.perform env) := by
  cases call with
  | transaction tx => exact .bind (agrees_apply env tx) fun _ => .refl _
  | processMatureUnbonds => exact .bind (agrees_processMatureUnbonds env) fun _ => .refl _
  | resolveChallenge id resolution =>
      exact .bind (agrees_resolveChallenge env id resolution) fun _ => .refl _
  | finalizeEpoch epochId => exact .refl _
  | scheduleProtocolParamsUpdate epoch params => exact .refl _

end Agreement

/-! ## The ledger's total -/

/-- No 128-bit sum of the call leaves its word: neither one that a checked build would stop at,
nor the total of a transfer, which saturates. -/
structure ExactSums (env : Env) (s : ProtocolState) (call : Call) : Prop where
  checked : ∀ t, (call.perform env.checked).run s ≠ .error .panic t
  transfer : ∀ tx, call = .transaction (.transfer tx) → tx.amount + tx.fee < 2 ^ 128

/-- The bonds of a list of proposals. -/
def proposalBonds (proposals : List GovernanceParamsUpdateProposalRecord) : ℕ :=
  (proposals.map (·.bondAmount)).sum

/-- The proposals that expire when epoch `epochId` is finalized and `currentEpoch` entered. -/
def ProtocolState.expiring (s : ProtocolState) (epochId currentEpoch : ℕ) :
    List GovernanceParamsUpdateProposalRecord :=
  if s.currentEpoch ≤ epochId then
    { s.markEpochFinalized epochId with
      currentEpoch }.activateScheduledProtocolParams.staleParamsUpdateProposals
  else []

/-- What a successful call from `s` to `s'` adds to the total. -/
def Call.change (s s' : ProtocolState) : Call → ℤ
  | .transaction (.transfer tx) => -tx.fee
  | .transaction (.claimReward tx) => tx.amount
  | .resolveChallenge challengeId .rejected =>
      -((s.store.openChallenges[challengeId]?.map (·.bond)).getD 0 : ℕ)
  | .resolveChallenge _ resolution => -(resolution.amounts.1 - resolution.amounts.2)
  | .finalizeEpoch epochId => -(proposalBonds (s.expiring epochId s'.currentEpoch) : ℕ)
  | _ => 0

theorem moves_apply {tx : Transaction} (s' : ProtocolState)
    (hfits : ∀ transfer, tx = .transfer transfer → transfer.amount + transfer.fee < 2 ^ 128) :
    MovesTotal ((Call.transaction tx).change s s') (tx.apply env.checked) := by
  cases tx with
  | transfer tx => exact moves_applyTransfer (hfits tx rfl)
  | stake tx => exact moves_applyStake tx
  | unbond tx => exact moves_applyUnbond tx
  | claimReward tx => exact moves_applyClaimReward tx
  | submitBatch tx => exact moves_applySubmitBatch tx
  | commitEpoch tx => exact moves_applyCommitEpoch tx
  | openChallenge tx => exact moves_applyOpenChallenge tx
  | challengeResponse tx => exact moves_applyChallengeResponse tx
  | vote tx => exact moves_applyVote tx
  | proposeProtocolParamsUpdate tx => exact moves_applyProposeProtocolParamsUpdate tx

theorem resolveChallenge_total {challengeId : Hash32} {resolution : ChallengeResolution}
    {effect : TransitionEffect}
    (h : (resolveChallenge env.checked challengeId resolution).run s = .ok effect s') :
    (s'.total : ℤ) = s.total + (Call.resolveChallenge challengeId resolution).change s s' := by
  simp only [resolveChallenge, found, get_bind, lift_bind_ok, require_eq_ok, modify_bind] at h
  obtain ⟨challenge, hfound, h⟩ := h
  have hremoved : (s.removeOpenChallenge challengeId).total = s.total := rfl
  split at h
  · next hrejected =>
      subst hrejected
      have hmoves : (s'.total : ℤ) = (s.removeOpenChallenge challengeId).total + -challenge.bond :=
        moves_rejectChallenge challenge _ _ _ h
      have hchange : (Call.resolveChallenge challengeId .rejected).change s s' = -challenge.bond := by
        simp [Call.change, hfound]
      rw [hmoves, hchange, hremoved]
  · next hupheld =>
      have hmoves : (s'.total : ℤ) = (s.removeOpenChallenge challengeId).total +
          -(resolution.amounts.1 - resolution.amounts.2) :=
        moves_upholdChallenge challenge resolution _ _ _ h
      have hchange : (Call.resolveChallenge challengeId resolution).change s s' =
          -(resolution.amounts.1 - resolution.amounts.2) := by
        cases resolution with
        | rejected => exact absurd rfl hupheld
        | _ => rfl
      rw [hmoves, hchange, hremoved]

theorem keeps_epoch_expireProposals (proposals : List GovernanceParamsUpdateProposalRecord) :
    Keeps (SameField ProtocolState.currentEpoch) (proposals.forM expireProposal) := by
  refine .forM (fun proposal => ?_) proposals
  exact .bind (keeps_update fun _ _ _ => rfl) fun _ => keeps_update fun _ _ _ => rfl

theorem activateScheduledProtocolParams_currentEpoch (s : ProtocolState) :
    s.activateScheduledProtocolParams.currentEpoch = s.currentEpoch :=
  keeps_activateScheduledProtocolParams (R := SameField ProtocolState.currentEpoch)
    (fun _ _ _ => rfl) (fun _ _ _ _ => rfl) s

theorem enterEpoch_total {next : ℕ} {u : Unit} (h : (enterEpoch next).run s = .ok u s') :
    s'.currentEpoch = next ∧
    (s'.total : ℤ) = s.total + -(proposalBonds { s with
      currentEpoch := next }.activateScheduledProtocolParams.staleParamsUpdateProposals : ℕ) := by
  simp only [enterEpoch, modify_bind, expireStaleParamsUpdateProposals, get_bind] at h
  generalize hentered : { s with currentEpoch := next }.activateScheduledProtocolParams = entered at h ⊢
  have hepoch : entered.currentEpoch = next := by
    rw [← hentered, activateScheduledProtocolParams_currentEpoch]
  have htotal : entered.total = s.total := by
    rw [← hentered, total_activateScheduledProtocolParams]
    rfl
  have hkept := keeps_epoch_expireProposals entered.staleParamsUpdateProposals entered
  rw [finish_of_ok h] at hkept
  have hmoves : (s'.total : ℤ) = entered.total +
      (entered.staleParamsUpdateProposals.map fun proposal => -(proposal.bondAmount : ℤ)).sum :=
    moves_expireProposals _ _ _ _ h
  have hbonds : (entered.staleParamsUpdateProposals.map fun proposal =>
      -(proposal.bondAmount : ℤ)).sum = -(proposalBonds entered.staleParamsUpdateProposals : ℕ) := by
    generalize entered.staleParamsUpdateProposals = proposals
    induction proposals with
    | nil => rfl
    | cons proposal proposals ih =>
        simp only [proposalBonds, List.map_cons, List.sum_cons] at ih ⊢
        omega
  exact ⟨hkept.trans hepoch, by rw [hmoves, htotal, hbonds]⟩

theorem finalizeEpoch_total {epochId : ℕ} {effect : TransitionEffect}
    (h : (finalizeEpoch env epochId).run s = .ok effect s') :
    (s'.total : ℤ) = s.total + (Call.finalizeEpoch epochId).change s s' := by
  simp only [finalizeEpoch, get_bind, lift_bind_ok, modify_bind] at h
  obtain ⟨_, _, commit, _, _, _, _, _, h⟩ := h
  obtain ⟨_, t, hadvance, hreturn⟩ := bind_ok.mp h
  cases hreturn
  have hmarked : (s.markEpochFinalized epochId).total = s.total := rfl
  unfold advanceEpoch at hadvance
  split at hadvance
  · next hcurrent =>
      obtain ⟨next, _, henter⟩ := lift_bind_ok.mp hadvance
      obtain ⟨hepoch, htotal⟩ := enterEpoch_total henter
      simp only [Call.change, ProtocolState.expiring, if_pos hcurrent, hepoch]
      rw [htotal, hmarked]
  · next hcurrent =>
      cases hadvance
      simp [Call.change, ProtocolState.expiring, proposalBonds, hcurrent, hmarked]

/-- The two tables hold the same pending proposals. -/
def SamePending (m m' : OrderedMap Hash32 GovernanceParamsUpdateProposalRecord) : Prop :=
  ∀ (k : Hash32) (r : GovernanceParamsUpdateProposalRecord), r.state = .pending →
    (m[k]? = some r ↔ m'[k]? = some r)

theorem samePending_activateProposal
    {m : OrderedMap Hash32 GovernanceParamsUpdateProposalRecord}
    (hpending : SamePending s.store.paramsUpdateProposals m)
    {proposal : GovernanceParamsUpdateProposalRecord}
    (hproposal : m[proposal.proposalId]? = some proposal) :
    SamePending (s.activateProposal proposal).store.paramsUpdateProposals m := by
  unfold ProtocolState.activateProposal
  split
  · next hscheduled =>
      split
      · exact hpending
      · next record _ =>
          intro k r hr
          change (s.store.paramsUpdateProposals.insert proposal.proposalId
            { record with state := .activated })[k]? = some r ↔ _
          by_cases hk : proposal.proposalId = k
          · subst hk
            rw [get_insert_self, hproposal]
            constructor
            · rintro ⟨⟩
              cases hr
            · rintro ⟨⟩
              rw [hscheduled.1] at hr
              cases hr
          · rw [get_insert_ne _ _ hk]
            exact hpending k r hr
  · exact hpending

/-- In a store that keys proposals by their id, the proposals that expire are the pending ones
whose epoch has come. -/
theorem expiring_of_keyed {epochId currentEpoch : ℕ}
    (hkeyed : KeyedBy (·.proposalId) s.store.paramsUpdateProposals)
    (hcurrent : s.currentEpoch ≤ epochId) :
    s.expiring epochId currentEpoch = { s with currentEpoch }.staleParamsUpdateProposals := by
  have hloop : ∀ (proposals : List GovernanceParamsUpdateProposalRecord) (t : ProtocolState),
      (∀ p ∈ proposals, s.store.paramsUpdateProposals[p.proposalId]? = some p) →
      SamePending t.store.paramsUpdateProposals s.store.paramsUpdateProposals →
      SamePending (proposals.foldl ProtocolState.activateProposal t).store.paramsUpdateProposals
        s.store.paramsUpdateProposals := by
    intro proposals
    induction proposals with
    | nil => exact fun t _ ht => ht
    | cons proposal proposals ih =>
        intro t hstored ht
        refine ih _ (fun p hp => hstored p (List.mem_cons_of_mem proposal hp)) ?_
        exact samePending_activateProposal ht (hstored proposal List.mem_cons_self)
  have hactivated : ∀ t : ProtocolState,
      t.store.paramsUpdateProposals = s.store.paramsUpdateProposals →
      SamePending t.activateScheduledProtocolParams.store.paramsUpdateProposals
        s.store.paramsUpdateProposals := by
    intro t ht
    unfold ProtocolState.activateScheduledProtocolParams
    split
    · rw [ht]
      exact fun _ _ _ => Iff.rfl
    · refine hloop _ _ (fun p hp => ?_) ?_
      · rw [ht] at hp
        obtain ⟨k, hk⟩ := mem_records.mp hp
        have hid : p.proposalId = k := hkeyed k p hk
        rwa [hid]
      · change SamePending t.store.paramsUpdateProposals _
        rw [ht]
        exact fun _ _ _ => Iff.rfl
  rw [ProtocolState.expiring, if_pos hcurrent]
  unfold ProtocolState.staleParamsUpdateProposals
  rw [activateScheduledProtocolParams_currentEpoch]
  refine filter_records_congr _ fun k r hr => ?_
  exact hactivated { s.markEpochFinalized epochId with currentEpoch } rfl k r
    (of_decide_eq_true hr).1

/-- Every successful call without overflow changes the total by exactly the amount of its kind. -/
theorem total_change (env : Env) (s s' : ProtocolState) (call : Call)
    (hok : (call.perform env).run s = .ok () s') (hexact : ExactSums env s call) :
    (s'.total : ℤ) = s.total + call.change s s' := by
  have hchecked : (call.perform env.checked).run s = .ok () s' := by
    rw [← agrees_perform env call s hexact.checked]
    exact hok
  cases call with
  | transaction tx =>
      obtain ⟨effect, t, hrun, hreturn⟩ := bind_ok.mp hchecked
      cases hreturn
      have hfits : ∀ transfer, tx = .transfer transfer →
          transfer.amount + transfer.fee < 2 ^ 128 := by
        rintro transfer rfl
        exact hexact.transfer transfer rfl
      exact moves_apply s' hfits s effect s' hrun
  | processMatureUnbonds =>
      obtain ⟨effects, t, hrun, hreturn⟩ := bind_ok.mp hchecked
      cases hreturn
      exact moves_processMatureUnbonds s effects s' hrun
  | resolveChallenge challengeId resolution =>
      obtain ⟨effect, t, hrun, hreturn⟩ := bind_ok.mp hchecked
      cases hreturn
      exact resolveChallenge_total hrun
  | finalizeEpoch epochId =>
      obtain ⟨effect, t, hrun, hreturn⟩ := bind_ok.mp hchecked
      cases hreturn
      exact finalizeEpoch_total hrun
  | scheduleProtocolParamsUpdate effectiveEpoch params =>
      exact moves_scheduleProtocolParamsUpdate effectiveEpoch params s () s' hchecked

namespace Sample

/-- Alice and Bob with ten coins each. -/
def funded : ProtocolState where
  height := 1
  currentEpoch := 0
  params := defaultProtocolParams
  store :=
    { accounts := ((∅ : OrderedMap Address AccountState).insert alice (account alice 10)).insert bob
        (account bob 10) }

/-- Alice has paid Bob five coins and a fee. -/
def paid : ProtocolState :=
  ((Call.transaction (.transfer transfer)).perform (Sample.env .wrap)).finish funded

end Sample

/-- A transfer costs its fee, in a build that wraps as well. -/
theorem total_change_transfer :
    (Sample.paid.total : ℤ) = Sample.funded.total +
      (Call.transaction (.transfer Sample.transfer)).change Sample.funded Sample.paid := by
  refine total_change (Sample.env .wrap) Sample.funded Sample.paid
    (.transaction (.transfer Sample.transfer)) (ok_of_succeeds ?_) ⟨?_, ?_⟩
  · decide +kernel
  · exact calm_of_ok (ok_of_succeeds (by decide +kernel))
  · rintro tx ⟨⟩
    decide

end PoleProtocol.Ledger
