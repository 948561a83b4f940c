import PoleProtocol.Ledger.Atomicity

/-!
# What a transition can do

Every accepted transaction is one of the effects below, with the checks that later arguments need.
A refused transaction leaves the state alone or leaves one of the four remainders that follow.
Invariants of the ledger are proved by cases on these, so no transition is unfolded twice.
-/

namespace PoleProtocol.Ledger

open Framework OrderedMap Action

variable {env : Env} {s s' : ProtocolState}

/-! ## Changes of an account -/

theorem lockBond_ok {account account' : AccountState} {amount : ℕ} :
    lockBond env account amount = .ok account' ↔ amount ≤ account.balance ∧
      ∃ locked, env.add128 account.locked amount = .ok locked ∧
      { account with balance := account.balance - amount, locked } = account' := by
  simp only [lockBond, refuseUnless, bind_eq_ok, ensure_eq_ok, exists_const, pure_eq_ok]

theorem unlockBondToBalance_ok {account account' : AccountState} {lockedAmount creditAmount : ℕ} :
    unlockBondToBalance env account lockedAmount creditAmount = .ok account' ↔
      lockedAmount ≤ account.locked ∧
      ∃ balance, env.add128 account.balance creditAmount = .ok balance ∧
      { account with locked := account.locked - lockedAmount, balance } = account' := by
  simp only [unlockBondToBalance, refuseUnless, bind_eq_ok, ensure_eq_ok, exists_const, pure_eq_ok]

theorem stakeDebit_ok {tx : StakeTx} {delegator delegator' : AccountState} :
    tx.debit env delegator = .ok delegator' ↔ delegator.nonce = tx.nonce ∧
      tx.amount ≤ delegator.balance ∧ ∃ staked, env.add128 delegator.staked tx.amount = .ok staked ∧
      ∃ nonce, env.add64 delegator.nonce 1 = .ok nonce ∧
      { delegator with balance := delegator.balance - tx.amount, staked, nonce } = delegator' := by
  simp only [StakeTx.debit, ensureNonce, refuseUnless, bind_eq_ok, ensure_eq_ok, exists_const,
    pure_eq_ok]

theorem proposeLock_ok {tx : ProposeProtocolParamsUpdateTx} {bond : ℕ}
    {proposer proposer' : AccountState} :
    tx.lock env bond proposer = .ok proposer' ↔ proposer.nonce = tx.nonce ∧
      bond ≤ proposer.balance ∧ ∃ locked, env.add128 proposer.locked bond = .ok locked ∧
      ∃ nonce, env.add64 proposer.nonce 1 = .ok nonce ∧
      { proposer with balance := proposer.balance - bond, locked, nonce } = proposer' := by
  simp only [ProposeProtocolParamsUpdateTx.lock, ensureNonce, refuseUnless, bind_eq_ok, ensure_eq_ok,
    exists_const, pure_eq_ok, lockBond_ok]
  constructor
  · rintro ⟨hnonce, _, ⟨hfunds, locked, hlocked, rfl⟩, nonce, hadd, rfl⟩
    exact ⟨hnonce, hfunds, locked, hlocked, nonce, hadd, rfl⟩
  · rintro ⟨hnonce, hfunds, locked, hlocked, nonce, hadd, rfl⟩
    exact ⟨hnonce, _, ⟨hfunds, locked, hlocked, rfl⟩, nonce, hadd, rfl⟩

/-! ## Accepted transactions -/

/-- The bond of an approved proposal returns to its proposer, and its parameters are scheduled. -/
def ProtocolState.schedule (s : ProtocolState) (effectiveEpoch : ℕ) (params : ProtocolParams) :
    ProtocolState :=
  { s with store := { s.store with
      scheduledProtocolParams := s.store.scheduledProtocolParams.insert effectiveEpoch params } }

/-- A proposal that a vote brought over its thresholds. -/
structure Approved (env : Env) (s : ProtocolState) (proposalId : Hash32)
    (proposal : GovernanceParamsUpdateProposalRecord) : Prop where
  stored : s.store.paramsUpdateProposals[proposalId]? = some proposal
  pending : proposal.state = .pending
  counted : s.approved env proposalId proposal.kind = .ok true
  valid : proposal.params.validate = .ok ()
  ahead : s.currentEpoch < proposal.effectiveEpoch

/-- What follows a vote: nothing, or the scheduling of the proposal. -/
inductive Scheduling (env : Env) (proposalId : Hash32) : ProtocolState → ProtocolState → Prop
  | none {s : ProtocolState} : Scheduling env proposalId s s
  | full {s : ProtocolState} {proposal : GovernanceParamsUpdateProposalRecord}
      {account account' : AccountState} (happroved : Approved env s proposalId proposal)
      (hget : s.store.accounts[proposal.proposer]? = some account)
      (hunlock : unlockBondToBalance env account proposal.bondAmount proposal.bondAmount =
        .ok account') :
      Scheduling env proposalId s
        (((s.schedule proposal.effectiveEpoch proposal.params).insertAccount proposal.proposer
          account').insertParamsUpdateProposal proposalId { proposal with state := .scheduled })

/-- Store the request of an unbonding. -/
def ProtocolState.queueUnbonding (s : ProtocolState) (request : UnbondingRecord) : ProtocolState :=
  { s with store := { s.store with unbondingQueue := s.store.unbondingQueue ++ [request] } }

/-- Store what is left of a delegation. -/
def ProtocolState.reduceDelegation (s : ProtocolState) (tx : UnbondTx) (remaining : ℕ) :
    ProtocolState :=
  if remaining = 0 then s.removeDelegation (tx.delegator, tx.operator)
  else s.insertDelegation { delegator := tx.delegator, operator := tx.operator, amount := remaining }

/-- The amount a delegator has at an operator. -/
def ProtocolState.delegated (s : ProtocolState) (delegator : Address) (operator : NodeId) : ℕ :=
  (s.store.delegations[(delegator, operator)]?.map (·.amount)).getD 0

def ProtocolState.insertBatch (s : ProtocolState) (key : BatchKey) (batch : BatchCommit) :
    ProtocolState :=
  { s with store := { s.store with batches := s.store.batches.insert key batch } }

def ProtocolState.insertEpochCommit (s : ProtocolState) (commit : EpochCommit) : ProtocolState :=
  { s with store := { s.store with
      epochCommits := s.store.epochCommits.insert commit.epochId commit } }

def ProtocolState.insertChallengeResponse (s : ProtocolState) (tx : ChallengeResponseTx) :
    ProtocolState :=
  { s with store := { s.store with
      challengeResponses := s.store.challengeResponses.insert tx.challengeId
        { challengeId := tx.challengeId
          responder := tx.responder
          responsePayloadCid := tx.responsePayloadCid
          responseHash := tx.responseHash
          respondedAtHeight := s.height } } }

def ProtocolState.markRewardClaimed (s : ProtocolState) (key : RewardKey) : ProtocolState :=
  { s with store := { s.store with claimedRewards := s.store.claimedRewards.insert key () } }

/-- The record of a proposal that was just made. -/
def ProposeProtocolParamsUpdateTx.record (tx : ProposeProtocolParamsUpdateTx) (s : ProtocolState)
    (paramsHash : Hash32) : GovernanceParamsUpdateProposalRecord where
  proposalId := tx.proposalId
  proposer := tx.proposer
  kind := classifyProtocolParamsUpdate s.params tx.params
  effectiveEpoch := tx.effectiveEpoch
  submittedHeight := s.height
  bondAmount := requiredProposalBond s.params (classifyProtocolParamsUpdate s.params tx.params)
  paramsHash
  params := tx.params
  state := .pending

/-- What an accepted transaction does. -/
inductive Applied (env : Env) : Transaction → ProtocolState → ProtocolState → Prop
  | transfer {s : ProtocolState} {tx : TransferTx} {sender sender' recipient : AccountState}
      {balance : ℕ} (hget : s.store.accounts[tx.sender]? = some sender)
      (hdebit : tx.debit env sender = .ok sender')
      (hrecipient : (s.insertAccount tx.sender sender').store.accounts[tx.recipient]? =
        some recipient)
      (hcredit : env.add128 recipient.balance tx.amount = .ok balance) :
      Applied env (.transfer tx) s ((s.insertAccount tx.sender sender').insertAccount tx.recipient
        { recipient with balance })
  | stake {s : ProtocolState} {tx : StakeTx} {node : NodeRegistry}
      {delegator delegator' : AccountState} {bond amount : ℕ} (hamount : tx.amount ≠ 0)
      (hnode : s.store.nodes[tx.operator]? = some node)
      (hget : s.store.accounts[tx.delegator]? = some delegator)
      (hdebit : tx.debit env delegator = .ok delegator')
      (hbond : env.add128 node.bond tx.amount = .ok bond)
      (hdelegated : env.add128 (s.delegated tx.delegator tx.operator) tx.amount = .ok amount) :
      Applied env (.stake tx) s
        (((s.insertAccount tx.delegator delegator').insertNode tx.operator
          { node with bond }).insertDelegation
            { delegator := tx.delegator, operator := tx.operator, amount })
  | unbond {s : ProtocolState} {tx : UnbondTx} {node : NodeRegistry}
      {delegator delegator' : AccountState} {existing : DelegationRecord} {unlockHeight : ℕ}
      (hamount : tx.amount ≠ 0)
      (hexisting : s.store.delegations[(tx.delegator, tx.operator)]? = some existing)
      (hcovered : tx.amount ≤ existing.amount)
      (hget : s.store.accounts[tx.delegator]? = some delegator)
      (hlock : tx.lock env delegator = .ok delegator')
      (hnode : s.store.nodes[tx.operator]? = some node) (hbond : tx.amount ≤ node.bond)
      (hunlock : env.add64 s.height s.params.unbondingBlocks = .ok unlockHeight) :
      Applied env (.unbond tx) s
        ((((s.insertAccount tx.delegator delegator').insertNode tx.operator
          { node with bond := node.bond - tx.amount }).reduceDelegation tx
            (existing.amount - tx.amount)).queueUnbonding
              { delegator := tx.delegator, operator := tx.operator, amount := tx.amount
                unlockHeight })
  | submitBatch {s : ProtocolState} {tx : SubmitBatchTx} {node : NodeRegistry}
      (hcurrent : s.currentEpoch ≤ tx.batchCommit.epochId)
      (hnode : s.store.nodes[tx.batchCommit.collectorId]? = some node)
      (hfresh : s.store.batches[(tx.batchCommit.epochId, node.nodeId,
        tx.batchCommit.batch.root)]? = none) :
      Applied env (.submitBatch tx) s (s.insertBatch
        (tx.batchCommit.epochId, node.nodeId, tx.batchCommit.batch.root)
        { tx.batchCommit with submittedAtHeight := s.height })
  | commitEpoch {s : ProtocolState} {tx : CommitEpochTx}
      (hcurrent : s.currentEpoch ≤ tx.epochCommit.epochId)
      (hfresh : s.store.epochCommits[tx.epochCommit.epochId]? = none)
      (hwindow : s.height < tx.epochCommit.challengeDeadlineHeight) :
      Applied env (.commitEpoch tx) s (s.insertEpochCommit
        { tx.epochCommit with challengeOpenHeight := s.height })
  | openChallenge {s : ProtocolState} {tx : OpenChallengeTx} {commit : EpochCommit}
      {account account' : AccountState}
      (hfresh : s.store.openChallenges[tx.challenge.challengeId]? = none)
      (hcommit : s.store.epochCommits[tx.challenge.epochId]? = some commit)
      (hopen : s.height < tx.challenge.deadlineHeight)
      (hdeadline : tx.challenge.deadlineHeight ≤ commit.challengeDeadlineHeight)
      (hget : s.store.accounts[tx.challenge.challenger]? = some account)
      (hlock : lockBond env account tx.challenge.bond = .ok account') :
      Applied env (.openChallenge tx) s
        ((s.insertAccount tx.challenge.challenger account').insertOpenChallenge
          tx.challenge.challengeId { tx.challenge with openedAtHeight := s.height })
  | challengeResponse {s : ProtocolState} {tx : ChallengeResponseTx} {challenge : Challenge}
      (hfresh : s.store.challengeResponses[tx.challengeId]? = none)
      (hopen : s.store.openChallenges[tx.challengeId]? = some challenge) :
      Applied env (.challengeResponse tx) s
        (((s.removeOpenChallenge tx.challengeId).insertOpenChallenge tx.challengeId
          { challenge with state := .responded }).insertChallengeResponse tx)
  | claimReward {s : ProtocolState} {tx : ClaimRewardTx} {account : AccountState} {balance : ℕ}
      (hfresh : s.store.claimedRewards[(tx.epochId, tx.nodeId)]? = none)
      (hget : s.store.accounts[tx.claimer]? = some account)
      (hcredit : env.add128 account.balance tx.amount = .ok balance) :
      Applied env (.claimReward tx) s ((s.insertAccount tx.claimer
        { account with balance }).markRewardClaimed (tx.epochId, tx.nodeId))
  | vote {s t : ProtocolState} {tx : VoteTx} {voter voter' : AccountState}
      (hfresh : s.store.votes[(tx.proposalId, tx.voter)]? = none)
      (hget : s.store.accounts[tx.voter]? = some voter)
      (hauthorize : tx.authorize env voter = .ok voter')
      (hscheduling : Scheduling env tx.proposalId
        ((s.insertAccount tx.voter voter').insertVote tx) t) :
      Applied env (.vote tx) s t
  | proposeProtocolParamsUpdate {s : ProtocolState} {tx : ProposeProtocolParamsUpdateTx}
      {account account' : AccountState} {paramsHash : Hash32}
      (hfresh : s.store.paramsUpdateProposals[tx.proposalId]? = none)
      (hget : s.store.accounts[tx.proposer]? = some account)
      (hlock : tx.lock env (tx.record s paramsHash).bondAmount account = .ok account') :
      Applied env (.proposeProtocolParamsUpdate tx) s
        ((s.insertAccount tx.proposer account').insertParamsUpdateProposal tx.proposalId
          (tx.record s paramsHash))

theorem accountMut_bind_ok {β : Type} {address : Address} {b : β} {f : Unit → Transition β}
    {body : AccountState → Attempt TransitionError AccountState} :
    (accountMut address body >>= f).run s = .ok b s' ↔ ∃ account account',
      s.store.accounts[address]? = some account ∧ body account = .ok account' ∧
      (f ()).run (s.insertAccount address account') = .ok b s' := by
  rw [bind_ok]
  constructor
  · rintro ⟨_, _, hborrow, hrest⟩
    obtain ⟨account, account', hget, hbody, rfl⟩ := accountMut_ok.mp hborrow
    exact ⟨account, account', hget, hbody, hrest⟩
  · rintro ⟨account, account', hget, hbody, hrest⟩
    exact ⟨(), _, accountMut_ok.mpr ⟨account, account', hget, hbody, rfl⟩, hrest⟩

theorem nodeMut_bind_ok {β : Type} {nodeId : NodeId} {b : β} {f : Unit → Transition β}
    {body : NodeRegistry → Attempt TransitionError NodeRegistry} :
    (nodeMut nodeId body >>= f).run s = .ok b s' ↔ ∃ node node',
      s.store.nodes[nodeId]? = some node ∧ body node = .ok node' ∧
      (f ()).run (s.insertNode nodeId node') = .ok b s' := by
  rw [bind_ok]
  constructor
  · rintro ⟨_, _, hborrow, hrest⟩
    obtain ⟨node, node', hget, hbody, rfl⟩ := nodeMut_ok.mp hborrow
    exact ⟨node, node', hget, hbody, hrest⟩
  · rintro ⟨node, node', hget, hbody, hrest⟩
    exact ⟨(), _, nodeMut_ok.mpr ⟨node, node', hget, hbody, rfl⟩, hrest⟩

theorem scheduling_of_ok {proposalId : Hash32} {u : Unit}
    (h : (tryScheduleParamsUpdateAfterVote env proposalId).run s = .ok u s') :
    Scheduling env proposalId s s' := by
  simp only [tryScheduleParamsUpdateAfterVote, get_bind] at h
  split at h
  · cases h
    exact .none
  · next proposal hstored =>
      split at h
      · next hpending =>
          obtain ⟨approved, hcounted, h⟩ := lift_bind_ok.mp h
          cases approved with
          | false =>
              cases h
              exact .none
          | true =>
              obtain ⟨_, t, hscheduled, h⟩ := bind_ok.mp h
              obtain ⟨_, t', hunlocked, hmoved⟩ := bind_ok.mp h
              obtain ⟨hvalid, hahead, rfl⟩ := scheduleProtocolParamsUpdate_ok.mp hscheduled
              obtain ⟨account, account', hget, hunlock, rfl⟩ := accountMut_ok.mp hunlocked
              obtain ⟨record, hrecord, rfl⟩ := setProposalState_ok.mp hmoved
              cases hstored.symm.trans hrecord
              exact .full ⟨hstored, hpending, hcounted, hvalid, hahead⟩ hget hunlock
      · cases h
        exact .none

theorem applied_of_ok (tx : Transaction) {effect : TransitionEffect}
    (h : (tx.apply env).run s = .ok effect s') : Applied env tx s s' := by
  cases tx with
  | transfer tx =>
      simp only [Transaction.apply, applyTransfer, lift_bind_ok, accountMut_bind_ok, bind_eq_ok,
        pure_eq_ok, pure_ok] at h
      obtain ⟨_, _, sender, sender', hget, hdebit, recipient, _, hrecipient,
        ⟨balance, hcredit, rfl⟩, _, rfl⟩ := h
      exact .transfer hget hdebit hrecipient hcredit
  | stake tx =>
      simp only [Transaction.apply, applyStake, lift_bind_ok, get_bind, accountMut_bind_ok,
        nodeMut_bind_ok, ensurePositiveAmount, refuseUnless, ensure_eq_ok,
        ProtocolState.requireActiveNode, found, bind_eq_ok, require_eq_ok, pure_eq_ok, modify_bind,
        pure_ok, exists_const] at h
      obtain ⟨_, _, hamount, _, ⟨node, hnode, _, rfl⟩, delegator, delegator', hget, hdebit, operator,
        _, hoperator, ⟨bond, hbond, rfl⟩, amount, hdelegated, _, rfl⟩ := h
      cases hnode.symm.trans hoperator
      exact .stake hamount hnode hget hdebit hbond hdelegated
  | unbond tx =>
      simp only [Transaction.apply, applyUnbond, lift_bind_ok, get_bind, accountMut_bind_ok,
        nodeMut_bind_ok, ensurePositiveAmount, ensureBond, refuseUnless, ensure_eq_ok,
        found, bind_eq_ok, require_eq_ok, pure_eq_ok, modify_bind, pure_ok, exists_const] at h
      obtain ⟨_, _, hamount, existing, hexisting, hcovered, delegator, delegator', hget, hlock, node,
        _, hnode, ⟨hbond, rfl⟩, unlockHeight, hunlock, _, rfl⟩ := h
      exact .unbond hamount hexisting hcovered hget hlock hnode hbond hunlock
  | submitBatch tx =>
      simp only [Transaction.apply, applySubmitBatch, lift_bind_ok, get_bind, ensureEpochNotStale,
        refuseUnless, ensure_eq_ok, ProtocolState.requireActiveNodeWithCapability,
        ProtocolState.requireActiveNode, found, bind_eq_ok, require_eq_ok, pure_eq_ok, modify_bind,
        pure_ok, exists_const] at h
      obtain ⟨_, _, hcurrent, _, _, _, _, node, ⟨_, ⟨_, hnode, _, rfl⟩, _, rfl⟩, hfresh, _, rfl⟩ := h
      exact .submitBatch hcurrent hnode hfresh
  | commitEpoch tx =>
      simp only [Transaction.apply, applyCommitEpoch, lift_bind_ok, get_bind, ensureEpochNotStale,
        ensureBond, refuseUnless, ensure_eq_ok, modify_bind, pure_ok, exists_const] at h
      obtain ⟨_, _, hcurrent, _, _, _, hfresh, _, ⟨hwindow, _⟩, _, rfl⟩ := h
      exact .commitEpoch hcurrent hfresh hwindow
  | openChallenge tx =>
      simp only [Transaction.apply, applyOpenChallenge, lift_bind_ok, get_bind, accountMut_bind_ok,
        refuseUnless, ensure_eq_ok, found, require_eq_ok, modify_bind, pure_ok, exists_const] at h
      obtain ⟨_, _, _, hfresh, commit, hcommit, ⟨hopen, hdeadline⟩, _, _, account, account', hget,
        hlock, _, rfl⟩ := h
      exact .openChallenge hfresh hcommit hopen hdeadline hget hlock
  | challengeResponse tx =>
      simp only [Transaction.apply, applyChallengeResponse, lift_bind_ok, get_bind, refuseUnless,
        ensure_eq_ok, found, require_eq_ok, modify_bind, pure_ok, exists_const] at h
      obtain ⟨_, _, _, hfresh, challenge, hopen, _, _, _, _, _, rfl⟩ := h
      exact .challengeResponse hfresh hopen
  | claimReward tx =>
      simp only [Transaction.apply, applyClaimReward, lift_bind_ok, get_bind, accountMut_bind_ok,
        refuseUnless, ensure_eq_ok, found, bind_eq_ok, require_eq_ok, pure_eq_ok, modify_bind,
        pure_ok, exists_const] at h
      obtain ⟨_, _, _, hfresh, _, _, _, _, _, _, account, _, hget, ⟨balance, hcredit, rfl⟩, _,
        rfl⟩ := h
      exact .claimReward hfresh hget hcredit
  | vote tx =>
      simp only [Transaction.apply, applyVote, lift_bind_ok, get_bind, accountMut_bind_ok,
        ensurePositiveAmount, refuseUnless, ensure_eq_ok, modify_bind, exists_const] at h
      obtain ⟨_, _, _, hfresh, voter, voter', hget, hauthorize, h⟩ := h
      obtain ⟨_, _, hscheduled, hreturn⟩ := bind_ok.mp h
      cases hreturn
      exact .vote hfresh hget hauthorize (scheduling_of_ok hscheduled)
  | proposeProtocolParamsUpdate tx =>
      simp only [Transaction.apply, applyProposeProtocolParamsUpdate, lift_bind_ok, get_bind,
        accountMut_bind_ok, refuseUnless, ensure_eq_ok, modify_bind, pure_ok, exists_const] at h
      obtain ⟨_, _, hfresh, account, account', hget, hlock, paramBytes, _, _, rfl⟩ := h
      exact @Applied.proposeProtocolParamsUpdate _ _ _ _ _ (stableHash32 paramBytes) hfresh hget hlock

/-! ## Remainders of refused transactions -/

/-- What a refused transaction can leave behind. -/
inductive Stranded (env : Env) : Transaction → ProtocolState → ProtocolState → Prop
  | transfer {s : ProtocolState} {tx : TransferTx} {sender sender' : AccountState}
      (hget : s.store.accounts[tx.sender]? = some sender)
      (hdebit : tx.debit env sender = .ok sender') :
      Stranded env (.transfer tx) s (s.insertAccount tx.sender sender')
  | unbond {s : ProtocolState} {tx : UnbondTx} {delegator delegator' : AccountState}
      (hget : s.store.accounts[tx.delegator]? = some delegator)
      (hlock : tx.lock env delegator = .ok delegator') :
      Stranded env (.unbond tx) s (s.insertAccount tx.delegator delegator')
  | vote {s : ProtocolState} {tx : VoteTx} {voter voter' : AccountState}
      (hfresh : s.store.votes[(tx.proposalId, tx.voter)]? = none)
      (hget : s.store.accounts[tx.voter]? = some voter)
      (hauthorize : tx.authorize env voter = .ok voter') :
      Stranded env (.vote tx) s ((s.insertAccount tx.voter voter').insertVote tx)
  | schedule {s : ProtocolState} {tx : VoteTx} {voter voter' : AccountState}
      {proposal : GovernanceParamsUpdateProposalRecord}
      (hfresh : s.store.votes[(tx.proposalId, tx.voter)]? = none)
      (hget : s.store.accounts[tx.voter]? = some voter)
      (hauthorize : tx.authorize env voter = .ok voter')
      (happroved : Approved env ((s.insertAccount tx.voter voter').insertVote tx) tx.proposalId
        proposal)
      (hshort : ∀ account ∈ ((s.insertAccount tx.voter
        voter').insertVote tx).store.accounts[proposal.proposer]?,
          account.locked < proposal.bondAmount) :
      Stranded env (.vote tx) s (((s.insertAccount tx.voter voter').insertVote tx).schedule
        proposal.effectiveEpoch proposal.params)

theorem accountMut_bind_refused {β : Type} {address : Address} {e : Failure TransitionError}
    {f : Unit → Transition β} {body : AccountState → Attempt TransitionError AccountState}
    (h : (accountMut address body >>= f).run s = .error e s') :
    s' = s ∨ ∃ account account', s.store.accounts[address]? = some account ∧
      body account = .ok account' ∧ (f ()).run (s.insertAccount address account') = .error e s' := by
  rcases bind_error.mp h with hborrow | ⟨_, _, hborrow, hrest⟩
  · exact .inl (update_error.mp hborrow).2
  · obtain ⟨account, account', hget, hbody, rfl⟩ := accountMut_ok.mp hborrow
    exact .inr ⟨account, account', hget, hbody, hrest⟩

theorem atomic_scheduleProtocolParamsUpdate (effectiveEpoch : ℕ) (params : ProtocolParams) :
    Atomic (scheduleProtocolParamsUpdate effectiveEpoch params) s :=
  .after_lift fun _ _ => .after_get <| .after_lift fun _ _ => .of_willing
    (.after_modify (f := pure) (willing_pure _))

/-- A refused call to schedule leaves at most the schedule behind. -/
theorem schedule_of_refused {proposalId : Hash32} {error : TransitionError}
    (h : (tryScheduleParamsUpdateAfterVote env proposalId).run s = .error (.refused error) s') :
    s' = s ∨ ∃ proposal, Approved env s proposalId proposal ∧
      (∀ account ∈ s.store.accounts[proposal.proposer]?, account.locked < proposal.bondAmount) ∧
      s' = s.schedule proposal.effectiveEpoch proposal.params := by
  simp only [tryScheduleParamsUpdateAfterVote, get_bind] at h
  split at h
  · cases h
  · next proposal hstored =>
      split at h
      · next hpending =>
          rcases lift_bind_error.mp h with ⟨_, hsame⟩ | ⟨approved, hcounted, h⟩
          · exact .inl hsame
          · cases approved with
            | false => cases h
            | true =>
                rcases bind_error.mp h with hunscheduled | ⟨_, t, hscheduled, h⟩
                · exact .inl (atomic_scheduleProtocolParamsUpdate _ _ error s' hunscheduled)
                · obtain ⟨hvalid, hahead, rfl⟩ := scheduleProtocolParamsUpdate_ok.mp hscheduled
                  refine .inr ⟨proposal, ⟨hstored, hpending, hcounted, hvalid, hahead⟩, ?_⟩
                  rcases bind_error.mp h with hunlock | ⟨_, _, hunlock, hmove⟩
                  · have hrefuses : Refuses _ _ := ⟨error, s', hunlock⟩
                    rw [refuses_unlock] at hrefuses
                    exact ⟨hrefuses, (update_error.mp hunlock).2⟩
                  · obtain ⟨_, _, _, _, rfl⟩ := accountMut_ok.mp hunlock
                    have hrefuses : Refuses _ _ := ⟨error, s', hmove⟩
                    rw [setProposalState, refuses_update] at hrefuses
                    obtain ⟨_, hmissing⟩ := hrefuses
                    change found s.store.paramsUpdateProposals[proposalId]? _ = _ at hmissing
                    rw [hstored] at hmissing
                    cases hmissing
      · cases h

theorem stranded_of_refused {tx : Transaction} {error : TransitionError}
    (h : (tx.apply env).run s = .error (.refused error) s') : s' = s ∨ Stranded env tx s s' := by
  cases tx with
  | transfer tx =>
      rcases lift_bind_error.mp h with ⟨_, hsame⟩ | ⟨_, _, h⟩
      · exact .inl hsame
      rcases accountMut_bind_refused h with hsame | ⟨sender, sender', hget, hdebit, h⟩
      · exact .inl hsame
      rcases accountMut_bind_refused h with rfl | ⟨_, _, _, _, hreturn⟩
      · exact .inr (.transfer hget hdebit)
      · cases hreturn
  | unbond tx =>
      rcases lift_bind_error.mp h with ⟨_, hsame⟩ | ⟨_, _, h⟩
      · exact .inl hsame
      rcases lift_bind_error.mp h with ⟨_, hsame⟩ | ⟨_, _, h⟩
      · exact .inl hsame
      rw [get_bind] at h
      rcases lift_bind_error.mp h with ⟨_, hsame⟩ | ⟨existing, _, h⟩
      · exact .inl hsame
      rcases lift_bind_error.mp h with ⟨_, hsame⟩ | ⟨_, _, h⟩
      · exact .inl hsame
      rcases accountMut_bind_refused h with hsame | ⟨delegator, delegator', hget, hlock, h⟩
      · exact .inl hsame
      rcases bind_error.mp h with hborrow | ⟨_, t, _, h⟩
      · obtain ⟨_, rfl⟩ := update_error.mp hborrow
        exact .inr (.unbond hget hlock)
      · rw [modify_bind] at h
        rcases lift_bind_error.mp h with ⟨hsum, _⟩ | ⟨_, _, hreturn⟩
        · exact absurd hsum (willing_add64 _ _ error)
        · cases hreturn
  | vote tx =>
      rcases lift_bind_error.mp h with ⟨_, hsame⟩ | ⟨_, _, h⟩
      · exact .inl hsame
      rcases lift_bind_error.mp h with ⟨_, hsame⟩ | ⟨_, _, h⟩
      · exact .inl hsame
      rw [get_bind] at h
      rcases lift_bind_error.mp h with ⟨_, hsame⟩ | ⟨_, hcheck, h⟩
      · exact .inl hsame
      have hfresh := ensure_eq_ok.mp hcheck
      rcases accountMut_bind_refused h with hsame | ⟨voter, voter', hget, hauthorize, h⟩
      · exact .inl hsame
      rw [modify_bind] at h
      rcases bind_error.mp h with hschedule | ⟨_, _, _, hreturn⟩
      · rcases schedule_of_refused hschedule with rfl | ⟨proposal, happroved, hshort, rfl⟩
        · exact .inr (.vote hfresh hget hauthorize)
        · exact .inr (.schedule hfresh hget hauthorize happroved hshort)
      · cases hreturn
  | stake tx => exact .inl (atomic_applyStake tx error s' h)
  | submitBatch tx => exact .inl (atomic_applySubmitBatch tx error s' h)
  | commitEpoch tx => exact .inl (atomic_applyCommitEpoch tx error s' h)
  | openChallenge tx => exact .inl (atomic_applyOpenChallenge tx error s' h)
  | challengeResponse tx => exact .inl (atomic_applyChallengeResponse tx error s' h)
  | claimReward tx => exact .inl (atomic_applyClaimReward tx error s' h)
  | proposeProtocolParamsUpdate tx =>
      exact .inl (atomic_applyProposeProtocolParamsUpdate tx error s' h)

/-! ## Resolutions -/

/-- What an accepted resolution does. -/
inductive Resolved (env : Env) (challengeId : Hash32) :
    ChallengeResolution → ProtocolState → ProtocolState → Prop
  | reject {s : ProtocolState} {challenge : Challenge} {account : AccountState}
      (hopen : s.store.openChallenges[challengeId]? = some challenge)
      (hget : s.store.accounts[challenge.challenger]? = some account)
      (hcovered : challenge.bond ≤ account.locked) :
      Resolved env challengeId .rejected s
        (((s.removeOpenChallenge challengeId).insertAccount challenge.challenger
          { account with locked := account.locked - challenge.bond }).insertResolution challenge
            .rejected 0 0 .rejected)
  | uphold {s : ProtocolState} {resolution : ChallengeResolution} {challenge : Challenge}
      {target : NodeId} {node node' : NodeRegistry} {account account' : AccountState} {credit : ℕ}
      {details : ChallengeResolutionDetails} (hupheld : resolution ≠ .rejected)
      (hopen : s.store.openChallenges[challengeId]? = some challenge)
      (hreward : resolution.amounts.2 ≤ resolution.amounts.1)
      (htarget : challenge.targetNode = some target)
      (hnode : s.store.nodes[target]? = some node) (hslash : resolution.slash env node = .ok node')
      (hget : s.store.accounts[challenge.challenger]? = some account)
      (hcredit : env.add128 challenge.bond resolution.amounts.2 = .ok credit)
      (hunlock : unlockBondToBalance env account challenge.bond credit = .ok account') :
      Resolved env challengeId resolution s
        ((((s.removeOpenChallenge challengeId).insertNode target node').insertAccount
          challenge.challenger account').insertResolution challenge .succeeded resolution.amounts.1
            resolution.amounts.2 details)

/-- What a refused resolution can leave behind: the challenge is gone, and its target may be
slashed. -/
inductive Dropped (env : Env) (challengeId : Hash32) :
    ChallengeResolution → ProtocolState → ProtocolState → Prop
  | remove {s : ProtocolState} {resolution : ChallengeResolution} {challenge : Challenge}
      (hopen : s.store.openChallenges[challengeId]? = some challenge) :
      Dropped env challengeId resolution s (s.removeOpenChallenge challengeId)
  | slash {s : ProtocolState} {resolution : ChallengeResolution} {challenge : Challenge}
      {target : NodeId} {node node' : NodeRegistry} (hupheld : resolution ≠ .rejected)
      (hopen : s.store.openChallenges[challengeId]? = some challenge)
      (htarget : challenge.targetNode = some target)
      (hnode : s.store.nodes[target]? = some node)
      (hslash : resolution.slash env node = .ok node') :
      Dropped env challengeId resolution s
        ((s.removeOpenChallenge challengeId).insertNode target node')

theorem resolved_of_ok {challengeId : Hash32} {resolution : ChallengeResolution}
    {effect : TransitionEffect}
    (h : (resolveChallenge env challengeId resolution).run s = .ok effect s') :
    Resolved env challengeId resolution s s' := by
  simp only [resolveChallenge, get_bind, found, lift_bind_ok, require_eq_ok, modify_bind] at h
  obtain ⟨challenge, hopen, h⟩ := h
  split at h
  · next hrejected =>
      subst hrejected
      simp only [rejectChallenge, burnLockedBond, refuseUnless, accountMut_bind_ok, bind_eq_ok,
        ensure_eq_ok, exists_const, pure_eq_ok, modify_bind, pure_ok] at h
      obtain ⟨account, _, hget, ⟨hcovered, rfl⟩, _, rfl⟩ := h
      exact .reject hopen hget hcovered
  · next hupheld =>
      rw [upholdChallenge_eq] at h
      simp only [Challenge.payOut, refuseUnless, found, lift_bind_ok, ensure_eq_ok, require_eq_ok,
        nodeMut_bind_ok, accountMut_bind_ok, bind_eq_ok, modify_bind, pure_ok, exists_const] at h
      obtain ⟨details, _, hreward, target, htarget, node, node', hnode, hslash, account, account',
        hget, ⟨credit, hcredit, hunlock⟩, _, rfl⟩ := h
      exact .uphold hupheld hopen hreward htarget hnode hslash hget hcredit hunlock

theorem dropped_of_refused {challengeId : Hash32} {resolution : ChallengeResolution}
    {error : TransitionError}
    (h : (resolveChallenge env challengeId resolution).run s = .error (.refused error) s') :
    s' = s ∨ Dropped env challengeId resolution s s' := by
  rw [resolveChallenge, get_bind] at h
  rcases lift_bind_error.mp h with ⟨_, hsame⟩ | ⟨challenge, hfound, h⟩
  · exact .inl hsame
  have hopen : s.store.openChallenges[challengeId]? = some challenge := require_eq_ok.mp hfound
  rw [modify_bind] at h
  right
  split at h
  · rcases accountMut_bind_refused h with rfl | ⟨_, _, _, _, hreturn⟩
    · exact .remove hopen
    · cases hreturn
  · next hupheld =>
      rw [upholdChallenge_eq] at h
      rcases lift_bind_error.mp h with ⟨_, rfl⟩ | ⟨details, _, h⟩
      · exact .remove hopen
      rcases lift_bind_error.mp h with ⟨_, rfl⟩ | ⟨_, _, h⟩
      · exact .remove hopen
      rcases lift_bind_error.mp h with ⟨_, rfl⟩ | ⟨target, htarget, h⟩
      · exact .remove hopen
      rcases bind_error.mp h with hborrow | ⟨_, _, hborrow, h⟩
      · obtain ⟨_, rfl⟩ := update_error.mp hborrow
        exact .remove hopen
      · obtain ⟨node, node', hnode, hslash, rfl⟩ := nodeMut_ok.mp hborrow
        rcases accountMut_bind_refused h with rfl | ⟨_, _, _, _, hreturn⟩
        · exact .slash hupheld hopen (require_eq_ok.mp htarget) hnode hslash
        · cases hreturn

/-- Nothing is open under the id, so the call refuses at once. -/
theorem resolve_absent {challengeId : Hash32} {resolution : ChallengeResolution}
    (habsent : s.store.openChallenges[challengeId]? = none)
    (h : Returns (resolveChallenge env challengeId resolution) s s') : s' = s := by
  rw [resolveChallenge, returns_get_bind, habsent] at h
  rcases h.lift_bind with ⟨hsame, _⟩ | ⟨_, hfound, _⟩
  · exact hsame
  · cases hfound

/-! ## Unbondings, epochs and proposals -/

/-- Take the mature requests off the queue. -/
def ProtocolState.drain (s : ProtocolState) : ProtocolState :=
  { s with store := { s.store with
      unbondingQueue := s.store.unbondingQueue.filter fun request =>
        s.height < request.unlockHeight } }

/-- The requests that are due. -/
def ProtocolState.mature (s : ProtocolState) : List UnbondingRecord :=
  s.store.unbondingQueue.filter fun request => request.unlockHeight ≤ s.height

theorem processMatureUnbonds_run (env : Env) (s : ProtocolState) :
    (processMatureUnbonds env).run s = (s.mature.mapM (releaseUnbond env)).run s.drain := by
  rw [processMatureUnbonds, get_bind, modify_bind]
  rfl

theorem releaseUnbond_ok {request : UnbondingRecord} {effect : TransitionEffect}
    (h : (releaseUnbond env request).run s = .ok effect s') : ∃ account account',
      s.store.accounts[request.delegator]? = some account ∧
      unlockBondToBalance env account request.amount request.amount = .ok account' ∧
      s' = s.insertAccount request.delegator account' := by
  simp only [releaseUnbond, accountMut_bind_ok, pure_ok] at h
  obtain ⟨account, account', hget, hunlock, _, rfl⟩ := h
  exact ⟨account, account', hget, hunlock, rfl⟩

theorem releaseUnbond_refused {request : UnbondingRecord} {error : TransitionError}
    (h : (releaseUnbond env request).run s = .error (.refused error) s') : s' = s := by
  rcases accountMut_bind_refused h with hsame | ⟨_, _, _, _, hreturn⟩
  · exact hsame
  · cases hreturn

/-- The state in which the proposals of a new epoch expire. -/
def ProtocolState.entered (s : ProtocolState) (epochId next : ℕ) : ProtocolState :=
  { s.markEpochFinalized epochId with currentEpoch := next }.activateScheduledProtocolParams

/-- The checks of a finalization. -/
structure Finalizable (s : ProtocolState) (epochId : ℕ) : Prop where
  unfinalized : s.store.finalizedEpochs[epochId]? = none
  elapsed : ∃ commit, s.store.epochCommits[epochId]? = some commit ∧
    commit.challengeDeadlineHeight < s.height
  unchallenged : s.hasOpenChallengesForEpoch epochId = false

theorem finalizeEpoch_returns {epochId : ℕ} (h : Returns (finalizeEpoch env epochId) s s') :
    s' = s ∨ Finalizable s epochId ∧
      (epochId < s.currentEpoch ∧ s' = s.markEpochFinalized epochId ∨
        s.currentEpoch ≤ epochId ∧ ∃ next, env.add64 epochId 1 = .ok next ∧
          Returns ((s.entered epochId next).staleParamsUpdateProposals.forM expireProposal)
            (s.entered epochId next) s') := by
  rw [finalizeEpoch, returns_get_bind] at h
  rcases h.lift_bind with ⟨hsame, _⟩ | ⟨_, hopen, h⟩
  · exact .inl hsame
  rcases h.lift_bind with ⟨hsame, _⟩ | ⟨commit, hcommit, h⟩
  · exact .inl hsame
  rcases h.lift_bind with ⟨hsame, _⟩ | ⟨_, helapsed, h⟩
  · exact .inl hsame
  rcases h.lift_bind with ⟨hsame, _⟩ | ⟨_, hnone, h⟩
  · exact .inl hsame
  rw [returns_modify_bind] at h
  have hadvance := h.of_return
  have hfinalizable : Finalizable s epochId :=
    ⟨ensure_eq_ok.mp hopen, ⟨commit, require_eq_ok.mp hcommit, ensure_eq_ok.mp helapsed⟩,
      ensure_eq_ok.mp hnone⟩
  right
  by_cases hcurrent : s.currentEpoch ≤ epochId
  · rw [advanceEpoch, if_pos hcurrent] at hadvance
    rcases hadvance.lift_bind with ⟨_, error, hsum⟩ | ⟨next, hnext, henter⟩
    · exact absurd hsum (willing_add64 _ _ error)
    · exact ⟨hfinalizable, .inr ⟨hcurrent, next, hnext, henter⟩⟩
  · rw [advanceEpoch, if_neg hcurrent] at hadvance
    exact ⟨hfinalizable, .inl ⟨Nat.not_le.mp hcurrent, returns_pure hadvance⟩⟩

theorem expireProposal_returns {proposal : GovernanceParamsUpdateProposalRecord}
    (h : Returns (expireProposal proposal) s s') :
    s' = s ∨ ∃ account, s.store.accounts[proposal.proposer]? = some account ∧
      proposal.bondAmount ≤ account.locked ∧
      (s.store.paramsUpdateProposals[proposal.proposalId]? = none ∧
        s' = s.insertAccount proposal.proposer
          { account with locked := account.locked - proposal.bondAmount } ∨
      ∃ record, s.store.paramsUpdateProposals[proposal.proposalId]? = some record ∧
        s' = (s.insertAccount proposal.proposer
          { account with
            locked := account.locked - proposal.bondAmount }).insertParamsUpdateProposal
              proposal.proposalId { record with state := .expired }) := by
  rcases h with ⟨_, hok⟩ | ⟨error, hrefused⟩
  · obtain ⟨account, record, hget, hcovered, hrecord, rfl⟩ := expireProposal_ok.mp hok
    exact .inr ⟨account, hget, hcovered, .inr ⟨record, hrecord, rfl⟩⟩
  · rcases accountMut_bind_refused hrefused with hsame | ⟨account, _, hget, hburn, hmove⟩
    · exact .inl hsame
    · simp only [burnLockedBond, refuseUnless, bind_eq_ok, ensure_eq_ok, exists_const,
        pure_eq_ok] at hburn
      obtain ⟨hcovered, rfl⟩ := hburn
      obtain ⟨hmissing, rfl⟩ := update_error.mp hmove
      refine .inr ⟨account, hget, hcovered, .inl ⟨?_, rfl⟩⟩
      change found s.store.paramsUpdateProposals[proposal.proposalId]? _ = _ at hmissing
      cases hrecord : s.store.paramsUpdateProposals[proposal.proposalId]? with
      | none => rfl
      | some record =>
          rw [hrecord] at hmissing
          cases hmissing

/-- The proposals still to expire are pending, and stored as they were listed. -/
structure Lapsing (proposals : List GovernanceParamsUpdateProposalRecord) (s : ProtocolState) :
    Prop where
  stored : ∀ proposal ∈ proposals, proposal.state = .pending ∧
    s.store.paramsUpdateProposals[proposal.proposalId]? = some proposal
  distinct : proposals.Pairwise fun p q => p.proposalId ≠ q.proposalId

theorem lapsing_stale (hkeyed : KeyedBy GovernanceParamsUpdateProposalRecord.proposalId
    s.store.paramsUpdateProposals) : Lapsing s.staleParamsUpdateProposals s := by
  refine ⟨fun proposal hmem => ?_, (pairwise_records _ hkeyed).filter _⟩
  obtain ⟨hrecord, hstale⟩ := List.mem_filter.mp hmem
  obtain ⟨proposalId, hstored⟩ := mem_records.mp hrecord
  have hkey : proposal.proposalId = proposalId := hkeyed _ _ hstored
  exact ⟨(of_decide_eq_true hstale).1, hkey ▸ hstored⟩

/-- Moving the first proposal leaves the others as they were listed. -/
theorem Lapsing.tail {proposal : GovernanceParamsUpdateProposalRecord}
    {proposals : List GovernanceParamsUpdateProposalRecord} (h : Lapsing (proposal :: proposals) s)
    {moved : GovernanceParamsUpdateProposalRecord}
    (hmoved : s'.store.paramsUpdateProposals =
      s.store.paramsUpdateProposals.insert proposal.proposalId moved) : Lapsing proposals s' := by
  obtain ⟨hothers, hdistinct⟩ := List.pairwise_cons.mp h.distinct
  refine ⟨fun other hmem => ?_, hdistinct⟩
  obtain ⟨hpending, hstored⟩ := h.stored other (List.mem_cons_of_mem _ hmem)
  rw [hmoved, get_insert_ne _ _ (hothers other hmem)]
  exact ⟨hpending, hstored⟩

/-- In a store that keys proposals by their id, every turn of the expiry burns the bond of a pending
proposal and moves that proposal. -/
theorem lapse_returns {R : ProtocolState → ProtocolState → Prop} [Std.Refl R]
    [IsTrans ProtocolState R] {proposals : List GovernanceParamsUpdateProposalRecord}
    (hturn : ∀ (t : ProtocolState) (proposal : GovernanceParamsUpdateProposalRecord)
      (account : AccountState), proposal.state = .pending →
      t.store.paramsUpdateProposals[proposal.proposalId]? = some proposal →
      t.store.accounts[proposal.proposer]? = some account → proposal.bondAmount ≤ account.locked →
      R t ((t.insertAccount proposal.proposer
        { account with locked := account.locked - proposal.bondAmount }).insertParamsUpdateProposal
          proposal.proposalId { proposal with state := .expired }))
    (hlapsing : Lapsing proposals s) (h : Returns (proposals.forM expireProposal) s s') :
    R s s' := by
  induction proposals generalizing s with
  | nil =>
      rw [returns_pure h]
      exact Std.Refl.refl s
  | cons proposal proposals ih =>
      obtain ⟨hpending, hstored⟩ := hlapsing.stored proposal List.mem_cons_self
      rcases Returns.bind (f := fun _ => proposals.forM expireProposal) h with
        ⟨error, hrefused⟩ | ⟨u, t, hok, hrest⟩
      · -- a proposal that is stored can only be refused before its bond is burnt
        rcases expireProposal_returns (.inr ⟨error, hrefused⟩) with
          rfl | ⟨account, hget, hcovered, ⟨hmissing, _⟩ | ⟨record, hrecord, rfl⟩⟩
        · exact Std.Refl.refl s'
        · cases hstored.symm.trans hmissing
        · cases hstored.symm.trans hrecord
          exact hturn s proposal account hpending hstored hget hcovered
      · obtain ⟨account, record, hget, hcovered, hrecord, rfl⟩ := expireProposal_ok.mp hok
        cases hstored.symm.trans hrecord
        exact IsTrans.trans _ _ _ (hturn s proposal account hpending hstored hget hcovered)
          (ih (hlapsing.tail rfl) hrest)

/-! ## Runs of the ledger -/

/-- What can happen to a ledger: a block, or one of the other calls of its interface. -/
inductive Operation where
  | executeBlock (block : Block)
  | other (call : Call)

def Operation.perform (env : Env) : Operation → Action ProtocolState BlockExecutionError Unit
  | .executeBlock block => do let _ ← Ledger.executeBlock env block
  | .other call => (call.perform env).mapError .transition

/-- The state after an operation that returned. -/
def Operation.step (env : Env) (s : ProtocolState) (op : Operation) : ProtocolState :=
  (op.perform env).after s

/-- The transactions an operation brings. -/
def Operation.transactions : Operation → List Transaction
  | .executeBlock block => block.transactions
  | .other (.transaction tx) => [tx]
  | .other _ => []

/-- A block is a new height, the mature unbondings and its transactions in order. -/
theorem executeBlock_returns {block : Block} (h : Returns (executeBlock env block) s s') :
    (block.height ≤ s.height ∧ s' = s) ∨ (s.height < block.height ∧
      ((∃ error, (processMatureUnbonds env).run { s with height := block.height } =
        .error (.refused error) s') ∨
      ∃ effects t, (processMatureUnbonds env).run { s with height := block.height } =
        .ok effects t ∧ Returns (block.transactions.mapM fun tx => tx.apply env) t s')) := by
  rw [executeBlock, returns_get_bind] at h
  split at h
  · next hregression =>
      rcases h with ⟨_, hok⟩ | ⟨_, hrefused⟩
      · cases hok
      · cases hrefused
        exact .inl ⟨hregression, rfl⟩
  · next hheights =>
      rw [returns_modify_bind] at h
      refine .inr ⟨Nat.not_le.mp hheights, ?_⟩
      rcases h.bind with ⟨_, hrefused⟩ | ⟨effects, t, hok, h⟩
      · obtain ⟨error, herror, _⟩ := mapError_refused.mp hrefused
        exact .inl ⟨error, herror⟩
      · refine .inr ⟨effects, t, mapError_ok.mp hok, ?_⟩
        rw [mapM_mapError] at h
        rcases h.bind with hrefused | ⟨applied, t', hloop, hreturn⟩
        · exact Returns.of_mapError (.inr hrefused)
        · obtain rfl := returns_pure hreturn
          exact Returns.of_mapError (.inl ⟨applied, hloop⟩)

section Step

variable {R : ProtocolState → ProtocolState → Prop} [Std.Refl R] [IsTrans ProtocolState R]

omit [IsTrans ProtocolState R] in
theorem apply_returns {tx : Transaction} (happlied : ∀ t t', Applied env tx t t' → R t t')
    (hstranded : ∀ t t', Stranded env tx t t' → R t t') (h : Returns (tx.apply env) s s') :
    R s s' := by
  rcases h with ⟨effect, hok⟩ | ⟨error, hrefused⟩
  · exact happlied s s' (applied_of_ok tx hok)
  · rcases stranded_of_refused hrefused with rfl | hleft
    · exact Std.Refl.refl s'
    · exact hstranded s s' hleft

omit [IsTrans ProtocolState R] in
theorem resolve_returns {challengeId : Hash32} {resolution : ChallengeResolution}
    (hresolved : ∀ t t', Resolved env challengeId resolution t t' → R t t')
    (hdropped : ∀ t t', Dropped env challengeId resolution t t' → R t t')
    (h : Returns (resolveChallenge env challengeId resolution) s s') : R s s' := by
  rcases h with ⟨effect, hok⟩ | ⟨error, hrefused⟩
  · exact hresolved s s' (resolved_of_ok hok)
  · rcases dropped_of_refused hrefused with rfl | hleft
    · exact Std.Refl.refl s'
    · exact hdropped s s' hleft

theorem mature_returns (hdrain : ∀ t : ProtocolState, R t t.drain)
    (hrelease : ∀ (request : UnbondingRecord) (t : ProtocolState) (account account' : AccountState),
      t.store.accounts[request.delegator]? = some account →
      unlockBondToBalance env account request.amount request.amount = .ok account' →
      R t (t.insertAccount request.delegator account'))
    (h : Returns (processMatureUnbonds env) s s') : R s s' := by
  have hloop : Returns (s.mature.mapM (releaseUnbond env)) s.drain s' := by
    unfold Returns at h ⊢
    rwa [processMatureUnbonds_run] at h
  refine IsTrans.trans _ _ _ (hdrain s) (hloop.mapM fun request _ t t' hreturns => ?_)
  rcases hreturns with ⟨effect, hok⟩ | ⟨error, hrefused⟩
  · obtain ⟨account, account', hget, hunlock, rfl⟩ := releaseUnbond_ok hok
    exact hrelease request t account account' hget hunlock
  · rw [releaseUnbond_refused hrefused]
    exact Std.Refl.refl t

/-- Expiring a proposal burns a bond and then moves the record. -/
theorem expire_returns {proposals : List GovernanceParamsUpdateProposalRecord}
    (hburn : ∀ (t : ProtocolState) (address : Address) (account : AccountState) (amount : ℕ),
      t.store.accounts[address]? = some account → amount ≤ account.locked →
      R t (t.insertAccount address { account with locked := account.locked - amount }))
    (hmove : ∀ proposal ∈ proposals, ∀ (t : ProtocolState)
      (record : GovernanceParamsUpdateProposalRecord),
      t.store.paramsUpdateProposals[proposal.proposalId]? = some record →
      R t (t.insertParamsUpdateProposal proposal.proposalId { record with state := .expired }))
    (h : Returns (proposals.forM expireProposal) s s') : R s s' := by
  refine h.forM fun proposal hmem t t' hreturns => ?_
  rcases expireProposal_returns hreturns with
    rfl | ⟨account, hget, hcovered, ⟨_, rfl⟩ | ⟨record, hrecord, rfl⟩⟩
  · exact Std.Refl.refl t'
  · exact hburn t _ account _ hget hcovered
  · exact IsTrans.trans _ _ _ (hburn t _ account _ hget hcovered)
      (hmove proposal hmem _ record hrecord)

/-- Finalizing an epoch marks it, and then may enter the next one: parameters are installed,
proposals move and bonds are burnt. -/
theorem finalize_related {epochId : ℕ}
    (hmark : ∀ t : ProtocolState, R t (t.markEpochFinalized epochId))
    (hadvance : ∀ (t : ProtocolState) (currentEpoch : ℕ), R t { t with currentEpoch })
    (hinstall : ∀ (t : ProtocolState) (params : ProtocolParams),
      t.store.scheduledProtocolParams[t.currentEpoch]? = some params →
      R t { t with params, store := { t.store with
        scheduledProtocolParams := t.store.scheduledProtocolParams.erase t.currentEpoch } })
    (hmove : ∀ (t : ProtocolState) (proposalId : Hash32)
      (record : GovernanceParamsUpdateProposalRecord) (state : GovernanceProposalState),
      t.store.paramsUpdateProposals[proposalId]? = some record →
      R t (t.insertParamsUpdateProposal proposalId { record with state }))
    (hburn : ∀ (t : ProtocolState) (address : Address) (account : AccountState) (amount : ℕ),
      t.store.accounts[address]? = some account → amount ≤ account.locked →
      R t (t.insertAccount address { account with locked := account.locked - amount }))
    (h : Returns (finalizeEpoch env epochId) s s') : R s s' := by
  rcases finalizeEpoch_returns h with rfl | ⟨_, ⟨_, rfl⟩ | ⟨_, next, _, hexpiry⟩⟩
  · exact Std.Refl.refl s'
  · exact hmark s
  · have hmarked : R s { s.markEpochFinalized epochId with currentEpoch := next } :=
      IsTrans.trans _ _ _ (hmark s) (hadvance _ next)
    have hentered : R s (s.entered epochId next) :=
      IsTrans.trans _ _ _ hmarked (activate_related (hinstall _)
        fun t proposalId record => hmove t proposalId record .activated)
    exact IsTrans.trans _ _ _ hentered (expire_returns hburn
      (fun proposal _ t record => hmove t proposal.proposalId record .expired) hexpiry)

/-- What a block keeps is what its new height, the mature unbondings and its transactions keep. -/
theorem block_related {block : Block}
    (hheight : ∀ t : ProtocolState, t.height < block.height → R t { t with height := block.height })
    (hmature : ∀ t t', Returns (processMatureUnbonds env) t t' → R t t')
    (htx : ∀ tx ∈ block.transactions, ∀ t t', Returns (tx.apply env) t t' → R t t')
    (h : Returns (executeBlock env block) s s') : R s s' := by
  rcases executeBlock_returns h with ⟨_, rfl⟩ | ⟨hraised, ⟨error, hrefused⟩ | ⟨_, t, hok, htxs⟩⟩
  · exact Std.Refl.refl s'
  · exact IsTrans.trans _ _ _ (hheight s hraised) (hmature _ _ (.inr ⟨error, hrefused⟩))
  · refine IsTrans.trans _ _ _ (hheight s hraised) (IsTrans.trans _ _ _ (hmature _ t (.inl ⟨_, hok⟩)) ?_)
    exact htxs.mapM htx

/-- What the parts of an operation keep, the operation keeps. -/
theorem step_related {op : Operation}
    (hheight : ∀ (t : ProtocolState) (height : ℕ), t.height < height → R t { t with height })
    (hmature : ∀ t t', Returns (processMatureUnbonds env) t t' → R t t')
    (htx : ∀ tx ∈ op.transactions, ∀ t t', Returns (tx.apply env) t t' → R t t')
    (hresolve : ∀ challengeId resolution, op = .other (.resolveChallenge challengeId resolution) →
      ∀ t, Returns (resolveChallenge env challengeId resolution) s t → R s t)
    (hfinalize : ∀ epochId, op = .other (.finalizeEpoch epochId) →
      ∀ t, Returns (finalizeEpoch env epochId) s t → R s t)
    (hschedule : ∀ effectiveEpoch params,
      op = .other (.scheduleProtocolParamsUpdate effectiveEpoch params) →
      params.validate = .ok () → s.currentEpoch < effectiveEpoch →
      R s (s.schedule effectiveEpoch params)) :
    R s (op.step env s) := by
  rcases returns_after (op.perform env) s with hreturns | hsame
  · change Returns (op.perform env) s (op.step env s) at hreturns
    generalize op.step env s = s' at hreturns ⊢
    cases op with
    | executeBlock block =>
        exact block_related (fun t => hheight t block.height) hmature htx hreturns.of_return
    | other call =>
        have hcall : Returns (call.perform env) s s' := hreturns.of_mapError
        cases call with
        | transaction tx => exact htx tx (List.mem_singleton.mpr rfl) s s' hcall.of_return
        | processMatureUnbonds => exact hmature s s' hcall.of_return
        | resolveChallenge challengeId resolution =>
            exact hresolve challengeId resolution rfl s' hcall.of_return
        | finalizeEpoch epochId => exact hfinalize epochId rfl s' hcall.of_return
        | scheduleProtocolParamsUpdate effectiveEpoch params =>
            rcases hcall with ⟨_, hok⟩ | ⟨error, hrefused⟩
            · obtain ⟨hvalid, hahead, rfl⟩ := scheduleProtocolParamsUpdate_ok.mp hok
              exact hschedule effectiveEpoch params rfl hvalid hahead
            · rw [atomic_scheduleProtocolParamsUpdate _ _ error s' hrefused]
              exact Std.Refl.refl s
  · rw [Operation.step, hsame]
    exact Std.Refl.refl s

end Step

/-! ## Registrations -/

/-- An operation, or the registration of a node or of a reward from outside. -/
inductive Change where
  | operation (op : Operation)
  | upsertNode (node : NodeRegistry)
  | upsertRewardRecord (reward : RewardRecord)

def Change.step (env : Env) (s : ProtocolState) : Change → ProtocolState
  | .operation op => op.step env s
  | .upsertNode node => s.insertNode node.nodeId node
  | .upsertRewardRecord reward => { s with store := { s.store with
      rewardRecords := s.store.rewardRecords.insert (reward.epochId, reward.nodeId) reward } }

/-! ## Runs without overflow -/

/-- No 128-bit addition of the operation overflows: the build checks for it, and then the program
ends, or a build that checks would not panic. -/
def Operation.Exact (env : Env) (s : ProtocolState) (op : Operation) : Prop :=
  env.wide = .panic ∨ ∀ t, (op.perform env.checked).run s ≠ .error .panic t

/-- A registration adds nothing. -/
def Change.Exact (env : Env) (s : ProtocolState) : Change → Prop
  | .operation op => op.Exact env s
  | _ => True

theorem agrees_operation (env : Env) (op : Operation) :
    Agrees (op.perform env.checked) (op.perform env) := by
  cases op with
  | executeBlock block =>
      refine .bind (.bind (.refl _) fun t => ?_) fun _ => .refl _
      split
      · exact .refl _
      · refine .bind (.refl _) fun _ => .bind (.mapError _ (agrees_processMatureUnbonds env)) fun _ => ?_
        exact .bind (.mapM (fun tx => (agrees_apply env tx).mapError _) _) fun _ => .refl _
  | other call => exact (agrees_perform env call).mapError _

/-- Without overflow a build that wraps does what a build that checks does. -/
theorem step_checked {op : Operation} (h : op.Exact env s) :
    op.step env s = op.step env.checked s := by
  rcases h with hwide | hcalm
  · rw [show env.checked = env by cases env; cases hwide; rfl]
  · unfold Operation.step after
    rw [agrees_operation env op s hcalm]

end PoleProtocol.Ledger
