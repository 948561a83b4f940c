import PoleProtocol.Framework.Run
import PoleProtocol.Ledger.Effects

/-!
# Replayed transactions

Five kinds of transactions carry a nonce that is compared with the signer's account; the others
rely on a record that the first acceptance leaves and that a second one runs into. All these
records stay, except one: the entry of an open challenge goes when the challenge is resolved. A
journal beside the state keeps the accepted transactions and the challenges that went.
-/

namespace PoleProtocol.Ledger

open Framework OrderedMap Action

variable {env : Env} {s s' : ProtocolState}

/-! ## The journal of a run -/

/-- The transactions accepted in a row; the first refusal ends the row. -/
def acceptedFrom (env : Env) : ProtocolState → List Transaction → List Transaction
  | _, [] => []
  | s, tx :: txs =>
      match (tx.apply env).run s with
      | .ok _ t => tx :: acceptedFrom env t txs
      | .error _ _ => []

/-- The transactions of a block are applied after the mature unbondings. -/
def acceptedInBlock (env : Env) (s : ProtocolState) (block : Block) : List Transaction :=
  if block.height ≤ s.height then []
  else
    match (processMatureUnbonds env).run { s with height := block.height } with
    | .ok _ t => acceptedFrom env t block.transactions
    | .error _ _ => []

/-- The transactions that take effect in an operation that returns. -/
def Operation.admits (env : Env) (s : ProtocolState) : Operation → List Transaction
  | .executeBlock block => acceptedInBlock env s block
  | .other (.transaction tx) => acceptedFrom env s [tx]
  | .other _ => []

/-- The transactions an operation accepts; nothing counts when it panics. -/
def Operation.accepted (env : Env) (s : ProtocolState) (op : Operation) : List Transaction :=
  match (op.perform env).run s with
  | .error .panic _ => []
  | _ => op.admits env s

/-- The challenge an operation takes off the open ones. -/
def Operation.removes (s : ProtocolState) : Operation → List Hash32
  | .other (.resolveChallenge challengeId _) =>
      if s.store.openChallenges[challengeId]? = none then [] else [challengeId]
  | _ => []

/-- The state with the transactions accepted so far and the challenges that were taken off the
open ones. -/
structure Journal where
  state : ProtocolState
  accepted : List Transaction := []
  removed : List Hash32 := []

def Journal.next (env : Env) (journal : Journal) (op : Operation) : Journal where
  state := op.step env journal.state
  accepted := journal.accepted ++ op.accepted env journal.state
  removed := journal.removed ++ op.removes journal.state

/-! ## What only grows -/

/-- From `s` to `s'` no nonce goes back and no record goes, except challenges outside of `kept`. -/
structure Grows (kept : Hash32 → Prop) (s s' : ProtocolState) : Prop where
  nonces : ∀ (a : Address) (account : AccountState), s.store.accounts[a]? = some account →
    ∃ account', s'.store.accounts[a]? = some account' ∧ account.nonce ≤ account'.nonce
  nodes : ∀ (n : NodeId) (node : NodeRegistry), s.store.nodes[n]? = some node →
    ∃ node', s'.store.nodes[n]? = some node' ∧ node'.nodeId = node.nodeId
  batches : ∀ k : BatchKey, s.store.batches[k]? ≠ none → s'.store.batches[k]? ≠ none
  commits : ∀ k : ℕ, s.store.epochCommits[k]? ≠ none → s'.store.epochCommits[k]? ≠ none
  responses : ∀ k : Hash32, s.store.challengeResponses[k]? ≠ none →
    s'.store.challengeResponses[k]? ≠ none
  claims : ∀ k : RewardKey, s.store.claimedRewards[k]? ≠ none →
    s'.store.claimedRewards[k]? ≠ none
  challenges : ∀ k : Hash32, kept k → s.store.openChallenges[k]? ≠ none →
    s'.store.openChallenges[k]? ≠ none

variable {kept : Hash32 → Prop}

instance : Std.Refl (Grows kept) := ⟨fun _ =>
  ⟨fun _ account h => ⟨account, h, le_rfl⟩, fun _ node h => ⟨node, h, rfl⟩, fun _ h => h,
    fun _ h => h, fun _ h => h, fun _ h => h, fun _ _ h => h⟩⟩

instance : IsTrans ProtocolState (Grows kept) where
  trans r s t hrs hst := by
    refine ⟨fun a account h => ?_, fun n node h => ?_, fun k h => hst.batches k (hrs.batches k h),
      fun k h => hst.commits k (hrs.commits k h), fun k h => hst.responses k (hrs.responses k h),
      fun k h => hst.claims k (hrs.claims k h),
      fun k hk h => hst.challenges k hk (hrs.challenges k hk h)⟩
    · obtain ⟨account', h', hle⟩ := hrs.nonces a account h
      obtain ⟨account'', h'', hle'⟩ := hst.nonces a account' h'
      exact ⟨account'', h'', hle.trans hle'⟩
    · obtain ⟨node', h', heq⟩ := hrs.nodes n node h
      obtain ⟨node'', h'', heq'⟩ := hst.nodes n node' h'
      exact ⟨node'', h'', heq'.trans heq⟩

theorem grows_of_same (haccounts : s'.store.accounts = s.store.accounts)
    (hnodes : s'.store.nodes = s.store.nodes) (hbatches : s'.store.batches = s.store.batches)
    (hcommits : s'.store.epochCommits = s.store.epochCommits)
    (hresponses : s'.store.challengeResponses = s.store.challengeResponses)
    (hclaims : s'.store.claimedRewards = s.store.claimedRewards)
    (hchallenges : s'.store.openChallenges = s.store.openChallenges) : Grows kept s s' := by
  refine ⟨?_, ?_, ?_, ?_, ?_, ?_, ?_⟩
  · rw [haccounts]
    exact fun _ account h => ⟨account, h, le_rfl⟩
  · rw [hnodes]
    exact fun _ node h => ⟨node, h, rfl⟩
  · rw [hbatches]
    exact fun _ h => h
  · rw [hcommits]
    exact fun _ h => h
  · rw [hresponses]
    exact fun _ h => h
  · rw [hclaims]
    exact fun _ h => h
  · rw [hchallenges]
    exact fun _ _ h => h

theorem grows_insertAccount {address : Address} {account account' : AccountState}
    (hget : s.store.accounts[address]? = some account) (hnonce : account.nonce ≤ account'.nonce) :
    Grows kept s (s.insertAccount address account') := by
  refine ⟨fun a other hother => ?_, fun _ node h => ⟨node, h, rfl⟩, fun _ h => h, fun _ h => h,
    fun _ h => h, fun _ h => h, fun _ _ h => h⟩
  change ∃ account'', (s.store.accounts.insert address account')[a]? = some account'' ∧ _
  rw [get_insert]
  split
  · next hsame =>
      subst hsame
      cases hget.symm.trans hother
      exact ⟨account', rfl, hnonce⟩
  · exact ⟨other, hother, le_rfl⟩

theorem grows_insertNode {nodeId : NodeId} {node node' : NodeRegistry}
    (hget : s.store.nodes[nodeId]? = some node) (hid : node'.nodeId = node.nodeId) :
    Grows kept s (s.insertNode nodeId node') := by
  refine ⟨fun _ account h => ⟨account, h, le_rfl⟩, fun n other hother => ?_, fun _ h => h,
    fun _ h => h, fun _ h => h, fun _ h => h, fun _ _ h => h⟩
  change ∃ node'', (s.store.nodes.insert nodeId node')[n]? = some node'' ∧ _
  rw [get_insert]
  split
  · next hsame =>
      subst hsame
      cases hget.symm.trans hother
      exact ⟨node', rfl, hid⟩
  · exact ⟨other, hother, rfl⟩

/-- The nonce a transaction has to show; the other kinds carry none that is looked at. -/
def Transaction.nonce : Transaction → Option ℕ
  | .transfer tx => some tx.nonce
  | .stake tx => some tx.nonce
  | .unbond tx => some tx.nonce
  | .vote tx => some tx.nonce
  | .proposeProtocolParamsUpdate tx => some tx.nonce
  | _ => none

/-- In a build that wraps, the transaction does not show the last nonce there is. -/
def Transaction.Fits (env : Env) (tx : Transaction) : Prop :=
  env.narrow = .wrap → ∀ nonce ∈ tx.nonce, nonce + 1 < 2 ^ 64

theorem add64_one {nonce nonce' : ℕ} (hfits : env.narrow = .wrap → nonce + 1 < 2 ^ 64)
    (h : env.add64 nonce 1 = .ok nonce') : nonce' = nonce + 1 := by
  have hsum := require_eq_ok.mp h
  cases hpolicy : env.narrow with
  | panic =>
      rw [hpolicy] at hsum
      exact (Overflow.panic_add.mp hsum).2
  | wrap => exact Overflow.eq_of_add (hfits hpolicy) hsum

theorem debit_nonce {tx : TransferTx} {sender sender' : AccountState}
    (hfits : (Transaction.transfer tx).Fits env) (h : tx.debit env sender = .ok sender') :
    sender.nonce = tx.nonce ∧ sender'.nonce = tx.nonce + 1 := by
  obtain ⟨hnonce, _, nonce, hadd, rfl⟩ := debit_ok.mp h
  rw [hnonce] at hadd
  exact ⟨hnonce, add64_one (fun hwrap => hfits hwrap _ rfl) hadd⟩

theorem stakeDebit_nonce {tx : StakeTx} {delegator delegator' : AccountState}
    (hfits : (Transaction.stake tx).Fits env) (h : tx.debit env delegator = .ok delegator') :
    delegator.nonce = tx.nonce ∧ delegator'.nonce = tx.nonce + 1 := by
  obtain ⟨hnonce, _, _, _, nonce, hadd, rfl⟩ := stakeDebit_ok.mp h
  rw [hnonce] at hadd
  exact ⟨hnonce, add64_one (fun hwrap => hfits hwrap _ rfl) hadd⟩

theorem unbondLock_nonce {tx : UnbondTx} {delegator delegator' : AccountState}
    (hfits : (Transaction.unbond tx).Fits env) (h : tx.lock env delegator = .ok delegator') :
    delegator.nonce = tx.nonce ∧ delegator'.nonce = tx.nonce + 1 := by
  obtain ⟨hnonce, _, _, _, nonce, hadd, rfl⟩ := unbondLock_ok.mp h
  rw [hnonce] at hadd
  exact ⟨hnonce, add64_one (fun hwrap => hfits hwrap _ rfl) hadd⟩

theorem authorize_nonce {tx : VoteTx} {voter voter' : AccountState}
    (hfits : (Transaction.vote tx).Fits env) (h : tx.authorize env voter = .ok voter') :
    voter.nonce = tx.nonce ∧ voter'.nonce = tx.nonce + 1 := by
  obtain ⟨hnonce, _, _, _, nonce, hadd, rfl⟩ := authorize_ok.mp h
  rw [hnonce] at hadd
  exact ⟨hnonce, add64_one (fun hwrap => hfits hwrap _ rfl) hadd⟩

theorem proposeLock_nonce {tx : ProposeProtocolParamsUpdateTx} {bond : ℕ}
    {proposer proposer' : AccountState} (hfits : (Transaction.proposeProtocolParamsUpdate tx).Fits env)
    (h : tx.lock env bond proposer = .ok proposer') :
    proposer.nonce = tx.nonce ∧ proposer'.nonce = tx.nonce + 1 := by
  obtain ⟨hnonce, _, _, _, nonce, hadd, rfl⟩ := proposeLock_ok.mp h
  rw [hnonce] at hadd
  exact ⟨hnonce, add64_one (fun hwrap => hfits hwrap _ rfl) hadd⟩

theorem grows_unlock (kept : Hash32 → Prop) {address : Address} {account account' : AccountState}
    {lockedAmount creditAmount : ℕ} (hget : s.store.accounts[address]? = some account)
    (hunlock : unlockBondToBalance env account lockedAmount creditAmount = .ok account') :
    Grows kept s (s.insertAccount address account') := by
  obtain ⟨_, balance, _, rfl⟩ := unlockBondToBalance_ok.mp hunlock
  exact grows_insertAccount hget le_rfl

theorem grows_scheduling (kept : Hash32 → Prop) {proposalId : Hash32} (h : Scheduling env proposalId s s') :
    Grows kept s s' := by
  cases h with
  | none => exact Std.Refl.refl s
  | @full proposal account account' _ hget hunlock =>
      have hschedule : Grows kept s (s.schedule proposal.effectiveEpoch proposal.params) :=
        grows_of_same rfl rfl rfl rfl rfl rfl rfl
      have hpay := grows_unlock kept
        (s := s.schedule proposal.effectiveEpoch proposal.params) hget hunlock
      refine IsTrans.trans _ _ _ hschedule (IsTrans.trans _ _ _ hpay ?_)
      exact grows_of_same rfl rfl rfl rfl rfl rfl rfl

theorem grows_applied {tx : Transaction} (hfits : tx.Fits env) (h : Applied env tx s s') :
    Grows kept s s' := by
  cases h with
  | @transfer _ tx sender sender' recipient balance hget hdebit hrecipient _ =>
      have hnonce := debit_nonce hfits hdebit
      exact IsTrans.trans _ _ _ (grows_insertAccount hget (by omega))
        (grows_insertAccount hrecipient le_rfl)
  | @stake _ tx node delegator delegator' bond amount _ hnode hget hdebit _ _ =>
      have hnonce := stakeDebit_nonce hfits hdebit
      have hpaid : Grows kept s (s.insertAccount tx.delegator delegator') :=
        grows_insertAccount hget (by omega)
      have hbonded : Grows kept (s.insertAccount tx.delegator delegator')
          ((s.insertAccount tx.delegator delegator').insertNode tx.operator { node with bond }) :=
        grows_insertNode hnode rfl
      exact IsTrans.trans _ _ _ hpaid (IsTrans.trans _ _ _ hbonded
        (grows_of_same rfl rfl rfl rfl rfl rfl rfl))
  | @unbond _ tx node delegator delegator' existing _ _ _ _ hget hlock hnode _ _ =>
      have hnonce := unbondLock_nonce hfits hlock
      have hlocked : Grows kept s (s.insertAccount tx.delegator delegator') :=
        grows_insertAccount hget (by omega)
      have hbonded : Grows kept (s.insertAccount tx.delegator delegator')
          ((s.insertAccount tx.delegator delegator').insertNode tx.operator
            { node with bond := node.bond - tx.amount }) :=
        grows_insertNode hnode rfl
      refine IsTrans.trans _ _ _ hlocked (IsTrans.trans _ _ _ hbonded ?_)
      unfold ProtocolState.reduceDelegation
      split <;> exact grows_of_same rfl rfl rfl rfl rfl rfl rfl
  | submitBatch =>
      exact { (Std.Refl.refl s : Grows kept s s) with batches := fun _ => insert_ne_none _ _ }
  | commitEpoch =>
      exact { (Std.Refl.refl s : Grows kept s s) with commits := fun _ => insert_ne_none _ _ }
  | @openChallenge _ tx _ account account' _ _ _ _ hget hlock =>
      obtain ⟨_, locked, _, rfl⟩ := lockBond_ok.mp hlock
      have hpaid : Grows kept s (s.insertAccount tx.challenge.challenger
          { account with balance := account.balance - tx.challenge.bond, locked }) :=
        grows_insertAccount hget le_rfl
      refine IsTrans.trans _ _ _ hpaid ?_
      exact { (Std.Refl.refl _ : Grows kept _ _) with
        challenges := fun _ _ => insert_ne_none _ _ }
  | @challengeResponse _ tx challenge _ hopen =>
      refine { (Std.Refl.refl s : Grows kept s s) with
        responses := fun _ => insert_ne_none _ _, challenges := fun k _ hk => ?_ }
      change ((s.store.openChallenges.erase tx.challengeId).insert _ _)[k]? ≠ none
      rw [get_insert]
      split
      · simp
      · next hother =>
          rw [get_erase, if_neg hother]
          exact hk
  | @claimReward _ tx account balance _ hget _ =>
      have hpaid : Grows kept s (s.insertAccount tx.claimer { account with balance }) :=
        grows_insertAccount hget le_rfl
      refine IsTrans.trans _ _ _ hpaid ?_
      exact { (Std.Refl.refl _ : Grows kept _ _) with claims := fun _ => insert_ne_none _ _ }
  | @vote _ _ tx voter voter' _ hget hauthorize hscheduling =>
      have hnonce := authorize_nonce hfits hauthorize
      have hcounted : Grows kept (s.insertAccount tx.voter voter')
          ((s.insertAccount tx.voter voter').insertVote tx) :=
        grows_of_same rfl rfl rfl rfl rfl rfl rfl
      exact IsTrans.trans _ _ _ (grows_insertAccount hget (by omega))
        (IsTrans.trans _ _ _ hcounted (grows_scheduling kept hscheduling))
  | proposeProtocolParamsUpdate _ hget hlock =>
      have hnonce := proposeLock_nonce hfits hlock
      exact IsTrans.trans _ _ _ (grows_insertAccount hget (by omega))
        (grows_of_same rfl rfl rfl rfl rfl rfl rfl)

theorem grows_stranded {tx : Transaction} (hfits : tx.Fits env) (h : Stranded env tx s s') :
    Grows kept s s' := by
  cases h with
  | transfer hget hdebit =>
      have hnonce := debit_nonce hfits hdebit
      exact grows_insertAccount hget (by omega)
  | unbond hget hlock =>
      have hnonce := unbondLock_nonce hfits hlock
      exact grows_insertAccount hget (by omega)
  | vote _ hget hauthorize =>
      have hnonce := authorize_nonce hfits hauthorize
      exact IsTrans.trans _ _ _ (grows_insertAccount hget (by omega))
        (grows_of_same rfl rfl rfl rfl rfl rfl rfl)
  | schedule _ hget hauthorize =>
      have hnonce := authorize_nonce hfits hauthorize
      exact IsTrans.trans _ _ _ (grows_insertAccount hget (by omega))
        (grows_of_same rfl rfl rfl rfl rfl rfl rfl)

theorem grows_removeOpenChallenge {challengeId : Hash32} (hkept : ∀ k, kept k → challengeId ≠ k) :
    Grows kept s (s.removeOpenChallenge challengeId) := by
  refine { (Std.Refl.refl s : Grows kept s s) with challenges := fun k hk hopen => ?_ }
  change (s.store.openChallenges.erase challengeId)[k]? ≠ none
  rwa [get_erase, if_neg (hkept k hk)]

theorem grows_slash {resolution : ChallengeResolution} {target : NodeId} {node node' : NodeRegistry}
    (hget : s.store.nodes[target]? = some node) (hslash : resolution.slash env node = .ok node') :
    Grows kept s (s.insertNode target node') := by
  obtain ⟨_, _, _, rfl⟩ := slash_ok.mp hslash
  exact grows_insertNode hget rfl

theorem grows_resolve {challengeId : Hash32} {resolution : ChallengeResolution}
    (hkept : ∀ k, kept k → challengeId ≠ k)
    (h : Returns (resolveChallenge env challengeId resolution) s s') : Grows kept s s' := by
  refine resolve_returns (fun t t' hresolved => ?_) (fun t t' hdropped => ?_) h
  · have hremoved : Grows kept t (t.removeOpenChallenge challengeId) :=
      grows_removeOpenChallenge hkept
    refine IsTrans.trans _ _ _ hremoved ?_
    cases hresolved with
    | @reject _ challenge account _ hget _ =>
        have hburnt : Grows kept (t.removeOpenChallenge challengeId)
            ((t.removeOpenChallenge challengeId).insertAccount challenge.challenger
              { account with locked := account.locked - challenge.bond }) :=
          grows_insertAccount hget le_rfl
        exact IsTrans.trans _ _ _ hburnt (grows_of_same rfl rfl rfl rfl rfl rfl rfl)
    | @uphold _ _ challenge target node node' account account' _ _ _ _ _ _ hnode hslash hget _
        hunlock =>
        have hslashed : Grows kept (t.removeOpenChallenge challengeId)
            ((t.removeOpenChallenge challengeId).insertNode target node') := grows_slash hnode hslash
        have hpaid := grows_unlock kept
          (s := (t.removeOpenChallenge challengeId).insertNode target node') hget hunlock
        exact IsTrans.trans _ _ _ hslashed (IsTrans.trans _ _ _ hpaid
          (grows_of_same rfl rfl rfl rfl rfl rfl rfl))
  · have hremoved : Grows kept t (t.removeOpenChallenge challengeId) :=
      grows_removeOpenChallenge hkept
    cases hdropped with
    | remove => exact hremoved
    | slash _ _ _ hnode hslash => exact IsTrans.trans _ _ _ hremoved (grows_slash hnode hslash)

theorem grows_finalizeEpoch {epochId : ℕ} (h : Returns (finalizeEpoch env epochId) s s') :
    Grows kept s s' := by
  refine finalize_related ?_ ?_ ?_ ?_ ?_ h
  · exact fun _ => grows_of_same rfl rfl rfl rfl rfl rfl rfl
  · exact fun _ _ => grows_of_same rfl rfl rfl rfl rfl rfl rfl
  · exact fun _ _ _ => grows_of_same rfl rfl rfl rfl rfl rfl rfl
  · exact fun _ _ _ _ _ => grows_of_same rfl rfl rfl rfl rfl rfl rfl
  · exact fun _ _ _ _ hget _ => grows_insertAccount hget le_rfl

theorem grows_processMatureUnbonds (h : Returns (processMatureUnbonds env) s s') :
    Grows kept s s' :=
  mature_returns (fun _ => grows_of_same rfl rfl rfl rfl rfl rfl rfl)
    (fun _ _ _ _ hget hunlock => grows_unlock kept hget hunlock) h

theorem grows_apply {tx : Transaction} (hfits : tx.Fits env) (h : Returns (tx.apply env) s s') :
    Grows kept s s' :=
  apply_returns (fun _ _ => grows_applied hfits) (fun _ _ => grows_stranded hfits) h

theorem grows_step (op : Operation) (hfits : ∀ tx ∈ op.transactions, tx.Fits env)
    (hkept : ∀ k, kept k → k ∉ op.removes s) : Grows kept s (op.step env s) := by
  refine step_related ?_ (fun _ _ => grows_processMatureUnbonds)
    (fun tx hmem _ _ => grows_apply (hfits tx hmem)) ?_ (fun _ _ _ => grows_finalizeEpoch) ?_
  · exact fun _ _ _ => grows_of_same rfl rfl rfl rfl rfl rfl rfl
  · rintro challengeId resolution rfl t hreturns
    by_cases hopen : s.store.openChallenges[challengeId]? = none
    · rw [resolve_absent hopen hreturns]
      exact Std.Refl.refl s
    · refine grows_resolve (fun k hk => ?_) hreturns
      have hgone := hkept k hk
      simp only [Operation.removes, if_neg hopen, List.mem_singleton] at hgone
      exact Ne.symm hgone
  · exact fun _ _ _ _ _ => grows_of_same rfl rfl rfl rfl rfl rfl rfl

/-! ## Spent transactions -/

/-- The account has left the nonce behind. -/
def ProtocolState.Passed (s : ProtocolState) (address : Address) (nonce : ℕ) : Prop :=
  ∃ account, s.store.accounts[address]? = some account ∧ nonce < account.nonce

/-- The trace that an accepted transaction leaves, or one that was taken away. -/
def ProtocolState.Spent (s : ProtocolState) (removed : List Hash32) : Transaction → Prop
  | .transfer tx => s.Passed tx.sender tx.nonce
  | .stake tx => s.Passed tx.delegator tx.nonce
  | .unbond tx => s.Passed tx.delegator tx.nonce
  | .vote tx => s.Passed tx.voter tx.nonce
  | .proposeProtocolParamsUpdate tx => s.Passed tx.proposer tx.nonce
  | .submitBatch tx => ∃ node, s.store.nodes[tx.batchCommit.collectorId]? = some node ∧
      s.store.batches[(tx.batchCommit.epochId, node.nodeId, tx.batchCommit.batch.root)]? ≠ none
  | .commitEpoch tx => s.store.epochCommits[tx.epochCommit.epochId]? ≠ none
  | .openChallenge tx => s.store.openChallenges[tx.challenge.challengeId]? ≠ none ∨
      tx.challenge.challengeId ∈ removed
  | .challengeResponse tx => s.store.challengeResponses[tx.challengeId]? ≠ none
  | .claimReward tx => s.store.claimedRewards[(tx.epochId, tx.nodeId)]? ≠ none

theorem Grows.passed {address : Address} {nonce : ℕ} (h : Grows kept s s')
    (hpassed : s.Passed address nonce) : s'.Passed address nonce := by
  obtain ⟨account, hget, hnonce⟩ := hpassed
  obtain ⟨account', hget', hle⟩ := h.nonces address account hget
  exact ⟨account', hget', hnonce.trans_le hle⟩

theorem Grows.spent {removed removed' : List Hash32} {tx : Transaction} (h : Grows kept s s')
    (hremoved : ∀ k, k ∈ removed ∨ ¬ kept k → k ∈ removed') (hspent : s.Spent removed tx) :
    s'.Spent removed' tx := by
  cases tx with
  | transfer tx => exact h.passed hspent
  | stake tx => exact h.passed hspent
  | unbond tx => exact h.passed hspent
  | vote tx => exact h.passed hspent
  | proposeProtocolParamsUpdate tx => exact h.passed hspent
  | submitBatch tx =>
      obtain ⟨node, hget, hstored⟩ := hspent
      obtain ⟨node', hget', hid⟩ := h.nodes _ node hget
      refine ⟨node', hget', ?_⟩
      rw [hid]
      exact h.batches _ hstored
  | commitEpoch tx => exact h.commits _ hspent
  | challengeResponse tx => exact h.responses _ hspent
  | claimReward tx => exact h.claims _ hspent
  | openChallenge tx =>
      by_cases hkept : kept tx.challenge.challengeId
      · rcases hspent with hopen | hgone
        · exact .inl (h.challenges _ hkept hopen)
        · exact .inr (hremoved _ (.inl hgone))
      · exact .inr (hremoved _ (.inr hkept))

/-- The transaction opens a challenge whose id was taken off the open ones. -/
def Transaction.Reopens (removed : List Hash32) : Transaction → Prop
  | .openChallenge tx => tx.challenge.challengeId ∈ removed
  | _ => False

instance (removed : List Hash32) : (tx : Transaction) → Decidable (tx.Reopens removed)
  | .openChallenge tx => inferInstanceAs (Decidable (tx.challenge.challengeId ∈ removed))
  | .transfer _ | .stake _ | .unbond _ | .claimReward _ | .submitBatch _ | .commitEpoch _
  | .challengeResponse _ | .vote _ | .proposeProtocolParamsUpdate _ => isFalse not_false

private theorem not_passed {address : Address} {account : AccountState}
    (hget : s.store.accounts[address]? = some account) {nonce : ℕ} (hnonce : account.nonce = nonce) :
    ¬ s.Passed address nonce := by
  rintro ⟨other, hother, hless⟩
  cases hget.symm.trans hother
  omega

/-- A spent transaction is not accepted, unless it reopens a challenge. -/
theorem applied_unspent {tx : Transaction} {removed : List Hash32} (h : Applied env tx s s')
    (hfresh : ¬ tx.Reopens removed) : ¬ s.Spent removed tx := by
  cases h with
  | transfer hget hdebit => exact not_passed hget (debit_ok.mp hdebit).1
  | stake _ _ hget hdebit => exact not_passed hget (stakeDebit_ok.mp hdebit).1
  | unbond _ _ _ hget hlock => exact not_passed hget (unbondLock_ok.mp hlock).1
  | vote _ hget hauthorize => exact not_passed hget (authorize_ok.mp hauthorize).1
  | proposeProtocolParamsUpdate _ hget hlock => exact not_passed hget (proposeLock_ok.mp hlock).1
  | submitBatch _ hnode hnone =>
      rintro ⟨other, hother, hstored⟩
      cases hnode.symm.trans hother
      exact hstored hnone
  | commitEpoch _ hnone => exact not_not_intro hnone
  | challengeResponse hnone => exact not_not_intro hnone
  | claimReward hnone => exact not_not_intro hnone
  | openChallenge hnone =>
      rintro (hopen | hgone)
      · exact hopen hnone
      · exact hfresh hgone

theorem passed_insertAccount (s : ProtocolState) (address : Address) {account : AccountState}
    {nonce : ℕ} (hnonce : account.nonce = nonce + 1) : (s.insertAccount address account).Passed address nonce :=
  ⟨account, get_insert_self _ _ _, by omega⟩

/-- An accepted transaction is spent. -/
theorem applied_spent {tx : Transaction} {removed : List Hash32} (hfits : tx.Fits env)
    (h : Applied env tx s s') : s'.Spent removed tx := by
  cases h with
  | @transfer _ tx _ sender' recipient balance _ hdebit hrecipient _ =>
      have hgrows : Grows (fun _ => True) (s.insertAccount tx.sender sender')
          ((s.insertAccount tx.sender sender').insertAccount tx.recipient
            { recipient with balance }) := grows_insertAccount hrecipient le_rfl
      exact hgrows.passed (passed_insertAccount s tx.sender (debit_nonce hfits hdebit).2)
  | stake _ _ _ hdebit =>
      exact passed_insertAccount s _ (stakeDebit_nonce hfits hdebit).2
  | @unbond _ tx _ _ _ _ _ _ _ _ _ hlock =>
      have hpassed := passed_insertAccount s tx.delegator (unbondLock_nonce hfits hlock).2
      unfold ProtocolState.reduceDelegation
      split <;> exact hpassed
  | @vote _ _ tx _ _ _ _ hauthorize hscheduling =>
      have hpassed := passed_insertAccount s tx.voter (authorize_nonce hfits hauthorize).2
      exact (grows_scheduling (fun _ => True) hscheduling).passed hpassed
  | proposeProtocolParamsUpdate _ _ hlock =>
      exact passed_insertAccount s _ (proposeLock_nonce hfits hlock).2
  | @submitBatch _ tx node _ hnode _ =>
      refine ⟨node, hnode, ?_⟩
      change (s.store.batches.insert _ _)[_]? ≠ none
      simp
  | commitEpoch =>
      change (s.store.epochCommits.insert _ _)[_]? ≠ none
      simp
  | challengeResponse =>
      change (s.store.challengeResponses.insert _ _)[_]? ≠ none
      simp
  | claimReward =>
      change (s.store.claimedRewards.insert _ _)[_]? ≠ none
      simp
  | openChallenge =>
      refine .inl ?_
      change (s.store.openChallenges.insert _ _)[_]? ≠ none
      simp

/-! ## Runs without replays -/

/-- Every transaction accepted so far is spent, and none was accepted twice. -/
def Recorded (accepted : List Transaction) (removed : List Hash32) (s : ProtocolState) : Prop :=
  accepted.Nodup ∧ ∀ tx ∈ accepted, s.Spent removed tx

theorem Recorded.grows {accepted : List Transaction} {removed removed' : List Hash32}
    (h : Recorded accepted removed s) (hgrows : Grows kept s s')
    (hremoved : ∀ k, k ∈ removed ∨ ¬ kept k → k ∈ removed') : Recorded accepted removed' s' :=
  ⟨h.1, fun tx hmem => hgrows.spent hremoved (h.2 tx hmem)⟩

private theorem Recorded.grows_all {accepted : List Transaction} {removed : List Hash32}
    (h : Recorded accepted removed s) (hgrows : Grows (fun _ => True) s s') :
    Recorded accepted removed s' :=
  h.grows hgrows fun _ hk => hk.resolve_right (not_not_intro trivial)

/-- Accepting one more transaction keeps the record. -/
theorem Recorded.accept {accepted : List Transaction} {removed : List Hash32} {tx : Transaction}
    (h : Recorded accepted removed s) (hfits : tx.Fits env) (hfresh : ¬ tx.Reopens removed)
    (happlied : Applied env tx s s') : Recorded (accepted ++ [tx]) removed s' := by
  have hnew : tx ∉ accepted := fun hmem => applied_unspent happlied hfresh (h.2 tx hmem)
  have hkept := h.grows_all (grows_applied hfits happlied)
  refine ⟨List.nodup_append.mpr ⟨h.1, List.nodup_singleton tx, ?_⟩, fun other hother => ?_⟩
  · intro other hother last hlast heq
    rw [List.mem_singleton.mp hlast] at heq
    exact hnew (heq ▸ hother)
  · rcases List.mem_append.mp hother with hold | hlast
    · exact hkept.2 other hold
    · rw [List.mem_singleton.mp hlast]
      exact applied_spent hfits happlied

/-- The record follows the transactions of a block one by one. -/
theorem Recorded.row {accepted txs : List Transaction} {removed : List Hash32}
    (h : Recorded accepted removed s) (hfits : ∀ tx ∈ txs, tx.Fits env)
    (hfresh : ∀ tx ∈ acceptedFrom env s txs, ¬ tx.Reopens removed)
    (hreturns : Returns (txs.mapM fun tx => tx.apply env) s s') :
    Recorded (accepted ++ acceptedFrom env s txs) removed s' := by
  induction txs generalizing s accepted with
  | nil =>
      obtain rfl := returns_pure hreturns
      rwa [acceptedFrom, List.append_nil]
  | cons tx txs ih =>
      have hfirst := hfits tx List.mem_cons_self
      have hlater : ∀ other ∈ txs, other.Fits env := fun other hmem =>
        hfits other (List.mem_cons_of_mem tx hmem)
      rw [List.mapM_cons] at hreturns
      rcases hreturns.bind with ⟨error, hrefused⟩ | ⟨effect, t, hok, hrest⟩
      · rw [acceptedFrom, hrefused, List.append_nil]
        exact h.grows_all (grows_apply hfirst (.inr ⟨error, hrefused⟩))
      · have haccepted : acceptedFrom env s (tx :: txs) = tx :: acceptedFrom env t txs := by
          rw [acceptedFrom, hok]
        rw [haccepted] at hfresh ⊢
        have hrow : Returns (txs.mapM fun tx => tx.apply env) t s' := by
          rcases hrest.bind with hrefused | ⟨effects, t', hloop, hreturn⟩
          · exact .inr hrefused
          · obtain rfl := returns_pure hreturn
            exact .inl ⟨effects, hloop⟩
        have hnext := h.accept hfirst (hfresh tx List.mem_cons_self) (applied_of_ok tx hok)
        have hrecorded := ih hnext hlater
          (fun other hmem => hfresh other (List.mem_cons_of_mem tx hmem)) hrow
        rwa [List.append_assoc] at hrecorded

/-- No accepted transaction of the operation reopens a challenge, and no nonce wraps. -/
def Clean (env : Env) (journal : Journal) (op : Operation) : Prop :=
  (∀ tx ∈ op.transactions, tx.Fits env) ∧
  ∀ tx ∈ op.accepted env journal.state, ¬ tx.Reopens journal.removed

def Journal.Sound (journal : Journal) : Prop :=
  Recorded journal.accepted journal.removed journal.state

/-- An operation that accepts nothing lets the record grow. -/
theorem Recorded.quiet {accepted : List Transaction} {removed : List Hash32} (op : Operation)
    (h : Recorded accepted removed s) (hfits : ∀ tx ∈ op.transactions, tx.Fits env) :
    Recorded accepted (removed ++ op.removes s) (op.step env s) := by
  have hgrows : Grows (fun k => k ∉ op.removes s) s (op.step env s) :=
    grows_step op hfits fun _ hk => hk
  refine h.grows hgrows fun k hk => ?_
  rw [List.mem_append]
  exact hk.imp_right not_not.mp

theorem Recorded.block {accepted : List Transaction} {removed : List Hash32} {block : Block}
    (h : Recorded accepted removed s) (hfits : ∀ tx ∈ block.transactions, tx.Fits env)
    (hfresh : ∀ tx ∈ acceptedInBlock env s block, ¬ tx.Reopens removed)
    (hreturns : Returns (executeBlock env block) s s') :
    Recorded (accepted ++ acceptedInBlock env s block) removed s' := by
  rcases executeBlock_returns hreturns with
    ⟨hregression, rfl⟩ | ⟨hraised, ⟨error, hrefused⟩ | ⟨effects, t, hok, hrow⟩⟩
  · rwa [acceptedInBlock, if_pos hregression, List.append_nil]
  · have hraise : Grows (fun _ => True) s { s with height := block.height } :=
      grows_of_same rfl rfl rfl rfl rfl rfl rfl
    rw [acceptedInBlock, if_neg (Nat.not_le.mpr hraised), hrefused, List.append_nil]
    exact (h.grows_all hraise).grows_all (grows_processMatureUnbonds (.inr ⟨error, hrefused⟩))
  · have hraise : Grows (fun _ => True) s { s with height := block.height } :=
      grows_of_same rfl rfl rfl rfl rfl rfl rfl
    have hstart := (h.grows_all hraise).grows_all (grows_processMatureUnbonds (.inl ⟨effects, hok⟩))
    have haccepted : acceptedInBlock env s block = acceptedFrom env t block.transactions := by
      rw [acceptedInBlock, if_neg (Nat.not_le.mpr hraised), hok]
    rw [haccepted] at hfresh ⊢
    exact hstart.row hfits hfresh hrow

theorem Recorded.returned {accepted : List Transaction} {removed : List Hash32} {op : Operation}
    (h : Recorded accepted removed s) (hfits : ∀ tx ∈ op.transactions, tx.Fits env)
    (hfresh : ∀ tx ∈ op.admits env s, ¬ tx.Reopens removed)
    (hreturns : Returns (op.perform env) s (op.step env s)) :
    Recorded (accepted ++ op.admits env s) (removed ++ op.removes s) (op.step env s) := by
  cases op with
  | executeBlock block =>
      change Recorded _ (removed ++ []) _
      rw [List.append_nil]
      exact h.block hfits hfresh hreturns.of_return
  | other call =>
      cases call with
      | transaction tx =>
          change Recorded _ (removed ++ []) _
          rw [List.append_nil]
          have hcall : Returns (tx.apply env) s _ := hreturns.of_mapError.of_return
          exact h.row hfits hfresh hcall.mapM_singleton
      | processMatureUnbonds =>
          change Recorded (accepted ++ []) _ _
          rw [List.append_nil]
          exact h.quiet _ hfits
      | resolveChallenge challengeId resolution =>
          change Recorded (accepted ++ []) _ _
          rw [List.append_nil]
          exact h.quiet _ hfits
      | finalizeEpoch epochId =>
          change Recorded (accepted ++ []) _ _
          rw [List.append_nil]
          exact h.quiet _ hfits
      | scheduleProtocolParamsUpdate effectiveEpoch params =>
          change Recorded (accepted ++ []) _ _
          rw [List.append_nil]
          exact h.quiet _ hfits

theorem sound_next (journal : Journal) (op : Operation) (hclean : Clean env journal op)
    (h : journal.Sound) : (journal.next env op).Sound := by
  obtain ⟨hfits, hfresh⟩ := hclean
  change Recorded (journal.accepted ++ op.accepted env journal.state)
    (journal.removed ++ op.removes journal.state) (op.step env journal.state)
  unfold Operation.accepted at hfresh ⊢
  have hstep : op.step env journal.state = (op.perform env).after journal.state := rfl
  unfold after at hstep
  cases hrun : (op.perform env).run journal.state with
  | ok effect t =>
      simp only [hrun] at hfresh hstep ⊢
      exact h.returned hfits hfresh (.inl ⟨effect, hstep ▸ hrun⟩)
  | error e t =>
      cases e with
      | refused error =>
          simp only [hrun] at hfresh hstep ⊢
          exact h.returned hfits hfresh (.inr ⟨error, hstep ▸ hrun⟩)
      | panic =>
          rw [List.append_nil]
          exact h.quiet op hfits

/-- In every run in which no accepted challenge reuses an id that was resolved before, no
transaction is accepted twice. -/
theorem accepted_once (env : Env) (s : ProtocolState) (ops : List Operation)
    (hclean : Meets (Journal.next env) (Clean env) { state := s } ops) :
    (run (Journal.next env) { state := s } ops).accepted.Nodup := by
  have hstart : Journal.Sound { state := s } := ⟨List.nodup_nil, fun tx hmem => by cases hmem⟩
  exact (run_invariant (P := Journal.Sound) sound_next hclean hstart).1

namespace Sample

/-- Alice's challenge is opened and rejected, and then the same transaction comes once more. -/
def replay : List Operation :=
  [.executeBlock ⟨2, [.openChallenge openChallenge]⟩,
    .other (.resolveChallenge challengeId .rejected),
    .executeBlock ⟨3, [.openChallenge openChallenge]⟩]

/-- The transaction comes twice while the challenge is open, and the challenge is rejected. -/
def repeatedly : List Operation :=
  [.executeBlock ⟨2, [.openChallenge openChallenge]⟩,
    .executeBlock ⟨3, [.openChallenge openChallenge]⟩,
    .other (.resolveChallenge challengeId .rejected)]

end Sample

/-- The second copy of the challenge is refused while the first is open. -/
theorem accepted_once_repeatedly :
    (run (Journal.next (Sample.env .panic)) { state := Sample.challengeable }
      Sample.repeatedly).accepted.Nodup := by
  have hfits : ∀ tx : Transaction, tx.Fits (Sample.env .panic) := by
    intro tx hwrap
    cases hwrap
  refine accepted_once (Sample.env .panic) Sample.challengeable Sample.repeatedly ?_
  refine ⟨⟨fun tx _ => hfits tx, ?_⟩, ⟨fun tx _ => hfits tx, ?_⟩, ⟨fun tx _ => hfits tx, ?_⟩, trivial⟩
  · decide +kernel
  · decide +kernel
  · decide +kernel

/-- After the rejection the same signed transaction is accepted again. -/
theorem openChallenge_accepted_twice :
    ¬ (run (Journal.next (Sample.env .panic)) { state := Sample.challengeable }
      Sample.replay).accepted.Nodup := by
  decide +kernel

end PoleProtocol.Ledger
