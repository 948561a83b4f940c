import PoleProtocol.Ledger.Conservation

/-!
# Refusals that leave a trace

Nothing is rolled back, so a transition that refuses after its first write leaves the write behind.
Seven kinds of transactions check everything first. A transfer, an unbonding, a vote, the
resolution of a challenge and the finalization of an epoch do not; for each of them this module
names the states in which the call refuses too late.
-/

namespace PoleProtocol.Ledger

open Framework OrderedMap Action

variable {env : Env} {s s' : ProtocolState}

/-! ## Parts of a transition -/

private theorem willing_require_panic {x : Option ℕ} :
    Attempt.Willing (require x .panic : Attempt TransitionError ℕ) := by
  intro error h
  cases x <;> cases h

theorem willing_add128 (a b : ℕ) : (env.add128 a b).Willing := willing_require_panic

theorem willing_add64 (a b : ℕ) : (env.add64 a b).Willing := willing_require_panic

theorem willing_add32 (a b : ℕ) : (env.add32 a b).Willing := willing_require_panic

theorem adds128_iff {a b : ℕ} : env.wide.Adds 128 a b ↔ ∃ c, env.add128 a b = .ok c := by
  simp only [Overflow.adds_iff, Env.add128, require_eq_ok]

theorem adds64_iff {a b : ℕ} : env.narrow.Adds 64 a b ↔ ∃ c, env.add64 a b = .ok c := by
  simp only [Overflow.adds_iff, Env.add64, require_eq_ok]

theorem eq_of_add64 {a b c : ℕ} (hfits : a + b < 2 ^ 64) (h : env.add64 a b = .ok c) : c = a + b :=
  Overflow.eq_of_add hfits (require_eq_ok.mp h)

theorem add128_le {a b c : ℕ} (h : env.add128 a b = .ok c) : c ≤ a + b :=
  Overflow.add_le (require_eq_ok.mp h)

/-- Raising a nonce changes it, whatever the build. -/
theorem add64_one_ne {nonce nonce' : ℕ} (h : env.add64 nonce 1 = .ok nonce') : nonce' ≠ nonce := by
  rw [Env.add64, require_eq_ok] at h
  exact Overflow.add_one_ne _ h (by decide)

theorem accountMut_ok {address : Address} {u : Unit}
    {body : AccountState → Attempt TransitionError AccountState} :
    (accountMut address body).run s = .ok u s' ↔ ∃ account account',
      s.store.accounts[address]? = some account ∧ body account = .ok account' ∧
      s' = s.insertAccount address account' := by
  rw [accountMut, update_ok]
  simp only [found, bind_eq_ok, require_eq_ok]
  constructor
  · rintro ⟨account', ⟨account, hget, hbody⟩, rfl⟩
    exact ⟨account, account', hget, hbody, rfl⟩
  · rintro ⟨account, account', hget, hbody, rfl⟩
    exact ⟨account', ⟨account, hget, hbody⟩, rfl⟩

theorem willing_nodeMut {nodeId : NodeId} {node : NodeRegistry}
    {body : NodeRegistry → Attempt TransitionError NodeRegistry}
    (h : s.store.nodes[nodeId]? = some node)
    (hbody : (body node).Willing) : Willing (nodeMut nodeId body) s := by
  intro error s' hrun
  rw [nodeMut, update_error] at hrun
  simp only [h, found, require, ok_bind] at hrun
  exact hbody error hrun.1

/-- A borrow with a body that only adds does not refuse. -/
theorem willing_credit (account : AccountState) (amount : ℕ) :
    Attempt.Willing (do return { account with balance := ← env.add128 account.balance amount }) :=
  (willing_add128 _ _).bind fun _ => Attempt.willing_pure _

/-! ## Transactions that check first -/

theorem atomic_applySubmitBatch (tx : SubmitBatchTx) : Atomic (applySubmitBatch env tx) s :=
  .after_lift fun _ _ => .after_get <| .after_lift fun _ _ => .after_lift fun _ _ =>
    .after_lift fun _ _ => .after_lift fun _ _ => .after_lift fun _ _ => .after_lift fun _ _ =>
      .of_willing (.after_modify (willing_pure _))

theorem atomic_applyCommitEpoch (tx : CommitEpochTx) : Atomic (applyCommitEpoch env tx) s :=
  .after_lift fun _ _ => .after_get <| .after_lift fun _ _ => .after_lift fun _ _ =>
    .after_lift fun _ _ => .after_lift fun _ _ => .after_lift fun _ _ => .after_lift fun _ _ =>
      .of_willing (.after_modify (willing_pure _))

theorem atomic_applyOpenChallenge (tx : OpenChallengeTx) : Atomic (applyOpenChallenge env tx) s :=
  .after_lift fun _ _ => .after_lift fun _ _ => .after_get <| .after_lift fun _ _ =>
    .after_lift fun _ _ => .after_lift fun _ _ => .after_lift fun _ _ =>
      .bind (atomic_update _ _ s) fun _ _ _ => .after_modify (willing_pure _)

theorem atomic_applyChallengeResponse (tx : ChallengeResponseTx) :
    Atomic (applyChallengeResponse env tx) s :=
  .after_lift fun _ _ => .after_lift fun _ _ => .after_get <| .after_lift fun _ _ =>
    .after_lift fun _ _ => .after_lift fun _ _ => .after_lift fun _ _ => .after_lift fun _ _ =>
      .of_willing (.after_modify (.after_modify (willing_pure _)))

theorem atomic_applyClaimReward (tx : ClaimRewardTx) : Atomic (applyClaimReward env tx) s :=
  .after_lift fun _ _ => .after_get <| .after_lift fun _ _ => .after_lift fun _ _ =>
    .after_lift fun _ _ => .after_lift fun _ _ => .after_lift fun _ _ => .after_lift fun _ _ =>
      .bind (atomic_update _ _ s) fun _ _ _ => .after_modify (willing_pure _)

/-- The operator was looked up before the delegator paid, so it is still there. -/
theorem atomic_applyStake (tx : StakeTx) : Atomic (applyStake env tx) s := by
  refine .after_lift fun _ _ => .after_lift fun _ _ => .after_get <| .after_lift fun node hnode => ?_
  simp only [ProtocolState.requireActiveNode, found, refuseUnless, bind_eq_ok, require_eq_ok,
    ensure_eq_ok, exists_const, pure_eq_ok] at hnode
  obtain ⟨_, hstored, _, rfl⟩ := hnode
  refine .bind (atomic_update _ _ s) fun _ t hpaid => ?_
  obtain ⟨_, _, _, _, rfl⟩ := accountMut_ok.mp hpaid
  refine .bind (willing_nodeMut hstored ?_) fun _ _ _ => ?_
  · exact (willing_add128 _ _).bind fun _ => Attempt.willing_pure _
  · exact .after_lift (willing_add128 _ _) fun _ _ => .after_modify (willing_pure _)

/-- Parameters that were encoded for the signature are encoded again for their hash. -/
theorem atomic_applyProposeProtocolParamsUpdate (tx : ProposeProtocolParamsUpdateTx) :
    Atomic (applyProposeProtocolParamsUpdate env tx) s := by
  refine .after_lift fun _ hsigned => ?_
  simp only [ensureSignature, bind_eq_ok, require_eq_ok] at hsigned
  obtain ⟨message, hmessage, _⟩ := hsigned
  obtain ⟨paramBytes, hbytes⟩ := env.encodeParams_of_encode _ message hmessage
  refine .after_get <| .after_lift fun _ _ => .bind (atomic_update _ _ s) fun _ _ _ =>
    .after_lift (fun error hrefused => ?_) fun _ _ => .after_modify (willing_pure _)
  have hserialized : env.serializeParams tx.params = .ok paramBytes := by
    unfold Env.serializeParams
    rw [show env.encodeParams tx.params = .ok paramBytes from hbytes]
  rw [hserialized] at hrefused
  cases hrefused

/-! ## Traces -/

theorem refuses_accountMut {address : Address}
    {body : AccountState → Attempt TransitionError AccountState} :
    Refuses (accountMut address body) s ↔
      ∀ account ∈ s.store.accounts[address]?, ∃ error, body account = .error (.refused error) := by
  rw [accountMut, refuses_update]
  cases hget : s.store.accounts[address]? with
  | none => simp [found, require, bind, Except.bind]
  | some account => simp [found, require]

theorem refuses_nodeMut {nodeId : NodeId}
    {body : NodeRegistry → Attempt TransitionError NodeRegistry} :
    Refuses (nodeMut nodeId body) s ↔
      ∀ node ∈ s.store.nodes[nodeId]?, ∃ error, body node = .error (.refused error) := by
  rw [nodeMut, refuses_update]
  cases hget : s.store.nodes[nodeId]? with
  | none => simp [found, require, bind, Except.bind]
  | some node => simp [found, require]

/-- A write over a stored account does not show in what it leaves alone. -/
theorem map_insertAccount {τ : Type} (f : AccountState → τ) {address other : Address}
    {account account' : AccountState} (h : s.store.accounts[address]? = some account)
    (hf : f account' = f account) :
    (s.insertAccount address account').store.accounts[other]?.map f =
      s.store.accounts[other]?.map f := by
  change (s.store.accounts.insert address account')[other]?.map f = _
  rw [get_insert]
  split
  · next hsame =>
      rw [← hsame, h]
      exact congrArg some hf
  · rfl

/-- An account is written over a stored one, so no address is lost or gained. -/
theorem accounts_insertAccount_eq_none {address other : Address} {account account' : AccountState}
    (h : s.store.accounts[address]? = some account) :
    (s.insertAccount address account').store.accounts[other]? = none ↔
      s.store.accounts[other]? = none := by
  have hsame : (s.insertAccount address account').store.accounts[other]?.map (fun _ => ()) =
      s.store.accounts[other]?.map fun _ => () := map_insertAccount _ h rfl
  rw [← Option.map_eq_none_iff, hsame, Option.map_eq_none_iff]

/-- Writing a nonce does not move a locked bond. -/
theorem locked_insertAccount {address other : Address} {account : AccountState}
    (account' : AccountState) (h : s.store.accounts[address]? = some account)
    (hlocked : account'.locked = account.locked) (bond : ℕ) :
    (∀ holder ∈ (s.insertAccount address account').store.accounts[other]?, holder.locked < bond) ↔
      ∀ holder ∈ s.store.accounts[other]?, holder.locked < bond := by
  have hmap : ∀ o : Option AccountState, (∀ holder ∈ o, holder.locked < bond) ↔
      ∀ locked ∈ o.map AccountState.locked, locked < bond := by
    intro o
    cases o <;> simp
  rw [hmap, hmap, map_insertAccount AccountState.locked h hlocked]

/-- The nonce stored for an address. -/
def ProtocolState.nonceOf (address : Address) (s : ProtocolState) : Option ℕ :=
  s.store.accounts[address]?.map (·.nonce)

theorem keeps_nonce_accountMut {address other : Address}
    {body : AccountState → Attempt TransitionError AccountState}
    (hbody : ∀ account account', body account = .ok account' → account'.nonce = account.nonce) :
    Keeps (SameField (ProtocolState.nonceOf address)) (accountMut other body) := by
  refine keeps_update fun s account' hread => ?_
  simp only [found, bind_eq_ok, require_eq_ok] at hread
  obtain ⟨account, hget, hok⟩ := hread
  exact map_insertAccount (·.nonce) hget (hbody account account' hok)

/-- A raised nonce is a trace as long as nothing else moves it. -/
theorem finish_ne_of_nonce {α : Type} {address : Address} {account account' : AccountState}
    (hget : s.store.accounts[address]? = some account) (hne : account'.nonce ≠ account.nonce)
    {x : Transition α} (hkeeps : Keeps (SameField (ProtocolState.nonceOf address)) x) :
    x.finish (s.insertAccount address account') ≠ s := by
  refine hkeeps.finish_ne ?_
  have hbefore : s.nonceOf address = some account.nonce := by
    rw [ProtocolState.nonceOf, hget]
    rfl
  have hafter : (s.insertAccount address account').nonceOf address = some account'.nonce := by
    change (s.store.accounts.insert address account')[address]?.map AccountState.nonce = _
    rw [get_insert_self]
    rfl
  rw [hbefore, hafter]
  exact fun hsame => hne (Option.some.inj hsame)

/-- A call that raises a nonce and goes on strays when the rest refuses. -/
theorem strays_after_nonce {α : Type} {address : Address}
    {body : AccountState → Attempt TransitionError AccountState} {rest : Transition α}
    (hbody : ∀ account account', body account = .ok account' → account'.nonce ≠ account.nonce)
    (hkeeps : Keeps (SameField (ProtocolState.nonceOf address)) rest) :
    Strays (accountMut address body >>= fun _ => rest) s ↔
      ∃ account account', s.store.accounts[address]? = some account ∧
        body account = .ok account' ∧ Refuses rest (s.insertAccount address account') := by
  have hatomic : Atomic (accountMut address body) s := atomic_update _ _ s
  have htrace : ∀ (u : Unit) (t : ProtocolState), (accountMut address body).run s = .ok u t →
      rest.finish t ≠ s := by
    intro u t hok
    obtain ⟨account, account', hget, hbodyOk, rfl⟩ := accountMut_ok.mp hok
    exact finish_ne_of_nonce hget (hbody account account' hbodyOk) hkeeps
  rw [strays_bind_of_trace hatomic htrace]
  constructor
  · rintro ⟨u, t, hok, hrefuses⟩
    obtain ⟨account, account', hget, hbodyOk, rfl⟩ := accountMut_ok.mp hok
    exact ⟨account, account', hget, hbodyOk, hrefuses⟩
  · rintro ⟨account, account', hget, hbodyOk, hrefuses⟩
    exact ⟨(), _, accountMut_ok.mpr ⟨account, account', hget, hbodyOk, rfl⟩, hrefuses⟩

/-! ## Transfers -/

/-- The sender's side goes through and nobody receives. -/
def TransferTx.Strands (env : Env) (s : ProtocolState) (tx : TransferTx) : Prop :=
  ensureSignature env (.transfer tx) tx.pubkey tx.sender tx.signature = .ok () ∧
  (∃ sender, s.store.accounts[tx.sender]? = some sender ∧ sender.nonce = tx.nonce ∧
    saturatingAdd128 tx.amount tx.fee ≤ sender.balance ∧ env.narrow.Adds 64 sender.nonce 1) ∧
  s.store.accounts[tx.recipient]? = none

theorem debit_ok {tx : TransferTx} {sender sender' : AccountState} :
    tx.debit env sender = .ok sender' ↔ sender.nonce = tx.nonce ∧
      saturatingAdd128 tx.amount tx.fee ≤ sender.balance ∧ ∃ nonce,
      env.add64 sender.nonce 1 = .ok nonce ∧
      { sender with balance := sender.balance - saturatingAdd128 tx.amount tx.fee, nonce } =
        sender' := by
  simp only [TransferTx.debit, ensureNonce, refuseUnless, bind_eq_ok, ensure_eq_ok, exists_const,
    pure_eq_ok]

theorem keeps_nonce_credit (env : Env) (address other : Address) (amount : ℕ) :
    Keeps (SameField (ProtocolState.nonceOf address)) (accountMut other fun account => do
      return { account with balance := ← env.add128 account.balance amount }) := by
  refine keeps_nonce_accountMut fun account account' h => ?_
  simp only [bind_eq_ok, pure_eq_ok] at h
  obtain ⟨_, _, rfl⟩ := h
  rfl

theorem refuses_credit {address : Address} {amount : ℕ} :
    Refuses (accountMut address fun account => do
      return { account with balance := ← env.add128 account.balance amount }) s ↔
    s.store.accounts[address]? = none := by
  rw [refuses_accountMut, Option.eq_none_iff_forall_not_mem]
  refine forall_congr' fun account => imp_congr_right fun _ => iff_of_false ?_ (by simp)
  rintro ⟨error, hrefused⟩
  exact willing_credit account amount error hrefused

theorem strays_applyTransfer {tx : TransferTx} :
    Strays (applyTransfer env tx) s ↔ tx.Strands env s := by
  have hraise : ∀ sender sender', tx.debit env sender = .ok sender' →
      sender'.nonce ≠ sender.nonce := by
    intro sender sender' h
    obtain ⟨_, _, nonce, hnonce, rfl⟩ := debit_ok.mp h
    exact add64_one_ne hnonce
  have hrest : ∀ t : ProtocolState, Refuses (do
      accountMut tx.recipient fun recipient => do
        return { recipient with balance := ← env.add128 recipient.balance tx.amount }
      return TransitionEffect.transferApplied tx.sender tx.recipient tx.amount tx.fee) t ↔
      t.store.accounts[tx.recipient]? = none := by
    intro t
    rw [refuses_bind_of_willing fun _ _ _ => (refuses_pure _).mp, refuses_credit]
  have hkeeps := (keeps_nonce_credit env tx.sender tx.recipient tx.amount).bind fun _ =>
    keeps_pure (ε := TransitionError)
      (TransitionEffect.transferApplied tx.sender tx.recipient tx.amount tx.fee)
  rw [applyTransfer, strays_lift_bind]
  simp only [strays_after_nonce hraise hkeeps, hrest, debit_ok]
  constructor
  · rintro ⟨_, hsigned, sender, _, hget, ⟨hnonce, hfunds, nonce, hadd, rfl⟩, hnone⟩
    refine ⟨hsigned, ⟨sender, hget, hnonce, hfunds, adds64_iff.mpr ⟨nonce, hadd⟩⟩, ?_⟩
    exact (accounts_insertAccount_eq_none hget).mp hnone
  · rintro ⟨hsigned, ⟨sender, hget, hnonce, hfunds, hadds⟩, hnone⟩
    obtain ⟨nonce, hadd⟩ := adds64_iff.mp hadds
    refine ⟨(), hsigned, sender, _, hget, ⟨hnonce, hfunds, nonce, hadd, rfl⟩, ?_⟩
    exact (accounts_insertAccount_eq_none hget).mpr hnone

/-! ## Unbonding -/

/-- The delegator's side goes through and the operator does not cover it. -/
def UnbondTx.Strands (env : Env) (s : ProtocolState) (tx : UnbondTx) : Prop :=
  ensureSignature env (.unbond tx) tx.pubkey tx.delegator tx.signature = .ok () ∧ tx.amount ≠ 0 ∧
  (∃ existing, s.store.delegations[(tx.delegator, tx.operator)]? = some existing ∧
    tx.amount ≤ existing.amount) ∧
  (∃ delegator, s.store.accounts[tx.delegator]? = some delegator ∧ delegator.nonce = tx.nonce ∧
    tx.amount ≤ delegator.staked ∧ env.wide.Adds 128 delegator.locked tx.amount ∧
    env.narrow.Adds 64 delegator.nonce 1) ∧
  ∀ node ∈ s.store.nodes[tx.operator]?, node.bond < tx.amount

theorem unbondLock_ok {tx : UnbondTx} {delegator delegator' : AccountState} :
    tx.lock env delegator = .ok delegator' ↔ delegator.nonce = tx.nonce ∧
      tx.amount ≤ delegator.staked ∧ ∃ locked, env.add128 delegator.locked tx.amount = .ok locked ∧
      ∃ nonce, env.add64 delegator.nonce 1 = .ok nonce ∧
      { delegator with staked := delegator.staked - tx.amount, locked, nonce } = delegator' := by
  simp only [UnbondTx.lock, ensureNonce, refuseUnless, bind_eq_ok, ensure_eq_ok, exists_const,
    pure_eq_ok]

/-- What an unbonding does after the delegator's side. -/
def UnbondTx.rest (env : Env) (tx : UnbondTx) (existing : DelegationRecord) (s : ProtocolState) :
    Transition TransitionEffect := do
  nodeMut tx.operator fun operator => do
    ensureBond operator.nodeId operator.bond tx.amount
    return { operator with bond := operator.bond - tx.amount }
  modify fun s =>
    if existing.amount - tx.amount = 0 then s.removeDelegation (tx.delegator, tx.operator)
    else s.insertDelegation
      { delegator := tx.delegator, operator := tx.operator, amount := existing.amount - tx.amount }
  let unlockHeight ← env.add64 s.height s.params.unbondingBlocks
  modify fun s => { s with store := { s.store with
    unbondingQueue := s.store.unbondingQueue ++
      [{ delegator := tx.delegator, operator := tx.operator, amount := tx.amount, unlockHeight }] } }
  return .unbondQueued tx.delegator tx.operator tx.amount unlockHeight

theorem refuses_unbondRest {tx : UnbondTx} {existing : DelegationRecord} {t : ProtocolState} :
    Refuses (tx.rest env existing s) t ↔
      ∀ node ∈ t.store.nodes[tx.operator]?, node.bond < tx.amount := by
  rw [UnbondTx.rest, refuses_bind_of_willing]
  · rw [refuses_nodeMut]
    refine forall_congr' fun node => imp_congr_right fun _ => ?_
    exact (Attempt.guard_refused (Attempt.willing_pure _)).trans Nat.not_le
  · rintro _ u - hrefuses
    rw [refuses_modify_bind, refuses_lift_bind] at hrefuses
    rcases hrefuses with ⟨error, hsum⟩ | ⟨unlockHeight, _, hreturn⟩
    · exact willing_add64 _ _ _ hsum
    · exact (refuses_pure _).mp hreturn

theorem keeps_nonce_unbondRest {tx : UnbondTx} {existing : DelegationRecord} (address : Address) :
    Keeps (SameField (ProtocolState.nonceOf address)) (tx.rest env existing s) := by
  refine .bind (keeps_update fun _ _ _ => rfl) fun _ => .bind (keeps_modify fun t => ?_) fun _ =>
    .bind (keeps_lift _) fun _ => .bind (keeps_modify fun _ => rfl) fun _ => keeps_pure _
  split <;> rfl

theorem strays_applyUnbond {tx : UnbondTx} :
    Strays (applyUnbond env tx) s ↔ tx.Strands env s := by
  have hraise : ∀ delegator delegator', tx.lock env delegator = .ok delegator' →
      delegator'.nonce ≠ delegator.nonce := by
    intro delegator delegator' h
    obtain ⟨_, _, _, _, nonce, hnonce, rfl⟩ := unbondLock_ok.mp h
    exact add64_one_ne hnonce
  have happly : applyUnbond env tx = (do
      ensureSignature env (.unbond tx) tx.pubkey tx.delegator tx.signature
      ensurePositiveAmount tx.amount
      let s ← get
      let existing ← found s.store.delegations[(tx.delegator, tx.operator)]?
        (.delegationNotFound (tx.delegator, tx.operator))
      refuseUnless (tx.amount ≤ existing.amount)
        (.insufficientDelegation (tx.delegator, tx.operator) tx.amount existing.amount)
      accountMut tx.delegator fun delegator => tx.lock env delegator
      tx.rest env existing s) := rfl
  rw [happly]
  simp only [strays_lift_bind, strays_get_bind, ensurePositiveAmount, refuseUnless, ensure_eq_ok,
    exists_const, found, require_eq_ok, strays_after_nonce hraise (keeps_nonce_unbondRest _),
    refuses_unbondRest, unbondLock_ok]
  constructor
  · rintro ⟨_, hsigned, hamount, existing, hexisting, hcovered, delegator, _, hget,
      ⟨hnonce, hstaked, locked, hlocked, nonce, hadd, rfl⟩, hnode⟩
    exact ⟨hsigned, hamount, ⟨existing, hexisting, hcovered⟩, ⟨delegator, hget, hnonce, hstaked,
      adds128_iff.mpr ⟨locked, hlocked⟩, adds64_iff.mpr ⟨nonce, hadd⟩⟩, hnode⟩
  · rintro ⟨hsigned, hamount, ⟨existing, hexisting, hcovered⟩, ⟨delegator, hget, hnonce, hstaked,
      hlocks, hadds⟩, hnode⟩
    obtain ⟨locked, hlocked⟩ := adds128_iff.mp hlocks
    obtain ⟨nonce, hadd⟩ := adds64_iff.mp hadds
    exact ⟨(), hsigned, hamount, existing, hexisting, hcovered, delegator, _, hget,
      ⟨hnonce, hstaked, locked, hlocked, nonce, hadd, rfl⟩, hnode⟩

/-! ## Votes -/

/-- The vote is counted and the proposal it decides cannot be scheduled: the parameters are not
valid, or their epoch is not ahead, or the proposer's account does not hold the bond. -/
def VoteTx.Unschedulable (env : Env) (s : ProtocolState) (tx : VoteTx) : Prop :=
  ∃ proposal, s.store.paramsUpdateProposals[tx.proposalId]? = some proposal ∧
    proposal.state = .pending ∧
    (s.insertVote tx).approved env tx.proposalId proposal.kind = .ok true ∧
    (proposal.params.validate ≠ .ok () ∨ proposal.effectiveEpoch ≤ s.currentEpoch ∨
      ∀ account ∈ s.store.accounts[proposal.proposer]?, account.locked < proposal.bondAmount)

/-- The voter's side goes through and the scheduling that the vote triggers does not. -/
def VoteTx.Strands (env : Env) (s : ProtocolState) (tx : VoteTx) : Prop :=
  ensureSignature env (.vote tx) tx.pubkey tx.voter tx.signature = .ok () ∧ tx.votingPower ≠ 0 ∧
  s.store.votes[(tx.proposalId, tx.voter)]? = none ∧
  (∃ voter available, s.store.accounts[tx.voter]? = some voter ∧ voter.nonce = tx.nonce ∧
    voter.votingPower env = .ok available ∧ tx.votingPower ≤ available ∧
    env.narrow.Adds 64 voter.nonce 1) ∧
  tx.Unschedulable env s

theorem willing_votingPower (account : AccountState) : (account.votingPower env).Willing :=
  (willing_add128 _ _).bind fun _ => willing_add128 _ _

theorem willing_record (tally : Tally) (vote : GovernanceVoteRecord) :
    (tally.record env vote).Willing := by
  refine (willing_add32 _ _).bind fun _ => ?_
  cases vote.choice <;> exact (willing_add128 _ _).bind fun _ => Attempt.willing_pure _

/-- Counting the votes may overflow, but it does not refuse. -/
theorem willing_approved (t : ProtocolState) (proposalId : Hash32) (kind : GovernanceProposalKind) :
    (t.approved env proposalId kind).Willing := by
  refine (Attempt.Willing.foldlM willing_record _ _).bind fun tally => ?_
  split
  · exact Attempt.willing_pure _
  · refine (willing_add128 _ _).bind fun _ => (willing_add128 _ _).bind fun _ => ?_
    refine Attempt.Willing.bind ?_ fun total => ?_
    · refine Attempt.Willing.foldlM (fun sum account => ?_) _ _
      exact (willing_votingPower account).bind fun _ => willing_add128 _ _
    · split
      · exact Attempt.willing_pure _
      · split
        · exact Attempt.willing_pure _
        · exact (willing_add128 _ _).bind fun _ => Attempt.willing_pure _

/-- Only what an account holds counts for its voting power, not its nonce. -/
theorem approved_insertAccount (env : Env) {address : Address} {account : AccountState}
    (account' : AccountState) (h : s.store.accounts[address]? = some account)
    (hpower : account'.votingPower env = account.votingPower env) (proposalId : Hash32)
    (kind : GovernanceProposalKind) :
    (s.insertAccount address account').approved env proposalId kind =
      s.approved env proposalId kind := by
  have htotal : (s.insertAccount address account').totalVotingPower env = s.totalVotingPower env := by
    have hsum : ∀ t : ProtocolState, t.totalVotingPower env =
        (t.store.accounts.records.map (AccountState.votingPower env)).foldlM
          (fun sum power => do env.add128 sum (← power)) 0 := by
      intro t
      rw [List.foldlM_map]
      rfl
    rw [hsum, hsum]
    exact congrArg (fun powers => List.foldlM _ 0 powers) (map_records_insert _ h hpower)
  unfold ProtocolState.approved
  rw [htotal]
  rfl

theorem authorize_ok {tx : VoteTx} {voter voter' : AccountState} :
    tx.authorize env voter = .ok voter' ↔ voter.nonce = tx.nonce ∧
      ∃ available, voter.votingPower env = .ok available ∧ tx.votingPower ≤ available ∧
      ∃ nonce, env.add64 voter.nonce 1 = .ok nonce ∧ { voter with nonce } = voter' := by
  simp only [VoteTx.authorize, ensureNonce, refuseUnless, bind_eq_ok, ensure_eq_ok, exists_const,
    pure_eq_ok]

theorem unlock_refused (env : Env) {account : AccountState} {lockedAmount : ℕ} (creditAmount : ℕ) :
    (∃ error, unlockBondToBalance env account lockedAmount creditAmount =
      .error (.refused error)) ↔ account.locked < lockedAmount := by
  refine (Attempt.guard_refused ?_).trans Nat.not_le
  exact (willing_add128 _ _).bind fun _ => Attempt.willing_pure _

theorem refuses_unlock {address : Address} {lockedAmount creditAmount : ℕ} :
    Refuses (accountMut address fun account =>
      unlockBondToBalance env account lockedAmount creditAmount) s ↔
    ∀ account ∈ s.store.accounts[address]?, account.locked < lockedAmount := by
  rw [refuses_accountMut]
  exact forall_congr' fun account => imp_congr_right fun _ => unlock_refused env creditAmount

theorem ensureValidParams_ok {params : ProtocolParams} {u : Unit} :
    ensureValidParams params = .ok u ↔ params.validate = .ok () := by
  unfold ensureValidParams
  split <;> simp_all

theorem ensureValidParams_refused {params : ProtocolParams} :
    (∃ error, ensureValidParams params = .error (.refused error)) ↔ params.validate ≠ .ok () := by
  unfold ensureValidParams
  split <;> simp_all

theorem refuses_scheduleProtocolParamsUpdate {effectiveEpoch : ℕ} {params : ProtocolParams} :
    Refuses (scheduleProtocolParamsUpdate effectiveEpoch params) s ↔
      params.validate ≠ .ok () ∨ params.validate = .ok () ∧ effectiveEpoch ≤ s.currentEpoch := by
  rw [scheduleProtocolParamsUpdate, refuses_lift_bind, ensureValidParams_refused]
  simp only [ensureValidParams_ok, refuses_get_bind, refuses_lift_bind, refuseUnless,
    ensure_eq_error, ensure_eq_ok, Nat.not_lt, Failure.refused.injEq, exists_and_left, exists_eq',
    and_true, exists_const]
  have hwrite : ¬ Refuses (modify fun t => { t with store := { t.store with
      scheduledProtocolParams := t.store.scheduledProtocolParams.insert effectiveEpoch params } } :
      Transition Unit) s := by
    rintro ⟨error, s', h⟩
    cases h
  simp only [hwrite, and_false, or_false]

theorem scheduleProtocolParamsUpdate_ok {effectiveEpoch : ℕ} {params : ProtocolParams} {u : Unit}
    {t : ProtocolState} : (scheduleProtocolParamsUpdate effectiveEpoch params).run s = .ok u t ↔
      params.validate = .ok () ∧ s.currentEpoch < effectiveEpoch ∧
      t = { s with store := { s.store with scheduledProtocolParams :=
        s.store.scheduledProtocolParams.insert effectiveEpoch params } } := by
  rw [scheduleProtocolParamsUpdate, lift_bind_ok]
  simp only [ensureValidParams_ok, get_bind, lift_bind_ok, refuseUnless, ensure_eq_ok, exists_const]
  refine and_congr_right fun _ => and_congr_right fun _ => ?_
  constructor
  · intro h
    cases h
    rfl
  · rintro rfl
    rfl

/-- A proposal that is stored can be moved to another state. -/
theorem willing_setProposalState {proposalId : Hash32} {state : GovernanceProposalState}
    {proposal : GovernanceParamsUpdateProposalRecord}
    (hstored : s.store.paramsUpdateProposals[proposalId]? = some proposal) :
    ¬ Refuses (setProposalState proposalId state) s := by
  rw [setProposalState, refuses_update, hstored]
  rintro ⟨error, h⟩
  cases h

theorem refuses_scheduleApprovedProposal {proposalId : Hash32}
    {proposal : GovernanceParamsUpdateProposalRecord}
    (hstored : s.store.paramsUpdateProposals[proposalId]? = some proposal) :
    Refuses (scheduleApprovedProposal env proposalId proposal) s ↔
      proposal.params.validate ≠ .ok () ∨ proposal.effectiveEpoch ≤ s.currentEpoch ∨
        ∀ account ∈ s.store.accounts[proposal.proposer]?,
          account.locked < proposal.bondAmount := by
  have hrest : ∀ t : ProtocolState, t.store.paramsUpdateProposals = s.store.paramsUpdateProposals →
      (Refuses (do
        accountMut proposal.proposer fun account =>
          unlockBondToBalance env account proposal.bondAmount proposal.bondAmount
        setProposalState proposalId .scheduled) t ↔
      ∀ account ∈ t.store.accounts[proposal.proposer]?, account.locked < proposal.bondAmount) := by
    intro t hsame
    rw [refuses_bind_of_willing, refuses_unlock]
    intro _ u hunlocked
    obtain ⟨_, _, _, _, rfl⟩ := accountMut_ok.mp hunlocked
    exact willing_setProposalState (hsame ▸ hstored)
  rw [scheduleApprovedProposal, refuses_bind, refuses_scheduleProtocolParamsUpdate]
  constructor
  · rintro ((hinvalid | ⟨_, hlate⟩) | ⟨_, t, hscheduled, hrefuses⟩)
    · exact .inl hinvalid
    · exact .inr (.inl hlate)
    · obtain ⟨_, _, hwritten⟩ := scheduleProtocolParamsUpdate_ok.mp hscheduled
      have hsame : t.store.paramsUpdateProposals = s.store.paramsUpdateProposals := by rw [hwritten]
      have haccounts : t.store.accounts = s.store.accounts := by rw [hwritten]
      rw [hrest t hsame, haccounts] at hrefuses
      exact .inr (.inr hrefuses)
  · intro hcases
    by_cases hvalid : proposal.params.validate = .ok ()
    · by_cases hlate : proposal.effectiveEpoch ≤ s.currentEpoch
      · exact .inl (.inr ⟨hvalid, hlate⟩)
      · have hshort := (hcases.resolve_left (not_not_intro hvalid)).resolve_left hlate
        refine .inr ⟨(), _, scheduleProtocolParamsUpdate_ok.mpr
          ⟨hvalid, Nat.not_le.mp hlate, rfl⟩, ?_⟩
        refine (hrest _ ?_).mpr hshort
        rfl
    · exact .inl (.inl hvalid)

theorem refuses_tryScheduleParamsUpdateAfterVote {proposalId : Hash32} :
    Refuses (tryScheduleParamsUpdateAfterVote env proposalId) s ↔
      ∃ proposal, s.store.paramsUpdateProposals[proposalId]? = some proposal ∧
        proposal.state = .pending ∧ s.approved env proposalId proposal.kind = .ok true ∧
        (proposal.params.validate ≠ .ok () ∨ proposal.effectiveEpoch ≤ s.currentEpoch ∨
          ∀ account ∈ s.store.accounts[proposal.proposer]?,
            account.locked < proposal.bondAmount) := by
  rw [tryScheduleParamsUpdateAfterVote, refuses_get_bind]
  cases hstored : s.store.paramsUpdateProposals[proposalId]? with
  | none => simp [refuses_pure]
  | some proposal =>
      simp only [Option.some.injEq, exists_eq_left']
      by_cases hpending : proposal.state = .pending
      · have hcount : ¬ ∃ error, s.approved env proposalId proposal.kind = .error (.refused error) :=
          fun ⟨error, h⟩ => willing_approved s proposalId proposal.kind error h
        rw [if_pos hpending, refuses_lift_bind, or_iff_right hcount, and_iff_right hpending]
        constructor
        · rintro ⟨approved, hcounted, hrefuses⟩
          cases approved with
          | true => exact ⟨hcounted, (refuses_scheduleApprovedProposal hstored).mp hrefuses⟩
          | false => exact absurd hrefuses (refuses_pure _).mp
        · rintro ⟨hcounted, hcases⟩
          exact ⟨true, hcounted, (refuses_scheduleApprovedProposal hstored).mpr hcases⟩
      · simp [hpending, refuses_pure]

theorem keeps_nonce_unlock (env : Env) (address other : Address) (lockedAmount creditAmount : ℕ) :
    Keeps (SameField (ProtocolState.nonceOf address)) (accountMut other fun account =>
      unlockBondToBalance env account lockedAmount creditAmount) := by
  refine keeps_nonce_accountMut fun account account' h => ?_
  simp only [unlockBondToBalance, bind_eq_ok, pure_eq_ok] at h
  obtain ⟨_, _, _, _, rfl⟩ := h
  rfl

theorem keeps_nonce_tryScheduleParamsUpdateAfterVote (env : Env) (address : Address)
    (proposalId : Hash32) :
    Keeps (SameField (ProtocolState.nonceOf address))
      (tryScheduleParamsUpdateAfterVote env proposalId) := by
  refine keeps_get.bind fun t => ?_
  split
  · exact keeps_pure _
  · split
    · refine (keeps_lift _).bind fun approved => ?_
      split
      · have hschedule : ∀ effectiveEpoch params, Keeps (SameField (ProtocolState.nonceOf address))
            (scheduleProtocolParamsUpdate effectiveEpoch params) := fun _ _ =>
          (keeps_lift _).bind fun _ => keeps_get.bind fun _ => (keeps_lift _).bind fun _ =>
            keeps_modify fun _ => rfl
        exact (hschedule _ _).bind fun _ => (keeps_nonce_unlock env address _ _ _).bind fun _ =>
          keeps_update fun _ _ _ => rfl
      · exact keeps_pure _
    · exact keeps_pure _

theorem strays_applyVote {tx : VoteTx} : Strays (applyVote env tx) s ↔ tx.Strands env s := by
  have hraise : ∀ voter voter', tx.authorize env voter = .ok voter' →
      voter'.nonce ≠ voter.nonce := by
    intro voter voter' h
    obtain ⟨_, _, _, _, nonce, hnonce, rfl⟩ := authorize_ok.mp h
    exact add64_one_ne hnonce
  have hkeeps := (keeps_modify (ε := TransitionError)
      (R := SameField (ProtocolState.nonceOf tx.voter))
      (h := fun t => t.insertVote tx) fun _ => rfl).bind fun _ =>
    (keeps_nonce_tryScheduleParamsUpdateAfterVote env tx.voter tx.proposalId).bind fun _ =>
      keeps_pure (TransitionEffect.voteRecorded tx.proposalId tx.voter tx.votingPower)
  have hrest : ∀ t : ProtocolState, Refuses (do
      modify (·.insertVote tx)
      tryScheduleParamsUpdateAfterVote env tx.proposalId
      return TransitionEffect.voteRecorded tx.proposalId tx.voter tx.votingPower) t ↔
      tx.Unschedulable env t := by
    intro t
    rw [refuses_modify_bind, refuses_bind_of_willing fun _ _ _ => (refuses_pure _).mp,
      refuses_tryScheduleParamsUpdateAfterVote]
    rfl
  -- the voter's account is rewritten with a higher nonce, which the scheduling does not read
  have hunschedulable : ∀ {voter : AccountState} {nonce : ℕ},
      s.store.accounts[tx.voter]? = some voter →
      (tx.Unschedulable env (s.insertAccount tx.voter { voter with nonce }) ↔
        tx.Unschedulable env s) := by
    intro voter nonce hget
    refine exists_congr fun proposal => and_congr_right fun _ => and_congr_right fun _ => ?_
    rw [locked_insertAccount { voter with nonce } hget rfl]
    refine and_congr_left fun _ => ?_
    have hpower := approved_insertAccount (s := s.insertVote tx) env { voter with nonce } hget rfl
      tx.proposalId proposal.kind
    exact Eq.congr_left hpower
  rw [applyVote]
  simp only [strays_lift_bind, strays_get_bind, ensurePositiveAmount, refuseUnless, ensure_eq_ok,
    exists_const, strays_after_nonce hraise hkeeps, hrest, authorize_ok]
  constructor
  · rintro ⟨_, hsigned, hpower, hfresh, voter, _, hget,
      ⟨hnonce, available, havailable, hcovered, nonce, hadd, rfl⟩, hfails⟩
    exact ⟨hsigned, hpower, hfresh, ⟨voter, available, hget, hnonce, havailable, hcovered,
      adds64_iff.mpr ⟨nonce, hadd⟩⟩, (hunschedulable hget).mp hfails⟩
  · rintro ⟨hsigned, hpower, hfresh, ⟨voter, available, hget, hnonce, havailable, hcovered,
      hadds⟩, hfails⟩
    obtain ⟨nonce, hadd⟩ := adds64_iff.mp hadds
    exact ⟨(), hsigned, hpower, hfresh, voter, _, hget,
      ⟨hnonce, available, havailable, hcovered, nonce, hadd, rfl⟩, (hunschedulable hget).mpr hfails⟩

/-! ## Resolutions -/

/-- The kind of challenge a resolution upholds. -/
def ChallengeResolution.kind : ChallengeResolution → Option ChallengeKind
  | .badBatch .. => some .badBatch
  | .omission .. => some .omission
  | .badAggregate .. => some .badAggregate
  | .badReward .. => some .badReward
  | .badStorage .. => some .badStorage
  | .rejected => none

/-- The resolution does not fit the challenge, or the target or the challenger does not hold what it
takes. -/
def ChallengeResolution.Unsettled (env : Env) (s : ProtocolState) (resolution : ChallengeResolution)
    (challenge : Challenge) : Prop :=
  resolution.kind ≠ some challenge.kind ∨ resolution.amounts.1 < resolution.amounts.2 ∨
  ∀ target ∈ challenge.targetNode, ∀ node ∈ s.store.nodes[target]?,
    node.bond < resolution.amounts.1 ∨
    env.narrow.Adds 32 node.reputation.challengeableFaults 1 ∧
      ∀ account ∈ s.store.accounts[challenge.challenger]?,
        env.wide.Adds 128 challenge.bond resolution.amounts.2 ∧ account.locked < challenge.bond

/-- The challenge is taken off the open ones and cannot be settled. -/
def ChallengeResolution.Strands (env : Env) (s : ProtocolState) (challengeId : Hash32)
    (resolution : ChallengeResolution) : Prop :=
  ∃ challenge, s.store.openChallenges[challengeId]? = some challenge ∧
    if resolution = .rejected then
      ∀ account ∈ s.store.accounts[challenge.challenger]?, account.locked < challenge.bond
    else resolution.Unsettled env s challenge

theorem refuses_burn {address : Address} {amount : ℕ} :
    Refuses (accountMut address fun account => burnLockedBond account amount) s ↔
      ∀ account ∈ s.store.accounts[address]?, account.locked < amount := by
  rw [refuses_accountMut]
  refine forall_congr' fun account => imp_congr_right fun _ => ?_
  exact (Attempt.guard_refused (Attempt.willing_pure _)).trans Nat.not_le

theorem refuses_rejectChallenge {challenge : Challenge} :
    Refuses (rejectChallenge challenge) s ↔
      ∀ account ∈ s.store.accounts[challenge.challenger]?, account.locked < challenge.bond := by
  rw [rejectChallenge, refuses_bind_of_willing, refuses_burn]
  rintro _ t - hrefuses
  rw [refuses_modify_bind] at hrefuses
  exact (refuses_pure _).mp hrefuses

theorem resolutionDetails_refused {challengeId : Hash32} {kind : ChallengeKind}
    {resolution : ChallengeResolution} (hupheld : resolution ≠ .rejected) :
    (∃ error, resolutionDetails challengeId kind resolution = .error (.refused error)) ↔
      resolution.kind ≠ some kind := by
  cases resolution with
  | rejected => exact absurd rfl hupheld
  | _ =>
      simp only [ChallengeResolution.kind, ne_eq, Option.some.injEq]
      exact (Attempt.guard_refused (Attempt.willing_pure _)).trans (not_congr eq_comm)

theorem resolutionDetails_ok (challengeId : Hash32) {kind : ChallengeKind}
    {resolution : ChallengeResolution} (hupheld : resolution ≠ .rejected) :
    (∃ details, resolutionDetails challengeId kind resolution = .ok details) ↔
      resolution.kind = some kind := by
  cases resolution with
  | rejected => exact absurd rfl hupheld
  | _ =>
      simp only [resolutionDetails, ChallengeResolution.kind, refuseUnless, bind_eq_ok, ensure_eq_ok,
        exists_const, pure_eq_ok, exists_and_left, exists_eq', and_true, Option.some.injEq]
      exact eq_comm

/-- What upholding a challenge does after the target was slashed. -/
def Challenge.payOut (env : Env) (challenge : Challenge) (resolution : ChallengeResolution)
    (details : ChallengeResolutionDetails) : Transition TransitionEffect := do
  accountMut challenge.challenger fun account => do
    let creditAmount ← env.add128 challenge.bond resolution.amounts.2
    unlockBondToBalance env account challenge.bond creditAmount
  modify (·.insertResolution challenge .succeeded resolution.amounts.1 resolution.amounts.2 details)
  return .challengeResolved challenge.challengeId challenge.kind resolution.amounts.1
    resolution.amounts.2

/-- What upholding a challenge does to a target. -/
def ChallengeResolution.slash (env : Env) (resolution : ChallengeResolution) (node : NodeRegistry) :
    Attempt TransitionError NodeRegistry := do
  ensureBond node.nodeId node.bond resolution.amounts.1
  let challengeableFaults ← env.add32 node.reputation.challengeableFaults 1
  return { node with
    bond := node.bond - resolution.amounts.1
    reputation := { node.reputation with challengeableFaults } }

theorem upholdChallenge_eq (env : Env) (challenge : Challenge) (resolution : ChallengeResolution) :
    upholdChallenge env challenge resolution = (do
      let details ← resolutionDetails challenge.challengeId challenge.kind resolution
      refuseUnless (resolution.amounts.2 ≤ resolution.amounts.1)
        (.invalidChallengeReward resolution.amounts.1 resolution.amounts.2)
      let target ← found challenge.targetNode (.missingChallengeTarget challenge.challengeId)
      nodeMut target fun node => resolution.slash env node
      challenge.payOut env resolution details) := rfl

theorem refuses_slash {target : NodeId} {resolution : ChallengeResolution} :
    Refuses (nodeMut target fun node => resolution.slash env node) s ↔
      ∀ node ∈ s.store.nodes[target]?, node.bond < resolution.amounts.1 := by
  rw [refuses_nodeMut]
  refine forall_congr' fun node => imp_congr_right fun _ => ?_
  refine (Attempt.guard_refused ?_).trans Nat.not_le
  exact (willing_add32 _ _).bind fun _ => Attempt.willing_pure _

theorem slash_ok {resolution : ChallengeResolution} {node node' : NodeRegistry} :
    resolution.slash env node = .ok node' ↔ resolution.amounts.1 ≤ node.bond ∧
      ∃ challengeableFaults,
      env.add32 node.reputation.challengeableFaults 1 = .ok challengeableFaults ∧
      { node with
        bond := node.bond - resolution.amounts.1
        reputation := { node.reputation with challengeableFaults } } = node' := by
  simp only [ChallengeResolution.slash, ensureBond, refuseUnless, bind_eq_ok, ensure_eq_ok,
    exists_const, pure_eq_ok]

theorem refuses_payOut {challenge : Challenge} {resolution : ChallengeResolution}
    {details : ChallengeResolutionDetails} :
    Refuses (challenge.payOut env resolution details) s ↔
      ∀ account ∈ s.store.accounts[challenge.challenger]?,
        env.wide.Adds 128 challenge.bond resolution.amounts.2 ∧ account.locked < challenge.bond := by
  rw [Challenge.payOut, refuses_bind_of_willing, refuses_accountMut]
  · refine forall_congr' fun account => imp_congr_right fun _ => ?_
    rw [adds128_iff]
    constructor
    · rintro ⟨error, hrefused⟩
      rcases bind_eq_error.mp hrefused with hsum | ⟨credit, hsum, hunlock⟩
      · exact absurd hsum (willing_add128 _ _ error)
      · exact ⟨⟨credit, hsum⟩, (unlock_refused env credit).mp ⟨error, hunlock⟩⟩
    · rintro ⟨⟨credit, hsum⟩, hshort⟩
      obtain ⟨error, hunlock⟩ := (unlock_refused env credit).mpr hshort
      exact ⟨error, bind_eq_error.mpr (.inr ⟨credit, hsum, hunlock⟩)⟩
  · rintro _ u - hrefuses
    rw [refuses_modify_bind] at hrefuses
    exact (refuses_pure _).mp hrefuses

theorem nodeMut_ok {nodeId : NodeId} {u : Unit}
    {body : NodeRegistry → Attempt TransitionError NodeRegistry} :
    (nodeMut nodeId body).run s = .ok u s' ↔ ∃ node node',
      s.store.nodes[nodeId]? = some node ∧ body node = .ok node' ∧
      s' = s.insertNode nodeId node' := by
  rw [nodeMut, update_ok]
  simp only [found, bind_eq_ok, require_eq_ok]
  constructor
  · rintro ⟨node', ⟨node, hget, hbody⟩, rfl⟩
    exact ⟨node, node', hget, hbody, rfl⟩
  · rintro ⟨node, node', hget, hbody, rfl⟩
    exact ⟨node', ⟨node, hget, hbody⟩, rfl⟩

theorem adds32_iff {a b : ℕ} : env.narrow.Adds 32 a b ↔ ∃ c, env.add32 a b = .ok c := by
  simp only [Overflow.adds_iff, Env.add32, require_eq_ok]

/-- The target is slashed first; the challenger is paid in the state in which that worked. -/
theorem refuses_settle {challenge : Challenge} {resolution : ChallengeResolution}
    {details : ChallengeResolutionDetails} {target : NodeId} :
    Refuses (do
      nodeMut target fun node => resolution.slash env node
      challenge.payOut env resolution details) s ↔
    ∀ node ∈ s.store.nodes[target]?, node.bond < resolution.amounts.1 ∨
      env.narrow.Adds 32 node.reputation.challengeableFaults 1 ∧
        ∀ account ∈ s.store.accounts[challenge.challenger]?,
          env.wide.Adds 128 challenge.bond resolution.amounts.2 ∧
            account.locked < challenge.bond := by
  rw [refuses_bind, refuses_slash]
  constructor
  · rintro (hshort | ⟨_, t, hslashed, hrefuses⟩) node hnode
    · exact .inl (hshort node hnode)
    · obtain ⟨_, _, hget, hbody, rfl⟩ := nodeMut_ok.mp hslashed
      cases hget.symm.trans hnode
      obtain ⟨_, faults, hfaults, _⟩ := slash_ok.mp hbody
      rw [refuses_payOut] at hrefuses
      exact .inr ⟨adds32_iff.mpr ⟨faults, hfaults⟩, hrefuses⟩
  · intro hall
    cases hget : s.store.nodes[target]? with
    | none => exact .inl (by simp)
    | some node =>
        by_cases hshort : node.bond < resolution.amounts.1
        · refine .inl fun other hother => ?_
          cases hother
          exact hshort
        · obtain ⟨hadds, hunpaid⟩ := (hall node hget).resolve_left hshort
          obtain ⟨faults, hfaults⟩ := adds32_iff.mp hadds
          have hslash := slash_ok.mpr ⟨Nat.not_lt.mp hshort, faults, hfaults, rfl⟩
          exact .inr ⟨(), _, nodeMut_ok.mpr ⟨node, _, hget, hslash, rfl⟩, refuses_payOut.mpr hunpaid⟩

theorem refuses_upholdChallenge {challenge : Challenge} {resolution : ChallengeResolution}
    (hupheld : resolution ≠ .rejected) :
    Refuses (upholdChallenge env challenge resolution) s ↔
      resolution.Unsettled env s challenge := by
  rw [upholdChallenge_eq, refuses_lift_bind, resolutionDetails_refused hupheld]
  unfold ChallengeResolution.Unsettled
  by_cases hkind : resolution.kind = some challenge.kind
  · obtain ⟨details, hdetails⟩ :=
      (resolutionDetails_ok challenge.challengeId hupheld).mpr hkind
    have hfunds : ∀ rest : Unit → Transition TransitionEffect, Refuses (liftM (refuseUnless
        (resolution.amounts.2 ≤ resolution.amounts.1)
        (.invalidChallengeReward resolution.amounts.1 resolution.amounts.2)) >>= rest) s ↔
        resolution.amounts.1 < resolution.amounts.2 ∨ Refuses (rest ()) s := by
      intro rest
      rw [refuses_lift_bind]
      simp only [refuseUnless, ensure_eq_error, ensure_eq_ok, Failure.refused.injEq, exists_and_left,
        exists_eq', and_true, Nat.not_le]
      by_cases hless : resolution.amounts.1 < resolution.amounts.2
      · simp [hless]
      · simp only [hless, Nat.not_lt.mp hless, true_and, false_or]
        refine ⟨?_, fun hrefuses => ⟨(), hrefuses⟩⟩
        rintro ⟨_, hrefuses⟩
        exact hrefuses
    have htarget : ∀ rest : NodeId → Transition TransitionEffect, Refuses (liftM (found
        challenge.targetNode (.missingChallengeTarget challenge.challengeId)) >>= rest) s ↔
        ∀ target ∈ challenge.targetNode, Refuses (rest target) s := by
      intro rest
      rw [refuses_lift_bind]
      cases challenge.targetNode <;> simp [found, require]
    simp only [hdetails, Except.ok.injEq, exists_eq_left', hfunds, htarget, refuses_settle]
  · simp [hkind]

theorem keeps_openChallenges_settlement (challenge : Challenge) (resolution : ChallengeResolution) :
    Keeps (SameField fun t : ProtocolState => t.store.openChallenges)
      (if resolution = .rejected then rejectChallenge challenge
        else upholdChallenge env challenge resolution) := by
  split
  · exact .bind (keeps_update fun _ _ _ => rfl) fun _ => .bind (keeps_modify fun _ => rfl) fun _ =>
      keeps_pure _
  · exact .bind (keeps_lift _) fun _ => .bind (keeps_lift _) fun _ => .bind (keeps_lift _) fun _ =>
      .bind (keeps_update fun _ _ _ => rfl) fun _ => .bind (keeps_update fun _ _ _ => rfl) fun _ =>
        .bind (keeps_modify fun _ => rfl) fun _ => keeps_pure _

theorem strays_resolveChallenge {challengeId : Hash32} {resolution : ChallengeResolution} :
    Strays (resolveChallenge env challengeId resolution) s ↔
      resolution.Strands env s challengeId := by
  rw [resolveChallenge, strays_get_bind, strays_lift_bind]
  simp only [found, require_eq_ok]
  refine exists_congr fun challenge => and_congr_right fun hopen => ?_
  have hremoved : (s.removeOpenChallenge challengeId).store.openChallenges ≠
      s.store.openChallenges := by
    intro hsame
    have hnone : (s.store.openChallenges.erase challengeId)[challengeId]? = none := by
      rw [get_erase, if_pos rfl]
    change s.store.openChallenges.erase challengeId = _ at hsame
    rw [hsame, hopen] at hnone
    cases hnone
  refine (strays_modify_bind (σ := ProtocolState)
    (keeps_openChallenges_settlement challenge resolution) hremoved).trans ?_
  split
  · exact refuses_rejectChallenge
  · next hupheld => exact refuses_upholdChallenge hupheld

/-! ## Finalization -/

/-- Every proposal that expires is stored, and every proposer's lock covers all the bonds that
expire at once. -/
def ProtocolState.Covers (s : ProtocolState)
    (proposals : List GovernanceParamsUpdateProposalRecord) : Prop :=
  ∀ proposal ∈ proposals, s.store.paramsUpdateProposals[proposal.proposalId]? ≠ none ∧
    ∃ account, s.store.accounts[proposal.proposer]? = some account ∧
      proposalBonds (proposals.filter (·.proposer = proposal.proposer)) ≤ account.locked

/-- The epoch is finalized and the proposals that expire with it cannot be burnt. -/
def ProtocolState.StrandsFinalization (env : Env) (s : ProtocolState) (epochId : ℕ) : Prop :=
  s.store.finalizedEpochs[epochId]? = none ∧
  (∃ commit, s.store.epochCommits[epochId]? = some commit ∧
    commit.challengeDeadlineHeight < s.height) ∧
  s.hasOpenChallengesForEpoch epochId = false ∧ s.currentEpoch ≤ epochId ∧
  ∃ next, env.add64 epochId 1 = .ok next ∧ ¬ s.Covers (s.expiring epochId next)

theorem setProposalState_ok {proposalId : Hash32} {state : GovernanceProposalState} {u : Unit} :
    (setProposalState proposalId state).run s = .ok u s' ↔ ∃ proposal,
      s.store.paramsUpdateProposals[proposalId]? = some proposal ∧
      s' = s.insertParamsUpdateProposal proposalId { proposal with state } := by
  rw [setProposalState, update_ok]
  simp only [found, require_eq_ok]

theorem expireProposal_ok {proposal : GovernanceParamsUpdateProposalRecord} {u : Unit} :
    (expireProposal proposal).run s = .ok u s' ↔ ∃ account record,
      s.store.accounts[proposal.proposer]? = some account ∧ proposal.bondAmount ≤ account.locked ∧
      s.store.paramsUpdateProposals[proposal.proposalId]? = some record ∧
      s' = (s.insertAccount proposal.proposer
        { account with locked := account.locked - proposal.bondAmount }).insertParamsUpdateProposal
          proposal.proposalId { record with state := .expired } := by
  rw [expireProposal, bind_ok]
  simp only [accountMut_ok, setProposalState_ok, burnLockedBond, refuseUnless, bind_eq_ok,
    ensure_eq_ok, exists_const, pure_eq_ok]
  constructor
  · rintro ⟨_, ⟨account, _, hget, ⟨hcovered, rfl⟩, rfl⟩, record, hrecord, rfl⟩
    exact ⟨account, record, hget, hcovered, hrecord, rfl⟩
  · rintro ⟨account, record, hget, hcovered, hrecord, rfl⟩
    exact ⟨_, ⟨account, _, hget, ⟨hcovered, rfl⟩, rfl⟩, record, hrecord, rfl⟩

/-- Expiring a proposal involves no addition, so it goes through or it refuses. -/
theorem refuses_or_expires (proposal : GovernanceParamsUpdateProposalRecord) (s : ProtocolState) :
    Refuses (expireProposal proposal) s ∨ ∃ t, (expireProposal proposal).run s = .ok () t := by
  by_cases hburn : Refuses (accountMut proposal.proposer fun account =>
      burnLockedBond account proposal.bondAmount) s
  · exact .inl (refuses_bind.mpr (.inl hburn))
  · rw [refuses_burn] at hburn
    push Not at hburn
    obtain ⟨account, hget, hcovered⟩ := hburn
    cases hrecord : s.store.paramsUpdateProposals[proposal.proposalId]? with
    | some record =>
        exact .inr ⟨_, expireProposal_ok.mpr ⟨account, record, hget, hcovered, hrecord, rfl⟩⟩
    | none =>
        refine .inl (refuses_bind.mpr (.inr ⟨(), _, accountMut_ok.mpr ⟨account, _, hget,
          bind_eq_ok.mpr ⟨(), ensure_of hcovered, rfl⟩, rfl⟩, ?_⟩))
        rw [setProposalState, refuses_update]
        exact ⟨_, congrArg (fun x => found x _) hrecord⟩

theorem proposalBonds_filter_cons (address : Address)
    (proposal : GovernanceParamsUpdateProposalRecord)
    (proposals : List GovernanceParamsUpdateProposalRecord) :
    proposalBonds ((proposal :: proposals).filter (·.proposer = address)) =
      (if proposal.proposer = address then proposal.bondAmount else 0) +
        proposalBonds (proposals.filter (·.proposer = address)) := by
  by_cases h : proposal.proposer = address <;> simp [proposalBonds, h]

/-- Expiring one proposal takes its bond off the lock that covers the others. -/
theorem covers_cons {proposal : GovernanceParamsUpdateProposalRecord}
    {proposals : List GovernanceParamsUpdateProposalRecord} {t : ProtocolState}
    (hexpired : (expireProposal proposal).run s = .ok () t) :
    s.Covers (proposal :: proposals) ↔ t.Covers proposals := by
  obtain ⟨account, record, hget, hcovered, hrecord, rfl⟩ := expireProposal_ok.mp hexpired
  generalize hrest : (s.insertAccount proposal.proposer
    { account with locked := account.locked - proposal.bondAmount }).insertParamsUpdateProposal
      proposal.proposalId { record with state := .expired } = t
  have haccounts : ∀ address : Address, t.store.accounts[address]? =
      if proposal.proposer = address then
        some { account with locked := account.locked - proposal.bondAmount }
      else s.store.accounts[address]? := by
    intro address
    rw [← hrest]
    exact get_insert _ _ _ _
  have hproposals : ∀ proposalId : Hash32, t.store.paramsUpdateProposals[proposalId]? ≠ none ↔
      s.store.paramsUpdateProposals[proposalId]? ≠ none := by
    intro proposalId
    rw [← hrest]
    change (s.store.paramsUpdateProposals.insert _ _)[proposalId]? ≠ none ↔ _
    rw [get_insert]
    split
    · next hsame => simp [← hsame, hrecord]
    · exact Iff.rfl
  constructor
  · intro hall other hother
    obtain ⟨hstored, holder, hholder, hbonds⟩ := hall other (List.mem_cons_of_mem _ hother)
    refine ⟨(hproposals _).mpr hstored, ?_⟩
    rw [haccounts]
    rw [proposalBonds_filter_cons] at hbonds
    split at hbonds
    · next hsame =>
        rw [← hsame, hget] at hholder
        cases hholder
        refine ⟨_, if_pos hsame, ?_⟩
        change _ ≤ account.locked - proposal.bondAmount
        omega
    · next hother => exact ⟨holder, (if_neg hother).trans hholder, by omega⟩
  · intro hall other hother
    rw [proposalBonds_filter_cons]
    rcases List.mem_cons.mp hother with rfl | hmem
    · refine ⟨by simp [hrecord], account, hget, ?_⟩
      rw [if_pos rfl]
      -- the others of the same proposer are covered by what is left of the lock
      by_cases hnone : proposals.filter (·.proposer = other.proposer) = []
      · rw [hnone]
        simpa [proposalBonds] using hcovered
      · obtain ⟨next, hnext⟩ := List.exists_mem_of_ne_nil _ hnone
        rw [List.mem_filter, decide_eq_true_eq] at hnext
        obtain ⟨_, holder, hholder, hbonds⟩ := hall next hnext.1
        rw [haccounts, if_pos hnext.2.symm] at hholder
        cases hholder
        rw [hnext.2] at hbonds
        change _ ≤ account.locked - other.bondAmount at hbonds
        omega
    · obtain ⟨hstored, holder, hholder, hbonds⟩ := hall other hmem
      refine ⟨(hproposals _).mp hstored, ?_⟩
      rw [haccounts] at hholder
      split at hholder
      · next hsame =>
          cases hholder
          refine ⟨account, hsame ▸ hget, ?_⟩
          rw [if_pos hsame]
          change _ ≤ account.locked - proposal.bondAmount at hbonds
          omega
      · next hne =>
          refine ⟨holder, hholder, ?_⟩
          rw [if_neg hne]
          omega

theorem expires_of_covers {proposal : GovernanceParamsUpdateProposalRecord}
    {proposals : List GovernanceParamsUpdateProposalRecord}
    (h : s.Covers (proposal :: proposals)) : ∃ t, (expireProposal proposal).run s = .ok () t := by
  obtain ⟨hstored, account, hget, hbonds⟩ := h proposal List.mem_cons_self
  rw [proposalBonds_filter_cons, if_pos rfl] at hbonds
  obtain ⟨record, hrecord⟩ := Option.ne_none_iff_exists'.mp hstored
  exact ⟨_, expireProposal_ok.mpr ⟨account, record, hget, by omega, hrecord, rfl⟩⟩

theorem refuses_expireProposals (proposals : List GovernanceParamsUpdateProposalRecord)
    (s : ProtocolState) : Refuses (proposals.forM expireProposal) s ↔ ¬ s.Covers proposals := by
  induction proposals generalizing s with
  | nil =>
      refine iff_of_false (refuses_pure _).mp (not_not_intro ?_)
      intro proposal hproposal
      cases hproposal
  | cons proposal proposals ih =>
      change Refuses (expireProposal proposal >>= fun _ => proposals.forM expireProposal) s ↔ _
      rcases refuses_or_expires proposal s with hrefuses | ⟨t, hexpired⟩
      · refine iff_of_true (refuses_bind.mpr (.inl hrefuses)) fun hcovers => ?_
        obtain ⟨t, hexpires⟩ := expires_of_covers hcovers
        exact not_refuses_of_ok hexpires hrefuses
      · rw [refuses_bind_of_ok hexpired, covers_cons hexpired, ih t]

theorem covers_congr {t : ProtocolState}
    {proposals : List GovernanceParamsUpdateProposalRecord}
    (haccounts : t.store.accounts = s.store.accounts)
    (hproposals : ∀ proposalId : Hash32, t.store.paramsUpdateProposals[proposalId]? ≠ none ↔
      s.store.paramsUpdateProposals[proposalId]? ≠ none) :
    t.Covers proposals ↔ s.Covers proposals := by
  unfold ProtocolState.Covers
  simp only [haccounts, hproposals]

/-- Installing parameters moves proposals to another state, but loses none. -/
theorem proposals_activateScheduledProtocolParams (s : ProtocolState) (proposalId : Hash32) :
    s.activateScheduledProtocolParams.store.paramsUpdateProposals[proposalId]? ≠ none ↔
      s.store.paramsUpdateProposals[proposalId]? ≠ none := by
  have hsame := keeps_activateScheduledProtocolParams
    (R := SameField fun t : ProtocolState => t.store.paramsUpdateProposals[proposalId]?.isSome)
    (fun _ _ _ => rfl) (fun t other record hrecord => ?_) s
  · rw [← Option.isSome_iff_ne_none, ← Option.isSome_iff_ne_none]
    exact Bool.eq_iff_iff.mp hsame
  · change (t.store.paramsUpdateProposals.insert _ _)[proposalId]?.isSome =
      t.store.paramsUpdateProposals[proposalId]?.isSome
    rw [get_insert]
    split
    · next heq =>
        rw [← heq, hrecord]
        rfl
    · rfl

theorem refuses_enterEpoch {next : ℕ} :
    Refuses (enterEpoch next) s ↔ ¬ s.Covers { s with
      currentEpoch := next }.activateScheduledProtocolParams.staleParamsUpdateProposals := by
  rw [enterEpoch, refuses_modify_bind, expireStaleParamsUpdateProposals, refuses_get_bind,
    refuses_expireProposals]
  refine not_congr (covers_congr ?_ ?_)
  · exact keeps_activateScheduledProtocolParams
      (R := SameField fun t : ProtocolState => t.store.accounts)
      (fun _ _ _ => rfl) (fun _ _ _ _ => rfl) { s with currentEpoch := next }
  · exact proposals_activateScheduledProtocolParams { s with currentEpoch := next }

theorem refuses_advanceEpoch {epochId : ℕ} :
    Refuses (advanceEpoch env s.currentEpoch epochId) (s.markEpochFinalized epochId) ↔
      s.currentEpoch ≤ epochId ∧
      ∃ next, env.add64 epochId 1 = .ok next ∧ ¬ s.Covers (s.expiring epochId next) := by
  unfold advanceEpoch ProtocolState.expiring
  split
  · next hcurrent =>
      rw [refuses_lift_bind, and_iff_right hcurrent, or_iff_right]
      · refine exists_congr fun next => and_congr_right fun _ => refuses_enterEpoch.trans ?_
        exact not_congr (covers_congr rfl fun _ => Iff.rfl)
      · rintro ⟨error, hsum⟩
        exact willing_add64 _ _ error hsum
  · next hpast =>
      rw [refuses_pure]
      simp [hpast]

theorem keeps_finalizedEpochs_advanceEpoch (env : Env) (currentEpoch epochId : ℕ) :
    Keeps (SameField fun t : ProtocolState => t.store.finalizedEpochs)
      (advanceEpoch env currentEpoch epochId) := by
  unfold advanceEpoch
  split
  · refine .bind (keeps_lift _) fun next => .bind (keeps_modify fun t => ?_) fun _ =>
      .bind keeps_get fun _ => .forM (fun proposal => ?_) _
    · exact keeps_activateScheduledProtocolParams
        (R := SameField fun t : ProtocolState => t.store.finalizedEpochs)
        (fun _ _ _ => rfl) (fun _ _ _ _ => rfl) { t with currentEpoch := next }
    · exact .bind (keeps_update fun _ _ _ => rfl) fun _ => keeps_update fun _ _ _ => rfl
  · exact keeps_pure _

theorem strays_finalizeEpoch {epochId : ℕ} :
    Strays (finalizeEpoch env epochId) s ↔ s.StrandsFinalization env epochId := by
  have hmarked : s.store.finalizedEpochs[epochId]? = none →
      (s.markEpochFinalized epochId).store.finalizedEpochs ≠ s.store.finalizedEpochs := by
    intro hopen hsame
    have hget : (s.store.finalizedEpochs.insert epochId ())[epochId]? = some () :=
      get_insert_self _ _ _
    change s.store.finalizedEpochs.insert epochId () = _ at hsame
    rw [hsame, hopen] at hget
    cases hget
  have hrest : ∀ hopen : s.store.finalizedEpochs[epochId]? = none, Strays (do
      modify (·.markEpochFinalized epochId)
      advanceEpoch env s.currentEpoch epochId
      return TransitionEffect.epochFinalized epochId) s ↔ s.currentEpoch ≤ epochId ∧
      ∃ next, env.add64 epochId 1 = .ok next ∧ ¬ s.Covers (s.expiring epochId next) := by
    intro hopen
    have hkeeps := (keeps_finalizedEpochs_advanceEpoch env s.currentEpoch epochId).bind fun _ =>
      keeps_pure (TransitionEffect.epochFinalized epochId)
    refine (strays_modify_bind (σ := ProtocolState) hkeeps (hmarked hopen)).trans ?_
    rw [refuses_bind_of_willing fun _ _ _ => (refuses_pure _).mp, refuses_advanceEpoch]
  rw [finalizeEpoch, strays_get_bind]
  simp only [strays_lift_bind, refuseUnless, ensure_eq_ok, found, require_eq_ok, exists_const]
  constructor
  · rintro ⟨hopen, commit, hcommit, helapsed, hnone, hstrays⟩
    obtain ⟨hcurrent, hfails⟩ := (hrest hopen).mp hstrays
    exact ⟨hopen, ⟨commit, hcommit, helapsed⟩, hnone, hcurrent, hfails⟩
  · rintro ⟨hopen, ⟨commit, hcommit, helapsed⟩, hnone, hcurrent, hfails⟩
    exact ⟨hopen, commit, hcommit, helapsed, hnone, (hrest hopen).mpr ⟨hcurrent, hfails⟩⟩

/-! ## Which calls are atomic -/

/-- The transaction is one of the three kinds that write before their last check, in a state in
which that check fails. -/
def Transaction.Strands (env : Env) (s : ProtocolState) : Transaction → Prop
  | .transfer tx => tx.Strands env s
  | .unbond tx => tx.Strands env s
  | .vote tx => tx.Strands env s
  | _ => False

theorem failed_calls_atomic (env : Env) (s : ProtocolState) :
    (∀ tx : Transaction, Atomic (tx.apply env) s ↔ ¬ tx.Strands env s) ∧
    (∀ challengeId resolution, Atomic (resolveChallenge env challengeId resolution) s ↔
      ¬ resolution.Strands env s challengeId) ∧
    ∀ epochId, Atomic (finalizeEpoch env epochId) s ↔ ¬ s.StrandsFinalization env epochId := by
  refine ⟨fun tx => ?_, fun challengeId resolution => ?_, fun epochId => ?_⟩
  · cases tx with
    | transfer tx => exact atomic_iff_not_strays.trans (not_congr strays_applyTransfer)
    | unbond tx => exact atomic_iff_not_strays.trans (not_congr strays_applyUnbond)
    | vote tx => exact atomic_iff_not_strays.trans (not_congr strays_applyVote)
    | stake tx => exact iff_of_true (atomic_applyStake tx) not_false
    | submitBatch tx => exact iff_of_true (atomic_applySubmitBatch tx) not_false
    | commitEpoch tx => exact iff_of_true (atomic_applyCommitEpoch tx) not_false
    | openChallenge tx => exact iff_of_true (atomic_applyOpenChallenge tx) not_false
    | challengeResponse tx => exact iff_of_true (atomic_applyChallengeResponse tx) not_false
    | claimReward tx => exact iff_of_true (atomic_applyClaimReward tx) not_false
    | proposeProtocolParamsUpdate tx =>
        exact iff_of_true (atomic_applyProposeProtocolParamsUpdate tx) not_false
  · exact atomic_iff_not_strays.trans (not_congr strays_resolveChallenge)
  · exact atomic_iff_not_strays.trans (not_congr strays_finalizeEpoch)

/-- Alice with ten coins, and nobody else. -/
def Sample.alone : ProtocolState where
  height := 1
  currentEpoch := 0
  params := defaultProtocolParams
  store := { accounts := (∅ : OrderedMap Address AccountState).insert alice (account alice 10) }

/-- Alice pays an address without an account: the transfer is refused, and her coins are gone. -/
theorem refused_transfer_debits :
    ¬ Atomic ((Transaction.transfer Sample.transfer).apply (Sample.env .panic)) Sample.alone ∧
    (((Transaction.transfer Sample.transfer).apply (Sample.env .panic)).finish
      Sample.alone).store.accounts[Sample.alice]?.map (·.balance) = some 4 := by
  refine ⟨?_, by decide +kernel⟩
  rw [atomic_iff_not_strays, not_not]
  refine strays_applyTransfer.mpr ⟨by decide +kernel, ⟨Sample.account Sample.alice 10, ?_⟩, ?_⟩
  · refine ⟨by decide +kernel, rfl, by decide, ?_⟩
    exact adds64_iff.mpr ⟨1, rfl⟩
  · decide +kernel

end PoleProtocol.Ledger
