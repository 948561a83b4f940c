import PoleProtocol.Framework.Run
import PoleProtocol.Ledger.Effects

/-!
# Locked coins

The locked amount of an account stands for the bonds of its open challenges, the bonds of its
pending proposals and its queued unbondings at once. Each obligation is made by one transition and
met by another; this module follows their sum through every transition, the refused ones included.
-/

namespace PoleProtocol.Ledger

open Framework OrderedMap Action

variable {env : Env} {s s' : ProtocolState}

/-! ## Obligations -/

/-- What an open challenge obliges the account to keep locked. -/
def Challenge.owes (a : Address) (challenge : Challenge) : ℕ :=
  if challenge.challenger = a then challenge.bond else 0

/-- What a proposal obliges the account to keep locked, as long as it is pending. -/
def GovernanceParamsUpdateProposalRecord.owes (a : Address)
    (proposal : GovernanceParamsUpdateProposalRecord) : ℕ :=
  if proposal.state = .pending ∧ proposal.proposer = a then proposal.bondAmount else 0

def UnbondingRecord.owes (a : Address) (request : UnbondingRecord) : ℕ :=
  if request.delegator = a then request.amount else 0

/-- The amounts that the account unbonds. -/
def unbondings (requests : List UnbondingRecord) (a : Address) : ℕ :=
  (requests.map (·.owes a)).sum

namespace ProtocolState

/-- The bonds of the open challenges, the bonds of the pending proposals and the queued unbondings
of an account. -/
def obligations (s : ProtocolState) (a : Address) : ℕ :=
  OrderedMap.total (fun _ => Challenge.owes a) s.store.openChallenges +
    OrderedMap.total (fun _ => GovernanceParamsUpdateProposalRecord.owes a)
      s.store.paramsUpdateProposals +
    unbondings s.store.unbondingQueue a

/-- The locked amount stored for an address. -/
def lockedOf (s : ProtocolState) (a : Address) : ℕ := (s.store.accounts[a]?.map (·.locked)).getD 0

/-- Beyond its obligations, every account has `extra` coins locked. -/
def Backs (s : ProtocolState) (extra : Address → ℕ) : Prop :=
  ∀ a, s.obligations a + extra a ≤ s.lockedOf a

/-- Every account's lock covers its obligations, and proposals are stored under their own ids. -/
structure Backed (s : ProtocolState) : Prop where
  covered : s.Backs 0
  keyed : KeyedBy GovernanceParamsUpdateProposalRecord.proposalId s.store.paramsUpdateProposals

end ProtocolState

theorem lockedOf_insertAccount (address a : Address) (account : AccountState) :
    (s.insertAccount address account).lockedOf a =
      if address = a then account.locked else s.lockedOf a := by
  change ((s.store.accounts.insert address account)[a]?.map (·.locked)).getD 0 = _
  rw [get_insert]
  split <;> rfl

theorem lockedOf_of_get {address : Address} {account : AccountState}
    (hget : s.store.accounts[address]? = some account) : s.lockedOf address = account.locked := by
  rw [ProtocolState.lockedOf, hget]
  rfl

/-- Locks and obligations move together: what is said of the address and its new lock is all that
has to be checked. -/
theorem backs_insertAccount {extra extra' : Address → ℕ} {address : Address}
    {account : AccountState} {t : ProtocolState} (account' : AccountState)
    (hget : s.store.accounts[address]? = some account)
    (haccounts : t.store.accounts = s.store.accounts.insert address account')
    (hself : t.obligations address + extra' address + account.locked ≤
      s.obligations address + extra address + account'.locked)
    (hothers : ∀ a, address ≠ a → t.obligations a + extra' a ≤ s.obligations a + extra a)
    (h : s.Backs extra) : t.Backs extra' := by
  intro a
  have hbefore := h a
  have hlocked : t.lockedOf a = if address = a then account'.locked else s.lockedOf a := by
    rw [← lockedOf_insertAccount, ProtocolState.lockedOf, haccounts]
    rfl
  rw [hlocked]
  split
  · next hsame =>
      subst hsame
      rw [lockedOf_of_get hget] at hbefore
      omega
  · next hother =>
      have hless := hothers a hother
      omega

theorem backed_insertAccount {address : Address} {account : AccountState} {t : ProtocolState}
    (account' : AccountState) (hget : s.store.accounts[address]? = some account)
    (haccounts : t.store.accounts = s.store.accounts.insert address account')
    (hkeyed : s.Backed → KeyedBy GovernanceParamsUpdateProposalRecord.proposalId
      t.store.paramsUpdateProposals)
    (hself : t.obligations address + account.locked ≤ s.obligations address + account'.locked)
    (hothers : ∀ a, address ≠ a → t.obligations a ≤ s.obligations a) :
    Preserves ProtocolState.Backed s t := fun h =>
  ⟨backs_insertAccount account' hget haccounts hself hothers h.covered, hkeyed h⟩

/-- A lock that grows, or stays, covers what it covered. -/
theorem backed_raised {address : Address} {account : AccountState} {t : ProtocolState}
    (account' : AccountState) (hget : s.store.accounts[address]? = some account)
    (haccounts : t.store.accounts = s.store.accounts.insert address account')
    (hchallenges : t.store.openChallenges = s.store.openChallenges)
    (hproposals : t.store.paramsUpdateProposals = s.store.paramsUpdateProposals)
    (hqueue : t.store.unbondingQueue = s.store.unbondingQueue)
    (hlocked : account.locked ≤ account'.locked) : Preserves ProtocolState.Backed s t := by
  have hsame : ∀ a, t.obligations a = s.obligations a := by
    intro a
    rw [ProtocolState.obligations, hchallenges, hproposals, hqueue]
    rfl
  refine backed_insertAccount account' hget haccounts (fun h => ?_) ?_ fun a _ => (hsame a).le
  · rw [hproposals]
    exact h.keyed
  · rw [hsame]
    omega

/-- A transition that touches neither accounts nor obligations. -/
theorem backed_of_same (haccounts : s'.store.accounts = s.store.accounts)
    (hchallenges : s'.store.openChallenges = s.store.openChallenges)
    (hproposals : s'.store.paramsUpdateProposals = s.store.paramsUpdateProposals)
    (hqueue : s'.store.unbondingQueue = s.store.unbondingQueue) :
    Preserves ProtocolState.Backed s s' := by
  intro h
  refine ⟨fun a => ?_, hproposals ▸ h.keyed⟩
  have hcovered := h.covered a
  unfold ProtocolState.obligations ProtocolState.lockedOf at hcovered ⊢
  rwa [haccounts, hchallenges, hproposals, hqueue]

/-! ## Transactions -/

theorem add128_exact (hwide : env.wide = .panic) {a b c : ℕ} (h : env.add128 a b = .ok c) :
    c = a + b := by
  rw [Env.add128, require_eq_ok, hwide] at h
  exact (Overflow.panic_add.mp h).2

theorem unbondings_append (requests : List UnbondingRecord) (request : UnbondingRecord)
    (a : Address) : unbondings (requests ++ [request]) a = unbondings requests a + request.owes a := by
  simp [unbondings]

/-- A proposal that is no longer pending obliges nobody. -/
theorem owes_of_ne_pending (proposal : GovernanceParamsUpdateProposalRecord)
    (h : proposal.state ≠ .pending) (a : Address) : proposal.owes a = 0 :=
  if_neg fun hpending => h hpending.1

section Obligations

variable {t : ProtocolState}

theorem obligations_opened {challengeId : Hash32} {challenge : Challenge}
    (hfresh : s.store.openChallenges[challengeId]? = none)
    (hchallenges : t.store.openChallenges = s.store.openChallenges.insert challengeId challenge)
    (hproposals : t.store.paramsUpdateProposals = s.store.paramsUpdateProposals)
    (hqueue : t.store.unbondingQueue = s.store.unbondingQueue) (a : Address) :
    t.obligations a = s.obligations a + challenge.owes a := by
  have hadded := total_insert_of_none (fun _ => Challenge.owes a) challenge hfresh
  simp only [ProtocolState.obligations, hchallenges, hproposals, hqueue, hadded]
  omega

theorem obligations_removed {challengeId : Hash32} {challenge : Challenge}
    (hopen : s.store.openChallenges[challengeId]? = some challenge)
    (hchallenges : t.store.openChallenges = s.store.openChallenges.erase challengeId)
    (hproposals : t.store.paramsUpdateProposals = s.store.paramsUpdateProposals)
    (hqueue : t.store.unbondingQueue = s.store.unbondingQueue) (a : Address) :
    t.obligations a + challenge.owes a = s.obligations a := by
  have htaken := total_eq_add_erase (fun _ => Challenge.owes a) hopen
  simp only [ProtocolState.obligations, hchallenges, hproposals, hqueue, htaken]
  omega

theorem obligations_proposed {proposalId : Hash32} {proposal : GovernanceParamsUpdateProposalRecord}
    (hfresh : s.store.paramsUpdateProposals[proposalId]? = none)
    (hchallenges : t.store.openChallenges = s.store.openChallenges)
    (hproposals : t.store.paramsUpdateProposals =
      s.store.paramsUpdateProposals.insert proposalId proposal)
    (hqueue : t.store.unbondingQueue = s.store.unbondingQueue) (a : Address) :
    t.obligations a = s.obligations a + proposal.owes a := by
  have hadded :=
    total_insert_of_none (fun _ => GovernanceParamsUpdateProposalRecord.owes a) proposal hfresh
  simp only [ProtocolState.obligations, hchallenges, hproposals, hqueue, hadded]
  omega

theorem obligations_moved {proposalId : Hash32}
    {proposal : GovernanceParamsUpdateProposalRecord}
    (proposal' : GovernanceParamsUpdateProposalRecord)
    (hstored : s.store.paramsUpdateProposals[proposalId]? = some proposal)
    (hchallenges : t.store.openChallenges = s.store.openChallenges)
    (hproposals : t.store.paramsUpdateProposals =
      s.store.paramsUpdateProposals.insert proposalId proposal')
    (hqueue : t.store.unbondingQueue = s.store.unbondingQueue) (a : Address) :
    t.obligations a + proposal.owes a = s.obligations a + proposal'.owes a := by
  have hexchanged :=
    total_insert_of_get (fun _ => GovernanceParamsUpdateProposalRecord.owes a) proposal' hstored
  simp only [ProtocolState.obligations, hchallenges, hproposals, hqueue]
  omega

theorem obligations_queued {request : UnbondingRecord}
    (hchallenges : t.store.openChallenges = s.store.openChallenges)
    (hproposals : t.store.paramsUpdateProposals = s.store.paramsUpdateProposals)
    (hqueue : t.store.unbondingQueue = s.store.unbondingQueue ++ [request]) (a : Address) :
    t.obligations a = s.obligations a + request.owes a := by
  simp only [ProtocolState.obligations, hchallenges, hproposals, hqueue, unbondings_append]
  omega

end Obligations

theorem backed_scheduling {proposalId : Hash32} (h : Scheduling env proposalId s s') :
    Preserves ProtocolState.Backed s s' := by
  cases h with
  | none => exact Std.Refl.refl s
  | @full proposal account account' happroved hget hunlock =>
      obtain ⟨hcovered, balance, _, rfl⟩ := unlockBondToBalance_ok.mp hunlock
      have howes : proposal.owes proposal.proposer = proposal.bondAmount :=
        if_pos ⟨happroved.pending, rfl⟩
      have hmoved := obligations_moved { proposal with state := .scheduled } happroved.stored
        (t := ((s.schedule proposal.effectiveEpoch proposal.params).insertAccount proposal.proposer
          { account with
            locked := account.locked - proposal.bondAmount
            balance }).insertParamsUpdateProposal proposalId { proposal with state := .scheduled })
        rfl rfl rfl
      have hreleased := fun a => (hmoved a).trans
        (congrArg _ (owes_of_ne_pending { proposal with state := .scheduled } (by simp) a))
      refine backed_insertAccount _ hget rfl (fun hbacked => ?_) ?_ fun a _ => ?_
      · have hkey := hbacked.keyed _ _ happroved.stored
        subst hkey
        exact keyedBy_insert _ hbacked.keyed { proposal with state := .scheduled }
      · have hself := hreleased proposal.proposer
        rw [howes] at hself
        dsimp only
        omega
      · have hother := hreleased a
        omega

theorem backed_unbond {tx : UnbondTx} {node : NodeRegistry} {delegator delegator' : AccountState}
    {unlockHeight : ℕ} (hwide : env.wide = .panic) (remaining : ℕ)
    (hget : s.store.accounts[tx.delegator]? = some delegator)
    (hlock : tx.lock env delegator = .ok delegator') :
    Preserves ProtocolState.Backed s
      ((((s.insertAccount tx.delegator delegator').insertNode tx.operator node).reduceDelegation tx
        remaining).queueUnbonding
          { delegator := tx.delegator, operator := tx.operator, amount := tx.amount
            unlockHeight }) := by
  obtain ⟨_, _, locked, hsum, nonce, _, rfl⟩ := unbondLock_ok.mp hlock
  have hraised : locked = delegator.locked + tx.amount := add128_exact hwide hsum
  generalize hreduced : ((s.insertAccount tx.delegator _).insertNode tx.operator
    node).reduceDelegation tx remaining = t
  have hstores : t.store.accounts = s.store.accounts.insert tx.delegator
        { delegator with staked := delegator.staked - tx.amount, locked, nonce } ∧
      t.store.openChallenges = s.store.openChallenges ∧
      t.store.paramsUpdateProposals = s.store.paramsUpdateProposals ∧
      t.store.unbondingQueue = s.store.unbondingQueue := by
    subst hreduced
    unfold ProtocolState.reduceDelegation
    split <;> exact ⟨rfl, rfl, rfl, rfl⟩
  obtain ⟨haccounts, hchallenges, hproposals, hqueue⟩ := hstores
  have hqueued := obligations_queued (s := s) (t := t.queueUnbonding
    { delegator := tx.delegator, operator := tx.operator, amount := tx.amount, unlockHeight })
    hchallenges hproposals (by rw [← hqueue]; rfl)
  refine backed_insertAccount _ hget haccounts (fun hbacked => ?_) ?_ fun a hother => ?_
  · change KeyedBy _ t.store.paramsUpdateProposals
    rw [hproposals]
    exact hbacked.keyed
  · rw [hqueued, UnbondingRecord.owes, if_pos rfl]
    dsimp only
    omega
  · rw [hqueued, UnbondingRecord.owes, if_neg hother]
    omega

theorem backed_openChallenge {challenge : Challenge} {account account' : AccountState}
    (hwide : env.wide = .panic) (challengeId : Hash32)
    (hfresh : s.store.openChallenges[challengeId]? = none)
    (hget : s.store.accounts[challenge.challenger]? = some account)
    (hlock : lockBond env account challenge.bond = .ok account') :
    Preserves ProtocolState.Backed s
      ((s.insertAccount challenge.challenger account').insertOpenChallenge challengeId
        { challenge with openedAtHeight := s.height }) := by
  obtain ⟨_, locked, hsum, rfl⟩ := lockBond_ok.mp hlock
  have hraised : locked = account.locked + challenge.bond := add128_exact hwide hsum
  have hopened := obligations_opened (s := s) (t := (s.insertAccount challenge.challenger
    { account with balance := account.balance - challenge.bond, locked }).insertOpenChallenge
      challengeId { challenge with openedAtHeight := s.height }) hfresh rfl rfl rfl
  refine backed_insertAccount _ hget rfl (fun hbacked => hbacked.keyed) ?_ fun a hother => ?_
  · rw [hopened, Challenge.owes, if_pos rfl]
    dsimp only
    omega
  · rw [hopened, Challenge.owes, if_neg hother]
    omega

theorem backed_propose {tx : ProposeProtocolParamsUpdateTx} {account account' : AccountState}
    (hwide : env.wide = .panic) (paramsHash : Hash32)
    (hfresh : s.store.paramsUpdateProposals[tx.proposalId]? = none)
    (hget : s.store.accounts[tx.proposer]? = some account)
    (hlock : tx.lock env (tx.record s paramsHash).bondAmount account = .ok account') :
    Preserves ProtocolState.Backed s
      ((s.insertAccount tx.proposer account').insertParamsUpdateProposal tx.proposalId
        (tx.record s paramsHash)) := by
  obtain ⟨_, _, locked, hsum, nonce, _, rfl⟩ := proposeLock_ok.mp hlock
  have hraised : locked = account.locked + (tx.record s paramsHash).bondAmount :=
    add128_exact hwide hsum
  have hproposed := obligations_proposed (s := s) (t := (s.insertAccount tx.proposer
    { account with
      balance := account.balance - (tx.record s paramsHash).bondAmount
      locked
      nonce }).insertParamsUpdateProposal tx.proposalId (tx.record s paramsHash)) hfresh rfl rfl rfl
  refine backed_insertAccount _ hget rfl (fun hbacked => ?_) ?_ fun a hother => ?_
  · exact keyedBy_insert _ hbacked.keyed (tx.record s paramsHash)
  · rw [hproposed, GovernanceParamsUpdateProposalRecord.owes, if_pos ⟨rfl, rfl⟩]
    dsimp only
    omega
  · rw [hproposed, GovernanceParamsUpdateProposalRecord.owes, if_neg fun h => hother h.2]
    omega

/-- A response moves the challenge to another state; its bond stays. -/
theorem backed_respond {challengeId : Hash32} {challenge : Challenge} (state : ChallengeState)
    (hopen : s.store.openChallenges[challengeId]? = some challenge) :
    Preserves ProtocolState.Backed s ((s.removeOpenChallenge challengeId).insertOpenChallenge
      challengeId { challenge with state }) := by
  have hremoved := obligations_removed (t := s.removeOpenChallenge challengeId) hopen rfl rfl rfl
  have hfresh : (s.removeOpenChallenge challengeId).store.openChallenges[challengeId]? = none :=
    (get_erase _ _ _).trans (if_pos rfl)
  have hopened := obligations_opened (s := s.removeOpenChallenge challengeId)
    (t := (s.removeOpenChallenge challengeId).insertOpenChallenge challengeId
      { challenge with state }) hfresh rfl rfl rfl
  intro hbacked
  refine ⟨fun a => ?_, hbacked.keyed⟩
  have hsame : ({ challenge with state } : Challenge).owes a = challenge.owes a := rfl
  rw [hopened, hsame, hremoved]
  exact hbacked.covered a

theorem backed_applied (hwide : env.wide = .panic) {tx : Transaction} (h : Applied env tx s s') :
    Preserves ProtocolState.Backed s s' := by
  cases h with
  | transfer hget hdebit hrecipient hcredit =>
      obtain ⟨_, _, nonce, _, rfl⟩ := debit_ok.mp hdebit
      refine IsTrans.trans _ _ _ ?_ (backed_raised _ hrecipient rfl rfl rfl rfl le_rfl)
      exact backed_raised _ hget rfl rfl rfl rfl le_rfl
  | stake _ _ hget hdebit _ _ =>
      obtain ⟨_, _, staked, _, nonce, _, rfl⟩ := stakeDebit_ok.mp hdebit
      exact backed_raised _ hget rfl rfl rfl rfl le_rfl
  | unbond _ _ _ hget hlock _ _ _ => exact backed_unbond hwide _ hget hlock
  | submitBatch _ _ _ => exact backed_of_same rfl rfl rfl rfl
  | commitEpoch _ _ _ => exact backed_of_same rfl rfl rfl rfl
  | openChallenge hfresh _ _ _ hget hlock => exact backed_openChallenge hwide _ hfresh hget hlock
  | challengeResponse _ hopen =>
      exact IsTrans.trans _ _ _ (backed_respond .responded hopen) (backed_of_same rfl rfl rfl rfl)
  | claimReward _ hget _ => exact backed_raised _ hget rfl rfl rfl rfl le_rfl
  | vote _ hget hauthorize hscheduling =>
      obtain ⟨_, _, _, _, _, nonce, _, rfl⟩ := authorize_ok.mp hauthorize
      refine IsTrans.trans _ _ _ ?_ (backed_scheduling hscheduling)
      exact backed_raised _ hget rfl rfl rfl rfl le_rfl
  | proposeProtocolParamsUpdate hfresh hget hlock => exact backed_propose hwide _ hfresh hget hlock

theorem backed_stranded (hwide : env.wide = .panic) {tx : Transaction} (h : Stranded env tx s s') :
    Preserves ProtocolState.Backed s s' := by
  cases h with
  | transfer hget hdebit =>
      obtain ⟨_, _, nonce, _, rfl⟩ := debit_ok.mp hdebit
      exact backed_raised _ hget rfl rfl rfl rfl le_rfl
  | unbond hget hlock =>
      obtain ⟨_, _, locked, hsum, nonce, _, rfl⟩ := unbondLock_ok.mp hlock
      have hraised := add128_exact hwide hsum
      exact backed_raised _ hget rfl rfl rfl rfl (by dsimp only; omega)
  | vote _ hget hauthorize =>
      obtain ⟨_, _, _, _, _, nonce, _, rfl⟩ := authorize_ok.mp hauthorize
      exact backed_raised _ hget rfl rfl rfl rfl le_rfl
  | schedule _ hget hauthorize _ _ =>
      obtain ⟨_, _, _, _, _, nonce, _, rfl⟩ := authorize_ok.mp hauthorize
      exact backed_raised _ hget rfl rfl rfl rfl le_rfl

/-! ## Resolutions -/

/-- The challenge is closed and its bond leaves the lock. -/
theorem backed_closed {challengeId : Hash32} {challenge : Challenge} {account : AccountState}
    {t : ProtocolState} (account' : AccountState)
    (hopen : s.store.openChallenges[challengeId]? = some challenge)
    (hget : s.store.accounts[challenge.challenger]? = some account)
    (hcovered : challenge.bond ≤ account.locked)
    (hlocked : account'.locked = account.locked - challenge.bond)
    (haccounts : t.store.accounts = s.store.accounts.insert challenge.challenger account')
    (hchallenges : t.store.openChallenges = s.store.openChallenges.erase challengeId)
    (hproposals : t.store.paramsUpdateProposals = s.store.paramsUpdateProposals)
    (hqueue : t.store.unbondingQueue = s.store.unbondingQueue) :
    Preserves ProtocolState.Backed s t := by
  have hremoved := obligations_removed hopen hchallenges hproposals hqueue
  refine backed_insertAccount account' hget haccounts (fun hbacked => ?_) ?_ fun a hother => ?_
  · rw [hproposals]
    exact hbacked.keyed
  · have hself := hremoved challenge.challenger
    rw [Challenge.owes, if_pos rfl] at hself
    omega
  · have hsame := hremoved a
    omega

/-- The challenge is gone and nothing was unlocked. -/
theorem backed_dropped {challengeId : Hash32} {challenge : Challenge} {t : ProtocolState}
    (hopen : s.store.openChallenges[challengeId]? = some challenge)
    (haccounts : t.store.accounts = s.store.accounts)
    (hchallenges : t.store.openChallenges = s.store.openChallenges.erase challengeId)
    (hproposals : t.store.paramsUpdateProposals = s.store.paramsUpdateProposals)
    (hqueue : t.store.unbondingQueue = s.store.unbondingQueue) :
    Preserves ProtocolState.Backed s t := by
  intro hbacked
  refine ⟨fun a => ?_, hproposals ▸ hbacked.keyed⟩
  have hremoved := obligations_removed hopen hchallenges hproposals hqueue a
  have hbefore := hbacked.covered a
  have hlocked : t.lockedOf a = s.lockedOf a := by rw [ProtocolState.lockedOf, haccounts]; rfl
  omega

theorem backed_resolve {challengeId : Hash32} {resolution : ChallengeResolution}
    (h : Returns (resolveChallenge env challengeId resolution) s s') :
    Preserves ProtocolState.Backed s s' := by
  refine resolve_returns (fun t t' hresolved => ?_) (fun t t' hdropped => ?_) h
  · cases hresolved with
    | reject hopen hget hcovered => exact backed_closed _ hopen hget hcovered rfl rfl rfl rfl rfl
    | uphold _ hopen _ _ _ _ hget _ hunlock =>
        obtain ⟨hcovered, balance, _, rfl⟩ := unlockBondToBalance_ok.mp hunlock
        exact backed_closed _ hopen hget hcovered rfl rfl rfl rfl rfl
  · cases hdropped with
    | remove hopen => exact backed_dropped hopen rfl rfl rfl rfl
    | slash _ hopen _ _ _ => exact backed_dropped hopen rfl rfl rfl rfl

/-! ## Unbondings -/

/-- A lock that covers the amount is refused only when the account is unknown. -/
theorem borrow_refused {address : Address} {amount : ℕ} {error : TransitionError}
    {body : AccountState → Attempt TransitionError AccountState}
    (hbody : ∀ account e, amount ≤ account.locked → body account ≠ .error (.refused e))
    (hcovered : amount ≤ s.lockedOf address)
    (h : (accountMut address body).run s = .error (.refused error) s') :
    error = .unknownAccount address := by
  obtain ⟨hread, _⟩ := update_error.mp h
  cases hget : s.store.accounts[address]? with
  | none =>
      rw [hget] at hread
      cases hread
      rfl
  | some account =>
      rw [hget] at hread
      rw [lockedOf_of_get hget] at hcovered
      exact absurd hread (hbody account error hcovered)

theorem unlock_covered {account : AccountState} {amount : ℕ} (credit : ℕ) (e : TransitionError)
    (h : amount ≤ account.locked) :
    unlockBondToBalance env account amount credit ≠ .error (.refused e) := fun hrefused =>
  absurd h (Nat.not_le.mpr ((unlock_refused env credit).mp ⟨e, hrefused⟩))

theorem burn_covered {account : AccountState} {amount : ℕ} (e : TransitionError)
    (h : amount ≤ account.locked) : burnLockedBond account amount ≠ .error (.refused e) := by
  intro hrefused
  exact (Attempt.guard_refused (Attempt.willing_pure _)).mp ⟨e, hrefused⟩ h

/-- The queue without the mature requests, and the mature requests on top. -/
theorem backs_drain (h : s.Backs 0) : s.drain.Backs (unbondings s.mature) := by
  intro a
  have hsplit : unbondings s.drain.store.unbondingQueue a + unbondings s.mature a =
      unbondings s.store.unbondingQueue a := by
    change unbondings (s.store.unbondingQueue.filter _) a +
      unbondings (s.store.unbondingQueue.filter _) a = _
    generalize s.store.unbondingQueue = queue
    induction queue with
    | nil => rfl
    | cons request queue ih =>
        simp only [unbondings] at ih ⊢
        by_cases hdue : request.unlockHeight ≤ s.height
        · simp only [List.filter_cons, hdue, Nat.not_lt.mpr hdue, decide_true, decide_false,
            List.map_cons, List.sum_cons, if_true, Bool.false_eq_true, if_false]
          omega
        · simp only [List.filter_cons, hdue, Nat.not_le.mp hdue, decide_true, decide_false,
            List.map_cons, List.sum_cons, if_true, Bool.false_eq_true, if_false]
          omega
  have hcovered := h a
  have hdrained : s.drain.obligations a + unbondings s.mature a = s.obligations a := by
    unfold ProtocolState.obligations
    have hopen : s.drain.store.openChallenges = s.store.openChallenges := rfl
    have hproposals : s.drain.store.paramsUpdateProposals = s.store.paramsUpdateProposals := rfl
    rw [hopen, hproposals]
    omega
  change s.drain.obligations a + unbondings s.mature a ≤ s.lockedOf a
  simp only [Pi.zero_apply] at hcovered
  omega

/-- With the requests that are still to be released on top, the locks cover everything. -/
structure Owing (requests : List UnbondingRecord) (s : ProtocolState) : Prop where
  covered : s.Backs (unbondings requests)
  keyed : KeyedBy GovernanceParamsUpdateProposalRecord.proposalId s.store.paramsUpdateProposals

theorem Owing.backed {requests : List UnbondingRecord} (h : Owing requests s) : s.Backed := by
  refine ⟨fun a => ?_, h.keyed⟩
  have hcovered := h.covered a
  simp only [Pi.zero_apply]
  omega

theorem owing_release {request : UnbondingRecord} {requests : List UnbondingRecord}
    {effect : TransitionEffect} (h : Owing (request :: requests) s)
    (hok : (releaseUnbond env request).run s = .ok effect s') : Owing requests s' := by
  obtain ⟨account, account', hget, hunlock, rfl⟩ := releaseUnbond_ok hok
  obtain ⟨hcovered, balance, _, rfl⟩ := unlockBondToBalance_ok.mp hunlock
  have hobligations : ∀ a, (s.insertAccount request.delegator { account with
      locked := account.locked - request.amount, balance }).obligations a = s.obligations a :=
    fun _ => rfl
  have hcons : ∀ a, unbondings (request :: requests) a = request.owes a + unbondings requests a :=
    fun _ => List.sum_cons
  refine ⟨backs_insertAccount _ hget rfl ?_ (fun a hother => ?_) h.covered, h.keyed⟩
  · rw [hobligations, hcons, UnbondingRecord.owes, if_pos rfl]
    dsimp only
    omega
  · rw [hobligations, hcons, UnbondingRecord.owes, if_neg hother]
    omega

theorem owing_refused {request : UnbondingRecord} {requests : List UnbondingRecord}
    {error : TransitionError} (h : Owing (request :: requests) s)
    (hrefused : (releaseUnbond env request).run s = .error (.refused error) s') :
    error = .unknownAccount request.delegator := by
  have hcovered := h.covered request.delegator
  have hcons : unbondings (request :: requests) request.delegator =
      request.owes request.delegator + unbondings requests request.delegator := List.sum_cons
  rw [hcons, UnbondingRecord.owes, if_pos rfl] at hcovered
  rcases bind_error.mp hrefused with hborrow | ⟨_, _, _, hreturn⟩
  · exact borrow_refused (fun _ => unlock_covered _) (by omega) hborrow
  · cases hreturn

theorem owing_drain (h : s.Backed) : Owing s.mature s.drain := ⟨backs_drain h.covered, h.keyed⟩

theorem backed_processMatureUnbonds (h : Returns (processMatureUnbonds env) s s') :
    Preserves ProtocolState.Backed s s' := by
  intro hbacked
  unfold Returns at h
  rw [processMatureUnbonds_run] at h
  rcases h with ⟨effects, hok⟩ | ⟨error, hrefused⟩
  · exact (mapM_along (I := Owing) (fun _ _ _ _ _ => owing_release) (owing_drain hbacked) hok).backed
  · obtain ⟨request, rest, t, howing, hstop⟩ := mapM_refused_along (I := Owing)
      (fun _ _ _ _ _ => owing_release) (owing_drain hbacked) hrefused
    rw [releaseUnbond_refused hstop]
    exact howing.backed

/-! ## Epochs -/

/-- A proposal that is moved on no longer obliges its proposer. -/
theorem backed_moved {proposalId : Hash32} {record : GovernanceParamsUpdateProposalRecord}
    (state : GovernanceProposalState) (hmoved : state ≠ .pending)
    (hstored : s.store.paramsUpdateProposals[proposalId]? = some record) :
    Preserves ProtocolState.Backed s
      (s.insertParamsUpdateProposal proposalId { record with state }) := by
  intro hbacked
  refine ⟨fun a => ?_, ?_⟩
  · have hobligations := obligations_moved (t := s.insertParamsUpdateProposal proposalId
      { record with state }) { record with state } hstored rfl rfl rfl a
    rw [owes_of_ne_pending { record with state } hmoved a] at hobligations
    have hbefore := hbacked.covered a
    have hlocked : (s.insertParamsUpdateProposal proposalId { record with state }).lockedOf a =
      s.lockedOf a := rfl
    omega
  · have hkey := hbacked.keyed _ _ hstored
    subst hkey
    exact keyedBy_insert _ hbacked.keyed { record with state }

theorem backed_entered (s : ProtocolState) (epochId next : ℕ) :
    Preserves ProtocolState.Backed s (s.entered epochId next) := by
  have hmarked : Preserves ProtocolState.Backed s
      { s.markEpochFinalized epochId with currentEpoch := next } := backed_of_same rfl rfl rfl rfl
  refine IsTrans.trans _ _ _ hmarked (keeps_activateScheduledProtocolParams ?_ ?_ _)
  · exact fun _ _ _ => backed_of_same rfl rfl rfl rfl
  · exact fun _ _ _ hstored => backed_moved .activated (by simp) hstored

/-- The proposals still to expire are stored as they were listed, and their bonds are covered. -/
structure Expiring (proposals : List GovernanceParamsUpdateProposalRecord) (s : ProtocolState) :
    Prop extends Lapsing proposals s where
  backed : s.Backed

theorem expiring_stale (h : s.Backed) : Expiring s.staleParamsUpdateProposals s :=
  ⟨lapsing_stale h.keyed, h⟩

theorem expiring_cons {proposal : GovernanceParamsUpdateProposalRecord}
    {proposals : List GovernanceParamsUpdateProposalRecord} {u : Unit}
    (h : Expiring (proposal :: proposals) s) (hok : (expireProposal proposal).run s = .ok u s') :
    Expiring proposals s' := by
  obtain ⟨account, record, hget, hcovered, hrecord, rfl⟩ := expireProposal_ok.mp hok
  obtain ⟨hpending, hstored⟩ := h.stored proposal List.mem_cons_self
  cases hrecord.symm.trans hstored
  refine ⟨h.tail rfl, ?_⟩
  have hmoved := obligations_moved { proposal with state := .expired } hrecord
    (t := (s.insertAccount proposal.proposer { account with
      locked := account.locked - proposal.bondAmount }).insertParamsUpdateProposal
        proposal.proposalId { proposal with state := .expired }) rfl rfl rfl
  have hreleased := fun a => (hmoved a).trans
    (congrArg _ (owes_of_ne_pending { proposal with state := .expired } (by simp) a))
  refine backed_insertAccount _ hget rfl (fun hbacked => ?_) ?_ (fun a _ => ?_) h.backed
  · exact keyedBy_insert _ hbacked.keyed { proposal with state := .expired }
  · have hself := hreleased proposal.proposer
    rw [GovernanceParamsUpdateProposalRecord.owes, if_pos ⟨hpending, rfl⟩] at hself
    dsimp only
    omega
  · have hother := hreleased a
    omega

/-- The lock of the proposer covers the bond of a pending proposal. -/
theorem bond_le_lockedOf {proposalId : Hash32} {proposal : GovernanceParamsUpdateProposalRecord}
    (h : s.Backed) (hpending : proposal.state = .pending)
    (hstored : s.store.paramsUpdateProposals[proposalId]? = some proposal) :
    proposal.bondAmount ≤ s.lockedOf proposal.proposer := by
  have hcovered := h.covered proposal.proposer
  have htaken := total_eq_add_erase
    (fun _ => GovernanceParamsUpdateProposalRecord.owes proposal.proposer) hstored
  have howes : proposal.owes proposal.proposer = proposal.bondAmount := if_pos ⟨hpending, rfl⟩
  rw [howes] at htaken
  unfold ProtocolState.obligations at hcovered
  rw [htaken] at hcovered
  omega

theorem expiring_refused {proposal : GovernanceParamsUpdateProposalRecord}
    {proposals : List GovernanceParamsUpdateProposalRecord} {error : TransitionError}
    (h : Expiring (proposal :: proposals) s)
    (hrefused : (expireProposal proposal).run s = .error (.refused error) s') :
    error = .unknownAccount proposal.proposer ∧ s' = s := by
  obtain ⟨hpending, hstored⟩ := h.stored proposal List.mem_cons_self
  rcases bind_error.mp hrefused with hborrow | ⟨_, t, hborrow, hmove⟩
  · exact ⟨borrow_refused (fun _ => burn_covered) (bond_le_lockedOf h.backed hpending hstored)
      hborrow, (update_error.mp hborrow).2⟩
  · obtain ⟨_, _, _, _, rfl⟩ := accountMut_ok.mp hborrow
    obtain ⟨hmissing, _⟩ := update_error.mp hmove
    change found s.store.paramsUpdateProposals[proposal.proposalId]? _ = _ at hmissing
    rw [hstored] at hmissing
    cases hmissing

theorem backed_finalizeEpoch {epochId : ℕ} (h : Returns (finalizeEpoch env epochId) s s') :
    Preserves ProtocolState.Backed s s' := by
  rcases finalizeEpoch_returns h with rfl | ⟨_, ⟨_, rfl⟩ | ⟨_, next, _, hexpiry⟩⟩
  · exact Std.Refl.refl s'
  · exact backed_of_same rfl rfl rfl rfl
  · intro hbacked
    have hstart := expiring_stale (backed_entered s epochId next hbacked)
    rcases hexpiry with ⟨_, hok⟩ | ⟨error, hrefused⟩
    · exact (forM_along (I := Expiring) (fun _ _ _ _ _ => expiring_cons) hstart hok).backed
    · obtain ⟨proposal, rest, t, hexpiring, hstop⟩ := forM_refused_along (I := Expiring)
        (fun _ _ _ _ _ => expiring_cons) hstart hrefused
      rw [(expiring_refused hexpiring hstop).2]
      exact hexpiring.backed

/-! ## Runs -/

theorem backed_step (hwide : env.wide = .panic) (op : Operation) :
    Preserves ProtocolState.Backed s (op.step env s) := by
  refine step_related ?_ (fun _ _ => backed_processMatureUnbonds) ?_ ?_ ?_ ?_
  · exact fun _ _ _ => backed_of_same rfl rfl rfl rfl
  · exact fun tx _ t t' => apply_returns (fun _ _ => backed_applied hwide) fun _ _ =>
      backed_stranded hwide
  · exact fun _ _ _ _ => backed_resolve
  · exact fun _ _ _ => backed_finalizeEpoch
  · exact fun _ _ _ _ _ => backed_of_same rfl rfl rfl rfl

theorem backed_change {change : Change} (hexact : change.Exact env s) (h : s.Backed) :
    (change.step env s).Backed := by
  cases change with
  | operation op =>
      change (op.step env s).Backed
      rw [step_checked hexact]
      exact backed_step rfl op h
  | upsertNode node => exact backed_of_same (s := s) rfl rfl rfl rfl h
  | upsertRewardRecord reward => exact backed_of_same (s := s) rfl rfl rfl rfl h

theorem backed_start (hchallenges : s.store.openChallenges = ∅)
    (hproposals : s.store.paramsUpdateProposals = ∅) (hqueue : s.store.unbondingQueue = []) :
    s.Backed := by
  refine ⟨fun a => ?_, hproposals ▸ keyedBy_empty _⟩
  unfold ProtocolState.obligations
  rw [hchallenges, hproposals, hqueue, total_empty, total_empty]
  exact Nat.zero_le _

/-- The call was refused for want of coins. -/
def TransitionError.isInsufficientBalance : TransitionError → Bool
  | .insufficientBalance .. => true
  | _ => false

/-- No call that takes coins out of a lock finds too few in it. -/
structure ProtocolState.Releasable (env : Env) (s : ProtocolState) : Prop where
  locks : ∀ (a : Address) (account : AccountState), s.store.accounts[a]? = some account →
    s.obligations a ≤ account.locked
  unbonds : ∀ height error t, (processMatureUnbonds env).run { s with height } =
    .error (.refused error) t → error.isInsufficientBalance = false
  rejections : ∀ challengeId error t, (resolveChallenge env challengeId .rejected).run s =
    .error (.refused error) t → error.isInsufficientBalance = false
  expiries : ∀ epochId error t, (finalizeEpoch env epochId).run s = .error (.refused error) t →
    error.isInsufficientBalance = false

theorem unbonds_of_backed (hbacked : s.Backed) {error : TransitionError}
    (h : (processMatureUnbonds env).run s = .error (.refused error) s') :
    error.isInsufficientBalance = false := by
  rw [processMatureUnbonds_run] at h
  obtain ⟨request, rest, t, howing, hstop⟩ := mapM_refused_along (I := Owing)
    (fun _ _ _ _ _ => owing_release) (owing_drain hbacked) h
  rw [owing_refused howing hstop]
  rfl

theorem rejections_of_backed (hbacked : s.Backed) {challengeId : Hash32} {error : TransitionError}
    (h : (resolveChallenge env challengeId .rejected).run s = .error (.refused error) s') :
    error.isInsufficientBalance = false := by
  rw [resolveChallenge, get_bind] at h
  rcases lift_bind_error.mp h with ⟨hmissing, _⟩ | ⟨challenge, hfound, h⟩
  · cases (require_eq_error.mp hmissing).2
    rfl
  · have hopen : s.store.openChallenges[challengeId]? = some challenge := require_eq_ok.mp hfound
    rw [modify_bind, if_pos rfl, rejectChallenge] at h
    have hcovered := hbacked.covered challenge.challenger
    have htaken := total_eq_add_erase (fun _ => Challenge.owes challenge.challenger) hopen
    rw [Challenge.owes, if_pos rfl] at htaken
    unfold ProtocolState.obligations at hcovered
    rw [htaken] at hcovered
    rcases bind_error.mp h with hborrow | ⟨_, _, _, hreturn⟩
    · have hlocked : (s.removeOpenChallenge challengeId).lockedOf challenge.challenger =
        s.lockedOf challenge.challenger := rfl
      rw [borrow_refused (fun _ => burn_covered) (by omega) hborrow]
      rfl
    · cases hreturn

theorem expiries_of_backed (hbacked : s.Backed) {epochId : ℕ} {error : TransitionError}
    (h : (finalizeEpoch env epochId).run s = .error (.refused error) s') :
    error.isInsufficientBalance = false := by
  rw [finalizeEpoch, get_bind] at h
  rcases lift_bind_error.mp h with ⟨hchecked, _⟩ | ⟨_, _, h⟩
  · cases (ensure_eq_error.mp hchecked).2
    rfl
  rcases lift_bind_error.mp h with ⟨hmissing, _⟩ | ⟨_, _, h⟩
  · cases (require_eq_error.mp hmissing).2
    rfl
  rcases lift_bind_error.mp h with ⟨hchecked, _⟩ | ⟨_, _, h⟩
  · cases (ensure_eq_error.mp hchecked).2
    rfl
  rcases lift_bind_error.mp h with ⟨hchecked, _⟩ | ⟨_, _, h⟩
  · cases (ensure_eq_error.mp hchecked).2
    rfl
  rw [modify_bind] at h
  rcases bind_error.mp h with hadvance | ⟨_, _, _, hreturn⟩
  · unfold advanceEpoch at hadvance
    split at hadvance
    · rcases lift_bind_error.mp hadvance with ⟨hsum, _⟩ | ⟨next, _, henter⟩
      · exact absurd hsum (willing_add64 _ _ error)
      · have hstart := expiring_stale (backed_entered s epochId next hbacked)
        obtain ⟨proposal, rest, t, hexpiring, hstop⟩ := forM_refused_along (I := Expiring)
          (fun _ _ _ _ _ => expiring_cons) hstart henter
        rw [(expiring_refused hexpiring hstop).1]
        rfl
    · cases hadvance
  · cases hreturn

theorem ProtocolState.Backed.releasable (h : s.Backed) : s.Releasable env where
  locks a account hget := by
    have hcovered := h.covered a
    rwa [lockedOf_of_get hget] at hcovered
  unbonds height _ _ hrefused := by
    have hlater : ({ s with height } : ProtocolState).Backed :=
      backed_of_same (s := s) rfl rfl rfl rfl h
    exact unbonds_of_backed hlater hrefused
  rejections _ _ _ := rejections_of_backed h
  expiries _ _ _ := expiries_of_backed h

/-- From a state without obligations, every lock covers its obligations at all times, so that
neither an unbonding nor a rejection nor an expiry finds it too small. -/
theorem locks_stay_backed (env : Env) (s : ProtocolState) (changes : List Change)
    (hchallenges : s.store.openChallenges = ∅) (hproposals : s.store.paramsUpdateProposals = ∅)
    (hqueue : s.store.unbondingQueue = [])
    (hexact : Meets (Change.step env) (Change.Exact env) s changes) :
    (run (Change.step env) s changes).Releasable env := by
  have hstart := backed_start hchallenges hproposals hqueue
  have hbacked : (run (Change.step env) s changes).Backed :=
    run_invariant (fun _ _ => backed_change) hexact hstart
  exact hbacked.releasable

/-- With Alice's challenge open, three of her coins are locked for it. -/
theorem locks_stay_backed_challenge :
    (run (Change.step (Sample.env .panic)) Sample.challengeable [.operation
      (.executeBlock ⟨2, [.openChallenge Sample.openChallenge]⟩)]).obligations Sample.alice = 3 ∧
    (run (Change.step (Sample.env .panic)) Sample.challengeable [.operation
      (.executeBlock ⟨2, [.openChallenge Sample.openChallenge]⟩)]).Releasable (Sample.env .panic) :=
  ⟨by decide +kernel, locks_stay_backed (Sample.env .panic) Sample.challengeable _ rfl rfl rfl
    ⟨.inl rfl, trivial⟩⟩

end PoleProtocol.Ledger
