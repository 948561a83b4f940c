import PoleProtocol.Framework.TimedQueue
import PoleProtocol.Ledger.Delegation

/-!
# The unbonding queue

An unbonding takes stake out of a delegation and queues it until its unlock height; the first later
block that reaches the height credits it. The staked amount of an account follows its delegations,
and the queue of the ledger is a queue with due times.
-/

namespace PoleProtocol.Ledger

open Framework OrderedMap Action

variable {env : Env} {s s' t : ProtocolState}

/-! ## What is read off an account -/

namespace ProtocolState

/-- A number stored in an account; no account stores nothing. -/
def readOf (f : AccountState → ℕ) (s : ProtocolState) (a : Address) : ℕ :=
  (s.store.accounts[a]?.map f).getD 0

def balanceOf (s : ProtocolState) (a : Address) : ℕ := s.readOf (·.balance) a

def stakedOf (s : ProtocolState) (a : Address) : ℕ := s.readOf (·.staked) a

/-- The stake in the delegations of an account. -/
def delegatedBy (s : ProtocolState) (a : Address) : ℕ := s.delegatedWhere fun key => key.1 = a

end ProtocolState

section Accounts

variable {f : AccountState → ℕ} {address : Address} {account account' : AccountState}

theorem readOf_of_get (hget : s.store.accounts[address]? = some account) :
    s.readOf f address = f account := by
  rw [ProtocolState.readOf, hget]
  rfl

theorem readOf_insert (h : t.store.accounts = s.store.accounts.insert address account') (a : Address) :
    t.readOf f a = if address = a then f account' else s.readOf f a := by
  rw [ProtocolState.readOf, h, get_insert]
  split <;> rfl

theorem readOf_of_same (h : t.store.accounts = s.store.accounts) (a : Address) :
    t.readOf f a = s.readOf f a := by
  rw [ProtocolState.readOf, h]
  rfl

/-- An account that is stored again with the same number. -/
theorem readOf_insert_same (hget : s.store.accounts[address]? = some account)
    (h : t.store.accounts = s.store.accounts.insert address account')
    (hsame : f account' = f account) (a : Address) : t.readOf f a = s.readOf f a := by
  rw [readOf_insert h]
  split
  · next heq =>
      subst heq
      rw [readOf_of_get hget, hsame]
  · rfl

end Accounts

/-! ## Stake -/

/-- Staked amounts have changed by what the delegations have. -/
def FollowsDelegations (s t : ProtocolState) : Prop :=
  ∀ a, t.stakedOf a + s.delegatedBy a = s.stakedOf a + t.delegatedBy a

instance : Std.Refl FollowsDelegations := ⟨fun _ _ => rfl⟩

instance : IsTrans ProtocolState FollowsDelegations where
  trans r s t hrs hst a := by
    have hfirst := hrs a
    have hsecond := hst a
    omega

theorem follows_of_same (hstaked : ∀ a, t.stakedOf a = s.stakedOf a)
    (hdelegations : t.store.delegations = s.store.delegations) : FollowsDelegations s t := by
  intro a
  rw [hstaked, ProtocolState.delegatedBy, ProtocolState.delegatedBy,
    delegatedWhere_of_same hdelegations]

theorem follows_insertAccount {address : Address} {account account' : AccountState}
    (hget : s.store.accounts[address]? = some account)
    (haccounts : t.store.accounts = s.store.accounts.insert address account')
    (hstaked : account'.staked = account.staked)
    (hdelegations : t.store.delegations = s.store.delegations) : FollowsDelegations s t :=
  follows_of_same (readOf_insert_same hget haccounts hstaked) hdelegations

/-- One account moves as much stake as its delegations. -/
theorem follows_moved {address : Address} {account account' : AccountState}
    (hget : s.store.accounts[address]? = some account)
    (haccounts : t.store.accounts = s.store.accounts.insert address account')
    (hself : account'.staked + s.delegatedBy address = account.staked + t.delegatedBy address)
    (hothers : ∀ a, address ≠ a → t.delegatedBy a = s.delegatedBy a) : FollowsDelegations s t := by
  intro a
  have hstaked : t.stakedOf a = if address = a then account'.staked else s.stakedOf a :=
    readOf_insert haccounts a
  rw [hstaked]
  split
  · next hsame =>
      subst hsame
      have hbefore : s.stakedOf address = account.staked := readOf_of_get hget
      rw [hbefore]
      exact hself
  · next hother => rw [hothers a hother]

theorem follows_stake {tx : StakeTx} {node : NodeRegistry} {delegator delegator' : AccountState}
    {amount : ℕ} (hwide : env.wide = .panic)
    (hget : s.store.accounts[tx.delegator]? = some delegator)
    (hdebit : tx.debit env delegator = .ok delegator')
    (hdelegated : env.add128 (s.delegated tx.delegator tx.operator) tx.amount = .ok amount) :
    FollowsDelegations s
      (((s.insertAccount tx.delegator delegator').insertNode tx.operator node).insertDelegation
        { delegator := tx.delegator, operator := tx.operator, amount }) := by
  obtain ⟨_, _, staked, hsum, nonce, _, rfl⟩ := stakeDebit_ok.mp hdebit
  obtain rfl := add128_exact hwide hsum
  obtain rfl := add128_exact hwide hdelegated
  generalize hafter : ((s.insertAccount tx.delegator _).insertNode tx.operator
    node).insertDelegation _ = t
  have hdelegations : ∀ a, t.delegatedBy a =
      s.delegatedBy a + if tx.delegator = a then tx.amount else 0 := by
    subst hafter
    exact fun a => delegatedWhere_stake (p := fun key => key.1 = a) tx.delegator tx.operator rfl
  refine follows_moved hget (by subst hafter; rfl) ?_ fun a hother => ?_
  · rw [hdelegations, if_pos rfl]
    dsimp only
    omega
  · rw [hdelegations, if_neg hother]
    rfl

theorem follows_unbond {tx : UnbondTx} {node : NodeRegistry} {delegator delegator' : AccountState}
    {existing : DelegationRecord} {request : UnbondingRecord}
    (hexisting : s.store.delegations[(tx.delegator, tx.operator)]? = some existing)
    (hcovered : tx.amount ≤ existing.amount)
    (hget : s.store.accounts[tx.delegator]? = some delegator)
    (hlock : tx.lock env delegator = .ok delegator') :
    FollowsDelegations s
      ((((s.insertAccount tx.delegator delegator').insertNode tx.operator node).reduceDelegation tx
        (existing.amount - tx.amount)).queueUnbonding request) := by
  obtain ⟨_, hstaked, locked, _, nonce, _, rfl⟩ := unbondLock_ok.mp hlock
  have hreduced : ∀ a, ((((s.insertAccount tx.delegator { delegator with
      staked := delegator.staked - tx.amount, locked, nonce }).insertNode tx.operator
        node).reduceDelegation tx (existing.amount - tx.amount)).queueUnbonding
          request).delegatedBy a + (if tx.delegator = a then tx.amount else 0) = s.delegatedBy a :=
    fun a => delegatedWhere_reduce (p := fun key => key.1 = a) rfl hexisting hcovered
  have haccounts : ((((s.insertAccount tx.delegator { delegator with
      staked := delegator.staked - tx.amount, locked, nonce }).insertNode tx.operator
        node).reduceDelegation tx (existing.amount - tx.amount)).queueUnbonding
          request).store.accounts = s.store.accounts.insert tx.delegator { delegator with
            staked := delegator.staked - tx.amount, locked, nonce } := by
    unfold ProtocolState.reduceDelegation
    split <;> rfl
  refine follows_moved hget haccounts ?_ fun a hother => ?_
  · have hself := hreduced tx.delegator
    rw [if_pos rfl] at hself
    dsimp only
    omega
  · have hsame := hreduced a
    rw [if_neg hother] at hsame
    exact hsame

theorem follows_unlock {address : Address} {account account' : AccountState} {amount credit : ℕ}
    (hget : s.store.accounts[address]? = some account)
    (hunlock : unlockBondToBalance env account amount credit = .ok account')
    (haccounts : t.store.accounts = s.store.accounts.insert address account')
    (hdelegations : t.store.delegations = s.store.delegations) : FollowsDelegations s t := by
  obtain ⟨_, balance, _, rfl⟩ := unlockBondToBalance_ok.mp hunlock
  exact follows_insertAccount hget haccounts rfl hdelegations

theorem follows_scheduling {proposalId : Hash32} (h : Scheduling env proposalId s t) :
    FollowsDelegations s t := by
  cases h with
  | none => exact Std.Refl.refl s
  | full _ hget hunlock => exact follows_unlock hget hunlock rfl rfl

theorem follows_applied (hwide : env.wide = .panic) {tx : Transaction} (h : Applied env tx s t) :
    FollowsDelegations s t := by
  cases h with
  | @transfer _ tx sender sender' recipient balance hget hdebit hrecipient _ =>
      obtain ⟨_, _, nonce, _, rfl⟩ := debit_ok.mp hdebit
      have hdebited : FollowsDelegations s (s.insertAccount tx.sender
          { sender with balance := sender.balance - saturatingAdd128 tx.amount tx.fee, nonce }) :=
        follows_insertAccount hget rfl rfl rfl
      exact IsTrans.trans _ _ _ hdebited (follows_insertAccount hrecipient rfl rfl rfl)
  | stake _ _ hget hdebit _ hdelegated => exact follows_stake hwide hget hdebit hdelegated
  | unbond _ hexisting hcovered hget hlock _ _ _ => exact follows_unbond hexisting hcovered hget hlock
  | submitBatch | commitEpoch | challengeResponse => exact follows_of_same (readOf_of_same rfl) rfl
  | openChallenge _ _ _ _ hget hlock =>
      obtain ⟨_, locked, _, rfl⟩ := lockBond_ok.mp hlock
      exact follows_insertAccount hget rfl rfl rfl
  | claimReward _ hget _ => exact follows_insertAccount hget rfl rfl rfl
  | @vote _ _ tx voter voter' _ hget hauthorize hscheduling =>
      obtain ⟨_, _, _, _, nonce, _, rfl⟩ := authorize_ok.mp hauthorize
      have hvoted : FollowsDelegations s
          ((s.insertAccount tx.voter { voter with nonce }).insertVote tx) :=
        follows_insertAccount hget rfl rfl rfl
      exact IsTrans.trans _ _ _ hvoted (follows_scheduling hscheduling)
  | proposeProtocolParamsUpdate _ hget hlock =>
      obtain ⟨_, _, locked, _, nonce, _, rfl⟩ := proposeLock_ok.mp hlock
      exact follows_insertAccount hget rfl rfl rfl

theorem follows_resolve {challengeId : Hash32} {resolution : ChallengeResolution}
    (h : Returns (resolveChallenge env challengeId resolution) s s') : FollowsDelegations s s' := by
  refine resolve_returns (fun t t' hresolved => ?_) (fun t t' hdropped => ?_) h
  · cases hresolved with
    | reject _ hget _ => exact follows_insertAccount hget rfl rfl rfl
    | uphold _ _ _ _ _ _ hget _ hunlock => exact follows_unlock hget hunlock rfl rfl
  · cases hdropped <;> exact follows_of_same (readOf_of_same rfl) rfl

theorem follows_finalizeEpoch {epochId : ℕ} (h : Returns (finalizeEpoch env epochId) s s') :
    FollowsDelegations s s' := by
  refine finalize_related ?_ ?_ ?_ ?_ ?_ h
  · exact fun _ => follows_of_same (readOf_of_same rfl) rfl
  · exact fun _ _ => follows_of_same (readOf_of_same rfl) rfl
  · exact fun _ _ _ => follows_of_same (readOf_of_same rfl) rfl
  · exact fun _ _ _ _ _ => follows_of_same (readOf_of_same rfl) rfl
  · exact fun _ _ _ _ hget _ => follows_insertAccount hget rfl rfl rfl

/-! ## The queue -/

/-- The request that a transaction puts into the queue, at a height and with the parameters there. -/
def Transaction.request (height : ℕ) (params : ProtocolParams) :
    Transaction → Option UnbondingRecord
  | .unbond tx => some
      { delegator := tx.delegator
        operator := tx.operator
        amount := tx.amount
        unlockHeight := height + params.unbondingBlocks }
  | _ => none

/-- The transaction leaves the clock alone, and queues its request at the end. -/
structure Queues (tx : Transaction) (s t : ProtocolState) : Prop where
  height : t.height = s.height
  params : t.params = s.params
  queue : t.store.unbondingQueue =
    s.store.unbondingQueue ++ (tx.request s.height s.params).toList

theorem queues_nothing {tx : Transaction} (hrequest : tx.request s.height s.params = none)
    (hheight : t.height = s.height) (hparams : t.params = s.params)
    (hqueue : t.store.unbondingQueue = s.store.unbondingQueue) : Queues tx s t := by
  refine ⟨hheight, hparams, ?_⟩
  rw [hrequest, hqueue]
  exact (List.append_nil _).symm

theorem add64_exact {a b c : ℕ} (hfits : env.narrow = .wrap → a + b < 2 ^ 64)
    (h : env.add64 a b = .ok c) : c = a + b := by
  have hsum := require_eq_ok.mp h
  cases hpolicy : env.narrow with
  | panic =>
      rw [hpolicy] at hsum
      exact (Overflow.panic_add.mp hsum).2
  | wrap => exact Overflow.eq_of_add (hfits hpolicy) hsum

/-- In a build that wraps, the request unlocks at a height. -/
def UnbondingRecord.Fits (env : Env) (request : UnbondingRecord) : Prop :=
  env.narrow = .wrap → request.unlockHeight < 2 ^ 64

theorem queues_applied {tx : Transaction}
    (hfits : ∀ request ∈ tx.request s.height s.params, request.Fits env)
    (h : Applied env tx s t) : Queues tx s t := by
  cases h with
  | @unbond _ tx node delegator delegator' existing unlockHeight _ _ _ _ _ _ _ hunlock =>
      have hexact : unlockHeight = s.height + s.params.unbondingBlocks :=
        add64_exact (hfits _ rfl) hunlock
      subst hexact
      unfold ProtocolState.reduceDelegation
      split <;> exact ⟨rfl, rfl, rfl⟩
  | vote _ _ _ hscheduling =>
      cases hscheduling <;> exact queues_nothing rfl rfl rfl rfl
  | transfer | stake | submitBatch | commitEpoch | openChallenge | challengeResponse | claimReward
    | proposeProtocolParamsUpdate => exact queues_nothing rfl rfl rfl rfl

/-- The requests of transactions that are applied at one height. -/
def requestsOf (height : ℕ) (params : ProtocolParams) (txs : List Transaction) :
    List UnbondingRecord :=
  txs.flatMap fun tx => (tx.request height params).toList

theorem queues_transactions {txs : List Transaction} {effects : List TransitionEffect}
    (hfits : ∀ request ∈ requestsOf s.height s.params txs, request.Fits env)
    (h : (txs.mapM fun tx : Transaction => tx.apply env).run s = .ok effects t) :
    t.height = s.height ∧ t.params = s.params ∧
      t.store.unbondingQueue = s.store.unbondingQueue ++ requestsOf s.height s.params txs := by
  have hend := mapM_along
    (I := fun rest u => u.height = s.height ∧ u.params = s.params ∧
      (∀ request ∈ requestsOf s.height s.params rest, request.Fits env) ∧
      u.store.unbondingQueue ++ requestsOf s.height s.params rest =
        s.store.unbondingQueue ++ requestsOf s.height s.params txs) ?_ ⟨rfl, rfl, hfits, rfl⟩ h
  · obtain ⟨hheight, hparams, _, hqueue⟩ := hend
    refine ⟨hheight, hparams, ?_⟩
    rw [← hqueue]
    exact (List.append_nil _).symm
  · rintro tx rest u effect u' ⟨hheight, hparams, hfits, hqueue⟩ hok
    have hcons : requestsOf s.height s.params (tx :: rest) =
        (tx.request u.height u.params).toList ++ requestsOf s.height s.params rest := by
      rw [hheight, hparams]
      exact List.flatMap_cons
    rw [hcons] at hfits hqueue
    have hqueues : Queues tx u u' := by
      refine queues_applied (fun request hmem => hfits request ?_) (applied_of_ok tx hok)
      exact List.mem_append_left _ (Option.mem_toList.mpr hmem)
    refine ⟨hqueues.height.trans hheight, hqueues.params.trans hparams, fun request hmem => ?_, ?_⟩
    · exact hfits request (List.mem_append_right _ hmem)
    · rw [hqueues.queue, List.append_assoc]
      exact hqueue

/-! ## Maturing -/

/-- The requests were credited, and nothing else has changed. -/
structure Released (requests : List UnbondingRecord) (s t : ProtocolState) : Prop where
  credited : ∀ a, t.balanceOf a = s.balanceOf a + unbondings requests a
  unlocked : ∀ a, t.lockedOf a + unbondings requests a = s.lockedOf a
  others : t = { s with store := { s.store with accounts := t.store.accounts } }
  follows : FollowsDelegations s t

theorem released_one (hwide : env.wide = .panic) {request : UnbondingRecord}
    {effect : TransitionEffect} (hok : (releaseUnbond env request).run s = .ok effect t) :
    Released [request] s t := by
  obtain ⟨account, account', hget, hunlock, rfl⟩ := releaseUnbond_ok hok
  have hfollows : FollowsDelegations s (s.insertAccount request.delegator account') :=
    follows_unlock hget hunlock rfl rfl
  obtain ⟨hcovered, balance, hsum, rfl⟩ := unlockBondToBalance_ok.mp hunlock
  obtain rfl := add128_exact hwide hsum
  have howes : ∀ a, unbondings [request] a = if request.delegator = a then request.amount else 0 :=
    fun _ => List.sum_singleton
  refine ⟨fun a => ?_, fun a => ?_, rfl, hfollows⟩
  · rw [howes, ProtocolState.balanceOf, readOf_insert (s := s) rfl]
    split
    · next hsame =>
        subst hsame
        have hbefore : s.balanceOf request.delegator = account.balance := readOf_of_get hget
        rw [hbefore]
    · rfl
  · rw [howes, lockedOf_insertAccount]
    split
    · next hsame =>
        subst hsame
        rw [lockedOf_of_get hget]
        exact Nat.sub_add_cancel hcovered
    · rfl

theorem Released.trans {first second : List UnbondingRecord} {u : ProtocolState}
    (h : Released first s t) (h' : Released second t u) : Released (first ++ second) s u := by
  have hsplit : ∀ a, unbondings (first ++ second) a = unbondings first a + unbondings second a := by
    intro a
    simp [unbondings]
  refine ⟨fun a => ?_, fun a => ?_, ?_, IsTrans.trans _ _ _ h.follows h'.follows⟩
  · have hfirst := h.credited a
    have hsecond := h'.credited a
    have hboth := hsplit a
    omega
  · have hfirst := h.unlocked a
    have hsecond := h'.unlocked a
    have hboth := hsplit a
    omega
  · rw [h'.others, h.others]

/-- A loop that returns has credited every request. -/
theorem released_all (hwide : env.wide = .panic) {requests : List UnbondingRecord}
    {effects : List TransitionEffect}
    (hok : (requests.mapM (releaseUnbond env)).run s = .ok effects t) : Released requests s t := by
  induction requests generalizing s effects with
  | nil =>
      cases hok
      exact ⟨fun _ => rfl, fun _ => rfl, rfl, Std.Refl.refl _⟩
  | cons request requests ih =>
      rw [List.mapM_cons] at hok
      obtain ⟨effect, u, hfirst, hok⟩ := bind_ok.mp hok
      obtain ⟨rest, v, hloop, hreturn⟩ := bind_ok.mp hok
      cases hreturn
      exact (released_one hwide hfirst).trans (ih hloop)

theorem processMatureUnbonds_released (hwide : env.wide = .panic)
    {effects : List TransitionEffect} (hok : (processMatureUnbonds env).run s = .ok effects t) :
    Released s.mature s.drain t := by
  rw [processMatureUnbonds_run] at hok
  exact released_all hwide hok

/-! ## Operations -/

namespace Operation

/-- The height at which an operation credits what is due, if it does. -/
def clock (s : ProtocolState) : Operation → Option ℕ
  | .executeBlock block => some block.height
  | .other .processMatureUnbonds => some s.height
  | .other _ => none

/-- The height of the transactions of an operation. -/
def heightAt (s : ProtocolState) : Operation → ℕ
  | .executeBlock block => block.height
  | .other _ => s.height

/-- The requests that an operation queues when it succeeds. -/
def requests (s : ProtocolState) (op : Operation) : List UnbondingRecord :=
  requestsOf (op.heightAt s) s.params op.transactions

/-- The requests that an operation credits. -/
def matured (s : ProtocolState) (op : Operation) : List UnbondingRecord :=
  match op.clock s with
  | some clock => s.store.unbondingQueue.filter fun request => request.unlockHeight ≤ clock
  | none => []

/-- The requests that an operation leaves in the queue. -/
def kept (s : ProtocolState) (op : Operation) : List UnbondingRecord :=
  match op.clock s with
  | some clock => s.store.unbondingQueue.filter fun request => clock < request.unlockHeight
  | none => s.store.unbondingQueue

/-- The state in which the transactions of an operation start: what is due is credited. -/
def released (env : Env) (s : ProtocolState) : Operation → ProtocolState
  | .executeBlock block => (processMatureUnbonds env).finish { s with height := block.height }
  | .other .processMatureUnbonds => (processMatureUnbonds env).finish s
  | .other _ => s

/-- An operation credits each request that is due, leaves the others in their order, lets its
transactions follow, and queues their requests at the end. -/
structure Matures (env : Env) (op : Operation) (s t : ProtocolState) : Prop where
  height : t.height = op.heightAt s
  queue : t.store.unbondingQueue = op.kept s ++ op.requests s
  credited : ∀ a, (op.released env s).balanceOf a = s.balanceOf a + unbondings (op.matured s) a
  unlocked : ∀ a, (op.released env s).lockedOf a + unbondings (op.matured s) a = s.lockedOf a
  rest : (op.clock s).isSome → ∃ effects,
    (op.transactions.mapM fun tx : Transaction => tx.apply env).run (op.released env s) =
      .ok effects t

end Operation

theorem executeBlock_ok {block : Block} {u : Unit}
    (h : ((Operation.executeBlock block).perform env).run s = .ok u t) :
    s.height < block.height ∧ ∃ matured m applied,
      (processMatureUnbonds env).run { s with height := block.height } = .ok matured m ∧
      (block.transactions.mapM fun tx : Transaction => tx.apply env).run m = .ok applied t := by
  obtain ⟨effects, _, hblock, hreturn⟩ := bind_ok.mp h
  cases hreturn
  rw [executeBlock, get_bind] at hblock
  split at hblock
  · cases hblock
  · next hheights =>
      rw [modify_bind] at hblock
      obtain ⟨matured, m, hmature, hblock⟩ := bind_ok.mp hblock
      rw [mapM_mapError] at hblock
      obtain ⟨applied, _, htxs, hreturn⟩ := bind_ok.mp hblock
      cases hreturn
      exact ⟨Nat.not_le.mp hheights, matured, m, applied, mapError_ok.mp hmature,
        mapError_ok.mp htxs⟩

/-- A successful operation credits first and then applies its transactions, or does not touch the
queue. -/
theorem perform_ok {op : Operation} {u : Unit} (h : (op.perform env).run s = .ok u t) :
    (∃ clock matured applied, op.clock s = some clock ∧ op.heightAt s = clock ∧ s.height ≤ clock ∧
      (processMatureUnbonds env).run { s with height := clock } =
        .ok matured (op.released env s) ∧
      (op.transactions.mapM fun tx : Transaction => tx.apply env).run (op.released env s) =
        .ok applied t) ∨
    (op.clock s = none ∧ op.heightAt s = s.height ∧ op.released env s = s ∧
      ((∃ applied, (op.transactions.mapM fun tx : Transaction => tx.apply env).run s =
          .ok applied t) ∨
        op.transactions = [] ∧ t.height = s.height ∧
          t.store.unbondingQueue = s.store.unbondingQueue ∧ FollowsDelegations s t)) := by
  cases op with
  | executeBlock block =>
      obtain ⟨hraised, matured, m, applied, hmature, htxs⟩ := executeBlock_ok h
      have hreleased : (Operation.executeBlock block).released env s = m := finish_of_ok hmature
      refine .inl ⟨block.height, matured, applied, rfl, rfl, hraised.le, ?_, ?_⟩
      · rw [hreleased]
        exact hmature
      · rw [hreleased]
        exact htxs
  | other call =>
      have hcall : (call.perform env).run s = .ok u t := mapError_ok.mp h
      cases call with
      | transaction tx =>
          obtain ⟨effect, _, htx, hreturn⟩ := bind_ok.mp hcall
          cases hreturn
          refine .inr ⟨rfl, rfl, rfl, .inl ⟨[effect], ?_⟩⟩
          change (List.mapM (fun tx : Transaction => tx.apply env) [tx]).run s = _
          rw [List.mapM_cons]
          exact bind_ok.mpr ⟨effect, t, htx, rfl⟩
      | processMatureUnbonds =>
          obtain ⟨effects, _, hmature, hreturn⟩ := bind_ok.mp hcall
          cases hreturn
          have hreleased : (Operation.other .processMatureUnbonds).released env s = t :=
            finish_of_ok hmature
          refine .inl ⟨s.height, effects, [], rfl, rfl, le_rfl, ?_, ?_⟩
          · rw [hreleased]
            exact hmature
          · rw [hreleased]
            rfl
      | resolveChallenge challengeId resolution =>
          obtain ⟨effect, _, hresolve, hreturn⟩ := bind_ok.mp hcall
          cases hreturn
          refine .inr ⟨rfl, rfl, rfl, .inr ⟨rfl, ?_, ?_, follows_resolve (.inl ⟨_, hresolve⟩)⟩⟩
          · cases resolved_of_ok hresolve <;> rfl
          · cases resolved_of_ok hresolve <;> rfl
      | finalizeEpoch epochId =>
          obtain ⟨effect, _, hfinalize, hreturn⟩ := bind_ok.mp hcall
          cases hreturn
          have hsame : SameField (fun u : ProtocolState => (u.height, u.store.unbondingQueue)) s t :=
            finalize_related (fun _ => rfl) (fun _ _ => rfl) (fun _ _ _ => rfl)
              (fun _ _ _ _ _ => rfl) (fun _ _ _ _ _ _ => rfl) (.inl ⟨_, hfinalize⟩)
          exact .inr ⟨rfl, rfl, rfl, .inr ⟨rfl, congrArg Prod.fst hsame, congrArg Prod.snd hsame,
            follows_finalizeEpoch (.inl ⟨_, hfinalize⟩)⟩⟩
      | scheduleProtocolParamsUpdate effectiveEpoch params =>
          obtain ⟨_, _, rfl⟩ := scheduleProtocolParamsUpdate_ok.mp hcall
          exact .inr ⟨rfl, rfl, rfl, .inr ⟨rfl, rfl, rfl, follows_of_same (readOf_of_same rfl) rfl⟩⟩

theorem follows_transactions (hwide : env.wide = .panic) {txs : List Transaction}
    {effects : List TransitionEffect}
    (h : (txs.mapM fun tx : Transaction => tx.apply env).run s = .ok effects t) :
    FollowsDelegations s t :=
  mapM_along (I := fun _ u => FollowsDelegations s u) (fun tx _ _ _ _ hbefore hok =>
    IsTrans.trans _ _ _ hbefore (follows_applied hwide (applied_of_ok tx hok))) (Std.Refl.refl s) h

theorem perform_checked {op : Operation} {u : Unit} (hexact : op.Exact env s)
    (h : (op.perform env).run s = .ok u t) : (op.perform env.checked).run s = .ok u t := by
  rcases hexact with hwide | hcalm
  · rw [show env.checked = env by cases env; cases hwide; rfl]
    exact h
  · rw [← agrees_operation env op s hcalm]
    exact h

/-- What is credited does not depend on the build, as long as the operation is exact. -/
theorem released_checked {op : Operation} {u : Unit} (hexact : op.Exact env s)
    (h : (op.perform env).run s = .ok u t) : op.released env s = op.released env.checked s := by
  rcases perform_ok h with ⟨clock, matured, _, hclock, _, _, hmature, _⟩ | ⟨hnone, _, hsame, _⟩
  · rcases perform_ok (perform_checked hexact h) with
      ⟨clock', _, _, hclock', _, _, hmature', _⟩ | ⟨hnone, _⟩
    · cases hclock.symm.trans hclock'
      have hagree := agrees_processMatureUnbonds env _ (calm_of_ok hmature')
      rw [hmature, hmature'] at hagree
      exact (EStateM.Result.ok.inj hagree).2
    · cases hclock.symm.trans hnone
  · rcases perform_ok (perform_checked hexact h) with ⟨clock, _, _, hclock, _⟩ | ⟨_, _, hsame', _⟩
    · cases hclock.symm.trans hnone
    · rw [hsame, hsame']

theorem requests_fits {op : Operation} {height : ℕ} {params : ProtocolParams}
    (hheight : height = op.heightAt s) (hparams : params = s.params)
    (hfits : ∀ request ∈ op.requests s, request.Fits env) :
    ∀ request ∈ requestsOf height params op.transactions, request.Fits env := by
  rw [hheight, hparams]
  exact hfits

theorem matures_of_ok {op : Operation} {u : Unit} (hexact : op.Exact env s)
    (hfits : ∀ request ∈ op.requests s, request.Fits env)
    (h : (op.perform env).run s = .ok u t) : op.Matures env s t := by
  have hreleased := released_checked hexact h
  rcases perform_ok h with ⟨clock, _, applied, hclock, hheight, _, hmature, htxs⟩ |
    ⟨hclock, hheight, hsame, hrest⟩
  · have hchecked : Released { s with height := clock }.mature { s with height := clock }.drain
        (op.released env s) := by
      rcases perform_ok (perform_checked hexact h) with
        ⟨clock', _, _, hclock', _, _, hmature', _⟩ | ⟨hnone, _⟩
      · cases hclock.symm.trans hclock'
        rw [hreleased]
        exact processMatureUnbonds_released rfl hmature'
      · cases hclock.symm.trans hnone
    have hmatured : op.matured s = { s with height := clock }.mature := by
      rw [Operation.matured, hclock]
      rfl
    have hkept : op.kept s = { s with height := clock }.drain.store.unbondingQueue := by
      rw [Operation.kept, hclock]
      rfl
    have hstart : (op.released env s).height = clock ∧ (op.released env s).params = s.params ∧
        (op.released env s).store.unbondingQueue = op.kept s := by
      rw [hchecked.others, hkept]
      exact ⟨rfl, rfl, rfl⟩
    obtain ⟨hstartHeight, hstartParams, hstartQueue⟩ := hstart
    obtain ⟨hend, _, hqueue⟩ := queues_transactions
      (requests_fits (hstartHeight.trans hheight.symm) hstartParams hfits) htxs
    refine ⟨?_, ?_, ?_, ?_, fun _ => ⟨applied, htxs⟩⟩
    · rw [hend, hstartHeight, hheight]
    · rw [hqueue, hstartQueue, hstartHeight, hstartParams, Operation.requests, hheight]
    · rw [hmatured]
      exact hchecked.credited
    · rw [hmatured]
      exact hchecked.unlocked
  · have hmatured : op.matured s = [] := by rw [Operation.matured, hclock]
    have hkept : op.kept s = s.store.unbondingQueue := by rw [Operation.kept, hclock]
    refine ⟨?_, ?_, fun _ => ?_, fun _ => ?_, fun hsome => ?_⟩
    · rcases hrest with ⟨applied, htxs⟩ | ⟨_, hend, _⟩
      · obtain ⟨hend, _⟩ := queues_transactions (requests_fits hheight.symm rfl hfits) htxs
        rw [hend, hheight]
      · rw [hend, hheight]
    · rcases hrest with ⟨applied, htxs⟩ | ⟨hnothing, _, hqueue, _⟩
      · obtain ⟨_, _, hqueue⟩ := queues_transactions (requests_fits hheight.symm rfl hfits) htxs
        rw [hqueue, hkept, Operation.requests, hheight]
      · rw [hqueue, hkept, Operation.requests, hnothing]
        exact (List.append_nil _).symm
    · rw [hsame, hmatured]
      rfl
    · rw [hsame, hmatured]
      rfl
    · rw [hclock] at hsome
      cases hsome

/-- The staked amounts follow the delegations through every successful operation. -/
theorem follows_of_ok {op : Operation} {u : Unit} (hexact : op.Exact env s)
    (h : (op.perform env).run s = .ok u t) : FollowsDelegations s t := by
  rcases perform_ok (perform_checked hexact h) with
    ⟨clock, _, _, _, _, _, hmature, htxs⟩ | ⟨_, _, _, ⟨_, htxs⟩ | ⟨_, _, _, hfollows⟩⟩
  · have hdrained : FollowsDelegations s { s with height := clock }.drain :=
      follows_of_same (readOf_of_same rfl) rfl
    have hcredited := (processMatureUnbonds_released rfl hmature).follows
    exact IsTrans.trans _ _ _ hdrained
      (IsTrans.trans _ _ _ hcredited (follows_transactions rfl htxs))
  · exact follows_transactions rfl htxs
  · exact hfollows

/-! ## Runs of successful operations -/

/-- A ledger whose failed operations are discarded, with the timetable of its unbondings. -/
structure UnbondingJournal where
  state : ProtocolState
  timetable : Timetable UnbondingRecord

/-- What an operation does to the queue: the clock is set, and requests enter. -/
def Operation.events (s : ProtocolState) (op : Operation) : List (QueueEvent UnbondingRecord) :=
  (op.clock s).toList.map .tick ++ (op.requests s).map .enter

namespace UnbondingJournal

def start (s : ProtocolState) : UnbondingJournal := ⟨s, { clock := s.height, waiting := [] }⟩

def next (env : Env) (journal : UnbondingJournal) (op : Operation) : UnbondingJournal :=
  match (op.perform env).run journal.state with
  | .ok _ t => ⟨t, run (Timetable.next (·.unlockHeight)) journal.timetable (op.events journal.state)⟩
  | .error _ _ => journal

/-- No 128-bit sum overflows, and no unlock height does. -/
def Exact (env : Env) (journal : UnbondingJournal) (op : Operation) : Prop :=
  op.Exact env journal.state ∧ ∀ request ∈ op.requests journal.state, request.Fits env

/-- The timetable is that of the ledger's queue, and every entry is punctual. -/
structure Faithful (journal : UnbondingJournal) : Prop where
  clock : journal.timetable.clock = journal.state.height
  waiting : journal.timetable.waiting = journal.state.store.unbondingQueue
  punctual : journal.timetable.Punctual (·.unlockHeight)

end UnbondingJournal

theorem requests_ahead (op : Operation) :
    ∀ request ∈ op.requests s, op.heightAt s ≤ request.unlockHeight := by
  intro request hmem
  obtain ⟨tx, _, hrequest⟩ := List.mem_flatMap.mp hmem
  cases tx with
  | unbond tx =>
      obtain rfl := Option.mem_some.mp (Option.mem_toList.mp hrequest)
      exact Nat.le_add_right _ _
  | _ => cases hrequest

/-- The timetable after the events of an operation. -/
theorem run_events (q : Timetable UnbondingRecord) (op : Operation)
    (hwaiting : q.waiting = s.store.unbondingQueue) :
    (run (Timetable.next (·.unlockHeight)) q (op.events s)).waiting = op.kept s ++ op.requests s ∧
    (run (Timetable.next (·.unlockHeight)) q (op.events s)).clock = (op.clock s).getD q.clock := by
  rw [Operation.events, run_append, Timetable.run_enter, Operation.kept]
  cases op.clock s with
  | none => exact ⟨congrArg (· ++ _) hwaiting, rfl⟩
  | some clock =>
      refine ⟨congrArg (· ++ _) ?_, rfl⟩
      change q.waiting.filter _ = _
      rw [hwaiting]

theorem clock_getD (op : Operation) : (op.clock s).getD s.height = op.heightAt s := by
  cases op with
  | executeBlock block => rfl
  | other call => cases call <;> rfl

/-- What leaves the timetable with the events of an operation is what the operation credits. -/
theorem departed_events (q : Timetable UnbondingRecord) (op : Operation)
    (hclock : q.clock = s.height) (hwaiting : q.waiting = s.store.unbondingQueue) :
    (run (Timetable.next (·.unlockHeight)) q (op.events s)).departed =
      q.departed ++ (op.matured s).map fun request => ⟨request, s.height, op.heightAt s⟩ := by
  rw [Operation.events, run_append, Timetable.run_enter, Operation.matured, ← clock_getD,
    ← hclock, ← hwaiting]
  cases op.clock s with
  | none => exact (List.append_nil _).symm
  | some clock => rfl

/-- The clock of a successful operation does not run backwards. -/
theorem le_clock {op : Operation} {u : Unit} {clock : ℕ} (h : (op.perform env).run s = .ok u t)
    (hclock : op.clock s = some clock) : s.height ≤ clock := by
  rcases perform_ok h with ⟨clock', _, _, hclock', _, hle, _⟩ | ⟨hnone, _⟩
  · cases hclock.symm.trans hclock'
    exact hle
  · cases hclock.symm.trans hnone

theorem admits_events {q : Timetable UnbondingRecord} {op : Operation} {u : Unit}
    (hclock : q.clock = s.height) (h : (op.perform env).run s = .ok u t) :
    Meets (Timetable.next (·.unlockHeight)) (Timetable.Admits (·.unlockHeight)) q
      (op.events s) := by
  refine (meets_append _ _ _ _ _).mpr ⟨?_, Timetable.meets_enter fun request hmem => ?_⟩
  · cases hticks : op.clock s with
    | none => exact trivial
    | some clock => exact ⟨hclock.le.trans (le_clock h hticks), trivial⟩
  · have hat : (run (Timetable.next (·.unlockHeight)) q
        ((op.clock s).toList.map .tick)).clock = op.heightAt s := by
      rw [← clock_getD, ← hclock]
      cases op.clock s <;> rfl
    rw [hat]
    exact requests_ahead op request hmem

theorem faithful_next {journal : UnbondingJournal} {op : Operation}
    (hexact : journal.Exact env op) (h : journal.Faithful) : (journal.next env op).Faithful := by
  unfold UnbondingJournal.next
  cases hrun : (op.perform env).run journal.state with
  | error e t => exact h
  | ok u t =>
      have hmatures := matures_of_ok hexact.1 hexact.2 hrun
      obtain ⟨hwaiting, hclock⟩ := run_events journal.timetable op h.waiting
      refine ⟨?_, ?_, Timetable.punctual_run h.punctual (admits_events h.clock hrun)⟩
      · change (run _ journal.timetable (op.events journal.state)).clock = t.height
        rw [hclock, h.clock, clock_getD, hmatures.height]
      · change (run _ journal.timetable (op.events journal.state)).waiting = _
        rw [hwaiting, hmatures.queue]

/-- What holds of stake and unbondings after a run of operations. -/
structure StakeLedger (env : Env) (s : ProtocolState) (ops : List Operation) : Prop where
  staked : ∀ a, (run (UnbondingJournal.next env) (.start s) ops).state.stakedOf a =
    s.stakedOf a + (run (UnbondingJournal.next env) (.start s) ops).state.delegatedBy a
  matures : ∀ before op after u t, ops = before ++ op :: after →
    (op.perform env).run (run (UnbondingJournal.next env) (.start s) before).state = .ok u t →
    op.Matures env (run (UnbondingJournal.next env) (.start s) before).state t
  departs : ∀ before op after u t, ops = before ++ op :: after →
    (op.perform env).run (run (UnbondingJournal.next env) (.start s) before).state = .ok u t →
    (run (UnbondingJournal.next env) (.start s) (before ++ [op])).timetable.departed =
      (run (UnbondingJournal.next env) (.start s) before).timetable.departed ++
        (op.matured (run (UnbondingJournal.next env) (.start s) before).state).map fun request =>
          ⟨request, (run (UnbondingJournal.next env) (.start s) before).state.height, t.height⟩
  faithful : (run (UnbondingJournal.next env) (.start s) ops).Faithful

/-- From a state without delegations and unbondings, staked amounts follow the delegations, and
every request is credited once, by the first later operation that reaches its unlock height. -/
theorem unbondings_credited_once (env : Env) (s : ProtocolState) (ops : List Operation)
    (hdelegations : s.store.delegations = ∅) (hqueue : s.store.unbondingQueue = [])
    (hexact : Meets (UnbondingJournal.next env) (UnbondingJournal.Exact env) (.start s) ops) :
    StakeLedger env s ops := by
  have hstart : (UnbondingJournal.start s).Faithful :=
    ⟨rfl, hqueue.symm, Timetable.punctual_empty _⟩
  have hlaws : ∀ before op after u t, ops = before ++ op :: after →
      (op.perform env).run (run (UnbondingJournal.next env) (.start s) before).state = .ok u t →
      op.Matures env (run (UnbondingJournal.next env) (.start s) before).state t ∧
        (run (UnbondingJournal.next env) (.start s) before).Faithful := by
    rintro before op after u t rfl hok
    obtain ⟨hbefore, hfits, _⟩ := (meets_append _ _ _ _ _).mp hexact
    exact ⟨matures_of_ok hfits.1 hfits.2 hok,
      run_invariant (fun _ _ => faithful_next) hbefore hstart⟩
  refine ⟨fun a => ?_, ?_, ?_, run_invariant (fun _ _ => faithful_next) hexact hstart⟩
  · have hfollows : FollowsDelegations s
        (run (UnbondingJournal.next env) (.start s) ops).state := by
      refine run_invariant (P := fun journal : UnbondingJournal =>
        FollowsDelegations s journal.state) ?_ hexact (Std.Refl.refl s)
      intro journal op hmeets hbefore
      unfold UnbondingJournal.next
      cases hrun : (op.perform env).run journal.state with
      | error e t => exact hbefore
      | ok u t => exact IsTrans.trans _ _ _ hbefore (follows_of_ok hmeets.1 hrun)
    have hnothing : s.delegatedBy a = 0 := by
      rw [ProtocolState.delegatedBy, ProtocolState.delegatedWhere, hdelegations, total_empty]
    have hboth := hfollows a
    omega
  · exact fun before op after u t hsplit hok => (hlaws before op after u t hsplit hok).1
  · intro before op after u t hsplit hok
    obtain ⟨hmatures, hfaithful⟩ := hlaws before op after u t hsplit hok
    rw [run_append, run_cons, run_nil, hmatures.height,
      ← departed_events _ op hfaithful.clock hfaithful.waiting, UnbondingJournal.next, hok]

namespace Sample

/-- Alice stakes at height two, unbonds at height three, and is paid at height nine: eight, the
unlock height, is skipped. -/
def roundTrip : List Operation :=
  [.executeBlock ⟨2, [.stake stake]⟩, .executeBlock ⟨3, [.unbond unbond]⟩, .executeBlock ⟨7, []⟩,
    .executeBlock ⟨9, []⟩]

/-- Alice with stake that is in no delegation. -/
def prestaked : ProtocolState :=
  stakeable.insertAccount alice { account alice 10 with staked := 5 }

end Sample

/-- Alice's five coins are back in her balance after the block at height nine, not before. -/
theorem unbondings_credited_once_alice :
    (run (UnbondingJournal.next Sample.stakingEnv) (.start Sample.stakeable)
      (Sample.roundTrip.take 3)).state.balanceOf Sample.alice = 5 ∧
    (run (UnbondingJournal.next Sample.stakingEnv) (.start Sample.stakeable)
      Sample.roundTrip).state.balanceOf Sample.alice = 10 ∧
    StakeLedger Sample.stakingEnv Sample.stakeable Sample.roundTrip := by
  have hexact : ∀ journal op, UnbondingJournal.Exact Sample.stakingEnv journal op :=
    fun _ _ => ⟨.inl rfl, fun _ _ hwrap => by cases hwrap⟩
  refine ⟨by decide +kernel, by decide +kernel, ?_⟩
  exact unbondings_credited_once Sample.stakingEnv Sample.stakeable Sample.roundTrip rfl rfl
    ⟨hexact _ _, hexact _ _, hexact _ _, hexact _ _, trivial⟩

/-- Stake that was there at the start is in no delegation. -/
theorem prestaked_without_delegation :
    ¬ ∀ a, (run (UnbondingJournal.next Sample.stakingEnv) (.start Sample.prestaked)
      [.executeBlock ⟨2, []⟩]).state.stakedOf a =
        (run (UnbondingJournal.next Sample.stakingEnv) (.start Sample.prestaked)
          [.executeBlock ⟨2, []⟩]).state.delegatedBy a := by
  intro h
  have hself := h Sample.alice
  revert hself
  decide +kernel

end PoleProtocol.Ledger
