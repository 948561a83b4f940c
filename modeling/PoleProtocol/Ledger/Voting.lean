import PoleProtocol.Ledger.Agenda

/-!
# Voting power

The power of a vote is read off the voter's account when the vote is cast, and nothing binds the
coins to the vote afterwards. The recorded power of a proposal stays within the power of the ledger
as long as coins that have voted on it stay with accounts that have.
-/

namespace PoleProtocol.Ledger

open Framework OrderedMap Action

variable {env : Env} {s s' t : ProtocolState} {proposalId : Hash32}

/-- The power an account can vote with. -/
def AccountState.power (account : AccountState) : ℕ :=
  account.balance + account.staked + account.locked

/-- The power that an account has not voted on the proposal with. -/
def freeOf (votes : OrderedMap VoteKey GovernanceVoteRecord) (proposalId : Hash32)
    (address : Address) (account : AccountState) : ℕ :=
  if votes[(proposalId, address)]? = none then account.power else 0

namespace ProtocolState

/-- The power of all accounts together. -/
def power (s : ProtocolState) : ℕ := OrderedMap.total (fun _ => AccountState.power) s.store.accounts

/-- The power recorded in the votes on a proposal. -/
def recordedPower (s : ProtocolState) (proposalId : Hash32) : ℕ :=
  ((s.voteRecordsForProposal proposalId).map (·.votingPower)).sum

/-- The power of the accounts that have not voted on the proposal. -/
def freePower (s : ProtocolState) (proposalId : Hash32) : ℕ :=
  OrderedMap.total (freeOf s.store.votes proposalId) s.store.accounts

/-- What is recorded for the proposal, and what can still be. -/
def votable (s : ProtocolState) (proposalId : Hash32) : ℕ :=
  s.recordedPower proposalId + s.freePower proposalId

end ProtocolState

theorem recordedPower_eq_total (s : ProtocolState) (proposalId : Hash32) :
    s.recordedPower proposalId = OrderedMap.total
      (fun (key : VoteKey) vote => if (key.1 == proposalId) = true then vote.votingPower else 0)
      s.store.votes :=
  sum_filter_eq_total (fun key : VoteKey => key.1 == proposalId) GovernanceVoteRecord.votingPower _

/-! ## Accounts -/

/-- Nothing more can be voted with. -/
def Lessens (proposalId : Hash32) (s t : ProtocolState) : Prop :=
  t.votable proposalId ≤ s.votable proposalId

instance : Std.Refl (Lessens proposalId) := ⟨fun _ => Nat.le_refl _⟩

instance : IsTrans ProtocolState (Lessens proposalId) := ⟨fun _ _ _ hrs hst => Nat.le_trans hst hrs⟩

theorem votable_of_same (haccounts : t.store.accounts = s.store.accounts)
    (hvotes : t.store.votes = s.store.votes) : t.votable proposalId = s.votable proposalId := by
  unfold ProtocolState.votable ProtocolState.freePower
  rw [recordedPower_eq_total, recordedPower_eq_total, haccounts, hvotes]

theorem lessens_of_same (haccounts : t.store.accounts = s.store.accounts)
    (hvotes : t.store.votes = s.store.votes) : Lessens proposalId s t :=
  (votable_of_same haccounts hvotes).le

theorem votable_insertAccount (proposalId : Hash32) {address : Address} {account : AccountState}
    (account' : AccountState) (hget : s.store.accounts[address]? = some account)
    (haccounts : t.store.accounts = s.store.accounts.insert address account')
    (hvotes : t.store.votes = s.store.votes) :
    t.votable proposalId + freeOf s.store.votes proposalId address account =
      s.votable proposalId + freeOf s.store.votes proposalId address account' := by
  have hswap := total_insert_of_get (freeOf s.store.votes proposalId) account' hget
  unfold ProtocolState.votable ProtocolState.freePower
  rw [recordedPower_eq_total, recordedPower_eq_total, haccounts, hvotes]
  omega

/-- An account moves its own coins or loses some. -/
theorem lessens_insertAccount {address : Address} {account : AccountState}
    (account' : AccountState) (hget : s.store.accounts[address]? = some account)
    (haccounts : t.store.accounts = s.store.accounts.insert address account')
    (hvotes : t.store.votes = s.store.votes) (hpower : account'.power ≤ account.power) :
    Lessens proposalId s t := by
  have hfree := votable_insertAccount proposalId account' hget haccounts hvotes
  unfold Lessens
  unfold freeOf at hfree
  split at hfree <;> omega

theorem unlock_power {account account' : AccountState} {amount : ℕ}
    (h : unlockBondToBalance env account amount amount = .ok account') :
    account'.power ≤ account.power := by
  obtain ⟨hcovered, balance, hbalance, rfl⟩ := unlockBondToBalance_ok.mp h
  have hsum := add128_le hbalance
  simp only [AccountState.power]
  omega

theorem debit_power {tx : TransferTx} {sender sender' : AccountState}
    (h : tx.debit env sender = .ok sender') :
    sender'.power + saturatingAdd128 tx.amount tx.fee = sender.power := by
  obtain ⟨_, hfunds, nonce, _, rfl⟩ := debit_ok.mp h
  simp only [AccountState.power]
  omega

/-- A credit is a word, so it is covered by a debit that stopped at the largest word. -/
theorem credit_le (tx : TransferTx) {credited balance : ℕ}
    (h : env.add128 balance tx.amount = .ok credited) :
    credited ≤ balance + saturatingAdd128 tx.amount tx.fee := by
  have hsum := add128_le h
  have hword : credited < 2 ^ 128 := Overflow.add_lt (require_eq_ok.mp h)
  unfold saturatingAdd128
  omega

/-- Coins that have voted on the proposal do not move to an account that has not. -/
def KeepsVotedCoins (s : ProtocolState) (proposalId : Hash32) (tx : TransferTx) : Prop :=
  s.store.votes[(proposalId, tx.recipient)]? = none → tx.amount = 0 ∨
    s.store.votes[(proposalId, tx.sender)]? = none

theorem lessens_transfer {tx : TransferTx} {sender sender' recipient : AccountState} {balance : ℕ}
    (hkeeps : KeepsVotedCoins s proposalId tx) (hget : s.store.accounts[tx.sender]? = some sender)
    (hdebit : tx.debit env sender = .ok sender')
    (hrecipient : (s.insertAccount tx.sender sender').store.accounts[tx.recipient]? = some recipient)
    (hcredit : env.add128 recipient.balance tx.amount = .ok balance) :
    Lessens proposalId s ((s.insertAccount tx.sender sender').insertAccount tx.recipient
      { recipient with balance }) := by
  have hdebited := votable_insertAccount (t := s.insertAccount tx.sender sender')
    proposalId sender' hget rfl rfl
  have hcredited := votable_insertAccount (s := s.insertAccount tx.sender sender')
    (t := (s.insertAccount tx.sender sender').insertAccount tx.recipient { recipient with balance })
    proposalId { recipient with balance } hrecipient rfl rfl
  have hvotes : (s.insertAccount tx.sender sender').store.votes = s.store.votes := rfl
  have hpaid := debit_power hdebit
  have hreceived := credit_le tx hcredit
  have hexact := add128_le hcredit
  have hpower : ({ recipient with balance } : AccountState).power + recipient.balance =
      recipient.power + balance := by
    simp only [AccountState.power]
    omega
  unfold Lessens
  rw [hvotes] at hcredited
  unfold freeOf at hdebited hcredited
  by_cases hfree : s.store.votes[(proposalId, tx.recipient)]? = none
  · rw [if_pos hfree, if_pos hfree] at hcredited
    rcases hkeeps hfree with hnothing | hsender
    · split at hdebited <;> omega
    · rw [if_pos hsender, if_pos hsender] at hdebited
      omega
  · rw [if_neg hfree, if_neg hfree] at hcredited
    split at hdebited <;> omega

/-! ## Votes -/

theorem votingPower_le {account : AccountState} {available : ℕ}
    (h : account.votingPower env = .ok available) : available ≤ account.power := by
  simp only [AccountState.votingPower, bind_eq_ok] at h
  obtain ⟨held, hheld, havailable⟩ := h
  have hfirst := add128_le hheld
  have hsecond := add128_le havailable
  unfold AccountState.power
  omega

/-- A vote records at most the power it takes away. -/
theorem lessens_insertVote {tx : VoteTx} {voter : AccountState}
    (hfresh : s.store.votes[(tx.proposalId, tx.voter)]? = none)
    (hget : s.store.accounts[tx.voter]? = some voter) (hpower : tx.votingPower ≤ voter.power) :
    Lessens proposalId s (s.insertVote tx) := by
  have hrecorded := total_insert_of_none (fun (key : VoteKey) (vote : GovernanceVoteRecord) =>
    if (key.1 == proposalId) = true then vote.votingPower else 0)
    { proposalId := tx.proposalId
      voter := tx.voter
      choice := tx.choice
      votingPower := tx.votingPower
      recordedHeight := s.height } hfresh
  have hfree : ∀ (address : Address) (account : AccountState),
      (tx.proposalId, tx.voter) ≠ (proposalId, address) →
      freeOf (s.insertVote tx).store.votes proposalId address account =
        freeOf s.store.votes proposalId address account := by
    intro address account hother
    unfold freeOf
    change (if (s.store.votes.insert _ _)[(proposalId, address)]? = none then _ else _) = _
    rw [get_insert_ne _ _ hother]
  unfold Lessens ProtocolState.votable ProtocolState.freePower
  rw [recordedPower_eq_total, recordedPower_eq_total]
  change OrderedMap.total _ (s.store.votes.insert _ _) +
    OrderedMap.total (freeOf (s.insertVote tx).store.votes proposalId) s.store.accounts ≤ _
  rw [hrecorded]
  by_cases hproposal : tx.proposalId = proposalId
  · subst hproposal
    have hbefore := total_eq_add_erase (freeOf s.store.votes tx.proposalId) hget
    have hafter := total_eq_add_erase (freeOf (s.insertVote tx).store.votes tx.proposalId) hget
    have hothers : OrderedMap.total (freeOf (s.insertVote tx).store.votes tx.proposalId)
        (s.store.accounts.erase tx.voter) =
        OrderedMap.total (freeOf s.store.votes tx.proposalId) (s.store.accounts.erase tx.voter) := by
      refine total_congr fun address account hother => hfree address account ?_
      rintro hsame
      rw [get_erase, if_pos (Prod.mk.inj hsame).2] at hother
      cases hother
    have hspent : freeOf (s.insertVote tx).store.votes tx.proposalId tx.voter voter = 0 := by
      refine if_neg ?_
      change (s.store.votes.insert _ _)[(tx.proposalId, tx.voter)]? ≠ none
      rw [get_insert_self]
      simp
    have hwhole : freeOf s.store.votes tx.proposalId tx.voter voter = voter.power := if_pos hfresh
    simp only [beq_self_eq_true, if_true]
    omega
  · have hsame : OrderedMap.total (freeOf (s.insertVote tx).store.votes proposalId)
        s.store.accounts = OrderedMap.total (freeOf s.store.votes proposalId) s.store.accounts :=
      total_congr fun address account _ => hfree address account fun heq =>
        hproposal (Prod.mk.inj heq).1
    have hunrecorded : (tx.proposalId == proposalId) = false := beq_false_of_ne hproposal
    simp only [hunrecorded, Bool.false_eq_true, if_false]
    omega

theorem lessens_voted {tx : VoteTx} {voter voter' : AccountState}
    (hfresh : s.store.votes[(tx.proposalId, tx.voter)]? = none)
    (hget : s.store.accounts[tx.voter]? = some voter)
    (hauthorize : tx.authorize env voter = .ok voter') :
    Lessens proposalId s ((s.insertAccount tx.voter voter').insertVote tx) := by
  obtain ⟨_, available, havailable, hcovered, nonce, _, rfl⟩ := authorize_ok.mp hauthorize
  have hpower := votingPower_le havailable
  have hnonce : Lessens proposalId s (s.insertAccount tx.voter { voter with nonce }) :=
    lessens_insertAccount { voter with nonce } hget rfl rfl le_rfl
  refine IsTrans.trans _ _ _ hnonce ?_
  exact lessens_insertVote hfresh (get_insert_self _ _ _) (hcovered.trans hpower)

theorem lessens_scheduling {votedId : Hash32} (h : Scheduling env votedId s t) :
    Lessens proposalId s t := by
  cases h with
  | none => exact Std.Refl.refl s
  | @full proposal account account' happroved hget hunlock =>
      exact lessens_insertAccount account' hget rfl rfl (unlock_power hunlock)

/-! ## Transactions -/

/-- No reward is paid, and the coins that have voted on the proposal stay with voters. -/
def SparesVotes (env : Env) (proposalId : Hash32) (s : ProtocolState) : Transaction → Prop
  | .claimReward tx => ∀ effect t, (applyClaimReward env tx).run s ≠ .ok effect t
  | .transfer tx => KeepsVotedCoins s proposalId tx
  | _ => True

/-- The state after a transaction that returned. -/
def Transaction.step (env : Env) (s : ProtocolState) (tx : Transaction) : ProtocolState :=
  (tx.apply env).after s

theorem lessens_applied {tx : Transaction} {effect : TransitionEffect}
    (hspares : SparesVotes env proposalId s tx) (hok : (tx.apply env).run s = .ok effect t) :
    Lessens proposalId s t := by
  have happlied := applied_of_ok tx hok
  cases happlied with
  | transfer hget hdebit hrecipient hcredit =>
      exact lessens_transfer hspares hget hdebit hrecipient hcredit
  | stake _ _ hget hdebit _ _ =>
      obtain ⟨_, hfunds, staked, hstaked, nonce, _, rfl⟩ := stakeDebit_ok.mp hdebit
      have hsum := add128_le hstaked
      refine lessens_insertAccount _ hget rfl rfl ?_
      simp only [AccountState.power]
      omega
  | @unbond _ tx node delegator delegator' existing unlockHeight _ _ _ hget hlock _ _ _ =>
      obtain ⟨_, hfunds, locked, hlocked, nonce, _, rfl⟩ := unbondLock_ok.mp hlock
      have hsum := add128_le hlocked
      have hpower : ({ delegator with
          staked := delegator.staked - tx.amount, locked, nonce } : AccountState).power ≤
          delegator.power := by
        simp only [AccountState.power]
        omega
      unfold ProtocolState.reduceDelegation
      split <;> exact lessens_insertAccount _ hget rfl rfl hpower
  | submitBatch | commitEpoch | challengeResponse => exact lessens_of_same rfl rfl
  | openChallenge _ _ _ _ hget hlock =>
      obtain ⟨hfunds, locked, hlocked, rfl⟩ := lockBond_ok.mp hlock
      have hsum := add128_le hlocked
      refine lessens_insertAccount _ hget rfl rfl ?_
      simp only [AccountState.power]
      omega
  | claimReward => exact absurd hok (hspares effect _)
  | vote hfresh hget hauthorize hscheduling =>
      exact IsTrans.trans _ _ _ (lessens_voted hfresh hget hauthorize)
        (lessens_scheduling hscheduling)
  | proposeProtocolParamsUpdate _ hget hlock =>
      obtain ⟨_, hfunds, locked, hlocked, nonce, _, rfl⟩ := proposeLock_ok.mp hlock
      have hsum := add128_le hlocked
      refine lessens_insertAccount _ hget rfl rfl ?_
      simp only [AccountState.power]
      omega

/-- What a refused transaction leaves behind lessens what can be voted with as well. -/
theorem lessens_stranded {tx : Transaction} (h : Stranded env tx s t) : Lessens proposalId s t := by
  cases h with
  | transfer hget hdebit =>
      have hpaid := debit_power hdebit
      exact lessens_insertAccount _ hget rfl rfl (by omega)
  | unbond hget hlock =>
      obtain ⟨_, hfunds, locked, hlocked, nonce, _, rfl⟩ := unbondLock_ok.mp hlock
      have hsum := add128_le hlocked
      refine lessens_insertAccount _ hget rfl rfl ?_
      simp only [AccountState.power]
      omega
  | vote hfresh hget hauthorize => exact lessens_voted hfresh hget hauthorize
  | schedule hfresh hget hauthorize _ _ =>
      exact IsTrans.trans _ _ _ (lessens_voted hfresh hget hauthorize) (lessens_of_same rfl rfl)

theorem lessens_step {tx : Transaction} (hspares : SparesVotes env proposalId s tx) :
    Lessens proposalId s (tx.step env s) := by
  rcases returns_after (tx.apply env) s with (⟨effect, hok⟩ | ⟨error, hrefused⟩) | hsame
  · exact lessens_applied hspares hok
  · rcases stranded_of_refused hrefused with hsame | hleft
    · exact lessens_of_same (congrArg (·.store.accounts) hsame) (congrArg (·.store.votes) hsame)
    · exact lessens_stranded hleft
  · exact lessens_of_same (congrArg (·.store.accounts) hsame) (congrArg (·.store.votes) hsame)

/-- From a state without votes on a proposal, the power recorded on it never exceeds the power at
the start, as long as no reward is claimed and voted coins stay with voters. -/
theorem recorded_votes_bounded (env : Env) (s : ProtocolState) (proposalId : Hash32)
    (txs : List Transaction) (hfresh : ∀ voter : Address, s.store.votes[(proposalId, voter)]? = none)
    (hmeets : Meets (Transaction.step env) (SparesVotes env proposalId) s txs) :
    (run (Transaction.step env) s txs).recordedPower proposalId ≤ s.power := by
  have hstart : s.votable proposalId = s.power := by
    have hnothing : s.voteRecordsForProposal proposalId = [] := by
      rw [ProtocolState.voteRecordsForProposal, List.map_eq_nil_iff, List.filter_eq_nil_iff]
      rintro ⟨⟨votedId, voter⟩, vote⟩ hmem hvoted
      have hproposal : votedId = proposalId := eq_of_beq hvoted
      subst hproposal
      cases (mem_toList.mp hmem).symm.trans (hfresh voter)
    have hfree : s.freePower proposalId = s.power :=
      total_congr fun address account _ => if_pos (hfresh address)
    rw [ProtocolState.votable, ProtocolState.recordedPower, hnothing, hfree]
    exact Nat.zero_add _
  have hbounded : (run (Transaction.step env) s txs).votable proposalId ≤ s.power := by
    refine run_invariant (P := fun t => t.votable proposalId ≤ s.power) ?_ hmeets hstart.le
    intro t tx hspares hbefore
    exact (lessens_step hspares).trans hbefore
  exact (Nat.le_add_right _ _).trans hbounded

namespace Sample

def carolKey : Hash32 := 0x3d4017c3e843895a92b70aa74d1b7ebc9c982ccf2ec4968cc0cd55f12af4660c#256
def carol : Address := stableHash32 carolKey.bytes

/-- Alice sends the coins she has voted with to Carol. -/
def transferVoted : TransferTx where
  sender := alice
  recipient := carol
  amount := 20000
  fee := 0
  nonce := 2
  pubkey := aliceKey
  signature := bigEndian 64 0xbcd33a0140818ad2e0b9e7eda23c6780b3df261ba35e46d9dc389d878ed7ac71f57df61a85cb327ab1f3dfe7596597eb14f3247d0555d094441a6aadfdeee603

/-- Carol votes with them once more. -/
def voteAgain : VoteTx where
  proposalId := 2
  voter := carol
  choice := .yes
  votingPower := 20000
  nonce := 0
  pubkey := carolKey
  signature := bigEndian 64 0xd42fbc6e3ece8eab0cfcc7355cb0b64c5b9daf41720c15e38b9ba591ad5a175758216866b95332b2709418e0eb298c8aece549bfb9373c58c217aaff17aa5b06

def votingEnv : Env :=
  signedEnv [(aliceKey, propose.signature, .proposeProtocolParamsUpdate propose),
    (aliceKey, vote.signature, .vote vote), (aliceKey, transferVoted.signature, .transfer transferVoted),
    (carolKey, voteAgain.signature, .vote voteAgain)] .panic

/-- Alice with twenty thousand coins, and Carol with none. -/
def electorate : ProtocolState := governable.insertAccount carol (account carol 0)

end Sample

/-- Alice's proposal is backed by her own coins. -/
theorem recorded_votes_bounded_alice :
    (run (Transaction.step Sample.votingEnv) Sample.electorate
      [.proposeProtocolParamsUpdate Sample.propose, .vote Sample.vote]).recordedPower 2 ≤
        Sample.electorate.power := by
  refine recorded_votes_bounded Sample.votingEnv Sample.electorate 2 _ (fun voter => ?_)
    ⟨trivial, trivial, trivial⟩
  simp [Sample.electorate, ProtocolState.insertAccount, Sample.governable]

/-- Alice votes, pays Carol and Carol votes: the proposal has twice the power of the ledger. -/
theorem transferred_coins_vote_twice :
    ¬ (run (Transaction.step Sample.votingEnv) Sample.electorate
      [.proposeProtocolParamsUpdate Sample.propose, .vote Sample.vote,
        .transfer Sample.transferVoted, .vote Sample.voteAgain]).recordedPower 2 ≤
        Sample.electorate.power := by
  decide +kernel

end PoleProtocol.Ledger
