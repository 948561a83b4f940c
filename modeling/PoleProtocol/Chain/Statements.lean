import PoleProtocol.Chain.Effects
import PoleProtocol.Chain.Registry
import PoleProtocol.Chain.Treasury
import PoleProtocol.Framework.Bookkeeping

/-!
# Account statements

Coins enter and leave the accounts of the chain only through its messages: the signer of a message
pays a bond or a burn, a reward goes to the signer that claims it and a bond back to the account
that posted it. The balance of every account is the sum of what the accepted messages say, and what
is issued or destroyed passes through the pool.
-/

namespace PoleProtocol.Chain

open Framework OrderedMap

/-! ## Books -/

namespace Bank

/-- The accounts change by `change`; what is issued or destroyed passes through the pool. -/
structure Books (bank bank' : Bank) (change : Bytes →₀ ℤ) : Prop where
  accounts : ∀ a, (bank'.accounts a : ℤ) = bank.accounts a + change a
  supply : bank'.supply - bank'.pool = bank.supply - bank.pool + change.sum fun _ amount => amount

variable {bank bank' bank'' : Bank} {change change' : Bytes →₀ ℤ} {amount : ℕ}

theorem Books.refl (bank : Bank) : Books bank bank 0 := ⟨by simp, by simp⟩

theorem Books.trans (hfirst : Books bank bank' change) (hnext : Books bank' bank'' change') :
    Books bank bank'' (change + change') := by
  constructor
  · intro a
    rw [hnext.accounts, hfirst.accounts, Finsupp.add_apply, add_assoc]
  · rw [hnext.supply, hfirst.supply, Finsupp.sum_add_index' (fun _ => rfl) fun _ _ _ => rfl,
      add_assoc]

theorem books_mintCoins (bank : Bank) (amount : ℕ) : Books bank (bank.mintCoins amount) 0 := by
  constructor
  · intro a
    simp [mintCoins]
  · simp only [mintCoins, Nat.cast_add, Finsupp.sum_zero_index]
    omega

theorem books_burnCoins (h : bank.burnCoins amount = .ok bank') : Books bank bank' 0 := by
  simp only [burnCoins, bind_eq_ok, ensure_eq_ok, exists_const, pure_eq_ok] at h
  obtain ⟨hfunds, rfl⟩ := h
  constructor
  · intro a
    simp
  · simp only [Nat.cast_sub hfunds, Finsupp.sum_zero_index]
    omega

theorem books_sendToAccount {recipient : Bytes}
    (h : bank.sendCoinsFromModuleToAccount recipient amount = .ok bank') :
    Books bank bank' (Finsupp.single recipient (amount : ℤ)) := by
  simp only [sendCoinsFromModuleToAccount, bind_eq_ok, ensure_eq_ok, exists_const, pure_eq_ok] at h
  obtain ⟨hfunds, rfl⟩ := h
  constructor
  · intro a
    by_cases ha : recipient = a
    · subst ha
      simp
    · simp [Function.update_of_ne (Ne.symm ha), Finsupp.single_eq_of_ne (Ne.symm ha)]
  · simp only [Nat.cast_sub hfunds, Finsupp.sum_single_index]
    omega

theorem books_sendToModule {sender : Bytes}
    (h : bank.sendCoinsFromAccountToModule sender amount = .ok bank') :
    Books bank bank' (Finsupp.single sender (-(amount : ℤ))) := by
  simp only [sendCoinsFromAccountToModule, bind_eq_ok, ensure_eq_ok, exists_const, pure_eq_ok] at h
  obtain ⟨hfunds, rfl⟩ := h
  constructor
  · intro a
    by_cases ha : sender = a
    · subst ha
      simp only [Function.update_self, Finsupp.single_eq_same]
      omega
    · simp [Function.update_of_ne (Ne.symm ha), Finsupp.single_eq_of_ne (Ne.symm ha)]
  · simp only [Nat.cast_add, Finsupp.sum_single_index]
    omega

theorem books_burnFromRewardPool {burned : ℕ}
    (h : bank.burnFromRewardPool amount = .ok (bank', burned)) : Books bank bank' 0 := by
  unfold burnFromRewardPool at h
  split at h
  · cases h
    exact .refl bank
  split at h
  · cases h
    exact .refl bank
  · simp only [bind_eq_ok, ensure_eq_ok, exists_const, pure_eq_ok, Prod.mk.injEq] at h
    obtain ⟨_, _, hburn, rfl, _⟩ := h
    exact books_burnCoins hburn

/-- A payment to the account that a text names, if it names one. -/
noncomputable def named (account : Except String Bytes) (amount : ℤ) : Bytes →₀ ℤ :=
  match account with
  | .ok a => Finsupp.single a amount
  | .error _ => 0

theorem named_apply (account : Except String Bytes) (amount : ℤ) (a : Bytes) :
    named account amount a = if account = .ok a then amount else 0 := by
  cases account with
  | ok b =>
      by_cases h : b = a
      · simp [named, h]
      · simp [named, h, Finsupp.single_eq_of_ne (Ne.symm h)]
  | error e => simp [named]

theorem named_of_ok {account : Except String Bytes} {a : Bytes} (h : account = .ok a)
    (amount : ℤ) : named account amount = Finsupp.single a amount := by
  rw [h, named]

@[simp] theorem named_zero (account : Except String Bytes) : named account 0 = 0 := by
  cases account <;> simp [named]

theorem books_escrow {env : Env} {challenger : String}
    (h : bank.escrowChallengeBond env challenger amount = .ok bank') :
    Books bank bank' (named (env.accAddressFromBech32 challenger) (-(amount : ℤ))) := by
  unfold escrowChallengeBond at h
  split at h
  · next hzero =>
      cases h
      subst hzero
      simpa using Books.refl bank
  · simp only [bind_eq_ok, foreign_eq_ok] at h
    obtain ⟨address, haddress, hsend⟩ := h
    rw [haddress]
    exact books_sendToModule hsend

theorem books_settle {env : Env} {challenger : String} {bond burnBps burned : ℕ} {forfeit : Bool}
    (h : bank.settleChallengeBond env challenger bond burnBps forfeit = .ok (bank', burned)) :
    Books bank bank'
      (named (env.accAddressFromBech32 challenger) (if forfeit then 0 else (bond : ℤ))) := by
  unfold settleChallengeBond at h
  split at h
  · next hzero =>
      cases h
      subst hzero
      simpa using Books.refl bank
  split at h
  · next hforfeit =>
      rw [if_pos hforfeit, named_zero]
      exact books_burnFromRewardPool h
  · next hforfeit =>
      simp only [bind_eq_ok, foreign_eq_ok, pure_eq_ok, Prod.mk.injEq] at h
      obtain ⟨address, haddress, _, hsend, rfl, _⟩ := h
      rw [if_neg hforfeit, haddress]
      exact books_sendToAccount hsend

theorem books_payClaim {recipient : Bytes} {payout : ℕ}
    (h : bank.payClaim recipient amount payout = .ok bank') :
    Books bank bank' (Finsupp.single recipient (payout : ℤ)) := by
  unfold payClaim at h
  split at h
  · simp only [bind_eq_ok] at h
    obtain ⟨funded, hfunded, hsend⟩ := h
    have hissued : Books bank funded 0 := by
      unfold ensureRewardPool at hfunded
      split at hfunded
      · cases hfunded
        exact .refl bank
      split at hfunded
      · cases hfunded
      · cases hfunded
        exact books_mintCoins bank _
    simpa using hissued.trans (books_sendToAccount hsend)
  · next hzero =>
      cases h
      have hpayout : payout = 0 := by omega
      simpa [hpayout] using Books.refl bank

theorem books_burnClaimShare (h : bank.burnClaimShare amount = .ok bank') : Books bank bank' 0 := by
  unfold burnClaimShare at h
  split at h
  · exact books_burnCoins h
  · cases h
    exact .refl bank

end Bank

/-! ## What a message says -/

/-- What the signer of an accepted message pays. -/
def Msg.outlay : Msg → ℕ
  | .activityBurn msg => msg.amount
  | .openChallenge msg => (msg.challenge.map fun challenge => challenge.bondAmount.toNat).getD 0
  | _ => 0

/-- What an accepted message pays out, and to whom. -/
def Msg.payment (s : KeeperState) : Msg → String × ℕ
  | .claimReward msg =>
      match s.rewardRecords[(msg.epochId, msg.recipient)]? with
      | some record =>
          (msg.recipient, sub64 record.netReward (claimBurnAmount s.getParams record.netReward))
      | none => ("", 0)
  | .resolveChallenge msg =>
      match s.challenges[msg.challengeIdHex]? with
      | some stored =>
          if stored.challenger = "" ∨ msg.finalState = .rejected then ("", 0)
          else (stored.challenger, stored.bondAmount.toNat)
      | none => ("", 0)
  | _ => ("", 0)

def debit (env : Env) (a : Bytes) : Input → ℕ
  | .deliver _ msg =>
      match env.accAddressFromBech32 msg.signer with
      | .ok b => if b = a then msg.outlay else 0
      | .error _ => 0
  | .beginBlock _ => 0

def credit (env : Env) (a : Bytes) (s : KeeperState) : Input → ℕ
  | .deliver _ msg =>
      match env.accAddressFromBech32 (msg.payment s).1 with
      | .ok b => if b = a then (msg.payment s).2 else 0
      | .error _ => 0
  | .beginBlock _ => 0

/-- The change of all accounts by an accepted input. -/
noncomputable def change (env : Env) (s : KeeperState) : Input → Bytes →₀ ℤ
  | .deliver _ msg =>
      Bank.named (env.accAddressFromBech32 msg.signer) (-(msg.outlay : ℤ)) +
        Bank.named (env.accAddressFromBech32 (msg.payment s).1) ((msg.payment s).2 : ℤ)
  | .beginBlock _ => 0

theorem change_apply (env : Env) (s : KeeperState) (input : Input) (a : Bytes) :
    change env s input a = (credit env a s input : ℤ) - debit env a input := by
  have hnamed : ∀ (account : Except String Bytes) (amount : ℕ),
      ((match account with | .ok b => if b = a then amount else 0 | .error _ => 0 : ℕ) : ℤ) =
        if account = .ok a then (amount : ℤ) else 0 := by
    intro account amount
    cases account with
    | ok b => by_cases h : b = a <;> simp [h]
    | error e => simp
  cases input with
  | beginBlock ctx => simp [change, credit, debit]
  | deliver ctx msg =>
      simp only [change, credit, debit, Finsupp.add_apply, Bank.named_apply, hnamed]
      split <;> split <;> omega

namespace KeeperState

variable {env : Env} {ctx : Ctx} {s s' : KeeperState}

theorem books_openChallenge {msg : MsgOpenChallenge} (h : s.openChallenge env ctx msg = .ok s') :
    Bank.Books s.bank s'.bank (change env s (.deliver ctx (.openChallenge msg))) := by
  simp only [openChallenge, bind_eq_ok, ensure_eq_ok, exists_const, require_eq_ok, pure_eq_ok] at h
  obtain ⟨challenge, hsupplied, _, _, _, _, _, _, bank, hescrow, rfl⟩ := h
  have hbooks := Bank.books_escrow hescrow
  have hoffer : (Msg.openChallenge msg).outlay = (challenge.opened ctx).bondAmount.toNat := by
    simp [Msg.outlay, hsupplied, Challenge.opened]
  have hchange : change env s (.deliver ctx (.openChallenge msg)) =
      Bank.named (env.accAddressFromBech32 msg.challenger)
        (-((challenge.opened ctx).bondAmount.toNat : ℤ)) := by
    simp [change, Msg.signer, Msg.payment, hoffer]
  rw [hchange]
  exact hbooks

theorem books_claimReward {msg : MsgClaimReward} (h : s.claimReward env ctx msg = .ok s') :
    Bank.Books s.bank s'.bank (change env s (.deliver ctx (.claimReward msg))) := by
  simp only [claimReward, payoutClaimedReward, bind_eq_ok, ensure_eq_ok, exists_const,
    foreign_eq_ok, pure_eq_ok] at h
  obtain ⟨_, _, _, _, _, _, record, hfound, _, _, ⟨_, recipient, hrecipient, paid, hpays, bank,
    hburns, rfl⟩, rfl⟩ := h
  have hrecord : s.rewardRecords[(msg.epochId, msg.recipient)]? = some record := by
    simpa [getRewardRecord] using hfound
  have hbooks := (Bank.books_payClaim hpays).trans (Bank.books_burnClaimShare hburns)
  rw [add_zero] at hbooks
  have hchange : change env s (.deliver ctx (.claimReward msg)) = Finsupp.single recipient
      (sub64 record.netReward (claimBurnAmount s.getParams record.netReward) : ℤ) := by
    simp [change, Msg.outlay, Msg.payment, hrecord, Bank.named_of_ok hrecipient]
  rw [hchange]
  exact hbooks

theorem books_slashTarget {challenge : Challenge} (h : s.slashTarget challenge = .ok s') :
    Bank.Books s.bank s'.bank 0 := by
  rcases slashTarget_ok h with rfl | ⟨_, _, bank, _, _, _, hgovernance, hsession, rfl⟩
  · exact .refl _
  · have hbooks : Bank.Books s.bank bank 0 := by
      simpa using (Bank.books_burnFromRewardPool hgovernance).trans
        (Bank.books_burnFromRewardPool hsession)
    exact hbooks

theorem books_settleChallengeBond {challenge : Challenge} {settled : KeeperState}
    (h : s.settleChallengeBond env challenge = .ok settled) :
    Bank.Books s.bank settled.bank (if challenge.challenger = "" then 0
      else Bank.named (env.accAddressFromBech32 challenge.challenger)
        (if challenge.state = .rejected then 0 else (challenge.bondAmount.toNat : ℤ))) := by
  unfold settleChallengeBond at h
  split at h
  · next hnone =>
      cases h
      rcases hnone with hbond | hchallenger
      · split
        · exact .refl s.bank
        · simpa [hbond] using Bank.Books.refl s.bank
      · simpa [hchallenger] using Bank.Books.refl s.bank
  · next hbonded =>
      simp only [bind_eq_ok, pure_eq_ok] at h
      obtain ⟨⟨bank, burned⟩, hsettles, rfl⟩ := h
      rw [if_neg fun hchallenger => hbonded (.inr hchallenger)]
      simpa using Bank.books_settle hsettles

theorem books_resolveChallenge {msg : MsgResolveChallenge}
    (h : s.resolveChallenge env ctx msg = .ok s') :
    Bank.Books s.bank s'.bank (change env s (.deliver ctx (.resolveChallenge msg))) := by
  obtain ⟨stored, settled, slashed, commit, hfound, _, _, _, _, _, hsettles, hslashes, _, rfl⟩ :=
    resolveChallenge_ok h
  have hsettled : Bank.Books s.bank settled.bank
      (change env s (.deliver ctx (.resolveChallenge msg))) := by
    have hbooks := books_settleChallengeBond hsettles
    have hchange : change env s (.deliver ctx (.resolveChallenge msg)) =
        if stored.challenger = "" then 0
        else Bank.named (env.accAddressFromBech32 stored.challenger)
          (if msg.finalState = .rejected then 0 else (stored.bondAmount.toNat : ℤ)) := by
      by_cases hnone : stored.challenger = ""
      · simp [change, Msg.outlay, Msg.payment, hfound, hnone]
      · by_cases hrejected : msg.finalState = .rejected <;>
          simp [change, Msg.outlay, Msg.payment, hfound, hnone, hrejected]
    rw [hchange]
    exact hbooks
  have hrewarded : (slashed.rewardChallenger (stored.resolvedBy msg)).bank = slashed.bank := by
    obtain ⟨records, hframe⟩ := rewardChallenger_frame slashed (stored.resolvedBy msg)
    rw [hframe]
  change Bank.Books s.bank (slashed.rewardChallenger (stored.resolvedBy msg)).bank _
  rw [hrewarded]
  simpa using hsettled.trans (books_slashTarget hslashes)

theorem books_activityBurn {msg : MsgActivityBurn}
    (h : s.activityBurn env msg = .ok s') :
    Bank.Books s.bank s'.bank (change env s (.deliver ctx (.activityBurn msg))) := by
  simp only [activityBurn, executeActivityBurn, bind_eq_ok, ensure_eq_ok, exists_const,
    withContext_eq_ok, foreign_eq_ok, pure_eq_ok] at h
  obtain ⟨_, _, _, sender, hsender, collected, hcollects, bank, hburns, rfl⟩ := h
  have hbooks := (Bank.books_sendToModule hcollects).trans (Bank.books_burnCoins hburns)
  have hchange : change env s (.deliver ctx (.activityBurn msg)) =
      Finsupp.single sender (-(msg.amount : ℤ)) := by
    simp [change, Msg.outlay, Msg.payment, Msg.signer, Bank.named_of_ok hsender]
  rw [hchange]
  simpa using hbooks

end KeeperState

theorem aggregate_frame (env : Env) (s : KeeperState) (record : AggregateRecord) :
    ∃ aggregateRecords epochCommits,
      (s.setAggregateRecord record).refreshAggregatesCommitment env record.epochId =
        { s with aggregateRecords, epochCommits } := by
  rcases KeeperState.refreshAggregatesCommitment_cases env (s.setAggregateRecord record)
    record.epochId with hsame | ⟨_, _, _, hwritten⟩
  · exact ⟨_, _, hsame⟩
  · exact ⟨_, _, hwritten⟩

/-- The messages that move coins between the accounts and the pool. -/
def Msg.movesCoins : Msg → Bool
  | .activityBurn _ | .openChallenge _ | .claimReward _ | .resolveChallenge _ => true
  | _ => false

variable {env : Env} {s s' : KeeperState}

open KeeperState in
/-- No other message touches the bank. -/
theorem bank_of_effect {ctx : Ctx} {msg : Msg} (heffect : Effect env s (.deliver ctx msg) s')
    (hquiet : msg.movesCoins = false) : s'.bank = s.bank := by
  cases heffect with
  | quiet => rfl
  | params => rfl
  | aggregate ctx msg record =>
      obtain ⟨aggregateRecords, epochCommits, hframe⟩ := aggregate_frame env s record
      rw [hframe]
  | commit => rfl
  | finalized => rfl
  | rewards ctx msg commit records =>
      obtain ⟨rewardRecords, hframe⟩ := setRewardRecords_frame s records
      rw [hframe]
  | session => rfl
  | attested => rfl
  | settled => rfl
  | opened => cases hquiet
  | resolved => cases hquiet
  | claimed => cases hquiet
  | burned => cases hquiet

theorem change_of_quiet {ctx : Ctx} {msg : Msg} (hquiet : msg.movesCoins = false) :
    change env s (.deliver ctx msg) = 0 := by
  cases msg with
  | activityBurn | openChallenge | claimReward | resolveChallenge => cases hquiet
  | _ => simp [change, Msg.outlay, Msg.payment]

/-- An accepted input changes the accounts by what it says. -/
theorem books_step {input : Input} (h : step env s input = .ok s') :
    Bank.Books s.bank s'.bank (change env s input) := by
  cases input with
  | beginBlock ctx =>
      simp only [step, KeeperState.beginBlockAnnualEmission, bind_eq_ok, pure_eq_ok] at h
      obtain ⟨_, _, rfl⟩ := h
      exact Bank.books_mintCoins s.bank _
  | deliver ctx msg =>
      by_cases hquiet : msg.movesCoins = false
      · rw [bank_of_effect (effect_of_step h) hquiet, change_of_quiet hquiet]
        exact .refl s.bank
      · cases msg with
        | activityBurn msg => exact KeeperState.books_activityBurn h
        | openChallenge msg => exact KeeperState.books_openChallenge h
        | claimReward msg => exact KeeperState.books_claimReward h
        | resolveChallenge msg => exact KeeperState.books_resolveChallenge h
        | _ => exact absurd rfl hquiet

/-! ## The burn counter -/

/-- What an accepted input adds to the burn counter. -/
def activityBurned : Input → ℕ
  | .deliver _ (.activityBurn msg) => msg.amount
  | _ => 0

/-- The burn counter, a word, before and after `burned` more coins. -/
def BurnsCounted (s s' : KeeperState) (burned : ℕ) : Prop :=
  wrap64 (s'.totalActivityBurned.getD 0) = wrap64 (s.totalActivityBurned.getD 0 + burned)

theorem BurnsCounted.refl (s : KeeperState) : BurnsCounted s s 0 := rfl

theorem BurnsCounted.trans {s'' : KeeperState} {burned burned' : ℕ}
    (hfirst : BurnsCounted s s' burned) (hnext : BurnsCounted s' s'' burned') :
    BurnsCounted s s'' (burned + burned') := by
  unfold BurnsCounted wrap64 at *
  omega

open KeeperState in
/-- Only a burn touches the counter. -/
theorem burns_of_effect {input : Input} (heffect : Effect env s input s')
    (hquiet : ∀ ctx msg, input ≠ .deliver ctx (.activityBurn msg)) :
    s'.totalActivityBurned = s.totalActivityBurned := by
  cases heffect with
  | quiet => rfl
  | params => rfl
  | aggregate ctx msg record =>
      obtain ⟨aggregateRecords, epochCommits, hframe⟩ := aggregate_frame env s record
      rw [hframe]
  | commit => rfl
  | finalized => rfl
  | rewards ctx msg commit records =>
      obtain ⟨rewardRecords, hframe⟩ := setRewardRecords_frame s records
      rw [hframe]
  | session => rfl
  | attested => rfl
  | settled => rfl
  | opened => rfl
  | resolved ctx msg stored settled slashed rewarded commit _ _ _ hsettles hslashes hrewards =>
      obtain ⟨bank, rewardRecords, hframe⟩ := resolution_frame hsettles hslashes
      rw [hrewards] at hframe
      rw [hframe]
      rfl
  | claimed => rfl
  | burned ctx msg => exact absurd rfl (hquiet ctx msg)
  | emitted => rfl

theorem burns_step {input : Input} (h : step env s input = .ok s') :
    BurnsCounted s s' (activityBurned input) := by
  by_cases hburn : ∃ ctx msg, input = .deliver ctx (.activityBurn msg)
  · obtain ⟨ctx, msg, rfl⟩ := hburn
    simp only [step, handle, KeeperState.activityBurn, KeeperState.executeActivityBurn, bind_eq_ok,
      ensure_eq_ok, exists_const, pure_eq_ok] at h
    obtain ⟨_, _, _, _, _, _, _, _, _, rfl⟩ := h
    exact Nat.mod_mod _ _
  · have hquiet : ∀ ctx msg, input ≠ .deliver ctx (.activityBurn msg) := by
      intro ctx msg hinput
      exact hburn ⟨ctx, msg, hinput⟩
    have hnone : activityBurned input = 0 := by
      unfold activityBurned
      split
      · next ctx msg => exact absurd rfl (hquiet ctx msg)
      · rfl
    rw [BurnsCounted, burns_of_effect (effect_of_step h) hquiet, hnone]
    rfl

/-! ## Runs -/

/-- What an account spends in a step: a refused input costs nothing. -/
def spent (env : Env) (a : Bytes) (s : KeeperState) (input : Input) : ℕ :=
  if Accepts (step env) s input then debit env a input else 0

def received (env : Env) (a : Bytes) (s : KeeperState) (input : Input) : ℕ :=
  if Accepts (step env) s input then credit env a s input else 0

noncomputable def moved (env : Env) (s : KeeperState) (input : Input) : Bytes →₀ ℤ :=
  if Accepts (step env) s input then change env s input else 0

theorem moved_apply (env : Env) (a : Bytes) (s : KeeperState) (input : Input) :
    moved env s input a = (received env a s input : ℤ) - spent env a s input := by
  unfold moved received spent
  split
  · exact change_apply env s input a
  · simp

theorem attempt_of_refused {input : Input} (h : ¬ Accepts (step env) s input) :
    attempt (step env) s input = s := by
  cases hs : step env s input with
  | ok s' => exact absurd (accepts_iff.mpr ⟨s', hs⟩) h
  | error e => exact attempt_of_error hs

theorem books_next (env : Env) (s : KeeperState) (input : Input) :
    Bank.Books s.bank (next env s input).bank (moved env s input) := by
  unfold moved
  by_cases h : Accepts (step env) s input
  · obtain ⟨s', hs'⟩ := accepts_iff.mp h
    rw [if_pos h, next, attempt_of_ok hs']
    exact books_step hs'
  · rw [if_neg h, next, attempt_of_refused h]
    exact .refl s.bank

theorem books_run (env : Env) (s : KeeperState) (inputs : List Input) :
    Bank.Books s.bank (run (next env) s inputs).bank
      (trail (next env) (moved env) s inputs).sum := by
  exact run_accumulates (fun s s' => Bank.Books s.bank s'.bank) (fun s => Bank.Books.refl s.bank)
    Bank.Books.trans (books_next env) s inputs

/-- What a step adds to the burn counter. -/
def counted (env : Env) (s : KeeperState) (input : Input) : ℕ :=
  if Accepts (step env) s input then activityBurned input else 0

theorem burns_next (env : Env) (s : KeeperState) (input : Input) :
    BurnsCounted s (next env s input) (counted env s input) := by
  unfold counted
  by_cases h : Accepts (step env) s input
  · obtain ⟨s', hs'⟩ := accepts_iff.mp h
    rw [if_pos h, next, attempt_of_ok hs']
    exact burns_step hs'
  · rw [if_neg h, next, attempt_of_refused h]
    exact .refl s

theorem moved_sum_apply (env : Env) (a : Bytes) (s : KeeperState) (inputs : List Input) :
    (trail (next env) (moved env) s inputs).sum a =
      ((trail (next env) (received env a) s inputs).sum : ℤ) -
        (trail (next env) (spent env a) s inputs).sum := by
  induction inputs generalizing s with
  | nil => simp
  | cons input inputs ih =>
      simp only [trail_cons, List.sum_cons, Finsupp.add_apply, moved_apply, ih, Nat.cast_add]
      omega

/-- The coins of a run: the balance of every account is what it had and received less what it
spent, what is issued or destroyed passes through the pool, and the burn counter has the burns. -/
theorem accounts_conserved (env : Env) (s : KeeperState) (inputs : List Input) :
    (∀ a, (run (next env) s inputs).bank.accounts a +
        (trail (next env) (spent env a) s inputs).sum =
      s.bank.accounts a + (trail (next env) (received env a) s inputs).sum) ∧
    (∃ holders : Finset Bytes,
      (∀ a ∉ holders, (run (next env) s inputs).bank.accounts a = s.bank.accounts a) ∧
      (run (next env) s inputs).bank.supply - (run (next env) s inputs).bank.pool -
          ∑ a ∈ holders, ((run (next env) s inputs).bank.accounts a : ℤ) =
        s.bank.supply - s.bank.pool - ∑ a ∈ holders, (s.bank.accounts a : ℤ)) ∧
    wrap64 ((run (next env) s inputs).totalActivityBurned.getD 0) =
      wrap64 (s.totalActivityBurned.getD 0 + (trail (next env) (counted env) s inputs).sum) := by
  have hbooks := books_run env s inputs
  obtain ⟨hothers, hholders⟩ := accounts_settled hbooks.accounts
  have hburns := run_accumulates BurnsCounted BurnsCounted.refl BurnsCounted.trans (burns_next env)
    s inputs
  refine ⟨fun a => ?_, ⟨(trail (next env) (moved env) s inputs).sum.support, fun a ha => ?_, ?_⟩,
    hburns⟩
  · have haccount := hbooks.accounts a
    rw [moved_sum_apply] at haccount
    omega
  · exact_mod_cast hothers a ha
  · have hsupply := hbooks.supply
    rw [hholders]
    omega

end PoleProtocol.Chain
