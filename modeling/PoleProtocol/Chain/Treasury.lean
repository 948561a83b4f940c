import PoleProtocol.Chain.Challenges

/-!
# What the coin operations do

One rule for each bank operation of the module: which balance it needs and what it leaves in the
pool and in the accounts.
-/

namespace PoleProtocol.Chain

open Framework

namespace Bank

variable {env : Env} {bank bank' : Bank} {amount : ℕ}

theorem burnCoins_ok (h : bank.burnCoins amount = .ok bank') :
    bank'.pool + amount = bank.pool ∧ bank'.accounts = bank.accounts := by
  simp only [burnCoins, bind_eq_ok, ensure_eq_ok, exists_const, pure_eq_ok] at h
  obtain ⟨hfunds, rfl⟩ := h
  exact ⟨Nat.sub_add_cancel hfunds, rfl⟩

theorem sendCoinsFromModuleToAccount_ok {recipient : Bytes}
    (h : bank.sendCoinsFromModuleToAccount recipient amount = .ok bank') :
    bank'.pool + amount = bank.pool ∧
      bank'.accounts =
        Function.update bank.accounts recipient (bank.accounts recipient + amount) := by
  simp only [sendCoinsFromModuleToAccount, bind_eq_ok, ensure_eq_ok, exists_const, pure_eq_ok] at h
  obtain ⟨hfunds, rfl⟩ := h
  exact ⟨Nat.sub_add_cancel hfunds, rfl⟩

theorem sendCoinsFromModuleToAccount_of_le (recipient : Bytes) (h : amount ≤ bank.pool) :
    ∃ bank', bank.sendCoinsFromModuleToAccount recipient amount = .ok bank' := by
  rw [sendCoinsFromModuleToAccount, ensure_of h, ok_bind]
  exact ⟨_, rfl⟩

theorem sendCoinsFromAccountToModule_ok {sender : Bytes}
    (h : bank.sendCoinsFromAccountToModule sender amount = .ok bank') :
    amount ≤ bank.accounts sender ∧ bank'.pool = bank.pool + amount := by
  simp only [sendCoinsFromAccountToModule, bind_eq_ok, ensure_eq_ok, exists_const,
    pure_eq_ok] at h
  obtain ⟨hfunds, rfl⟩ := h
  exact ⟨hfunds, rfl⟩

/-- A pool burn destroys what was asked for, as far as the pool goes. -/
theorem burnFromRewardPool_ok {burned : ℕ}
    (h : bank.burnFromRewardPool amount = .ok (bank', burned)) :
    burned = min bank.pool amount ∧ bank'.pool + burned = bank.pool ∧
      bank'.accounts = bank.accounts := by
  unfold burnFromRewardPool at h
  split at h
  · next hzero =>
      simp only [pure_eq_ok, Prod.mk.injEq] at h
      obtain ⟨rfl, rfl⟩ := h
      exact ⟨by omega, by omega, rfl⟩
  split at h
  · next hempty =>
      simp only [pure_eq_ok, Prod.mk.injEq] at h
      obtain ⟨rfl, rfl⟩ := h
      exact ⟨by omega, by omega, rfl⟩
  · simp only [bind_eq_ok, ensure_eq_ok, exists_const, pure_eq_ok, Prod.mk.injEq] at h
    obtain ⟨_, _, hburn, rfl, rfl⟩ := h
    exact ⟨rfl, burnCoins_ok hburn⟩

/-- A pool burn cannot fail while the pool fits a word. -/
theorem burnFromRewardPool_of_lt (amount : ℕ) (h : bank.pool < 2 ^ 64) :
    ∃ result, bank.burnFromRewardPool amount = .ok result := by
  unfold burnFromRewardPool
  by_cases hzero : amount = 0
  · exact ⟨_, if_pos hzero⟩
  by_cases hempty : bank.pool = 0
  · rw [if_neg hzero, if_pos hempty]
    exact ⟨_, rfl⟩
  · rw [if_neg hzero, if_neg hempty, ensure_of h, ok_bind]
    simp only [burnCoins, ensure_of (min_le_left bank.pool amount), ok_bind]
    exact ⟨_, rfl⟩

theorem escrowChallengeBond_ok {challenger : String}
    (h : bank.escrowChallengeBond env challenger amount = .ok bank') :
    bank'.pool = bank.pool + amount ∧
      (amount ≠ 0 → ∃ address, env.accAddressFromBech32 challenger = .ok address) := by
  unfold escrowChallengeBond at h
  split at h
  · next hzero =>
      simp only [pure_eq_ok] at h
      subst h
      exact ⟨by omega, fun hne => absurd hzero hne⟩
  · simp only [bind_eq_ok, foreign_eq_ok] at h
    obtain ⟨address, haddress, hsend⟩ := h
    exact ⟨(sendCoinsFromAccountToModule_ok hsend).2, fun _ => ⟨address, haddress⟩⟩

theorem settleChallengeBond_refunds {challenger : String} {address : Bytes} {bond : ℕ}
    (burnBps : ℕ) (hfunds : bond ≤ bank.pool)
    (haddress : env.accAddressFromBech32 challenger = .ok address) :
    ∃ result, bank.settleChallengeBond env challenger bond burnBps false = .ok result := by
  unfold settleChallengeBond
  by_cases hzero : bond = 0
  · exact ⟨_, if_pos hzero⟩
  obtain ⟨bank', hsend⟩ := sendCoinsFromModuleToAccount_of_le address hfunds
  rw [if_neg hzero, if_neg (by decide), foreign_eq_ok.mpr haddress, ok_bind, hsend]
  exact ⟨_, rfl⟩

theorem settleChallengeBond_forfeits (env : Env) (challenger : String) (bond burnBps : ℕ)
    (hword : bank.pool < 2 ^ 64) :
    ∃ result, bank.settleChallengeBond env challenger bond burnBps true = .ok result := by
  unfold settleChallengeBond
  by_cases hzero : bond = 0
  · exact ⟨_, if_pos hzero⟩
  · rw [if_neg hzero, if_pos rfl]
    exact burnFromRewardPool_of_lt _ hword

/-- Settling takes at most the bond out of the pool. -/
theorem settleChallengeBond_pool {challenger : String} {bond burnBps burned : ℕ} {forfeit : Bool}
    (h : bank.settleChallengeBond env challenger bond burnBps forfeit = .ok (bank', burned)) :
    bank.pool ≤ bank'.pool + bond := by
  unfold settleChallengeBond at h
  split at h
  · simp only [pure_eq_ok, Prod.mk.injEq] at h
    obtain ⟨rfl, _⟩ := h
    exact Nat.le_add_right _ _
  split at h
  · obtain ⟨hburned, hpool, _⟩ := burnFromRewardPool_ok h
    have hshare : bpsShare64 bond (min burnBps 10000) ≤ bond := bpsShare64_le (min_le_right _ _)
    omega
  · simp only [bind_eq_ok, pure_eq_ok, Prod.mk.injEq] at h
    obtain ⟨_, _, _, hsend, rfl, _⟩ := h
    exact (sendCoinsFromModuleToAccount_ok hsend).1.ge

/-- A claim is paid out of a pool that holds at least the whole claim. -/
theorem payClaim_ok {recipient : Bytes} {payout : ℕ}
    (h : bank.payClaim recipient amount payout = .ok bank') :
    (0 < payout → bank'.pool + payout = max bank.pool amount) ∧
      (payout = 0 → bank'.pool = bank.pool) ∧
      bank'.accounts =
        Function.update bank.accounts recipient (bank.accounts recipient + payout) := by
  unfold payClaim at h
  split at h
  · next hpositive =>
      simp only [bind_eq_ok] at h
      obtain ⟨funded, hfunded, hsend⟩ := h
      obtain ⟨hpool, haccounts⟩ := sendCoinsFromModuleToAccount_ok hsend
      have hfunds : funded.pool = max bank.pool amount ∧ funded.accounts = bank.accounts := by
        unfold ensureRewardPool at hfunded
        split at hfunded
        · next hcovered =>
            cases hfunded
            exact ⟨by omega, rfl⟩
        split at hfunded
        · cases hfunded
        · cases hfunded
          exact ⟨by simp only [mintCoins]; omega, rfl⟩
      refine ⟨fun _ => by omega, fun hzero => by omega, ?_⟩
      rw [haccounts, hfunds.2]
  · next hunpaid =>
      cases h
      have hzero : payout = 0 := by omega
      subst hzero
      exact ⟨fun hpositive => absurd hpositive hunpaid, fun _ => rfl,
        (Function.update_eq_self recipient bank.accounts).symm⟩

theorem burnClaimShare_ok (h : bank.burnClaimShare amount = .ok bank') :
    bank'.pool + amount = bank.pool ∧ bank'.accounts = bank.accounts := by
  unfold burnClaimShare at h
  split at h
  · exact burnCoins_ok h
  · cases h
    exact ⟨by omega, rfl⟩

end Bank

/-- Settling the bond of a challenge moves coins only, and takes at most the bond. -/
theorem KeeperState.settleChallengeBond_ok {env : Env} {s s' : KeeperState} {challenge : Challenge}
    (h : s.settleChallengeBond env challenge = .ok s') :
    ∃ bank, s' = { s with bank } ∧ s.bank.pool ≤ bank.pool + challenge.bondAmount.toNat := by
  unfold KeeperState.settleChallengeBond at h
  split at h
  · cases h
    exact ⟨s.bank, rfl, Nat.le_add_right _ _⟩
  · simp only [bind_eq_ok, pure_eq_ok] at h
    obtain ⟨⟨bank, burned⟩, hbond, rfl⟩ := h
    exact ⟨bank, rfl, Bank.settleChallengeBond_pool hbond⟩

/-- With validated parameters the burnt part of a claim is at most the claim. -/
theorem claimBurnAmount_le {params : Params} (hparams : params.validate = .ok ()) (amount : ℕ) :
    claimBurnAmount params amount ≤ amount := by
  obtain ⟨hshare, _⟩ := Params.validate_shares hparams
  unfold claimBurnAmount
  split
  · exact (bpsShare64_le hshare).trans (Nat.sub_le _ _)
  · exact Nat.zero_le _

end PoleProtocol.Chain
