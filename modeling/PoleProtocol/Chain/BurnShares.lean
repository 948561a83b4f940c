import PoleProtocol.Framework.Rounding
import PoleProtocol.Chain.Treasury
import PoleProtocol.Chain.WellFormed

/-!
# Burn shares

Four channels destroy a share of an amount, given in basis points: collected fees, forfeited bonds,
paid claims and applied slashes. Each forms the product in a 64-bit word, and fees and module
balances are read into such a word first. The share is the exact one where the product fits.
-/

namespace PoleProtocol.Chain

open Framework

/-! ## The channels -/

/-- What the fee channel destroys of a fee. Reading a fee outside the 64-bit range panics. -/
def feeBurnShare (fee bps : ℕ) : Except ChainError ℕ := do
  if bps = 0 then return 0
  let bps := min bps 10000
  if fee = 0 then return 0
  ensure (fee < 2 ^ 64) (.panicked "Uint64() out of bounds")
  return bpsShare64 fee bps

/-- Destroy up to `amount` of the coins of a module. The components are the balance that is left
and the destroyed quantity. -/
def burnFromModule (balance amount : ℕ) : Except ChainError (ℕ × ℕ) := do
  if amount = 0 then return (balance, 0)
  if balance = 0 then return (balance, 0)
  ensure (balance < 2 ^ 64) (.panicked "Uint64() out of bounds")
  let burnable := min balance amount
  ensure (burnable ≤ balance) Bank.insufficientFunds
  return (balance - burnable, burnable)

/-- The fee step after a transaction, on the balance of the fee collector. -/
def burnFeeCoins (params : Params) (collector fee : ℕ) : Except ChainError (ℕ × ℕ) := do
  if params.feeBurnBps = 0 then return (collector, 0)
  let burn ← feeBurnShare fee params.feeBurnBps
  if burn = 0 then return (collector, 0)
  burnFromModule collector burn

/-- What a slash takes from a record. -/
def slashApplied (challenge : Challenge) (record : RewardRecord) : ℕ :=
  min challenge.slashAmount record.netReward

/-- What the governance channel destroys of an applied slash. -/
def governanceBurn (params : Params) (challenge : Challenge) (record : RewardRecord) : ℕ :=
  bpsShare64 (slashApplied challenge record) params.governanceBurnBps

/-- The slash of a target destroys the governance share and, for a false play, the session share. -/
theorem slashTarget_eq (s : KeeperState) (challenge : Challenge) :
    s.slashTarget challenge =
      if challenge.targetAddress = "" ∨ challenge.slashAmount = 0 then .ok s
      else do
        let record := s.rewardRecordOrNew challenge.epochId challenge.targetAddress
        let debited := record.debit (slashApplied challenge record)
        let slashed := sessionSlash s.getParams challenge debited
        let (bank, _) ← s.bank.burnFromRewardPool (governanceBurn s.getParams challenge record)
        let (bank, _) ← bank.burnFromRewardPool slashed
        return { s with bank }.setRewardRecord (debited.debit slashed) :=
  rfl

/-! ## What a module burns -/

variable {balance amount : ℕ}

/-- A balance inside 64 bits is burnt as far as it goes. -/
theorem burnFromModule_of_lt (amount : ℕ) (hword : balance < 2 ^ 64) :
    burnFromModule balance amount =
      .ok (balance - min balance amount, min balance amount) := by
  unfold burnFromModule
  by_cases hnothing : amount = 0
  · rw [if_pos hnothing, hnothing, Nat.min_zero]
    rfl
  by_cases hempty : balance = 0
  · rw [if_neg hnothing, if_pos hempty, hempty, Nat.zero_min]
    rfl
  rw [if_neg hnothing, if_neg hempty, ensure_of hword, ok_bind]
  simp only [ensure_of (Nat.min_le_left balance amount), ok_bind]
  rfl

/-- A larger balance panics. -/
theorem burnFromModule_of_ge (hamount : amount ≠ 0) (hlarge : ¬ balance < 2 ^ 64) :
    burnFromModule balance amount = .error (.panicked "Uint64() out of bounds") := by
  have hsome : balance ≠ 0 := by omega
  unfold burnFromModule
  rw [if_neg hamount, if_neg hsome, ensure, if_neg hlarge]
  rfl

theorem burnFromModule_ok_iff :
    burnFromModule balance amount =
        .ok (balance - min balance amount, min balance amount) ↔
      amount = 0 ∨ balance < 2 ^ 64 := by
  by_cases hword : balance < 2 ^ 64
  · exact iff_of_true (burnFromModule_of_lt amount hword) (.inr hword)
  by_cases hnothing : amount = 0
  · refine iff_of_true ?_ (.inl hnothing)
    rw [burnFromModule, if_pos hnothing, hnothing, Nat.min_zero]
    rfl
  · refine iff_of_false ?_ (not_or.mpr ⟨hnothing, hword⟩)
    rw [burnFromModule_of_ge hnothing hword]
    exact fun h => nomatch h

/-- The reward pool is burnt as the balance of any module is. -/
theorem burnFromRewardPool_eq (bank : Bank) (amount : ℕ) :
    bank.burnFromRewardPool amount = do
      let (pool, burned) ← burnFromModule bank.pool amount
      return ({ bank with pool, supply := bank.supply - burned }, burned) := by
  unfold Bank.burnFromRewardPool burnFromModule
  by_cases hnothing : amount = 0
  · rw [if_pos hnothing, if_pos hnothing, pure_bind]
    simp
  by_cases hempty : bank.pool = 0
  · rw [if_neg hnothing, if_neg hnothing, if_pos hempty, if_pos hempty, pure_bind]
    simp
  rw [if_neg hnothing, if_neg hnothing, if_neg hempty, if_neg hempty]
  by_cases hword : bank.pool < 2 ^ 64
  · have hle := Nat.min_le_left bank.pool amount
    simp only [Bank.burnCoins, ensure_of hword, ensure_of hle, ok_bind]
    rfl
  · rw [ensure, if_neg hword]
    rfl

/-- Asking for different quantities burns differently. -/
theorem eq_of_burnFromRewardPool {a b : ℕ} (ha : a < 2 ^ 64 - 1)
    (h : ∀ bank : Bank, bank.burnFromRewardPool a = bank.burnFromRewardPool b) : a = b := by
  have hword : 2 ^ 64 - 1 < 2 ^ 64 := by norm_num
  have hfull := h { pool := 2 ^ 64 - 1, accounts := fun _ => 0, supply := 0 }
  rw [burnFromRewardPool_eq, burnFromRewardPool_eq, burnFromModule_of_lt a hword,
    burnFromModule_of_lt b hword] at hfull
  have hburned : min (2 ^ 64 - 1) a = min (2 ^ 64 - 1) b :=
    congrArg Prod.snd (Except.ok.inj hfull)
  omega

/-! ## Exact shares -/

/-- A share in basis points, rounded down. -/
def exactShare (amount bps : ℕ) : ℕ := amount * bps / 10000

theorem bpsShare64_eq_iff {bps : ℕ} :
    bpsShare64 amount bps = exactShare amount bps ↔ amount * bps < 2 ^ 64 :=
  wrap64_div_eq_iff (by decide) (by norm_num)

theorem feeBurnShare_ok_iff {bps : ℕ} (hbps : bps ≤ 10000) :
    feeBurnShare amount bps = .ok (exactShare amount bps) ↔ amount * bps < 2 ^ 64 := by
  unfold feeBurnShare
  by_cases hoff : bps = 0
  · rw [if_pos hoff, hoff, exactShare, Nat.mul_zero]
    exact iff_of_true rfl (by norm_num)
  by_cases hnone : amount = 0
  · rw [if_neg hoff, if_pos hnone, hnone, exactShare, Nat.zero_mul]
    exact iff_of_true rfl (by norm_num)
  rw [if_neg hoff, if_neg hnone, min_eq_left hbps]
  by_cases hword : amount < 2 ^ 64
  · rw [ensure_of hword, ok_bind, pure_eq_ok]
    exact bpsShare64_eq_iff
  · have hproduct : amount ≤ amount * bps := Nat.le_mul_of_pos_right amount (by omega)
    rw [ensure, if_neg hword]
    exact iff_of_false (by rintro ⟨⟩) (by omega)

theorem settleChallengeBond_exact_iff (env : Env) (challenger : String) {bond bps : ℕ}
    (hbps : bps ≤ 10000) :
    (∀ bank : Bank, bank.settleChallengeBond env challenger bond bps true =
        bank.burnFromRewardPool (exactShare bond bps)) ↔ bond * bps < 2 ^ 64 := by
  rw [← bpsShare64_eq_iff]
  have hsettle : ∀ bank : Bank, bank.settleChallengeBond env challenger bond bps true =
      bank.burnFromRewardPool (bpsShare64 bond bps) := by
    intro bank
    unfold Bank.settleChallengeBond
    by_cases hnone : bond = 0
    · have hshare : bpsShare64 bond bps = 0 := by
        rw [bpsShare64, hnone, Nat.zero_mul]
        rfl
      rw [if_pos hnone, hshare]
      rfl
    · rw [if_neg hnone, if_pos rfl, min_eq_left hbps]
  simp only [hsettle]
  constructor
  · refine eq_of_burnFromRewardPool ?_
    have hwrap : wrap64 (bond * bps) < 2 ^ 64 := Nat.mod_lt _ (by norm_num)
    unfold bpsShare64
    omega
  · intro hexact bank
    rw [hexact]

theorem claimBurnAmount_exact_iff (params : Params) (amount : ℕ) :
    claimBurnAmount params amount =
        exactShare (amount - params.rewardBurnThreshold) params.rewardBurnBps ↔
      (amount - params.rewardBurnThreshold) * params.rewardBurnBps < 2 ^ 64 := by
  unfold claimBurnAmount
  split
  · exact bpsShare64_eq_iff
  · next hnothing =>
      have hzero : (amount - params.rewardBurnThreshold) * params.rewardBurnBps = 0 := by
        rw [Nat.mul_eq_zero]
        omega
      rw [exactShare, hzero]
      exact iff_of_true rfl (by norm_num)

theorem sessionSlash_exact_iff (params : Params) {challenge : Challenge}
    (hkind : challenge.kind = .badReward) (record : RewardRecord) :
    sessionSlash params challenge record =
        exactShare (min record.playerReward record.netReward) params.sessionSlashBps ↔
      min record.playerReward record.netReward * params.sessionSlashBps < 2 ^ 64 := by
  unfold sessionSlash
  by_cases hon : 0 < params.sessionSlashBps
  · rw [if_pos ⟨hkind, hon⟩]
    exact bpsShare64_eq_iff
  · have hoff : params.sessionSlashBps = 0 := by omega
    rw [if_neg fun h => hon h.2, hoff, exactShare, Nat.mul_zero]
    exact iff_of_true rfl (by norm_num)

/-- A fee whose share fits is burnt out of a collector that fits, as far as the collector goes. -/
theorem burnFeeCoins_ok {params : Params} {collector fee : ℕ} (hbps : params.feeBurnBps ≤ 10000)
    (hfee : fee * params.feeBurnBps < 2 ^ 64) (hcollector : collector < 2 ^ 64) :
    burnFeeCoins params collector fee =
      .ok (collector - min collector (exactShare fee params.feeBurnBps),
        min collector (exactShare fee params.feeBurnBps)) := by
  unfold burnFeeCoins
  by_cases hoff : params.feeBurnBps = 0
  · rw [if_pos hoff, hoff, exactShare, Nat.mul_zero, Nat.zero_div, Nat.min_zero]
    rfl
  rw [if_neg hoff, (feeBurnShare_ok_iff hbps).mpr hfee, ok_bind]
  by_cases hnone : exactShare fee params.feeBurnBps = 0
  · rw [if_pos hnone, hnone, Nat.min_zero]
    rfl
  · rw [if_neg hnone, burnFromModule_of_lt _ hcollector]

/-- Every channel computes the exact share as long as its product fits a 64-bit word, and a module
is burnt exactly as long as its balance does. -/
theorem burn_shares_exact_iff (env : Env) (params : Params) (challenge : Challenge)
    (record : RewardRecord) (challenger : String) (fee bond bps claimed balance requested : ℕ)
    (hbps : bps ≤ 10000) :
    (feeBurnShare fee bps = .ok (exactShare fee bps) ↔ fee * bps < 2 ^ 64) ∧
      ((∀ bank : Bank, bank.settleChallengeBond env challenger bond bps true =
          bank.burnFromRewardPool (exactShare bond bps)) ↔ bond * bps < 2 ^ 64) ∧
      (claimBurnAmount params claimed =
          exactShare (claimed - params.rewardBurnThreshold) params.rewardBurnBps ↔
        (claimed - params.rewardBurnThreshold) * params.rewardBurnBps < 2 ^ 64) ∧
      (governanceBurn params challenge record =
          exactShare (slashApplied challenge record) params.governanceBurnBps ↔
        slashApplied challenge record * params.governanceBurnBps < 2 ^ 64) ∧
      (challenge.kind = .badReward →
        (sessionSlash params challenge record =
            exactShare (min record.playerReward record.netReward) params.sessionSlashBps ↔
          min record.playerReward record.netReward * params.sessionSlashBps < 2 ^ 64)) ∧
      (burnFromModule balance requested =
          .ok (balance - min balance requested, min balance requested) ↔
        requested = 0 ∨ balance < 2 ^ 64) :=
  ⟨feeBurnShare_ok_iff hbps, settleChallengeBond_exact_iff env challenger hbps,
    claimBurnAmount_exact_iff params claimed, bpsShare64_eq_iff,
    fun hkind => sessionSlash_exact_iff params hkind record, burnFromModule_ok_iff⟩

/-- A quarter of a bond of a thousand, next to a slash, a claim and a fee of the same size. -/
theorem burn_shares_exact_iff_quarter :
    feeBurnShare 1000 2500 = .ok (exactShare 1000 2500) ∧
      (∀ bank : Bank, bank.settleChallengeBond Sample.env Sample.alice 1000 2500 true =
        bank.burnFromRewardPool (exactShare 1000 2500)) := by
  have hexact := burn_shares_exact_iff Sample.env defaultParams { kind := .badReward }
    { epochId := 7, recipient := Sample.bob } Sample.alice 1000 1000 2500 1000 1000 250 (by decide)
  exact ⟨hexact.1.mpr (by decide), hexact.2.1.mpr (by decide)⟩

/-- Half of a large fee wraps to nothing, and a large balance cannot be burnt at all. -/
theorem large_fee_burns_nothing :
    feeBurnShare (2 ^ 62) 5000 = .ok 0 ∧ exactShare (2 ^ 62) 5000 = 2 ^ 61 ∧
      burnFromModule (2 ^ 64) 1 = .error (.panicked "Uint64() out of bounds") := by
  refine ⟨?_, ?_, ?_⟩ <;> decide

end PoleProtocol.Chain
