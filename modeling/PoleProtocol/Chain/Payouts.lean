import PoleProtocol.Chain.Claims

/-!
# Payable claims

A claim is paid less its burnt share, and what the pool lacks for the whole claim is minted first.
Nothing is minted where nothing is paid, so a claim that is burnt as a whole needs a pool that holds
it.
-/

namespace PoleProtocol.Chain

open Framework

/-- The burnt share of a claim, in numbers. -/
def exactBurn (params : Params) (amount : ℕ) : ℕ :=
  if params.rewardBurnThreshold < amount then
    (amount - params.rewardBurnThreshold) * params.rewardBurnBps / 10000
  else 0

section Burn

variable {params : Params} {amount : ℕ}

theorem exactBurn_le (hvalid : params.validate = .ok ()) (amount : ℕ) :
    exactBurn params amount ≤ amount := by
  have hshare := (Params.validate_shares hvalid).1
  unfold exactBurn
  split
  · have hproduct : (amount - params.rewardBurnThreshold) * params.rewardBurnBps ≤
        (amount - params.rewardBurnThreshold) * 10000 := Nat.mul_le_mul_left _ hshare
    omega
  · exact Nat.zero_le _

/-- A claim within the supply is far from wrapping the product. -/
theorem claimBurnAmount_eq (hvalid : params.validate = .ok ())
    (hsupply : amount ≤ totalSupplyAmount) :
    claimBurnAmount params amount = exactBurn params amount := by
  have hshare := (Params.validate_shares hvalid).1
  unfold claimBurnAmount exactBurn
  by_cases hexceeds : params.rewardBurnThreshold < amount
  · by_cases hburns : 0 < params.rewardBurnBps
    · rw [if_pos ⟨hexceeds, hburns⟩, if_pos hexceeds, bpsShare64]
      have hexcess : amount - params.rewardBurnThreshold ≤ 1000000000 := by
        change amount ≤ 1000000000 at hsupply
        omega
      have hproduct : (amount - params.rewardBurnThreshold) * params.rewardBurnBps ≤
          1000000000 * 10000 := Nat.mul_le_mul hexcess hshare
      rw [wrap64_of_lt (by omega)]
    · have hzero : params.rewardBurnBps = 0 := by omega
      rw [if_neg fun h => hburns h.2, if_pos hexceeds, hzero]
      simp
  · rw [if_neg fun h => hexceeds h.1, if_neg hexceeds]

/-- Everything is burnt only without a threshold and at the full share. -/
theorem exactBurn_eq_self_iff (hvalid : params.validate = .ok ()) (hamount : 0 < amount) :
    exactBurn params amount = amount ↔
      params.rewardBurnThreshold = 0 ∧ params.rewardBurnBps = 10000 := by
  have hshare := (Params.validate_shares hvalid).1
  unfold exactBurn
  constructor
  · intro hall
    split at hall
    · next hexceeds =>
        have hproduct : (amount - params.rewardBurnThreshold) * params.rewardBurnBps ≤
            (amount - params.rewardBurnThreshold) * 10000 := Nat.mul_le_mul_left _ hshare
        have hthreshold : params.rewardBurnThreshold = 0 := by omega
        rw [hthreshold, Nat.sub_zero] at hall
        refine ⟨hthreshold, ?_⟩
        -- a smaller share of a positive amount is smaller
        by_contra hless
        have hsmaller : amount * params.rewardBurnBps < amount * 10000 :=
          Nat.mul_lt_mul_of_pos_left (by omega) hamount
        omega
    · omega
  · rintro ⟨hthreshold, hfull⟩
    rw [hthreshold, hfull, if_pos hamount]
    omega

end Burn

namespace Bank

variable {bank : Bank} {amount : ℕ}

theorem payClaim_of_pos (recipient : Bytes) {payout : ℕ} (hpaid : 0 < payout)
    (hle : payout ≤ amount) (hsupply : amount ≤ totalSupplyAmount) :
    bank.payClaim recipient amount payout = .ok
      ⟨max bank.pool amount - payout,
        Function.update bank.accounts recipient (bank.accounts recipient + payout),
        bank.supply + ((amount - bank.pool : ℕ) : ℤ)⟩ := by
  unfold payClaim ensureRewardPool
  rw [if_pos hpaid]
  by_cases hcovered : amount ≤ bank.pool
  · rw [if_pos hcovered, ok_bind, sendCoinsFromModuleToAccount, ensure_of (hle.trans hcovered)]
    have hmax : max bank.pool amount = bank.pool := Nat.max_eq_left hcovered
    have hnothing : amount - bank.pool = 0 := Nat.sub_eq_zero_of_le hcovered
    rw [hmax, hnothing, Nat.cast_zero, add_zero]
    rfl
  · have hpool : bank.pool + (amount - bank.pool) = amount := by omega
    have hmax : max bank.pool amount = amount := by omega
    rw [if_neg hcovered, if_neg (by omega), ok_bind, sendCoinsFromModuleToAccount, mintCoins, hpool,
      ensure_of hle, hmax]
    rfl

theorem burnClaimShare_of_le (h : amount ≤ bank.pool) :
    bank.burnClaimShare amount = .ok
      ⟨bank.pool - amount, bank.accounts, bank.supply - amount⟩ := by
  unfold burnClaimShare burnCoins
  by_cases hburns : 0 < amount
  · rw [if_pos hburns, ensure_of h]
    rfl
  · have hzero : amount = 0 := by omega
    rw [if_neg hburns, hzero, Nat.sub_zero, Nat.cast_zero, sub_zero]

end Bank

namespace KeeperState

variable {env : Env} {s : KeeperState} {claim : ClaimedReward} {recipient : Bytes}

/-- The payout succeeds, the recipient gets the claim less the burnt share, and the supply changes
by what is minted less what is burnt. -/
def PaysExactly (env : Env) (s : KeeperState) (claim : ClaimedReward) : Prop :=
  ∃ recipient bank, env.accAddressFromBech32 claim.recipient = .ok recipient ∧
    s.payoutClaimedReward env claim = .ok { s with bank } ∧
    bank.accounts = Function.update s.bank.accounts recipient
      (s.bank.accounts recipient + (claim.amount - exactBurn s.getParams claim.amount)) ∧
    bank.supply = s.bank.supply + ((claim.amount - s.bank.pool : ℕ) : ℤ) -
      exactBurn s.getParams claim.amount

theorem payoutClaimedReward_eq
    (hrecipient : env.accAddressFromBech32 claim.recipient = .ok recipient)
    (hamount : 0 < claim.amount) (hsupply : claim.amount ≤ totalSupplyAmount)
    (hvalid : s.getParams.validate = .ok ()) :
    s.payoutClaimedReward env claim = do
      let bank ← s.bank.payClaim recipient claim.amount
        (claim.amount - exactBurn s.getParams claim.amount)
      let bank ← bank.burnClaimShare (exactBurn s.getParams claim.amount)
      return { s with bank } := by
  rw [payoutClaimedReward, ensure_of (Nat.ne_of_gt hamount), ok_bind,
    foreign_eq_ok.mpr hrecipient, ok_bind, claimBurnAmount_eq hvalid hsupply]
  dsimp only
  rw [sub64_of_le (exactBurn_le hvalid claim.amount)]

/-- A part of the claim is paid: the pool then holds the whole claim. -/
private theorem paysExactly_of_lt
    (hrecipient : env.accAddressFromBech32 claim.recipient = .ok recipient)
    (hamount : 0 < claim.amount) (hsupply : claim.amount ≤ totalSupplyAmount)
    (hvalid : s.getParams.validate = .ok ())
    (hpaid : exactBurn s.getParams claim.amount < claim.amount) : s.PaysExactly env claim := by
  have hburn : exactBurn s.getParams claim.amount ≤ claim.amount := exactBurn_le hvalid _
  have hpay : s.bank.payClaim recipient claim.amount
      (claim.amount - exactBurn s.getParams claim.amount) = _ :=
    Bank.payClaim_of_pos recipient (Nat.sub_pos_of_lt hpaid) (Nat.sub_le _ _) hsupply
  refine ⟨recipient, ⟨max s.bank.pool claim.amount -
      (claim.amount - exactBurn s.getParams claim.amount) - exactBurn s.getParams claim.amount,
      Function.update s.bank.accounts recipient
        (s.bank.accounts recipient + (claim.amount - exactBurn s.getParams claim.amount)),
      s.bank.supply + ((claim.amount - s.bank.pool : ℕ) : ℤ) -
        exactBurn s.getParams claim.amount⟩, hrecipient, ?_, rfl, rfl⟩
  rw [payoutClaimedReward_eq hrecipient hamount hsupply hvalid, hpay, ok_bind,
    Bank.burnClaimShare_of_le (by dsimp only; omega)]
  rfl

/-- The whole claim is burnt: no coins are minted, and the pool has to hold them. -/
private theorem paysExactly_of_full
    (hrecipient : env.accAddressFromBech32 claim.recipient = .ok recipient)
    (hamount : 0 < claim.amount) (hsupply : claim.amount ≤ totalSupplyAmount)
    (hvalid : s.getParams.validate = .ok ())
    (hfull : exactBurn s.getParams claim.amount = claim.amount) :
    s.PaysExactly env claim ↔ claim.amount ≤ s.bank.pool := by
  have hpayout : s.payoutClaimedReward env claim =
      s.bank.burnClaimShare claim.amount >>= fun bank => .ok { s with bank } := by
    rw [payoutClaimedReward_eq hrecipient hamount hsupply hvalid, hfull, Nat.sub_self]
    rfl
  constructor
  · rintro ⟨_, bank, _, hok, _⟩
    rw [hpayout] at hok
    obtain ⟨burned, hburned, _⟩ := bind_eq_ok.mp hok
    have hpool := (Bank.burnClaimShare_ok hburned).1
    omega
  · intro hcovered
    refine ⟨recipient, ⟨s.bank.pool - claim.amount, s.bank.accounts, s.bank.supply - claim.amount⟩,
      hrecipient, ?_, ?_, ?_⟩
    · rw [hpayout, Bank.burnClaimShare_of_le hcovered]
      rfl
    · rw [hfull, Nat.sub_self, add_zero, Function.update_eq_self]
    · rw [hfull, Nat.sub_eq_zero_of_le hcovered, Nat.cast_zero, add_zero]

/-- A claim within the supply is paid exactly, unless it is burnt as a whole out of a pool that does
not hold it. -/
theorem claims_payable_iff (hrecipient : env.accAddressFromBech32 claim.recipient = .ok recipient)
    (hamount : 0 < claim.amount) (hsupply : claim.amount ≤ totalSupplyAmount)
    (hvalid : s.getParams.validate = .ok ()) :
    s.PaysExactly env claim ↔
      ¬ (s.getParams.rewardBurnThreshold = 0 ∧ s.getParams.rewardBurnBps = 10000 ∧
        s.bank.pool < claim.amount) := by
  rw [← and_assoc, ← exactBurn_eq_self_iff hvalid hamount, not_and, Nat.not_lt]
  by_cases hfull : exactBurn s.getParams claim.amount = claim.amount
  · rw [paysExactly_of_full hrecipient hamount hsupply hvalid hfull]
    exact ⟨fun hcovered _ => hcovered, fun hcovered => hcovered hfull⟩
  · have hpaid : exactBurn s.getParams claim.amount < claim.amount :=
      lt_of_le_of_ne (exactBurn_le hvalid claim.amount) hfull
    exact iff_of_true (paysExactly_of_lt hrecipient hamount hsupply hvalid hpaid)
      fun h => absurd h hfull

end KeeperState

namespace Sample

def aliceClaim : ClaimedReward where
  epochId := 7
  recipient := alice
  amount := 20000

/-- The chain of the samples after governance set how claims are burnt. -/
def burning (rewardBurnThreshold rewardBurnBps : ℕ) : KeeperState :=
  { genesis with params := some { defaultParams with rewardBurnThreshold, rewardBurnBps } }

end Sample

open Sample KeeperState in
theorem claims_payable_iff_default :
    (genesis.PaysExactly env aliceClaim ↔
      ¬ (genesis.getParams.rewardBurnThreshold = 0 ∧ genesis.getParams.rewardBurnBps = 10000 ∧
        genesis.bank.pool < aliceClaim.amount)) ∧ genesis.PaysExactly env aliceClaim := by
  have hrecipient : env.accAddressFromBech32 aliceClaim.recipient = .ok (List.replicate 20 1) := by
    decide
  have hiff := claims_payable_iff (s := genesis) hrecipient (by decide) (by decide) (by decide)
  exact ⟨hiff, hiff.mpr (by decide)⟩

open Sample KeeperState in
/-- Governance burns all of every claim; on the empty pool the claim fails. -/
theorem full_burn_locks_claim :
    (burning 0 10000).getParams.validate = .ok () ∧ 0 < aliceClaim.amount ∧
      aliceClaim.amount ≤ totalSupplyAmount ∧
      env.accAddressFromBech32 aliceClaim.recipient = .ok (List.replicate 20 1) ∧
      ¬ (burning 0 10000).PaysExactly env aliceClaim := by
  refine ⟨by decide, by decide, by decide, by decide, ?_⟩
  rintro ⟨_, _, _, hok, _⟩
  have hfails : ((burning 0 10000).payoutClaimedReward env aliceClaim).isOk = false := by
    decide +kernel
  rw [hok] at hfails
  cases hfails

end PoleProtocol.Chain
