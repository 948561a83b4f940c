import PoleProtocol.Chain.WellFormed

/-!
# Solvency of the escrow

Bonds of open challenges and rewards share one module account. This module says along which runs
the account covers the open bonds: every outflow that is not the settlement of an open bond has
to be paid by the surplus over them.
-/

namespace PoleProtocol.Chain

open Framework OrderedMap KeeperState

variable {env : Env} {s s' : KeeperState} {input : Input}

/-- The bond a challenge keeps in escrow: all of it while the challenge is open. -/
def Challenge.openBond (challenge : Challenge) : ℕ :=
  if challenge.state = .open then challenge.bondAmount.toNat else 0

theorem Challenge.openBond_le (challenge : Challenge) :
    challenge.openBond ≤ challenge.bondAmount.toNat := by
  unfold Challenge.openBond
  split
  · exact le_rfl
  · exact Nat.zero_le _

/-- The sum of the bonds of the open challenges. -/
def openBonds (s : KeeperState) : ℕ := total (fun _ challenge => challenge.openBond) s.challenges

/-- The open bonds of all challenges but one. -/
def otherOpenBonds (s : KeeperState) (id : String) : ℕ :=
  total (fun _ challenge => challenge.openBond) (s.challenges.erase id)

theorem openBonds_setChallenge (s : KeeperState) (challenge : Challenge) :
    openBonds (s.setChallenge challenge) =
      challenge.openBond + otherOpenBonds s challenge.challengeIdHex :=
  total_insert_eq _ _ _ _

theorem openBonds_eq {id : String} {challenge : Challenge}
    (h : s.challenges[id]? = some challenge) :
    openBonds s = challenge.openBond + otherOpenBonds s id :=
  total_eq_add_erase _ h

theorem otherOpenBonds_le (s : KeeperState) (id : String) : otherOpenBonds s id ≤ openBonds s :=
  total_erase_le _ _ _

/-! ## Outflows -/

/-- What a resolution burns for the slashes it books. -/
def slashBurns (s : KeeperState) (challenge : Challenge) : ℕ :=
  if challenge.targetAddress = "" ∨ challenge.slashAmount = 0 then 0
  else
    let record := s.rewardRecordOrNew challenge.epochId challenge.targetAddress
    let slashApplied := min challenge.slashAmount record.netReward
    bpsShare64 slashApplied s.getParams.governanceBurnBps +
      sessionSlash s.getParams challenge (record.debit slashApplied)

/-- A resolution takes at most the bond and the slash burns out of the pool. -/
theorem resolution_pool {challenge : Challenge} {settled slashed : KeeperState}
    (hsettles : s.settleChallengeBond env challenge = .ok settled)
    (hslashes : settled.slashTarget challenge = .ok slashed) :
    s.bank.pool ≤ (slashed.rewardChallenger challenge).bank.pool +
      challenge.bondAmount.toNat + slashBurns s challenge := by
  obtain ⟨bank, rfl, hbond⟩ := settleChallengeBond_ok hsettles
  have hburns : bank.pool ≤ slashed.bank.pool + slashBurns s challenge := by
    rcases slashTarget_ok hslashes with rfl | ⟨first, _, second, _, hnamed, hamount, hgovernance,
      hsession, rfl⟩
    · exact Nat.le_add_right _ _
    · obtain ⟨hfirst, hfirstPool, _⟩ := Bank.burnFromRewardPool_ok hgovernance
      obtain ⟨hsecond, hsecondPool, _⟩ := Bank.burnFromRewardPool_ok hsession
      have hslash : ¬ (challenge.targetAddress = "" ∨ challenge.slashAmount = 0) := by
        simp [hnamed, hamount]
      rw [slashBurns, if_neg hslash]
      change bank.pool ≤ second.pool + (_ + _)
      simp only [KeeperState.rewardRecordOrNew, KeeperState.getParams] at *
      omega
  obtain ⟨records, hrewarded⟩ := rewardChallenger_frame slashed challenge
  rw [hrewarded]
  change s.bank.pool ≤ slashed.bank.pool + _ + _
  omega

/-- With validated parameters a claim takes its whole amount out of a pool topped up to it. -/
theorem claim_pool {params : Params} (hparams : params.validate = .ok ()) {bank paid bank' : Bank}
    {recipient : Bytes} {amount : ℕ}
    (hpays : bank.payClaim recipient amount (sub64 amount (claimBurnAmount params amount)) =
      .ok paid)
    (hburns : paid.burnClaimShare (claimBurnAmount params amount) = .ok bank') :
    bank.pool ≤ bank'.pool + amount := by
  have hburn := claimBurnAmount_le hparams amount
  rw [sub64_of_le hburn] at hpays
  obtain ⟨hpaid, hunpaid, _⟩ := Bank.payClaim_ok hpays
  have hshare := (Bank.burnClaimShare_ok hburns).1
  rcases Nat.eq_zero_or_pos (amount - claimBurnAmount params amount) with hzero | hpositive
  · have := hunpaid hzero
    omega
  · have := hpaid hpositive
    omega

/-! ## Runs -/

/-- A claim is paid by the surplus over the open bonds. A resolution settles an open challenge for
good, and its slash burns are paid by the surplus; they may go beyond it when no other bond is
open. -/
def SparesEscrow (s : KeeperState) (input : Input) : Prop :=
  (∀ msg ∈ input.rewardClaim, ∀ record ∈ s.rewardRecords[(msg.epochId, msg.recipient)]?,
    openBonds s = 0 ∨ openBonds s + record.netReward ≤ s.bank.pool) ∧
  ∀ msg ∈ input.resolution, ∀ stored ∈ s.challenges[msg.challengeIdHex]?,
    (stored.bondAmount = 0 ∨ stored.state = .open ∧ msg.finalState ≠ .open) ∧
    (otherOpenBonds s msg.challengeIdHex = 0 ∨
      openBonds s + slashBurns s (stored.resolvedBy msg) ≤ s.bank.pool)

instance (s : KeeperState) (input : Input) : Decidable (SparesEscrow s input) :=
  inferInstanceAs (Decidable (_ ∧ _))

private theorem solvent_resolved (hwf : WellFormed s) {stored : Challenge} {msg : MsgResolveChallenge} {settled slashed : KeeperState}
    (hfound : s.challenges[msg.challengeIdHex]? = some stored)
    (hstate : stored.bondAmount = 0 ∨ stored.state = .open ∧ msg.finalState ≠ .open)
    (hsurplus : otherOpenBonds s msg.challengeIdHex = 0 ∨
      openBonds s + slashBurns s (stored.resolvedBy msg) ≤ s.bank.pool)
    (hsettles : s.settleChallengeBond env (stored.resolvedBy msg) = .ok settled)
    (hslashes : settled.slashTarget (stored.resolvedBy msg) = .ok slashed) :
    openBonds (s.setChallenge (stored.resolvedBy msg)) ≤
      (slashed.rewardChallenger (stored.resolvedBy msg)).bank.pool := by
  have hstored : stored.challengeIdHex = msg.challengeIdHex := hwf.challenges _ _ hfound
  have hkey : (stored.resolvedBy msg).challengeIdHex = msg.challengeIdHex := hstored
  have hpool := resolution_pool hsettles hslashes
  have hbefore := openBonds_eq hfound
  have hafter := openBonds_setChallenge s (stored.resolvedBy msg)
  have hbond : (stored.resolvedBy msg).bondAmount = stored.bondAmount := rfl
  rw [hkey] at hafter
  rw [hbond] at hpool
  -- the resolved challenge keeps no bond in escrow, and its open bond is all it had
  have hclosed : (stored.resolvedBy msg).openBond = 0 := by
    rcases hstate with hzero | ⟨_, hfinal⟩
    · have := (stored.resolvedBy msg).openBond_le
      rw [hbond, hzero] at this
      exact Nat.le_zero.mp this
    · exact if_neg hfinal
  have hopen : stored.openBond = stored.bondAmount.toNat := by
    rcases hstate with hzero | ⟨hopen, _⟩
    · have := stored.openBond_le
      rw [hzero] at this ⊢
      exact Nat.le_zero.mp this
    · exact if_pos hopen
  omega

private theorem solvent_of_effect (hwf : WellFormed s) (h : openBonds s ≤ s.bank.pool)
    (hcond : SparesEscrow s input) (heffect : Effect env s input s') :
    openBonds s' ≤ s'.bank.pool := by
  obtain ⟨hclaim, hresolution⟩ := hcond
  cases heffect with
  | aggregate ctx msg record =>
      rcases refreshAggregatesCommitment_cases env (s.setAggregateRecord record) record.epochId with
        heq | ⟨commit, _, _, heq⟩
      · rw [heq]
        exact h
      · rw [heq]
        exact h
  | opened ctx msg challenge bank _ _ escrowed =>
      have hpool : bank.pool = s.bank.pool + challenge.bondAmount.toNat :=
        (Bank.escrowChallengeBond_ok escrowed).1
      have hbond : (challenge.opened ctx).openBond ≤ challenge.bondAmount.toNat :=
        (challenge.opened ctx).openBond_le
      have hothers := otherOpenBonds_le s (challenge.opened ctx).challengeIdHex
      have hafter := openBonds_setChallenge s (challenge.opened ctx)
      change openBonds (s.setChallenge (challenge.opened ctx)) ≤ bank.pool
      omega
  | resolved ctx msg stored settled slashed rewarded commit found _ _ settles slashes rewards =>
      obtain ⟨hstate, hsurplus⟩ := hresolution msg rfl stored found
      have hsolvent := solvent_resolved hwf found hstate hsurplus settles slashes
      obtain ⟨bank, records, hframe⟩ := resolution_frame settles slashes
      rw [hframe] at hsolvent rewards
      subst rewards
      exact hsolvent
  | claimed ctx msg record recipient paid bank claim found pays burns =>
      have hpool := claim_pool hwf.params pays burns
      have hsurplus := hclaim msg rfl record found
      change openBonds s ≤ bank.pool
      omega
  | burned ctx msg sender collected bank total collects burns =>
      have hcollected := (Bank.sendCoinsFromAccountToModule_ok collects).2
      have hburned := (Bank.burnCoins_ok burns).1
      change openBonds s ≤ bank.pool
      omega
  | emitted ctx mint emission => exact h.trans (Nat.le_add_right _ _)
  | rewards ctx msg commit records =>
      obtain ⟨rewardRecords, hframe⟩ := setRewardRecords_frame s records
      rw [hframe]
      exact h
  | quiet | params | commit | finalized | session | attested | settled => exact h

/-- Along a run whose accepted steps spare the escrow, the module account covers the open bonds,
so the refund of any of them has the funds it needs. -/
theorem escrow_solvent (env : Env) (bank : Bank) (genesisUnix : ℤ) (inputs : List Input)
    (hmeets : Meets (next env) (IfAccepted (step env) SparesEscrow)
      (defaultGenesis bank genesisUnix) inputs) :
    let s := run (next env) (defaultGenesis bank genesisUnix) inputs
    openBonds s ≤ s.bank.pool ∧
    ∀ (id : String) (challenge : Challenge), s.challenges[id]? = some challenge →
      challenge.state = .open → ∀ recipient, ∃ bank',
        s.bank.sendCoinsFromModuleToAccount recipient challenge.bondAmount.toNat = .ok bank' := by
  intro s
  have hinvariant : WellFormed s ∧ openBonds s ≤ s.bank.pool := by
    refine run_invariant (P := fun s => WellFormed s ∧ openBonds s ≤ s.bank.pool) ?_ hmeets
      ⟨wellFormed_defaultGenesis bank genesisUnix, ?_⟩
    · intro s input hcond ⟨hwf, hsolvent⟩
      refine ⟨wellFormed_next hwf input,
        attempt_preserves_of (P := fun s => openBonds s ≤ s.bank.pool) hcond ?_ hsolvent⟩
      intro s' hs' hspares
      exact solvent_of_effect hwf hsolvent hspares (effect_of_step hs')
    · simp [openBonds, defaultGenesis]
  refine ⟨hinvariant.2, fun id challenge hget hopen recipient => ?_⟩
  have hbond : challenge.openBond = challenge.bondAmount.toNat := if_pos hopen
  have hle : challenge.openBond ≤ openBonds s := le_total (fun _ c => Challenge.openBond c) hget
  have hfunds : challenge.bondAmount.toNat ≤ s.bank.pool := by
    have := hinvariant.2
    omega
  exact Bank.sendCoinsFromModuleToAccount_of_le recipient hfunds

namespace Sample

def challenge (challenger id : String) (bondAmount : UInt64) : Input :=
  .deliver (ctx 4) (.openChallenge (challengeMsg challenger id bondAmount))

def resolve (id : String) (finalState : ChallengeState) : Input :=
  .deliver (ctx 5) (.resolveChallenge (resolveMsg id finalState))

def claim (recipient : String) : Input :=
  .deliver (ctx 12) (.claimReward { claimer := recipient, epochId := 7, recipient })

/-- Bob is owed five coins from the closed epoch seven. -/
def owedReward : List Input :=
  [register alice, propose { emptyCommit 7 with rewards := none },
    .deliver (ctx 3) (.submitRewardRecords
      { proposer := alice, epochId := 7
        records := [some { epochId := 7, recipient := bob, playerReward := 5, netReward := 5 }] }),
    propose { emptyCommit 7 with finalized := true }]

end Sample

/-- The bond of an upheld challenge is returned before the reward is claimed. -/
theorem escrow_solvent_settled_first :
    let s := run (next Sample.env) Sample.genesis (Sample.owedReward ++
      [Sample.challenge Sample.alice "c1" 5, Sample.resolve "c1" .resolved, Sample.claim Sample.bob])
    openBonds s ≤ s.bank.pool :=
  (escrow_solvent Sample.env Sample.bank 0 _ (by decide +kernel)).1

/-- A claim made while a bond is open is paid with that bond. -/
theorem claimReward_spends_escrow :
    ¬ ∀ inputs, openBonds (run (next Sample.env) Sample.genesis inputs) ≤
      (run (next Sample.env) Sample.genesis inputs).bank.pool := by
  intro h
  have hsolvent := h (Sample.owedReward ++
    [Sample.challenge Sample.alice "c1" 5, Sample.claim Sample.bob])
  revert hsolvent
  decide +kernel

end PoleProtocol.Chain
