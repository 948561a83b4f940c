import PoleProtocol.Chain.WellFormed

/-!
# Accounting of reward records

A reward record is balanced when its net reward is the sum of its components less what was
slashed. Resolutions move the two sides together unless a 64-bit addition wraps; submissions are
stored as they come. A claim on a balanced record pays at most its components.
-/

namespace PoleProtocol.Chain

open Framework OrderedMap KeeperState

variable {env : Env} {s s' : KeeperState} {input : Input}

namespace RewardRecord

/-- What the record was awarded, before slashing. -/
def components (record : RewardRecord) : ℕ :=
  record.playerReward + record.collectReward + record.storeReward + record.verifyReward +
    record.proposeReward

def Balanced (record : RewardRecord) : Prop :=
  (record.netReward : ℤ) = record.components - record.slashDebit

instance (record : RewardRecord) : Decidable record.Balanced :=
  inferInstanceAs (Decidable (_ = _))

theorem Balanced.add_slashDebit {record : RewardRecord} (h : record.Balanced) :
    record.netReward + record.slashDebit = record.components := by
  unfold Balanced at h
  omega

theorem Balanced.debit {record : RewardRecord} (h : record.Balanced) {amount : ℕ}
    (hnet : amount ≤ record.netReward) (hword : record.slashDebit + amount < 2 ^ 64) :
    (record.debit amount).Balanced := by
  have hsum := h.add_slashDebit
  have hcomponents : (record.debit amount).components = record.components := rfl
  unfold Balanced
  rw [hcomponents]
  simp only [RewardRecord.debit, wrap64_of_lt hword, sub64_of_le hnet]
  omega

theorem debit_netReward_le {record : RewardRecord} {amount : ℕ} (hnet : amount ≤ record.netReward) :
    (record.debit amount).netReward ≤ record.netReward := by
  simp only [RewardRecord.debit, sub64_of_le hnet]
  exact Nat.sub_le _ _

theorem Balanced.credit {record : RewardRecord} (h : record.Balanced) {amount : ℕ}
    (hverify : record.verifyReward + amount < 2 ^ 64)
    (hnet : record.netReward + amount < 2 ^ 64) : (record.credit amount).Balanced := by
  have hsum := h.add_slashDebit
  unfold Balanced
  simp only [RewardRecord.credit, components, wrap64_of_lt hverify, wrap64_of_lt hnet]
  unfold components at hsum
  omega

end RewardRecord

/-- Every stored reward record is balanced. -/
def BooksBalance (s : KeeperState) : Prop :=
  ∀ (key : ℕ × String) (record : RewardRecord), s.rewardRecords[key]? = some record →
    record.Balanced

theorem BooksBalance.setRewardRecord (h : BooksBalance s) {record : RewardRecord}
    (hrecord : record.Balanced) : BooksBalance (s.setRewardRecord record) := by
  intro key stored hget
  change (s.rewardRecords.insert (record.epochId, record.recipient) record)[key]? = some stored
    at hget
  rw [get_insert] at hget
  split at hget
  · cases hget
    exact hrecord
  · exact h key stored hget

theorem BooksBalance.setRewardRecords (h : BooksBalance s) {records : List RewardRecord}
    (hrecords : ∀ record ∈ records, record.Balanced) :
    BooksBalance (records.foldl KeeperState.setRewardRecord s) := by
  induction records generalizing s with
  | nil => exact h
  | cons record records ih =>
      have hfirst := h.setRewardRecord (hrecords record List.mem_cons_self)
      exact ih hfirst fun r hr => hrecords r (List.mem_cons_of_mem record hr)

/-- A record that is not stored yet starts out empty, hence balanced. -/
theorem BooksBalance.rewardRecordOrNew (h : BooksBalance s) (epochId : ℕ) (recipient : String) :
    (s.rewardRecordOrNew epochId recipient).Balanced := by
  unfold KeeperState.rewardRecordOrNew
  cases hget : s.rewardRecords[(epochId, recipient)]? with
  | none => rfl
  | some record => exact h _ _ hget

/-! ## Resolutions -/

/-- What a resolution slashes from the target's record: the resolver's amount, as far as the net
reward covers it, and the session share of the rest. -/
def slashedAmounts (params : Params) (challenge : Challenge) (record : RewardRecord) : ℕ :=
  let slashApplied := min challenge.slashAmount record.netReward
  slashApplied + sessionSlash params challenge (record.debit slashApplied)

/-- No 64-bit addition of the resolution wraps. -/
def ResolutionFits (s : KeeperState) (challenge : Challenge) : Prop :=
  let target := s.rewardRecordOrNew challenge.epochId challenge.targetAddress
  let challenger := s.rewardRecordOrNew challenge.epochId challenge.challenger
  (challenge.targetAddress ≠ "" → challenge.slashAmount ≠ 0 →
    target.slashDebit + slashedAmounts s.getParams challenge target < 2 ^ 64) ∧
  (challenge.challengerReward ≠ 0 →
    challenger.verifyReward + challenge.challengerReward < 2 ^ 64 ∧
    challenger.netReward + challenge.challengerReward < 2 ^ 64)

instance (s : KeeperState) (challenge : Challenge) : Decidable (ResolutionFits s challenge) :=
  inferInstanceAs (Decidable (_ ∧ _))

theorem sessionSlash_le {params : Params} (hparams : params.validate = .ok ())
    (challenge : Challenge) (record : RewardRecord) :
    sessionSlash params challenge record ≤ record.netReward := by
  obtain ⟨_, _, hshare, _⟩ := Params.validate_shares hparams
  unfold sessionSlash
  split
  · exact (bpsShare64_le hshare).trans (min_le_right _ _)
  · exact Nat.zero_le _

/-- Slashing twice keeps a record balanced. -/
theorem balanced_slashed {params : Params} (hparams : params.validate = .ok ())
    {challenge : Challenge} {record : RewardRecord} (h : record.Balanced)
    (hfits : record.slashDebit + slashedAmounts params challenge record < 2 ^ 64) :
    let slashApplied := min challenge.slashAmount record.netReward
    let slashed := sessionSlash params challenge (record.debit slashApplied)
    ((record.debit slashApplied).debit slashed).Balanced := by
  intro slashApplied slashed
  have hamounts : slashedAmounts params challenge record = slashApplied + slashed := rfl
  have happlied : slashApplied ≤ record.netReward := min_le_right _ _
  have hfirst : record.slashDebit + slashApplied < 2 ^ 64 := by omega
  have hdebit : (record.debit slashApplied).slashDebit = record.slashDebit + slashApplied :=
    wrap64_of_lt hfirst
  exact (h.debit happlied hfirst).debit (sessionSlash_le hparams _ _) (by omega)

theorem rewardRecordOrNew_setRewardRecord (s : KeeperState) (record : RewardRecord) (epochId : ℕ)
    (recipient : String) :
    (s.setRewardRecord record).rewardRecordOrNew epochId recipient =
      if (record.epochId, record.recipient) = (epochId, recipient) then record
      else s.rewardRecordOrNew epochId recipient := by
  change ((s.rewardRecords.insert (record.epochId, record.recipient) record)[(epochId,
    recipient)]?).getD _ = _
  rw [get_insert]
  split <;> rfl

/-- Slashing the target leaves every verify reward and raises no net reward. -/
private theorem slashTarget_challenger (hwf : WellFormed s) {challenge : Challenge}
    (hslash : s.slashTarget challenge = .ok s') (recipient : String) :
    (s'.rewardRecordOrNew challenge.epochId recipient).verifyReward =
        (s.rewardRecordOrNew challenge.epochId recipient).verifyReward ∧
      (s'.rewardRecordOrNew challenge.epochId recipient).netReward ≤
        (s.rewardRecordOrNew challenge.epochId recipient).netReward := by
  rcases slashTarget_ok hslash with rfl | ⟨_, _, bank, _, _, _, _, _, rfl⟩
  · exact ⟨rfl, le_rfl⟩
  · rw [rewardRecordOrNew_setRewardRecord]
    split
    · next hkey =>
        have htarget : challenge.targetAddress = recipient :=
          (rewardRecordOrNew_key hwf challenge.epochId challenge.targetAddress).2.symm.trans
            (Prod.mk.inj hkey).2
        subst htarget
        have hsecond := RewardRecord.debit_netReward_le (sessionSlash_le hwf.params challenge
          ((s.rewardRecordOrNew challenge.epochId challenge.targetAddress).debit
            (min challenge.slashAmount
              (s.rewardRecordOrNew challenge.epochId challenge.targetAddress).netReward)))
        exact ⟨rfl, hsecond.trans (RewardRecord.debit_netReward_le (min_le_right _ _))⟩
    · exact ⟨rfl, le_rfl⟩

private theorem booksBalance_resolution (hwf : WellFormed s) (h : BooksBalance s)
    {challenge : Challenge} {settled slashed : KeeperState} (hfits : ResolutionFits s challenge)
    (hsettles : s.settleChallengeBond env challenge = .ok settled)
    (hslashes : settled.slashTarget challenge = .ok slashed) :
    BooksBalance (slashed.rewardChallenger challenge) := by
  obtain ⟨htarget, hchallenger⟩ := hfits
  obtain ⟨bank, rfl⟩ := settleChallengeBond_frame hsettles
  have hsettled : WellFormed { s with bank } := wellFormed_bank hwf bank
  have hslashed : BooksBalance slashed := by
    rcases slashTarget_ok hslashes with rfl | ⟨_, _, bank', _, hnamed, hamount, _, _, rfl⟩
    · exact h
    · have hrecord := h.rewardRecordOrNew challenge.epochId challenge.targetAddress
      have hbalanced := balanced_slashed hsettled.params hrecord (htarget hnamed hamount)
      exact BooksBalance.setRewardRecord (s := { s with bank := bank' }) h hbalanced
  unfold KeeperState.rewardChallenger
  split
  · exact hslashed
  · next hreward =>
      obtain ⟨hverify, hnet⟩ := hchallenger fun hzero => hreward (.inr hzero)
      obtain ⟨hsame, hless⟩ := slashTarget_challenger hsettled hslashes challenge.challenger
      have hrecord := hslashed.rewardRecordOrNew challenge.epochId challenge.challenger
      refine hslashed.setRewardRecord (hrecord.credit ?_ ?_)
      · rw [hsame]
        exact hverify
      · exact (Nat.add_le_add_right hless _).trans_lt hnet

/-! ## Runs -/

/-- Submitted records are balanced, and no addition of a resolution wraps. -/
def KeepsBooks (s : KeeperState) (input : Input) : Prop :=
  (∀ record ∈ input.rewardSubmission, record.Balanced) ∧
  ∀ msg ∈ input.resolution, ∀ stored ∈ s.challenges[msg.challengeIdHex]?,
    ResolutionFits s (stored.resolvedBy msg)

instance (s : KeeperState) (input : Input) : Decidable (KeepsBooks s input) :=
  inferInstanceAs (Decidable (_ ∧ _))

private theorem booksBalance_of_effect (hwf : WellFormed s) (h : BooksBalance s)
    (hcond : KeepsBooks s input) (heffect : Effect env s input s') : BooksBalance s' := by
  obtain ⟨hsubmission, hresolution⟩ := hcond
  cases heffect with
  | aggregate ctx msg record =>
      rcases refreshAggregatesCommitment_cases env (s.setAggregateRecord record) record.epochId with
        heq | ⟨commit, _, _, heq⟩
      · rw [heq]
        exact h
      · rw [heq]
        exact h
  | resolved ctx msg stored settled slashed rewarded commit found _ _ settles slashes rewards =>
      have hrewarded : BooksBalance rewarded :=
        rewards ▸ booksBalance_resolution hwf h (hresolution msg rfl stored found) settles slashes
      exact hrewarded
  | rewards ctx msg commit records _ _ supplied =>
      refine h.setRewardRecords fun record hrecord => hsubmission record ?_
      obtain ⟨checked, hmem, hchecked⟩ := mem_of_mapM_ok supplied record hrecord
      simp only [checkRewardRecord, bind_eq_ok, ensure_eq_ok, exists_const, require_eq_ok,
        pure_eq_ok] at hchecked
      obtain ⟨_, rfl, _, _, rfl⟩ := hchecked
      exact List.reduceOption_mem_iff.mpr hmem
  | quiet | params | commit | finalized | opened | claimed | burned | session | attested | settled
    | emitted => exact h

/-- A claim pays nobody more than the net reward of the claimed record. -/
theorem claimReward_pays (hwf : WellFormed s) {ctx : Ctx} {msg : MsgClaimReward}
    (h : step env s (.deliver ctx (.claimReward msg)) = .ok s') :
    ∃ record : RewardRecord, s.rewardRecords[(msg.epochId, msg.recipient)]? = some record ∧
      ∀ account, s'.bank.accounts account ≤ s.bank.accounts account + record.netReward := by
  obtain ⟨record, recipient, paid, bank, claim, hfound, hpays, hburns, rfl⟩ := claimReward_ok h
  have hburn := claimBurnAmount_le hwf.params record.netReward
  have hpayout := (Bank.payClaim_ok hpays).2.2
  have haccounts : bank.accounts = paid.accounts := (Bank.burnClaimShare_ok hburns).2
  refine ⟨record, hfound, fun account => ?_⟩
  change bank.accounts account ≤ _
  rw [haccounts, hpayout, sub64_of_le hburn, Function.update_apply]
  split
  · next heq =>
      rw [heq]
      exact Nat.add_le_add_left (Nat.sub_le _ _) _
  · exact Nat.le_add_right _ _

/-- Along a run that submits balanced records and wraps no addition, every stored record is
balanced, and a claim on it pays at most its components. -/
theorem reward_accounting (env : Env) (bank : Bank) (genesisUnix : ℤ) (inputs : List Input)
    (hmeets : Meets (next env) (IfAccepted (step env) KeepsBooks)
      (defaultGenesis bank genesisUnix) inputs) :
    let s := run (next env) (defaultGenesis bank genesisUnix) inputs
    BooksBalance s ∧
    ∀ ctx msg s', step env s (.deliver ctx (.claimReward msg)) = .ok s' →
      ∃ record : RewardRecord, s.rewardRecords[(msg.epochId, msg.recipient)]? = some record ∧
        ∀ account, s'.bank.accounts account ≤ s.bank.accounts account + record.components := by
  intro s
  have hstart : BooksBalance (defaultGenesis bank genesisUnix) := by
    intro key record hget
    simp [defaultGenesis] at hget
  have hinvariant : WellFormed s ∧ BooksBalance s := by
    refine run_invariant (P := fun s => WellFormed s ∧ BooksBalance s) ?_ hmeets
      ⟨wellFormed_defaultGenesis bank genesisUnix, hstart⟩
    intro s input hcond ⟨hwf, hbooks⟩
    refine ⟨wellFormed_next hwf input, attempt_preserves_of hcond ?_ hbooks⟩
    intro s' hs' hkeeps
    exact booksBalance_of_effect hwf hbooks hkeeps (effect_of_step hs')
  refine ⟨hinvariant.2, fun ctx msg s' hclaim => ?_⟩
  obtain ⟨record, hfound, hpays⟩ := claimReward_pays hinvariant.1 hclaim
  have hsum := (hinvariant.2 _ _ hfound).add_slashDebit
  exact ⟨record, hfound, fun account => (hpays account).trans (by omega)⟩

namespace Sample

/-- An epoch whose proposer commits to no reward root. -/
def openCommit : EpochCommit := { emptyCommit 7 with rewards := none }

def submitRewards (records : List RewardRecord) : Input :=
  .deliver (ctx 3) (.submitRewardRecords
    { proposer := alice, epochId := 7, records := records.map some })

end Sample

theorem reward_accounting_player :
    BooksBalance (run (next Sample.env) Sample.genesis
      [Sample.register Sample.alice, Sample.propose Sample.openCommit,
        Sample.submitRewards
          [{ epochId := 7, recipient := Sample.bob, playerReward := 5, netReward := 5 }]]) :=
  (reward_accounting Sample.env Sample.bank 0 _ (by decide +kernel)).1

/-- A submitted record with a net reward and no components is stored as it is. -/
theorem submitRewardRecords_unbalanced :
    ¬ ∀ inputs, BooksBalance (run (next Sample.env) Sample.genesis inputs) := by
  intro h
  let record : RewardRecord := { epochId := 7, recipient := Sample.bob, netReward := 5 }
  have hbalanced : record.Balanced :=
    h [Sample.register Sample.alice, Sample.propose Sample.openCommit,
      Sample.submitRewards [record]] (7, Sample.bob) record (by decide +kernel)
  revert hbalanced
  decide

end PoleProtocol.Chain
