import PoleProtocol.Chain.RewardAccounting

/-!
# Slashing in words

A resolution takes from the record of its target twice, and the second amount comes out of a product
that may wrap. Neither amount exceeds what is left, so no net reward falls below zero; the net
reward and the components of a record move together modulo the word.
-/

namespace PoleProtocol.Chain

open Framework OrderedMap KeeperState

namespace RewardRecord

/-- How far the net reward is from the components less what was slashed. -/
def imbalance (record : RewardRecord) : ℤ :=
  record.netReward - (record.components - record.slashDebit)

theorem imbalance_debit {record : RewardRecord} {amount : ℕ} (hnet : amount ≤ record.netReward) :
    (record.debit amount).imbalance ≡ record.imbalance [ZMOD 2 ^ 64] := by
  have hcomponents : (record.debit amount).components = record.components := rfl
  unfold imbalance
  rw [hcomponents]
  simp only [debit, sub64_of_le hnet, wrap64]
  unfold Int.ModEq
  omega

theorem imbalance_credit (record : RewardRecord) (amount : ℕ) :
    (record.credit amount).imbalance ≡ record.imbalance [ZMOD 2 ^ 64] := by
  simp only [imbalance, credit, components, wrap64]
  unfold Int.ModEq
  omega

end RewardRecord

/-- The second amount is taken of what the first one leaves, and a wrapped product only makes it
smaller. -/
theorem slashedAmounts_le {params : Params} (hvalid : params.validate = .ok ())
    (challenge : Challenge) (record : RewardRecord) :
    slashedAmounts params challenge record ≤ record.netReward := by
  have hfirst : min challenge.slashAmount record.netReward ≤ record.netReward :=
    Nat.min_le_right _ _
  have hnet : (record.debit (min challenge.slashAmount record.netReward)).netReward =
      record.netReward - min challenge.slashAmount record.netReward := sub64_of_le hfirst
  have hsecond := sessionSlash_le hvalid challenge
    (record.debit (min challenge.slashAmount record.netReward))
  unfold slashedAmounts
  dsimp only
  omega

section Slashed

variable {params : Params} (hvalid : params.validate = .ok ()) (challenge : Challenge)
  (record : RewardRecord)

include hvalid

/-- The record of the target after both amounts were taken. -/
theorem slashed_netReward :
    let slashed := record.debit (min challenge.slashAmount record.netReward)
    (slashed.debit (sessionSlash params challenge slashed)).netReward =
      record.netReward - slashedAmounts params challenge record := by
  intro slashed
  have hnet : slashed.netReward =
      record.netReward - min challenge.slashAmount record.netReward :=
    sub64_of_le (Nat.min_le_right _ _)
  have hsecond : sessionSlash params challenge slashed ≤ slashed.netReward :=
    sessionSlash_le hvalid challenge slashed
  change sub64 slashed.netReward (sessionSlash params challenge slashed) = _
  rw [sub64_of_le hsecond, hnet, Nat.sub_sub]
  rfl

theorem slashed_imbalance :
    let slashed := record.debit (min challenge.slashAmount record.netReward)
    (slashed.debit (sessionSlash params challenge slashed)).imbalance ≡
      record.imbalance [ZMOD 2 ^ 64] := by
  intro slashed
  have hfirst : slashed.imbalance ≡ record.imbalance [ZMOD 2 ^ 64] :=
    RewardRecord.imbalance_debit (Nat.min_le_right _ _)
  have hsecond := RewardRecord.imbalance_debit (sessionSlash_le hvalid challenge slashed)
  exact hsecond.trans hfirst

end Slashed

/-- The recipient is the challenger, who is named and gets a reward. -/
def Challenge.Credits (challenge : Challenge) (recipient : String) : Prop :=
  recipient = challenge.challenger ∧ recipient ≠ "" ∧ challenge.challengerReward ≠ 0

instance (challenge : Challenge) (recipient : String) : Decidable (challenge.Credits recipient) :=
  inferInstanceAs (Decidable (_ ∧ _ ∧ _))

namespace KeeperState

variable {s s' : KeeperState} {challenge : Challenge}

theorem rewardRecordOrNew_write (s : KeeperState) {record : RewardRecord} {epochId : ℕ}
    {recipient : String} (hkey : (record.epochId, record.recipient) = (epochId, recipient)) :
    (s.setRewardRecord record).rewardRecordOrNew epochId recipient = record :=
  (rewardRecordOrNew_setRewardRecord s record epochId recipient).trans (if_pos hkey)

/-- A stored record lies under its own key, and an empty one is made for the key it is read by. -/
theorem rewardRecordOrNew_keyed
    (hkeyed : KeyedBy (fun record : RewardRecord => (record.epochId, record.recipient))
      s.rewardRecords) (epochId : ℕ) (recipient : String) :
    ((s.rewardRecordOrNew epochId recipient).epochId,
      (s.rewardRecordOrNew epochId recipient).recipient) = (epochId, recipient) := by
  unfold rewardRecordOrNew
  cases hget : s.rewardRecords[(epochId, recipient)]? with
  | none => rfl
  | some record => exact hkeyed _ record hget

/-! ## What a resolution does to the records -/

/-- No other record changes, no net reward falls below zero, and the difference between the two
sides of a record stays the same word. -/
structure SlashesSafely (challenge : Challenge) (s s' : KeeperState) : Prop where
  others : ∀ key : ℕ × String, key ≠ (challenge.epochId, challenge.targetAddress) →
    key ≠ (challenge.epochId, challenge.challenger) →
    s'.rewardRecords[key]? = s.rewardRecords[key]?
  netReward : ∀ recipient, ∃ taken ≤ (s.rewardRecordOrNew challenge.epochId recipient).netReward,
    (recipient ≠ challenge.targetAddress → taken = 0) ∧
    (s'.rewardRecordOrNew challenge.epochId recipient).netReward =
      if challenge.Credits recipient then
        wrap64 ((s.rewardRecordOrNew challenge.epochId recipient).netReward - taken +
          challenge.challengerReward)
      else (s.rewardRecordOrNew challenge.epochId recipient).netReward - taken
  imbalance : ∀ recipient,
    (s'.rewardRecordOrNew challenge.epochId recipient).imbalance ≡
      (s.rewardRecordOrNew challenge.epochId recipient).imbalance [ZMOD 2 ^ 64]

/-- What the first half leaves: records of the target only, with nothing taken that was not
there. -/
private structure TargetSlashed (challenge : Challenge) (s s' : KeeperState) : Prop where
  keyed : KeyedBy (fun record : RewardRecord => (record.epochId, record.recipient))
    s'.rewardRecords
  others : ∀ key : ℕ × String, key ≠ (challenge.epochId, challenge.targetAddress) →
    s'.rewardRecords[key]? = s.rewardRecords[key]?
  netReward : ∃ taken ≤
      (s.rewardRecordOrNew challenge.epochId challenge.targetAddress).netReward,
    (s'.rewardRecordOrNew challenge.epochId challenge.targetAddress).netReward =
      (s.rewardRecordOrNew challenge.epochId challenge.targetAddress).netReward - taken
  imbalance : (s'.rewardRecordOrNew challenge.epochId challenge.targetAddress).imbalance ≡
    (s.rewardRecordOrNew challenge.epochId challenge.targetAddress).imbalance [ZMOD 2 ^ 64]

private theorem targetSlashed_of_ok
    (hkeyed : KeyedBy (fun record : RewardRecord => (record.epochId, record.recipient))
      s.rewardRecords) (hvalid : s.getParams.validate = .ok ())
    (h : s.slashTarget challenge = .ok s') : TargetSlashed challenge s s' := by
  rcases slashTarget_ok h with rfl | ⟨_, _, bank, _, _, _, _, _, rfl⟩
  · exact ⟨hkeyed, fun _ _ => rfl, ⟨0, Nat.zero_le _, rfl⟩, Int.ModEq.refl _⟩
  · have hkey := rewardRecordOrNew_keyed hkeyed challenge.epochId challenge.targetAddress
    -- a debit leaves the key of a record alone
    have hdebits : ∀ first second : ℕ,
        ((((s.rewardRecordOrNew challenge.epochId challenge.targetAddress).debit first).debit
          second).epochId,
        (((s.rewardRecordOrNew challenge.epochId challenge.targetAddress).debit first).debit
          second).recipient) = (challenge.epochId, challenge.targetAddress) := fun _ _ => hkey
    refine ⟨keyedBy_insert _ hkeyed _, ?_, ?_, ?_⟩
    · intro key hne
      exact get_insert_ne _ _ (hkey.trans_ne (Ne.symm hne))
    · refine ⟨_, slashedAmounts_le hvalid challenge _, ?_⟩
      rw [rewardRecordOrNew_write _ (hdebits _ _)]
      exact slashed_netReward hvalid challenge _
    · rw [rewardRecordOrNew_write _ (hdebits _ _)]
      exact slashed_imbalance hvalid challenge _

private theorem rewardChallenger_record
    (hkeyed : KeyedBy (fun record : RewardRecord => (record.epochId, record.recipient))
      s.rewardRecords) (challenge : Challenge) (recipient : String) :
    (s.rewardChallenger challenge).rewardRecordOrNew challenge.epochId recipient =
      if challenge.Credits recipient then
        (s.rewardRecordOrNew challenge.epochId recipient).credit challenge.challengerReward
      else s.rewardRecordOrNew challenge.epochId recipient := by
  unfold rewardChallenger
  by_cases hsilent : challenge.challenger = "" ∨ challenge.challengerReward = 0
  · have hcredits : ¬ challenge.Credits recipient := by
      rintro ⟨rfl, hnamed, hreward⟩
      exact hsilent.elim hnamed hreward
    rw [if_pos hsilent, if_neg hcredits]
  · obtain ⟨hnamed, hreward⟩ := not_or.mp hsilent
    have hkey := rewardRecordOrNew_keyed hkeyed challenge.epochId challenge.challenger
    rw [if_neg hsilent, rewardRecordOrNew_setRewardRecord]
    change (if (_, _) = (challenge.epochId, recipient) then _ else _) = _
    by_cases hrecipient : recipient = challenge.challenger
    · subst hrecipient
      have hcredits : challenge.Credits challenge.challenger := ⟨rfl, hnamed, hreward⟩
      rw [if_pos hcredits]
      exact if_pos hkey
    · rw [if_neg fun hcredits : challenge.Credits recipient => hrecipient hcredits.1]
      refine if_neg fun hsame => hrecipient ?_
      exact (congrArg Prod.snd (hkey.symm.trans hsame)).symm

private theorem rewardChallenger_others
    (hkeyed : KeyedBy (fun record : RewardRecord => (record.epochId, record.recipient))
      s.rewardRecords) (challenge : Challenge) {key : ℕ × String}
    (hne : key ≠ (challenge.epochId, challenge.challenger)) :
    (s.rewardChallenger challenge).rewardRecords[key]? = s.rewardRecords[key]? := by
  unfold rewardChallenger
  split
  · rfl
  · have hkey := rewardRecordOrNew_keyed hkeyed challenge.epochId challenge.challenger
    exact get_insert_ne _ _ (hkey.trans_ne (Ne.symm hne))

end KeeperState

/-- Under valid parameters every resolution slashes safely, whatever words the records and the
challenge hold. Records lie under their own keys, as every write leaves them. -/
theorem resolutions_slash_safely {s s' : KeeperState} {challenge : Challenge}
    (hkeyed : KeyedBy (fun record : RewardRecord => (record.epochId, record.recipient))
      s.rewardRecords) (hvalid : s.getParams.validate = .ok ())
    (h : s.applyChallengeRewardEffects challenge = .ok s') :
    SlashesSafely challenge s s' := by
  simp only [applyChallengeRewardEffects, bind_eq_ok, pure_eq_ok] at h
  obtain ⟨slashed, hslashes, rfl⟩ := h
  have htarget := targetSlashed_of_ok hkeyed hvalid hslashes
  -- the second half reads what the first half may have written
  have hother : ∀ recipient, recipient ≠ challenge.targetAddress →
      slashed.rewardRecordOrNew challenge.epochId recipient =
        s.rewardRecordOrNew challenge.epochId recipient := by
    intro recipient hne
    unfold rewardRecordOrNew
    rw [htarget.others]
    exact fun heq => hne (congrArg Prod.snd heq)
  refine ⟨?_, ?_, ?_⟩
  · intro key hneTarget hneChallenger
    rw [rewardChallenger_others htarget.keyed challenge hneChallenger]
    exact htarget.others key hneTarget
  · intro recipient
    have htaken : ∃ taken ≤ (s.rewardRecordOrNew challenge.epochId recipient).netReward,
        (recipient ≠ challenge.targetAddress → taken = 0) ∧
        (slashed.rewardRecordOrNew challenge.epochId recipient).netReward =
          (s.rewardRecordOrNew challenge.epochId recipient).netReward - taken := by
      by_cases hrecipient : recipient = challenge.targetAddress
      · subst hrecipient
        obtain ⟨taken, hle, hnet⟩ := htarget.netReward
        exact ⟨taken, hle, fun hne => absurd rfl hne, hnet⟩
      · refine ⟨0, Nat.zero_le _, fun _ => rfl, ?_⟩
        rw [hother recipient hrecipient]
        rfl
    obtain ⟨taken, hle, honly, hnet⟩ := htaken
    refine ⟨taken, hle, honly, ?_⟩
    rw [rewardChallenger_record htarget.keyed]
    split
    · change wrap64 _ = _
      rw [hnet]
    · exact hnet
  · intro recipient
    have hslashed : (slashed.rewardRecordOrNew challenge.epochId recipient).imbalance ≡
        (s.rewardRecordOrNew challenge.epochId recipient).imbalance [ZMOD 2 ^ 64] := by
      by_cases hrecipient : recipient = challenge.targetAddress
      · subst hrecipient
        exact htarget.imbalance
      · rw [hother recipient hrecipient]
    rw [rewardChallenger_record htarget.keyed]
    split
    · exact (RewardRecord.imbalance_credit _ _).trans hslashed
    · exact hslashed

namespace Sample

/-- A record whose session slash wraps, and a challenge of its recipient by itself. -/
def wideRecord : RewardRecord where
  epochId := 7
  recipient := alice
  playerReward := 2 ^ 63
  netReward := 2 ^ 63

def selfChallenge : Challenge where
  challengeIdHex := "01"
  kind := .badReward
  epochId := 7
  targetAddress := alice
  challenger := alice
  slashAmount := 1
  challengerReward := 2 ^ 64 - 1

def slashable : KeeperState := genesis.setRewardRecord wideRecord

end Sample

open Sample in
theorem resolutions_slash_safely_self :
    ∃ s', slashable.applyChallengeRewardEffects selfChallenge = .ok s' ∧
      SlashesSafely selfChallenge slashable s' := by
  have hkeyed : KeyedBy (fun record : RewardRecord => (record.epochId, record.recipient))
      slashable.rewardRecords := keyedBy_insert _ (keyedBy_empty _) wideRecord
  have hvalid : slashable.getParams.validate = .ok () := by decide
  cases h : slashable.applyChallengeRewardEffects selfChallenge with
  | ok s' => exact ⟨s', rfl, resolutions_slash_safely hkeyed hvalid h⟩
  | error e =>
      have hok : (slashable.applyChallengeRewardEffects selfChallenge).isOk = true := by
        decide +kernel
      rw [h] at hok
      cases hok

end PoleProtocol.Chain
