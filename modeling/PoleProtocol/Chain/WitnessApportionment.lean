import PoleProtocol.Framework.Shares
import PoleProtocol.Chain.WitnessSplit

/-!
# Fair witness shares

The split of a witness pool hands out the whole pool, in whatever order the loops visit the credits.
A share is rounded down or up, credits never lower it, and equal credits are ranked by address.
-/

namespace PoleProtocol.Chain

open Framework OrderedMap

variable {credits : OrderedMap String ℕ} {pool : ℕ}

/-- The shares of all witnesses, credited or not, come to the pool. -/
theorem sum_witnessShare_toList (hcredits : 0 < amount credits) :
    (credits.toList.map fun entry => witnessShare credits pool entry.1 entry.2).sum = pool := by
  have hshares : ((creditClaims credits).map fun claim =>
      witnessShare credits pool claim.1 claim.2).sum =
        (credits.toList.map fun entry => witnessShare credits pool entry.1 entry.2).sum := by
    refine sum_filter_of_zero (fun entry : String × ℕ => entry.2 ≠ 0)
      (fun entry => witnessShare credits pool entry.1 entry.2) fun entry hentry hzero => ?_
    rw [not_not] at hzero
    rw [hzero]
    apply witnessShare_zero
    rw [mem_creditClaims_keys, mem_toList.mp hentry, hzero]
    exact lt_irrefl 0
  rw [← hshares, sum_witnessShare]
  exact hcredits

/-- More credits are never allotted less. -/
theorem witnessShare_mono {w w' : String} {c c' : ℕ} (hget : credits[w]? = some c)
    (hget' : credits[w']? = some c') (hlt : c < c') :
    witnessShare credits pool w c ≤ witnessShare credits pool w' c' := by
  by_cases hnone : c = 0
  · subst hnone
    have hzero : witnessShare credits pool w 0 = 0 := by
      apply witnessShare_zero
      rw [mem_creditClaims_keys, hget]
      exact lt_irrefl 0
    rw [hzero]
    exact Nat.zero_le _
  · exact allotment_mono (ranks_remainderRanking credits pool) (creditClaims_keys_nodup credits)
      (mem_creditClaims.mpr ⟨hget, hnone⟩) (mem_creditClaims.mpr ⟨hget', by omega⟩) hlt

/-- Of two witnesses with equal credits the smaller address is ranked first. -/
theorem witnessShare_le_of_address {w w' : String} {c : ℕ} (hget : credits[w]? = some c)
    (hget' : credits[w']? = some c) (hlt : w < w') :
    witnessShare credits pool w' c ≤ witnessShare credits pool w c := by
  by_cases hnone : c = 0
  · subst hnone
    have hzero : witnessShare credits pool w' 0 = 0 := by
      apply witnessShare_zero
      rw [mem_creditClaims_keys, hget']
      exact lt_irrefl 0
    rw [hzero]
    exact Nat.zero_le _
  · unfold witnessShare allotment
    by_cases hwins : w' ∈ winners pool (creditClaims credits) (remainderRanking credits pool)
    · have hfirst : ¬ remainderBefore
          (w', quotaRemainder pool (creditClaims credits) c)
          (w, quotaRemainder pool (creditClaims credits) c) := by
        rw [remainderBefore_iff]
        rintro (hless | ⟨_, hle⟩)
        · exact absurd hless (lt_irrefl _)
        · exact absurd hlt (not_lt.mpr hle)
      have hwins' := mem_winners_of_before (ranks_remainderRanking credits pool)
        (List.pairwise_insertionSort remainderBefore _) (creditClaims_keys_nodup credits)
        (mem_creditClaims.mpr ⟨hget', hnone⟩) (mem_creditClaims.mpr ⟨hget, hnone⟩) hfirst hwins
      rw [if_pos hwins, if_pos hwins']
    · rw [if_neg hwins]
      exact Nat.le_add_right _ _

/-- The split of a pool inside 64 bits over credits inside 64 bits. -/
theorem witness_apportionment (zeroing summing collecting : Visit credits)
    (hcredits : 0 < amount credits) (htotal : amount credits < 2 ^ 64) (hword : pool < 2 ^ 64) :
    let allocation := allocateWitnessRewardsRanging credits zeroing summing collecting pool
    keySet allocation = keySet credits ∧
      amount allocation = pool ∧
      (∀ (w : String) (c : ℕ), credits[w]? = some c → ∃ share, allocation[w]? = some share ∧
        (share = pool * c / amount credits ∨ share = pool * c / amount credits + 1) ∧
        (c = 0 → share = 0)) ∧
      (∀ (w w' : String) (c c' share share' : ℕ), credits[w]? = some c → credits[w']? = some c' →
        allocation[w]? = some share → allocation[w']? = some share' →
        (c < c' → share ≤ share') ∧
        (c = c' → w < w' → share' ≤ share ∧ share ≤ share' + 1)) := by
  intro allocation
  have hget : ∀ w, allocation[w]? = credits[w]?.map (witnessShare credits pool w) := by
    intro w
    change (allocateWitnessRewardsRanging credits zeroing summing collecting pool)[w]? = _
    rw [allocateWitnessRewardsRanging_eq zeroing summing collecting hword]
    exact allocateWitnessRewards_get htotal hword w
  have hweight : totalWeight (creditClaims credits) = amount credits :=
    totalWeight_creditClaims credits
  refine ⟨keySet_of_get_map hget, ?_, ?_, ?_⟩
  · rw [amount_of_get_map hget]
    exact sum_witnessShare_toList hcredits
  · intro w c hcredit
    refine ⟨witnessShare credits pool w c, ?_, ?_, ?_⟩
    · rw [hget, hcredit]
      rfl
    · rw [← hweight]
      unfold witnessShare allotment
      split
      · exact .inr rfl
      · exact .inl rfl
    · rintro rfl
      apply witnessShare_zero
      rw [mem_creditClaims_keys, hcredit]
      exact lt_irrefl 0
  · intro w w' c c' share share' hcredit hcredit' hshare hshare'
    rw [hget, hcredit] at hshare
    rw [hget, hcredit'] at hshare'
    obtain rfl := Option.some.inj hshare
    obtain rfl := Option.some.inj hshare'
    refine ⟨witnessShare_mono hcredit hcredit', ?_⟩
    rintro rfl hlt
    exact ⟨witnessShare_le_of_address hcredit hcredit' hlt,
      allotment_le_succ pool (creditClaims credits) (remainderRanking credits pool) w w' c⟩

/-- Two witnesses share a pool of three, in the order of their names. -/
theorem witness_apportionment_pair :
    let credits : OrderedMap String ℕ := ((∅ : OrderedMap String ℕ).insert "a" 1).insert "b" 1
    0 < amount credits ∧ amount credits < 2 ^ 64 ∧
      amount (allocateWitnessRewardsRanging credits ⟨credits.toList, List.Perm.refl _⟩
        ⟨credits.toList, List.Perm.refl _⟩ ⟨credits.toList, List.Perm.refl _⟩ 3) = 3 := by
  intro credits
  have hpositive : 0 < amount credits := by decide +kernel
  have hword : amount credits < 2 ^ 64 := by decide +kernel
  exact ⟨hpositive, hword, (witness_apportionment _ _ _ hpositive hword (by decide)).2.1⟩

end PoleProtocol.Chain
