import PoleProtocol.Chain.WitnessSplit

/-!
# The proposer's witness split

The node software splits the verify pool over the witness credits before it submits the reward
records, and the chain recomputes the split. Amounts are 128-bit words and saturate; the credits
are listed in address order.
-/

namespace PoleProtocol.Node

open Framework OrderedMap Chain

/-- Write the rounded share of one witness, count it as distributed and note its remainder. -/
def roundShare (pool totalCredits : ℕ) (acc : OrderedMap String ℕ × ℕ × List (ℕ × String))
    (entry : String × ℕ) : OrderedMap String ℕ × ℕ × List (ℕ × String) :=
  if entry.2 = 0 then (acc.1.insert entry.1 0, acc.2)
  else
    let product := saturatingMul128 pool entry.2
    let share := product / totalCredits
    let remainder := product % totalCredits
    (acc.1.insert entry.1 share, saturatingAdd128 acc.2.1 share, acc.2.2 ++ [(remainder, entry.1)])

/-- Largest remainder first, then the address. -/
def remainderFirst (left right : ℕ × String) : Prop :=
  (compare right.1 left.1).then (compare left.2 right.2) ≠ .gt

instance : DecidableRel remainderFirst := fun _ _ => inferInstanceAs (Decidable (_ ≠ _))

/-- Give one unit to each of the ranked witnesses while there is something left over. -/
def handOut : (leftover : ℕ) → List (ℕ × String) → OrderedMap String ℕ → OrderedMap String ℕ
  | 0, _, allocation => allocation
  | _ + 1, [], allocation => allocation
  | leftover + 1, (_, witness) :: remainders, allocation =>
      handOut leftover remainders
        (match allocation[witness]? with
        | some amount => allocation.insert witness (amount + 1)
        | none => allocation)

def allocateWitnessRewards (credits : OrderedMap String ℕ) (pool : ℕ) : OrderedMap String ℕ :=
  let totalCredits := (credits.toList.map (·.2)).foldl saturatingAdd64 0
  if pool = 0 ∨ totalCredits = 0 then
    credits.toList.foldl (fun allocation entry => allocation.insert entry.1 0) ∅
  else
    let (allocation, distributed, remainders) :=
      credits.toList.foldl (roundShare pool totalCredits) (∅, 0, [])
    handOut (pool - distributed) (remainders.insertionSort remainderFirst) allocation

variable {credits : OrderedMap String ℕ} {pool : ℕ}

/-! ## Inside the word sizes nothing saturates -/

theorem foldl_saturatingAdd64 (amounts : List ℕ) (start : ℕ) :
    amounts.foldl saturatingAdd64 (min start (2 ^ 64 - 1)) =
      min (start + amounts.sum) (2 ^ 64 - 1) := by
  induction amounts generalizing start with
  | nil => rfl
  | cons amount amounts ih =>
      have hsaturate : saturatingAdd64 (min start (2 ^ 64 - 1)) amount =
          min (start + amount) (2 ^ 64 - 1) := by
        unfold saturatingAdd64
        omega
      rw [List.foldl_cons, hsaturate, ih, List.sum_cons, Nat.add_assoc]

/-- The loop over the credits, as three separate passes. -/
theorem foldl_roundShare {totalCredits : ℕ} {entries : List (String × ℕ)}
    (hentries : ∀ entry ∈ entries, pool * entry.2 < 2 ^ 128) (allocation : OrderedMap String ℕ)
    (distributed : ℕ) (remainders : List (ℕ × String)) :
    entries.foldl (roundShare pool totalCredits)
        (allocation, min distributed (2 ^ 128 - 1), remainders) =
      (entries.foldl
          (fun allocation entry => allocation.insert entry.1 (pool * entry.2 / totalCredits))
          allocation,
        min (distributed + ((entries.filter (·.2 ≠ 0)).map fun entry =>
          pool * entry.2 / totalCredits).sum) (2 ^ 128 - 1),
        remainders ++ (entries.filter (·.2 ≠ 0)).map fun entry =>
          (pool * entry.2 % totalCredits, entry.1)) := by
  induction entries generalizing allocation distributed remainders with
  | nil => simp
  | cons entry entries ih =>
      have hrest := ih fun e he => hentries e (List.mem_cons_of_mem entry he)
      by_cases hzero : entry.2 = 0
      · have hround : roundShare pool totalCredits
            (allocation, min distributed (2 ^ 128 - 1), remainders) entry =
              (allocation.insert entry.1 (pool * entry.2 / totalCredits),
                min distributed (2 ^ 128 - 1), remainders) := by
          rw [roundShare, if_pos hzero, hzero, Nat.mul_zero, Nat.zero_div]
        rw [List.foldl_cons, hround, hrest, List.filter_cons_of_neg (by simp [hzero]),
          List.foldl_cons]
      · have hproduct : saturatingMul128 pool entry.2 = pool * entry.2 :=
          saturatingMul128_of_lt (hentries entry List.mem_cons_self)
        have hround : roundShare pool totalCredits
            (allocation, min distributed (2 ^ 128 - 1), remainders) entry =
              (allocation.insert entry.1 (pool * entry.2 / totalCredits),
                min (distributed + pool * entry.2 / totalCredits) (2 ^ 128 - 1),
                remainders ++ [(pool * entry.2 % totalCredits, entry.1)]) := by
          rw [roundShare, if_neg hzero]
          simp only [hproduct, saturatingAdd128_min]
        rw [List.foldl_cons, hround, hrest, List.filter_cons_of_pos (by simp [hzero]),
          List.foldl_cons]
        simp only [List.map_cons, List.sum_cons, List.append_assoc, List.singleton_append,
          Nat.add_assoc]

theorem remainderFirst_iff {left right : ℕ × String} :
    remainderFirst left right ↔ right.1 < left.1 ∨ (left.1 = right.1 ∧ left.2 ≤ right.2) := by
  unfold remainderFirst
  rcases lt_trichotomy right.1 left.1 with hlt | heq | hgt
  · simp [compare_lt_iff_lt.mpr hlt, hlt]
  · rw [compare_eq_iff_eq.mpr heq]
    simp [heq, compare_le_iff_le]
  · simp [compare_gt_iff_gt.mpr hgt, hgt.ne, not_lt.mpr hgt.le]

/-- The ranking is the chain's, its pairs turned around. -/
theorem ranking_eq (credits : OrderedMap String ℕ) (pool : ℕ) :
    ((creditClaims credits).map fun entry =>
        (quotaRemainder pool (creditClaims credits) entry.2, entry.1)).insertionSort
          remainderFirst =
      (remainderRanking credits pool).map Prod.swap := by
  have hturned := List.map_insertionSort remainderBefore remainderFirst Prod.swap
    ((creditClaims credits).map fun entry =>
      (entry.1, quotaRemainder pool (creditClaims credits) entry.2))
    (fun a _ b _ => by rw [remainderBefore_iff, remainderFirst_iff]; rfl)
  rw [remainderRanking, hturned, List.map_map]
  rfl

/-- What handing out the units leaves under a key. -/
theorem handOut_get {remainders : List (ℕ × String)} (hkeys : (remainders.map (·.2)).Nodup)
    (leftover : ℕ) (allocation : OrderedMap String ℕ) (w : String) :
    (handOut leftover remainders allocation)[w]? = allocation[w]?.map fun amount =>
      if w ∈ (remainders.take leftover).map (·.2) then amount + 1 else amount := by
  induction remainders generalizing leftover allocation with
  | nil => cases leftover <;> simp [handOut]
  | cons entry remainders ih =>
      cases leftover with
      | zero => simp [handOut]
      | succ leftover =>
          obtain ⟨remainder, witness⟩ := entry
          rw [List.map_cons, List.nodup_cons] at hkeys
          rw [handOut, ih hkeys.2]
          by_cases hw : witness = w
          · subst hw
            have hrest : witness ∉ (remainders.take leftover).map (·.2) := fun hmem =>
              hkeys.1 (((List.take_sublist _ _).map _).subset hmem)
            cases hget : allocation[witness]? with
            | none => simp [hget]
            | some amount => simpa using hrest
          · have hsame : (match allocation[witness]? with
                | some amount => allocation.insert witness (amount + 1)
                | none => allocation)[w]? = allocation[w]? := by
              split
              · exact get_insert_ne _ _ hw
              · rfl
            rw [hsame]
            simp [Ne.symm hw]

/-! ## The two splits -/

/-- With credits and pool inside 64 bits, the node's split is the apportionment. -/
theorem allocateWitnessRewards_get (hcredits : (credits.toList.map (·.2)).sum < 2 ^ 64)
    (hpool : pool < 2 ^ 64) (w : String) :
    (allocateWitnessRewards credits pool)[w]? = credits[w]?.map (witnessShare credits pool w) := by
  have htotal : (credits.toList.map (·.2)).foldl saturatingAdd64 0 =
      (credits.toList.map (·.2)).sum := by
    have hfold := foldl_saturatingAdd64 (credits.toList.map (·.2)) 0
    rw [Nat.zero_min, Nat.zero_add] at hfold
    rw [hfold]
    omega
  by_cases hnothing : pool = 0 ∨ (credits.toList.map (·.2)).sum = 0
  · have hempty : allocateWitnessRewards credits pool = noShares credits := by
      unfold allocateWitnessRewards
      simp only [htotal]
      exact if_pos hnothing
    rw [hempty, get_noShares]
    apply Option.map_congr
    intro c hget
    exact (witnessShare_nothing hnothing hget).symm
  · have hweight : 0 < totalWeight (creditClaims credits) := by
      rw [totalWeight_creditClaims]
      omega
    have hentries : ∀ entry ∈ credits.toList, pool * entry.2 < 2 ^ 128 := by
      intro entry hentry
      have hcredit : entry.2 < 2 ^ 64 :=
        (List.single_le_sum (fun _ _ => Nat.zero_le _) _ (List.mem_map_of_mem hentry)).trans_lt
          hcredits
      calc pool * entry.2 ≤ pool * 2 ^ 64 := Nat.mul_le_mul_left pool hcredit.le
        _ < 2 ^ 64 * 2 ^ 64 := Nat.mul_lt_mul_of_pos_right hpool (by norm_num)
        _ = 2 ^ 128 := by norm_num
    have hloop := @foldl_roundShare pool (totalWeight (creditClaims credits)) _ hentries ∅ 0 []
    rw [Nat.zero_min, Nat.zero_add, List.nil_append] at hloop
    have hdistributed : min ((creditClaims credits).map fun entry =>
        quota pool (creditClaims credits) entry.2).sum (2 ^ 128 - 1) =
          ((creditClaims credits).map fun entry => quota pool (creditClaims credits) entry.2).sum :=
      min_eq_left (((sum_quota_le pool hweight).trans_lt hpool).le.trans (by norm_num))
    have heq : allocateWitnessRewards credits pool =
        handOut (dust pool (creditClaims credits)) ((remainderRanking credits pool).map Prod.swap)
          (credits.toList.foldl (fun allocation entry =>
            allocation.insert entry.1 (quota pool (creditClaims credits) entry.2)) ∅) := by
      unfold allocateWitnessRewards
      simp only [htotal]
      rw [if_neg hnothing, ← totalWeight_creditClaims, hloop]
      change handOut (pool - min ((creditClaims credits).map fun entry =>
        quota pool (creditClaims credits) entry.2).sum (2 ^ 128 - 1))
          (((creditClaims credits).map fun entry =>
            (quotaRemainder pool (creditClaims credits) entry.2, entry.1)).insertionSort
              remainderFirst) _ = _
      rw [hdistributed, ranking_eq]
      rfl
    have hkeys : (((remainderRanking credits pool).map Prod.swap).map (·.2)).Nodup := by
      rw [List.map_map]
      exact (ranks_remainderRanking credits pool).keys_nodup (creditClaims_keys_nodup credits)
    have hwinners : (((remainderRanking credits pool).map Prod.swap).take
        (dust pool (creditClaims credits))).map (·.2) =
          winners pool (creditClaims credits) (remainderRanking credits pool) := by
      rw [← List.map_take, List.map_map]
      rfl
    rw [heq, handOut_get hkeys, hwinners]
    rw [get_foldl_visit ⟨credits.toList, List.Perm.refl _⟩, Option.map_map]
    apply Option.map_congr
    intro c _
    rw [Function.comp_apply, witnessShare, allotment]
    split <;> rfl

/-- The node and the chain split alike, whatever the order in which the chain visits the credits:
with credits summing to a 64-bit word and a 64-bit pool, every witness is given the same amount. -/
theorem witness_splits_agree (credits : OrderedMap String ℕ) (pool : ℕ)
    (hcredits : (credits.toList.map (·.2)).sum < 2 ^ 64) (hpool : pool < 2 ^ 64)
    (zeroing summing collecting : Visit credits) (w : String) :
    (allocateWitnessRewards credits pool)[w]? =
      (allocateWitnessRewardsRanging credits zeroing summing collecting pool)[w]? := by
  rw [allocateWitnessRewardsRanging_eq zeroing summing collecting hpool,
    allocateWitnessRewards_get hcredits hpool,
    Chain.allocateWitnessRewards_get hcredits hpool]

/-- Two credits against one and one, over a pool that does not divide: the node and a chain that
visits the credits backwards give the first witness the same 501. -/
theorem witness_splits_agree_dust :
    let credits : OrderedMap String ℕ := ((∅ : OrderedMap String ℕ).insert "a" 2).insert "b" 1
      |>.insert "c" 1
    let backwards : Visit credits := ⟨credits.toList.reverse, List.reverse_perm _⟩
    (allocateWitnessRewards credits 1001)["a"]? =
        (allocateWitnessRewardsRanging credits backwards backwards backwards 1001)["a"]? ∧
      (allocateWitnessRewards credits 1001)["a"]? = some 501 := by
  intro credits backwards
  have hsum : (credits.toList.map (·.2)).sum < 2 ^ 64 := by decide
  exact ⟨witness_splits_agree credits 1001 hsum (by decide) backwards backwards backwards "a",
    by decide⟩

end PoleProtocol.Node
