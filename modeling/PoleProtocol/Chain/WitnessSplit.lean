import PoleProtocol.Framework.Apportionment
import PoleProtocol.Chain.MsgServer

/-!
# The witness reward split

The chain's split of a witness pool is a largest-remainder apportionment of the pool over the
credits. It does not depend on the order in which the credits are visited.
-/

namespace PoleProtocol.Chain

open Framework OrderedMap

/-! ## Ranking remainders -/

theorem remainderBefore_iff {a b : String × ℕ} :
    remainderBefore a b ↔ b.2 < a.2 ∨ (a.2 = b.2 ∧ a.1 ≤ b.1) := by
  unfold remainderBefore
  rw [compare_le_iff_le]

instance : Std.Total remainderBefore where
  total a b := by
    simp only [remainderBefore_iff]
    rcases lt_trichotomy a.2 b.2 with hlt | heq | hgt
    · exact .inr (.inl hlt)
    · rcases le_total a.1 b.1 with hle | hle
      · exact .inl (.inr ⟨heq, hle⟩)
      · exact .inr (.inr ⟨heq.symm, hle⟩)
    · exact .inl (.inl hgt)

instance : IsTrans (String × ℕ) remainderBefore where
  trans a b c hab hbc := by
    simp only [remainderBefore_iff] at *
    rcases hab with hab | ⟨hab, habs⟩
    · rcases hbc with hbc | ⟨hbc, _⟩
      · exact .inl (hbc.trans hab)
      · exact .inl (hbc ▸ hab)
    · rcases hbc with hbc | ⟨hbc, hbcs⟩
      · exact .inl (hab ▸ hbc)
      · exact .inr ⟨hab.trans hbc, habs.trans hbcs⟩

/-! ## The split as an apportionment -/

variable {credits : OrderedMap String ℕ} {pool : ℕ}

/-- The witnesses with credits, as claimants weighted by them. -/
def creditClaims (credits : OrderedMap String ℕ) : List (String × ℕ) :=
  credits.toList.filter (·.2 ≠ 0)

/-- The claimants ranked by remainder. -/
def remainderRanking (credits : OrderedMap String ℕ) (pool : ℕ) : List (String × ℕ) :=
  ((creditClaims credits).map fun entry =>
    (entry.1, quotaRemainder pool (creditClaims credits) entry.2)).insertionSort remainderBefore

theorem ranks_remainderRanking (credits : OrderedMap String ℕ) (pool : ℕ) :
    Ranks pool (creditClaims credits) (remainderRanking credits pool) where
  perm := List.perm_insertionSort _ _
  sorted := by
    refine (List.pairwise_insertionSort remainderBefore _).imp ?_
    intro a b hab
    rcases remainderBefore_iff.mp hab with hlt | ⟨heq, _⟩
    · exact hlt.le
    · exact heq.ge

theorem creditClaims_keys_nodup (credits : OrderedMap String ℕ) :
    ((creditClaims credits).map (·.1)).Nodup :=
  (nodup_keys credits).sublist (List.filter_sublist.map _)

theorem mem_creditClaims {w : String} {c : ℕ} :
    (w, c) ∈ creditClaims credits ↔ credits[w]? = some c ∧ c ≠ 0 := by
  rw [creditClaims, List.mem_filter, mem_toList, decide_eq_true_eq]

theorem mem_creditClaims_keys {w : String} :
    w ∈ (creditClaims credits).map (·.1) ↔ 0 < credits[w]?.getD 0 := by
  constructor
  · intro hmem
    obtain ⟨⟨_, c⟩, hclaim, rfl⟩ := List.mem_map.mp hmem
    obtain ⟨hget, hne⟩ := mem_creditClaims.mp hclaim
    rw [hget]
    exact Nat.pos_of_ne_zero hne
  · intro hcredit
    cases hget : credits[w]? with
    | none =>
        rw [hget] at hcredit
        exact absurd hcredit (lt_irrefl 0)
    | some c =>
        rw [hget] at hcredit
        exact List.mem_map.mpr ⟨(w, c), mem_creditClaims.mpr ⟨hget, hcredit.ne'⟩, rfl⟩

/-- Witnesses without credits add nothing to the total. -/
theorem totalWeight_creditClaims (credits : OrderedMap String ℕ) :
    totalWeight (creditClaims credits) = (credits.toList.map (·.2)).sum := by
  exact sum_filter_of_zero (fun entry : String × ℕ => entry.2 ≠ 0) (·.2)
    fun _ _ hzero => not_not.mp hzero

/-- What a witness with the given credits is allotted. -/
def witnessShare (credits : OrderedMap String ℕ) (pool : ℕ) (witness : String) (credit : ℕ) : ℕ :=
  allotment pool (creditClaims credits) (remainderRanking credits pool) witness credit

theorem sum_witnessShare (hcredits : 0 < (credits.toList.map (·.2)).sum) :
    ((creditClaims credits).map fun claim => witnessShare credits pool claim.1 claim.2).sum =
      pool :=
  sum_allotment (ranks_remainderRanking credits pool) (creditClaims_keys_nodup credits)
    (by rwa [totalWeight_creditClaims])

/-- A share is part of the pool. -/
theorem witnessShare_le (pool : ℕ) {w : String} {c : ℕ} (hclaim : (w, c) ∈ creditClaims credits) :
    witnessShare credits pool w c ≤ pool := by
  have hpositive : 0 < c := Nat.pos_of_ne_zero (mem_creditClaims.mp hclaim).2
  have hmem : c ∈ credits.toList.map (·.2) :=
    List.mem_map_of_mem (mem_toList.mpr (mem_creditClaims.mp hclaim).1)
  have hcredits : 0 < (credits.toList.map (·.2)).sum :=
    hpositive.trans_le (List.single_le_sum (fun _ _ => Nat.zero_le _) _ hmem)
  have hterm : witnessShare credits pool w c ∈
      (creditClaims credits).map fun claim => witnessShare credits pool claim.1 claim.2 :=
    List.mem_map_of_mem (f := fun claim => witnessShare credits pool claim.1 claim.2) hclaim
  calc witnessShare credits pool w c
      ≤ ((creditClaims credits).map fun claim => witnessShare credits pool claim.1 claim.2).sum :=
        List.single_le_sum (fun _ _ => Nat.zero_le _) _ hterm
    _ = pool := sum_witnessShare hcredits

theorem not_mem_winners {w : String} (hclaim : w ∉ (creditClaims credits).map (·.1)) :
    w ∉ winners pool (creditClaims credits) (remainderRanking credits pool) := by
  intro hwins
  have hranked : w ∈ (remainderRanking credits pool).map (·.1) :=
    ((List.take_sublist _ _).map _).subset hwins
  exact hclaim ((ranks_remainderRanking credits pool).keys_perm.mem_iff.mp hranked)

/-- Without credits there is nothing to allot. -/
theorem witnessShare_zero {w : String} (hclaim : w ∉ (creditClaims credits).map (·.1)) :
    witnessShare credits pool w 0 = 0 := by
  rw [witnessShare, allotment, if_neg (not_mem_winners hclaim), quota, Nat.mul_zero, Nat.zero_div]

/-- An empty pool, or one without credits to split it by, allots nothing. -/
theorem witnessShare_nothing (h : pool = 0 ∨ (credits.toList.map (·.2)).sum = 0) {w : String}
    {c : ℕ} (hget : credits[w]? = some c) : witnessShare credits pool w c = 0 := by
  by_cases hzero : c = 0
  · subst hzero
    apply witnessShare_zero
    intro hclaim
    obtain ⟨⟨w', c'⟩, hmem, rfl⟩ := List.mem_map.mp hclaim
    obtain ⟨hget', hne⟩ := mem_creditClaims.mp hmem
    rw [hget] at hget'
    exact hne (Option.some.inj hget').symm
  · have hle := witnessShare_le pool (mem_creditClaims.mpr ⟨hget, hzero⟩)
    rcases h with hpool | hcredits
    · omega
    · have hmem : c ∈ credits.toList.map (·.2) := List.mem_map_of_mem (mem_toList.mpr hget)
      have hle' := List.single_le_sum (fun _ _ => Nat.zero_le _) _ hmem
      omega

/-! ## The chain's split -/

/-- The order in which one loop over a map visits its entries. -/
structure Visit (m : OrderedMap String ℕ) where
  order : List (String × ℕ)
  perm : order.Perm m.toList

theorem Visit.mem_order (visit : Visit credits) {w : String} {c : ℕ} :
    (w, c) ∈ visit.order ↔ credits[w]? = some c := by
  rw [visit.perm.mem_iff, mem_toList]

theorem Visit.keys_nodup (visit : Visit credits) : (visit.order.map Prod.fst).Nodup :=
  (visit.perm.map Prod.fst).nodup_iff.mpr (nodup_keys credits)

/-- What one write for each visited entry leaves under a key. -/
theorem get_foldl_visit (visit : Visit credits) (f : ℕ → ℕ) (w : String) :
    (visit.order.foldl (fun (allocation : OrderedMap String ℕ) entry =>
      allocation.insert entry.1 (f entry.2)) ∅)[w]? = credits[w]?.map f := by
  cases hget : credits[w]? with
  | none =>
      have hkey : w ∉ visit.order.map Prod.fst := by
        intro hmem
        obtain ⟨⟨w', c⟩, hentry, rfl⟩ := List.mem_map.mp hmem
        rw [visit.mem_order.mp hentry] at hget
        cases hget
      refine (get_foldl_update_of_not_mem Prod.fst (fun entry _ => f entry.2) ∅ hkey).trans ?_
      exact Std.ExtTreeMap.getElem?_empty
  | some c =>
      exact get_foldl_update_of_mem Prod.fst (fun entry _ => f entry.2) visit.keys_nodup ∅
        (visit.mem_order.mpr hget)

/-- The map a split starts from: nothing for each credited witness. -/
def noShares (credits : OrderedMap String ℕ) : OrderedMap String ℕ :=
  credits.toList.foldl (fun allocation entry => allocation.insert entry.1 0) ∅

theorem get_noShares (credits : OrderedMap String ℕ) (w : String) :
    (noShares credits)[w]? = credits[w]?.map fun _ => 0 :=
  get_foldl_visit ⟨credits.toList, List.Perm.refl _⟩ (fun _ => 0) w

/-- The map after the rounded shares were written. -/
def roundedShares (credits : OrderedMap String ℕ) (pool : ℕ) : OrderedMap String ℕ :=
  ((creditClaims credits).map fun entry =>
    (entry.1, quota pool (creditClaims credits) entry.2)).foldl
      (fun allocation entry => allocation.insert entry.1 entry.2) (noShares credits)

/-- Inside 64 bits nothing wraps: the split writes the rounded shares and then adds a unit for each
of the first remainders. -/
theorem allocateWitnessRewards_eq (hcredits : (credits.toList.map (·.2)).sum < 2 ^ 64)
    (hpool : pool < 2 ^ 64) (hsome : ¬ (pool = 0 ∨ (credits.toList.map (·.2)).sum = 0)) :
    allocateWitnessRewards credits pool =
      ((remainderRanking credits pool).take (dust pool (creditClaims credits))).foldl
        (fun allocation entry =>
          allocation.insert entry.1 (wrap64 (allocation[entry.1]?.getD 0 + 1)))
        (roundedShares credits pool) := by
  have hweight : 0 < totalWeight (creditClaims credits) := by
    rw [totalWeight_creditClaims]
    omega
  have hquota : ((creditClaims credits).map fun entry =>
      (entry.1, wrap64 (pool * entry.2 / totalWeight (creditClaims credits)))) =
        (creditClaims credits).map fun entry =>
          (entry.1, quota pool (creditClaims credits) entry.2) := by
    apply List.map_congr_left
    intro entry hentry
    have hshare := (quota_le_allotment pool (creditClaims credits)
      (remainderRanking credits pool) entry.1 entry.2).trans (witnessShare_le pool hentry)
    rw [quota] at hshare
    rw [wrap64_of_lt (by omega), quota]
  have hdistributed : wrap64 (((creditClaims credits).map fun entry =>
      (entry.1, quota pool (creditClaims credits) entry.2)).map (·.2)).sum =
        ((creditClaims credits).map fun entry => quota pool (creditClaims credits) entry.2).sum := by
    rw [List.map_map]
    exact wrap64_of_lt ((sum_quota_le pool hweight).trans_lt hpool)
  unfold allocateWitnessRewards
  simp only [wrap64_of_lt hcredits]
  rw [if_neg hsome, ← totalWeight_creditClaims]
  change (List.take (pool - wrap64 (List.map _ ((creditClaims credits).map fun entry =>
    (entry.1, wrap64 (pool * entry.2 / totalWeight (creditClaims credits))))).sum)
      (remainderRanking credits pool)).foldl _ (((creditClaims credits).map fun entry =>
        (entry.1, wrap64 (pool * entry.2 / totalWeight (creditClaims credits)))).foldl _
          (noShares credits)) = _
  rw [hquota, hdistributed]
  rfl

/-- The rounded share of each witness. -/
theorem get_roundedShares (credits : OrderedMap String ℕ) (pool : ℕ) (w : String) :
    (roundedShares credits pool)[w]? =
      credits[w]?.map (quota pool (creditClaims credits)) := by
  have hkeys : (((creditClaims credits).map fun entry =>
      (entry.1, quota pool (creditClaims credits) entry.2)).map Prod.fst).Nodup := by
    rw [List.map_map]
    exact creditClaims_keys_nodup credits
  by_cases hclaim : w ∈ (creditClaims credits).map (·.1)
  · obtain ⟨⟨w', c⟩, hmem, rfl⟩ := List.mem_map.mp hclaim
    rw [(mem_creditClaims.mp hmem).1]
    exact get_foldl_update_of_mem Prod.fst (fun entry _ => entry.2) hkeys (noShares credits)
      (List.mem_map_of_mem (f := fun entry =>
        (entry.1, quota pool (creditClaims credits) entry.2)) hmem)
  · have hkey : w ∉ ((creditClaims credits).map fun entry =>
        (entry.1, quota pool (creditClaims credits) entry.2)).map Prod.fst := by
      rwa [List.map_map]
    refine (get_foldl_update_of_not_mem Prod.fst (fun entry _ => entry.2) (noShares credits)
      hkey).trans ?_
    rw [get_noShares]
    apply Option.map_congr
    intro c hget
    have hzero : c = 0 := by
      by_contra hne
      exact hclaim (List.mem_map_of_mem (f := Prod.fst) (mem_creditClaims.mpr ⟨hget, hne⟩))
    rw [hzero, quota, Nat.mul_zero, Nat.zero_div]

/-- With credits and pool inside 64 bits, the chain's split is the apportionment. -/
theorem allocateWitnessRewards_get (hcredits : (credits.toList.map (·.2)).sum < 2 ^ 64)
    (hpool : pool < 2 ^ 64) (w : String) :
    (allocateWitnessRewards credits pool)[w]? = credits[w]?.map (witnessShare credits pool w) := by
  by_cases hnothing : pool = 0 ∨ (credits.toList.map (·.2)).sum = 0
  · have hempty : allocateWitnessRewards credits pool = noShares credits := by
      unfold allocateWitnessRewards
      simp only [wrap64_of_lt hcredits]
      exact if_pos hnothing
    rw [hempty, get_noShares]
    apply Option.map_congr
    intro c hget
    exact (witnessShare_nothing hnothing hget).symm
  · rw [allocateWitnessRewards_eq hcredits hpool hnothing]
    have hranks := ranks_remainderRanking credits pool
    have hkeys : (((remainderRanking credits pool).take
        (dust pool (creditClaims credits))).map Prod.fst).Nodup :=
      (hranks.keys_nodup (creditClaims_keys_nodup credits)).sublist ((List.take_sublist _ _).map _)
    by_cases hwins : w ∈ winners pool (creditClaims credits) (remainderRanking credits pool)
    · obtain ⟨⟨w', r⟩, hmem, rfl⟩ := List.mem_map.mp hwins
      refine (get_foldl_update_of_mem Prod.fst (fun _ share => wrap64 (share.getD 0 + 1)) hkeys
        (roundedShares credits pool) hmem).trans ?_
      rw [get_roundedShares]
      -- a winner is a claimant, and its share with the unit is still part of the pool
      have hclaim : w' ∈ (creditClaims credits).map (·.1) := by
        by_contra hnot
        exact not_mem_winners hnot hwins
      obtain ⟨⟨w'', c⟩, hentry, rfl⟩ := List.mem_map.mp hclaim
      have hshare := witnessShare_le pool hentry
      rw [(mem_creditClaims.mp hentry).1]
      rw [witnessShare, allotment, if_pos hwins] at hshare
      change some (wrap64 (quota pool (creditClaims credits) c + 1)) = some (witnessShare _ _ _ _)
      rw [wrap64_of_lt (by omega), witnessShare, allotment, if_pos hwins]
    · refine (get_foldl_update_of_not_mem Prod.fst (fun _ share => wrap64 (share.getD 0 + 1))
        (roundedShares credits pool) hwins).trans ?_
      rw [get_roundedShares]
      apply Option.map_congr
      intro c _
      rw [witnessShare, allotment, if_neg hwins, Nat.add_zero]

/-! ## The order of visits -/

/-- Give one unit to each of the ranked witnesses until the pool is used up. -/
def handOut (pool : ℕ) : (distributed : ℕ) → List (String × ℕ) → OrderedMap String ℕ →
    OrderedMap String ℕ
  | _, [], allocation => allocation
  | distributed, entry :: remainders, allocation =>
      if distributed < pool then
        handOut pool (wrap64 (distributed + 1)) remainders
          (allocation.insert entry.1 (wrap64 (allocation[entry.1]?.getD 0 + 1)))
      else allocation

/-- Write one witness's rounded share and note its remainder. -/
def roundShare (credits : OrderedMap String ℕ) (pool totalCredits : ℕ)
    (acc : OrderedMap String ℕ × ℕ × List (String × ℕ)) (witness : String) :
    OrderedMap String ℕ × ℕ × List (String × ℕ) :=
  let product := pool * credits[witness]?.getD 0
  let share := product / totalCredits
  let whole := wrap64 share
  (acc.1.insert witness whole, wrap64 (acc.2.1 + whole),
    acc.2.2 ++ [(witness, product - share * totalCredits)])

def sortStrings (names : List String) : List String :=
  names.insertionSort fun a b => compare a b ≠ .gt

/-- The split with the loops of the source, each of which visits the credits in an order of its
own. -/
def allocateWitnessRewardsRanging (credits : OrderedMap String ℕ)
    (zeroing summing collecting : Visit credits) (pool : ℕ) : OrderedMap String ℕ :=
  let nothing := zeroing.order.foldl (fun allocation entry => allocation.insert entry.1 0) ∅
  if pool = 0 then nothing
  else
    let totalCredits := summing.order.foldl (fun total entry => wrap64 (total + entry.2)) 0
    if totalCredits = 0 then nothing
    else
      let uncredited := collecting.order.foldl
        (fun allocation entry => if entry.2 = 0 then allocation.insert entry.1 0 else allocation) ∅
      let witnesses := sortStrings ((collecting.order.filter (·.2 ≠ 0)).map (·.1))
      let (allocation, distributed, remainders) :=
        witnesses.foldl (roundShare credits pool totalCredits) (uncredited, 0, [])
      handOut pool distributed (remainders.insertionSort remainderBefore) allocation

theorem foldl_wrap64 (entries : List (String × ℕ)) (start : ℕ) :
    entries.foldl (fun total entry => wrap64 (total + entry.2)) (wrap64 start) =
      wrap64 (start + (entries.map (·.2)).sum) := by
  induction entries generalizing start with
  | nil => rfl
  | cons entry entries ih =>
      have hwrap : wrap64 (wrap64 start + entry.2) = wrap64 (start + entry.2) := by
        unfold wrap64
        omega
      rw [List.foldl_cons, hwrap, ih, List.map_cons, List.sum_cons, Nat.add_assoc]

theorem handOut_eq {distributed : ℕ} (hpool : pool < 2 ^ 64) (remainders : List (String × ℕ))
    (allocation : OrderedMap String ℕ) :
    handOut pool distributed remainders allocation =
      (remainders.take (pool - distributed)).foldl
        (fun allocation entry =>
          allocation.insert entry.1 (wrap64 (allocation[entry.1]?.getD 0 + 1))) allocation := by
  induction remainders generalizing distributed allocation with
  | nil => simp [handOut]
  | cons entry remainders ih =>
      unfold handOut
      split
      · next hlt =>
          have hleft : pool - distributed = pool - (distributed + 1) + 1 := by omega
          rw [wrap64_of_lt (show distributed + 1 < 2 ^ 64 by omega), ih, hleft,
            List.take_succ_cons, List.foldl_cons]
      · next hge =>
          have hleft : pool - distributed = 0 := by omega
          rw [hleft, List.take_zero, List.foldl_nil]

/-- Sorting the credited names of any visit lists the claimants in their order. -/
theorem sortStrings_visit (collecting : Visit credits) :
    sortStrings ((collecting.order.filter (·.2 ≠ 0)).map (·.1)) =
      (creditClaims credits).map (·.1) := by
  have hperm : (sortStrings ((collecting.order.filter (·.2 ≠ 0)).map (·.1))).Perm
      ((creditClaims credits).map (·.1)) :=
    (List.perm_insertionSort _ _).trans ((collecting.perm.filter _).map _)
  have htotal : Std.Total fun a b : String => compare a b ≠ .gt :=
    ⟨fun a b => by simpa only [compare_le_iff_le] using le_total a b⟩
  have htrans : IsTrans String fun a b => compare a b ≠ .gt :=
    ⟨fun a b c => by simpa only [compare_le_iff_le] using le_trans⟩
  refine hperm.eq_of_pairwise ?_ (List.pairwise_insertionSort _ _) ?_
  · intro a b _ _ hab hba
    exact le_antisymm (compare_le_iff_le.mp hab) (compare_le_iff_le.mp hba)
  · rw [List.pairwise_map]
    refine (Std.ExtTreeMap.ordered_keys_toList.filter _).imp ?_
    intro a b hlt
    rw [hlt]
    exact Ordering.noConfusion

/-- The loop over the witnesses, as three separate passes. -/
theorem foldl_roundShare {totalCredits : ℕ} {entries : List (String × ℕ)}
    (hentries : ∀ entry ∈ entries, credits[entry.1]? = some entry.2)
    (allocation : OrderedMap String ℕ) (distributed : ℕ) (remainders : List (String × ℕ)) :
    (entries.map (·.1)).foldl (roundShare credits pool totalCredits)
        (allocation, wrap64 distributed, remainders) =
      ((entries.map fun entry => (entry.1, wrap64 (pool * entry.2 / totalCredits))).foldl
          (fun allocation entry => allocation.insert entry.1 entry.2) allocation,
        wrap64 (distributed +
          ((entries.map fun entry => (entry.1, wrap64 (pool * entry.2 / totalCredits))).map
            (·.2)).sum),
        remainders ++ entries.map fun entry => (entry.1, pool * entry.2 % totalCredits)) := by
  induction entries generalizing allocation distributed remainders with
  | nil => simp
  | cons entry entries ih =>
      have hget := hentries entry List.mem_cons_self
      have hrest := ih fun e he => hentries e (List.mem_cons_of_mem entry he)
      have hround : roundShare credits pool totalCredits
          (allocation, wrap64 distributed, remainders) entry.1 =
            (allocation.insert entry.1 (wrap64 (pool * entry.2 / totalCredits)),
              wrap64 (distributed + wrap64 (pool * entry.2 / totalCredits)),
              remainders ++ [(entry.1, pool * entry.2 % totalCredits)]) := by
        have hwrap : wrap64 (wrap64 distributed + wrap64 (pool * entry.2 / totalCredits)) =
            wrap64 (distributed + wrap64 (pool * entry.2 / totalCredits)) := by
          unfold wrap64
          omega
        simp only [roundShare, hget, Option.getD_some, hwrap, Nat.mod_def, mul_comm totalCredits]
      rw [List.map_cons, List.foldl_cons, hround, hrest]
      simp only [List.map_cons, List.foldl_cons, List.sum_cons, List.append_assoc,
        List.singleton_append, Nat.add_assoc]

/-- What a loop that writes nothing for the uncredited leaves under a key. -/
theorem get_uncredited (collecting : Visit credits) (w : String) :
    (collecting.order.foldl (fun (allocation : OrderedMap String ℕ) entry =>
      if entry.2 = 0 then allocation.insert entry.1 0 else allocation) ∅)[w]? =
        if credits[w]? = some 0 then some 0 else none := by
  have hfilter : ∀ (entries : List (String × ℕ)) (allocation : OrderedMap String ℕ),
      entries.foldl (fun allocation entry =>
        if entry.2 = 0 then allocation.insert entry.1 0 else allocation) allocation =
      (entries.filter (·.2 = 0)).foldl
        (fun allocation entry => allocation.insert entry.1 0) allocation := by
    intro entries
    induction entries with
    | nil => exact fun _ => rfl
    | cons entry entries ih =>
        intro allocation
        by_cases hzero : entry.2 = 0
        · rw [List.foldl_cons, if_pos hzero, ih, List.filter_cons_of_pos (by simp [hzero]),
            List.foldl_cons]
        · rw [List.foldl_cons, if_neg hzero, ih, List.filter_cons_of_neg (by simp [hzero])]
  have hkeys : ((collecting.order.filter (·.2 = 0)).map Prod.fst).Nodup :=
    collecting.keys_nodup.sublist (List.filter_sublist.map _)
  have hmem : ∀ c, (w, c) ∈ collecting.order.filter (·.2 = 0) ↔ credits[w]? = some c ∧ c = 0 := by
    intro c
    rw [List.mem_filter, collecting.mem_order, decide_eq_true_eq]
  rw [hfilter]
  split
  · next hzero =>
      exact get_foldl_update_of_mem Prod.fst (fun _ _ => 0) hkeys ∅ ((hmem 0).mpr ⟨hzero, rfl⟩)
  · next hnonzero =>
      refine (get_foldl_update_of_not_mem Prod.fst (fun _ _ => 0) ∅ ?_).trans
        Std.ExtTreeMap.getElem?_empty
      intro hkey
      obtain ⟨⟨w', c⟩, hentry, rfl⟩ := List.mem_map.mp hkey
      obtain ⟨hget, hc⟩ := (hmem c).mp hentry
      exact hnonzero (hc ▸ hget)

/-- Away from the claimants it is what the split starts from. -/
theorem get_uncredited_eq_noShares (collecting : Visit credits) {w : String}
    (hclaim : w ∉ (creditClaims credits).map (·.1)) :
    (collecting.order.foldl (fun (allocation : OrderedMap String ℕ) entry =>
      if entry.2 = 0 then allocation.insert entry.1 0 else allocation) ∅)[w]? =
        (noShares credits)[w]? := by
  rw [get_uncredited, get_noShares]
  cases hget : credits[w]? with
  | none => rfl
  | some c =>
      have hzero : c = 0 := by
        by_contra hne
        exact hclaim (List.mem_map_of_mem (f := Prod.fst) (mem_creditClaims.mpr ⟨hget, hne⟩))
      rw [if_pos (by rw [hzero])]
      rfl

/-- Two maps that agree away from the written keys agree after the writes. -/
theorem foldl_insert_congr {entries : List (String × ℕ)} (hkeys : (entries.map Prod.fst).Nodup)
    {m m' : OrderedMap String ℕ} (h : ∀ w, w ∉ entries.map Prod.fst → m[w]? = m'[w]?) :
    entries.foldl (fun allocation entry => allocation.insert entry.1 entry.2) m =
      entries.foldl (fun allocation entry => allocation.insert entry.1 entry.2) m' := by
  apply Std.ExtTreeMap.ext_getElem?
  intro w
  by_cases hkey : w ∈ entries.map Prod.fst
  · obtain ⟨entry, hentry, rfl⟩ := List.mem_map.mp hkey
    rw [get_foldl_update_of_mem Prod.fst (fun entry _ => entry.2) hkeys m hentry,
      get_foldl_update_of_mem Prod.fst (fun entry _ => entry.2) hkeys m' hentry]
  · rw [get_foldl_update_of_not_mem Prod.fst (fun entry _ => entry.2) m hkey,
      get_foldl_update_of_not_mem Prod.fst (fun entry _ => entry.2) m' hkey, h w hkey]

/-- The split does not depend on the order of any visit. -/
theorem allocateWitnessRewardsRanging_eq (zeroing summing collecting : Visit credits)
    (hpool : pool < 2 ^ 64) :
    allocateWitnessRewardsRanging credits zeroing summing collecting pool =
      allocateWitnessRewards credits pool := by
  have hnothing : zeroing.order.foldl (fun (allocation : OrderedMap String ℕ) entry =>
      allocation.insert entry.1 0) ∅ = noShares credits := by
    apply Std.ExtTreeMap.ext_getElem?
    intro w
    rw [get_noShares]
    exact get_foldl_visit zeroing (fun _ => 0) w
  have htotal : summing.order.foldl (fun total entry => wrap64 (total + entry.2)) 0 =
      wrap64 (credits.toList.map (·.2)).sum := by
    have hsum := (summing.perm.map (·.2)).sum_eq
    rw [← hsum, ← Nat.zero_add (summing.order.map (·.2)).sum]
    exact foldl_wrap64 summing.order 0
  have hentries : ∀ entry ∈ creditClaims credits, credits[entry.1]? = some entry.2 :=
    fun entry hentry => (mem_creditClaims.mp hentry).1
  unfold allocateWitnessRewardsRanging allocateWitnessRewards
  simp only [hnothing, htotal]
  by_cases hempty : pool = 0
  · rw [if_pos hempty, if_pos (.inl hempty)]
    rfl
  · rw [if_neg hempty]
    by_cases hzero : wrap64 (credits.toList.map (·.2)).sum = 0
    · rw [if_pos hzero, if_pos (.inr hzero)]
      rfl
    · rw [if_neg hzero, if_neg (not_or.mpr ⟨hempty, hzero⟩), sortStrings_visit]
      have hloop := @foldl_roundShare credits pool (wrap64 (credits.toList.map (·.2)).sum) _
        hentries (collecting.order.foldl (fun allocation entry =>
          if entry.2 = 0 then allocation.insert entry.1 0 else allocation) ∅) 0 []
      have hstart : wrap64 0 = 0 := rfl
      rw [hstart, Nat.zero_add, List.nil_append] at hloop
      rw [hloop]
      simp only [handOut_eq hpool]
      have hkeys : (((creditClaims credits).map fun entry => (entry.1,
          wrap64 (pool * entry.2 / wrap64 (credits.toList.map (·.2)).sum))).map Prod.fst).Nodup := by
        rw [List.map_map]
        exact creditClaims_keys_nodup credits
      -- away from the claimants both maps hold nothing but the uncredited witnesses
      have hmaps := foldl_insert_congr hkeys fun w hkey =>
        get_uncredited_eq_noShares collecting (by rwa [List.map_map] at hkey)
      rw [hmaps]
      rfl

end PoleProtocol.Chain
