import PoleProtocol.Framework.Apportionment
import PoleProtocol.Node.RewardShares

/-!
# Service pools

A service pool is split over the scores by largest remainders. The loop over the units that rounding
leaves goes around the ranked nodes, but it ends before it has been around once: there are never
more units than rounded shares, and the nodes with rounded shares come first.
-/

namespace PoleProtocol.Node

open Framework Ledger OrderedMap

variable {weights : OrderedMap NodeId ℕ} {pool : ℕ}

/-! ## The ranking -/

theorem largestFirst_iff {left right : ℕ × NodeId} :
    largestFirst left right ↔ (compare right left).isLE := by
  rw [largestFirst, compare_pair, Ordering.isLE_iff_ne_gt]

instance : Std.Total largestFirst where
  total left right := by
    rw [largestFirst_iff, largestFirst_iff]
    have hswap : compare right left = (compare left right).swap := Std.OrientedCmp.eq_swap
    rw [hswap]
    cases compare left right <;> simp

instance : IsTrans (ℕ × NodeId) largestFirst where
  trans left middle right hleft hright := by
    rw [largestFirst_iff] at *
    exact Std.TransCmp.isLE_trans hright hleft

/-- The nodes ranked by what the rounding of their shares leaves. -/
def scoreRanking (weights : OrderedMap NodeId ℕ) (pool : ℕ) : List (ℕ × NodeId) :=
  (weights.toList.map fun entry =>
    (quotaRemainder pool weights.toList entry.2, entry.1)).insertionSort largestFirst

theorem ranks_scoreRanking (weights : OrderedMap NodeId ℕ) (pool : ℕ) :
    Ranks pool weights.toList ((scoreRanking weights pool).map Prod.swap) where
  perm := by
    have hperm := (List.perm_insertionSort largestFirst (weights.toList.map fun entry =>
      (quotaRemainder pool weights.toList entry.2, entry.1))).map Prod.swap
    rwa [List.map_map] at hperm
  sorted := by
    rw [List.pairwise_map]
    refine (List.pairwise_insertionSort largestFirst _).imp ?_
    intro left right hfirst
    change right.1 ≤ left.1
    by_contra hlt
    have hgt : compare right.1 left.1 = .gt := Nat.compare_eq_gt.mpr (Nat.not_le.mp hlt)
    rw [largestFirst, hgt] at hfirst
    exact hfirst rfl

/-! ## The loop over the leftover units -/

/-- The units that the loop of the split has to hand out. -/
def leftoverUnits (weights : OrderedMap NodeId ℕ) (pool : ℕ) : ℕ :=
  let totalWeight := sumAmounts (weights.toList.map (·.2))
  pool - (weights.toList.foldl (shareOut pool totalWeight) (∅, 0, [])).2.1

/-- Short of one time around, the loop gives a unit to each of the first nodes. -/
theorem handAround_eq {remainders : List (ℕ × NodeId)} {leftover index : ℕ}
    (hshort : index + leftover ≤ remainders.length) (allocations : OrderedMap NodeId ℕ) :
    handAround remainders leftover index allocations =
      ((remainders.drop index).take leftover).foldl
        (fun allocations entry => addAmount allocations entry.2 1) allocations := by
  induction leftover generalizing index allocations with
  | zero => simp [handAround]
  | succ leftover ih =>
      have hindex : index < remainders.length := by omega
      rw [handAround, Nat.mod_eq_of_lt hindex, List.getElem?_eq_getElem hindex,
        List.drop_eq_getElem_cons hindex, List.take_succ_cons, List.foldl_cons]
      exact ih (by omega) _

theorem leftover_eq_dust (hsome : 0 < amount weights) (hpool : pool < 2 ^ 64) :
    pool - min (weights.toList.map fun entry => pool * entry.2 / amount weights).sum
      (2 ^ 128 - 1) = dust pool weights.toList := by
  have hle : (weights.toList.map fun entry => pool * entry.2 / amount weights).sum ≤ pool :=
    @sum_quota_le NodeId weights.toList pool hsome
  rw [min_eq_left (by omega)]
  rfl

section Inside

variable (hweights : amount weights < 2 ^ 64) (hpool : pool < 2 ^ 64)

include hweights hpool

/-- Inside 64 bits no product saturates. -/
theorem products_lt : ∀ entry ∈ weights.toList, pool * entry.2 < 2 ^ 128 := by
  intro entry hentry
  have hle : entry.2 ≤ amount weights :=
    OrderedMap.le_total (fun (_ : NodeId) a => a) (mem_toList.mp hentry)
  calc pool * entry.2 ≤ pool * (2 ^ 64 - 1) := Nat.mul_le_mul_left pool (by omega)
    _ ≤ (2 ^ 64 - 1) * (2 ^ 64 - 1) := Nat.mul_le_mul_right _ (by omega)
    _ < 2 ^ 128 := by norm_num

variable (hsome : 0 < amount weights)

include hsome

/-- What is left over is the dust of the apportionment. -/
theorem leftoverUnits_eq : leftoverUnits weights pool = dust pool weights.toList := by
  have htotal : sumAmounts (weights.toList.map (·.2)) = amount weights :=
    sumAmounts_of_lt (hweights.trans (by norm_num))
  have hloop := @foldl_shareOut pool (amount weights) _ (products_lt hweights hpool) ∅ 0 []
  rw [Nat.zero_min, Nat.zero_add, List.nil_append] at hloop
  unfold leftoverUnits
  simp only [htotal, hloop]
  exact leftover_eq_dust hsome hpool

/-- The loop over the leftover units does not get around the ranking once. -/
theorem allocateProportional_eq_foldl (hpositive : 0 < pool) :
    allocateProportional weights pool =
      ((scoreRanking weights pool).take (dust pool weights.toList)).foldl
        (fun allocations entry => addAmount allocations entry.2 1)
        (shareOf (fun weight => pool * weight / amount weights) weights) := by
  have hlength := (ranks_scoreRanking weights pool).perm.length_eq
  rw [List.length_map, List.length_map] at hlength
  have hdust : dust pool weights.toList ≤ weights.toList.length := dust_le_length hsome
  have hshort : 0 + dust pool weights.toList ≤ (scoreRanking weights pool).length := by omega
  rw [allocateProportional_eq (products_lt hweights hpool) (hweights.trans (by norm_num)),
    if_pos ⟨hpositive.ne', hsome.ne'⟩, leftover_eq_dust hsome hpool]
  exact handAround_eq hshort _

/-- Inside 64 bits the split is the apportionment of the pool over the scores. -/
theorem allocateProportional_get (hpositive : 0 < pool) (nodeId : NodeId) :
    (allocateProportional weights pool)[nodeId]? =
      weights[nodeId]?.map
        (allotment pool weights.toList ((scoreRanking weights pool).map Prod.swap) nodeId) := by
  have hranks := ranks_scoreRanking weights pool
  have hkeys : (((scoreRanking weights pool).take (dust pool weights.toList)).map
      Prod.snd).Nodup := by
    have hdistinct := hranks.keys_nodup (nodup_keys weights)
    rw [List.map_map] at hdistinct
    exact hdistinct.sublist ((List.take_sublist _ _).map _)
  have hwinners : winners pool weights.toList ((scoreRanking weights pool).map Prod.swap) =
      ((scoreRanking weights pool).take (dust pool weights.toList)).map Prod.snd := by
    rw [winners, ← List.map_take, List.map_map]
    rfl
  have hrounded := get_shareOf (fun weight => pool * weight / amount weights) weights nodeId
  rw [allocateProportional_eq_foldl hweights hpool hsome hpositive]
  by_cases hwins : nodeId ∈ winners pool weights.toList ((scoreRanking weights pool).map Prod.swap)
  · have hranked := hwins
    rw [hwinners] at hranked
    obtain ⟨entry, hentry, rfl⟩ := List.mem_map.mp hranked
    refine (get_foldl_update_of_mem Prod.snd
      (fun (_ : ℕ × NodeId) (share : Option ℕ) => share.getD 0 + 1) hkeys _ hentry).trans ?_
    have hknown : entry.2 ∈ weights.toList.map (·.1) := by
      refine hranks.keys_perm.subset ?_
      exact ((List.take_sublist _ _).map _).subset hwins
    obtain ⟨⟨_, weight⟩, hmem, rfl⟩ := List.mem_map.mp hknown
    rw [hrounded, mem_toList.mp hmem, Option.map_some, Option.map_some, allotment, if_pos hwins]
    rfl
  · refine (get_foldl_update_of_not_mem Prod.snd
      (fun (_ : ℕ × NodeId) (share : Option ℕ) => share.getD 0 + 1) _ (hwinners ▸ hwins)).trans ?_
    rw [hrounded]
    refine Option.map_congr fun weight _ => ?_
    rw [allotment, if_neg hwins]
    rfl

end Inside

/-- The nodes whose share is not a whole number. -/
def roundedNodes (weights : OrderedMap NodeId ℕ) (pool : ℕ) : List (NodeId × ℕ) :=
  weights.toList.filter fun entry => 0 < pool * entry.2 % amount weights

/-- A service pool is handed out to the last unit, in shares that are rounded down or up, and the
loop over the leftover units ends within the nodes whose share was rounded. -/
theorem service_pool_distributed (weights : OrderedMap NodeId ℕ) (pool : ℕ)
    (hsome : 0 < amount weights) (hweights : amount weights < 2 ^ 64) (hpositive : 0 < pool)
    (hpool : pool < 2 ^ 64) :
    keySet (allocateProportional weights pool) = keySet weights ∧
      amount (allocateProportional weights pool) = pool ∧
      (∀ (nodeId : NodeId) (weight : ℕ), weights[nodeId]? = some weight → ∃ share,
        (allocateProportional weights pool)[nodeId]? = some share ∧
          (share = pool * weight / amount weights ∨ share = pool * weight / amount weights + 1) ∧
          (weight = 0 → share = 0)) ∧
      leftoverUnits weights pool ≤ (roundedNodes weights pool).length := by
  have hget := fun nodeId => allocateProportional_get hweights hpool hsome hpositive nodeId
  refine ⟨keySet_of_get_map hget,
    amount_allocateProportional (products_lt hweights hpool) (hweights.trans (by norm_num))
      (hpool.trans (by norm_num)) hsome.ne', ?_, ?_⟩
  · intro nodeId weight hweight
    refine ⟨_, (hget nodeId).trans (by rw [hweight, Option.map_some]), ?_, ?_⟩
    · unfold allotment
      split
      · exact .inr rfl
      · exact .inl rfl
    · rintro rfl
      have hloses : nodeId ∉
          winners pool weights.toList ((scoreRanking weights pool).map Prod.swap) := by
        intro hwins
        have hrounded := quotaRemainder_pos_of_winner (ranks_scoreRanking weights pool)
          (nodup_keys weights) hsome (mem_toList.mpr hweight) hwins
        rw [quotaRemainder, Nat.mul_zero, Nat.zero_mod] at hrounded
        exact absurd hrounded (lt_irrefl 0)
      rw [allotment, if_neg hloses, quota, Nat.mul_zero, Nat.zero_div]
  · rw [leftoverUnits_eq hweights hpool hsome]
    exact dust_le_rounded hsome

/-- Three nodes, one of them without a score, share a pool of five. -/
theorem service_pool_distributed_three :
    let weights : OrderedMap NodeId ℕ :=
      (((∅ : OrderedMap NodeId ℕ).insert 1 1).insert 2 1).insert 3 0
    amount (allocateProportional weights 5) = 5 ∧
      leftoverUnits weights 5 ≤ (roundedNodes weights 5).length := by
  intro weights
  have hsome : 0 < amount weights := by decide +kernel
  have hword : amount weights < 2 ^ 64 := by decide +kernel
  have hpool := service_pool_distributed weights 5 hsome hword (by decide) (by decide)
  exact ⟨hpool.2.1, hpool.2.2.2⟩

end PoleProtocol.Node
