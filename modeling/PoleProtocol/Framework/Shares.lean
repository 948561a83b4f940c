import PoleProtocol.Framework.KeySet
import PoleProtocol.Framework.OrderedQueue

/-!
# Shares in a map

A map of amounts is filled with rounded shares, one for each entry of another map, and then single
units are added to its keys. The total follows every unit, the keys stay. The rounding leaves less
than one unit for each share.
-/

namespace PoleProtocol.Framework.OrderedMap

variable {K : Type} [Ord K] [Std.TransOrd K] [Std.LawfulEqOrd K] [DecidableEq K]

/-- The sum of the amounts. -/
def amount (m : OrderedMap K ℕ) : ℕ := total (fun _ a => a) m

omit [Std.LawfulEqOrd K] [DecidableEq K] in
theorem amount_eq_sum (m : OrderedMap K ℕ) : amount m = (m.toList.map (·.2)).sum := rfl

/-- Add to the amount under a key. -/
def addAmount (m : OrderedMap K ℕ) (k : K) (a : ℕ) : OrderedMap K ℕ :=
  m.insert k (m[k]?.getD 0 + a)

theorem amount_addAmount (m : OrderedMap K ℕ) (k : K) (a : ℕ) :
    amount (addAmount m k a) = amount m + a := by
  have hinsert := total_insert_add (fun (_ : K) (b : ℕ) => b) m k (m[k]?.getD 0 + a)
  rw [Option.map_id'] at hinsert
  unfold amount addAmount
  omega

theorem keySet_addAmount {m : OrderedMap K ℕ} {k : K} (a : ℕ) (h : k ∈ keySet m) :
    keySet (addAmount m k a) = keySet m := by
  rw [addAmount, keySet_insert, Finset.insert_eq_of_mem h]

omit [Std.LawfulEqOrd K] in
/-- Maps with the same keys list them alike. -/
theorem keys_eq_of_keySet {V W : Type} {m : OrderedMap K V} {m' : OrderedMap K W}
    (h : keySet m = keySet m') : m.keys = m'.keys := by
  have hperm : m.keys.Perm m'.keys := by
    refine (List.perm_ext_iff_of_nodup Std.ExtTreeMap.nodup_keys Std.ExtTreeMap.nodup_keys).mpr ?_
    intro k
    rw [← List.mem_toFinset, ← List.mem_toFinset]
    change k ∈ keySet m ↔ k ∈ keySet m'
    rw [h]
  refine hperm.eq_of_pairwise ?_ Std.ExtTreeMap.ordered_keys Std.ExtTreeMap.ordered_keys
  intro k l _ _ hkl hlk
  have hswap : compare k l = (compare l k).swap := Std.OrientedCmp.eq_swap
  rw [hkl, hlk] at hswap
  cases hswap

section Mapped

variable {m m' : OrderedMap K ℕ} {f : K → ℕ → ℕ} (h : ∀ k, m'[k]? = m[k]?.map (f k))

include h

theorem keySet_of_get_map : keySet m' = keySet m := by
  ext k
  rw [mem_keySet, mem_keySet, h]
  simp

omit [DecidableEq K] in
/-- The amounts that stand for the entries of another map add up over its entries. -/
theorem amount_of_get_map : amount m' = (m.toList.map fun entry => f entry.1 entry.2).sum := by
  have hmap : m' = m.map f := by
    apply Std.ExtTreeMap.ext_getElem?
    intro k
    rw [h, Std.ExtTreeMap.getElem?_map]
  rw [hmap, amount_eq_sum, Std.ExtTreeMap.toList_map, List.map_map]
  rfl

end Mapped

/-- Write a share for every entry of a map. -/
def shareOf (f : ℕ → ℕ) (m : OrderedMap K ℕ) : OrderedMap K ℕ :=
  m.toList.foldl (fun shares entry => shares.insert entry.1 (f entry.2)) ∅

theorem get_shareOf (f : ℕ → ℕ) (m : OrderedMap K ℕ) (k : K) :
    (shareOf f m)[k]? = m[k]?.map f := by
  have hupdate := fun entry (hentry : entry ∈ m.toList) =>
    get_foldl_update_of_mem Prod.fst (fun (entry : K × ℕ) (_ : Option ℕ) => f entry.2)
      (nodup_keys m) ∅ hentry
  cases hget : m[k]? with
  | some v => exact hupdate (k, v) (mem_toList.mpr hget)
  | none =>
      have hkey : k ∉ m.toList.map Prod.fst := by
        intro hmem
        obtain ⟨⟨k', v⟩, hentry, rfl⟩ := List.mem_map.mp hmem
        rw [mem_toList.mp hentry] at hget
        cases hget
      have hnone := get_foldl_update_of_not_mem Prod.fst
        (fun (entry : K × ℕ) (_ : Option ℕ) => f entry.2) ∅ hkey
      exact hnone.trans Std.ExtTreeMap.getElem?_empty

theorem keySet_shareOf (f : ℕ → ℕ) (m : OrderedMap K ℕ) : keySet (shareOf f m) = keySet m := by
  ext k
  rw [mem_keySet, mem_keySet, get_shareOf]
  simp

theorem amount_shareOf (f : ℕ → ℕ) (m : OrderedMap K ℕ) :
    amount (shareOf f m) = (m.toList.map fun entry => f entry.2).sum := by
  have hmap : shareOf f m = m.map fun _ => f := by
    apply Std.ExtTreeMap.ext_getElem?
    intro k
    rw [get_shareOf, Std.ExtTreeMap.getElem?_map]
  have hrecords := records_map f m
  rw [← hmap] at hrecords
  calc amount (shareOf f m) = (records (shareOf f m)).sum := rfl
    _ = (m.records.map f).sum := by rw [hrecords]
    _ = (m.toList.map fun entry => f entry.2).sum := by
        rw [records, List.map_map]
        rfl

/-- Rounding down loses less than a unit for each share, also of a total that is too small. -/
theorem pool_le_quotients_add_length (pool : ℕ) {total : ℕ} (htotal : 0 < total)
    {weights : List ℕ} (hle : total ≤ weights.sum) :
    pool ≤ (weights.map fun weight => pool * weight / total).sum + weights.length := by
  have hscaled : pool * weights.sum ≤
      ((weights.map fun weight => pool * weight / total).sum + weights.length) * total := by
    clear hle
    induction weights with
    | nil => simp
    | cons weight weights ih =>
        have hdiv : pool * weight ≤ (pool * weight / total + 1) * total := by
          rw [Nat.mul_comm _ total]
          exact (Nat.lt_mul_div_succ _ htotal).le
        calc pool * (weight :: weights).sum = pool * weight + pool * weights.sum := by
              rw [List.sum_cons, Nat.mul_add]
          _ ≤ (pool * weight / total + 1) * total +
                ((weights.map fun weight => pool * weight / total).sum + weights.length) * total :=
              Nat.add_le_add hdiv ih
          _ = _ := by
              rw [← Nat.add_mul, List.map_cons, List.sum_cons, List.length_cons]
              congr 1
              omega
  refine Nat.le_of_mul_le_mul_right ?_ htotal
  exact (Nat.mul_le_mul_left pool hle).trans hscaled

end PoleProtocol.Framework.OrderedMap
