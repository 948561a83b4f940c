import Mathlib

/-!
# Largest-remainder apportionment

A pool is split over weighted claimants: each gets its proportional share rounded down, and what
the rounding left over goes, one unit each, to the claimants with the largest remainders. The split
hands out the whole pool, gives a heavier claimant no less, and treats equal weights alike up to
one unit. How equal remainders are ranked is left open.
-/

namespace PoleProtocol.Framework

/-- Leaving out terms that add nothing does not change a sum. -/
theorem sum_filter_of_zero {α : Type*} (p : α → Prop) [DecidablePred p] (f : α → ℕ) {xs : List α}
    (hzero : ∀ x ∈ xs, ¬ p x → f x = 0) : ((xs.filter p).map f).sum = (xs.map f).sum := by
  induction xs with
  | nil => rfl
  | cons x xs ih =>
      rw [List.forall_mem_cons] at hzero
      by_cases hkept : p x
      · rw [List.filter_cons_of_pos (by simpa using hkept), List.map_cons, List.sum_cons,
          ih hzero.2, List.map_cons, List.sum_cons]
      · rw [List.filter_cons_of_neg (by simpa using hkept), ih hzero.2, List.map_cons,
          List.sum_cons, hzero.1 hkept, Nat.zero_add]

section Apportionment

variable {κ : Type*} [DecidableEq κ] (pool : ℕ) (claims : List (κ × ℕ))

def totalWeight : ℕ := (claims.map (·.2)).sum

/-- The proportional share of a weight, rounded down. -/
def quota (weight : ℕ) : ℕ := pool * weight / totalWeight claims

/-- What the rounding of a share leaves. -/
def quotaRemainder (weight : ℕ) : ℕ := pool * weight % totalWeight claims

/-- The units that rounding leaves undistributed. -/
def dust : ℕ := pool - (claims.map fun claim => quota pool claims claim.2).sum

/-- Each claimant with its remainder, the largest first. -/
structure Ranks (ranking : List (κ × ℕ)) : Prop where
  perm : ranking.Perm (claims.map fun claim => (claim.1, quotaRemainder pool claims claim.2))
  sorted : ranking.Pairwise fun a b => b.2 ≤ a.2

/-- The claimants that get a unit of the dust. -/
def winners (ranking : List (κ × ℕ)) : List κ := (ranking.take (dust pool claims)).map (·.1)

/-- What a claimant of the given weight is allotted. -/
def allotment (ranking : List (κ × ℕ)) (claimant : κ) (weight : ℕ) : ℕ :=
  quota pool claims weight + if claimant ∈ winners pool claims ranking then 1 else 0

variable {pool claims} {ranking : List (κ × ℕ)}

omit [DecidableEq κ] in
/-- Shares and remainders together make up the pool, scaled by the total weight. -/
theorem sum_quota_mul_add (pool : ℕ) (claims claims' : List (κ × ℕ)) :
    (claims'.map fun claim => quota pool claims claim.2).sum * totalWeight claims +
        (claims'.map fun claim => quotaRemainder pool claims claim.2).sum =
      pool * totalWeight claims' := by
  induction claims' with
  | nil => simp [totalWeight]
  | cons claim claims' ih =>
      have hdiv := Nat.div_add_mod (pool * claim.2) (totalWeight claims)
      have hweight : totalWeight (claim :: claims') = claim.2 + totalWeight claims' := rfl
      rw [hweight, Nat.mul_add, ← ih]
      simp only [List.map_cons, List.sum_cons, Nat.add_mul]
      change quota pool claims claim.2 * totalWeight claims + _ +
        (quotaRemainder pool claims claim.2 + _) = _
      have hclaim : quota pool claims claim.2 * totalWeight claims +
          quotaRemainder pool claims claim.2 = pool * claim.2 := by
        rw [mul_comm]
        exact hdiv
      omega

omit [DecidableEq κ] in
theorem sum_quota_le (pool : ℕ) (hweight : 0 < totalWeight claims) :
    (claims.map fun claim => quota pool claims claim.2).sum ≤ pool := by
  have hsum := sum_quota_mul_add pool claims claims
  exact Nat.le_of_mul_le_mul_right (Nat.le.intro hsum) hweight

omit [DecidableEq κ] in
theorem sum_quotaRemainder_eq :
    (claims.map fun claim => quotaRemainder pool claims claim.2).sum =
      dust pool claims * totalWeight claims := by
  have hsum := sum_quota_mul_add pool claims claims
  unfold dust
  rw [Nat.sub_mul]
  omega

omit [DecidableEq κ] in
/-- The dust is less than one unit a claimant. -/
theorem dust_le_length (hweight : 0 < totalWeight claims) : dust pool claims ≤ claims.length := by
  have hle : (claims.map fun claim => quotaRemainder pool claims claim.2).sum ≤
      (claims.map fun _ => totalWeight claims).sum :=
    List.sum_le_sum fun claim _ => (Nat.mod_lt _ hweight).le
  rw [sum_quotaRemainder_eq, List.map_const', List.sum_replicate, smul_eq_mul] at hle
  exact Nat.le_of_mul_le_mul_right hle hweight

omit [DecidableEq κ] in
theorem Ranks.keys_perm (h : Ranks pool claims ranking) :
    (ranking.map (·.1)).Perm (claims.map (·.1)) := by
  have hperm := h.perm.map (·.1)
  rwa [List.map_map] at hperm

omit [DecidableEq κ] in
theorem Ranks.keys_nodup (h : Ranks pool claims ranking) (hkeys : (claims.map (·.1)).Nodup) :
    (ranking.map (·.1)).Nodup :=
  h.keys_perm.nodup_iff.mpr hkeys

omit [DecidableEq κ] in
theorem winners_length (h : Ranks pool claims ranking) (hweight : 0 < totalWeight claims) :
    (winners pool claims ranking).length = dust pool claims := by
  have hlength := h.perm.length_eq
  rw [List.length_map] at hlength
  rw [winners, List.length_map, List.length_take, hlength]
  exact min_eq_left (dust_le_length hweight)

/-- One unit for each chosen key, summed over all of them. -/
theorem sum_indicator_eq_length {keys chosen : List κ} (hkeys : keys.Nodup) (hchosen : chosen.Nodup)
    (hsub : chosen ⊆ keys) :
    (keys.map fun k => if k ∈ chosen then 1 else 0).sum = chosen.length := by
  have hfilter : keys.toFinset.filter (· ∈ chosen) = chosen.toFinset := by
    ext k
    simp only [Finset.mem_filter, List.mem_toFinset]
    exact and_iff_right_of_imp (@hsub k)
  calc (keys.map fun k => if k ∈ chosen then 1 else 0).sum
      = ∑ k ∈ keys.toFinset, if k ∈ chosen then 1 else 0 := (List.sum_toFinset _ hkeys).symm
    _ = (keys.toFinset.filter (· ∈ chosen)).card := by rw [Finset.sum_boole, Nat.cast_id]
    _ = chosen.length := by rw [hfilter, List.toFinset_card_of_nodup hchosen]

/-- The whole pool is handed out. -/
theorem sum_allotment (h : Ranks pool claims ranking) (hkeys : (claims.map (·.1)).Nodup)
    (hweight : 0 < totalWeight claims) :
    (claims.map fun claim => allotment pool claims ranking claim.1 claim.2).sum = pool := by
  have hranked := h.keys_nodup hkeys
  have hwinners : (winners pool claims ranking).Sublist (ranking.map (·.1)) :=
    (List.take_sublist _ _).map _
  have hsub : winners pool claims ranking ⊆ claims.map (·.1) :=
    List.Subset.trans hwinners.subset h.keys_perm.subset
  have hcount := sum_indicator_eq_length hkeys (hranked.sublist hwinners) hsub
  rw [winners_length h hweight, List.map_map] at hcount
  have hsplit : (claims.map fun claim => allotment pool claims ranking claim.1 claim.2).sum =
      (claims.map fun claim => quota pool claims claim.2).sum + dust pool claims := by
    rw [← hcount]
    exact List.sum_map_add
  have hle := sum_quota_le pool hweight
  rw [hsplit, dust]
  omega

theorem allotment_le (pool : ℕ) (claims ranking : List (κ × ℕ)) (claimant : κ) (weight : ℕ) :
    allotment pool claims ranking claimant weight ≤ quota pool claims weight + 1 := by
  unfold allotment
  split <;> omega

theorem quota_le_allotment (pool : ℕ) (claims ranking : List (κ × ℕ)) (claimant : κ) (weight : ℕ) :
    quota pool claims weight ≤ allotment pool claims ranking claimant weight :=
  Nat.le_add_right _ _

/-- Equal weights are allotted the same up to one unit. -/
theorem allotment_le_succ (pool : ℕ) (claims ranking : List (κ × ℕ)) (claimant other : κ)
    (weight : ℕ) :
    allotment pool claims ranking claimant weight ≤
      allotment pool claims ranking other weight + 1 := by
  have hupper := allotment_le pool claims ranking claimant weight
  have hlower := quota_le_allotment pool claims ranking other weight
  omega

/-- Who cannot come after a winner in the ranking wins too. -/
theorem mem_winners_of_before {before : κ × ℕ → κ × ℕ → Prop} (h : Ranks pool claims ranking)
    (hsorted : ranking.Pairwise before) (hkeys : (claims.map (·.1)).Nodup) {a b : κ × ℕ}
    (ha : a ∈ claims) (hb : b ∈ claims)
    (hbefore : ¬ before (a.1, quotaRemainder pool claims a.2) (b.1, quotaRemainder pool claims b.2))
    (hwins : a.1 ∈ winners pool claims ranking) : b.1 ∈ winners pool claims ranking := by
  have hranked := h.keys_nodup hkeys
  have hmem : ∀ c ∈ claims, (c.1, quotaRemainder pool claims c.2) ∈ ranking :=
    fun c hc => h.perm.mem_iff.mpr (List.mem_map_of_mem hc)
  obtain ⟨entry, hentry, hkey⟩ := List.mem_map.mp hwins
  -- the winner's entry is the one of its own remainder
  have hentry_eq : entry = (a.1, quotaRemainder pool claims a.2) :=
    List.inj_on_of_nodup_map hranked (List.mem_of_mem_take hentry) (hmem a ha) hkey
  by_contra hloses
  have hlater : (b.1, quotaRemainder pool claims b.2) ∈ ranking.drop (dust pool claims) := by
    have hin := hmem b hb
    rw [← List.take_append_drop (dust pool claims) ranking, List.mem_append] at hin
    rcases hin with hin | hin
    · exact absurd (List.mem_map_of_mem hin) hloses
    · exact hin
  rw [← List.take_append_drop (dust pool claims) ranking, List.pairwise_append] at hsorted
  have hranks := hsorted.2.2 entry hentry _ hlater
  rw [hentry_eq] at hranks
  exact hbefore hranks

/-- A claimant whose remainder is larger than a winner's wins too. -/
theorem mem_winners_of_lt (h : Ranks pool claims ranking) (hkeys : (claims.map (·.1)).Nodup)
    {a b : κ × ℕ} (ha : a ∈ claims) (hb : b ∈ claims)
    (hlt : quotaRemainder pool claims a.2 < quotaRemainder pool claims b.2)
    (hwins : a.1 ∈ winners pool claims ranking) : b.1 ∈ winners pool claims ranking :=
  mem_winners_of_before h h.sorted hkeys ha hb (not_le.mpr hlt) hwins

omit [DecidableEq κ] in
/-- There is no more dust than there are shares that were rounded. -/
theorem dust_le_rounded (hweight : 0 < totalWeight claims) :
    dust pool claims ≤
      (claims.filter fun claim => 0 < quotaRemainder pool claims claim.2).length := by
  have hsum : ∀ claims' : List (κ × ℕ),
      (claims'.map fun claim => quotaRemainder pool claims claim.2).sum ≤
        (claims'.filter fun claim => 0 < quotaRemainder pool claims claim.2).length *
          totalWeight claims := by
    intro claims'
    induction claims' with
    | nil => exact Nat.zero_le _
    | cons claim claims' ih =>
        have hlt : quotaRemainder pool claims claim.2 < totalWeight claims := Nat.mod_lt _ hweight
        rw [List.map_cons, List.sum_cons]
        by_cases hrounded : 0 < quotaRemainder pool claims claim.2
        · rw [List.filter_cons_of_pos (by simpa using hrounded), List.length_cons, Nat.add_mul,
            Nat.one_mul]
          omega
        · rw [List.filter_cons_of_neg (by simpa using hrounded)]
          omega
  have hall := hsum claims
  rw [sum_quotaRemainder_eq] at hall
  exact Nat.le_of_mul_le_mul_right hall hweight

/-- Nobody gets a unit whose share was not rounded. -/
theorem quotaRemainder_pos_of_winner (h : Ranks pool claims ranking)
    (hkeys : (claims.map (·.1)).Nodup) (hweight : 0 < totalWeight claims) {a : κ × ℕ}
    (ha : a ∈ claims) (hwins : a.1 ∈ winners pool claims ranking) :
    0 < quotaRemainder pool claims a.2 := by
  by_contra hnone
  have hzero : quotaRemainder pool claims a.2 = 0 := Nat.eq_zero_of_not_pos hnone
  -- then all the rounded claimants win before it, and there are not that many winners
  let rounded := claims.filter fun claim => 0 < quotaRemainder pool claims claim.2
  have hdistinct : (a.1 :: rounded.map (·.1)).Nodup := by
    refine List.nodup_cons.mpr ⟨?_, hkeys.sublist (List.filter_sublist.map _)⟩
    intro hmem
    obtain ⟨b, hb, hkey⟩ := List.mem_map.mp hmem
    obtain ⟨hclaim, hpositive⟩ := List.mem_filter.mp hb
    have hsame : b = a := List.inj_on_of_nodup_map hkeys hclaim ha hkey
    rw [hsame, hzero] at hpositive
    exact absurd hpositive (by simp)
  have hwinners : a.1 :: rounded.map (·.1) ⊆ winners pool claims ranking := by
    refine List.cons_subset.mpr ⟨hwins, ?_⟩
    intro key hkey
    obtain ⟨b, hb, rfl⟩ := List.mem_map.mp hkey
    obtain ⟨hclaim, hpositive⟩ := List.mem_filter.mp hb
    refine mem_winners_of_lt h hkeys ha hclaim ?_ hwins
    rw [hzero]
    exact of_decide_eq_true hpositive
  have hlength := (hdistinct.subperm hwinners).length_le
  rw [List.length_cons, List.length_map, winners_length h hweight] at hlength
  have hdust : dust pool claims ≤ rounded.length := dust_le_rounded hweight
  omega

/-- A heavier claimant is allotted no less. -/
theorem allotment_mono (h : Ranks pool claims ranking) (hkeys : (claims.map (·.1)).Nodup)
    {a b : κ × ℕ} (ha : a ∈ claims) (hb : b ∈ claims) (hlt : a.2 < b.2) :
    allotment pool claims ranking a.1 a.2 ≤ allotment pool claims ranking b.1 b.2 := by
  have hquota : quota pool claims a.2 ≤ quota pool claims b.2 :=
    Nat.div_le_div_right (Nat.mul_le_mul_left pool hlt.le)
  by_cases hsame : quota pool claims a.2 = quota pool claims b.2
  · by_cases hwins : a.1 ∈ winners pool claims ranking
    · have hpool : 0 < pool := by
        by_contra hzero
        have hdust : dust pool claims = 0 := by
          unfold dust
          omega
        rw [winners, hdust] at hwins
        simp at hwins
      -- equal quotients leave the heavier claimant the larger remainder
      have hrem : quotaRemainder pool claims a.2 < quotaRemainder pool claims b.2 := by
        have hprod : pool * a.2 < pool * b.2 := Nat.mul_lt_mul_of_pos_left hlt hpool
        have hdiva := Nat.div_add_mod (pool * a.2) (totalWeight claims)
        have hdivb := Nat.div_add_mod (pool * b.2) (totalWeight claims)
        unfold quota at hsame
        rw [← hsame] at hdivb
        unfold quotaRemainder
        omega
      have hwins' := mem_winners_of_lt h hkeys ha hb hrem hwins
      rw [allotment, allotment, if_pos hwins, if_pos hwins', hsame]
    · rw [allotment, if_neg hwins]
      exact hquota.trans (quota_le_allotment pool claims ranking b.1 b.2)
  · have hupper := allotment_le pool claims ranking a.1 a.2
    have hlower := quota_le_allotment pool claims ranking b.1 b.2
    omega

end Apportionment

end PoleProtocol.Framework
