import PoleProtocol.Framework.OrderedMap
import PoleProtocol.Framework.Word

/-!
# Counting by name

A list is counted into a map, one counter of 64 bits for each name in it. The counters together
come to the length of the list.
-/

namespace PoleProtocol.Framework

variable {K : Type} [Ord K] [Std.TransOrd K] [Std.LawfulEqOrd K] [DecidableEq K]

def tally (names : List K) : OrderedMap K ℕ :=
  names.foldl (fun counts name => counts.insert name (wrap64 (counts[name]?.getD 0 + 1))) ∅

theorem wrap64_succ_wrap64 (n : ℕ) : wrap64 (wrap64 n + 1) = wrap64 (n + 1) := by
  simp [wrap64]

/-- A name's counter holds its occurrences, a name that does not occur has none. -/
theorem get_tally (names : List K) (name : K) :
    (tally names)[name]? = if name ∈ names then some (wrap64 (names.count name)) else none := by
  induction names using List.reverseRecOn with
  | nil => simp [tally]
  | append_singleton names last ih =>
      have hstep : tally (names ++ [last]) =
          (tally names).insert last (wrap64 ((tally names)[last]?.getD 0 + 1)) := by
        simp [tally]
      rw [hstep, OrderedMap.get_insert]
      by_cases heq : last = name
      · subst heq
        rw [if_pos rfl, if_pos (by simp), ih, List.count_append, List.count_singleton_self]
        split
        · rw [Option.getD_some, wrap64_succ_wrap64]
        · next hnew => rw [Option.getD_none, List.count_eq_zero_of_not_mem hnew]
      · have hcount : (names ++ [last]).count name = names.count name := by
          simp [List.count_append, heq]
        have hmem : name ∈ names ++ [last] ↔ name ∈ names := by
          simp [Ne.symm heq]
        rw [if_neg heq, ih, hcount]
        simp only [hmem]

theorem tally_le_count {names : List K} {name : K} {count : ℕ}
    (h : (tally names)[name]? = some count) : count ≤ names.count name := by
  rw [get_tally] at h
  split at h
  · cases h
    exact wrap64_le _
  · cases h

/-- The counters add up to what the distinct names occur. -/
theorem sum_tally (names : List K) :
    ((tally names).toList.map (·.2)).sum =
      (names.dedup.map fun name => wrap64 (names.count name)).sum := by
  have hperm : ((tally names).toList.map (·.1)).Perm names.dedup := by
    refine (List.perm_ext_iff_of_nodup (OrderedMap.nodup_keys _) names.nodup_dedup).mpr ?_
    intro name
    simp only [List.mem_map, Prod.exists, exists_and_right, exists_eq_right, OrderedMap.mem_toList,
      get_tally, List.mem_dedup]
    by_cases hmem : name ∈ names <;> simp [hmem]
  have hcounts : (tally names).toList.map (·.2) =
      ((tally names).toList.map (·.1)).map fun name => wrap64 (names.count name) := by
    rw [List.map_map]
    refine List.map_congr_left ?_
    rintro ⟨name, count⟩ hentry
    have hget := OrderedMap.mem_toList.mp hentry
    rw [get_tally] at hget
    split at hget
    · exact (Option.some.inj hget).symm
    · cases hget
  rw [hcounts]
  exact (hperm.map _).sum_eq

theorem sum_tally_le (names : List K) :
    ((tally names).toList.map (·.2)).sum ≤ names.length := by
  rw [sum_tally, ← List.sum_map_count_dedup_eq_length names]
  exact List.sum_le_sum fun name _ => wrap64_le _

/-- As 64-bit words the counters come to the length of the list. -/
theorem sum_tally_modEq (names : List K) :
    ((tally names).toList.map (·.2)).sum ≡ names.length [MOD 2 ^ 64] := by
  have hwords : ∀ counts : List ℕ, (counts.map wrap64).sum ≡ counts.sum [MOD 2 ^ 64] := by
    intro counts
    induction counts with
    | nil => rfl
    | cons count counts ih => exact (Nat.mod_modEq count _).add ih
  have hlength := List.sum_map_count_dedup_eq_length names
  have hsum := hwords (names.dedup.map fun name => names.count name)
  rw [List.map_map, hlength] at hsum
  rw [sum_tally]
  exact hsum

/-- They come to it when no counter overflows. -/
theorem sum_tally_of_lt {names : List K} (h : ∀ name, names.count name < 2 ^ 64) :
    ((tally names).toList.map (·.2)).sum = names.length := by
  have hexact : (fun name => wrap64 (names.count name)) = fun name => names.count name := by
    funext name
    exact wrap64_of_lt (h name)
  rw [sum_tally, hexact, List.sum_map_count_dedup_eq_length]

end PoleProtocol.Framework
