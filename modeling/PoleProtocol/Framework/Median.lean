import Mathlib

/-!
# Middles of a list

The elements in the middle of a sorted list lie in the range of any part of the list that has more
than half of the elements.
-/

namespace PoleProtocol.Framework

section Sorted

variable {α : Type*} [LinearOrder α]

/-- The element that has `k` elements before it in the sorted list. -/
def ranked (values : List α) (k : ℕ) (h : k < values.length) : α :=
  (values.insertionSort (· ≤ ·)).get ⟨k, by rwa [List.length_insertionSort]⟩

variable {values kept : List α} {k : ℕ}

theorem ranked_mono {j : ℕ} (hjk : j ≤ k) (h : k < values.length) :
    ranked values j (lt_of_le_of_lt hjk h) ≤ ranked values k h := by
  rcases Nat.eq_or_lt_of_le hjk with rfl | hlt
  · exact le_rfl
  · have hsorted := List.pairwise_insertionSort (· ≤ ·) values
    exact List.pairwise_iff_get.mp hsorted ⟨j, _⟩ ⟨k, _⟩ hlt

/-- An element and the ones before it are not above it. -/
theorem lt_countP_le_ranked (h : k < values.length) :
    k < values.countP (· ≤ ranked values k h) := by
  have hsorted : k < (values.insertionSort (· ≤ ·)).length := by
    rwa [List.length_insertionSort]
  have hfirst : ((values.insertionSort (· ≤ ·)).take (k + 1)).countP (· ≤ ranked values k h) =
      k + 1 := by
    rw [List.countP_eq_length.mpr, List.length_take, min_eq_left hsorted]
    intro v hv
    obtain ⟨j, hj, rfl⟩ := List.mem_take_iff_getElem.mp hv
    have hjk : j ≤ k := by omega
    exact decide_eq_true (ranked_mono hjk h)
  have hle := (List.take_sublist (k + 1) (values.insertionSort (· ≤ ·))).countP_le
    (p := (· ≤ ranked values k h))
  rw [hfirst, (List.perm_insertionSort _ values).countP_eq] at hle
  omega

/-- An element and the ones after it are not below it. -/
theorem le_countP_ranked_le (h : k < values.length) :
    values.length - k ≤ values.countP (ranked values k h ≤ ·) := by
  have hlast : ((values.insertionSort (· ≤ ·)).drop k).countP (ranked values k h ≤ ·) =
      values.length - k := by
    rw [List.countP_eq_length.mpr, List.length_drop, List.length_insertionSort]
    intro v hv
    obtain ⟨j, hj, rfl⟩ := List.mem_drop_iff_getElem.mp hv
    rw [List.length_insertionSort] at hj
    have hlt : k + j < values.length := by omega
    exact decide_eq_true (ranked_mono (by omega) hlt)
  have hle := (List.drop_sublist k (values.insertionSort (· ≤ ·))).countP_le
    (p := (ranked values k h ≤ ·))
  rwa [hlast, (List.perm_insertionSort _ values).countP_eq] at hle

/-- Some element of a part is not above, when fewer are left out than stand up to the rank. -/
theorem exists_le_ranked (hsub : kept.Sublist values) (h : k < values.length)
    (hfew : values.length - kept.length ≤ k) : ∃ v ∈ kept, v ≤ ranked values k h := by
  have hcount := lt_countP_le_ranked h
  have hkept := hsub.le_countP (p := (· ≤ ranked values k h))
  have hpos : 0 < kept.countP (· ≤ ranked values k h) := by omega
  obtain ⟨v, hv, hle⟩ := List.countP_pos_iff.mp hpos
  exact ⟨v, hv, of_decide_eq_true hle⟩

/-- Some element of a part is not below, when fewer are left out than stand from the rank on. -/
theorem exists_ranked_le (hsub : kept.Sublist values) (h : k < values.length)
    (hfew : k < kept.length) : ∃ v ∈ kept, ranked values k h ≤ v := by
  have hcount := le_countP_ranked_le h
  have hkept := hsub.le_countP (p := (ranked values k h ≤ ·))
  have hlength := hsub.length_le
  have hpos : 0 < kept.countP (ranked values k h ≤ ·) := by omega
  obtain ⟨v, hv, hle⟩ := List.countP_pos_iff.mp hpos
  exact ⟨v, hv, of_decide_eq_true hle⟩

end Sorted

end PoleProtocol.Framework
