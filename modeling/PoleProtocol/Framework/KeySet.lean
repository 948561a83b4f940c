import PoleProtocol.Framework.OrderedMap

/-!
# The keys of an ordered map

The keys as a finite set: what writes, erasures and filters do to it, and how its size and the
size of the map agree. A part of a bounded table stays bounded when a key outside that part, or
below the bound of the whole table, is written.
-/

namespace PoleProtocol.Framework.OrderedMap

variable {K V : Type*} [Ord K] [Std.TransOrd K] [Std.LawfulEqOrd K] [DecidableEq K]

/-- The keys that hold a value. -/
def keySet (m : OrderedMap K V) : Finset K := m.keys.toFinset

theorem mem_keySet {m : OrderedMap K V} {k : K} : k ∈ keySet m ↔ m[k]? ≠ none := by
  rw [keySet, List.mem_toFinset, Std.ExtTreeMap.mem_keys, Std.ExtTreeMap.mem_iff_isSome_getElem?,
    Option.isSome_iff_ne_none]

@[simp] theorem keySet_empty : keySet (∅ : OrderedMap K V) = ∅ := by
  ext k
  simp [mem_keySet]

theorem keySet_insert (m : OrderedMap K V) (k : K) (v : V) :
    keySet (m.insert k v) = insert k (keySet m) := by
  ext a
  rw [mem_keySet, Finset.mem_insert, mem_keySet, get_insert]
  by_cases h : k = a
  · simp [h]
  · simp [h, Ne.symm h]

/-- Updating keys, one after the other, adds them to the key set. -/
theorem keySet_foldl_update {α : Type*} (key : α → K) (f : α → Option V → V) (xs : List α)
    (m : OrderedMap K V) :
    keySet (xs.foldl (fun m x => m.insert (key x) (f x m[key x]?)) m) =
      keySet m ∪ (xs.map key).toFinset := by
  induction xs generalizing m with
  | nil => simp
  | cons x xs ih =>
      rw [List.foldl_cons, ih, keySet_insert, List.map_cons, List.toFinset_cons,
        Finset.insert_union, Finset.union_insert]

theorem keySet_erase (m : OrderedMap K V) (k : K) :
    keySet (m.erase k) = (keySet m).erase k := by
  ext a
  rw [mem_keySet, Finset.mem_erase, mem_keySet, get_erase]
  by_cases h : k = a
  · simp [h]
  · simp [h, Ne.symm h]

theorem keySet_filter_subset (p : K → V → Bool) (m : OrderedMap K V) :
    keySet (m.filter p) ⊆ keySet m := by
  intro a h
  rw [mem_keySet] at h ⊢
  intro hnone
  rw [Std.ExtTreeMap.getElem?_filter', hnone] at h
  exact h rfl

omit [Std.LawfulEqOrd K] in
theorem card_keySet (m : OrderedMap K V) : (keySet m).card = m.size := by
  rw [keySet, List.toFinset_card_of_nodup Std.ExtTreeMap.nodup_keys, Std.ExtTreeMap.length_keys]

/-- The keys outside `exempt` stay within a bound when the written key is exempt, present
already, or the whole table is below the bound. -/
theorem card_sdiff_insert_le {m : OrderedMap K V} {exempt : Finset K} {bound : ℕ} {k : K} (v : V)
    (hbound : (keySet m \ exempt).card ≤ bound)
    (hroom : k ∈ exempt ∨ m[k]? ≠ none ∨ m.size < bound) :
    (keySet (m.insert k v) \ exempt).card ≤ bound := by
  rw [keySet_insert]
  rcases hroom with hexempt | hpresent | hsize
  · rw [Finset.insert_sdiff_of_mem _ hexempt]
    exact hbound
  · rw [Finset.insert_eq_of_mem (mem_keySet.mpr hpresent)]
    exact hbound
  · have hgrow : (insert k (keySet m)).card ≤ m.size + 1 := by
      rw [← card_keySet]
      exact Finset.card_insert_le _ _
    have hpart : (insert k (keySet m) \ exempt).card ≤ (insert k (keySet m)).card :=
      Finset.card_le_card Finset.sdiff_subset
    omega

theorem card_sdiff_erase_le (m : OrderedMap K V) (exempt : Finset K) (k : K) :
    (keySet (m.erase k) \ exempt).card ≤ (keySet m \ exempt).card := by
  rw [keySet_erase]
  exact Finset.card_le_card (Finset.sdiff_subset_sdiff (Finset.erase_subset _ _) le_rfl)

theorem card_sdiff_filter_le (p : K → V → Bool) (m : OrderedMap K V) (exempt : Finset K) :
    (keySet (m.filter p) \ exempt).card ≤ (keySet m \ exempt).card :=
  Finset.card_le_card (Finset.sdiff_subset_sdiff (keySet_filter_subset p m) le_rfl)

end PoleProtocol.Framework.OrderedMap
