import PoleProtocol.Framework.OrderedMap

/-!
# Ordered maps as queues

Values are stored under keys that come after all stored ones and are taken from the least key, so
that the listing of the map is the queue.
-/

namespace PoleProtocol.Framework.OrderedMap

variable {K V : Type*} [Ord K] [Std.TransOrd K] [Std.LawfulEqOrd K] [DecidableEq K]

/-- The key comes after all stored ones. -/
def Last (m : OrderedMap K V) (k : K) : Prop := ∀ a ∈ m.keys, compare a k = .lt

instance (m : OrderedMap K V) (k : K) : Decidable (Last m k) :=
  inferInstanceAs (Decidable (∀ a ∈ m.keys, compare a k = .lt))

omit [Std.LawfulEqOrd K] [DecidableEq K] in
/-- A listing in key order is the listing of the map. -/
theorem toList_eq_of_perm {m : OrderedMap K V} {entries : List (K × V)}
    (hperm : m.toList.Perm entries)
    (hordered : entries.Pairwise fun x y => compare x.1 y.1 = .lt) : m.toList = entries := by
  refine hperm.eq_of_pairwise ?_ Std.ExtTreeMap.ordered_keys_toList hordered
  intro x y _ _ hxy hyx
  have hswap : compare x.1 y.1 = (compare y.1 x.1).swap := Std.OrientedCmp.eq_swap
  rw [hxy, hyx] at hswap
  cases hswap

omit [DecidableEq K] in
theorem mem_keys_iff {m : OrderedMap K V} {k : K} : k ∈ m.keys ↔ ∃ v, m[k]? = some v := by
  rw [Std.ExtTreeMap.mem_keys, Std.ExtTreeMap.mem_iff_isSome_getElem?, Option.isSome_iff_exists]

omit [Std.LawfulEqOrd K] [DecidableEq K] in
theorem keys_eq_map (m : OrderedMap K V) : m.keys = m.toList.map (·.1) :=
  Std.ExtTreeMap.map_fst_toList_eq_keys.symm

theorem toList_insert_last {m : OrderedMap K V} {k : K} (h : Last m k) (v : V) :
    (m.insert k v).toList = m.toList ++ [(k, v)] := by
  have hnone : m[k]? = none := by
    cases hget : m[k]? with
    | none => rfl
    | some w =>
        have hlt := h k (mem_keys_iff.mpr ⟨w, hget⟩)
        rw [Std.ReflOrd.compare_self] at hlt
        cases hlt
  apply toList_eq_of_perm
  · have hperm := toList_insert_perm m k v
    rw [erase_of_none hnone] at hperm
    exact hperm.trans (List.perm_append_singleton _ _).symm
  · rw [List.pairwise_append]
    refine ⟨Std.ExtTreeMap.ordered_keys_toList, List.pairwise_singleton _ _, ?_⟩
    rintro ⟨a, w⟩ hmem y hy
    rw [List.mem_singleton.mp hy]
    exact h a (mem_keys_iff.mpr ⟨w, mem_toList.mp hmem⟩)

theorem keys_insert_last {m : OrderedMap K V} {k : K} (h : Last m k) (v : V) :
    (m.insert k v).keys = m.keys ++ [k] := by
  rw [keys_eq_map, keys_eq_map, toList_insert_last h, List.map_append]
  rfl

/-- A new value is listed last exactly when its key comes after all others. -/
theorem records_insert_eq_concat_iff {m : OrderedMap K V} {v : V} (hnew : v ∉ m.records) (k : K) :
    records (m.insert k v) = m.records ++ [v] ↔ Last m k := by
  constructor
  · intro heq
    have hlist : (m.insert k v).toList.map (·.2) = m.records ++ [v] := heq
    obtain ⟨front, last, hsplit, hfront, hlast⟩ := List.map_eq_append_iff.mp hlist
    obtain ⟨⟨a, w⟩, rfl, rfl⟩ := List.map_eq_singleton_iff.mp hlast
    have hlength : front.length = m.toList.length := by
      have := congrArg List.length hfront
      simpa [records] using this
    have hordered := Std.ExtTreeMap.ordered_keys_toList (t := m.insert k w)
    rw [hsplit, List.pairwise_append] at hordered
    have hget : (m.insert k w)[a]? = some w := by
      rw [← mem_toList, hsplit]
      exact List.mem_append_right _ (List.mem_singleton.mpr rfl)
    -- the last entry is the written one, since the value was nowhere before
    have hkey : a = k := by
      rcases get_insert_cases hget with ⟨ha, _⟩ | ⟨_, hold⟩
      · exact ha
      · exact absurd (mem_records.mpr ⟨a, hold⟩) hnew
    subst hkey
    intro b hb
    obtain ⟨u, hu⟩ := mem_keys_iff.mp hb
    have hne : b ≠ a := by
      rintro rfl
      -- overwriting a key does not make the listing longer
      have h₁ := (toList_insert_perm m b w).length_eq
      have h₂ := (toList_perm_of_get hu).length_eq
      rw [hsplit, List.length_append, hlength] at h₁
      simp only [List.length_cons, List.length_nil] at h₁ h₂
      omega
    have hstored : (b, u) ∈ front ++ [(a, w)] := by
      rw [← hsplit, mem_toList, get_insert_ne _ _ (Ne.symm hne)]
      exact hu
    rcases List.mem_append.mp hstored with hin | hin
    · exact hordered.2.2 _ hin _ (List.mem_singleton.mpr rfl)
    · exact absurd (congrArg Prod.fst (List.mem_singleton.mp hin)) hne
  · intro hlast
    rw [records, toList_insert_last hlast, List.map_append]
    rfl

/-- Erasing the least key takes the first entry off the listing. -/
theorem toList_erase_head {m : OrderedMap K V} {k : K} {v : V} {entries : List (K × V)}
    (h : m.toList = (k, v) :: entries) : (m.erase k).toList = entries := by
  have hget : m[k]? = some v := by
    rw [← mem_toList, h]
    exact List.mem_cons_self ..
  have hordered := Std.ExtTreeMap.ordered_keys_toList (t := m)
  rw [h] at hordered
  apply toList_eq_of_perm
  · have hperm := toList_perm_of_get hget
    rw [h] at hperm
    exact ((List.perm_cons _).mp hperm).symm
  · exact (List.pairwise_cons.mp hordered).2

end PoleProtocol.Framework.OrderedMap
