import PoleProtocol.Framework.KeySet

/-!
# Values by key

The values of a list are collected under their keys, either all of them or the one of the least
rank, and of several with the least rank the first. What is kept does not depend on the order of the
values, as far as key and rank tell them apart.
-/

namespace PoleProtocol.Framework

section Grouping

variable {K V W X : Type} [Ord K] [Std.TransOrd K]

/-- What is read off the values of each key, in their order. -/
def groupByKey (key : V → K) (read : V → W) (values : List V) : OrderedMap K (List W) :=
  values.foldl (fun groups v => groups.insert (key v) (groups[key v]?.getD [] ++ [read v])) ∅

theorem groupByKey_concat (key : V → K) (read : V → W) (values : List V) (v : V) :
    groupByKey key read (values ++ [v]) = (groupByKey key read values).insert (key v)
      ((groupByKey key read values)[key v]?.getD [] ++ [read v]) :=
  List.foldl_append

variable [Std.LawfulEqOrd K] [DecidableEq K]

/-- A key has a group when it has a value, and the group has all of them. -/
theorem get_groupByKey (key : V → K) (read : V → W) (values : List V) (k : K) :
    (groupByKey key read values)[k]? =
      if values.filter (key · = k) = [] then none
      else some ((values.filter (key · = k)).map read) := by
  induction values using List.reverseRecOn with
  | nil => simp [groupByKey]
  | append_singleton values v ih =>
      rw [groupByKey_concat, OrderedMap.get_insert]
      by_cases hkey : key v = k
      · have hgroup : (groupByKey key read values)[k]?.getD [] =
            (values.filter (key · = k)).map read := by
          rw [ih]
          split
          · next hempty => simp [hempty]
          · rfl
        rw [if_pos hkey, hkey, hgroup]
        simp [hkey]
      · rw [if_neg hkey, ih]
        simp [hkey]

/-- What does not depend on the order of a group can be read off the values in any order. -/
theorem groupByKey_map_perm (key : V → K) (read : V → W) (f : K → List W → X)
    (hf : ∀ k group group', group.Perm group' → f k group = f k group') {values values' : List V}
    (hperm : values.Perm values') :
    (groupByKey key read values).map f = (groupByKey key read values').map f := by
  apply Std.ExtTreeMap.ext_getElem?
  intro k
  have hgroup : (values.filter (key · = k)).Perm (values'.filter (key · = k)) := hperm.filter _
  rw [Std.ExtTreeMap.getElem?_map, Std.ExtTreeMap.getElem?_map, get_groupByKey, get_groupByKey]
  by_cases hempty : values.filter (key · = k) = []
  · rw [hempty] at hgroup
    rw [if_pos hempty, if_pos hgroup.symm.eq_nil]
  · have hnonempty : values'.filter (key · = k) ≠ [] := by
      intro hnone
      rw [hnone] at hgroup
      exact hempty hgroup.eq_nil
    rw [if_neg hempty, if_neg hnonempty]
    exact congrArg some (hf k _ _ (hgroup.map read))

end Grouping

section Selection

variable {K R V W : Type} [Ord R]

/-- The value that stays when `v` comes after what is held. -/
def lesserOf (rank : V → R) (held : Option V) (v : V) : V :=
  match held with
  | some old => if compare (rank v) (rank old) = .lt then v else old
  | none => v

theorem lesserOf_some (rank : V → R) (old v : V) :
    lesserOf rank (some old) v = if compare (rank v) (rank old) = .lt then v else old := rfl

theorem lesserOf_cases (rank : V → R) (held : Option V) (v : V) :
    lesserOf rank held v = v ∨ held = some (lesserOf rank held v) := by
  cases held with
  | none => exact .inl rfl
  | some old =>
      rw [lesserOf_some]
      split
      · exact .inl rfl
      · exact .inr rfl

theorem lesserOf_map {rank : V → R} {rank' : W → R} {f : V → W} (hrank : ∀ v, rank' (f v) = rank v)
    (held : Option V) (v : V) : lesserOf rank' (held.map f) (f v) = f (lesserOf rank held v) := by
  cases held with
  | none => rfl
  | some old =>
      rw [Option.map_some, lesserOf_some, lesserOf_some, hrank, hrank]
      split <;> rfl

/-- Two values may come in either order. -/
theorem lesserOf_comm [Std.TransOrd R] [Std.LawfulEqOrd R] {rank : V → R} {v w : V}
    (hapart : rank v = rank w → v = w) (held : Option V) :
    lesserOf rank (some (lesserOf rank held v)) w =
      lesserOf rank (some (lesserOf rank held w)) v := by
  have hpair : lesserOf rank (some v) w = lesserOf rank (some w) v := by
    rw [lesserOf_some, lesserOf_some]
    have hswap : compare (rank w) (rank v) = (compare (rank v) (rank w)).swap :=
      Std.OrientedCmp.eq_swap
    cases hcmp : compare (rank v) (rank w) with
    | lt => simp [hswap, hcmp]
    | eq => simp [hapart (Std.compare_eq_iff_eq.mp hcmp)]
    | gt => simp [hswap, hcmp]
  cases held with
  | none => exact hpair
  | some old =>
      rw [lesserOf_some rank old v, lesserOf_some rank old w]
      by_cases hv : compare (rank v) (rank old) = .lt
      · by_cases hw : compare (rank w) (rank old) = .lt
        · rw [if_pos hv, if_pos hw]
          exact hpair
        · have hstays : ¬ compare (rank w) (rank v) = .lt :=
            fun hlt => hw (Std.TransCmp.lt_trans hlt hv)
          rw [if_pos hv, if_neg hw, lesserOf_some, lesserOf_some, if_neg hstays, if_pos hv]
      · by_cases hw : compare (rank w) (rank old) = .lt
        · have hstays : ¬ compare (rank v) (rank w) = .lt :=
            fun hlt => hv (Std.TransCmp.lt_trans hlt hw)
          rw [if_neg hv, if_pos hw, lesserOf_some, lesserOf_some, if_neg hstays, if_pos hw]
        · rw [if_neg hv, if_neg hw, lesserOf_some, lesserOf_some, if_neg hv, if_neg hw]

variable [Ord K] [Std.TransOrd K]

/-- Keep the first value of a key until one of a lower rank comes. -/
def keepLeast (key : V → K) (rank : V → R) (kept : OrderedMap K V) (v : V) :
    OrderedMap K V :=
  match kept[key v]? with
  | some old => if compare (rank v) (rank old) = .lt then kept.insert (key v) v else kept
  | none => kept.insert (key v) v

variable [Std.LawfulEqOrd K] [DecidableEq K]

theorem get_keepLeast (key : V → K) (rank : V → R) (kept : OrderedMap K V) (v : V) (k : K) :
    (keepLeast key rank kept v)[k]? =
      if key v = k then some (lesserOf rank kept[key v]? v) else kept[k]? := by
  unfold keepLeast
  cases hheld : kept[key v]? with
  | none => exact OrderedMap.get_insert kept (key v) k v
  | some old =>
      rw [lesserOf_some]
      by_cases hlt : compare (rank v) (rank old) = .lt
      · simp only [if_pos hlt, OrderedMap.get_insert]
      · simp only [if_neg hlt]
        by_cases hk : key v = k
        · rw [if_pos hk, ← hk, hheld]
        · rw [if_neg hk]

/-- Selecting among the images by the same keys and ranks. -/
theorem keepLeast_map {key : V → K} {rank : V → R} {key' : W → K} {rank' : W → R} {f : V → W}
    (hkey : ∀ v, key' (f v) = key v) (hrank : ∀ v, rank' (f v) = rank v) (kept : OrderedMap K V)
    (v : V) :
    (keepLeast key rank kept v).map (fun _ => f) =
      keepLeast key' rank' (kept.map fun _ => f) (f v) := by
  apply Std.ExtTreeMap.ext_getElem?
  intro k
  rw [Std.ExtTreeMap.getElem?_map, get_keepLeast, get_keepLeast, hkey, Std.ExtTreeMap.getElem?_map,
    Std.ExtTreeMap.getElem?_map]
  by_cases hk : key v = k
  · rw [if_pos hk, if_pos hk, Option.map_some, lesserOf_map hrank]
  · rw [if_neg hk, if_neg hk]

theorem keepLeast_comm [Std.TransOrd R] [Std.LawfulEqOrd R] {key : V → K} {rank : V → R} {v w : V}
    (hapart : key v = key w → rank v = rank w → v = w) (kept : OrderedMap K V) :
    keepLeast key rank (keepLeast key rank kept v) w =
      keepLeast key rank (keepLeast key rank kept w) v := by
  apply Std.ExtTreeMap.ext_getElem?
  intro k
  simp only [get_keepLeast]
  by_cases hvw : key v = key w
  · simp only [hvw, if_true]
    rw [lesserOf_comm (hapart hvw)]
    split <;> rfl
  · simp only [if_neg hvw, if_neg (Ne.symm hvw)]
    by_cases hv : key v = k
    · have hw : key w ≠ k := fun hw => hvw (hv.trans hw.symm)
      rw [if_pos hv, if_neg hw, if_pos hv]
    · rw [if_neg hv, if_neg hv]

/-- Each key that has a value keeps one. -/
theorem keySet_foldl_keepLeast (key : V → K) (rank : V → R) (values : List V) :
    OrderedMap.keySet (values.foldl (keepLeast key rank) ∅) = (values.map key).toFinset := by
  induction values using List.reverseRecOn with
  | nil => simp
  | append_singleton values v ih =>
      ext k
      rw [List.foldl_append, List.foldl_cons, List.foldl_nil, OrderedMap.mem_keySet, get_keepLeast,
        List.map_append, List.toFinset_append, Finset.mem_union, ← ih, OrderedMap.mem_keySet]
      by_cases hkey : key v = k
      · simp [hkey]
      · simp [hkey, Ne.symm hkey]

theorem keyedBy_foldl_keepLeast (key : V → K) (rank : V → R) (values : List V) :
    OrderedMap.KeyedBy key (values.foldl (keepLeast key rank) ∅) := by
  induction values using List.reverseRecOn with
  | nil => exact OrderedMap.keyedBy_empty key
  | append_singleton values v ih =>
      intro k held hheld
      rw [List.foldl_append, List.foldl_cons, List.foldl_nil, get_keepLeast] at hheld
      split at hheld
      · next hkey =>
          rw [← Option.some.inj hheld]
          rcases lesserOf_cases rank (values.foldl (keepLeast key rank) ∅)[key v]? v with hnew | hold
          · rw [hnew, hkey]
          · exact (ih _ _ hold).trans hkey
      · exact ih k held hheld

/-- What is kept for a key depends on the values of the key only. -/
theorem get_foldl_keepLeast_filter (key : V → K) (rank : V → R) {p : K → Bool} {k : K}
    (hk : p k = true) (values : List V) :
    ((values.filter (p ∘ key)).foldl (keepLeast key rank) ∅)[k]? =
      (values.foldl (keepLeast key rank) ∅)[k]? := by
  induction values using List.reverseRecOn with
  | nil => rfl
  | append_singleton values v ih =>
      rw [List.filter_append, List.foldl_append, List.foldl_append, List.foldl_cons,
        List.foldl_nil, get_keepLeast]
      by_cases hkey : key v = k
      · have hv : [v].filter (p ∘ key) = [v] := by simp [hkey, hk]
        rw [hv, List.foldl_cons, List.foldl_nil, get_keepLeast, if_pos hkey, if_pos hkey, hkey, ih]
      · rw [if_neg hkey, ← ih]
        by_cases hv : (p ∘ key) v = true
        · rw [List.filter_cons_of_pos hv, List.filter_nil, List.foldl_cons, List.foldl_nil,
            get_keepLeast, if_neg hkey]
        · rw [List.filter_cons_of_neg hv, List.filter_nil, List.foldl_nil]

/-- Values that agree on some keys leave the same values for these keys. -/
theorem filter_records_keepLeast (key : V → K) (rank : V → R) (p : K → Bool)
    {values values' : List V}
    (h : values.filter (p ∘ key) = values'.filter (p ∘ key)) :
    (OrderedMap.records (values.foldl (keepLeast key rank) ∅)).filter (p ∘ key) =
      (OrderedMap.records (values'.foldl (keepLeast key rank) ∅)).filter (p ∘ key) := by
  have hsame : ∀ k, p k = true → (values.foldl (keepLeast key rank) ∅)[k]? =
      (values'.foldl (keepLeast key rank) ∅)[k]? := by
    intro k hk
    rw [← get_foldl_keepLeast_filter key rank hk values, h,
      get_foldl_keepLeast_filter key rank hk values']
  refine OrderedMap.filter_records_congr (p ∘ key) ?_
  intro k v hv
  constructor
  · intro hget
    have hkey := keyedBy_foldl_keepLeast key rank values k v hget
    rwa [← hsame k (hkey ▸ hv)]
  · intro hget
    have hkey := keyedBy_foldl_keepLeast key rank values' k v hget
    rwa [hsame k (hkey ▸ hv)]

/-- What tells the values apart by key and rank is kept in the same way from every order. -/
theorem foldl_keepLeast_perm [Std.TransOrd R] [Std.LawfulEqOrd R] (key : V → K) (rank : V → R)
    (key' : W → K) (rank' : W → R) (f : V → W) (hkey : ∀ v, key' (f v) = key v)
    (hrank : ∀ v, rank' (f v) = rank v)
    (hapart : ∀ a b : W, key' a = key' b → rank' a = rank' b → a = b) {values values' : List V}
    (hperm : values.Perm values') :
    (values.foldl (keepLeast key rank) ∅).map (fun _ => f) =
      (values'.foldl (keepLeast key rank) ∅).map (fun _ => f) := by
  have himages : ∀ values : List V, (values.foldl (keepLeast key rank) ∅).map (fun _ => f) =
      (values.map f).foldl (keepLeast key' rank') ((∅ : OrderedMap K V).map fun _ => f) := by
    intro values
    rw [List.foldl_map]
    exact (List.foldl_hom (fun kept : OrderedMap K V => kept.map fun _ => f)
      (fun kept v => (keepLeast_map hkey hrank kept v).symm)).symm
  rw [himages, himages]
  refine (hperm.map f).foldl_eq' ?_ _
  intro a _ b _ kept
  exact keepLeast_comm (hapart a b) kept

end Selection

end PoleProtocol.Framework
