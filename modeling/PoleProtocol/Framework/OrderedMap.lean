import Mathlib

/-!
# Ordered maps

A finite map iterated in the order of its keys: the behaviour shared by a B-tree map and by a
prefix of a sorted key-value store. The carrier is the extensional tree map of the standard
library; this module adds lexicographic keys and sums over the stored entries.
-/

namespace PoleProtocol.Framework

section Keys

variable {α β : Type*} [Ord α] [Ord β]

/-- Composite keys are compared component by component. -/
instance pairOrd : Ord (α × β) := lexOrd

theorem compare_pair (x y : α × β) :
    compare x y = (compare x.1 y.1).then (compare x.2 y.2) := rfl

instance pairTransOrd [Std.TransOrd α] [Std.TransOrd β] : Std.TransOrd (α × β) :=
  inferInstanceAs (Std.TransCmp (compareLex (compareOn Prod.fst) (compareOn Prod.snd)))

instance pairLawfulEqOrd [Std.LawfulEqOrd α] [Std.LawfulEqOrd β] : Std.LawfulEqOrd (α × β) where
  compare_self := Std.ReflOrd.compare_self
  eq_of_compare := by
    intro x y h
    rw [compare_pair, Ordering.then_eq_eq] at h
    exact Prod.ext (Std.compare_eq_iff_eq.mp h.1) (Std.compare_eq_iff_eq.mp h.2)

end Keys

/-- A finite map whose entries are listed in increasing key order. -/
abbrev OrderedMap (K V : Type*) [Ord K] := Std.ExtTreeMap K V compare

namespace OrderedMap

variable {K V : Type*} [Ord K] [Std.TransOrd K] [Std.LawfulEqOrd K] [DecidableEq K]

theorem get_insert (m : OrderedMap K V) (k a : K) (v : V) :
    (m.insert k v)[a]? = if k = a then some v else m[a]? := by
  rw [Std.ExtTreeMap.getElem?_insert]
  simp only [Std.compare_eq_iff_eq]

@[simp] theorem get_insert_self (m : OrderedMap K V) (k : K) (v : V) :
    (m.insert k v)[k]? = some v := by
  rw [get_insert, if_pos rfl]

theorem get_insert_ne (m : OrderedMap K V) {k a : K} (v : V) (h : k ≠ a) :
    (m.insert k v)[a]? = m[a]? := by
  rw [get_insert, if_neg h]

/-- What is stored after a write is the new entry or an old one. -/
theorem get_insert_cases {m : OrderedMap K V} {k a : K} {v w : V}
    (h : (m.insert k v)[a]? = some w) : (a = k ∧ w = v) ∨ (a ≠ k ∧ m[a]? = some w) := by
  rw [get_insert] at h
  split at h
  · next heq => exact .inl ⟨heq.symm, (Option.some.inj h).symm⟩
  · next hne => exact .inr ⟨Ne.symm hne, h⟩

/-- What is stored after a write under its own key. -/
theorem get_insert_keyed (key : V → K) {m : OrderedMap K V} {v w : V} :
    (m.insert (key v) v)[key w]? = some w ↔ w = v ∨ (key w ≠ key v ∧ m[key w]? = some w) := by
  constructor
  · intro hstored
    rcases get_insert_cases hstored with ⟨_, hnew⟩ | hold
    · exact .inl hnew
    · exact .inr hold
  · intro hw
    rcases hw with rfl | ⟨hne, hstored⟩
    · exact get_insert_self _ _ _
    · exact (get_insert_ne _ _ (Ne.symm hne)).trans hstored

theorem get_erase (m : OrderedMap K V) (k a : K) :
    (m.erase k)[a]? = if k = a then none else m[a]? := by
  rw [Std.ExtTreeMap.getElem?_erase]
  simp only [Std.compare_eq_iff_eq]

theorem insert_ne_none {m : OrderedMap K V} (a : K) (v : V) {k : K} (h : m[k]? ≠ none) :
    (m.insert a v)[k]? ≠ none := by
  rw [get_insert]
  split
  · simp
  · exact h

theorem insert_get_self {m : OrderedMap K V} {k : K} {v : V} (h : m[k]? = some v) :
    m.insert k v = m := by
  apply Std.ExtTreeMap.ext_getElem?
  intro a
  rw [get_insert]
  split
  · next hk => rw [← hk, h]
  · rfl

theorem erase_of_none {m : OrderedMap K V} {k : K} (h : m[k]? = none) : m.erase k = m := by
  apply Std.ExtTreeMap.ext_getElem?
  intro a
  rw [get_erase]
  split
  · next hk => rw [← hk, h]
  · rfl

omit [DecidableEq K] in
theorem mem_toList {m : OrderedMap K V} {k : K} {v : V} :
    (k, v) ∈ m.toList ↔ m[k]? = some v :=
  Std.ExtTreeMap.mem_toList_iff_getElem?_eq_some

omit [DecidableEq K] in
theorem nodup_toList (m : OrderedMap K V) : m.toList.Nodup := by
  refine (Std.ExtTreeMap.distinct_keys_toList (t := m)).imp ?_
  intro x y hxy heq
  exact hxy (by rw [heq]; exact Std.ReflOrd.compare_self)

omit [DecidableEq K] in
theorem nodup_keys (m : OrderedMap K V) : (m.toList.map (·.1)).Nodup := by
  rw [List.Nodup, List.pairwise_map]
  refine (Std.ExtTreeMap.distinct_keys_toList (t := m)).imp ?_
  intro x y hxy heq
  exact hxy (Std.compare_eq_iff_eq.mpr heq)

/-- Listing a map in which `k` was written is listing `k` and then the map without `k`, up to
the position of `k`. -/
theorem toList_insert_perm (m : OrderedMap K V) (k : K) (v : V) :
    (m.insert k v).toList.Perm ((k, v) :: (m.erase k).toList) := by
  have hfresh : (k, v) ∉ (m.erase k).toList := by
    rw [mem_toList, get_erase, if_pos rfl]
    simp
  apply (List.perm_ext_iff_of_nodup (nodup_toList _)
    (List.nodup_cons.mpr ⟨hfresh, nodup_toList _⟩)).mpr
  rintro ⟨a, w⟩
  rw [List.mem_cons, mem_toList, mem_toList, get_insert, get_erase, Prod.mk.injEq]
  by_cases h : k = a
  · subst h
    simp [eq_comm]
  · simp [h, Ne.symm h]

/-- A stored entry can be listed first. -/
theorem toList_perm_of_get {m : OrderedMap K V} {k : K} {v : V} (h : m[k]? = some v) :
    m.toList.Perm ((k, v) :: (m.erase k).toList) := by
  have hp := toList_insert_perm m k v
  rwa [insert_get_self h] at hp

omit [DecidableEq K] in
/-- The listing of the entries a predicate selects depends on those entries only. -/
theorem filter_toList_congr (p : K × V → Bool) {m m' : OrderedMap K V}
    (h : ∀ k v, p (k, v) = true → (m[k]? = some v ↔ m'[k]? = some v)) :
    m.toList.filter p = m'.toList.filter p := by
  have hperm : (m.toList.filter p).Perm (m'.toList.filter p) := by
    apply (List.perm_ext_iff_of_nodup ((nodup_toList m).filter p) ((nodup_toList m').filter p)).mpr
    rintro ⟨k, v⟩
    rw [List.mem_filter, List.mem_filter, mem_toList, mem_toList]
    constructor
    · rintro ⟨hget, hp⟩
      exact ⟨(h k v hp).mp hget, hp⟩
    · rintro ⟨hget, hp⟩
      exact ⟨(h k v hp).mpr hget, hp⟩
  -- both listings are in increasing key order, and no two keys precede each other
  refine hperm.eq_of_pairwise ?_ (Std.ExtTreeMap.ordered_keys_toList.filter p)
    (Std.ExtTreeMap.ordered_keys_toList.filter p)
  intro x y _ _ hxy hyx
  have hswap : compare x.1 y.1 = (compare y.1 x.1).swap := Std.OrientedCmp.eq_swap
  rw [hxy, hyx] at hswap
  cases hswap

/-- The stored values in the order of their keys. -/
def records (m : OrderedMap K V) : List V := m.toList.map (·.2)

omit [DecidableEq K] in
theorem mem_records {m : OrderedMap K V} {v : V} : v ∈ m.records ↔ ∃ k : K, m[k]? = some v := by
  simp only [records, List.mem_map, Prod.exists, exists_eq_right, mem_toList]

/-- Writing a new key adds its value to the listed ones. -/
theorem mem_records_insert_of_none {m : OrderedMap K V} {k : K} {v w : V} (h : m[k]? = none) :
    w ∈ records (m.insert k v) ↔ w = v ∨ w ∈ m.records := by
  rw [mem_records, mem_records]
  constructor
  · rintro ⟨a, ha⟩
    rcases get_insert_cases ha with ⟨_, hw⟩ | ⟨_, hold⟩
    · exact .inl hw
    · exact .inr ⟨a, hold⟩
  · rintro (rfl | ⟨a, ha⟩)
    · exact ⟨k, get_insert_self m k w⟩
    · have hne : k ≠ a := by
        rintro rfl
        rw [h] at ha
        cases ha
      exact ⟨a, (get_insert_ne m v hne).trans ha⟩

omit [DecidableEq K] in
theorem mem_records_filter (p : V → Bool) {m : OrderedMap K V} {v : V} :
    v ∈ records (m.filter fun _ => p) ↔ v ∈ m.records ∧ p v = true := by
  simp only [mem_records, Std.ExtTreeMap.getElem?_filter', Option.filter_eq_some_iff,
    exists_and_right]

omit [DecidableEq K] in
/-- The values a predicate selects depend on their entries only. -/
theorem filter_records_congr (p : V → Bool) {m m' : OrderedMap K V}
    (h : ∀ (k : K) (v : V), p v = true → (m[k]? = some v ↔ m'[k]? = some v)) :
    m.records.filter p = m'.records.filter p := by
  simp only [records, List.filter_map]
  rw [filter_toList_congr (p ∘ Prod.snd) h]

omit [Std.LawfulEqOrd K] [DecidableEq K] in
/-- A map of the values keeps their order. -/
theorem records_map {W : Type*} (f : V → W) (m : OrderedMap K V) :
    records (m.map fun _ => f) = m.records.map f := by
  simp only [records, Std.ExtTreeMap.toList_map, List.map_map]
  rfl

/-- What is read off every value, in the order of the keys, does not see a write that leaves it
alone. -/
theorem map_records_insert {W : Type*} (f : V → W) {m : OrderedMap K V} {k : K} {v v' : V}
    (h : m[k]? = some v) (hf : f v' = f v) :
    (records (m.insert k v')).map f = m.records.map f := by
  have hmap : (m.insert k v').map (fun _ => f) = m.map fun _ => f := by
    apply Std.ExtTreeMap.ext_getElem?
    intro a
    rw [Std.ExtTreeMap.getElem?_map, Std.ExtTreeMap.getElem?_map, get_insert]
    split
    · next hk =>
        rw [← hk, h]
        exact congrArg some hf
    · rfl
  rw [← records_map, ← records_map, hmap]

section Updates

variable {α : Type*} (key : α → K) (f : α → Option V → V)

/-- Updating other keys, one after the other, leaves a key alone. -/
theorem get_foldl_update_of_not_mem {xs : List α} (m : OrderedMap K V) {k : K}
    (h : k ∉ xs.map key) :
    (xs.foldl (fun m x => m.insert (key x) (f x m[key x]?)) m)[k]? = m[k]? := by
  induction xs generalizing m with
  | nil => rfl
  | cons x xs ih =>
      rw [List.map_cons, List.mem_cons, not_or] at h
      rw [List.foldl_cons, ih _ h.2, get_insert_ne _ _ (Ne.symm h.1)]

/-- Updating distinct keys, one after the other, updates each of them once. -/
theorem get_foldl_update_of_mem {xs : List α} (hnodup : (xs.map key).Nodup) (m : OrderedMap K V)
    {x : α} (hx : x ∈ xs) :
    (xs.foldl (fun m x => m.insert (key x) (f x m[key x]?)) m)[key x]? =
      some (f x m[key x]?) := by
  induction xs generalizing m with
  | nil => cases hx
  | cons y xs ih =>
      rw [List.map_cons, List.nodup_cons] at hnodup
      rw [List.foldl_cons]
      rcases List.mem_cons.mp hx with rfl | hx
      · rw [get_foldl_update_of_not_mem key f _ hnodup.1, get_insert, if_pos rfl]
      · have hne : key y ≠ key x := fun heq => hnodup.1 (heq ▸ List.mem_map_of_mem hx)
        rw [ih hnodup.2 _ hx, get_insert_ne _ _ hne]

/-- Erasing keys, one after the other, erases each of them and leaves the others alone. -/
theorem get_foldl_erase (xs : List α) (m : OrderedMap K V) (k : K) :
    (xs.foldl (fun m x => m.erase (key x)) m)[k]? = if k ∈ xs.map key then none else m[k]? := by
  induction xs generalizing m with
  | nil => simp
  | cons x xs ih =>
      rw [List.foldl_cons, ih, get_erase]
      by_cases hmem : k ∈ xs.map key
      · simp [List.mem_map.mp hmem]
      · by_cases hkey : key x = k
        · simp [hkey]
        · rw [if_neg hmem, if_neg hkey, if_neg]
          rw [List.map_cons, List.mem_cons, not_or]
          exact ⟨Ne.symm hkey, hmem⟩

/-- Filling in keys that are missing, one after the other, leaves each key with its old value or
with that of the first element for it. -/
theorem get_foldl_fill (keep : α → Prop) [DecidablePred keep] (value : α → V) (xs : List α)
    (m : OrderedMap K V) (k : K) :
    (xs.foldl (fun m x => if keep x ∧ m[key x]? = none then m.insert (key x) (value x) else m)
      m)[k]? = m[k]?.or ((xs.find? fun x => keep x ∧ key x = k).map value) := by
  induction xs generalizing m with
  | nil => simp
  | cons x xs ih =>
      rw [List.foldl_cons, ih]
      by_cases hfirst : keep x ∧ key x = k
      · obtain ⟨hkeep, rfl⟩ := hfirst
        cases hget : m[key x]? with
        | none => simp [hkeep]
        | some v => simp [hget]
      · have hsame : (if keep x ∧ m[key x]? = none then m.insert (key x) (value x) else m)[k]? =
            m[k]? := by
          split
          · next hfill => exact get_insert_ne m _ fun heq => hfirst ⟨hfill.1, heq⟩
          · rfl
        rw [hsame, List.find?_cons_of_neg (by simpa using hfirst)]

end Updates

section KeyedBy

variable (key : V → K)

/-- Every value is stored under its own key. -/
def KeyedBy (m : OrderedMap K V) : Prop := ∀ k v, m[k]? = some v → key v = k

omit [Std.LawfulEqOrd K] [DecidableEq K] in
theorem keyedBy_empty : KeyedBy key (∅ : OrderedMap K V) := by
  intro k v h
  simp at h

theorem keyedBy_insert {m : OrderedMap K V} (h : KeyedBy key m) (v : V) :
    KeyedBy key (m.insert (key v) v) := by
  intro k w hk
  rw [get_insert] at hk
  split at hk
  · next heq => cases hk; exact heq
  · exact h k w hk

omit [DecidableEq K] in
/-- No key is listed twice. -/
theorem pairwise_records {m : OrderedMap K V} (h : KeyedBy key m) :
    m.records.Pairwise fun v w => key v ≠ key w := by
  rw [records, List.pairwise_map]
  refine (Std.ExtTreeMap.distinct_keys_toList (t := m)).imp_of_mem ?_
  rintro ⟨k, v⟩ ⟨l, w⟩ hv hw hkeys
  rw [h k v (mem_toList.mp hv), h l w (mem_toList.mp hw)]
  intro hsame
  exact hkeys (by rw [hsame]; exact Std.ReflOrd.compare_self)

omit [DecidableEq K] in
/-- The values are listed in the order of their keys. -/
theorem ordered_records {m : OrderedMap K V} (h : KeyedBy key m) :
    m.records.Pairwise fun v w => compare (key v) (key w) = .lt := by
  rw [records, List.pairwise_map]
  refine (Std.ExtTreeMap.ordered_keys_toList (t := m)).imp_of_mem ?_
  rintro ⟨k, v⟩ ⟨l, w⟩ hv hw hkeys
  rw [h k v (mem_toList.mp hv), h l w (mem_toList.mp hw)]
  exact hkeys

omit [DecidableEq K] in
/-- The first listed value that satisfies a predicate is the one with the least key. -/
theorem find_records_eq_some {m : OrderedMap K V} (h : KeyedBy key m) (p : V → Bool) {v : V} :
    m.records.find? p = some v ↔
      v ∈ m.records ∧ p v = true ∧
        ∀ w ∈ m.records, p w = true → (compare (key v) (key w)).isLE := by
  have hleast : ∀ {u : V}, m.records.find? p = some u →
      ∀ w ∈ m.records, p w = true → (compare (key u) (key w)).isLE := by
    intro u hfind w hw hpw
    obtain ⟨_, before, after, hsplit, hbefore⟩ := List.find?_eq_some_iff_append.mp hfind
    have hordered := ordered_records key h
    rw [hsplit] at hw hordered
    rcases List.mem_append.mp hw with hearlier | hlater
    · exact absurd hpw (by simpa using hbefore w hearlier)
    · rcases List.mem_cons.mp hlater with rfl | hafter
      · exact Std.ReflOrd.isLE_rfl
      · have hlt := (List.pairwise_cons.mp (List.pairwise_append.mp hordered).2.1).1 w hafter
        rw [hlt]
        rfl
  constructor
  · intro hfind
    exact ⟨List.mem_of_find?_eq_some hfind, List.find?_some hfind, hleast hfind⟩
  · rintro ⟨hv, hpv, hall⟩
    obtain ⟨u, hu⟩ := Option.isSome_iff_exists.mp (List.find?_isSome.mpr ⟨v, hv, hpv⟩)
    have hmem := List.mem_of_find?_eq_some hu
    have hle := hall u hmem (List.find?_some hu)
    have hkeys : key v = key u := Std.compare_eq_iff_eq.mp
      (Std.OrientedCmp.isLE_antisymm hle (hleast hu v hv hpv))
    obtain ⟨k, hk⟩ := mem_records.mp hv
    obtain ⟨l, hl⟩ := mem_records.mp hmem
    rw [← h k v hk, hkeys, h l u hl, hl] at hk
    rw [hu, hk]

end KeyedBy

section Total

variable {M : Type*} [AddCommMonoid M]

/-- The sum of `f` over the stored entries. -/
def total (f : K → V → M) (m : OrderedMap K V) : M :=
  (m.toList.map fun entry => f entry.1 entry.2).sum

omit [Std.LawfulEqOrd K] [DecidableEq K] in
@[simp] theorem total_empty (f : K → V → M) : total f (∅ : OrderedMap K V) = 0 := by
  rw [total, Std.ExtTreeMap.toList_eq_nil_iff.mpr rfl]
  rfl

theorem total_eq_add_erase (f : K → V → M) {m : OrderedMap K V} {k : K} {v : V}
    (h : m[k]? = some v) : total f m = f k v + total f (m.erase k) := by
  have hp := (toList_perm_of_get h).map fun entry => f entry.1 entry.2
  simpa [total] using hp.sum_eq

theorem total_insert_eq (f : K → V → M) (m : OrderedMap K V) (k : K) (v : V) :
    total f (m.insert k v) = f k v + total f (m.erase k) := by
  have hp := (toList_insert_perm m k v).map fun entry => f entry.1 entry.2
  simpa [total] using hp.sum_eq

omit [DecidableEq K] in
theorem total_congr {f g : K → V → M} {m : OrderedMap K V}
    (h : ∀ k v, m[k]? = some v → f k v = g k v) : total f m = total g m := by
  unfold total
  congr 1
  refine List.map_congr_left ?_
  rintro ⟨k, v⟩ hmem
  exact h k v (mem_toList.mp hmem)

omit [Std.LawfulEqOrd K] [DecidableEq K] in
/-- The values of the selected entries sum up to a sum over all entries. -/
theorem sum_filter_eq_total (p : K → Bool) (f : V → ℕ) (m : OrderedMap K V) :
    (((m.toList.filter fun entry => p entry.1).map (·.2)).map f).sum =
      total (fun k v => if p k then f v else 0) m := by
  unfold total
  induction m.toList with
  | nil => rfl
  | cons entry entries ih =>
      simp only [List.map_map] at ih
      cases hp : p entry.1 <;> simp [hp, ih]

/-- Overwriting an entry exchanges its summand. -/
theorem total_insert_of_get (f : K → V → M) {m : OrderedMap K V} {k : K} {w : V} (v : V)
    (h : m[k]? = some w) : total f (m.insert k v) + f k w = total f m + f k v := by
  rw [total_insert_eq, total_eq_add_erase f h]
  abel

/-- Writing a new key adds its summand. -/
theorem total_insert_of_none (f : K → V → M) {m : OrderedMap K V} {k : K} (v : V)
    (h : m[k]? = none) : total f (m.insert k v) = total f m + f k v := by
  rw [total_insert_eq, erase_of_none h, add_comm]

/-- What is erased was part of the sum. -/
theorem total_erase_add (f : K → V → M) (m : OrderedMap K V) (k : K) :
    total f (m.erase k) + (m[k]?.map (f k)).getD 0 = total f m := by
  cases hget : m[k]? with
  | none =>
      rw [erase_of_none hget]
      exact add_zero _
  | some v =>
      rw [total_eq_add_erase f hget]
      exact add_comm _ _

/-- What is stored takes the place of what was. -/
theorem total_insert_add (f : K → V → M) (m : OrderedMap K V) (k : K) (v : V) :
    total f (m.insert k v) + (m[k]?.map (f k)).getD 0 = total f m + f k v := by
  rw [total_insert_eq, add_assoc, total_erase_add, add_comm]

theorem total_erase_le (f : K → V → ℕ) (m : OrderedMap K V) (k : K) :
    total f (m.erase k) ≤ total f m := by
  cases hget : m[k]? with
  | some v =>
      rw [total_eq_add_erase f hget]
      exact Nat.le_add_left _ _
  | none => rw [erase_of_none hget]

theorem le_total (f : K → V → ℕ) {m : OrderedMap K V} {k : K} {v : V} (h : m[k]? = some v) :
    f k v ≤ total f m := by
  rw [total_eq_add_erase f h]
  exact Nat.le_add_right _ _

end Total

end OrderedMap

section Selection

variable {α : Type*} (key : α → ℕ)

/-- The element with the greatest key; of several, the last one. -/
def maxByKey (xs : List α) : Option α := xs.reverse.argmax key

theorem maxByKey_concat (xs : List α) (x : α) : maxByKey key (xs ++ [x]) =
    match maxByKey key xs with
    | none => some x
    | some best => if key x < key best then some best else some x := by
  rw [maxByKey, List.reverse_concat, List.argmax_cons]
  unfold maxByKey
  cases List.argmax key xs.reverse <;> rfl

/-- An element at the upper bound of the keys is selected, and no element after it is. -/
theorem maxByKey_eq_getLast? {xs : List α} {top : ℕ} (hle : ∀ x ∈ xs, key x ≤ top)
    (hex : ∃ x ∈ xs, key x = top) :
    maxByKey key xs = (xs.filter fun x => key x = top).getLast? := by
  induction xs using List.reverseRecOn with
  | nil =>
      obtain ⟨x, hmem, _⟩ := hex
      cases hmem
  | append_singleton xs x ih =>
      have hearlier : ∀ y ∈ xs, key y ≤ top := fun y hy => hle y (List.mem_append_left _ hy)
      have hlast : key x ≤ top := hle x (List.mem_append_right _ (List.mem_singleton.mpr rfl))
      rw [maxByKey_concat, List.filter_append]
      by_cases htop : key x = top
      · have hkept : [x].filter (fun y => key y = top) = [x] := by simp [htop]
        rw [hkept, List.getLast?_concat]
        cases hbest : maxByKey key xs with
        | none => rfl
        | some best =>
            have hmem : best ∈ xs := List.mem_reverse.mp (List.argmax_mem hbest)
            have hbound := hearlier best hmem
            exact if_neg (by omega)
      · have hdropped : [x].filter (fun y => key y = top) = [] := by simp [htop]
        obtain ⟨y, hmem, hy⟩ := hex
        have hyxs : y ∈ xs := by
          rcases List.mem_append.mp hmem with hyxs | hyx
          · exact hyxs
          · rw [List.mem_singleton.mp hyx] at hy
            exact absurd hy htop
        rw [hdropped, List.append_nil, ← ih hearlier ⟨y, hyxs, hy⟩]
        cases hbest : maxByKey key xs with
        | none =>
            have hempty := List.argmax_eq_none.mp hbest
            rw [List.reverse_eq_nil_iff] at hempty
            rw [hempty] at hyxs
            cases hyxs
        | some best =>
            have hgreatest := List.le_of_mem_argmax (List.mem_reverse.mpr hyxs) hbest
            exact if_pos (by omega)

end Selection

end PoleProtocol.Framework
