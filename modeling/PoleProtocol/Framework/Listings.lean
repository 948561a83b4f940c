import PoleProtocol.Framework.Checks
import PoleProtocol.Framework.KeySet

/-!
# Maps as lists of their values

A map that stores every value under the value's own key can be written out as the list of its
values and read back from it. A reader that does not trust the list looks at each entry and at
whether two of them share a key.
-/

namespace PoleProtocol.Framework

section Check

variable {α κ ε : Type} [DecidableEq κ]

/-- Look at a list entry by entry: it is there, it passes `before`, nothing earlier has its key, and
it passes `after`. -/
def checkDistinct (missing : ε) (before : α → Except ε Unit) (key : α → κ) (duplicate : α → ε)
    (after : α → Except ε Unit) : List κ → List (Option α) → Except ε Unit
  | _, [] => .ok ()
  | seen, entry :: rest => do
      let a ← require entry missing
      before a
      ensure (key a ∉ seen) (duplicate a)
      after a
      checkDistinct missing before key duplicate after (key a :: seen) rest

/-- A complete list passes when its entries do and their keys are distinct and new. -/
theorem checkDistinct_map_some {missing : ε} {before after : α → Except ε Unit} {key : α → κ}
    {duplicate : α → ε} {seen : List κ} {xs : List α} :
    checkDistinct missing before key duplicate after seen (xs.map some) = .ok () ↔
      (∀ x ∈ xs, before x = .ok () ∧ after x = .ok ()) ∧ (xs.map key).Nodup ∧
        ∀ x ∈ xs, key x ∉ seen := by
  induction xs generalizing seen with
  | nil => simp [checkDistinct]
  | cons x xs ih =>
      rw [List.map_cons, checkDistinct]
      simp only [bind_eq_ok, require_eq_ok, ensure_eq_ok, exists_const, Option.some.injEq,
        exists_eq_left', ih]
      rw [List.map_cons, List.nodup_cons, List.forall_mem_cons, List.forall_mem_cons]
      constructor
      · rintro ⟨_, hbefore, hnew, _, hafter, hpass, hdistinct, hrest⟩
        refine ⟨⟨⟨hbefore, hafter⟩, hpass⟩, ⟨?_, hdistinct⟩, hnew, ?_⟩
        · intro hmem
          obtain ⟨y, hy, hkey⟩ := List.mem_map.mp hmem
          exact hrest y hy (hkey ▸ List.mem_cons_self)
        · exact fun y hy hseen => hrest y hy (List.mem_cons_of_mem _ hseen)
      · rintro ⟨⟨⟨hbefore, hafter⟩, hpass⟩, ⟨hfirst, hdistinct⟩, hnew, hrest⟩
        refine ⟨(), hbefore, hnew, (), hafter, hpass, hdistinct, ?_⟩
        intro y hy hmem
        rcases List.mem_cons.mp hmem with hkey | hseen
        · exact hfirst (hkey ▸ List.mem_map_of_mem hy)
        · exact hrest y hy hseen

end Check

section Reading

variable {K V : Type} [Ord K] [Std.TransOrd K] [Std.LawfulEqOrd K] [DecidableEq K]

/-- Store the values of a list under their own keys. -/
def storeAll (key : V → K) (m : OrderedMap K V) (values : List V) : OrderedMap K V :=
  values.foldl (fun m v => m.insert (key v) v) m

/-- Reading the listing of a map back gives the map. -/
theorem storeAll_records {key : V → K} {m : OrderedMap K V} (h : OrderedMap.KeyedBy key m) :
    storeAll key ∅ m.records = m := by
  have hdistinct : (m.records.map key).Nodup := by
    rw [List.Nodup, List.pairwise_map]
    exact OrderedMap.pairwise_records key h
  apply Std.ExtTreeMap.ext_getElem?
  intro k
  by_cases hk : k ∈ m.records.map key
  · obtain ⟨v, hv, rfl⟩ := List.mem_map.mp hk
    obtain ⟨k', hget⟩ := OrderedMap.mem_records.mp hv
    have hkey := h k' v hget
    rw [storeAll, OrderedMap.get_foldl_update_of_mem key (fun v _ => v) hdistinct ∅ hv, hkey, hget]
  · rw [storeAll, OrderedMap.get_foldl_update_of_not_mem key (fun v _ => v) ∅ hk]
    cases hget : m[k]? with
    | none => simp
    | some v =>
        exact absurd (h k v hget ▸ List.mem_map_of_mem (OrderedMap.mem_records.mpr ⟨k, hget⟩)) hk

omit [Std.LawfulEqOrd K] [DecidableEq K] in
theorem storeAll_concat (key : V → K) (m : OrderedMap K V) (values : List V) (v : V) :
    storeAll key m (values ++ [v]) = (storeAll key m values).insert (key v) v :=
  List.foldl_append

/-- A key holds the last value stored under it. -/
theorem get_storeAll (key : V → K) (m : OrderedMap K V) (values : List V) (k : K) :
    (storeAll key m values)[k]? = (values.reverse.find? fun v => key v = k).or m[k]? := by
  induction values using List.reverseRecOn with
  | nil => rfl
  | append_singleton values v ih =>
      rw [storeAll_concat, OrderedMap.get_insert, List.reverse_concat]
      by_cases hkey : key v = k
      · rw [if_pos hkey, List.find?_cons_of_pos (by simpa using hkey), Option.some_or]
      · rw [if_neg hkey, List.find?_cons_of_neg (by simpa using hkey), ih]

/-- Values with distinct keys may be stored in any order. -/
theorem storeAll_perm {key : V → K} (m : OrderedMap K V) {values values' : List V}
    (hperm : values.Perm values') (hkeys : (values.map key).Nodup) :
    storeAll key m values = storeAll key m values' := by
  have hkeys' : (values'.map key).Nodup := (hperm.map key).nodup_iff.mp hkeys
  apply Std.ExtTreeMap.ext_getElem?
  intro k
  by_cases hk : k ∈ values.map key
  · obtain ⟨v, hv, rfl⟩ := List.mem_map.mp hk
    have hv' : v ∈ values' := hperm.mem_iff.mp hv
    rw [storeAll, OrderedMap.get_foldl_update_of_mem key (fun v _ => v) hkeys m hv, storeAll,
      OrderedMap.get_foldl_update_of_mem key (fun v _ => v) hkeys' m hv']
  · have hk' : k ∉ values'.map key := fun hmem => hk ((hperm.map key).mem_iff.mpr hmem)
    rw [storeAll, OrderedMap.get_foldl_update_of_not_mem key (fun v _ => v) m hk, storeAll,
      OrderedMap.get_foldl_update_of_not_mem key (fun v _ => v) m hk']

/-- Of two writes under one key the last one stays. -/
theorem insert_insert_self (m : OrderedMap K V) (k : K) (v w : V) :
    (m.insert k v).insert k w = m.insert k w := by
  apply Std.ExtTreeMap.ext_getElem?
  intro a
  simp only [OrderedMap.get_insert]
  split <;> rfl

omit [DecidableEq K] in
/-- The listing of a map passes a check whose own keys tell its values apart. -/
theorem checkDistinct_records {κ ε : Type} [DecidableEq κ] {key : V → K} {m : OrderedMap K V}
    (h : OrderedMap.KeyedBy key m) {missing : ε} {before after : V → Except ε Unit} {text : V → κ}
    {duplicate : V → ε}
    (htext : ∀ v ∈ m.records, ∀ w ∈ m.records, text v = text w → key v = key w)
    (hchecks : ∀ v ∈ m.records, before v = .ok () ∧ after v = .ok ()) :
    checkDistinct missing before text duplicate after [] (m.records.map some) = .ok () := by
  refine checkDistinct_map_some.mpr ⟨hchecks, ?_, fun v _ => List.not_mem_nil⟩
  rw [List.Nodup, List.pairwise_map]
  refine (OrderedMap.pairwise_records key h).imp_of_mem ?_
  intro v w hv hw hkey heq
  exact hkey (htext v hv w hw heq)

omit [Std.LawfulEqOrd K] [DecidableEq K] in
/-- Storing a list in one part of a state, value by value. -/
theorem foldl_store {σ : Type} (write : σ → V → σ) (part : σ → OrderedMap K V)
    (put : σ → OrderedMap K V → σ) (key : V → K)
    (hwrite : ∀ s v, write s v = put s ((part s).insert (key v) v))
    (hpart : ∀ s m, part (put s m) = m) (hput : ∀ s m m', put (put s m) m' = put s m')
    (hself : ∀ s, put s (part s) = s) (values : List V) (s : σ) :
    values.foldl write s = put s (storeAll key (part s) values) := by
  induction values generalizing s with
  | nil => exact (hself s).symm
  | cons v values ih =>
      rw [List.foldl_cons, ih, hwrite, hpart, hput]
      rfl

end Reading

section Sorting

variable {K V : Type} [Ord K] [Std.TransOrd K]

/-- Sort by a key, elements with equal keys in their order. -/
def sortByKey (key : V → K) (values : List V) : List V :=
  values.insertionSort fun v w => (compare (key v) (key w)).isLE = true

omit [Std.TransOrd K] in
theorem sortByKey_perm (key : V → K) (values : List V) : (sortByKey key values).Perm values :=
  List.perm_insertionSort _ values

theorem sortByKey_sorted (key : V → K) (values : List V) :
    (sortByKey key values).Pairwise fun v w => (compare (key v) (key w)).isLE := by
  have : Std.Total fun v w => (compare (key v) (key w)).isLE = true := ⟨by
    intro v w
    have hswap : compare (key w) (key v) = (compare (key v) (key w)).swap :=
      Std.OrientedCmp.eq_swap
    rw [hswap]
    cases compare (key v) (key w) <;> simp⟩
  have : IsTrans V fun v w => (compare (key v) (key w)).isLE = true :=
    ⟨fun _ _ _ => Std.TransCmp.isLE_trans⟩
  exact List.pairwise_insertionSort _ values

omit [Std.TransOrd K] in
/-- Sorting the images by the same keys. -/
theorem sortByKey_map {W : Type} {key : V → K} {key' : W → K} {f : V → W} {values : List V}
    (hkey : ∀ v ∈ values, key' (f v) = key v) :
    (sortByKey key values).map f = sortByKey key' (values.map f) := by
  refine List.map_insertionSort _ _ f values ?_
  intro v hv w hw
  rw [hkey v hv, hkey w hw]

/-- The listing of the values in strict key order is what sorting gives. -/
theorem sortByKey_eq {key : V → K} {values sorted : List V} (hperm : values.Perm sorted)
    (hordered : sorted.Pairwise fun v w => compare (key v) (key w) = .lt) :
    sortByKey key values = sorted := by
  have hle : sorted.Pairwise fun v w => (compare (key v) (key w)).isLE := by
    refine hordered.imp ?_
    intro v w hlt
    rw [hlt]
    rfl
  refine ((sortByKey_perm key values).trans hperm).eq_of_pairwise ?_
    (sortByKey_sorted key values) hle
  intro v w hv hw hvw hwv
  by_contra hne
  have happart : sorted.Pairwise fun v w => compare (key v) (key w) ≠ .eq := by
    refine hordered.imp ?_
    intro v w hlt
    rw [hlt]
    decide
  have : Std.Symm fun v w => compare (key v) (key w) ≠ .eq := ⟨by
    intro v w hvw hwv
    have hswap : compare (key v) (key w) = (compare (key w) (key v)).swap :=
      Std.OrientedCmp.eq_swap
    rw [hwv] at hswap
    exact hvw hswap⟩
  have hmem : v ∈ sorted := hperm.subset ((sortByKey_perm key values).subset hv)
  exact happart.forall hmem hw hne (Std.OrientedCmp.isLE_antisymm hvw hwv)

/-- Distinct keys are sorted strictly. -/
theorem sortByKey_ordered [Std.LawfulEqOrd K] {key : V → K} {values : List V}
    (hkeys : (values.map key).Nodup) :
    (sortByKey key values).Pairwise fun v w => compare (key v) (key w) = .lt := by
  have hdistinct : (sortByKey key values).Pairwise fun v w => key v ≠ key w := by
    rw [← List.pairwise_map (f := key) (R := (· ≠ ·))]
    exact ((sortByKey_perm key values).map key).nodup_iff.mpr hkeys
  refine ((sortByKey_sorted key values).and hdistinct).imp ?_
  rintro v w ⟨hle, hne⟩
  rcases hcmp : compare (key v) (key w) with _ | _ | _
  · rfl
  · exact absurd (Std.compare_eq_iff_eq.mp hcmp) hne
  · rw [hcmp] at hle
    cases hle

variable [Std.LawfulEqOrd K] [DecidableEq K]

theorem keyedBy_storeAll {key : V → K} {m : OrderedMap K V} (h : OrderedMap.KeyedBy key m)
    (values : List V) : OrderedMap.KeyedBy key (storeAll key m values) := by
  induction values generalizing m with
  | nil => exact h
  | cons v values ih => exact ih (OrderedMap.keyedBy_insert key h v)

/-- One value is kept for each key. -/
theorem length_records_storeAll (key : V → K) (values : List V) :
    (storeAll key ∅ values).records.length = (values.map key).toFinset.card := by
  have hkeys := OrderedMap.keySet_foldl_update key (fun v _ => v) values ∅
  rw [OrderedMap.keySet_empty, Finset.empty_union] at hkeys
  rw [← hkeys, OrderedMap.card_keySet, OrderedMap.records, List.length_map,
    Std.ExtTreeMap.length_toList]
  rfl

/-- Storing values with distinct keys lists them in the order of their keys. -/
theorem records_storeAll {key : V → K} {values : List V} (hkeys : (values.map key).Nodup) :
    (storeAll key ∅ values).records = sortByKey key values := by
  have hkeyed := keyedBy_storeAll (OrderedMap.keyedBy_empty key) values
  have hordered := OrderedMap.ordered_records key hkeyed
  refine (sortByKey_eq ?_ hordered).symm
  have hnodup : (storeAll key ∅ values).records.Nodup := by
    refine (OrderedMap.pairwise_records key hkeyed).imp ?_
    rintro v w hne rfl
    exact hne rfl
  apply (List.perm_ext_iff_of_nodup hkeys.of_map hnodup).mpr
  intro v
  rw [OrderedMap.mem_records]
  constructor
  · intro hv
    exact ⟨key v, OrderedMap.get_foldl_update_of_mem key (fun v _ => v) hkeys ∅ hv⟩
  · rintro ⟨k, hk⟩
    by_cases hmem : k ∈ values.map key
    · obtain ⟨w, hw, rfl⟩ := List.mem_map.mp hmem
      have hstored := OrderedMap.get_foldl_update_of_mem key (fun v _ => v) hkeys ∅ hw
      rw [storeAll, hstored] at hk
      cases hk
      exact hw
    · rw [storeAll, OrderedMap.get_foldl_update_of_not_mem key (fun v _ => v) ∅ hmem] at hk
      simp at hk

end Sorting

/-! ## Texts joined by slashes -/

theorem slash_not_mem_toString (n : ℕ) : '/' ∉ (toString n).toList := by
  intro h
  have hdigits : '/' ∈ Nat.toDigits 10 n := by
    rwa [Nat.toString_eq_repr, Nat.toList_repr] at h
  have hdigit := Nat.isDigit_of_mem_toDigits (by decide) (by decide) hdigits
  revert hdigit
  decide

theorem toString_nat_injective {m n : ℕ} (h : toString m = toString n) : m = n := by
  have hdigits : Nat.toDigits 10 m = Nat.toDigits 10 n := by
    rw [← Nat.toList_repr, ← Nat.toList_repr, ← Nat.toString_eq_repr, ← Nat.toString_eq_repr, h]
  rw [← Nat.ofDigitChars_ten_toDigits (n := m), hdigits, Nat.ofDigitChars_ten_toDigits]

private theorem takeWhile_slash {x : List Char} (h : '/' ∉ x) (z : List Char) :
    (x ++ '/' :: z).takeWhile (· ≠ '/') = x := by
  rw [List.takeWhile_append_of_pos]
  · simp
  · intro c hc
    simpa using fun heq : c = '/' => h (heq ▸ hc)

/-- A text is told apart by what stands before its first slash and what stands after. -/
theorem slash_append_inj {a b c d : String} (ha : '/' ∉ a.toList) (hb : '/' ∉ b.toList)
    (h : a ++ "/" ++ c = b ++ "/" ++ d) : a = b ∧ c = d := by
  have hlist : a.toList ++ '/' :: c.toList = b.toList ++ '/' :: d.toList := by
    have htext := congrArg String.toList h
    simpa [String.toList_append] using htext
  have hfirst : a.toList = b.toList := by
    rw [← takeWhile_slash ha c.toList, hlist, takeWhile_slash hb]
  rw [hfirst] at hlist
  have hrest : c.toList = d.toList := (List.cons.inj (List.append_cancel_left hlist)).2
  exact ⟨String.toList_injective hfirst, String.toList_injective hrest⟩

end PoleProtocol.Framework
