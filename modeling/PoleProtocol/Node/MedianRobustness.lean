import PoleProtocol.Framework.Median
import PoleProtocol.Node.AggregationOrder

/-!
# The median of a group

The accepted observations of a group come from distinct collectors, so one collector moves one
value. The middle of what is left keeps the median in range, as long as the average of two middle
values does not run into the end of the word.
-/

namespace PoleProtocol.Node

open Framework Ledger

/-! ## The middle values -/

def observedPlayersOf (inputs : List AggregateInput) : List ℕ :=
  inputs.map (·.observation.observedPlayers)

/-- The median lies between two of the values. -/
def WithinRange (values : List ℕ) (median : ℕ) : Prop :=
  (∃ low ∈ values, low ≤ median) ∧ ∃ high ∈ values, median ≤ high

/-- An odd number of observations, or a value in the lower half of the word. -/
def AveragesExactly (accepted : List AggregateInput) (values : List ℕ) : Prop :=
  accepted.length % 2 = 1 ∨ ∃ value ∈ values, value < 2 ^ 63

theorem getD_insertionSort {values : List ℕ} {k : ℕ} (h : k < values.length) :
    (values.insertionSort (· ≤ ·)).getD k 0 = ranked values k h := by
  have hsorted : k < (values.insertionSort (· ≤ ·)).length := by
    rwa [List.length_insertionSort]
  exact List.getD_eq_getElem _ 0 hsorted

/-- The middle value of an odd number, the average of the two middle values of an even one. -/
theorem medianPlayers_eq {inputs : List AggregateInput} {n : ℕ}
    (hn : n = (observedPlayersOf inputs).length)
    (hlower : (n - 1) / 2 < (observedPlayersOf inputs).length)
    (hupper : n / 2 < (observedPlayersOf inputs).length) :
    medianPlayers inputs =
      if n % 2 = 1 then ranked (observedPlayersOf inputs) (n / 2) hupper
      else saturatingAdd64 (ranked (observedPlayersOf inputs) ((n - 1) / 2) hlower)
        (ranked (observedPlayersOf inputs) (n / 2) hupper) / 2 := by
  have hnonempty : inputs.isEmpty = false := by
    cases inputs with
    | nil => simp [observedPlayersOf] at hupper
    | cons input inputs => rfl
  have hplayers : inputs.map (·.observation.observedPlayers) = observedPlayersOf inputs := rfl
  unfold medianPlayers
  simp only [hnonempty, Bool.false_eq_true, if_false, List.length_insertionSort, hplayers, ← hn]
  by_cases hodd : n % 2 = 1
  · rw [if_pos hodd, if_pos hodd]
    exact getD_insertionSort hupper
  · have hmiddle : n / 2 - 1 = (n - 1) / 2 := by omega
    rw [if_neg hodd, if_neg hodd, hmiddle]
    rw [getD_insertionSort hlower, getD_insertionSort hupper]

/-- Values that take in more than half of the observed ones have the median in their range exactly
when it averages exactly. -/
theorem withinRange_iff {inputs : List AggregateInput} {kept values : List ℕ}
    (hsub : kept.Sublist (observedPlayersOf inputs))
    (hmost : (observedPlayersOf inputs).length < 2 * kept.length)
    (hkept : ∀ value ∈ kept, value ∈ values) :
    WithinRange values (medianPlayers inputs) ↔ AveragesExactly inputs values := by
  have hlength := hsub.length_le
  generalize hn : (observedPlayersOf inputs).length = n at hmost hlength
  have hlower : (n - 1) / 2 < (observedPlayersOf inputs).length := by omega
  have hupper : n / 2 < (observedPlayersOf inputs).length := by omega
  have hinputs : inputs.length = n := by rw [← hn, observedPlayersOf, List.length_map]
  obtain ⟨low, hlow, hlowle⟩ := exists_le_ranked hsub hlower (by omega)
  obtain ⟨high, hhigh, hlehigh⟩ := exists_ranked_le hsub hupper (by omega)
  have hmono : ranked (observedPlayersOf inputs) ((n - 1) / 2) hlower ≤
      ranked (observedPlayersOf inputs) (n / 2) hupper := ranked_mono (by omega) hupper
  rw [medianPlayers_eq hn.symm hlower hupper, AveragesExactly, hinputs]
  by_cases hodd : n % 2 = 1
  · have hsame : ranked (observedPlayersOf inputs) ((n - 1) / 2) hlower =
        ranked (observedPlayersOf inputs) (n / 2) hupper := by
      have hmiddle : (n - 1) / 2 = n / 2 := by omega
      simp only [hmiddle]
    rw [if_pos hodd]
    rw [hsame] at hlowle
    constructor
    · exact fun _ => .inl hodd
    · exact fun _ => ⟨⟨low, hkept low hlow, hlowle⟩, high, hkept high hhigh, hlehigh⟩
  · rw [if_neg hodd]
    generalize ranked (observedPlayersOf inputs) ((n - 1) / 2) hlower = lower at hlowle hmono
    generalize ranked (observedPlayersOf inputs) (n / 2) hupper = upper at hlehigh hmono
    rw [saturatingAdd64]
    constructor
    · rintro ⟨⟨value, hvalue, hle⟩, _⟩
      refine .inr ⟨value, hvalue, ?_⟩
      omega
    · rintro (hodd' | ⟨value, hvalue, hsmall⟩)
      · exact absurd hodd' hodd
      · refine ⟨?_, high, hkept high hhigh, by omega⟩
        by_cases hfits : lower + upper < 2 ^ 64
        · exact ⟨low, hkept low hlow, by omega⟩
        · exact ⟨value, hvalue, by omega⟩

/-! ## One collector among others -/

/-- What counts for the median of a group. -/
def acceptedInputs (inputs : List AggregateInput) : List AggregateInput :=
  trimExtremeObservations (deduplicateByCollector inputs)

theorem aggregateGroup_median (env : NodeEnv) (config : AggregationConfig)
    (epochId slotId appId : ℕ) (inputs : List AggregateInput) :
    (aggregateGroup env config epochId slotId appId inputs).aggregate.medianPlayers =
      medianPlayers (acceptedInputs inputs) := rfl

def fromOthers (collector : NodeId) (input : AggregateInput) : Bool :=
  input.observation.collectorId ≠ collector

/-- Two groups that differ in what one collector contributes to both. -/
structure ChangedBy (collector : NodeId) (inputs inputs' : List AggregateInput) : Prop where
  others : inputs'.filter (fromOthers collector) = inputs.filter (fromOthers collector)
  before : ∃ input ∈ inputs, input.observation.collectorId = collector
  after : ∃ input ∈ inputs', input.observation.collectorId = collector

/-- The values that count for the other collectors of a group. -/
def othersPlayers (collector : NodeId) (inputs : List AggregateInput) : List ℕ :=
  observedPlayersOf ((deduplicateByCollector inputs).filter (fromOthers collector))

/-- Of these, the ones that the trimming leaves. -/
def othersAcceptedPlayers (collector : NodeId) (inputs : List AggregateInput) : List ℕ :=
  observedPlayersOf ((acceptedInputs inputs).filter (fromOthers collector))

theorem deduplicateByCollector_eq (inputs : List AggregateInput) :
    deduplicateByCollector inputs = OrderedMap.records
      (inputs.foldl (keepLeast (·.observation.collectorId) candidateRank) ∅) := by
  rw [deduplicateByCollector, selectCandidate_eq]

theorem collectors_nodup (inputs : List AggregateInput) :
    ((deduplicateByCollector inputs).map (·.observation.collectorId)).Nodup := by
  rw [deduplicateByCollector_eq, List.Nodup, List.pairwise_map]
  exact OrderedMap.pairwise_records _ (keyedBy_foldl_keepLeast _ _ inputs)

theorem length_deduplicateByCollector (inputs : List AggregateInput) :
    (deduplicateByCollector inputs).length =
      (inputs.map (·.observation.collectorId)).toFinset.card := by
  rw [deduplicateByCollector_eq, ← keySet_foldl_keepLeast _ candidateRank, OrderedMap.card_keySet,
    OrderedMap.records, List.length_map, Std.ExtTreeMap.length_toList]

/-- The trimming leaves a part of the selected inputs, and at least three when it is given three. -/
theorem acceptedInputs_subperm (inputs : List AggregateInput) :
    (acceptedInputs inputs).Subperm (deduplicateByCollector inputs) := by
  rw [acceptedInputs, trimExtremeObservations]
  split
  · exact List.Subperm.refl _
  · have htrimmed := (List.dropLast_sublist (sortByKey trimmedRank
      (deduplicateByCollector inputs)).tail).trans (List.tail_sublist _)
    exact htrimmed.subperm.trans (sortByKey_perm _ _).subperm

theorem three_le_acceptedInputs (inputs : List AggregateInput) :
    3 ≤ (acceptedInputs inputs).length ↔ 3 ≤ (deduplicateByCollector inputs).length := by
  have hsorted := (sortByKey_perm trimmedRank (deduplicateByCollector inputs)).length_eq
  rw [acceptedInputs, trimExtremeObservations]
  split
  · rfl
  · rw [List.length_dropLast, List.length_tail, hsorted]
    omega

/-- One collector has at most one of the accepted inputs. -/
theorem length_acceptedInputs_le (collector : NodeId) (inputs : List AggregateInput) :
    (acceptedInputs inputs).length ≤
      ((acceptedInputs inputs).filter (fromOthers collector)).length + 1 := by
  obtain ⟨chosen, hchosen, hsub⟩ := acceptedInputs_subperm inputs
  have hnodup : ((acceptedInputs inputs).map (·.observation.collectorId)).Nodup :=
    (hchosen.map _).nodup_iff.mp ((collectors_nodup inputs).sublist (hsub.map _))
  have hone := List.nodup_iff_count_le_one.mp hnodup collector
  rw [List.count, List.countP_map] at hone
  have hsplit :=
    List.length_eq_countP_add_countP (fromOthers collector) (l := acceptedInputs inputs)
  have hown : (acceptedInputs inputs).countP (fun input => ¬ fromOthers collector input = true) =
      (acceptedInputs inputs).countP ((· == collector) ∘ (·.observation.collectorId)) := by
    apply List.countP_congr
    intro input _
    simp [fromOthers]
  rw [List.countP_eq_length_filter] at hsplit
  omega

namespace ChangedBy

variable {collector : NodeId} {inputs inputs' : List AggregateInput}

theorem othersPlayers_eq (h : ChangedBy collector inputs inputs') :
    othersPlayers collector inputs' = othersPlayers collector inputs := by
  rw [othersPlayers, othersPlayers, deduplicateByCollector_eq, deduplicateByCollector_eq]
  exact congrArg observedPlayersOf (filter_records_keepLeast
    (fun input : AggregateInput => input.observation.collectorId) candidateRank
    (fun id => id ≠ collector) h.others)

theorem length_eq (h : ChangedBy collector inputs inputs') :
    (deduplicateByCollector inputs').length = (deduplicateByCollector inputs).length := by
  rw [length_deduplicateByCollector, length_deduplicateByCollector]
  congr 1
  ext id
  simp only [List.mem_toFinset, List.mem_map]
  by_cases hid : id = collector
  · rw [hid]
    exact ⟨fun _ => h.before, fun _ => h.after⟩
  · have hothers : ∀ input : AggregateInput, input ∈ inputs' ∧ fromOthers collector input = true ↔
        input ∈ inputs ∧ fromOthers collector input = true := by
      intro input
      rw [← List.mem_filter, ← List.mem_filter, h.others]
    constructor
    · rintro ⟨input, hmem, rfl⟩
      exact ⟨input, ((hothers input).mp ⟨hmem, decide_eq_true hid⟩).1, rfl⟩
    · rintro ⟨input, hmem, rfl⟩
      exact ⟨input, ((hothers input).mpr ⟨hmem, decide_eq_true hid⟩).1, rfl⟩

end ChangedBy

/-- The values that count for the others are a part of the accepted ones. -/
theorem othersAccepted_sublist (collector : NodeId) (inputs : List AggregateInput) :
    (othersAcceptedPlayers collector inputs).Sublist (observedPlayersOf (acceptedInputs inputs)) :=
  List.filter_sublist.map _

theorem othersAccepted_mem {collector : NodeId} {inputs : List AggregateInput} {value : ℕ}
    (h : value ∈ othersAcceptedPlayers collector inputs) :
    value ∈ othersPlayers collector inputs := by
  obtain ⟨input, hinput, rfl⟩ := List.mem_map.mp h
  rw [List.mem_filter] at hinput
  have hselected := (acceptedInputs_subperm inputs).subset hinput.1
  exact List.mem_map_of_mem (List.mem_filter.mpr ⟨hselected, hinput.2⟩)

/-- The median of accepted observations lies in their range exactly when it averages exactly. When
a collector out of three and more changes its value, the median stays in the range of the others,
of all of them and of the accepted ones, under the same condition. -/
theorem median_robust_iff (accepted : List AggregateInput) (collector : NodeId)
    (inputs inputs' : List AggregateInput) :
    (accepted ≠ [] →
      (WithinRange (observedPlayersOf accepted) (medianPlayers accepted) ↔
        AveragesExactly accepted (observedPlayersOf accepted))) ∧
    (ChangedBy collector inputs inputs' → 3 ≤ (acceptedInputs inputs).length →
      (WithinRange (othersPlayers collector inputs) (medianPlayers (acceptedInputs inputs')) ↔
        AveragesExactly (acceptedInputs inputs') (othersPlayers collector inputs)) ∧
      (WithinRange (othersAcceptedPlayers collector inputs')
          (medianPlayers (acceptedInputs inputs')) ↔
        AveragesExactly (acceptedInputs inputs') (othersAcceptedPlayers collector inputs'))) := by
  constructor
  · intro hnonempty
    have hpos : 0 < (observedPlayersOf accepted).length := by
      rw [observedPlayersOf, List.length_map]
      exact List.length_pos_iff.mpr hnonempty
    exact withinRange_iff (.refl _) (by omega) fun _ => id
  · intro hchanged hthree
    have hthree' : 3 ≤ (acceptedInputs inputs').length := by
      rw [three_le_acceptedInputs] at hthree ⊢
      rwa [hchanged.length_eq]
    have hone := length_acceptedInputs_le collector inputs'
    have hmost : (observedPlayersOf (acceptedInputs inputs')).length <
        2 * (othersAcceptedPlayers collector inputs').length := by
      rw [othersAcceptedPlayers, observedPlayersOf, observedPlayersOf, List.length_map,
        List.length_map]
      omega
    have hsub := othersAccepted_sublist collector inputs'
    rw [← hchanged.othersPlayers_eq]
    exact ⟨withinRange_iff hsub hmost fun _ => othersAccepted_mem,
      withinRange_iff hsub hmost fun _ => id⟩

namespace MedianSample

def reading (collector : NodeId) (players : ℕ) : AggregateInput :=
  ⟨{ AggregateSample.observation 1 730 with collectorId := collector, observedPlayers := players },
    0⟩

/-- The largest number of players on each of four nodes. -/
def crowded : List AggregateInput :=
  [reading 1 (2 ^ 64 - 1), reading 2 (2 ^ 64 - 1), reading 3 (2 ^ 64 - 1), reading 4 (2 ^ 64 - 1)]

end MedianSample

open MedianSample in
/-- Two observations, and the third of three collectors that changes its value. -/
theorem median_robust_three :
    WithinRange [700, 900] (medianPlayers [reading 1 700, reading 2 900]) ∧
    WithinRange [700, 900] (medianPlayers (acceptedInputs
      [reading 1 700, reading 2 900, reading 3 (2 ^ 64 - 1)])) := by
  obtain ⟨hrange, hrobust⟩ := median_robust_iff [reading 1 700, reading 2 900] 3
    [reading 1 700, reading 2 900, reading 3 800]
    [reading 1 700, reading 2 900, reading 3 (2 ^ 64 - 1)]
  refine ⟨(hrange (by simp)).mpr ?_, ((hrobust ?_ (by decide +kernel)).1).mpr ?_⟩
  · exact .inr ⟨700, by decide, by decide⟩
  · exact ⟨rfl, by decide +kernel, by decide +kernel⟩
  · exact .inl (by decide +kernel)

open MedianSample in
/-- The average of two values at the end of the word is half of both, and so it is when one of four
collectors changes its value. -/
theorem median_of_crowded :
    medianPlayers [reading 1 (2 ^ 64 - 1), reading 2 (2 ^ 64 - 1)] = 2 ^ 63 - 1 ∧
    ¬ WithinRange [2 ^ 64 - 1, 2 ^ 64 - 1]
      (medianPlayers [reading 1 (2 ^ 64 - 1), reading 2 (2 ^ 64 - 1)]) ∧
    ChangedBy 4 crowded (crowded.dropLast ++ [reading 4 5]) ∧
    othersPlayers 4 crowded = [2 ^ 64 - 1, 2 ^ 64 - 1, 2 ^ 64 - 1] ∧
    medianPlayers (acceptedInputs (crowded.dropLast ++ [reading 4 5])) = 2 ^ 63 - 1 := by
  refine ⟨by decide +kernel, ?_, ⟨rfl, by decide +kernel, by decide +kernel⟩,
    by decide +kernel, by decide +kernel⟩
  rintro ⟨⟨low, hlow, hle⟩, _⟩
  have hmedian : medianPlayers [reading 1 (2 ^ 64 - 1), reading 2 (2 ^ 64 - 1)] = 2 ^ 63 - 1 := by
    decide +kernel
  rw [hmedian] at hle
  simp only [List.mem_cons, List.not_mem_nil, or_false, or_self] at hlow
  omega

end PoleProtocol.Node
