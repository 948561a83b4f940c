import PoleProtocol.Framework.Selection
import PoleProtocol.Node.Retention

/-!
# Cross validation of sources

Where several sources report on one app, the ones that are far from the strongest lose confidence.
The pass over the samples works on indexes and in place; what it does to a sample is a function of
the sample and of the other samples of its app.
-/

namespace PoleProtocol.Node

open Framework Ledger

/-! ## The pass over the samples -/

def crossValidationDisagreementThresholdPpm : ℕ := 250000
def crossValidationConfidenceDownscalePpm : ℕ := 500000

/-- The samples while they are adjusted, and how many were. -/
structure CrossValidation where
  samples : List ActivitySample
  adjusted : ℕ

def indexesByApp (samples : List ActivitySample) : OrderedMap ℕ (List ℕ) :=
  samples.zipIdx.foldl (fun byApp entry =>
    byApp.insert entry.1.appId (byApp[entry.1.appId]?.getD [] ++ [entry.2])) ∅

def playersAt (samples : List ActivitySample) (index : ℕ) : ℕ :=
  (samples[index]?.map (·.observedPlayers)).getD 0

def strongestPlayers (players : List ℕ) : ℕ := max (players.max?.getD 0) 1

/-- How far a sample is from the strongest, in parts of the strongest. -/
def differencePpm (observedPlayers strongest : ℕ) : ℕ :=
  wrap64 ((max observedPlayers strongest - min observedPlayers strongest) * 1000000 / strongest)

def downscaledConfidence (sourceConfidencePpm : ℕ) : ℕ :=
  max (wrap32 (wrap64 (sourceConfidencePpm * crossValidationConfidenceDownscalePpm) / 1000000))
    100000

/-- A sample beyond the threshold is scaled down, any other stays. -/
def judged (strongest : ℕ) (sample : ActivitySample) : ActivitySample :=
  if crossValidationDisagreementThresholdPpm < differencePpm sample.observedPlayers strongest then
    { sample with sourceConfidencePpm := downscaledConfidence sample.sourceConfidencePpm }
  else sample

def adjustSample (strongest : ℕ) (state : CrossValidation) (index : ℕ) : CrossValidation where
  samples := state.samples.modify index (judged strongest)
  adjusted :=
    if crossValidationDisagreementThresholdPpm <
        differencePpm (playersAt state.samples index) strongest then state.adjusted + 1
    else state.adjusted

def validateApp (state : CrossValidation) (indexes : List ℕ) : CrossValidation :=
  if indexes.length < 2 then state
  else indexes.foldl
    (adjustSample (strongestPlayers (indexes.map (playersAt state.samples)))) state

def crossValidateSamples (samples : List ActivitySample) : CrossValidation :=
  (indexesByApp samples).records.foldl validateApp ⟨samples, 0⟩

/-! ## One app -/

@[simp] theorem judged_observedPlayers (strongest : ℕ) (sample : ActivitySample) :
    (judged strongest sample).observedPlayers = sample.observedPlayers := by
  unfold judged
  split <;> rfl

theorem get_adjustSample (strongest : ℕ) (state : CrossValidation) (index i : ℕ) :
    (adjustSample strongest state index).samples[i]? =
      if index = i then state.samples[i]?.map (judged strongest) else state.samples[i]? := by
  rw [adjustSample, List.getElem?_modify]
  split
  · rfl
  · simp

theorem get_foldl_adjustSample (strongest : ℕ) {indexes : List ℕ} (hnodup : indexes.Nodup)
    (state : CrossValidation) (i : ℕ) :
    (indexes.foldl (adjustSample strongest) state).samples[i]? =
      if i ∈ indexes then state.samples[i]?.map (judged strongest) else state.samples[i]? := by
  induction indexes generalizing state with
  | nil => simp
  | cons index indexes ih =>
      rw [List.nodup_cons] at hnodup
      rw [List.foldl_cons, ih hnodup.2, get_adjustSample]
      by_cases hi : index = i
      · have hrest : i ∉ indexes := hi ▸ hnodup.1
        simp [hi, hrest]
      · simp [hi, Ne.symm hi]

/-- One app leaves the samples of the others alone. -/
theorem get_validateApp {indexes : List ℕ} (hnodup : indexes.Nodup) (state : CrossValidation)
    (i : ℕ) :
    (validateApp state indexes).samples[i]? =
      if i ∈ indexes ∧ 2 ≤ indexes.length then
        state.samples[i]?.map
          (judged (strongestPlayers (indexes.map (playersAt state.samples))))
      else state.samples[i]? := by
  unfold validateApp
  by_cases hshort : indexes.length < 2
  · have hlong : ¬ 2 ≤ indexes.length := Nat.not_le.mpr hshort
    simp [hshort, hlong]
  · have hlong : 2 ≤ indexes.length := Nat.not_lt.mp hshort
    simp only [if_neg hshort, hlong, and_true]
    exact get_foldl_adjustSample _ hnodup state i

theorem playersAt_validateApp {indexes : List ℕ} (hnodup : indexes.Nodup)
    (state : CrossValidation) :
    playersAt (validateApp state indexes).samples = playersAt state.samples := by
  funext i
  unfold playersAt
  rw [get_validateApp hnodup]
  split
  · cases state.samples[i]? <;> simp
  · rfl

/-! ## All apps -/

theorem get_foldl_validateApp_of_not_mem {groups : List (List ℕ)}
    (hnodup : ∀ group ∈ groups, group.Nodup) (state : CrossValidation) {i : ℕ}
    (hi : ∀ group ∈ groups, i ∉ group) :
    (groups.foldl validateApp state).samples[i]? = state.samples[i]? := by
  induction groups generalizing state with
  | nil => rfl
  | cons group groups ih =>
      rw [List.forall_mem_cons] at hnodup hi
      rw [List.foldl_cons, ih hnodup.2 _ hi.2, get_validateApp hnodup.1]
      simp [hi.1]

/-- A sample is judged once, with the samples of its own app as they came. -/
theorem get_foldl_validateApp {groups : List (List ℕ)} (hnodup : ∀ group ∈ groups, group.Nodup)
    (hdisjoint : groups.Pairwise List.Disjoint) (state : CrossValidation) {group : List ℕ} {i : ℕ}
    (hgroup : group ∈ groups) (hi : i ∈ group) :
    (groups.foldl validateApp state).samples[i]? =
      if 2 ≤ group.length then
        state.samples[i]?.map (judged (strongestPlayers (group.map (playersAt state.samples))))
      else state.samples[i]? := by
  induction groups generalizing state with
  | nil => cases hgroup
  | cons first groups ih =>
      rw [List.forall_mem_cons] at hnodup
      rw [List.pairwise_cons] at hdisjoint
      rw [List.foldl_cons]
      rcases List.mem_cons.mp hgroup with rfl | hlater
      · have hrest : ∀ other ∈ groups, i ∉ other :=
          fun other hother hmem => hdisjoint.1 other hother hi hmem
        rw [get_foldl_validateApp_of_not_mem hnodup.2 _ hrest, get_validateApp hnodup.1]
        simp [hi]
      · have hfirst : i ∉ first := fun hmem => hdisjoint.1 group hlater hmem hi
        rw [ih hnodup.2 hdisjoint.2 _ hlater, playersAt_validateApp hnodup.1,
          get_validateApp hnodup.1]
        simp [hfirst]

theorem indexesByApp_eq (samples : List ActivitySample) :
    indexesByApp samples = groupByKey (fun entry : ActivitySample × ℕ => entry.1.appId) Prod.snd
      samples.zipIdx := rfl

/-- The samples of an app, in their order. -/
def appSamples (samples : List ActivitySample) (appId : ℕ) : List ActivitySample :=
  samples.filter (·.appId = appId)

def appIndexes (samples : List ActivitySample) (appId : ℕ) : List ℕ :=
  (samples.zipIdx.filter (·.1.appId = appId)).map Prod.snd

theorem get_indexesByApp {samples : List ActivitySample} {appId : ℕ} {indexes : List ℕ}
    (h : (indexesByApp samples)[appId]? = some indexes) : indexes = appIndexes samples appId := by
  rw [indexesByApp_eq, get_groupByKey] at h
  split at h
  · cases h
  · exact (Option.some.inj h).symm

theorem mem_appIndexes {samples : List ActivitySample} {appId i : ℕ} :
    i ∈ appIndexes samples appId ↔
      ∃ sample : ActivitySample, samples[i]? = some sample ∧ sample.appId = appId := by
  simp [appIndexes, List.mem_zipIdx_iff_getElem?]

theorem appIndexes_nodup (samples : List ActivitySample) (appId : ℕ) :
    (appIndexes samples appId).Nodup := by
  have hindexes : (samples.zipIdx.map Prod.snd).Nodup := by
    rw [List.zipIdx_map_snd]
    exact List.nodup_range'
  exact hindexes.sublist (List.filter_sublist.map Prod.snd)

theorem appIndexes_samples (samples : List ActivitySample) (appId : ℕ) :
    (appIndexes samples appId).map (playersAt samples) =
      (appSamples samples appId).map (·.observedPlayers) := by
  have hplayers : ∀ entry ∈ samples.zipIdx.filter (·.1.appId = appId),
      playersAt samples entry.2 = entry.1.observedPlayers := by
    intro entry hmem
    have hget := List.mem_zipIdx_iff_getElem?.mp (List.mem_of_mem_filter hmem)
    simp [playersAt, hget]
  have hsamples : (samples.zipIdx.filter (·.1.appId = appId)).map Prod.fst =
      appSamples samples appId := by
    have hfilter := List.filter_map (f := (Prod.fst : ActivitySample × ℕ → ActivitySample))
      (p := (·.appId = appId)) (l := samples.zipIdx)
    rw [List.zipIdx_map_fst] at hfilter
    exact hfilter.symm
  rw [appIndexes, List.map_map, ← hsamples, List.map_map]
  exact List.map_congr_left hplayers

theorem length_appIndexes (samples : List ActivitySample) (appId : ℕ) :
    (appIndexes samples appId).length = (appSamples samples appId).length := by
  have hlength := congrArg List.length (appIndexes_samples samples appId)
  rwa [List.length_map, List.length_map] at hlength

theorem groups_nodup (samples : List ActivitySample) :
    ∀ group ∈ (indexesByApp samples).records, group.Nodup := by
  intro group hgroup
  obtain ⟨appId, hget⟩ := OrderedMap.mem_records.mp hgroup
  rw [get_indexesByApp hget]
  exact appIndexes_nodup samples appId

theorem groups_disjoint (samples : List ActivitySample) :
    (indexesByApp samples).records.Pairwise List.Disjoint := by
  have hkeys := OrderedMap.nodup_keys (indexesByApp samples)
  rw [List.Nodup, List.pairwise_map] at hkeys
  rw [OrderedMap.records, List.pairwise_map]
  refine hkeys.imp_of_mem ?_
  intro entry entry' hentry hentry' hne i hi hi'
  rw [get_indexesByApp (OrderedMap.mem_toList.mp hentry), mem_appIndexes] at hi
  rw [get_indexesByApp (OrderedMap.mem_toList.mp hentry'), mem_appIndexes] at hi'
  obtain ⟨sample, hget, happ⟩ := hi
  obtain ⟨sample', hget', happ'⟩ := hi'
  rw [hget] at hget'
  cases hget'
  exact hne (happ.symm.trans happ')

/-! ## One sample -/

/-- The strongest number of players that an app is reported with. -/
def appStrongest (samples : List ActivitySample) (appId : ℕ) : ℕ :=
  ((appSamples samples appId).map (·.observedPlayers)).max?.getD 0

/-- What becomes of a sample, given all of them. -/
def validated (samples : List ActivitySample) (sample : ActivitySample) : ActivitySample :=
  if 2 ≤ (appSamples samples sample.appId).length then
    judged (max (appStrongest samples sample.appId) 1) sample
  else sample

/-- The pass in place is a map over the samples. -/
theorem crossValidateSamples_eq (samples : List ActivitySample) :
    (crossValidateSamples samples).samples = samples.map (validated samples) := by
  apply List.ext_getElem?
  intro i
  rw [List.getElem?_map, crossValidateSamples]
  cases hget : samples[i]? with
  | none =>
      rw [get_foldl_validateApp_of_not_mem (groups_nodup samples), hget]
      · rfl
      · intro group hgroup hi
        obtain ⟨appId, hentry⟩ := OrderedMap.mem_records.mp hgroup
        rw [get_indexesByApp hentry, mem_appIndexes, hget] at hi
        simp at hi
  | some sample =>
      have hi : i ∈ appIndexes samples sample.appId := mem_appIndexes.mpr ⟨sample, hget, rfl⟩
      have hgroup : appIndexes samples sample.appId ∈ (indexesByApp samples).records := by
        refine OrderedMap.mem_records.mpr ⟨sample.appId, ?_⟩
        rw [indexesByApp_eq, get_groupByKey, if_neg]
        · rfl
        · intro hempty
          rw [appIndexes, hempty] at hi
          cases hi
      rw [get_foldl_validateApp (groups_nodup samples) (groups_disjoint samples) _ hgroup hi,
        length_appIndexes, hget, Option.map_some, Option.map_some, appIndexes_samples]
      unfold validated
      split <;> rfl

theorem greatest_le {players players' : List ℕ} (hsub : players ⊆ players') :
    players.max?.getD 0 ≤ players'.max?.getD 0 := by
  cases hmax : players.max? with
  | none => exact Nat.zero_le _
  | some n => exact List.le_max?_getD_of_mem (hsub (List.max?_mem hmax))

theorem validated_perm {samples reordered : List ActivitySample} (hperm : samples.Perm reordered) :
    validated samples = validated reordered := by
  funext sample
  have happ : (appSamples samples sample.appId).Perm (appSamples reordered sample.appId) :=
    hperm.filter _
  have hplayers := happ.map (·.observedPlayers)
  have hstrongest : appStrongest samples sample.appId = appStrongest reordered sample.appId :=
    le_antisymm (greatest_le hplayers.subset) (greatest_le hplayers.symm.subset)
  rw [validated, validated, happ.length_eq, hstrongest]

theorem observedPlayers_le_appStrongest {samples : List ActivitySample} {sample : ActivitySample}
    (hmem : sample ∈ samples) : sample.observedPlayers ≤ appStrongest samples sample.appId := by
  have happ : sample ∈ appSamples samples sample.appId := by
    simpa [appSamples] using hmem
  exact List.le_max?_getD_of_mem (List.mem_map_of_mem happ)

/-! ## When confidence is only lowered -/

/-- No other source reports on the app. -/
def Alone (samples : List ActivitySample) (sample : ActivitySample) : Prop :=
  (appSamples samples sample.appId).length < 2

/-- The part of the strongest sample by which a sample falls short of it; none when no source sees
a player. -/
def shortfallPpm (samples : List ActivitySample) (sample : ActivitySample) : ℕ :=
  (appStrongest samples sample.appId - sample.observedPlayers) * 1000000 /
    appStrongest samples sample.appId

def WithinThreshold (samples : List ActivitySample) (sample : ActivitySample) : Prop :=
  shortfallPpm samples sample ≤ crossValidationDisagreementThresholdPpm

/-- The pass lowers confidence and does nothing else, to no sample that is alone or agrees, and
whatever the order of the samples. -/
structure OnlyLowers (samples : List ActivitySample) : Prop where
  fields : List.Forall₂ (fun before after =>
    after = { before with sourceConfidencePpm := after.sourceConfidencePpm })
    samples (crossValidateSamples samples).samples
  lowers : List.Forall₂ (fun before after =>
    after.sourceConfidencePpm ≤ before.sourceConfidencePpm)
    samples (crossValidateSamples samples).samples
  spares : List.Forall₂ (fun before after =>
    Alone samples before ∨ WithinThreshold samples before →
      after.sourceConfidencePpm = before.sourceConfidencePpm)
    samples (crossValidateSamples samples).samples
  commutes : ∃ outcome : ActivitySample → ActivitySample, ∀ reordered : List ActivitySample,
    samples.Perm reordered → (crossValidateSamples reordered).samples = reordered.map outcome

/-- Outliers have at least the floor, and the samples of an app that no source sees a player of are
at the floor. -/
structure AboveFloor (samples : List ActivitySample) : Prop where
  outliers : ∀ sample ∈ samples, ¬ Alone samples sample → ¬ WithinThreshold samples sample →
    100000 ≤ sample.sourceConfidencePpm
  unseen : ∀ sample ∈ samples, ¬ Alone samples sample → appStrongest samples sample.appId = 0 →
    sample.sourceConfidencePpm = 100000

theorem downscaledConfidence_eq {confidence : ℕ} (hword : confidence < 2 ^ 32) :
    downscaledConfidence confidence = max (confidence / 2) 100000 := by
  have hproduct : confidence * 500000 < 2 ^ 64 := by omega
  have hhalf : confidence * 500000 / 1000000 = confidence / 2 :=
    Nat.mul_div_mul_right confidence 2 (by norm_num : 0 < 500000)
  have hquotient : confidence / 2 < 2 ^ 32 := lt_of_le_of_lt (Nat.div_le_self _ _) hword
  unfold downscaledConfidence crossValidationConfidenceDownscalePpm
  rw [wrap64_of_lt hproduct, hhalf, wrap32, Nat.mod_eq_of_lt hquotient]

/-- The code takes an app that no source sees a player of for one with one player. -/
theorem differencePpm_eq {samples : List ActivitySample} {sample : ActivitySample}
    (hmem : sample ∈ samples) :
    differencePpm sample.observedPlayers (max (appStrongest samples sample.appId) 1) =
      if appStrongest samples sample.appId = 0 then 1000000 else shortfallPpm samples sample := by
  have hle := observedPlayers_le_appStrongest hmem
  unfold differencePpm shortfallPpm
  generalize appStrongest samples sample.appId = strongest at hle
  by_cases hzero : strongest = 0
  · have hnone : sample.observedPlayers = 0 := by omega
    rw [if_pos hzero, hzero, hnone]
    rfl
  · have hstrongest : max strongest 1 = strongest := by omega
    have hquotient : (strongest - sample.observedPlayers) * 1000000 / strongest ≤ 1000000 :=
      Nat.div_le_of_le_mul (Nat.mul_le_mul_right _ (Nat.sub_le _ _))
    rw [if_neg hzero, hstrongest, max_eq_right hle, min_eq_left hle]
    exact wrap64_of_lt (lt_of_le_of_lt hquotient (by norm_num))

/-- What the pass makes of the confidence of a sample. -/
theorem validated_confidence {samples : List ActivitySample} {sample : ActivitySample}
    (hmem : sample ∈ samples) (hword : sample.sourceConfidencePpm < 2 ^ 32) :
    ((Alone samples sample ∨
        WithinThreshold samples sample ∧ appStrongest samples sample.appId ≠ 0) ∧
      (validated samples sample).sourceConfidencePpm = sample.sourceConfidencePpm) ∨
    (¬ Alone samples sample ∧
        (¬ WithinThreshold samples sample ∨ appStrongest samples sample.appId = 0) ∧
      (validated samples sample).sourceConfidencePpm =
        max (sample.sourceConfidencePpm / 2) 100000) := by
  unfold validated Alone WithinThreshold
  by_cases halone : (appSamples samples sample.appId).length < 2
  · rw [if_neg (Nat.not_le.mpr halone)]
    exact .inl ⟨.inl halone, rfl⟩
  · rw [if_pos (Nat.not_lt.mp halone), judged, differencePpm_eq hmem]
    by_cases hzero : appStrongest samples sample.appId = 0
    · rw [if_pos hzero, if_pos (by decide)]
      exact .inr ⟨halone, .inr hzero, downscaledConfidence_eq hword⟩
    · rw [if_neg hzero]
      split
      · next hfar =>
          exact .inr ⟨halone, .inl (Nat.not_le.mpr hfar), downscaledConfidence_eq hword⟩
      · next hnear => exact .inl ⟨.inr ⟨Nat.not_lt.mp hnear, hzero⟩, rfl⟩

theorem validated_fields (samples : List ActivitySample) (sample : ActivitySample) :
    validated samples sample =
      { sample with
        sourceConfidencePpm := (validated samples sample).sourceConfidencePpm } := by
  unfold validated judged
  split
  · split <;> rfl
  · rfl

theorem forall₂_map_iff {R : ActivitySample → ActivitySample → Prop}
    (f : ActivitySample → ActivitySample) (samples : List ActivitySample) :
    List.Forall₂ R samples (samples.map f) ↔ ∀ sample ∈ samples, R sample (f sample) := by
  rw [List.forall₂_map_right_iff, List.forall₂_same]

/-- The pass only lowers confidence exactly when no outlier is below the floor and the samples of
every app without players are at the floor. -/
theorem crossValidateSamples_onlyLowers_iff {samples : List ActivitySample}
    (hwords : ∀ sample ∈ samples, sample.sourceConfidencePpm < 2 ^ 32) :
    OnlyLowers samples ↔ AboveFloor samples := by
  constructor
  · intro h
    have hlowers := h.lowers
    have hspares := h.spares
    rw [crossValidateSamples_eq, forall₂_map_iff] at hlowers hspares
    constructor
    · intro sample hmem hother hfar
      have hlower := hlowers sample hmem
      rcases validated_confidence hmem (hwords sample hmem) with ⟨hspared, _⟩ | ⟨_, _, hvalue⟩
      · rcases hspared with halone | ⟨hnear, _⟩
        · exact absurd halone hother
        · exact absurd hnear hfar
      · omega
    · intro sample hmem hother hzero
      have hnear : WithinThreshold samples sample := by
        simp [WithinThreshold, shortfallPpm, hzero]
      have hsame := hspares sample hmem (.inr hnear)
      rcases validated_confidence hmem (hwords sample hmem) with ⟨hspared, _⟩ | ⟨_, _, hvalue⟩
      · rcases hspared with halone | ⟨_, hseen⟩
        · exact absurd halone hother
        · exact absurd hzero hseen
      · omega
  · intro h
    constructor
    · rw [crossValidateSamples_eq, forall₂_map_iff]
      exact fun sample _ => validated_fields samples sample
    · rw [crossValidateSamples_eq, forall₂_map_iff]
      intro sample hmem
      rcases validated_confidence hmem (hwords sample hmem) with
        ⟨_, hvalue⟩ | ⟨hother, hfar | hzero, hvalue⟩
      · exact hvalue.le
      · have hfloor := h.outliers sample hmem hother hfar
        omega
      · have hfloor := h.unseen sample hmem hother hzero
        omega
    · rw [crossValidateSamples_eq, forall₂_map_iff]
      intro sample hmem hspared
      rcases validated_confidence hmem (hwords sample hmem) with
        ⟨_, hvalue⟩ | ⟨hother, hcase, hvalue⟩
      · exact hvalue
      · have hnear : WithinThreshold samples sample := hspared.resolve_left hother
        have hzero := hcase.resolve_left (not_not.mpr hnear)
        have hfloor := h.unseen sample hmem hother hzero
        omega
    · refine ⟨validated samples, ?_⟩
      intro reordered hperm
      rw [crossValidateSamples_eq, validated_perm hperm]

namespace CrossValidationSample

def report (players confidence : ℕ) : ActivitySample :=
  ⟨730, players, 1, .steam, confidence, "body"⟩

end CrossValidationSample

open CrossValidationSample in
/-- A strong source and an outlier, both fully trusted before. -/
theorem onlyLowers_two_sources : OnlyLowers [report 500000 1000000, report 100000 1000000] := by
  refine (crossValidateSamples_onlyLowers_iff ?_).mpr ⟨?_, ?_⟩
  · decide
  · intro sample hmem _ _
    simp only [List.mem_cons, List.not_mem_nil, or_false] at hmem
    rcases hmem with rfl | rfl <;> decide
  · intro sample hmem _ hzero
    simp only [List.mem_cons, List.not_mem_nil, or_false] at hmem
    rcases hmem with rfl | rfl
    · revert hzero
      decide
    · revert hzero
      decide

open CrossValidationSample in
/-- An outlier below the floor is trusted more than before, and two sources that agree on no players
are both trusted less. -/
theorem cross_validation_beyond_lowering :
    ((crossValidateSamples [report 500000 1000000, report 100000 50000]).samples =
        [report 500000 1000000, report 100000 100000] ∧
      ¬ OnlyLowers [report 500000 1000000, report 100000 50000]) ∧
    ((crossValidateSamples [report 0 1000000, report 0 1000000]).samples =
        [report 0 500000, report 0 500000] ∧
      ¬ OnlyLowers [report 0 1000000, report 0 1000000]) := by
  refine ⟨⟨by decide +kernel, ?_⟩, by decide +kernel, ?_⟩
  · intro h
    have hlowers := h.lowers
    rw [crossValidateSamples_eq, forall₂_map_iff] at hlowers
    have hraised := hlowers (report 100000 50000) (by decide)
    revert hraised
    decide +kernel
  · intro h
    have hspares := h.spares
    rw [crossValidateSamples_eq, forall₂_map_iff] at hspares
    have hsame := hspares (report 0 1000000) (by decide) (.inr (by
      unfold WithinThreshold
      decide +kernel))
    revert hsame
    decide +kernel

end PoleProtocol.Node
