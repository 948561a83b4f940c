import PoleProtocol.Framework.Tally
import PoleProtocol.Chain.Settlements
import PoleProtocol.Chain.WitnessSplit

/-!
# Accepted witness splits

The chain does not know the verify pool: it takes the sum of the credited verify rewards for it and
splits that sum again. Since a split hands out its whole pool, an honest split is a fixed point of
this, and an accepted one is honest.
-/

namespace PoleProtocol.Chain

open Framework OrderedMap KeeperState

section Split

variable {credits : OrderedMap String ℕ} {records : List RewardRecord} {pool : ℕ}

/-- Every credited witness is among the records with its share of the pool, and nobody else holds a
verify reward. -/
structure HonestSplit (credits : OrderedMap String ℕ) (pool : ℕ) (records : List RewardRecord) :
    Prop where
  credited : ∀ witness credit, credits[witness]? = some credit → ∃ record ∈ records,
    record.recipient = witness ∧
      (allocateWitnessRewards credits pool)[witness]? = some record.verifyReward
  uncredited : ∀ record ∈ records, credits[record.recipient]? = none → record.verifyReward = 0

/-- What a split gives a recipient. -/
def splitReward (credits : OrderedMap String ℕ) (pool : ℕ) (recipient : String) : ℕ :=
  (allocateWitnessRewards credits pool)[recipient]?.getD 0

theorem splitReward_of_get (hcredits : (credits.toList.map (·.2)).sum < 2 ^ 64)
    (hpool : pool < 2 ^ 64) {recipient : String} {credit : ℕ}
    (hget : credits[recipient]? = some credit) :
    splitReward credits pool recipient = witnessShare credits pool recipient credit := by
  rw [splitReward, allocateWitnessRewards_get hcredits hpool, hget]
  rfl

theorem splitReward_of_none (hcredits : (credits.toList.map (·.2)).sum < 2 ^ 64)
    (hpool : pool < 2 ^ 64) {recipient : String} (hget : credits[recipient]? = none) :
    splitReward credits pool recipient = 0 := by
  rw [splitReward, allocateWitnessRewards_get hcredits hpool, hget]
  rfl

theorem splitReward_of_zero (hcredits : (credits.toList.map (·.2)).sum < 2 ^ 64)
    (hpool : pool < 2 ^ 64) {recipient : String} (hzero : credits[recipient]?.getD 0 = 0) :
    splitReward credits pool recipient = 0 := by
  cases hget : credits[recipient]? with
  | none => exact splitReward_of_none hcredits hpool hget
  | some credit =>
      rw [hget] at hzero
      change credit = 0 at hzero
      subst hzero
      rw [splitReward_of_get hcredits hpool hget]
      apply witnessShare_zero
      rw [mem_creditClaims_keys, hget]
      exact lt_irrefl 0

/-- With distinct recipients, an honest split is one that lists the credited witnesses and gives
every recipient what the split does. -/
theorem honestSplit_iff (hcredits : (credits.toList.map (·.2)).sum < 2 ^ 64)
    (hpool : pool < 2 ^ 64) (hdistinct : (records.map (·.recipient)).Nodup) :
    HonestSplit credits pool records ↔
      (∀ witness credit, credits[witness]? = some credit →
        ∃ record ∈ records, record.recipient = witness) ∧
      ∀ record ∈ records, record.verifyReward = splitReward credits pool record.recipient := by
  constructor
  · rintro ⟨hcredited, huncredited⟩
    refine ⟨?_, ?_⟩
    · intro witness credit hget
      obtain ⟨record, hrecord, hrecipient, _⟩ := hcredited witness credit hget
      exact ⟨record, hrecord, hrecipient⟩
    · intro record hrecord
      cases hget : credits[record.recipient]? with
      | none => rw [huncredited record hrecord hget, splitReward_of_none hcredits hpool hget]
      | some credit =>
          obtain ⟨other, hother, hrecipient, hreward⟩ := hcredited _ credit hget
          have hsame : other = record :=
            List.inj_on_of_nodup_map hdistinct hother hrecord hrecipient
          subst hsame
          rw [splitReward, hreward]
          rfl
  · rintro ⟨hpresent, hrewards⟩
    refine ⟨?_, ?_⟩
    · intro witness credit hget
      obtain ⟨record, hrecord, rfl⟩ := hpresent witness credit hget
      refine ⟨record, hrecord, rfl, ?_⟩
      rw [hrewards record hrecord, splitReward_of_get hcredits hpool hget,
        allocateWitnessRewards_get hcredits hpool, hget]
      rfl
    · intro record hrecord hget
      rw [hrewards record hrecord, splitReward_of_none hcredits hpool hget]

/-- The pool the chain infers from the records: what the credited ones hold. -/
def creditedPool (credits : OrderedMap String ℕ) (records : List RewardRecord) : ℕ :=
  wrap64 ((records.filter fun record => 0 < credits[record.recipient]?.getD 0).map
    (·.verifyReward)).sum

/-- The records of an honest split hold its pool, if there are credits to split it by. -/
theorem creditedPool_of_honest (hcredits : (credits.toList.map (·.2)).sum < 2 ^ 64)
    (hpool : pool < 2 ^ 64) (hdistinct : (records.map (·.recipient)).Nodup)
    (hpositive : 0 < (credits.toList.map (·.2)).sum)
    (hhonest : HonestSplit credits pool records) : creditedPool credits records = pool := by
  obtain ⟨hpresent, hrewards⟩ := (honestSplit_iff hcredits hpool hdistinct).mp hhonest
  have hperm : ((records.filter fun record => 0 < credits[record.recipient]?.getD 0).map
      (·.recipient)).Perm ((creditClaims credits).map (·.1)) := by
    refine (List.perm_ext_iff_of_nodup
      (hdistinct.sublist (List.filter_sublist.map _)) (creditClaims_keys_nodup credits)).mpr ?_
    intro witness
    rw [mem_creditClaims_keys]
    constructor
    · intro hmem
      obtain ⟨record, hrecord, rfl⟩ := List.mem_map.mp hmem
      exact of_decide_eq_true (List.mem_filter.mp hrecord).2
    · intro hcredit
      cases hget : credits[witness]? with
      | none =>
          rw [hget] at hcredit
          exact absurd hcredit (lt_irrefl 0)
      | some credit =>
          obtain ⟨record, hrecord, rfl⟩ := hpresent witness credit hget
          exact List.mem_map_of_mem (List.mem_filter.mpr ⟨hrecord, decide_eq_true hcredit⟩)
  have hheld : ((records.filter fun record => 0 < credits[record.recipient]?.getD 0).map
      (·.verifyReward)).sum = pool := by
    calc ((records.filter fun record => 0 < credits[record.recipient]?.getD 0).map
          (·.verifyReward)).sum
        = (((records.filter fun record => 0 < credits[record.recipient]?.getD 0).map
            (·.recipient)).map (splitReward credits pool)).sum := by
          rw [List.map_map]
          congr 1
          apply List.map_congr_left
          intro record hrecord
          exact hrewards record (List.mem_of_mem_filter hrecord)
      _ = (((creditClaims credits).map (·.1)).map (splitReward credits pool)).sum :=
          (hperm.map _).sum_eq
      _ = ((creditClaims credits).map fun claim => witnessShare credits pool claim.1 claim.2).sum := by
          rw [List.map_map]
          congr 1
          apply List.map_congr_left
          rintro ⟨witness, credit⟩ hclaim
          exact splitReward_of_get hcredits hpool (mem_creditClaims.mp hclaim).1
      _ = pool := sum_witnessShare hpositive
  rw [creditedPool, hheld, wrap64_of_lt hpool]

/-- Splitting the inferred pool again gives what the honest split gave. -/
theorem splitReward_creditedPool (hcredits : (credits.toList.map (·.2)).sum < 2 ^ 64)
    (hpool : pool < 2 ^ 64) (hdistinct : (records.map (·.recipient)).Nodup)
    (hhonest : HonestSplit credits pool records) (recipient : String) :
    splitReward credits (creditedPool credits records) recipient =
      splitReward credits pool recipient := by
  by_cases hpositive : 0 < (credits.toList.map (·.2)).sum
  · rw [creditedPool_of_honest hcredits hpool hdistinct hpositive hhonest]
  · -- without credits every split gives nothing
    have hzero : credits[recipient]?.getD 0 = 0 := by
      cases hget : credits[recipient]? with
      | none => rfl
      | some credit =>
          have hmem : credit ∈ credits.toList.map (·.2) :=
            List.mem_map_of_mem (mem_toList.mpr hget)
          have hle := List.single_le_sum (fun _ _ => Nat.zero_le _) _ hmem
          change credit = 0
          omega
    have hinferred : creditedPool credits records < 2 ^ 64 := Nat.mod_lt _ (by norm_num)
    rw [splitReward_of_zero hcredits hinferred hzero, splitReward_of_zero hcredits hpool hzero]

end Split

/-! ## How many credits there are -/

/-- The entries of distinct owners are distinct entries. -/
theorem length_flatMap_prefixedValues_le {V : Type} (owner : V → String)
    (m : OrderedMap (String × String) V) {keys : List String} (hkeys : keys.Nodup) :
    (keys.flatMap (prefixedValues owner m)).length ≤ m.toList.length := by
  have hentries : (keys.flatMap fun key =>
      m.toList.filter fun entry => entry.1.1 = key ∧ owner entry.2 = key).Nodup := by
    rw [List.nodup_flatMap]
    refine ⟨fun key _ => (nodup_toList m).filter _, hkeys.imp ?_⟩
    intro key key' hne entry hentry hentry'
    have hkey := of_decide_eq_true (List.mem_filter.mp hentry).2
    have hkey' := of_decide_eq_true (List.mem_filter.mp hentry').2
    exact hne (hkey.1.symm.trans hkey'.1)
  have hsub : (keys.flatMap fun key =>
      m.toList.filter fun entry => entry.1.1 = key ∧ owner entry.2 = key) ⊆ m.toList := by
    intro entry hentry
    obtain ⟨_, _, hmem⟩ := List.mem_flatMap.mp hentry
    exact List.mem_of_mem_filter hmem
  have hle := (List.subperm_of_subset hentries hsub).length_le
  rw [List.length_flatMap] at hle ⊢
  simpa only [prefixedValues, List.length_map] using hle

/-- The credits of an epoch count stored attestations, each at most once. -/
theorem sum_witnessCredits_le {s : KeeperState} (hwf : WellFormed s) (epochId : ℕ) :
    ((s.witnessCreditsForEpoch epochId).toList.map (·.2)).sum ≤
      s.witnessAttestations.toList.length := by
  have hdistinct := pairwise_records PlaySession.sessionIdHex hwf.sessions
  rw [← List.pairwise_map] at hdistinct
  have hids : (((s.playSessionsForEpoch epochId).filter fun session =>
      (s.sessionSettlements[session.sessionIdHex]?.map (·.valid)).getD false).map
        PlaySession.sessionIdHex).Nodup := by
    have hsub : ((s.playSessionsForEpoch epochId).filter fun session =>
        (s.sessionSettlements[session.sessionIdHex]?.map (·.valid)).getD false).Sublist
          s.playSessions.records :=
      List.filter_sublist.trans (List.filter_sublist.map _)
    exact List.Nodup.sublist (hsub.map _) hdistinct
  have hcounted := sum_tally_le
    (((s.playSessionsForEpoch epochId).filter fun session =>
      (s.sessionSettlements[session.sessionIdHex]?.map (·.valid)).getD false).flatMap
        fun session => (s.witnessAttestationsForSession session.sessionIdHex).map
          (·.witnessAddress))
  have hstored := length_flatMap_prefixedValues_le WitnessAttestation.sessionIdHex
    s.witnessAttestations hids
  rw [List.length_flatMap, List.map_map] at hstored
  simp only [List.length_flatMap, List.length_map] at hcounted
  exact hcounted.trans hstored

/-! ## The chain's check -/

section Check

variable {s : KeeperState} {epochId : ℕ} {records : List RewardRecord}

/-- A record passes when it holds what the split gives its recipient. -/
theorem checkVerifyReward_ok {credits : OrderedMap String ℕ} {pool : ℕ}
    (hcredits : (credits.toList.map (·.2)).sum < 2 ^ 64) (hpool : pool < 2 ^ 64)
    {record : RewardRecord} :
    checkVerifyReward epochId credits (allocateWitnessRewards credits pool) record = .ok () ↔
      record.verifyReward = splitReward credits pool record.recipient := by
  unfold checkVerifyReward
  split
  · next hzero => rw [ensure_eq_ok, splitReward_of_zero hcredits hpool hzero]
  · next hcredit =>
      rw [ensure_eq_ok]
      rfl

/-- An accepted submission lists the credited witnesses, and every record holds what splitting the
inferred pool gives its recipient. -/
theorem validateWitnessRewardSplit_ok (hcredited : (s.witnessCreditsForEpoch epochId).toList ≠ [])
    (hcredits : ((s.witnessCreditsForEpoch epochId).toList.map (·.2)).sum < 2 ^ 64) :
    s.validateWitnessRewardSplit epochId records = .ok () ↔
      (∀ witness credit, (s.witnessCreditsForEpoch epochId)[witness]? = some credit →
        ∃ record ∈ records, record.recipient = witness) ∧
      ∀ record ∈ records, record.verifyReward =
        splitReward (s.witnessCreditsForEpoch epochId)
          (creditedPool (s.witnessCreditsForEpoch epochId) records) record.recipient := by
  have hinferred : creditedPool (s.witnessCreditsForEpoch epochId) records < 2 ^ 64 :=
    Nat.mod_lt _ (by norm_num)
  unfold validateWitnessRewardSplit
  simp only [if_neg hcredited]
  split
  · next witness credit hmissing =>
      have habsent := List.find?_some hmissing
      have hmem := List.mem_of_find?_eq_some hmissing
      constructor
      · intro h
        cases h
      · rintro ⟨hpresent, _⟩
        obtain ⟨record, hrecord, hrecipient⟩ := hpresent witness credit (mem_toList.mp hmem)
        simp only [List.any_eq_true, decide_eq_true_eq, not_exists, not_and] at habsent
        exact absurd hrecipient (habsent record hrecord)
  · next hnone =>
      have hpresent : ∀ witness credit, (s.witnessCreditsForEpoch epochId)[witness]? = some credit →
          ∃ record ∈ records, record.recipient = witness := by
        intro witness credit hget
        have hfound := List.find?_eq_none.mp hnone (witness, credit) (mem_toList.mpr hget)
        simpa only [List.any_eq_true, decide_eq_true_eq, not_not] using hfound
      rw [and_iff_right hpresent]
      change records.forM (checkVerifyReward epochId _
        (allocateWitnessRewards _ (creditedPool _ records))) = .ok () ↔ _
      rw [forM_eq_ok]
      exact forall₂_congr fun record _ => checkVerifyReward_ok hcredits hinferred

/-- With distinct recipients the chain accepts exactly the honest splits of some pool. -/
theorem validateWitnessRewardSplit_iff
    (hcredited : (s.witnessCreditsForEpoch epochId).toList ≠ [])
    (hcredits : ((s.witnessCreditsForEpoch epochId).toList.map (·.2)).sum < 2 ^ 64)
    (hdistinct : (records.map (·.recipient)).Nodup) :
    s.validateWitnessRewardSplit epochId records = .ok () ↔
      ∃ pool < 2 ^ 64, HonestSplit (s.witnessCreditsForEpoch epochId) pool records := by
  have hinferred : creditedPool (s.witnessCreditsForEpoch epochId) records < 2 ^ 64 :=
    Nat.mod_lt _ (by norm_num)
  rw [validateWitnessRewardSplit_ok hcredited hcredits]
  constructor
  · intro hsplit
    exact ⟨_, hinferred, (honestSplit_iff hcredits hinferred hdistinct).mpr hsplit⟩
  · rintro ⟨pool, hpool, hhonest⟩
    obtain ⟨hpresent, hrewards⟩ := (honestSplit_iff hcredits hpool hdistinct).mp hhonest
    refine ⟨hpresent, ?_⟩
    intro record hrecord
    rw [splitReward_creditedPool hcredits hpool hdistinct hhonest, hrewards record hrecord]

/-- More credits earn no less in an honest split, and equal credits the same up to one unit. -/
theorem HonestSplit.fair {credits : OrderedMap String ℕ} {pool : ℕ}
    (hcredits : (credits.toList.map (·.2)).sum < 2 ^ 64) (hpool : pool < 2 ^ 64)
    (hdistinct : (records.map (·.recipient)).Nodup) (h : HonestSplit credits pool records)
    {a b : RewardRecord} (ha : a ∈ records) (hb : b ∈ records) {ca cb : ℕ}
    (hca : credits[a.recipient]? = some ca) (hcb : credits[b.recipient]? = some cb) :
    (ca < cb → a.verifyReward ≤ b.verifyReward) ∧
      (ca = cb → a.verifyReward ≤ b.verifyReward + 1) := by
  obtain ⟨_, hrewards⟩ := (honestSplit_iff hcredits hpool hdistinct).mp h
  rw [hrewards a ha, hrewards b hb, splitReward_of_get hcredits hpool hca,
    splitReward_of_get hcredits hpool hcb]
  refine ⟨?_, ?_⟩
  · intro hlt
    by_cases hzero : ca = 0
    · subst hzero
      rw [witnessShare_zero]
      · exact Nat.zero_le _
      · rw [mem_creditClaims_keys, hca]
        exact lt_irrefl 0
    · exact allotment_mono (ranks_remainderRanking credits pool) (creditClaims_keys_nodup credits)
        (mem_creditClaims.mpr ⟨hca, hzero⟩) (mem_creditClaims.mpr ⟨hcb, by omega⟩) hlt
  · rintro rfl
    exact allotment_le_succ pool (creditClaims credits) (remainderRanking credits pool)
      a.recipient b.recipient ca

end Check

/-- In every state the chain reaches, and with fewer than 2^64 attestations in the store, a
submission with distinct recipients is accepted exactly when it is an honest split of some pool,
and then it is fair to the credited witnesses. -/
theorem witness_split_accepted_iff (env : Env) (bank : Bank) (genesisUnix : ℤ)
    (inputs : List Input) (epochId : ℕ) (records : List RewardRecord)
    (hstored : (run (next env) (defaultGenesis bank genesisUnix)
      inputs).witnessAttestations.toList.length < 2 ^ 64)
    (hcredited : ((run (next env) (defaultGenesis bank genesisUnix)
      inputs).witnessCreditsForEpoch epochId).toList ≠ [])
    (hdistinct : (records.map (·.recipient)).Nodup) :
    let s := run (next env) (defaultGenesis bank genesisUnix) inputs
    let credits := s.witnessCreditsForEpoch epochId
    (s.validateWitnessRewardSplit epochId records = .ok () ↔
      ∃ pool < 2 ^ 64, HonestSplit credits pool records) ∧
    (s.validateWitnessRewardSplit epochId records = .ok () →
      ∀ a ∈ records, ∀ b ∈ records, ∀ ca cb,
        credits[a.recipient]? = some ca → credits[b.recipient]? = some cb →
        (ca < cb → a.verifyReward ≤ b.verifyReward) ∧
          (ca = cb → a.verifyReward ≤ b.verifyReward + 1)) := by
  intro s credits
  have hwf : WellFormed s := wellFormed_run env (wellFormed_defaultGenesis bank genesisUnix) inputs
  have hcredits : (credits.toList.map (·.2)).sum < 2 ^ 64 :=
    lt_of_le_of_lt (sum_witnessCredits_le hwf epochId) hstored
  have hexact := validateWitnessRewardSplit_iff hcredited hcredits hdistinct
  refine ⟨hexact, ?_⟩
  intro haccepts a ha b hb ca cb hca hcb
  obtain ⟨pool, hpool, hhonest⟩ := hexact.mp haccepts
  exact hhonest.fair hcredits hpool hdistinct ha hb hca hcb

namespace Sample

/-- The witness holds the whole verify pool, the player none of it. -/
def splitRecords : List RewardRecord :=
  [{ epochId := 7, recipient := alice }, { epochId := 7, recipient := bob, verifyReward := 9 }]

end Sample

/-- The only witness of the epoch gets the whole pool. -/
theorem witness_split_accepted_iff_single :
    let s := run (next Sample.env) Sample.genesis (Sample.settledSession 0)
    let credits := s.witnessCreditsForEpoch 7
    (s.validateWitnessRewardSplit 7 Sample.splitRecords = .ok () ↔
      ∃ pool < 2 ^ 64, HonestSplit credits pool Sample.splitRecords) ∧
    (s.validateWitnessRewardSplit 7 Sample.splitRecords = .ok () →
      ∀ a ∈ Sample.splitRecords, ∀ b ∈ Sample.splitRecords, ∀ ca cb,
        credits[a.recipient]? = some ca → credits[b.recipient]? = some cb →
        (ca < cb → a.verifyReward ≤ b.verifyReward) ∧
          (ca = cb → a.verifyReward ≤ b.verifyReward + 1)) :=
  witness_split_accepted_iff Sample.env Sample.bank 0 (Sample.settledSession 0) 7 Sample.splitRecords
    (by decide +kernel) (by decide +kernel) (by decide)

end PoleProtocol.Chain
