import PoleProtocol.Chain.WellFormed
import PoleProtocol.Framework.Listings
import PoleProtocol.Node.EpochAggregation

/-!
# Aggregates off chain and on chain

The node has one aggregate for each slot and app, the chain keeps one for each app of an epoch. The
two agree on root and leaf count exactly when no app was observed in two slots of the epoch.
-/

namespace PoleProtocol.Node

open Framework Ledger

/-! ## On chain -/

/-- The record as it is submitted to the chain. -/
def chainAggregateRecord (record : AggregateRecord) : Chain.AggregateRecord where
  epochId := record.epochId
  appId := record.appId
  totalWeightUnits := record.gvsMicrounits
  playerCount := record.medianPlayers

def chainAggregateKey (record : Chain.AggregateRecord) : ℕ × ℕ := (record.epochId, record.appId)

/-- One upsert for each record. -/
def upsertAggregates (chainEnv : Chain.Env) (operator : String) (s : Chain.KeeperState)
    (records : List Chain.AggregateRecord) : Except Chain.ChainError Chain.KeeperState :=
  records.foldlM (fun s record => s.upsertAggregateRecord chainEnv ⟨operator, some record⟩) s

/-- The chain holds no aggregate of the epoch. -/
def EmptyEpoch (s : Chain.KeeperState) (epochId : ℕ) : Prop :=
  ∀ appId : ℕ, s.aggregateRecords[(epochId, appId)]? = none

section Chain

open Chain

variable {chainEnv : Chain.Env} {operator : String} {s s' : KeeperState} {epochId : ℕ}

theorem upsertAggregateRecord_records {record : Chain.AggregateRecord}
    (h : s.upsertAggregateRecord chainEnv ⟨operator, some record⟩ = .ok s') :
    s'.aggregateRecords = s.aggregateRecords.insert (chainAggregateKey record) record := by
  simp only [KeeperState.upsertAggregateRecord, bind_eq_ok, ensure_eq_ok, exists_const,
    require_eq_ok, pure_eq_ok, Option.some.injEq, exists_eq_left'] at h
  obtain ⟨_, _, _, _, _, rfl⟩ := h
  rcases KeeperState.refreshAggregatesCommitment_cases chainEnv (s.setAggregateRecord record)
    record.epochId with heq | ⟨commit, _, _, heq⟩
  · rw [heq]
    rfl
  · rw [heq]
    rfl

theorem upsertAggregates_records {records : List Chain.AggregateRecord}
    (h : upsertAggregates chainEnv operator s records = .ok s') :
    s'.aggregateRecords = storeAll chainAggregateKey s.aggregateRecords records := by
  induction records generalizing s with
  | nil =>
      cases h
      rfl
  | cons record records ih =>
      rw [upsertAggregates, List.foldlM_cons, bind_eq_ok] at h
      obtain ⟨s₁, hfirst, hrest⟩ := h
      rw [ih hrest, upsertAggregateRecord_records hfirst]
      rfl

/-- What the chain lists for an epoch whose records were all upserted. -/
theorem aggregateRecordsForEpoch_upserted (hempty : EmptyEpoch s epochId)
    {records : List Chain.AggregateRecord} (hepoch : ∀ record ∈ records, record.epochId = epochId)
    (h : upsertAggregates chainEnv operator s records = .ok s') :
    s'.aggregateRecordsForEpoch epochId =
      OrderedMap.records (storeAll chainAggregateKey ∅ records) := by
  have hkeyed := keyedBy_storeAll (OrderedMap.keyedBy_empty chainAggregateKey) records
  have hstored : ∀ (k : ℕ × ℕ) (record : Chain.AggregateRecord),
      (storeAll chainAggregateKey ∅ records)[k]? = some record →
      k.1 = epochId ∧ record.epochId = epochId := by
    intro k record hget
    have hkey := hkeyed k record hget
    rw [get_storeAll] at hget
    have hfind : records.reverse.find? (fun r => chainAggregateKey r = k) = some record := by
      simpa using hget
    have hrecord := hepoch record (List.mem_reverse.mp (List.mem_of_find?_eq_some hfind))
    exact ⟨by rw [← hkey]; exact hrecord, hrecord⟩
  rw [KeeperState.aggregateRecordsForEpoch, prefixedValues, upsertAggregates_records h]
  -- the filter selects what was upserted, since nothing else is stored under the epoch
  let selected : (ℕ × ℕ) × Chain.AggregateRecord → Bool := fun entry =>
    entry.1.1 = epochId ∧ entry.2.epochId = epochId
  have hsame : (storeAll chainAggregateKey s.aggregateRecords records).toList.filter selected =
      (storeAll chainAggregateKey ∅ records).toList.filter selected := by
    refine OrderedMap.filter_toList_congr selected ?_
    rintro ⟨epoch, appId⟩ record hselected
    obtain ⟨rfl, _⟩ : epoch = epochId ∧ record.epochId = epochId := of_decide_eq_true hselected
    rw [get_storeAll, get_storeAll, hempty appId]
    simp
  rw [hsame, List.filter_eq_self.mpr]
  · rfl
  · rintro ⟨k, record⟩ hmem
    exact decide_eq_true (hstored k record (OrderedMap.mem_toList.mp hmem))

end Chain

/-! ## Off chain -/

theorem aggregateRecordToChainJson_eq (record : AggregateRecord) :
    aggregateRecordToChainJson record = Chain.JsonRecord.json (chainAggregateRecord record) := by
  rw [aggregateRecordToChainJson, serializeStruct_eq]
  · simp only [List.map_cons, List.map_nil, natField_member]
    rfl
  · refine plain_of_names ?_
    simp [recordFieldNames, natField]

/-- Over records with distinct keys, the node and the chain build the same tree. -/
theorem aggregateRecordRoot_eq (env : NodeEnv) {records : List AggregateRecord}
    (hkeys : (records.map aggregateKey).Nodup) {upserted : List Chain.AggregateRecord}
    (hperm : upserted.Perm (records.map chainAggregateRecord)) :
    (Chain.merkleRootHexForRecords env.chainSha256
      (OrderedMap.records (storeAll chainAggregateKey ∅ upserted))).root =
        hex32 (aggregateRecordRoot env records) := by
  have hmapped : (records.map chainAggregateRecord).map chainAggregateKey =
      records.map aggregateKey := by
    rw [List.map_map]
    rfl
  have hupserted : (upserted.map chainAggregateKey).Nodup := by
    rw [(hperm.map chainAggregateKey).nodup_iff, hmapped]
    exact hkeys
  have hsorted : sortByKey chainAggregateKey upserted =
      (sortByKey aggregateKey records).map chainAggregateRecord := by
    have hmap : (sortByKey aggregateKey records).map chainAggregateRecord =
        sortByKey chainAggregateKey (records.map chainAggregateRecord) :=
      sortByKey_map fun _ _ => rfl
    rw [hmap]
    refine sortByKey_eq (hperm.trans (sortByKey_perm _ _).symm) (sortByKey_ordered ?_)
    rw [hmapped]
    exact hkeys
  rw [records_storeAll hupserted, hsorted, merkleRootHexForRecords_root, aggregateRecordRoot,
    List.map_map]
  simp only [Function.comp_def, aggregateRecordToChainJson_eq]

/-! ## Groups -/

/-- The observations of the epoch in all batches. -/
def observedInEpoch (epochId : ℕ) (batches : List AssembledBatch) : List ObservationRecord :=
  batches.flatMap fun batch => batch.observations.filter (·.epochId = epochId)

/-- No app is observed in two slots. -/
def OneSlotPerApp (observations : List ObservationRecord) : Prop :=
  ∀ a ∈ observations, ∀ b ∈ observations, a.appId = b.appId → a.slotId = b.slotId

instance (observations : List ObservationRecord) : Decidable (OneSlotPerApp observations) :=
  inferInstanceAs (Decidable (∀ a ∈ observations, ∀ b ∈ observations, _ → _))

/-- The apps that are observed. -/
def observedApps (observations : List ObservationRecord) : Finset ℕ :=
  (observations.map (·.appId)).toFinset

section Groups

variable (env : NodeEnv) (encodeBatchCommit : BatchCommit → Bytes) (config : AggregationConfig)
  (epochId : ℕ) (batches : List AssembledBatch)

theorem epochInputs_observations :
    (epochInputs env encodeBatchCommit epochId batches).map (·.observation) =
      observedInEpoch epochId batches := by
  rw [epochInputs, observedInEpoch, List.map_flatMap]
  simp [List.map_map, Function.comp_def]

/-- The slots and apps that have a group. -/
def groupKeys : List (ℕ × ℕ) :=
  (groupInputs (epochInputs env encodeBatchCommit epochId batches)).toList.map (·.1)

theorem groupKeys_nodup : (groupKeys env encodeBatchCommit epochId batches).Nodup :=
  OrderedMap.nodup_keys _

theorem mem_groupKeys {slotId appId : ℕ} :
    (slotId, appId) ∈ groupKeys env encodeBatchCommit epochId batches ↔
      ∃ observation ∈ observedInEpoch epochId batches,
        observation.slotId = slotId ∧ observation.appId = appId := by
  have hkeys : OrderedMap.keySet (groupInputs (epochInputs env encodeBatchCommit epochId batches)) =
      ((epochInputs env encodeBatchCommit epochId batches).map groupKey).toFinset := by
    have hfold := OrderedMap.keySet_foldl_update groupKey
      (fun input stored => stored.getD [] ++ [input])
      (epochInputs env encodeBatchCommit epochId batches) ∅
    rw [OrderedMap.keySet_empty, Finset.empty_union] at hfold
    exact hfold
  have hlisted : (slotId, appId) ∈ groupKeys env encodeBatchCommit epochId batches ↔
      (slotId, appId) ∈
        OrderedMap.keySet (groupInputs (epochInputs env encodeBatchCommit epochId batches)) := by
    rw [groupKeys, Std.ExtTreeMap.map_fst_toList_eq_keys, OrderedMap.keySet, List.mem_toFinset]
  rw [hlisted, hkeys, List.mem_toFinset,
    ← epochInputs_observations env encodeBatchCommit epochId batches]
  simp only [List.mem_map, groupKey, Prod.mk.injEq, exists_exists_and_eq_and]

theorem localAggregates_keys :
    (localAggregates env encodeBatchCommit config epochId batches).map aggregateKey =
      (groupKeys env encodeBatchCommit epochId batches).map fun key => (epochId, key.2) := by
  simp only [localAggregates, computeLocalEpochAggregation, groupKeys, List.map_map]
  rfl

/-- The records have distinct keys exactly when no app is observed in two slots. -/
theorem localAggregates_nodup_iff :
    ((localAggregates env encodeBatchCommit config epochId batches).map aggregateKey).Nodup ↔
      OneSlotPerApp (observedInEpoch epochId batches) := by
  rw [localAggregates_keys, List.nodup_map_iff_inj_on (groupKeys_nodup _ _ _ _)]
  constructor
  · intro hinj a ha b hb happ
    have hsame := hinj (a.slotId, a.appId)
      ((mem_groupKeys _ _ _ _).mpr ⟨a, ha, rfl, rfl⟩) (b.slotId, b.appId)
      ((mem_groupKeys _ _ _ _).mpr ⟨b, hb, rfl, rfl⟩) (by rw [happ])
    exact congrArg Prod.fst hsame
  · rintro hone ⟨slotA, appA⟩ hA ⟨slotB, appB⟩ hB heq
    obtain ⟨a, ha, rfl, rfl⟩ := (mem_groupKeys _ _ _ _).mp hA
    obtain ⟨b, hb, rfl, rfl⟩ := (mem_groupKeys _ _ _ _).mp hB
    have happ : a.appId = b.appId := congrArg Prod.snd heq
    rw [hone a ha b hb happ, happ]

/-- There are as many keys as observed apps. -/
theorem card_localAggregates_keys :
    ((localAggregates env encodeBatchCommit config epochId batches).map aggregateKey).toFinset.card =
      (observedApps (observedInEpoch epochId batches)).card := by
  have hset : ((localAggregates env encodeBatchCommit config epochId batches).map
      aggregateKey).toFinset =
        (observedApps (observedInEpoch epochId batches)).image fun appId => (epochId, appId) := by
    ext key
    rw [localAggregates_keys, List.mem_toFinset, List.mem_map, Finset.mem_image]
    simp only [observedApps, List.mem_toFinset, List.mem_map]
    constructor
    · rintro ⟨⟨slotId, appId⟩, hmem, rfl⟩
      obtain ⟨o, ho, _, happ⟩ := (mem_groupKeys _ _ _ _).mp hmem
      exact ⟨appId, ⟨o, ho, happ⟩, rfl⟩
    · rintro ⟨appId, ⟨o, ho, rfl⟩, rfl⟩
      exact ⟨(o.slotId, o.appId), (mem_groupKeys _ _ _ _).mpr ⟨o, ho, rfl, rfl⟩, rfl⟩
  rw [hset]
  exact Finset.card_image_of_injective _ fun a b heq => congrArg Prod.snd heq

end Groups

/-! ## Agreement -/

theorem merkleRootHexForRecords_leafCount {α : Type} [Chain.JsonRecord α] (sha256 : Bytes → Bytes)
    (records : List α) :
    (Chain.merkleRootHexForRecords sha256 records).leafCount = wrap32 records.length := by
  unfold Chain.merkleRootHexForRecords
  split
  · next hempty =>
      rw [hempty]
      rfl
  · rfl

/-- A list is as long as it has values exactly when it repeats none. -/
theorem card_toFinset_eq_length_iff {α : Type} [DecidableEq α] (xs : List α) :
    xs.toFinset.card = xs.length ↔ xs.Nodup := by
  have hiff := Multiset.toFinset_card_eq_card_iff_nodup (m := (xs : Multiset α))
  simpa using hiff

/-- After all records of the epoch were upserted, in any order, into an epoch without aggregates,
the chain derives the node's root and count exactly when no app was observed in two slots (and
there are fewer apps than a 32-bit word can count). -/
theorem aggregates_agree_iff (env : NodeEnv) (encodeBatchCommit : BatchCommit → Bytes)
    (config : AggregationConfig) (epochId : ℕ) (batches : List AssembledBatch)
    {chainEnv : Chain.Env} {operator : String} {s s' : Chain.KeeperState}
    (hempty : EmptyEpoch s epochId) {upserted : List Chain.AggregateRecord}
    (hperm : upserted.Perm
      ((localAggregates env encodeBatchCommit config epochId batches).map chainAggregateRecord))
    (hupserts : upsertAggregates chainEnv operator s upserted = .ok s') :
    Chain.merkleRootHexForRecords env.chainSha256 (s'.aggregateRecordsForEpoch epochId) =
        ⟨hex32 (aggregateRecordRoot env
            (localAggregates env encodeBatchCommit config epochId batches)),
          (localAggregates env encodeBatchCommit config epochId batches).length⟩ ↔
      OneSlotPerApp (observedInEpoch epochId batches) ∧
        (observedApps (observedInEpoch epochId batches)).card < 2 ^ 32 := by
  have hcard := card_localAggregates_keys env encodeBatchCommit config epochId batches
  rw [← localAggregates_nodup_iff env encodeBatchCommit config, ← hcard]
  have hepoch : ∀ record ∈ localAggregates env encodeBatchCommit config epochId batches,
      record.epochId = epochId := by
    intro record hmem
    obtain ⟨group, hgroup, rfl⟩ := List.mem_map.mp hmem
    obtain ⟨entry, _, rfl⟩ := List.mem_map.mp hgroup
    rfl
  generalize localAggregates env encodeBatchCommit config epochId batches = records at *
  have hlisted := aggregateRecordsForEpoch_upserted hempty (by
    intro record hmem
    obtain ⟨own, hown, rfl⟩ := List.mem_map.mp (hperm.subset hmem)
    exact hepoch own hown) hupserts
  have hkeys : (upserted.map chainAggregateKey).Perm (records.map aggregateKey) := by
    have hmapped := hperm.map chainAggregateKey
    rw [List.map_map] at hmapped
    exact hmapped
  have hlength : (OrderedMap.records (storeAll chainAggregateKey ∅ upserted)).length =
      (records.map aggregateKey).toFinset.card := by
    rw [length_records_storeAll, List.toFinset_eq_of_perm _ _ hkeys]
  have hle : (records.map aggregateKey).toFinset.card ≤ records.length := by
    have h := List.toFinset_card_le (records.map aggregateKey)
    rwa [List.length_map] at h
  have hfull := card_toFinset_eq_length_iff (records.map aggregateKey)
  rw [List.length_map] at hfull
  rw [hlisted]
  constructor
  · intro hagree
    have hcount := congrArg Chain.MerkleCommitment.leafCount hagree
    rw [merkleRootHexForRecords_leafCount, hlength] at hcount
    dsimp only at hcount
    have hwrap : wrap32 (records.map aggregateKey).toFinset.card ≤
        (records.map aggregateKey).toFinset.card := Nat.mod_le _ _
    have hsmall : wrap32 (records.map aggregateKey).toFinset.card < 2 ^ 32 :=
      Nat.mod_lt _ (by norm_num)
    exact ⟨hfull.mp (by omega), by omega⟩
  · rintro ⟨hnodup, hsmall⟩
    have hroot := aggregateRecordRoot_eq env hnodup hperm
    have hcount := merkleRootHexForRecords_leafCount env.chainSha256
      (OrderedMap.records (storeAll chainAggregateKey ∅ upserted))
    have hwrap : wrap32 (records.map aggregateKey).toFinset.card =
        (records.map aggregateKey).toFinset.card := Nat.mod_eq_of_lt hsmall
    rw [hlength, hwrap, hfull.mpr hnodup] at hcount
    generalize Chain.merkleRootHexForRecords env.chainSha256
      (OrderedMap.records (storeAll chainAggregateKey ∅ upserted)) = derived at hroot hcount
    obtain ⟨root, leafCount⟩ := derived
    dsimp only at hroot hcount
    rw [hroot, hcount]

namespace AggregateSample

/-- One reading of an app in a slot of epoch one. -/
def observation (slotId appId : ℕ) : ObservationRecord where
  epochId := 1
  slotId
  appId
  sourceKind := .steam
  sourceConfidencePpm := 1000000
  observedPlayers := 2000
  observedAtMillis := 1000
  collectorId := 1
  rawBodyCid := "cid://steam-observation/00"
  rawBodyHash := 0
  collectorSignature := []

def batch (observations : List ObservationRecord) : AssembledBatch where
  batchCommit := ⟨1, 1, 1, 2, ⟨0, 2⟩, "cid://batch-payload/00", 2, 0⟩
  payloadHash := 0
  payloadCid := "cid://batch-payload/00"
  payloadBytes := []
  observations

def config : AggregationConfig := ⟨288, none⟩

def aggregates (observations : List ObservationRecord) : List AggregateRecord :=
  localAggregates RootSample.env (fun _ => []) config 1 [batch observations]

/-- A chain on which one node may upsert aggregates. -/
def chain : Chain.KeeperState :=
  run (Chain.next Chain.Sample.env) Chain.Sample.genesis
    [Chain.Sample.register Chain.Sample.alice]

def upserted (observations : List ObservationRecord) :
    Except Chain.ChainError Chain.KeeperState :=
  upsertAggregates Chain.Sample.env Chain.Sample.alice chain
    ((aggregates observations).map chainAggregateRecord)

end AggregateSample

open AggregateSample in
/-- Two apps in two slots. -/
theorem aggregates_agree_two_apps :
    ∃ s', upserted [observation 1 730, observation 2 570] = .ok s' ∧
      Chain.merkleRootHexForRecords RootSample.env.chainSha256 (s'.aggregateRecordsForEpoch 1) =
        ⟨hex32 (aggregateRecordRoot RootSample.env
          (aggregates [observation 1 730, observation 2 570])), 2⟩ := by
  have hrun : (upserted [observation 1 730, observation 2 570]).isOk = true ∧
      (aggregates [observation 1 730, observation 2 570]).length = 2 := by decide +kernel
  obtain ⟨hok, hlength⟩ := hrun
  cases hupserted : upserted [observation 1 730, observation 2 570] with
  | error e =>
      rw [hupserted] at hok
      cases hok
  | ok s' =>
      have hagree := (aggregates_agree_iff RootSample.env (fun _ => []) config 1
        [batch [observation 1 730, observation 2 570]] (fun _ => rfl) (List.Perm.refl _)
        hupserted).mpr ⟨by decide, by decide⟩
      change _ = Chain.MerkleCommitment.mk _ (aggregates _).length at hagree
      rw [hlength] at hagree
      exact ⟨s', rfl, hagree⟩

open AggregateSample in
/-- One app in two slots: the node counts two aggregates, the chain keeps one. -/
theorem two_slots_split_aggregates :
    ∃ s', upserted [observation 1 730, observation 2 730] = .ok s' ∧
      (aggregates [observation 1 730, observation 2 730]).length = 2 ∧
      (Chain.merkleRootHexForRecords RootSample.env.chainSha256
        (s'.aggregateRecordsForEpoch 1)).leafCount = 1 ∧
      Chain.merkleRootHexForRecords RootSample.env.chainSha256 (s'.aggregateRecordsForEpoch 1) ≠
        ⟨hex32 (aggregateRecordRoot RootSample.env
            (aggregates [observation 1 730, observation 2 730])),
          (aggregates [observation 1 730, observation 2 730]).length⟩ := by
  have hrun : (upserted [observation 1 730, observation 2 730]).isOk = true ∧
      (aggregates [observation 1 730, observation 2 730]).length = 2 ∧
      ((upserted [observation 1 730, observation 2 730]).toOption.map fun s' =>
        (s'.aggregateRecordsForEpoch 1).length) = some 1 := by decide +kernel
  obtain ⟨hok, hlength, hstored⟩ := hrun
  cases hupserted : upserted [observation 1 730, observation 2 730] with
  | error e =>
      rw [hupserted] at hok
      cases hok
  | ok s' =>
      rw [hupserted] at hstored
      have hone : (s'.aggregateRecordsForEpoch 1).length = 1 := Option.some.inj hstored
      have hcount := merkleRootHexForRecords_leafCount RootSample.env.chainSha256
        (s'.aggregateRecordsForEpoch 1)
      rw [hone] at hcount
      refine ⟨s', rfl, hlength, hcount, ?_⟩
      intro heq
      rw [heq] at hcount
      dsimp only at hcount
      rw [hlength] at hcount
      cases hcount

end PoleProtocol.Node
