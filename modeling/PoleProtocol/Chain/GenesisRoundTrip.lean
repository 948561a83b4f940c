import PoleProtocol.Chain.Genesis
import PoleProtocol.Chain.Ownership
import PoleProtocol.Chain.Writes

/-!
# Export and import

Which chains survive their own genesis document. Every collection the document lists holds records
under their own keys that pass the document's checks, so a reached state comes back up to the
collections the document leaves out.
-/

namespace PoleProtocol.Chain

open Framework OrderedMap KeeperState

variable {env : Env} {s s' : KeeperState} {input : Input}

/-! ## Texts as keys

An epoch is written in digits and an address holds no slash, so the texts tell records apart as the
keys of the collections do. -/

theorem claimText_inj {a b : ClaimedReward} (h : claimText a = claimText b) :
    (a.epochId, a.recipient) = (b.epochId, b.recipient) := by
  obtain ⟨hepoch, hrecipient⟩ :=
    slash_append_inj (slash_not_mem_toString _) (slash_not_mem_toString _) h
  rw [toString_nat_injective hepoch]
  exact congrArg _ hrecipient

theorem aggregateText_inj {a b : AggregateRecord} (h : aggregateText a = aggregateText b) :
    (a.epochId, a.appId) = (b.epochId, b.appId) := by
  obtain ⟨hepoch, happ⟩ :=
    slash_append_inj (slash_not_mem_toString _) (slash_not_mem_toString _) h
  rw [toString_nat_injective hepoch, toString_nat_injective happ]

/-- Receipts are told apart when no storer's address holds a slash. -/
theorem receiptText_inj {a b : ReplicaReceipt} (ha : '/' ∉ a.storerAddress.toList)
    (hb : '/' ∉ b.storerAddress.toList) (h : receiptText a = receiptText b) :
    (a.epochId, a.storerAddress, a.payloadCid) = (b.epochId, b.storerAddress, b.payloadCid) := by
  have hsplit : ∀ r : ReplicaReceipt, receiptText r =
      toString r.epochId ++ "/" ++ (r.storerAddress ++ "/" ++ r.payloadCid) := by
    intro r
    simp only [receiptText, toString, String.append_assoc]
  rw [hsplit, hsplit] at h
  obtain ⟨hepoch, hrest⟩ :=
    slash_append_inj (slash_not_mem_toString _) (slash_not_mem_toString _) h
  obtain ⟨hstorer, hcid⟩ := slash_append_inj ha hb hrest
  rw [toString_nat_injective hepoch, hstorer, hcid]

/-! ## What every reached state can export -/

/-- The address was accepted by the codec. -/
def Decodes (env : Env) (text : String) : Prop :=
  ∃ address : Bytes, env.accAddressFromBech32 text = .ok address

/-- The observers' collections hold what the document's checks accept. -/
structure ExportsObservations (env : Env) (s : KeeperState) : Prop where
  nodes : KeyedBy NodeRecord.operatorAddress s.nodes
  operators : ∀ (operator : String) (node : NodeRecord), s.nodes[operator]? = some node →
    node.operatorAddress ≠ "" ∧ Decodes env operator
  batchCommits : KeyedBy batchCommitKey s.batchCommits
  availability : KeyedBy (fun record =>
    (record.epochId, record.operatorAddress, record.payloadCid)) s.availability
  weights : KeyedBy (fun entry => (entry.appId, entry.effectiveFromEpochId)) s.gameWeightEntries
  positive : ∀ (key : ℕ × ℕ) (entry : GameWeightEntry), s.gameWeightEntries[key]? = some entry →
    entry.gameWeightPpm ≠ 0
  receipts : KeyedBy (fun receipt =>
    (receipt.epochId, receipt.storerAddress, receipt.payloadCid)) s.replicaReceipts
  storers : ∀ (key : ℕ × String × String) (receipt : ReplicaReceipt),
    s.replicaReceipts[key]? = some receipt →
    receipt.payloadCid ≠ "" ∧ receipt.storerAddress ≠ "" ∧ Decodes env receipt.storerAddress
  heartbeats : KeyedBy (fun heartbeat => (heartbeat.sessionIdHex, heartbeat.bucketIndex))
    s.playHeartbeats

/-- So do the parameters, the commits, aggregates, challenges, claims and settlements. -/
structure ExportsRecords (s : KeeperState) : Prop where
  stored : s.params.isSome = true
  windows : ∀ (epochId : ℕ) (commit : EpochCommit), s.epochCommits[epochId]? = some commit →
    commit.challengeOpenHeight < commit.challengeDeadlineHeight
  aggregates : KeyedBy (fun record => (record.epochId, record.appId)) s.aggregateRecords
  identified : ∀ (id : String) (challenge : Challenge), s.challenges[id]? = some challenge →
    challenge.challengeIdHex ≠ ""
  claims : KeyedBy (fun claim => (claim.epochId, claim.recipient)) s.claimedRewards
  settlements : KeyedBy SessionSettlement.sessionIdHex s.sessionSettlements

private theorem exportsObservations_of_step (h : ExportsObservations env s)
    (hok : step env s input = .ok s') : ExportsObservations env s' := by
  cases write_of_step hok with
  | node ctx msg node address owner named decoded =>
      refine { h with nodes := keyedBy_insert _ h.nodes node, operators := ?_ }
      intro operator stored hget
      rcases get_insert_cases hget with ⟨rfl, rfl⟩ | ⟨_, hstored⟩
      · exact ⟨named, address, decoded⟩
      · exact h.operators operator stored hstored
  | batch => exact { h with batchCommits := keyedBy_insert _ h.batchCommits _ }
  | receipt ctx msg receipt record storer named payload found =>
      refine { h with
        receipts := keyedBy_insert _ h.receipts receipt
        availability := keyedBy_insert _ h.availability record
        storers := ?_ }
      intro key stored hget
      rcases get_insert_cases hget with ⟨_, rfl⟩ | ⟨_, hstored⟩
      · exact ⟨payload, named, (h.operators _ storer found).2⟩
      · exact h.storers key stored hstored
  | verification => exact { h with }
  | weight ctx msg entry positive =>
      refine { h with weights := keyedBy_insert _ h.weights entry, positive := ?_ }
      intro key stored hget
      rcases get_insert_cases hget with ⟨_, rfl⟩ | ⟨_, hstored⟩
      · exact positive
      · exact h.positive key stored hstored
  | heartbeat ctx msg heartbeat =>
      exact { h with heartbeats := keyedBy_insert _ h.heartbeats heartbeat }
  | attestation => exact { h with }
  | elsewhere input s' other same =>
      exact
        { nodes := same.nodes ▸ h.nodes
          operators := same.nodes ▸ h.operators
          batchCommits := same.batchCommits ▸ h.batchCommits
          availability := same.availability ▸ h.availability
          weights := same.gameWeightEntries ▸ h.weights
          positive := same.gameWeightEntries ▸ h.positive
          receipts := same.replicaReceipts ▸ h.receipts
          storers := same.replicaReceipts ▸ h.storers
          heartbeats := same.playHeartbeats ▸ h.heartbeats }

private theorem exportsRecords_setEpochCommit (h : ExportsRecords s) {commit : EpochCommit}
    (hwindow : commit.challengeOpenHeight < commit.challengeDeadlineHeight) :
    ExportsRecords (s.setEpochCommit commit) := by
  refine { h with windows := ?_ }
  intro epochId stored hget
  rcases get_insert_cases hget with ⟨_, rfl⟩ | ⟨_, hstored⟩
  · exact hwindow
  · exact h.windows epochId stored hstored

private theorem exportsRecords_setChallenge (h : ExportsRecords s) {challenge : Challenge}
    (hid : challenge.challengeIdHex ≠ "") : ExportsRecords (s.setChallenge challenge) := by
  refine { h with identified := ?_ }
  intro id stored hget
  rcases get_insert_cases hget with ⟨_, rfl⟩ | ⟨_, hstored⟩
  · exact hid
  · exact h.identified id stored hstored

private theorem exportsRecords_of_step (h : ExportsRecords s) (hok : step env s input = .ok s') :
    ExportsRecords s' := by
  have heffect := effect_of_step hok
  cases heffect with
  | params => exact { h with stored := rfl }
  | aggregate ctx msg record =>
      have hset : ExportsRecords (s.setAggregateRecord record) :=
        { h with aggregates := keyedBy_insert _ h.aggregates record }
      rcases refreshAggregatesCommitment_cases env (s.setAggregateRecord record) record.epochId with
        heq | ⟨commit, hcommit, _, heq⟩
      · rw [heq]
        exact hset
      · rw [heq]
        exact exportsRecords_setEpochCommit hset (hset.windows _ commit hcommit)
  | commit ctx msg commit supplied =>
      simp only [step, handle, commitEpoch, bind_eq_ok, ensure_eq_ok, exists_const, require_eq_ok,
        supplied, Option.some.injEq, exists_eq_left'] at hok
      exact exportsRecords_setEpochCommit h hok.2.2.1
  | finalized ctx msg commit found =>
      exact exportsRecords_setEpochCommit h (h.windows _ commit found)
  | opened ctx msg challenge bank supplied =>
      simp only [step, handle, openChallenge, bind_eq_ok, ensure_eq_ok, exists_const,
        require_eq_ok, supplied, Option.some.injEq, exists_eq_left'] at hok
      have hbank : ExportsRecords { s with bank } := { h with }
      exact exportsRecords_setChallenge hbank hok.2.2.1
  | resolved ctx msg stored settled slashed rewarded commit found authorized final settles slashes
      rewards committed =>
      obtain ⟨bank, rewardRecords, hrewarded⟩ := resolution_frame settles slashes
      rw [rewards] at hrewarded
      have hmoved : ExportsRecords rewarded := hrewarded ▸ { h with }
      refine exportsRecords_setChallenge (exportsRecords_setEpochCommit hmoved ?_) ?_
      · exact h.windows _ commit committed
      · exact h.identified _ stored found
  | claimed ctx msg record recipient paid bank claim =>
      exact { h with claims := keyedBy_insert _ h.claims claim }
  | rewards ctx msg commit records =>
      obtain ⟨rewardRecords, hframe⟩ := setRewardRecords_frame s records
      exact hframe ▸ { h with }
  | settled => exact { h with settlements := keyedBy_insert _ h.settlements _ }
  | quiet | burned | session | attested | emitted => exact { h with }

/-- Every reached state. -/
theorem exports_run (env : Env) (bank : Bank) (genesisUnix : ℤ) (inputs : List Input) :
    WellFormed (run (next env) (defaultGenesis bank genesisUnix) inputs) ∧
      ExportsObservations env (run (next env) (defaultGenesis bank genesisUnix) inputs) ∧
      ExportsRecords (run (next env) (defaultGenesis bank genesisUnix) inputs) := by
  have hobservations : ExportsObservations env (defaultGenesis bank genesisUnix) :=
    { nodes := keyedBy_empty _
      operators := by simp [defaultGenesis]
      batchCommits := keyedBy_empty _
      availability := keyedBy_empty _
      weights := keyedBy_empty _
      positive := by simp [defaultGenesis]
      receipts := keyedBy_empty _
      storers := by simp [defaultGenesis]
      heartbeats := keyedBy_empty _ }
  have hrecords : ExportsRecords (defaultGenesis bank genesisUnix) :=
    { stored := rfl
      windows := by simp [defaultGenesis]
      aggregates := keyedBy_empty _
      identified := by simp [defaultGenesis]
      claims := keyedBy_empty _
      settlements := keyedBy_empty _ }
  refine ⟨wellFormed_run env (wellFormed_defaultGenesis bank genesisUnix) inputs,
    run_preserves (P := ExportsObservations env) ?_ inputs hobservations,
    run_preserves (P := ExportsRecords) ?_ inputs hrecords⟩
  · intro s input h
    exact attempt_preserves (fun _ hok => exportsObservations_of_step h hok) h
  · intro s input h
    exact attempt_preserves (fun _ hok => exportsRecords_of_step h hok) h

/-! ## The round trip -/

/-- No application has two weights, however far apart the epochs they start in. -/
def OneWeightPerApp (s : KeeperState) : Prop :=
  (s.gameWeightEntries.records.map GameWeightEntry.appId).Nodup

instance (s : KeeperState) : Decidable (OneWeightPerApp s) :=
  inferInstanceAs (Decidable (List.Nodup _))

/-- The document of a state passes its checks exactly when no application has two weights. -/
theorem validate_exportGenesis_iff (hwf : WellFormed s) (ho : ExportsObservations env s)
    (hr : ExportsRecords s)
    (hcodec : ∀ (text : String) (address : Bytes), env.accAddressFromBech32 text = .ok address →
      '/' ∉ text.toList) :
    s.exportGenesis.validate = .ok () ↔ OneWeightPerApp s := by
  have hcommits : ∀ commit ∈ s.epochCommits.records,
      noCheck commit = .ok () ∧ checkWindow commit = .ok () := by
    intro commit hcommit
    obtain ⟨epochId, hget⟩ := mem_records.mp hcommit
    exact ⟨rfl, ensure_eq_ok.mpr (hr.windows epochId commit hget)⟩
  have hchallenges : ∀ challenge ∈ s.challenges.records,
      checkChallengeId challenge = .ok () ∧ noCheck challenge = .ok () := by
    intro challenge hchallenge
    obtain ⟨id, hget⟩ := mem_records.mp hchallenge
    exact ⟨ensure_eq_ok.mpr (hr.identified id challenge hget), rfl⟩
  have hweights : ∀ entry ∈ s.gameWeightEntries.records,
      checkWeight entry = .ok () ∧ noCheck entry = .ok () := by
    intro entry hentry
    obtain ⟨key, hget⟩ := mem_records.mp hentry
    exact ⟨ensure_eq_ok.mpr (ho.positive key entry hget), rfl⟩
  have hstorers : ∀ receipt ∈ s.replicaReceipts.records, '/' ∉ receipt.storerAddress.toList := by
    intro receipt hreceipt
    obtain ⟨key, hget⟩ := mem_records.mp hreceipt
    obtain ⟨_, _, address, hdecodes⟩ := ho.storers key receipt hget
    exact hcodec _ address hdecodes
  have hreceipts : ∀ receipt ∈ s.replicaReceipts.records,
      checkReceipt receipt = .ok () ∧ noCheck receipt = .ok () := by
    intro receipt hreceipt
    obtain ⟨key, hget⟩ := mem_records.mp hreceipt
    obtain ⟨hcid, hstorer, _⟩ := ho.storers key receipt hget
    simp [checkReceipt, hcid, hstorer, noCheck]
  have hnodes : ∀ node ∈ s.nodes.records, checkOperator node = .ok () ∧ noCheck node = .ok () := by
    intro node hnode
    obtain ⟨operator, hget⟩ := mem_records.mp hnode
    exact ⟨ensure_eq_ok.mpr (ho.operators operator node hget).1, rfl⟩
  have hclaims : ∀ claim ∈ s.claimedRewards.records,
      noCheck claim = .ok () ∧ noCheck claim = .ok () := fun _ _ => ⟨rfl, rfl⟩
  have hclaimed : ∀ a ∈ s.claimedRewards.records, ∀ b ∈ s.claimedRewards.records,
      claimText a = claimText b → (a.epochId, a.recipient) = (b.epochId, b.recipient) :=
    fun _ _ _ _ => claimText_inj
  have haggregates : ∀ record ∈ s.aggregateRecords.records,
      noCheck record = .ok () ∧ noCheck record = .ok () := fun _ _ => ⟨rfl, rfl⟩
  have haggregated : ∀ a ∈ s.aggregateRecords.records, ∀ b ∈ s.aggregateRecords.records,
      aggregateText a = aggregateText b → (a.epochId, a.appId) = (b.epochId, b.appId) :=
    fun _ _ _ _ => aggregateText_inj
  simp only [GenesisState.validate, exportGenesis, bind_eq_ok, require_eq_ok, Option.some.injEq,
    exists_eq_left', hwf.params, exists_const, true_and]
  rw [checkDistinct_records hwf.commits (fun _ _ _ _ heq => heq) hcommits,
    checkDistinct_records hwf.challenges (fun _ _ _ _ heq => heq) hchallenges,
    checkDistinct_records hr.claims hclaimed hclaims,
    checkDistinct_records ho.receipts
      (fun a ha b hb => receiptText_inj (hstorers a ha) (hstorers b hb)) hreceipts,
    checkDistinct_records hr.aggregates haggregated haggregates,
    checkDistinct_records ho.nodes (fun _ _ _ _ heq => heq) hnodes]
  simp only [and_true, Unique.exists_iff, PUnit.default_eq_unit, checkDistinct_map_some]
  simpa [OneWeightPerApp] using fun _ => hweights

/-- The stores hold the same in every collection. -/
structure SameContents (s s' : KeeperState) : Prop where
  params : s'.params = s.params
  nodes : s'.nodes = s.nodes
  batchCommits : s'.batchCommits = s.batchCommits
  epochCommits : s'.epochCommits = s.epochCommits
  rewardRecords : s'.rewardRecords = s.rewardRecords
  aggregateRecords : s'.aggregateRecords = s.aggregateRecords
  challenges : s'.challenges = s.challenges
  availability : s'.availability = s.availability
  gameWeightEntries : s'.gameWeightEntries = s.gameWeightEntries
  claimedRewards : s'.claimedRewards = s.claimedRewards
  replicaReceipts : s'.replicaReceipts = s.replicaReceipts
  verificationRecords : s'.verificationRecords = s.verificationRecords
  annualEmission : s'.annualEmission = s.annualEmission
  playSessions : s'.playSessions = s.playSessions
  playHeartbeats : s'.playHeartbeats = s.playHeartbeats
  witnessAttestations : s'.witnessAttestations = s.witnessAttestations
  sessionSettlements : s'.sessionSettlements = s.sessionSettlements
  totalActivityBurned : s'.totalActivityBurned = s.totalActivityBurned

/-- The state's document passes its checks, and a new chain that reads it at the given time holds
what the state held. -/
def RoundTrips (blockTime : ℤ) (s : KeeperState) : Prop :=
  s.exportGenesis.validate = .ok () ∧
    ∀ bank : Bank, ∃ s' : KeeperState,
      (emptyStore bank).initGenesis blockTime (some s.exportGenesis) = .ok s' ∧ SameContents s s'

/-- What a new chain reads from the document of a state it accepts. -/
theorem initGenesis_exportGenesis (hwf : WellFormed s) (ho : ExportsObservations env s)
    (hr : ExportsRecords s) (blockTime : ℤ) (bank : Bank)
    (hvalid : s.exportGenesis.validate = .ok ()) :
    (emptyStore bank).initGenesis blockTime (some s.exportGenesis) = .ok
      { s with
        verificationRecords := ∅
        annualEmission := some (defaultAnnualEmissionState blockTime)
        totalActivityBurned := none
        bank := bank } := by
  have hparams : some s.getParams = s.params := by
    obtain ⟨params, hstored⟩ := Option.isSome_iff_exists.mp hr.stored
    rw [getParams, hstored, Option.getD_some]
  rw [initGenesis_export blockTime bank hvalid hwf.params, storeAll_records ho.nodes,
    storeAll_records ho.batchCommits, storeAll_records hwf.commits, storeAll_records hwf.rewards,
    storeAll_records hr.aggregates, storeAll_records hwf.challenges,
    storeAll_records ho.availability, storeAll_records ho.weights, storeAll_records hr.claims,
    storeAll_records ho.receipts, storeAll_records hwf.sessions, storeAll_records ho.heartbeats,
    storeAll_records hwf.attestations, storeAll_records hr.settlements, hparams]
  rfl

/-- A reached state survives its own document exactly when no application has two weights, nobody
verified a batch, the emission state is a fresh one of the same time and no activity was burned. -/
theorem genesis_round_trip (env : Env)
    (hcodec : ∀ (text : String) (address : Bytes), env.accAddressFromBech32 text = .ok address →
      '/' ∉ text.toList)
    (bank : Bank) (genesisUnix : ℤ) (inputs : List Input) (blockTime : ℤ) :
    RoundTrips blockTime (run (next env) (defaultGenesis bank genesisUnix) inputs) ↔
      OneWeightPerApp (run (next env) (defaultGenesis bank genesisUnix) inputs) ∧
      (run (next env) (defaultGenesis bank genesisUnix) inputs).verificationRecords = ∅ ∧
      (run (next env) (defaultGenesis bank genesisUnix) inputs).annualEmission =
        some (defaultAnnualEmissionState blockTime) ∧
      (run (next env) (defaultGenesis bank genesisUnix) inputs).totalActivityBurned = none := by
  obtain ⟨hwf, ho, hr⟩ := exports_run env bank genesisUnix inputs
  generalize run (next env) (defaultGenesis bank genesisUnix) inputs = s at hwf ho hr
  have hvalidates := validate_exportGenesis_iff hwf ho hr hcodec
  constructor
  · rintro ⟨hvalid, hreads⟩
    obtain ⟨s', hread, hsame⟩ := hreads bank
    rw [initGenesis_exportGenesis hwf ho hr blockTime bank hvalid] at hread
    obtain rfl := Except.ok.inj hread
    exact ⟨hvalidates.mp hvalid, hsame.verificationRecords.symm, hsame.annualEmission.symm,
      hsame.totalActivityBurned.symm⟩
  · rintro ⟨hweights, hverifications, hemission, hburned⟩
    have hvalid := hvalidates.mpr hweights
    refine ⟨hvalid, fun bank => ⟨_, initGenesis_exportGenesis hwf ho hr blockTime bank hvalid, ?_⟩⟩
    exact
      { params := rfl, nodes := rfl, batchCommits := rfl, epochCommits := rfl
        rewardRecords := rfl, aggregateRecords := rfl, challenges := rfl, availability := rfl
        gameWeightEntries := rfl, claimedRewards := rfl, replicaReceipts := rfl
        verificationRecords := hverifications.symm
        annualEmission := hemission.symm
        playSessions := rfl, playHeartbeats := rfl, witnessAttestations := rfl
        sessionSettlements := rfl
        totalActivityBurned := hburned.symm }

namespace Sample

/-- Governance sets the weight of application seven from an epoch on. -/
def weigh (fromEpoch : ℕ) : Input :=
  .deliver (ctx 1) (.upsertGameWeight
    { authority := governance
      entry := some { appId := 7, gameWeightPpm := 1000000, effectiveFromEpochId := fromEpoch } })

end Sample

/-- A chain of a player, its session and one game weight survives. -/
theorem genesis_round_trip_session :
    RoundTrips 0 (run (next Sample.env) Sample.genesis
      [Sample.register Sample.alice, Sample.weigh 3,
        Sample.claimPlay (Sample.playSession Sample.alice)]) := by
  refine (genesis_round_trip Sample.env ?_ Sample.bank 0 _ 0).mpr ⟨?_, ?_, ?_, ?_⟩
  · intro text address h
    simp only [Sample.env, Sample.decodeAddress] at h
    split at h
    · next heq => rw [heq]; decide
    · split at h
      · next heq => rw [heq]; decide
      · split at h
        · next heq => rw [heq]; decide
        · cases h
  · decide +kernel
  · exact Std.ExtTreeMap.isEmpty_iff.mp (by decide +kernel)
  · decide +kernel
  · decide +kernel

/-- Two weights of one application, from different epochs, are two entries of the store but a
duplicate in its document. -/
theorem exportGenesis_rejected :
    ¬ ∀ inputs : List Input, ∃ blockTime : ℤ,
      RoundTrips blockTime (run (next Sample.env) Sample.genesis inputs) := by
  intro h
  obtain ⟨blockTime, hvalid, _⟩ := h [Sample.weigh 3, Sample.weigh 5]
  revert hvalid
  decide +kernel

end PoleProtocol.Chain
