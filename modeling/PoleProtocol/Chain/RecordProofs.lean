import PoleProtocol.Chain.Finality
import PoleProtocol.Chain.MerkleBinding

/-!
# Proofs of records

The chain proves a stored reward or aggregate record under its epoch's root, and validates
challenges by such proofs. The proof of the only record of an epoch has no steps, and a challenge
without a step is turned away.
-/

namespace PoleProtocol.Chain

open Framework

/-- The root, the proof, the record and its index for the first matching record. -/
def recordProof {α : Type} [JsonRecord α] (env : Env) (records : List α) (isTarget : α → Bool)
    (missing : ChainError) : Except ChainError (String × List String × α × ℕ) := do
  let index ← require (records.findIdx? isTarget) missing
  let record ← require records[index]? missing
  let proof ← merkleProofHexForRecords env.sha256 records index
  return ((merkleRootHexForRecords env.sha256 records).root, proof, record, index)

namespace KeeperState

def rewardProof (env : Env) (s : KeeperState) (epochId : ℕ) (recipient : String) :
    Except ChainError (String × List String × RewardRecord × ℕ) :=
  recordProof env (s.rewardRecordsForEpoch epochId) (fun record => record.recipient = recipient)
    (.plain s!"reward record not found for epoch {epochId} recipient {recipient}")

def aggregateProof (env : Env) (s : KeeperState) (epochId appId : ℕ) :
    Except ChainError (String × List String × AggregateRecord × ℕ) :=
  recordProof env (s.aggregateRecordsForEpoch epochId) (fun record => record.appId = appId)
    (.plain s!"aggregate record not found for epoch {epochId} app {appId}")

end KeeperState

/-! ## Hexadecimal proofs -/

theorem hexDecodeChars_hexDigits (b : UInt8) (rest : List Char) :
    hexDecodeChars ([hexDigit (b.toNat / 16), hexDigit (b.toNat % 16)] ++ rest) =
      (hexDecodeChars rest).map fun bytes => b :: bytes := by
  have hdigits : ∀ n < 16, hexValue? (hexDigit n) = some n := by decide
  have hhigh : b.toNat / 16 < 16 := by
    have hbyte := b.toNat_lt
    omega
  have hbyte : UInt8.ofNat (16 * (b.toNat / 16) + b.toNat % 16) = b := by
    rw [Nat.div_add_mod, UInt8.ofNat_toNat]
  change hexDecodeChars (_ :: _ :: rest) = _
  rw [hexDecodeChars, hdigits _ hhigh, hdigits _ (Nat.mod_lt _ (by decide))]
  cases hexDecodeChars rest with
  | none => rfl
  | some bytes => exact congrArg (fun b => some (b :: bytes)) hbyte

/-- What is written in hexadecimal is read back. -/
theorem hexDecode_hexEncode (bytes : Bytes) : hexDecode (hexEncode bytes) = some bytes := by
  unfold hexDecode
  rw [hexEncode_toList]
  induction bytes with
  | nil => rfl
  | cons b bytes ih => rw [List.flatMap_cons, hexDecodeChars_hexDigits, ih]; rfl

theorem mapM_hexDecode (proof : List Bytes) :
    (proof.map hexEncode).mapM hexDecode = some proof :=
  mapM_written fun step _ => hexDecode_hexEncode step

/-! ## Proving and checking -/

section Check

variable {α : Type} [JsonRecord α] {env : Env} {records : List α} {isTarget : α → Bool}

theorem verifyMerkleProof_width (hwidth : ∀ text, (env.sha256 text).length = 32) {leaf : Bytes}
    (hleaf : leaf.length = 32) (proof : List Bytes) (index : ℕ) :
    (verifyMerkleProof env.sha256 leaf proof index).length = 32 := by
  induction proof generalizing leaf index with
  | nil => exact hleaf
  | cons sibling proof ih =>
      rw [verifyMerkleProof]
      refine ih ?_ _
      split <;> exact hwidth _

/-- The proof of a stored record passes the membership check, its root is no empty text, and it has
steps exactly when the record is not the only one. -/
theorem recordProof_checks (isTarget : α → Bool)
    (hwidth : ∀ text, (env.sha256 text).length = 32) {record : α}
    (hrecord : record ∈ records) (htarget : isTarget record = true) (missing : ChainError) :
    ∃ proof found index,
      recordProof env records isTarget missing =
        .ok ((merkleRootHexForRecords env.sha256 records).root, proof, found, index) ∧
      (∀ name, checkMembership env records isTarget proof
        (merkleRootHexForRecords env.sha256 records).root name = .ok ()) ∧
      (merkleRootHexForRecords env.sha256 records).root ≠ "" ∧
      (proof ≠ [] ↔ 2 ≤ records.length) := by
  obtain ⟨index, hindex⟩ : ∃ index, records.findIdx? isTarget = some index :=
    Option.isSome_iff_exists.mp (List.findIdx?_isSome.trans
      (List.any_eq_true.mpr ⟨record, hrecord, htarget⟩))
  obtain ⟨hbound, _⟩ := List.findIdx?_eq_some_iff_getElem.mp hindex
  have hfound : records[index]? = some records[index] := List.getElem?_eq_getElem hbound
  have hne : records ≠ [] := List.ne_nil_of_length_pos (Nat.zero_lt_of_lt hbound)
  have hleaf : (records.map (merkleLeafFromRecord env.sha256))[index]? =
      some (merkleLeafFromRecord env.sha256 records[index]) := by
    rw [List.getElem?_map, hfound]
    rfl
  have hverifies : verifyMerkleProof env.sha256 (merkleLeafFromRecord env.sha256 records[index])
      (merkleProof env.sha256 (records.map (merkleLeafFromRecord env.sha256)) index) index =
        merkleRoot env.sha256 (records.map (merkleLeafFromRecord env.sha256)) :=
    verifyMerkleProof_merkleProof hleaf
  have hroot : (merkleRootHexForRecords env.sha256 records).root =
      hexEncode (merkleRoot env.sha256 (records.map (merkleLeafFromRecord env.sha256))) := by
    rw [merkleRootHexForRecords, if_neg hne]
  refine ⟨(merkleProof env.sha256 (records.map (merkleLeafFromRecord env.sha256)) index).map
    hexEncode, records[index], index, ?_, fun name => ?_, ?_, ?_⟩
  · simp only [recordProof, hindex, require, ok_bind, hfound, merkleProofHexForRecords,
      if_pos hbound]
    rfl
  · simp only [checkMembership, hindex, hfound, require, ok_bind, ensure_eq_ok]
    rw [verifyMerkleProofHex, mapM_hexDecode, hroot]
    change (hexEncode _ == _) = true
    rw [hverifies]
    exact beq_self_eq_true _
  · rw [hroot, ← hverifies]
    intro hempty
    have hleafWidth : (merkleLeafFromRecord env.sha256 records[index]).length = 32 := hwidth _
    have hlength := verifyMerkleProof_width hwidth hleafWidth
      (merkleProof env.sha256 (records.map (merkleLeafFromRecord env.sha256)) index) index
    have hblank : hexEncode [] = "" := rfl
    rw [hexEncode_injective (hempty.trans hblank.symm)] at hlength
    cases hlength
  · rw [merkleProof, merkleProofClimb_eq_path (Nat.le_succ _), ne_eq, List.map_eq_nil_iff,
      ← List.length_eq_zero_iff, HashTree.path_length, HashTree.depth_eq_zero_iff,
      List.length_map]
    omega

end Check

/-! ## Challenges by the chain's own proofs -/

/-- A bad-reward challenge by a record's own proof. -/
structure CitesReward (challenge : Challenge) (epochId : ℕ) (recipient root : String)
    (proof : List String) : Prop where
  kind : challenge.kind = .badReward
  epoch : challenge.epochId = epochId
  target : challenge.targetAddress = recipient
  evidence : ∃ evidence, challenge.evidence = some evidence ∧ evidence.rewardRootHex = root ∧
    evidence.merkleProofHex = proof

/-- A bad-aggregate challenge by a record's own proof. -/
structure CitesAggregate (challenge : Challenge) (epochId appId : ℕ) (root : String)
    (proof : List String) : Prop where
  kind : challenge.kind = .badAggregate
  epoch : challenge.epochId = epochId
  evidence : ∃ evidence, challenge.evidence = some evidence ∧ evidence.aggregateAppId = appId ∧
    evidence.aggregateRootHex = root ∧ evidence.merkleProofHex = proof

/-- When an epoch's commit matches the store, the chain proves every stored record. A challenge by
that proof passes exactly when the record is not the only one of its epoch, and, for rewards, names
a recipient. -/
theorem own_proof_accepted_iff (env : Env) (hwidth : ∀ text, (env.sha256 text).length = 32)
    (s : KeeperState) (epochId : ℕ) (commit : EpochCommit)
    (hcommit : s.epochCommits[epochId]? = some commit)
    (hroots : s.validateEpochRoots env epochId commit = .ok ()) :
    (∀ record ∈ s.rewardRecordsForEpoch epochId, ∃ root proof found index,
      s.rewardProof env epochId record.recipient = .ok (root, proof, found, index) ∧
      ∀ challenge, CitesReward challenge epochId record.recipient root proof →
        (s.validateChallengeEvidence env challenge = .ok () ↔
          2 ≤ (s.rewardRecordsForEpoch epochId).length ∧ record.recipient ≠ "")) ∧
    ∀ record ∈ s.aggregateRecordsForEpoch epochId, ∃ root proof found index,
      s.aggregateProof env epochId record.appId = .ok (root, proof, found, index) ∧
      ∀ challenge, CitesAggregate challenge epochId record.appId root proof →
        (s.validateChallengeEvidence env challenge = .ok () ↔
          2 ≤ (s.aggregateRecordsForEpoch epochId).length) := by
  have hderived := validateEpochRoots_iff.mp hroots
  have hrewards : commit.rewards =
      some (merkleRootHexForRecords env.sha256 (s.rewardRecordsForEpoch epochId)) :=
    (congrArg EpochCommit.rewards hderived).symm
  have haggregates : commit.aggregates =
      some (merkleRootHexForRecords env.sha256 (s.aggregateRecordsForEpoch epochId)) :=
    (congrArg EpochCommit.aggregates hderived).symm
  constructor
  · intro record hrecord
    obtain ⟨proof, found, index, hproof, hchecks, hroot, hsteps⟩ :=
      recordProof_checks (fun r => r.recipient = record.recipient) hwidth hrecord
        (decide_eq_true rfl) _
    refine ⟨_, proof, found, index, hproof, ?_⟩
    rintro challenge ⟨hkind, rfl, htarget, evidence, hevidence, hcited, rfl⟩
    simp only [KeeperState.validateChallengeEvidence, hevidence, KeeperState.getEpochCommit,
      hcommit, require, ok_bind, hkind, htarget, hcited, ensure_bind_eq_ok, hrewards,
      Option.map_some, hchecks, hsteps, and_true]
    exact ⟨fun h => ⟨h.2.2, h.1⟩, fun h => ⟨h.2, hroot, h.1⟩⟩
  · intro record hrecord
    obtain ⟨proof, found, index, hproof, hchecks, hroot, hsteps⟩ :=
      recordProof_checks (fun r => r.appId = record.appId) hwidth hrecord
        (decide_eq_true rfl) _
    refine ⟨_, proof, found, index, hproof, ?_⟩
    rintro challenge ⟨hkind, rfl, evidence, hevidence, happ, hcited, rfl⟩
    simp only [KeeperState.validateChallengeEvidence, hevidence, KeeperState.getEpochCommit,
      hcommit, require, ok_bind, hkind, happ, hcited, ensure_bind_eq_ok, haggregates,
      Option.map_some, hchecks, hsteps, and_true]
    exact ⟨fun h => h.2, fun h => ⟨hroot, h⟩⟩

namespace Sample

/-- The chain after Alice's promised records were submitted. -/
def rewarded (records : List RewardRecord) : KeeperState :=
  run (next hashing) genesis
    [register alice,
      propose { emptyCommit 7 with rewards := some (merkleRootHexForRecords digest records) },
      .deliver (ctx 2) (.submitRewardRecords (submission records))]

/-- The commit that promises the records. -/
def rewardCommit (records : List RewardRecord) : EpochCommit :=
  { emptyCommit 7 with rewards := some (merkleRootHexForRecords digest records) }

def rewardChallenge (recipient root : String) (proof : List String) : Challenge where
  kind := .badReward
  epochId := 7
  targetAddress := recipient
  evidence := some { rewardRootHex := root, merkleProofHex := proof }

end Sample

/-- The first of two records is challenged by its own proof. -/
theorem own_proof_accepted_iff_pair :
    ∃ root proof found index,
      (Sample.rewarded [Sample.bobReward, Sample.aliceReward]).rewardProof Sample.hashing 7
        Sample.bob = .ok (root, proof, found, index) ∧
      (Sample.rewarded [Sample.bobReward, Sample.aliceReward]).validateChallengeEvidence
        Sample.hashing (Sample.rewardChallenge Sample.bob root proof) = .ok () := by
  have hstored :
      (Sample.rewarded [Sample.bobReward, Sample.aliceReward]).epochCommits[7]? =
        some (Sample.rewardCommit [Sample.bobReward, Sample.aliceReward]) ∧
      (Sample.rewarded [Sample.bobReward, Sample.aliceReward]).validateEpochRoots Sample.hashing 7
        (Sample.rewardCommit [Sample.bobReward, Sample.aliceReward]) = .ok () ∧
      Sample.bobReward ∈
        (Sample.rewarded [Sample.bobReward, Sample.aliceReward]).rewardRecordsForEpoch 7 ∧
      2 ≤ ((Sample.rewarded
        [Sample.bobReward, Sample.aliceReward]).rewardRecordsForEpoch 7).length := by
    decide +kernel
  obtain ⟨hcommit, hroots, hmem, hpair⟩ := hstored
  obtain ⟨root, proof, found, index, hproof, haccepted⟩ :=
    (own_proof_accepted_iff Sample.hashing Sample.tellsApart_rewards.width
      (Sample.rewarded [Sample.bobReward, Sample.aliceReward]) 7 _ hcommit hroots).1
      Sample.bobReward hmem
  refine ⟨root, proof, found, index, hproof, (haccepted _ ?_).mpr ⟨hpair, by decide⟩⟩
  exact ⟨rfl, rfl, rfl, _, rfl, rfl, rfl⟩

/-- The proof of an epoch's only reward record has no steps, and its challenge is refused. -/
theorem own_proof_refused :
    ¬ ∀ (s : KeeperState) (commit : EpochCommit), s.epochCommits[7]? = some commit →
      s.validateEpochRoots Sample.hashing 7 commit = .ok () →
      ∀ record ∈ s.rewardRecordsForEpoch 7, ∀ root proof found index,
        s.rewardProof Sample.hashing 7 record.recipient = .ok (root, proof, found, index) →
        s.validateChallengeEvidence Sample.hashing
          (Sample.rewardChallenge record.recipient root proof) = .ok () := by
  intro h
  have hstored :
      (Sample.rewarded [Sample.aliceReward]).epochCommits[7]? =
        some (Sample.rewardCommit [Sample.aliceReward]) ∧
      (Sample.rewarded [Sample.aliceReward]).validateEpochRoots Sample.hashing 7
        (Sample.rewardCommit [Sample.aliceReward]) = .ok () ∧
      Sample.aliceReward ∈ (Sample.rewarded [Sample.aliceReward]).rewardRecordsForEpoch 7 ∧
      (Sample.rewarded [Sample.aliceReward]).rewardProof Sample.hashing 7 Sample.alice =
        .ok ((merkleRootHexForRecords Sample.digest [Sample.aliceReward]).root, [],
          Sample.aliceReward, 0) ∧
      (Sample.rewarded [Sample.aliceReward]).validateChallengeEvidence Sample.hashing
        (Sample.rewardChallenge Sample.alice
          (merkleRootHexForRecords Sample.digest [Sample.aliceReward]).root []) ≠ .ok () := by
    decide +kernel
  obtain ⟨hcommit, hroots, hmem, hproof, hrefused⟩ := hstored
  exact hrefused (h _ _ hcommit hroots _ hmem _ _ _ _ hproof)

end PoleProtocol.Chain
