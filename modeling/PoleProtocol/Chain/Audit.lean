import PoleProtocol.Chain.WellFormed
import PoleProtocol.Chain.Writes

/-!
# Verifications of batches

A verification names its target batch by caller-supplied strings, and no batch is looked at. The
chain has no self-audit in every state of a run exactly when each accepted verification is of a
stored batch that is not the verifier's own, and no batch is submitted later under a root its
collector has verified.
-/

namespace PoleProtocol.Chain

open Framework OrderedMap KeeperState

/-- The record refers to a stored batch of its target, and its verifier has none of that root. -/
structure Audited (s : KeeperState) (record : VerificationRecord) : Prop where
  target : s.batchCommits[(record.epochId, record.targetCollector, record.targetBatchRootHex)]? ≠
    none
  notOwn : s.batchCommits[(record.epochId, record.verifierAddress, record.targetBatchRootHex)]? =
    none

/-- Every stored verification is of another node's stored batch, and so is every one that the
finalization gate counts. -/
structure NoSelfAudit (s : KeeperState) : Prop where
  stored : ∀ (key : ℕ × String × String) record, s.verificationRecords[key]? = some record → Audited s record
  counted : ∀ epochId, ∀ record ∈ s.verificationRecordsForEpoch epochId, Audited s record

theorem noSelfAudit_of_stored {s : KeeperState}
    (h : ∀ (key : ℕ × String × String) record,
      s.verificationRecords[key]? = some record → Audited s record) :
    NoSelfAudit s := by
  refine ⟨h, ?_⟩
  intro epochId record hmem
  obtain ⟨⟨key, _⟩, hentry, rfl⟩ := List.mem_map.mp hmem
  exact h key _ (mem_toList.mp (List.mem_of_mem_filter hentry))

/-- A verification finds its target stored and no batch of the verifier under that root; a batch
finds no verification of its root by its collector. -/
def Audits (s : KeeperState) : Input → Prop
  | .deliver _ (.verifyBatch msg) =>
      s.batchCommits[(msg.epochId, msg.targetCollector, msg.targetBatchRootHex)]? ≠ none ∧
        s.batchCommits[(msg.epochId, msg.verifier, msg.targetBatchRootHex)]? = none
  | .deliver _ (.submitBatch msg) =>
      ∀ batch ∈ msg.batchCommit, s.verificationRecords[batchCommitKey batch]? = none
  | _ => True

section Steps

variable {env : Env} {s s' : KeeperState} {input : Input}

/-- Verifications are stored under their epoch, verifier and root. -/
def KeyedVerifications (s : KeeperState) : Prop :=
  KeyedBy (fun record : VerificationRecord =>
    (record.epochId, record.verifierAddress, record.targetBatchRootHex)) s.verificationRecords

theorem keyedVerifications_next (h : KeyedVerifications s) (input : Input) :
    KeyedVerifications (next env s input) := by
  refine attempt_preserves (fun s' hok => ?_) h
  cases write_of_step hok with
  | verification => exact keyedBy_insert _ h _
  | elsewhere _ _ _ same => rwa [KeyedVerifications, same.verificationRecords]
  | node | batch | receipt | weight | heartbeat | attestation => exact h

theorem NoSelfAudit.of_same (h : NoSelfAudit s) (hbatches : s'.batchCommits = s.batchCommits)
    (hverifications : s'.verificationRecords = s.verificationRecords) : NoSelfAudit s' := by
  apply noSelfAudit_of_stored
  intro key record hget
  rw [hverifications] at hget
  obtain ⟨htarget, hown⟩ := h.stored key record hget
  exact ⟨by rwa [hbatches], by rwa [hbatches]⟩

/-- An accepted step keeps the chain free of self-audit exactly when it meets its condition. -/
theorem audits_iff (hkeyed : KeyedVerifications s) (h : NoSelfAudit s)
    (hok : step env s input = .ok s') : Audits s input ↔ NoSelfAudit s' := by
  cases write_of_step hok with
  | verification ctx msg isPlayer =>
      constructor
      · rintro ⟨htarget, hown⟩
        apply noSelfAudit_of_stored
        intro key record hget
        rcases get_insert_cases hget with ⟨rfl, rfl⟩ | ⟨_, hget⟩
        · exact ⟨htarget, hown⟩
        · have haudited := h.stored key record hget
          exact ⟨haudited.target, haudited.notOwn⟩
      · intro h'
        have hnew := h'.stored (msg.epochId, msg.verifier, msg.targetBatchRootHex) _
          (get_insert_self _ _ _)
        exact ⟨hnew.target, hnew.notOwn⟩
  | batch ctx msg batch supplied owner =>
      constructor
      · intro hfresh
        have hunverified := hfresh batch supplied
        apply noSelfAudit_of_stored
        intro key record hget
        obtain ⟨htarget, hown⟩ := h.stored key record hget
        refine ⟨insert_ne_none _ _ htarget, ?_⟩
        -- the new batch is not under the root of a stored verification by its collector
        have hne : batchCommitKey batch ≠
            (record.epochId, record.verifierAddress, record.targetBatchRootHex) := by
          intro heq
          have hkey : (record.epochId, record.verifierAddress, record.targetBatchRootHex) = key :=
            hkeyed key record hget
          rw [heq, hkey] at hunverified
          cases hunverified.symm.trans hget
        exact (get_insert_ne _ _ hne).trans hown
      · intro h' other hother
        cases supplied.symm.trans hother
        by_contra hverified
        obtain ⟨record, hget⟩ := Option.ne_none_iff_exists'.mp hverified
        have hkey : (record.epochId, record.verifierAddress, record.targetBatchRootHex) =
            batchCommitKey batch := hkeyed _ record hget
        have hown := (h'.stored _ record hget).notOwn
        rw [hkey] at hown
        have hstored : (s.setBatchCommit { batch with
            submittedAtHeight := ctx.height }).batchCommits[batchCommitKey batch]? =
              some { batch with submittedAtHeight := ctx.height } := get_insert_self _ _ _
        rw [hown] at hstored
        cases hstored
  | elsewhere _ _ other same =>
      have haudits : Audits s input := by
        unfold Audits
        split
        · cases other
        · cases other
        · trivial
      exact iff_of_true haudits (h.of_same same.batchCommits same.verificationRecords)
  | node | receipt | weight | heartbeat | attestation =>
      exact iff_of_true trivial (h.of_same rfl rfl)

end Steps

theorem keyedVerifications_run (env : Env) (bank : Bank) (genesisUnix : ℤ) (inputs : List Input) :
    KeyedVerifications (run (next env) (defaultGenesis bank genesisUnix) inputs) := by
  have hstart : KeyedVerifications (defaultGenesis bank genesisUnix) := keyedBy_empty _
  exact run_preserves (P := KeyedVerifications) (fun _ input h => keyedVerifications_next h input)
    inputs hstart

theorem noSelfAudit_defaultGenesis (bank : Bank) (genesisUnix : ℤ) :
    NoSelfAudit (defaultGenesis bank genesisUnix) := by
  apply noSelfAudit_of_stored
  intro key record hget
  simp [defaultGenesis] at hget

/-- Along a run from genesis no state has a self-audit, or an audit of a batch that is not stored,
if and only if every accepted verification and every accepted batch meets its condition. -/
theorem no_self_audit_iff (env : Env) (bank : Bank) (genesisUnix : ℤ) (inputs : List Input) :
    Meets (next env) (IfAccepted (step env) Audits) (defaultGenesis bank genesisUnix) inputs ↔
      ∀ before after, inputs = before ++ after →
        NoSelfAudit (run (next env) (defaultGenesis bank genesisUnix) before) := by
  have hstart : KeyedVerifications (defaultGenesis bank genesisUnix) :=
    keyedVerifications_run env bank genesisUnix []
  refine meets_iff_prefixes (I := KeyedVerifications) (P := NoSelfAudit)
    (fun _ input h => keyedVerifications_next h input) ?_ hstart (noSelfAudit_defaultGenesis bank genesisUnix) inputs
  intro s input hkeyed h
  exact ifAccepted_iff (fun s' hok => audits_iff hkeyed h hok) h

namespace Sample

/-- A batch under a root. -/
def observeRoot (collector root : String) (epochId : ℕ) : Input :=
  .deliver (ctx 3) (.submitBatch
    { collector
      batchCommit := some
        { epochId, collectorAddress := collector, batch := some { root, leafCount := 1 }
          payloadCid := "batch", observationCount := 1 } })

def verify (verifier target root : String) : Input :=
  .deliver (ctx 4) (.verifyBatch
    { verifier, epochId := 7, targetBatchRootHex := root, targetCollector := target
      verified := true })

/-- Bob was a collector in epoch six, and submits a batch in epoch seven. -/
def collecting : List Input :=
  [register bob, observeRoot bob "00" 6, observeRoot bob "ab" 7]

end Sample

open Sample in
/-- A verifier attests its own batch under another node's name. -/
theorem verifyBatch_own_root :
    ¬ ∀ (env : Env) (bank : Bank) (genesisUnix : ℤ) (inputs : List Input),
      NoSelfAudit (run (next env) (defaultGenesis bank genesisUnix) inputs) := by
  intro hnone
  have hstored : ((run (next env) genesis (collecting ++ [verify bob carol "ab"])).verificationRecords[
      ((7 : ℕ), bob, "ab")]?).isSome = true := by decide +kernel
  have hown : ((run (next env) genesis (collecting ++ [verify bob carol "ab"])).batchCommits[
      ((7 : ℕ), bob, "ab")]?).isSome = true := by decide +kernel
  obtain ⟨record, hget⟩ := Option.isSome_iff_exists.mp hstored
  have hkey : (record.epochId, record.verifierAddress, record.targetBatchRootHex) =
      ((7 : ℕ), bob, "ab") := keyedVerifications_run env bank 0 _ _ record hget
  have hfree := ((hnone env bank 0 _).stored _ record hget).notOwn
  rw [hkey] at hfree
  change (run (next env) genesis (collecting ++ [verify bob carol "ab"])).batchCommits[
    ((7 : ℕ), bob, "ab")]? = none at hfree
  rw [hfree] at hown
  cases hown

end PoleProtocol.Chain
