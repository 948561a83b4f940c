import PoleProtocol.Chain.Effects

/-!
# What a message writes

Registrations, batches, receipts, verifications, game weights, heartbeats and attestations are each
written by one message, and by nothing else. So are play sessions, settlements and the
parameters.
-/

namespace PoleProtocol.Chain

open Framework

/-- None of the observers' collections differs. -/
structure SameObservations (s s' : KeeperState) : Prop where
  nodes : s'.nodes = s.nodes
  batchCommits : s'.batchCommits = s.batchCommits
  availability : s'.availability = s.availability
  gameWeightEntries : s'.gameWeightEntries = s.gameWeightEntries
  replicaReceipts : s'.replicaReceipts = s.replicaReceipts
  verificationRecords : s'.verificationRecords = s.verificationRecords
  playHeartbeats : s'.playHeartbeats = s.playHeartbeats
  witnessAttestations : s'.witnessAttestations = s.witnessAttestations

/-- The input is a message that writes one of the observers' collections. -/
def Input.observes : Input → Bool
  | .deliver _ (.upsertNode _) => true
  | .deliver _ (.submitBatch _) => true
  | .deliver _ (.submitReplicaReceipt _) => true
  | .deliver _ (.verifyBatch _) => true
  | .deliver _ (.upsertGameWeight _) => true
  | .deliver _ (.submitPlayHeartbeat _) => true
  | .deliver _ (.attestSession _) => true
  | _ => false

/-- What an accepted input writes of the observers' collections. -/
inductive Write (env : Env) (s : KeeperState) : Input → KeeperState → Prop
  | node (ctx : Ctx) (msg : MsgUpsertNode) (node : NodeRecord) (address : Bytes)
      (owner : msg.operator = node.operatorAddress) (named : node.operatorAddress ≠ "")
      (decoded : env.accAddressFromBech32 node.operatorAddress = .ok address) :
      Write env s (.deliver ctx (.upsertNode msg)) (s.setNode node)
  | batch (ctx : Ctx) (msg : MsgSubmitBatch) (batch : BatchCommit)
      (supplied : msg.batchCommit = some batch) (owner : msg.collector = batch.collectorAddress) :
      Write env s (.deliver ctx (.submitBatch msg))
        (s.setBatchCommit { batch with submittedAtHeight := ctx.height })
  | receipt (ctx : Ctx) (msg : MsgSubmitReplicaReceipt) (receipt : ReplicaReceipt)
      (record : AvailabilityRecord) (storer : NodeRecord) (named : receipt.storerAddress ≠ "")
      (payload : receipt.payloadCid ≠ "") (found : s.nodes[receipt.storerAddress]? = some storer) :
      Write env s (.deliver ctx (.submitReplicaReceipt msg))
        ((s.setReplicaReceipt receipt).setAvailabilityRecord record)
  | verification (ctx : Ctx) (msg : MsgVerifyBatch) (isPlayer : Bool)
      (foreign : msg.verifier ≠ msg.targetCollector) :
      Write env s (.deliver ctx (.verifyBatch msg)) (s.setVerificationRecord
        { epochId := msg.epochId
          verifierAddress := msg.verifier
          targetBatchRootHex := msg.targetBatchRootHex
          targetCollector := msg.targetCollector
          isPlayer
          verified := msg.verified
          verifiedAtHeight := ctx.height
          signatureHex := msg.signatureHex })
  | weight (ctx : Ctx) (msg : MsgUpsertGameWeight) (entry : GameWeightEntry)
      (positive : entry.gameWeightPpm ≠ 0) :
      Write env s (.deliver ctx (.upsertGameWeight msg)) (s.setGameWeightEntry entry)
  | heartbeat (ctx : Ctx) (msg : MsgSubmitPlayHeartbeat) (heartbeat : PlayHeartbeat)
      (supplied : msg.heartbeat = some heartbeat)
      (unsettled : s.sessionSettlements[heartbeat.sessionIdHex]? = none) :
      Write env s (.deliver ctx (.submitPlayHeartbeat msg)) (s.setPlayHeartbeat heartbeat)
  | attestation (ctx : Ctx) (msg : MsgAttestSession) (attestation : WitnessAttestation)
      (supplied : msg.attestation = some attestation)
      (unsettled : s.sessionSettlements[attestation.sessionIdHex]? = none) :
      Write env s (.deliver ctx (.attestSession msg))
        (s.setWitnessAttestation { attestation with attestedAtHeight := ctx.height })
  | elsewhere (input : Input) (s' : KeeperState) (other : input.observes = false)
      (same : SameObservations s s') : Write env s input s'

namespace KeeperState

variable {env : Env} {ctx : Ctx} {s s' : KeeperState}

private theorem same_of_frame {input : Input} (hother : input.observes = false)
    (hnodes : s'.nodes = s.nodes) (hbatches : s'.batchCommits = s.batchCommits)
    (havailability : s'.availability = s.availability)
    (hweights : s'.gameWeightEntries = s.gameWeightEntries)
    (hreceipts : s'.replicaReceipts = s.replicaReceipts)
    (hverifications : s'.verificationRecords = s.verificationRecords)
    (hheartbeats : s'.playHeartbeats = s.playHeartbeats)
    (hattestations : s'.witnessAttestations = s.witnessAttestations) : Write env s input s' :=
  .elsewhere input s' hother
    ⟨hnodes, hbatches, havailability, hweights, hreceipts, hverifications, hheartbeats,
      hattestations⟩

/-- Every accepted message writes its own collection. -/
theorem write_of_handle {msg : Msg} (h : handle env ctx s msg = .ok s') :
    Write env s (.deliver ctx msg) s' := by
  cases msg with
  | upsertNode msg =>
      simp only [handle, upsertNode, bind_eq_ok, ensure_eq_ok, exists_const, addressOk_eq_ok,
        pure_eq_ok] at h
      obtain ⟨_, _, hnamed, howner, address, hdecoded, _, _, _, _, _, _, _, _, _, rfl⟩ := h
      exact .node ctx msg _ address howner hnamed.2 hdecoded
  | submitBatch msg =>
      simp only [handle, submitBatch, bind_eq_ok, ensure_eq_ok, exists_const, require_eq_ok,
        pure_eq_ok] at h
      obtain ⟨batch, hsupplied, _, howner, _, _, _, _, _, rfl⟩ := h
      exact .batch ctx msg batch hsupplied howner
  | submitReplicaReceipt msg =>
      simp only [handle, submitReplicaReceipt, bind_eq_ok, ensure_eq_ok, exists_const,
        pure_eq_ok] at h
      obtain ⟨receipt, _, hnamed, howner, hpayload, storer, hstorer, rfl⟩ := h
      have hfound := (requireNodeCapability_ok hstorer).1
      rw [howner] at hfound
      exact .receipt ctx msg receipt _ storer hnamed.2 hpayload hfound
  | verifyBatch msg =>
      simp only [handle, verifyBatch, bind_eq_ok, ensure_eq_ok, exists_const, pure_eq_ok] at h
      obtain ⟨_, _, _, hforeign, _, _, _, _, _, rfl⟩ := h
      exact .verification ctx msg _ hforeign
  | upsertGameWeight msg =>
      simp only [handle, upsertGameWeight, bind_eq_ok, ensure_eq_ok, exists_const, pure_eq_ok] at h
      obtain ⟨entry, _, _, hpositive, rfl⟩ := h
      exact .weight ctx msg entry hpositive
  | submitPlayHeartbeat msg =>
      simp only [handle, submitPlayHeartbeat, bind_eq_ok, ensure_eq_ok, exists_const,
        require_eq_ok, pure_eq_ok] at h
      obtain ⟨heartbeat, hsupplied, _, _, _, _, _, _, hunsettled, rfl⟩ := h
      exact .heartbeat ctx msg heartbeat hsupplied hunsettled
  | attestSession msg =>
      simp only [handle, attestSession, bind_eq_ok, ensure_eq_ok, exists_const, require_eq_ok] at h
      obtain ⟨attestation, hsupplied, _, _, _, _, _, hunsettled, h⟩ := h
      split at h
      · cases h
      · cases h
        exact .attestation ctx msg attestation hsupplied hunsettled
  | upsertAggregateRecord msg =>
      simp only [handle, upsertAggregateRecord, bind_eq_ok, ensure_eq_ok, exists_const,
        require_eq_ok, pure_eq_ok] at h
      obtain ⟨record, _, _, _, _, _, _, rfl⟩ := h
      rcases refreshAggregatesCommitment_cases env (s.setAggregateRecord record) record.epochId with
        heq | ⟨commit, _, _, heq⟩
      · rw [heq]
        exact same_of_frame rfl rfl rfl rfl rfl rfl rfl rfl rfl
      · rw [heq]
        exact same_of_frame rfl rfl rfl rfl rfl rfl rfl rfl rfl
  | commitEpoch msg =>
      simp only [handle, commitEpoch, bind_eq_ok, ensure_eq_ok, exists_const, require_eq_ok,
        pure_eq_ok] at h
      obtain ⟨_, _, _, _, _, _, _, rfl⟩ := h
      exact same_of_frame rfl rfl rfl rfl rfl rfl rfl rfl rfl
  | openChallenge msg =>
      obtain ⟨challenge, bank, _, _, _, rfl⟩ := openChallenge_ok h
      exact same_of_frame rfl rfl rfl rfl rfl rfl rfl rfl rfl
  | resolveChallenge msg =>
      obtain ⟨stored, settled, slashed, commit, _, _, _, _, _, _, hsettles, hslashes, _, rfl⟩ :=
        resolveChallenge_ok h
      obtain ⟨bank, rewardRecords, hrewarded⟩ := resolution_frame hsettles hslashes
      rw [hrewarded]
      exact same_of_frame rfl rfl rfl rfl rfl rfl rfl rfl rfl
  | finalizeEpoch msg =>
      simp only [handle, finalizeEpochMsg, bind_eq_ok, ensure_eq_ok, exists_const] at h
      obtain ⟨_, _, _, h⟩ := h
      obtain ⟨commit, _, ⟨_, rfl⟩ | ⟨_, _, rfl⟩⟩ := finalizeEpoch_ok h
      · exact same_of_frame rfl rfl rfl rfl rfl rfl rfl rfl rfl
      · exact same_of_frame rfl rfl rfl rfl rfl rfl rfl rfl rfl
  | claimReward msg =>
      obtain ⟨record, recipient, paid, bank, claim, _, _, _, rfl⟩ := claimReward_ok h
      exact same_of_frame rfl rfl rfl rfl rfl rfl rfl rfl rfl
  | updateParams msg =>
      simp only [handle, updateParams, setParams, bind_eq_ok, ensure_eq_ok, exists_const,
        pure_eq_ok] at h
      obtain ⟨params, _, _, _, _, rfl⟩ := h
      exact same_of_frame rfl rfl rfl rfl rfl rfl rfl rfl rfl
  | submitPlaySession msg =>
      simp only [handle, submitPlaySession, bind_eq_ok, ensure_eq_ok, exists_const, require_eq_ok,
        pure_eq_ok] at h
      obtain ⟨session, _, _, _, _, _, _, _, _, _, rfl⟩ := h
      exact same_of_frame rfl rfl rfl rfl rfl rfl rfl rfl rfl
  | settleSession msg =>
      simp only [handle, settleSession, settlePlaySession, bind_eq_ok, ensure_eq_ok, exists_const,
        require_eq_ok, pure_eq_ok] at h
      obtain ⟨_, _, _, _, session, _, rfl⟩ := h
      exact same_of_frame rfl rfl rfl rfl rfl rfl rfl rfl rfl
  | submitRewardRecords msg =>
      simp only [handle, submitRewardRecords, bind_eq_ok, ensure_eq_ok, exists_const,
        pure_eq_ok] at h
      obtain ⟨_, _, _, _, _, _, _, records, _, _, _, _, rfl⟩ := h
      obtain ⟨rewardRecords, hframe⟩ := setRewardRecords_frame s records
      rw [hframe]
      exact same_of_frame rfl rfl rfl rfl rfl rfl rfl rfl rfl
  | activityBurn msg =>
      simp only [handle, activityBurn, executeActivityBurn, bind_eq_ok, ensure_eq_ok, exists_const,
        withContext_eq_ok, pure_eq_ok] at h
      obtain ⟨_, _, _, sender, _, collected, _, bank, _, rfl⟩ := h
      exact same_of_frame rfl rfl rfl rfl rfl rfl rfl rfl rfl

end KeeperState

/-- Every accepted input writes its own collection. -/
theorem write_of_step {env : Env} {s s' : KeeperState} {input : Input}
    (h : step env s input = .ok s') : Write env s input s' := by
  cases input with
  | deliver ctx msg => exact KeeperState.write_of_handle h
  | beginBlock ctx =>
      simp only [step, KeeperState.beginBlockAnnualEmission, bind_eq_ok, pure_eq_ok] at h
      obtain ⟨st, _, rfl⟩ := h
      exact .elsewhere _ _ rfl ⟨rfl, rfl, rfl, rfl, rfl, rfl, rfl, rfl⟩

/-! ## Sessions -/

/-- Neither the session collections nor the parameters differ. -/
structure SameSessions (s s' : KeeperState) : Prop where
  playSessions : s'.playSessions = s.playSessions
  witnessAttestations : s'.witnessAttestations = s.witnessAttestations
  sessionSettlements : s'.sessionSettlements = s.sessionSettlements
  params : s'.params = s.params

/-- What an accepted input writes of the session collections and the parameters. -/
inductive SessionWrite (s : KeeperState) : Input → KeeperState → Prop
  | claimed (ctx : Ctx) (msg : MsgSubmitPlaySession) (session : PlaySession)
      (supplied : msg.session = some session) :
      SessionWrite s (.deliver ctx (.submitPlaySession msg))
        (s.setPlaySession { session with submittedAtHeight := ctx.height })
  | attested (ctx : Ctx) (msg : MsgAttestSession) (attestation : WitnessAttestation)
      (session : PlaySession) (named : attestation.witnessAddress ≠ "")
      (found : s.playSessions[attestation.sessionIdHex]? = some session)
      (independent : s.validateWitnessIndependence session attestation s.getParams = .ok ()) :
      SessionWrite s (.deliver ctx (.attestSession msg))
        (s.setWitnessAttestation { attestation with attestedAtHeight := ctx.height })
  | settled (ctx : Ctx) (msg : MsgSettleSession) (session : PlaySession)
      (found : s.playSessions[msg.sessionIdHex]? = some session) :
      SessionWrite s (.deliver ctx (.settleSession msg))
        (s.setSessionSettlement (s.sessionVerdict ctx msg.sessionIdHex session))
  | params (ctx : Ctx) (msg : MsgUpdateParams) (params : Params)
      (supplied : msg.params = some params) :
      SessionWrite s (.deliver ctx (.updateParams msg)) { s with params := some params }
  | elsewhere (input : Input) (s' : KeeperState) (same : SameSessions s s') :
      SessionWrite s input s'

/-- Every accepted input writes one session collection, the parameters, or none of them. -/
theorem sessionWrite_of_step {env : Env} {s s' : KeeperState} {input : Input}
    (h : step env s input = .ok s') : SessionWrite s input s' := by
  have heffect := effect_of_step h
  cases heffect with
  | session ctx msg session supplied => exact .claimed ctx msg session supplied
  | attested ctx msg attestation session supplied named found independent =>
      exact .attested ctx msg attestation session named found independent
  | settled ctx msg session found => exact .settled ctx msg session found
  | params ctx msg params =>
      simp only [step, handle, KeeperState.updateParams, KeeperState.setParams, bind_eq_ok,
        ensure_eq_ok, exists_const, require_eq_ok, pure_eq_ok] at h
      obtain ⟨supplied, hsupplied, _, _, _, hstored⟩ := h
      obtain rfl : supplied = params := Option.some.inj (congrArg KeeperState.params hstored)
      exact .params ctx msg supplied hsupplied
  | aggregate ctx msg record =>
      rcases KeeperState.refreshAggregatesCommitment_cases env (s.setAggregateRecord record)
        record.epochId with heq | ⟨commit, _, _, heq⟩
      · rw [heq]
        exact .elsewhere _ _ ⟨rfl, rfl, rfl, rfl⟩
      · rw [heq]
        exact .elsewhere _ _ ⟨rfl, rfl, rfl, rfl⟩
  | resolved ctx msg stored settled slashed rewarded commit found authorized final settles slashes
      rewards =>
      obtain ⟨bank, rewardRecords, hrewarded⟩ := KeeperState.resolution_frame settles slashes
      rw [rewards] at hrewarded
      rw [hrewarded]
      exact .elsewhere _ _ ⟨rfl, rfl, rfl, rfl⟩
  | rewards ctx msg commit records =>
      obtain ⟨rewardRecords, hframe⟩ := KeeperState.setRewardRecords_frame s records
      rw [hframe]
      exact .elsewhere _ _ ⟨rfl, rfl, rfl, rfl⟩
  | quiet | commit | finalized | opened | claimed | burned | emitted =>
      exact .elsewhere _ _ ⟨rfl, rfl, rfl, rfl⟩

end PoleProtocol.Chain
