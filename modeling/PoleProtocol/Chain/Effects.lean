import PoleProtocol.Chain.MsgServer
import PoleProtocol.Chain.Treasury

/-!
# What a step can do

Every accepted step is one of the effects below. Each effect names the collections it writes and
the checks that later arguments need; the messages about nodes, batches, receipts,
verifications, game weights and heartbeats write none of the collections those arguments read
and share one effect. Invariants are proved by cases on the effect, so no handler is unfolded
twice.
-/

namespace PoleProtocol.Chain

open Framework

namespace KeeperState

variable {env : Env} {ctx : Ctx} {s s' : KeeperState}

/-! ## Parts of a resolution -/

/-- Settling a bond moves coins only. -/
theorem settleChallengeBond_frame {challenge : Challenge}
    (h : s.settleChallengeBond env challenge = .ok s') : ∃ bank, s' = { s with bank } := by
  obtain ⟨bank, hframe, _⟩ := settleChallengeBond_ok h
  exact ⟨bank, hframe⟩

/-- Slashing the target moves coins and at most one reward record. -/
theorem slashTarget_ok {challenge : Challenge} (h : s.slashTarget challenge = .ok s') :
    s' = s ∨ ∃ bank burned bank' burned',
      let record := s.rewardRecordOrNew challenge.epochId challenge.targetAddress
      let slashApplied := min challenge.slashAmount record.netReward
      let slashed := sessionSlash s.getParams challenge (record.debit slashApplied)
      challenge.targetAddress ≠ "" ∧ challenge.slashAmount ≠ 0 ∧
      s.bank.burnFromRewardPool (bpsShare64 slashApplied s.getParams.governanceBurnBps) =
        .ok (bank, burned) ∧
      bank.burnFromRewardPool slashed = .ok (bank', burned') ∧
      s' = { s with bank := bank' }.setRewardRecord ((record.debit slashApplied).debit slashed) := by
  unfold slashTarget at h
  split at h
  · cases h
    exact .inl rfl
  · rename_i hnamed
    simp only [bind_eq_ok, pure_eq_ok] at h
    obtain ⟨⟨bank, burned⟩, hgovernance, ⟨bank', burned'⟩, hsession, rfl⟩ := h
    have htarget : challenge.targetAddress ≠ "" := fun h => hnamed (.inl h)
    have hamount : challenge.slashAmount ≠ 0 := fun h => hnamed (.inr h)
    exact .inr ⟨bank, burned, bank', burned', htarget, hamount, hgovernance, hsession, rfl⟩

theorem slashTarget_frame {challenge : Challenge} (h : s.slashTarget challenge = .ok s') :
    ∃ bank rewardRecords, s' = { s with bank, rewardRecords } := by
  rcases slashTarget_ok h with rfl | ⟨_, _, bank, _, _, _, _, _, rfl⟩
  · exact ⟨s'.bank, s'.rewardRecords, rfl⟩
  · exact ⟨bank, _, rfl⟩

theorem rewardChallenger_frame (s : KeeperState) (challenge : Challenge) :
    ∃ rewardRecords, s.rewardChallenger challenge = { s with rewardRecords } := by
  unfold rewardChallenger
  split
  · exact ⟨s.rewardRecords, rfl⟩
  · exact ⟨_, rfl⟩

theorem setRewardRecords_frame (s : KeeperState) (records : List RewardRecord) :
    ∃ rewardRecords, records.foldl setRewardRecord s = { s with rewardRecords } := by
  induction records generalizing s with
  | nil => exact ⟨s.rewardRecords, rfl⟩
  | cons record records ih => exact ih (s.setRewardRecord record)

/-- Before the commitments are recomputed, a resolution has moved coins and reward records. -/
theorem resolution_frame {challenge : Challenge} {settled slashed : KeeperState}
    (hsettles : s.settleChallengeBond env challenge = .ok settled)
    (hslashes : settled.slashTarget challenge = .ok slashed) :
    ∃ bank rewardRecords,
      slashed.rewardChallenger challenge = { s with bank, rewardRecords } := by
  obtain ⟨bank, rfl⟩ := settleChallengeBond_frame hsettles
  obtain ⟨bank', records, rfl⟩ := slashTarget_frame hslashes
  obtain ⟨records', hrewarded⟩ := rewardChallenger_frame
    { s with bank := bank', rewardRecords := records } challenge
  exact ⟨bank', records', hrewarded⟩

/-- Refreshing an aggregates commitment writes at most the commit of that epoch. -/
theorem refreshAggregatesCommitment_cases (env : Env) (s : KeeperState) (epochId : ℕ) :
    s.refreshAggregatesCommitment env epochId = s ∨
      ∃ commit, s.epochCommits[epochId]? = some commit ∧ commit.finalized = false ∧
        s.refreshAggregatesCommitment env epochId = s.setEpochCommit { commit with
          aggregates :=
            some (merkleRootHexForRecords env.sha256 (s.aggregateRecordsForEpoch epochId))
          totalNetworkWeightUnits := totalWeightUnits (s.aggregateRecordsForEpoch epochId) } := by
  unfold refreshAggregatesCommitment
  split
  · exact .inl rfl
  · rename_i commit hcommit
    cases hfinalized : commit.finalized with
    | true => exact .inl (by simp)
    | false => exact .inr ⟨commit, hcommit, hfinalized, by simp [hfinalized]⟩

/-- The gates an epoch passes when it is closed. -/
structure FinalizationGates (env : Env) (ctx : Ctx) (s : KeeperState) (epochId : ℕ)
    (commit : EpochCommit) : Prop where
  windowPassed : commit.challengeDeadlineHeight < ctx.height
  noOpenChallenge : s.hasOpenChallengesForEpoch epochId = false
  allSettled : s.unsettledSessionsForEpoch epochId = []
  rootsValid : s.validateEpochRoots env epochId commit = .ok ()
  coverage : ∃ verifierCount playerShareBps,
    s.verificationCoverage epochId = .ok (verifierCount, playerShareBps) ∧
    s.getParams.minVerificationCount ≤ verifierCount ∧
    s.getParams.minPlayerVerifierShareBps ≤ playerShareBps

theorem finalizeEpoch_ok {epochId : ℕ} (h : s.finalizeEpoch env ctx epochId = .ok s') :
    ∃ commit, s.epochCommits[epochId]? = some commit ∧
      (commit.finalized = true ∧ s' = s ∨
        commit.finalized = false ∧ FinalizationGates env ctx s epochId commit ∧
          s' = s.setEpochCommit { commit with finalized := true }) := by
  simp only [finalizeEpoch, bind_eq_ok] at h
  obtain ⟨commit, hfound, h⟩ := h
  have hcommit : s.epochCommits[epochId]? = some commit := by
    simpa [getEpochCommit] using hfound
  refine ⟨commit, hcommit, ?_⟩
  cases hfinalized : commit.finalized with
  | true =>
      simp only [hfinalized, if_true, pure_eq_ok] at h
      exact .inl ⟨rfl, h.symm⟩
  | false =>
      simp only [hfinalized, Bool.false_eq_true, if_false, bind_eq_ok, ensure_eq_ok, exists_const,
        pure_eq_ok] at h
      obtain ⟨hwindow, hchallenges, hsessions, _, hroots, ⟨count, share⟩, hcoverage, hcount,
        hshare, rfl⟩ := h
      have hgates : FinalizationGates env ctx s epochId commit :=
        { windowPassed := hwindow
          noOpenChallenge := hchallenges
          allSettled := hsessions
          rootsValid := hroots
          coverage := ⟨count, share, hcoverage, by omega, by omega⟩ }
      exact .inr ⟨rfl, hgates, rfl⟩

end KeeperState

/-! ## Effects -/

/-- The accepted steps from a state: the input, and the state it leads to. -/
inductive Effect (env : Env) (s : KeeperState) : Input → KeeperState → Prop
  | quiet (input : Input) (nodes : OrderedMap String NodeRecord)
      (batchCommits : OrderedMap (ℕ × String × String) BatchCommit)
      (availability : OrderedMap (ℕ × String × String) AvailabilityRecord)
      (gameWeightEntries : OrderedMap (ℕ × ℕ) GameWeightEntry)
      (replicaReceipts : OrderedMap (ℕ × String × String) ReplicaReceipt)
      (verificationRecords : OrderedMap (ℕ × String × String) VerificationRecord)
      (playHeartbeats : OrderedMap (String × ℕ) PlayHeartbeat) :
      Effect env s input { s with
        nodes, batchCommits, availability, gameWeightEntries, replicaReceipts,
        verificationRecords, playHeartbeats }
  | params (ctx : Ctx) (msg : MsgUpdateParams) (params : Params)
      (valid : params.validate = .ok ()) :
      Effect env s (.deliver ctx (.updateParams msg)) { s with params := some params }
  | aggregate (ctx : Ctx) (msg : MsgUpsertAggregateRecord) (record : AggregateRecord)
      (supplied : msg.aggregateRecord = some record) :
      Effect env s (.deliver ctx (.upsertAggregateRecord msg))
        ((s.setAggregateRecord record).refreshAggregatesCommitment env record.epochId)
  | commit (ctx : Ctx) (msg : MsgCommitEpoch) (commit : EpochCommit)
      (supplied : msg.epochCommit = some commit) :
      Effect env s (.deliver ctx (.commitEpoch msg)) (s.setEpochCommit (commit.proposed ctx))
  | finalized (ctx : Ctx) (msg : MsgFinalizeEpoch) (commit : EpochCommit)
      (found : s.epochCommits[msg.epochId]? = some commit) (pending : commit.finalized = false)
      (gates : s.FinalizationGates env ctx msg.epochId commit) :
      Effect env s (.deliver ctx (.finalizeEpoch msg))
        (s.setEpochCommit { commit with finalized := true })
  | opened (ctx : Ctx) (msg : MsgOpenChallenge) (challenge : Challenge) (bank : Bank)
      (supplied : msg.challenge = some challenge) (named : challenge.challenger ≠ "")
      (escrowed : s.bank.escrowChallengeBond env challenge.challenger
        challenge.bondAmount.toNat = .ok bank) :
      Effect env s (.deliver ctx (.openChallenge msg))
        ({ s with bank }.setChallenge (challenge.opened ctx))
  | resolved (ctx : Ctx) (msg : MsgResolveChallenge) (stored : Challenge)
      (settled slashed rewarded : KeeperState) (commit : EpochCommit)
      (found : s.challenges[msg.challengeIdHex]? = some stored)
      (authorized : ctx.isAuthority msg.resolver = true) (final : msg.finalState ≠ .unspecified)
      (settles : s.settleChallengeBond env (stored.resolvedBy msg) = .ok settled)
      (slashes : settled.slashTarget (stored.resolvedBy msg) = .ok slashed)
      (rewards : slashed.rewardChallenger (stored.resolvedBy msg) = rewarded)
      (committed : s.epochCommits[stored.epochId]? = some commit) :
      Effect env s (.deliver ctx (.resolveChallenge msg))
        ((rewarded.setEpochCommit (rewarded.recomputedCommit env stored.epochId commit)).setChallenge
          (stored.resolvedBy msg))
  | claimed (ctx : Ctx) (msg : MsgClaimReward) (record : RewardRecord) (recipient : Bytes)
      (paid bank : Bank) (claim : ClaimedReward)
      (found : s.rewardRecords[(msg.epochId, msg.recipient)]? = some record)
      (pays : s.bank.payClaim recipient record.netReward
        (sub64 record.netReward (claimBurnAmount s.getParams record.netReward)) = .ok paid)
      (burns : paid.burnClaimShare (claimBurnAmount s.getParams record.netReward) = .ok bank) :
      Effect env s (.deliver ctx (.claimReward msg)) ({ s with bank }.setClaimedReward claim)
  | rewards (ctx : Ctx) (msg : MsgSubmitRewardRecords) (commit : EpochCommit)
      (records : List RewardRecord) (found : s.epochCommits[msg.epochId]? = some commit)
      (pending : commit.finalized = false)
      (supplied : msg.records.mapM (checkRewardRecord msg.epochId) = .ok records) :
      Effect env s (.deliver ctx (.submitRewardRecords msg))
        (records.foldl KeeperState.setRewardRecord s)
  | burned (ctx : Ctx) (msg : MsgActivityBurn) (sender : Bytes) (collected bank : Bank) (total : ℕ)
      (collects : s.bank.sendCoinsFromAccountToModule sender msg.amount = .ok collected)
      (burns : collected.burnCoins msg.amount = .ok bank) :
      Effect env s (.deliver ctx (.activityBurn msg))
        { s with bank, totalActivityBurned := some total }
  | session (ctx : Ctx) (msg : MsgSubmitPlaySession) (session : PlaySession)
      (supplied : msg.session = some session) (owner : msg.nodeAddress = session.nodeAddress) :
      Effect env s (.deliver ctx (.submitPlaySession msg))
        (s.setPlaySession { session with submittedAtHeight := ctx.height })
  | attested (ctx : Ctx) (msg : MsgAttestSession) (attestation : WitnessAttestation)
      (session : PlaySession) (supplied : msg.attestation = some attestation)
      (named : attestation.witnessAddress ≠ "")
      (found : s.playSessions[attestation.sessionIdHex]? = some session)
      (independent : s.validateWitnessIndependence session attestation s.getParams = .ok ()) :
      Effect env s (.deliver ctx (.attestSession msg))
        (s.setWitnessAttestation { attestation with attestedAtHeight := ctx.height })
  | settled (ctx : Ctx) (msg : MsgSettleSession) (session : PlaySession)
      (found : s.playSessions[msg.sessionIdHex]? = some session) :
      Effect env s (.deliver ctx (.settleSession msg))
        (s.setSessionSettlement (s.sessionVerdict ctx msg.sessionIdHex session))
  | emitted (ctx : Ctx) (mint : ℕ) (emission : AnnualEmissionState) :
      Effect env s (.beginBlock ctx)
        { s with bank := s.bank.mintCoins mint, annualEmission := some emission }

namespace KeeperState

variable {env : Env} {ctx : Ctx} {s s' : KeeperState}

/-- An accepted resolution: an authority resolves a stored challenge whose evidence and target
pass, and whose bond, slash and commitments go through. -/
theorem resolveChallenge_ok {msg : MsgResolveChallenge}
    (h : s.resolveChallenge env ctx msg = .ok s') :
    ∃ stored settled slashed commit, s.challenges[msg.challengeIdHex]? = some stored ∧
      ctx.isAuthority msg.resolver = true ∧ msg.finalState ≠ .unspecified ∧
      s.validateChallengeEvidence env stored = .ok () ∧
      s.validateChallengeTarget stored = .ok () ∧
      applyValidatorSlash env ctx stored.targetConsAddress msg.slashFractionBps
        msg.jailValidator = .ok () ∧
      s.settleChallengeBond env (stored.resolvedBy msg) = .ok settled ∧
      settled.slashTarget (stored.resolvedBy msg) = .ok slashed ∧
      s.epochCommits[stored.epochId]? = some commit ∧
      s' = ((slashed.rewardChallenger (stored.resolvedBy msg)).setEpochCommit
        ((slashed.rewardChallenger (stored.resolvedBy msg)).recomputedCommit env stored.epochId
          commit)).setChallenge (stored.resolvedBy msg) := by
  simp only [resolveChallenge, applyChallengeRewardEffects, recomputeEpochCommitments, bind_eq_ok,
    ensure_eq_ok, exists_const, pure_eq_ok] at h
  obtain ⟨hauthority, stored, hfound, hfinal, _, hevidence, _, htarget, _, hvalidator, settled,
    hsettles, _, ⟨slashed, hslashes, rfl⟩, _, ⟨commit, hcommit, rfl⟩, rfl⟩ := h
  have hcommitted : s.epochCommits[stored.epochId]? = some commit := by
    obtain ⟨bank, records, hrewarded⟩ := resolution_frame hsettles hslashes
    rw [hrewarded] at hcommit
    simpa [getEpochCommit, Challenge.resolvedBy] using hcommit
  exact ⟨stored, settled, slashed, commit, by simpa [getChallenge] using hfound, hauthority, hfinal,
    hevidence, htarget, hvalidator, hsettles, hslashes, hcommitted, rfl⟩

/-- An accepted opening escrows the bond and stores the challenge under its id. -/
theorem openChallenge_ok {msg : MsgOpenChallenge} (h : s.openChallenge env ctx msg = .ok s') :
    ∃ challenge bank, msg.challenge = some challenge ∧ challenge.challenger ≠ "" ∧
      s.bank.escrowChallengeBond env challenge.challenger challenge.bondAmount.toNat = .ok bank ∧
      s' = { s with bank }.setChallenge (challenge.opened ctx) := by
  simp only [openChallenge, bind_eq_ok, ensure_eq_ok, exists_const, require_eq_ok, pure_eq_ok] at h
  obtain ⟨challenge, hsupplied, hnamed, hchallenger, _, _, _, _, bank, hescrow, rfl⟩ := h
  rw [hchallenger] at hescrow
  exact ⟨challenge, bank, hsupplied, hnamed.2, hescrow, rfl⟩

/-- A claim pays the stored record's net reward, less its burn share. -/
theorem claimReward_ok {msg : MsgClaimReward} (h : s.claimReward env ctx msg = .ok s') :
    ∃ record recipient paid bank claim,
      s.rewardRecords[(msg.epochId, msg.recipient)]? = some record ∧
      s.bank.payClaim recipient record.netReward
        (sub64 record.netReward (claimBurnAmount s.getParams record.netReward)) = .ok paid ∧
      paid.burnClaimShare (claimBurnAmount s.getParams record.netReward) = .ok bank ∧
      s' = { s with bank }.setClaimedReward claim := by
  simp only [claimReward, payoutClaimedReward, bind_eq_ok, ensure_eq_ok, exists_const,
    pure_eq_ok] at h
  obtain ⟨_, _, _, _, _, _, record, hfound, _, _, ⟨_, recipient, _, paid, hpays, bank, hburns, rfl⟩,
    rfl⟩ := h
  exact ⟨record, recipient, paid, bank, _, by simpa [getRewardRecord] using hfound, hpays, hburns,
    rfl⟩

private theorem attestSession_effect {msg : MsgAttestSession}
    (h : s.attestSession ctx msg = .ok s') :
    Effect env s (.deliver ctx (.attestSession msg)) s' := by
  simp only [attestSession, bind_eq_ok, ensure_eq_ok, exists_const, require_eq_ok] at h
  obtain ⟨attestation, hsupplied, hnamed, _, _, session, hfound, _, h⟩ := h
  split at h
  · cases h
  · rename_i u hindependent
    cases h
    exact .attested ctx msg attestation session hsupplied hnamed.2 hfound hindependent

/-- Every accepted message has one of the effects. -/
theorem effect_of_handle {msg : Msg} (h : handle env ctx s msg = .ok s') :
    Effect env s (.deliver ctx msg) s' := by
  cases msg with
  | upsertNode msg =>
      simp only [handle, upsertNode, bind_eq_ok, ensure_eq_ok, exists_const, pure_eq_ok] at h
      obtain ⟨_, _, _, _, _, _, _, _, _, _, _, _, _, _, _, rfl⟩ := h
      exact .quiet _ _ _ _ _ _ _ _
  | upsertAggregateRecord msg =>
      simp only [handle, upsertAggregateRecord, bind_eq_ok, ensure_eq_ok, exists_const,
        require_eq_ok, pure_eq_ok] at h
      obtain ⟨record, hsupplied, _, _, _, _, _, rfl⟩ := h
      exact .aggregate ctx msg record hsupplied
  | submitBatch msg =>
      simp only [handle, submitBatch, bind_eq_ok, ensure_eq_ok, exists_const, pure_eq_ok] at h
      obtain ⟨_, _, _, _, _, _, _, _, _, rfl⟩ := h
      exact .quiet _ _ _ _ _ _ _ _
  | submitReplicaReceipt msg =>
      simp only [handle, submitReplicaReceipt, bind_eq_ok, ensure_eq_ok, exists_const,
        pure_eq_ok] at h
      obtain ⟨_, _, _, _, _, _, _, rfl⟩ := h
      exact .quiet _ _ _ _ _ _ _ _
  | commitEpoch msg =>
      simp only [handle, commitEpoch, bind_eq_ok, ensure_eq_ok, exists_const, require_eq_ok,
        pure_eq_ok] at h
      obtain ⟨commit, hsupplied, _, _, _, _, _, rfl⟩ := h
      exact .commit ctx msg commit hsupplied
  | openChallenge msg =>
      obtain ⟨challenge, bank, hsupplied, hnamed, hescrow, rfl⟩ := openChallenge_ok h
      exact .opened ctx msg challenge bank hsupplied hnamed hescrow
  | resolveChallenge msg =>
      obtain ⟨stored, settled, slashed, commit, hfound, hauthority, hfinal, _, _, _, hsettles,
        hslashes, hcommitted, rfl⟩ := resolveChallenge_ok h
      exact .resolved ctx msg stored settled slashed _ commit hfound hauthority hfinal hsettles
        hslashes rfl hcommitted
  | finalizeEpoch msg =>
      simp only [handle, finalizeEpochMsg, bind_eq_ok, ensure_eq_ok, exists_const] at h
      obtain ⟨_, _, _, h⟩ := h
      obtain ⟨commit, hfound, ⟨_, rfl⟩ | ⟨hpending, hgates, rfl⟩⟩ := finalizeEpoch_ok h
      · exact .quiet _ _ _ _ _ _ _ _
      · exact .finalized ctx msg commit hfound hpending hgates
  | verifyBatch msg =>
      simp only [handle, verifyBatch, bind_eq_ok, ensure_eq_ok, exists_const, pure_eq_ok] at h
      obtain ⟨_, _, _, _, _, _, _, _, _, rfl⟩ := h
      exact .quiet _ _ _ _ _ _ _ _
  | claimReward msg =>
      obtain ⟨record, recipient, paid, bank, claim, hfound, hpays, hburns, rfl⟩ := claimReward_ok h
      exact .claimed ctx msg record recipient paid bank claim hfound hpays hburns
  | upsertGameWeight msg =>
      simp only [handle, upsertGameWeight, bind_eq_ok, ensure_eq_ok, exists_const, pure_eq_ok] at h
      obtain ⟨_, _, _, _, rfl⟩ := h
      exact .quiet _ _ _ _ _ _ _ _
  | updateParams msg =>
      simp only [handle, updateParams, setParams, bind_eq_ok, ensure_eq_ok, exists_const,
        pure_eq_ok] at h
      obtain ⟨params, _, _, _, hvalid, rfl⟩ := h
      exact .params ctx msg params hvalid
  | submitPlaySession msg =>
      simp only [handle, submitPlaySession, bind_eq_ok, ensure_eq_ok, exists_const, require_eq_ok,
        pure_eq_ok] at h
      obtain ⟨session, hsupplied, _, howner, _, _, _, _, _, _, rfl⟩ := h
      exact .session ctx msg session hsupplied howner
  | submitPlayHeartbeat msg =>
      simp only [handle, submitPlayHeartbeat, bind_eq_ok, ensure_eq_ok, exists_const,
        pure_eq_ok] at h
      obtain ⟨_, _, _, _, _, _, _, _, _, rfl⟩ := h
      exact .quiet _ _ _ _ _ _ _ _
  | attestSession msg => exact attestSession_effect h
  | settleSession msg =>
      simp only [handle, settleSession, settlePlaySession, bind_eq_ok, ensure_eq_ok, exists_const,
        require_eq_ok, pure_eq_ok] at h
      obtain ⟨_, _, _, _, session, hfound, rfl⟩ := h
      exact .settled ctx msg session hfound
  | submitRewardRecords msg =>
      simp only [handle, submitRewardRecords, bind_eq_ok, ensure_eq_ok, exists_const,
        pure_eq_ok] at h
      obtain ⟨_, _, _, _, commit, hfound, hpending, records, hrecords, _, _, _, rfl⟩ := h
      exact .rewards ctx msg commit records (by simpa [getEpochCommit] using hfound) hpending
        hrecords
  | activityBurn msg =>
      simp only [handle, activityBurn, executeActivityBurn, bind_eq_ok, ensure_eq_ok, exists_const,
        withContext_eq_ok, pure_eq_ok] at h
      obtain ⟨_, _, _, sender, _, collected, hcollects, bank, hburns, rfl⟩ := h
      exact .burned ctx msg sender collected bank _ hcollects hburns

end KeeperState

/-- Every accepted step has one of the effects. -/
theorem effect_of_step {env : Env} {s s' : KeeperState} {input : Input}
    (h : step env s input = .ok s') : Effect env s input s' := by
  cases input with
  | deliver ctx msg => exact KeeperState.effect_of_handle h
  | beginBlock ctx =>
      simp only [step, KeeperState.beginBlockAnnualEmission, bind_eq_ok, pure_eq_ok] at h
      obtain ⟨st, _, rfl⟩ := h
      exact .emitted ctx _ _

/-- What every effect preserves, the machine preserves: a refused step changes nothing. -/
theorem next_preserves {env : Env} {P : KeeperState → Prop} {s : KeeperState} {input : Input}
    (heffect : ∀ s', Effect env s input s' → P s') (h : P s) : P (next env s input) :=
  attempt_preserves (fun s' hs' => heffect s' (effect_of_step hs')) h

end PoleProtocol.Chain
