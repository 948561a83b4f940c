import PoleProtocol.Chain.Finality

/-!
# The evidence behind a closed epoch

The gate checks that no challenge of the epoch is open, that its sessions are settled and that
its records hash to the committed roots. Those records live in other collections, and this module
says along which runs the facts survive the closing.
-/

namespace PoleProtocol.Chain

open Framework OrderedMap KeeperState

variable {env : Env} {s s' : KeeperState} {input : Input} {e : ℕ}

theorem hasOpenChallengesForEpoch_eq_false :
    s.hasOpenChallengesForEpoch e = false ↔
      ∀ (id : String) (challenge : Challenge), s.challenges[id]? = some challenge →
        challenge.epochId = e → challenge.state ≠ .open := by
  simp only [hasOpenChallengesForEpoch, List.any_eq_false, decide_eq_true_eq]
  constructor
  · intro h id challenge hget hepoch hopen
    exact h (id, challenge) (mem_toList.mpr hget) ⟨hepoch, hopen⟩
  · rintro h ⟨id, challenge⟩ hmem ⟨hepoch, hopen⟩
    exact h id challenge (mem_toList.mp hmem) hepoch hopen

theorem unsettledSessionsForEpoch_eq_nil :
    s.unsettledSessionsForEpoch e = [] ↔
      ∀ (id : String) (session : PlaySession), s.playSessions[id]? = some session →
        session.epochId = e → s.sessionSettlements[session.sessionIdHex]? ≠ none := by
  simp only [unsettledSessionsForEpoch, playSessionsForEpoch, List.filter_eq_nil_iff, List.mem_map,
    List.mem_filter, decide_eq_true_eq]
  constructor
  · intro h id session hget hepoch
    exact h session ⟨(id, session), ⟨mem_toList.mpr hget, hepoch⟩, rfl⟩
  · rintro h _ ⟨⟨id, session⟩, ⟨hmem, hepoch⟩, rfl⟩
    exact h id session (mem_toList.mp hmem) hepoch

/-- What the gate checked about epoch `e` and its records. -/
structure EvidenceStands (env : Env) (e : ℕ) (s : KeeperState) : Prop where
  noOpenChallenge : s.hasOpenChallengesForEpoch e = false
  allSettled : s.unsettledSessionsForEpoch e = []
  rootsValid : ∃ commit, s.epochCommits[e]? = some commit ∧ commit.finalized = true ∧
    s.validateEpochRoots env e commit = .ok ()

/-- The step writes none of the evidence of epoch `e`: no proposal and no aggregate for it, no
session of it without a settlement, and no challenge of it left open. -/
def LeavesEvidence (e : ℕ) (s : KeeperState) (input : Input) : Prop :=
  (∀ commit ∈ input.proposal, commit.epochId ≠ e) ∧
  (∀ record ∈ input.aggregateUpsert, record.epochId ≠ e) ∧
  (∀ session ∈ input.playClaim, session.epochId = e →
    s.sessionSettlements[session.sessionIdHex]? ≠ none) ∧
  (∀ challenge ∈ input.opening, challenge.epochId = e → challenge.state ≠ .open) ∧
  ∀ msg ∈ input.resolution, ∀ stored ∈ s.challenges[msg.challengeIdHex]?, stored.epochId = e →
    msg.finalState ≠ .open

instance (e : ℕ) (s : KeeperState) (input : Input) : Decidable (LeavesEvidence e s input) :=
  inferInstanceAs (Decidable (_ ∧ _))

namespace EvidenceStands

/-- Evidence stands as long as the collections it rests on do. -/
theorem of_frame (h : EvidenceStands env e s) (hchallenges : s'.challenges = s.challenges)
    (hsessions : s'.playSessions = s.playSessions)
    (hsettlements : s'.sessionSettlements = s.sessionSettlements)
    (hcommits : s'.epochCommits[e]? = s.epochCommits[e]?)
    (hrewards : s'.rewardRecordsForEpoch e = s.rewardRecordsForEpoch e)
    (haggregates : s'.aggregateRecordsForEpoch e = s.aggregateRecordsForEpoch e) :
    EvidenceStands env e s' := by
  obtain ⟨commit, hcommit, hfinalized, hroots⟩ := h.rootsValid
  constructor
  · have hopen := h.noOpenChallenge
    rw [hasOpenChallengesForEpoch_eq_false] at hopen ⊢
    rwa [hchallenges]
  · have hsettled := h.allSettled
    rw [unsettledSessionsForEpoch_eq_nil] at hsettled ⊢
    rwa [hsessions, hsettlements]
  · refine ⟨commit, hcommits.trans hcommit, hfinalized, ?_⟩
    rw [validateEpochRoots_iff] at hroots ⊢
    rw [recomputedCommit_congr hrewards haggregates, hroots]

theorem setChallenge (h : EvidenceStands env e s) {challenge : Challenge}
    (hstate : challenge.epochId = e → challenge.state ≠ .open) :
    EvidenceStands env e (s.setChallenge challenge) := by
  refine ⟨?_, h.allSettled, h.rootsValid⟩
  have hopen := h.noOpenChallenge
  rw [hasOpenChallengesForEpoch_eq_false] at hopen ⊢
  intro id stored hget
  change (s.challenges.insert challenge.challengeIdHex challenge)[id]? = some stored at hget
  rw [get_insert] at hget
  split at hget
  · cases hget
    exact hstate
  · exact hopen id stored hget

theorem setPlaySession (h : EvidenceStands env e s) {session : PlaySession}
    (hsettled : session.epochId = e → s.sessionSettlements[session.sessionIdHex]? ≠ none) :
    EvidenceStands env e (s.setPlaySession session) := by
  refine ⟨h.noOpenChallenge, ?_, h.rootsValid⟩
  have hall := h.allSettled
  rw [unsettledSessionsForEpoch_eq_nil] at hall ⊢
  intro id stored hget
  change (s.playSessions.insert session.sessionIdHex session)[id]? = some stored at hget
  rw [get_insert] at hget
  split at hget
  · cases hget
    exact hsettled
  · exact hall id stored hget

/-- A settlement is never taken back. -/
theorem setSessionSettlement (h : EvidenceStands env e s) (settlement : SessionSettlement) :
    EvidenceStands env e (s.setSessionSettlement settlement) := by
  refine ⟨h.noOpenChallenge, ?_, h.rootsValid⟩
  have hall := h.allSettled
  rw [unsettledSessionsForEpoch_eq_nil] at hall ⊢
  intro id stored hget hepoch
  change (s.sessionSettlements.insert settlement.sessionIdHex settlement)[stored.sessionIdHex]? ≠
    none
  rw [get_insert]
  split
  · simp
  · exact hall id stored hget hepoch

end EvidenceStands

/-- Closing a commit does not affect its roots. -/
theorem validateEpochRoots_closed {commit : EpochCommit}
    (hrewards : s'.rewardRecords = s.rewardRecords)
    (haggregates : s'.aggregateRecords = s.aggregateRecords)
    (h : s.validateEpochRoots env e commit = .ok ()) :
    s'.validateEpochRoots env e { commit with finalized := true } = .ok () := by
  rw [validateEpochRoots_iff] at h ⊢
  have hsame : s'.recomputedCommit env e { commit with finalized := true } =
      { s.recomputedCommit env e commit with finalized := true } := by
    simp only [recomputedCommit, rewardRecordsForEpoch, aggregateRecordsForEpoch, hrewards,
      haggregates]
  rw [hsame, h]

/-- The gate establishes the evidence. -/
theorem evidenceStands_of_closedBy {ctx : Ctx} {msg : MsgFinalizeEpoch} {commit : EpochCommit}
    (hclosed : ClosedBy env s e input ctx msg commit) :
    EvidenceStands env e (next env s input) := by
  obtain ⟨s', hstep⟩ := accepts_iff.mp hclosed.accepted
  have hnext : next env s input = s' := attempt_of_ok hstep
  have hgates := hclosed.gates
  have hcloses := hclosed.closes
  have heffect := effect_of_step hstep
  rw [hclosed.delivered] at heffect
  rw [hnext] at hcloses ⊢
  cases heffect with
  | quiet =>
      exact ⟨hgates.noOpenChallenge, hgates.allSettled, _, hcloses, rfl,
        validateEpochRoots_closed rfl rfl hgates.rootsValid⟩
  | finalized =>
      exact ⟨hgates.noOpenChallenge, hgates.allSettled, _, hcloses, rfl,
        validateEpochRoots_closed rfl rfl hgates.rootsValid⟩

private theorem evidenceStands_resolved (hwf : WellFormed s) (h : EvidenceStands env e s)
    {stored : Challenge} {msg : MsgResolveChallenge} {settled slashed : KeeperState}
    {commit : EpochCommit} (hstate : stored.epochId = e → msg.finalState ≠ .open)
    (hsettles : s.settleChallengeBond env (stored.resolvedBy msg) = .ok settled)
    (hslashes : settled.slashTarget (stored.resolvedBy msg) = .ok slashed)
    (hcommitted : s.epochCommits[stored.epochId]? = some commit) :
    let rewarded := slashed.rewardChallenger (stored.resolvedBy msg)
    EvidenceStands env e ((rewarded.setEpochCommit
      (rewarded.recomputedCommit env stored.epochId commit)).setChallenge
        (stored.resolvedBy msg)) := by
  intro rewarded
  have hkey : commit.epochId = stored.epochId := hwf.commits _ _ hcommitted
  obtain ⟨bank, records, hframe⟩ := resolution_frame hsettles hslashes
  have hrewarded : rewarded = { s with bank, rewardRecords := records } := hframe
  apply EvidenceStands.setChallenge _ hstate
  by_cases hepoch : stored.epochId = e
  · -- the commitments of the resolved epoch are recomputed from the new records
    have hfinalized : commit.finalized = true := by
      obtain ⟨closed, hclosed, hfinalized, _⟩ := h.rootsValid
      rw [← hepoch, hcommitted] at hclosed
      cases hclosed
      exact hfinalized
    refine ⟨?_, ?_, rewarded.recomputedCommit env stored.epochId commit, ?_, hfinalized, ?_⟩
    · rw [hrewarded]
      exact h.noOpenChallenge
    · rw [hrewarded]
      exact h.allSettled
    · rw [setEpochCommit_get, recomputedCommit_epochId, if_pos (hkey.trans hepoch)]
    · rw [validateEpochRoots_iff, ← hepoch]
      rfl
  · have hother : (stored.resolvedBy msg).epochId ≠ e := hepoch
    have hrewards := rewardRecordsForEpoch_resolution hwf hother hsettles hslashes
    have hkept : (rewarded.setEpochCommit
        (rewarded.recomputedCommit env stored.epochId commit)).epochCommits[e]? =
          s.epochCommits[e]? := by
      rw [setEpochCommit_get, recomputedCommit_epochId,
        if_neg (fun heq => hepoch (hkey.symm.trans heq)), hrewarded]
    refine h.of_frame ?_ ?_ ?_ hkept hrewards ?_
    all_goals rw [hrewarded]; rfl

private theorem evidenceStands_of_effect (hwf : WellFormed s) (h : EvidenceStands env e s)
    (hcond : LeavesEvidence e s input) (heffect : Effect env s input s') :
    EvidenceStands env e s' := by
  obtain ⟨hproposal, haggregate, hsession, hopening, hresolution⟩ := hcond
  obtain ⟨closed, hclosed, hfinalized, _⟩ := h.rootsValid
  cases heffect with
  | aggregate ctx msg record supplied =>
      have hother : record.epochId ≠ e := haggregate record supplied
      have hset : EvidenceStands env e (s.setAggregateRecord record) :=
        h.of_frame rfl rfl rfl rfl rfl (prefixedValues_insert_ne _ _ _ hother)
      rcases refreshAggregatesCommitment_cases env (s.setAggregateRecord record) record.epochId with
        heq | ⟨commit, hfound, _, heq⟩
      · rw [heq]
        exact hset
      · have hkey : commit.epochId = record.epochId := hwf.commits _ _ hfound
        rw [heq]
        refine hset.of_frame rfl rfl rfl ?_ rfl rfl
        rw [setEpochCommit_get, if_neg (fun heq => hother (hkey.symm.trans heq))]
  | commit ctx msg commit supplied =>
      refine h.of_frame rfl rfl rfl ?_ rfl rfl
      rw [setEpochCommit_get, proposed_epochId, if_neg (hproposal commit supplied)]
  | finalized ctx msg commit found pending =>
      have hkey : commit.epochId = msg.epochId := hwf.commits _ _ found
      refine h.of_frame rfl rfl rfl ?_ rfl rfl
      rw [setEpochCommit_get, if_neg]
      -- the closed epoch has no pending commit to close again
      intro hepoch
      have hmsg : msg.epochId = e := hkey.symm.trans hepoch
      rw [hmsg, hclosed] at found
      cases found
      rw [hfinalized] at pending
      cases pending
  | opened ctx msg challenge bank supplied =>
      have hstate := hopening (challenge.opened ctx)
        (by rw [Input.opening, supplied]; rfl)
      have hbank : EvidenceStands env e { s with bank } := h.of_frame rfl rfl rfl rfl rfl rfl
      exact hbank.setChallenge hstate
  | resolved ctx msg stored settled slashed rewarded commit found _ _ settles slashes rewards
      committed =>
      rw [← rewards]
      exact evidenceStands_resolved hwf h (hresolution msg rfl stored found) settles slashes
        committed
  | rewards ctx msg commit records found pending supplied =>
      have hother : msg.epochId ≠ e := by
        rintro rfl
        rw [hclosed] at found
        cases found
        rw [hfinalized] at pending
        cases pending
      have hepochs : ∀ record ∈ records, record.epochId ≠ e := by
        intro record hrecord
        obtain ⟨_, _, hchecked⟩ := mem_of_mapM_ok supplied record hrecord
        simp only [checkRewardRecord, bind_eq_ok, ensure_eq_ok, exists_const, pure_eq_ok] at hchecked
        obtain ⟨_, _, hepoch, _, rfl⟩ := hchecked
        exact hepoch.trans_ne hother
      have hrewards := rewardRecordsForEpoch_setRewardRecords s hepochs
      obtain ⟨rewardRecords, hframe⟩ := setRewardRecords_frame s records
      rw [hframe] at hrewards ⊢
      exact h.of_frame rfl rfl rfl rfl hrewards rfl
  | session ctx msg session supplied => exact h.setPlaySession (hsession session supplied)
  | settled => exact h.setSessionSettlement _
  | quiet | params | claimed | burned | attested | emitted =>
      exact h.of_frame rfl rfl rfl rfl rfl rfl

/-- Once the gate has closed an epoch, its evidence stands along every run whose accepted steps
leave it alone. -/
theorem finality_stable (env : Env) (bank : Bank) (genesisUnix : ℤ) (before after : List Input)
    {ctx : Ctx} {msg : MsgFinalizeEpoch} {commit : EpochCommit}
    (hclosed : ClosedBy env (run (next env) (defaultGenesis bank genesisUnix) before) e input ctx
      msg commit)
    (hmeets : Meets (next env) (IfAccepted (step env) (LeavesEvidence e))
      (run (next env) (defaultGenesis bank genesisUnix) (before ++ [input])) after) :
    EvidenceStands env e
      (run (next env) (defaultGenesis bank genesisUnix) (before ++ [input] ++ after)) := by
  rw [run_append]
  have hwf := wellFormed_run env (wellFormed_defaultGenesis bank genesisUnix) (before ++ [input])
  have hstart : EvidenceStands env e
      (run (next env) (defaultGenesis bank genesisUnix) (before ++ [input])) := by
    rw [run_append]
    exact evidenceStands_of_closedBy hclosed
  refine (run_invariant (P := fun s => WellFormed s ∧ EvidenceStands env e s) ?_ hmeets
    ⟨hwf, hstart⟩).2
  intro s input hcond ⟨hwf, hstands⟩
  refine ⟨wellFormed_next hwf input, attempt_preserves_of hcond ?_ hstands⟩
  intro s' hs' hleaves
  exact evidenceStands_of_effect hwf hstands hleaves (effect_of_step hs')

namespace Sample

def proposeEpochSeven : List Input := [relax, register alice, propose (emptyCommit 7)]

/-- A play session of epoch seven that nobody has settled. -/
def lateSession : Input :=
  .deliver (ctx 11) (.submitPlaySession
    { nodeAddress := alice
      session := some { sessionIdHex := "51", nodeAddress := alice, epochId := 7, playSeconds := 60 } })

theorem finalize_closes : ∃ ctx msg commit,
    ClosedBy Sample.env (run (next Sample.env) genesis proposeEpochSeven) 7 (finalize 7) ctx msg
      commit := by
  have hpending : ¬ FinalizedAt 7 (run (next Sample.env) genesis proposeEpochSeven) := by
    have hstored : (run (next Sample.env) genesis proposeEpochSeven).epochCommits[7]? =
        some (emptyCommit 7) := by decide +kernel
    rintro ⟨commit, hcommit, hfinalized⟩
    rw [hstored] at hcommit
    cases hcommit
    cases hfinalized
  have hwf := wellFormed_run Sample.env (wellFormed_defaultGenesis bank 0) proposeEpochSeven
  exact closedBy_of_rise hwf (by decide +kernel) hpending ⟨closedCommit, by decide +kernel, rfl⟩

end Sample

theorem finality_stable_other_epoch :
    EvidenceStands Sample.env 7 (run (next Sample.env) Sample.genesis
      (Sample.proposeEpochSeven ++ [Sample.finalize 7] ++ [Sample.propose (Sample.emptyCommit 8)])) := by
  obtain ⟨ctx, msg, commit, hclosed⟩ := Sample.finalize_closes
  exact finality_stable Sample.env Sample.bank 0 Sample.proposeEpochSeven
    [Sample.propose (Sample.emptyCommit 8)] hclosed (by decide +kernel)

/-- A session submitted for a closed epoch leaves that epoch with an unsettled session. -/
theorem submitPlaySession_unsettles_finalized :
    ¬ ∀ before input after ctx msg commit e,
      ClosedBy Sample.env (run (next Sample.env) Sample.genesis before) e input ctx msg commit →
      EvidenceStands Sample.env e
        (run (next Sample.env) Sample.genesis (before ++ [input] ++ after)) := by
  intro h
  obtain ⟨ctx, msg, commit, hclosed⟩ := Sample.finalize_closes
  have hstands := h Sample.proposeEpochSeven (Sample.finalize 7) [Sample.lateSession] ctx msg commit
    7 hclosed
  have hunsettled : (run (next Sample.env) Sample.genesis (Sample.proposeEpochSeven ++
      [Sample.finalize 7] ++ [Sample.lateSession])).unsettledSessionsForEpoch 7 ≠ [] := by
    decide +kernel
  exact hunsettled hstands.allSettled

end PoleProtocol.Chain
