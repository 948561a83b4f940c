import PoleProtocol.Chain.WellFormed

/-!
# Finality of an epoch

An epoch commit is closed by the finalization gate. This module follows the commit of one epoch
through whole runs: which step closed it, and which steps may still rewrite it.
-/

namespace PoleProtocol.Chain

open Framework OrderedMap KeeperState

variable {env : Env} {s s' : KeeperState} {input : Input} {e : ℕ}

/-! ## Writers of an epoch commit -/

/-- What a step leaves as the commit of epoch `e`. -/
inductive CommitWrite (env : Env) (s : KeeperState) (e : ℕ) : Input → Option EpochCommit → Prop
  | kept (input : Input) : CommitWrite env s e input s.epochCommits[e]?
  | proposed (ctx : Ctx) (msg : MsgCommitEpoch) (commit : EpochCommit)
      (supplied : msg.epochCommit = some commit) (epoch : commit.epochId = e) :
      CommitWrite env s e (.deliver ctx (.commitEpoch msg)) (some (commit.proposed ctx))
  | refreshed (ctx : Ctx) (msg : MsgUpsertAggregateRecord) (commit refreshed : EpochCommit)
      (found : s.epochCommits[e]? = some commit) (pending : commit.finalized = false)
      (still : refreshed.finalized = false) :
      CommitWrite env s e (.deliver ctx (.upsertAggregateRecord msg)) (some refreshed)
  | finalized (ctx : Ctx) (msg : MsgFinalizeEpoch) (commit : EpochCommit) (epoch : msg.epochId = e)
      (found : s.epochCommits[e]? = some commit) (pending : commit.finalized = false)
      (gates : s.FinalizationGates env ctx e commit) :
      CommitWrite env s e (.deliver ctx (.finalizeEpoch msg))
        (some { commit with finalized := true })
  | recomputed (ctx : Ctx) (msg : MsgResolveChallenge) (stored : Challenge)
      (settled slashed : KeeperState) (commit : EpochCommit)
      (found : s.challenges[msg.challengeIdHex]? = some stored) (epoch : stored.epochId = e)
      (settles : s.settleChallengeBond env (stored.resolvedBy msg) = .ok settled)
      (slashes : settled.slashTarget (stored.resolvedBy msg) = .ok slashed)
      (committed : s.epochCommits[e]? = some commit) :
      CommitWrite env s e (.deliver ctx (.resolveChallenge msg))
        (some ((slashed.rewardChallenger (stored.resolvedBy msg)).recomputedCommit env e commit))

theorem setEpochCommit_get (s : KeeperState) (commit : EpochCommit) (e : ℕ) :
    (s.setEpochCommit commit).epochCommits[e]? =
      if commit.epochId = e then some commit else s.epochCommits[e]? :=
  get_insert _ _ _ _

@[simp] theorem proposed_epochId (commit : EpochCommit) (ctx : Ctx) :
    (commit.proposed ctx).epochId = commit.epochId := by
  unfold EpochCommit.proposed
  split <;> rfl

@[simp] theorem proposed_finalized (commit : EpochCommit) (ctx : Ctx) :
    (commit.proposed ctx).finalized = commit.finalized := by
  unfold EpochCommit.proposed
  split <;> rfl

private theorem commitWrite_refresh (hwf : WellFormed s) (ctx : Ctx)
    (msg : MsgUpsertAggregateRecord) (record : AggregateRecord) :
    CommitWrite env s e (.deliver ctx (.upsertAggregateRecord msg))
      ((s.setAggregateRecord record).refreshAggregatesCommitment env
        record.epochId).epochCommits[e]? := by
  rcases refreshAggregatesCommitment_cases env (s.setAggregateRecord record) record.epochId with
    heq | ⟨commit, hfound, hpending, heq⟩
  · rw [heq]
    exact .kept _
  · rw [heq, setEpochCommit_get]
    have hkey : commit.epochId = record.epochId := hwf.commits _ _ hfound
    split
    · next hepoch =>
        have hfound' : s.epochCommits[e]? = some commit := by
          rw [← hepoch, hkey]
          exact hfound
        exact .refreshed ctx msg commit _ hfound' hpending hpending
    · exact .kept _

/-- Every accepted step keeps the commit of an epoch or is one of its writers. -/
theorem commitWrite_of_effect (hwf : WellFormed s) (heffect : Effect env s input s') :
    CommitWrite env s e input s'.epochCommits[e]? := by
  cases heffect with
  | aggregate ctx msg record => exact commitWrite_refresh hwf ctx msg record
  | commit ctx msg commit supplied =>
      rw [setEpochCommit_get, proposed_epochId]
      split
      · next hepoch => exact .proposed ctx msg commit supplied hepoch
      · exact .kept _
  | finalized ctx msg commit found pending gates =>
      have hkey : commit.epochId = msg.epochId := hwf.commits _ _ found
      rw [setEpochCommit_get]
      split
      · next hepoch =>
          have hmsg : msg.epochId = e := hkey.symm.trans hepoch
          subst hmsg
          exact .finalized ctx msg commit rfl found pending gates
      · exact .kept _
  | resolved ctx msg stored settled slashed rewarded commit found _ _ settles slashes rewards
      committed =>
      have hkey : commit.epochId = stored.epochId := hwf.commits _ _ committed
      change CommitWrite env s e _
        (rewarded.setEpochCommit (rewarded.recomputedCommit env stored.epochId commit)).epochCommits[e]?
      rw [setEpochCommit_get, ← rewards]
      split
      · next hepoch =>
          have hstored : stored.epochId = e := hkey.symm.trans hepoch
          subst hstored
          exact .recomputed ctx msg stored settled slashed commit found rfl settles slashes
            committed
      · obtain ⟨bank, records, hframe⟩ := resolution_frame settles slashes
        rw [hframe]
        exact .kept _
  | rewards ctx msg commit records =>
      obtain ⟨rewardRecords, hframe⟩ := setRewardRecords_frame s records
      rw [hframe]
      exact .kept _
  | quiet | params | opened | claimed | burned | session | attested | settled | emitted =>
      exact .kept _

/-! ## The gate -/

/-- The stored commit of epoch `e` is closed. -/
def FinalizedAt (e : ℕ) (s : KeeperState) : Prop :=
  ∃ commit, s.epochCommits[e]? = some commit ∧ commit.finalized = true

/-- A proposal that does not claim to be closed. -/
def ProposesPending (_ : KeeperState) (input : Input) : Prop :=
  ∀ commit ∈ input.proposal, commit.finalized = false

instance (s : KeeperState) (input : Input) : Decidable (ProposesPending s input) :=
  inferInstanceAs (Decidable (∀ commit ∈ input.proposal, commit.finalized = false))

/-- The step closes the pending commit of epoch `e` after passing every gate. -/
structure ClosedBy (env : Env) (s : KeeperState) (e : ℕ) (input : Input) (ctx : Ctx)
    (msg : MsgFinalizeEpoch) (commit : EpochCommit) : Prop where
  delivered : input = .deliver ctx (.finalizeEpoch msg)
  epoch : msg.epochId = e
  accepted : Accepts (step env) s input
  found : s.epochCommits[e]? = some commit
  pending : commit.finalized = false
  gates : s.FinalizationGates env ctx e commit
  closes : (next env s input).epochCommits[e]? = some { commit with finalized := true }

/-- A step that closes an epoch and is no proposal of a closed commit is the finalization gate. -/
theorem closedBy_of_rise (hwf : WellFormed s)
    (hcond : IfAccepted (step env) ProposesPending s input)
    (hbefore : ¬ FinalizedAt e s) (hafter : FinalizedAt e (next env s input)) :
    ∃ ctx msg commit, ClosedBy env s e input ctx msg commit := by
  obtain ⟨s', hstep, commit', hcommit', hfinalized⟩ := accepted_of_rise hbefore hafter
  have haccepted : Accepts (step env) s input := accepts_iff.mpr ⟨s', hstep⟩
  have hproposal := hcond haccepted
  have hnext : next env s input = s' := attempt_of_ok hstep
  have hwrite : CommitWrite env s e input s'.epochCommits[e]? :=
    commitWrite_of_effect hwf (effect_of_step hstep)
  rw [← hnext] at hwrite hcommit'
  generalize hresult : (next env s input).epochCommits[e]? = result at hwrite hcommit'
  cases hwrite with
  | kept => exact absurd ⟨commit', hcommit', hfinalized⟩ hbefore
  | proposed ctx msg commit supplied _ =>
      cases hcommit'
      have hpending : commit.finalized = false := hproposal commit supplied
      rw [proposed_finalized, hpending] at hfinalized
      cases hfinalized
  | refreshed ctx msg commit _ _ _ still =>
      cases hcommit'
      rw [still] at hfinalized
      cases hfinalized
  | finalized ctx msg commit epoch found pending gates =>
      exact ⟨ctx, msg, commit, rfl, epoch, haccepted, found, pending, gates, hresult⟩
  | recomputed ctx msg stored settled slashed commit found epoch settles slashes committed =>
      cases hcommit'
      exact absurd ⟨commit, committed, hfinalized⟩ hbefore

/-- In a run whose accepted proposals are all pending, a closed commit was closed by the gate. -/
theorem finalized_by_gate (env : Env) (bank : Bank) (genesisUnix : ℤ) (inputs : List Input)
    (hmeets : Meets (next env) (IfAccepted (step env) ProposesPending)
      (defaultGenesis bank genesisUnix) inputs)
    (hfinalized : FinalizedAt e (run (next env) (defaultGenesis bank genesisUnix) inputs)) :
    ∃ before input after ctx msg commit, inputs = before ++ input :: after ∧
      ClosedBy env (run (next env) (defaultGenesis bank genesisUnix) before) e input ctx msg
        commit := by
  have hstart : ¬ FinalizedAt e (defaultGenesis bank genesisUnix) := by
    rintro ⟨commit, hcommit, _⟩
    simp [defaultGenesis] at hcommit
  obtain ⟨before, input, after, rfl, hbefore, hafter⟩ := exists_rise hstart hfinalized
  have hwf := wellFormed_run env (wellFormed_defaultGenesis bank genesisUnix) before
  have hcond := ((meets_append _ _ _ _ _).mp hmeets).2.1
  obtain ⟨ctx, msg, commit, hclosed⟩ := closedBy_of_rise hwf hcond hbefore hafter
  exact ⟨before, input, after, ctx, msg, commit, rfl, hclosed⟩

theorem finalized_by_gate_relaxed :
    let inputs := [Sample.relax, Sample.register Sample.alice,
      Sample.propose (Sample.emptyCommit 7), Sample.finalize 7]
    ∃ before input after ctx msg commit, inputs = before ++ input :: after ∧
      ClosedBy Sample.env (run (next Sample.env) Sample.genesis before) 7 input ctx msg commit :=
  finalized_by_gate Sample.env Sample.bank 0 _ (by decide +kernel)
    ⟨{ Sample.emptyCommit 7 with finalized := true }, by decide +kernel, rfl⟩

/-- A proposal that says it is closed is stored as it is, and no gate is passed. -/
theorem commitEpoch_bypasses_gate :
    ¬ ∀ inputs e, FinalizedAt e (run (next Sample.env) Sample.genesis inputs) →
      ∃ before input after ctx msg commit, inputs = before ++ input :: after ∧
        ClosedBy Sample.env (run (next Sample.env) Sample.genesis before) e input ctx msg
          commit := by
  intro h
  let closed : EpochCommit := { Sample.emptyCommit 7 with finalized := true }
  obtain ⟨before, input, after, ctx, msg, commit, hinputs, hclosed⟩ :=
    h [Sample.register Sample.alice, Sample.propose closed] 7 ⟨closed, by decide +kernel, rfl⟩
  have hmem : input ∈ [Sample.register Sample.alice, Sample.propose closed] := by
    rw [hinputs]
    simp
  rw [hclosed.delivered] at hmem
  simp [Sample.register, Sample.propose] at hmem

/-! ## A closed commit stays as it is -/

/-- The roots check is that recomputing the commitments changes nothing. -/
theorem validateEpochRoots_iff {commit : EpochCommit} :
    s.validateEpochRoots env e commit = .ok () ↔ s.recomputedCommit env e commit = commit := by
  have hcommitment : ∀ (stored : Option MerkleCommitment) (derived : MerkleCommitment),
      (∃ c, stored = some c ∧ c.root = derived.root ∧ c.leafCount = derived.leafCount) ↔
        some derived = stored := by
    rintro stored ⟨root, leafCount⟩
    constructor
    · rintro ⟨⟨_, _⟩, rfl, rfl, rfl⟩
      rfl
    · rintro rfl
      exact ⟨_, rfl, rfl, rfl⟩
  have hrewards := hcommitment commit.rewards
    (merkleRootHexForRecords env.sha256 (s.rewardRecordsForEpoch e))
  have haggregates := hcommitment commit.aggregates
    (merkleRootHexForRecords env.sha256 (s.aggregateRecordsForEpoch e))
  rw [recomputedCommit, EpochCommit.ext_iff]
  simp only [validateEpochRoots, bind_eq_ok, ensure_eq_ok, exists_const, require_eq_ok]
  grind

@[simp] theorem recomputedCommit_epochId (s : KeeperState) (commit : EpochCommit) :
    (s.recomputedCommit env e commit).epochId = commit.epochId := rfl

theorem recomputedCommit_congr {commit : EpochCommit}
    (hrewards : s'.rewardRecordsForEpoch e = s.rewardRecordsForEpoch e)
    (haggregates : s'.aggregateRecordsForEpoch e = s.aggregateRecordsForEpoch e) :
    s'.recomputedCommit env e commit = s.recomputedCommit env e commit := by
  rw [recomputedCommit, recomputedCommit, hrewards, haggregates]

/-- The resolution moves no reward, and the commitments of its epoch match the records. -/
def ResolvesQuietly (env : Env) (s : KeeperState) (msg : MsgResolveChallenge)
    (stored : Challenge) : Prop :=
  (stored.targetAddress = "" ∨ msg.slashAmount = 0) ∧ msg.challengerReward = 0 ∧
    ∀ commit ∈ s.epochCommits[stored.epochId]?,
      s.validateEpochRoots env stored.epochId commit = .ok ()

instance (env : Env) (s : KeeperState) (msg : MsgResolveChallenge) (stored : Challenge) :
    Decidable (ResolvesQuietly env s msg stored) :=
  inferInstanceAs (Decidable (_ ∧ _))

/-- The step does not propose for epoch `e`, and a resolution for it is quiet. -/
def KeepsCommit (env : Env) (e : ℕ) (s : KeeperState) (input : Input) : Prop :=
  (∀ commit ∈ input.proposal, commit.epochId ≠ e) ∧
  ∀ msg ∈ input.resolution, ∀ stored ∈ s.challenges[msg.challengeIdHex]?, stored.epochId = e →
    ResolvesQuietly env s msg stored

instance (env : Env) (e : ℕ) (s : KeeperState) (input : Input) :
    Decidable (KeepsCommit env e s input) :=
  inferInstanceAs (Decidable (_ ∧ _))

/-- A resolution without slash and challenger reward moves coins only. -/
theorem quietResolution_frame {challenge : Challenge} {settled slashed : KeeperState}
    (hslash : challenge.targetAddress = "" ∨ challenge.slashAmount = 0)
    (hreward : challenge.challengerReward = 0)
    (hsettles : s.settleChallengeBond env challenge = .ok settled)
    (hslashes : settled.slashTarget challenge = .ok slashed) :
    ∃ bank, slashed.rewardChallenger challenge = { s with bank } := by
  obtain ⟨bank, rfl⟩ := settleChallengeBond_frame hsettles
  have hsame : slashed = { s with bank } := by
    rcases slashTarget_ok hslashes with hsame | ⟨_, _, _, _, htarget, hamount, _⟩
    · exact hsame
    · exact absurd hslash (by simp [htarget, hamount])
  refine ⟨bank, ?_⟩
  rw [hsame, rewardChallenger, if_pos (.inr hreward)]

private theorem commit_kept_of_effect {commit : EpochCommit} (hwf : WellFormed s)
    (hcommit : s.epochCommits[e]? = some commit) (hfinalized : commit.finalized = true)
    (hcond : KeepsCommit env e s input) (heffect : Effect env s input s') :
    s'.epochCommits[e]? = some commit := by
  have hwrite : CommitWrite env s e input s'.epochCommits[e]? := commitWrite_of_effect hwf heffect
  generalize s'.epochCommits[e]? = result at hwrite
  cases hwrite with
  | kept => exact hcommit
  | proposed ctx msg supplied hsupplied hepoch => exact absurd hepoch (hcond.1 supplied hsupplied)
  | refreshed ctx msg found _ hfound hpending =>
      rw [hcommit] at hfound
      cases hfound
      rw [hfinalized] at hpending
      cases hpending
  | finalized ctx msg found _ hfound hpending =>
      rw [hcommit] at hfound
      cases hfound
      rw [hfinalized] at hpending
      cases hpending
  | recomputed ctx msg stored settled slashed found hfound hepoch settles slashes committed =>
      rw [hcommit] at committed
      cases committed
      subst hepoch
      obtain ⟨hslash, hreward, hroots⟩ := hcond.2 msg rfl stored hfound rfl
      obtain ⟨bank, hframe⟩ := quietResolution_frame hslash hreward settles slashes
      rw [hframe]
      exact congrArg some (validateEpochRoots_iff.mp (hroots commit hcommit))

/-- From any state a run reaches, a closed commit survives every run whose accepted steps keep
it. -/
theorem finalized_commit_immutable (env : Env) (bank : Bank) (genesisUnix : ℤ)
    (before after : List Input) {commit : EpochCommit}
    (hcommit : (run (next env) (defaultGenesis bank genesisUnix) before).epochCommits[e]? =
      some commit)
    (hfinalized : commit.finalized = true)
    (hmeets : Meets (next env) (IfAccepted (step env) (KeepsCommit env e))
      (run (next env) (defaultGenesis bank genesisUnix) before) after) :
    (run (next env) (defaultGenesis bank genesisUnix) (before ++ after)).epochCommits[e]? =
      some commit := by
  rw [run_append]
  have hwf := wellFormed_run env (wellFormed_defaultGenesis bank genesisUnix) before
  refine (run_invariant (P := fun s => WellFormed s ∧ s.epochCommits[e]? = some commit) ?_ hmeets
    ⟨hwf, hcommit⟩).2
  intro s input hcond ⟨hwf, hcommit⟩
  refine ⟨wellFormed_next hwf input, ?_⟩
  refine attempt_preserves_of (P := fun s => s.epochCommits[e]? = some commit) hcond ?_ hcommit
  intro s' hs' hkeeps
  exact commit_kept_of_effect hwf hcommit hfinalized hkeeps (effect_of_step hs')

namespace Sample

/-- Epoch seven proposed over no records and closed. -/
def closeEpochSeven : List Input :=
  [relax, register alice, propose (emptyCommit 7), finalize 7]

def closedCommit : EpochCommit := { emptyCommit 7 with finalized := true }

end Sample

/-- Another epoch may still be proposed and the closed one finalized again. -/
theorem finalized_commit_immutable_other_epoch :
    (run (next Sample.env) Sample.genesis (Sample.closeEpochSeven ++
      [Sample.propose (Sample.emptyCommit 8), Sample.finalize 7])).epochCommits[7]? =
        some Sample.closedCommit :=
  finalized_commit_immutable Sample.env Sample.bank 0 Sample.closeEpochSeven
    [Sample.propose (Sample.emptyCommit 8), Sample.finalize 7] (by decide +kernel) rfl
    (by decide +kernel)

/-- A second proposal for a closed epoch replaces its commit, closed bit included. -/
theorem commitEpoch_rewrites_finalized :
    ¬ ∀ (inputs : List Input) (input : Input) (e : ℕ) (commit : EpochCommit),
      (run (next Sample.env) Sample.genesis inputs).epochCommits[e]? = some commit →
      commit.finalized = true →
      (next Sample.env (run (next Sample.env) Sample.genesis inputs) input).epochCommits[e]? =
        some commit := by
  intro h
  have hkept := h Sample.closeEpochSeven (Sample.propose (Sample.emptyCommit 7)) 7
    Sample.closedCommit (by decide +kernel) rfl
  have hreplaced : (next Sample.env (run (next Sample.env) Sample.genesis Sample.closeEpochSeven)
      (Sample.propose (Sample.emptyCommit 7))).epochCommits[7]? = some (Sample.emptyCommit 7) := by
    decide +kernel
  rw [hreplaced] at hkept
  revert hkept
  decide

end PoleProtocol.Chain
