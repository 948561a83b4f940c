import PoleProtocol.Framework.Run
import PoleProtocol.Ledger.Effects

/-!
# Finalized epochs

The window check, the duplicate check, the stale-epoch check and the check for open challenges
stand in four transitions. Together they keep a finalized epoch closed: its commit stays, its
deadline lies behind, and nothing of it can be challenged or added any more.
-/

namespace PoleProtocol.Ledger

open Framework OrderedMap Action

variable {env : Env} {s s' : ProtocolState}

/-- The epoch was finalized. -/
def ProtocolState.Finalized (s : ProtocolState) (epochId : ℕ) : Prop :=
  s.store.finalizedEpochs[epochId]? ≠ none

/-- The window of the epoch has passed, no challenge of it is open, and it lies behind. -/
structure ProtocolState.ClosedEpoch (s : ProtocolState) (epochId : ℕ) : Prop where
  elapsed : ∃ commit, s.store.epochCommits[epochId]? = some commit ∧
    commit.challengeDeadlineHeight < s.height
  unchallenged : s.hasOpenChallengesForEpoch epochId = false
  past : epochId < s.currentEpoch

/-- Every finalized epoch is closed. -/
def ProtocolState.Final (s : ProtocolState) : Prop := ∀ epochId, s.Finalized epochId →
  s.ClosedEpoch epochId

theorem unchallenged_iff {epochId : ℕ} : s.hasOpenChallengesForEpoch epochId = false ↔
    ∀ (k : Hash32) (challenge : Challenge), s.store.openChallenges[k]? = some challenge →
      challenge.epochId ≠ epochId := by
  rw [ProtocolState.hasOpenChallengesForEpoch, List.any_eq_false]
  simp only [mem_records, beq_iff_eq, forall_exists_index]
  exact ⟨fun h k challenge hget => h challenge k hget, fun h challenge k hget => h k challenge hget⟩

/-- What was said about finalized epochs still holds: they are closed as they were, with the same
commit and the same batches. -/
def KeepsFinal (s s' : ProtocolState) : Prop :=
  s.Final → s'.Final ∧ ∀ epochId, s.Finalized epochId → s'.Finalized epochId ∧
    s'.store.epochCommits[epochId]? = s.store.epochCommits[epochId]? ∧
    ∀ key : BatchKey, key.1 = epochId → s'.store.batches[key]? = s.store.batches[key]?

instance : Std.Refl KeepsFinal := ⟨fun _ h => ⟨h, fun _ hfinal => ⟨hfinal, rfl, fun _ _ => rfl⟩⟩⟩

instance : IsTrans ProtocolState KeepsFinal where
  trans r s t hrs hst hr := by
    obtain ⟨hs, hfirst⟩ := hrs hr
    obtain ⟨ht, hsecond⟩ := hst hs
    refine ⟨ht, fun epochId hfinal => ?_⟩
    obtain ⟨hfinal', hcommit, hbatches⟩ := hfirst epochId hfinal
    obtain ⟨hfinal'', hcommit', hbatches'⟩ := hsecond epochId hfinal'
    exact ⟨hfinal'', hcommit'.trans hcommit, fun key hkey =>
      (hbatches' key hkey).trans (hbatches key hkey)⟩

/-- A transition finalizes nothing and leaves alone what belongs to closed epochs. -/
theorem keepsFinal_of (hfinalized : s'.store.finalizedEpochs = s.store.finalizedEpochs)
    (hcommits : ∀ epochId, s.ClosedEpoch epochId →
      s'.store.epochCommits[epochId]? = s.store.epochCommits[epochId]?)
    (hbatches : ∀ epochId, s.ClosedEpoch epochId → ∀ key : BatchKey, key.1 = epochId →
      s'.store.batches[key]? = s.store.batches[key]?)
    (hchallenges : ∀ epochId, s.ClosedEpoch epochId →
      s'.hasOpenChallengesForEpoch epochId = false)
    (hheight : s.height ≤ s'.height) (hcurrent : s.currentEpoch ≤ s'.currentEpoch) :
    KeepsFinal s s' := by
  intro hfinal
  refine ⟨fun epochId hepoch => ?_, fun epochId hepoch => ?_⟩
  · unfold ProtocolState.Finalized at hepoch
    rw [hfinalized] at hepoch
    have hclosed := hfinal epochId hepoch
    obtain ⟨commit, hcommit, hdeadline⟩ := hclosed.elapsed
    exact ⟨⟨commit, (hcommits epochId hclosed).trans hcommit, hdeadline.trans_le hheight⟩,
      hchallenges epochId hclosed, hclosed.past.trans_le hcurrent⟩
  · have hclosed := hfinal epochId hepoch
    unfold ProtocolState.Finalized at hepoch ⊢
    rw [hfinalized]
    exact ⟨hepoch, hcommits epochId hclosed, hbatches epochId hclosed⟩

/-- A transition that leaves the epochs alone. -/
theorem keepsFinal_of_same (hfinalized : s'.store.finalizedEpochs = s.store.finalizedEpochs)
    (hcommits : s'.store.epochCommits = s.store.epochCommits)
    (hbatches : s'.store.batches = s.store.batches)
    (hchallenges : s'.store.openChallenges = s.store.openChallenges)
    (hheight : s.height ≤ s'.height) (hcurrent : s.currentEpoch ≤ s'.currentEpoch) :
    KeepsFinal s s' := by
  refine keepsFinal_of hfinalized (fun _ _ => by rw [hcommits]) (fun _ _ _ _ => by rw [hbatches])
    (fun epochId hclosed => ?_) hheight hcurrent
  have hnone := hclosed.unchallenged
  unfold ProtocolState.hasOpenChallengesForEpoch at hnone ⊢
  rwa [hchallenges]

theorem keepsFinal_scheduling {proposalId : Hash32} (h : Scheduling env proposalId s s') :
    KeepsFinal s s' := by
  cases h with
  | none => exact Std.Refl.refl s
  | full => exact keepsFinal_of_same rfl rfl rfl rfl le_rfl le_rfl

/-- A batch, a commit or a challenge of a finalized epoch comes too late. -/
theorem keepsFinal_applied {tx : Transaction} (h : Applied env tx s s') : KeepsFinal s s' := by
  cases h with
  | transfer => exact keepsFinal_of_same rfl rfl rfl rfl le_rfl le_rfl
  | stake => exact keepsFinal_of_same rfl rfl rfl rfl le_rfl le_rfl
  | unbond =>
      unfold ProtocolState.reduceDelegation
      split <;> exact keepsFinal_of_same rfl rfl rfl rfl le_rfl le_rfl
  | claimReward => exact keepsFinal_of_same rfl rfl rfl rfl le_rfl le_rfl
  | proposeProtocolParamsUpdate => exact keepsFinal_of_same rfl rfl rfl rfl le_rfl le_rfl
  | @vote _ _ tx _ voter' _ _ _ hscheduling =>
      have hcounted : KeepsFinal s ((s.insertAccount tx.voter voter').insertVote tx) :=
        keepsFinal_of_same rfl rfl rfl rfl le_rfl le_rfl
      exact IsTrans.trans _ _ _ hcounted (keepsFinal_scheduling hscheduling)
  | @submitBatch _ tx node hcurrent _ _ =>
      refine keepsFinal_of rfl (fun _ _ => rfl) (fun epochId hclosed key hkey => ?_)
        (fun _ hclosed => hclosed.unchallenged) le_rfl le_rfl
      refine get_insert_ne _ _ ?_
      rintro rfl
      change tx.batchCommit.epochId = epochId at hkey
      have hpast := hclosed.past
      omega
  | @commitEpoch _ tx hcurrent _ _ =>
      refine keepsFinal_of rfl (fun epochId hclosed => ?_) (fun _ _ _ _ => rfl)
        (fun _ hclosed => hclosed.unchallenged) le_rfl le_rfl
      refine get_insert_ne _ _ ?_
      change tx.epochCommit.epochId ≠ epochId
      have hpast := hclosed.past
      omega
  | @openChallenge _ tx commit _ _ _ hcommit hopen hdeadline =>
      refine keepsFinal_of rfl (fun _ _ => rfl) (fun _ _ _ _ => rfl) (fun epochId hclosed => ?_)
        le_rfl le_rfl
      rw [unchallenged_iff]
      intro k challenge hget
      change (s.store.openChallenges.insert _ _)[k]? = some challenge at hget
      rw [get_insert] at hget
      split at hget
      · cases hget
        rintro rfl
        obtain ⟨closed, hclosedCommit, hpassed⟩ := hclosed.elapsed
        cases hcommit.symm.trans hclosedCommit
        omega
      · exact unchallenged_iff.mp hclosed.unchallenged k challenge hget
  | @challengeResponse _ tx challenge _ hopen =>
      refine keepsFinal_of rfl (fun _ _ => rfl) (fun _ _ _ _ => rfl) (fun epochId hclosed => ?_)
        le_rfl le_rfl
      have hothers := unchallenged_iff.mp hclosed.unchallenged
      rw [unchallenged_iff]
      intro k other hget
      change ((s.store.openChallenges.erase _).insert _ _)[k]? = some other at hget
      rw [get_insert] at hget
      split at hget
      · cases hget
        exact hothers _ challenge hopen
      · rw [get_erase] at hget
        split at hget
        · cases hget
        · exact hothers k other hget

theorem keepsFinal_stranded {tx : Transaction} (h : Stranded env tx s s') : KeepsFinal s s' := by
  cases h <;> exact keepsFinal_of_same rfl rfl rfl rfl le_rfl le_rfl

theorem keepsFinal_removed (challengeId : Hash32)
    (hfinalized : s'.store.finalizedEpochs = s.store.finalizedEpochs)
    (hcommits : s'.store.epochCommits = s.store.epochCommits)
    (hbatches : s'.store.batches = s.store.batches)
    (hchallenges : s'.store.openChallenges = s.store.openChallenges.erase challengeId)
    (hheight : s.height ≤ s'.height) (hcurrent : s.currentEpoch ≤ s'.currentEpoch) :
    KeepsFinal s s' := by
  refine keepsFinal_of hfinalized (fun _ _ => by rw [hcommits]) (fun _ _ _ _ => by rw [hbatches])
    (fun epochId hclosed => ?_) hheight hcurrent
  rw [unchallenged_iff]
  intro k challenge hget
  rw [hchallenges, get_erase] at hget
  split at hget
  · cases hget
  · exact unchallenged_iff.mp hclosed.unchallenged k challenge hget

theorem keepsFinal_resolve {challengeId : Hash32} {resolution : ChallengeResolution}
    (h : Returns (resolveChallenge env challengeId resolution) s s') : KeepsFinal s s' := by
  refine resolve_returns (fun t t' hresolved => ?_) (fun t t' hdropped => ?_) h
  · cases hresolved <;> exact keepsFinal_removed challengeId rfl rfl rfl rfl le_rfl le_rfl
  · cases hdropped <;> exact keepsFinal_removed challengeId rfl rfl rfl rfl le_rfl le_rfl

theorem keepsFinal_processMatureUnbonds (h : Returns (processMatureUnbonds env) s s') :
    KeepsFinal s s' :=
  mature_returns (fun _ => keepsFinal_of_same rfl rfl rfl rfl le_rfl le_rfl)
    (fun _ _ _ _ _ _ => keepsFinal_of_same rfl rfl rfl rfl le_rfl le_rfl) h

theorem entered_currentEpoch (s : ProtocolState) (epochId next : ℕ) :
    (s.entered epochId next).currentEpoch = next :=
  activateScheduledProtocolParams_currentEpoch _

/-- Installing parameters touches neither the epochs nor the challenges. -/
theorem entered_epochs (s : ProtocolState) (epochId next : ℕ) :
    (s.entered epochId next).store.finalizedEpochs = s.store.finalizedEpochs.insert epochId () ∧
    (s.entered epochId next).store.epochCommits = s.store.epochCommits ∧
    (s.entered epochId next).store.batches = s.store.batches ∧
    (s.entered epochId next).store.openChallenges = s.store.openChallenges ∧
    (s.entered epochId next).height = s.height := by
  have hsame := keeps_activateScheduledProtocolParams
    (R := SameField fun t : ProtocolState => (t.store.finalizedEpochs, t.store.epochCommits,
      t.store.batches, t.store.openChallenges, t.height))
    (fun _ _ _ => rfl) (fun _ _ _ _ => rfl)
    { s.markEpochFinalized epochId with currentEpoch := next }
  simp only [SameField, Prod.mk.injEq] at hsame
  exact hsame

/-- A finalized epoch passed its own checks, and the current epoch is behind it. -/
theorem keepsFinal_marked {epochId : ℕ} (hchecked : Finalizable s epochId)
    (hfinalized : s'.store.finalizedEpochs = s.store.finalizedEpochs.insert epochId ())
    (hcommits : s'.store.epochCommits = s.store.epochCommits)
    (hbatches : s'.store.batches = s.store.batches)
    (hchallenges : s'.store.openChallenges = s.store.openChallenges)
    (hheight : s'.height = s.height) (hcurrent : s.currentEpoch ≤ s'.currentEpoch)
    (hpast : epochId < s'.currentEpoch) : KeepsFinal s s' := by
  have hopen : ∀ other, s'.hasOpenChallengesForEpoch other = s.hasOpenChallengesForEpoch other := by
    intro other
    unfold ProtocolState.hasOpenChallengesForEpoch
    rw [hchallenges]
  intro hfinal
  refine ⟨fun other hother => ?_, fun other hother => ?_⟩
  · unfold ProtocolState.Finalized at hother
    rw [hfinalized, get_insert] at hother
    split at hother
    · next hsame =>
        subst hsame
        obtain ⟨commit, hcommit, hdeadline⟩ := hchecked.elapsed
        exact ⟨⟨commit, hcommits ▸ hcommit, hheight ▸ hdeadline⟩,
          (hopen _).trans hchecked.unchallenged, hpast⟩
    · have hclosed := hfinal other hother
      obtain ⟨commit, hcommit, hdeadline⟩ := hclosed.elapsed
      exact ⟨⟨commit, hcommits ▸ hcommit, hheight ▸ hdeadline⟩,
        (hopen _).trans hclosed.unchallenged, hclosed.past.trans_le hcurrent⟩
  · unfold ProtocolState.Finalized at hother ⊢
    rw [hfinalized, hcommits, hbatches]
    refine ⟨?_, rfl, fun _ _ => rfl⟩
    rw [get_insert]
    split
    · simp
    · exact hother

theorem keepsFinal_finalizeEpoch {epochId : ℕ} (hfits : epochId + 1 < 2 ^ 64)
    (h : Returns (finalizeEpoch env epochId) s s') : KeepsFinal s s' := by
  rcases finalizeEpoch_returns h with
    rfl | ⟨hchecked, ⟨hpast, rfl⟩ | ⟨hcurrent, next, hnext, hexpiry⟩⟩
  · exact Std.Refl.refl s'
  · exact keepsFinal_marked hchecked rfl rfl rfl rfl rfl le_rfl hpast
  · obtain ⟨hfinalized, hcommits, hbatches, hchallenges, hheight⟩ := entered_epochs s epochId next
    have hadvanced : next = epochId + 1 := eq_of_add64 hfits hnext
    have hentered := entered_currentEpoch s epochId next
    have hmarked : KeepsFinal s (s.entered epochId next) :=
      keepsFinal_marked hchecked hfinalized hcommits hbatches hchallenges hheight
        (by omega) (by omega)
    refine IsTrans.trans _ _ _ hmarked (expire_returns ?_ ?_ hexpiry)
    · exact fun _ _ _ _ _ _ => keepsFinal_of_same rfl rfl rfl rfl le_rfl le_rfl
    · exact fun _ _ _ _ _ => keepsFinal_of_same rfl rfl rfl rfl le_rfl le_rfl

theorem keepsFinal_step (op : Operation)
    (hfits : ∀ epochId, op = .other (.finalizeEpoch epochId) → epochId + 1 < 2 ^ 64) :
    KeepsFinal s (op.step env s) := by
  refine step_related ?_ (fun _ _ => keepsFinal_processMatureUnbonds) ?_ ?_ ?_ ?_
  · exact fun t height hheight => keepsFinal_of_same rfl rfl rfl rfl hheight.le le_rfl
  · exact fun tx _ t t' => apply_returns (fun _ _ => keepsFinal_applied) fun _ _ =>
      keepsFinal_stranded
  · exact fun _ _ _ _ => keepsFinal_resolve
  · exact fun epochId hop _ => keepsFinal_finalizeEpoch (hfits epochId hop)
  · exact fun _ _ _ _ _ => keepsFinal_of_same rfl rfl rfl rfl le_rfl le_rfl

theorem keepsFinal_run (env : Env) (ops : List Operation)
    (hfits : ∀ epochId, Operation.other (.finalizeEpoch epochId) ∈ ops → epochId + 1 < 2 ^ 64) :
    KeepsFinal s (run (Operation.step env) s ops) := by
  induction ops generalizing s with
  | nil => exact Std.Refl.refl s
  | cons op ops ih =>
      refine IsTrans.trans _ _ _ (keepsFinal_step op fun epochId hop => ?_) (ih fun epochId hop => ?_)
      · exact hfits epochId (hop ▸ List.mem_cons_self)
      · exact hfits epochId (List.mem_cons_of_mem op hop)

/-- No transition opens a challenge of the epoch, commits it, adds a batch to it or finalizes it. -/
structure ProtocolState.FrozenEpoch (env : Env) (s : ProtocolState) (epochId : ℕ) : Prop where
  challenge : ∀ tx : OpenChallengeTx, tx.challenge.epochId = epochId →
    ∀ effect t, (applyOpenChallenge env tx).run s ≠ .ok effect t
  commit : ∀ tx : CommitEpochTx, tx.epochCommit.epochId = epochId →
    ∀ effect t, (applyCommitEpoch env tx).run s ≠ .ok effect t
  batch : ∀ tx : SubmitBatchTx, tx.batchCommit.epochId = epochId →
    ∀ effect t, (applySubmitBatch env tx).run s ≠ .ok effect t
  finalize : ∀ effect t, (finalizeEpoch env epochId).run s ≠ .ok effect t

theorem frozen_of_closed {epochId : ℕ} (hfinal : s.Finalized epochId)
    (hclosed : s.ClosedEpoch epochId) : s.FrozenEpoch env epochId where
  challenge := by
    rintro tx rfl effect t hok
    obtain ⟨commit, hcommit, hdeadline⟩ := hclosed.elapsed
    cases applied_of_ok (.openChallenge tx) hok with
    | openChallenge _ hstored hopen hwindow =>
        cases hstored.symm.trans hcommit
        omega
  commit := by
    rintro tx rfl effect t hok
    have hpast := hclosed.past
    cases applied_of_ok (.commitEpoch tx) hok with
    | commitEpoch hcurrent => omega
  batch := by
    rintro tx rfl effect t hok
    have hpast := hclosed.past
    cases applied_of_ok (.submitBatch tx) hok with
    | submitBatch hcurrent => omega
  finalize := by
    intro effect t hok
    rw [finalizeEpoch, get_bind, lift_bind_ok] at hok
    obtain ⟨_, hunfinalized, _⟩ := hok
    exact hfinal (ensure_eq_ok.mp hunfinalized)

/-- In every run from a state without finalized epochs, a finalized epoch is closed, and stays
closed with the commit and the batches it has whatever comes later. -/
theorem finalized_epochs_stay_closed (env : Env) (s : ProtocolState) (ops later : List Operation)
    (hfresh : s.store.finalizedEpochs = ∅)
    (hfits : ∀ epochId, Operation.other (.finalizeEpoch epochId) ∈ ops ++ later →
      epochId + 1 < 2 ^ 64) (epochId : ℕ)
    (hfinal : (run (Operation.step env) s ops).Finalized epochId) :
    (run (Operation.step env) s ops).ClosedEpoch epochId ∧
    (run (Operation.step env) s (ops ++ later)).Finalized epochId ∧
    (run (Operation.step env) s (ops ++ later)).ClosedEpoch epochId ∧
    (run (Operation.step env) s (ops ++ later)).FrozenEpoch env epochId ∧
    (run (Operation.step env) s (ops ++ later)).store.epochCommits[epochId]? =
      (run (Operation.step env) s ops).store.epochCommits[epochId]? ∧
    ∀ key : BatchKey, key.1 = epochId →
      (run (Operation.step env) s (ops ++ later)).store.batches[key]? =
        (run (Operation.step env) s ops).store.batches[key]? := by
  have hstart : s.Final := by
    intro other hother
    unfold ProtocolState.Finalized at hother
    rw [hfresh] at hother
    simp at hother
  have hreached := (keepsFinal_run env ops
    (fun other hop => hfits other (List.mem_append_left _ hop)) hstart).1
  obtain ⟨hlater, hkept⟩ := keepsFinal_run env later
    (fun other hop => hfits other (List.mem_append_right _ hop)) hreached
  rw [run_append]
  obtain ⟨hfinal', hcommit, hbatches⟩ := hkept epochId hfinal
  exact ⟨hreached epochId hfinal, hfinal', hlater epochId hfinal',
    frozen_of_closed hfinal' (hlater epochId hfinal'), hcommit, hbatches⟩

/-- A commit of epoch seven whose window closes at height three. -/
def Sample.commit : EpochCommit where
  epochId := 7
  acceptedBatches := ⟨0, 0⟩
  observations := ⟨0, 0⟩
  aggregates := ⟨0, 0⟩
  rewards := ⟨0, 0⟩
  availability := ⟨0, 0⟩
  randomnessSeed := 0
  proposerId := 5
  challengeOpenHeight := 1
  challengeDeadlineHeight := 3

def Sample.elapsed : ProtocolState where
  height := 4
  currentEpoch := 0
  params := defaultProtocolParams
  store := { epochCommits := (∅ : OrderedMap ℕ EpochCommit).insert 7 commit }

/-- Epoch seven is finalized, and an empty block follows. -/
theorem finalized_epochs_stay_closed_seven :
    (run (Operation.step (Sample.env .wrap)) Sample.elapsed
      ([.other (.finalizeEpoch 7)] ++ [.executeBlock ⟨9, []⟩])).FrozenEpoch (Sample.env .wrap) 7 :=
  (finalized_epochs_stay_closed (Sample.env .wrap) Sample.elapsed [.other (.finalizeEpoch 7)]
    [.executeBlock ⟨9, []⟩] rfl (by simp) 7 (by unfold ProtocolState.Finalized; decide +kernel)).2.2.2.1

end PoleProtocol.Ledger
