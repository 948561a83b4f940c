import PoleProtocol.Framework.Run
import PoleProtocol.Ledger.Effects

/-!
# The agenda of governance

The current epoch, the parameters in force, the parameters scheduled for later epochs and the
proposals behind them. An operation that finalizes nothing takes the agenda through the steps
below; a finalization first enters an epoch, which looks up one epoch of the schedule.
-/

namespace PoleProtocol.Ledger

open Framework OrderedMap Action Relation

variable {env : Env} {s s' : ProtocolState}

structure Agenda where
  currentEpoch : ℕ
  params : ProtocolParams
  scheduled : OrderedMap ℕ ProtocolParams
  proposals : OrderedMap Hash32 GovernanceParamsUpdateProposalRecord

def ProtocolState.agenda (s : ProtocolState) : Agenda where
  currentEpoch := s.currentEpoch
  params := s.params
  scheduled := s.store.scheduledProtocolParams
  proposals := s.store.paramsUpdateProposals

namespace Agenda

/-- Proposals are stored under their own ids. -/
def Keyed (a : Agenda) : Prop :=
  KeyedBy GovernanceParamsUpdateProposalRecord.proposalId a.proposals

/-- What a transition can do to the agenda of an epoch. -/
inductive Step : Agenda → Agenda → Prop
  | propose {a : Agenda} {proposal : GovernanceParamsUpdateProposalRecord}
      (hfresh : a.proposals[proposal.proposalId]? = none) (hpending : proposal.state = .pending) :
      Step a { a with proposals := a.proposals.insert proposal.proposalId proposal }
  | approve {a : Agenda} {proposalId : Hash32} {proposal : GovernanceParamsUpdateProposalRecord}
      (hstored : a.proposals[proposalId]? = some proposal) (hpending : proposal.state = .pending)
      (hahead : a.currentEpoch < proposal.effectiveEpoch) :
      Step a { a with
        scheduled := a.scheduled.insert proposal.effectiveEpoch proposal.params
        proposals := a.proposals.insert proposalId { proposal with state := .scheduled } }
  | schedule {a : Agenda} {effectiveEpoch : ℕ} {params : ProtocolParams}
      (hahead : a.currentEpoch < effectiveEpoch) :
      Step a { a with scheduled := a.scheduled.insert effectiveEpoch params }
  | expire {a : Agenda} {proposalId : Hash32} {proposal : GovernanceParamsUpdateProposalRecord}
      (hstored : a.proposals[proposalId]? = some proposal) (hpending : proposal.state = .pending) :
      Step a { a with
        proposals := a.proposals.insert proposalId { proposal with state := .expired } }

end Agenda

/-- The proposal after its epoch has been entered. -/
def GovernanceParamsUpdateProposalRecord.activatedAt
    (proposal : GovernanceParamsUpdateProposalRecord) (epochId : ℕ) :
    GovernanceParamsUpdateProposalRecord :=
  if proposal.state = .scheduled ∧ proposal.effectiveEpoch = epochId then
    { proposal with state := .activated }
  else proposal

/-- The agenda of the next epoch: what was scheduled for it is installed, and the proposals for it
are activated. -/
def Agenda.enter (a : Agenda) (epochId : ℕ) : Agenda :=
  match a.scheduled[epochId]? with
  | none => { a with currentEpoch := epochId }
  | some params =>
      { currentEpoch := epochId
        params
        scheduled := a.scheduled.erase epochId
        proposals := a.proposals.map fun _ proposal => proposal.activatedAt epochId }

/-! ## Steps -/

theorem Agenda.Keyed.insert {a : Agenda} (h : a.Keyed) {proposalId : Hash32}
    {proposal : GovernanceParamsUpdateProposalRecord} (state : GovernanceProposalState)
    (hstored : a.proposals[proposalId]? = some proposal) :
    KeyedBy GovernanceParamsUpdateProposalRecord.proposalId
      (a.proposals.insert proposalId { proposal with state }) := by
  have hkey : proposal.proposalId = proposalId := h _ _ hstored
  subst hkey
  exact keyedBy_insert _ h { proposal with state }

theorem Agenda.Step.keyed {a a' : Agenda} (hstep : a.Step a') (h : a.Keyed) : a'.Keyed := by
  cases hstep with
  | propose hfresh _ => exact keyedBy_insert _ h _
  | approve hstored _ _ => exact h.insert .scheduled hstored
  | schedule _ => exact h
  | expire hstored _ => exact h.insert .expired hstored

theorem activatedAt_proposalId (proposal : GovernanceParamsUpdateProposalRecord) (epochId : ℕ) :
    (proposal.activatedAt epochId).proposalId = proposal.proposalId := by
  unfold GovernanceParamsUpdateProposalRecord.activatedAt
  split <;> rfl

theorem Agenda.Keyed.enter {a : Agenda} (h : a.Keyed) (epochId : ℕ) : (a.enter epochId).Keyed := by
  unfold Agenda.enter
  split
  · exact h
  · intro proposalId proposal hget
    rw [Std.ExtTreeMap.getElem?_map, Option.map_eq_some_iff] at hget
    obtain ⟨stored, hstored, rfl⟩ := hget
    rw [activatedAt_proposalId]
    exact h proposalId stored hstored

/-- The agenda goes through steps. -/
def Advances (s s' : ProtocolState) : Prop := ReflTransGen Agenda.Step s.agenda s'.agenda

instance : Std.Refl Advances := ⟨fun _ => .refl⟩

instance : IsTrans ProtocolState Advances := ⟨fun _ _ _ => .trans⟩

theorem advances_of_same (h : s'.agenda = s.agenda) : Advances s s' := by
  unfold Advances
  rw [h]

/-- What every step keeps, the agenda keeps as it goes through steps. -/
theorem Advances.preserves {P : Agenda → Prop} (hstep : ∀ a a', Agenda.Step a a' → P a → P a')
    (hadvances : Advances s s') (h : P s.agenda) : P s'.agenda := by
  unfold Advances at hadvances
  generalize s'.agenda = a' at hadvances ⊢
  induction hadvances with
  | refl => exact h
  | tail _ hlast ih => exact hstep _ _ hlast ih

theorem advances_scheduling {proposalId : Hash32} (h : Scheduling env proposalId s s') :
    Advances s s' := by
  cases h with
  | none => exact Std.Refl.refl s
  | full happroved _ _ =>
      exact .single (.approve happroved.stored happroved.pending happroved.ahead)

theorem advances_applied {tx : Transaction} (h : Applied env tx s s') : Advances s s' := by
  cases h with
  | transfer | stake | submitBatch | commitEpoch | openChallenge | challengeResponse
    | claimReward => exact advances_of_same rfl
  | unbond =>
      unfold ProtocolState.reduceDelegation
      split <;> exact advances_of_same rfl
  | @vote _ _ tx _ voter' _ _ _ hscheduling =>
      have hrecorded : Advances s ((s.insertAccount tx.voter voter').insertVote tx) :=
        advances_of_same rfl
      exact IsTrans.trans _ _ _ hrecorded (advances_scheduling hscheduling)
  | @proposeProtocolParamsUpdate _ tx _ _ paramsHash hfresh _ _ =>
      exact .single (@Agenda.Step.propose _ (tx.record s paramsHash) hfresh rfl)

theorem advances_stranded {tx : Transaction} (h : Stranded env tx s s') : Advances s s' := by
  cases h with
  | transfer | unbond | vote => exact advances_of_same rfl
  | @schedule _ tx _ voter' _ _ _ _ happroved _ =>
      have hrecorded : Advances s ((s.insertAccount tx.voter voter').insertVote tx) :=
        advances_of_same rfl
      exact IsTrans.trans _ _ _ hrecorded (.single (.schedule happroved.ahead))

theorem advances_resolve {challengeId : Hash32} {resolution : ChallengeResolution}
    (h : Returns (resolveChallenge env challengeId resolution) s s') : Advances s s' := by
  refine resolve_returns (fun t t' hresolved => ?_) (fun t t' hdropped => ?_) h
  · cases hresolved <;> exact advances_of_same rfl
  · cases hdropped <;> exact advances_of_same rfl

theorem advances_processMatureUnbonds (h : Returns (processMatureUnbonds env) s s') :
    Advances s s' :=
  mature_returns (fun _ => advances_of_same rfl) (fun _ _ _ _ _ _ => advances_of_same rfl) h

/-! ## Epochs -/

private theorem activateProposal_currentEpoch (s : ProtocolState)
    (proposal : GovernanceParamsUpdateProposalRecord) :
    (s.activateProposal proposal).currentEpoch = s.currentEpoch := by
  unfold ProtocolState.activateProposal
  split
  · split <;> rfl
  · rfl

/-- The record of a listed proposal is moved, or was moved before. -/
private theorem activateProposal_get {epochId : ℕ}
    (proposal : GovernanceParamsUpdateProposalRecord) (hcurrent : s.currentEpoch = epochId)
    (hget : s.store.paramsUpdateProposals[proposal.proposalId]? = some proposal ∨
      s.store.paramsUpdateProposals[proposal.proposalId]? = some (proposal.activatedAt epochId))
    (k : Hash32) : (s.activateProposal proposal).store.paramsUpdateProposals[k]? =
      if proposal.proposalId = k then some (proposal.activatedAt epochId)
      else s.store.paramsUpdateProposals[k]? := by
  unfold ProtocolState.activateProposal
  unfold GovernanceParamsUpdateProposalRecord.activatedAt at hget ⊢
  rw [hcurrent]
  split
  · next hscheduled =>
      rw [if_pos hscheduled] at hget
      rcases hget with hget | hget
      · rw [hget]
        exact get_insert _ _ _ _
      · rw [hget]
        exact get_insert _ _ _ _
  · next hother =>
      rw [if_neg hother, or_self] at hget
      split
      · next hk => rw [← hk, hget]
      · rfl

/-- Every listed proposal is moved, whatever the order of the list. -/
private theorem activateProposals_get {epochId : ℕ}
    {m : OrderedMap Hash32 GovernanceParamsUpdateProposalRecord}
    (proposals : List GovernanceParamsUpdateProposalRecord)
    (hlisted : ∀ proposal ∈ proposals, m[proposal.proposalId]? = some proposal) :
    ∀ t : ProtocolState, t.currentEpoch = epochId →
      (∀ k : Hash32, t.store.paramsUpdateProposals[k]? = m[k]?.map (·.activatedAt epochId) ∨
        t.store.paramsUpdateProposals[k]? = m[k]? ∧ ∃ p ∈ proposals, p.proposalId = k) →
      ∀ k : Hash32, (proposals.foldl ProtocolState.activateProposal
        t).store.paramsUpdateProposals[k]? = m[k]?.map (·.activatedAt epochId) := by
  induction proposals with
  | nil =>
      intro t _ hleft k
      rcases hleft k with hdone | ⟨_, p, hmem, _⟩
      · exact hdone
      · cases hmem
  | cons proposal proposals ih =>
      intro t hcurrent hleft
      have hstored := hlisted proposal List.mem_cons_self
      have hmoved : ∀ k : Hash32, (t.activateProposal proposal).store.paramsUpdateProposals[k]? =
          if proposal.proposalId = k then some (proposal.activatedAt epochId)
          else t.store.paramsUpdateProposals[k]? := by
        have hget : t.store.paramsUpdateProposals[proposal.proposalId]? = some proposal ∨
            t.store.paramsUpdateProposals[proposal.proposalId]? =
              some (proposal.activatedAt epochId) := by
          rcases hleft proposal.proposalId with hdone | ⟨hsame, _⟩
          · exact .inr (by rw [hdone, hstored]; rfl)
          · exact .inl (hsame.trans hstored)
        exact activateProposal_get proposal hcurrent hget
      refine ih (fun p hp => hlisted p (List.mem_cons_of_mem _ hp)) _ ?_ fun k => ?_
      · exact (activateProposal_currentEpoch t proposal).trans hcurrent
      · rw [hmoved]
        split
        · next hk =>
            subst hk
            rw [hstored]
            exact .inl rfl
        · next hk =>
            rcases hleft k with hdone | ⟨hsame, p, hmem, hp⟩
            · exact .inl hdone
            · refine .inr ⟨hsame, p, (List.mem_cons.mp hmem).resolve_left ?_, hp⟩
              rintro rfl
              exact hk hp

/-- The loop writes proposals only. -/
private theorem activateProposals_frame (proposals : List GovernanceParamsUpdateProposalRecord) :
    ∀ t : ProtocolState, ∃ paramsUpdateProposals,
      proposals.foldl ProtocolState.activateProposal t =
        { t with store := { t.store with paramsUpdateProposals } } := by
  induction proposals with
  | nil => exact fun t => ⟨t.store.paramsUpdateProposals, rfl⟩
  | cons proposal proposals ih =>
      intro t
      obtain ⟨m, hrest⟩ := ih (t.activateProposal proposal)
      have hfirst : { (t.activateProposal proposal) with
          store := { (t.activateProposal proposal).store with paramsUpdateProposals := m } } =
          { t with store := { t.store with paramsUpdateProposals := m } } := by
        unfold ProtocolState.activateProposal
        split
        · split <;> rfl
        · rfl
      exact ⟨m, hrest.trans hfirst⟩

theorem Agenda.enter_of_none {a : Agenda} {epochId : ℕ} (h : a.scheduled[epochId]? = none) :
    a.enter epochId = { a with currentEpoch := epochId } := by
  rw [Agenda.enter, h]

theorem Agenda.enter_of_some {a : Agenda} {epochId : ℕ} {params : ProtocolParams}
    (h : a.scheduled[epochId]? = some params) : a.enter epochId =
      { currentEpoch := epochId
        params
        scheduled := a.scheduled.erase epochId
        proposals := a.proposals.map fun _ proposal => proposal.activatedAt epochId } := by
  rw [Agenda.enter, h]

theorem activateScheduledProtocolParams_agenda (hkeyed : s.agenda.Keyed) :
    s.activateScheduledProtocolParams.agenda = s.agenda.enter s.currentEpoch := by
  cases hparams : s.store.scheduledProtocolParams[s.currentEpoch]? with
  | none =>
      rw [Agenda.enter_of_none (a := s.agenda) hparams, ProtocolState.activateScheduledProtocolParams,
        hparams]
      rfl
  | some params =>
      rw [Agenda.enter_of_some (a := s.agenda) hparams,
        ProtocolState.activateScheduledProtocolParams, hparams]
      have hlisted : ∀ proposal ∈ s.store.paramsUpdateProposals.records,
          s.store.paramsUpdateProposals[proposal.proposalId]? = some proposal := by
        intro proposal hmem
        obtain ⟨k, hk⟩ := mem_records.mp hmem
        have hkey : proposal.proposalId = k := hkeyed k proposal hk
        exact hkey ▸ hk
      have hmoved := activateProposals_get s.store.paramsUpdateProposals.records hlisted
        { s with
          params
          store := { s.store with
            scheduledProtocolParams := s.store.scheduledProtocolParams.erase s.currentEpoch } } rfl
      obtain ⟨m, hframe⟩ := activateProposals_frame s.store.paramsUpdateProposals.records
        { s with
          params
          store := { s.store with
            scheduledProtocolParams := s.store.scheduledProtocolParams.erase s.currentEpoch } }
      have hmap : m = s.store.paramsUpdateProposals.map fun _ proposal =>
          proposal.activatedAt s.currentEpoch := by
        apply Std.ExtTreeMap.ext_getElem?
        intro k
        rw [Std.ExtTreeMap.getElem?_map]
        rw [hframe] at hmoved
        refine hmoved (fun k => ?_) k
        cases hk : s.store.paramsUpdateProposals[k]? with
        | none => exact .inl rfl
        | some proposal =>
            exact .inr ⟨rfl, proposal, mem_records.mpr ⟨k, hk⟩, hkeyed k proposal hk⟩
      change ProtocolState.agenda (s.store.paramsUpdateProposals.records.foldl _ _) = _
      rw [hframe, hmap]
      rfl

theorem entered_agenda (hkeyed : s.agenda.Keyed) (epochId next : ℕ) :
    (s.entered epochId next).agenda = s.agenda.enter next :=
  activateScheduledProtocolParams_agenda
    (s := { s.markEpochFinalized epochId with currentEpoch := next }) hkeyed

/-- A finalization that is not refused at once marks an epoch, and one that is not behind enters
the next epoch and lets proposals expire. -/
theorem finalizeEpoch_agenda {epochId : ℕ} (hkeyed : s.agenda.Keyed)
    (h : Returns (finalizeEpoch env epochId) s s') : s'.agenda = s.agenda ∨
      Finalizable s epochId ∧ s.currentEpoch ≤ epochId ∧ ∃ next, env.add64 epochId 1 = .ok next ∧
        ReflTransGen Agenda.Step (s.agenda.enter next) s'.agenda := by
  rcases finalizeEpoch_returns h with
    rfl | ⟨hchecked, ⟨_, rfl⟩ | ⟨hcurrent, next, hnext, hexpiry⟩⟩
  · exact .inl rfl
  · exact .inl rfl
  · refine .inr ⟨hchecked, hcurrent, next, hnext, ?_⟩
    have hentered := entered_agenda hkeyed epochId next
    have hlapsing : Lapsing (s.entered epochId next).staleParamsUpdateProposals
        (s.entered epochId next) := by
      apply lapsing_stale
      change (s.entered epochId next).agenda.Keyed
      rw [hentered]
      exact hkeyed.enter next
    have hexpired : Advances (s.entered epochId next) s' :=
      lapse_returns (fun _ _ _ hpending hstored _ _ => .single (.expire hstored hpending)) hlapsing
        hexpiry
    unfold Advances at hexpired
    rwa [hentered] at hexpired

/-- What every step and every admissible finalization keeps, an operation keeps. -/
theorem agenda_step {P : Agenda → Prop} (hkeyed : ∀ a, P a → a.Keyed)
    (hstep : ∀ a a', Agenda.Step a a' → P a → P a') {op : Operation}
    (henter : ∀ epochId next, op = .other (.finalizeEpoch epochId) → Finalizable s epochId →
      s.currentEpoch ≤ epochId → env.add64 epochId 1 = .ok next → P s.agenda →
      P (s.agenda.enter next)) :
    P s.agenda → P (op.step env s).agenda := by
  refine step_related (R := Preserves fun t : ProtocolState => P t.agenda) ?_ ?_ ?_ ?_ ?_ ?_
  · exact fun _ _ _ h => h
  · exact fun _ _ h => (advances_processMatureUnbonds h).preserves hstep
  · intro tx _ t t' h
    exact (apply_returns (R := Advances) (fun _ _ => advances_applied)
      (fun _ _ => advances_stranded) h).preserves hstep
  · exact fun _ _ _ _ h => (advances_resolve h).preserves hstep
  · intro epochId hop t hreturns hbefore
    rcases finalizeEpoch_agenda (hkeyed _ hbefore) hreturns with
      hsame | ⟨hchecked, hcurrent, next, hnext, hexpired⟩
    · rw [hsame]
      exact hbefore
    · have hentered := henter epochId next hop hchecked hcurrent hnext hbefore
      generalize t.agenda = a at hexpired ⊢
      induction hexpired with
      | refl => exact hentered
      | tail _ hlast ih => exact hstep _ _ hlast ih
  · exact fun effectiveEpoch params _ _ hahead => hstep _ _ (.schedule hahead)

/-! ## Nothing overdue -/

/-- Every scheduled epoch lies ahead, and every scheduled proposal has its entry. -/
structure Agenda.Ahead (a : Agenda) : Prop where
  keyed : a.Keyed
  entries : ∀ effectiveEpoch params, a.scheduled[effectiveEpoch]? = some params →
    a.currentEpoch < effectiveEpoch
  waiting : ∀ (k : Hash32) (proposal : GovernanceParamsUpdateProposalRecord),
    a.proposals[k]? = some proposal → proposal.state = .scheduled →
    a.scheduled[proposal.effectiveEpoch]? ≠ none

theorem Agenda.Ahead.step {a a' : Agenda} (hstep : a.Step a') (h : a.Ahead) : a'.Ahead := by
  refine ⟨hstep.keyed h.keyed, fun effectiveEpoch params hget => ?_, fun k record hget hstate => ?_⟩
  · cases hstep with
    | propose => exact h.entries effectiveEpoch params hget
    | expire => exact h.entries effectiveEpoch params hget
    | approve _ _ hahead =>
        rw [get_insert] at hget
        split at hget
        · next heq => exact heq ▸ hahead
        · exact h.entries effectiveEpoch params hget
    | schedule hahead =>
        rw [get_insert] at hget
        split at hget
        · next heq => exact heq ▸ hahead
        · exact h.entries effectiveEpoch params hget
  · cases hstep with
    | propose _ hpending =>
        rw [get_insert] at hget
        split at hget
        · cases hget
          rw [hpending] at hstate
          cases hstate
        · exact h.waiting k record hget hstate
    | approve =>
        rw [get_insert] at hget
        split at hget
        · cases hget
          simp
        · exact insert_ne_none _ _ (h.waiting k record hget hstate)
    | schedule => exact insert_ne_none _ _ (h.waiting k record hget hstate)
    | expire =>
        rw [get_insert] at hget
        split at hget
        · cases hget
          cases hstate
        · exact h.waiting k record hget hstate

/-- Entering an epoch looks up this one epoch, which is enough when no earlier one is scheduled. -/
theorem Agenda.Ahead.enter {a : Agenda} {epochId : ℕ} (h : a.Ahead)
    (hnext : ∀ effectiveEpoch params, a.scheduled[effectiveEpoch]? = some params →
      epochId ≤ effectiveEpoch) : (a.enter epochId).Ahead := by
  refine ⟨h.keyed.enter epochId, ?_, ?_⟩
  · intro effectiveEpoch params hget
    cases hentry : a.scheduled[epochId]? with
    | none =>
        rw [Agenda.enter_of_none hentry] at hget ⊢
        refine lt_of_le_of_ne (hnext effectiveEpoch params hget) ?_
        rintro rfl
        cases hentry.symm.trans hget
    | some installed =>
        rw [Agenda.enter_of_some hentry] at hget ⊢
        rw [get_erase] at hget
        split at hget
        · cases hget
        · next hother => exact lt_of_le_of_ne (hnext effectiveEpoch params hget) hother
  · intro k record hget hstate
    cases hentry : a.scheduled[epochId]? with
    | none =>
        rw [Agenda.enter_of_none hentry] at hget ⊢
        exact h.waiting k record hget hstate
    | some installed =>
        rw [Agenda.enter_of_some hentry] at hget ⊢
        rw [Std.ExtTreeMap.getElem?_map, Option.map_eq_some_iff] at hget
        obtain ⟨stored, hstored, rfl⟩ := hget
        unfold GovernanceParamsUpdateProposalRecord.activatedAt at hstate ⊢
        split at hstate
        · cases hstate
        · next hother =>
            have hlater : epochId ≠ stored.effectiveEpoch := fun heq => hother ⟨hstate, heq.symm⟩
            rw [if_neg hother, get_erase, if_neg hlater]
            exact h.waiting k stored hstored hstate

/-- Nothing that should have been installed by now is still scheduled. -/
structure ProtocolState.NothingOverdue (s : ProtocolState) : Prop where
  entries : ∀ effectiveEpoch params, s.store.scheduledProtocolParams[effectiveEpoch]? = some params →
    s.currentEpoch < effectiveEpoch
  proposals : ∀ (k : Hash32) (proposal : GovernanceParamsUpdateProposalRecord),
    s.store.paramsUpdateProposals[k]? = some proposal → proposal.state = .scheduled →
    s.currentEpoch < proposal.effectiveEpoch

theorem Agenda.Ahead.nothingOverdue (h : s.agenda.Ahead) : s.NothingOverdue where
  entries := h.entries
  proposals k proposal hget hstate := by
    cases hentry : s.store.scheduledProtocolParams[proposal.effectiveEpoch]? with
    | none => exact absurd hentry (h.waiting k proposal hget hstate)
    | some params => exact h.entries _ params hentry

/-- A finalization that enters an epoch leaves no scheduled epoch before it. -/
def SkipsNothing (env : Env) (s : ProtocolState) : Operation → Prop
  | .other (.finalizeEpoch epochId) => Finalizable s epochId → s.currentEpoch ≤ epochId →
      ∀ next, env.add64 epochId 1 = .ok next →
        ∀ entry ∈ s.store.scheduledProtocolParams.toList, next ≤ entry.1
  | _ => True

/-- Along a run whose finalizations skip no scheduled epoch, nothing is ever overdue. -/
theorem nothing_overdue (env : Env) (s : ProtocolState) (ops : List Operation)
    (hproposals : s.store.paramsUpdateProposals = ∅)
    (hscheduled : s.store.scheduledProtocolParams = ∅)
    (hmeets : Meets (Operation.step env) (SkipsNothing env) s ops) :
    (run (Operation.step env) s ops).NothingOverdue := by
  have hstart : s.agenda.Ahead := by
    refine ⟨?_, fun effectiveEpoch params hget => ?_, fun k proposal hget => ?_⟩
    · change KeyedBy _ s.store.paramsUpdateProposals
      exact hproposals ▸ keyedBy_empty _
    · change s.store.scheduledProtocolParams[effectiveEpoch]? = some params at hget
      simp [hscheduled] at hget
    · change s.store.paramsUpdateProposals[k]? = some proposal at hget
      simp [hproposals] at hget
  refine Agenda.Ahead.nothingOverdue
    (run_invariant (P := fun t : ProtocolState => t.agenda.Ahead) ?_ hmeets hstart)
  intro t op hop
  refine agenda_step (P := Agenda.Ahead) (fun _ h => h.keyed) (fun _ _ => Agenda.Ahead.step) ?_
  rintro epochId next rfl hchecked hcurrent hnext hahead
  refine hahead.enter fun effectiveEpoch params hget => ?_
  exact hop hchecked hcurrent next hnext (effectiveEpoch, params) (mem_toList.mpr hget)

namespace Sample

/-- The record of a parameter set, field by field. -/
def encodeParams (params : ProtocolParams) : Bytes :=
  littleEndian 4 params.slotSeconds ++ littleEndian 4 params.epochSlots ++
    littleEndian 2 params.committeeSize ++ littleEndian 4 params.unbondingBlocks ++
    littleEndian 16 params.minVerifyBond ++ littleEndian 16 params.minProposeBond ++
    littleEndian 4 params.challengeWindowBlocks ++ littleEndian 4 params.maxEmergencyBrakeBlocks ++
    littleEndian 4 params.minRetentionEpochs ++ encodeFee params.fee ++
    encodeRewards params.rewards ++ encodeGovernance params.governance ++
    encodeSlashing params.slashing ++ encodeMutualProof params.mutualProof
where
  encodeFee (fee : FeeParams) : Bytes :=
    littleEndian 8 fee.baseGasPriceNano ++ littleEndian 8 fee.maxGasPriceNano ++
      littleEndian 4 fee.gasAdjustmentPpm ++ littleEndian 4 fee.congestionThresholdPpm ++
      littleEndian 2 fee.feeBurnBps
  encodeRewards (rewards : RewardParams) : Bytes :=
    [if rewards.rewardSourceIsTokenomics then 1 else 0] ++ littleEndian 4 rewards.emissionYear ++
      littleEndian 8 rewards.rewardBlockSecs ++ littleEndian 2 rewards.initialEmissionRateBps ++
      littleEndian 4 rewards.tailEmissionStartYear ++ littleEndian 2 rewards.tailEmissionRateBps ++
      littleEndian 2 rewards.playerRewardAllocationBps ++
      littleEndian 2 rewards.serviceRewardAllocationBps ++
      littleEndian 2 rewards.collectRewardBps ++ littleEndian 2 rewards.storeRewardBps ++
      littleEndian 2 rewards.verifyRewardBps ++ littleEndian 2 rewards.proposeRewardBps ++
      littleEndian 16 rewards.configuredPlayerBlockReward ++
      littleEndian 16 rewards.effectivePlayerBlockReward ++
      littleEndian 16 rewards.targetNetworkWeightUnits ++
      littleEndian 2 rewards.rewardAdjustmentCapBps ++ littleEndian 4 rewards.tier1WeightPpm ++
      littleEndian 4 rewards.tier2WeightMinPpm ++ littleEndian 4 rewards.tier2WeightMaxPpm ++
      littleEndian 4 rewards.tier3WeightMinPpm ++ littleEndian 4 rewards.tier3WeightMaxPpm ++
      littleEndian 4 rewards.appWeightOverrides.length ++
      (rewards.appWeightOverrides.flatMap fun entry =>
        littleEndian 4 entry.appId ++ littleEndian 4 entry.gameCoefficientPpm) ++
      littleEndian 16 rewards.rewardBurnThreshold ++ littleEndian 2 rewards.rewardBurnBps ++
      littleEndian 2 rewards.governanceBurnBps
  encodeGovernance (governance : GovernanceParams) : Bytes :=
    littleEndian 16 governance.paramsUpdateBond ++
      littleEndian 2 governance.paramsUpdateQuorumBps ++
      littleEndian 2 governance.paramsUpdateApprovalBps ++
      littleEndian 16 governance.slowParamsUpdateBond ++
      littleEndian 2 governance.slowParamsUpdateQuorumBps ++
      littleEndian 2 governance.slowParamsUpdateApprovalBps
  encodeSlashing (slashing : SlashingParams) : Bytes :=
    littleEndian 2 slashing.doubleSignBps ++ littleEndian 2 slashing.offlineBps ++
      littleEndian 2 slashing.mediumDeviationBps ++ littleEndian 2 slashing.severeDeviationBps
  encodeMutualProof (proof : MutualProofParams) : Bytes :=
    littleEndian 8 proof.minWitnessCount ++
      littleEndian 4 proof.minWitnessObservationTolerancePpm ++
      littleEndian 8 proof.minDistinctObservations ++ littleEndian 4 proof.sessionSlashBps ++
      littleEndian 8 proof.minHeartbeatCount ++ littleEndian 8 proof.heartbeatBucketSeconds ++
      littleEndian 4 proof.minHeartbeatCoverageBps ++ littleEndian 4 proof.challengeBondBurnBps

def encodeChoice : VoteChoice → UInt8
  | .yes => 0
  | .no => 1
  | .abstain => 2

/-- The records of the transactions about stake and governance as well. -/
def encodeRecord : Transaction → Option Bytes
  | .stake tx => some (tx.delegator.bytes ++ tx.operator.bytes ++ littleEndian 16 tx.amount ++
      littleEndian 8 tx.nonce ++ tx.pubkey.bytes ++ littleEndian 4 tx.signature.length ++
      tx.signature)
  | .unbond tx => some (tx.delegator.bytes ++ tx.operator.bytes ++ littleEndian 16 tx.amount ++
      littleEndian 8 tx.nonce ++ tx.pubkey.bytes ++ littleEndian 4 tx.signature.length ++
      tx.signature)
  | .vote tx => some (tx.proposalId.bytes ++ tx.voter.bytes ++ [encodeChoice tx.choice] ++
      littleEndian 16 tx.votingPower ++ littleEndian 8 tx.nonce ++ tx.pubkey.bytes ++
      littleEndian 4 tx.signature.length ++ tx.signature)
  | .proposeProtocolParamsUpdate tx => some (tx.proposalId.bytes ++ tx.proposer.bytes ++
      littleEndian 8 tx.effectiveEpoch ++ encodeParams tx.params ++ littleEndian 8 tx.nonce ++
      tx.pubkey.bytes ++ littleEndian 4 tx.signature.length ++ tx.signature)
  | tx => encode tx

/-- An environment in which the given transactions were signed under the given keys. -/
def signedEnv (signed : List (Hash32 × Bytes × Transaction)) (overflow : Overflow) : Env where
  verifySignature pubkey message signature := signed.any fun entry =>
    entry.1 = pubkey ∧ entry.2.1 = signature ∧ encodeRecord entry.2.2.unsigned = some message
  encode := encodeRecord
  encodeParams params := .ok (encodeParams params)
  encodeParams_of_encode tx _ _ := ⟨encodeParams tx.params, rfl⟩
  wide := overflow
  narrow := overflow

/-- The default parameters in another emission year. -/
def updatedParams (emissionYear : ℕ) : ProtocolParams :=
  { defaultProtocolParams with rewards := { defaultProtocolParams.rewards with emissionYear } }

/-- Alice proposes new parameters for epoch eight. -/
def propose : ProposeProtocolParamsUpdateTx where
  proposalId := 2
  proposer := alice
  effectiveEpoch := 8
  params := updatedParams 2
  nonce := 0
  pubkey := aliceKey
  signature := bigEndian 64 0x5c88e261a7595aa84dcdd4cc95f8ce5fa9f43528ec4c24eaf252141a8d7d968de5085902087539402c436651637d5390408b741097110c103a75250e562b4e06

/-- Alice approves the proposal with all her coins. -/
def vote : VoteTx where
  proposalId := 2
  voter := alice
  choice := .yes
  votingPower := 20000
  nonce := 1
  pubkey := aliceKey
  signature := bigEndian 64 0x9177cbbb6a46a9eac4e7b93ea9ac5401d9d038cf55a385cb4665a5808b6b1532b42e4015982c06c7b15d1e1818b5e69237785fd8b6956b6ca33116b357318c04

def proposalEnv : Env :=
  signedEnv [(aliceKey, propose.signature, .proposeProtocolParamsUpdate propose),
    (aliceKey, vote.signature, .vote vote)] .panic

def epochCommit (epochId challengeDeadlineHeight : ℕ) : EpochCommit where
  epochId
  acceptedBatches := ⟨0, 0⟩
  observations := ⟨0, 0⟩
  aggregates := ⟨0, 0⟩
  rewards := ⟨0, 0⟩
  availability := ⟨0, 0⟩
  randomnessSeed := 0
  proposerId := 5
  challengeOpenHeight := 1
  challengeDeadlineHeight

/-- Alice with twenty thousand coins, and the epochs seven and nine committed with windows up to
height twenty. -/
def governable : ProtocolState where
  height := 1
  currentEpoch := 0
  params := defaultProtocolParams
  store :=
    { accounts := (∅ : OrderedMap Address AccountState).insert alice (account alice 20000)
      epochCommits := ((∅ : OrderedMap ℕ EpochCommit).insert 7 (epochCommit 7 20)).insert 9
        (epochCommit 9 20) }

/-- The proposal is made and approved, and the windows pass. -/
def approval : List Operation :=
  [.executeBlock ⟨2, [.proposeProtocolParamsUpdate propose, .vote vote]⟩, .executeBlock ⟨21, []⟩]

end Sample

/-- Finalizing epoch seven installs what is scheduled for epoch eight. -/
theorem nothing_overdue_seven :
    (run (Operation.step Sample.proposalEnv) Sample.governable
      (Sample.approval ++ [.other (.finalizeEpoch 7)])).NothingOverdue := by
  refine nothing_overdue Sample.proposalEnv Sample.governable _ rfl rfl
    ⟨trivial, trivial, ?_, trivial⟩
  intro _ _ next hnext
  have hentered : next = 8 := eq_of_add64 (by decide) hnext
  subst hentered
  decide +kernel

/-- Finalizing epoch nine first leaves epoch eight behind, with its entry and its proposal still
scheduled. -/
theorem finalizeEpoch_skips :
    ¬ (run (Operation.step Sample.proposalEnv) Sample.governable
      (Sample.approval ++ [.other (.finalizeEpoch 9)])).NothingOverdue := by
  intro h
  have hcurrent : (run (Operation.step Sample.proposalEnv) Sample.governable
      (Sample.approval ++ [.other (.finalizeEpoch 9)])).currentEpoch = 10 := by decide +kernel
  have hentry : (run (Operation.step Sample.proposalEnv) Sample.governable
      (Sample.approval ++ [.other (.finalizeEpoch 9)])).store.scheduledProtocolParams[8]? =
        some (Sample.updatedParams 2) := by decide +kernel
  have hahead := h.entries 8 _ hentry
  omega

end PoleProtocol.Ledger
