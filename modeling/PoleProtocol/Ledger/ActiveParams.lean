import PoleProtocol.Ledger.Agenda

/-!
# The parameters in force

The ledger installs the parameters that were scheduled last for an epoch; the services off the chain
read the activated proposal with the greatest effective epoch. Both agree as long as the epoch's
last proposal by id is also the last one approved.
-/

namespace PoleProtocol.Ledger

open Framework OrderedMap

variable {env : Env} {s : ProtocolState}

/-- The parameters that the services read from the stored proposals. -/
def latestActivatedProtocolParams
    (paramsUpdateProposals : OrderedMap Hash32 GovernanceParamsUpdateProposalRecord) :
    Option ProtocolParams :=
  (maxByKey (·.effectiveEpoch)
    (paramsUpdateProposals.records.filter fun proposal => proposal.state = .activated)).map (·.params)

/-- The proposals that wait for an epoch, in the order of their ids. -/
def ProtocolState.scheduledFor (s : ProtocolState) (epochId : ℕ) :
    List GovernanceParamsUpdateProposalRecord :=
  s.store.paramsUpdateProposals.records.filter fun proposal =>
    proposal.state = .scheduled ∧ proposal.effectiveEpoch = epochId

/-- The activated proposals are no later than the current epoch, and the last of them carries the
parameters in force. -/
structure Agenda.InForce (a : Agenda) : Prop where
  keyed : a.Keyed
  past : ∀ (k : Hash32) (proposal : GovernanceParamsUpdateProposalRecord),
    a.proposals[k]? = some proposal → proposal.state = .activated →
    proposal.effectiveEpoch ≤ a.currentEpoch
  agrees : ∀ params ∈ latestActivatedProtocolParams a.proposals, params = a.params

/-! ## Steps -/

/-- What is read depends on the activated proposals only. -/
theorem latestActivatedProtocolParams_congr
    {m m' : OrderedMap Hash32 GovernanceParamsUpdateProposalRecord}
    (h : ∀ (k : Hash32) (proposal : GovernanceParamsUpdateProposalRecord),
      proposal.state = .activated → (m[k]? = some proposal ↔ m'[k]? = some proposal)) :
    latestActivatedProtocolParams m = latestActivatedProtocolParams m' := by
  unfold latestActivatedProtocolParams
  rw [filter_records_congr _ fun k proposal hactivated => h k proposal (of_decide_eq_true hactivated)]

/-- No step activates a proposal or moves an activated one. -/
theorem Agenda.Step.activated {a a' : Agenda} (hstep : a.Step a') (k : Hash32)
    (proposal : GovernanceParamsUpdateProposalRecord) (hactivated : proposal.state = .activated) :
    a'.proposals[k]? = some proposal ↔ a.proposals[k]? = some proposal := by
  have hinserted : ∀ (written : GovernanceParamsUpdateProposalRecord) (proposalId : Hash32),
      written.state ≠ .activated →
      (∀ stored, a.proposals[proposalId]? = some stored → stored.state ≠ .activated) →
      ((a.proposals.insert proposalId written)[k]? = some proposal ↔
        a.proposals[k]? = some proposal) := by
    intro written proposalId hwritten hstored
    rw [get_insert]
    split
    · next hk =>
        subst hk
        constructor
        · rintro ⟨⟩
          exact absurd hactivated hwritten
        · intro hget
          exact absurd hactivated (hstored proposal hget)
    · exact Iff.rfl
  cases hstep with
  | propose hfresh hpending =>
      refine hinserted _ _ (by simp [hpending]) fun stored hget => ?_
      rw [hfresh] at hget
      cases hget
  | approve hstored hpending _ =>
      refine hinserted _ _ (by simp) fun stored hget => ?_
      cases hstored.symm.trans hget
      simp [hpending]
  | schedule _ => exact Iff.rfl
  | expire hstored hpending =>
      refine hinserted _ _ (by simp) fun stored hget => ?_
      cases hstored.symm.trans hget
      simp [hpending]

theorem Agenda.InForce.step {a a' : Agenda} (hstep : a.Step a') (h : a.InForce) : a'.InForce := by
  have hactivated := hstep.activated
  have hsame : a'.currentEpoch = a.currentEpoch ∧ a'.params = a.params := by
    cases hstep <;> exact ⟨rfl, rfl⟩
  refine ⟨hstep.keyed h.keyed, fun k proposal hget hstate => ?_, fun params hread => ?_⟩
  · rw [hsame.1]
    exact h.past k proposal ((hactivated k proposal hstate).mp hget) hstate
  · rw [hsame.2]
    rw [latestActivatedProtocolParams_congr hactivated] at hread
    exact h.agrees params hread

/-! ## Epochs -/

theorem activatedAt_params (proposal : GovernanceParamsUpdateProposalRecord) (epochId : ℕ) :
    (proposal.activatedAt epochId).params = proposal.params := by
  unfold GovernanceParamsUpdateProposalRecord.activatedAt
  split <;> rfl

theorem activatedAt_effectiveEpoch (proposal : GovernanceParamsUpdateProposalRecord)
    (epochId : ℕ) : (proposal.activatedAt epochId).effectiveEpoch = proposal.effectiveEpoch := by
  unfold GovernanceParamsUpdateProposalRecord.activatedAt
  split <;> rfl

theorem activatedAt_activated (proposal : GovernanceParamsUpdateProposalRecord) (epochId : ℕ) :
    (proposal.activatedAt epochId).state = .activated ↔ proposal.state = .activated ∨
      proposal.state = .scheduled ∧ proposal.effectiveEpoch = epochId := by
  unfold GovernanceParamsUpdateProposalRecord.activatedAt
  split
  · next hscheduled => simp [hscheduled]
  · next hother => simp [hother]

/-- When all activated proposals are earlier, the one that is read after entering an epoch is the
last of those that waited for it. -/
theorem latestActivatedProtocolParams_enter {s : ProtocolState} {epochId : ℕ}
    {params : ProtocolParams} (hinForce : s.agenda.InForce) (hahead : s.currentEpoch < epochId)
    (hlast : (s.scheduledFor epochId).getLast?.map (·.params) = some params) :
    latestActivatedProtocolParams
      (s.store.paramsUpdateProposals.map fun _ proposal => proposal.activatedAt epochId) =
        some params := by
  have hpast : ∀ proposal ∈ s.store.paramsUpdateProposals.records, proposal.state = .activated →
      proposal.effectiveEpoch < epochId := by
    intro proposal hmem hstate
    obtain ⟨k, hk⟩ := mem_records.mp hmem
    exact (hinForce.past k proposal hk hstate).trans_lt hahead
  unfold ProtocolState.scheduledFor at hlast
  unfold latestActivatedProtocolParams
  rw [records_map]
  generalize s.store.paramsUpdateProposals.records = proposals at hpast hlast ⊢
  obtain ⟨last, hgetLast, hparams⟩ := Option.map_eq_some_iff.mp hlast
  have hlastMem := List.mem_filter.mp (List.mem_of_getLast? hgetLast)
  have hscheduled := of_decide_eq_true hlastMem.2
  have htop : maxByKey (·.effectiveEpoch) ((proposals.map (·.activatedAt epochId)).filter
      fun proposal => proposal.state = .activated) =
      (((proposals.map (·.activatedAt epochId)).filter fun proposal =>
        proposal.state = .activated).filter fun proposal =>
          proposal.effectiveEpoch = epochId).getLast? := by
    apply maxByKey_eq_getLast?
    · intro moved hmem
      obtain ⟨hmem, hstate⟩ := List.mem_filter.mp hmem
      obtain ⟨proposal, hproposal, rfl⟩ := List.mem_map.mp hmem
      rw [activatedAt_effectiveEpoch]
      rcases (activatedAt_activated proposal epochId).mp (of_decide_eq_true hstate) with
        hearlier | ⟨_, hentered⟩
      · exact (hpast proposal hproposal hearlier).le
      · exact hentered.le
    · refine ⟨last.activatedAt epochId, List.mem_filter.mpr ⟨List.mem_map_of_mem hlastMem.1, ?_⟩, ?_⟩
      · exact decide_eq_true ((activatedAt_activated last epochId).mpr (.inr hscheduled))
      · rw [activatedAt_effectiveEpoch]
        exact hscheduled.2
  have hentered : ((proposals.map (·.activatedAt epochId)).filter fun proposal =>
      proposal.state = .activated).filter (fun proposal => proposal.effectiveEpoch = epochId) =
      (proposals.filter fun proposal => proposal.state = .scheduled ∧
        proposal.effectiveEpoch = epochId).map (·.activatedAt epochId) := by
    rw [List.filter_filter, List.filter_map]
    congr 1
    refine List.filter_congr fun proposal hproposal => ?_
    simp only [Function.comp_apply, activatedAt_effectiveEpoch, activatedAt_activated]
    have hearlier := hpast proposal hproposal
    by_cases hstate : proposal.state = .activated
    · have hne := (hearlier hstate).ne
      simp [hstate, hne]
    · simp [hstate, and_comm]
  rw [htop, hentered, List.getLast?_map, hgetLast]
  change some (last.activatedAt epochId).params = _
  rw [activatedAt_params, hparams]

/-- A finalization that installs parameters installs those of the proposal with the greatest id
among the ones that wait for the epoch. -/
def InstallsLatest (env : Env) (s : ProtocolState) : Operation → Prop
  | .other (.finalizeEpoch epochId) => Finalizable s epochId → s.currentEpoch ≤ epochId →
      ∀ next, env.add64 epochId 1 = .ok next → epochId < next ∧
        ∀ params ∈ s.store.scheduledProtocolParams[next]?,
          (s.scheduledFor next).getLast?.map (·.params) = some params
  | _ => True

theorem Agenda.InForce.enter {epochId : ℕ} (h : s.agenda.InForce) (hahead : s.currentEpoch < epochId)
    (hlatest : ∀ params ∈ s.store.scheduledProtocolParams[epochId]?,
      (s.scheduledFor epochId).getLast?.map (·.params) = some params) :
    (s.agenda.enter epochId).InForce := by
  cases hentry : s.agenda.scheduled[epochId]? with
  | none =>
      rw [Agenda.enter_of_none hentry]
      exact ⟨h.keyed, fun k proposal hget hstate => (h.past k proposal hget hstate).trans hahead.le,
        h.agrees⟩
  | some installed =>
      have hread := latestActivatedProtocolParams_enter h hahead (hlatest installed hentry)
      refine ⟨h.keyed.enter epochId, fun k moved hget hstate => ?_, fun params hparams => ?_⟩
      · rw [Agenda.enter_of_some hentry] at hget ⊢
        rw [Std.ExtTreeMap.getElem?_map, Option.map_eq_some_iff] at hget
        obtain ⟨proposal, hstored, rfl⟩ := hget
        rw [activatedAt_effectiveEpoch]
        rcases (activatedAt_activated proposal epochId).mp hstate with hearlier | ⟨_, hentered⟩
        · exact (h.past k proposal hstored hearlier).trans hahead.le
        · exact hentered.le
      · rw [Agenda.enter_of_some hentry] at hparams ⊢
        cases hread.symm.trans hparams
        rfl

/-! ## Runs -/

/-- Along a run whose finalizations install the parameters of the last proposal by id, the services
read the parameters in force as soon as a proposal has been activated. -/
theorem active_params_agree (env : Env) (s : ProtocolState) (ops : List Operation)
    (hproposals : s.store.paramsUpdateProposals = ∅)
    (hmeets : Meets (Operation.step env) (InstallsLatest env) s ops) :
    let t := run (Operation.step env) s ops
    ∀ (k : Hash32) (proposal : GovernanceParamsUpdateProposalRecord),
      t.store.paramsUpdateProposals[k]? = some proposal → proposal.state = .activated →
      latestActivatedProtocolParams t.store.paramsUpdateProposals = some t.params := by
  intro t k proposal hget hstate
  have hstart : s.agenda.InForce := by
    have hnone : ∀ k : Hash32, s.agenda.proposals[k]? = none := by
      intro k
      change s.store.paramsUpdateProposals[k]? = none
      simp [hproposals]
    refine ⟨fun k proposal hget => ?_, fun k proposal hget => ?_, ?_⟩
    · cases (hnone k).symm.trans hget
    · cases (hnone k).symm.trans hget
    · change ∀ params ∈ latestActivatedProtocolParams s.store.paramsUpdateProposals, _
      rw [hproposals]
      intro params hread
      cases hread
  have hinForce : t.agenda.InForce := by
    refine run_invariant (P := fun t : ProtocolState => t.agenda.InForce) ?_ hmeets hstart
    intro r op hop
    refine agenda_step (P := Agenda.InForce) (fun _ h => h.keyed) (fun _ _ => Agenda.InForce.step) ?_
    rintro epochId next rfl hchecked hcurrent hnext hbefore
    obtain ⟨hadvanced, hlatest⟩ := hop hchecked hcurrent next hnext
    exact hbefore.enter (hcurrent.trans_lt hadvanced) hlatest
  cases hread : latestActivatedProtocolParams t.store.paramsUpdateProposals with
  | some params => rw [hinForce.agrees params hread]; rfl
  | none =>
      unfold latestActivatedProtocolParams at hread
      have hempty := List.argmax_eq_none.mp (Option.map_eq_none_iff.mp hread)
      rw [List.reverse_eq_nil_iff, List.filter_eq_nil_iff] at hempty
      exact absurd (decide_eq_true hstate) (hempty proposal (mem_records.mpr ⟨k, hget⟩))

namespace Sample

/-- Alice proposes other parameters for the same epoch, under a smaller id. -/
def proposeOther : ProposeProtocolParamsUpdateTx where
  proposalId := 1
  proposer := alice
  effectiveEpoch := 8
  params := updatedParams 3
  nonce := 2
  pubkey := aliceKey
  signature := bigEndian 64 0x6c406b5a4a447d35f7d29517474868dc4d0adce670cde09488e7ea4fd079c76d692d8be42a4356dc01883e42b5815134c23e1d5fc3cba28875a2bd43a10d1c0e

def voteOther : VoteTx where
  proposalId := 1
  voter := alice
  choice := .yes
  votingPower := 20000
  nonce := 3
  pubkey := aliceKey
  signature := bigEndian 64 0xe2c69b24726c9c15e2bc19a631afca92ce84bcd1d48c50b396ac2cb3b6041c2aa0d4ca2de6afcfc99b09c724e1b08889e6ab89167b248f176c545aa9dfa16709

def proposalsEnv : Env :=
  signedEnv [(aliceKey, propose.signature, .proposeProtocolParamsUpdate propose),
    (aliceKey, vote.signature, .vote vote),
    (aliceKey, proposeOther.signature, .proposeProtocolParamsUpdate proposeOther),
    (aliceKey, voteOther.signature, .vote voteOther)] .panic

/-- Both proposals are made and approved, and the windows pass. -/
def approvals : List Operation :=
  [.executeBlock ⟨2, [.proposeProtocolParamsUpdate propose, .vote vote]⟩,
    .executeBlock ⟨3, [.proposeProtocolParamsUpdate proposeOther, .vote voteOther]⟩,
    .executeBlock ⟨21, []⟩]

end Sample

/-- With one proposal for the epoch, the services read what was installed. -/
theorem active_params_agree_single :
    let t := run (Operation.step Sample.proposalEnv) Sample.governable
      (Sample.approval ++ [.other (.finalizeEpoch 7)])
    latestActivatedProtocolParams t.store.paramsUpdateProposals = some t.params := by
  have hactivated : ∃ proposal, (run (Operation.step Sample.proposalEnv) Sample.governable
      (Sample.approval ++ [.other (.finalizeEpoch 7)])).store.paramsUpdateProposals[(2 : Hash32)]? =
        some proposal ∧ proposal.state = .activated := by
    decide +kernel
  obtain ⟨proposal, hget, hstate⟩ := hactivated
  refine active_params_agree Sample.proposalEnv Sample.governable _ rfl
    ⟨trivial, trivial, ?_, trivial⟩ 2 proposal hget hstate
  intro _ _ next hnext
  have hentered : next = 8 := eq_of_add64 (by decide) hnext
  subst hentered
  decide +kernel

/-- With two proposals for the epoch, the one approved last is installed and the one with the
greater id is read. -/
theorem latestActivatedProtocolParams_differs :
    let t := run (Operation.step Sample.proposalsEnv) Sample.governable
      (Sample.approvals ++ [.other (.finalizeEpoch 7)])
    t.params = Sample.updatedParams 3 ∧
    latestActivatedProtocolParams t.store.paramsUpdateProposals = some (Sample.updatedParams 2) ∧
    latestActivatedProtocolParams t.store.paramsUpdateProposals ≠ some t.params := by
  decide +kernel

end PoleProtocol.Ledger
