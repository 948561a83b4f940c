import PoleProtocol.Ledger.Agenda

/-!
# The life of a proposal

A stored proposal keeps everything but its state. A pending one is scheduled by a vote or expires, a
scheduled one is activated when its epoch is entered, and nothing else ever happens to it.
-/

namespace PoleProtocol.Ledger

open Framework OrderedMap Action

variable {env : Env} {s s' : ProtocolState}

/-- What a proposal's state can become over any number of operations. -/
inductive GovernanceProposalState.Leads : GovernanceProposalState → GovernanceProposalState → Prop
  | same (state : GovernanceProposalState) : Leads state state
  | approved : Leads .pending .scheduled
  | expired : Leads .pending .expired
  | installed : Leads .scheduled .activated
  | carriedOut : Leads .pending .activated

namespace Agenda

variable {a b c : Agenda}

/-- The later agenda has every proposal of the earlier one, and activated no proposal outside its
epoch. -/
structure Follows (a b : Agenda) : Prop where
  later : a.currentEpoch ≤ b.currentEpoch
  kept : ∀ (k : Hash32) (proposal : GovernanceParamsUpdateProposalRecord),
    a.proposals[k]? = some proposal →
      ∃ state, b.proposals[k]? = some { proposal with state } ∧ proposal.state.Leads state
  installed : ∀ (k : Hash32) (proposal : GovernanceParamsUpdateProposalRecord),
    b.proposals[k]? = some proposal → proposal.state = .activated →
      a.proposals[k]? = some proposal ∨
        a.currentEpoch < proposal.effectiveEpoch ∧ proposal.effectiveEpoch ≤ b.currentEpoch

theorem Follows.refl (a : Agenda) : a.Follows a where
  later := le_rfl
  kept _ proposal hget := ⟨proposal.state, hget, .same _⟩
  installed _ _ hget _ := .inl hget

theorem leads_trans {first second third : GovernanceProposalState} (h : first.Leads second)
    (h' : second.Leads third) : first.Leads third := by
  cases h with
  | same => exact h'
  | approved =>
      cases h' with
      | same => exact .approved
      | installed => exact .carriedOut
  | expired =>
      cases h'
      exact .expired
  | installed =>
      cases h'
      exact .installed
  | carriedOut =>
      cases h'
      exact .carriedOut

theorem Follows.trans (h : a.Follows b) (h' : b.Follows c) : a.Follows c where
  later := h.later.trans h'.later
  kept k proposal hget := by
    obtain ⟨state, hbetween, hleads⟩ := h.kept k proposal hget
    obtain ⟨state', hafter, hleads'⟩ := h'.kept k _ hbetween
    exact ⟨state', hafter, leads_trans hleads hleads'⟩
  installed k proposal hget hactivated := by
    rcases h'.installed k proposal hget hactivated with hbetween | ⟨hahead, hpast⟩
    · rcases h.installed k proposal hbetween hactivated with hbefore | ⟨hahead, hpast⟩
      · exact .inl hbefore
      · exact .inr ⟨hahead, hpast.trans h'.later⟩
    · exact .inr ⟨h.later.trans_lt hahead, hpast⟩

/-! ## One step -/

/-- A proposal that is moved without being activated. -/
theorem follows_moved {proposalId : Hash32} {proposal : GovernanceParamsUpdateProposalRecord}
    {state : GovernanceProposalState} {scheduled : OrderedMap ℕ ProtocolParams}
    (hstored : a.proposals[proposalId]? = some proposal) (hleads : proposal.state.Leads state)
    (hwaiting : state ≠ .activated) :
    a.Follows { a with
      scheduled
      proposals := a.proposals.insert proposalId { proposal with state } } where
  later := le_rfl
  kept k other hget := by
    rw [get_insert]
    split
    · next heq =>
        subst heq
        cases hstored.symm.trans hget
        exact ⟨state, rfl, hleads⟩
    · exact ⟨other.state, hget, .same _⟩
  installed k other hget hactivated := by
    rw [get_insert] at hget
    split at hget
    · cases hget
      exact absurd hactivated hwaiting
    · exact .inl hget

theorem Step.follows (hstep : a.Step b) : a.Follows b := by
  cases hstep with
  | @propose proposal hfresh hpending =>
      refine ⟨le_rfl, fun k other hget => ?_, fun k other hget hactivated => ?_⟩
      · rw [get_insert]
        split
        · next heq =>
            subst heq
            cases hfresh.symm.trans hget
        · exact ⟨other.state, hget, .same _⟩
      · rw [get_insert] at hget
        split at hget
        · cases hget
          cases hpending.symm.trans hactivated
        · exact .inl hget
  | approve hstored hpending _ =>
      refine follows_moved hstored ?_ (by decide)
      rw [hpending]
      exact .approved
  | schedule _ => exact ⟨le_rfl, (Follows.refl a).kept, (Follows.refl a).installed⟩
  | expire hstored hpending =>
      refine follows_moved hstored ?_ (by decide)
      rw [hpending]
      exact .expired

/-- Entering an epoch activates the proposals scheduled for it. -/
theorem follows_enter {epochId : ℕ} (hahead : a.currentEpoch < epochId) :
    a.Follows (a.enter epochId) := by
  cases hentry : a.scheduled[epochId]? with
  | none =>
      rw [enter_of_none hentry]
      exact ⟨hahead.le, (Follows.refl a).kept, fun k proposal hget _ => .inl hget⟩
  | some params =>
      rw [enter_of_some hentry]
      refine ⟨hahead.le, fun k proposal hget => ?_, fun k proposal hget hactivated => ?_⟩
      · rw [Std.ExtTreeMap.getElem?_map, hget]
        unfold GovernanceParamsUpdateProposalRecord.activatedAt
        by_cases hdue : proposal.state = .scheduled ∧ proposal.effectiveEpoch = epochId
        · rw [Option.map_some, if_pos hdue, hdue.1]
          exact ⟨.activated, rfl, .installed⟩
        · rw [Option.map_some, if_neg hdue]
          exact ⟨proposal.state, rfl, .same _⟩
      · rw [Std.ExtTreeMap.getElem?_map, Option.map_eq_some_iff] at hget
        obtain ⟨stored, hstored, rfl⟩ := hget
        unfold GovernanceParamsUpdateProposalRecord.activatedAt
        by_cases hdue : stored.state = .scheduled ∧ stored.effectiveEpoch = epochId
        · rw [if_pos hdue]
          right
          change a.currentEpoch < stored.effectiveEpoch ∧ stored.effectiveEpoch ≤ epochId
          omega
        · rw [if_neg hdue]
          exact .inl hstored

end Agenda

/-! ## Runs -/

/-- The operation does not finalize the last epoch of the word. -/
def EntersLater (env : Env) (_ : ProtocolState) (op : Operation) : Prop :=
  ∀ epochId next, op = .other (.finalizeEpoch epochId) → env.add64 epochId 1 = .ok next →
    epochId < next

/-- Proposals stay under their own ids. -/
theorem keyed_run (env : Env) (ops : List Operation)
    (hproposals : s.store.paramsUpdateProposals = ∅) :
    (run (Operation.step env) s ops).agenda.Keyed := by
  refine run_preserves (P := fun t : ProtocolState => t.agenda.Keyed) ?_ ops ?_
  · intro r op
    exact agenda_step (P := Agenda.Keyed) (fun _ h => h) (fun _ _ hstep h => hstep.keyed h)
      fun _ next _ _ _ _ h => h.enter next
  · intro k proposal hget
    change s.store.paramsUpdateProposals[k]? = some proposal at hget
    simp [hproposals] at hget

end PoleProtocol.Ledger
