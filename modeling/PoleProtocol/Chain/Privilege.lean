import PoleProtocol.Chain.WellFormed

/-!
# The bond behind privileged messages

Proposing and verifying ask for a bond, and a node that registered itself as a player is excused
from it. The chain never compares that flag with the batches the node submitted.
-/

namespace PoleProtocol.Chain

open Framework OrderedMap KeeperState

/-- What a node's role and capabilities ask for when it is no player. -/
def minimumBond (node : NodeRecord) : ℕ :=
  requiredBondedTokensForNode { node with isPlayer := false }

/-- Whether a batch of the operator is stored, of any epoch. -/
def KeeperState.hasBatch (s : KeeperState) (operator : String) : Bool :=
  s.batchCommits.records.any fun batch => batch.collectorAddress = operator

/-- The sender of a message that needs the propose or the verify capability. -/
def Input.privilegedSender : Input → Option String
  | .deliver _ (.commitEpoch msg) => some msg.proposer
  | .deliver _ (.submitRewardRecords msg) => some msg.proposer
  | .deliver _ (.openChallenge msg) => some msg.challenger
  | .deliver _ (.settleSession msg) => some msg.settler
  | .deliver _ (.upsertAggregateRecord msg) => some msg.operator
  | _ => none

/-- The operator is an active node with its minimum bond, or one with a batch on chain. -/
def Bonded (s : KeeperState) (operator : String) : Prop :=
  ∃ node, s.nodes[operator]? = some node ∧ node.active = true ∧
    (minimumBond node ≤ node.bondedTokens ∨ s.hasBatch operator = true)

/-- A sender registered as a player has a batch on chain or the bond nevertheless. -/
def EarnsWaiver (s : KeeperState) (input : Input) : Prop :=
  ∀ sender ∈ input.privilegedSender, ∀ node ∈ s.nodes[sender]?, node.isPlayer = true →
    s.hasBatch sender = true ∨ minimumBond node ≤ node.bondedTokens

theorem requiredBondedTokens_of_not_player {node : NodeRecord} (h : node.isPlayer = false) :
    requiredBondedTokensForNode node = minimumBond node := by
  unfold minimumBond
  congr 1
  cases node
  cases h
  rfl

section Steps

variable {env : Env} {s s' : KeeperState} {input : Input} {sender : String}

/-- An accepted privileged message comes from a stored node that is active and has the bond its
registration asks for. -/
theorem sender_of_step (hok : step env s input = .ok s')
    (hsender : input.privilegedSender = some sender) :
    ∃ node, s.nodes[sender]? = some node ∧ node.active = true ∧
      requiredBondedTokensForNode node ≤ node.bondedTokens := by
  suffices hcapable : ∃ capability node, s.requireNodeCapability sender capability = .ok node by
    obtain ⟨_, node, hnode⟩ := hcapable
    exact ⟨node, requireNodeCapability_ok hnode⟩
  unfold Input.privilegedSender at hsender
  split at hsender
  · next ctx msg =>
      cases hsender
      simp only [step, handle, commitEpoch, bind_eq_ok, ensure_eq_ok, exists_const] at hok
      obtain ⟨_, _, _, _, _, node, hnode, _⟩ := hok
      exact ⟨_, node, hnode⟩
  · next ctx msg =>
      cases hsender
      simp only [step, handle, submitRewardRecords, bind_eq_ok, ensure_eq_ok, exists_const] at hok
      obtain ⟨_, _, node, hnode, _⟩ := hok
      exact ⟨_, node, hnode⟩
  · next ctx msg =>
      cases hsender
      simp only [step, handle, openChallenge, bind_eq_ok, ensure_eq_ok, exists_const] at hok
      obtain ⟨_, _, _, _, _, _, node, hnode, _⟩ := hok
      exact ⟨_, node, hnode⟩
  · next ctx msg =>
      cases hsender
      simp only [step, handle, settleSession, bind_eq_ok, ensure_eq_ok, exists_const] at hok
      obtain ⟨_, _, node, hnode, _⟩ := hok
      exact ⟨_, node, hnode⟩
  · next ctx msg =>
      cases hsender
      simp only [step, handle, upsertAggregateRecord, bind_eq_ok, ensure_eq_ok,
        exists_const] at hok
      obtain ⟨_, _, _, _, _, node, hnode, _⟩ := hok
      exact ⟨_, node, hnode⟩
  · cases hsender

/-- The sender of an accepted privileged message is bonded exactly when it earns its waiver. -/
theorem earnsWaiver_iff (hok : step env s input = .ok s') :
    EarnsWaiver s input ↔ ∀ sender ∈ input.privilegedSender, Bonded s sender := by
  constructor
  · intro hearns sender hsender
    obtain ⟨node, hnode, hactive, hbond⟩ := sender_of_step hok hsender
    refine ⟨node, hnode, hactive, ?_⟩
    by_cases hplayer : node.isPlayer = true
    · exact (hearns sender hsender node hnode hplayer).symm
    · rw [requiredBondedTokens_of_not_player (Bool.eq_false_iff.mpr hplayer)] at hbond
      exact .inl hbond
  · intro hbonded sender hsender node hnode _
    obtain ⟨stored, hstored, _, hbond⟩ := hbonded sender hsender
    cases hstored.symm.trans hnode
    exact hbond.symm

end Steps

/-- Along a run from genesis every accepted privileged message comes from a bonded node, or from
one with a batch on chain, if and only if every sender that registered as a player earned it. -/
theorem privileged_senders_bonded_iff (env : Env) (bank : Bank) (genesisUnix : ℤ)
    (inputs : List Input) :
    Meets (next env) (IfAccepted (step env) EarnsWaiver) (defaultGenesis bank genesisUnix) inputs ↔
      ∀ before input after, inputs = before ++ input :: after →
        Accepts (step env) (run (next env) (defaultGenesis bank genesisUnix) before) input →
        ∀ sender ∈ input.privilegedSender,
          Bonded (run (next env) (defaultGenesis bank genesisUnix) before) sender := by
  rw [meets_iff_steps]
  constructor
  · intro hearns before input after heq haccepts
    obtain ⟨s', hok⟩ := accepts_iff.mp haccepts
    exact (earnsWaiver_iff hok).mp (hearns before input after heq haccepts)
  · intro hbonded before input after heq haccepts
    obtain ⟨s', hok⟩ := accepts_iff.mp haccepts
    exact (earnsWaiver_iff hok).mpr (hbonded before input after heq haccepts)

open Sample in
/-- A node that calls itself a player proposes an epoch with no stake and no batch. -/
theorem commitEpoch_unbonded :
    ¬ ∀ (env : Env) (bank : Bank) (genesisUnix : ℤ) (before : List Input) (input : Input),
      Accepts (step env) (run (next env) (defaultGenesis bank genesisUnix) before) input →
      ∀ sender ∈ input.privilegedSender,
        Bonded (run (next env) (defaultGenesis bank genesisUnix) before) sender := by
  intro hbonded
  have haccepts : Accepts (step env) (run (next env) genesis [register alice])
      (propose (emptyCommit 7)) := by decide +kernel
  obtain ⟨node, hnode, _, hbond⟩ :=
    hbonded env bank 0 [register alice] (propose (emptyCommit 7)) haccepts alice rfl
  have hunbonded : ((run (next env) genesis [register alice]).nodes[alice]?.map fun node =>
      decide (minimumBond node ≤ node.bondedTokens)) = some false := by decide +kernel
  have hnobatch : (run (next env) genesis [register alice]).hasBatch alice = false := by
    decide +kernel
  change (run (next env) genesis [register alice]).nodes[alice]? = some node at hnode
  rw [hnode] at hunbonded
  rcases hbond with hbond | hbatch
  · simp [hbond] at hunbonded
  · change (run (next env) genesis [register alice]).hasBatch alice = true at hbatch
    rw [hnobatch] at hbatch
    cases hbatch

end PoleProtocol.Chain
