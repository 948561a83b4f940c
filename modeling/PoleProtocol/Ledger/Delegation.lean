import PoleProtocol.Ledger.Agenda
import PoleProtocol.Ledger.Locks

/-!
# Delegated stake

The stake delegated to an operator is part of its bond, but a slash lowers the bond alone. As long
as every slash leaves the bond as high as the delegations to the operator, all of them can be
unbonded.
-/

namespace PoleProtocol.Ledger

open Framework OrderedMap Action

variable {env : Env} {s s' t : ProtocolState}

namespace ProtocolState

/-- The stake in the delegations under the selected keys. -/
def delegatedWhere (s : ProtocolState) (p : DelegationKey → Prop) [DecidablePred p] : ℕ :=
  OrderedMap.total (fun key record => if p key then record.amount else 0) s.store.delegations

/-- The stake delegated to an operator. -/
def delegatedTo (s : ProtocolState) (operator : NodeId) : ℕ :=
  s.delegatedWhere fun key => key.2 = operator

/-- The bond stored for a node. -/
def bondOf (s : ProtocolState) (nodeId : NodeId) : ℕ := (s.store.nodes[nodeId]?.map (·.bond)).getD 0

/-- Every bond covers the delegations to its node. -/
def DelegationsCovered (s : ProtocolState) : Prop :=
  ∀ operator, s.delegatedTo operator ≤ s.bondOf operator

end ProtocolState

/-! ## Delegated amounts -/

section Amounts

variable {p : DelegationKey → Prop} [DecidablePred p]

theorem delegatedWhere_of_same (h : t.store.delegations = s.store.delegations) :
    t.delegatedWhere p = s.delegatedWhere p := by
  rw [ProtocolState.delegatedWhere, h]
  rfl

/-- What the delegation under a key adds to a sum over the selected ones. -/
theorem selected_delegated (delegator : Address) (operator : NodeId) :
    (s.store.delegations[(delegator, operator)]?.map fun record =>
      if p (delegator, operator) then record.amount else 0).getD 0 =
        if p (delegator, operator) then s.delegated delegator operator else 0 := by
  unfold ProtocolState.delegated
  cases s.store.delegations[(delegator, operator)]? with
  | none => simp
  | some record => rfl

/-- A stake adds to every sum over its key. -/
theorem delegatedWhere_stake (delegator : Address) (operator : NodeId) {amount : ℕ}
    (h : t.store.delegations = s.store.delegations.insert (delegator, operator)
      { delegator, operator, amount := s.delegated delegator operator + amount }) :
    t.delegatedWhere p = s.delegatedWhere p + if p (delegator, operator) then amount else 0 := by
  have hinsert := total_insert_add
    (fun key (record : DelegationRecord) => if p key then record.amount else 0)
    s.store.delegations (delegator, operator)
    { delegator, operator, amount := s.delegated delegator operator + amount }
  rw [selected_delegated, ← h] at hinsert
  change t.delegatedWhere p + _ = s.delegatedWhere p + _ at hinsert
  by_cases hkey : p (delegator, operator)
  · simp only [if_pos hkey] at hinsert ⊢
    omega
  · simp only [if_neg hkey] at hinsert ⊢
    omega

/-- Whether something remains of the delegation or not, every sum over its key loses what is
unbonded. -/
theorem delegatedWhere_reduce {tx : UnbondTx} {existing : DelegationRecord}
    (hdelegations : t.store.delegations = s.store.delegations)
    (hexisting : s.store.delegations[(tx.delegator, tx.operator)]? = some existing)
    (hcovered : tx.amount ≤ existing.amount) :
    (t.reduceDelegation tx (existing.amount - tx.amount)).delegatedWhere p +
        (if p (tx.delegator, tx.operator) then tx.amount else 0) = s.delegatedWhere p := by
  have hamount : s.delegated tx.delegator tx.operator = existing.amount := by
    rw [ProtocolState.delegated, hexisting]
    rfl
  let f : DelegationKey → DelegationRecord → ℕ := fun key record =>
    if p key then record.amount else 0
  have hbefore : total f s.store.delegations = s.delegatedWhere p := rfl
  unfold ProtocolState.reduceDelegation
  by_cases hremaining : existing.amount - tx.amount = 0
  · have herase := total_erase_add f s.store.delegations (tx.delegator, tx.operator)
    have hless : (t.removeDelegation (tx.delegator, tx.operator)).delegatedWhere p =
        total f (s.store.delegations.erase (tx.delegator, tx.operator)) := by
      rw [← hdelegations]
      rfl
    rw [selected_delegated, hamount, ← hless, hbefore] at herase
    rw [if_pos hremaining]
    by_cases hkey : p (tx.delegator, tx.operator)
    · simp only [if_pos hkey] at herase ⊢
      omega
    · simp only [if_neg hkey] at herase ⊢
      omega
  · let rest : DelegationRecord :=
      { delegator := tx.delegator
        operator := tx.operator
        amount := existing.amount - tx.amount }
    have hinsert :=
      total_insert_add f s.store.delegations (rest.delegator, rest.operator) rest
    have hrest : (t.insertDelegation rest).delegatedWhere p =
        total f (s.store.delegations.insert (rest.delegator, rest.operator) rest) := by
      rw [← hdelegations]
      rfl
    rw [selected_delegated, hamount, ← hrest, hbefore] at hinsert
    rw [if_neg hremaining]
    by_cases hkey : p (tx.delegator, tx.operator)
    · simp only [f, rest, if_pos hkey] at hinsert ⊢
      omega
    · simp only [f, rest, if_neg hkey] at hinsert ⊢
      omega

end Amounts

/-! ## Bonds and delegations -/

theorem bondOf_of_get {nodeId : NodeId} {node : NodeRegistry}
    (hget : s.store.nodes[nodeId]? = some node) : s.bondOf nodeId = node.bond := by
  rw [ProtocolState.bondOf, hget]
  rfl

theorem bondOf_insert {nodeId other : NodeId} {node : NodeRegistry}
    (h : t.store.nodes = s.store.nodes.insert nodeId node) :
    t.bondOf other = if nodeId = other then node.bond else s.bondOf other := by
  rw [ProtocolState.bondOf, h, get_insert]
  split <;> rfl

theorem covered_of_same (hdelegations : t.store.delegations = s.store.delegations)
    (hnodes : t.store.nodes = s.store.nodes) : Preserves ProtocolState.DelegationsCovered s t := by
  intro hcovered operator
  have hbond : t.bondOf operator = s.bondOf operator := by
    rw [ProtocolState.bondOf, hnodes]
    rfl
  rw [hbond, ProtocolState.delegatedTo, delegatedWhere_of_same hdelegations]
  exact hcovered operator

/-- Where one bond changes, only the delegations to its node have to be looked at. -/
theorem covered_insertNode {operator : NodeId} {node node' : NodeRegistry}
    (hget : s.store.nodes[operator]? = some node)
    (hnodes : t.store.nodes = s.store.nodes.insert operator node')
    (hself : s.delegatedTo operator ≤ node.bond → t.delegatedTo operator ≤ node'.bond)
    (hothers : ∀ other, operator ≠ other → t.delegatedTo other = s.delegatedTo other) :
    Preserves ProtocolState.DelegationsCovered s t := by
  intro hcovered other
  have hbefore := hcovered other
  rw [bondOf_insert hnodes]
  split
  · next hsame =>
      subst hsame
      rw [bondOf_of_get hget] at hbefore
      exact hself hbefore
  · next hother =>
      rw [hothers other hother]
      exact hbefore

theorem covered_stake {tx : StakeTx} {node : NodeRegistry} {delegator' : AccountState}
    {bond amount : ℕ} (hwide : env.wide = .panic) (hnode : s.store.nodes[tx.operator]? = some node)
    (hbond : env.add128 node.bond tx.amount = .ok bond)
    (hdelegated : env.add128 (s.delegated tx.delegator tx.operator) tx.amount = .ok amount) :
    Preserves ProtocolState.DelegationsCovered s
      (((s.insertAccount tx.delegator delegator').insertNode tx.operator
        { node with bond }).insertDelegation
          { delegator := tx.delegator, operator := tx.operator, amount }) := by
  obtain rfl := add128_exact hwide hbond
  obtain rfl := add128_exact hwide hdelegated
  have hstaked : ∀ other, (((s.insertAccount tx.delegator delegator').insertNode tx.operator
      { node with bond := node.bond + tx.amount }).insertDelegation
        { delegator := tx.delegator, operator := tx.operator
          amount := s.delegated tx.delegator tx.operator + tx.amount }).delegatedTo other =
      s.delegatedTo other + if tx.operator = other then tx.amount else 0 :=
    fun other => delegatedWhere_stake (p := fun key => key.2 = other) tx.delegator tx.operator rfl
  refine covered_insertNode hnode rfl (fun hbefore => ?_) fun other hother => ?_
  · rw [hstaked, if_pos rfl]
    dsimp only
    omega
  · rw [hstaked, if_neg hother]
    rfl

theorem covered_unbond {tx : UnbondTx} {node : NodeRegistry} {delegator' : AccountState}
    {existing : DelegationRecord} {request : UnbondingRecord}
    (hexisting : s.store.delegations[(tx.delegator, tx.operator)]? = some existing)
    (hcovered : tx.amount ≤ existing.amount) (hnode : s.store.nodes[tx.operator]? = some node)
    (hbond : tx.amount ≤ node.bond) :
    Preserves ProtocolState.DelegationsCovered s
      ((((s.insertAccount tx.delegator delegator').insertNode tx.operator
        { node with bond := node.bond - tx.amount }).reduceDelegation tx
          (existing.amount - tx.amount)).queueUnbonding request) := by
  have hreduced : ∀ other, ((((s.insertAccount tx.delegator delegator').insertNode tx.operator
      { node with bond := node.bond - tx.amount }).reduceDelegation tx
        (existing.amount - tx.amount)).queueUnbonding request).delegatedTo other +
      (if tx.operator = other then tx.amount else 0) = s.delegatedTo other :=
    fun other => delegatedWhere_reduce (p := fun key => key.2 = other) rfl hexisting hcovered
  have hnodes : ((((s.insertAccount tx.delegator delegator').insertNode tx.operator
      { node with bond := node.bond - tx.amount }).reduceDelegation tx
        (existing.amount - tx.amount)).queueUnbonding request).store.nodes =
      s.store.nodes.insert tx.operator { node with bond := node.bond - tx.amount } := by
    unfold ProtocolState.reduceDelegation
    split <;> rfl
  refine covered_insertNode hnode hnodes (fun hbefore => ?_) fun other hother => ?_
  · have hself := hreduced tx.operator
    rw [if_pos rfl] at hself
    dsimp only
    omega
  · have hsame := hreduced other
    rw [if_neg hother] at hsame
    exact hsame

theorem covered_scheduling {proposalId : Hash32} (h : Scheduling env proposalId s t) :
    Preserves ProtocolState.DelegationsCovered s t := by
  cases h with
  | none => exact Std.Refl.refl s
  | full => exact covered_of_same rfl rfl

theorem covered_applied (hwide : env.wide = .panic) {tx : Transaction} (h : Applied env tx s t) :
    Preserves ProtocolState.DelegationsCovered s t := by
  cases h with
  | stake _ hnode _ _ hbond hdelegated => exact covered_stake hwide hnode hbond hdelegated
  | unbond _ hexisting hcovered _ _ hnode hbond _ =>
      exact covered_unbond hexisting hcovered hnode hbond
  | @vote _ _ tx voter voter' _ _ _ hscheduling =>
      have hvoted : Preserves ProtocolState.DelegationsCovered s
          ((s.insertAccount tx.voter voter').insertVote tx) := covered_of_same rfl rfl
      exact IsTrans.trans _ _ _ hvoted (covered_scheduling hscheduling)
  | transfer | submitBatch | commitEpoch | openChallenge | challengeResponse | claimReward
    | proposeProtocolParamsUpdate => exact covered_of_same rfl rfl

theorem covered_stranded {tx : Transaction} (h : Stranded env tx s t) :
    Preserves ProtocolState.DelegationsCovered s t := by
  cases h <;> exact covered_of_same rfl rfl

/-! ## Resolutions -/

/-- The resolution decides for the challenger, with the kind of the challenge and a reward that the
slash pays. -/
structure Challenge.UpheldBy (challenge : Challenge) (resolution : ChallengeResolution) : Prop where
  kind : resolution.kind = some challenge.kind
  reward : resolution.amounts.2 ≤ resolution.amounts.1

/-- What a stake or a slash changes besides accounts. -/
def ProtocolState.stakes (s : ProtocolState) :
    OrderedMap DelegationKey DelegationRecord × OrderedMap NodeId NodeRegistry :=
  (s.store.delegations, s.store.nodes)

theorem stakes_rejectChallenge (challenge : Challenge) :
    Keeps (SameField ProtocolState.stakes) (rejectChallenge challenge) := by
  refine Keeps.bind (keeps_update fun _ _ _ => rfl) fun _ => ?_
  exact Keeps.bind (keeps_modify fun _ => rfl) fun _ => keeps_pure _

theorem stakes_payOut (challenge : Challenge) (resolution : ChallengeResolution)
    (details : ChallengeResolutionDetails) :
    Keeps (SameField ProtocolState.stakes) (challenge.payOut env resolution details) := by
  refine Keeps.bind (keeps_update fun _ _ _ => rfl) fun _ => ?_
  exact Keeps.bind (keeps_modify fun _ => rfl) fun _ => keeps_pure _

/-- A resolution slashes at most the target of the challenge, and then passed the checks. -/
theorem resolve_slashes {challengeId : Hash32} {resolution : ChallengeResolution}
    (h : Returns (resolveChallenge env challengeId resolution) s s') :
    s'.store.delegations = s.store.delegations ∧
    (s'.store.nodes = s.store.nodes ∨ ∃ challenge target node node',
      s.store.openChallenges[challengeId]? = some challenge ∧ challenge.UpheldBy resolution ∧
      challenge.targetNode = some target ∧ s.store.nodes[target]? = some node ∧
      resolution.slash env node = .ok node' ∧ s'.store.nodes = s.store.nodes.insert target node') := by
  rw [resolveChallenge, returns_get_bind] at h
  rcases h.lift_bind with ⟨rfl, _⟩ | ⟨challenge, hfound, h⟩
  · exact ⟨rfl, .inl rfl⟩
  rw [returns_modify_bind] at h
  split at h
  · have hsame := (stakes_rejectChallenge challenge).of_returns h
    exact ⟨congrArg Prod.fst hsame, .inl (congrArg Prod.snd hsame)⟩
  · next hupheld =>
      rw [upholdChallenge_eq] at h
      rcases h.lift_bind with ⟨rfl, _⟩ | ⟨details, hdetails, h⟩
      · exact ⟨rfl, .inl rfl⟩
      rcases h.lift_bind with ⟨rfl, _⟩ | ⟨_, hreward, h⟩
      · exact ⟨rfl, .inl rfl⟩
      rcases h.lift_bind with ⟨rfl, _⟩ | ⟨target, htarget, h⟩
      · exact ⟨rfl, .inl rfl⟩
      rcases h.bind with ⟨error, hrefused⟩ | ⟨_, t, hslashed, h⟩
      · obtain ⟨_, rfl⟩ := update_error.mp hrefused
        exact ⟨rfl, .inl rfl⟩
      · obtain ⟨node, node', hnode, hslash, rfl⟩ := nodeMut_ok.mp hslashed
        have hsame := (stakes_payOut challenge resolution details).of_returns h
        have hupholds : challenge.UpheldBy resolution :=
          ⟨(resolutionDetails_ok _ hupheld).mp ⟨details, hdetails⟩, ensure_eq_ok.mp hreward⟩
        exact ⟨congrArg Prod.fst hsame, .inr ⟨challenge, target, node, node',
          require_eq_ok.mp hfound, hupholds, require_eq_ok.mp htarget, hnode, hslash,
          congrArg Prod.snd hsame⟩⟩

/-- No bond is slashed below the delegations to its node. -/
def SparesDelegations (s : ProtocolState) : Operation → Prop
  | .other (.resolveChallenge challengeId resolution) =>
      ∀ challenge target node, s.store.openChallenges[challengeId]? = some challenge →
        challenge.UpheldBy resolution → challenge.targetNode = some target →
        s.store.nodes[target]? = some node → resolution.amounts.1 ≤ node.bond →
        s.delegatedTo target + resolution.amounts.1 ≤ node.bond
  | _ => True

theorem covered_resolve {challengeId : Hash32} {resolution : ChallengeResolution}
    (hspares : SparesDelegations s (.other (.resolveChallenge challengeId resolution)))
    (h : Returns (resolveChallenge env challengeId resolution) s s') :
    Preserves ProtocolState.DelegationsCovered s s' := by
  obtain ⟨hdelegations, hnodes | ⟨challenge, target, node, node', hopen, hupheld, htarget, hnode,
    hslash, hnodes⟩⟩ := resolve_slashes h
  · exact covered_of_same hdelegations hnodes
  · obtain ⟨hbond, faults, _, rfl⟩ := slash_ok.mp hslash
    have hspared := hspares challenge target node hopen hupheld htarget hnode hbond
    have hsame : ∀ other, s'.delegatedTo other = s.delegatedTo other :=
      fun other => delegatedWhere_of_same hdelegations
    refine covered_insertNode hnode hnodes (fun _ => ?_) fun other _ => hsame other
    rw [hsame]
    dsimp only
    omega

/-! ## Runs -/

theorem covered_step (hwide : env.wide = .panic) {op : Operation}
    (hspares : SparesDelegations s op) :
    Preserves ProtocolState.DelegationsCovered s (op.step env s) := by
  refine step_related ?_ ?_ ?_ ?_ ?_ ?_
  · exact fun _ _ _ => covered_of_same rfl rfl
  · exact fun _ _ => mature_returns (fun _ => covered_of_same rfl rfl)
      fun _ _ _ _ _ _ => covered_of_same rfl rfl
  · exact fun _ _ _ _ => apply_returns (fun _ _ => covered_applied hwide) fun _ _ => covered_stranded
  · rintro challengeId resolution rfl t hresolve
    exact covered_resolve hspares hresolve
  · intro epochId _ t hfinalize
    refine finalize_related ?_ ?_ ?_ ?_ ?_ hfinalize
    · exact fun _ => covered_of_same rfl rfl
    · exact fun _ _ => covered_of_same rfl rfl
    · exact fun _ _ _ => covered_of_same rfl rfl
    · exact fun _ _ _ _ _ => covered_of_same rfl rfl
    · exact fun _ _ _ _ _ _ => covered_of_same rfl rfl
  · exact fun _ _ _ _ _ => covered_of_same rfl rfl

/-- The call was refused for want of a bond. -/
def TransitionError.isInsufficientBond : TransitionError → Bool
  | .insufficientBond .. => true
  | _ => false

/-- Bonds cover delegations, and no unbonding finds its operator's bond too small. -/
structure ProtocolState.Redeemable (env : Env) (s : ProtocolState) : Prop where
  covered : s.DelegationsCovered
  unbonds : ∀ tx error t, (applyUnbond env tx).run s = .error (.refused error) t →
    error.isInsufficientBond = false

theorem delegated_le_delegatedTo {tx : UnbondTx} {existing : DelegationRecord}
    (hexisting : s.store.delegations[(tx.delegator, tx.operator)]? = some existing) :
    existing.amount ≤ s.delegatedTo tx.operator := by
  have hpart := le_total (fun (key : DelegationKey) (record : DelegationRecord) =>
    if key.2 = tx.operator then record.amount else 0) hexisting
  rwa [if_pos rfl] at hpart

theorem ensureSignature_refusesOnly (tx : Transaction) (pubkey expectedSigner : Hash32)
    (signature : Bytes) : (ensureSignature env tx pubkey expectedSigner signature).RefusesOnly
      fun error => error.isInsufficientBond = false := by
  refine Attempt.RefusesOnly.bind (fun _ hpanic => ?_) fun _ _ => ?_
  · cases (require_eq_error.mp hpanic).2
  · refine Attempt.RefusesOnly.bind (Attempt.refusesOnly_ensure fun _ => rfl) fun _ _ => ?_
    exact Attempt.refusesOnly_ensure fun _ => rfl

theorem lock_refusesOnly {tx : UnbondTx} (delegator : AccountState) :
    (tx.lock env delegator).RefusesOnly fun error => error.isInsufficientBond = false := by
  refine Attempt.RefusesOnly.bind (Attempt.refusesOnly_ensure fun _ => rfl) fun _ _ => ?_
  refine Attempt.RefusesOnly.bind (Attempt.refusesOnly_ensure fun _ => rfl) fun _ _ => ?_
  refine Attempt.RefusesOnly.bind (willing_add128 _ _).refusesOnly fun _ _ => ?_
  refine Attempt.RefusesOnly.bind (willing_add64 _ _).refusesOnly fun _ _ => ?_
  exact (Attempt.willing_pure _).refusesOnly

theorem unbond_refusesOnly (h : s.DelegationsCovered) (tx : UnbondTx) :
    RefusesOnly (fun error => error.isInsufficientBond = false) (applyUnbond env tx) s := by
  refine .after_lift (ensureSignature_refusesOnly _ _ _ _) fun _ _ => ?_
  refine .after_lift (Attempt.refusesOnly_ensure fun _ => rfl) fun _ _ => .after_get ?_
  refine .after_lift (Attempt.refusesOnly_require fun _ => rfl) fun existing hfound => ?_
  refine .after_lift (Attempt.refusesOnly_ensure fun _ => rfl) fun _ hcheck => ?_
  refine .bind (refusesOnly_update ?_) fun _ t hlocked => ?_
  · exact Attempt.RefusesOnly.bind (Attempt.refusesOnly_require fun _ => rfl) fun account _ =>
      lock_refusesOnly account
  obtain ⟨delegator, delegator', _, _, rfl⟩ := accountMut_ok.mp hlocked
  refine .bind (refusesOnly_update ?_) fun _ _ _ => .after_modify ?_
  · refine Attempt.RefusesOnly.bind (Attempt.refusesOnly_require fun _ => rfl) fun node hnode => ?_
    refine Attempt.RefusesOnly.bind (Attempt.refusesOnly_ensure fun hshort => ?_) fun _ _ =>
      (Attempt.willing_pure _).refusesOnly
    -- the amount is part of the delegation, and the bond covers that
    have hpart := delegated_le_delegatedTo (require_eq_ok.mp hfound)
    have hcovered := h tx.operator
    have hget : s.store.nodes[tx.operator]? = some node := require_eq_ok.mp hnode
    rw [bondOf_of_get hget] at hcovered
    have hamount := ensure_eq_ok.mp hcheck
    omega
  · exact .after_lift (willing_add64 _ _).refusesOnly fun _ _ => .after_modify refusesOnly_pure

theorem ProtocolState.DelegationsCovered.redeemable (h : s.DelegationsCovered) :
    s.Redeemable env :=
  ⟨h, fun tx => unbond_refusesOnly h tx⟩

/-- From a state without delegations, every bond covers the delegations to its node, and no
unbonding is refused for want of a bond, as long as no slash takes what is delegated. -/
theorem delegations_stay_redeemable (env : Env) (s : ProtocolState) (ops : List Operation)
    (hfresh : s.store.delegations = ∅)
    (hmeets : Meets (Operation.step env) (fun t op => op.Exact env t ∧ SparesDelegations t op) s
      ops) : (run (Operation.step env) s ops).Redeemable env := by
  have hstart : s.DelegationsCovered := by
    intro operator
    rw [ProtocolState.delegatedTo, ProtocolState.delegatedWhere, hfresh, total_empty]
    exact Nat.zero_le _
  have hcovered : (run (Operation.step env) s ops).DelegationsCovered := by
    refine run_invariant ?_ hmeets hstart
    rintro t op ⟨hexact, hspares⟩ hbefore
    rw [step_checked hexact]
    exact covered_step rfl hspares hbefore
  exact hcovered.redeemable

namespace Sample

/-- Alice stakes five coins on node five. -/
def stake : StakeTx where
  delegator := alice
  operator := 5
  amount := 5
  nonce := 0
  pubkey := aliceKey
  signature := bigEndian 64 0xa2b1a1c402ce144b82d86fe0914483d4960dcaaa63875cea966da8730e9b961ace3f85627f93dcfa2c73084354630fc9ee071097b48f7d3ec50361ddf8530c01

/-- Alice unbonds all of them. -/
def unbond : UnbondTx where
  delegator := alice
  operator := 5
  amount := 5
  nonce := 1
  pubkey := aliceKey
  signature := bigEndian 64 0xf4f22bed84930693c9d977d04e6f0ed06ff49718918e05a9df9b362933a07ccb4258bf3924d70c3adb6909b470da727b937b9f980f31be416eadb5c048a91f05

def stakingEnv : Env :=
  signedEnv [(aliceKey, stake.signature, .stake stake), (aliceKey, unbond.signature, .unbond unbond)]
    .panic

/-- Node five, with a bond of its own. -/
def operator (bond : ℕ) : NodeRegistry where
  nodeId := 5
  pubkey := []
  rewardAddress := bob
  bond
  status := .active
  enabledCapabilities := []
  reputation :=
    { scorePpm := 0
      successfulChallenges := 0
      failedChallenges := 0
      challengeableFaults := 0
      collectionSuccesses := 0
      collectionFailures := 0
      storageProofsPassed := 0
      storageProofsFailed := 0
      lastUpdatedEpoch := 0 }
  joinedAtHeight := 0

/-- Bob's challenge of node five. -/
def accusation : Challenge where
  challengeId
  kind := .badBatch
  epochId := 7
  targetNode := some 5
  challenger := bob
  bond := 2
  openedAtHeight := 1
  deadlineHeight := 20
  state := .open
  evidence := {}

/-- Alice with ten coins, and node five with a bond of three and a challenge against it. -/
def stakeable : ProtocolState where
  height := 1
  currentEpoch := 0
  params := defaultProtocolParams
  store :=
    { accounts := ((∅ : OrderedMap Address AccountState).insert alice (account alice 10)).insert bob
        { account bob 0 with locked := 2 }
      nodes := (∅ : OrderedMap NodeId NodeRegistry).insert 5 (operator 3)
      openChallenges := (∅ : OrderedMap Hash32 Challenge).insert challengeId accusation }

/-- Alice stakes, and then node five is slashed. -/
def slashed (slashAmount : ℕ) : List Operation :=
  [.executeBlock ⟨2, [.stake stake]⟩,
    .other (.resolveChallenge challengeId (.badBatch slashAmount 0 none))]

end Sample

/-- A slash of what node five has bonded itself leaves Alice's stake redeemable. -/
theorem delegations_stay_redeemable_slash :
    (run (Operation.step Sample.stakingEnv) Sample.stakeable (Sample.slashed 3)).Redeemable
      Sample.stakingEnv := by
  refine delegations_stay_redeemable Sample.stakingEnv Sample.stakeable _ rfl
    ⟨⟨.inl rfl, trivial⟩, ⟨.inl rfl, ?_⟩, trivial⟩
  intro challenge target node hopen _ htarget hnode _
  have hstored : (Operation.step Sample.stakingEnv Sample.stakeable
      (.executeBlock ⟨2, [.stake Sample.stake]⟩)).store.openChallenges[Sample.challengeId]? =
        some Sample.accusation := by decide +kernel
  cases hstored.symm.trans hopen
  cases htarget
  have hbonded : (Operation.step Sample.stakingEnv Sample.stakeable
      (.executeBlock ⟨2, [.stake Sample.stake]⟩)).store.nodes[(5 : NodeId)]? =
        some (Sample.operator 8) := by decide +kernel
  cases hbonded.symm.trans hnode
  decide +kernel

/-- A slash of one coin more leaves the bond below the stake, and the unbonding is refused. -/
theorem slashed_delegation_stranded :
    ¬ (run (Operation.step Sample.stakingEnv) Sample.stakeable (Sample.slashed 4)).Redeemable
      Sample.stakingEnv := by
  intro h
  have hrefused : (applyUnbond Sample.stakingEnv Sample.unbond).stopped
      (run (Operation.step Sample.stakingEnv) Sample.stakeable (Sample.slashed 4)) =
        some (.refused (.insufficientBond 5 5 4)) := by decide +kernel
  cases h.unbonds Sample.unbond _ _ (error_of_stopped hrefused)

end PoleProtocol.Ledger
