import PoleProtocol.Ledger.Finality
import PoleProtocol.Node.Settlement

/-!
# What the steps of a settlement do

Each step goes through under a condition on the state it is made in, and then changes one part of
the store, or nothing when it was made before.
-/

namespace PoleProtocol.Node

open Framework Ledger OrderedMap Action

variable {env : Ledger.Env} {identity : KeyPair} {s s' : ProtocolState}

/-! ## Signatures -/

/-- The identity is the signer that the transaction names, and its signature verifies. -/
structure SignsAs (env : Ledger.Env) (identity : KeyPair) (signer : Hash32) (tx : Transaction) :
    Prop where
  signer : stableHash32 identity.publicKey.bytes = signer
  verifies : ∃ payload, env.encode tx.unsigned = some payload ∧
    env.verifySignature identity.publicKey payload (identity.sign payload) = true

theorem ensureSignature_ok {tx : Transaction} {pubkey signer : Hash32} {signature : Bytes}
    {u : Unit} : ensureSignature env tx pubkey signer signature = .ok u ↔
      ∃ message, env.encode tx.unsigned = some message ∧ stableHash32 pubkey.bytes = signer ∧
        env.verifySignature pubkey message signature = true := by
  simp only [ensureSignature, refuseUnless, bind_eq_ok, require_eq_ok, ensure_eq_ok, exists_const]

theorem refusesOnly_refuseUnless {p : TransitionError → Prop} {q : Prop} [Decidable q]
    {error : TransitionError} (h : p error) : (refuseUnless q error).RefusesOnly p :=
  Attempt.refusesOnly_ensure fun _ => h

theorem refusesOnly_found {α : Type} {p : TransitionError → Prop} {x : Option α}
    {error : TransitionError} (h : p error) : (found x error).RefusesOnly p :=
  Attempt.refusesOnly_require fun _ => h

theorem refusesOnly_ensureSignature {p : TransitionError → Prop} (hsigner : p .invalidSigner)
    (hsignature : p .invalidSignature) (tx : Transaction) (pubkey signer : Hash32)
    (signature : Bytes) : (ensureSignature env tx pubkey signer signature).RefusesOnly p := by
  refine Attempt.RefusesOnly.bind ?_ fun _ _ => ?_
  · intro error h
    cases hencoded : env.encode tx.unsigned <;> rw [hencoded] at h <;> cases h
  · exact (refusesOnly_refuseUnless hsigner).bind fun _ _ => refusesOnly_refuseUnless hsignature

theorem refusesOnly_requireActiveNodeWithCapability {p : TransitionError → Prop} {nodeId : NodeId}
    {capability : Capability} (hunknown : p (.unknownNode nodeId))
    (hinactive : p (.nodeNotActive nodeId)) (hmissing : p (.missingCapability nodeId capability)) :
    (s.requireActiveNodeWithCapability nodeId capability).RefusesOnly p := by
  refine Attempt.RefusesOnly.bind ?_ fun node _ => ?_
  · refine (refusesOnly_found hunknown).bind fun node _ => ?_
    exact (refusesOnly_refuseUnless hinactive).bind fun _ _ =>
      (Attempt.willing_pure node).refusesOnly
  · exact (refusesOnly_refuseUnless hmissing).bind fun _ _ =>
      (Attempt.willing_pure node).refusesOnly

/-- The node is registered, active and has the capability. -/
def Capable (s : ProtocolState) (nodeId : NodeId) (capability : Capability) (node : NodeRegistry) :
    Prop :=
  s.store.nodes[nodeId]? = some node ∧ node.status = .active ∧
    capability ∈ node.enabledCapabilities

theorem requireActiveNodeWithCapability_ok {nodeId : NodeId} {capability : Capability}
    {node : NodeRegistry} : s.requireActiveNodeWithCapability nodeId capability = .ok node ↔
      Capable s nodeId capability node := by
  simp only [ProtocolState.requireActiveNodeWithCapability, ProtocolState.requireActiveNode, found,
    refuseUnless, bind_eq_ok, require_eq_ok, ensure_eq_ok, pure_eq_ok, exists_const]
  constructor
  · rintro ⟨_, ⟨_, hnode, hactive, rfl⟩, hcapable, rfl⟩
    exact ⟨hnode, hactive, hcapable⟩
  · rintro ⟨hnode, hactive, hcapable⟩
    exact ⟨node, ⟨node, hnode, hactive, rfl⟩, hcapable, rfl⟩

/-! ## Batches -/

/-- The submission of a batch by the identity. -/
def submission (identity : KeyPair) (batch : BatchCommit) : Transaction :=
  .submitBatch { batchCommit := batch, pubkey := identity.publicKey, signature := [] }

/-- A batch that the ledger accepts, unless it has it. -/
structure Submittable (env : Ledger.Env) (identity : KeyPair) (s : ProtocolState)
    (batch : BatchCommit) : Prop where
  signed : SignsAs env identity batch.collectorId (submission identity batch)
  current : s.currentEpoch ≤ batch.epochId
  named : batch.payloadCid ≠ ""
  observed : batch.obsCount ≠ 0
  ordered : batch.slotStart ≤ batch.slotEnd
  collector : ∃ node, Capable s batch.collectorId .collect node

def batchKey (s : ProtocolState) (batch : BatchCommit) : BatchKey :=
  (batch.epochId, ((s.store.nodes[batch.collectorId]?).map (·.nodeId)).getD batch.collectorId,
    batch.batch.root)

/-- The state with a batch, unless there is one under the key. -/
def withBatch (s : ProtocolState) (batch : BatchCommit) : ProtocolState :=
  if s.store.batches[batchKey s batch]? = none then
    s.insertBatch (batchKey s batch) { batch with submittedAtHeight := s.height }
  else s

theorem submitLocalBatch_ok {batch : BatchCommit} {fresh : Bool} :
    (submitLocalBatch env identity batch).run s = .ok fresh s' ↔
      Submittable env identity s batch ∧
        fresh = decide (s.store.batches[batchKey s batch]? = none) ∧ s' = withBatch s batch := by
  let p : TransitionError → Prop := fun e => isDuplicateBatch e = false
  simp only [submitLocalBatch, applySubmitBatch, signingPayload, lift_bind_ok, require_eq_ok,
    tolerate_lift_bind (refusesOnly_ensureSignature (p := p) rfl rfl _ _ _ _), tolerate_get_bind,
    tolerate_ensure_bind, tolerate_modify, isDuplicateBatch, Bool.false_eq_true, false_and,
    and_false, or_false, true_and,
    tolerate_lift_bind (refusesOnly_requireActiveNodeWithCapability (p := p) rfl rfl rfl),
    ensureEpochNotStale, ensureNonEmptyPayload, ensureSignature_ok, refuseUnless,
    requireActiveNodeWithCapability_ok]
  have hkey : ∀ node, Capable s batch.collectorId .collect node →
      (batch.epochId, node.nodeId, batch.batch.root) = batchKey s batch := by
    rintro node ⟨hnode, _, _⟩
    rw [batchKey, hnode]
    rfl
  constructor
  · rintro ⟨payload, hpayload, _, ⟨message, hmessage, hsigner, hverifies⟩, hcurrent, hnamed,
      hobserved, hordered, node, hcollector, hstored⟩
    cases hpayload.symm.trans hmessage
    refine ⟨⟨⟨hsigner, payload, hpayload, hverifies⟩, hcurrent, hnamed, hobserved, hordered,
      node, hcollector⟩, ?_⟩
    rw [hkey node hcollector] at hstored
    rcases hstored with ⟨habsent, rfl, rfl⟩ | ⟨hpresent, rfl, rfl⟩
    · exact ⟨(decide_eq_true habsent).symm, (if_pos habsent).symm⟩
    · exact ⟨(decide_eq_false hpresent).symm, (if_neg hpresent).symm⟩
  · rintro ⟨⟨⟨hsigner, payload, hpayload, hverifies⟩, hcurrent, hnamed, hobserved, hordered, node,
      hcollector⟩, rfl, rfl⟩
    refine ⟨payload, hpayload, (), ⟨payload, hpayload, hsigner, hverifies⟩, hcurrent, hnamed,
      hobserved, hordered, node, hcollector, ?_⟩
    rw [hkey node hcollector]
    by_cases habsent : s.store.batches[batchKey s batch]? = none
    · exact .inl ⟨habsent, decide_eq_true habsent, if_pos habsent⟩
    · exact .inr ⟨habsent, decide_eq_false habsent, if_neg habsent⟩

/-! ## The commit -/

/-- The commitment of an epoch by the identity. -/
def commitment (identity : KeyPair) (commit : EpochCommit) : Transaction :=
  .commitEpoch { epochCommit := commit, pubkey := identity.publicKey, signature := [] }

/-- A commit that the ledger accepts, unless it has one, where its batches and its window allow. -/
structure Committable (env : Ledger.Env) (identity : KeyPair) (s : ProtocolState)
    (commit : EpochCommit) : Prop where
  signed : SignsAs env identity commit.proposerId (commitment identity commit)
  current : s.currentEpoch ≤ commit.epochId
  proposer : ∃ node, Capable s commit.proposerId .propose node ∧ s.params.minProposeBond ≤ node.bond

/-- The batches and the window that a new commit needs. -/
structure Opens (s : ProtocolState) (commit : EpochCommit) : Prop where
  batch : s.hasAnyBatchForEpoch commit.epochId = true
  ahead : s.height < commit.challengeDeadlineHeight
  window : commit.challengeDeadlineHeight - s.height ≤ s.params.challengeWindowBlocks

theorem applyEpochCommit_ok {commit : EpochCommit} {fresh : Bool} :
    (applyEpochCommit env identity commit).run s = .ok fresh s' ↔
      Committable env identity s commit ∧
        (s.store.epochCommits[commit.epochId]? = none ∧ Opens s commit ∧ fresh = true ∧
            s' = s.insertEpochCommit { commit with challengeOpenHeight := s.height } ∨
          s.store.epochCommits[commit.epochId]? ≠ none ∧ fresh = false ∧ s' = s) := by
  let p : TransitionError → Prop := fun e => isDuplicateEpochCommit e = false
  simp only [applyEpochCommit, applyCommitEpoch, signingPayload, lift_bind_ok, require_eq_ok,
    tolerate_lift_bind (refusesOnly_ensureSignature (p := p) rfl rfl _ _ _ _), tolerate_get_bind,
    tolerate_ensure_bind, tolerate_modify, isDuplicateEpochCommit, Bool.false_eq_true, false_and,
    and_false, or_false, true_and,
    tolerate_lift_bind (refusesOnly_requireActiveNodeWithCapability (p := p) rfl rfl rfl),
    ensureEpochNotStale, ensureBond, ensureSignature_ok, refuseUnless,
    requireActiveNodeWithCapability_ok]
  constructor
  · rintro ⟨payload, hpayload, _, ⟨message, hmessage, hsigner, hverifies⟩, hcurrent, node,
      hproposer, hbond, hstored⟩
    cases hpayload.symm.trans hmessage
    refine ⟨⟨⟨hsigner, payload, hpayload, hverifies⟩, hcurrent, node, hproposer, hbond⟩, ?_⟩
    rcases hstored with ⟨habsent, hbatch, ⟨hahead, hwindow⟩, hfresh, hafter⟩ | hpresent
    · exact .inl ⟨habsent, ⟨hbatch, hahead, hwindow⟩, hfresh, hafter⟩
    · exact .inr hpresent
  · rintro ⟨⟨⟨hsigner, payload, hpayload, hverifies⟩, hcurrent, node, hproposer, hbond⟩, hstored⟩
    refine ⟨payload, hpayload, (), ⟨payload, hpayload, hsigner, hverifies⟩, hcurrent, node,
      hproposer, hbond, ?_⟩
    rcases hstored with ⟨habsent, ⟨hbatch, hahead, hwindow⟩, hfresh, hafter⟩ | hpresent
    · exact .inl ⟨habsent, hbatch, ⟨hahead, hwindow⟩, hfresh, hafter⟩
    · exact .inr hpresent

/-! ## The finalization -/

/-- An expiry is not refused because an epoch is finalized. -/
theorem refusesOnly_advanceEpoch (currentEpoch epochId : ℕ) :
    RefusesOnly (fun e => isEpochAlreadyFinalized e = false)
      (advanceEpoch env currentEpoch epochId) s := by
  let p : TransitionError → Prop := fun e => isEpochAlreadyFinalized e = false
  unfold advanceEpoch
  split
  · refine RefusesOnly.after_lift (willing_add64 _ _).refusesOnly fun next _ => ?_
    refine RefusesOnly.after_modify (RefusesOnly.after_get (RefusesOnly.forM ?_ _))
    intro proposal t
    refine RefusesOnly.bind ?_ fun _ _ _ => ?_
    · refine refusesOnly_update ((refusesOnly_found (p := p) rfl).bind fun account _ => ?_)
      exact (refusesOnly_refuseUnless (p := p) (q := proposal.bondAmount ≤ account.locked) rfl).bind
        fun _ _ => (Attempt.willing_pure _).refusesOnly
    · exact refusesOnly_update (refusesOnly_found (p := p) rfl)
  · exact refusesOnly_pure

theorem finalizeEpoch_tolerated_ok {epochId : ℕ} {fresh : Bool} :
    ((finalizeEpoch env epochId).tolerate isEpochAlreadyFinalized).run s = .ok fresh s' ↔
      s.store.finalizedEpochs[epochId]? ≠ none ∧ fresh = false ∧ s' = s ∨
        Finalizable s epochId ∧ fresh = true ∧
          (advanceEpoch env s.currentEpoch epochId).run (s.markEpochFinalized epochId) =
            .ok () s' := by
  have htail : ((do
      modify (·.markEpochFinalized epochId)
      advanceEpoch env s.currentEpoch epochId
      return TransitionEffect.epochFinalized epochId : Transition TransitionEffect).tolerate
        isEpochAlreadyFinalized).run s = .ok fresh s' ↔
      fresh = true ∧ (advanceEpoch env s.currentEpoch epochId).run (s.markEpochFinalized epochId) =
        .ok () s' := by
    rw [tolerate_of_refusesOnly]
    · simp only [modify_bind, bind_ok, pure_ok]
      constructor
      · rintro ⟨hfresh, _, _, _, hadvance, _, rfl⟩
        exact ⟨hfresh, hadvance⟩
      · rintro ⟨hfresh, hadvance⟩
        exact ⟨hfresh, _, (), s', hadvance, rfl, rfl⟩
    · exact RefusesOnly.after_modify
        ((refusesOnly_advanceEpoch _ _).bind fun _ _ _ => refusesOnly_pure)
  simp only [finalizeEpoch, tolerate_get_bind, tolerate_ensure_bind, tolerate_require_bind,
    refuseUnless, found, htail, isEpochAlreadyFinalized, Bool.false_eq_true, false_and, and_false,
    or_false, true_and]
  constructor
  · rintro (⟨habsent, commit, hcommit, helapsed, hnone, hfresh, hadvance⟩ | hpresent)
    · exact .inr ⟨⟨habsent, ⟨commit, hcommit, helapsed⟩, hnone⟩, hfresh, hadvance⟩
    · exact .inl hpresent
  · rintro (hpresent | ⟨⟨habsent, ⟨commit, hcommit, helapsed⟩, hnone⟩, hfresh, hadvance⟩)
    · exact .inr hpresent
    · exact .inl ⟨habsent, commit, hcommit, helapsed, hnone, hfresh, hadvance⟩

/-! ## The claim -/

/-- The reward that a claim names is stored, and the account of the claimer takes it. -/
structure Payable (env : Ledger.Env) (s : ProtocolState) (tx : ClaimRewardTx)
    (account : AccountState) (balance : ℕ) : Prop where
  reward : ∃ reward, s.store.rewardRecords[(tx.epochId, tx.nodeId)]? = some reward ∧
    reward.netReward = tx.amount
  node : ∃ node, s.store.nodes[tx.nodeId]? = some node ∧ node.rewardAddress = tx.claimer
  stored : s.store.accounts[tx.claimer]? = some account
  credit : env.add128 account.balance tx.amount = .ok balance

/-- What follows once the checks of a claim have passed. -/
private theorem creditClaim_ok {tx : ClaimRewardTx} {fresh : Bool} :
    ((do
      accountMut tx.claimer fun account => do
        return { account with balance := ← env.add128 account.balance tx.amount }
      modify fun s => { s with store := { s.store with
        claimedRewards := s.store.claimedRewards.insert (tx.epochId, tx.nodeId) () } }
      return TransitionEffect.rewardClaimed tx.epochId tx.nodeId tx.claimer tx.amount :
      Transition TransitionEffect).tolerate isRewardAlreadyClaimed).run s = .ok fresh s' ↔
      fresh = true ∧ ∃ account balance, s.store.accounts[tx.claimer]? = some account ∧
        env.add128 account.balance tx.amount = .ok balance ∧
        s' = (s.insertAccount tx.claimer
          { account with balance }).markRewardClaimed (tx.epochId, tx.nodeId) := by
  let p : TransitionError → Prop := fun e => isRewardAlreadyClaimed e = false
  rw [tolerate_of_refusesOnly]
  · simp only [accountMut_bind_ok, bind_eq_ok, pure_eq_ok, modify_bind, pure_ok]
    constructor
    · rintro ⟨hfresh, _, account, _, hget, ⟨balance, hcredit, rfl⟩, _, rfl⟩
      exact ⟨hfresh, account, balance, hget, hcredit, rfl⟩
    · rintro ⟨hfresh, account, balance, hget, hcredit, rfl⟩
      exact ⟨hfresh, _, account, _, hget, ⟨balance, hcredit, rfl⟩, rfl, rfl⟩
  · refine RefusesOnly.bind ?_ fun _ _ _ => RefusesOnly.after_modify refusesOnly_pure
    refine refusesOnly_update ((refusesOnly_found (p := p) rfl).bind fun account _ => ?_)
    exact (willing_credit account tx.amount).refusesOnly

theorem applyClaimReward_tolerated_ok {tx : ClaimRewardTx} {fresh : Bool} :
    ((applyClaimReward env tx).tolerate isRewardAlreadyClaimed).run s = .ok fresh s' ↔
      (∃ message, env.encode (Transaction.claimReward tx).unsigned = some message ∧
          stableHash32 tx.pubkey.bytes = tx.claimer ∧
          env.verifySignature tx.pubkey message tx.signature = true) ∧
        s.store.finalizedEpochs[tx.epochId]? ≠ none ∧
        (s.store.claimedRewards[(tx.epochId, tx.nodeId)]? = none ∧ fresh = true ∧
            (∃ account balance, Payable env s tx account balance ∧
              s' = (s.insertAccount tx.claimer
                { account with balance }).markRewardClaimed (tx.epochId, tx.nodeId)) ∨
          s.store.claimedRewards[(tx.epochId, tx.nodeId)]? ≠ none ∧ fresh = false ∧ s' = s) := by
  let p : TransitionError → Prop := fun e => isRewardAlreadyClaimed e = false
  simp only [applyClaimReward, tolerate_get_bind,
    tolerate_lift_bind (refusesOnly_ensureSignature (p := p) rfl rfl _ _ _ _),
    tolerate_ensure_bind, tolerate_require_bind, refuseUnless, found, isRewardAlreadyClaimed,
    Bool.false_eq_true, false_and, and_false, or_false, true_and, ensureSignature_ok,
    creditClaim_ok]
  constructor
  · rintro ⟨_, hsigned, hfinalized, ⟨hunclaimed, reward, hreward, node, hnode, haddress, hamount,
      hfresh, account, balance, hget, hcredit, hafter⟩ | hclaimed⟩
    · exact ⟨hsigned, hfinalized, .inl ⟨hunclaimed, hfresh, account, balance,
        ⟨⟨reward, hreward, hamount⟩, ⟨node, hnode, haddress⟩, hget, hcredit⟩, hafter⟩⟩
    · exact ⟨hsigned, hfinalized, .inr hclaimed⟩
  · rintro ⟨hsigned, hfinalized, ⟨hunclaimed, hfresh, account, balance,
      ⟨⟨reward, hreward, hamount⟩, ⟨node, hnode, haddress⟩, hget, hcredit⟩, hafter⟩ | hclaimed⟩
    · exact ⟨(), hsigned, hfinalized, .inl ⟨hunclaimed, reward, hreward, node, hnode, haddress,
        hamount, hfresh, account, balance, hget, hcredit, hafter⟩⟩
    · exact ⟨(), hsigned, hfinalized, .inr hclaimed⟩

variable {config : NodeConfig}

/-- The claim of a reward of the node, before it is signed. -/
def localClaim (identity : KeyPair) (config : NodeConfig) (s : ProtocolState)
    (epochId amount : ℕ) : ClaimRewardTx where
  claimer := config.identityAddress
  epochId
  nodeId := config.env.nodeId
  amount
  merkleProof := []
  nonce := (s.store.accounts[config.identityAddress]?.map (·.nonce)).getD 0
  pubkey := identity.publicKey
  signature := []

theorem claimLocalReward_ok {epochId amount : ℕ} {fresh : Bool} :
    (claimLocalReward env identity config epochId amount).run s = .ok fresh s' ↔
      SignsAs env identity config.identityAddress
          (.claimReward (localClaim identity config s epochId amount)) ∧
        s.store.finalizedEpochs[epochId]? ≠ none ∧
        (s.store.claimedRewards[(epochId, config.env.nodeId)]? = none ∧ fresh = true ∧
            (∃ account balance,
              Payable env s (localClaim identity config s epochId amount) account balance ∧
              s' = (s.insertAccount config.identityAddress
                { account with balance }).markRewardClaimed (epochId, config.env.nodeId)) ∨
          s.store.claimedRewards[(epochId, config.env.nodeId)]? ≠ none ∧ fresh = false ∧
            s' = s) := by
  simp only [claimLocalReward, get_bind, signingPayload, lift_bind_ok, require_eq_ok,
    applyClaimReward_tolerated_ok]
  constructor
  · rintro ⟨payload, hpayload, ⟨message, hmessage, hsigner, hverifies⟩, hfinalized, hclaim⟩
    cases hpayload.symm.trans hmessage
    refine ⟨⟨hsigner, payload, hpayload, hverifies⟩, hfinalized, ?_⟩
    rcases hclaim with ⟨hunclaimed, hfresh, account, balance, hpayable, hafter⟩ | hclaimed
    · exact .inl ⟨hunclaimed, hfresh, account, balance,
        ⟨hpayable.reward, hpayable.node, hpayable.stored, hpayable.credit⟩, hafter⟩
    · exact .inr hclaimed
  · rintro ⟨⟨hsigner, payload, hpayload, hverifies⟩, hfinalized, hclaim⟩
    refine ⟨payload, hpayload, ⟨payload, hpayload, hsigner, hverifies⟩, hfinalized, ?_⟩
    rcases hclaim with ⟨hunclaimed, hfresh, account, balance, hpayable, hafter⟩ | hclaimed
    · exact .inl ⟨hunclaimed, hfresh, account, balance,
        ⟨hpayable.reward, hpayable.node, hpayable.stored, hpayable.credit⟩, hafter⟩
    · exact .inr hclaimed

/-! ## The whole settlement -/

/-- The state with the batches of a list. -/
def withBatches (s : ProtocolState) (batchCommits : List BatchCommit) : ProtocolState :=
  batchCommits.foldl withBatch s

theorem withBatch_nodes (s : ProtocolState) (batch : BatchCommit) :
    (withBatch s batch).store.nodes = s.store.nodes := by
  unfold withBatch
  split <;> rfl

theorem withBatch_currentEpoch (s : ProtocolState) (batch : BatchCommit) :
    (withBatch s batch).currentEpoch = s.currentEpoch := by
  unfold withBatch
  split <;> rfl

/-- Whether a batch is accepted depends on the current epoch and on the nodes. -/
theorem Submittable.congr {batch : BatchCommit} (h : Submittable env identity s batch)
    (hcurrent : s'.currentEpoch = s.currentEpoch) (hnodes : s'.store.nodes = s.store.nodes) :
    Submittable env identity s' batch := by
  obtain ⟨node, hcollector⟩ := h.collector
  refine ⟨h.signed, hcurrent ▸ h.current, h.named, h.observed, h.ordered, node, ?_⟩
  rwa [Capable, hnodes]

theorem submitBatches_ok {batchCommits : List BatchCommit} :
    (∃ submissions, (batchCommits.mapM (submitLocalBatch env identity)).run s =
        .ok submissions s') ↔
      (∀ batch ∈ batchCommits, Submittable env identity s batch) ∧
        s' = withBatches s batchCommits := by
  induction batchCommits generalizing s with
  | nil =>
      simp only [List.mapM_nil, pure_ok, List.not_mem_nil, false_imp_iff, implies_true, true_and,
        exists_eq_left']
      rfl
  | cons batch batchCommits ih =>
      simp only [List.mapM_cons, bind_ok, pure_ok, submitLocalBatch_ok, List.forall_mem_cons]
      have hlater : (∀ later ∈ batchCommits, Submittable env identity (withBatch s batch) later) ↔
          ∀ later ∈ batchCommits, Submittable env identity s later := by
        have hcurrent := withBatch_currentEpoch s batch
        have hnodes := withBatch_nodes s batch
        exact forall₂_congr fun later _ =>
          ⟨fun h => h.congr hcurrent.symm hnodes.symm, fun h => h.congr hcurrent hnodes⟩
      constructor
      · rintro ⟨_, _, _, ⟨hfirst, _, rfl⟩, submissions, t, hrest, _, rfl⟩
        obtain ⟨hothers, hafter⟩ := ih.mp ⟨submissions, hrest⟩
        exact ⟨⟨hfirst, hlater.mp hothers⟩, hafter⟩
      · rintro ⟨⟨hfirst, hothers⟩, hafter⟩
        obtain ⟨submissions, hrest⟩ := ih.mpr ⟨hlater.mpr hothers, hafter⟩
        exact ⟨_, _, _, ⟨hfirst, rfl, rfl⟩, submissions, s', hrest, rfl, rfl⟩

/-- A new commit is stored, or the stored one is kept. -/
def CommitStep (commit : EpochCommit) (s s' : ProtocolState) : Prop :=
  s.store.epochCommits[commit.epochId]? = none ∧ Opens s commit ∧
      s' = s.insertEpochCommit { commit with challengeOpenHeight := s.height } ∨
    s.store.epochCommits[commit.epochId]? ≠ none ∧ s' = s

/-- The epoch is finalized, or was before. -/
def FinalizeStep (env : Ledger.Env) (epochId : ℕ) (s s' : ProtocolState) : Prop :=
  s.store.finalizedEpochs[epochId]? ≠ none ∧ s' = s ∨
    Finalizable s epochId ∧
      (advanceEpoch env s.currentEpoch epochId).run (s.markEpochFinalized epochId) = .ok () s'

/-- The reward of the node is claimed, was claimed before, or there is none. -/
def ClaimStep (env : Ledger.Env) (identity : KeyPair) (config : NodeConfig) (epochId amount : ℕ)
    (s s' : ProtocolState) : Prop :=
  amount = 0 ∧ s' = s ∨
    0 < amount ∧
      SignsAs env identity config.identityAddress
        (.claimReward (localClaim identity config s epochId amount)) ∧
      s.store.finalizedEpochs[epochId]? ≠ none ∧
      (s.store.claimedRewards[(epochId, config.env.nodeId)]? = none ∧
          (∃ account balance,
            Payable env s (localClaim identity config s epochId amount) account balance ∧
            s' = (s.insertAccount config.identityAddress
              { account with balance }).markRewardClaimed (epochId, config.env.nodeId)) ∨
        s.store.claimedRewards[(epochId, config.env.nodeId)]? ≠ none ∧ s' = s)

theorem claimAvailableReward_ok {epochId available : ℕ} :
    (∃ claimed, (claimAvailableReward env identity config epochId available).run s =
        .ok claimed s') ↔ ClaimStep env identity config epochId available s s' := by
  unfold claimAvailableReward
  by_cases hpositive : 0 < available
  · rw [if_pos hpositive]
    simp only [bind_ok, claimLocalReward_ok, pure_ok]
    constructor
    · rintro ⟨_, _, _, ⟨hsigned, hfinal, hclaim⟩, _, rfl⟩
      refine .inr ⟨hpositive, hsigned, hfinal, ?_⟩
      rcases hclaim with ⟨hunclaimed, _, hpaid⟩ | ⟨hclaimed, _, hafter⟩
      · exact .inl ⟨hunclaimed, hpaid⟩
      · exact .inr ⟨hclaimed, hafter⟩
    · rintro (⟨hzero, _⟩ | ⟨_, hsigned, hfinal, ⟨hunclaimed, hpaid⟩ | ⟨hclaimed, hafter⟩⟩)
      · exact absurd hzero hpositive.ne'
      · exact ⟨_, true, s', ⟨hsigned, hfinal, .inl ⟨hunclaimed, rfl, hpaid⟩⟩, rfl, rfl⟩
      · exact ⟨_, false, s', ⟨hsigned, hfinal, .inr ⟨hclaimed, rfl, hafter⟩⟩, rfl, rfl⟩
  · rw [if_neg hpositive]
    simp only [pure_ok]
    constructor
    · rintro ⟨_, _, hafter⟩
      exact .inl ⟨Nat.eq_zero_of_not_pos hpositive, hafter⟩
    · rintro (⟨_, hafter⟩ | ⟨hpays, _⟩)
      · exact ⟨none, rfl, hafter⟩
      · exact absurd hpays hpositive

/-- The state with the prepared rewards, at the height of the finalization. -/
def withRewards (preparation : EpochPreparationComputation) (s : ProtocolState) : ProtocolState :=
  { preparation.rewardArtifact.rewards.foldl upsertRewardRecord s with
    height := max (preparation.rewardArtifact.rewards.foldl upsertRewardRecord s).height
      (finalizationHeight preparation.artifact.challengeDeadlineHeight) }

/-- A settlement that goes through, with the states after the commit and the finalization. -/
structure Performed (env : Ledger.Env) (identity : KeyPair) (config : NodeConfig)
    (batchCommits : List BatchCommit) (preparation : EpochPreparationComputation) (epochId : ℕ)
    (s committed finalized s' : ProtocolState) : Prop where
  batches : ∀ batch ∈ batchCommits, Submittable env identity s batch
  committable : Committable env identity (withBatches s batchCommits) preparation.epochCommit
  commit : CommitStep preparation.epochCommit (withBatches s batchCommits) committed
  finalize : FinalizeStep env epochId (withRewards preparation committed) finalized
  claim : ClaimStep env identity config epochId
    (localRewardAvailable config preparation.rewardArtifact) finalized s'

theorem performSettlement_ok {batchCommits : List BatchCommit}
    {preparation : EpochPreparationComputation} {epochId : ℕ} :
    (∃ outcome, (performSettlement env identity config batchCommits preparation epochId).run s =
        .ok outcome s') ↔
      ∃ committed finalized,
        Performed env identity config batchCommits preparation epochId s committed finalized s' := by
  simp only [performSettlement, bind_ok, modify_bind, pure_ok, finalizeEpoch_tolerated_ok]
  constructor
  · rintro ⟨_, submissions, s₁, hbatches, commitApplied, committed, hcommit, epochFinalized,
      finalized, hfinalize, claimed, t, hclaim, _, rfl⟩
    obtain ⟨hsubmittable, rfl⟩ := submitBatches_ok.mp ⟨submissions, hbatches⟩
    obtain ⟨hcommittable, hcommit⟩ := applyEpochCommit_ok.mp hcommit
    refine ⟨committed, finalized, hsubmittable, hcommittable, ?_, ?_,
      claimAvailableReward_ok.mp ⟨claimed, hclaim⟩⟩
    · rcases hcommit with ⟨habsent, hopens, _, hafter⟩ | ⟨hpresent, _, hafter⟩
      · exact .inl ⟨habsent, hopens, hafter⟩
      · exact .inr ⟨hpresent, hafter⟩
    · rcases hfinalize with ⟨hpresent, _, hafter⟩ | ⟨hfinalizable, _, hadvance⟩
      · exact .inl ⟨hpresent, hafter⟩
      · exact .inr ⟨hfinalizable, hadvance⟩
  · rintro ⟨committed, finalized, hsubmittable, hcommittable, hcommit, hfinalize, hclaim⟩
    obtain ⟨submissions, hbatches⟩ := submitBatches_ok.mpr ⟨hsubmittable, rfl⟩
    obtain ⟨claimed, hclaim⟩ := claimAvailableReward_ok.mpr hclaim
    have hcommitted : ∃ fresh, (applyEpochCommit env identity preparation.epochCommit).run
        (withBatches s batchCommits) = .ok fresh committed := by
      rcases hcommit with ⟨habsent, hopens, hafter⟩ | ⟨hpresent, hafter⟩
      · exact ⟨true, applyEpochCommit_ok.mpr ⟨hcommittable, .inl ⟨habsent, hopens, rfl, hafter⟩⟩⟩
      · exact ⟨false, applyEpochCommit_ok.mpr ⟨hcommittable, .inr ⟨hpresent, rfl, hafter⟩⟩⟩
    obtain ⟨commitApplied, hcommitted⟩ := hcommitted
    rcases hfinalize with ⟨hpresent, hafter⟩ | ⟨hfinalizable, hadvance⟩
    · exact ⟨_, submissions, _, hbatches, commitApplied, committed, hcommitted, false, finalized,
        .inl ⟨hpresent, rfl, hafter⟩, claimed, s', hclaim, rfl, rfl⟩
    · exact ⟨_, submissions, _, hbatches, commitApplied, committed, hcommitted, true, finalized,
        .inr ⟨hfinalizable, rfl, hadvance⟩, claimed, s', hclaim, rfl, rfl⟩

/-! ## The files and the state -/

/-- The current epoch that the files say, to a settlement of the given epoch. -/
def LocalChainFiles.storedEpoch (files : LocalChainFiles) (epochId : ℕ) : ℕ :=
  (files.runtime.map (·.currentEpoch)).getD epochId

theorem withStore_ok {params : ProtocolParams} {height currentEpoch : ℕ} {store : InMemoryStore} :
    withStore params height currentEpoch store = .ok s ↔
      params.validate = .ok () ∧ s = { height, currentEpoch, params, store } := by
  unfold withStore
  cases params.validate with
  | ok u =>
      constructor
      · rintro ⟨⟩
        exact ⟨rfl, rfl⟩
      · rintro ⟨_, rfl⟩
        rfl
  | error e =>
      constructor
      · rintro ⟨⟩
      · rintro ⟨⟨⟩, _⟩

/-- The state that a settlement reads from the files, before its own node is in it. -/
def readState (config : NodeConfig) (files : LocalChainFiles)
    (epochId submissionHeight challengeWindowBlocks : ℕ) : ProtocolState where
  height := files.storedHeight submissionHeight
  currentEpoch := max (files.storedEpoch epochId) epochId
  params := localProtocolParams config files.openStore challengeWindowBlocks
  store := files.openStore

/-- The state in which a settlement begins. -/
def startState (config : NodeConfig) (files : LocalChainFiles) (identity : KeyPair)
    (epochId submissionHeight challengeWindowBlocks : ℕ) : ProtocolState :=
  { bootstrapLocalChainState config identity
      (readState config files epochId submissionHeight challengeWindowBlocks) with
    height := submissionHeight }

theorem beginSettlement_ok {files : LocalChainFiles}
    {epochId submissionHeight challengeWindowBlocks : ℕ} :
    beginSettlement config files identity epochId submissionHeight challengeWindowBlocks = .ok s ↔
      files.storedHeight submissionHeight < submissionHeight ∧
        (localProtocolParams config files.openStore challengeWindowBlocks).validate = .ok () ∧
        s = startState config files identity epochId submissionHeight challengeWindowBlocks := by
  have hheight : (files.loadRuntime (submissionHeight - 1) epochId).height =
      files.storedHeight submissionHeight := by
    unfold LocalChainFiles.loadRuntime LocalChainFiles.storedHeight
    cases files.runtime <;> rfl
  have hepoch : (files.loadRuntime (submissionHeight - 1) epochId).currentEpoch =
      files.storedEpoch epochId := by
    unfold LocalChainFiles.loadRuntime LocalChainFiles.storedEpoch
    cases files.runtime <;> rfl
  simp only [beginSettlement, bind_eq_ok, ensure_eq_ok, exists_const, pure_eq_ok, withStore_ok,
    hheight, hepoch]
  constructor
  · rintro ⟨hahead, _, ⟨hvalid, rfl⟩, rfl⟩
    exact ⟨hahead, hvalid, rfl⟩
  · rintro ⟨hahead, hvalid, rfl⟩
    exact ⟨hahead, _, ⟨hvalid, rfl⟩, rfl⟩

/-- The node enters itself and its account, and changes nothing else. -/
theorem bootstrapLocalChainState_eq (config : NodeConfig) (identity : KeyPair)
    (s : ProtocolState) : ∃ nodes accounts,
      bootstrapLocalChainState config identity s =
        { s with store := { s.store with nodes, accounts } } := by
  have hensure : ∀ t : ProtocolState, ∃ accounts, ensureAccountExists t config.identityAddress =
      { t with store := { t.store with accounts } } := by
    intro t
    unfold ensureAccountExists
    split <;> exact ⟨_, rfl⟩
  unfold bootstrapLocalChainState
  dsimp only
  split
  · obtain ⟨accounts, heq⟩ := hensure
      (s.insertNode config.env.nodeId (localNodeRegistry config identity s.params))
    exact ⟨_, accounts, heq⟩
  · obtain ⟨accounts, heq⟩ := hensure s
    exact ⟨_, accounts, heq⟩

theorem withBatches_eq (batchCommits : List BatchCommit) (s : ProtocolState) :
    ∃ batches, withBatches s batchCommits = { s with store := { s.store with batches } } := by
  induction batchCommits generalizing s with
  | nil => exact ⟨_, rfl⟩
  | cons batch batchCommits ih =>
      obtain ⟨batches, hrest⟩ := ih (withBatch s batch)
      refine ⟨batches, hrest.trans ?_⟩
      unfold withBatch
      split <;> rfl

variable {senv : SettlementEnv} {data : LocalData} {files : LocalChainFiles}
  {epochId submissionHeight challengeWindowBlocks : ℕ}

/-- A settlement that goes through, with what it prepares and the states it passes. -/
structure Settles (senv : SettlementEnv) (config : NodeConfig) (data : LocalData)
    (files : LocalChainFiles) (epochId submissionHeight challengeWindowBlocks : ℕ)
    (identity : KeyPair) (preparation : EpochPreparationComputation)
    (committed finalized settled : ProtocolState) : Prop where
  identified : config.env.identityKeypair = some identity
  prepares : computeLocalEpochPreparation senv config files.openStore data epochId submissionHeight
    challengeWindowBlocks = .ok preparation
  ahead : files.storedHeight submissionHeight < submissionHeight
  valid : (localProtocolParams config files.openStore challengeWindowBlocks).validate = .ok ()
  performed : Performed senv.ledger identity config
    ((data.loadBatchesForEpoch epochId).map (·.batchCommit)) preparation epochId
    (startState config files identity epochId submissionHeight challengeWindowBlocks)
    committed finalized settled

/-- The state once the batches are in. -/
def openedState (config : NodeConfig) (data : LocalData) (files : LocalChainFiles)
    (identity : KeyPair) (epochId submissionHeight challengeWindowBlocks : ℕ) : ProtocolState :=
  withBatches (startState config files identity epochId submissionHeight challengeWindowBlocks)
    ((data.loadBatchesForEpoch epochId).map (·.batchCommit))

theorem openedState_eq (config : NodeConfig) (data : LocalData) (files : LocalChainFiles)
    (identity : KeyPair) (epochId submissionHeight challengeWindowBlocks : ℕ) :
    ∃ nodes accounts batches,
      openedState config data files identity epochId submissionHeight challengeWindowBlocks =
        { height := submissionHeight
          currentEpoch := max (files.storedEpoch epochId) epochId
          params := localProtocolParams config files.openStore challengeWindowBlocks
          store := { files.openStore with nodes, accounts, batches } } := by
  obtain ⟨nodes, accounts, hstart⟩ := bootstrapLocalChainState_eq config identity
    (readState config files epochId submissionHeight challengeWindowBlocks)
  obtain ⟨batches, hbatches⟩ := withBatches_eq
    ((data.loadBatchesForEpoch epochId).map (·.batchCommit))
    (startState config files identity epochId submissionHeight challengeWindowBlocks)
  refine ⟨nodes, accounts, batches, hbatches.trans ?_⟩
  rw [startState, hstart]
  rfl

theorem Settles.committable {preparation : EpochPreparationComputation}
    {committed finalized settled : ProtocolState}
    (h : Settles senv config data files epochId submissionHeight challengeWindowBlocks identity
      preparation committed finalized settled) :
    Committable senv.ledger identity
      (openedState config data files identity epochId submissionHeight challengeWindowBlocks)
      preparation.epochCommit := h.performed.committable

theorem Settles.commit {preparation : EpochPreparationComputation}
    {committed finalized settled : ProtocolState}
    (h : Settles senv config data files epochId submissionHeight challengeWindowBlocks identity
      preparation committed finalized settled) :
    CommitStep preparation.epochCommit
      (openedState config data files identity epochId submissionHeight challengeWindowBlocks)
      committed := h.performed.commit

theorem runTransitions_ok {α : Type} {x : Transition α} {result : α × ProtocolState} :
    runTransitions x s = .ok result ↔ x.run s = .ok result.1 result.2 := by
  unfold runTransitions
  rcases x.run s with ⟨a, t⟩ | ⟨e | _, t⟩
  · constructor
    · rintro ⟨⟩
      rfl
    · rintro ⟨⟩
      rfl
  · constructor <;> rintro ⟨⟩
  · constructor <;> rintro ⟨⟩

theorem inPreparation_ok {α : Type} {x : Attempt NodePreparationError α} {a : α} :
    inPreparation x = .ok a ↔ x = .ok a := by
  rcases x with (_ | _) | b
  · constructor <;> rintro ⟨⟩
  · constructor <;> rintro ⟨⟩
  · constructor
    · rintro ⟨⟩
      rfl
    · rintro ⟨⟩
      rfl

theorem settleLocalEpoch_ok {settlement : Settlement}
    (h : settleLocalEpoch senv config data files epochId submissionHeight challengeWindowBlocks =
      .ok settlement) : ∃ identity committed finalized settled,
      Settles senv config data files epochId submissionHeight challengeWindowBlocks identity
        settlement.preparation committed finalized settled ∧
      settlement.runtime = ⟨settled.height, settled.currentEpoch⟩ ∧
      settlement.store = settled.store := by
  simp only [settleLocalEpoch, bind_eq_ok, require_eq_ok, inPreparation_ok, beginSettlement_ok,
    runTransitions_ok, pure_eq_ok] at h
  obtain ⟨identity, hidentity, preparation, hprepares, _, ⟨hahead, hvalid, rfl⟩, ⟨outcome, settled⟩,
    hperforms, rfl⟩ := h
  obtain ⟨committed, finalized, hperformed⟩ := performSettlement_ok.mp ⟨outcome, hperforms⟩
  exact ⟨identity, committed, finalized, settled,
    ⟨hidentity, hprepares, hahead, hvalid, hperformed⟩, rfl, rfl⟩

theorem settleLocalEpoch_of {preparation : EpochPreparationComputation}
    {committed finalized settled : ProtocolState}
    (h : Settles senv config data files epochId submissionHeight challengeWindowBlocks identity
      preparation committed finalized settled) : ∃ settlement,
      settleLocalEpoch senv config data files epochId submissionHeight challengeWindowBlocks =
        .ok settlement ∧
      settlement.runtime = ⟨settled.height, settled.currentEpoch⟩ ∧
      settlement.store = settled.store := by
  obtain ⟨outcome, hperforms⟩ := performSettlement_ok.mpr ⟨committed, finalized, h.performed⟩
  simp only [settleLocalEpoch, bind_eq_ok, require_eq_ok, inPreparation_ok, beginSettlement_ok,
    runTransitions_ok, pure_eq_ok]
  exact ⟨_, ⟨identity, h.identified, preparation, h.prepares, _, ⟨h.ahead, h.valid, rfl⟩,
    ⟨outcome, settled⟩, hperforms, rfl⟩, rfl, rfl⟩

end PoleProtocol.Node
