import PoleProtocol.Chain.Finality
import PoleProtocol.Framework.Listings

/-!
# Upserted aggregates

While the commit of an epoch is open, every upsert of an aggregate leaves it with the aggregates
commitment and the network weight of the stored records. What a sequence of upserts leaves depends
on the records alone, so upserts for distinct applications may come in any order.
-/

namespace PoleProtocol.Chain

open Framework OrderedMap

def aggregateKey (record : AggregateRecord) : ℕ × ℕ := (record.epochId, record.appId)

/-- The records that a list of upserts supplies. -/
def upsertedRecords (msgs : List MsgUpsertAggregateRecord) : List AggregateRecord :=
  msgs.filterMap (·.aggregateRecord)

namespace KeeperState

/-- Handle one upsert after the other. -/
def upsertAll (env : Env) (s : KeeperState) (msgs : List MsgUpsertAggregateRecord) :
    Except ChainError KeeperState :=
  msgs.foldlM (upsertAggregateRecord env) s

/-- The commit with the aggregates and the weight that the stored records have. -/
def trackedCommit (env : Env) (s : KeeperState) (epochId : ℕ) (commit : EpochCommit) :
    EpochCommit :=
  { commit with
    aggregates := some (merkleRootHexForRecords env.sha256 (s.aggregateRecordsForEpoch epochId))
    totalNetworkWeightUnits := totalWeightUnits (s.aggregateRecordsForEpoch epochId) }

def storeAggregates (s : KeeperState) (records : List AggregateRecord) : KeeperState :=
  { s with aggregateRecords := storeAll aggregateKey s.aggregateRecords records }

/-- The state with the records stored and the open commit of the epoch tracking them. -/
def withAggregates (env : Env) (s : KeeperState) (epochId : ℕ) (commit : EpochCommit)
    (records : List AggregateRecord) : KeeperState :=
  { s.storeAggregates records with
    epochCommits := s.epochCommits.insert epochId
      ((s.storeAggregates records).trackedCommit env epochId commit) }

/-- What an upsert asks for before it writes. -/
def AllowsUpsert (env : Env) (s : KeeperState) (msg : MsgUpsertAggregateRecord) : Prop :=
  msg.aggregateRecord ≠ none ∧ msg.operator ≠ "" ∧
    (∃ address, env.accAddressFromBech32 msg.operator = .ok address) ∧
    ∃ node, s.requireNodeCapability msg.operator .verify = .ok node

section Upserts

variable {env : Env} {s s' : KeeperState} {epochId : ℕ} {commit : EpochCommit}
  {msg : MsgUpsertAggregateRecord} {record : AggregateRecord}

theorem upsertAggregateRecord_ok_iff (hrecord : msg.aggregateRecord = some record) :
    s.upsertAggregateRecord env msg = .ok s' ↔ s.AllowsUpsert env msg ∧
      s' = (s.setAggregateRecord record).refreshAggregatesCommitment env record.epochId := by
  simp only [upsertAggregateRecord, AllowsUpsert, hrecord, require, ok_bind, bind_eq_ok,
    ensure_eq_ok, exists_const, addressOk_eq_ok, pure_eq_ok, ne_eq, reduceCtorEq,
    not_false_eq_true, true_and]
  constructor
  · rintro ⟨hoperator, address, haddress, node, hnode, rfl⟩
    exact ⟨⟨hoperator, ⟨address, haddress⟩, node, hnode⟩, rfl⟩
  · rintro ⟨⟨hoperator, ⟨address, haddress⟩, node, hnode⟩, rfl⟩
    exact ⟨hoperator, address, haddress, node, hnode, rfl⟩

theorem setEpochCommit_of_key (s : KeeperState) (hkey : commit.epochId = epochId) :
    s.setEpochCommit commit = { s with epochCommits := s.epochCommits.insert epochId commit } := by
  rw [setEpochCommit, hkey]

/-- Over an open commit, one upsert stores its record and the commit that tracks it. -/
theorem refresh_setAggregateRecord (hcommit : s.epochCommits[record.epochId]? = some commit)
    (hkey : commit.epochId = record.epochId) (hopen : commit.finalized = false) :
    (s.setAggregateRecord record).refreshAggregatesCommitment env record.epochId =
      s.withAggregates env record.epochId commit [record] := by
  have hfound : (s.setAggregateRecord record).epochCommits[record.epochId]? = some commit := hcommit
  unfold refreshAggregatesCommitment
  rw [hfound]
  dsimp only
  rw [if_neg (by rw [hopen]; exact Bool.false_ne_true)]
  have htracked : ((s.setAggregateRecord record).trackedCommit env record.epochId commit).epochId =
      record.epochId := hkey
  exact setEpochCommit_of_key (s.setAggregateRecord record) htracked

@[simp] theorem withAggregates_commit (records : List AggregateRecord) :
    (s.withAggregates env epochId commit records).epochCommits[epochId]? =
      some ((s.storeAggregates records).trackedCommit env epochId commit) :=
  get_insert_self _ _ _

/-- Storing one more record on top of tracked ones. -/
theorem withAggregates_concat (records : List AggregateRecord) :
    (s.withAggregates env epochId commit records).withAggregates env epochId
        ((s.storeAggregates records).trackedCommit env epochId commit) [record] =
      s.withAggregates env epochId commit (records ++ [record]) := by
  have hrecords :
      storeAll aggregateKey (storeAll aggregateKey s.aggregateRecords records) [record] =
        storeAll aggregateKey s.aggregateRecords (records ++ [record]) :=
    (storeAll_concat aggregateKey s.aggregateRecords records record).symm
  unfold withAggregates storeAggregates trackedCommit
  dsimp only
  rw [insert_insert_self, hrecords]
  unfold aggregateRecordsForEpoch
  dsimp only

/-- The state after a list of upserts. -/
def afterUpserts (env : Env) (s : KeeperState) (epochId : ℕ) (commit : EpochCommit)
    (records : List AggregateRecord) : KeeperState :=
  if records = [] then s else s.withAggregates env epochId commit records

theorem afterUpserts_nodes (records : List AggregateRecord) :
    (s.afterUpserts env epochId commit records).nodes = s.nodes := by
  unfold afterUpserts
  split <;> rfl

/-- What an upsert asks for does not depend on the upserts before it. -/
theorem allowsUpsert_afterUpserts (records : List AggregateRecord) :
    (s.afterUpserts env epochId commit records).AllowsUpsert env msg ↔ s.AllowsUpsert env msg := by
  have hnode : (s.afterUpserts env epochId commit records).requireNodeCapability msg.operator
      .verify = s.requireNodeCapability msg.operator .verify := by
    unfold requireNodeCapability getNode
    rw [afterUpserts_nodes]
  unfold AllowsUpsert
  rw [hnode]

theorem afterUpserts_concat (env : Env)
    (hcommit : s.epochCommits[record.epochId]? = some commit)
    (hkey : commit.epochId = record.epochId) (hopen : commit.finalized = false)
    (records : List AggregateRecord) :
    ((s.afterUpserts env record.epochId commit records).setAggregateRecord
        record).refreshAggregatesCommitment env record.epochId =
      s.afterUpserts env record.epochId commit (records ++ [record]) := by
  have hsome : records ++ [record] ≠ [] := List.concat_ne_nil _ _
  rw [afterUpserts, afterUpserts, if_neg hsome]
  split
  · next hnone =>
      rw [hnone]
      exact refresh_setAggregateRecord hcommit hkey hopen
  · rw [refresh_setAggregateRecord (withAggregates_commit records) hkey hopen]
    exact withAggregates_concat records

variable (hcommit : s.epochCommits[epochId]? = some commit) (hkey : commit.epochId = epochId)
  (hopen : commit.finalized = false) {msgs : List MsgUpsertAggregateRecord}
  (hepoch : ∀ record ∈ upsertedRecords msgs, record.epochId = epochId)

include hcommit hkey hopen hepoch

/-- A list of upserts succeeds when each of them is allowed at the start, and leaves the records and
the commit that tracks them. -/
theorem upsertAll_ok_iff : s.upsertAll env msgs = .ok s' ↔
    (∀ msg ∈ msgs, s.AllowsUpsert env msg) ∧
      s' = s.afterUpserts env epochId commit (upsertedRecords msgs) := by
  induction msgs using List.reverseRecOn generalizing s' with
  | nil =>
      change Except.ok s = Except.ok s' ↔ _
      simp [afterUpserts, upsertedRecords, eq_comm]
  | append_singleton msgs msg ih =>
      have hrecords : upsertedRecords (msgs ++ [msg]) =
          upsertedRecords msgs ++ upsertedRecords [msg] := List.filterMap_append
      have hbefore : ∀ record ∈ upsertedRecords msgs, record.epochId = epochId := by
        intro record hmem
        refine hepoch record ?_
        rw [hrecords]
        exact List.mem_append_left _ hmem
      have hfold : s.upsertAll env (msgs ++ [msg]) =
          s.upsertAll env msgs >>= fun t => t.upsertAggregateRecord env msg := by
        simp [upsertAll, List.foldlM_append]
      rw [hfold, bind_eq_ok]
      simp only [ih hbefore, List.forall_mem_append, List.forall_mem_singleton]
      cases hsupplied : msg.aggregateRecord with
      | none =>
          refine iff_of_false ?_ ?_
          · rintro ⟨t, _, hok⟩
            rw [upsertAggregateRecord, hsupplied] at hok
            cases hok
          · rintro ⟨⟨_, hallowed⟩, _⟩
            exact hallowed.1 hsupplied
      | some record =>
          have hlast : upsertedRecords [msg] = [record] := by
            simp [upsertedRecords, hsupplied]
          have hrecord : record.epochId = epochId := by
            refine hepoch record ?_
            rw [hrecords, hlast]
            exact List.mem_append_right _ (List.mem_singleton.mpr rfl)
          subst hrecord
          have hconcat := afterUpserts_concat env hcommit hkey hopen (upsertedRecords msgs)
          rw [hrecords, hlast]
          constructor
          · rintro ⟨_, ⟨hallowed, rfl⟩, hok⟩
            obtain ⟨hmsg, rfl⟩ := (upsertAggregateRecord_ok_iff hsupplied).mp hok
            exact ⟨⟨hallowed, (allowsUpsert_afterUpserts _).mp hmsg⟩, hconcat⟩
          · rintro ⟨⟨hallowed, hmsg⟩, rfl⟩
            refine ⟨_, ⟨hallowed, rfl⟩, (upsertAggregateRecord_ok_iff hsupplied).mpr ⟨?_, ?_⟩⟩
            · exact (allowsUpsert_afterUpserts _).mpr hmsg
            · exact hconcat.symm

end Upserts

end KeeperState

open KeeperState

/-- After any successful upserts for an epoch with an open commit, the commit holds the aggregates
and the weight of the stored records and is otherwise the old one, so that validating the roots only
looks at the rewards. In any other order, upserts for distinct applications lead to the same
state. -/
theorem aggregate_commitment_tracks_store (env : Env) {s s' : KeeperState} {epochId : ℕ}
    {commit : EpochCommit} (hkeyed : KeyedBy (·.epochId) s.epochCommits)
    (hcommit : s.epochCommits[epochId]? = some commit) (hopen : commit.finalized = false)
    {msgs : List MsgUpsertAggregateRecord} (hsome : msgs ≠ [])
    (hepoch : ∀ record ∈ upsertedRecords msgs, record.epochId = epochId)
    (hok : s.upsertAll env msgs = .ok s') :
    s'.epochCommits[epochId]? = some (s'.trackedCommit env epochId commit) ∧
      (s'.validateEpochRoots env epochId (s'.trackedCommit env epochId commit) = .ok () ↔
        commit.rewards =
          some (merkleRootHexForRecords env.sha256 (s'.rewardRecordsForEpoch epochId))) ∧
      ∀ msgs' : List MsgUpsertAggregateRecord, msgs'.Perm msgs →
        ((upsertedRecords msgs).map (·.appId)).Nodup → s.upsertAll env msgs' = .ok s' := by
  have hkey : commit.epochId = epochId := hkeyed epochId commit hcommit
  obtain ⟨hallowed, hafter⟩ := (upsertAll_ok_iff hcommit hkey hopen hepoch).mp hok
  refine ⟨?_, ?_, ?_⟩
  · have hrecords : upsertedRecords msgs ≠ [] := by
      obtain ⟨msg, hmsg⟩ := List.exists_mem_of_ne_nil msgs hsome
      obtain ⟨record, hrecord⟩ := Option.ne_none_iff_exists'.mp (hallowed msg hmsg).1
      exact List.ne_nil_of_mem (List.mem_filterMap.mpr ⟨msg, hmsg, hrecord⟩)
    rw [afterUpserts, if_neg hrecords] at hafter
    rw [hafter, withAggregates_commit]
    rfl
  · rw [validateEpochRoots_iff, EpochCommit.ext_iff]
    simp [recomputedCommit, trackedCommit, eq_comm]
  · intro msgs' hperm happs
    have hrecords : (upsertedRecords msgs').Perm (upsertedRecords msgs) := hperm.filterMap _
    have hepoch' : ∀ record ∈ upsertedRecords msgs', record.epochId = epochId :=
      fun record hmem => hepoch record (hrecords.mem_iff.mp hmem)
    have hkeys : ((upsertedRecords msgs).map aggregateKey).Nodup := by
      rw [List.Nodup, List.pairwise_map] at happs ⊢
      exact happs.imp fun hne heq => hne (congrArg Prod.snd heq)
    have hstored : storeAll aggregateKey s.aggregateRecords (upsertedRecords msgs') =
        storeAll aggregateKey s.aggregateRecords (upsertedRecords msgs) :=
      (storeAll_perm s.aggregateRecords hrecords.symm hkeys).symm
    refine (upsertAll_ok_iff hcommit hkey hopen hepoch').mpr ⟨?_, ?_⟩
    · exact fun msg hmsg => hallowed msg (hperm.mem_iff.mp hmsg)
    · have hempty : upsertedRecords msgs' = [] ↔ upsertedRecords msgs = [] := by
        rw [← List.length_eq_zero_iff, hrecords.length_eq, List.length_eq_zero_iff]
      rw [hafter]
      unfold afterUpserts withAggregates storeAggregates
      simp only [hempty, hstored]

namespace Sample

/-- Epoch seven is committed over no records, and Alice may verify. -/
def committed : KeeperState := run (next env) genesis [register alice, propose (emptyCommit 7)]

def upsertMsg (appId totalWeightUnits : ℕ) : MsgUpsertAggregateRecord where
  operator := alice
  aggregateRecord := some { epochId := 7, appId, totalWeightUnits }

end Sample

open Sample in
theorem aggregate_commitment_tracks_store_two :
    ∃ s', committed.upsertAll env [upsertMsg 730 5, upsertMsg 440 6] = .ok s' ∧
      s'.epochCommits[7]? = some (s'.trackedCommit env 7
        { emptyCommit 7 with challengeOpenHeight := 2 }) ∧
      committed.upsertAll env [upsertMsg 440 6, upsertMsg 730 5] = .ok s' := by
  have hkeyed : KeyedBy (·.epochId) committed.epochCommits :=
    (wellFormed_run env (wellFormed_defaultGenesis _ _) _).commits
  have hcommit : committed.epochCommits[7]? =
      some { emptyCommit 7 with challengeOpenHeight := 2 } := by decide +kernel
  cases hok : committed.upsertAll env [upsertMsg 730 5, upsertMsg 440 6] with
  | error e =>
      have hsucceeds :
          (committed.upsertAll env [upsertMsg 730 5, upsertMsg 440 6]).isOk = true := by
        decide +kernel
      rw [hok] at hsucceeds
      cases hsucceeds
  | ok s' =>
      obtain ⟨htracks, _, horder⟩ := aggregate_commitment_tracks_store env hkeyed hcommit rfl
        (List.cons_ne_nil _ _) (by decide) hok
      refine ⟨s', rfl, htracks, horder _ (List.Perm.swap _ _ _) (by decide)⟩

end PoleProtocol.Chain
