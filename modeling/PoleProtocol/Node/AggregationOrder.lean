import PoleProtocol.Framework.Selection
import PoleProtocol.Node.AggregateRoot

/-!
# Aggregation in any order

Two nodes that store the same batches derive the same aggregates, in whatever order they list the
batches and the observations of a batch. An observation enters the figures of its group only
through its collector and its rank among the collector's candidates, and the selection, the
trimming and the sorting all go by these.
-/

namespace PoleProtocol.Node

open Framework Ledger

/-! ## What is read of an input -/

abbrev CandidateRank := ℕ × ℕ × Hash32 × Hash32 × Bytes

/-- The collector of an input, and its rank among the candidates of the collector. -/
def inputFace (input : AggregateInput) : NodeId × CandidateRank :=
  (input.observation.collectorId, candidateRank input)

def faceTrimmedRank (face : NodeId × CandidateRank) : ℕ × NodeId × ℕ × Hash32 × Hash32 :=
  (face.2.2.1, face.1, face.2.1, face.2.2.2.1, face.2.2.2.2.1)

def facePlayers (face : NodeId × CandidateRank) : ℕ := face.2.2.1

def faceBatch (face : NodeId × CandidateRank) : Hash32 := face.2.2.2.2.1

theorem selectCandidate_eq :
    selectCandidate = keepLeast (·.observation.collectorId) candidateRank := by
  funext selected input
  unfold selectCandidate keepLeast
  cases selected[input.observation.collectorId]? with
  | none => rfl
  | some existing => rfl

/-- One input is kept for each collector, the same one up to its face. -/
theorem deduplicateByCollector_perm {inputs inputs' : List AggregateInput}
    (hperm : inputs.Perm inputs') :
    (deduplicateByCollector inputs).map inputFace =
      (deduplicateByCollector inputs').map inputFace := by
  have hkept := foldl_keepLeast_perm (fun input : AggregateInput => input.observation.collectorId)
    candidateRank Prod.fst Prod.snd inputFace (fun _ => rfl) (fun _ => rfl) (fun _ _ => Prod.ext)
    hperm
  rw [deduplicateByCollector, deduplicateByCollector, ← OrderedMap.records_map,
    ← OrderedMap.records_map, selectCandidate_eq, hkept]

theorem trimExtremeObservations_faces (inputs : List AggregateInput) :
    (trimExtremeObservations inputs).map inputFace =
      if inputs.length < 5 then inputs.map inputFace
      else (sortByKey faceTrimmedRank (inputs.map inputFace)).tail.dropLast := by
  have hsort : (sortByKey trimmedRank inputs).map inputFace =
      sortByKey faceTrimmedRank (inputs.map inputFace) := sortByKey_map fun _ _ => rfl
  rw [trimExtremeObservations]
  split
  · rfl
  · rw [List.map_dropLast, List.map_tail, hsort]

/-- The faces of the accepted inputs do not depend on the order of the inputs. -/
theorem accepted_perm {inputs inputs' : List AggregateInput} (hperm : inputs.Perm inputs') :
    (trimExtremeObservations (deduplicateByCollector inputs)).map inputFace =
      (trimExtremeObservations (deduplicateByCollector inputs')).map inputFace := by
  have hdeduped := deduplicateByCollector_perm hperm
  have hlength := congrArg List.length hdeduped
  rw [List.length_map, List.length_map] at hlength
  rw [trimExtremeObservations_faces, trimExtremeObservations_faces, hdeduped, hlength]

theorem medianPlayers_of_faces {inputs inputs' : List AggregateInput}
    (h : inputs.map inputFace = inputs'.map inputFace) :
    medianPlayers inputs = medianPlayers inputs' := by
  have hplayers : inputs.map (·.observation.observedPlayers) =
      inputs'.map (·.observation.observedPlayers) := by
    have hmapped := congrArg (List.map facePlayers) h
    rwa [List.map_map, List.map_map] at hmapped
  have hempty : inputs.isEmpty = inputs'.isEmpty := by
    rw [← List.isEmpty_map (f := inputFace) (l := inputs), h, List.isEmpty_map]
  unfold medianPlayers
  rw [hplayers, hempty]

theorem aggregateSourceBatchRoot_of_faces (env : NodeEnv) {inputs inputs' : List AggregateInput}
    (h : inputs.map inputFace = inputs'.map inputFace) :
    aggregateSourceBatchRoot env inputs = aggregateSourceBatchRoot env inputs' := by
  have hbatches : inputs.map (·.batchCommitHash) = inputs'.map (·.batchCommitHash) := by
    have hmapped := congrArg (List.map faceBatch) h
    rwa [List.map_map, List.map_map] at hmapped
  have hleaves : ∀ inputs : List AggregateInput,
      inputs.foldl (fun leaves input => leaves.insert input.batchCommitHash ())
          (∅ : OrderedMap Hash32 Unit) =
        (inputs.map (·.batchCommitHash)).foldl (fun leaves hash => leaves.insert hash ()) ∅ :=
    fun inputs => by rw [List.foldl_map]
  unfold aggregateSourceBatchRoot
  rw [hleaves, hleaves, hbatches]

/-! ## Groups -/

/-- What the network compares of a group. -/
structure GroupFigures where
  slotId : ℕ
  appId : ℕ
  medianPlayers : ℕ
  uniqueCollectors : ℕ
  acceptedObservations : ℕ
  sourceBatchRoot : Hash32
  gvsMicrounits : ℕ
  deriving DecidableEq

def groupFigures (group : EpochAggregationGroup) : GroupFigures where
  slotId := group.slotId
  appId := group.appId
  medianPlayers := group.aggregate.medianPlayers
  uniqueCollectors := group.uniqueCollectors
  acceptedObservations := group.aggregate.acceptedObservations
  sourceBatchRoot := group.aggregate.sourceBatchRoot
  gvsMicrounits := group.aggregate.gvsMicrounits

/-- The batches are listed in another order, and the observations of each. -/
def Reordered (batches batches' : List AssembledBatch) : Prop :=
  ∃ listed : List AssembledBatch, batches.Perm listed ∧
    List.Forall₂ (fun batch batch' => batch.batchCommit = batch'.batchCommit ∧
      batch.observations.Perm batch'.observations) listed batches'

section Aggregation

variable (env : NodeEnv) (encodeBatchCommit : BatchCommit → Bytes) (config : AggregationConfig)
  (epochId : ℕ)

theorem aggregateGroup_perm (slotId appId : ℕ) {inputs inputs' : List AggregateInput}
    (hperm : inputs.Perm inputs') :
    groupFigures (aggregateGroup env config epochId slotId appId inputs) =
      groupFigures (aggregateGroup env config epochId slotId appId inputs') := by
  have hdeduped := congrArg List.length (deduplicateByCollector_perm hperm)
  have haccepted := accepted_perm hperm
  have hlength := congrArg List.length haccepted
  rw [List.length_map, List.length_map] at hdeduped hlength
  simp only [groupFigures, aggregateGroup, hdeduped, hlength, medianPlayers_of_faces haccepted,
    aggregateSourceBatchRoot_of_faces env haccepted]

theorem groupInputs_eq (inputs : List AggregateInput) :
    groupInputs inputs = groupByKey groupKey (fun input => input) inputs := rfl

theorem epochInputs_reordered {batches batches' : List AssembledBatch}
    (h : Reordered batches batches') :
    (epochInputs env encodeBatchCommit epochId batches).Perm
      (epochInputs env encodeBatchCommit epochId batches') := by
  obtain ⟨listed, hperm, hsame⟩ := h
  refine (hperm.flatMap_right _).trans ?_
  clear hperm
  induction hsame with
  | nil => exact .nil
  | cons hbatch _ ih =>
      obtain ⟨hcommit, hobservations⟩ := hbatch
      rw [epochInputs, List.flatMap_cons, List.flatMap_cons, hcommit]
      exact ((hobservations.filter _).map _).append ih

theorem groups_reordered {batches batches' : List AssembledBatch}
    (h : Reordered batches batches') :
    (computeLocalEpochAggregation env encodeBatchCommit config epochId batches).groups.map
        groupFigures =
      (computeLocalEpochAggregation env encodeBatchCommit config epochId batches').groups.map
        groupFigures := by
  have hinputs := epochInputs_reordered env encodeBatchCommit epochId h
  have hmapped := groupByKey_map_perm groupKey (fun input => input)
    (fun key inputs => groupFigures (aggregateGroup env config epochId key.1 key.2 inputs))
    (fun key _ _ hperm => aggregateGroup_perm env config epochId key.1 key.2 hperm) hinputs
  have hrecords := congrArg OrderedMap.records hmapped
  simp only [OrderedMap.records, Std.ExtTreeMap.toList_map, List.map_map] at hrecords
  simp only [computeLocalEpochAggregation, groupInputs_eq, List.map_map]
  exact hrecords

/-- The record of a group on the chain is made of its figures. -/
theorem chainAggregateRecord_group {batches : List AssembledBatch} :
    (localAggregates env encodeBatchCommit config epochId batches).map chainAggregateRecord =
      ((computeLocalEpochAggregation env encodeBatchCommit config epochId batches).groups.map
        groupFigures).map fun figures =>
          ⟨epochId, figures.appId, figures.gvsMicrounits, figures.medianPlayers⟩ := by
  simp only [localAggregates, computeLocalEpochAggregation, List.map_map]
  rfl

/-- The root is read off the chain's records. -/
theorem aggregateRecordRoot_chain (records : List AggregateRecord) :
    aggregateRecordRoot env records = env.merkleRoot
      ((sortByKey chainAggregateKey (records.map chainAggregateRecord)).map fun record =>
        env.merkleLeaf (Chain.JsonRecord.json record).toUTF8.toList) := by
  have hsort : (sortByKey aggregateKey records).map chainAggregateRecord =
      sortByKey chainAggregateKey (records.map chainAggregateRecord) :=
    sortByKey_map fun _ _ => rfl
  rw [← hsort, List.map_map, aggregateRecordRoot]
  simp only [Function.comp_def, aggregateRecordToChainJson_eq]

/-- Whatever the order of the batches and of the observations in each, every group has the same
figures, and the aggregates have the same root. -/
theorem aggregation_order_independent {batches batches' : List AssembledBatch}
    (h : Reordered batches batches') :
    (computeLocalEpochAggregation env encodeBatchCommit config epochId batches).groups.map
        groupFigures =
      (computeLocalEpochAggregation env encodeBatchCommit config epochId batches').groups.map
        groupFigures ∧
    aggregateRecordRoot env (localAggregates env encodeBatchCommit config epochId batches) =
      aggregateRecordRoot env (localAggregates env encodeBatchCommit config epochId batches') := by
  have hgroups := groups_reordered env encodeBatchCommit config epochId h
  refine ⟨hgroups, ?_⟩
  rw [aggregateRecordRoot_chain, aggregateRecordRoot_chain, chainAggregateRecord_group,
    chainAggregateRecord_group, hgroups]

end Aggregation

open AggregateSample in
/-- Two collectors and a second reading of one of them, in two batches that are listed in two
orders. -/
theorem two_listings_agree :
    let first := observation 1 730
    let second := { observation 1 730 with collectorId := 2, observedPlayers := 700 }
    let again := { observation 1 730 with observedPlayers := 900 }
    (computeLocalEpochAggregation RootSample.env (fun _ => []) config 1
        [batch [first, second], batch [again]]).groups.map groupFigures =
      (computeLocalEpochAggregation RootSample.env (fun _ => []) config 1
        [batch [again], batch [second, first]]).groups.map groupFigures ∧
    aggregateRecordRoot RootSample.env (localAggregates RootSample.env (fun _ => []) config 1
        [batch [first, second], batch [again]]) =
      aggregateRecordRoot RootSample.env (localAggregates RootSample.env (fun _ => []) config 1
        [batch [again], batch [second, first]]) := by
  intro first second again
  apply aggregation_order_independent
  refine ⟨[batch [again], batch [first, second]], .swap _ _ _, ?_⟩
  exact .cons ⟨rfl, .refl _⟩ (.cons ⟨rfl, .swap _ _ _⟩ .nil)

end PoleProtocol.Node
