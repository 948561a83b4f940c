import PoleProtocol.Node.CollectTick

/-!
# The blocks a tick completes

The passes of a player reward tick fill up reward blocks one after the other. The records of the
tick are those of its completed blocks in order, and each block with play has the same weight in
all of its records. So the weight that is read back from the records is the weight of the blocks
with play.
-/

namespace PoleProtocol.Node

open Framework Ledger

section Passes

variable (settings : RewardSettings) (evidence : EvidenceStore) (context : RewardTickContext)
  (activeMapping : Option ActiveGameMapping) (samples : List ActivitySample)

/-- The blocks that the passes complete, as they are when they are full. -/
def completedBlocks : (fuel : ℕ) → TickLoop → List PendingPlayerRewardBlockState
  | 0, _ => []
  | fuel + 1, loop =>
      if 0 < loop.remainingSecs then
        let later :=
          completedBlocks fuel (tickPass settings evidence context activeMapping samples loop)
        if completesBlock settings activeMapping samples loop then
          sampledBlock settings activeMapping samples loop :: later
        else later
      else []

/-- The records of blocks that are numbered from an index on. -/
def recordsFrom : (blockIndex : ℕ) → List PendingPlayerRewardBlockState →
    List PlayerRewardBlockRecord
  | _, [] => []
  | blockIndex, block :: blocks =>
      blockRecords settings evidence context samples block blockIndex ++
        recordsFrom (wrap32 (blockIndex + 1)) blocks

variable {settings evidence context activeMapping samples}

theorem tickPass_of_completes {loop : TickLoop}
    (hfull : completesBlock settings activeMapping samples loop) :
    tickPass settings evidence context activeMapping samples loop =
      { pending := nextBlock context (loop.remainingSecs - chunkSecs settings loop)
        completedRecords := loop.completedRecords ++
          blockRecords settings evidence context samples
            (sampledBlock settings activeMapping samples loop) loop.nextBlockIndex
        completedRewardBlockCount := loop.completedRewardBlockCount + 1
        nextBlockIndex := wrap32 (loop.nextBlockIndex + 1)
        remainingSecs := loop.remainingSecs - chunkSecs settings loop } :=
  if_pos hfull

theorem tickPass_of_not_completes {loop : TickLoop}
    (hopen : ¬ completesBlock settings activeMapping samples loop) :
    tickPass settings evidence context activeMapping samples loop =
      { loop with
        pending := sampledBlock settings activeMapping samples loop
        remainingSecs := loop.remainingSecs - chunkSecs settings loop } :=
  if_neg hopen

theorem tickPasses_count (fuel : ℕ) (loop : TickLoop) :
    (tickPasses settings evidence context activeMapping samples fuel
        loop).completedRewardBlockCount =
      loop.completedRewardBlockCount +
        (completedBlocks settings evidence context activeMapping samples fuel loop).length := by
  induction fuel generalizing loop with
  | zero => rfl
  | succ fuel ih =>
      unfold tickPasses completedBlocks
      by_cases hremains : 0 < loop.remainingSecs
      · rw [if_pos hremains, if_pos hremains, ih]
        by_cases hfull : completesBlock settings activeMapping samples loop
        · rw [if_pos hfull, tickPass_of_completes hfull, List.length_cons]
          exact Nat.add_right_comm _ _ _
        · rw [if_neg hfull, tickPass_of_not_completes hfull]
      · rw [if_neg hremains, if_neg hremains]
        rfl

theorem tickPasses_records (fuel : ℕ) (loop : TickLoop) :
    (tickPasses settings evidence context activeMapping samples fuel loop).completedRecords =
      loop.completedRecords ++
        recordsFrom settings evidence context samples loop.nextBlockIndex
          (completedBlocks settings evidence context activeMapping samples fuel loop) := by
  induction fuel generalizing loop with
  | zero => exact (List.append_nil _).symm
  | succ fuel ih =>
      unfold tickPasses completedBlocks
      by_cases hremains : 0 < loop.remainingSecs
      · rw [if_pos hremains, if_pos hremains, ih]
        by_cases hfull : completesBlock settings activeMapping samples loop
        · rw [if_pos hfull, tickPass_of_completes hfull, recordsFrom]
          exact List.append_assoc _ _ _
        · rw [if_neg hfull, tickPass_of_not_completes hfull]
      · rw [if_neg hremains, if_neg hremains]
        exact (List.append_nil _).symm

/-! ## The weight read back from the records -/

theorem firstOfEachBlock_append_seen {seen : Finset ℕ}
    {records later : List PlayerRewardBlockRecord}
    (hseen : ∀ record ∈ records, record.blockIndex ∈ seen) :
    firstOfEachBlock seen (records ++ later) = firstOfEachBlock seen later := by
  induction records with
  | nil => rfl
  | cons record records ih =>
      rw [List.forall_mem_cons] at hseen
      rw [List.cons_append, firstOfEachBlock, if_pos hseen.1, ih hseen.2]

theorem mem_blockRecords {block : PendingPlayerRewardBlockState} {blockIndex : ℕ}
    {record : PlayerRewardBlockRecord}
    (hrecord : record ∈ blockRecords settings evidence context samples block blockIndex) :
    record.blockIndex = blockIndex ∧
      record.totalNetworkWeightUnits = block.totalNetworkWeightUnits := by
  obtain ⟨entry, _, rfl⟩ := List.mem_map.mp hrecord
  exact ⟨rfl, rfl⟩

theorem blockRecords_eq_nil_iff {block : PendingPlayerRewardBlockState} {blockIndex : ℕ} :
    blockRecords settings evidence context samples block blockIndex = [] ↔ block.entries = [] := by
  have hperm := List.perm_insertionSort entryOrder block.entries
  unfold blockRecords
  rw [List.map_eq_nil_iff]
  constructor
  · intro hsorted
    rw [hsorted] at hperm
    exact hperm.symm.eq_nil
  · intro hentries
    rw [hentries]
    rfl

/-- The weights of the blocks with play. -/
def playedWeights (blocks : List PendingPlayerRewardBlockState) : List ℕ :=
  (blocks.filter (·.entries ≠ [])).map (·.totalNetworkWeightUnits)

theorem playedWeights_cons_unplayed {block : PendingPlayerRewardBlockState}
    (blocks : List PendingPlayerRewardBlockState) (hentries : block.entries = []) :
    playedWeights (block :: blocks) = playedWeights blocks := by
  simp [playedWeights, hentries]

theorem playedWeights_cons_played {block : PendingPlayerRewardBlockState}
    (blocks : List PendingPlayerRewardBlockState) (hentries : block.entries ≠ []) :
    playedWeights (block :: blocks) = block.totalNetworkWeightUnits :: playedWeights blocks := by
  simp [playedWeights, hentries]

/-- The records show each block with play once, and a block without play not at all. -/
theorem firstOfEachBlock_recordsFrom {seen : Finset ℕ} {blockIndex : ℕ}
    {blocks : List PendingPlayerRewardBlockState}
    (hfresh : ∀ index ∈ seen, index < blockIndex)
    (hindices : blockIndex + blocks.length ≤ 2 ^ 32) :
    (firstOfEachBlock seen
        (recordsFrom settings evidence context samples blockIndex blocks)).map
        (·.totalNetworkWeightUnits) = playedWeights blocks := by
  induction blocks generalizing seen blockIndex with
  | nil => rfl
  | cons block blocks ih =>
      rw [List.length_cons] at hindices
      have hrest : ∀ seenNext : Finset ℕ, (∀ index ∈ seenNext, index < blockIndex + 1) →
          (firstOfEachBlock seenNext (recordsFrom settings evidence context samples
            (wrap32 (blockIndex + 1)) blocks)).map (·.totalNetworkWeightUnits) =
            playedWeights blocks := by
        intro seenNext hseenNext
        by_cases hlast : blocks = []
        · rw [hlast]
          rfl
        · have hlength : 0 < blocks.length := List.length_pos_of_ne_nil hlast
          have hnext : wrap32 (blockIndex + 1) = blockIndex + 1 := Nat.mod_eq_of_lt (by omega)
          rw [hnext]
          exact ih hseenNext (by omega)
      have hlater : ∀ index ∈ seen, index < blockIndex + 1 := by
        intro index hindex
        have hbefore := hfresh index hindex
        omega
      rw [recordsFrom]
      by_cases hplayed : block.entries = []
      · rw [blockRecords_eq_nil_iff.mpr hplayed, List.nil_append,
          playedWeights_cons_unplayed blocks hplayed]
        exact hrest seen hlater
      · obtain ⟨record, others, hrecords⟩ :=
          List.exists_cons_of_ne_nil (fun hnil => hplayed (blockRecords_eq_nil_iff.mp hnil))
        have hmem : ∀ r ∈ record :: others, r.blockIndex = blockIndex ∧
            r.totalNetworkWeightUnits = block.totalNetworkWeightUnits := by
          intro r hr
          rw [← hrecords] at hr
          exact mem_blockRecords hr
        have hfirst := hmem record (List.mem_cons_self ..)
        have hnew : record.blockIndex ∉ seen := by
          intro hseen
          have hbefore := hfresh record.blockIndex hseen
          omega
        have hothers : ∀ r ∈ others, r.blockIndex ∈ insert record.blockIndex seen := by
          intro r hr
          rw [(hmem r (List.mem_cons_of_mem _ hr)).1, hfirst.1]
          exact Finset.mem_insert_self _ _
        rw [hrecords, List.cons_append, firstOfEachBlock, if_neg hnew,
          firstOfEachBlock_append_seen hothers, List.map_cons, hfirst.2,
          playedWeights_cons_played blocks hplayed]
        refine congrArg _ (hrest _ ?_)
        intro index hindex
        rcases Finset.mem_insert.mp hindex with rfl | hold
        · omega
        · exact hlater index hold

/-- Blocks that weigh nothing or have play are all seen. -/
theorem playedWeights_sum {blocks : List PendingPlayerRewardBlockState}
    (hplayed : ∀ block ∈ blocks, block.totalNetworkWeightUnits = 0 ∨ block.entries ≠ []) :
    (playedWeights blocks).sum = (blocks.map (·.totalNetworkWeightUnits)).sum := by
  induction blocks with
  | nil => rfl
  | cons block blocks ih =>
      rw [List.forall_mem_cons] at hplayed
      rw [List.map_cons, List.sum_cons, ← ih hplayed.2]
      by_cases hentries : block.entries = []
      · have hweight : block.totalNetworkWeightUnits = 0 := by
          rcases hplayed.1 with hzero | hentry
          · exact hzero
          · exact absurd hentries hentry
        rw [playedWeights_cons_unplayed blocks hentries, hweight, Nat.zero_add]
      · rw [playedWeights_cons_played blocks hentries, List.sum_cons]

end Passes

/-! ## The blocks of a collect tick -/

section Tick

variable (config : CollectTickConfig) (progress : LocalNodeProgress) (calls : TickCalls)

/-- The blocks that the sampled seconds of a tick complete. -/
def tickBlocks : List PendingPlayerRewardBlockState :=
  match openTick config calls with
  | .error _ => []
  | .ok samples =>
      let context := tickContext config calls progress
      completedBlocks (calls.settings config) calls.evidence context calls.activeMapping samples
        (max context.sampledIntervalSecs 1) (tickStart context progress.pendingRewardBlock)

def tickWeights : List ℕ := (tickBlocks config progress calls).map (·.totalNetworkWeightUnits)

variable {config progress calls}

theorem tickBlocks_of_ok {samples : List ActivitySample}
    (hopen : openTick config calls = .ok samples) :
    tickBlocks config progress calls =
      completedBlocks (calls.settings config) calls.evidence (tickContext config calls progress)
        calls.activeMapping samples (max (tickContext config calls progress).sampledIntervalSecs 1)
        (tickStart (tickContext config calls progress) progress.pendingRewardBlock) := by
  rw [tickBlocks, hopen]

theorem playerRewardTick_count {samples : List ActivitySample}
    (hopen : openTick config calls = .ok samples) :
    (playerRewardTick config calls progress samples).artifact.completedRewardBlockCount =
      (tickBlocks config progress calls).length := by
  rw [tickBlocks_of_ok hopen]
  exact (tickPasses_count _ _).trans (Nat.zero_add _)

theorem playerRewardTick_weight {samples : List ActivitySample}
    (hopen : openTick config calls = .ok samples)
    (hindices : (tickBlocks config progress calls).length ≤ 2 ^ 32) :
    completedCycleTotalNetworkWeightUnits
        (playerRewardTick config calls progress samples).artifact =
      sumAmounts (playedWeights (tickBlocks config progress calls)) := by
  rw [tickBlocks_of_ok hopen] at hindices ⊢
  have hrecords : (playerRewardTick config calls progress samples).artifact.records =
      [] ++ recordsFrom (calls.settings config) calls.evidence (tickContext config calls progress)
        samples 0 _ := tickPasses_records _ _
  unfold completedCycleTotalNetworkWeightUnits
  rw [hrecords, List.nil_append, firstOfEachBlock_recordsFrom (by simp) (by omega)]

/-- A tick that succeeds went through all its stages. -/
theorem runCollectTick_of_ok {result : CollectTickResult}
    (hok : (runCollectTickWithClientInner config calls progress).2 = .ok result) :
    ∃ samples, openTick config calls = .ok samples ∧
      (runCollectTickWithClientInner config calls progress).1 =
        completeTick config (playerRewardTick config calls progress samples).artifact
          { settledProgress config calls progress with
            pendingRewardBlock :=
              (playerRewardTick config calls progress samples).pendingState } := by
  unfold runCollectTickWithClientInner at hok ⊢
  cases hopen : openTick config calls with
  | error e => simp [hopen] at hok
  | ok samples =>
      refine ⟨samples, rfl, ?_⟩
      rw [hopen] at hok
      unfold collectTickContext at hok ⊢
      cases hadjust : calls.persistAdjustmentCycleArtifact with
      | error e => simp [hadjust] at hok
      | ok =>
          cases hrecord : calls.savePlayerRewardTick with
          | error e => simp [hadjust, hrecord] at hok
          | ok =>
              cases hpublish : publishTick calls with
              | error e => simp [hadjust, hrecord, hpublish] at hok
              | ok =>
                  cases hclose : closeTick calls with
                  | error e => simp [hadjust, hrecord, hpublish, hclose] at hok
                  | ok => rfl

end Tick

end PoleProtocol.Node
