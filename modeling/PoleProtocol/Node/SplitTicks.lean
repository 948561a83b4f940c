import PoleProtocol.Node.PendingBlock

/-!
# Split ticks

A tick that is cut in two records the same blocks and leaves the same block open, but for the cycle
of the block at the cut. A block that starts inside a tick has its two cycle fields settled at once;
a block that starts with a tick has them settled when the next tick takes it over. So the two ways
differ where the fields of the context do, unless the block is over before anything shows it.
-/

namespace PoleProtocol.Node

open Framework Ledger

/-! ## The cycle of a block -/

/-- The cycle that counts: that of the newer field, unless it is unset. -/
def PendingPlayerRewardBlockState.settledCycle (block : PendingPlayerRewardBlockState) : ℕ :=
  if block.adjustmentCycleIndex = 0 then block.rewardAdjustmentPeriodIndex
  else block.adjustmentCycleIndex

/-- Both fields name the cycle that counts. -/
def PendingPlayerRewardBlockState.settled (block : PendingPlayerRewardBlockState) :
    PendingPlayerRewardBlockState :=
  { block with
    rewardAdjustmentPeriodIndex := block.settledCycle
    adjustmentCycleIndex := block.settledCycle }

/-- The same tick, for another time. -/
def RewardTickContext.lasting (context : RewardTickContext) (secs : ℕ) : RewardTickContext :=
  { context with sampledIntervalSecs := secs }

/-- A record without its number in the tick. -/
def PlayerRewardBlockRecord.unnumbered (record : PlayerRewardBlockRecord) :
    PlayerRewardBlockRecord :=
  { record with blockIndex := 0 }

namespace PendingPlayerRewardBlockState

variable {block : PendingPlayerRewardBlockState}

theorem settled_eq_iff :
    block.settled = block ↔ block.rewardAdjustmentPeriodIndex = block.adjustmentCycleIndex := by
  constructor
  · intro hsame
    have hperiod : block.settledCycle = block.rewardAdjustmentPeriodIndex :=
      congrArg rewardAdjustmentPeriodIndex hsame
    have hcycle : block.settledCycle = block.adjustmentCycleIndex :=
      congrArg adjustmentCycleIndex hsame
    exact hperiod.symm.trans hcycle
  · intro hsame
    have hcycle : block.settledCycle = block.adjustmentCycleIndex := by
      unfold settledCycle
      split
      · exact hsame
      · rfl
    rcases block with ⟨secs, weight, cycleWeight, reward, playerReward, period, cycle, entries⟩
    change period = cycle at hsame
    subst hsame
    unfold settled
    rw [hcycle]

theorem period_eq_settledCycle_iff :
    block.rewardAdjustmentPeriodIndex = block.settledCycle ↔
      block.adjustmentCycleIndex = 0 ∨
        block.rewardAdjustmentPeriodIndex = block.adjustmentCycleIndex := by
  unfold settledCycle
  split
  · next hzero => exact iff_of_true rfl (.inl hzero)
  · next hset => exact (or_iff_right hset).symm

end PendingPlayerRewardBlockState

section Split

variable {settings : RewardSettings} {evidence : EvidenceStore} {context : RewardTickContext}
  {activeMapping : Option ActiveGameMapping} {samples : List ActivitySample}

/-! ## The records of blocks -/

variable (settings evidence context samples) in
/-- The records of blocks, without their numbers. -/
def recordsOf (blocks : List PendingPlayerRewardBlockState) : List PlayerRewardBlockRecord :=
  blocks.flatMap fun block =>
    (blockRecords settings evidence context samples block 0).map (·.unnumbered)

theorem unnumbered_recordsFrom (index : ℕ) (blocks : List PendingPlayerRewardBlockState) :
    (recordsFrom settings evidence context samples index blocks).map (·.unnumbered) =
      recordsOf settings evidence context samples blocks := by
  induction blocks generalizing index with
  | nil => rfl
  | cons block blocks ih =>
      have hblock : (blockRecords settings evidence context samples block index).map
          (·.unnumbered) =
            (blockRecords settings evidence context samples block 0).map (·.unnumbered) := by
        unfold blockRecords
        rw [List.map_map, List.map_map]
        rfl
      rw [recordsFrom, List.map_append, ih, hblock]
      rfl

/-- The cycle of a block is in all of its records, and in nothing else. -/
theorem blockRecords_settled_iff (block : PendingPlayerRewardBlockState) :
    (blockRecords settings evidence context samples block 0).map (·.unnumbered) =
        (blockRecords settings evidence context samples block.settled 0).map (·.unnumbered) ↔
      block.entries = [] ∨ block.rewardAdjustmentPeriodIndex = block.settledCycle := by
  have hsorted : (block.entries.insertionSort entryOrder = []) ↔ block.entries = [] := by
    rw [← List.length_eq_zero_iff, List.length_insertionSort, List.length_eq_zero_iff]
  unfold blockRecords
  rw [List.map_map, List.map_map, ← hsorted]
  change List.map _ (block.entries.insertionSort entryOrder) =
    List.map _ (block.entries.insertionSort entryOrder) ↔ _
  rw [List.map_inj_left]
  constructor
  · intro hsame
    cases hentries : block.entries.insertionSort entryOrder with
    | nil => exact .inl rfl
    | cons entry entries =>
        rw [hentries] at hsame
        have hrecord := hsame entry List.mem_cons_self
        exact .inr (congrArg PlayerRewardBlockRecord.adjustmentCycleIndex hrecord)
  · intro heither entry hentry
    rcases heither with hnone | hcycle
    · rw [hnone] at hentry
      cases hentry
    · unfold Function.comp blockRecord PlayerRewardBlockRecord.unnumbered
      simp only [PendingPlayerRewardBlockState.settled, hcycle]

/-! ## A tick, by its blocks -/

/-- The block that is handed on, if it has been sampled. -/
def openState (block : PendingPlayerRewardBlockState) : Option PendingPlayerRewardBlockState :=
  if 0 < block.sampledIntervalSecs then some block else none

theorem tickPasses_lasting (secs fuel : ℕ) (loop : TickLoop) :
    tickPasses settings evidence (context.lasting secs) activeMapping samples fuel loop =
      tickPasses settings evidence context activeMapping samples fuel loop := by
  induction fuel generalizing loop with
  | zero => rfl
  | succ fuel ih =>
      unfold tickPasses
      rw [ih]
      rfl

section Tick

variable {pendingState : Option PendingPlayerRewardBlockState} {secs : ℕ} (hsecs : 0 < secs)
  (foregroundProcess : Option String) (activeGameProcesses : List String)

include hsecs

theorem tick_records :
    (recordPlayerRewardTick settings evidence (context.lasting secs) activeMapping samples
        pendingState foregroundProcess activeGameProcesses).artifact.records.map (·.unnumbered) =
      recordsOf settings evidence context samples
        (blocksWithin settings evidence context activeMapping samples secs
          (firstBlock context pendingState)) := by
  have hmax : max secs 1 = secs := max_eq_left hsecs
  have hrecords := @tickPasses_records settings evidence context activeMapping samples secs
    (loopFrom secs (firstBlock context pendingState))
  change ((tickPasses settings evidence (context.lasting secs) activeMapping samples (max secs 1)
    (loopFrom (max secs 1) (firstBlock context pendingState))).completedRecords).map _ = _
  rw [tickPasses_lasting, hmax, hrecords]
  exact unnumbered_recordsFrom 0 _

theorem tick_count :
    (recordPlayerRewardTick settings evidence (context.lasting secs) activeMapping samples
        pendingState foregroundProcess activeGameProcesses).artifact.completedRewardBlockCount =
      (blocksWithin settings evidence context activeMapping samples secs
        (firstBlock context pendingState)).length := by
  have hmax : max secs 1 = secs := max_eq_left hsecs
  have hcount := @tickPasses_count settings evidence context activeMapping samples secs
    (loopFrom secs (firstBlock context pendingState))
  change (tickPasses settings evidence (context.lasting secs) activeMapping samples (max secs 1)
    (loopFrom (max secs 1) (firstBlock context pendingState))).completedRewardBlockCount = _
  rw [tickPasses_lasting, hmax, hcount]
  exact Nat.zero_add _

theorem tick_pendingState :
    (recordPlayerRewardTick settings evidence (context.lasting secs) activeMapping samples
        pendingState foregroundProcess activeGameProcesses).pendingState =
      openState (blockAfter settings evidence context activeMapping samples secs
        (firstBlock context pendingState)) := by
  have hmax : max secs 1 = secs := max_eq_left hsecs
  change openState (tickPasses settings evidence (context.lasting secs) activeMapping samples
    (max secs 1) (loopFrom (max secs 1) (firstBlock context pendingState))).pending = _
  rw [tickPasses_lasting, hmax]
  rfl

end Tick

/-! ## Where the cut falls -/

/-- A block with a reward, under both of its names. -/
structure Rewarded (block : PendingPlayerRewardBlockState) : Prop where
  same : block.fixedPlayerReward = block.fixedBlockReward
  some : block.fixedBlockReward ≠ 0

theorem sampledFor_entries_eq_nil_iff (block : PendingPlayerRewardBlockState) (secs : ℕ) :
    (sampledFor settings activeMapping samples block secs).entries = [] ↔
      activeMapping = none ∧ block.entries = [] := by
  cases activeMapping with
  | none => exact (and_iff_right rfl).symm
  | some mapping =>
      refine iff_of_false ?_ fun h => nomatch h.1
      change creditPlay mapping secs block.entries ≠ []
      cases block.entries with
      | nil => exact List.cons_ne_nil _ _
      | cons entry entries =>
          rw [creditPlay]
          split <;> exact List.cons_ne_nil _ _

/-- Of a block with one weight and one reward, only the cycle is left to settle. -/
theorem normalize_eq_settled {block : PendingPlayerRewardBlockState}
    (hweight : block.totalAdjustmentCycleNetworkWeightUnits = block.totalNetworkWeightUnits)
    (hreward : block.fixedPlayerReward = block.fixedBlockReward) :
    block.normalizeWhitepaperFields = block.settled := by
  rcases block with ⟨secs, weight, cycleWeight, reward, playerReward, period, cycle, entries⟩
  change cycleWeight = weight at hweight
  change playerReward = reward at hreward
  subst hweight hreward
  unfold PendingPlayerRewardBlockState.normalizeWhitepaperFields
    PendingPlayerRewardBlockState.settled PendingPlayerRewardBlockState.settledCycle
  simp only [ite_self]

/-- A tick that takes over a sampled block settles its cycle. -/
theorem firstBlock_sampled {block : PendingPlayerRewardBlockState} (hreward : Rewarded block)
    {secs : ℕ} (hpos : 0 < secs) :
    firstBlock context (some (sampledFor settings activeMapping samples block secs)) =
      (sampledFor settings activeMapping samples block secs).settled := by
  have hsampled := @sampledFor_pos settings activeMapping samples block _ hpos
  have hnormalized := @normalize_eq_settled
    (sampledFor settings activeMapping samples block secs) rfl hreward.same
  unfold firstBlock
  rw [Option.getD_some, hnormalized]
  refine if_neg (not_or.mpr ⟨hreward.some, ?_⟩)
  exact hsampled.ne'

theorem openState_sampled (block : PendingPlayerRewardBlockState) {secs : ℕ} (hpos : 0 < secs) :
    openState (sampledFor settings activeMapping samples block secs) =
      some (sampledFor settings activeMapping samples block secs) :=
  if_pos (sampledFor_pos block hpos)

theorem goesOn_sampled (block : PendingPlayerRewardBlockState) {secs : ℕ} (hpos : 0 < secs) :
    goesOn context (sampledFor settings activeMapping samples block secs) =
      sampledFor settings activeMapping samples block secs :=
  if_neg (sampledFor_pos block hpos).ne'

/-! ## Two ways on from the cut -/

variable (settings evidence context activeMapping samples) in
/-- Some seconds record the same and leave the same open, from one block as from another. -/
def GoOnAlike (secs : ℕ) (block other : PendingPlayerRewardBlockState) : Prop :=
  recordsOf settings evidence context samples
      (blocksWithin settings evidence context activeMapping samples secs block) =
    recordsOf settings evidence context samples
      (blocksWithin settings evidence context activeMapping samples secs other) ∧
  openState (blockAfter settings evidence context activeMapping samples secs block) =
    openState (blockAfter settings evidence context activeMapping samples secs other)

theorem GoOnAlike.symm {secs : ℕ} {block other : PendingPlayerRewardBlockState}
    (h : GoOnAlike settings evidence context activeMapping samples secs block other) :
    GoOnAlike settings evidence context activeMapping samples secs other block :=
  ⟨Eq.symm h.1, Eq.symm h.2⟩

/-- Settling the cycle shows, unless there is nothing to settle, or the block is completed and its
records show the cycle that counts. -/
theorem goOnAlike_settled_iff {secs : ℕ} {block : PendingPlayerRewardBlockState} (hsecs : 0 < secs)
    (hword : secsToFill settings block ≤ secs → tickRewardBlockSecs settings < 2 ^ 64) :
    GoOnAlike settings evidence context activeMapping samples secs block block.settled ↔
      block.rewardAdjustmentPeriodIndex = block.adjustmentCycleIndex ∨
        secsToFill settings block ≤ secs ∧
          (block.adjustmentCycleIndex = 0 ∨ activeMapping = none ∧ block.entries = []) := by
  unfold GoOnAlike
  by_cases hfull : secsToFill settings block ≤ secs
  · obtain ⟨hblocks, hafter⟩ := @pass_full settings evidence context activeMapping samples _ _ hfull
      (hword hfull)
    obtain ⟨hblocks', hafter'⟩ := @pass_full settings evidence context activeMapping samples secs
      block.settled hfull (hword hfull)
    have hrecords := @blockRecords_settled_iff settings evidence context samples
      (sampledFor settings activeMapping samples block (secsToFill settings block))
    have hcycle := @PendingPlayerRewardBlockState.period_eq_settledCycle_iff block
    rw [sampledFor_entries_eq_nil_iff] at hrecords
    change _ ↔ _ ∨ block.rewardAdjustmentPeriodIndex = block.settledCycle at hrecords
    rw [hcycle] at hrecords
    have hfill : secsToFill settings block.settled = secsToFill settings block := rfl
    have hsettled : sampledFor settings activeMapping samples block.settled
        (secsToFill settings block) =
          (sampledFor settings activeMapping samples block (secsToFill settings block)).settled :=
      rfl
    rw [hfill, hsettled] at hblocks'
    rw [hfill] at hafter'
    rw [hblocks, hblocks', hafter, hafter', and_iff_left rfl]
    unfold recordsOf
    rw [List.flatMap_cons, List.flatMap_cons, List.append_left_inj, hrecords]
    constructor
    · rintro (hunplayed | hzero | hsame)
      · exact .inr ⟨hfull, .inr hunplayed⟩
      · exact .inr ⟨hfull, .inl hzero⟩
      · exact .inl hsame
    · rintro (hsame | ⟨_, hzero | hunplayed⟩)
      · exact .inr (.inr hsame)
      · exact .inr (.inl hzero)
      · exact .inl hunplayed
  · have hshort := Nat.not_le.mp hfull
    obtain ⟨hblocks, hafter⟩ := @pass_short settings evidence context activeMapping samples _ _
      hsecs hshort
    obtain ⟨hblocks', hafter'⟩ := @pass_short settings evidence context activeMapping samples secs
      block.settled hsecs hshort
    have hopen := @openState_sampled settings activeMapping samples block _ hsecs
    have hopen' : openState (sampledFor settings activeMapping samples block.settled secs) =
        some (sampledFor settings activeMapping samples block secs).settled :=
      openState_sampled block.settled hsecs
    have hsettled := @PendingPlayerRewardBlockState.settled_eq_iff
      (sampledFor settings activeMapping samples block secs)
    rw [hblocks, hblocks', hafter, hafter', hopen, hopen', and_iff_right rfl, Option.some_inj,
      eq_comm, hsettled, or_iff_left fun h => hfull h.1]
    rfl

/-! ## The block a tick starts with -/

/-- A tick that is handed no sampled block with a reward starts one of its own. -/
def StartsBlock (pendingState : Option PendingPlayerRewardBlockState) : Prop :=
  let pending := (pendingState.getD {}).normalizeWhitepaperFields
  pending.fixedBlockReward = 0 ∨ pending.sampledIntervalSecs = 0

instance (pendingState : Option PendingPlayerRewardBlockState) :
    Decidable (StartsBlock pendingState) :=
  inferInstanceAs (Decidable (_ ∨ _))

section First

variable {pendingState : Option PendingPlayerRewardBlockState}

theorem firstBlock_of_starts (hstarts : StartsBlock pendingState) :
    firstBlock context pendingState =
      (pendingState.getD {}).normalizeWhitepaperFields.startedBy context := if_pos hstarts

theorem firstBlock_of_not_starts (hgiven : ¬ StartsBlock pendingState) :
    firstBlock context pendingState = (pendingState.getD {}).normalizeWhitepaperFields :=
  if_neg hgiven

theorem firstBlock_entries :
    (firstBlock context pendingState).entries = (pendingState.getD {}).entries := by
  unfold firstBlock
  dsimp only
  split <;> rfl

theorem rewarded_firstBlock (hreward : context.fixedPlayerReward = context.fixedBlockReward)
    (hsome : context.fixedBlockReward ≠ 0) : Rewarded (firstBlock context pendingState) := by
  by_cases hstarts : StartsBlock pendingState
  · rw [firstBlock_of_starts hstarts]
    exact ⟨hreward, hsome⟩
  · rw [firstBlock_of_not_starts hstarts]
    exact ⟨rfl, (not_or.mp hstarts).1⟩

theorem firstBlock_none :
    firstBlock context none = PendingPlayerRewardBlockState.startedBy context {} :=
  firstBlock_of_starts (.inr rfl)

/-- Behind a full block the cycle is settled at once. -/
theorem freshBlock_eq (hreward : context.fixedPlayerReward = context.fixedBlockReward) :
    freshBlock context = (PendingPlayerRewardBlockState.startedBy context {}).settled :=
  normalize_eq_settled rfl hreward

end First

/-! ## The law of split ticks -/

section Law

variable (settings evidence context activeMapping samples)
variable (pendingState : Option PendingPlayerRewardBlockState)

/-- The seconds of the open block. -/
def openSecs : ℕ := (pendingState.map (·.sampledIntervalSecs)).getD 0

variable (secs more : ℕ)

/-- The block that is open at the cut was started by the context. -/
def StartedAtCut : Prop :=
  if neededSecs settings pendingState ≤ secs then
    (secs - neededSecs settings pendingState) % tickRewardBlockSecs settings = 0
  else StartsBlock pendingState

/-- The seconds behind the cut complete that block. -/
def CompletedBehindCut : Prop :=
  if neededSecs settings pendingState ≤ secs then tickRewardBlockSecs settings ≤ more
  else neededSecs settings pendingState ≤ secs + more

/-- Nobody plays in that block. -/
def UnplayedAtCut : Prop :=
  activeMapping = none ∧
    (neededSecs settings pendingState ≤ secs ∨ (pendingState.getD {}).entries = [])

/-- The cut does not show: the context names one cycle, or the block at the cut was not started by
it, or that block is completed without a record of the other name. -/
def CutUnseen : Prop :=
  context.rewardAdjustmentPeriodIndex = context.adjustmentCycleIndex ∨
    ¬ StartedAtCut settings pendingState secs ∨
    CompletedBehindCut settings pendingState secs more ∧
      (context.adjustmentCycleIndex = 0 ∨ UnplayedAtCut settings activeMapping pendingState secs)

variable (foregroundProcess : Option String) (activeGameProcesses : List String)

/-- A tick of some seconds. -/
def tickFor (pendingState : Option PendingPlayerRewardBlockState) (secs : ℕ) :
    PlayerRewardTickComputation :=
  recordPlayerRewardTick settings evidence (context.lasting secs) activeMapping samples pendingState
    foregroundProcess activeGameProcesses

/-- Two ticks, one after the other, record the blocks of the whole tick and leave the same open. -/
def TicksSplit : Prop :=
  let whole := tickFor settings evidence context activeMapping samples foregroundProcess
    activeGameProcesses pendingState (secs + more)
  let first := tickFor settings evidence context activeMapping samples foregroundProcess
    activeGameProcesses pendingState secs
  let second := tickFor settings evidence context activeMapping samples foregroundProcess
    activeGameProcesses first.pendingState more
  whole.artifact.records.map (·.unnumbered) =
      (first.artifact.records ++ second.artifact.records).map (·.unnumbered) ∧
    whole.pendingState = second.pendingState

/-- The seconds before the tick and in it are those of the completed blocks and of the open one. -/
def SecsConserved : Prop :=
  let tick := tickFor settings evidence context activeMapping samples foregroundProcess
    activeGameProcesses pendingState secs
  openSecs pendingState + secs =
    tick.artifact.completedRewardBlockCount * tickRewardBlockSecs settings +
      openSecs tick.pendingState

variable {settings evidence context activeMapping samples pendingState secs more foregroundProcess
  activeGameProcesses}

theorem openSecs_openState (block : PendingPlayerRewardBlockState) :
    openSecs (openState block) = block.sampledIntervalSecs := by
  unfold openSecs openState
  split
  · rfl
  · next hnone => exact (Nat.eq_zero_of_not_pos hnone).symm

theorem secsConserved (hsecs : 0 < secs)
    (hopen : openSecs pendingState < tickRewardBlockSecs settings)
    (hfits : TickFits settings context samples secs (firstBlock context pendingState)) :
    SecsConserved settings evidence context activeMapping samples pendingState secs
      foregroundProcess activeGameProcesses := by
  have hfirst : (firstBlock context pendingState).sampledIntervalSecs = openSecs pendingState :=
    firstBlock_sampledIntervalSecs pendingState
  have hconserved := @seconds_conserved settings evidence context activeMapping samples _ _ hsecs
    (hfirst ▸ hopen) hfits
  unfold SecsConserved tickFor
  dsimp only
  rw [tick_count hsecs, tick_pendingState hsecs, openSecs_openState, ← hfirst]
  exact hconserved

/-- The law says that the seconds behind the cut go on from the block that the second tick takes
over as from the one that was left. -/
theorem ticksSplit_iff (hsecs : 0 < secs) (hmore : 0 < more)
    (hfits : TickFits settings context samples (secs + more) (firstBlock context pendingState)) :
    TicksSplit settings evidence context activeMapping samples pendingState secs more
        foregroundProcess activeGameProcesses ↔
      GoOnAlike settings evidence context activeMapping samples more
        (goesOn context (blockAfter settings evidence context activeMapping samples secs
          (firstBlock context pendingState)))
        (firstBlock context (openState (blockAfter settings evidence context activeMapping samples
          secs (firstBlock context pendingState)))) := by
  obtain ⟨hblocks, hafter⟩ := @seconds_add settings evidence context activeMapping samples secs more
    _ hsecs hmore hfits
  unfold TicksSplit tickFor GoOnAlike
  dsimp only
  rw [List.map_append, tick_records (Nat.add_pos_left hsecs more), tick_records hsecs,
    tick_records hmore, tick_pendingState (Nat.add_pos_left hsecs more), tick_pendingState hmore,
    tick_pendingState hsecs, hblocks, hafter]
  have happend : ∀ blocks blocks', recordsOf settings evidence context samples (blocks ++ blocks') =
      recordsOf settings evidence context samples blocks ++
        recordsOf settings evidence context samples blocks' :=
    fun blocks blocks' => List.flatMap_append
  rw [happend, List.append_right_inj]

section Cut

variable (hreward : context.fixedPlayerReward = context.fixedBlockReward)
  (hsome : context.fixedBlockReward ≠ 0) (hsecs : 0 < secs) (hmore : 0 < more)
  (hfits : TickFits settings context samples (secs + more) (firstBlock context pendingState))

include hfits

/-- What is left of whole blocks behind the first one. -/
theorem blockAfter_full (hfull : neededSecs settings pendingState ≤ secs) :
    blockAfter settings evidence context activeMapping samples secs
        (firstBlock context pendingState) =
      if (secs - neededSecs settings pendingState) % tickRewardBlockSecs settings = 0 then {}
      else
        sampledFor settings activeMapping samples (freshBlock context)
          ((secs - neededSecs settings pendingState) % tickRewardBlockSecs settings) := by
  have hfill := @secsToFill_firstBlock settings context pendingState
  rw [← hfill] at hfull ⊢
  have hfirst := hfits.mono (Nat.le_add_right secs more)
  have hwhole := @pass_full settings evidence context activeMapping samples _ _ hfull
    (hfirst.word hfull)
  rw [hwhole.2, blockAfter_next (hfirst.word hfull)]

include hreward hmore

/-- At the end of a block, the second tick starts the next one on its own. -/
theorem goOnAlike_atEnd (hfull : neededSecs settings pendingState ≤ secs)
    (hend : (secs - neededSecs settings pendingState) % tickRewardBlockSecs settings = 0) :
    GoOnAlike settings evidence context activeMapping samples more
        (goesOn context (blockAfter settings evidence context activeMapping samples secs
          (firstBlock context pendingState)))
        (firstBlock context (openState (blockAfter settings evidence context activeMapping samples
          secs (firstBlock context pendingState)))) ↔
      context.rewardAdjustmentPeriodIndex = context.adjustmentCycleIndex ∨
        tickRewardBlockSecs settings ≤ more ∧
          (context.adjustmentCycleIndex = 0 ∨ activeMapping = none) := by
  have hafter := @blockAfter_full settings evidence context activeMapping samples pendingState
    secs more hfits hfull
  rw [if_pos hend] at hafter
  have hgoes : goesOn context {} =
      (PendingPlayerRewardBlockState.startedBy context {}).settled := freshBlock_eq hreward
  have hnone : openState {} = none := rfl
  rw [hafter, hgoes, hnone, firstBlock_none]
  have hfill : secsToFill settings (PendingPlayerRewardBlockState.startedBy context {}) =
      tickRewardBlockSecs settings := secsToFill_of_unsampled rfl
  have hword : tickRewardBlockSecs settings ≤ more → tickRewardBlockSecs settings < 2 ^ 64 := by
    intro hroom
    have hbehind := hfits.2.1
    rw [secsToFill_firstBlock] at hbehind
    change 0 + min (secs + more - neededSecs settings pendingState)
      (tickRewardBlockSecs settings) < 2 ^ 64 at hbehind
    omega
  have hsettled := @goOnAlike_settled_iff settings evidence context activeMapping samples more
    (PendingPlayerRewardBlockState.startedBy context {}) hmore fun hroom => hword (hfill ▸ hroom)
  rw [hfill] at hsettled
  change _ ↔ context.rewardAdjustmentPeriodIndex = context.adjustmentCycleIndex ∨
    tickRewardBlockSecs settings ≤ more ∧
      (context.adjustmentCycleIndex = 0 ∨ activeMapping = none ∧ [] = []) at hsettled
  rw [and_iff_left rfl] at hsettled
  exact ⟨fun h => hsettled.mp h.symm, fun h => (hsettled.mpr h).symm⟩

omit hmore in
include hsome in
/-- Within a block behind the first one, the cut changes nothing. -/
theorem goOnAlike_behind (hfull : neededSecs settings pendingState ≤ secs)
    (hinside : (secs - neededSecs settings pendingState) % tickRewardBlockSecs settings ≠ 0) :
    GoOnAlike settings evidence context activeMapping samples more
        (goesOn context (blockAfter settings evidence context activeMapping samples secs
          (firstBlock context pendingState)))
        (firstBlock context (openState (blockAfter settings evidence context activeMapping samples
          secs (firstBlock context pendingState)))) := by
  have hafter := @blockAfter_full settings evidence context activeMapping samples pendingState
    secs more hfits hfull
  rw [if_neg hinside] at hafter
  have hpos := Nat.pos_of_ne_zero hinside
  have hfresh : Rewarded (freshBlock context) := by
    rw [freshBlock_eq hreward]
    exact ⟨hreward, hsome⟩
  rw [hafter, goesOn_sampled _ hpos, openState_sampled _ hpos, firstBlock_sampled hfresh hpos,
    PendingPlayerRewardBlockState.settled_eq_iff.mpr rfl]
  exact ⟨rfl, rfl⟩

include hsecs hsome in
/-- Within the first block, the second tick settles the cycle. -/
theorem goOnAlike_first (hshort : secs < neededSecs settings pendingState) :
    GoOnAlike settings evidence context activeMapping samples more
        (goesOn context (blockAfter settings evidence context activeMapping samples secs
          (firstBlock context pendingState)))
        (firstBlock context (openState (blockAfter settings evidence context activeMapping samples
          secs (firstBlock context pendingState)))) ↔
      (firstBlock context pendingState).rewardAdjustmentPeriodIndex =
          (firstBlock context pendingState).adjustmentCycleIndex ∨
        neededSecs settings pendingState ≤ secs + more ∧
          ((firstBlock context pendingState).adjustmentCycleIndex = 0 ∨
            activeMapping = none ∧ (pendingState.getD {}).entries = []) := by
  have hfill := @secsToFill_firstBlock settings context pendingState
  rw [← hfill] at hshort ⊢
  have hafter := (@pass_short settings evidence context activeMapping samples _ _ hsecs hshort).2
  have hrewarded := @rewarded_firstBlock context pendingState hreward hsome
  have hsampled := @sampledFor_secs settings activeMapping samples _ _
    (hfits.1.mono (show secs ≤ _ by omega))
  have hleft : secsToFill settings (sampledFor settings activeMapping samples
      (firstBlock context pendingState) secs) =
        secsToFill settings (firstBlock context pendingState) - secs := by
    unfold secsToFill at hshort ⊢
    omega
  have hword : secsToFill settings (sampledFor settings activeMapping samples
      (firstBlock context pendingState) secs) ≤ more → tickRewardBlockSecs settings < 2 ^ 64 := by
    rw [hleft]
    intro hroom
    exact hfits.word (by omega)
  have hsettled := @goOnAlike_settled_iff settings evidence context activeMapping samples more _
    hmore hword
  rw [hleft, sampledFor_entries_eq_nil_iff, firstBlock_entries] at hsettled
  rw [hafter, goesOn_sampled _ hsecs, openState_sampled _ hsecs, firstBlock_sampled hrewarded hsecs,
    hsettled]
  have hroom : secsToFill settings (firstBlock context pendingState) - secs ≤ more ↔
      secsToFill settings (firstBlock context pendingState) ≤ secs + more := by omega
  rw [hroom]
  change _ ∨ _ ∧ (_ ∨ activeMapping = none ∧ activeMapping = none ∧ _) ↔ _
  rw [← and_assoc, and_self]
  rfl

end Cut

end Law

end Split

namespace TickSample

end TickSample

end PoleProtocol.Node
