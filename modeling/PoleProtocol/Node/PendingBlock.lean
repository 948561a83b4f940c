import PoleProtocol.Node.TickSeconds

/-!
# The pending block after a tick

A tick leaves a pending block when its seconds end within a reward block. If it completed a block
on the way, the pending block was started in the tick, and it holds the seconds past the last full
block and nothing from before.
-/

namespace PoleProtocol.Node

open Framework Ledger

section Passes

variable (settings : RewardSettings) (evidence : EvidenceStore) (context : RewardTickContext)
  (activeMapping : Option ActiveGameMapping) (samples : List ActivitySample)

/-- A block that was started for the reward of a cycle and has been sampled since. -/
def partialBlock (fixedPlayerReward adjustmentCycleIndex secs : ℕ) :
    PendingPlayerRewardBlockState where
  sampledIntervalSecs := secs
  totalNetworkWeightUnits := settings.networkWeightUnitsForDuration samples secs
  totalAdjustmentCycleNetworkWeightUnits := settings.networkWeightUnitsForDuration samples secs
  fixedBlockReward := fixedPlayerReward
  fixedPlayerReward
  rewardAdjustmentPeriodIndex := adjustmentCycleIndex
  adjustmentCycleIndex
  entries :=
    match activeMapping with
    | some mapping => [⟨mapping.processName, mapping.appId, mapping.gameCoefficientPpm, secs⟩]
    | none => []

/-- The block with the seconds past the last full one, if there are any. -/
def openBlock (fixedPlayerReward adjustmentCycleIndex secs : ℕ) :
    Option PendingPlayerRewardBlockState :=
  if secs = 0 then none
  else
    some (partialBlock settings activeMapping samples fixedPlayerReward adjustmentCycleIndex secs)

/-- What the first block of a tick still needs. -/
def neededSecs (pendingState : Option PendingPlayerRewardBlockState) : ℕ :=
  max (tickRewardBlockSecs settings -
    ((pendingState.map (·.sampledIntervalSecs)).getD 0)) 1

/-- The pending block that a loop hands on. -/
def TickLoop.pendingState (loop : TickLoop) : Option PendingPlayerRewardBlockState :=
  if 0 < loop.pending.sampledIntervalSecs then some loop.pending else none

variable {settings evidence context activeMapping samples}

theorem networkWeightUnitsForDuration_lt (secs : ℕ) :
    settings.networkWeightUnitsForDuration samples secs < 2 ^ 128 :=
  Nat.mod_lt _ (Nat.two_pow_pos 128)

theorem freshBlock_of_settled (hreward : context.fixedPlayerReward = context.fixedBlockReward)
    (hcycle : context.adjustmentCycleIndex = context.rewardAdjustmentPeriodIndex) :
    freshBlock context =
      { fixedBlockReward := context.fixedBlockReward
        fixedPlayerReward := context.fixedBlockReward
        rewardAdjustmentPeriodIndex := context.rewardAdjustmentPeriodIndex
        adjustmentCycleIndex := context.rewardAdjustmentPeriodIndex } := by
  simp [freshBlock, PendingPlayerRewardBlockState.startedBy,
    PendingPlayerRewardBlockState.normalizeWhitepaperFields, hreward, hcycle]

/-- A block that is started in a tick and does not fill up. -/
theorem sampledFor_fresh (hreward : context.fixedPlayerReward = context.fixedBlockReward)
    (hcycle : context.adjustmentCycleIndex = context.rewardAdjustmentPeriodIndex) {secs : ℕ}
    (hword : secs < 2 ^ 64) :
    sampledFor settings activeMapping samples (freshBlock context) secs =
      partialBlock settings activeMapping samples context.fixedBlockReward
        context.rewardAdjustmentPeriodIndex secs := by
  have hweight := @networkWeightUnitsForDuration_lt settings samples secs
  have hadd64 : saturatingAdd64 0 secs = secs := by
    rw [saturatingAdd64_of_lt (by omega), Nat.zero_add]
  have hadd128 : saturatingAdd128 0 (settings.networkWeightUnitsForDuration samples secs) =
      settings.networkWeightUnitsForDuration samples secs := by
    rw [saturatingAdd128_of_lt (by omega), Nat.zero_add]
  unfold sampledFor partialBlock
  rw [freshBlock_of_settled hreward hcycle]
  cases activeMapping with
  | none => simp [hadd64, hadd128]
  | some mapping => simp [hadd64, hadd128, creditPlay]

theorem firstBlock_sampledIntervalSecs
    (pendingState : Option PendingPlayerRewardBlockState) :
    (firstBlock context pendingState).sampledIntervalSecs =
      (pendingState.map (·.sampledIntervalSecs)).getD 0 := by
  unfold firstBlock
  cases pendingState with
  | none =>
      dsimp only
      split <;> rfl
  | some pending =>
      dsimp only
      split <;> rfl

theorem secsToFill_firstBlock (pendingState : Option PendingPlayerRewardBlockState) :
    secsToFill settings (firstBlock context pendingState) = neededSecs settings pendingState := by
  unfold secsToFill neededSecs
  rw [firstBlock_sampledIntervalSecs]

theorem chunkSecs_tickStart (pendingState : Option PendingPlayerRewardBlockState) :
    chunkSecs settings (tickStart context pendingState) =
      min (max context.sampledIntervalSecs 1) (neededSecs settings pendingState) := by
  rw [chunkSecs_eq, ← @secsToFill_firstBlock settings context]
  rfl

theorem sampledBlock_tickStart_secs (pendingState : Option PendingPlayerRewardBlockState) :
    (sampledBlock settings activeMapping samples
        (tickStart context pendingState)).sampledIntervalSecs =
      saturatingAdd64 ((pendingState.map (·.sampledIntervalSecs)).getD 0)
        (min (max context.sampledIntervalSecs 1) (neededSecs settings pendingState)) := by
  rw [← chunkSecs_tickStart, ← @firstBlock_sampledIntervalSecs context]
  rfl

/-- A tick that completes a block hands on the seconds past its last one; another tick adds to the
pending block. -/
theorem tickEnd_pendingState (hreward : context.fixedPlayerReward = context.fixedBlockReward)
    (hcycle : context.adjustmentCycleIndex = context.rewardAdjustmentPeriodIndex)
    (hword : tickRewardBlockSecs settings < 2 ^ 64)
    (pendingState : Option PendingPlayerRewardBlockState) :
    (tickEnd settings evidence context activeMapping samples pendingState).pendingState =
      if neededSecs settings pendingState ≤ max context.sampledIntervalSecs 1 then
        openBlock settings activeMapping samples context.fixedBlockReward
          context.rewardAdjustmentPeriodIndex
          ((max context.sampledIntervalSecs 1 - neededSecs settings pendingState) %
            tickRewardBlockSecs settings)
      else
        some (sampledBlock settings activeMapping samples (tickStart context pendingState)) := by
  have hpos : 0 < max context.sampledIntervalSecs 1 :=
    Nat.lt_of_lt_of_le Nat.zero_lt_one (le_max_right _ _)
  have hfill := @secsToFill_firstBlock settings context pendingState
  have hblock := @tickRewardBlockSecs_pos settings
  -- what the loop ends with is the block after the seconds of the tick
  change (if 0 < (blockAfter settings evidence context activeMapping samples
      (max context.sampledIntervalSecs 1)
      (firstBlock context pendingState)).sampledIntervalSecs then
    some (blockAfter settings evidence context activeMapping samples
      (max context.sampledIntervalSecs 1) (firstBlock context pendingState)) else none) = _
  by_cases hneeded : neededSecs settings pendingState ≤ max context.sampledIntervalSecs 1
  · have hwhole := @pass_full settings evidence context activeMapping samples
      (max context.sampledIntervalSecs 1) (firstBlock context pendingState) (by omega) hword
    rw [if_pos hneeded, hwhole.2, hfill, blockAfter_next hword, openBlock]
    have hrest := Nat.mod_lt
      (max context.sampledIntervalSecs 1 - neededSecs settings pendingState) hblock
    by_cases hend : (max context.sampledIntervalSecs 1 - neededSecs settings pendingState) %
        tickRewardBlockSecs settings = 0
    · rw [if_pos hend, if_pos hend]
      rfl
    · rw [if_neg hend, if_neg hend, if_pos (sampledFor_pos _ (Nat.pos_of_ne_zero hend)),
        sampledFor_fresh hreward hcycle (hrest.trans hword)]
  · have hshort := @pass_short settings evidence context activeMapping samples
      (max context.sampledIntervalSecs 1) (firstBlock context pendingState) hpos (by omega)
    rw [if_neg hneeded, hshort.2, if_pos (sampledFor_pos _ hpos), sampledBlock_eq,
      chunkSecs_tickStart, min_eq_left (by omega)]
    rfl

end Passes

end PoleProtocol.Node
