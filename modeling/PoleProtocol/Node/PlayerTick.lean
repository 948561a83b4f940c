import PoleProtocol.Node.Evidence
import PoleProtocol.Node.RewardSettings

/-!
# Player reward ticks

A collect tick adds its sampled seconds to the pending reward block. A block that is full is
closed: each of its play entries gets a record with its share of the fixed player reward, and the
next block starts. The fields that keep an older name of another field are written with it and left
out of the records.
-/

namespace PoleProtocol.Node

open Framework Ledger OrderedMap

structure PendingPlayerRewardEntry where
  processName : String
  appId : ℕ
  gameCoefficientPpm : ℕ
  playSeconds : ℕ
  deriving DecidableEq

structure PendingPlayerRewardBlockState where
  sampledIntervalSecs : ℕ := 0
  totalNetworkWeightUnits : ℕ := 0
  totalAdjustmentCycleNetworkWeightUnits : ℕ := 0
  fixedBlockReward : ℕ := 0
  fixedPlayerReward : ℕ := 0
  rewardAdjustmentPeriodIndex : ℕ := 0
  adjustmentCycleIndex : ℕ := 0
  entries : List PendingPlayerRewardEntry := []
  deriving DecidableEq

structure RewardTickContext where
  epochId : ℕ
  slotId : ℕ
  /-- The session the blocks are backed by; empty for the stored sessions of the slot. -/
  sessionId : String
  sampledIntervalSecs : ℕ
  fixedBlockReward : ℕ
  fixedPlayerReward : ℕ
  rewardAdjustmentPeriodIndex : ℕ
  adjustmentCycleIndex : ℕ
  fixedPlayerRewardBasisCycleIndex : ℕ
  fixedPlayerRewardBasisTotalNetworkWeightUnits : ℕ

structure PlayerRewardBlockRecord where
  epochId : ℕ
  slotId : ℕ
  blockIndex : ℕ
  processName : String
  appId : ℕ
  sessionId : String
  playSeconds : ℕ
  rewardBlockSecs : ℕ
  sampledIntervalSecs : ℕ
  gameCoefficientPpm : ℕ
  observedNetworkPlayers : ℕ
  playerWeightUnits : ℕ
  totalNetworkWeightUnits : ℕ
  adjustmentCycleIndex : ℕ
  adjustmentCycleBlocks : ℕ
  targetTotalNetworkWeightUnits : ℕ
  rewardAdjustmentCapBps : ℕ
  fixedPlayerRewardBasisCycleIndex : ℕ
  fixedPlayerRewardBasisTotalNetworkWeightUnits : ℕ
  fixedPlayerReward : ℕ
  playerReward : ℕ
  deriving DecidableEq

structure PlayerRewardTickArtifact where
  epochId : ℕ
  slotId : ℕ
  sampledIntervalSecs : ℕ
  rewardBlockSecs : ℕ
  adjustmentCycleIndex : ℕ
  adjustmentCycleBlocks : ℕ
  completedRewardBlockCount : ℕ
  fixedPlayerRewardBasisCycleIndex : ℕ
  fixedPlayerRewardBasisTotalNetworkWeightUnits : ℕ
  fixedPlayerReward : ℕ
  foregroundProcess : Option String
  activeGameProcesses : List String
  records : List PlayerRewardBlockRecord
  totalPlayerReward : ℕ
  deriving DecidableEq

structure PlayerRewardTickComputation where
  artifact : PlayerRewardTickArtifact
  pendingState : Option PendingPlayerRewardBlockState

/-- The mapped game that a tick finds running: process, app and coefficient. -/
structure ActiveGameMapping where
  processName : String
  appId : ℕ
  gameCoefficientPpm : ℕ
  deriving DecidableEq

/-- Fields that are zero take the value of their older name, which then follows them. -/
def PendingPlayerRewardBlockState.normalizeWhitepaperFields
    (pending : PendingPlayerRewardBlockState) : PendingPlayerRewardBlockState :=
  let weight :=
    if pending.totalAdjustmentCycleNetworkWeightUnits = 0 then pending.totalNetworkWeightUnits
    else pending.totalAdjustmentCycleNetworkWeightUnits
  let reward :=
    if pending.fixedPlayerReward = 0 then pending.fixedBlockReward else pending.fixedPlayerReward
  let cycle :=
    if pending.adjustmentCycleIndex = 0 then pending.rewardAdjustmentPeriodIndex
    else pending.adjustmentCycleIndex
  { pending with
    totalNetworkWeightUnits := weight
    totalAdjustmentCycleNetworkWeightUnits := weight
    fixedBlockReward := reward
    fixedPlayerReward := reward
    rewardAdjustmentPeriodIndex := cycle
    adjustmentCycleIndex := cycle }

/-- The reward and the cycle of a block are those of the tick it starts in. -/
def PendingPlayerRewardBlockState.startedBy (context : RewardTickContext)
    (pending : PendingPlayerRewardBlockState) : PendingPlayerRewardBlockState :=
  { pending with
    fixedBlockReward := context.fixedBlockReward
    fixedPlayerReward := context.fixedPlayerReward
    rewardAdjustmentPeriodIndex := context.rewardAdjustmentPeriodIndex
    adjustmentCycleIndex := context.adjustmentCycleIndex }

/-- The share of a pool that falls on a weight. -/
def proportionalAmount (pool weight totalWeight : ℕ) : ℕ :=
  if pool = 0 ∨ weight = 0 ∨ totalWeight = 0 then 0
  else saturatingMul128 pool weight / totalWeight

theorem proportionalAmount_eq {pool weight : ℕ} (hfits : pool * weight < 2 ^ 128)
    (totalWeight : ℕ) :
    proportionalAmount pool weight totalWeight = pool * weight / totalWeight := by
  unfold proportionalAmount
  split
  · next hnothing =>
      rcases hnothing with hpool | hweight | htotal
      · rw [hpool, Nat.zero_mul, Nat.zero_div]
      · rw [hweight, Nat.mul_zero, Nat.zero_div]
      · rw [htotal, Nat.div_zero]
  · rw [saturatingMul128_of_lt hfits]

def entryOrder (left right : PendingPlayerRewardEntry) : Prop :=
  (compare left.processName right.processName).then ((compare left.appId right.appId).then
    (compare left.gameCoefficientPpm right.gameCoefficientPpm)) ≠ .gt

instance : DecidableRel entryOrder := fun _ _ => inferInstanceAs (Decidable (_ ≠ _))

/-- Add the seconds to the entry of the game, or open one for it. -/
def creditPlay (mapping : ActiveGameMapping) (chunkSecs : ℕ) :
    List PendingPlayerRewardEntry → List PendingPlayerRewardEntry
  | [] => [⟨mapping.processName, mapping.appId, mapping.gameCoefficientPpm, chunkSecs⟩]
  | entry :: entries =>
      if entry.appId = mapping.appId ∧ entry.gameCoefficientPpm = mapping.gameCoefficientPpm ∧
          entry.processName = mapping.processName then
        { entry with playSeconds := saturatingAdd64 entry.playSeconds chunkSecs } :: entries
      else entry :: creditPlay mapping chunkSecs entries

/-! ## The loop over the sampled seconds -/

/-- What the loop of a tick carries along. -/
structure TickLoop where
  pending : PendingPlayerRewardBlockState
  completedRecords : List PlayerRewardBlockRecord := []
  completedRewardBlockCount : ℕ := 0
  nextBlockIndex : ℕ := 0
  remainingSecs : ℕ

section Tick

variable (settings : RewardSettings) (evidence : EvidenceStore) (context : RewardTickContext)
  (activeMapping : Option ActiveGameMapping) (samples : List ActivitySample)

def tickRewardBlockSecs : ℕ := max settings.effectiveRewardBlockSecs 1

/-- The seconds of one pass: what the block still needs, or what the tick still has. -/
def chunkSecs (loop : TickLoop) : ℕ :=
  min loop.remainingSecs
    (max (tickRewardBlockSecs settings - loop.pending.sampledIntervalSecs) 1)

/-- The pending block with the seconds of one pass. -/
def sampledBlock (loop : TickLoop) : PendingPlayerRewardBlockState :=
  let chunk := chunkSecs settings loop
  let weight := saturatingAdd128 loop.pending.totalNetworkWeightUnits
    (settings.networkWeightUnitsForDuration samples chunk)
  { loop.pending with
    sampledIntervalSecs := saturatingAdd64 loop.pending.sampledIntervalSecs chunk
    totalNetworkWeightUnits := weight
    totalAdjustmentCycleNetworkWeightUnits := weight
    entries :=
      match activeMapping with
      | some mapping => creditPlay mapping chunk loop.pending.entries
      | none => loop.pending.entries }

def blockRecord (block : PendingPlayerRewardBlockState) (blockIndex : ℕ)
    (entry : PendingPlayerRewardEntry) : PlayerRewardBlockRecord :=
  let playerWeightUnits := saturatingMul128 entry.playSeconds entry.gameCoefficientPpm
  { epochId := context.epochId
    slotId := context.slotId
    blockIndex
    processName := entry.processName
    appId := entry.appId
    sessionId :=
      if context.sessionId = "" then
        ((evidence.localSessionIdsForSlot context.epochId context.slotId)[entry.appId]?).getD ""
      else context.sessionId
    playSeconds := entry.playSeconds
    rewardBlockSecs := tickRewardBlockSecs settings
    sampledIntervalSecs := tickRewardBlockSecs settings
    gameCoefficientPpm := entry.gameCoefficientPpm
    observedNetworkPlayers :=
      ((samples.find? (·.appId = entry.appId)).map (·.observedPlayers)).getD 0
    playerWeightUnits
    totalNetworkWeightUnits := block.totalNetworkWeightUnits
    adjustmentCycleIndex := block.rewardAdjustmentPeriodIndex
    adjustmentCycleBlocks := settings.reward.rewardAdjustmentPeriodBlocks
    targetTotalNetworkWeightUnits := settings.effectiveTargetNetworkWeightUnits
    rewardAdjustmentCapBps := settings.effectiveRewardAdjustmentCapBps
    fixedPlayerRewardBasisCycleIndex := context.fixedPlayerRewardBasisCycleIndex
    fixedPlayerRewardBasisTotalNetworkWeightUnits :=
      context.fixedPlayerRewardBasisTotalNetworkWeightUnits
    fixedPlayerReward := block.fixedBlockReward
    playerReward :=
      proportionalAmount block.fixedBlockReward playerWeightUnits block.totalNetworkWeightUnits }

/-- One record for each entry of the block. -/
def blockRecords (block : PendingPlayerRewardBlockState) (blockIndex : ℕ) :
    List PlayerRewardBlockRecord :=
  (block.entries.insertionSort entryOrder).map
    (blockRecord settings evidence context samples block blockIndex)

/-- The block after a full one. -/
def nextBlock (remainingSecs : ℕ) : PendingPlayerRewardBlockState :=
  if 0 < remainingSecs then
    (PendingPlayerRewardBlockState.startedBy context {}).normalizeWhitepaperFields
  else {}

/-- The pass fills up the pending block. -/
def completesBlock (loop : TickLoop) : Prop :=
  tickRewardBlockSecs settings ≤
    (sampledBlock settings activeMapping samples loop).sampledIntervalSecs

instance (loop : TickLoop) : Decidable (completesBlock settings activeMapping samples loop) :=
  inferInstanceAs (Decidable (_ ≤ _))

def tickPass (loop : TickLoop) : TickLoop :=
  let block := sampledBlock settings activeMapping samples loop
  let remainingSecs := loop.remainingSecs - chunkSecs settings loop
  if completesBlock settings activeMapping samples loop then
    { pending := nextBlock context remainingSecs
      completedRecords := loop.completedRecords ++
        blockRecords settings evidence context samples block loop.nextBlockIndex
      completedRewardBlockCount := loop.completedRewardBlockCount + 1
      nextBlockIndex := wrap32 (loop.nextBlockIndex + 1)
      remainingSecs }
  else { loop with pending := block, remainingSecs }

/-- Every pass takes at least one second, so the seconds that remain are fuel enough. -/
def tickPasses : (fuel : ℕ) → TickLoop → TickLoop
  | 0, loop => loop
  | fuel + 1, loop =>
      if 0 < loop.remainingSecs then
        tickPasses fuel (tickPass settings evidence context activeMapping samples loop)
      else loop

/-- The pending block the loop starts with. -/
def firstBlock (pendingState : Option PendingPlayerRewardBlockState) :
    PendingPlayerRewardBlockState :=
  let pending := (pendingState.getD {}).normalizeWhitepaperFields
  if pending.fixedBlockReward = 0 ∨ pending.sampledIntervalSecs = 0 then pending.startedBy context
  else pending

def tickStart (pendingState : Option PendingPlayerRewardBlockState) : TickLoop where
  pending := firstBlock context pendingState
  remainingSecs := max context.sampledIntervalSecs 1

def tickEnd (pendingState : Option PendingPlayerRewardBlockState) : TickLoop :=
  tickPasses settings evidence context activeMapping samples (max context.sampledIntervalSecs 1)
    (tickStart context pendingState)

def recordPlayerRewardTick (pendingState : Option PendingPlayerRewardBlockState)
    (foregroundProcess : Option String) (activeGameProcesses : List String) :
    PlayerRewardTickComputation :=
  let loop := tickEnd settings evidence context activeMapping samples pendingState
  { artifact :=
      { epochId := context.epochId
        slotId := context.slotId
        sampledIntervalSecs := max context.sampledIntervalSecs 1
        rewardBlockSecs := tickRewardBlockSecs settings
        adjustmentCycleIndex := context.adjustmentCycleIndex
        adjustmentCycleBlocks := settings.reward.rewardAdjustmentPeriodBlocks
        completedRewardBlockCount := loop.completedRewardBlockCount
        fixedPlayerRewardBasisCycleIndex := context.fixedPlayerRewardBasisCycleIndex
        fixedPlayerRewardBasisTotalNetworkWeightUnits :=
          context.fixedPlayerRewardBasisTotalNetworkWeightUnits
        fixedPlayerReward :=
          (loop.completedRecords.head?.map (·.fixedPlayerReward)).getD
            (max loop.pending.fixedBlockReward context.fixedPlayerReward)
        foregroundProcess
        activeGameProcesses
        records := loop.completedRecords
        totalPlayerReward := sumAmounts (loop.completedRecords.map (·.playerReward)) }
    pendingState := if 0 < loop.pending.sampledIntervalSecs then some loop.pending else none }

end Tick

end PoleProtocol.Node
