import PoleProtocol.Node.PlayerTick

/-!
# Collect ticks

A tick of the daemon works on the progress of the node in memory: it moves the fixed player reward
to the current adjustment cycle, takes the pending reward block out and puts the next one back, adds
up the completed blocks, and advances the cursor. In between it calls out to files, the network and
the other services. Each such call is given by its outcome, and an error ends the tick.
-/

namespace PoleProtocol.Node

open Framework Ledger

structure LocalNodeProgress where
  nextEpochId : ℕ
  nextSlotId : ℕ
  ticksCompleted : ℕ
  rewardBlocksCompleted : ℕ
  currentRewardAdjustmentPeriodIndex : ℕ
  currentAdjustmentCycleIndex : ℕ
  currentFixedBlockReward : ℕ
  currentFixedPlayerReward : ℕ
  currentFixedBlockRewardBasisPeriodIndex : ℕ
  currentFixedPlayerRewardBasisCycleIndex : ℕ
  currentFixedBlockRewardBasisNetworkWeightUnits : ℕ
  currentFixedPlayerRewardBasisTotalNetworkWeightUnits : ℕ
  previousRewardAdjustmentPeriodNetworkWeightUnits : ℕ
  previousAdjustmentCycleTotalNetworkWeightUnits : ℕ
  currentRewardAdjustmentPeriodNetworkWeightUnits : ℕ
  currentAdjustmentCycleTotalNetworkWeightUnits : ℕ
  pendingRewardBlock : Option PendingPlayerRewardBlockState
  deriving DecidableEq

/-- The errors a tick can end with. -/
inductive NodeDaemonError where
  | config (message : String)
  | runtime (message : String)
  | storage (message : String)
  | aggregation (message : String)
  | reward (message : String)
  | verification (message : String)
  | storageAudit (message : String)
  | steam (message : String)
  | io (message : String)
  | json (message : String)
  | noTargetApps
  deriving DecidableEq

structure CollectTickConfig where
  reward : RewardConfig
  targetAppIds : List ℕ
  slotsPerEpoch : ℕ
  defaultEpochId : ℕ
  defaultSlotId : ℕ

/-- What happens to a call that only succeeds or fails. -/
abbrev Outcome := Except NodeDaemonError Unit

/-- The outcomes of the calls that need an attached network. -/
structure NetworkOutcomes where
  nodeId : Outcome
  registerPeer : Outcome
  collectStoreAndPublishSamples : Outcome
  ingestPeerBatchAnnouncements : Outcome
  publishStorageChallenge : Outcome
  summarizeTopology : Outcome

/-- What a tick finds outside: the activated parameters, the stored sessions, the running games, the
seconds since the last tick, and the outcome of each call. -/
structure TickCalls where
  activated : Option ProtocolParams
  evidence : EvidenceStore
  activeMapping : Option ActiveGameMapping
  foregroundProcess : Option String
  activeGameProcesses : List String
  collectIntervalSecs : ℕ
  network : Option NetworkOutcomes
  loadRetentionBook : Outcome
  loadActivitySourceHealth : Outcome
  collectActivitySamples : Except NodeDaemonError (List ActivitySample)
  saveActivitySourceHealth : Outcome
  persistAdjustmentCycleArtifact : Outcome
  savePlayerRewardTick : Outcome
  collectAndStoreSamples : Outcome
  writePayloadFile : Outcome
  saveRetentionBook : Outcome
  persistCollectTickArtifact : Outcome
  buildTickEpochArtifacts : Outcome
  saveProgress : Outcome
  auditLocalRetention : Outcome
  currentUnixMillis : Outcome
  pruneRetention : Outcome
  saveHeartbeat : Outcome

structure CollectTickResult where
  progress : LocalNodeProgress
  playerRewardTickArtifact : PlayerRewardTickArtifact

/-! ## The progress of a node -/

namespace LocalNodeProgress

variable (progress : LocalNodeProgress)

def adjustmentCycleIndex (blocksPerPeriod : ℕ) : ℕ :=
  progress.rewardBlocksCompleted / max blocksPerPeriod 1

def setCurrentAdjustmentCycleIndex (cycleIndex : ℕ) : LocalNodeProgress :=
  { progress with
    currentAdjustmentCycleIndex := cycleIndex
    currentRewardAdjustmentPeriodIndex := cycleIndex }

def setCurrentFixedPlayerReward (fixedPlayerReward : ℕ) : LocalNodeProgress :=
  { progress with
    currentFixedPlayerReward := fixedPlayerReward
    currentFixedBlockReward := fixedPlayerReward }

def setFixedPlayerRewardBasis (basisCycleIndex basisTotalNetworkWeightUnits : ℕ) :
    LocalNodeProgress :=
  { progress with
    currentFixedPlayerRewardBasisCycleIndex := basisCycleIndex
    currentFixedPlayerRewardBasisTotalNetworkWeightUnits := basisTotalNetworkWeightUnits
    currentFixedBlockRewardBasisPeriodIndex := basisCycleIndex
    currentFixedBlockRewardBasisNetworkWeightUnits := basisTotalNetworkWeightUnits }

def setPreviousAdjustmentCycleTotal (totalNetworkWeightUnits : ℕ) : LocalNodeProgress :=
  { progress with
    previousAdjustmentCycleTotalNetworkWeightUnits := totalNetworkWeightUnits
    previousRewardAdjustmentPeriodNetworkWeightUnits := totalNetworkWeightUnits }

def setCurrentAdjustmentCycleTotal (totalNetworkWeightUnits : ℕ) : LocalNodeProgress :=
  { progress with
    currentAdjustmentCycleTotalNetworkWeightUnits := totalNetworkWeightUnits
    currentRewardAdjustmentPeriodNetworkWeightUnits := totalNetworkWeightUnits }

def advance (slotsPerEpoch : ℕ) : LocalNodeProgress :=
  if slotsPerEpoch ≤ progress.nextSlotId then
    { progress with
      ticksCompleted := progress.ticksCompleted + 1
      nextEpochId := progress.nextEpochId + 1
      nextSlotId := 1 }
  else
    { progress with
      ticksCompleted := progress.ticksCompleted + 1
      nextSlotId := progress.nextSlotId + 1 }

/-- The progress of a node that has none stored. -/
def defaultFromConfig (config : CollectTickConfig) (activated : Option ProtocolParams) :
    LocalNodeProgress where
  nextEpochId := config.defaultEpochId
  nextSlotId := config.defaultSlotId
  ticksCompleted := 0
  rewardBlocksCompleted := 0
  currentRewardAdjustmentPeriodIndex := 0
  currentAdjustmentCycleIndex := 0
  currentFixedBlockReward := RewardSettings.effectivePlayerBlockReward ⟨config.reward, activated⟩
  currentFixedPlayerReward := RewardSettings.effectivePlayerBlockReward ⟨config.reward, activated⟩
  currentFixedBlockRewardBasisPeriodIndex := 0
  currentFixedPlayerRewardBasisCycleIndex := 0
  currentFixedBlockRewardBasisNetworkWeightUnits := 0
  currentFixedPlayerRewardBasisTotalNetworkWeightUnits := 0
  previousRewardAdjustmentPeriodNetworkWeightUnits := 0
  previousAdjustmentCycleTotalNetworkWeightUnits := 0
  currentRewardAdjustmentPeriodNetworkWeightUnits := 0
  currentAdjustmentCycleTotalNetworkWeightUnits := 0
  pendingRewardBlock := none

end LocalNodeProgress

/-! ## The fixed player reward -/

def baseFixedPlayerReward (settings : RewardSettings) : ℕ :=
  max settings.effectivePlayerBlockReward 1

/-- A reward that was never set starts from the base. -/
def withInitialReward (settings : RewardSettings) (progress : LocalNodeProgress) :
    LocalNodeProgress :=
  if progress.currentFixedPlayerReward = 0 then
    progress.setCurrentFixedPlayerReward (baseFixedPlayerReward settings)
  else progress

/-- Move to another cycle: the weight of the previous one becomes the basis of the reward. -/
def enterCycle (settings : RewardSettings) (progress : LocalNodeProgress) (cycleIndex : ℕ) :
    LocalNodeProgress :=
  let previousWeight := progress.currentAdjustmentCycleTotalNetworkWeightUnits
  let previousIndex := progress.currentAdjustmentCycleIndex
  let base := baseFixedPlayerReward settings
  let fixedBlockReward :=
    if previousWeight = 0 then base
    else
      adjustedPlayerBlockReward base settings.effectiveTargetNetworkWeightUnits previousWeight
        settings.effectiveRewardAdjustmentCapBps
  let progress := progress.setPreviousAdjustmentCycleTotal previousWeight
  let progress := progress.setCurrentAdjustmentCycleTotal 0
  let progress := progress.setCurrentAdjustmentCycleIndex cycleIndex
  let progress := progress.setCurrentFixedPlayerReward (max fixedBlockReward 1)
  progress.setFixedPlayerRewardBasis previousIndex previousWeight

/-- The progress after the reward of the cycle is settled, and the reward. -/
def currentFixedBlockReward (settings : RewardSettings) (progress : LocalNodeProgress)
    (cycleIndex : ℕ) : LocalNodeProgress × ℕ :=
  let base := baseFixedPlayerReward settings
  let progress := withInitialReward settings progress
  if progress.rewardBlocksCompleted = 0 then
    let progress := progress.setCurrentAdjustmentCycleIndex cycleIndex
    let progress := progress.setCurrentFixedPlayerReward base
    (progress.setFixedPlayerRewardBasis cycleIndex 0, base)
  else if cycleIndex ≠ progress.currentAdjustmentCycleIndex then
    let progress := enterCycle settings progress cycleIndex
    (progress, progress.currentFixedPlayerReward)
  else (progress, max progress.currentFixedPlayerReward 1)

/-- The first record of each block. -/
def firstOfEachBlock : (seenBlockIndices : Finset ℕ) → List PlayerRewardBlockRecord →
    List PlayerRewardBlockRecord
  | _, [] => []
  | seen, record :: records =>
      if record.blockIndex ∈ seen then firstOfEachBlock seen records
      else record :: firstOfEachBlock (insert record.blockIndex seen) records

def completedCycleTotalNetworkWeightUnits (artifact : PlayerRewardTickArtifact) : ℕ :=
  sumAmounts ((firstOfEachBlock ∅ artifact.records).map (·.totalNetworkWeightUnits))

/-! ## A tick -/

section Tick

variable (config : CollectTickConfig) (calls : TickCalls)

def TickCalls.settings : RewardSettings := ⟨config.reward, calls.activated⟩

/-- The cycle that the completed blocks have come to. -/
def tickCycleIndex (progress : LocalNodeProgress) : ℕ :=
  progress.adjustmentCycleIndex config.reward.rewardAdjustmentPeriodBlocks

/-- The progress with the reward of its cycle. -/
def settledProgress (progress : LocalNodeProgress) : LocalNodeProgress :=
  (currentFixedBlockReward (calls.settings config) progress (tickCycleIndex config progress)).1

def tickContext (progress : LocalNodeProgress) : RewardTickContext :=
  let cycleIndex := tickCycleIndex config progress
  let (settled, fixedBlockReward) :=
    currentFixedBlockReward (calls.settings config) progress cycleIndex
  { epochId := settled.nextEpochId
    slotId := settled.nextSlotId
    sessionId := ""
    sampledIntervalSecs := max calls.collectIntervalSecs 1
    fixedBlockReward
    fixedPlayerReward := fixedBlockReward
    rewardAdjustmentPeriodIndex := cycleIndex
    adjustmentCycleIndex := cycleIndex
    fixedPlayerRewardBasisCycleIndex := settled.currentFixedBlockRewardBasisPeriodIndex
    fixedPlayerRewardBasisTotalNetworkWeightUnits :=
      settled.currentFixedBlockRewardBasisNetworkWeightUnits }

/-- The player reward tick over the samples; it starts from the pending block. -/
def playerRewardTick (progress : LocalNodeProgress) (samples : List ActivitySample) :
    PlayerRewardTickComputation :=
  recordPlayerRewardTick (calls.settings config) calls.evidence (tickContext config calls progress)
    calls.activeMapping samples progress.pendingRewardBlock calls.foregroundProcess
    calls.activeGameProcesses

/-- What the tick reads before it touches the progress. -/
def openTick : Except NodeDaemonError (List ActivitySample) := do
  if config.targetAppIds = [] then throw .noTargetApps
  calls.loadRetentionBook
  calls.loadActivitySourceHealth
  let samples ← calls.collectActivitySamples
  calls.saveActivitySourceHealth
  return samples

/-- Settle the reward of the cycle and record the play of the tick. -/
def collectTickContext (samples : List ActivitySample) (progress : LocalNodeProgress) :
    LocalNodeProgress × Except NodeDaemonError PlayerRewardTickArtifact :=
  let settled := settledProgress config calls progress
  match calls.persistAdjustmentCycleArtifact with
  | .error e => (settled, .error e)
  | .ok () =>
      let tick := playerRewardTick config calls progress samples
      match calls.savePlayerRewardTick with
      | .error e => ({ settled with pendingRewardBlock := none }, .error e)
      | .ok () => ({ settled with pendingRewardBlock := tick.pendingState }, .ok tick.artifact)

/-- Store and publish the batch, read the inbox, and write what belongs to the epoch. -/
def publishTick : Outcome := do
  match calls.network with
  | some network =>
      network.nodeId
      network.registerPeer
      network.collectStoreAndPublishSamples
  | none => calls.collectAndStoreSamples
  calls.writePayloadFile
  match calls.network with
  | some network => network.ingestPeerBatchAnnouncements
  | none => pure ()
  calls.saveRetentionBook
  calls.persistCollectTickArtifact
  calls.buildTickEpochArtifacts

/-- Add up the completed blocks and move the cursor. -/
def completeTick (artifact : PlayerRewardTickArtifact) (progress : LocalNodeProgress) :
    LocalNodeProgress :=
  let progress := progress.setCurrentAdjustmentCycleTotal
    (saturatingAdd128 progress.currentAdjustmentCycleTotalNetworkWeightUnits
      (completedCycleTotalNetworkWeightUnits artifact))
  let progress :=
    { progress with
      rewardBlocksCompleted :=
        saturatingAdd64 progress.rewardBlocksCompleted artifact.completedRewardBlockCount }
  progress.advance config.slotsPerEpoch

/-- Save the progress, audit the retained payloads and write the heartbeat. -/
def closeTick : Outcome := do
  calls.saveProgress
  calls.auditLocalRetention
  match calls.network with
  | some network => network.publishStorageChallenge
  | none => pure ()
  calls.currentUnixMillis
  calls.pruneRetention
  match calls.network with
  | some network =>
      network.nodeId
      network.summarizeTopology
  | none => pure ()
  calls.saveHeartbeat

/-- A tick gives the progress it leaves in memory, also where it fails. -/
def runCollectTickWithClientInner (progress : LocalNodeProgress) :
    LocalNodeProgress × Except NodeDaemonError CollectTickResult :=
  match openTick config calls with
  | .error e => (progress, .error e)
  | .ok samples =>
      match collectTickContext config calls samples progress with
      | (collected, .error e) => (collected, .error e)
      | (collected, .ok artifact) =>
          match publishTick calls with
          | .error e => (collected, .error e)
          | .ok () =>
              let completed := completeTick config artifact collected
              match closeTick calls with
              | .error e => (completed, .error e)
              | .ok () => (completed, .ok ⟨completed, artifact⟩)

def runCollectTickWithClient (progress : LocalNodeProgress) :
    LocalNodeProgress × Except NodeDaemonError CollectTickResult :=
  runCollectTickWithClientInner config { calls with network := none } progress

def runCollectTickWithClientAndNetwork (network : NetworkOutcomes) (progress : LocalNodeProgress) :
    LocalNodeProgress × Except NodeDaemonError CollectTickResult :=
  runCollectTickWithClientInner config { calls with network := some network } progress

end Tick

end PoleProtocol.Node
