import PoleProtocol.Framework.Cycles
import PoleProtocol.Framework.Run
import PoleProtocol.Node.CompletedBlocks

/-!
# The basis of an adjustment cycle

The fixed player reward of an adjustment cycle is set from the network weight of the cycle before.
A node adds that weight up from the records of its ticks. Over a run of successful ticks it is the
weight of the whole cycle, if every block with weight also has play and no tick completes blocks of
another cycle than the one it starts in.
-/

namespace PoleProtocol.Node

open Framework Ledger

/-! ## Settling the reward -/

section Settle

variable (settings : RewardSettings) (progress : LocalNodeProgress)

@[simp] theorem withInitialReward_rewardBlocksCompleted :
    (withInitialReward settings progress).rewardBlocksCompleted =
      progress.rewardBlocksCompleted := by
  unfold withInitialReward
  split <;> rfl

@[simp] theorem withInitialReward_currentAdjustmentCycleIndex :
    (withInitialReward settings progress).currentAdjustmentCycleIndex =
      progress.currentAdjustmentCycleIndex := by
  unfold withInitialReward
  split <;> rfl

@[simp] theorem withInitialReward_currentAdjustmentCycleTotalNetworkWeightUnits :
    (withInitialReward settings progress).currentAdjustmentCycleTotalNetworkWeightUnits =
      progress.currentAdjustmentCycleTotalNetworkWeightUnits := by
  unfold withInitialReward
  split <;> rfl

variable (cycleIndex : ℕ)

@[simp] theorem enterCycle_rewardBlocksCompleted :
    (enterCycle settings progress cycleIndex).rewardBlocksCompleted =
      progress.rewardBlocksCompleted := rfl

@[simp] theorem enterCycle_currentAdjustmentCycleIndex :
    (enterCycle settings progress cycleIndex).currentAdjustmentCycleIndex = cycleIndex := rfl

@[simp] theorem enterCycle_currentAdjustmentCycleTotalNetworkWeightUnits :
    (enterCycle settings progress
      cycleIndex).currentAdjustmentCycleTotalNetworkWeightUnits = 0 := rfl

@[simp] theorem enterCycle_currentFixedPlayerRewardBasisTotalNetworkWeightUnits :
    (enterCycle settings progress
        cycleIndex).currentFixedPlayerRewardBasisTotalNetworkWeightUnits =
      progress.currentAdjustmentCycleTotalNetworkWeightUnits := rfl

variable {settings progress cycleIndex}

theorem currentFixedBlockReward_of_first (hfirst : progress.rewardBlocksCompleted = 0) :
    currentFixedBlockReward settings progress cycleIndex =
      ((((withInitialReward settings progress).setCurrentAdjustmentCycleIndex
        cycleIndex).setCurrentFixedPlayerReward
          (baseFixedPlayerReward settings)).setFixedPlayerRewardBasis cycleIndex 0,
        baseFixedPlayerReward settings) := by
  unfold currentFixedBlockReward
  rw [if_pos (by simpa using hfirst)]

theorem currentFixedBlockReward_of_move (hlater : progress.rewardBlocksCompleted ≠ 0)
    (hmove : cycleIndex ≠ progress.currentAdjustmentCycleIndex) :
    (currentFixedBlockReward settings progress cycleIndex).1 =
      enterCycle settings (withInitialReward settings progress) cycleIndex := by
  unfold currentFixedBlockReward
  rw [if_neg (by simpa using hlater), if_pos (by simpa using hmove)]

theorem currentFixedBlockReward_of_stay (hlater : progress.rewardBlocksCompleted ≠ 0)
    (hstay : cycleIndex = progress.currentAdjustmentCycleIndex) :
    (currentFixedBlockReward settings progress cycleIndex).1 =
      withInitialReward settings progress := by
  unfold currentFixedBlockReward
  rw [if_neg (by simpa using hlater), if_neg (by simpa using hstay)]

end Settle

section Complete

variable (config : CollectTickConfig) (artifact : PlayerRewardTickArtifact)
  (progress : LocalNodeProgress) (slotsPerEpoch : ℕ)

@[simp] theorem advance_rewardBlocksCompleted :
    (progress.advance slotsPerEpoch).rewardBlocksCompleted = progress.rewardBlocksCompleted := by
  unfold LocalNodeProgress.advance
  split <;> rfl

@[simp] theorem advance_currentAdjustmentCycleIndex :
    (progress.advance slotsPerEpoch).currentAdjustmentCycleIndex =
      progress.currentAdjustmentCycleIndex := by
  unfold LocalNodeProgress.advance
  split <;> rfl

@[simp] theorem advance_currentAdjustmentCycleTotalNetworkWeightUnits :
    (progress.advance slotsPerEpoch).currentAdjustmentCycleTotalNetworkWeightUnits =
      progress.currentAdjustmentCycleTotalNetworkWeightUnits := by
  unfold LocalNodeProgress.advance
  split <;> rfl

@[simp] theorem completeTick_rewardBlocksCompleted :
    (completeTick config artifact progress).rewardBlocksCompleted =
      saturatingAdd64 progress.rewardBlocksCompleted artifact.completedRewardBlockCount :=
  advance_rewardBlocksCompleted _ _

@[simp] theorem completeTick_currentAdjustmentCycleIndex :
    (completeTick config artifact progress).currentAdjustmentCycleIndex =
      progress.currentAdjustmentCycleIndex :=
  advance_currentAdjustmentCycleIndex _ _

@[simp] theorem completeTick_currentAdjustmentCycleTotalNetworkWeightUnits :
    (completeTick config artifact progress).currentAdjustmentCycleTotalNetworkWeightUnits =
      saturatingAdd128 progress.currentAdjustmentCycleTotalNetworkWeightUnits
        (completedCycleTotalNetworkWeightUnits artifact) :=
  advance_currentAdjustmentCycleTotalNetworkWeightUnits _ _

end Complete

/-! ## Runs of ticks -/

/-- The fixed player reward moves from one adjustment cycle to another. -/
structure CycleMove where
  fromCycle : ℕ
  toCycle : ℕ
  basisTotalNetworkWeightUnits : ℕ
  deriving DecidableEq

section Runs

variable (config : CollectTickConfig)

/-- The number of reward blocks in an adjustment cycle. -/
def cycleBlocks : ℕ := max config.reward.rewardAdjustmentPeriodBlocks 1

/-- The node goes on with the progress a tick leaves. -/
def tickNext (progress : LocalNodeProgress) (calls : TickCalls) : LocalNodeProgress :=
  (runCollectTickWithClientInner config calls progress).1

def TickSucceeds (progress : LocalNodeProgress) (calls : TickCalls) : Prop :=
  (runCollectTickWithClientInner config calls progress).2.isOk = true

/-- The move that a tick makes, with the basis it records. -/
def cycleMove (progress : LocalNodeProgress) (calls : TickCalls) : Option CycleMove :=
  let settled := settledProgress config calls progress
  if settled.currentAdjustmentCycleIndex = progress.currentAdjustmentCycleIndex then none
  else
    some
      { fromCycle := progress.currentAdjustmentCycleIndex
        toCycle := settled.currentAdjustmentCycleIndex
        basisTotalNetworkWeightUnits :=
          settled.currentFixedPlayerRewardBasisTotalNetworkWeightUnits }

def cycleMoves (progress : LocalNodeProgress) (ticks : List TickCalls) : List CycleMove :=
  (trail (tickNext config) (cycleMove config) progress ticks).reduceOption

/-- The weights of all blocks of a run, in order. -/
def runWeights (progress : LocalNodeProgress) (ticks : List TickCalls) : List ℕ :=
  (trail (tickNext config) (tickWeights config) progress ticks).flatten

/-- Each basis is the weight of all blocks of the cycle it was moved from, and no cycle is moved
from twice. -/
structure WholeCycleBases (progress : LocalNodeProgress) (ticks : List TickCalls) : Prop where
  whole : ∀ move ∈ cycleMoves config progress ticks,
    move.basisTotalNetworkWeightUnits =
      cycleTotal (cycleBlocks config) move.fromCycle 0 (runWeights config progress ticks)
  forward : ∀ move ∈ cycleMoves config progress ticks, move.fromCycle < move.toCycle
  once : (cycleMoves config progress ticks).Pairwise (·.toCycle ≤ ·.fromCycle)

/-- The weight that a tick adds to. -/
def carriedWeight (progress : LocalNodeProgress) : ℕ :=
  if progress.rewardBlocksCompleted ≠ 0 ∧
      tickCycleIndex config progress ≠ progress.currentAdjustmentCycleIndex then 0
  else progress.currentAdjustmentCycleTotalNetworkWeightUnits

/-- A tick completes no block with weight that has no play or belongs to a later cycle, and its
weights and counts fit their words. -/
structure StaysInCycle (progress : LocalNodeProgress) (calls : TickCalls) : Prop where
  played : ∀ block ∈ tickBlocks config progress calls,
    block.totalNetworkWeightUnits = 0 ∨ block.entries ≠ []
  inside : ∀ numbered ∈ (tickWeights config progress calls).zipIdx progress.rewardBlocksCompleted,
    numbered.1 = 0 ∨ numbered.2 / cycleBlocks config = tickCycleIndex config progress
  weight_fits : carriedWeight config progress + (tickWeights config progress calls).sum < 2 ^ 128
  count_fits :
    progress.rewardBlocksCompleted + (tickBlocks config progress calls).length < 2 ^ 64
  indices_fit : (tickBlocks config progress calls).length ≤ 2 ^ 32

theorem staysInCycle_iff (config : CollectTickConfig) (progress : LocalNodeProgress)
    (calls : TickCalls) :
    StaysInCycle config progress calls ↔
      (∀ block ∈ tickBlocks config progress calls,
          block.totalNetworkWeightUnits = 0 ∨ block.entries ≠ []) ∧
        (∀ numbered ∈ (tickWeights config progress calls).zipIdx progress.rewardBlocksCompleted,
          numbered.1 = 0 ∨ numbered.2 / cycleBlocks config = tickCycleIndex config progress) ∧
        carriedWeight config progress + (tickWeights config progress calls).sum < 2 ^ 128 ∧
        progress.rewardBlocksCompleted + (tickBlocks config progress calls).length < 2 ^ 64 ∧
        (tickBlocks config progress calls).length ≤ 2 ^ 32 :=
  ⟨fun h => ⟨h.1, h.2, h.3, h.4, h.5⟩, fun h => ⟨h.1, h.2.1, h.2.2.1, h.2.2.2.1, h.2.2.2.2⟩⟩

instance (progress : LocalNodeProgress) (calls : TickCalls) :
    Decidable (StaysInCycle config progress calls) :=
  decidable_of_iff' _ (staysInCycle_iff config progress calls)

instance (progress : LocalNodeProgress) (calls : TickCalls) :
    Decidable (TickSucceeds config progress calls) :=
  inferInstanceAs (Decidable (_ = true))

/-- The progress accounts for the weights of the blocks so far. -/
structure CycleAccounts (weights : List ℕ) (progress : LocalNodeProgress) : Prop where
  counted : progress.rewardBlocksCompleted = weights.length
  reached : progress.currentAdjustmentCycleIndex ≤ weights.length / cycleBlocks config
  total : progress.currentAdjustmentCycleTotalNetworkWeightUnits =
    cycleTotal (cycleBlocks config) progress.currentAdjustmentCycleIndex 0 weights
  later : ∀ cycle, progress.currentAdjustmentCycleIndex < cycle →
    cycleTotal (cycleBlocks config) cycle 0 weights = 0

variable {config} {weights : List ℕ} {progress : LocalNodeProgress} {calls : TickCalls}

theorem CycleAccounts.tickCycleIndex_eq (haccounts : CycleAccounts config weights progress) :
    tickCycleIndex config progress = weights.length / cycleBlocks config := by
  rw [← haccounts.counted]
  rfl

/-- What settling does to the cycle and its weight. -/
theorem CycleAccounts.settled (haccounts : CycleAccounts config weights progress)
    (calls : TickCalls) :
    (settledProgress config calls progress).currentAdjustmentCycleIndex =
        weights.length / cycleBlocks config ∧
      (settledProgress config calls progress).rewardBlocksCompleted = weights.length ∧
      (settledProgress config calls progress).currentAdjustmentCycleTotalNetworkWeightUnits =
        carriedWeight config progress ∧
      carriedWeight config progress =
        cycleTotal (cycleBlocks config) (weights.length / cycleBlocks config) 0 weights := by
  have hindex := haccounts.tickCycleIndex_eq
  have hreached := haccounts.reached
  unfold settledProgress carriedWeight
  rw [hindex]
  by_cases hfirst : progress.rewardBlocksCompleted = 0
  · have hnone : weights.length = 0 := haccounts.counted.symm.trans hfirst
    rw [currentFixedBlockReward_of_first hfirst, if_neg (by simp [hfirst])]
    rw [hnone, Nat.zero_div] at hreached ⊢
    have hzero : progress.currentAdjustmentCycleIndex = 0 := by omega
    refine ⟨rfl, ?_, ?_, ?_⟩
    · exact (withInitialReward_rewardBlocksCompleted _ _).trans hfirst
    · exact withInitialReward_currentAdjustmentCycleTotalNetworkWeightUnits _ _
    · rw [haccounts.total, hzero]
  · by_cases hstay : weights.length / cycleBlocks config = progress.currentAdjustmentCycleIndex
    · rw [currentFixedBlockReward_of_stay hfirst hstay, if_neg (by simp [hstay])]
      refine ⟨?_, ?_, ?_, ?_⟩
      · exact (withInitialReward_currentAdjustmentCycleIndex _ _).trans hstay.symm
      · exact (withInitialReward_rewardBlocksCompleted _ _).trans haccounts.counted
      · exact withInitialReward_currentAdjustmentCycleTotalNetworkWeightUnits _ _
      · rw [haccounts.total, hstay]
    · rw [currentFixedBlockReward_of_move hfirst hstay, if_pos ⟨hfirst, hstay⟩]
      refine ⟨enterCycle_currentAdjustmentCycleIndex _ _ _, ?_,
        enterCycle_currentAdjustmentCycleTotalNetworkWeightUnits _ _ _, ?_⟩
      · rw [enterCycle_rewardBlocksCompleted, withInitialReward_rewardBlocksCompleted]
        exact haccounts.counted
      · exact (haccounts.later _ (by omega)).symm

/-- A move leaves a cycle for the one reached, with the weight of the blocks in it. -/
theorem CycleAccounts.move (haccounts : CycleAccounts config weights progress) {move : CycleMove}
    (hmove : cycleMove config progress calls = some move) :
    move.fromCycle = progress.currentAdjustmentCycleIndex ∧
      move.toCycle = weights.length / cycleBlocks config ∧
      move.fromCycle < move.toCycle ∧
      move.basisTotalNetworkWeightUnits =
        cycleTotal (cycleBlocks config) move.fromCycle 0 weights := by
  obtain ⟨hindex, _⟩ := haccounts.settled calls
  have hreached := haccounts.reached
  unfold cycleMove at hmove
  dsimp only at hmove
  split at hmove
  · cases hmove
  · next hother =>
      obtain rfl := Option.some.inj hmove
      rw [hindex] at hother
      refine ⟨rfl, hindex, ?_, ?_⟩
      · change progress.currentAdjustmentCycleIndex <
          (settledProgress config calls progress).currentAdjustmentCycleIndex
        omega
      · have hlater : progress.rewardBlocksCompleted ≠ 0 := by
          intro hzero
          have hnone : weights.length = 0 := haccounts.counted.symm.trans hzero
          rw [hnone, Nat.zero_div] at hother hreached
          omega
        change (settledProgress config calls
          progress).currentFixedPlayerRewardBasisTotalNetworkWeightUnits = _
        have hsettled : settledProgress config calls progress =
            enterCycle (calls.settings config)
              (withInitialReward (calls.settings config) progress)
              (tickCycleIndex config progress) := by
          refine currentFixedBlockReward_of_move hlater ?_
          rw [haccounts.tickCycleIndex_eq]
          exact hother
        rw [hsettled, enterCycle_currentFixedPlayerRewardBasisTotalNetworkWeightUnits,
          withInitialReward_currentAdjustmentCycleTotalNetworkWeightUnits]
        exact haccounts.total

/-- A tick that succeeds completes its blocks on the settled progress. -/
theorem TickSucceeds.completes (hok : TickSucceeds config progress calls) :
    ∃ samples, openTick config calls = .ok samples ∧
      tickNext config progress calls =
        completeTick config (playerRewardTick config calls progress samples).artifact
          { settledProgress config calls progress with
            pendingRewardBlock :=
              (playerRewardTick config calls progress samples).pendingState } := by
  unfold TickSucceeds at hok
  cases hresult : (runCollectTickWithClientInner config calls progress).2 with
  | error e =>
      rw [hresult] at hok
      cases hok
  | ok result => exact runCollectTick_of_ok hresult

theorem tickWeights_length : (tickWeights config progress calls).length =
    (tickBlocks config progress calls).length := List.length_map _

/-- The step: the accounts go on with the weights of a tick that stays in its cycle. -/
theorem CycleAccounts.next (haccounts : CycleAccounts config weights progress)
    (hok : TickSucceeds config progress calls) (hstays : StaysInCycle config progress calls) :
    CycleAccounts config (weights ++ tickWeights config progress calls)
      (tickNext config progress calls) := by
  obtain ⟨hindex, hcounted, htotal, hcarried⟩ := haccounts.settled calls
  have hinside := hstays.inside
  rw [haccounts.counted, haccounts.tickCycleIndex_eq] at hinside
  have hweights : (playedWeights (tickBlocks config progress calls)).sum =
      (tickWeights config progress calls).sum := playedWeights_sum hstays.played
  have hfits := hstays.weight_fits
  have hcount := hstays.count_fits
  rw [haccounts.counted] at hcount
  rw [hcarried] at htotal hfits
  obtain ⟨samples, hopen, hnext⟩ := hok.completes
  have hweight := playerRewardTick_weight hopen hstays.indices_fit
  rw [sumAmounts_of_lt (by omega), hweights] at hweight
  have hlengths : (weights ++ tickWeights config progress calls).length =
      weights.length + (tickBlocks config progress calls).length := by
    rw [List.length_append, tickWeights_length]
  rw [hnext]
  refine ⟨?_, ?_, ?_, ?_⟩
  · rw [completeTick_rewardBlocksCompleted, playerRewardTick_count hopen, hlengths]
    change saturatingAdd64 (settledProgress config calls progress).rewardBlocksCompleted _ = _
    rw [hcounted, saturatingAdd64, min_eq_left (by omega)]
  · rw [completeTick_currentAdjustmentCycleIndex, hlengths]
    change (settledProgress config calls progress).currentAdjustmentCycleIndex ≤ _
    rw [hindex]
    exact Nat.div_le_div_right (by omega)
  · rw [completeTick_currentAdjustmentCycleTotalNetworkWeightUnits,
      completeTick_currentAdjustmentCycleIndex, hweight]
    change saturatingAdd128
        (settledProgress config calls progress).currentAdjustmentCycleTotalNetworkWeightUnits _ =
      cycleTotal _ (settledProgress config calls progress).currentAdjustmentCycleIndex 0 _
    rw [hindex, htotal, cycleTotal_append, Nat.zero_add, cycleTotal_of_inside hinside,
      saturatingAdd128, min_eq_left (by omega)]
  · intro cycle hcycle
    rw [completeTick_currentAdjustmentCycleIndex] at hcycle
    change (settledProgress config calls progress).currentAdjustmentCycleIndex < cycle at hcycle
    rw [hindex] at hcycle
    have hreached := haccounts.reached
    rw [cycleTotal_append, Nat.zero_add, haccounts.later cycle (by omega),
      cycleTotal_of_outside hinside (by omega)]

/-- The tick leaves the cycle that its reward was settled for. -/
theorem CycleAccounts.next_index (haccounts : CycleAccounts config weights progress)
    (hok : TickSucceeds config progress calls) :
    (tickNext config progress calls).currentAdjustmentCycleIndex =
      weights.length / cycleBlocks config := by
  obtain ⟨hindex, _⟩ := haccounts.settled calls
  obtain ⟨samples, _, hnext⟩ := hok.completes
  rw [hnext, completeTick_currentAdjustmentCycleIndex]
  exact hindex

/-- The run: from accounts on, every move takes the whole weight of the cycle it leaves. -/
theorem CycleAccounts.run (haccounts : CycleAccounts config weights progress)
    {ticks : List TickCalls}
    (hmeets : Meets (tickNext config)
      (fun p c => TickSucceeds config p c ∧ StaysInCycle config p c) progress ticks) :
    (∀ move ∈ cycleMoves config progress ticks,
      progress.currentAdjustmentCycleIndex ≤ move.fromCycle ∧ move.fromCycle < move.toCycle ∧
        move.basisTotalNetworkWeightUnits =
          cycleTotal (cycleBlocks config) move.fromCycle 0
            (weights ++ runWeights config progress ticks)) ∧
      (cycleMoves config progress ticks).Pairwise (·.toCycle ≤ ·.fromCycle) := by
  induction ticks generalizing weights progress with
  | nil => exact ⟨by simp [cycleMoves], List.Pairwise.nil⟩
  | cons calls ticks ih =>
      obtain ⟨⟨hok, hstays⟩, hrest⟩ := hmeets
      obtain ⟨hmoves, hpairs⟩ := ih (haccounts.next hok hstays) hrest
      have hweights : weights ++ tickWeights config progress calls ++
            runWeights config (tickNext config progress calls) ticks =
          weights ++ runWeights config progress (calls :: ticks) := List.append_assoc _ _ _
      have hnext : (tickNext config progress calls).currentAdjustmentCycleIndex =
          weights.length / cycleBlocks config := haccounts.next_index hok
      have hreached := haccounts.reached
      rw [hweights, hnext] at hmoves
      have hlater : ∀ move ∈ cycleMoves config (tickNext config progress calls) ticks,
          progress.currentAdjustmentCycleIndex ≤ move.fromCycle ∧ move.fromCycle < move.toCycle ∧
            move.basisTotalNetworkWeightUnits =
              cycleTotal (cycleBlocks config) move.fromCycle 0
                (weights ++ runWeights config progress (calls :: ticks)) := by
        intro move hmove
        obtain ⟨hfrom, hforward, hbasis⟩ := hmoves move hmove
        exact ⟨by omega, hforward, hbasis⟩
      unfold cycleMoves at hlater hmoves hpairs ⊢
      rw [trail_cons]
      cases hmove : cycleMove config progress calls with
      | none =>
          rw [List.reduceOption_cons_of_none]
          exact ⟨hlater, hpairs⟩
      | some move =>
          obtain ⟨hfrom, hto, hforward, hbasis⟩ := haccounts.move hmove
          rw [List.reduceOption_cons_of_some]
          refine ⟨List.forall_mem_cons.mpr ⟨⟨hfrom.ge, hforward, ?_⟩, hlater⟩, ?_⟩
          · have hafter : cycleTotal (cycleBlocks config) move.fromCycle (0 + weights.length)
                (runWeights config progress (calls :: ticks)) = 0 :=
              cycleTotal_of_lt (by rw [Nat.zero_add]; omega) _
            rw [cycleTotal_append, hafter, Nat.add_zero]
            exact hbasis
          · refine List.Pairwise.cons ?_ hpairs
            intro laterMove hlaterMove
            rw [hto]
            exact (hmoves laterMove hlaterMove).1

theorem cycleAccounts_default (config : CollectTickConfig) (activated : Option ProtocolParams) :
    CycleAccounts config [] (.defaultFromConfig config activated) where
  counted := rfl
  reached := Nat.zero_le _
  total := rfl
  later := fun _ _ => rfl

/-- In every run of successful ticks that stay in their cycles, each basis is the weight of the
whole cycle before. -/
theorem whole_cycle_bases (config : CollectTickConfig) (activated : Option ProtocolParams)
    (ticks : List TickCalls)
    (hmeets : Meets (tickNext config)
      (fun progress calls => TickSucceeds config progress calls ∧
        StaysInCycle config progress calls)
      (.defaultFromConfig config activated) ticks) :
    WholeCycleBases config (.defaultFromConfig config activated) ticks := by
  obtain ⟨hmoves, hpairs⟩ := (cycleAccounts_default config activated).run hmeets
  refine ⟨?_, ?_, hpairs⟩
  · intro move hmove
    exact (hmoves move hmove).2.2
  · intro move hmove
    exact (hmoves move hmove).2.1

end Runs

/-! ## A cycle of one block -/

namespace CycleSample

def config : CollectTickConfig where
  reward :=
    { rewardSource := .static
      emissionYear := 1
      rewardBlockSecs := 10
      playerBlockReward := 1000
      rewardAdjustmentPeriodBlocks := 1
      targetNetworkWeightUnits := 100000000
      rewardAdjustmentCapBps := 1000
      collectRewardBps := 4000
      storeRewardBps := 2000
      verifyRewardBps := 2000
      proposeRewardBps := 2000
      tailEmissionStartYear := 4
      tailEmissionRateBps := 200
      gameMappings := [] }
  targetAppIds := [730]
  slotsPerEpoch := 4
  defaultEpochId := 1
  defaultSlotId := 1

/-- A tick of the given seconds in which every call succeeds; five players are observed. -/
def calls (collectIntervalSecs : ℕ) (activeMapping : Option ActiveGameMapping) : TickCalls where
  activated := none
  evidence := .fresh
  activeMapping
  foregroundProcess := none
  activeGameProcesses := []
  collectIntervalSecs
  network := none
  loadRetentionBook := .ok ()
  loadActivitySourceHealth := .ok ()
  collectActivitySamples :=
    .ok [{ appId := 730
           observedPlayers := 5
           observedAtMillis := 0
           sourceKind := .steam
           sourceConfidencePpm := 1000000
           rawBody := "5" }]
  saveActivitySourceHealth := .ok ()
  persistAdjustmentCycleArtifact := .ok ()
  savePlayerRewardTick := .ok ()
  collectAndStoreSamples := .ok ()
  writePayloadFile := .ok ()
  saveRetentionBook := .ok ()
  persistCollectTickArtifact := .ok ()
  buildTickEpochArtifacts := .ok ()
  saveProgress := .ok ()
  auditLocalRetention := .ok ()
  currentUnixMillis := .ok ()
  pruneRetention := .ok ()
  saveHeartbeat := .ok ()

def playing : TickCalls := calls 10 (some ⟨"game.exe", 730, 1000000⟩)

def idle : TickCalls := calls 10 none

end CycleSample

open CycleSample in
/-- With play in every block, each basis is the weight of the block before. -/
theorem whole_cycle_bases_playing :
    cycleMoves config (.defaultFromConfig config none) [playing, playing, playing] =
        [⟨0, 1, 50000000⟩, ⟨1, 2, 50000000⟩] ∧
      WholeCycleBases config (.defaultFromConfig config none) [playing, playing, playing] := by
  have hrun : cycleMoves config (.defaultFromConfig config none) [playing, playing, playing] =
        [⟨0, 1, 50000000⟩, ⟨1, 2, 50000000⟩] ∧
      Meets (tickNext config)
        (fun progress calls => TickSucceeds config progress calls ∧
          StaysInCycle config progress calls)
        (.defaultFromConfig config none) [playing, playing, playing] := by
    decide +kernel
  exact ⟨hrun.1, whole_cycle_bases config none [playing, playing, playing] hrun.2⟩

open CycleSample in
/-- A block without play weighs as much, but the next cycle takes nothing from it. -/
theorem idle_block_missing_from_basis :
    ¬ ∀ (config : CollectTickConfig) (activated : Option ProtocolParams) (ticks : List TickCalls),
      Meets (tickNext config) (TickSucceeds config) (.defaultFromConfig config activated) ticks →
        WholeCycleBases config (.defaultFromConfig config activated) ticks := by
  intro hall
  have hrun : Meets (tickNext config) (TickSucceeds config) (.defaultFromConfig config none)
        [idle, playing] ∧
      cycleMoves config (.defaultFromConfig config none) [idle, playing] = [⟨0, 1, 0⟩] ∧
      cycleTotal (cycleBlocks config) 0 0
        (runWeights config (.defaultFromConfig config none) [idle, playing]) = 50000000 := by
    decide +kernel
  obtain ⟨hmeets, hmoves, htotal⟩ := hrun
  have hwhole := (hall config none [idle, playing] hmeets).whole ⟨0, 1, 0⟩ (by simp [hmoves])
  change 0 = cycleTotal (cycleBlocks config) 0 0 _ at hwhole
  rw [htotal] at hwhole
  cases hwhole

end PoleProtocol.Node
