import PoleProtocol.Node.AdjustmentCycle
import PoleProtocol.Node.PendingBlock

/-!
# The progress of a failed tick

A tick changes the progress in memory as it goes along and puts nothing back when it fails. So what
a failed tick keeps depends on where it failed: before the reward of the cycle is settled nothing
has changed, and once the cursor has moved everything has.
-/

namespace PoleProtocol.Node

open Framework Ledger

/-! ## Where a tick fails -/

/-- The part of a tick that an error comes from. -/
inductive TickStage where
  | opening
  | adjusting
  | recording
  | publishing
  | closing
  deriving DecidableEq

section Stages

variable (config : CollectTickConfig) (calls : TickCalls) (progress : LocalNodeProgress)

def failedStage : Option TickStage :=
  match openTick config calls with
  | .error _ => some .opening
  | .ok _ =>
      match calls.persistAdjustmentCycleArtifact with
      | .error _ => some .adjusting
      | .ok () =>
          match calls.savePlayerRewardTick with
          | .error _ => some .recording
          | .ok () =>
              match publishTick calls with
              | .error _ => some .publishing
              | .ok () =>
                  match closeTick calls with
                  | .error _ => some .closing
                  | .ok () => none

/-- The fixed player reward is already that of the cycle. -/
def CycleStands : Prop :=
  (progress.rewardBlocksCompleted = 0 →
    progress.currentAdjustmentCycleIndex = 0 ∧
      progress.currentRewardAdjustmentPeriodIndex = 0 ∧
      progress.currentFixedPlayerReward = baseFixedPlayerReward (calls.settings config) ∧
      progress.currentFixedBlockReward = baseFixedPlayerReward (calls.settings config) ∧
      progress.currentFixedPlayerRewardBasisCycleIndex = 0 ∧
      progress.currentFixedBlockRewardBasisPeriodIndex = 0 ∧
      progress.currentFixedPlayerRewardBasisTotalNetworkWeightUnits = 0 ∧
      progress.currentFixedBlockRewardBasisNetworkWeightUnits = 0) ∧
  (progress.rewardBlocksCompleted ≠ 0 →
    tickCycleIndex config progress = progress.currentAdjustmentCycleIndex ∧
      progress.currentFixedPlayerReward ≠ 0)

instance : Decidable (CycleStands config calls progress) :=
  inferInstanceAs (Decidable (_ ∧ _))

def TickCalls.samples : List ActivitySample :=
  match calls.collectActivitySamples with
  | .ok samples => samples
  | .error _ => []

/-- The seconds of the tick complete a block, and past the last one they make the pending block over
again. -/
def PendingStands : Prop :=
  let needed := neededSecs (calls.settings config) progress.pendingRewardBlock
  let secs := max calls.collectIntervalSecs 1
  needed ≤ secs ∧
    progress.pendingRewardBlock =
      openBlock (calls.settings config) calls.activeMapping calls.samples
        progress.currentFixedPlayerReward progress.currentAdjustmentCycleIndex
        ((secs - needed) % tickRewardBlockSecs (calls.settings config))

instance : Decidable (PendingStands config calls progress) :=
  inferInstanceAs (Decidable (_ ∧ _))

/-- The tick does not fail, or it fails where it has not changed anything yet. -/
def LosesNothing : Prop :=
  match failedStage config calls with
  | none => True
  | some .opening => True
  | some .adjusting => CycleStands config calls progress
  | some .recording =>
      CycleStands config calls progress ∧ progress.pendingRewardBlock = none
  | some .publishing =>
      CycleStands config calls progress ∧ PendingStands config calls progress
  | some .closing => False

end Stages

/-! ## What settling changes -/

section Settle

variable {config : CollectTickConfig} {calls : TickCalls} {progress : LocalNodeProgress}

theorem withInitialReward_eq_iff {settings : RewardSettings} :
    withInitialReward settings progress = progress ↔ progress.currentFixedPlayerReward ≠ 0 := by
  unfold withInitialReward
  split
  · next hzero =>
      have hbase : 1 ≤ baseFixedPlayerReward settings := le_max_right _ _
      refine iff_of_false ?_ (not_not.mpr hzero)
      intro hsame
      have hreward := congrArg LocalNodeProgress.currentFixedPlayerReward hsame
      change baseFixedPlayerReward settings = progress.currentFixedPlayerReward at hreward
      omega
  · next hset => exact iff_of_true rfl hset

/-- Before the first block the reward and its basis are set anew in every tick. -/
theorem settledProgress_of_first (hfirst : progress.rewardBlocksCompleted = 0) :
    settledProgress config calls progress =
      { progress with
        currentAdjustmentCycleIndex := 0
        currentRewardAdjustmentPeriodIndex := 0
        currentFixedPlayerReward := baseFixedPlayerReward (calls.settings config)
        currentFixedBlockReward := baseFixedPlayerReward (calls.settings config)
        currentFixedPlayerRewardBasisCycleIndex := 0
        currentFixedBlockRewardBasisPeriodIndex := 0
        currentFixedPlayerRewardBasisTotalNetworkWeightUnits := 0
        currentFixedBlockRewardBasisNetworkWeightUnits := 0 } := by
  have hindex : tickCycleIndex config progress = 0 := by
    unfold tickCycleIndex LocalNodeProgress.adjustmentCycleIndex
    rw [hfirst, Nat.zero_div]
  unfold settledProgress
  rw [currentFixedBlockReward_of_first hfirst, hindex]
  unfold withInitialReward
  split <;> rfl

theorem settledProgress_eq_iff :
    settledProgress config calls progress = progress ↔ CycleStands config calls progress := by
  unfold CycleStands
  by_cases hfirst : progress.rewardBlocksCompleted = 0
  · rw [settledProgress_of_first hfirst]
    constructor
    · intro hsame
      rw [← hsame]
      exact ⟨fun _ => ⟨rfl, rfl, rfl, rfl, rfl, rfl, rfl, rfl⟩, fun hlater => absurd hfirst hlater⟩
    · intro hstands
      cases progress with
      | mk =>
          obtain ⟨rfl, rfl, rfl, rfl, rfl, rfl, rfl, rfl⟩ := hstands.1 hfirst
          rfl
  · unfold settledProgress
    rw [imp_iff_right hfirst, and_iff_right (fun hzero => absurd hzero hfirst)]
    by_cases hstay : tickCycleIndex config progress = progress.currentAdjustmentCycleIndex
    · rw [currentFixedBlockReward_of_stay hfirst hstay, withInitialReward_eq_iff]
      exact (and_iff_right hstay).symm
    · rw [currentFixedBlockReward_of_move hfirst hstay]
      refine iff_of_false ?_ (fun hstands => hstay hstands.1)
      intro hsame
      exact hstay (congrArg LocalNodeProgress.currentAdjustmentCycleIndex hsame)

/-- Settling leaves the pending block and the count of ticks alone. -/
theorem settledProgress_frame :
    (settledProgress config calls progress).pendingRewardBlock = progress.pendingRewardBlock ∧
      (settledProgress config calls progress).ticksCompleted = progress.ticksCompleted := by
  have hinitial : ∀ settings,
      (withInitialReward settings progress).pendingRewardBlock = progress.pendingRewardBlock ∧
        (withInitialReward settings progress).ticksCompleted = progress.ticksCompleted := by
    intro settings
    unfold withInitialReward
    split <;> exact ⟨rfl, rfl⟩
  unfold settledProgress
  by_cases hfirst : progress.rewardBlocksCompleted = 0
  · rw [currentFixedBlockReward_of_first hfirst]
    exact hinitial _
  · by_cases hstay : tickCycleIndex config progress = progress.currentAdjustmentCycleIndex
    · rw [currentFixedBlockReward_of_stay hfirst hstay]
      exact hinitial _
    · have henter : ∀ settings before cycleIndex,
          (enterCycle settings before cycleIndex).pendingRewardBlock = before.pendingRewardBlock ∧
            (enterCycle settings before cycleIndex).ticksCompleted = before.ticksCompleted :=
        fun _ _ _ => ⟨rfl, rfl⟩
      rw [currentFixedBlockReward_of_move hfirst hstay, (henter _ _ _).1, (henter _ _ _).2]
      exact hinitial _

/-- The settled progress with a pending block is the progress before exactly when the cycle stands
and so does the block. -/
theorem settledProgress_with_pending_eq_iff (pending : Option PendingPlayerRewardBlockState) :
    { settledProgress config calls progress with pendingRewardBlock := pending } = progress ↔
      CycleStands config calls progress ∧ pending = progress.pendingRewardBlock := by
  rw [← settledProgress_eq_iff]
  constructor
  · intro hsame
    have hpending := congrArg LocalNodeProgress.pendingRewardBlock hsame
    change pending = progress.pendingRewardBlock at hpending
    refine ⟨?_, hpending⟩
    rw [hpending, ← (@settledProgress_frame config calls progress).1] at hsame
    exact hsame
  · rintro ⟨hsettled, rfl⟩
    rw [hsettled]

/-- Where the cycle stands, blocks start with the reward and the cycle of the progress. -/
theorem tickContext_of_stands (hstands : CycleStands config calls progress) :
    (tickContext config calls progress).fixedBlockReward = progress.currentFixedPlayerReward ∧
      (tickContext config calls progress).rewardAdjustmentPeriodIndex =
        progress.currentAdjustmentCycleIndex := by
  by_cases hfirst : progress.rewardBlocksCompleted = 0
  · obtain ⟨hindex, _, hreward, _⟩ := hstands.1 hfirst
    constructor
    · change (currentFixedBlockReward _ progress _).2 = _
      rw [currentFixedBlockReward_of_first hfirst, hreward]
    · change progress.rewardBlocksCompleted / _ = _
      rw [hfirst, Nat.zero_div, hindex]
  · obtain ⟨hstay, hreward⟩ := hstands.2 hfirst
    refine ⟨?_, hstay⟩
    have hinitial : withInitialReward (calls.settings config) progress = progress :=
      withInitialReward_eq_iff.mpr hreward
    change (currentFixedBlockReward _ progress (tickCycleIndex config progress)).2 = _
    unfold currentFixedBlockReward
    dsimp only
    rw [hinitial, if_neg hfirst, if_neg (not_not.mpr hstay)]
    exact max_eq_left (Nat.one_le_iff_ne_zero.mpr hreward)

theorem samples_of_openTick {samples : List ActivitySample}
    (hopen : openTick config calls = .ok samples) : calls.samples = samples := by
  unfold openTick at hopen
  unfold TickCalls.samples
  by_cases htargets : config.targetAppIds = []
  · rw [if_pos htargets] at hopen
    cases hopen
  · rw [if_neg htargets] at hopen
    simp only [bind_eq_ok, pure_eq_ok] at hopen
    obtain ⟨_, _, _, _, collected, hcollected, _, _, rfl⟩ := hopen
    rw [hcollected]

/-- Where the cycle stands, the tick hands on the block it took out exactly when that stands. -/
theorem playerRewardTick_pendingState_iff (hstands : CycleStands config calls progress)
    (hword : tickRewardBlockSecs (calls.settings config) < 2 ^ 64) :
    (playerRewardTick config calls progress calls.samples).pendingState =
        progress.pendingRewardBlock ↔
      PendingStands config calls progress := by
  obtain ⟨hreward, hcycle⟩ := tickContext_of_stands hstands
  have hpending : (playerRewardTick config calls progress calls.samples).pendingState = _ :=
    tickEnd_pendingState rfl rfl hword progress.pendingRewardBlock
  have hsecs : max (tickContext config calls progress).sampledIntervalSecs 1 =
      max calls.collectIntervalSecs 1 := max_eq_left (le_max_right _ _)
  rw [hpending, hreward, hcycle, hsecs]
  unfold PendingStands
  dsimp only
  by_cases hneeded : neededSecs (calls.settings config) progress.pendingRewardBlock ≤
      max calls.collectIntervalSecs 1
  · rw [if_pos hneeded, and_iff_right hneeded]
    exact eq_comm
  · rw [if_neg hneeded]
    refine iff_of_false ?_ (fun hends => hneeded hends.1)
    intro hsame
    have hsampled := @sampledBlock_tickStart_secs (calls.settings config)
      (tickContext config calls progress) calls.activeMapping calls.samples
      progress.pendingRewardBlock
    obtain ⟨block, hblock⟩ : ∃ block, sampledBlock (calls.settings config) calls.activeMapping
        calls.samples (tickStart (tickContext config calls progress)
          progress.pendingRewardBlock) = block := ⟨_, rfl⟩
    rw [hblock] at hsame hsampled
    rw [hsecs, ← hsame] at hsampled
    rw [← hsame] at hneeded
    unfold neededSecs at hneeded hsampled
    rw [Option.map_some, Option.getD_some] at hneeded hsampled
    rw [saturatingAdd64] at hsampled
    omega

end Settle

/-! ## Failed ticks -/

section Failed

variable (config : CollectTickConfig) (calls : TickCalls) (progress : LocalNodeProgress)

/-- The cursor has moved: the count of ticks shows it. -/
theorem completeTick_ne {artifact : PlayerRewardTickArtifact} {collected : LocalNodeProgress}
    (hticks : collected.ticksCompleted = progress.ticksCompleted) :
    completeTick config artifact collected ≠ progress := by
  have hadvance : ∀ left : LocalNodeProgress,
      (left.advance config.slotsPerEpoch).ticksCompleted = left.ticksCompleted + 1 := by
    intro left
    unfold LocalNodeProgress.advance
    split <;> rfl
  intro hsame
  have hcount : (completeTick config artifact collected).ticksCompleted =
      collected.ticksCompleted + 1 := hadvance _
  rw [hsame] at hcount
  omega

/-- A tick keeps the progress where it fails if and only if it loses nothing there. -/
theorem runCollectTick_keeps_iff
    (hword : (calls.settings config).effectiveRewardBlockSecs < 2 ^ 64) :
    (∀ e, (runCollectTickWithClientInner config calls progress).2 = .error e →
        (runCollectTickWithClientInner config calls progress).1 = progress) ↔
      LosesNothing config calls progress := by
  have hblock : tickRewardBlockSecs (calls.settings config) < 2 ^ 64 :=
    max_lt hword (by norm_num)
  have hfails : ∀ (e : NodeDaemonError) (left : LocalNodeProgress),
      (∀ e', (Except.error e : Except NodeDaemonError CollectTickResult) = .error e' →
        left = progress) ↔ left = progress := by
    intro e left
    exact ⟨fun hall => hall e rfl, fun hsame _ _ => hsame⟩
  unfold runCollectTickWithClientInner LosesNothing failedStage
  cases hopen : openTick config calls with
  | error e => exact iff_of_true (fun _ _ => rfl) trivial
  | ok samples =>
      have hsamples := samples_of_openTick hopen
      unfold collectTickContext
      cases hadjust : calls.persistAdjustmentCycleArtifact with
      | error e => exact (hfails e _).trans settledProgress_eq_iff
      | ok =>
          cases hrecord : calls.savePlayerRewardTick with
          | error e =>
              refine (hfails e _).trans ((settledProgress_with_pending_eq_iff none).trans ?_)
              exact and_congr_right' eq_comm
          | ok =>
              cases hpublish : publishTick calls with
              | error e =>
                  refine (hfails e _).trans
                    ((settledProgress_with_pending_eq_iff _).trans ?_)
                  rw [← hsamples]
                  exact and_congr_right fun hstands =>
                    playerRewardTick_pendingState_iff hstands hblock
              | ok =>
                  cases hclose : closeTick calls with
                  | error e =>
                      refine (hfails e _).trans (iff_of_false ?_ id)
                      exact completeTick_ne config progress settledProgress_frame.2
                  | ok => exact iff_of_true (fun e hok => by cases hok) trivial

/-- The same for a tick without a network and for one with any network. -/
theorem failed_tick_keeps_progress_iff
    (hword : (calls.settings config).effectiveRewardBlockSecs < 2 ^ 64) :
    ((∀ e, (runCollectTickWithClient config calls progress).2 = .error e →
        (runCollectTickWithClient config calls progress).1 = progress) ↔
      LosesNothing config { calls with network := none } progress) ∧
    ∀ network : NetworkOutcomes,
      (∀ e, (runCollectTickWithClientAndNetwork config calls network progress).2 = .error e →
        (runCollectTickWithClientAndNetwork config calls network progress).1 = progress) ↔
      LosesNothing config { calls with network := some network } progress :=
  ⟨runCollectTick_keeps_iff config { calls with network := none } progress hword,
    fun network =>
      runCollectTick_keeps_iff config { calls with network := some network } progress hword⟩

end Failed

namespace CycleSample

def diskFull : NodeDaemonError := .io "disk full"

/-- The payload of the batch cannot be written. -/
def unwritable (calls : TickCalls) : TickCalls := { calls with writePayloadFile := .error diskFull }

end CycleSample

open CycleSample in
/-- Ten seconds are one block, and none was pending: the failed tick keeps the fresh progress. -/
theorem failed_tick_keeps_progress_whole_block :
    (runCollectTickWithClient config (unwritable idle) (.defaultFromConfig config none)).2 =
        .error diskFull ∧
      (runCollectTickWithClient config (unwritable idle) (.defaultFromConfig config none)).1 =
        .defaultFromConfig config none := by
  have hfails : (runCollectTickWithClient config (unwritable idle)
      (.defaultFromConfig config none)).2 = .error diskFull := rfl
  have hstage : failedStage config { unwritable idle with network := none } =
      some .publishing := rfl
  have hkeeps : LosesNothing config { unwritable idle with network := none }
      (.defaultFromConfig config none) := by
    rw [LosesNothing, hstage]
    decide +kernel
  exact ⟨hfails, (failed_tick_keeps_progress_iff config (unwritable idle)
    (.defaultFromConfig config none) (by decide)).1.mpr hkeeps _ hfails⟩

open CycleSample in
/-- Four seconds of play stay in the pending block of a tick that failed. -/
theorem failed_tick_keeps_play :
    ¬ ∀ (config : CollectTickConfig) (calls : TickCalls) (progress : LocalNodeProgress),
      (∀ e, (runCollectTickWithClient config calls progress).2 = .error e →
          (runCollectTickWithClient config calls progress).1 = progress) ∧
        ∀ (network : NetworkOutcomes) (e : NodeDaemonError),
          (runCollectTickWithClientAndNetwork config calls network progress).2 = .error e →
            (runCollectTickWithClientAndNetwork config calls network progress).1 = progress := by
  intro hall
  have hrun : (runCollectTickWithClient config
        (unwritable (calls 4 (some ⟨"game.exe", 730, 1000000⟩)))
        (.defaultFromConfig config none)).2 = .error diskFull ∧
      (runCollectTickWithClient config
        (unwritable (calls 4 (some ⟨"game.exe", 730, 1000000⟩)))
        (.defaultFromConfig config none)).1.pendingRewardBlock ≠ none :=
    ⟨rfl, by decide +kernel⟩
  obtain ⟨hfails, hpending⟩ := hrun
  rw [(hall config _ _).1 _ hfails] at hpending
  exact hpending rfl

end PoleProtocol.Node
