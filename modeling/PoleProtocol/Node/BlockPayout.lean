import PoleProtocol.Framework.Rounding
import PoleProtocol.Framework.Run
import PoleProtocol.Node.TickSeconds

/-!
# What a block pays

A block shares its reward by the weight of the local play in the weight of the network. The weight
of the network comes from the samples alone, the play is credited with or without a sample of its
app. So a block pays at most its reward as long as the network outweighs the play, and nothing in a
tick sees to that.
-/

namespace PoleProtocol.Node

open Framework Ledger

/-! ## The shares of a reward -/

/-- The weight of the play in some entries. -/
def playWeight (entries : List PendingPlayerRewardEntry) : ℕ :=
  (entries.map fun entry => entry.playSeconds * entry.gameCoefficientPpm).sum

/-- The weight of a second of play. -/
def playRate (activeMapping : Option ActiveGameMapping) : ℕ :=
  (activeMapping.map (·.gameCoefficientPpm)).getD 0

/-- The network outweighs the play, or what is missing is not worth a unit of the reward; without
any network weight nothing is paid. -/
def WithinNetwork (reward played network : ℕ) : Prop :=
  network = 0 ∨ reward * (played - network) < network

instance (reward played network : ℕ) : Decidable (WithinNetwork reward played network) :=
  inferInstanceAs (Decidable (_ ∨ _))

theorem withinNetwork_iff {reward played network : ℕ} :
    WithinNetwork reward played network ↔ reward * played / network ≤ reward := by
  rcases Nat.eq_zero_or_pos network with rfl | hpos
  · rw [Nat.div_zero]
    exact iff_of_true (.inl rfl) (Nat.zero_le _)
  · rw [← Nat.lt_succ_iff, Nat.div_lt_iff_lt_mul hpos, Nat.succ_mul]
    refine (or_iff_right hpos.ne').trans ?_
    rcases Nat.le_total played network with hle | hle
    · have hless : reward * played ≤ reward * network := Nat.mul_le_mul_left reward hle
      rw [Nat.sub_eq_zero_of_le hle, Nat.mul_zero]
      exact iff_of_true hpos (by omega)
    · obtain ⟨missing, rfl⟩ := Nat.exists_eq_add_of_le hle
      rw [Nat.add_sub_cancel_left, Nat.mul_add]
      omega

theorem WithinNetwork.mono {reward played less network : ℕ}
    (h : WithinNetwork reward played network) (hle : less ≤ played) :
    WithinNetwork reward less network := by
  have hless : reward * less ≤ reward * played := Nat.mul_le_mul_left reward hle
  exact withinNetwork_iff.mpr ((Nat.div_le_div_right hless).trans (withinNetwork_iff.mp h))

theorem proportionalAmount_le (pool weight totalWeight : ℕ) :
    proportionalAmount pool weight totalWeight ≤ pool * weight / totalWeight := by
  unfold proportionalAmount
  split
  · exact Nat.zero_le _
  · exact Nat.div_le_div_right (min_le_left _ _)

/-- For the only entry of a block the condition is exact. -/
theorem proportionalAmount_le_iff {pool weight totalWeight : ℕ} (hfits : pool * weight < 2 ^ 128) :
    proportionalAmount pool weight totalWeight ≤ pool ↔ WithinNetwork pool weight totalWeight := by
  rw [proportionalAmount_eq hfits, withinNetwork_iff]

theorem playWeight_creditPlay_le (mapping : ActiveGameMapping) (secs : ℕ)
    (entries : List PendingPlayerRewardEntry) :
    playWeight (creditPlay mapping secs entries) ≤
      playWeight entries + secs * mapping.gameCoefficientPpm := by
  induction entries with
  | nil => simp [playWeight, creditPlay]
  | cons entry entries ih =>
      unfold playWeight at ih ⊢
      by_cases hsame : entry.appId = mapping.appId ∧
          entry.gameCoefficientPpm = mapping.gameCoefficientPpm ∧
          entry.processName = mapping.processName
      · have hcredited : saturatingAdd64 entry.playSeconds secs * entry.gameCoefficientPpm ≤
            entry.playSeconds * entry.gameCoefficientPpm + secs * mapping.gameCoefficientPpm := by
          rw [← hsame.2.1, ← Nat.add_mul]
          exact Nat.mul_le_mul_right _ (min_le_left _ _)
        rw [creditPlay, if_pos hsame, List.map_cons, List.map_cons, List.sum_cons, List.sum_cons]
        dsimp only
        omega
      · rw [creditPlay, if_neg hsame, List.map_cons, List.map_cons, List.sum_cons, List.sum_cons]
        omega

section Payout

variable {settings : RewardSettings} {evidence : EvidenceStore} {context : RewardTickContext}
  {activeMapping : Option ActiveGameMapping} {samples : List ActivitySample}

theorem playWeight_sampledFor_le (block : PendingPlayerRewardBlockState) (secs : ℕ) :
    playWeight (sampledFor settings activeMapping samples block secs).entries ≤
      playWeight block.entries + secs * playRate activeMapping := by
  cases activeMapping with
  | none => exact Nat.le_add_right _ _
  | some mapping => exact playWeight_creditPlay_le mapping secs block.entries

/-- The records of a block pay at most its reward when its play is within the network. -/
theorem payout_le {block : PendingPlayerRewardBlockState}
    (hwithin : WithinNetwork block.fixedBlockReward (playWeight block.entries)
      block.totalNetworkWeightUnits) (blockIndex : ℕ) :
    ((blockRecords settings evidence context samples block blockIndex).map
      (·.playerReward)).sum ≤ block.fixedBlockReward := by
  have hperm := List.perm_insertionSort entryOrder block.entries
  unfold blockRecords
  rw [List.map_map, (hperm.map _).sum_eq]
  calc (block.entries.map fun entry =>
        proportionalAmount block.fixedBlockReward
          (saturatingMul128 entry.playSeconds entry.gameCoefficientPpm)
          block.totalNetworkWeightUnits).sum
      ≤ (block.entries.map fun entry =>
          block.fixedBlockReward * (entry.playSeconds * entry.gameCoefficientPpm) /
            block.totalNetworkWeightUnits).sum := by
        refine List.sum_le_sum fun entry _ => (proportionalAmount_le _ _ _).trans ?_
        exact Nat.div_le_div_right (Nat.mul_le_mul_left _ (min_le_left _ _))
    _ ≤ block.fixedBlockReward * playWeight block.entries / block.totalNetworkWeightUnits := by
        have hshares := sum_shares_le_div block.fixedBlockReward
          (block.entries.map fun entry => entry.playSeconds * entry.gameCoefficientPpm)
          block.totalNetworkWeightUnits
        rwa [List.map_map] at hshares
    _ ≤ block.fixedBlockReward := withinNetwork_iff.mp hwithin

/-! ## The blocks of some seconds -/

theorem completedBlocks_of_wide (hwide : 2 ^ 64 ≤ tickRewardBlockSecs settings) (fuel : ℕ)
    (loop : TickLoop) :
    completedBlocks settings evidence context activeMapping samples fuel loop = [] := by
  induction fuel generalizing loop with
  | zero => rfl
  | succ fuel ih =>
      have hopen : ¬ completesBlock settings activeMapping samples loop := by
        rw [completesBlock, sampledBlock_eq]
        change ¬ tickRewardBlockSecs settings ≤
          saturatingAdd64 loop.pending.sampledIntervalSecs (chunkSecs settings loop)
        unfold saturatingAdd64
        omega
      rw [completedBlocks, if_neg hopen, ih]
      split <;> rfl

/-- The completed blocks are the open one and then fresh ones, each sampled until it is full. -/
theorem mem_blocksWithin {secs : ℕ} {block completed : PendingPlayerRewardBlockState}
    (hmem : completed ∈
      blocksWithin settings evidence context activeMapping samples secs block) :
    (secsToFill settings block ≤ secs ∧
        completed =
          sampledFor settings activeMapping samples block (secsToFill settings block)) ∨
      (secsToFill settings block + tickRewardBlockSecs settings ≤ secs ∧
        completed =
          sampledFor settings activeMapping samples (freshBlock context)
            (tickRewardBlockSecs settings)) := by
  have hword : tickRewardBlockSecs settings < 2 ^ 64 := by
    by_contra hwide
    rw [blocksWithin, completedBlocks_of_wide (Nat.not_lt.mp hwide)] at hmem
    exact List.not_mem_nil hmem
  induction secs using Nat.strong_induction_on generalizing block with
  | h secs ih =>
      rcases Nat.eq_zero_or_pos secs with rfl | hpos
      · exact absurd hmem List.not_mem_nil
      by_cases hshort : secs < secsToFill settings block
      · have hnone := @pass_short settings evidence context activeMapping samples _ _ hpos hshort
        rw [hnone.1] at hmem
        exact absurd hmem List.not_mem_nil
      · have hfull : secsToFill settings block ≤ secs := Nat.not_lt.mp hshort
        have hwhole := @pass_full settings evidence context activeMapping samples _ _ hfull hword
        rw [hwhole.1, List.mem_cons] at hmem
        rcases hmem with rfl | hlater
        · exact .inl ⟨hfull, rfl⟩
        · have hrest : 0 < secs - secsToFill settings block := by
            by_contra hnone
            rw [Nat.eq_zero_of_not_pos hnone, blocksWithin_zero] at hlater
            exact List.not_mem_nil hlater
          have hfill := @secsToFill_pos settings block
          have hfresh := @secsToFill_fresh settings context
          rw [nextBlock_eq_fresh hrest] at hlater
          rcases ih _ (by omega) hlater with ⟨hnext, rfl⟩ | ⟨hnext, rfl⟩
          · rw [hfresh] at hnext ⊢
            exact .inr ⟨by omega, rfl⟩
          · exact .inr ⟨by omega, rfl⟩

variable (settings activeMapping samples) in
/-- By the time the block is full, its play is within the network. -/
def BlockCovered (block : PendingPlayerRewardBlockState) : Prop :=
  WithinNetwork block.fixedBlockReward
    (playWeight block.entries + secsToFill settings block * playRate activeMapping)
    (saturatingAdd128 block.totalNetworkWeightUnits
      (settings.networkWeightUnitsForDuration samples (secsToFill settings block)))

instance (block : PendingPlayerRewardBlockState) :
    Decidable (BlockCovered settings activeMapping samples block) :=
  inferInstanceAs (Decidable (WithinNetwork _ _ _))

theorem BlockCovered.within {block : PendingPlayerRewardBlockState}
    (h : BlockCovered settings activeMapping samples block) :
    WithinNetwork block.fixedBlockReward
      (playWeight (sampledFor settings activeMapping samples block
        (secsToFill settings block)).entries)
      (sampledFor settings activeMapping samples block
        (secsToFill settings block)).totalNetworkWeightUnits :=
  WithinNetwork.mono h (playWeight_sampledFor_le block _)

end Payout

/-! ## Runs of ticks -/

/-- One tick with what it is called with. -/
structure RewardTick where
  settings : RewardSettings
  evidence : EvidenceStore
  context : RewardTickContext
  activeMapping : Option ActiveGameMapping
  samples : List ActivitySample
  foregroundProcess : Option String
  activeGameProcesses : List String

namespace RewardTick

variable (pendingState : Option PendingPlayerRewardBlockState) (tick : RewardTick)

def computation : PlayerRewardTickComputation :=
  recordPlayerRewardTick tick.settings tick.evidence tick.context tick.activeMapping tick.samples
    pendingState tick.foregroundProcess tick.activeGameProcesses

/-- The seconds of the tick. -/
def secs : ℕ := max tick.context.sampledIntervalSecs 1

/-- The blocks that the tick completes. -/
def blocks : List PendingPlayerRewardBlockState :=
  blocksWithin tick.settings tick.evidence tick.context tick.activeMapping tick.samples tick.secs
    (firstBlock tick.context pendingState)

/-- The pending block goes from tick to tick. -/
def next : Option PendingPlayerRewardBlockState := (computation pendingState tick).pendingState

/-- The records of the tick are those of its blocks, and those of a block pay at most its reward. -/
def PaysWithinReward : Prop :=
  (computation pendingState tick).artifact.records =
      recordsFrom tick.settings tick.evidence tick.context tick.samples 0
        (blocks pendingState tick) ∧
    (computation pendingState tick).artifact.completedRewardBlockCount =
      (blocks pendingState tick).length ∧
    ∀ block ∈ blocks pendingState tick, ∀ blockIndex,
      ((blockRecords tick.settings tick.evidence tick.context tick.samples block blockIndex).map
        (·.playerReward)).sum ≤ block.fixedBlockReward

/-- The network outweighs the play in the first block of the tick, if the tick completes it, and
over a whole block, if the tick completes another one. -/
def Covered : Prop :=
  let first := firstBlock tick.context pendingState
  let fill := secsToFill tick.settings first
  (fill ≤ tick.secs → BlockCovered tick.settings tick.activeMapping tick.samples first) ∧
    (fill + tickRewardBlockSecs tick.settings ≤ tick.secs →
      BlockCovered tick.settings tick.activeMapping tick.samples (freshBlock tick.context))

instance : Decidable (Covered pendingState tick) :=
  inferInstanceAs (Decidable ((_ → _) ∧ (_ → _)))

variable {pendingState tick}

theorem records_eq :
    (computation pendingState tick).artifact.records =
      recordsFrom tick.settings tick.evidence tick.context tick.samples 0
        (blocks pendingState tick) :=
  (tickPasses_records _ _).trans (List.nil_append _)

theorem count_eq :
    (computation pendingState tick).artifact.completedRewardBlockCount =
      (blocks pendingState tick).length :=
  (tickPasses_count _ _).trans (Nat.zero_add _)

/-- A covered tick pays at most the rewards of its blocks. -/
theorem Covered.paysWithinReward (hcovered : Covered pendingState tick) :
    PaysWithinReward pendingState tick := by
  refine ⟨records_eq, count_eq, ?_⟩
  intro block hblock blockIndex
  apply payout_le
  rcases mem_blocksWithin hblock with ⟨hfull, rfl⟩ | ⟨hfull, rfl⟩
  · exact (hcovered.1 hfull).within
  · have hfresh := (hcovered.2 hfull).within
    rwa [secsToFill_fresh] at hfresh

/-- In a run whose ticks are covered every completed block pays at most its reward. -/
theorem blocks_pay_within_reward (pendingState : Option PendingPlayerRewardBlockState)
    (ticks : List RewardTick) (hcovered : Meets next Covered pendingState ticks) :
    Meets next PaysWithinReward pendingState ticks :=
  hcovered.mono fun _ _ htick => htick.paysWithinReward

end RewardTick

namespace TickSample

/-- Two seconds of the game, with one player in the samples of an app. -/
def playedTick (appId : ℕ) : RewardTick where
  settings := settings
  evidence := EvidenceStore.fresh
  context := context 1 1
  activeMapping := some game
  samples := [⟨appId, 1, 0, .steam, 1000000, ""⟩]
  foregroundProcess := some "game.exe"
  activeGameProcesses := ["game.exe"]

/-- Two ticks with a sample of the game itself. -/
theorem blocks_pay_within_reward_twice :
    Meets RewardTick.next RewardTick.PaysWithinReward none [playedTick 1, playedTick 1] :=
  RewardTick.blocks_pay_within_reward none _ (by decide +kernel)

/-- A sample of the lighter game only: the block pays ten times its reward. -/
theorem lone_sample_pays_tenfold :
    (RewardTick.computation none (playedTick 2)).artifact.records.map
        (fun record => (record.playerReward, record.fixedPlayerReward)) = [(1000, 100)] ∧
      ¬ Meets RewardTick.next RewardTick.PaysWithinReward none [playedTick 2] := by
  have hpaid : (RewardTick.computation none (playedTick 2)).artifact.records.map
        (fun record => (record.playerReward, record.fixedPlayerReward)) = [(1000, 100)] ∧
      ∃ block ∈ RewardTick.blocks none (playedTick 2),
        ¬ ((blockRecords settings EvidenceStore.fresh (context 1 1) (playedTick 2).samples block
          0).map (·.playerReward)).sum ≤ block.fixedBlockReward := by
    decide +kernel
  obtain ⟨hrecords, block, hblock, hover⟩ := hpaid
  refine ⟨hrecords, ?_⟩
  rintro ⟨⟨_, _, hwithin⟩, _⟩
  exact hover (hwithin block hblock 0)

end TickSample

end PoleProtocol.Node
