import PoleProtocol.Node.CompletedBlocks

/-!
# The seconds of a tick

The passes of a tick cut its seconds at the ends of reward blocks. What they complete and what they
leave open depends on the open block and on the seconds alone, and it does not matter where the
seconds are cut in between: a tick goes on where another one, with the same settings, stopped.
-/

namespace PoleProtocol.Node

open Framework Ledger

section Seconds

variable (settings : RewardSettings) (evidence : EvidenceStore) (context : RewardTickContext)
  (activeMapping : Option ActiveGameMapping) (samples : List ActivitySample)

/-! ## One pass -/

/-- A block with more sampled seconds. -/
def sampledFor (block : PendingPlayerRewardBlockState) (secs : ℕ) :
    PendingPlayerRewardBlockState :=
  let weight := saturatingAdd128 block.totalNetworkWeightUnits
    (settings.networkWeightUnitsForDuration samples secs)
  { block with
    sampledIntervalSecs := saturatingAdd64 block.sampledIntervalSecs secs
    totalNetworkWeightUnits := weight
    totalAdjustmentCycleNetworkWeightUnits := weight
    entries :=
      match activeMapping with
      | some mapping => creditPlay mapping secs block.entries
      | none => block.entries }

/-- The seconds that a block takes until it is full. -/
def secsToFill (block : PendingPlayerRewardBlockState) : ℕ :=
  max (tickRewardBlockSecs settings - block.sampledIntervalSecs) 1

/-- A loop with an open block and some seconds to go. -/
def loopFrom (secs : ℕ) (block : PendingPlayerRewardBlockState) : TickLoop where
  pending := block
  remainingSecs := secs

/-- The blocks that some seconds complete. -/
def blocksWithin (secs : ℕ) (block : PendingPlayerRewardBlockState) :
    List PendingPlayerRewardBlockState :=
  completedBlocks settings evidence context activeMapping samples secs (loopFrom secs block)

/-- The block that some seconds leave open. -/
def blockAfter (secs : ℕ) (block : PendingPlayerRewardBlockState) :
    PendingPlayerRewardBlockState :=
  (tickPasses settings evidence context activeMapping samples secs (loopFrom secs block)).pending

/-- A block that a tick starts behind a full one. -/
def freshBlock : PendingPlayerRewardBlockState :=
  (PendingPlayerRewardBlockState.startedBy context {}).normalizeWhitepaperFields

variable {settings evidence context activeMapping samples}

theorem nextBlock_eq_fresh {secs : ℕ} (hpos : 0 < secs) :
    nextBlock context secs = freshBlock context := if_pos hpos

theorem secsToFill_pos (block : PendingPlayerRewardBlockState) : 0 < secsToFill settings block :=
  Nat.lt_of_lt_of_le Nat.zero_lt_one (le_max_right _ _)

theorem tickRewardBlockSecs_pos : 0 < tickRewardBlockSecs settings :=
  Nat.lt_of_lt_of_le Nat.zero_lt_one (le_max_right _ _)

theorem secsToFill_of_unsampled {block : PendingPlayerRewardBlockState}
    (hunsampled : block.sampledIntervalSecs = 0) :
    secsToFill settings block = tickRewardBlockSecs settings := by
  have hblock := @tickRewardBlockSecs_pos settings
  rw [secsToFill, hunsampled, Nat.sub_zero, max_eq_left hblock]

theorem sampledFor_pos (block : PendingPlayerRewardBlockState) {secs : ℕ} (hpos : 0 < secs) :
    0 < (sampledFor settings activeMapping samples block secs).sampledIntervalSecs := by
  change 0 < saturatingAdd64 block.sampledIntervalSecs secs
  unfold saturatingAdd64
  omega

theorem chunkSecs_eq (loop : TickLoop) :
    chunkSecs settings loop = min loop.remainingSecs (secsToFill settings loop.pending) := rfl

theorem sampledBlock_eq (loop : TickLoop) :
    sampledBlock settings activeMapping samples loop =
      sampledFor settings activeMapping samples loop.pending (chunkSecs settings loop) := rfl

theorem tickPass_remainingSecs (loop : TickLoop) :
    (tickPass settings evidence context activeMapping samples loop).remainingSecs =
      loop.remainingSecs - chunkSecs settings loop := by
  unfold tickPass
  split <;> rfl

theorem tickPass_pending (loop : TickLoop) :
    (tickPass settings evidence context activeMapping samples loop).pending =
      if completesBlock settings activeMapping samples loop then
        nextBlock context (loop.remainingSecs - chunkSecs settings loop)
      else sampledBlock settings activeMapping samples loop := by
  unfold tickPass
  split <;> rfl

theorem completedBlocks_of_done {fuel : ℕ} {loop : TickLoop} (hdone : loop.remainingSecs = 0) :
    completedBlocks settings evidence context activeMapping samples fuel loop = [] := by
  cases fuel with
  | zero => rfl
  | succ fuel => rw [completedBlocks, if_neg (by omega)]

theorem tickPasses_of_done {fuel : ℕ} {loop : TickLoop} (hdone : loop.remainingSecs = 0) :
    tickPasses settings evidence context activeMapping samples fuel loop = loop := by
  cases fuel with
  | zero => rfl
  | succ fuel => rw [tickPasses, if_neg (by omega)]

/-- The passes see the open block and the seconds to go, not what was completed before. -/
theorem passes_congr {fuel fuel' : ℕ} {loop loop' : TickLoop}
    (hpending : loop.pending = loop'.pending) (hsecs : loop.remainingSecs = loop'.remainingSecs)
    (hfuel : loop.remainingSecs ≤ fuel) (hfuel' : loop'.remainingSecs ≤ fuel') :
    completedBlocks settings evidence context activeMapping samples fuel loop =
        completedBlocks settings evidence context activeMapping samples fuel' loop' ∧
      (tickPasses settings evidence context activeMapping samples fuel loop).pending =
        (tickPasses settings evidence context activeMapping samples fuel' loop').pending := by
  induction fuel generalizing fuel' loop loop' with
  | zero =>
      have hdone : loop.remainingSecs = 0 := Nat.le_zero.mp hfuel
      have hdone' : loop'.remainingSecs = 0 := hsecs ▸ hdone
      rw [completedBlocks_of_done hdone, completedBlocks_of_done hdone', tickPasses_of_done hdone,
        tickPasses_of_done hdone']
      exact ⟨rfl, hpending⟩
  | succ fuel ih =>
      by_cases hdone : loop.remainingSecs = 0
      · have hdone' : loop'.remainingSecs = 0 := hsecs ▸ hdone
        rw [completedBlocks_of_done hdone, completedBlocks_of_done hdone', tickPasses_of_done hdone,
          tickPasses_of_done hdone']
        exact ⟨rfl, hpending⟩
      · have hremains : 0 < loop.remainingSecs := Nat.pos_of_ne_zero hdone
        have hremains' : 0 < loop'.remainingSecs := hsecs ▸ hremains
        obtain ⟨fuel', rfl⟩ : ∃ n, fuel' = n + 1 := ⟨fuel' - 1, by omega⟩
        have hchunk : chunkSecs settings loop = chunkSecs settings loop' := by
          rw [chunkSecs_eq, chunkSecs_eq, hpending, hsecs]
        have hsampled : sampledBlock settings activeMapping samples loop =
            sampledBlock settings activeMapping samples loop' := by
          rw [sampledBlock_eq, sampledBlock_eq, hpending, hchunk]
        have hcompletes : completesBlock settings activeMapping samples loop ↔
            completesBlock settings activeMapping samples loop' := by
          rw [completesBlock, completesBlock, hsampled]
        have hchunkPos : 0 < chunkSecs settings loop :=
          lt_min hremains (secsToFill_pos loop.pending)
        have hrest := @ih fuel' (tickPass settings evidence context activeMapping samples loop)
          (tickPass settings evidence context activeMapping samples loop')
          (by
            rw [tickPass_pending, tickPass_pending, hsampled, hchunk, hsecs]
            simp only [hcompletes])
          (by rw [tickPass_remainingSecs, tickPass_remainingSecs, hchunk, hsecs])
          (by rw [tickPass_remainingSecs]; omega) (by rw [tickPass_remainingSecs]; omega)
        rw [completedBlocks, completedBlocks, tickPasses, tickPasses, if_pos hremains,
          if_pos hremains', if_pos hremains, if_pos hremains', hrest.1, hsampled]
        simp only [hcompletes]
        exact ⟨trivial, hrest.2⟩

theorem completedBlocks_eq {fuel : ℕ} {loop : TickLoop} (hfuel : loop.remainingSecs ≤ fuel) :
    completedBlocks settings evidence context activeMapping samples fuel loop =
      blocksWithin settings evidence context activeMapping samples loop.remainingSecs
        loop.pending :=
  (@passes_congr settings evidence context activeMapping samples fuel loop.remainingSecs loop
    (loopFrom loop.remainingSecs loop.pending) rfl rfl hfuel le_rfl).1

theorem tickPasses_pending {fuel : ℕ} {loop : TickLoop} (hfuel : loop.remainingSecs ≤ fuel) :
    (tickPasses settings evidence context activeMapping samples fuel loop).pending =
      blockAfter settings evidence context activeMapping samples loop.remainingSecs
        loop.pending :=
  (@passes_congr settings evidence context activeMapping samples fuel loop.remainingSecs loop
    (loopFrom loop.remainingSecs loop.pending) rfl rfl hfuel le_rfl).2

/-! ## What the seconds complete -/

theorem blocksWithin_zero (block : PendingPlayerRewardBlockState) :
    blocksWithin settings evidence context activeMapping samples 0 block = [] := rfl

theorem blockAfter_zero (block : PendingPlayerRewardBlockState) :
    blockAfter settings evidence context activeMapping samples 0 block = block := rfl

section Pass

variable {secs : ℕ} {block : PendingPlayerRewardBlockState}

/-- Seconds that do not fill the block up are added to it. -/
theorem pass_short (hpos : 0 < secs) (hshort : secs < secsToFill settings block) :
    blocksWithin settings evidence context activeMapping samples secs block = [] ∧
      blockAfter settings evidence context activeMapping samples secs block =
        sampledFor settings activeMapping samples block secs := by
  obtain ⟨fuel, rfl⟩ : ∃ n, secs = n + 1 := ⟨secs - 1, by omega⟩
  have hremains : 0 < (loopFrom (fuel + 1) block).remainingSecs := hpos
  have hchunk : chunkSecs settings (loopFrom (fuel + 1) block) = fuel + 1 :=
    min_eq_left hshort.le
  have hopen : ¬ completesBlock settings activeMapping samples (loopFrom (fuel + 1) block) := by
    rw [completesBlock, sampledBlock_eq, hchunk]
    change ¬ tickRewardBlockSecs settings ≤ saturatingAdd64 block.sampledIntervalSecs (fuel + 1)
    unfold secsToFill at hshort
    unfold saturatingAdd64
    omega
  have hremaining := @tickPass_remainingSecs settings evidence context activeMapping samples
    (loopFrom (fuel + 1) block)
  have hpending := @tickPass_pending settings evidence context activeMapping samples
    (loopFrom (fuel + 1) block)
  rw [hchunk] at hremaining
  rw [if_neg hopen, sampledBlock_eq, hchunk] at hpending
  have hdone : (tickPass settings evidence context activeMapping samples
      (loopFrom (fuel + 1) block)).remainingSecs = 0 := hremaining.trans (Nat.sub_self _)
  unfold blocksWithin blockAfter
  rw [completedBlocks, tickPasses, if_pos hremains, if_pos hremains, if_neg hopen,
    completedBlocks_of_done hdone, tickPasses_of_done hdone]
  exact ⟨rfl, hpending⟩

/-- Enough seconds complete the block, and the others go to the blocks behind it. -/
theorem pass_full (hfull : secsToFill settings block ≤ secs)
    (hword : tickRewardBlockSecs settings < 2 ^ 64) :
    blocksWithin settings evidence context activeMapping samples secs block =
        sampledFor settings activeMapping samples block (secsToFill settings block) ::
          blocksWithin settings evidence context activeMapping samples
            (secs - secsToFill settings block)
            (nextBlock context (secs - secsToFill settings block)) ∧
      blockAfter settings evidence context activeMapping samples secs block =
        blockAfter settings evidence context activeMapping samples
          (secs - secsToFill settings block)
          (nextBlock context (secs - secsToFill settings block)) := by
  have hfill := @secsToFill_pos settings block
  have hpos : 0 < secs := hfill.trans_le hfull
  obtain ⟨fuel, rfl⟩ : ∃ n, secs = n + 1 := ⟨secs - 1, by omega⟩
  have hremains : 0 < (loopFrom (fuel + 1) block).remainingSecs := hpos
  have hchunk : chunkSecs settings (loopFrom (fuel + 1) block) = secsToFill settings block :=
    min_eq_right hfull
  have hcompletes : completesBlock settings activeMapping samples (loopFrom (fuel + 1) block) := by
    rw [completesBlock, sampledBlock_eq, hchunk]
    change tickRewardBlockSecs settings ≤
      saturatingAdd64 block.sampledIntervalSecs (secsToFill settings block)
    unfold secsToFill saturatingAdd64
    omega
  have hremaining := @tickPass_remainingSecs settings evidence context activeMapping samples
    (loopFrom (fuel + 1) block)
  have hpending := @tickPass_pending settings evidence context activeMapping samples
    (loopFrom (fuel + 1) block)
  rw [hchunk] at hremaining
  rw [if_pos hcompletes, hchunk] at hpending
  have hfuel : (tickPass settings evidence context activeMapping samples
      (loopFrom (fuel + 1) block)).remainingSecs ≤ fuel := by
    rw [hremaining]
    change fuel + 1 - secsToFill settings block ≤ fuel
    omega
  unfold blocksWithin blockAfter
  rw [completedBlocks, tickPasses, if_pos hremains, if_pos hremains, if_pos hcompletes,
    completedBlocks_eq hfuel, tickPasses_pending hfuel, hremaining, hpending, sampledBlock_eq,
    hchunk]
  exact ⟨rfl, rfl⟩

end Pass

/-! ## Seconds that are cut -/

variable (settings samples) in
/-- The network weight of one second. -/
def weightRate : ℕ :=
  (samples.map fun sample =>
    sample.observedPlayers * settings.gameCoefficientPpmForApp sample.appId).sum

theorem networkWeightUnitsForDuration_eq {secs : ℕ}
    (hfits : weightRate settings samples * secs < 2 ^ 128) :
    settings.networkWeightUnitsForDuration samples secs = weightRate settings samples * secs := by
  have hterms : (samples.map fun sample =>
      saturatingMul128 (saturatingMul128 sample.observedPlayers secs)
        (settings.gameCoefficientPpmForApp sample.appId)) =
      samples.map fun sample =>
        sample.observedPlayers * settings.gameCoefficientPpmForApp sample.appId * secs := by
    refine List.map_congr_left fun sample hsample => ?_
    have hterm : sample.observedPlayers * settings.gameCoefficientPpmForApp sample.appId ≤
        weightRate settings samples :=
      List.single_le_sum (fun _ _ => Nat.zero_le _) _ (List.mem_map_of_mem hsample)
    have hweight := (Nat.mul_le_mul_right secs hterm).trans_lt hfits
    generalize settings.gameCoefficientPpmForApp sample.appId = coefficient at *
    have hcomm : sample.observedPlayers * coefficient * secs =
        sample.observedPlayers * secs * coefficient := Nat.mul_right_comm _ _ _
    rw [hcomm] at hweight ⊢
    rcases Nat.eq_zero_or_pos coefficient with hzero | hpos
    · rw [hzero]
      rfl
    · have hinner : sample.observedPlayers * secs ≤ sample.observedPlayers * secs * coefficient :=
        Nat.le_mul_of_pos_right _ hpos
      rw [saturatingMul128_of_lt (hinner.trans_lt hweight)]
      exact saturatingMul128_of_lt hweight
  unfold RewardSettings.networkWeightUnitsForDuration
  rw [hterms, sumAmounts, List.sum_map_mul_right]
  exact Nat.mod_eq_of_lt hfits

theorem creditPlay_add {mapping : ActiveGameMapping} {secs more : ℕ}
    (hword : secs + more < 2 ^ 64) (entries : List PendingPlayerRewardEntry) :
    creditPlay mapping more (creditPlay mapping secs entries) =
      creditPlay mapping (secs + more) entries := by
  induction entries with
  | nil =>
      have hsum : saturatingAdd64 secs more = secs + more := saturatingAdd64_of_lt hword
      simp [creditPlay, hsum]
  | cons entry entries ih =>
      have hsum : saturatingAdd64 (saturatingAdd64 entry.playSeconds secs) more =
          saturatingAdd64 entry.playSeconds (secs + more) := by
        unfold saturatingAdd64
        omega
      by_cases hsame : entry.appId = mapping.appId ∧
          entry.gameCoefficientPpm = mapping.gameCoefficientPpm ∧
          entry.processName = mapping.processName
      · rw [creditPlay, if_pos hsame, creditPlay, if_pos hsame, creditPlay, if_pos hsame, hsum]
      · rw [creditPlay, if_neg hsame, creditPlay, if_neg hsame, creditPlay, if_neg hsame, ih]

variable (settings samples) in
/-- Neither the sampled seconds of a block nor the network weight of some more seconds saturate. -/
def PassFits (block : PendingPlayerRewardBlockState) (secs : ℕ) : Prop :=
  block.sampledIntervalSecs + secs < 2 ^ 64 ∧ weightRate settings samples * secs < 2 ^ 128

instance (block : PendingPlayerRewardBlockState) (secs : ℕ) :
    Decidable (PassFits settings samples block secs) :=
  inferInstanceAs (Decidable (_ ∧ _))

theorem PassFits.mono {block : PendingPlayerRewardBlockState} {secs less : ℕ}
    (h : PassFits settings samples block secs) (hle : less ≤ secs) :
    PassFits settings samples block less :=
  ⟨by have hsecs := h.1; omega, (Nat.mul_le_mul_left _ hle).trans_lt h.2⟩

/-- A block is sampled in one pass as in two. -/
theorem sampledFor_add {block : PendingPlayerRewardBlockState} {secs more : ℕ}
    (hfits : PassFits settings samples block (secs + more)) :
    sampledFor settings activeMapping samples
        (sampledFor settings activeMapping samples block secs) more =
      sampledFor settings activeMapping samples block (secs + more) := by
  have hsecs : saturatingAdd64 (saturatingAdd64 block.sampledIntervalSecs secs) more =
      saturatingAdd64 block.sampledIntervalSecs (secs + more) := by
    unfold saturatingAdd64
    omega
  have hweight : saturatingAdd128 (saturatingAdd128 block.totalNetworkWeightUnits
      (settings.networkWeightUnitsForDuration samples secs))
      (settings.networkWeightUnitsForDuration samples more) =
        saturatingAdd128 block.totalNetworkWeightUnits
          (settings.networkWeightUnitsForDuration samples (secs + more)) := by
    rw [networkWeightUnitsForDuration_eq hfits.2,
      networkWeightUnitsForDuration_eq (hfits.mono (Nat.le_add_right secs more)).2,
      networkWeightUnitsForDuration_eq (hfits.mono (Nat.le_add_left more secs)).2, Nat.mul_add]
    unfold saturatingAdd128
    omega
  have hword : secs + more < 2 ^ 64 := by
    have hsampled := hfits.1
    omega
  unfold sampledFor
  simp only [hsecs, hweight]
  cases activeMapping with
  | none => rfl
  | some mapping => simp only [creditPlay_add hword]

theorem sampledFor_secs {block : PendingPlayerRewardBlockState} {secs : ℕ}
    (hfits : PassFits settings samples block secs) :
    (sampledFor settings activeMapping samples block secs).sampledIntervalSecs =
      block.sampledIntervalSecs + secs := saturatingAdd64_of_lt hfits.1

variable (settings context samples) in
/-- Nothing saturates in the passes of a tick: not in the one of the open block, and not in those
of the blocks behind it, which take a whole block at most. -/
def TickFits (secs : ℕ) (block : PendingPlayerRewardBlockState) : Prop :=
  PassFits settings samples block (min secs (secsToFill settings block)) ∧
    PassFits settings samples (freshBlock context)
      (min (secs - secsToFill settings block) (tickRewardBlockSecs settings))

instance (secs : ℕ) (block : PendingPlayerRewardBlockState) :
    Decidable (TickFits settings context samples secs block) :=
  inferInstanceAs (Decidable (_ ∧ _))

theorem secsToFill_fresh :
    secsToFill settings (freshBlock context) = tickRewardBlockSecs settings :=
  secsToFill_of_unsampled rfl

theorem nextBlock_sampledIntervalSecs (secs : ℕ) :
    (nextBlock context secs).sampledIntervalSecs = 0 := by
  unfold nextBlock
  split <;> rfl

theorem secsToFill_next (secs : ℕ) :
    secsToFill settings (nextBlock context secs) = tickRewardBlockSecs settings :=
  secsToFill_of_unsampled (nextBlock_sampledIntervalSecs secs)

theorem TickFits.word {secs : ℕ} {block : PendingPlayerRewardBlockState}
    (h : TickFits settings context samples secs block) (hfull : secsToFill settings block ≤ secs) :
    tickRewardBlockSecs settings < 2 ^ 64 := by
  have hfirst := h.1.1
  rw [min_eq_right hfull] at hfirst
  unfold secsToFill at hfirst
  omega

theorem TickFits.mono {secs less : ℕ} {block : PendingPlayerRewardBlockState}
    (h : TickFits settings context samples secs block) (hle : less ≤ secs) :
    TickFits settings context samples less block :=
  ⟨h.1.mono (by omega), h.2.mono (by omega)⟩

/-- The seconds behind a full block fit as well. -/
theorem TickFits.rest {secs : ℕ} {block : PendingPlayerRewardBlockState}
    (h : TickFits settings context samples secs block) :
    TickFits settings context samples (secs - secsToFill settings block)
      (nextBlock context (secs - secsToFill settings block)) := by
  unfold TickFits
  rw [secsToFill_next]
  refine ⟨⟨?_, h.2.2⟩, h.2.mono (min_le_min_right _ (Nat.sub_le _ _))⟩
  rw [nextBlock_sampledIntervalSecs]
  exact h.2.1

variable (context) in
/-- The block that the next second falls into: an empty one is started first. -/
def goesOn (rest : PendingPlayerRewardBlockState) : PendingPlayerRewardBlockState :=
  if rest.sampledIntervalSecs = 0 then freshBlock context else rest

/-- Seconds can be cut anywhere. -/
theorem seconds_add {secs more : ℕ} {block : PendingPlayerRewardBlockState} (hsecs : 0 < secs)
    (hmore : 0 < more) (hfits : TickFits settings context samples (secs + more) block) :
    blocksWithin settings evidence context activeMapping samples (secs + more) block =
        blocksWithin settings evidence context activeMapping samples secs block ++
          blocksWithin settings evidence context activeMapping samples more
            (goesOn context
              (blockAfter settings evidence context activeMapping samples secs block)) ∧
      blockAfter settings evidence context activeMapping samples (secs + more) block =
        blockAfter settings evidence context activeMapping samples more
          (goesOn context
            (blockAfter settings evidence context activeMapping samples secs block)) := by
  induction secs using Nat.strong_induction_on generalizing block with
  | h secs ih =>
      by_cases hshort : secs < secsToFill settings block
      · -- the block goes on behind the cut
        have hfirst : PassFits settings samples block secs := hfits.1.mono (by omega)
        obtain ⟨hnone, hafter⟩ := @pass_short settings evidence context activeMapping samples _ _
          hsecs hshort
        have hsampled := @sampledFor_secs settings activeMapping samples _ _ hfirst
        have hgoes : goesOn context (sampledFor settings activeMapping samples block secs) =
            sampledFor settings activeMapping samples block secs := if_neg (by omega)
        have hfill : secsToFill settings (sampledFor settings activeMapping samples block secs) =
            secsToFill settings block - secs := by
          unfold secsToFill at hshort ⊢
          omega
        rw [hnone, hafter, hgoes, List.nil_append]
        by_cases hopen : secs + more < secsToFill settings block
        · have hwhole := @pass_short settings evidence context activeMapping samples _ _
            (Nat.add_pos_left hsecs more) hopen
          have hrest := @pass_short settings evidence context activeMapping samples _ _ hmore
            (show more < secsToFill settings
              (sampledFor settings activeMapping samples block secs) by omega)
          rw [hwhole.1, hwhole.2, hrest.1, hrest.2, sampledFor_add (hfits.1.mono (by omega))]
          exact ⟨rfl, rfl⟩
        · have hfull : secsToFill settings block ≤ secs + more := Nat.not_lt.mp hopen
          have hword := hfits.word hfull
          have hwhole := @pass_full settings evidence context activeMapping samples _ _ hfull hword
          have hrest := @pass_full settings evidence context activeMapping samples more
            (sampledFor settings activeMapping samples block secs) (by omega) hword
          have hsame : sampledFor settings activeMapping samples
              (sampledFor settings activeMapping samples block secs)
              (secsToFill settings block - secs) =
                sampledFor settings activeMapping samples block (secsToFill settings block) := by
            have hsum : secs + (secsToFill settings block - secs) = secsToFill settings block := by
              omega
            have hadd := @sampledFor_add settings activeMapping samples block secs
              (secsToFill settings block - secs) (hfits.1.mono (by omega))
            rwa [hsum] at hadd
          have hleft : more - (secsToFill settings block - secs) =
              secs + more - secsToFill settings block := by omega
          rw [hwhole.1, hwhole.2, hrest.1, hrest.2, hfill, hsame, hleft]
          exact ⟨rfl, rfl⟩
      · -- the first block is full before the cut
        have hfull : secsToFill settings block ≤ secs := Nat.not_lt.mp hshort
        have hword := hfits.word (hfull.trans (Nat.le_add_right secs more))
        have hwhole := @pass_full settings evidence context activeMapping samples (secs + more) _
          (hfull.trans (Nat.le_add_right secs more)) hword
        have hfirst := @pass_full settings evidence context activeMapping samples secs _ hfull hword
        have hleft : secs + more - secsToFill settings block =
            (secs - secsToFill settings block) + more := by omega
        rw [hwhole.1, hwhole.2, hfirst.1, hfirst.2, hleft]
        by_cases hcut : secs - secsToFill settings block = 0
        · have hgoes : goesOn context (nextBlock context 0) = nextBlock context more := by
            rw [nextBlock_eq_fresh hmore]
            rfl
          rw [hcut, Nat.zero_add, blocksWithin_zero, blockAfter_zero, hgoes]
          exact ⟨rfl, rfl⟩
        · have hpos : 0 < secs - secsToFill settings block := Nat.pos_of_ne_zero hcut
          have hfill := @secsToFill_pos settings block
          have hrest := hfits.rest
          rw [hleft, nextBlock_eq_fresh (by omega)] at hrest
          obtain ⟨hblocks, hafter⟩ := ih _ (by omega) hpos hrest
          rw [nextBlock_eq_fresh (Nat.add_pos_left hpos more), nextBlock_eq_fresh hpos, hblocks,
            hafter]
          exact ⟨rfl, rfl⟩

/-- Behind a full block the seconds make up whole blocks and a rest. -/
theorem blockAfter_next (hword : tickRewardBlockSecs settings < 2 ^ 64) (secs : ℕ) :
    blockAfter settings evidence context activeMapping samples secs (nextBlock context secs) =
      if secs % tickRewardBlockSecs settings = 0 then {}
      else
        sampledFor settings activeMapping samples (freshBlock context)
          (secs % tickRewardBlockSecs settings) := by
  induction secs using Nat.strong_induction_on with
  | h secs ih =>
      have hfill := @secsToFill_next settings context secs
      have hblock := @tickRewardBlockSecs_pos settings
      rcases Nat.eq_zero_or_pos secs with rfl | hpos
      · rw [blockAfter_zero, Nat.zero_mod, if_pos rfl]
        rfl
      by_cases hshort : secs < tickRewardBlockSecs settings
      · have hopen := @pass_short settings evidence context activeMapping samples secs
          (nextBlock context secs) hpos (by omega)
        rw [hopen.2, Nat.mod_eq_of_lt hshort, if_neg hpos.ne', nextBlock_eq_fresh hpos]
      · have hwhole := @pass_full settings evidence context activeMapping samples secs
          (nextBlock context secs) (by omega) hword
        rw [hfill] at hwhole
        rw [hwhole.2, ih _ (by omega), ← Nat.mod_eq_sub_mod (Nat.not_lt.mp hshort)]

/-- The seconds make up the completed blocks and what is left open. -/
theorem seconds_conserved {secs : ℕ} {block : PendingPlayerRewardBlockState} (hsecs : 0 < secs)
    (hopen : block.sampledIntervalSecs < tickRewardBlockSecs settings)
    (hfits : TickFits settings context samples secs block) :
    block.sampledIntervalSecs + secs =
      (blocksWithin settings evidence context activeMapping samples secs block).length *
          tickRewardBlockSecs settings +
        (blockAfter settings evidence context activeMapping samples secs
          block).sampledIntervalSecs := by
  induction secs using Nat.strong_induction_on generalizing block with
  | h secs ih =>
      have hfill : secsToFill settings block =
          tickRewardBlockSecs settings - block.sampledIntervalSecs := by
        unfold secsToFill
        omega
      by_cases hshort : secs < secsToFill settings block
      · obtain ⟨hnone, hafter⟩ := @pass_short settings evidence context activeMapping samples _ _
          hsecs hshort
        rw [hnone, hafter, sampledFor_secs (hfits.1.mono (by omega)), List.length_nil]
        omega
      · have hfull : secsToFill settings block ≤ secs := Nat.not_lt.mp hshort
        have hwhole := @pass_full settings evidence context activeMapping samples secs _ hfull
          (hfits.word hfull)
        rw [hwhole.1, hwhole.2, List.length_cons, Nat.add_mul, Nat.one_mul]
        by_cases hend : secs - secsToFill settings block = 0
        · have hnext : (nextBlock context 0).sampledIntervalSecs = 0 := rfl
          rw [hend, blocksWithin_zero, blockAfter_zero, hnext, List.length_nil]
          omega
        · have hpos := Nat.pos_of_ne_zero hend
          have hrest := hfits.rest
          rw [nextBlock_eq_fresh hpos] at hrest ⊢
          have hpositive := @secsToFill_pos settings block
          have hsampled : (freshBlock context).sampledIntervalSecs = 0 := rfl
          have hblock := @tickRewardBlockSecs_pos settings
          have hcount := ih _ (by omega) hpos (by omega) hrest
          rw [hsampled] at hcount
          omega

end Seconds

namespace TickSample

/-- Blocks of two seconds, and a game with a coefficient of ten. -/
def settings : RewardSettings where
  reward :=
    { rewardSource := .static
      emissionYear := 1
      rewardBlockSecs := 2
      playerBlockReward := 100
      rewardAdjustmentPeriodBlocks := 1
      targetNetworkWeightUnits := 1
      rewardAdjustmentCapBps := 0
      collectRewardBps := 0
      storeRewardBps := 0
      verifyRewardBps := 0
      proposeRewardBps := 0
      tailEmissionStartYear := 4
      tailEmissionRateBps := 200
      gameMappings := [⟨"game.exe", 1, 10⟩, ⟨"other.exe", 2, 1⟩] }
  activated := none

def game : ActiveGameMapping := ⟨"game.exe", 1, 10⟩

def context (rewardAdjustmentPeriodIndex adjustmentCycleIndex : ℕ) : RewardTickContext where
  epochId := 1
  slotId := 1
  sessionId := "aa"
  sampledIntervalSecs := 2
  fixedBlockReward := 100
  fixedPlayerReward := 100
  rewardAdjustmentPeriodIndex
  adjustmentCycleIndex
  fixedPlayerRewardBasisCycleIndex := 0
  fixedPlayerRewardBasisTotalNetworkWeightUnits := 0

end TickSample

end PoleProtocol.Node
