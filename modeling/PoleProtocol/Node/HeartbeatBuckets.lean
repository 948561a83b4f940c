import PoleProtocol.Chain.Session

/-!
# Heartbeat buckets

A node spreads its heartbeats over the buckets of a reward block by the number of the slot alone.
The chain counts the distinct buckets of a session against the number that the claimed play time
has room for.
-/

namespace PoleProtocol.Node

open Framework

/-- The reward block of a slot, and the bucket within the block. -/
def heartbeatBucketForSlot (slotId blockSecs bucketSeconds tickIntervalSecs : ℕ) : ℕ × ℕ :=
  let slotsPerBlock := max (blockSecs / max tickIntervalSecs 1) 1
  let zeroBasedSlot := slotId - 1
  let blockIndex := zeroBasedSlot / slotsPerBlock
  let blockOffset := zeroBasedSlot % slotsPerBlock
  let elapsedInBlockSecs := min (blockOffset * tickIntervalSecs) (2 ^ 64 - 1)
  (blockIndex, elapsedInBlockSecs / max bucketSeconds 1)

section Buckets

variable {blockSecs bucketSeconds tickIntervalSecs : ℕ}

theorem parts_pos {parts part : ℕ} (hblock : 0 < blockSecs) (hparts : blockSecs = parts * part) :
    0 < parts := by
  refine Nat.pos_of_ne_zero fun hzero => ?_
  rw [hparts, hzero, zero_mul] at hblock
  omega

/-- The ceiling of a whole number of buckets. -/
theorem ceil_of_whole {buckets : ℕ} (hbucket : 0 < bucketSeconds)
    (hbuckets : blockSecs = buckets * bucketSeconds) :
    (blockSecs + bucketSeconds - 1) / bucketSeconds = buckets := by
  have hshape : blockSecs + bucketSeconds - 1 = bucketSeconds * buckets + (bucketSeconds - 1) := by
    rw [hbuckets, Nat.mul_comm]
    omega
  rw [hshape, Nat.mul_add_div hbucket, Nat.div_eq_of_lt (by omega), Nat.add_zero]

theorem lt_ceil_of_lt {n : ℕ} (hbucket : 0 < bucketSeconds) (hn : n < blockSecs) :
    n / bucketSeconds < (blockSecs + bucketSeconds - 1) / bucketSeconds := by
  have hshift : n / bucketSeconds + 1 = (n + bucketSeconds) / bucketSeconds :=
    (Nat.add_div_right n hbucket).symm
  have hle : (n + bucketSeconds) / bucketSeconds ≤
      (blockSecs + bucketSeconds - 1) / bucketSeconds := Nat.div_le_div_right (by omega)
  omega

/-- The bucket of a slot is one of those that the block has room for. -/
theorem heartbeatBucket_lt (slotId : ℕ) (hblock : 0 < blockSecs) (hbucket : 0 < bucketSeconds)
    (htick : 0 < tickIntervalSecs) :
    (heartbeatBucketForSlot slotId blockSecs bucketSeconds tickIntervalSecs).2 <
      (blockSecs + bucketSeconds - 1) / bucketSeconds := by
  have hticks : max tickIntervalSecs 1 = tickIntervalSecs := max_eq_left htick
  have hbuckets : max bucketSeconds 1 = bucketSeconds := max_eq_left hbucket
  unfold heartbeatBucketForSlot
  dsimp only
  rw [hticks, hbuckets]
  refine lt_ceil_of_lt hbucket (lt_of_le_of_lt (min_le_left _ _) ?_)
  have hoffset : (slotId - 1) % max (blockSecs / tickIntervalSecs) 1 <
      max (blockSecs / tickIntervalSecs) 1 :=
    Nat.mod_lt _ (lt_of_lt_of_le Nat.one_pos (le_max_right _ _))
  generalize (slotId - 1) % max (blockSecs / tickIntervalSecs) 1 = offset at hoffset
  by_cases hwhole : blockSecs / tickIntervalSecs = 0
  · rw [hwhole] at hoffset
    have hfirst : offset = 0 := Nat.lt_one_iff.mp hoffset
    rw [hfirst, zero_mul]
    exact hblock
  · rw [max_eq_left (Nat.pos_of_ne_zero hwhole)] at hoffset
    have hnext : (offset + 1) * tickIntervalSecs ≤
        blockSecs / tickIntervalSecs * tickIntervalSecs := Nat.mul_le_mul_right _ hoffset
    have hfits := Nat.div_mul_le_self blockSecs tickIntervalSecs
    rw [Nat.add_mul, Nat.one_mul] at hnext
    omega

/-- The buckets that the slots of a block fall into; the number of a slot is a 64-bit word. -/
def heartbeatBuckets (blockIndex blockSecs bucketSeconds tickIntervalSecs : ℕ) : Set ℕ :=
  {bucket | ∃ slotId, 1 ≤ slotId ∧ slotId < 2 ^ 64 ∧
    heartbeatBucketForSlot slotId blockSecs bucketSeconds tickIntervalSecs = (blockIndex, bucket)}

section Divided

variable {slotsPerBlock : ℕ} (hslots : blockSecs = slotsPerBlock * tickIntervalSecs)
  (hblock : 0 < blockSecs) (hbucket : 0 < bucketSeconds) (htick : 0 < tickIntervalSecs)
  (hword : blockSecs < 2 ^ 64)

include hslots hblock hbucket htick hword

/-- Where the ticks divide the block, the product of the offset never saturates. -/
theorem heartbeatBucketForSlot_eq (slotId : ℕ) :
    heartbeatBucketForSlot slotId blockSecs bucketSeconds tickIntervalSecs =
      ((slotId - 1) / slotsPerBlock,
        (slotId - 1) % slotsPerBlock * tickIntervalSecs / bucketSeconds) := by
  have hticks : max tickIntervalSecs 1 = tickIntervalSecs := max_eq_left htick
  have hbuckets : max bucketSeconds 1 = bucketSeconds := max_eq_left hbucket
  have hpos := parts_pos hblock hslots
  have hcount : blockSecs / tickIntervalSecs = slotsPerBlock := by
    rw [hslots, Nat.mul_div_cancel _ htick]
  have helapsed : (slotId - 1) % slotsPerBlock * tickIntervalSecs < blockSecs := by
    rw [hslots]
    exact Nat.mul_lt_mul_of_pos_right (Nat.mod_lt _ hpos) htick
  unfold heartbeatBucketForSlot
  dsimp only
  rw [hticks, hbuckets, hcount, max_eq_left (Nat.succ_le_of_lt hpos), min_eq_left (by omega)]

/-- The slot that opens a bucket of a block. -/
theorem mem_heartbeatBuckets {blockIndex bucket : ℕ} (hfine : tickIntervalSecs ≤ bucketSeconds)
    (hin : (bucket + 1) * bucketSeconds ≤ blockSecs)
    (hlast : blockIndex * blockSecs + bucket * bucketSeconds ≤ (2 ^ 64 - 2) * tickIntervalSecs) :
    bucket ∈ heartbeatBuckets blockIndex blockSecs bucketSeconds tickIntervalSecs := by
  obtain ⟨offset, hreach, hbefore⟩ : ∃ offset, bucket * bucketSeconds ≤ offset * tickIntervalSecs ∧
      offset * tickIntervalSecs < bucket * bucketSeconds + tickIntervalSecs := by
    refine ⟨(bucket * bucketSeconds + tickIntervalSecs - 1) / tickIntervalSecs, ?_, ?_⟩
    · have hdiv := Nat.div_add_mod (bucket * bucketSeconds + tickIntervalSecs - 1) tickIntervalSecs
      have hmod := Nat.mod_lt (bucket * bucketSeconds + tickIntervalSecs - 1) htick
      rw [Nat.mul_comm tickIntervalSecs] at hdiv
      omega
    · have hle :=
        Nat.div_mul_le_self (bucket * bucketSeconds + tickIntervalSecs - 1) tickIntervalSecs
      omega
  have hnext : (bucket + 1) * bucketSeconds = bucket * bucketSeconds + bucketSeconds :=
    Nat.succ_mul _ _
  have hoffset : offset < slotsPerBlock := by
    refine Nat.lt_of_mul_lt_mul_right (a := tickIntervalSecs) ?_
    rw [← hslots]
    omega
  have hslot : blockIndex * slotsPerBlock + offset < 2 ^ 64 - 1 := by
    refine Nat.lt_of_mul_lt_mul_right (a := tickIntervalSecs) ?_
    calc (blockIndex * slotsPerBlock + offset) * tickIntervalSecs
        = blockIndex * blockSecs + offset * tickIntervalSecs := by rw [hslots]; ring
      _ < (2 ^ 64 - 2) * tickIntervalSecs + tickIntervalSecs := by omega
      _ = (2 ^ 64 - 1) * tickIntervalSecs := (Nat.succ_mul _ _).symm
  have hpos : 0 < slotsPerBlock := by omega
  refine ⟨blockIndex * slotsPerBlock + offset + 1, by omega, by omega, ?_⟩
  rw [heartbeatBucketForSlot_eq hslots hblock hbucket htick hword, Nat.add_sub_cancel,
    Nat.mul_comm blockIndex, Nat.mul_add_div hpos, Nat.mul_add_mod, Nat.div_eq_of_lt hoffset,
    Nat.mod_eq_of_lt hoffset, Nat.add_zero, Prod.mk.injEq]
  refine ⟨rfl, Nat.div_eq_of_lt_le hreach ?_⟩
  rw [hnext]
  omega

/-- A block reaches a bucket only if the slot that opens the bucket is a word. -/
theorem le_of_mem_heartbeatBuckets {blockIndex bucket : ℕ}
    (hmem : bucket ∈ heartbeatBuckets blockIndex blockSecs bucketSeconds tickIntervalSecs) :
    blockIndex * blockSecs + bucket * bucketSeconds ≤ (2 ^ 64 - 2) * tickIntervalSecs := by
  obtain ⟨slotId, hone, hsmall, heq⟩ := hmem
  rw [heartbeatBucketForSlot_eq hslots hblock hbucket htick hword, Prod.mk.injEq] at heq
  obtain ⟨hindex, hbucketAt⟩ := heq
  have hopens := Nat.div_mul_le_self ((slotId - 1) % slotsPerBlock * tickIntervalSecs) bucketSeconds
  rw [hbucketAt] at hopens
  calc blockIndex * blockSecs + bucket * bucketSeconds
      ≤ blockIndex * blockSecs + (slotId - 1) % slotsPerBlock * tickIntervalSecs :=
        Nat.add_le_add_left hopens _
    _ = (slotsPerBlock * blockIndex + (slotId - 1) % slotsPerBlock) * tickIntervalSecs := by
        rw [hslots]; ring
    _ = (slotId - 1) * tickIntervalSecs := by rw [← hindex, Nat.div_add_mod]
    _ ≤ (2 ^ 64 - 2) * tickIntervalSecs := Nat.mul_le_mul_right _ (by omega)

/-- The slots of a block reach exactly the buckets of the block if and only if the slot that opens
the last of them is a word. -/
theorem heartbeatBuckets_eq_iff {blockIndex buckets : ℕ}
    (hfine : tickIntervalSecs ≤ bucketSeconds) (hbuckets : blockSecs = buckets * bucketSeconds) :
    heartbeatBuckets blockIndex blockSecs bucketSeconds tickIntervalSecs = Set.Iio buckets ↔
      (blockIndex + 1) * blockSecs ≤ (2 ^ 64 - 2) * tickIntervalSecs + bucketSeconds := by
  have hpos := parts_pos hblock hbuckets
  have hfinal : blockSecs = (buckets - 1) * bucketSeconds + bucketSeconds := by
    rw [hbuckets, ← Nat.succ_mul, Nat.succ_eq_add_one, Nat.sub_add_cancel hpos]
  have hsucc : (blockIndex + 1) * blockSecs = blockIndex * blockSecs + blockSecs :=
    Nat.succ_mul _ _
  constructor
  · intro heq
    have hlast : buckets - 1 ∈
        heartbeatBuckets blockIndex blockSecs bucketSeconds tickIntervalSecs := by
      rw [heq]
      exact Nat.sub_lt hpos Nat.one_pos
    have hle := le_of_mem_heartbeatBuckets hslots hblock hbucket htick hword hlast
    omega
  · intro hlast
    refine Set.Subset.antisymm (fun bucket hmem => ?_) (fun bucket hlt => ?_)
    · obtain ⟨slotId, -, -, heq⟩ := hmem
      have hbound := heartbeatBucket_lt slotId hblock hbucket htick
      rw [heq, ceil_of_whole hbucket hbuckets] at hbound
      exact hbound
    · have hprior : bucket * bucketSeconds ≤ (buckets - 1) * bucketSeconds :=
        Nat.mul_le_mul_right _ (Nat.le_sub_one_of_lt hlt)
      refine mem_heartbeatBuckets hslots hblock hbucket htick hword hfine ?_ (by omega)
      rw [Nat.succ_mul]
      omega

end Divided

/-- A session of whole buckets with a heartbeat in each is fully covered if and only if neither the
ceiling nor the product of the coverage leaves the word. -/
theorem heartbeatCoverageBps_full_iff {buckets : ℕ} (hblock : 0 < blockSecs)
    (hbucket : 0 < bucketSeconds) (hword : blockSecs < 2 ^ 64)
    (hbuckets : blockSecs = buckets * bucketSeconds) :
    Chain.heartbeatCoverageBps buckets blockSecs bucketSeconds = 10000 ↔
      blockSecs + bucketSeconds ≤ 2 ^ 64 ∧ buckets * 10000 < 2 ^ 64 := by
  have hpos := parts_pos hblock hbuckets
  have hle : bucketSeconds ≤ blockSecs := by
    rw [hbuckets]
    exact Nat.le_mul_of_pos_left _ hpos
  unfold Chain.heartbeatCoverageBps
  rw [if_neg (by omega)]
  dsimp only
  by_cases hceil : blockSecs + bucketSeconds ≤ 2 ^ 64
  · have hroom : wrap64 (blockSecs + bucketSeconds - 1) / bucketSeconds = buckets := by
      rw [wrap64_of_lt (by omega), ceil_of_whole hbucket hbuckets]
    rw [hroom, if_neg (by omega), min_self]
    by_cases hproduct : buckets * 10000 < 2 ^ 64
    · rw [wrap64_of_lt hproduct, Nat.mul_div_cancel_left _ hpos, min_self]
      exact iff_of_true rfl ⟨hceil, hproduct⟩
    · refine iff_of_false (fun heq => ?_) (fun h => hproduct h.2)
      have hsmall : wrap64 (buckets * 10000) < 2 ^ 64 := Nat.mod_lt _ (by norm_num)
      have hlt : wrap64 (buckets * 10000) / buckets < 10000 := by
        rw [Nat.div_lt_iff_lt_mul hpos]
        omega
      omega
  · refine iff_of_false (fun heq => ?_) (fun h => hceil h.1)
    have hwrap : wrap64 (blockSecs + bucketSeconds - 1) < bucketSeconds := by
      unfold wrap64
      omega
    rw [Nat.div_eq_of_lt hwrap, if_pos rfl] at heq
    omega

end Buckets

/-- Every slot has a bucket that the block has room for; where the ticks and the buckets divide the
block, its slots reach all of its buckets, and a node that ticks through it is fully covered. -/
def BucketsFit (blockIndex blockSecs bucketSeconds tickIntervalSecs : ℕ) : Prop :=
  (∀ slotId, 1 ≤ slotId →
    (heartbeatBucketForSlot slotId blockSecs bucketSeconds tickIntervalSecs).2 <
      (blockSecs + bucketSeconds - 1) / bucketSeconds) ∧
  (tickIntervalSecs ≤ bucketSeconds → tickIntervalSecs ∣ blockSecs → bucketSeconds ∣ blockSecs →
    heartbeatBuckets blockIndex blockSecs bucketSeconds tickIntervalSecs =
        Set.Iio (blockSecs / bucketSeconds) ∧
      Chain.heartbeatCoverageBps
        (heartbeatBuckets blockIndex blockSecs bucketSeconds tickIntervalSecs).ncard
        blockSecs bucketSeconds = 10000)

/-- The buckets of a block fit the coverage of the chain exactly if the slots of the block are
words up to the one that opens the last bucket, and the arithmetic of the coverage stays within
its width. -/
theorem buckets_fit_iff {blockIndex blockSecs bucketSeconds tickIntervalSecs : ℕ}
    (hblock : 1 ≤ blockSecs) (hbucket : 1 ≤ bucketSeconds) (htick : 1 ≤ tickIntervalSecs)
    (hword : blockSecs < 2 ^ 64) :
    BucketsFit blockIndex blockSecs bucketSeconds tickIntervalSecs ↔
      (tickIntervalSecs ≤ bucketSeconds → tickIntervalSecs ∣ blockSecs →
        bucketSeconds ∣ blockSecs →
        (blockIndex + 1) * blockSecs ≤ (2 ^ 64 - 2) * tickIntervalSecs + bucketSeconds ∧
          blockSecs + bucketSeconds ≤ 2 ^ 64 ∧ blockSecs / bucketSeconds * 10000 < 2 ^ 64) := by
  unfold BucketsFit
  rw [and_iff_right fun slotId _ => heartbeatBucket_lt slotId hblock hbucket htick]
  refine forall_congr' fun hfine => forall_congr' fun hticks => forall_congr' fun hbuckets => ?_
  have hslots := (Nat.div_mul_cancel hticks).symm
  have hwhole := (Nat.div_mul_cancel hbuckets).symm
  have hreach : heartbeatBuckets blockIndex blockSecs bucketSeconds tickIntervalSecs =
      Set.Iio (blockSecs / bucketSeconds) ↔ _ :=
    heartbeatBuckets_eq_iff hslots hblock hbucket htick hword hfine hwhole
  have hcovered := heartbeatCoverageBps_full_iff hblock hbucket hword hwhole
  constructor
  · rintro ⟨hall, hfull⟩
    rw [hall, Set.ncard_Iio_nat] at hfull
    exact ⟨hreach.mp hall, hcovered.mp hfull⟩
  · rintro ⟨hlast, hwidth⟩
    have hall := hreach.mpr hlast
    refine ⟨hall, ?_⟩
    rw [hall, Set.ncard_Iio_nat]
    exact hcovered.mpr hwidth

/-- An hour of ticks of five minutes, two to a bucket. -/
theorem buckets_fit_hour : BucketsFit 0 3600 600 300 :=
  (buckets_fit_iff (by norm_num) (by norm_num) (by norm_num) (by norm_num)).mpr
    fun _ _ _ => by norm_num

/-- A bucket, a tick and a block of the largest length: the ceiling wraps to zero. -/
theorem buckets_of_longest_block :
    ¬ BucketsFit 0 (2 ^ 64 - 1) (2 ^ 64 - 1) (2 ^ 64 - 1) := by
  intro hfit
  have hfull := (hfit.2 le_rfl dvd_rfl dvd_rfl).2
  have hnone : ∀ count, Chain.heartbeatCoverageBps count (2 ^ 64 - 1) (2 ^ 64 - 1) = 0 := by
    intro count
    rfl
  rw [hnone] at hfull
  omega

end PoleProtocol.Node
