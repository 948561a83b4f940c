import PoleProtocol.Node.EpochAggregation

/-!
# Growth of the weights

With the default weights, more collectors and more players never weigh less, and nothing leaves its
word, up to the number of collectors and the position in the epoch at which one of the plain
products or sums does.
-/

namespace PoleProtocol.Node

open Framework Ledger

/-! ## The weights under a policy for overflows -/

section Policy

variable (policy : Overflow) (config : AggregationConfig)

def classifyTierUnder (uniqueCollectors medianPlayers : ℕ) : Option (GvsTier × ℕ) :=
  let tier1Weight := (config.activatedRewards.map (·.tier1WeightPpm)).getD 1000000
  let tier2Min := (config.activatedRewards.map (·.tier2WeightMinPpm)).getD 300000
  let tier2Max := (config.activatedRewards.map (·.tier2WeightMaxPpm)).getD 600000
  let tier3Min := (config.activatedRewards.map (·.tier3WeightMinPpm)).getD 50000
  let tier3Max := (config.activatedRewards.map (·.tier3WeightMaxPpm)).getD 150000
  if tier1MinCollectors ≤ uniqueCollectors ∧ tier1MinPlayers ≤ medianPlayers then
    some (.tier1, tier1Weight)
  else if tier1MinCollectors ≤ uniqueCollectors then do
    let collectorBonus ← policy.mul 32 (uniqueCollectors - tier1MinCollectors) 50000
    let playerBonus ← policy.mul 32 (min (medianPlayers / 500) 3) 50000
    let withCollectors ← policy.add 32 tier2Min collectorBonus
    let weight ← policy.add 32 withCollectors playerBonus
    return (.tier2, min weight tier2Max)
  else do
    let collectorBonus ← policy.mul 32 (uniqueCollectors - 1) 25000
    let playerBonus ← policy.mul 32 (min (medianPlayers / 500) 2) 25000
    let withCollectors ← policy.add 32 tier3Min collectorBonus
    let weight ← policy.add 32 withCollectors playerBonus
    return (.tier3, min weight tier3Max)

def computeTimeDecayPpmUnder (slotId : ℕ) : Option ℕ :=
  let slotsPerEpoch := max config.slotsPerEpoch 1
  if slotsPerEpoch ≤ 1 then some 1000000
  else do
    let slotIndex := min (slotId - 1) (slotsPerEpoch - 1)
    let scaled ← policy.mul 64 slotIndex 150000
    let ramp := scaled / (slotsPerEpoch - 1)
    let decay ← policy.add 32 850000 (wrap32 ramp)
    return min decay 1000000

def computeCoverageBonusPpmUnder (uniqueCollectors : ℕ) : Option ℕ := do
  let extraCollectors := uniqueCollectors - 1
  let bonus ← policy.add 32 1000000 (min (extraCollectors * 50000) (2 ^ 32 - 1))
  return min bonus 1250000

/-- What the source computes when its plain additions and multiplications follow the policy. -/
def computeGvsFactorsUnder (slotId uniqueCollectors medianPlayers : ℕ) : Option GvsFactors := do
  let baseGlvMicrounits := min (medianPlayers * ppmDenominator) (2 ^ 64 - 1)
  let (tier, tierWeightPpm) ← classifyTierUnder policy config uniqueCollectors medianPlayers
  let timeDecayPpm ← computeTimeDecayPpmUnder policy config slotId
  let coverageBonusPpm ← computeCoverageBonusPpmUnder policy uniqueCollectors
  some
    { baseGlvMicrounits
      tier
      tierWeightPpm
      timeDecayPpm
      coverageBonusPpm
      gvsMicrounits :=
        computeGvsMicrounits baseGlvMicrounits tierWeightPpm timeDecayPpm coverageBonusPpm }

end Policy

/-! ## Without overflow checks -/

section Wrap

variable (config : AggregationConfig)

theorem classifyTierUnder_wrap (uniqueCollectors medianPlayers : ℕ) :
    classifyTierUnder .wrap config uniqueCollectors medianPlayers =
      some (classifyTier config uniqueCollectors medianPlayers) := by
  unfold classifyTierUnder classifyTier
  simp only [Overflow.mul_wrap, Overflow.add_wrap, Option.bind_eq_bind, Option.bind_some,
    Option.pure_def, wrap32, Nat.mod_add_mod, Nat.add_mod_mod]
  split
  · rfl
  · split <;> rfl

theorem computeTimeDecayPpmUnder_wrap (slotId : ℕ) :
    computeTimeDecayPpmUnder .wrap config slotId = some (computeTimeDecayPpm config slotId) := by
  unfold computeTimeDecayPpmUnder computeTimeDecayPpm
  simp only [Overflow.mul_wrap, Overflow.add_wrap, Option.bind_eq_bind, Option.bind_some,
    Option.pure_def]
  split <;> rfl

theorem computeCoverageBonusPpmUnder_wrap (uniqueCollectors : ℕ) :
    computeCoverageBonusPpmUnder .wrap uniqueCollectors =
      some (computeCoverageBonusPpm uniqueCollectors) := by
  simp [computeCoverageBonusPpmUnder, computeCoverageBonusPpm, Overflow.add_wrap, wrap32]

/-- A build without overflow checks computes the factors of the model. -/
theorem computeGvsFactorsUnder_wrap (slotId uniqueCollectors medianPlayers : ℕ) :
    computeGvsFactorsUnder .wrap config slotId uniqueCollectors medianPlayers =
      some (computeGvsFactors config slotId uniqueCollectors medianPlayers) := by
  simp only [computeGvsFactorsUnder, classifyTierUnder_wrap, computeTimeDecayPpmUnder_wrap,
    computeCoverageBonusPpmUnder_wrap, Option.bind_eq_bind, Option.bind_some]
  rfl

end Wrap

/-! ## With overflow checks -/

abbrev defaultConfig (slotsPerEpoch : ℕ) : AggregationConfig := ⟨slotsPerEpoch, none⟩

/-- The slot's position in the epoch can be scaled. -/
def SlotFits (slotsPerEpoch slotId : ℕ) : Prop :=
  slotsPerEpoch ≤ 1 ∨ min (slotId - 1) (slotsPerEpoch - 1) * 150000 < 2 ^ 64

instance (slotsPerEpoch slotId : ℕ) : Decidable (SlotFits slotsPerEpoch slotId) :=
  inferInstanceAs (Decidable (_ ∨ _))

def mostCollectors : ℕ := 85880

theorem computeCoverageBonusPpmUnder_panic (uniqueCollectors : ℕ) :
    (computeCoverageBonusPpmUnder .panic uniqueCollectors).isSome = true ↔
      uniqueCollectors ≤ mostCollectors := by
  unfold computeCoverageBonusPpmUnder mostCollectors
  by_cases hfits : 1000000 + min ((uniqueCollectors - 1) * 50000) (2 ^ 32 - 1) < 2 ^ 32
  · simp only [Overflow.add_of_lt _ hfits]
    simp
    omega
  · simp only [Overflow.add_panic_of_le (Nat.not_lt.mp hfits)]
    simp
    omega

/-- Two scaled bonuses on top of a least weight. -/
theorem bonuses_panic (tier : GvsTier) {a b c d : ℕ} (least most : ℕ) (hab : a * b < 2 ^ 32)
    (hcd : c * d < 2 ^ 32) (hsum : least + a * b + c * d < 2 ^ 32) :
    Option.isSome (do
      let collectorBonus ← Overflow.panic.mul 32 a b
      let playerBonus ← Overflow.panic.mul 32 c d
      let withCollectors ← Overflow.panic.add 32 least collectorBonus
      let weight ← Overflow.panic.add 32 withCollectors playerBonus
      return (tier, min weight most)) = true := by
  have hfirst : least + a * b < 2 ^ 32 := lt_of_le_of_lt (Nat.le_add_right _ _) hsum
  simp [Overflow.mul_of_lt _ hab, Overflow.mul_of_lt _ hcd, Overflow.add_of_lt _ hfirst,
    Overflow.add_of_lt _ hsum]

/-- A position scaled over the epoch never leaves the word by the sum. -/
theorem ramp_panic {index last scale least most : ℕ} (hindex : index ≤ last)
    (hleast : least + scale < 2 ^ 32) :
    Option.isSome (do
      let scaled ← Overflow.panic.mul 64 index scale
      let decay ← Overflow.panic.add 32 least (wrap32 (scaled / last))
      return min decay most) = true ↔ index * scale < 2 ^ 64 := by
  by_cases hfits : index * scale < 2 ^ 64
  · have hramp : index * scale / last ≤ scale :=
      Nat.div_le_of_le_mul (Nat.mul_le_mul_right scale hindex)
    have hwrap : wrap32 (index * scale / last) ≤ index * scale / last := Nat.mod_le _ _
    have hsum : least + wrap32 (index * scale / last) < 2 ^ 32 :=
      lt_of_le_of_lt (Nat.add_le_add_left (hwrap.trans hramp) least) hleast
    rw [iff_true_right hfits]
    simp [Overflow.mul_of_lt _ hfits, Overflow.add_of_lt _ hsum]
  · rw [iff_false_right hfits]
    simp [Overflow.mul_panic_of_le (Nat.not_lt.mp hfits)]

theorem computeTimeDecayPpmUnder_panic (slotsPerEpoch slotId : ℕ) :
    (computeTimeDecayPpmUnder .panic (defaultConfig slotsPerEpoch) slotId).isSome = true ↔
      SlotFits slotsPerEpoch slotId := by
  unfold computeTimeDecayPpmUnder SlotFits
  by_cases hone : slotsPerEpoch ≤ 1
  · simp [hone]
  · have hmax : max slotsPerEpoch 1 = slotsPerEpoch := by omega
    simp only [hmax, if_neg hone, or_iff_right hone]
    exact ramp_panic (min_le_right _ _) (by norm_num)

theorem classifyTierUnder_panic {slotsPerEpoch uniqueCollectors : ℕ} (medianPlayers : ℕ)
    (hfew : uniqueCollectors ≤ mostCollectors) :
    (classifyTierUnder .panic (defaultConfig slotsPerEpoch) uniqueCollectors
      medianPlayers).isSome = true := by
  unfold mostCollectors at hfew
  unfold classifyTierUnder
  simp only [Option.map_none, Option.getD_none]
  split
  · rfl
  · unfold tier1MinCollectors
    split
    · have hthree : min (medianPlayers / 500) 3 ≤ 3 := min_le_right _ _
      generalize min (medianPlayers / 500) 3 = share at hthree
      exact bonuses_panic _ _ _ (by omega) (by omega) (by omega)
    · have htwo : min (medianPlayers / 500) 2 ≤ 2 := min_le_right _ _
      generalize min (medianPlayers / 500) 2 = share at htwo
      exact bonuses_panic _ _ _ (by omega) (by omega) (by omega)

theorem computeGvsFactorsUnder_isSome (policy : Overflow) (config : AggregationConfig)
    (slotId uniqueCollectors medianPlayers : ℕ) :
    (computeGvsFactorsUnder policy config slotId uniqueCollectors medianPlayers).isSome =
      ((classifyTierUnder policy config uniqueCollectors medianPlayers).isSome &&
        (computeTimeDecayPpmUnder policy config slotId).isSome &&
        (computeCoverageBonusPpmUnder policy uniqueCollectors).isSome) := by
  unfold computeGvsFactorsUnder
  cases classifyTierUnder policy config uniqueCollectors medianPlayers with
  | none => rfl
  | some tier =>
      cases computeTimeDecayPpmUnder policy config slotId with
      | none => rfl
      | some decay => cases computeCoverageBonusPpmUnder policy uniqueCollectors <;> rfl

/-- Nothing leaves its word exactly up to a number of collectors and a position in the epoch. -/
theorem computeGvsFactorsUnder_panic (slotsPerEpoch slotId uniqueCollectors medianPlayers : ℕ) :
    (computeGvsFactorsUnder .panic (defaultConfig slotsPerEpoch) slotId uniqueCollectors
        medianPlayers).isSome = true ↔
      uniqueCollectors ≤ mostCollectors ∧ SlotFits slotsPerEpoch slotId := by
  rw [computeGvsFactorsUnder_isSome, Bool.and_eq_true, Bool.and_eq_true,
    computeTimeDecayPpmUnder_panic, computeCoverageBonusPpmUnder_panic]
  constructor
  · rintro ⟨⟨_, hslot⟩, hfew⟩
    exact ⟨hfew, hslot⟩
  · rintro ⟨hfew, hslot⟩
    exact ⟨⟨classifyTierUnder_panic medianPlayers hfew, hslot⟩, hfew⟩

/-! ## Monotonicity -/

theorem computeCoverageBonusPpm_of_le {uniqueCollectors : ℕ}
    (hfew : uniqueCollectors ≤ mostCollectors) :
    computeCoverageBonusPpm uniqueCollectors =
      min (1000000 + (uniqueCollectors - 1) * 50000) 1250000 := by
  unfold mostCollectors at hfew
  have hbonus : min ((uniqueCollectors - 1) * 50000) (2 ^ 32 - 1) =
      (uniqueCollectors - 1) * 50000 := by omega
  have hsum : 1000000 + (uniqueCollectors - 1) * 50000 < 2 ^ 32 := by omega
  simp only [computeCoverageBonusPpm, hbonus, wrap32, Nat.mod_eq_of_lt hsum]

theorem computeCoverageBonusPpm_mono {few many : ℕ} (hle : few ≤ many)
    (hmost : many ≤ mostCollectors) :
    computeCoverageBonusPpm few ≤ computeCoverageBonusPpm many := by
  rw [computeCoverageBonusPpm_of_le (hle.trans hmost), computeCoverageBonusPpm_of_le hmost]
  omega

/-- The default weight of a tier, without reduction to a word. -/
def defaultTierWeight (uniqueCollectors medianPlayers : ℕ) : ℕ :=
  if 3 ≤ uniqueCollectors ∧ 1000 ≤ medianPlayers then 1000000
  else if 3 ≤ uniqueCollectors then
    min (300000 + (uniqueCollectors - 3) * 50000 + min (medianPlayers / 500) 3 * 50000) 600000
  else min (50000 + (uniqueCollectors - 1) * 25000 + min (medianPlayers / 500) 2 * 25000) 150000

theorem classifyTier_of_le {slotsPerEpoch uniqueCollectors : ℕ} (medianPlayers : ℕ)
    (hfew : uniqueCollectors ≤ mostCollectors) :
    (classifyTier (defaultConfig slotsPerEpoch) uniqueCollectors medianPlayers).2 =
      defaultTierWeight uniqueCollectors medianPlayers := by
  unfold mostCollectors at hfew
  have hthree : min (medianPlayers / 500) 3 ≤ 3 := min_le_right _ _
  have htwo : min (medianPlayers / 500) 2 ≤ 2 := min_le_right _ _
  unfold classifyTier defaultTierWeight tier1MinCollectors tier1MinPlayers wrap32
  simp only [Option.map_none, Option.getD_none]
  split
  · rfl
  · split
    · have hcollectors : (uniqueCollectors - 3) * 50000 % 2 ^ 32 =
          (uniqueCollectors - 3) * 50000 := Nat.mod_eq_of_lt (by omega)
      rw [hcollectors]
      generalize min (medianPlayers / 500) 3 = bonus at hthree
      rw [Nat.mod_eq_of_lt (by omega)]
    · have hcollectors : (uniqueCollectors - 1) * 25000 % 2 ^ 32 =
          (uniqueCollectors - 1) * 25000 := Nat.mod_eq_of_lt (by omega)
      rw [hcollectors]
      generalize min (medianPlayers / 500) 2 = bonus at htwo
      rw [Nat.mod_eq_of_lt (by omega)]

theorem defaultTierWeight_mono {few many less more : ℕ} (hcollectors : few ≤ many)
    (hplayers : less ≤ more) : defaultTierWeight few less ≤ defaultTierWeight many more := by
  have hshare : less / 500 ≤ more / 500 := Nat.div_le_div_right hplayers
  unfold defaultTierWeight
  split_ifs <;> omega

theorem classifyTier_mono (slotsPerEpoch : ℕ) {few many less more : ℕ} (hcollectors : few ≤ many)
    (hplayers : less ≤ more) (hmost : many ≤ mostCollectors) :
    (classifyTier (defaultConfig slotsPerEpoch) few less).2 ≤
      (classifyTier (defaultConfig slotsPerEpoch) many more).2 := by
  rw [classifyTier_of_le less (hcollectors.trans hmost), classifyTier_of_le more hmost]
  exact defaultTierWeight_mono hcollectors hplayers

theorem saturatingMul128_mono {a a' b b' : ℕ} (ha : a ≤ a') (hb : b ≤ b') :
    saturatingMul128 a b ≤ saturatingMul128 a' b' :=
  min_le_min_right _ (Nat.mul_le_mul ha hb)

theorem computeGvsMicrounits_mono {base base' weight weight' bonus bonus' : ℕ} (decay : ℕ)
    (hbase : base ≤ base') (hweight : weight ≤ weight') (hbonus : bonus ≤ bonus') :
    computeGvsMicrounits base weight decay bonus ≤
      computeGvsMicrounits base' weight' decay bonus' := by
  have hweighted := saturatingMul128_mono (saturatingMul128_mono
    (saturatingMul128_mono hbase hweight) (le_refl decay)) hbonus
  exact min_le_min_right _ (Nat.div_le_div_right hweighted)

/-- Nothing overflows, and no smaller group of the slot weighs more, exactly when there are few
enough collectors and the position of the slot in the epoch is small enough. -/
theorem gvs_sound_iff (slotsPerEpoch slotId uniqueCollectors medianPlayers : ℕ) :
    ((computeGvsFactorsUnder .panic (defaultConfig slotsPerEpoch) slotId uniqueCollectors
        medianPlayers).isSome = true ∧
      ∀ few ≤ uniqueCollectors, ∀ less ≤ medianPlayers,
        (computeGvsFactors (defaultConfig slotsPerEpoch) slotId few less).tierWeightPpm ≤
            (computeGvsFactors (defaultConfig slotsPerEpoch) slotId uniqueCollectors
              medianPlayers).tierWeightPpm ∧
          (computeGvsFactors (defaultConfig slotsPerEpoch) slotId few less).gvsMicrounits ≤
            (computeGvsFactors (defaultConfig slotsPerEpoch) slotId uniqueCollectors
              medianPlayers).gvsMicrounits) ↔
      uniqueCollectors ≤ mostCollectors ∧ SlotFits slotsPerEpoch slotId := by
  rw [computeGvsFactorsUnder_panic]
  constructor
  · exact fun h => h.1
  · intro h
    refine ⟨h, ?_⟩
    intro few hfew less hless
    have hweight := classifyTier_mono slotsPerEpoch hfew hless h.1
    have hbase : min (less * ppmDenominator) (2 ^ 64 - 1) ≤
        min (medianPlayers * ppmDenominator) (2 ^ 64 - 1) :=
      min_le_min_right _ (Nat.mul_le_mul_right _ hless)
    exact ⟨hweight, computeGvsMicrounits_mono _ hbase hweight
      (computeCoverageBonusPpm_mono hfew h.1)⟩

/-- One more collector makes the sum of the coverage bonus leave its word: a build with overflow
checks panics, one without them gives the larger group less. -/
theorem gvs_of_too_many_collectors :
    computeGvsFactorsUnder .panic (defaultConfig 288) 1 85881 1000 = none ∧
    (computeGvsFactors (defaultConfig 288) 1 85881 1000).gvsMicrounits <
      (computeGvsFactors (defaultConfig 288) 1 85880 1000).gvsMicrounits := by
  decide +kernel

end PoleProtocol.Node
