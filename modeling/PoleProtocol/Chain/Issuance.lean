import PoleProtocol.Chain.Calendar

/-!
# Issuance over time

What the blocks of a run mint, against the yearly budget in proportion to the time that passed. A
block counts for at least one second and at most one month, so a block that does not advance the
clock mints a second's share on top, and a gap of more than a month pays one month only.
-/

namespace PoleProtocol.Chain

open Framework

/-- What a beginning block adds to the module account. -/
def mintedBy (env : Env) (s : KeeperState) : Input → ℕ
  | .beginBlock ctx => (next env s (.beginBlock ctx)).bank.pool - s.bank.pool
  | .deliver _ _ => 0

/-- The total that the beginning blocks of a run mint. -/
def minted (env : Env) (s : KeeperState) (inputs : List Input) : ℕ :=
  (trail (next env) (mintedBy env) s inputs).sum

def AnnualEmissionState.yearlyBudget (st : AnnualEmissionState) (params : Params) : ℕ :=
  annualAdjustedEmission (wrap32 st.yearIndex) params.targetNetworkWeightUnits st.prevEpochWeight
    annualEmissionCapBps

/-- The yearly budget that a beginning block mints from. -/
def yearlyBudgetOf (s : KeeperState) : Input → Option ℕ
  | .beginBlock ctx =>
      s.annualEmission.map fun st => (s.currentEmission st ctx.blockTime).yearlyBudget s.getParams
  | .deliver _ _ => none

/-- The yearly budgets along a run. -/
def yearlyBudgets (env : Env) (s : KeeperState) (inputs : List Input) : List ℕ :=
  (trail (next env) yearlyBudgetOf s inputs).reduceOption

/-- The number of blocks whose time is not later than that of the block before. -/
def stalledBlocks : (t : ℤ) → List ℤ → ℕ
  | _, [] => 0
  | t, u :: times => (if u ≤ t then 1 else 0) + stalledBlocks u times

theorem secondsPerYear_toNat : (secondsPerYear.toNat : ℤ) = secondsPerYear := rfl

theorem stalledBlocks_of_increasing {t : ℤ} {times : List ℤ} (h : (t :: times).IsChain (· < ·)) :
    stalledBlocks t times = 0 := by
  induction times generalizing t with
  | nil => rfl
  | cons u times ih =>
      obtain ⟨hlt, hrest⟩ := List.isChain_cons_cons.mp h
      rw [stalledBlocks, if_neg (by omega), ih hrest]

/-! ## The budget -/

theorem halveRate_le (periods rate : ℕ) : halveRate periods rate ≤ rate := by
  induction periods generalizing rate with
  | zero => exact le_rfl
  | succ periods ih =>
      cases rate with
      | zero => exact le_rfl
      | succ rate => exact (ih _).trans (Nat.div_le_self _ _)

theorem annualEmissionRateBps_le (year : ℕ) : annualEmissionRateBps year ≤ 2000 := by
  unfold annualEmissionRateBps
  split
  · decide
  · exact halveRate_le _ _

theorem mulDiv_le (a b divisor : ℕ) : mulDiv a b divisor ≤ a * b / divisor := wrap64_le _

theorem annualEmissionAmount_le (year : ℕ) : annualEmissionAmount year ≤ 200000000 := by
  have hrate := annualEmissionRateBps_le year
  have hmul : totalSupplyAmount * annualEmissionRateBps year ≤ totalSupplyAmount * 2000 :=
    Nat.mul_le_mul_left _ hrate
  calc annualEmissionAmount year
      ≤ totalSupplyAmount * annualEmissionRateBps year / basisPointsDivisor := mulDiv_le _ _ _
    _ ≤ totalSupplyAmount * 2000 / basisPointsDivisor := Nat.div_le_div_right hmul
    _ = 200000000 := by decide

/-- An adjusted reward exceeds its base by the cap at most, and is at least one unit. -/
theorem adjustedHourlyReward_le (base target previous cap : ℕ) :
    adjustedHourlyReward base target previous cap ≤ max 1 (2 * base) := by
  have hupper : mulDiv base (basisPointsDivisor + min cap basisPointsDivisor) basisPointsDivisor ≤
      2 * base := by
    have hmul : base * (basisPointsDivisor + min cap basisPointsDivisor) ≤ base * 20000 :=
      Nat.mul_le_mul_left _ (by unfold basisPointsDivisor; omega)
    have hdiv := mulDiv_le base (basisPointsDivisor + min cap basisPointsDivisor) basisPointsDivisor
    unfold basisPointsDivisor at hmul hdiv ⊢
    omega
  unfold adjustedHourlyReward
  simp only
  split
  · omega
  · split
    · omega
    · split
      · omega
      · omega

theorem yearlyBudget_le (st : AnnualEmissionState) (params : Params) :
    st.yearlyBudget params ≤ 400000000 := by
  have hbound := adjustedHourlyReward_le (annualEmissionAmount (wrap32 st.yearIndex))
    params.targetNetworkWeightUnits st.prevEpochWeight annualEmissionCapBps
  have hamount := annualEmissionAmount_le (wrap32 st.yearIndex)
  unfold AnnualEmissionState.yearlyBudget annualAdjustedEmission
  omega

/-! ## One block -/

section Block

variable {env : Env} {s : KeeperState} {st : AnnualEmissionState} {ctx : Ctx} {t : ℤ}

/-- The seconds a block at `u` counts for after one at `t`. -/
def countedSeconds (t u : ℤ) : ℕ := (min (max (u - t) 1) secondsPerMonth).toNat

theorem countedSeconds_le {u : ℤ} (hle : t ≤ u) :
    (countedSeconds t u : ℤ) ≤ u - t + if u ≤ t then 1 else 0 := by
  unfold countedSeconds secondsPerMonth
  split <;> omega

/-- A block's product of budget and seconds stays a 64-bit word. -/
theorem blockMint_eq (st : AnnualEmissionState) (params : Params) (u : ℤ) :
    st.blockMint params u = st.yearlyBudget params * countedSeconds st.lastMintUnix u /
      secondsPerYear.toNat := by
  have hseconds : (if secondsPerMonth < (if u - st.lastMintUnix ≤ 0 then 1 else u - st.lastMintUnix)
      then secondsPerMonth else (if u - st.lastMintUnix ≤ 0 then 1 else u - st.lastMintUnix)).toNat =
        countedSeconds st.lastMintUnix u := by
    unfold countedSeconds secondsPerMonth
    congr 1
    split <;> split <;> omega
  have hcounted : countedSeconds st.lastMintUnix u ≤ 2592000 := by
    unfold countedSeconds secondsPerMonth
    omega
  have hword : st.yearlyBudget params * countedSeconds st.lastMintUnix u < 2 ^ 64 :=
    (Nat.mul_le_mul (yearlyBudget_le st params) hcounted).trans_lt (by norm_num)
  unfold AnnualEmissionState.blockMint
  simp only [hseconds]
  change wrap64 (st.yearlyBudget params * _) / _ = _
  rw [wrap64_of_lt hword]

theorem mintedBy_beginBlock (hst : s.annualEmission = some st) :
    mintedBy env s (.beginBlock ctx) =
      (s.currentEmission st ctx.blockTime).blockMint s.getParams ctx.blockTime := by
  have hpool : (next env s (.beginBlock ctx)).bank.pool = s.bank.pool +
      (s.currentEmission st ctx.blockTime).blockMint s.getParams ctx.blockTime := by
    rw [KeeperState.next_beginBlock env ctx hst]
    rfl
  rw [mintedBy, hpool, Nat.add_sub_cancel_left]

theorem currentEmission_lastMintUnix (s : KeeperState) (st : AnnualEmissionState) (u : ℤ) :
    (s.currentEmission st u).lastMintUnix = st.lastMintUnix := by
  unfold KeeperState.currentEmission AnnualEmissionState.observeWeight
    AnnualEmissionState.advanceMonth AnnualEmissionState.advanceYear
  simp only
  split <;> split <;> split <;> rfl

/-- The last minting was at `t`. -/
def MintedAt (t : ℤ) (s : KeeperState) : Prop :=
  ∃ st, s.annualEmission = some st ∧ st.lastMintUnix = t

theorem mintedAt_deliver (h : MintedAt t s) (ctx : Ctx) (msg : Msg) :
    MintedAt t (next env s (.deliver ctx msg)) := by
  obtain ⟨st, hst, hmint⟩ := h
  exact ⟨st, (KeeperState.next_deliver_annualEmission env s ctx msg).trans hst, hmint⟩

theorem mintedAt_beginBlock (h : MintedAt t s) (ctx : Ctx) :
    MintedAt ctx.blockTime (next env s (.beginBlock ctx)) := by
  obtain ⟨st, hst, _⟩ := h
  rw [KeeperState.next_beginBlock env ctx hst]
  exact ⟨_, rfl, rfl⟩

/-- A block mints its budget in proportion to the seconds it counts for. -/
theorem mintedBy_eq (h : MintedAt t s) (ctx : Ctx) :
    ∃ budget, yearlyBudgetOf s (.beginBlock ctx) = some budget ∧
      mintedBy env s (.beginBlock ctx) =
        budget * countedSeconds t ctx.blockTime / secondsPerYear.toNat := by
  obtain ⟨st, hst, hmint⟩ := h
  refine ⟨(s.currentEmission st ctx.blockTime).yearlyBudget s.getParams, ?_, ?_⟩
  · rw [yearlyBudgetOf, hst]
    rfl
  · rw [mintedBy_beginBlock hst, blockMint_eq, currentEmission_lastMintUnix, hmint]

end Block

/-! ## A run -/

section Run

variable {env : Env} {s : KeeperState} {t : ℤ}

/-- With every budget at most `budget`, a run mints at most `budget` a year for the time it spans,
a second added for each block that did not advance the clock. -/
theorem minted_mul_le {budget : ℕ} (h : MintedAt t s) {inputs : List Input}
    (hordered : (t :: blockTimes inputs).IsChain (· ≤ ·))
    (hbudget : ∀ b ∈ yearlyBudgets env s inputs, b ≤ budget) :
    (minted env s inputs : ℤ) * secondsPerYear ≤
      budget * (lastBlockTime t inputs - t + stalledBlocks t (blockTimes inputs)) := by
  induction inputs generalizing s t with
  | nil => simp [minted, lastBlockTime, stalledBlocks, blockTimes]
  | cons input inputs ih =>
      cases input with
      | deliver ctx msg =>
          have hrest := ih (mintedAt_deliver h ctx msg) hordered hbudget
          have hnone : minted env s (.deliver ctx msg :: inputs) =
              minted env (next env s (.deliver ctx msg)) inputs := Nat.zero_add _
          rw [hnone]
          exact hrest
      | beginBlock ctx =>
          obtain ⟨hle, hchain⟩ := List.isChain_cons_cons.mp hordered
          obtain ⟨b, hb, hminted⟩ := @mintedBy_eq env s t h ctx
          have hbudgets : yearlyBudgets env s (.beginBlock ctx :: inputs) =
              b :: yearlyBudgets env (next env s (.beginBlock ctx)) inputs := by
            rw [yearlyBudgets, trail_cons, hb]
            rfl
          rw [hbudgets] at hbudget
          have hb' : b ≤ budget := hbudget b List.mem_cons_self
          have hrest := ih (mintedAt_beginBlock h ctx) hchain
            (fun b' hmem => hbudget b' (List.mem_cons_of_mem b hmem))
          -- the share of this block, before the quotient is rounded down
          have hshare : (mintedBy env s (.beginBlock ctx) : ℤ) * secondsPerYear ≤
              budget * (ctx.blockTime - t + if ctx.blockTime ≤ t then 1 else 0) := by
            have hfloor : mintedBy env s (.beginBlock ctx) * secondsPerYear.toNat ≤
                budget * countedSeconds t ctx.blockTime := by
              rw [hminted]
              exact (Nat.div_mul_le_self _ _).trans (Nat.mul_le_mul_right _ hb')
            have hseconds := countedSeconds_le hle
            calc (mintedBy env s (.beginBlock ctx) : ℤ) * secondsPerYear
                = ((mintedBy env s (.beginBlock ctx) * secondsPerYear.toNat : ℕ) : ℤ) := by
                  rw [Nat.cast_mul, secondsPerYear_toNat]
              _ ≤ ((budget * countedSeconds t ctx.blockTime : ℕ) : ℤ) := Int.ofNat_le.mpr hfloor
              _ = budget * (countedSeconds t ctx.blockTime : ℤ) := Nat.cast_mul _ _
              _ ≤ budget * (ctx.blockTime - t + if ctx.blockTime ≤ t then 1 else 0) :=
                  mul_le_mul_of_nonneg_left hseconds (Int.natCast_nonneg budget)
          have hsum : minted env s (.beginBlock ctx :: inputs) =
              mintedBy env s (.beginBlock ctx) +
                minted env (next env s (.beginBlock ctx)) inputs := rfl
          have hstalls : stalledBlocks t (blockTimes (.beginBlock ctx :: inputs)) =
              (if ctx.blockTime ≤ t then 1 else 0) +
                stalledBlocks ctx.blockTime (blockTimes inputs) := rfl
          have hlast : lastBlockTime t (.beginBlock ctx :: inputs) =
              lastBlockTime ctx.blockTime inputs := rfl
          rw [hsum, hstalls, hlast]
          push_cast
          linarith

/-- Where every block advances the clock, a run over at most a month mints no more than a single
block at its end would whose budget is no smaller. -/
theorem minted_split_le (h : MintedAt t s) {inputs : List Input} {ctx : Ctx}
    (hordered : (t :: blockTimes (inputs ++ [.beginBlock ctx])).IsChain (· < ·))
    (hspan : ctx.blockTime - t ≤ secondsPerMonth)
    (hbudget : ∀ b ∈ yearlyBudgets env s (inputs ++ [.beginBlock ctx]),
      ∀ whole ∈ yearlyBudgetOf s (.beginBlock ctx), b ≤ whole) :
    minted env s (inputs ++ [.beginBlock ctx]) ≤ mintedBy env s (.beginBlock ctx) := by
  obtain ⟨whole, hwhole, hminted⟩ := @mintedBy_eq env s t h ctx
  have hlast := lastBlockTime_append_beginBlock t inputs ctx
  have hle := List.IsChain.imp (fun _ _ hlt => le_of_lt hlt) hordered
  have hbound := minted_mul_le h hle (fun b hb => hbudget b hb whole hwhole)
  rw [stalledBlocks_of_increasing hordered, hlast] at hbound
  have hcounted : ctx.blockTime - t ≤ countedSeconds t ctx.blockTime := by
    unfold countedSeconds
    omega
  rw [Nat.cast_zero, add_zero] at hbound
  have hmul := hbound.trans (mul_le_mul_of_nonneg_left hcounted (Int.natCast_nonneg whole))
  have hyear : 0 < secondsPerYear.toNat := by decide
  rw [hminted]
  apply (Nat.le_div_iff_mul_le hyear).mpr
  apply Int.ofNat_le.mp
  rwa [Nat.cast_mul, Nat.cast_mul, secondsPerYear_toNat]

theorem mintedAt_run (h : MintedAt t s) (inputs : List Input) :
    MintedAt (lastBlockTime t inputs) (run (next env) s inputs) := by
  induction inputs generalizing s t with
  | nil => exact h
  | cons input inputs ih =>
      cases input with
      | deliver ctx msg => exact ih (mintedAt_deliver h ctx msg)
      | beginBlock ctx => exact ih (mintedAt_beginBlock h ctx)

end Run

/-- A run of ordered blocks from genesis mints at most the largest yearly budget for the time since
genesis, a second added for each block that did not advance the clock. Splitting a span of at most
a month into blocks that each advance the clock, none with a larger budget, mints no more. -/
theorem emission_follows_time (env : Env) (bank : Bank) (t₀ : ℤ) (inputs : List Input) (budget : ℕ)
    (hordered : (t₀ :: blockTimes inputs).IsChain (· ≤ ·))
    (hbudget : ∀ b ∈ yearlyBudgets env (defaultGenesis bank t₀) inputs, b ≤ budget) :
    (minted env (defaultGenesis bank t₀) inputs : ℤ) ≤
        budget * (lastBlockTime t₀ inputs - t₀ + stalledBlocks t₀ (blockTimes inputs)) /
          secondsPerYear ∧
      ∀ (span : List Input) (ctx : Ctx),
        (lastBlockTime t₀ inputs :: blockTimes (span ++ [.beginBlock ctx])).IsChain (· < ·) →
        ctx.blockTime - lastBlockTime t₀ inputs ≤ secondsPerMonth →
        (∀ b ∈ yearlyBudgets env (run (next env) (defaultGenesis bank t₀) inputs)
            (span ++ [.beginBlock ctx]),
          ∀ whole ∈ yearlyBudgetOf (run (next env) (defaultGenesis bank t₀) inputs)
            (.beginBlock ctx), b ≤ whole) →
        minted env (run (next env) (defaultGenesis bank t₀) inputs) (span ++ [.beginBlock ctx]) ≤
          mintedBy env (run (next env) (defaultGenesis bank t₀) inputs) (.beginBlock ctx) := by
  have hgenesis : MintedAt t₀ (defaultGenesis bank t₀) := ⟨_, rfl, rfl⟩
  refine ⟨?_, ?_⟩
  · exact (Int.le_ediv_iff_mul_le secondsPerYear_pos).mpr
      (minted_mul_le hgenesis hordered hbudget)
  · intro span ctx hadvances hmonth hsmaller
    exact minted_split_le (mintedAt_run hgenesis inputs) hadvances hmonth hsmaller

open Sample in
/-- A block at genesis time, and two more in the ten seconds after it. -/
theorem emission_follows_time_ten_seconds :
    (minted env genesis [block 0] : ℤ) ≤ 200000000 * (0 - 0 + 1) / secondsPerYear ∧
      minted env (run (next env) genesis [block 0]) ([block 5] ++ [block 10]) ≤
        mintedBy env (run (next env) genesis [block 0]) (block 10) := by
  obtain ⟨hbound, hsplit⟩ :=
    emission_follows_time env bank 0 [block 0] 200000000 (by decide) (by decide)
  refine ⟨hbound, ?_⟩
  exact hsplit [block 5] { ctx 1 with blockTime := 10 } (by decide) (by decide) (by decide)

open Sample in
/-- A block at genesis time mints although no time has passed, and a gap of two months pays one
month in one block and two in two. -/
theorem emission_outruns_time :
    (¬ ∀ (env : Env) (bank : Bank) (t₀ : ℤ) (inputs : List Input) (budget : ℕ),
      (t₀ :: blockTimes inputs).IsChain (· ≤ ·) →
      (∀ b ∈ yearlyBudgets env (defaultGenesis bank t₀) inputs, b ≤ budget) →
      (minted env (defaultGenesis bank t₀) inputs : ℤ) ≤
        budget * (lastBlockTime t₀ inputs - t₀) / secondsPerYear) ∧
    ¬ ∀ (env : Env) (bank : Bank) (t₀ : ℤ) (span : List Input) (ctx : Ctx),
      (t₀ :: blockTimes (span ++ [.beginBlock ctx])).IsChain (· ≤ ·) →
      minted env (defaultGenesis bank t₀) (span ++ [.beginBlock ctx]) ≤
        minted env (defaultGenesis bank t₀) [.beginBlock ctx] := by
  refine ⟨?_, ?_⟩
  · intro hbound
    have hmint := hbound env bank 0 [block 0] 200000000 (by decide) (by decide)
    exact absurd hmint (by decide)
  · intro hsplit
    have hmint := hsplit env bank 0 [block 2592000] { ctx 1 with blockTime := 5184000 } (by decide)
    exact absurd hmint (by decide)

end PoleProtocol.Chain
