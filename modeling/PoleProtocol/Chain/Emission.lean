import PoleProtocol.Chain.Keeper

/-!
# Issuance

The reference emission curve and the begin-block step that mints along it. Big-integer quotients
are exact and are reduced to 64 bits where the source reads them back.
-/

namespace PoleProtocol.Chain

open Framework

def rewardAdjustScale : ℕ := 1000000000000
def basisPointsDivisor : ℕ := 10000
def initialEmissionRateBps : ℕ := 2000
def tailStartYear : ℕ := 4
def tailEmissionRateBps : ℕ := 200
def secondsPerMonth : ℤ := 30 * 24 * 3600
def periodsPerYear : ℤ := 12
def secondsPerYear : ℤ := secondsPerMonth * periodsPerYear
def annualEmissionCapBps : ℕ := 1000

def mulDiv (a b divisor : ℕ) : ℕ := wrap64 (a * b / divisor)

/-- Scale a base reward by the square root of target over previous weight, inside the cap. -/
def adjustedHourlyReward (baseHourlyReward targetNetworkWeight previousNetworkWeight
    rewardAdjustmentCapBps : ℕ) : ℕ :=
  if baseHourlyReward = 0 then 0
  else if targetNetworkWeight = 0 ∨ previousNetworkWeight = 0 then baseHourlyReward
  else
    let capBps := min rewardAdjustmentCapBps basisPointsDivisor
    let lowerBound := mulDiv baseHourlyReward (basisPointsDivisor - capBps) basisPointsDivisor
    let upperBound := mulDiv baseHourlyReward (basisPointsDivisor + capBps) basisPointsDivisor
    let scaledRatio := targetNetworkWeight * rewardAdjustScale / previousNetworkWeight
    let adjusted := wrap64 (baseHourlyReward * scaledRatio.sqrt / 1000000)
    let clamped := min (max adjusted lowerBound) upperBound
    if clamped = 0 then 1 else clamped

/-- Halve a rate `periods` times, stopping once it reaches zero. -/
def halveRate : (periods rate : ℕ) → ℕ
  | 0, rate => rate
  | _ + 1, 0 => 0
  | periods + 1, rate => halveRate periods (rate / 2)

/-- The year is a 32-bit word, so year zero looks back from the largest one. -/
def annualEmissionRateBps (year : ℕ) : ℕ :=
  if tailStartYear ≤ year then tailEmissionRateBps
  else halveRate (wrap32 (year + (2 ^ 32 - 1)) / 2) initialEmissionRateBps

def annualEmissionAmount (year : ℕ) : ℕ :=
  mulDiv totalSupplyAmount (annualEmissionRateBps year) basisPointsDivisor

def annualAdjustedEmission (year targetWeight currentWeight capBps : ℕ) : ℕ :=
  adjustedHourlyReward (annualEmissionAmount year) targetWeight currentWeight capBps

namespace KeeperState

/-- The weight of the latest finalized epoch, zero when there is none. -/
def latestFinalizedEpochWeight (s : KeeperState) : ℕ :=
  let commits := s.epochCommits.toList.map (·.2)
  (commits.foldl
    (fun best commit =>
      if commit.finalized ∧ best.1 ≤ commit.epochId then
        (commit.epochId, commit.totalNetworkWeightUnits)
      else best) ((0, 0) : ℕ × ℕ)).2

end KeeperState

def defaultAnnualEmissionState (genesisUnix : ℤ) : AnnualEmissionState where
  yearIndex := 1
  yearStartUnix := genesisUnix
  monthStartUnix := genesisUnix
  lastMintUnix := genesisUnix
  mintedThisMonth := 0
  prevEpochWeight := 0

namespace AnnualEmissionState

/-- Advance the protocol year by the whole years elapsed. -/
def advanceYear (st : AnnualEmissionState) (blockUnix : ℤ) : AnnualEmissionState :=
  let yearsElapsed := (blockUnix - st.yearStartUnix).tdiv secondsPerYear
  if 0 < yearsElapsed then
    let yearStartUnix := st.yearStartUnix + yearsElapsed * secondsPerYear
    { st with
      yearIndex := wrap64 (st.yearIndex + yearsElapsed.toNat)
      yearStartUnix
      monthStartUnix := yearStartUnix
      mintedThisMonth := 0 }
  else st

/-- Advance the observation month by the whole months elapsed. -/
def advanceMonth (st : AnnualEmissionState) (blockUnix : ℤ) : AnnualEmissionState :=
  let monthsElapsed := (blockUnix - st.monthStartUnix).tdiv secondsPerMonth
  if 0 < monthsElapsed then
    { st with
      monthStartUnix := st.monthStartUnix + monthsElapsed * secondsPerMonth
      mintedThisMonth := 0 }
  else st

/-- Take over the activity signal unless there is none. -/
def observeWeight (st : AnnualEmissionState) (latestWeight : ℕ) : AnnualEmissionState :=
  if 0 < latestWeight then { st with prevEpochWeight := latestWeight } else st

/-- The quantity one block mints: the yearly budget in proportion to the elapsed time, which
counts as at least one second and at most one month. -/
def blockMint (st : AnnualEmissionState) (params : Params) (blockUnix : ℤ) : ℕ :=
  let yearlyBudget := annualAdjustedEmission (wrap32 st.yearIndex)
    params.targetNetworkWeightUnits st.prevEpochWeight annualEmissionCapBps
  let elapsed := blockUnix - st.lastMintUnix
  let elapsed := if elapsed ≤ 0 then 1 else elapsed
  let elapsed := if secondsPerMonth < elapsed then secondsPerMonth else elapsed
  wrap64 (yearlyBudget * elapsed.toNat) / secondsPerYear.toNat

end AnnualEmissionState

namespace KeeperState

/-- Mint the reference rate of the elapsed block time into the module account. -/
def beginBlockAnnualEmission (ctx : Ctx) (s : KeeperState) : Except ChainError KeeperState := do
  let st ← require s.annualEmission (.missingKey "annual_emission")
  let st := ((st.advanceYear ctx.blockTime).advanceMonth ctx.blockTime).observeWeight
    s.latestFinalizedEpochWeight
  let mint := st.blockMint s.getParams ctx.blockTime
  let st := { st with
    mintedThisMonth := wrap64 (st.mintedThisMonth + mint)
    lastMintUnix := ctx.blockTime }
  return { s with bank := s.bank.mintCoins mint, annualEmission := some st }

end KeeperState

end PoleProtocol.Chain
